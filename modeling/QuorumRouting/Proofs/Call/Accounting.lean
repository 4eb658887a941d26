import QuorumRouting.Proofs.Call.Slots

/-!
Accounting for the outcomes of many calls. Each outcome is recorded once, as that of a test request
or as that of an ordinary call, and reported once with what it was recorded as. Outcomes are counted
up or marked, never weighed against each other, so the records that they leave do not depend on the
order in which they came in.
-/

set_option autoImplicit false

namespace QuorumRouting

variable {Client : Type}

/-! ### Single outcomes -/

namespace Recorded

def successes : Recorded → UInt32
  | .success => 1
  | _ => 0

def failures : Recorded → UInt32
  | .failure => 1
  | _ => 0

end Recorded

namespace HealthRegistry

end HealthRegistry

/-! ### Many outcomes -/

/-- Outcomes of members in the order of time, the registry before and after them, and the reports on
them. The outcome of a test request is recorded as one, and any other as that of an ordinary
call. -/
inductive Accounting (context : CallContext) :
    List (Member Client × Option CallError) → HealthRegistry → HealthRegistry → List Report →
      Prop where
  | nothing (health : HealthRegistry) : Accounting context [] health health []
  | ordinary {entries : List (Member Client × Option CallError)} {before after : HealthRegistry}
      {reports : List Report} (handle : Handle Client) (error : Option CallError)
      (later : Accounting context entries (before.record handle.id error).1 after reports) :
      Accounting context (({ handle := handle, testRequest := false }, error) :: entries) before
        after
        ({ node := handle.id, testRequest := false, error := error,
           recorded := (before.record handle.id error).2, trace := context.trace } :: reports)
  | test {entries : List (Member Client × Option CallError)} {before after : HealthRegistry}
      {reports : List Report} (handle : Handle Client) (error : Option CallError)
      (later : Accounting context entries (before.recordTestRequest handle.id error).1 after
        reports) :
      Accounting context (({ handle := handle, testRequest := true }, error) :: entries) before
        after
        ({ node := handle.id, testRequest := true, error := error,
           recorded := (before.recordTestRequest handle.id error).2, trace := context.trace } ::
          reports)

namespace Accounting

variable {context : CallContext} {entries others : List (Member Client × Option CallError)}
  {before after afterwards : HealthRegistry} {reports otherReports : List Report}

theorem cons (member : Member Client) (error : Option CallError)
    (later : Accounting context entries (member.account context before error).1 after reports) :
    Accounting context ((member, error) :: entries) before after
      ((member.account context before error).2 :: reports) := by
  obtain ⟨handle, testRequest⟩ := member
  cases testRequest with
  | false => exact .ordinary handle error later
  | true => exact .test handle error later

theorem eq_foldl (accounting : Accounting context entries before after reports) :
    after = entries.foldl (fun health entry =>
      (health.account entry.1.testRequest entry.1.handle.id entry.2).1) before := by
  induction accounting with
  | nothing health => rfl
  | ordinary handle error later ih => exact ih
  | test handle error later ih => exact ih

/-- Outcomes are accounted for one after another: first the earlier, then the later ones. -/
theorem split (early late : List (Member Client × Option CallError))
    (accounting : Accounting context (early ++ late) before after reports) :
    ∃ between soon rest, Accounting context early before between soon ∧
      Accounting context late between after rest ∧ soon ++ rest = reports := by
  induction early generalizing before reports with
  | nil => exact ⟨before, [], reports, .nothing before, accounting, rfl⟩
  | cons entry entries ih =>
      cases accounting with
      | ordinary handle error later =>
          obtain ⟨between, soon, rest, sooner, afterwards, same⟩ := ih later
          exact ⟨between, _, rest, .ordinary handle error sooner, afterwards,
            congrArg (List.cons _) same⟩
      | test handle error later =>
          obtain ⟨between, soon, rest, sooner, afterwards, same⟩ := ih later
          exact ⟨between, _, rest, .test handle error sooner, afterwards,
            congrArg (List.cons _) same⟩

/-- Outcomes of calls to other nodes leave the record of a node as it was. -/
theorem find?_of_absent (accounting : Accounting context entries before after reports)
    {id : NodeId} (absent : ∀ entry, entry ∈ entries → entry.1.handle.id ≠ id) :
    after.find? id = before.find? id := by
  rw [accounting.eq_foldl]
  clear accounting
  induction entries generalizing before with
  | nil => rfl
  | cons entry rest ih =>
      obtain ⟨other, others⟩ := List.forall_mem_cons.mp absent
      rw [List.foldl_cons, ih others]
      exact (before.find?_account _ _ id _).trans (if_neg (Ne.symm other))

end Accounting

namespace Concurrent

variable {Value : Type}

def Completion.entry (completion : Completion Client Value) : Member Client × Option CallError :=
  (completion.member, taskError? completion.ending)

theorem accounting_settle (context : CallContext) (health : HealthRegistry)
    (completions : List (Completion Client Value))
    (heard : ∀ completion, completion ∈ completions → completion.ending.Heard) :
    Accounting context (completions.map Completion.entry) health
      (settle context health completions).1 (settle context health completions).2 := by
  induction completions generalizing health with
  | nil => exact .nothing health
  | cons completion rest ih =>
      obtain ⟨ended, later⟩ := List.forall_mem_cons.mp heard
      have told : completion.ending.outcome? = some (taskError? completion.ending) := by
        cases ending : completion.ending with
        | value value => rfl
        | error cause => rfl
        | crash cause => exact absurd ending (ended cause)
      rw [settle_cons_of_outcome context health rest told]
      exact (ih _ later).cons completion.member _

end Concurrent

end QuorumRouting
