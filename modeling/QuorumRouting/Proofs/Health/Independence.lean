import Mathlib.Data.String.Basic
import QuorumRouting.Proofs.Health.Chronicle
import QuorumRouting.Proofs.Health.Tracking

/-!
The records of a registry have nothing to do with one another. What was done to a registry is, for
each node, a life of its own: it begins when the node is tracked anew, takes in what is addressed to
the node and every evaluation, and ends when the node is not retained. At every point of a run a
registry holds for each node the record that stands alone with the node's life, and an evaluation
gives the changes of state that these records give, in the order of their ids. The order in which
the registry keeps its records can change at any time and makes no difference.
-/

set_option autoImplicit false

namespace QuorumRouting

namespace HealthRecord

def after (record : HealthRecord) (operations : List Operation) : HealthRecord :=
  operations.foldl (fun record operation => (record.perform operation).1) record

theorem after_append (record : HealthRecord) (operations later : List Operation) :
    record.after (operations ++ later) = (record.after operations).after later :=
  List.foldl_append

end HealthRecord

namespace HealthRegistry

inductive Operation where
  | track (created : Instant) (id : NodeId)
  | retain (ids : List NodeId)
  | record (id : NodeId) (error : Option CallError)
  | recordTestRequest (id : NodeId) (error : Option CallError)
  | claimProbe (id : NodeId) (now : Instant)
  | evaluateAll (now : Instant)

inductive Answer where
  | done
  | recorded (recorded : Recorded)
  | granted (granted : Option Bool)
  | transitions (transitions : List (NodeId × Transition))

def perform (registry : HealthRegistry) :
    Operation → HealthRegistry × Except Overflow Answer
  | .track created id => (registry.track created id, .ok .done)
  | .retain ids => (registry.retain ids, .ok .done)
  | .record id error =>
      let (recorded, outcome) := registry.record id error
      (recorded, .ok (.recorded outcome))
  | .recordTestRequest id error =>
      let (recorded, outcome) := registry.recordTestRequest id error
      (recorded, .ok (.recorded outcome))
  | .claimProbe id now =>
      let (claimed, granted) := registry.claimProbe id now
      (claimed, granted.map .granted)
  | .evaluateAll now =>
      let (evaluated, transitions) := registry.evaluateAll now
      (evaluated, transitions.map .transitions)

/-- The runs from a first registry, with their operations and answers in the order of time. Between
the operations the records can come into any other order. -/
inductive Run (first : HealthRegistry) : List (Operation × Answer) → HealthRegistry → Prop where
  | start : Run first [] first
  | reorder {events : List (Operation × Answer)} {registry : HealthRegistry}
      (run : Run first events registry) (entries : List (NodeId × HealthRecord))
      (order : registry.entries.Perm entries) :
      Run first events { registry with entries := entries }
  | step {events : List (Operation × Answer)} {registry : HealthRegistry}
      (run : Run first events registry) (operation : Operation) (answer : Answer)
      (performed : (registry.perform operation).2 = .ok answer) :
      Run first (events ++ [(operation, answer)]) (registry.perform operation).1

/-! ### Lives -/

structure Life where
  created : Instant
  operations : List HealthRecord.Operation

def Life.extend (life : Life) (operations : List HealthRecord.Operation) : Life :=
  { life with operations := life.operations ++ operations }

def Life.record (policy : HealthPolicy) (life : Life) : HealthRecord :=
  (HealthRecord.fresh policy.probeInterval life.created).after life.operations

/-- What an outcome means to its node: an error that the filter ignores means nothing. -/
def meaning (policy : HealthPolicy) (testRequest : Bool) :
    Option CallError → List HealthRecord.Operation
  | none => [if testRequest then .testSuccess else .success]
  | some error => if policy.filter.ignores error then [] else [.failure]

def addressed (policy : HealthPolicy) (id : NodeId) : Operation → List HealthRecord.Operation
  | .record other error => if id = other then meaning policy false error else []
  | .recordTestRequest other error => if id = other then meaning policy true error else []
  | .claimProbe other now => if id = other then [.claimProbe now] else []
  | .evaluateAll now => [.evaluate policy now]
  | _ => []

def live (policy : HealthPolicy) (id : NodeId) (life : Option Life) : Operation → Option Life
  | .track created other =>
      if id = other then some (life.getD { created := created, operations := [] }) else life
  | .retain ids => if id ∈ ids then life else none
  | operation => life.map (fun life => life.extend (addressed policy id operation))

def life? (policy : HealthPolicy) (operations : List Operation) (id : NodeId) : Option Life :=
  operations.foldl (live policy id) none

theorem life?_append (policy : HealthPolicy) (operations : List Operation) (operation : Operation)
    (id : NodeId) :
    life? policy (operations ++ [operation]) id =
      live policy id (life? policy operations id) operation := by
  unfold life?
  rw [List.foldl_append, List.foldl_cons, List.foldl_nil]

theorem Life.record_extend (policy : HealthPolicy) (life : Life)
    (operations : List HealthRecord.Operation) :
    (life.extend operations).record policy = (life.record policy).after operations :=
  HealthRecord.after_append _ _ _

theorem effect_eq_after (registry : HealthRegistry) (testRequest : Bool)
    (error : Option CallError) (record : HealthRecord) :
    effect testRequest (registry.classify error) record =
      record.after (meaning registry.policy testRequest error) := by
  unfold classify meaning
  cases error with
  | none => cases testRequest <;> rfl
  | some error =>
      dsimp only
      split
      · rfl
      · rfl

/-! ### Records and lives -/

theorem find?_eq_some_iff {registry : HealthRegistry} (distinct : registry.ids.Nodup) (id : NodeId)
    (record : HealthRecord) :
    registry.find? id = some record ↔ (id, record) ∈ registry.entries :=
  ⟨registry.mem_entries_of_find? id record, registry.find?_of_mem_entries distinct⟩

theorem find?_of_perm {registry : HealthRegistry} (distinct : registry.ids.Nodup)
    {entries : List (NodeId × HealthRecord)} (order : registry.entries.Perm entries) (id : NodeId) :
    ({ registry with entries := entries } : HealthRegistry).find? id = registry.find? id := by
  have others : ({ registry with entries := entries } : HealthRegistry).ids.Nodup :=
    (order.map Prod.fst).nodup_iff.mp distinct
  apply Option.ext
  intro record
  rw [find?_eq_some_iff others, find?_eq_some_iff distinct, order.mem_iff]

/-- Every record of the registry is the one that stands alone with the life of its node. -/
structure Embodies (registry : HealthRegistry) (policy : HealthPolicy)
    (lives : NodeId → Option Life) : Prop where
  policy_eq : registry.policy = policy
  distinct : registry.ids.Nodup
  find?_eq : ∀ id, registry.find? id = (lives id).map (Life.record policy)

theorem embodies_empty (policy : HealthPolicy) : (empty policy).Embodies policy (life? policy []) :=
  ⟨rfl, List.nodup_nil, fun _ => rfl⟩

section

variable {registry : HealthRegistry} {policy : HealthPolicy} {lives : NodeId → Option Life}

theorem Embodies.reorder (embodies : registry.Embodies policy lives)
    {entries : List (NodeId × HealthRecord)} (order : registry.entries.Perm entries) :
    ({ registry with entries := entries } : HealthRegistry).Embodies policy lives :=
  { policy_eq := embodies.policy_eq
    distinct := (order.map Prod.fst).nodup_iff.mp embodies.distinct
    find?_eq := fun id => (find?_of_perm embodies.distinct order id).trans (embodies.find?_eq id) }

theorem Embodies.account (embodies : registry.Embodies policy lives) (testRequest : Bool)
    (other : NodeId) (error : Option CallError) :
    (registry.account testRequest other error).1.Embodies policy (fun id =>
      (lives id).map (fun life =>
        life.extend (if id = other then meaning policy testRequest error else []))) := by
  refine ⟨embodies.policy_eq, ?_, ?_⟩
  · exact (registry.ids_modify other _).symm ▸ embodies.distinct
  · intro id
    rw [find?_account, embodies.find?_eq, Option.map_map, Option.map_map]
    by_cases same : id = other
    · rw [if_pos same]
      congr 1
      funext life
      simp only [Function.comp, if_pos same, Life.record_extend, effect_eq_after,
        embodies.policy_eq]
    · rw [if_neg same]
      congr 1
      funext life
      simp only [Function.comp, if_neg same, Life.record_extend]
      rfl

theorem Embodies.track (embodies : registry.Embodies policy lives) (created : Instant)
    (other : NodeId) :
    (registry.track created other).Embodies policy
      (fun id => live policy id (lives id) (.track created other)) := by
  refine ⟨(registry.policy_track created other).trans embodies.policy_eq, ?_, ?_⟩
  · exact nodup_ids_trackAll registry created [other] embodies.distinct
  · intro id
    rw [find?_track, embodies.find?_eq, embodies.policy_eq]
    dsimp only [live]
    by_cases same : id = other
    · rw [if_pos same, if_pos same]
      cases lives id with
      | none => rfl
      | some life => rfl
    · rw [if_neg same, if_neg same, Option.or_none]

theorem Embodies.retain (embodies : registry.Embodies policy lives) (ids : List NodeId) :
    (registry.retain ids).Embodies policy
      (fun id => live policy id (lives id) (.retain ids)) := by
  refine ⟨embodies.policy_eq, registry.nodup_ids_retain ids embodies.distinct, ?_⟩
  intro id
  rw [find?_retain, embodies.find?_eq]
  dsimp only [live]
  split
  · rfl
  · rfl

theorem Embodies.claimProbe (embodies : registry.Embodies policy lives) (other : NodeId)
    (now : Instant) :
    (registry.claimProbe other now).1.Embodies policy
      (fun id => live policy id (lives id) (.claimProbe other now)) := by
  refine ⟨(registry.policy_claimProbe other now).trans embodies.policy_eq, ?_, ?_⟩
  · exact (registry.ids_claimProbe other now).symm ▸ embodies.distinct
  · intro id
    rw [find?_claimProbe, embodies.find?_eq]
    dsimp only [live, addressed]
    by_cases same : id = other
    · rw [if_pos same, if_pos same, Option.map_map, Option.map_map]
      congr 1
      funext life
      exact (life.record_extend policy [.claimProbe now]).symm
    · rw [if_neg same, if_neg same, Option.map_map]
      congr 1
      funext life
      exact (life.record_extend policy []).symm

theorem Embodies.evaluateAll (embodies : registry.Embodies policy lives) (now : Instant)
    {transitions : List (NodeId × Transition)}
    (evaluated : (registry.evaluateAll now).2 = .ok transitions) :
    (registry.evaluateAll now).1.Embodies policy
      (fun id => live policy id (lives id) (.evaluateAll now)) := by
  refine ⟨embodies.policy_eq, (ids_evaluateAll _ _).symm ▸ embodies.distinct, ?_⟩
  intro id
  rw [find?_evaluateAll evaluated, embodies.find?_eq, embodies.policy_eq]
  dsimp only [live, addressed]
  rw [Option.map_map, Option.map_map]
  congr 1
  funext life
  exact (life.record_extend policy [.evaluate policy now]).symm

theorem Embodies.perform (embodies : registry.Embodies policy lives) {operation : Operation}
    {answer : Answer} (performed : (registry.perform operation).2 = .ok answer) :
    (registry.perform operation).1.Embodies policy
      (fun id => live policy id (lives id) operation) := by
  cases operation with
  | track created id => exact embodies.track created id
  | retain ids => exact embodies.retain ids
  | record id error => exact embodies.account false id error
  | recordTestRequest id error => exact embodies.account true id error
  | claimProbe id now => exact embodies.claimProbe id now
  | evaluateAll now =>
      change (registry.evaluateAll now).2.map Answer.transitions = .ok answer at performed
      cases evaluated : (registry.evaluateAll now).2 with
      | error overflow => rw [evaluated] at performed; cases performed
      | ok transitions => exact embodies.evaluateAll now evaluated

end

theorem embodies_of_run {policy : HealthPolicy} {events : List (Operation × Answer)}
    {registry : HealthRegistry} (run : Run (empty policy) events registry) :
    registry.Embodies policy (life? policy (events.map Prod.fst)) := by
  induction run with
  | start => exact embodies_empty policy
  | reorder run entries order ih => exact ih.reorder order
  | step run operation answer performed ih =>
      have stepped := ih.perform performed
      simp only [← life?_append] at stepped
      rw [List.map_append]
      exact stepped

/-! ### Evaluations -/

section

variable {registry : HealthRegistry} {policy : HealthPolicy} {lives : NodeId → Option Life}
  {now : Instant} {transitions : List (NodeId × Transition)}

/-- An evaluation breaks down when that of one of the records does, and only then. -/
theorem evaluateAll_ok_iff (distinct : registry.ids.Nodup) (now : Instant) :
    (∃ transitions, (registry.evaluateAll now).2 = .ok transitions) ↔
      ∀ id record, registry.find? id = some record →
        ∃ verdict, (record.evaluate registry.policy now).2 = .ok verdict := by
  constructor
  · rintro ⟨transitions, evaluated⟩ id record found
    obtain ⟨changes, entries, -⟩ := evaluateAll_ok evaluated
    obtain ⟨verdict, closed, -⟩ := (evaluateEntries_ok _ now _ changes entries).2 (id, record)
      (registry.mem_entries_of_find? id record found)
    exact ⟨verdict, closed⟩
  · intro answered
    cases evaluated : (registry.evaluateAll now).2 with
    | ok transitions => exact ⟨transitions, rfl⟩
    | error overflow =>
        change (evaluateEntries registry.policy now registry.entries).2.map inIdOrder = _
          at evaluated
        cases entries : (evaluateEntries registry.policy now registry.entries).2 with
        | ok changes => rw [entries] at evaluated; cases evaluated
        | error cause =>
            obtain ⟨entry, member, failed⟩ :=
              exists_of_evaluateEntries_error _ now _ cause entries
            obtain ⟨verdict, closed⟩ :=
              answered entry.1 entry.2 (registry.find?_of_mem_entries distinct member)
            rw [failed] at closed
            cases closed

theorem transitions_increasing (distinct : registry.ids.Nodup)
    (evaluated : (registry.evaluateAll now).2 = .ok transitions) :
    transitions.Pairwise (fun first second => first.1 < second.1) := by
  have different := List.pairwise_map.mp (nodup_ids_transitions distinct evaluated)
  obtain ⟨changes, -, sorted⟩ := evaluateAll_ok evaluated
  have ordered : transitions.Pairwise
      (fun first second => (!decide (second.1 < first.1)) = true) := by
    rw [← sorted]
    apply List.pairwise_mergeSort
    · intro first second third before after
      simp only [Bool.not_eq_true', decide_eq_false_iff_not, not_lt] at before after ⊢
      exact before.trans after
    · intro first second
      simp only [Bool.or_eq_true, Bool.not_eq_true', decide_eq_false_iff_not, not_lt]
      exact le_total first.1 second.1
  refine (ordered.and different).imp ?_
  intro first second both
  simp only [Bool.not_eq_true', decide_eq_false_iff_not, not_lt] at both
  exact lt_of_le_of_ne both.1 both.2

/-- Lists in strict order of ids are equal when they have the same members. -/
theorem transitions_unique {others : List (NodeId × Transition)}
    (increasing : transitions.Pairwise (fun first second => first.1 < second.1))
    (othersIncreasing : others.Pairwise (fun first second => first.1 < second.1))
    (same : ∀ id transition, (id, transition) ∈ transitions ↔ (id, transition) ∈ others) :
    transitions = others := by
  have distinct {changes : List (NodeId × Transition)}
      (ordered : changes.Pairwise (fun first second => first.1 < second.1)) : changes.Nodup := by
    apply ordered.imp
    rintro first second before rfl
    exact lt_irrefl _ before
  have perm : transitions.Perm others :=
    (List.perm_ext_iff_of_nodup (distinct increasing) (distinct othersIncreasing)).mpr
      (fun change => same change.1 change.2)
  refine List.Perm.eq_of_pairwise ?_ increasing othersIncreasing perm
  intro first second _ _ before after
  exact absurd after before.asymm

/-- What an evaluation gives follows from the lives of the nodes. -/
theorem Embodies.reported (embodies : registry.Embodies policy lives)
    (evaluated : (registry.evaluateAll now).2 = .ok transitions) :
    transitions.Pairwise (fun first second => first.1 < second.1) ∧
      ∀ id transition, (id, transition) ∈ transitions ↔ ∃ life, lives id = some life ∧
        ((life.record policy).evaluate policy now).2 = .ok (some transition) := by
  refine ⟨transitions_increasing embodies.distinct evaluated, ?_⟩
  intro id transition
  rw [mem_transitions_iff embodies.distinct evaluated, embodies.find?_eq, embodies.policy_eq]
  simp only [Option.map_eq_some_iff]
  constructor
  · rintro ⟨record, ⟨life, lived, rfl⟩, judged⟩
    exact ⟨life, lived, judged⟩
  · rintro ⟨life, lived, judged⟩
    exact ⟨_, ⟨life, lived, rfl⟩, judged⟩

theorem Embodies.evaluateAll_ok_iff (embodies : registry.Embodies policy lives) (now : Instant) :
    (∃ transitions, (registry.evaluateAll now).2 = .ok transitions) ↔
      ∀ id life, lives id = some life →
        ∃ verdict, ((life.record policy).evaluate policy now).2 = .ok verdict := by
  rw [HealthRegistry.evaluateAll_ok_iff embodies.distinct, embodies.policy_eq]
  simp only [embodies.find?_eq, Option.map_eq_some_iff]
  constructor
  · intro answered id life lived
    exact answered id _ ⟨life, lived, rfl⟩
  · rintro answered id _ ⟨life, lived, rfl⟩
    exact answered id life lived

end

/-- At every point of a run the record of a node is the one that stands alone with the node's life.
An evaluation breaks down exactly when the evaluation of such a record does, and otherwise gives
their changes of state in strict order of ids, in whatever order the records are kept. -/
theorem records_independent_of_run {policy : HealthPolicy} {events : List (Operation × Answer)}
    {registry : HealthRegistry} (run : Run (empty policy) events registry) :
    let lives := life? policy (events.map Prod.fst)
    (∀ id, registry.find? id = (lives id).map (Life.record policy)) ∧
      ∀ now,
        ((∃ transitions, (registry.evaluateAll now).2 = .ok transitions) ↔
          ∀ id life, lives id = some life →
            ∃ verdict, ((life.record policy).evaluate policy now).2 = .ok verdict) ∧
        ∀ transitions, (registry.evaluateAll now).2 = .ok transitions →
          transitions.Pairwise (fun first second => first.1 < second.1) ∧
          (∀ id transition, (id, transition) ∈ transitions ↔ ∃ life, lives id = some life ∧
            ((life.record policy).evaluate policy now).2 = .ok (some transition)) ∧
          ∀ entries, registry.entries.Perm entries →
            (({ registry with entries := entries } : HealthRegistry).evaluateAll now).2 =
              .ok transitions := by
  have embodies := embodies_of_run run
  refine ⟨embodies.find?_eq, ?_⟩
  intro now
  refine ⟨embodies.evaluateAll_ok_iff now, ?_⟩
  intro transitions evaluated
  obtain ⟨increasing, listed⟩ := embodies.reported evaluated
  refine ⟨increasing, listed, ?_⟩
  intro entries order
  have reordered := embodies.reorder order
  obtain ⟨others, answered⟩ := (reordered.evaluateAll_ok_iff now).mpr
    ((embodies.evaluateAll_ok_iff now).mp ⟨transitions, evaluated⟩)
  obtain ⟨othersIncreasing, othersListed⟩ := reordered.reported answered
  rw [answered, transitions_unique increasing othersIncreasing (fun id transition =>
    (listed id transition).trans (othersListed id transition).symm)]

def refusedCall : Option CallError :=
  some (.connect "refused")

def forgetting : List (Operation × Answer) :=
  [(.track 0 "b", .done), (.track 0 "a", .done), (.record "b" refusedCall, .recorded .failure),
    (.record "a" none, .recorded .success),
    (.evaluateAll 5, .transitions [("b", .excluded (Float.ofNat 1 / Float.ofNat 1))]),
    (.retain ["a"], .done), (.track 7 "b", .done), (.record "b" refusedCall, .recorded .failure),
    (.record "a" refusedCall, .recorded .failure)]

theorem run_forgetting : ∃ registry, Run (empty HealthRecord.strict) forgetting registry ∧
    ∃ transitions, (registry.evaluateAll 9).2 = .ok transitions := by
  have failed : Run (empty HealthRecord.strict) _ _ :=
    (((Run.start.step (.track 0 "b") .done rfl).step (.track 0 "a") .done rfl).step
      (.record "b" refusedCall) (.recorded .failure) rfl).step (.record "a" none)
      (.recorded .success) rfl
  have judged := failed.step (.evaluateAll 5)
    (.transitions [("b", .excluded (Float.ofNat 1 / Float.ofNat 1))])
    (congrArg (fun changes => Except.ok (Answer.transitions changes)) (List.mergeSort_singleton _))
  have again := (((judged.step (.retain ["a"]) .done rfl).step (.track 7 "b") .done rfl).step
    (.record "b" refusedCall) (.recorded .failure) rfl).step (.record "a" refusedCall)
    (.recorded .failure) rfl
  exact ⟨_, again, _, rfl⟩

theorem records_independent_when_forgotten :
    ∃ registry, Run (empty HealthRecord.strict) forgetting registry ∧
      registry.find? "b" = some ((HealthRecord.fresh 100 7).after [.failure]) ∧
      ∃ transitions, (registry.evaluateAll 9).2 = .ok transitions ∧
        (({ registry with entries := registry.entries.reverse } : HealthRegistry).evaluateAll 9).2 =
          .ok transitions ∧
        ∀ transition, ("b", transition) ∈ transitions →
          transition = .excluded (Float.ofNat 1 / Float.ofNat 1) := by
  obtain ⟨registry, run, transitions, evaluated⟩ := run_forgetting
  obtain ⟨alone, evaluations⟩ := records_independent_of_run run
  obtain ⟨-, listed, ordered⟩ := (evaluations 9).2 transitions evaluated
  refine ⟨registry, run, alone "b", transitions, evaluated,
    ordered _ registry.entries.reverse_perm.symm, ?_⟩
  intro transition reported
  obtain ⟨life, lived, judged⟩ := (listed "b" transition).mp reported
  cases Option.some.inj lived
  exact (Option.some.inj (Except.ok.inj judged)).symm

def overlong : HealthPolicy :=
  { HealthRecord.strict with probeInterval := UInt64.size - 1 }

def failures : List (Operation × Answer) :=
  [(.track 0 "a", .done), (.track 0 "b", .done), (.record "a" refusedCall, .recorded .failure),
    (.record "b" refusedCall, .recorded .failure)]

def failing : HealthRegistry :=
  { policy := overlong
    entries := [("a", (HealthRecord.fresh overlong.probeInterval 0).recordFailure),
      ("b", (HealthRecord.fresh overlong.probeInterval 0).recordFailure)] }

/-- An evaluation that breaks down leaves the window of a later record open, whichever comes first:
the next evaluation breaks down on it, although no record that stands alone would by then. -/
theorem window_left_open :
    Run (empty overlong) failures failing ∧
      ∀ registry, registry ∈ [failing, { failing with entries := failing.entries.reverse }] →
        (registry.evaluateAll (milliseconds 1)).2 = .error .sum ∧
          ((registry.evaluateAll (milliseconds 1)).1.evaluateAll (milliseconds 1)).2 = .error .sum ∧
          ∀ id, id ∈ ["a", "b"] →
            (life? overlong (failures.map Prod.fst) id).map (fun life =>
              (((life.record overlong).after [.evaluate overlong (milliseconds 1)]).evaluate
                overlong (milliseconds 1)).2) =
                some (.ok none) := by
  have run : Run (empty overlong) _ _ :=
    (((Run.start.step (.track 0 "a") .done rfl).step (.track 0 "b") .done rfl).step
      (.record "a" refusedCall) (.recorded .failure) rfl).step (.record "b" refusedCall)
      (.recorded .failure) rfl
  have alone : ∀ id, id ∈ ["a", "b"] →
      (life? overlong (failures.map Prod.fst) id).map (fun life =>
        (((life.record overlong).after [.evaluate overlong (milliseconds 1)]).evaluate
          overlong (milliseconds 1)).2) =
          some (.ok none) :=
    List.forall_mem_cons.mpr ⟨rfl, List.forall_mem_singleton.mpr rfl⟩
  exact ⟨run, List.forall_mem_cons.mpr ⟨⟨rfl, rfl, alone⟩,
    List.forall_mem_singleton.mpr ⟨rfl, rfl, alone⟩⟩⟩

end HealthRegistry

end QuorumRouting
