import Mathlib.Data.List.Nodup
import QuorumRouting.Health.Registry
import QuorumRouting.Proofs.Health.Closing

/-!
What each operation of a registry does to the record of each node. Every lemma here gives the
record found for any node after an operation from the record found for the same node before it.
-/

set_option autoImplicit false

namespace QuorumRouting.HealthRegistry

private theorem lookup_cons_self (entry : NodeId × HealthRecord)
    (rest : List (NodeId × HealthRecord)) : (entry :: rest).lookup entry.1 = some entry.2 := by
  rw [List.lookup_cons, beq_self_eq_true]

private theorem lookup_cons_of_ne (id : NodeId) (entry : NodeId × HealthRecord)
    (rest : List (NodeId × HealthRecord)) (different : id ≠ entry.1) :
    (entry :: rest).lookup id = rest.lookup id := by
  rw [List.lookup_cons, beq_false_of_ne different]

theorem isInRing_eq (registry : HealthRegistry) (id : NodeId) :
    registry.isInRing id = ((registry.find? id).map HealthRecord.inRing).getD true := by
  unfold isInRing
  cases registry.find? id with
  | none => rfl
  | some record => rfl

theorem find?_isSome_iff (registry : HealthRegistry) (id : NodeId) :
    (registry.find? id).isSome = true ↔ id ∈ registry.ids := by
  unfold find? ids
  induction registry.entries with
  | nil => simp
  | cons entry rest ih =>
      rw [List.map_cons, List.mem_cons]
      by_cases same : id = entry.1
      · subst same
        simp [lookup_cons_self]
      · rw [lookup_cons_of_ne id entry rest same, ih, or_iff_right same]

theorem find?_modify (registry : HealthRegistry) (id other : NodeId)
    (change : HealthRecord → HealthRecord) :
    (registry.modify id change).find? other =
      if other = id then (registry.find? other).map change else registry.find? other := by
  unfold find? modify
  dsimp only
  induction registry.entries with
  | nil => simp
  | cons entry rest ih =>
      rw [List.map_cons]
      by_cases same : other = entry.1
      · subst same
        rw [lookup_cons_self]
        by_cases target : entry.1 = id
        · rw [if_pos target, if_pos target]
          exact lookup_cons_self (entry.1, change entry.2) _
        · rw [if_neg target, if_neg target]
          exact lookup_cons_self entry _
      · rw [lookup_cons_of_ne other entry rest same, ← ih]
        by_cases target : entry.1 = id
        · rw [if_pos target, lookup_cons_of_ne other (entry.1, change entry.2) _ same]
        · rw [if_neg target, lookup_cons_of_ne other (entry.1, entry.2) _ same]

theorem ids_modify (registry : HealthRegistry) (id : NodeId)
    (change : HealthRecord → HealthRecord) : (registry.modify id change).ids = registry.ids := by
  unfold ids modify
  rw [List.map_map]
  apply List.map_congr_left
  intro entry _
  dsimp only [Function.comp]
  split
  · rfl
  · rfl

theorem find?_track (registry : HealthRegistry) (created : Instant) (id other : NodeId) :
    (registry.track created id).find? other = (registry.find? other).or
      (if other = id then some (HealthRecord.fresh registry.policy.probeInterval created)
        else none) := by
  unfold track
  split
  · rename_i record found
    by_cases same : other = id
    · rw [same, found]
      rfl
    · rw [if_neg same, Option.or_none]
  · unfold find?
    rw [List.lookup_append]
    congr 1
    by_cases same : other = id
    · rw [if_pos same, same]
      exact lookup_cons_self (id, _) []
    · rw [if_neg same]
      exact lookup_cons_of_ne other (id, _) [] same

theorem ids_track (registry : HealthRegistry) (created : Instant) (id : NodeId) :
    (registry.track created id).ids = if id ∈ registry.ids then registry.ids
      else registry.ids ++ [id] := by
  unfold track
  split
  · rename_i record found
    rw [if_pos]
    rw [← find?_isSome_iff, found]
    rfl
  · rename_i missing
    rw [if_neg]
    · unfold ids
      rw [List.map_append]
      rfl
    · rw [← find?_isSome_iff, missing]
      simp

theorem policy_track (registry : HealthRegistry) (created : Instant) (id : NodeId) :
    (registry.track created id).policy = registry.policy := by
  unfold track
  split
  · rfl
  · rfl

theorem policy_trackAll (registry : HealthRegistry) (created : Instant) (ids : List NodeId) :
    (registry.trackAll created ids).policy = registry.policy := by
  unfold trackAll
  induction ids generalizing registry with
  | nil => rfl
  | cons id rest ih => rw [List.foldl_cons, ih, policy_track]

theorem find?_trackAll (registry : HealthRegistry) (created : Instant) (ids : List NodeId)
    (other : NodeId) :
    (registry.trackAll created ids).find? other = (registry.find? other).or
      (if other ∈ ids then some (HealthRecord.fresh registry.policy.probeInterval created)
        else none) := by
  unfold trackAll
  induction ids generalizing registry with
  | nil => simp
  | cons id rest ih =>
      rw [List.foldl_cons, ih, find?_track, policy_track, Option.or_assoc]
      congr 1
      by_cases same : other = id
      · simp [same]
      · simp [same]

theorem nodup_ids_trackAll (registry : HealthRegistry) (created : Instant) (ids : List NodeId)
    (distinct : registry.ids.Nodup) : (registry.trackAll created ids).ids.Nodup := by
  unfold trackAll
  induction ids generalizing registry with
  | nil => exact distinct
  | cons id rest ih =>
      apply ih
      rw [ids_track]
      split
      · exact distinct
      · rename_i unknown
        exact List.Nodup.append distinct (List.nodup_singleton id)
          (List.disjoint_singleton.mpr unknown)

theorem find?_retain (registry : HealthRegistry) (ids : List NodeId) (other : NodeId) :
    (registry.retain ids).find? other = if other ∈ ids then registry.find? other else none := by
  unfold find? retain
  dsimp only
  induction registry.entries with
  | nil => simp
  | cons entry rest ih =>
      by_cases same : other = entry.1
      · subst same
        rw [lookup_cons_self]
        by_cases listed : entry.1 ∈ ids
        · rw [List.filter_cons_of_pos (by simpa using listed), lookup_cons_self, if_pos listed]
        · rw [List.filter_cons_of_neg (by simpa using listed), ih, if_neg listed, if_neg listed]
      · rw [lookup_cons_of_ne other entry rest same, ← ih]
        by_cases listed : entry.1 ∈ ids
        · rw [List.filter_cons_of_pos (by simpa using listed),
            lookup_cons_of_ne other entry _ same]
        · rw [List.filter_cons_of_neg (by simpa using listed)]

theorem nodup_ids_retain (registry : HealthRegistry) (ids : List NodeId)
    (distinct : registry.ids.Nodup) : (registry.retain ids).ids.Nodup :=
  distinct.sublist (List.filter_sublist.map Prod.fst)

theorem find?_account (registry : HealthRegistry) (testRequest : Bool) (id other : NodeId)
    (error : Option CallError) :
    (registry.account testRequest id error).1.find? other =
      if other = id then
        (registry.find? other).map (effect testRequest (registry.classify error))
      else registry.find? other :=
  find?_modify registry id other _

theorem find?_claimProbe (registry : HealthRegistry) (id other : NodeId) (now : Instant) :
    (registry.claimProbe id now).1.find? other =
      if other = id then (registry.find? other).map (fun record => (record.claimProbe now).1)
      else registry.find? other := by
  unfold claimProbe
  cases found : registry.find? id with
  | none =>
      by_cases same : other = id
      · rw [if_pos same, same, found]
        rfl
      · rw [if_neg same]
  | some record =>
      dsimp only
      rw [find?_modify]
      by_cases same : other = id
      · rw [if_pos same, if_pos same, same, found]
        rfl
      · rw [if_neg same, if_neg same]

theorem ids_claimProbe (registry : HealthRegistry) (id : NodeId) (now : Instant) :
    (registry.claimProbe id now).1.ids = registry.ids := by
  unfold claimProbe
  split
  · rfl
  · exact ids_modify registry id _

theorem policy_claimProbe (registry : HealthRegistry) (id : NodeId) (now : Instant) :
    (registry.claimProbe id now).1.policy = registry.policy := by
  unfold claimProbe
  split
  · rfl
  · rfl

/-- Evaluating the entries keeps their nodes, also when it stops at an overflow. -/
theorem ids_evaluateEntries (policy : HealthPolicy) (now : Instant)
    (entries : List (NodeId × HealthRecord)) :
    (evaluateEntries policy now entries).1.map Prod.fst = entries.map Prod.fst := by
  induction entries with
  | nil => rfl
  | cons entry rest ih =>
      unfold evaluateEntries
      cases closed : entry.2.evaluate policy now with
      | mk after outcome =>
          cases outcome with
          | error overflow => rfl
          | ok verdict => exact congrArg (List.cons entry.1) ih

theorem ids_evaluateAll (registry : HealthRegistry) (now : Instant) :
    (registry.evaluateAll now).1.ids = registry.ids :=
  ids_evaluateEntries registry.policy now registry.entries

/-- Evaluating the entries either evaluates every one of them or stops at an overflow. -/
theorem evaluateEntries_ok (policy : HealthPolicy) (now : Instant)
    (entries : List (NodeId × HealthRecord)) (transitions : List (NodeId × Transition))
    (evaluated : (evaluateEntries policy now entries).2 = .ok transitions) :
    (evaluateEntries policy now entries).1 =
        entries.map (fun entry => (entry.1, (entry.2.evaluate policy now).1)) ∧
      ∀ entry, entry ∈ entries → ∃ verdict, (entry.2.evaluate policy now).2 = .ok verdict ∧
        ∀ transition, verdict = some transition → (entry.1, transition) ∈ transitions := by
  induction entries generalizing transitions with
  | nil => exact ⟨rfl, fun entry member => by cases member⟩
  | cons entry rest ih =>
      obtain ⟨id, record⟩ := entry
      unfold evaluateEntries at evaluated ⊢
      cases closed : record.evaluate policy now with
      | mk after outcome =>
          cases outcome with
          | error overflow => simp only [closed] at evaluated; cases evaluated
          | ok verdict =>
              simp only [closed] at evaluated ⊢
              cases others : (evaluateEntries policy now rest).2 with
              | error overflow => rw [others] at evaluated; cases evaluated
              | ok later =>
                  rw [others] at evaluated
                  obtain ⟨sameRest, judged⟩ := ih later others
                  have same : (verdict.map (fun transition => (id, transition))).toList ++ later =
                      transitions := Except.ok.inj evaluated
                  subst same
                  refine ⟨by rw [sameRest, List.map_cons, closed], ?_⟩
                  intro entry member
                  rcases List.mem_cons.mp member with head | inRest
                  · subst head
                    exact ⟨verdict, congrArg Prod.snd closed, fun transition changed => by
                      simp [changed]⟩
                  · obtain ⟨other, otherClosed, reported⟩ := judged entry inRest
                    exact ⟨other, otherClosed, fun transition changed =>
                      List.mem_append_right _ (reported transition changed)⟩

theorem exists_of_evaluateEntries_error (policy : HealthPolicy) (now : Instant)
    (entries : List (NodeId × HealthRecord)) (overflow : Overflow)
    (broken : (evaluateEntries policy now entries).2 = .error overflow) :
    ∃ entry, entry ∈ entries ∧ (entry.2.evaluate policy now).2 = .error overflow := by
  induction entries with
  | nil => cases broken
  | cons entry rest ih =>
      unfold evaluateEntries at broken
      cases closed : entry.2.evaluate policy now with
      | mk after outcome =>
          cases outcome with
          | error cause =>
              simp only [closed] at broken
              cases broken
              exact ⟨entry, List.mem_cons_self, congrArg Prod.snd closed⟩
          | ok verdict =>
              simp only [closed] at broken
              cases others : (evaluateEntries policy now rest).2 with
              | error cause =>
                  rw [others] at broken
                  cases broken
                  obtain ⟨other, member, failed⟩ := ih others
                  exact ⟨other, List.mem_cons_of_mem entry member, failed⟩
              | ok later => rw [others] at broken; cases broken

theorem evaluateEntries_error (policy : HealthPolicy) (now : Instant)
    (entries : List (NodeId × HealthRecord)) (overflow : Overflow)
    (broken : (evaluateEntries policy now entries).2 = .error overflow) :
    overflow = .sum ∧ ∃ entry, entry ∈ entries ∧ entry.2.OutOfTime now := by
  obtain ⟨entry, member, failed⟩ :=
    exists_of_evaluateEntries_error policy now entries overflow broken
  obtain ⟨sum, late⟩ := HealthRecord.evaluate_error failed
  exact ⟨sum, entry, member, late⟩

theorem mem_entries_of_find? (registry : HealthRegistry) (id : NodeId) (record : HealthRecord)
    (found : registry.find? id = some record) : (id, record) ∈ registry.entries := by
  unfold find? at found
  generalize registry.entries = entries at found ⊢
  induction entries with
  | nil => cases found
  | cons entry rest ih =>
      by_cases same : id = entry.1
      · subst same
        rw [lookup_cons_self] at found
        rw [← Option.some.inj found]
        exact List.mem_cons_self
      · rw [lookup_cons_of_ne id entry rest same] at found
        exact List.mem_cons_of_mem entry (ih found)

theorem find?_of_mem_entries (registry : HealthRegistry) (distinct : registry.ids.Nodup)
    {id : NodeId} {record : HealthRecord} (member : (id, record) ∈ registry.entries) :
    registry.find? id = some record := by
  unfold ids at distinct
  unfold find?
  generalize registry.entries = entries at distinct member ⊢
  induction entries with
  | nil => cases member
  | cons entry rest ih =>
      rw [List.map_cons, List.nodup_cons] at distinct
      rcases List.mem_cons.mp member with same | later
      · subst same
        exact lookup_cons_self (id, record) rest
      · have different : id ≠ entry.1 := by
          rintro rfl
          exact distinct.1 (List.mem_map.mpr ⟨_, later, rfl⟩)
        rw [lookup_cons_of_ne id entry rest different]
        exact ih distinct.2 later

theorem evaluate_of_mem_evaluateEntries (policy : HealthPolicy) (now : Instant)
    (entries : List (NodeId × HealthRecord)) (transitions : List (NodeId × Transition))
    (evaluated : (evaluateEntries policy now entries).2 = .ok transitions) {id : NodeId}
    {transition : Transition} (reported : (id, transition) ∈ transitions) :
    ∃ record, (id, record) ∈ entries ∧
      (record.evaluate policy now).2 = .ok (some transition) := by
  induction entries generalizing transitions with
  | nil => cases evaluated; cases reported
  | cons entry rest ih =>
      unfold evaluateEntries at evaluated
      cases closed : entry.2.evaluate policy now with
      | mk after outcome =>
          cases outcome with
          | error overflow => simp only [closed] at evaluated; cases evaluated
          | ok verdict =>
              simp only [closed] at evaluated
              cases others : (evaluateEntries policy now rest).2 with
              | error overflow => rw [others] at evaluated; cases evaluated
              | ok later =>
                  rw [others] at evaluated
                  cases evaluated
                  rcases List.mem_append.mp reported with here | inRest
                  · obtain ⟨change, changed, same⟩ :=
                      Option.map_eq_some_iff.mp (Option.mem_toList.mp here)
                    cases same
                    rw [changed] at closed
                    exact ⟨entry.2, List.mem_cons_self, congrArg Prod.snd closed⟩
                  · obtain ⟨record, member, judged⟩ := ih later others inRest
                    exact ⟨record, List.mem_cons_of_mem _ member, judged⟩

theorem sublist_ids_evaluateEntries (policy : HealthPolicy) (now : Instant)
    (entries : List (NodeId × HealthRecord)) (transitions : List (NodeId × Transition))
    (evaluated : (evaluateEntries policy now entries).2 = .ok transitions) :
    (transitions.map Prod.fst).Sublist (entries.map Prod.fst) := by
  induction entries generalizing transitions with
  | nil => cases evaluated; exact List.Sublist.slnil
  | cons entry rest ih =>
      unfold evaluateEntries at evaluated
      cases closed : entry.2.evaluate policy now with
      | mk after outcome =>
          cases outcome with
          | error overflow => simp only [closed] at evaluated; cases evaluated
          | ok verdict =>
              simp only [closed] at evaluated
              cases others : (evaluateEntries policy now rest).2 with
              | error overflow => rw [others] at evaluated; cases evaluated
              | ok later =>
                  rw [others] at evaluated
                  cases evaluated
                  cases verdict with
                  | none => exact (ih later others).cons entry.1
                  | some transition => exact (ih later others).cons_cons entry.1

theorem lookup_map (entries : List (NodeId × HealthRecord))
    (change : NodeId → HealthRecord → HealthRecord) (id : NodeId) :
    (entries.map (fun entry => (entry.1, change entry.1 entry.2))).lookup id =
      (entries.lookup id).map (change id) := by
  induction entries with
  | nil => rfl
  | cons entry rest ih =>
      rw [List.map_cons]
      by_cases same : id = entry.1
      · subst same
        rw [lookup_cons_self]
        exact lookup_cons_self (entry.1, change entry.1 entry.2) _
      · rw [lookup_cons_of_ne id entry rest same, ← ih]
        exact lookup_cons_of_ne id (entry.1, change entry.1 entry.2) _ same

private theorem lookup_of_unlisted (id : NodeId) (entries : List (NodeId × HealthRecord))
    (unlisted : id ∉ entries.map Prod.fst) : entries.lookup id = none := by
  rw [List.lookup_eq_none_iff]
  intro entry member
  rw [bne_iff_ne]
  rintro rfl
  exact unlisted (List.mem_map_of_mem member)

private theorem entries_ext {first second : List (NodeId × HealthRecord)}
    (sameIds : first.map Prod.fst = second.map Prod.fst) (distinct : (first.map Prod.fst).Nodup)
    (sameRecords : ∀ id, first.lookup id = second.lookup id) : first = second := by
  induction first generalizing second with
  | nil => exact (List.map_eq_nil_iff.mp sameIds.symm).symm
  | cons entry rest ih =>
      cases second with
      | nil => cases sameIds
      | cons other others =>
          rw [List.map_cons, List.map_cons] at sameIds
          obtain ⟨sameId, sameRest⟩ := List.cons.inj sameIds
          rw [List.map_cons, List.nodup_cons] at distinct
          have sameRecord := sameRecords entry.1
          rw [lookup_cons_self, sameId, lookup_cons_self] at sameRecord
          have sameEntry : entry = other := Prod.ext sameId (Option.some.inj sameRecord)
          subst sameEntry
          rw [ih sameRest distinct.2]
          intro id
          by_cases same : id = entry.1
          · rw [lookup_of_unlisted id rest (same ▸ distinct.1),
              lookup_of_unlisted id others (same ▸ sameRest ▸ distinct.1)]
          · have sameLater := sameRecords id
            rwa [lookup_cons_of_ne id entry rest same, lookup_cons_of_ne id entry others same]
              at sameLater

/-- A registry is known by its policy, by its nodes in their order and by the record of each. -/
theorem ext_find? {first second : HealthRegistry} (samePolicy : first.policy = second.policy)
    (sameIds : first.ids = second.ids) (distinct : first.ids.Nodup)
    (sameRecords : ∀ id, first.find? id = second.find? id) : first = second := by
  obtain ⟨policy, entries⟩ := first
  obtain ⟨otherPolicy, otherEntries⟩ := second
  have sameEntries : entries = otherEntries := entries_ext sameIds distinct sameRecords
  rw [sameEntries, show policy = otherPolicy from samePolicy]

section Evaluation

variable {registry : HealthRegistry} {now : Instant} {transitions : List (NodeId × Transition)}

/-- The entries' own changes of state, before they are put in the order of ids. -/
theorem evaluateAll_ok (evaluated : (registry.evaluateAll now).2 = .ok transitions) :
    ∃ found, (evaluateEntries registry.policy now registry.entries).2 = .ok found ∧
      inIdOrder found = transitions := by
  change (evaluateEntries registry.policy now registry.entries).2.map inIdOrder = _ at evaluated
  cases entries : (evaluateEntries registry.policy now registry.entries).2 with
  | error overflow => rw [entries] at evaluated; cases evaluated
  | ok found =>
      rw [entries] at evaluated
      exact ⟨found, rfl, Except.ok.inj evaluated⟩

theorem evaluateAll_of_entries {found : List (NodeId × Transition)}
    (entries : (evaluateEntries registry.policy now registry.entries).2 = .ok found) :
    (registry.evaluateAll now).2 = .ok (inIdOrder found) := by
  change (evaluateEntries registry.policy now registry.entries).2.map inIdOrder = _
  rw [entries]
  rfl

theorem evaluateAll_of_entry {change : NodeId × Transition}
    (entries : (evaluateEntries registry.policy now registry.entries).2 = .ok [change]) :
    (registry.evaluateAll now).2 = .ok [change] :=
  (evaluateAll_of_entries entries).trans (congrArg Except.ok (List.mergeSort_singleton change))

theorem evaluateAll_error {overflow : Overflow}
    (broken : (registry.evaluateAll now).2 = .error overflow) :
    overflow = .sum ∧ ∃ entry, entry ∈ registry.entries ∧ entry.2.OutOfTime now := by
  change (evaluateEntries registry.policy now registry.entries).2.map inIdOrder = _ at broken
  cases entries : (evaluateEntries registry.policy now registry.entries).2 with
  | error cause =>
      rw [entries] at broken
      cases broken
      exact evaluateEntries_error registry.policy now registry.entries _ entries
  | ok found => rw [entries] at broken; cases broken

theorem find?_evaluateAll (evaluated : (registry.evaluateAll now).2 = .ok transitions)
    (id : NodeId) :
    (registry.evaluateAll now).1.find? id =
      (registry.find? id).map (fun record => (record.evaluate registry.policy now).1) := by
  obtain ⟨found, entries, _⟩ := evaluateAll_ok evaluated
  unfold evaluateAll find?
  dsimp only
  rw [(evaluateEntries_ok registry.policy now registry.entries found entries).1]
  exact lookup_map registry.entries (fun _ record => (record.evaluate registry.policy now).1) id

theorem closing_of_evaluateAll (evaluated : (registry.evaluateAll now).2 = .ok transitions)
    (id : NodeId) (record : HealthRecord) (tracked : registry.find? id = some record) :
    ∃ verdict, record.Closing registry.policy now (record.evaluate registry.policy now).1 verdict ∧
      ∀ transition, verdict = some transition → (id, transition) ∈ transitions := by
  obtain ⟨found, entries, sorted⟩ := evaluateAll_ok evaluated
  obtain ⟨verdict, closed, reported⟩ :=
    (evaluateEntries_ok registry.policy now registry.entries found entries).2 (id, record)
      (mem_entries_of_find? registry id record tracked)
  refine ⟨verdict, HealthRecord.closing_of_evaluate (Prod.ext rfl closed), ?_⟩
  intro transition changed
  rw [← sorted]
  exact List.mem_mergeSort.mpr (reported transition changed)

theorem mem_transitions_iff (distinct : registry.ids.Nodup)
    (evaluated : (registry.evaluateAll now).2 = .ok transitions) (id : NodeId)
    (transition : Transition) :
    (id, transition) ∈ transitions ↔ ∃ record, registry.find? id = some record ∧
      (record.evaluate registry.policy now).2 = .ok (some transition) := by
  obtain ⟨changes, entries, sorted⟩ := evaluateAll_ok evaluated
  have listed : (id, transition) ∈ transitions ↔ (id, transition) ∈ changes := by
    rw [← sorted]
    exact List.mem_mergeSort
  rw [listed]
  constructor
  · intro reported
    obtain ⟨record, member, judged⟩ :=
      evaluate_of_mem_evaluateEntries _ now _ changes entries reported
    exact ⟨record, registry.find?_of_mem_entries distinct member, judged⟩
  · rintro ⟨record, found, judged⟩
    obtain ⟨verdict, closed, reported⟩ := (evaluateEntries_ok _ now _ changes entries).2
      (id, record) (registry.mem_entries_of_find? id record found)
    rw [judged] at closed
    exact reported transition (Except.ok.inj closed).symm

/-- Every reported change of state is the verdict on the record of its node. -/
theorem evaluate_of_mem_transitions (distinct : registry.ids.Nodup)
    (evaluated : (registry.evaluateAll now).2 = .ok transitions) {id : NodeId}
    {transition : Transition} (reported : (id, transition) ∈ transitions) :
    ∃ record, registry.find? id = some record ∧
      record.Closing registry.policy now (record.evaluate registry.policy now).1
        (some transition) := by
  obtain ⟨record, found, judged⟩ :=
    (mem_transitions_iff distinct evaluated id transition).mp reported
  exact ⟨record, found, HealthRecord.closing_of_evaluate (Prod.ext rfl judged)⟩

/-- No node changes its state twice in one evaluation. -/
theorem nodup_ids_transitions (distinct : registry.ids.Nodup)
    (evaluated : (registry.evaluateAll now).2 = .ok transitions) :
    (transitions.map Prod.fst).Nodup := by
  obtain ⟨found, entries, sorted⟩ := evaluateAll_ok evaluated
  have listed := distinct.sublist
    (sublist_ids_evaluateEntries registry.policy now registry.entries found entries)
  rw [← sorted]
  exact ((List.mergeSort_perm found _).map Prod.fst).nodup_iff.mpr listed

end Evaluation

theorem inRing_effect (testRequest : Bool) (recorded : Recorded) (record : HealthRecord) :
    (effect testRequest recorded record).inRing = record.inRing := by
  cases recorded with
  | success => cases testRequest <;> simp [effect]
  | failure => exact HealthRecord.inRing_recordFailure record
  | ignored => rfl

theorem isInRing_account (registry : HealthRegistry) (testRequest : Bool) (id other : NodeId)
    (error : Option CallError) :
    (registry.account testRequest id error).1.isInRing other = registry.isInRing other := by
  rw [isInRing_eq, isInRing_eq, find?_account]
  split
  · cases registry.find? other with
    | none => rfl
    | some record => simp [inRing_effect]
  · rfl

theorem isInRing_claimProbe (registry : HealthRegistry) (id other : NodeId) (now : Instant) :
    (registry.claimProbe id now).1.isInRing other = registry.isInRing other := by
  rw [isInRing_eq, isInRing_eq, find?_claimProbe]
  split
  · cases registry.find? other with
    | none => rfl
    | some record => simp
  · rfl

theorem isInRing_evaluateAll_of_nil (registry : HealthRegistry) (now : Instant)
    (evaluated : (registry.evaluateAll now).2 = .ok []) (id : NodeId) :
    (registry.evaluateAll now).1.isInRing id = registry.isInRing id := by
  rw [isInRing_eq, isInRing_eq, find?_evaluateAll evaluated]
  cases tracked : registry.find? id with
  | none => rfl
  | some record =>
      obtain ⟨verdict, closing, reported⟩ := closing_of_evaluateAll evaluated id record tracked
      cases verdict with
      | none => simp [HealthRecord.inRing_of_closing_none closing]
      | some transition => cases reported transition rfl

end QuorumRouting.HealthRegistry
