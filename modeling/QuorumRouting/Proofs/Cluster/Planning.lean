import QuorumRouting.Proofs.Cluster.Consistency
import QuorumRouting.Proofs.Health.Claiming
import QuorumRouting.Proofs.Ring.Membership

/-!
What the plan of a key is. It names the key's quorum on the working ring, all of it in the ring, and
then the nodes of the key's quorum on the recovery ring that are due a test request. Working nodes
are never due one, so no node is named twice, and every claim that was granted shows in the plan.
-/

set_option autoImplicit false

namespace QuorumRouting

variable {Client : Type}

namespace HealthRegistry

def isDue (registry : HealthRegistry) (now : Instant) (id : NodeId) : Bool :=
  (registry.find? id).any (fun record => record.isDue now)

/-- Can every test request that is due be put off without a time beyond 64 bits? -/
def InTime (registry : HealthRegistry) (now : Instant) (ids : List NodeId) : Prop :=
  ∀ id, id ∈ ids → ∀ record, registry.find? id = some record → record.isDue now = true →
    ¬ record.OutOfTime now

def postpone (registry : HealthRegistry) (now : Instant) (ids : List NodeId) : HealthRegistry :=
  { registry with
    entries := registry.entries.map (fun entry =>
      (entry.1, if entry.1 ∈ ids then entry.2.postponed now else entry.2)) }

theorem find?_postpone (registry : HealthRegistry) (now : Instant) (ids : List NodeId)
    (id : NodeId) : (registry.postpone now ids).find? id =
      if id ∈ ids then (registry.find? id).map (fun record => record.postponed now)
      else registry.find? id := by
  unfold find? postpone
  rw [lookup_map registry.entries
    (fun id record => if id ∈ ids then record.postponed now else record)]
  split
  · rfl
  · exact Option.map_id_apply

theorem ids_postpone (registry : HealthRegistry) (now : Instant) (ids : List NodeId) :
    (registry.postpone now ids).ids = registry.ids := by
  unfold postpone HealthRegistry.ids
  rw [List.map_map]
  rfl

theorem isDue_iff (registry : HealthRegistry) (now : Instant) (id : NodeId) :
    registry.isDue now id = true ↔
      (registry.find? id).map (fun record => record.isDue now) = some true := by
  unfold isDue
  cases registry.find? id with
  | none => simp
  | some record => simp

theorem claimProbe_snd (registry : HealthRegistry) (id : NodeId) (now : Instant)
    (inTime : registry.InTime now [id]) :
    (registry.claimProbe id now).2 =
      .ok ((registry.find? id).map (fun record => record.isDue now)) := by
  unfold claimProbe
  cases found : registry.find? id with
  | none => rfl
  | some record =>
      dsimp only
      cases due : record.isDue now with
      | false =>
          rw [record.claimProbe_of_not_due now due]
          simp [Except.map, due]
      | true =>
          rw [record.claimProbe_of_due now due (inTime id List.mem_cons_self record found due)]
          simp [Except.map, due]

/-- A claim puts off the test request of its node if one was due, and touches nothing else. -/
theorem find?_claimProbe_of_inTime (registry : HealthRegistry) (id other : NodeId) (now : Instant)
    (inTime : registry.InTime now [id]) :
    (registry.claimProbe id now).1.find? other =
      if other = id ∧ registry.isDue now id = true then
        (registry.find? other).map (fun record => record.postponed now)
      else registry.find? other := by
  rw [find?_claimProbe]
  by_cases same : other = id
  · subst same
    rw [if_pos rfl]
    unfold isDue
    cases found : registry.find? other with
    | none => simp
    | some record =>
        cases due : record.isDue now with
        | false => simp [due, record.claimProbe_of_not_due now due]
        | true =>
            have fits := inTime other List.mem_cons_self record found due
            simp [due, record.claimProbe_of_due now due fits]
  · rw [if_neg same, if_neg (fun both => same both.1)]

theorem isInRing_of_isDue (registry : HealthRegistry) (now : Instant) (id : NodeId)
    (due : registry.isDue now id = true) : registry.isInRing id = false := by
  unfold isDue at due
  rw [isInRing_eq]
  cases found : registry.find? id with
  | none => rw [found] at due; cases due
  | some record =>
      rw [found] at due
      exact ((record.isDue_iff now).mp due).1

end HealthRegistry

namespace Plan

def tests (handles : List (Handle Client)) : Plan Client :=
  handles.map (fun handle => { handle := handle, testRequest := true })

theorem ids_ofHandles (handles : List (Handle Client)) :
    ids (ofHandles handles) = handles.map Handle.id := by
  unfold ids ofHandles
  rw [List.map_map]
  rfl

theorem ids_tests (handles : List (Handle Client)) :
    ids (tests handles) = handles.map Handle.id := by
  unfold ids tests
  rw [List.map_map]
  rfl

theorem ids_append (plan others : Plan Client) : ids (plan ++ others) = ids plan ++ ids others :=
  List.map_append

/-- Test requests to different nodes outside the plan are all added to it. -/
theorem addTests_eq (plan : Plan Client) (probes : List (Handle Client))
    (distinct : (probes.map Handle.id).Nodup)
    (outside : ∀ handle, handle ∈ probes → handle.id ∉ plan.ids) :
    addTests plan probes = plan ++ tests probes := by
  induction probes generalizing plan with
  | nil => exact (List.append_nil plan).symm
  | cons handle rest ih =>
      rw [List.map_cons, List.nodup_cons] at distinct
      have absent : ¬ plan.any (fun member => member.handle.id = handle.id) = true := by
        intro present
        obtain ⟨member, listed, same⟩ := List.any_eq_true.mp present
        exact outside handle List.mem_cons_self
          (List.mem_map.mpr ⟨member, listed, of_decide_eq_true same⟩)
      have added := ih (plan ++ tests [handle]) distinct.2 (by
        intro other member
        rw [ids_append, List.mem_append, not_or]
        refine ⟨outside other (List.mem_cons_of_mem _ member), ?_⟩
        intro again
        have same : other.id = handle.id := List.mem_singleton.mp again
        exact distinct.1 (same ▸ List.mem_map_of_mem member))
      unfold addTests at added ⊢
      rw [List.foldl_cons, if_neg absent]
      rw [List.append_assoc] at added
      exact added

end Plan

namespace Cluster

def dueAmong (health : HealthRegistry) (now : Instant) (nodes : List (Handle Client)) :
    List (Handle Client) :=
  nodes.filter (fun node => health.isDue now node.id)

theorem mem_ids_dueAmong (health : HealthRegistry) (now : Instant) (nodes : List (Handle Client))
    (id : NodeId) : id ∈ (dueAmong health now nodes).map Handle.id ↔
      id ∈ nodes.map Handle.id ∧ health.isDue now id = true := by
  unfold dueAmong
  simp only [List.mem_map, List.mem_filter]
  constructor
  · rintro ⟨node, ⟨member, due⟩, rfl⟩
    exact ⟨⟨node, member, rfl⟩, due⟩
  · rintro ⟨⟨node, member, rfl⟩, due⟩
    exact ⟨node, ⟨member, due⟩, rfl⟩

theorem claimProbes_cons (now : Instant) (health : HealthRegistry) (node : Handle Client)
    (rest : List (Handle Client)) (inTime : health.InTime now [node.id]) :
    claimProbes now health (node :: rest) =
      ((claimProbes now (health.claimProbe node.id now).1 rest).1,
        (claimProbes now (health.claimProbe node.id now).1 rest).2.map (fun probes =>
          if health.isDue now node.id then node :: probes else probes)) := by
  have answered := health.claimProbe_snd node.id now inTime
  conv => lhs; unfold claimProbes
  cases outcome : health.claimProbe node.id now with
  | mk claimed result =>
      rw [outcome] at answered
      subst answered
      simp only [← health.isDue_iff]

theorem find?_claimProbe_of_mem (health : HealthRegistry) (now : Instant) (node : Handle Client)
    (rest : List (Handle Client)) (distinct : node.id ∉ rest.map Handle.id) (id : NodeId)
    (member : id ∈ rest.map Handle.id) :
    (health.claimProbe node.id now).1.find? id = health.find? id := by
  rw [HealthRegistry.find?_claimProbe, if_neg]
  rintro rfl
  exact distinct member

/-- Claims that give an answer were in time. -/
theorem inTime_of_claimProbes (now : Instant) (health : HealthRegistry)
    (nodes : List (Handle Client)) (distinct : (nodes.map Handle.id).Nodup)
    (fits : (claimProbes now health nodes).2 ≠ .error .sum) :
    health.InTime now (nodes.map Handle.id) := by
  induction nodes generalizing health with
  | nil => intro id member; cases member
  | cons node rest ih =>
      rw [List.map_cons, List.nodup_cons] at distinct
      have here : health.InTime now [node.id] := by
        intro id member record found due late
        rw [List.mem_singleton.mp member] at found
        apply fits
        unfold claimProbes HealthRegistry.claimProbe
        simp only [found, record.claimProbe_of_late now due late, Except.map]
      have later := ih (health.claimProbe node.id now).1 distinct.2 (by
        intro broken
        apply fits
        rw [claimProbes_cons now health node rest here, broken]
        rfl)
      intro id member
      rcases List.mem_cons.mp member with same | inRest
      · exact here id (List.mem_singleton.mpr same)
      · intro record found
        rw [← find?_claimProbe_of_mem health now node rest distinct.1 id inRest] at found
        exact later id inRest record found

/-- Claims for different nodes do not meddle with one another: those are granted that were due
beforehand, and each of them is put off once. -/
theorem claimProbes_of_inTime (now : Instant) (health : HealthRegistry)
    (nodes : List (Handle Client)) (distinct : (nodes.map Handle.id).Nodup)
    (inTime : health.InTime now (nodes.map Handle.id)) :
    (claimProbes now health nodes).2 = .ok (dueAmong health now nodes) ∧
      ∀ id, (claimProbes now health nodes).1.find? id =
        if id ∈ (dueAmong health now nodes).map Handle.id then
          (health.find? id).map (fun record => record.postponed now)
        else health.find? id := by
  induction nodes generalizing health with
  | nil => exact ⟨rfl, fun id => rfl⟩
  | cons node rest ih =>
      rw [List.map_cons, List.nodup_cons] at distinct
      have here : health.InTime now [node.id] := by
        intro id member
        rw [List.mem_singleton.mp member]
        exact inTime node.id List.mem_cons_self
      have changed (id : NodeId) := health.find?_claimProbe_of_inTime node.id id now here
      have others := find?_claimProbe_of_mem health now node rest distinct.1
      rw [claimProbes_cons now health node rest here]
      -- From here on all that matters of the first claim is what it did to each record.
      generalize (health.claimProbe node.id now).1 = claimed at changed others
      have sameDue : dueAmong claimed now rest = dueAmong health now rest := by
        apply List.filter_congr
        intro other member
        unfold HealthRegistry.isDue
        rw [others other.id (List.mem_map_of_mem member)]
      obtain ⟨granted, after⟩ := ih claimed distinct.2 (by
        intro id member record found
        rw [others id member] at found
        exact inTime id (List.mem_cons_of_mem _ member) record found)
      rw [sameDue] at granted after
      refine ⟨?_, ?_⟩
      · rw [granted]
        unfold dueAmong
        rw [List.filter_cons]
        rfl
      · intro id
        rw [after]
        by_cases same : id = node.id
        · subst same
          have once : node.id ∉ (dueAmong health now rest).map Handle.id := fun member =>
            distinct.1 ((mem_ids_dueAmong health now rest node.id).mp member).1
          rw [if_neg once, changed]
          simp [mem_ids_dueAmong]
        · have untouched : claimed.find? id = health.find? id := by
            rw [changed, if_neg]
            rintro ⟨claimedHere, -⟩
            exact same claimedHere
          rw [untouched]
          simp only [mem_ids_dueAmong, List.map_cons, List.mem_cons, same, false_or]

theorem policy_claimProbes (now : Instant) (health : HealthRegistry)
    (nodes : List (Handle Client)) :
    (claimProbes now health nodes).1.policy = health.policy :=
  view_claimProbes HealthRegistry.policy now (fun health id => health.policy_claimProbe id now)
    health nodes

/-- Claims touch nothing in a record but the time of the next test request. -/
theorem map_find?_claimProbes {View : Type} (view : HealthRecord → View)
    (blind : ∀ record due, view { record with nextProbe := due } = view record) (now : Instant)
    (health : HealthRegistry) (nodes : List (Handle Client)) (id : NodeId) :
    ((claimProbes now health nodes).1.find? id).map view = (health.find? id).map view := by
  apply view_claimProbes (fun health => (health.find? id).map view) now
  intro health other
  rw [HealthRegistry.find?_claimProbe]
  split
  · rw [Option.map_map]
    congr 1
    funext record
    obtain ⟨due, claimed⟩ := record.claimProbe_fst now
    rw [Function.comp_apply, claimed, blind]
  · rfl

theorem claimProbes_eq (now : Instant) (health : HealthRegistry) (nodes : List (Handle Client))
    (tracked : health.ids.Nodup) (distinct : (nodes.map Handle.id).Nodup)
    (inTime : health.InTime now (nodes.map Handle.id)) :
    claimProbes now health nodes =
      (health.postpone now ((dueAmong health now nodes).map Handle.id),
        .ok (dueAmong health now nodes)) := by
  obtain ⟨granted, after⟩ := claimProbes_of_inTime now health nodes distinct inTime
  have sameIds := ids_claimProbes now health nodes
  refine Prod.ext (HealthRegistry.ext_find? (policy_claimProbes now health nodes) ?_ ?_ ?_) granted
  · rw [sameIds, HealthRegistry.ids_postpone]
  · rw [sameIds]
    exact tracked
  · intro id
    rw [after, HealthRegistry.find?_postpone]

def due (cluster : Cluster Client) (key : Key) (now : Instant) : List (Handle Client) :=
  dueAmong cluster.health now (cluster.recovery.quorum key)

def plan (cluster : Cluster Client) (key : Key) (now : Instant) : Plan Client :=
  Plan.ofHandles (cluster.quorum key) ++ Plan.tests (cluster.due key now)

def granting (cluster : Cluster Client) (key : Key) (now : Instant) : Cluster Client :=
  { cluster with
    health := cluster.health.postpone now ((cluster.due key now).map Handle.id) }

/-- Can every test request that a plan of the key would name be put off within 64 bits? -/
def InTime (cluster : Cluster Client) (key : Key) (now : Instant) : Prop :=
  cluster.health.InTime now ((cluster.recovery.quorum key).map Handle.id)

theorem inTime_of_entries {cluster : Cluster Client} (key : Key) {now : Instant}
    (early : ∀ entry, entry ∈ cluster.health.entries → ¬ entry.2.OutOfTime now) :
    cluster.InTime key now := by
  intro id _ record found _
  exact early (id, record) (cluster.health.mem_entries_of_find? id record found)

namespace Consistent

variable {cluster : Cluster Client}

theorem mem_of_mem_quorum (consistent : cluster.Consistent) (key : Key) {node : Handle Client}
    (member : node ∈ cluster.quorum key) :
    node ∈ cluster.nodes ∧ cluster.health.isInRing node.id = true := by
  unfold Cluster.quorum at member
  rw [consistent.working_eq] at member
  exact List.mem_filter.mp
    (cluster.blueprint.mem_of_mem_quorum _ key consistent.admits.virtualNodes_pos member)

theorem nodup_ids_quorum (consistent : cluster.Consistent) (key : Key) :
    ((cluster.quorum key).map Handle.id).Nodup := by
  unfold Cluster.quorum
  rw [consistent.working_eq]
  exact cluster.blueprint.nodup_ids_quorum _ key consistent.admits.virtualNodes_pos
    (consistent.admits.distinct.sublist (List.filter_sublist.map Handle.id))

theorem length_quorum (consistent : cluster.Consistent) (key : Key) :
    (cluster.quorum key).length =
      min cluster.blueprint.quorumSize (inRing cluster.health cluster.nodes).length := by
  unfold Cluster.quorum
  rw [consistent.working_eq]
  exact cluster.blueprint.length_quorum _ key consistent.admits.virtualNodes_pos

theorem quorum_eq_nil_iff (consistent : cluster.Consistent) (key : Key) :
    cluster.quorum key = [] ↔
      ∀ node, node ∈ cluster.nodes → cluster.health.isInRing node.id = false := by
  unfold Cluster.quorum
  rw [consistent.working_eq, cluster.blueprint.quorum_eq_nil_iff _ key
    consistent.admits.virtualNodes_pos consistent.admits.quorumSize_pos]
  unfold inRing
  simp

theorem nodup_ids_recovery (consistent : cluster.Consistent) (key : Key) :
    ((cluster.recovery.quorum key).map Handle.id).Nodup := by
  rw [consistent.recovery_eq]
  exact cluster.blueprint.nodup_ids_quorum _ key consistent.admits.virtualNodes_pos
    consistent.admits.distinct

theorem nodup_ids_due (consistent : cluster.Consistent) (key : Key) (now : Instant) :
    ((cluster.due key now).map Handle.id).Nodup :=
  (consistent.nodup_ids_recovery key).sublist (List.filter_sublist.map Handle.id)

/-- Nodes of the quorum are in the ring, and nodes that are due a test request are not. -/
theorem not_mem_quorum_of_due (consistent : cluster.Consistent) (key : Key) (now : Instant)
    {node : Handle Client} (due : node ∈ cluster.due key now) :
    node.id ∉ (cluster.quorum key).map Handle.id := by
  intro member
  obtain ⟨working, listed, same⟩ := List.mem_map.mp member
  have inside := (consistent.mem_of_mem_quorum key listed).2
  rw [same, cluster.health.isInRing_of_isDue now node.id (List.mem_filter.mp due).2] at inside
  cases inside

theorem probes_eq (consistent : cluster.Consistent) (key : Key) (now : Instant)
    (inTime : cluster.InTime key now) :
    cluster.probes key now = (cluster.granting key now, .ok (cluster.due key now)) := by
  unfold Cluster.probes
  rw [claimProbes_eq now cluster.health _ consistent.nodup_ids
    (consistent.nodup_ids_recovery key) inTime]
  rfl

theorem resolve_eq (consistent : cluster.Consistent) (key : Key) (now : Instant)
    (inTime : cluster.InTime key now) :
    Plan.resolve cluster key now = (cluster.granting key now, .ok (cluster.plan key now)) := by
  unfold Plan.resolve
  rw [consistent.probes_eq key now inTime]
  dsimp only [Except.map]
  rw [Plan.addTests_eq _ _ (consistent.nodup_ids_due key now)]
  · rfl
  intro node member
  rw [Plan.ids_ofHandles]
  exact consistent.not_mem_quorum_of_due key now member

theorem inTime_of_probes (consistent : cluster.Consistent) (key : Key) (now : Instant)
    (fits : (cluster.probes key now).2 ≠ .error .sum) : cluster.InTime key now :=
  inTime_of_claimProbes now cluster.health _ (consistent.nodup_ids_recovery key) fits

theorem inTime_of_fits (consistent : cluster.Consistent) (key : Key) (now : Instant)
    (fits : (cluster.perform (.resolve key now)).2 ≠ .error (.overflowed .sum)) :
    cluster.InTime key now := by
  apply consistent.inTime_of_probes key now
  intro broken
  apply fits
  unfold Cluster.perform Plan.resolve
  dsimp only
  rw [broken]
  rfl

theorem nodup_ids_plan (consistent : cluster.Consistent) (key : Key) (now : Instant) :
    (cluster.plan key now).ids.Nodup := by
  unfold Cluster.plan
  rw [Plan.ids_append, Plan.ids_ofHandles, Plan.ids_tests, List.nodup_append]
  refine ⟨consistent.nodup_ids_quorum key, consistent.nodup_ids_due key now, ?_⟩
  intro working quorate other tested same
  obtain ⟨node, member, rfl⟩ := List.mem_map.mp tested
  exact consistent.not_mem_quorum_of_due key now member (same ▸ quorate)

end Consistent

/-- In every state that a created cluster reaches, the plan of a key is its quorum, all of it in the
ring, followed by test requests to those nodes of its quorum on the recovery ring that are excluded
and due one. Making the plan puts these test requests off and does nothing else. -/
theorem plan_of_run {partitioner : Partitioner} {settings : Settings} {created : Instant}
    {nodes : List (Handle Client)} {first cluster : Cluster Client}
    {events : List (Operation Client × Answer Client)}
    (success : create partitioner settings created nodes = .ok first)
    (run : Run first events cluster) (key : Key) (now : Instant)
    (inTime : cluster.InTime key now) :
    let due := (cluster.recovery.quorum key).filter (fun node => cluster.health.isDue now node.id)
    let plan := Plan.ofHandles (cluster.quorum key) ++ Plan.tests due
    Plan.resolve cluster key now =
        ({ cluster with health := cluster.health.postpone now (due.map Handle.id) }, .ok plan) ∧
      (cluster.probes key now).2 = .ok due ∧
      (∀ node, node ∈ cluster.quorum key →
        node ∈ cluster.nodes ∧ cluster.health.isInRing node.id = true) ∧
      (∀ node, node ∈ due → ∃ record, cluster.health.find? node.id = some record ∧
        record.inRing = false ∧ record.nextProbe.toNat ≤ (record.reading now).toNat ∧
        (record.postponed now).nextProbe.toNat =
          (record.reading now).toNat + record.probeInterval.toNat) ∧
      (Plan.ids plan).Nodup ∧
      (plan = [] ↔
        (∀ node, node ∈ cluster.nodes → cluster.health.isInRing node.id = false) ∧ due = []) := by
  have consistent := (consistent_of_create success).run run
  refine ⟨consistent.resolve_eq key now inTime, ?_, ?_, ?_, ?_, ?_⟩
  · rw [consistent.probes_eq key now inTime]
    rfl
  · intro node member
    exact consistent.mem_of_mem_quorum key member
  · intro node member
    obtain ⟨listed, due⟩ := List.mem_filter.mp member
    obtain ⟨record, found, asked⟩ :=
      Option.map_eq_some_iff.mp ((cluster.health.isDue_iff now node.id).mp due)
    have fits := inTime node.id (List.mem_map_of_mem listed) record found asked
    obtain ⟨out, reached⟩ := (record.isDue_iff now).mp asked
    exact ⟨record, found, out, reached, record.toNat_nextProbe_postponed now fits⟩
  · exact consistent.nodup_ids_plan key now
  · rw [List.append_eq_nil_iff, ← consistent.quorum_eq_nil_iff key]
    unfold Plan.ofHandles Plan.tests
    rw [List.map_eq_nil_iff, List.map_eq_nil_iff]

def shaken : Cluster Unit :=
  (pair.perform (.record "ab" (some (.connect "refused")))).1

theorem evaluateAll_shaken :
    (shaken.health.evaluateAll 0).2 =
      .ok [("ab", .excluded (Float.ofNat 1 / Float.ofNat 1))] :=
  HealthRegistry.evaluateAll_of_entry rfl

def halved : Cluster Unit :=
  { shaken with
    health := (shaken.health.evaluateAll 0).1
    working := shaken.blueprint.ring (inRing (shaken.health.evaluateAll 0).1 shaken.nodes) }

theorem run_shaken :
    Run pair [(.record "ab" (some (.connect "refused")), .ok (.recorded .failure))] shaken :=
  Run.start.step (.record "ab" (some (.connect "refused"))) nofun

theorem evaluateHealth_shaken :
    shaken.evaluateHealth 0 =
      (halved, .ok [("ab", .excluded (Float.ofNat 1 / Float.ofNat 1))]) :=
  ((consistent_of_create create_pair).run run_shaken).evaluateHealth_eq 0 _ evaluateAll_shaken

theorem run_halved : ∃ events, Run pair events halved := by
  have evaluated := run_shaken.step (.evaluateHealth 0) (by
    change Except.map Reply.transitions (shaken.evaluateHealth 0).2 ≠ _
    rw [evaluateHealth_shaken]
    nofun)
  change Run pair _ (shaken.evaluateHealth 0).1 at evaluated
  rw [evaluateHealth_shaken] at evaluated
  exact ⟨_, evaluated⟩

theorem quorum_halved (key : Key) : (halved.quorum key).map Handle.id = ["c"] := by
  have alone : (halved.quorum key).Perm
      (inRing (shaken.health.evaluateAll 0).1 shaken.nodes) :=
    shaken.blueprint.quorum_perm _ key (by decide) (by decide)
  exact List.perm_singleton.mp (alone.map Handle.id)

theorem due_halved (key : Key) : (halved.due key (milliseconds 5000)).map Handle.id = ["ab"] := by
  have everybody : (halved.recovery.quorum key).Perm halved.nodes :=
    halved.blueprint.quorum_perm halved.nodes key (by decide) (by decide)
  have waiting := (everybody.filter
    (fun node => halved.health.isDue (milliseconds 5000) node.id)).map Handle.id
  exact List.perm_singleton.mp waiting

theorem inTime_halved (key : Key) : halved.InTime key (milliseconds 5000) :=
  inTime_of_entries key (by decide)

theorem plan_after_exclusion :
    create (Blueprint.ofLengths 2 2).partitioner oneStrike 0 (Handle.named 0 ["ab", "c"]) =
        .ok pair ∧
      ∃ events, Run pair events halved ∧ ∀ key, halved.InTime key (milliseconds 5000) ∧
        ∃ plan, (Plan.resolve halved key (milliseconds 5000)).2 = .ok plan ∧
          plan.map (fun member => (member.handle.id, member.testRequest)) =
            [("c", false), ("ab", true)] := by
  obtain ⟨events, run⟩ := run_halved
  refine ⟨create_pair, events, run, fun key => ⟨inTime_halved key, ?_⟩⟩
  obtain ⟨resolved, -, -, -, -, -⟩ :=
    plan_of_run create_pair run key (milliseconds 5000) (inTime_halved key)
  refine ⟨_, congrArg Prod.snd resolved, ?_⟩
  have working := congrArg (List.map (fun id => (id, false))) (quorum_halved key)
  have tested := congrArg (List.map (fun id => (id, true))) (due_halved key)
  rw [List.map_map] at working tested
  rw [List.map_append]
  unfold Plan.ofHandles Plan.tests
  rw [List.map_map, List.map_map]
  exact congrArg₂ List.append working tested

end Cluster

end QuorumRouting
