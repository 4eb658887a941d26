import QuorumRouting.Ring.Blueprint

/-!
When rings can be built. A blueprint refuses a list of nodes by its numbers, its length and its
repeated ids only; dropping nodes from a list therefore never stands against building.
-/

set_option autoImplicit false

namespace QuorumRouting.Blueprint

variable {Client : Type}

theorem firstRepeated_eq_none_iff (earlier ids : List NodeId) :
    firstRepeated earlier ids = none ↔ ids.Nodup ∧ ∀ id, id ∈ ids → id ∉ earlier := by
  induction ids generalizing earlier with
  | nil => simp [firstRepeated]
  | cons id rest ih =>
      by_cases repeated : id ∈ earlier
      · simp [firstRepeated, repeated]
      · simp only [firstRepeated, if_neg repeated, ih, List.nodup_cons, List.mem_cons,
          forall_eq_or_imp, not_or]
        constructor
        · rintro ⟨distinct, absent⟩
          exact ⟨⟨fun present => (absent id present).1 rfl, distinct⟩, repeated,
            fun other present => (absent other present).2⟩
        · rintro ⟨⟨fresh, distinct⟩, _, absent⟩
          refine ⟨distinct, fun other present => ⟨?_, absent other present⟩⟩
          intro same
          subst same
          exact fresh present

/-- Is it the first entry of a list that occurred earlier in it? -/
def FirstRepeat (ids : List NodeId) (id : NodeId) : Prop :=
  ∃ front back, ids = front ++ id :: back ∧ front.Nodup ∧ id ∈ front

private theorem firstRepeated_eq_some_iff_split (earlier ids : List NodeId) (id : NodeId) :
    firstRepeated earlier ids = some id ↔ ∃ front back, ids = front ++ id :: back ∧
      front.Nodup ∧ (∀ other, other ∈ front → other ∉ earlier) ∧ (id ∈ earlier ∨ id ∈ front) := by
  induction ids generalizing earlier with
  | nil => simp [firstRepeated]
  | cons head rest ih =>
      unfold firstRepeated
      by_cases repeated : head ∈ earlier
      · rw [if_pos repeated, Option.some_inj]
        constructor
        · rintro rfl
          exact ⟨[], rest, rfl, List.nodup_nil, List.forall_mem_nil _, .inl repeated⟩
        · rintro ⟨front, back, split, -, fresh, -⟩
          cases front with
          | nil => exact (List.cons.inj split).1
          | cons first others =>
              exact absurd ((List.cons.inj split).1 ▸ repeated) (fresh first List.mem_cons_self)
      · rw [if_neg repeated, ih]
        constructor
        · rintro ⟨front, back, rfl, distinct, fresh, again⟩
          have notHead : head ∉ front := fun present => fresh head present List.mem_cons_self
          refine ⟨head :: front, back, rfl, List.nodup_cons.mpr ⟨notHead, distinct⟩, ?_, ?_⟩
          · intro other present
            rcases List.mem_cons.mp present with rfl | later
            · exact repeated
            · exact fun before => fresh other later (List.mem_cons_of_mem head before)
          · rw [List.mem_cons] at again ⊢
            rw [← or_assoc, or_comm (a := id ∈ earlier)]
            exact again
        · rintro ⟨front, back, split, distinct, fresh, again⟩
          cases front with
          | nil =>
              obtain ⟨rfl, -⟩ := List.cons.inj split
              exact absurd (again.resolve_right List.not_mem_nil) repeated
          | cons first others =>
              obtain ⟨rfl, rfl⟩ := List.cons.inj split
              obtain ⟨notHead, different⟩ := List.nodup_cons.mp distinct
              refine ⟨others, back, rfl, different, ?_, ?_⟩
              · intro other present before
                rcases List.mem_cons.mp before with rfl | older
                · exact notHead present
                · exact fresh other (List.mem_cons_of_mem _ present) older
              · rw [List.mem_cons] at again ⊢
                rw [← or_assoc, or_comm (a := id ∈ earlier)] at again
                exact again

theorem firstRepeated_eq_some_iff (ids : List NodeId) (id : NodeId) :
    firstRepeated [] ids = some id ↔ FirstRepeat ids id := by
  rw [firstRepeated_eq_some_iff_split]
  simp only [List.not_mem_nil, not_false_eq_true, implies_true, true_and, false_or, FirstRepeat]

inductive Refused (nodes : List (Handle Client)) : Refusal → Prop where
  | crowd (many : largestNodeCount < nodes.length) :
      Refused nodes (.invalidNode "too many nodes for one ring")
  | repeated (few : nodes.length ≤ largestNodeCount) (id : NodeId)
      (again : FirstRepeat (nodes.map Handle.id) id) : Refused nodes (.duplicateNode id)

theorem build_eq_refused_iff {blueprint : Blueprint} {nodes : List (Handle Client)}
    (virtualNodes_pos : 0 < blueprint.virtualNodes) (quorumSize_pos : 0 < blueprint.quorumSize)
    (reason : Refusal) :
    blueprint.build nodes = .error (.refused reason) ↔ Refused nodes reason := by
  unfold build obstacle
  dsimp only
  rw [if_neg (Nat.ne_of_gt virtualNodes_pos), if_neg (Nat.ne_of_gt quorumSize_pos)]
  by_cases many : largestNodeCount < nodes.length
  · rw [if_pos many]
    constructor
    · intro refused
      cases refused
      exact .crowd many
    · rintro (- | ⟨few, -, -⟩)
      · rfl
      · exact absurd few (Nat.not_le.mpr many)
  · rw [if_neg many]
    cases found : firstRepeated [] (nodes.map Handle.id) with
    | some id =>
        have again := (firstRepeated_eq_some_iff _ _).mp found
        constructor
        · intro refused
          cases refused
          exact .repeated (Nat.le_of_not_lt many) id again
        · rintro (crowded | ⟨-, other, first⟩)
          · exact absurd crowded many
          · rw [(firstRepeated_eq_some_iff _ _).mpr first] at found
            rw [Option.some.inj found]
    | none =>
        constructor
        · intro refused
          dsimp only at refused
          split at refused
          · rename_i obstacle cause
            split at cause
            · cases cause
              cases refused
            · split at cause
              · cases cause
                cases refused
              · cases cause
          · cases refused
        · rintro (crowded | ⟨-, other, first⟩)
          · exact absurd crowded many
          · rw [(firstRepeated_eq_some_iff _ _).mpr first] at found
            cases found

inductive Excessive (blueprint : Blueprint) (count : Nat) : Overflow → Prop where
  | product (uncountable : UInt64.size ≤ count * blueprint.virtualNodes) :
      Excessive blueprint count .product
  | capacity (countable : count * blueprint.virtualNodes < UInt64.size)
      (large : Overflow.largestListBytes < count * blueprint.virtualNodes * virtualNodeBytes) :
      Excessive blueprint count .capacity

/-- Only lists that are not refused come as far as an overflow. -/
theorem build_eq_overflowed_iff {blueprint : Blueprint} {nodes : List (Handle Client)}
    (virtualNodes_pos : 0 < blueprint.virtualNodes) (quorumSize_pos : 0 < blueprint.quorumSize)
    (cause : Overflow) :
    blueprint.build nodes = .error (.overflowed cause) ↔
      nodes.length ≤ largestNodeCount ∧ (nodes.map Handle.id).Nodup ∧
        blueprint.Excessive nodes.length cause := by
  unfold build obstacle
  dsimp only
  rw [if_neg (Nat.ne_of_gt virtualNodes_pos), if_neg (Nat.ne_of_gt quorumSize_pos)]
  by_cases many : largestNodeCount < nodes.length
  · rw [if_pos many]
    exact iff_of_false nofun (fun excessive => Nat.not_le.mpr many excessive.1)
  · rw [if_neg many]
    cases found : firstRepeated [] (nodes.map Handle.id) with
    | some id =>
        refine iff_of_false nofun (fun excessive => ?_)
        have unrepeated := (firstRepeated_eq_none_iff [] (nodes.map Handle.id)).mpr
          ⟨excessive.2.1, fun _ _ => List.not_mem_nil⟩
        rw [unrepeated] at found
        cases found
    | none =>
        have distinct := ((firstRepeated_eq_none_iff [] (nodes.map Handle.id)).mp found).1
        rw [and_iff_right (Nat.le_of_not_lt many), and_iff_right distinct]
        dsimp only
        by_cases uncountable : UInt64.size ≤ nodes.length * blueprint.virtualNodes
        · rw [if_pos uncountable]
          constructor
          · intro overflowed
            cases overflowed
            exact .product uncountable
          · rintro (- | ⟨countable, -⟩)
            · rfl
            · exact absurd uncountable (Nat.not_le.mpr countable)
        · rw [if_neg uncountable]
          by_cases large : Overflow.largestListBytes <
              nodes.length * blueprint.virtualNodes * virtualNodeBytes
          · rw [if_pos large]
            constructor
            · intro overflowed
              cases overflowed
              exact .capacity (Nat.lt_of_not_le uncountable) large
            · rintro (uncounted | -)
              · exact absurd uncounted uncountable
              · rfl
          · rw [if_neg large]
            refine iff_of_false nofun ?_
            rintro (uncounted | ⟨-, larger⟩)
            · exact uncountable uncounted
            · exact large larger

theorem excessive_iff (blueprint : Blueprint) (count : Nat) :
    (∃ cause, blueprint.Excessive count cause) ↔
      Overflow.largestListBytes < count * blueprint.virtualNodes * virtualNodeBytes := by
  constructor
  · rintro ⟨cause, uncountable | ⟨-, large⟩⟩
    · unfold Overflow.largestListBytes virtualNodeBytes
      have size : UInt64.size = 2 ^ 64 := rfl
      omega
    · exact large
  · intro large
    by_cases uncountable : UInt64.size ≤ count * blueprint.virtualNodes
    · exact ⟨.product, .product uncountable⟩
    · exact ⟨.capacity, .capacity (Nat.lt_of_not_le uncountable) large⟩

/-- With so many virtual nodes no list is too large that is not refused. -/
def ampleVirtualNodes : Nat :=
  Overflow.largestListBytes / (largestNodeCount * virtualNodeBytes)

theorem le_ampleVirtualNodes_iff (blueprint : Blueprint) :
    blueprint.virtualNodes ≤ ampleVirtualNodes ↔
      ∀ count, count ≤ largestNodeCount → ∀ cause, ¬ blueprint.Excessive count cause := by
  have room : blueprint.virtualNodes ≤ ampleVirtualNodes ↔
      largestNodeCount * blueprint.virtualNodes * virtualNodeBytes ≤
        Overflow.largestListBytes := by
    unfold ampleVirtualNodes
    rw [Nat.le_div_iff_mul_le (by decide), ← Nat.mul_assoc,
      Nat.mul_comm blueprint.virtualNodes largestNodeCount]
  rw [room]
  constructor
  · intro fits count few cause excessive
    have large := (blueprint.excessive_iff count).mp ⟨cause, excessive⟩
    have most : count * blueprint.virtualNodes * virtualNodeBytes ≤
        largestNodeCount * blueprint.virtualNodes * virtualNodeBytes :=
      Nat.mul_le_mul_right _ (Nat.mul_le_mul_right _ few)
    exact absurd (Nat.le_trans most fits) (Nat.not_le.mpr large)
  · intro spared
    apply Nat.le_of_not_lt
    intro large
    obtain ⟨cause, excessive⟩ := (blueprint.excessive_iff largestNodeCount).mpr large
    exact spared largestNodeCount (Nat.le_refl _) cause excessive

example : ampleVirtualNodes = 134217728 := rfl

structure Admits (blueprint : Blueprint) (nodes : List (Handle Client)) : Prop where
  virtualNodes_pos : 0 < blueprint.virtualNodes
  quorumSize_pos : 0 < blueprint.quorumSize
  length_le : nodes.length ≤ largestNodeCount
  distinct : (nodes.map Handle.id).Nodup
  product_lt : nodes.length * blueprint.virtualNodes < UInt64.size
  capacity_le : nodes.length * blueprint.virtualNodes * virtualNodeBytes ≤
    Overflow.largestListBytes

theorem obstacle_eq_none_iff (blueprint : Blueprint) (nodes : List (Handle Client)) :
    blueprint.obstacle nodes = none ↔ blueprint.Admits nodes := by
  unfold obstacle
  constructor
  · intro free
    by_cases noPlaces : blueprint.virtualNodes = 0
    · simp [noPlaces] at free
    by_cases noQuorum : blueprint.quorumSize = 0
    · simp [noPlaces, noQuorum] at free
    by_cases many : largestNodeCount < nodes.length
    · simp [noPlaces, noQuorum, many] at free
    cases repeated : firstRepeated [] (nodes.map Handle.id) with
    | some id => simp [noPlaces, noQuorum, many, repeated] at free
    | none =>
        simp only [noPlaces, noQuorum, many, repeated, if_false] at free
        split at free
        · cases free
        · rename_i fits
          split at free
          · cases free
          · rename_i holds
            exact
              { virtualNodes_pos := Nat.pos_of_ne_zero noPlaces
                quorumSize_pos := Nat.pos_of_ne_zero noQuorum
                length_le := Nat.le_of_not_lt many
                distinct := ((firstRepeated_eq_none_iff _ _).mp repeated).1
                product_lt := Nat.lt_of_not_le fits
                capacity_le := Nat.le_of_not_lt holds }
  · intro admitted
    have unrepeated : firstRepeated [] (nodes.map Handle.id) = none :=
      (firstRepeated_eq_none_iff _ _).mpr ⟨admitted.distinct, by simp⟩
    simp only [unrepeated, if_neg (Nat.ne_of_gt admitted.virtualNodes_pos),
      if_neg (Nat.ne_of_gt admitted.quorumSize_pos), if_neg (Nat.not_lt.mpr admitted.length_le),
      if_neg (Nat.not_le.mpr admitted.product_lt), if_neg (Nat.not_lt.mpr admitted.capacity_le)]

/-- Too many nodes are refused before anything else is said of them. -/
theorem build_of_crowd {blueprint : Blueprint} {nodes : List (Handle Client)}
    (virtualNodes_pos : 0 < blueprint.virtualNodes) (quorumSize_pos : 0 < blueprint.quorumSize)
    (many : largestNodeCount < nodes.length) :
    blueprint.build nodes =
      .error (.refused (.invalidNode "too many nodes for one ring")) :=
  (build_eq_refused_iff virtualNodes_pos quorumSize_pos _).mpr (.crowd many)

/-- Distinct nodes that are not too many can only have too many virtual nodes. -/
theorem overflowed_of_build {blueprint : Blueprint} {nodes : List (Handle Client)}
    {failure : Failure Refusal} (virtualNodes_pos : 0 < blueprint.virtualNodes)
    (quorumSize_pos : 0 < blueprint.quorumSize) (few : nodes.length ≤ largestNodeCount)
    (distinct : (nodes.map Handle.id).Nodup) (unbuilt : blueprint.build nodes = .error failure) :
    ∃ cause, failure = .overflowed cause := by
  cases failure with
  | overflowed cause => exact ⟨cause, rfl⟩
  | refused reason =>
      rcases (build_eq_refused_iff virtualNodes_pos quorumSize_pos reason).mp unbuilt with
        crowded | ⟨-, id, front, back, split, -, again⟩
      · exact absurd few (Nat.not_le.mpr crowded)
      · rw [split, List.nodup_append] at distinct
        exact absurd rfl (distinct.2.2 id again id List.mem_cons_self)

theorem build_eq_ok_iff_admits (blueprint : Blueprint) (nodes : List (Handle Client))
    (built : Ring Client) :
    blueprint.build nodes = .ok built ↔ blueprint.Admits nodes ∧ blueprint.ring nodes = built := by
  rw [build_eq_ok_iff, obstacle_eq_none_iff]

theorem Admits.build {blueprint : Blueprint} {nodes : List (Handle Client)}
    (admitted : blueprint.Admits nodes) : blueprint.build nodes = .ok (blueprint.ring nodes) :=
  (build_eq_ok_iff_admits blueprint nodes _).mpr ⟨admitted, rfl⟩

theorem Admits.of_build {blueprint : Blueprint} {nodes : List (Handle Client)}
    {built : Ring Client} (success : blueprint.build nodes = .ok built) :
    blueprint.Admits nodes :=
  ((build_eq_ok_iff_admits blueprint nodes built).mp success).1

/-- A part of the nodes, in the same order, needs no more than all of them. -/
theorem Admits.sublist {blueprint : Blueprint} {part nodes : List (Handle Client)}
    (admitted : blueprint.Admits nodes) (within : part.Sublist nodes) :
    blueprint.Admits part := by
  have shorter : part.length ≤ nodes.length := within.length_le
  have fewer : part.length * blueprint.virtualNodes ≤ nodes.length * blueprint.virtualNodes :=
    Nat.mul_le_mul_right blueprint.virtualNodes shorter
  exact
    { virtualNodes_pos := admitted.virtualNodes_pos
      quorumSize_pos := admitted.quorumSize_pos
      length_le := Nat.le_trans shorter admitted.length_le
      distinct := admitted.distinct.sublist (within.map Handle.id)
      product_lt := Nat.lt_of_le_of_lt fewer admitted.product_lt
      capacity_le :=
        Nat.le_trans (Nat.mul_le_mul_right virtualNodeBytes fewer) admitted.capacity_le }

/-- Keys placed by their lengths: nodes with ids of one length tie everywhere. -/
def ofLengths (virtualNodes quorumSize : Nat) : Blueprint :=
  { partitioner := { name := "Len", token := fun key => UInt64.ofNat key.length }
    virtualNodes := virtualNodes
    quorumSize := quorumSize }

theorem build_tied :
    (ofLengths 2 2).build (Handle.named 0 ["ab", "c", "d"]) =
      .ok ((ofLengths 2 2).ring (Handle.named 0 ["ab", "c", "d"])) :=
  (build_eq_ok_iff _ _ _).mpr ⟨by decide, rfl⟩

end QuorumRouting.Blueprint
