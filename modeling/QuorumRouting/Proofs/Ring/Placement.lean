import QuorumRouting.Proofs.Ring.Building
import Mathlib.Data.List.Nodup

/-!
Placement keys. The key that places a virtual node ends in a colon and a number, and digits hold no
colon; so the last colon of a key parts the id from the number, whatever colons and digits the id
itself has. No two virtual nodes of a ring are placed by the same key, and where their tokens tie,
that is the partitioner's doing.
-/

set_option autoImplicit false

namespace QuorumRouting

/-! ### Texts as bytes -/

private theorem bytes_loop (bytes : ByteArray) (index : Nat) (gathered : List UInt8) :
    ByteArray.toList.loop bytes index gathered =
      gathered.reverse ++ bytes.data.toList.drop index := by
  fun_induction ByteArray.toList.loop bytes index gathered with
  | case1 index gathered inside ih =>
      have bound : index < bytes.data.toList.length := by simpa using inside
      have byte : bytes.get! index = bytes.data.toList[index] := by
        rw [Array.getElem_toList]
        exact getElem!_pos bytes.data index inside
      rw [ih, List.drop_eq_getElem_cons bound, byte]
      simp
  | case2 index gathered outside =>
      have bound : bytes.data.toList.length ≤ index := by simpa using outside
      rw [List.drop_eq_nil_of_le bound, List.append_nil]

theorem Key.ofText_eq (text : String) : Key.ofText text = text.toUTF8.data.toList := by
  change ByteArray.toList.loop text.toUTF8 0 [] = _
  rw [bytes_loop]
  simp

theorem Key.ofText_inj {text other : String} :
    Key.ofText text = Key.ofText other ↔ text = other := by
  rw [Key.ofText_eq, Key.ofText_eq, Array.toList_inj, ← ByteArray.ext_iff]
  exact String.toByteArray_inj

/-! ### Reading a key from its end -/

private theorem eq_nil_of_separator_absent {Item : Type} {separator : Item}
    {middle after rest : List Item} (absent : separator ∉ after)
    (same : separator :: after = middle ++ separator :: rest) : middle = [] := by
  cases middle with
  | nil => rfl
  | cons first others =>
      have inside : separator ∈ after := by
        rw [(List.cons.inj same).2]
        simp
      exact absurd inside absent

/-- A list is parted in one way only at its last separator. -/
private theorem parts_eq_of_separator_absent {Item : Type} {separator : Item}
    {before before' after after' : List Item} (absent : separator ∉ after)
    (absent' : separator ∉ after')
    (same : before ++ separator :: after = before' ++ separator :: after') :
    before = before' ∧ after = after' := by
  rcases List.append_eq_append_iff.mp same with ⟨middle, front, back⟩ | ⟨middle, front, back⟩
  · have nothing := eq_nil_of_separator_absent absent back
    subst nothing
    exact ⟨by simpa using front.symm, (List.cons.inj back).2⟩
  · have nothing := eq_nil_of_separator_absent absent' back
    subst nothing
    exact ⟨by simpa using front, (List.cons.inj back).2.symm⟩

private theorem colon_not_mem_toDigits (number : Nat) : ':' ∉ Nat.toDigits 10 number := by
  intro member
  have digit := Nat.isDigit_of_mem_toDigits (by decide) (by decide) member
  revert digit
  decide

private theorem toDigits_inj {number other : Nat}
    (same : Nat.toDigits 10 number = Nat.toDigits 10 other) : number = other := by
  rw [← Nat.ofDigitChars_ten_toDigits (n := number), same, Nat.ofDigitChars_ten_toDigits]

namespace VirtualNode

theorem placementKey_inj {id other : NodeId} {index next : Nat} :
    placementKey id index = placementKey other next ↔ id = other ∧ index = next := by
  constructor
  · intro same
    have texts := congrArg String.toList (Key.ofText_inj.mp same)
    have spelled (name : NodeId) (number : Nat) :
        (name ++ ":" ++ toString number).toList =
          name.toList ++ ':' :: Nat.toDigits 10 number := by
      simp
    rw [spelled, spelled] at texts
    obtain ⟨names, numbers⟩ := parts_eq_of_separator_absent (colon_not_mem_toDigits index)
      (colon_not_mem_toDigits next) texts
    exact ⟨String.toList_inj.mp names, toDigits_inj numbers⟩
  · rintro ⟨rfl, rfl⟩
    rfl

end VirtualNode

namespace Blueprint

variable {Client : Type} (blueprint : Blueprint) (nodes : List (Handle Client))

def placementKeys : List Key :=
  nodes.flatMap (fun node =>
    (List.range blueprint.virtualNodes).map (VirtualNode.placementKey node.id))

theorem map_token_unsortedPlaces :
    (blueprint.unsortedPlaces nodes).map VirtualNode.token =
      (blueprint.placementKeys nodes).map blueprint.partitioner.token := by
  have numbered : nodes = nodes.zipIdx.map Prod.fst := (List.zipIdx_map_fst 0 nodes).symm
  unfold placementKeys
  rw [numbered, List.flatMap_map, List.map_flatMap, ← numbered]
  unfold unsortedPlaces
  rw [List.map_flatMap]
  simp only [List.map_map]
  rfl

theorem length_placementKeys :
    (blueprint.placementKeys nodes).length = nodes.length * blueprint.virtualNodes := by
  unfold placementKeys
  simp [List.length_flatMap, List.map_const']

variable {nodes}

theorem nodup_placementKeys (distinct : (nodes.map Handle.id).Nodup) :
    (blueprint.placementKeys nodes).Nodup := by
  unfold placementKeys
  rw [List.nodup_flatMap]
  constructor
  · intro node _member
    apply List.Nodup.map _ List.nodup_range
    intro index next same
    exact (VirtualNode.placementKey_inj.mp same).2
  · rw [List.Nodup, List.pairwise_map] at distinct
    apply distinct.imp
    intro node other different key inFirst inSecond
    obtain ⟨index, _, rfl⟩ := List.mem_map.mp inFirst
    obtain ⟨next, _, same⟩ := List.mem_map.mp inSecond
    exact different (VirtualNode.placementKey_inj.mp same).1.symm

/-- Equal keys place the same virtual node of the same node, and a ring over different nodes hashes
each key once: its tokens are those of the keys. -/
theorem placementKeys_distinct (distinct : (nodes.map Handle.id).Nodup) :
    (∀ (id other : NodeId) (index next : Nat),
      VirtualNode.placementKey id index = VirtualNode.placementKey other next →
        id = other ∧ index = next) ∧
    (blueprint.placementKeys nodes).Nodup ∧
    (blueprint.placementKeys nodes).length = nodes.length * blueprint.virtualNodes ∧
    ∀ ring, blueprint.build nodes = .ok ring →
      (ring.places.map VirtualNode.token).Perm
        ((blueprint.placementKeys nodes).map blueprint.partitioner.token) := by
  refine ⟨fun id other index next => VirtualNode.placementKey_inj.mp,
    blueprint.nodup_placementKeys distinct, blueprint.length_placementKeys nodes, ?_⟩
  intro ring built
  obtain ⟨_, rfl⟩ := (build_eq_ok_iff_admits blueprint nodes ring).mp built
  have sorted : (blueprint.ring nodes).places.Perm (blueprint.unsortedPlaces nodes) :=
    List.mergeSort_perm _ _
  rw [← map_token_unsortedPlaces]
  exact sorted.map VirtualNode.token

/-- Names that look like keys of one another still have different keys. -/
theorem placementKeys_of_addresses :
    ((Handle.named 0 ["h", "h:1", "h:1:0"]).map Handle.id).Nodup ∧
      VirtualNode.placementKey "h:1" 1 ≠ VirtualNode.placementKey "h" 11 ∧
      ((ofLengths 2 1).placementKeys (Handle.named 0 ["h", "h:1", "h:1:0"])).Nodup ∧
      ((ofLengths 2 1).placementKeys (Handle.named 0 ["h", "h:1", "h:1:0"])).length = 6 ∧
      (((ofLengths 2 1).ring (Handle.named 0 ["h", "h:1", "h:1:0"])).places.map
        VirtualNode.token).Perm
        (((ofLengths 2 1).placementKeys (Handle.named 0 ["h", "h:1", "h:1:0"])).map
          (ofLengths 2 1).partitioner.token) := by
  have distinct : ((Handle.named 0 ["h", "h:1", "h:1:0"]).map Handle.id).Nodup := by decide
  have built : (ofLengths 2 1).build (Handle.named 0 ["h", "h:1", "h:1:0"]) =
      .ok ((ofLengths 2 1).ring (Handle.named 0 ["h", "h:1", "h:1:0"])) :=
    (build_eq_ok_iff _ _ _).mpr ⟨by decide, rfl⟩
  obtain ⟨settled, different, count, hashed⟩ := placementKeys_distinct (ofLengths 2 1) distinct
  refine ⟨distinct, ?_, different, count, hashed _ built⟩
  intro same
  exact absurd (settled "h:1" "h" 1 11 same).1 (by decide)

end Blueprint

end QuorumRouting
