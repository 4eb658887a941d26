import QuorumRouting.Proofs.Ring.Division

/-!
A node owns the tokens that are looked up at it. Every token is looked up at the first virtual node
at or after it, and past the last virtual node at the first one of the ring; counted over all
tokens, each slot is found as often as its spans say. Of virtual nodes with one token the walk meets
the one in the lowest slot first, so the others have no tokens and their spans are empty.
-/

set_option autoImplicit false

namespace QuorumRouting

theorem ncard_tokens_between (low high : Token) :
    {token : Token | low < token ∧ token ≤ high}.ncard = high.toNat - low.toNat := by
  have readings : UInt64.toNat '' {token : Token | low < token ∧ token ≤ high} =
      Finset.Ioc low.toNat high.toNat := by
    ext number
    rw [Set.mem_image, Finset.mem_coe, Finset.mem_Ioc]
    constructor
    · rintro ⟨token, ⟨above, within⟩, rfl⟩
      exact ⟨UInt64.lt_iff_toNat_lt.mp above, UInt64.le_iff_toNat_le.mp within⟩
    · rintro ⟨above, within⟩
      have same : (UInt64.ofNat number).toNat = number :=
        UInt64.toNat_ofNat_of_lt' (Nat.lt_of_le_of_lt within high.toNat_lt)
      refine ⟨UInt64.ofNat number, ⟨?_, ?_⟩, same⟩
      · rw [UInt64.lt_iff_toNat_lt, same]
        exact above
      · rw [UInt64.le_iff_toNat_le, same]
        exact within
  rw [← Set.ncard_image_of_injective _ (fun _ _ => UInt64.toNat_inj.mp), readings,
    Set.ncard_coe_finset, Nat.card_Ioc]

theorem card_tokens : Nat.card Token = Ring.fullTurn := by
  rw [Nat.card_eq_fintype_card, ← FinEnum.card_eq_fintypeCard]
  rfl

theorem ncard_tokens_outside (low high : Token) :
    {token : Token | token ≤ low ∨ high < token}.ncard =
      Ring.fullTurn - (high.toNat - low.toNat) := by
  have rest : {token : Token | token ≤ low ∨ high < token} =
      {token : Token | low < token ∧ token ≤ high}ᶜ := by
    ext token
    simp only [Set.mem_ofPred_eq, Set.mem_compl_iff, UInt64.lt_iff_toNat_lt, UInt64.le_iff_toNat_le]
    omega
  have whole := Set.ncard_add_ncard_compl {token : Token | low < token ∧ token ≤ high}
  rw [card_tokens, ncard_tokens_between] at whole
  rw [rest]
  omega

private theorem ncard_of_condition (tokens : Set Token) (condition : Prop) [Decidable condition] :
    {token | token ∈ tokens ∧ condition}.ncard = if condition then tokens.ncard else 0 := by
  by_cases holds : condition
  · rw [if_pos holds]
    congr 1
    ext token
    exact and_iff_left holds
  · rw [if_neg holds, Set.ncard_eq_zero]
    ext token
    exact iff_of_false (fun both => holds both.2) (Set.notMem_empty token)

namespace Ring

variable {Client : Type}

def slotAhead : List VirtualNode → Token → Option Nat
  | [], _ => none
  | place :: rest, token =>
      if token ≤ place.token then some place.slot else slotAhead rest token

theorem slotAhead_eq_none_iff (places : List VirtualNode) (token : Token) :
    slotAhead places token = none ↔ ∀ place, place ∈ places → place.token < token := by
  induction places with
  | nil => simp [slotAhead]
  | cons place rest ih =>
      rw [List.forall_mem_cons, ← ih, slotAhead, ← UInt64.not_le]
      by_cases reached : token ≤ place.token
      · simp [reached]
      · simp [reached]

/-- Above the last virtual node none is left ahead. -/
theorem slotAhead_of_beyond {first : VirtualNode} {rest : List VirtualNode}
    (ascending : Ascending (first :: rest)) {token : Token}
    (beyond : (lastOf first rest).token < token) : slotAhead rest token = none := by
  rw [slotAhead_eq_none_iff]
  intro place member
  have under := le_lastOf ascending (List.mem_cons_of_mem first member)
  rw [UInt64.lt_iff_toNat_lt] at beyond ⊢
  omega

theorem head?_dropWhile_behind (places : List VirtualNode) (token : Token) :
    (places.dropWhile (fun place => place.token < token)).head?.map VirtualNode.slot =
      slotAhead places token := by
  induction places with
  | nil => rfl
  | cons place rest ih =>
      rw [slotAhead]
      by_cases reached : token ≤ place.token
      · rw [if_pos reached, List.dropWhile_cons_of_neg (by simpa using reached)]
        rfl
      · rw [if_neg reached, List.dropWhile_cons_of_pos (by simpa using reached), ih]

/-- Past the last virtual node the walk starts at the first one. -/
theorem primarySlot?_eq (ring : Ring Client) (first : VirtualNode) (rest : List VirtualNode)
    (placed : ring.places = first :: rest) (token : Token) :
    ring.primarySlot? token = some ((slotAhead (first :: rest) token).getD first.slot) := by
  have ahead := head?_dropWhile_behind (first :: rest) token
  unfold primarySlot? walk
  rw [placed, List.head?_append, ← ahead]
  cases met : (first :: rest).dropWhile (fun place => place.token < token) with
  | cons place later => rfl
  | nil =>
      have whole := List.takeWhile_append_dropWhile (l := first :: rest)
        (p := fun place => place.token < token)
      rw [met, List.append_nil] at whole
      rw [whole]
      rfl

/-- Behind an earlier virtual node each slot is found ahead as often as the stretches say. -/
theorem ncard_slotAhead (earlier : VirtualNode) (places : List VirtualNode)
    (ascending : Ascending (earlier :: places)) (slot : Nat) :
    {token : Token | earlier.token < token ∧ slotAhead places token = some slot}.ncard =
      ownedIn (stretches earlier places) slot := by
  induction places generalizing earlier with
  | nil =>
      change _ = 0
      rw [Set.ncard_eq_zero]
      ext token
      exact iff_of_false (fun both => nomatch both.2) (Set.notMem_empty token)
  | cons place rest ih =>
      obtain ⟨least, later⟩ := List.pairwise_cons.mp ascending
      have onward := least place List.mem_cons_self
      -- A token up to this virtual node is looked up here, one above it in the rest.
      have parts : {token : Token |
          earlier.token < token ∧ slotAhead (place :: rest) token = some slot} =
          {token | token ∈ {token : Token | earlier.token < token ∧ token ≤ place.token} ∧
              place.slot = slot} ∪
            {token : Token | place.token < token ∧ slotAhead rest token = some slot} := by
        ext token
        rw [Set.mem_union]
        simp only [Set.mem_ofPred_eq, slotAhead]
        by_cases reached : token ≤ place.token
        · have short : ¬ (place.token < token ∧ slotAhead rest token = some slot) :=
            fun both => UInt64.not_le.mpr both.1 reached
          rw [if_pos reached, Option.some_inj, or_iff_left short, and_iff_left reached]
        · have above := UInt64.not_le.mp reached
          rw [if_neg reached, or_iff_right (fun both => reached both.1.2), and_iff_right above,
            and_iff_right]
          rw [UInt64.lt_iff_toNat_lt] at above ⊢
          omega
      have apart : Disjoint
          {token | token ∈ {token : Token | earlier.token < token ∧ token ≤ place.token} ∧
            place.slot = slot}
          {token : Token | place.token < token ∧ slotAhead rest token = some slot} :=
        Set.disjoint_left.mpr (fun token here there => UInt64.not_le.mpr there.1 here.1.2)
      rw [parts, Set.ncard_union_eq apart, ncard_of_condition, ncard_tokens_between, ih place later,
        stretches, ownedIn_cons, toNat_distanceTo_of_le onward]

theorem ncard_primarySlot? (ring : Ring Client) (first : VirtualNode) (rest : List VirtualNode)
    (placed : ring.places = first :: rest) (ascending : Ascending (first :: rest))
    (divided : ring.Divided) (slot : Nat) :
    {token : Token | ring.primarySlot? token = some slot}.ncard = ring.ownedTokens slot := by
  -- The first virtual node answers for the tokens at both ends, the others for those in between.
  have parts : {token : Token | ring.primarySlot? token = some slot} =
      {token | token ∈ {token : Token | token ≤ first.token ∨ (lastOf first rest).token < token} ∧
          first.slot = slot} ∪
        {token : Token | first.token < token ∧ slotAhead rest token = some slot} := by
    ext token
    rw [Set.mem_union]
    simp only [Set.mem_ofPred_eq, primarySlot?_eq ring first rest placed, slotAhead]
    by_cases low : token ≤ first.token
    · rw [if_pos low, or_iff_left (fun both => UInt64.not_le.mpr both.1 low)]
      simp [low]
    · rw [if_neg low, and_iff_right (UInt64.not_le.mp low)]
      cases ahead : slotAhead rest token with
      | none =>
          have behind := (slotAhead_eq_none_iff rest token).mp ahead
          have beyond : (lastOf first rest).token < token := by
            rcases List.mem_cons.mp (List.getLast_mem (List.cons_ne_nil first rest)) with
              same | member
            · unfold lastOf
              rw [same]
              exact UInt64.not_le.mp low
            · exact behind _ member
          simp [beyond]
      | some owner =>
          have within : ¬ (lastOf first rest).token < token := by
            intro beyond
            rw [slotAhead_of_beyond ascending beyond] at ahead
            cases ahead
          simp [low, within]
  have apart : Disjoint
      {token | token ∈ {token : Token | token ≤ first.token ∨ (lastOf first rest).token < token} ∧
        first.slot = slot}
      {token : Token | first.token < token ∧ slotAhead rest token = some slot} := by
    apply Set.disjoint_left.mpr
    rintro token ⟨low | beyond, -⟩ ⟨above, ahead⟩
    · exact UInt64.not_le.mpr above low
    · rw [slotAhead_of_beyond ascending beyond] at ahead
      cases ahead
  change _ = ownedIn ring.spans slot
  rw [parts, Set.ncard_union_eq apart, ncard_of_condition, ncard_tokens_outside,
    ncard_slotAhead first rest ascending, spans_eq ring first rest placed, ownedIn_cons,
    wrapSpan_of_divided first rest ((divided_iff ring first rest placed ascending).mp divided)]

/-! ### Virtual nodes with one token -/

/-- A lookup finds the virtual node that the walk meets first: the nearest one, and of those with
its token the one in the lowest slot. -/
theorem exists_nearest_place (ring : Ring Client) (some_place : ring.places ≠ [])
    (ordered : ring.places.Pairwise (fun first second => first.atMost second = true))
    (token : Token) :
    ∃ place, place ∈ ring.places ∧ ring.primarySlot? token = some place.slot ∧
      ∀ other, other ∈ ring.places → VirtualNode.MetBefore token place other := by
  have met := ring.walk_pairwise token ordered
  have everybody := ring.walk_perm token
  unfold primarySlot?
  cases walk : ring.walk token with
  | nil =>
      rw [walk] at everybody
      exact absurd everybody.nil_eq.symm some_place
  | cons place rest =>
      rw [walk] at met everybody
      refine ⟨place, everybody.mem_iff.mp List.mem_cons_self, rfl, ?_⟩
      intro other member
      rcases List.mem_cons.mp (everybody.mem_iff.mpr member) with same | later
      · subst same
        exact .inr ⟨rfl, Nat.le_refl _⟩
      · exact (List.pairwise_cons.mp met).1 other later

theorem getElem?_stretches {earlier : VirtualNode} {places : List VirtualNode} {index : Nat}
    {before place : VirtualNode} (previous : (earlier :: places)[index]? = some before)
    (here : places[index]? = some place) :
    (stretches earlier places)[index]? =
      some (place.slot, (before.token.distanceTo place.token).toNat) := by
  induction places generalizing earlier index with
  | nil => cases here
  | cons first rest ih =>
      cases index with
      | zero =>
          cases previous
          cases here
          rfl
      | succ index => exact ih previous here

private theorem related_of_getElem? {Item : Type} {relation : Item → Item → Prop}
    {items : List Item} (ordered : items.Pairwise relation) {earlier later : Nat}
    (before : earlier < later) {one other : Item} (atEarlier : items[earlier]? = some one)
    (atLater : items[later]? = some other) : relation one other := by
  obtain ⟨earlierBound, rfl⟩ := List.getElem?_eq_some_iff.mp atEarlier
  obtain ⟨laterBound, rfl⟩ := List.getElem?_eq_some_iff.mp atLater
  exact List.pairwise_iff_getElem.mp ordered earlier later earlierBound laterBound before

/-- Of two virtual nodes with one token the later one owns nothing. -/
theorem getElem?_spans_of_tie (ring : Ring Client)
    (ordered : ring.places.Pairwise (fun first second => first.atMost second = true))
    {earlier later : Nat} (before : earlier < later) {place other : VirtualNode}
    (atEarlier : ring.places[earlier]? = some place) (atLater : ring.places[later]? = some other)
    (tied : place.token = other.token) :
    place.slot ≤ other.slot ∧ ring.spans[later]? = some (other.slot, 0) := by
  have ascending := ascending_of_sorted ordered
  refine ⟨?_, ?_⟩
  · have inOrder := related_of_getElem? ordered before atEarlier atLater
    rw [VirtualNode.atMost_iff, tied] at inOrder
    rcases inOrder with below | ⟨-, slots⟩
    · exact absurd below (UInt64.lt_irrefl _)
    · exact slots
  · -- The virtual node right before the later one has the same token as well.
    obtain ⟨index, rfl⟩ : ∃ index, later = index + 1 := ⟨later - 1, by omega⟩
    have bound : index < ring.places.length :=
      Nat.lt_of_succ_lt (List.getElem?_eq_some_iff.mp atLater).1
    obtain ⟨middle, atIndex⟩ : ∃ middle, ring.places[index]? = some middle :=
      ⟨_, List.getElem?_eq_getElem bound⟩
    have between : middle.token = other.token := by
      have upper := related_of_getElem? ascending (Nat.lt_succ_self index) atIndex atLater
      rcases Nat.lt_succ_iff_lt_or_eq.mp before with further | same
      · have lower := related_of_getElem? ascending further atEarlier atIndex
        rw [← UInt64.toNat_inj] at tied ⊢
        omega
      · subst same
        rw [atIndex] at atEarlier
        rw [Option.some.inj atEarlier, tied]
    cases placed : ring.places with
    | nil =>
        rw [placed] at atIndex
        cases atIndex
    | cons first rest =>
        rw [placed] at atIndex atLater
        rw [List.getElem?_cons_succ] at atLater
        rw [spans_eq ring first rest placed, List.getElem?_cons_succ,
          getElem?_stretches atIndex atLater, between, Token.distanceTo_self, UInt64.toNat_zero]

end Ring

namespace Blueprint

variable {Client : Type}

open QuorumRouting.Ring

/-- On a divided ring a node owns as many tokens as are looked up at it, and all nodes together own
the full turn. A tie goes to the lowest slot, and the rest of the tie owns nothing. -/
theorem territory_of_build (blueprint : Blueprint) (nodes : List (Handle Client))
    (ring : Ring Client) (built : blueprint.build nodes = .ok ring) (divided : ring.Divided) :
    (∀ slot, ring.ownedTokens slot =
        {token : Token | ring.primarySlot? token = some slot}.ncard) ∧
      ∑ slot ∈ Finset.range nodes.length, ring.ownedTokens slot = fullTurn ∧
      (∀ part slot, part <+: ring.spans → ownedIn part slot ≤ fullTurn) ∧
      fullTurn < Nat.pow 2 128 ∧
      (∀ token, ∃ place, place ∈ ring.places ∧ ring.primarySlot? token = some place.slot ∧
        ∀ other, other ∈ ring.places → VirtualNode.MetBefore token place other) ∧
      ∀ (earlier later : Nat) (place other : VirtualNode), earlier < later →
        ring.places[earlier]? = some place → ring.places[later]? = some other →
          place.token = other.token →
            place.slot ≤ other.slot ∧ ring.spans[later]? = some (other.slot, 0) := by
  obtain ⟨admitted, rfl⟩ := (build_eq_ok_iff_admits blueprint nodes ring).mp built
  have ordered : (blueprint.ring nodes).places.Pairwise
      (fun first second => first.atMost second = true) := VirtualNode.sorted_pairwise _
  have some_place : (blueprint.ring nodes).places ≠ [] := by
    intro empty
    unfold Divided tokenCount at divided
    simp [empty] at divided
  obtain ⟨first, rest, placed⟩ := List.exists_cons_of_ne_nil some_place
  have ascending := placed ▸ ascending_of_sorted ordered
  have whole := (extent_spans _ first rest placed ascending).1 divided
  refine ⟨?_, ?_, ?_, by decide, exists_nearest_place _ some_place ordered, ?_⟩
  · intro slot
    exact (ncard_primarySlot? _ first rest placed ascending divided slot).symm
  · rw [← whole]
    exact sum_ownedIn _ _ (fun span => blueprint.slot_lt_of_mem_spans nodes)
  · rintro part slot ⟨others, joined⟩
    rw [← joined, extent_append] at whole
    have within := ownedIn_le_extent part slot
    omega
  · intro earlier later place other before atEarlier atLater tied
    exact getElem?_spans_of_tie _ ordered before atEarlier atLater tied

theorem territory_tied :
    (ofLengths 2 2).build (Handle.named 0 ["ab", "c", "d"]) =
        .ok ((ofLengths 2 2).ring (Handle.named 0 ["ab", "c", "d"])) ∧
      ((ofLengths 2 2).ring (Handle.named 0 ["ab", "c", "d"])).Divided ∧
      {token : Token | ((ofLengths 2 2).ring (Handle.named 0 ["ab", "c", "d"])).primarySlot? token =
        some 1}.ncard = fullTurn - 1 ∧
      {token : Token | ((ofLengths 2 2).ring (Handle.named 0 ["ab", "c", "d"])).primarySlot? token =
        some 2}.ncard = 0 := by
  obtain ⟨counted, -⟩ := territory_of_build (ofLengths 2 2) _ _ build_tied divided_tied
  refine ⟨build_tied, divided_tied, ?_, ?_⟩
  · rw [← counted]
    cbv
  · rw [← counted]
    cbv

end Blueprint

end QuorumRouting
