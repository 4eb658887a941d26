import QuorumRouting.Proofs.Settings.Values
import QuorumRouting.Settings.File

/-!
Settings files read back. Reading an object takes its members one after another into a draft that
starts from the usual settings. No two members name one field, so every draft agrees with the
settings that were written in all fields met so far; at the end these are all fields but those that
were left out, and the order of the members makes no difference.
-/

set_option autoImplicit false

namespace QuorumRouting.Settings

open Json QuorumRouting.Field

/-! ### Drafts -/

def emptyDraft : Draft :=
  { settings := usual, met := [] }

def Draft.take (source : Settings) (draft : Draft) (field : Field) : Draft :=
  { settings := field.copy source draft.settings, met := field :: draft.met }

theorem Draft.agree_foldl {source : Settings} (fields : List Field) (draft : Draft) {field : Field}
    (agreed : field ∈ fields ∨ Agree source draft.settings field) :
    Agree source (fields.foldl (Draft.take source) draft).settings field := by
  induction fields generalizing draft with
  | nil => exact agreed.resolve_left List.not_mem_nil
  | cons next others ih =>
      apply ih
      by_cases same : field = next
      · subst same
        exact Or.inr (agree_copy_self source draft.settings field)
      · rcases agreed with member | before
        · exact Or.inl ((List.mem_cons.mp member).resolve_left same)
        · exact Or.inr (agree_copy_of_ne same before)

theorem Draft.ignoredTest_foldl {source : Settings} (fields : List Field) (draft : Draft) :
    (fields.foldl (Draft.take source) draft).settings.ignoredTest =
      draft.settings.ignoredTest := by
  induction fields generalizing draft with
  | nil => rfl
  | cons next others ih => exact (ih _).trans (ignoredTest_copy source draft.settings next)

/-- Nothing is lost with fields that have their usual values. -/
theorem settings_foldl {settings : Settings} {fields : List Field}
    (untested : settings.ignoredTest = none)
    (omitted : ∀ field, field ∉ fields → Agree settings usual field) :
    (fields.foldl (Draft.take settings) emptyDraft).settings = settings := by
  symm
  apply settings_ext
  · intro field
    by_cases member : field ∈ fields
    · exact Draft.agree_foldl fields emptyDraft (Or.inl member)
    · exact Draft.agree_foldl fields emptyDraft (Or.inr (omitted field member))
  · rw [Draft.ignoredTest_foldl]
    exact untested

/-! ### Members -/

theorem readKey_writeText (name : String) (rest : List Char) :
    readKey (writeText name.toList ++ ':' :: rest) = some (name, rest) := by
  unfold readKey
  rw [readString_writeText]
  rfl

theorem endsNumber_members (items : List (List Char)) (rest : List Char) :
    EndsNumber (continued items ++ '}' :: rest) := by
  cases items with
  | nil => exact endsNumber_brace rest
  | cons item others => exact endsNumber_comma _

section

variable {settings : Settings} {result : Float}
  (reread : ReadAs settings.failureRatioThreshold result)

include reread

theorem readMember_writeMember (draft : Draft) {field : Field} {rest : List Char}
    (unmet : field ∉ draft.met) (ends : EndsNumber rest) :
    readMember draft (settings.writeMember field ++ rest) =
      some (draft.take (settings.reread result) field, rest) := by
  unfold readMember writeMember
  rw [List.append_assoc, List.cons_append, readKey_writeText]
  simp only [Option.bind_some, ofName?_name, if_neg unmet,
    readValue_writeValue draft.settings reread ends, Option.map_some]
  rfl

theorem readMoreMembers_continued (fields : List Field) (rest : List Char) (draft : Draft)
    {fuel : Nat} (enough : fields.length < fuel) (distinct : fields.Nodup)
    (unmet : ∀ field, field ∈ fields → field ∉ draft.met) :
    readMoreMembers fuel draft (continued (fields.map settings.writeMember) ++ '}' :: rest) =
      some (fields.foldl (Draft.take (settings.reread result)) draft, rest) := by
  induction fields generalizing draft fuel with
  | nil =>
      cases fuel with
      | zero => cases enough
      | succ less => rfl
  | cons field others ih =>
      cases fuel with
      | zero => cases enough
      | succ less =>
          obtain ⟨once, different⟩ := List.nodup_cons.mp distinct
          have stillUnmet : ∀ other, other ∈ others →
              other ∉ (draft.take (settings.reread result) field).met := by
            intro other member met
            rcases List.mem_cons.mp met with same | before
            · exact once (same ▸ member)
            · exact unmet other (List.mem_cons_of_mem field member) before
          simp only [List.map_cons, continued, List.flatMap_cons, List.cons_append,
            List.append_assoc]
          change (readMember draft (settings.writeMember field ++
            (continued (others.map settings.writeMember) ++ '}' :: rest))).bind _ = _
          rw [readMember_writeMember reread draft (unmet field List.mem_cons_self)
            (endsNumber_members _ rest)]
          exact ih _ (Nat.lt_of_succ_lt_succ enough) different stillUnmet

/-! ### Objects -/

theorem read_writeFields {fields : List Field} (distinct : fields.Nodup) :
    read (settings.writeFields fields) =
      some (fields.foldl (Draft.take (settings.reread result)) emptyDraft).settings := by
  cases fields with
  | nil => rfl
  | cons field others =>
      obtain ⟨once, different⟩ := List.nodup_cons.mp distinct
      have unmet : ∀ other, other ∈ others →
          other ∉ (emptyDraft.take (settings.reread result) field).met := by
        intro other member met
        exact once (List.mem_singleton.mp met ▸ member)
      have enough : others.length <
          (continued (others.map settings.writeMember) ++ ['}']).length + 1 := by
        have bound := length_le_continued (others.map settings.writeMember)
        rw [List.length_map] at bound
        rw [List.length_append]
        omega
      have object : readObject (settings.writeMember field ++
          (continued (others.map settings.writeMember) ++ ['}'])) =
            some (((field :: others).foldl (Draft.take (settings.reread result))
              emptyDraft).settings, []) := by
        change (readMember emptyDraft (settings.writeMember field ++
          (continued (others.map settings.writeMember) ++ ['}']))).bind _ = _
        rw [readMember_writeMember reread emptyDraft List.not_mem_nil (endsNumber_members _ [])]
        change (readMoreMembers _ _
          (continued (others.map settings.writeMember) ++ ['}'])).map _ = _
        rw [readMoreMembers_continued reread others [] _ enough different unmet]
        rfl
      unfold writeFields
      rw [List.map_cons, separated_cons, List.cons_append, List.append_assoc]
      change (readObject _).bind _ = _
      rw [object]
      rfl

end

/-- Settings that can be used and have no test come back from a file with all fields, and from every
file with their fields in any order from which only fields with usual values are left out. -/
theorem settings_of_file {settings : Settings} (untested : settings.ignoredTest = none)
    (usable : settings.check = .ok settings)
    (faithful : ReadAs settings.failureRatioThreshold settings.failureRatioThreshold) :
    ofText settings.toText = .ok settings ∧
      ∀ fields : List Field, fields.Nodup →
        (∀ field, field ∉ fields → Agree settings usual field) →
          ofText (String.ofList (settings.writeFields fields)) = .ok settings := by
  have restored : ∀ fields : List Field, fields.Nodup →
      (∀ field, field ∉ fields → Agree settings usual field) →
        ofText (String.ofList (settings.writeFields fields)) = .ok settings := by
    intro fields distinct omitted
    unfold ofText
    rw [String.toList_ofList, read_writeFields faithful distinct]
    change check (fields.foldl (Draft.take settings) emptyDraft).settings = _
    rw [settings_foldl untested omitted]
    exact usable
  constructor
  · apply restored Field.all (by decide)
    intro field missing
    exact absurd (by cases field <;> decide) missing
  · exact restored

/-- Values at the ends of their ranges, and names with every kind of escape. -/
def outlandish : Settings :=
  { usual with
    quorumSize := 18446744073709551615
    failureRatioThreshold := 0.000001
    minRequests := 0
    ignoredKinds := ["", "a \"quoted\" one", "back\\slash, tab\t", "\x00\x1fé🦀"] }

def outlandishFields : List Field :=
  [.ignoredKinds, .failureRatioThreshold, .minRequests, .quorumSize]

theorem settings_of_file_abridged :
    outlandish.ignoredTest = none ∧ outlandish.check = .ok outlandish ∧
      ReadAs outlandish.failureRatioThreshold outlandish.failureRatioThreshold ∧
      outlandishFields.Nodup ∧
      (∀ field, field ∉ outlandishFields → Agree outlandish usual field) ∧
      ofText outlandish.toText = .ok outlandish ∧
      ofText (String.ofList (outlandish.writeFields outlandishFields)) = .ok outlandish := by
  have usable : outlandish.check = .ok outlandish := rfl
  have faithful : ReadAs outlandish.failureRatioThreshold outlandish.failureRatioThreshold := by
    decide +kernel
  have distinct : outlandishFields.Nodup := by decide
  have omitted : ∀ field, field ∉ outlandishFields → Agree outlandish usual field := by
    intro field missing
    cases field with
    | ignoredKinds | failureRatioThreshold | minRequests | quorumSize =>
        exact absurd (by decide) missing
    | virtualNodes | healthCheckInterval | probeInterval | connectionWait => rfl
  obtain ⟨whole, abridged⟩ := settings_of_file rfl usable faithful
  exact ⟨rfl, usable, faithful, distinct, omitted, whole, abridged _ distinct omitted⟩

end QuorumRouting.Settings
