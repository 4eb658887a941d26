import QuorumRouting.Proofs.Json.Numerals
import QuorumRouting.Proofs.Json.Strings
import QuorumRouting.Settings.Field

/-!
Values read back, field by field. What is written for a field is read as the value that it had, for
every whole number of its width and every list of strings. A threshold is read as what its text
stands for, wherever the text is; that can be a neighbour of the threshold.
-/

set_option autoImplicit false

namespace QuorumRouting

open Json

namespace Field

/-! ### Lists of strings -/

/-- The items of a list after the first one, each behind its comma. -/
def continued (items : List (List Char)) : List Char :=
  items.flatMap (fun item => ',' :: item)

theorem separated_cons (item : List Char) (others : List (List Char)) :
    separated (item :: others) = item ++ continued others := by
  induction others generalizing item with
  | nil => simp [separated, continued]
  | cons next rest ih =>
      rw [separated, ih]
      simp [continued]

/-- Every turn of a reader of items takes at least a comma. -/
theorem length_le_continued (items : List (List Char)) :
    items.length ≤ (continued items).length := by
  induction items with
  | nil => exact Nat.le_refl 0
  | cons item others ih =>
      simp only [continued, List.flatMap_cons, List.length_append, List.length_cons] at ih ⊢
      omega

def writeStrings (texts : List String) : List (List Char) :=
  texts.map (fun text => writeText text.toList)

theorem readString_writeText (text : String) (rest : List Char) :
    readString (writeText text.toList ++ rest) = some (text, rest) := by
  unfold writeText
  simp only [List.cons_append, List.append_assoc, List.nil_append]
  change (readText _).map _ = _
  rw [readText_flatMap_writeChar]
  simp

theorem readMoreStrings_continued (texts : List String) (rest : List Char) {fuel : Nat}
    (enough : texts.length < fuel) :
    readMoreStrings fuel (continued (writeStrings texts) ++ ']' :: rest) = some (texts, rest) := by
  induction texts generalizing fuel with
  | nil =>
      cases fuel with
      | zero => cases enough
      | succ less => rfl
  | cons text others ih =>
      cases fuel with
      | zero => cases enough
      | succ less =>
          have remaining := ih (Nat.lt_of_succ_lt_succ enough)
          simp only [writeStrings, List.map_cons, continued, List.flatMap_cons, List.cons_append,
            List.append_assoc]
          change (readString _).bind _ = _
          rw [readString_writeText]
          change (readMoreStrings less (continued (writeStrings others) ++ ']' :: rest)).map _ = _
          rw [remaining]
          rfl

theorem readStrings_writeStrings (texts : List String) (rest : List Char) :
    readStrings ('[' :: separated (writeStrings texts) ++ [']'] ++ rest) = some (texts, rest) := by
  cases texts with
  | nil => rfl
  | cons text others =>
      have enough : others.length <
          (continued (writeStrings others) ++ ']' :: rest).length + 1 := by
        have bound := length_le_continued (writeStrings others)
        simp only [writeStrings, List.length_map, List.length_append] at bound ⊢
        omega
      change readStrings
        ('[' :: separated (writeText text.toList :: writeStrings others) ++ [']'] ++ rest) = _
      rw [separated_cons]
      simp only [List.cons_append, List.append_assoc, List.nil_append]
      change (readString (writeText text.toList ++
        (continued (writeStrings others) ++ ']' :: rest))).bind _ = _
      rw [readString_writeText]
      change (readMoreStrings _ (continued (writeStrings others) ++ ']' :: rest)).map _ = _
      rw [readMoreStrings_continued others rest enough]
      rfl

/-! ### Numbers -/

theorem readWhole_toDigits {number limit : Nat} {rest : List Char} (small : number < limit)
    (ends : EndsNumber rest) :
    readWhole limit (Nat.toDigits 10 number ++ rest) = some (number, rest) := by
  have proper := proper_ofDigits number
  unfold readWhole
  rw [← spelling_ofDigits (Nat.toDigits 10 number), skipBlanks_spelling proper,
    readNumber_spelling proper ends]
  simp only [Option.bind_some, toWhole?_ofDigits small, Option.map_some]

/-- Does the decimal text of a threshold stand for that result when it is read? The text is short of
no digit, but reading scales by powers of ten in double arithmetic and can end at a neighbour. -/
def ReadAs (threshold result : Float) : Prop :=
  (readDouble (thresholdStyle.write threshold).toList).map Prod.fst = some result

instance (threshold result : Float) : Decidable (ReadAs threshold result) :=
  inferInstanceAs (Decidable (_ = _))

example : ReadAs 0.25 0.25 ∧ ReadAs 0.9999999999999999 1.0 := by decide +kernel

theorem readDouble_write {threshold result : Float} {rest : List Char}
    (reread : ReadAs threshold result) (ends : EndsNumber rest) :
    readDouble ((thresholdStyle.write threshold).toList ++ rest) = some (result, rest) := by
  unfold ReadAs at reread
  cases shape : Decimal.Double.ofFloat threshold with
  | nan =>
      have text : thresholdStyle.write threshold = "NaN" := by
        unfold Decimal.Style.write
        rw [shape]
      rw [text] at reread
      cases reread
  | infinite negative =>
      have text : thresholdStyle.write threshold = if negative then "-inf" else "inf" := by
        unfold Decimal.Style.write
        rw [shape]
      rw [text] at reread
      cases negative with
      | true => cases reread
      | false => cases reread
  | finite negative significand exponent =>
      obtain ⟨literal, proper, spelled⟩ := exists_spelling_write thresholdStyle shape
      have alone : readNumber (skipBlanks literal.spelling) = some (literal, []) := by
        have whole := readNumber_spelling proper endsNumber_nil
        rwa [← skipBlanks_spelling proper, List.append_nil] at whole
      unfold readDouble at reread ⊢
      rw [spelled, alone] at reread
      rw [spelled, skipBlanks_spelling proper, readNumber_spelling proper ends]
      simp only [Option.bind_some, Option.map_map] at reread ⊢
      obtain ⟨number, found, same⟩ := Option.map_eq_some_iff.mp reread
      cases same
      rw [found]
      rfl

end Field

def Settings.reread (settings : Settings) (result : Float) : Settings :=
  { settings with failureRatioThreshold := result }

namespace Field

/-! ### Fields -/

def copy (source target : Settings) : Field → Settings
  | .quorumSize => { target with quorumSize := source.quorumSize }
  | .virtualNodes => { target with virtualNodes := source.virtualNodes }
  | .failureRatioThreshold =>
      { target with failureRatioThreshold := source.failureRatioThreshold }
  | .minRequests => { target with minRequests := source.minRequests }
  | .healthCheckInterval => { target with healthCheckInterval := source.healthCheckInterval }
  | .probeInterval => { target with probeInterval := source.probeInterval }
  | .connectionWait => { target with connectionWait := source.connectionWait }
  | .ignoredKinds => { target with ignoredKinds := source.ignoredKinds }

def Agree (first second : Settings) : Field → Prop
  | .quorumSize => first.quorumSize = second.quorumSize
  | .virtualNodes => first.virtualNodes = second.virtualNodes
  | .failureRatioThreshold => first.failureRatioThreshold = second.failureRatioThreshold
  | .minRequests => first.minRequests = second.minRequests
  | .healthCheckInterval => first.healthCheckInterval = second.healthCheckInterval
  | .probeInterval => first.probeInterval = second.probeInterval
  | .connectionWait => first.connectionWait = second.connectionWait
  | .ignoredKinds => first.ignoredKinds = second.ignoredKinds

theorem agree_copy_self (source target : Settings) (field : Field) :
    Agree source (copy source target field) field := by
  cases field <;> rfl

theorem agree_copy_of_ne {source target : Settings} {field other : Field}
    (different : field ≠ other) (agreed : Agree source target field) :
    Agree source (copy source target other) field := by
  cases other <;> cases field <;> first | exact agreed | exact absurd rfl different

theorem ignoredTest_copy (source target : Settings) (field : Field) :
    (copy source target field).ignoredTest = target.ignoredTest := by
  cases field <;> rfl

/-- Settings are their fields and their test. -/
theorem settings_ext {first second : Settings} (agreed : ∀ field, Agree first second field)
    (test : first.ignoredTest = second.ignoredTest) : first = second := by
  obtain ⟨_, _, _, _, _, _, _, _, _⟩ := first
  obtain ⟨_, _, _, _, _, _, _, _, _⟩ := second
  cases agreed .quorumSize
  cases agreed .virtualNodes
  cases agreed .failureRatioThreshold
  cases agreed .minRequests
  cases agreed .healthCheckInterval
  cases agreed .probeInterval
  cases agreed .connectionWait
  cases agreed .ignoredKinds
  cases test
  rfl

theorem readValue_writeValue {settings : Settings} {result : Float} (target : Settings)
    {rest : List Char} (reread : ReadAs settings.failureRatioThreshold result)
    (ends : EndsNumber rest) (field : Field) :
    field.readValue target (field.writeValue settings ++ rest) =
      some (field.copy (settings.reread result) target, rest) := by
  cases field with
  | failureRatioThreshold =>
      simp only [readValue, writeValue, readDouble_write reread ends, Option.map_some, copy,
        Settings.reread]
  | ignoredKinds =>
      have texts := readStrings_writeStrings settings.ignoredKinds rest
      unfold writeStrings at texts
      simp only [readValue, writeValue, texts, Option.map_some, copy,
        Settings.reread]
  | minRequests =>
      simp only [readValue, writeValue, readWhole_toDigits (UInt32.toNat_lt_size _) ends,
        Option.map_some, copy, Settings.reread, UInt32.ofNat_toNat]
  | quorumSize | virtualNodes | healthCheckInterval | probeInterval | connectionWait =>
      simp only [readValue, writeValue, readWhole_toDigits (UInt64.toNat_lt_size _) ends,
        Option.map_some, copy, Settings.reread, UInt64.ofNat_toNat]

end Field

end QuorumRouting
