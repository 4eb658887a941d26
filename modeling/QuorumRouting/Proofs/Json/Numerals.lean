import QuorumRouting.Decimal.Style
import QuorumRouting.Json.Number
import QuorumRouting.Json.Text

/-!
Numerals read back. A proper literal has digits where digits belong and no zero in front of other
digits; its spelling is read as that literal, up to where no digit, point or exponent can follow.
Whole numbers and doubles are written as the spellings of proper literals.
-/

set_option autoImplicit false

namespace QuorumRouting.Json

structure Digits (digits : List Char) : Prop where
  nonempty : digits ≠ []
  isDigit : ∀ digit, digit ∈ digits → digit.isDigit = true

theorem Digits.exists_cons {digits : List Char} (proper : Digits digits) :
    ∃ first others, digits = first :: others ∧ first.isDigit = true := by
  obtain ⟨first, others, rfl⟩ := List.exists_cons_of_ne_nil proper.nonempty
  exact ⟨first, others, rfl, proper.isDigit first List.mem_cons_self⟩

theorem digits_zero : Digits ['0'] where
  nonempty := by simp
  isDigit := by simp

theorem ne_sign_of_isDigit {char : Char} (digit : char.isDigit = true) :
    char ≠ '-' ∧ char ≠ '+' := by
  constructor
  · rintro rfl
    cases digit
  · rintro rfl
    cases digit

def EndsDigits (rest : List Char) : Prop :=
  ∀ char, rest.head? = some char → char.isDigit = false

/-- Can the text not continue a number that has no exponent yet? -/
def EndsNumber (rest : List Char) : Prop :=
  ∀ char, rest.head? = some char →
    char.isDigit = false ∧ char ≠ '.' ∧ char ≠ 'e' ∧ char ≠ 'E'

theorem EndsNumber.digits {rest : List Char} (ends : EndsNumber rest) : EndsDigits rest :=
  fun char first => (ends char first).1

theorem endsNumber_nil : EndsNumber [] :=
  nofun

theorem endsNumber_comma (rest : List Char) : EndsNumber (',' :: rest) := by
  intro char first
  cases first
  decide

theorem endsNumber_brace (rest : List Char) : EndsNumber ('}' :: rest) := by
  intro char first
  cases first
  decide

namespace NumberLiteral

structure Proper (literal : NumberLiteral) : Prop where
  whole : Digits literal.whole
  leading : literal.whole.head? = some '0' → literal.whole.length = 1
  fraction : ∀ digits, literal.fraction = some digits → Digits digits
  exponent : ∀ negative digits, literal.exponent = some (negative, digits) → Digits digits

def spellFraction : Option (List Char) → List Char
  | none => []
  | some digits => '.' :: digits

def spellExponent : Option (Bool × List Char) → List Char
  | none => []
  | some (negative, digits) => 'e' :: if negative then '-' :: digits else digits

def spelling (literal : NumberLiteral) : List Char :=
  let unsigned := literal.whole ++ spellFraction literal.fraction ++ spellExponent literal.exponent
  if literal.negative then '-' :: unsigned else unsigned

end NumberLiteral

open NumberLiteral

/-! ### Reading -/

theorem readDigits_append {digits rest : List Char} (proper : Digits digits)
    (ends : EndsDigits rest) :
    readDigits (digits ++ rest) = some (digits, rest) := by
  have taken : rest.takeWhile Char.isDigit = [] := by
    cases rest with
    | nil => rfl
    | cons char others => exact List.takeWhile_cons_of_neg (by simp [ends char rfl])
  have dropped : rest.dropWhile Char.isDigit = rest := by
    cases rest with
    | nil => rfl
    | cons char others => exact List.dropWhile_cons_of_neg (by simp [ends char rfl])
  unfold readDigits
  rw [List.takeWhile_append_of_pos proper.isDigit, List.dropWhile_append_of_pos proper.isDigit,
    taken, dropped]
  simp [proper.nonempty]

theorem readFraction_spellFraction {fraction : Option (List Char)} {rest : List Char}
    (proper : ∀ digits, fraction = some digits → Digits digits) (ends : EndsDigits rest)
    (pointless : rest.head? ≠ some '.') :
    readFraction (spellFraction fraction ++ rest) = some (fraction, rest) := by
  cases fraction with
  | none =>
      change readFraction rest = _
      unfold readFraction
      split
      · exact absurd rfl pointless
      · rfl
  | some digits =>
      change (readDigits (digits ++ rest)).map _ = _
      rw [readDigits_append (proper digits rfl) ends]
      rfl

theorem readExponent_spellExponent {exponent : Option (Bool × List Char)} {rest : List Char}
    (proper : ∀ negative digits, exponent = some (negative, digits) → Digits digits)
    (ends : EndsNumber rest) :
    readExponent (spellExponent exponent ++ rest) = some (exponent, rest) := by
  cases exponent with
  | none =>
      change readExponent rest = _
      cases rest with
      | nil => rfl
      | cons mark others =>
          have unmarked := (ends mark rfl).2.2
          unfold readExponent
          exact if_neg (by simp [unmarked])
  | some spelled =>
      obtain ⟨negative, digits⟩ := spelled
      have digitsProper := proper negative digits rfl
      have read := readDigits_append digitsProper ends.digits
      cases negative with
      | true =>
          change (readDigits (digits ++ rest)).map _ = _
          rw [read]
          rfl
      | false =>
          obtain ⟨first, others, rfl, digit⟩ := digitsProper.exists_cons
          obtain ⟨minus, plus⟩ := ne_sign_of_isDigit digit
          change readExponent ('e' :: first :: (others ++ rest)) = _
          rw [readExponent, if_pos (Or.inl rfl), ← List.cons_append, read]
          · rfl
          · exact fun after same => minus (List.cons.inj same).1
          · exact fun after same => plus (List.cons.inj same).1

theorem endsDigits_spellFraction (fraction : Option (List Char)) {rest : List Char}
    (ends : EndsDigits rest) : EndsDigits (spellFraction fraction ++ rest) := by
  intro char first
  cases fraction with
  | none => exact ends char first
  | some digits =>
      cases first
      decide

theorem head_spellExponent (exponent : Option (Bool × List Char)) {rest : List Char}
    (ends : EndsNumber rest) :
    EndsDigits (spellExponent exponent ++ rest) ∧
      (spellExponent exponent ++ rest).head? ≠ some '.' := by
  cases exponent with
  | none => exact ⟨ends.digits, fun point => (ends '.' point).2.1 rfl⟩
  | some spelled =>
      constructor
      · intro char first
        cases first
        decide
      · nofun

theorem readNumber_spelling {literal : NumberLiteral} {rest : List Char} (proper : literal.Proper)
    (ends : EndsNumber rest) :
    readNumber (literal.spelling ++ rest) = some (literal, rest) := by
  obtain ⟨negative, whole, fraction, exponent⟩ := literal
  have exponentRead := readExponent_spellExponent proper.exponent ends
  obtain ⟨afterFraction, pointless⟩ := head_spellExponent exponent ends
  have fractionRead := readFraction_spellFraction proper.fraction afterFraction pointless
  have wholeRead := readDigits_append proper.whole
    (endsDigits_spellFraction fraction afterFraction)
  have leading : ¬ (whole.head? = some '0' ∧ whole.length ≠ 1) :=
    fun padded => padded.2 (proper.leading padded.1)
  simp only at exponentRead fractionRead wholeRead
  unfold spelling
  cases negative with
  | true =>
      simp only [if_true, List.cons_append, List.append_assoc]
      rw [readNumber, wholeRead]
      simp only [Option.bind_eq_bind, Option.bind_some, if_neg leading, fractionRead, exponentRead]
      rfl
  | false =>
      simp only [Bool.false_eq_true, if_false, List.append_assoc]
      rw [readNumber, wholeRead]
      · simp only [Option.bind_eq_bind, Option.bind_some, if_neg leading, fractionRead,
          exponentRead]
        rfl
      · intro after same
        obtain ⟨first, others, rfl, digit⟩ := proper.whole.exists_cons
        exact (ne_sign_of_isDigit digit).1 (List.cons.inj same).1

theorem isBlank_of_isDigit {char : Char} (digit : char.isDigit = true) : isBlank char = false := by
  cases blank : isBlank char with
  | false => rfl
  | true =>
      have shown : char = ' ' ∨ char = '\t' ∨ char = '\n' ∨ char = '\r' := by
        simpa [isBlank, or_assoc] using blank
      rcases shown with rfl | rfl | rfl | rfl <;> cases digit

/-- A literal starts with a minus or a digit. -/
theorem skipBlanks_spelling {literal : NumberLiteral} (proper : literal.Proper)
    (rest : List Char) : skipBlanks (literal.spelling ++ rest) = literal.spelling ++ rest := by
  obtain ⟨negative, whole, fraction, exponent⟩ := literal
  obtain ⟨first, others, rfl, digit⟩ := proper.whole.exists_cons
  have visible := isBlank_of_isDigit digit
  cases negative with
  | true => rfl
  | false => exact List.dropWhile_cons_of_neg (by simp [visible])

/-! ### Whole numbers -/

theorem digits_toDigits (number : Nat) : Digits (Nat.toDigits 10 number) :=
  ⟨Nat.toDigits_ne_nil, fun _ member =>
    Nat.isDigit_of_mem_toDigits (by decide) (by decide) member⟩

/-- Only zero is spelled with a zero in front. -/
theorem head?_toDigits_ne {number : Nat} (positive : number ≠ 0) :
    (Nat.toDigits 10 number).head? ≠ some '0' := by
  induction number using Nat.strongRecOn with
  | ind number ih =>
      rw [Nat.toDigits_eq_if (by decide)]
      split
      · simpa using positive
      · have shorter := ih (number / 10) (by omega) (by omega)
        obtain ⟨first, others, spelled, digit⟩ := (digits_toDigits (number / 10)).exists_cons
        rw [spelled] at shorter ⊢
        exact shorter

def NumberLiteral.ofDigits (digits : List Char) : NumberLiteral :=
  { negative := false, whole := digits, fraction := none, exponent := none }

theorem proper_ofDigits (number : Nat) :
    (NumberLiteral.ofDigits (Nat.toDigits 10 number)).Proper where
  whole := digits_toDigits number
  leading := by
    intro zero
    by_cases positive : number = 0
    · subst positive
      rfl
    · exact absurd zero (head?_toDigits_ne positive)
  fraction := nofun
  exponent := nofun

theorem spelling_ofDigits (digits : List Char) :
    (NumberLiteral.ofDigits digits).spelling = digits := by
  simp [spelling, NumberLiteral.ofDigits, spellFraction, spellExponent]

theorem toWhole?_ofDigits {number limit : Nat} (small : number < limit) :
    (NumberLiteral.ofDigits (Nat.toDigits 10 number)).toWhole? limit = some number := by
  have spelled : spell (Nat.toDigits 10 number) = number := Nat.ofDigitChars_ten_toDigits
  simp [toWhole?, NumberLiteral.ofDigits, spelled, small]

/-! ### Doubles -/

def Numeral (text : List Char) : Prop :=
  ∃ literal : NumberLiteral,
    literal.Proper ∧ literal.negative = false ∧ literal.spelling = text

theorem numeral_whole {whole : List Char} (proper : Digits whole)
    (leading : whole.head? = some '0' → whole.length = 1) : Numeral whole :=
  ⟨NumberLiteral.ofDigits whole, ⟨proper, leading, nofun, nofun⟩, rfl, spelling_ofDigits whole⟩

theorem numeral_pointed {whole fraction : List Char} (proper : Digits whole)
    (leading : whole.head? = some '0' → whole.length = 1) (places : Digits fraction) :
    Numeral (whole ++ '.' :: fraction) := by
  refine ⟨⟨false, whole, some fraction, none⟩, ⟨proper, leading, ?_, nofun⟩, rfl, ?_⟩
  · intro digits same
    cases same
    exact places
  · simp [spelling, spellFraction, spellExponent]

theorem digits_append {digits others : List Char} (proper : Digits digits)
    (more : ∀ digit, digit ∈ others → digit.isDigit = true) : Digits (digits ++ others) := by
  constructor
  · simp [proper.nonempty]
  · intro digit member
    rcases List.mem_append.mp member with early | late
    · exact proper.isDigit digit early
    · exact more digit late

theorem isDigit_of_mem_zeros {count : Nat} {digit : Char}
    (member : digit ∈ List.replicate count '0') : digit.isDigit = true := by
  rw [List.eq_of_mem_replicate member]
  rfl

theorem numeral_plain (style : Decimal.Style) {digits : List Char} (position : Int)
    (proper : Digits digits) (leading : digits.head? ≠ some '0') :
    Numeral (style.plain digits position) := by
  obtain ⟨first, others, rfl, digit⟩ := proper.exists_cons
  unfold Decimal.Style.plain
  by_cases below : position ≤ 0
  · rw [if_pos below]
    have places : Digits (List.replicate (-position).toNat '0' ++ first :: others) := by
      constructor
      · simp
      · intro digit member
        rcases List.mem_append.mp member with padding | own
        · exact isDigit_of_mem_zeros padding
        · exact proper.isDigit digit own
    exact numeral_pointed digits_zero (fun _ => rfl) places
  · rw [if_neg below]
    dsimp only
    by_cases short : (first :: others).length ≤ position.toNat
    · rw [if_pos short]
      have filled : Digits (first :: others ++
          List.replicate (position.toNat - (first :: others).length) '0') :=
        digits_append proper (fun digit member => isDigit_of_mem_zeros member)
      cases style.keepsPoint with
      | true => exact numeral_pointed filled (fun padded => absurd padded leading) digits_zero
      | false =>
          simp only [Bool.false_eq_true, if_false, List.append_nil]
          exact numeral_whole filled (fun padded => absurd padded leading)
    · rw [if_neg short]
      obtain ⟨count, counted⟩ : ∃ count, position.toNat = count + 1 :=
        ⟨position.toNat - 1, by omega⟩
      rw [counted] at short ⊢
      have front : Digits ((first :: others).take (count + 1)) :=
        ⟨by simp, fun digit member => proper.isDigit digit (List.mem_of_mem_take member)⟩
      have back : Digits ((first :: others).drop (count + 1)) :=
        ⟨by simpa only [ne_eq, List.drop_eq_nil_iff] using short,
          fun digit member => proper.isDigit digit (List.mem_of_mem_drop member)⟩
      exact numeral_pointed front (fun padded => absurd padded leading) back

/-- A whole number with its sign is the exponent of a literal. -/
theorem exists_exponent (number : Int) :
    ∃ negative digits, Digits digits ∧
      spellExponent (some (negative, digits)) = 'e' :: (toString number).toList := by
  cases number with
  | ofNat size =>
      refine ⟨false, Nat.toDigits 10 size, digits_toDigits size, ?_⟩
      change 'e' :: Nat.toDigits 10 size = 'e' :: (toString size).toList
      simp
  | negSucc size =>
      refine ⟨true, Nat.toDigits 10 (size + 1), digits_toDigits (size + 1), ?_⟩
      change 'e' :: '-' :: Nat.toDigits 10 (size + 1) = 'e' :: ("-" ++ toString (size + 1)).toList
      simp

theorem numeral_withExponent {digits : List Char} (position : Int) (proper : Digits digits) :
    Numeral (Decimal.withExponent digits position) := by
  obtain ⟨first, others, rfl, digit⟩ := proper.exists_cons
  obtain ⟨negative, power, powerProper, spelled⟩ := exists_exponent (position - 1)
  have lead : Digits [first] := by
    constructor
    · simp
    · intro only member
      rw [List.mem_singleton.mp member]
      exact digit
  refine ⟨⟨false, [first], if others.isEmpty then none else some others, some (negative, power)⟩,
    ⟨lead, fun _ => rfl, ?_, ?_⟩, rfl, ?_⟩
  · intro fraction same
    dsimp only at same
    split at same
    · cases same
    · rename_i more
      cases same
      exact ⟨by simpa using more, fun digit member =>
        proper.isDigit digit (List.mem_cons_of_mem first member)⟩
  · intro _ _ same
    cases same
    exact powerProper
  · simp only [spelling, Decimal.withExponent, ← spelled]
    cases others <;> simp [spellFraction]

theorem numeral_magnitude (style : Decimal.Style) (number : Decimal.Scientific) :
    Numeral (style.magnitude number) := by
  unfold Decimal.Style.magnitude
  by_cases nothing : number.digits = 0
  · rw [if_pos nothing]
    cases style.keepsPoint with
    | true => exact numeral_pointed digits_zero (fun _ => rfl) digits_zero
    | false => exact numeral_whole digits_zero (fun _ => rfl)
  · rw [if_neg nothing]
    have proper := digits_toDigits number.digits
    have leading := head?_toDigits_ne nothing
    dsimp only
    split
    · exact numeral_plain style _ proper leading
    · split
      · exact numeral_plain style _ proper leading
      · exact numeral_withExponent _ proper

theorem exists_spelling_write (style : Decimal.Style) {value : Float} {negative : Bool}
    {significand : Nat} {exponent : Int}
    (finite : Decimal.Double.ofFloat value = .finite negative significand exponent) :
    ∃ literal : NumberLiteral, literal.Proper ∧
      (style.write value).toList = literal.spelling := by
  obtain ⟨literal, proper, unsigned, spelled⟩ :=
    numeral_magnitude style (Decimal.shortest style.tie significand exponent)
  unfold Decimal.Style.write
  rw [finite]
  cases negative with
  | false => exact ⟨literal, proper, by simp [spelled]⟩
  | true =>
      refine ⟨{ literal with negative := true },
        ⟨proper.whole, proper.leading, proper.fraction, proper.exponent⟩, ?_⟩
      simp [← spelled, spelling, unsigned]

end QuorumRouting.Json
