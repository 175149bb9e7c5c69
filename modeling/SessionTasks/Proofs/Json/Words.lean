/-
# Numbers as words

A number is written without blanks, quotes and brackets, so that it is one word.  A whole
number of sixty-four bits is read back from its decimal digits.

* `Json.isWord_signedDecimal`, `Json.isWord_write_double` : numbers are words;
* `Json.ofWord?_signedDecimal` : whole numbers are read back.
-/
import Mathlib
import SessionTasks.Json.Printer
import SessionTasks.Json.Reader
namespace SessionTasks.Json

/-! ## Words -/

/-- The characters stand in one word. -/
def IsWord (w : List Char) : Prop := w ≠ [] ∧ ∀ c ∈ w, endsWord c = false

/-- What ends a word is a blank, a quote or a bracket. -/
theorem mem_of_endsWord {c : Char} (h : endsWord c = true) :
    c ∈ [' ', '\t', '\n', '\r', '"', '[', ']', '{', '}', ':', ','] := by
  unfold endsWord isBlank bracket? at h
  simp only [Bool.or_eq_true, decide_eq_true_eq] at h
  rcases h with ((((h | h) | h) | h) | h) | h
  · simp [h]
  · simp [h]
  · simp [h]
  · simp [h]
  · simp [h]
  · split at h
    all_goals first | (cases h; done) | simp

/-- A character of a number: a digit, a sign, a point or the mark of an exponent. -/
def isNumeral (c : Char) : Bool := c.isDigit || c = '-' || c = '+' || c = '.' || c = 'e'

/-- A character of a number does not end a word. -/
theorem endsWord_of_isNumeral {c : Char} (h : isNumeral c = true) : endsWord c = false := by
  by_contra hends
  have hmem := mem_of_endsWord (Bool.of_not_eq_false hends)
  have hall : ∀ c ∈ [' ', '\t', '\n', '\r', '"', '[', ']', '{', '}', ':', ','],
      isNumeral c = false := by
    intro c hc
    fin_cases hc <;> rfl
  rw [hall c hmem] at h
  cases h

/-- A number is written with digits. -/
theorem isNumeral_of_mem_toDigits {n : Nat} {c : Char} (h : c ∈ Nat.toDigits 10 n) :
    isNumeral c = true := by
  unfold isNumeral
  rw [Nat.isDigit_of_mem_toDigits (by decide) (by decide) h]
  rfl

/-! ## Whole numbers -/

/-- An integer is written with digits and a sign. -/
theorem isNumeral_of_mem_signedDecimal {n : Int} {c : Char} (h : c ∈ Text.signedDecimal n) :
    isNumeral c = true := by
  unfold Text.signedDecimal at h
  rcases List.mem_append.1 h with h | h
  · split at h
    · cases List.mem_singleton.1 h
      rfl
    · cases h
  · exact isNumeral_of_mem_toDigits h

/-- An integer is one word. -/
theorem isWord_signedDecimal (n : Int) : IsWord (Text.signedDecimal n) := by
  refine ⟨?_, fun c hc => endsWord_of_isNumeral (isNumeral_of_mem_signedDecimal hc)⟩
  intro h
  exact Nat.toDigits_ne_nil (List.append_eq_nil_iff.1 h).2

/-- The value of a digit. -/
def digitValue (c : Char) : Nat := c.toNat - '0'.toNat

/-- A digit is read as its value. -/
theorem digit?_of_isDigit {c : Char} (h : c.isDigit = true) :
    Text.digit? c = some (digitValue c) := by
  unfold Text.digit?
  rw [if_pos]
  · rfl
  · unfold Char.isDigit at h
    simpa [Char.le_def] using h

/-- Digits are taken to their end. -/
theorem takeDigits_of_isDigit {text : List Char} (h : ∀ c ∈ text, c.isDigit = true) :
    takeDigits text = (text.map digitValue, []) := by
  induction text with
  | nil => rfl
  | cons c rest ih =>
    unfold takeDigits
    rw [digit?_of_isDigit (h c List.mem_cons_self)]
    dsimp only
    rw [ih fun d hd => h d (List.mem_cons_of_mem c hd)]
    rfl

/-- Digits are read from the left, as in the library. -/
theorem ofDigits_map_digitValue (text : List Char) :
    ofDigits (text.map digitValue) = Nat.ofDigitChars 10 text 0 := by
  unfold ofDigits
  rw [Nat.ofDigitChars_eq_foldl, List.foldl_map]
  congr 1
  funext n c
  rw [Nat.mul_comm n 10]
  rfl

/-- A number is read back from its digits. -/
theorem ofDigits_decimal (n : Nat) : ofDigits ((Text.decimal n).map digitValue) = n := by
  rw [ofDigits_map_digitValue]
  exact Nat.ofDigitChars_toDigits (by decide) (by decide)

/-- The first digit of a positive number is not zero. -/
theorem toDigits_eq_cons {n : Nat} (h : 0 < n) :
    ∃ d rest, Nat.toDigits 10 n = Nat.digitChar d :: rest ∧ 0 < d ∧ d < 10 := by
  induction n using Nat.strong_induction_on with
  | _ n ih =>
    by_cases hn : n < 10
    · exact ⟨n, [], Nat.toDigits_of_lt_base hn, h, hn⟩
    · obtain ⟨d, rest, hdigits, hpos, hlt⟩ := ih (n / 10) (by omega) (by omega)
      refine ⟨d, rest ++ [(n % 10).digitChar], ?_, hpos, hlt⟩
      rw [Nat.toDigits_of_base_le (by decide) (Nat.not_lt.1 hn), hdigits]
      rfl

/-- A digit is read back from its character. -/
theorem digitValue_digitChar {d : Nat} (h : d < 10) : digitValue (Nat.digitChar d) = d :=
  Nat.toNat_digitChar_sub_48_of_lt_ten h

/-- The digits of a number, taken apart: there are some, and only zero starts with zero. -/
theorem decimal_cases (n : Nat) :
    ∃ first rest, (Text.decimal n).map digitValue = first :: rest ∧ (first = 0 → rest = []) := by
  rcases Nat.eq_zero_or_pos n with rfl | hpos
  · exact ⟨0, [], rfl, fun _ => rfl⟩
  · obtain ⟨d, rest, hdigits, hd, hlt⟩ := toDigits_eq_cons hpos
    refine ⟨d, rest.map digitValue, ?_, fun hzero => by omega⟩
    unfold Text.decimal
    rw [hdigits, List.map_cons, digitValue_digitChar hlt]

/-- A number is written with decimal digits. -/
theorem isDigit_of_mem_decimal {n : Nat} {c : Char} (h : c ∈ Text.decimal n) :
    c.isDigit = true :=
  Nat.isDigit_of_mem_toDigits (by decide) (by decide) h

/-- Takes the text of a number apart after its sign. -/
def afterSign? (negative : Bool) (text : List Char) : Option NumberText :=
  match takeDigits text with
  | ([], _) => none
  | (0 :: _ :: _, _) => none
  | (whole, rest) => afterWhole? negative whole rest

/-- A text that does not start with a minus sign is that of a number without one. -/
theorem numberText?_of_ne {text : List Char} (h : ∀ rest, text ≠ '-' :: rest) :
    numberText? text = afterSign? false text := by
  unfold numberText? afterSign?
  split
  rename_i negative unsigned heq
  split at heq
  · rename_i rest
    exact absurd rfl (h rest)
  · cases heq
    rfl

/-- The digits of a number without a sign are all of it. -/
theorem afterSign?_decimal (negative : Bool) (n : Nat) :
    afterSign? negative (Text.decimal n) =
      some ⟨negative, (Text.decimal n).map digitValue, none, none⟩ := by
  unfold afterSign?
  obtain ⟨first, rest, hdigits, hzero⟩ := decimal_cases n
  rw [takeDigits_of_isDigit fun c hc => isDigit_of_mem_decimal hc, hdigits]
  split
  · rename_i heq
    cases heq
  · rename_i heq
    cases heq
    cases hzero rfl
  · rename_i heq
    cases heq
    rfl

/-- A whole number is taken apart into its sign and its digits. -/
theorem numberText?_signedDecimal (n : Int) :
    numberText? (Text.signedDecimal n) =
      some ⟨n < 0, (Text.decimal n.natAbs).map digitValue, none, none⟩ := by
  unfold Text.signedDecimal
  by_cases hneg : n < 0
  · rw [if_pos hneg, decide_eq_true hneg]
    exact afterSign?_decimal true n.natAbs
  · rw [if_neg hneg, decide_eq_false hneg, List.nil_append]
    -- the first character is a digit and no sign
    have hsign : ∀ rest, Text.decimal n.natAbs ≠ '-' :: rest := by
      intro rest hrest
      have hdigit : ('-').isDigit = true :=
        isDigit_of_mem_decimal (by rw [hrest]; exact List.mem_cons_self)
      cases hdigit
    rw [numberText?_of_ne hsign]
    exact afterSign?_decimal false n.natAbs

/-- **A whole number of sixty-four bits is read back.** -/
theorem ofWord?_signedDecimal {n : Int} (hlow : -Int.pow 2 63 ≤ n) (hhigh : n < Int.pow 2 64) :
    ofWord? (Text.signedDecimal n) = some (.int n) := by
  have hname : ∀ name : List Char, (∃ c ∈ name, isNumeral c = false) →
      Text.signedDecimal n ≠ name := by
    rintro name ⟨c, hc, hnot⟩ rfl
    rw [isNumeral_of_mem_signedDecimal hc] at hnot
    cases hnot
  unfold ofWord?
  rw [if_neg (hname _ ⟨'n', by simp, rfl⟩), if_neg (hname _ ⟨'r', by simp, rfl⟩),
    if_neg (hname _ ⟨'f', by simp, rfl⟩), numberText?_signedDecimal, Option.bind_some]
  unfold NumberText.value?
  dsimp only
  rw [ofDigits_decimal]
  have hpow63 : Int.pow 2 63 = 9223372036854775808 := rfl
  have hpow64 : Int.pow 2 64 = 18446744073709551616 := rfl
  have hnat63 : Nat.pow 2 63 = 9223372036854775808 := rfl
  have hnat64 : Nat.pow 2 64 = 18446744073709551616 := rfl
  rw [hpow63] at hlow
  rw [hpow64] at hhigh
  rw [hnat63, hnat64]
  by_cases hneg : n < 0
  · rw [if_neg (by simp [hneg]), if_pos (by simp [hneg]; omega)]
    congr 2
    omega
  · rw [if_pos (by simp [hneg]; omega)]
    congr 2
    omega

/-! ## Doubles -/

/-- A point among digits, or some zeros, makes no other characters. -/
theorem isNumeral_of_mem_pointed {digits : List Char} {n : Nat}
    (h : ∀ c ∈ digits, isNumeral c = true) {c : Char} (hc : c ∈ Binary64.pointed digits n) :
    isNumeral c = true := by
  have hzero : ∀ c ∈ ['0'], isNumeral c = true := by
    intro c hc
    cases List.mem_singleton.1 hc
    rfl
  unfold Binary64.pointed at hc
  dsimp only at hc
  rcases List.mem_append.1 hc with hc | hc
  · split at hc
    · exact hzero c hc
    · rcases List.mem_append.1 hc with hc | hc
      · exact h c (List.mem_of_mem_take hc)
      · rw [List.eq_of_mem_replicate hc]
        rfl
  · rcases List.mem_cons.1 hc with rfl | hc
    · rfl
    · split at hc
      · exact hzero c hc
      · exact h c (List.mem_of_mem_drop hc)

/-- An exponent is written with characters of a number. -/
theorem isNumeral_of_mem_exponentText {e : Int} {c : Char} (h : c ∈ Binary64.exponentText e) :
    isNumeral c = true := by
  unfold Binary64.exponentText at h
  rcases List.mem_cons.1 h with rfl | h
  · split <;> rfl
  · exact isNumeral_of_mem_toDigits h

/-- A decimal is written with characters of a number. -/
theorem isNumeral_of_mem_writeDecimal {layout : Binary64.Layout} {d : Binary64.Decimal} {c : Char}
    (h : c ∈ d.write layout) : isNumeral c = true := by
  have hdigits : ∀ c ∈ Nat.toDigits 10 d.digits, isNumeral c = true :=
    fun c hc => isNumeral_of_mem_toDigits hc
  unfold Binary64.Decimal.write at h
  dsimp only at h
  split at h
  · split at h
    · exact isNumeral_of_mem_pointed hdigits h
    · refine isNumeral_of_mem_pointed (fun c hc => ?_) h
      rcases List.mem_append.1 hc with hc | hc
      · rw [List.eq_of_mem_replicate hc]
        rfl
      · exact hdigits c hc
  · rcases List.mem_append.1 h with h | h
    · rcases List.mem_append.1 h with h | h
      · exact hdigits c (List.mem_of_mem_take h)
      · split at h
        · cases h
        · rcases List.mem_cons.1 h with rfl | h
          · rfl
          · exact hdigits c (List.mem_of_mem_drop h)
    · rcases List.mem_cons.1 h with rfl | h
      · rfl
      · exact isNumeral_of_mem_exponentText h

/-- A decimal is written with at least one character. -/
theorem writeDecimal_ne_nil (layout : Binary64.Layout) (d : Binary64.Decimal) :
    d.write layout ≠ [] := by
  unfold Binary64.Decimal.write Binary64.pointed
  dsimp only
  split
  · split <;> simp
  · simp

/-- A finite double is written as a word. -/
theorem isWord_write_double (x : Binary64) : IsWord x.write := by
  unfold Binary64.write
  constructor
  · exact fun h => writeDecimal_ne_nil _ _ (List.append_eq_nil_iff.1 h).2
  · intro c hc
    rcases List.mem_append.1 hc with hc | hc
    · split at hc
      · cases List.mem_singleton.1 hc
        rfl
      · cases hc
    · exact endsWord_of_isNumeral (isNumeral_of_mem_writeDecimal hc)

end SessionTasks.Json
