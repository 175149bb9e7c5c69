/-
# Literals of numbers

A literal of a number consists of decimal digits, with or without a plus sign in front.  Any
number of zeros may come first, and a number has a literal whatever its size.

* `Text.IsLiteral.unique` : a literal stands for one number;
* `Text.unsigned?_eq_some_iff` : a number that has a bound is read off its literals, and off no
  other text.
-/
import Mathlib
import SessionTasks.Text.Digits
namespace SessionTasks.Text

/-- **The text is a literal of the number.** -/
def IsLiteral (text : List Char) (n : Nat) : Prop :=
  ∃ digits, (text = digits ∨ text = '+' :: digits) ∧ digits ≠ [] ∧
    (∀ c ∈ digits, c.isDigit = true) ∧ Nat.ofDigitChars 10 digits 0 = n

variable {text digits : List Char} {c : Char} {n m start greatest : Nat}

/-! ## Digits -/

/-- The digits of base ten are the decimal ones. -/
theorem digitIn?_ten (c : Char) :
    digitIn? 10 c = if c.isDigit then some (c.toNat - '0'.toNat) else none := by
  have hdigit : c.isDigit = true ↔ '0' ≤ c ∧ c ≤ '9' := by
    simp [Char.isDigit, Char.le_def]
  unfold digitIn? hexDigit?
  by_cases hc : '0' ≤ c ∧ c ≤ '9'
  · have hlt : c.toNat - '0'.toNat < 10 := by
      have hle : c.toNat ≤ '9'.toNat := hc.2
      have hnine : '9'.toNat = '0'.toNat + 9 := rfl
      omega
    rw [if_pos hc, if_pos (hdigit.2 hc), Option.filter_some, if_pos (decide_eq_true hlt)]
  · rw [if_neg hc, if_neg (mt hdigit.1 hc)]
    -- what a letter stands for is ten at least
    split_ifs
    · rw [Option.filter_some, if_neg]
      simp
    · rw [Option.filter_some, if_neg]
      simp
    · rfl

/-- Digits are read from the left, after what was read before them. -/
theorem foldlM_digitIn?_eq_some_iff :
    digits.foldlM (fun n c => (digitIn? 10 c).map (n * 10 + ·)) start = some n ↔
      (∀ c ∈ digits, c.isDigit = true) ∧ Nat.ofDigitChars 10 digits start = n := by
  induction digits generalizing start with
  | nil => simp
  | cons c rest ih =>
    rw [List.foldlM_cons, digitIn?_ten, Nat.ofDigitChars_cons, List.forall_mem_cons]
    by_cases hc : c.isDigit = true
    · rw [if_pos hc, Option.map_some, Option.bind_eq_bind, Option.bind_some, ih, Nat.mul_comm]
      exact and_congr_left' (and_iff_right hc).symm
    · rw [if_neg hc]
      exact iff_of_false nofun fun h => hc h.1.1

/-! ## Literals -/

theorem not_isDigit_plus : '+'.isDigit ≠ true := by decide

/-- The digits after a plus sign. -/
theorem isLiteral_plus_iff :
    IsLiteral ('+' :: digits) n ↔
      digits ≠ [] ∧ (∀ c ∈ digits, c.isDigit = true) ∧ Nat.ofDigitChars 10 digits 0 = n := by
  constructor
  · rintro ⟨other, rfl | hplus, hne, hdigits, hn⟩
    · exact absurd (hdigits _ List.mem_cons_self) not_isDigit_plus
    · cases hplus
      exact ⟨hne, hdigits, hn⟩
  · rintro ⟨hne, hdigits, hn⟩
    exact ⟨digits, .inr rfl, hne, hdigits, hn⟩

/-- Without a plus sign all of it is digits. -/
theorem isLiteral_iff_of_ne (h : ∀ rest, text ≠ '+' :: rest) :
    IsLiteral text n ↔
      text ≠ [] ∧ (∀ c ∈ text, c.isDigit = true) ∧ Nat.ofDigitChars 10 text 0 = n := by
  constructor
  · rintro ⟨digits, rfl | hplus, hne, hdigits, hn⟩
    · exact ⟨hne, hdigits, hn⟩
    · exact absurd hplus (h digits)
  · rintro ⟨hne, hdigits, hn⟩
    exact ⟨text, .inl rfl, hne, hdigits, hn⟩

/-- **A number with a bound is read off its literals.** -/
theorem unsigned?_eq_some_iff :
    unsigned? greatest text = some n ↔ IsLiteral text n ∧ n ≤ greatest := by
  have hread : ∀ digits : List Char,
      (if digits.isEmpty then none else (number? 10 digits).filter (· ≤ greatest)) = some n ↔
        (digits ≠ [] ∧ (∀ c ∈ digits, c.isDigit = true) ∧ Nat.ofDigitChars 10 digits 0 = n) ∧
          n ≤ greatest := by
    intro digits
    rw [← foldlM_digitIn?_eq_some_iff]
    cases digits with
    | nil => simp
    | cons c rest =>
      rw [if_neg (by simp), Option.filter_eq_some_iff, decide_eq_true_iff]
      exact and_congr_left' (and_iff_right (List.cons_ne_nil c rest)).symm
  unfold unsigned?
  split
  · rw [isLiteral_plus_iff]
    exact hread _
  · rename_i hne
    rw [isLiteral_iff_of_ne hne]
    exact hread _

/-- A literal stands for one number. -/
theorem IsLiteral.unique (h : IsLiteral text n) (h' : IsLiteral text m) : n = m := by
  have hn := unsigned?_eq_some_iff.2 ⟨h, Nat.le_max_left n m⟩
  rw [unsigned?_eq_some_iff.2 ⟨h', Nat.le_max_right n m⟩] at hn
  exact (Option.some.inj hn).symm

end SessionTasks.Text
