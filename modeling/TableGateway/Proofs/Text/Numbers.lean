import Mathlib.Data.List.Induction
import Mathlib.Data.Nat.Digits.Defs
import TableGateway.Text.Digits

/-! # Numbers in digits

A run of digits is the number whose digits to the base ten these are (`digitsValue_eq_ofDigits`), and
`Decimal` says so without a reader.  Zeros in front make no difference, hence a number is read back
from its digits (`natural?_repr`) and from its padded digits (`digitsValue_padded`). -/

namespace TableGateway.Text

/-- The value of a digit. -/
def digit (c : Char) : Nat := c.toNat - '0'.toNat

/-- The characters are digits, one at least, and these are the digits of the number. -/
structure Decimal (digits : List Char) (n : Nat) : Prop where
  ne_nil : digits ≠ []
  isDigit : ∀ c ∈ digits, c.isDigit = true
  value : Nat.ofDigits 10 (digits.reverse.map digit) = n

/-! ### The value of digits -/

theorem digitsValue_concat (cs : List Char) (c : Char) :
    digitsValue (cs ++ [c]) = digitsValue cs * 10 + digit c := by
  unfold digitsValue
  rw [List.foldl_append]
  rfl

theorem digitsValue_eq_ofDigits (cs : List Char) :
    digitsValue cs = Nat.ofDigits 10 (cs.reverse.map digit) := by
  induction cs using List.reverseRecOn with
  | nil => rfl
  | append_singleton cs c ih =>
      rw [digitsValue_concat, List.reverse_concat, List.map_cons, Nat.ofDigits_cons, ih]
      omega

theorem digitsValue_eq_ofDigitChars (cs : List Char) :
    digitsValue cs = Nat.ofDigitChars 10 cs 0 := by
  unfold digitsValue
  rw [Nat.ofDigitChars_eq_foldl]
  simp only [Nat.mul_comm]

theorem digitsValue_toDigits (n : Nat) : digitsValue (Nat.toDigits 10 n) = n := by
  rw [digitsValue_eq_ofDigitChars, Nat.ofDigitChars_ten_toDigits]

/-! ### Whole texts -/

theorem natural?_eq_some_iff {cs : List Char} {n : Nat} : natural? cs = some n ↔ Decimal cs n := by
  constructor
  · intro h
    unfold natural? at h
    split at h
    next hcs =>
      simp only [Bool.and_eq_true, Bool.not_eq_true', List.isEmpty_eq_false_iff,
        List.all_eq_true] at hcs
      exact ⟨hcs.1, hcs.2, (digitsValue_eq_ofDigits cs).symm.trans (Option.some.inj h)⟩
    next => cases h
  · rintro ⟨hne, hdigits, hvalue⟩
    have hall : cs.all Char.isDigit = true := List.all_eq_true.mpr hdigits
    have hread : natural? cs = some (digitsValue cs) := by simp [natural?, hne, hall]
    rw [hread, digitsValue_eq_ofDigits, hvalue]

theorem decimal_toDigits (n : Nat) : Decimal (Nat.toDigits 10 n) n where
  ne_nil := Nat.toDigits_ne_nil
  isDigit _ hc := Nat.isDigit_of_mem_toDigits (by decide) (by decide) hc
  value := (digitsValue_eq_ofDigits _).symm.trans (digitsValue_toDigits n)

theorem natural?_repr (n : Nat) : natural? n.repr.toList = some n := by
  rw [Nat.toList_repr]
  exact natural?_eq_some_iff.mpr (decimal_toDigits n)

/-! ### Padded digits -/

theorem digitsValue_padded (width n : Nat) : digitsValue (padded width n) = n := by
  unfold padded
  rw [digitsValue_eq_ofDigitChars, Nat.ofDigitChars_append, Nat.ofDigitChars_replicate_zero,
    Nat.mul_zero, Nat.ofDigitChars_ten_toDigits]

theorem isDigit_of_mem_padded {width n : Nat} {c : Char} (h : c ∈ padded width n) :
    c.isDigit = true := by
  unfold padded at h
  rcases List.mem_append.mp h with hzero | hdigit
  · rw [(List.mem_replicate.mp hzero).2]
    decide
  · exact (decimal_toDigits n).isDigit c hdigit

end TableGateway.Text
