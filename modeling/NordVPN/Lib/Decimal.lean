import Mathlib.Data.List.Basic

/-!
Integers as decimal text.

`atoi` reads an optional sign and digits and refuses a number that a 64-bit integer
cannot hold. What `toString` prints is read back as the number it was.
-/

namespace Decimal

/-- The number a text of decimal digits stands for. -/
def digits (s : List Char) : Option Nat :=
  if s ≠ [] ∧ s.all Char.isDigit = true then some (Nat.ofDigitChars 10 s 0) else none

/-- `strconv.Atoi`. -/
def atoi : List Char → Option Int
  | '-' :: s => (digits s).bind fun n => if n ≤ 9223372036854775808 then some (-n) else none
  | '+' :: s => (digits s).bind fun n => if n < 9223372036854775808 then some n else none
  | s => (digits s).bind fun n => if n < 9223372036854775808 then some n else none

theorem notMem_toDigits {c : Char} (h : c.isDigit = false) (n : Nat) : c ∉ Nat.toDigits 10 n := by
  intro hmem
  have hdigit := Nat.isDigit_of_mem_toDigits (by decide) (Nat.le_refl 10) hmem
  rw [h] at hdigit
  cases hdigit

@[simp] theorem digits_toDigits (n : Nat) : digits (Nat.toDigits 10 n) = some n := by
  have hall : (Nat.toDigits 10 n).all Char.isDigit = true :=
    List.all_eq_true.mpr fun _ hc => Nat.isDigit_of_mem_toDigits (by decide) (Nat.le_refl 10) hc
  rw [digits, if_pos ⟨Nat.toDigits_ne_nil, hall⟩, Nat.ofDigitChars_ten_toDigits]

theorem atoi_toDigits (n : Nat) :
    atoi (Nat.toDigits 10 n) = if n < 9223372036854775808 then some (n : Int) else none := by
  have hsign (c : Char) (hc : c.isDigit = false) (s : List Char) : Nat.toDigits 10 n ≠ c :: s := by
    intro h
    apply notMem_toDigits hc n
    rw [h]
    exact List.mem_cons_self
  rw [atoi.eq_3 _ (hsign '-' (by decide)) (hsign '+' (by decide)), digits_toDigits,
    Option.bind_some]

theorem toList_repr (v : Int) :
    v.repr.toList = if 0 ≤ v then Nat.toDigits 10 v.toNat else '-' :: Nat.toDigits 10
      (-v).toNat := by
  rw [Int.repr_eq_if]
  split
  · rw [Nat.toList_repr]
  · rw [String.toList_append, Nat.toList_repr]
    rfl

theorem atoi_repr {v : Int} (hlow : -9223372036854775808 ≤ v) (hhigh : v < 9223372036854775808) :
    atoi v.repr.toList = some v := by
  rw [toList_repr]
  split
  · rw [atoi_toDigits, if_pos (by omega), Int.toNat_of_nonneg (by assumption)]
  · rw [atoi, digits_toDigits, Option.bind_some, if_pos (by omega),
      Int.toNat_of_nonneg (by omega), Int.neg_neg]

/-- A character that is neither a sign nor a digit is in no printed number. -/
theorem notMem_repr {c : Char} (hdigit : c.isDigit = false) (hsign : c ≠ '-') (v : Int) :
    c ∉ v.repr.toList := by
  rw [toList_repr]
  split
  · exact notMem_toDigits hdigit _
  · exact List.not_mem_cons_of_ne_of_not_mem hsign (notMem_toDigits hdigit _)

end Decimal
