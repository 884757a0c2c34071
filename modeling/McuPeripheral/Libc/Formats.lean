import McuPeripheral.Libc.Text
import Mathlib.Data.List.TakeWhile

/-!
# Numbers in columns

`%Nd` puts blanks in front of a number, and `%02x` prints a byte with two hexadecimal
digits. Both can be read back.
-/

namespace Libc

/-- `%Nd`. -/
def decimalIn (width : ℕ) (n : ℤ) : List Char := (decimal n).leftpad width ' '

/-- `%02x` of a byte. -/
def hexByte (b : UInt8) : List Char := (Nat.toDigits 16 b.toNat).leftpad 2 '0'

/-- A number begins with a digit or a minus sign, and not with a blank. -/
theorem dropWhile_decimalIn (width : ℕ) (n : ℤ) :
    (decimalIn width n).dropWhile (· == ' ') = decimal n := by
  have hblank : ∀ c ∈ decimal n, c ≠ ' ' := by
    intro c hc
    rcases mem_decimal hc with rfl | hdigit
    · decide
    · rintro rfl
      exact absurd hdigit (by decide)
  have hdecimal : (decimal n).dropWhile (· == ' ') = decimal n := by
    cases htext : decimal n with
    | nil => rfl
    | cons c cs =>
      rw [htext] at hblank
      exact List.dropWhile_cons_of_neg (by simpa using hblank c List.mem_cons_self)
  unfold decimalIn List.leftpad
  rw [List.dropWhile_append_of_pos fun c hc => by simp [List.eq_of_mem_replicate hc], hdecimal]

/-- Different numbers are different in a column. -/
theorem decimalIn_injective (width : ℕ) : Function.Injective (decimalIn width) := by
  intro m n h
  apply decimal_injective
  rw [← dropWhile_decimalIn width m, h, dropWhile_decimalIn]

/-- In a column there are blanks, digits and minus signs. -/
theorem mem_decimalIn {width : ℕ} {n : ℤ} {c : Char} (h : c ∈ decimalIn width n) :
    c = ' ' ∨ c = '-' ∨ c.isDigit = true := by
  unfold decimalIn List.leftpad at h
  rcases List.mem_append.mp h with h | h
  · exact Or.inl (List.eq_of_mem_replicate h)
  · exact Or.inr (mem_decimal h)

end Libc
