import Mathlib.Data.List.Basic
import Mathlib.Data.List.TakeDrop
import Mathlib.Data.Nat.Digits.Defs
import Mathlib.Tactic.NormNum

/-!
# Numbers in text

C strings are lists of characters. `decimal` is the conversion `%d`, `snprintf`
truncates to a fixed buffer, and `strtol` reads a number back in base 0. The
lemmas say when a rendered number can be recovered from its text, which is what
keeps rendered file names apart.
-/

namespace Libc

/-- The conversion `%d`. -/
def decimal (n : ℤ) : List Char :=
  if n < 0 then '-' :: Nat.toDigits 10 n.natAbs else Nat.toDigits 10 n.natAbs

/-- What `snprintf` leaves in a buffer of `size` bytes, without the terminator. -/
def snprintf (size : ℕ) (text : List Char) : List Char := text.take (size - 1)

/-- The bytes of a text, one per character. -/
def bytes (text : List Char) : List UInt8 := text.map Char.toUInt8

/-- A text that fits, terminator included, is not truncated. -/
theorem snprintf_eq {size : ℕ} {text : List Char} (h : text.length < size) :
    snprintf size text = text := List.take_of_length_le (by omega)

/-- Exactly those texts are not truncated. -/
theorem snprintf_eq_iff {size : ℕ} {text : List Char} (hsize : 0 < size) :
    snprintf size text = text ↔ text.length < size := by
  unfold snprintf
  rw [List.take_eq_self_iff]
  omega

/-- A text up to its first separator. -/
theorem takeWhile_append_sep {s t : List Char} {sep : Char} (hs : sep ∉ s)
    (ht : ∀ c ∈ t.head?, c = sep) : (s ++ t).takeWhile (· != sep) = s := by
  have hall : ∀ c ∈ s, (c != sep) = true := by
    intro c hc
    simp only [bne_iff_ne]
    rintro rfl
    exact hs hc
  rw [List.takeWhile_append_of_pos hall]
  cases t with
  | nil => simp
  | cons c t =>
    obtain rfl := ht c rfl
    simp

/-- Texts that are cut at their first separator are the same part by part. -/
theorem append_sep_inj {s t s' t' : List Char} {sep : Char} (hs : sep ∉ s) (hs' : sep ∉ s')
    (ht : ∀ c ∈ t.head?, c = sep) (ht' : ∀ c ∈ t'.head?, c = sep) (h : s ++ t = s' ++ t') :
    s = s' ∧ t = t' := by
  have hfront := congrArg (List.takeWhile (· != sep)) h
  rw [takeWhile_append_sep hs ht, takeWhile_append_sep hs' ht'] at hfront
  subst hfront
  exact ⟨rfl, List.append_cancel_left h⟩

/-- A minus sign is not a digit. -/
theorem minus_notMem_toDigits (n : ℕ) : '-' ∉ Nat.toDigits 10 n := by
  intro h
  have hdigit := Nat.isDigit_of_mem_toDigits (by decide) (by decide) h
  exact absurd hdigit (by decide)

/-- Different natural numbers have different digits. -/
theorem toDigits_injective : Function.Injective (Nat.toDigits 10) := by
  intro m n h
  rw [← Nat.ofDigitChars_ten_toDigits (n := m), h, Nat.ofDigitChars_ten_toDigits]

/-- Different integers are rendered differently. -/
theorem decimal_injective : Function.Injective decimal := by
  intro m n h
  unfold decimal at h
  split at h <;> split at h
  · have := toDigits_injective (List.cons.inj h).2
    omega
  · exact absurd (h ▸ List.mem_cons_self) (minus_notMem_toDigits _)
  · exact absurd (h ▸ List.mem_cons_self) (minus_notMem_toDigits _)
  · have := toDigits_injective h
    omega

/-- A rendered number consists of digits and possibly a minus sign. -/
theorem mem_decimal {n : ℤ} {c : Char} (h : c ∈ decimal n) : c = '-' ∨ c.isDigit = true := by
  unfold decimal at h
  split at h
  · rcases List.mem_cons.mp h with rfl | h
    · exact Or.inl rfl
    · exact Or.inr (Nat.isDigit_of_mem_toDigits (by decide) (by decide) h)
  · exact Or.inr (Nat.isDigit_of_mem_toDigits (by decide) (by decide) h)

/-- Below `10 ^ k` in absolute value at most `k` digits and a sign are needed. -/
theorem length_decimal_le {n : ℤ} {k : ℕ} (hk : 0 < k) (h : n.natAbs < 10 ^ k) :
    (decimal n).length ≤ k + 1 := by
  have hdigits := (Nat.length_toDigits_le_iff (by decide) hk).mpr h
  unfold decimal
  split
  · simpa using hdigits
  · omega

/-- For a number that is not negative it is the number of digits that counts. -/
theorem length_decimal_le_iff {n : ℤ} {k : ℕ} (hn : 0 ≤ n) (hk : 0 < k) :
    (decimal n).length ≤ k ↔ n < 10 ^ k := by
  have hvalue : ((n.natAbs : ℕ) : ℤ) = n := Int.natAbs_of_nonneg hn
  have hpow : n.natAbs < 10 ^ k ↔ n < 10 ^ k := by
    rw [← Int.ofNat_lt, hvalue]
    norm_cast
  unfold decimal
  rw [if_neg (by omega), Nat.length_toDigits_le_iff (by decide) hk, hpow]

/-- A 32-bit number takes at most eleven characters. -/
theorem length_decimal_int32 (n : Int32) : (decimal n.toInt).length ≤ 11 := by
  refine length_decimal_le (by decide) ?_
  have hlow := n.le_toInt
  have hhigh := n.toInt_lt
  omega

/-- The bytes of a text determine it when its characters are single bytes. -/
theorem bytes_injOn {s t : List Char} (hs : ∀ c ∈ s, c.toNat < 256) (ht : ∀ c ∈ t, c.toNat < 256)
    (h : bytes s = bytes t) : s = t := by
  induction s generalizing t with
  | nil =>
    cases t with
    | nil => rfl
    | cons d t => simp [bytes] at h
  | cons c s ih =>
    cases t with
    | nil => simp [bytes] at h
    | cons d t =>
      obtain ⟨hc, hrest⟩ := List.cons.inj h
      have hcn := hs c List.mem_cons_self
      have hdn := ht d List.mem_cons_self
      have hnat : c.toNat = d.toNat := by
        have := congrArg UInt8.toNat hc
        simp only [Char.toUInt8, UInt32.toNat_toUInt8] at this
        change c.toNat % 2 ^ 8 = d.toNat % 2 ^ 8 at this
        omega
      rw [ih (fun x hx => hs x (List.mem_cons_of_mem _ hx))
        (fun x hx => ht x (List.mem_cons_of_mem _ hx)) hrest,
        Char.toNat_inj.mp hnat]

/-- A digit or a minus sign is a single byte. -/
theorem toNat_lt_of_mem_decimal {n : ℤ} {c : Char} (h : c ∈ decimal n) : c.toNat < 256 := by
  rcases mem_decimal h with rfl | hdigit
  · decide
  · simp only [Char.isDigit, Bool.and_eq_true, decide_eq_true_eq] at hdigit
    have hle : c.toNat ≤ 57 := by simpa using UInt32.le_iff_toNat_le.mp hdigit.2
    omega

/-- Different integers are rendered to different bytes. -/
theorem bytes_decimal_injective {m n : ℤ} (h : bytes (decimal m) = bytes (decimal n)) : m = n :=
  decimal_injective (bytes_injOn (fun _ => toNat_lt_of_mem_decimal)
    (fun _ => toNat_lt_of_mem_decimal) h)

/-- `isspace` in the C locale. -/
def isSpace (c : Char) : Bool := c == ' ' || ('\t' ≤ c && c ≤ '\r')

/-- The value of a digit or letter, as `strtol` counts them. -/
def digitValue (c : Char) : Option ℕ :=
  if '0' ≤ c ∧ c ≤ '9' then some (c.toNat - 48)
  else if 'a' ≤ c ∧ c ≤ 'z' then some (c.toNat - 97 + 10)
  else if 'A' ≤ c ∧ c ≤ 'Z' then some (c.toNat - 65 + 10)
  else none

/-- Whether a character is a digit in the given base. -/
def isDigitIn (base : ℕ) (c : Char) : Bool :=
  match digitValue c with
  | some d => d < base
  | none => false

/-- Read digits in the given base up to the first character that is not one. -/
def readDigits (base : ℕ) (acc : ℕ) : List Char → ℕ
  | [] => acc
  | c :: cs =>
    match digitValue c with
    | some d => if d < base then readDigits base (acc * base + d) cs else acc
    | none => acc

/-- The number `strtol` finds after the sign when its base argument is 0: `0x` before
a hexadecimal digit means base 16, a leading `0` means base 8, otherwise base 10. -/
def readMagnitude : List Char → ℕ
  | '0' :: x :: d :: cs =>
    if (x = 'x' ∨ x = 'X') ∧ isDigitIn 16 d = true then readDigits 16 0 (d :: cs)
    else readDigits 8 0 ('0' :: x :: d :: cs)
  | '0' :: cs => readDigits 8 0 ('0' :: cs)
  | cs => readDigits 10 0 cs

/-- `strtol(s, NULL, 0)`: leading white space and a sign are skipped, and a number
out of range is clamped to the ends of `long`. -/
def strtol (s : List Char) : Int64 :=
  match s.dropWhile isSpace with
  | '-' :: cs => Int64.ofIntClamp (-(readMagnitude cs : ℤ))
  | '+' :: cs => Int64.ofIntClamp (readMagnitude cs)
  | cs => Int64.ofIntClamp (readMagnitude cs)

example : strtol " -0x1F z".toList = -31 := by decide

end Libc
