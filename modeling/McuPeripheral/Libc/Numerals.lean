import McuPeripheral.Libc.Text

/-!
# Numerals

The texts that stand for a number in the syntax `strtol` accepts in base 0: decimal,
octal after a leading `0`, hexadecimal after `0x`, with an optional sign and with white
space in front. `strtol` reads each of them as the number it denotes, as long as that
number is a `long`; and what `%d` prints is such a numeral.
-/

namespace Libc

/-- The number a sequence of digits denotes in the given base. -/
def digitsValue (base : ℕ) (digits : List Char) : ℕ :=
  digits.foldl (fun n c => n * base + (digitValue c).getD 0) 0

/-- The numerals without a sign, and what they denote. -/
inductive Magnitude : List Char → ℕ → Prop
  | decimal {c : Char} {cs : List Char} (hfirst : c ≠ '0')
      (hdigits : ∀ d ∈ c :: cs, isDigitIn 10 d = true) :
      Magnitude (c :: cs) (digitsValue 10 (c :: cs))
  | octal {cs : List Char} (hdigits : ∀ d ∈ cs, isDigitIn 8 d = true) :
      Magnitude ('0' :: cs) (digitsValue 8 cs)
  | hex {x c : Char} {cs : List Char} (hx : x = 'x' ∨ x = 'X')
      (hdigits : ∀ d ∈ c :: cs, isDigitIn 16 d = true) :
      Magnitude ('0' :: x :: c :: cs) (digitsValue 16 (c :: cs))

/-- The numerals, and what they denote. -/
inductive Numeral : List Char → ℤ → Prop
  | unsigned {s : List Char} {n : ℕ} (h : Magnitude s n) : Numeral s n
  | plus {s : List Char} {n : ℕ} (h : Magnitude s n) : Numeral ('+' :: s) n
  | minus {s : List Char} {n : ℕ} (h : Magnitude s n) : Numeral ('-' :: s) (-n)
  | space {c : Char} {s : List Char} {n : ℤ} (hspace : isSpace c = true) (h : Numeral s n) :
      Numeral (c :: s) n

/-! ## Reading numerals -/

/-- A digit has a value below the base. -/
theorem digitValue_of_isDigitIn {base : ℕ} {c : Char} (h : isDigitIn base c = true) :
    ∃ d, digitValue c = some d ∧ d < base := by
  unfold isDigitIn at h
  cases hvalue : digitValue c with
  | none => simp [hvalue] at h
  | some d => exact ⟨d, rfl, by simpa [hvalue] using h⟩

/-- A sequence of digits is read to its end. -/
theorem readDigits_eq {base : ℕ} {digits : List Char} (acc : ℕ)
    (h : ∀ c ∈ digits, isDigitIn base c = true) :
    readDigits base acc digits =
      digits.foldl (fun n c => n * base + (digitValue c).getD 0) acc := by
  induction digits generalizing acc with
  | nil => rfl
  | cons c cs ih =>
    obtain ⟨d, hd, hlt⟩ := digitValue_of_isDigitIn (h c List.mem_cons_self)
    rw [List.foldl_cons, ← ih _ fun c' hc' => h c' (List.mem_cons_of_mem _ hc')]
    simp [readDigits, hd, hlt]

/-- An unsigned numeral begins with a digit. -/
theorem Magnitude.head {s : List Char} {n : ℕ} (h : Magnitude s n) :
    ∃ c cs, s = c :: cs ∧ isDigitIn 10 c = true := by
  cases h with
  | decimal hfirst hdigits => exact ⟨_, _, rfl, hdigits _ List.mem_cons_self⟩
  | octal hdigits => exact ⟨'0', _, rfl, by decide⟩
  | hex hx hdigits => exact ⟨'0', _, rfl, by decide⟩

/-- An unsigned numeral is read as the number it denotes. -/
theorem readMagnitude_eq {s : List Char} {n : ℕ} (h : Magnitude s n) : readMagnitude s = n := by
  cases h with
  | decimal hfirst hdigits =>
    rw [readMagnitude, readDigits_eq 0 hdigits, digitsValue]
    · intro x d cs h
      exact hfirst (List.cons.inj h).1
    · intro cs h
      exact hfirst (List.cons.inj h).1
  | @octal cs hdigits =>
    have hread : readDigits 8 0 ('0' :: cs) = digitsValue 8 cs := by
      rw [digitsValue, ← readDigits_eq 0 hdigits]
      rfl
    rw [← hread]
    match cs with
    | [] => rfl
    | [x] => rfl
    | x :: d :: cs =>
      have hx : ¬(x = 'x' ∨ x = 'X') := by
        have hdigit := hdigits x List.mem_cons_self
        rintro (rfl | rfl)
        · exact absurd hdigit (by decide)
        · exact absurd hdigit (by decide)
      rw [readMagnitude, if_neg fun h => hx h.1]
  | hex hx hdigits =>
    rw [readMagnitude, if_pos ⟨hx, hdigits _ List.mem_cons_self⟩, readDigits_eq 0 hdigits,
      digitsValue]

/-- A decimal digit is one of the ten. -/
theorem isDigitIn_ten_iff {c : Char} : isDigitIn 10 c = true ↔ '0' ≤ c ∧ c ≤ '9' := by
  have hnine : ('9' : Char).toNat = 57 := rfl
  unfold isDigitIn digitValue
  split_ifs with hten hlower hupper
  · simp only [hten, and_self, iff_true, decide_eq_true_eq]
    have hle : c.toNat ≤ '9'.toNat := hten.2
    omega
  · simp [hten]
  · simp [hten]
  · simp [hten]

/-- A digit is neither white space nor a sign. -/
theorem not_space_of_isDigitIn {c : Char} (h : isDigitIn 10 c = true) :
    isSpace c = false ∧ c ≠ '-' ∧ c ≠ '+' := by
  obtain ⟨hlow, hhigh⟩ := isDigitIn_ten_iff.mp h
  refine ⟨?_, ?_, ?_⟩
  · have hreturn : ¬c ≤ '\r' := fun hle => absurd (Char.le_trans hlow hle) (by decide)
    have hblank : c ≠ ' ' := by
      rintro rfl
      exact absurd hlow (by decide)
    simp [isSpace, hblank, hreturn]
  · rintro rfl
    exact absurd hlow (by decide)
  · rintro rfl
    exact absurd hlow (by decide)

/-- `strtol` reads a numeral as the number it denotes, clamped to `long`. -/
theorem strtol_eq {s : List Char} {n : ℤ} (h : Numeral s n) : strtol s = Int64.ofIntClamp n := by
  induction h with
  | @unsigned s n h =>
    obtain ⟨c, cs, rfl, hc⟩ := h.head
    obtain ⟨hspace, hminus, hplus⟩ := not_space_of_isDigitIn hc
    unfold strtol
    rw [List.dropWhile_cons_of_neg (by simp [hspace]), ← readMagnitude_eq h]
    split
    · rename_i heq
      exact absurd (List.cons.inj heq).1 hminus
    · rename_i heq
      exact absurd (List.cons.inj heq).1 hplus
    · rfl
  | plus h | minus h =>
    unfold strtol
    rw [List.dropWhile_cons_of_neg (by decide), ← readMagnitude_eq h]
    rfl
  | @space c s n hspace h ih =>
    rw [← ih]
    unfold strtol
    rw [List.dropWhile_cons_of_pos hspace]

/-- A numeral for a `long` is read exactly. -/
theorem toInt_strtol {s : List Char} {n : ℤ} (h : Numeral s n) (hlow : -2 ^ 63 ≤ n)
    (hhigh : n < 2 ^ 63) : (strtol s).toInt = n := by
  rw [strtol_eq h]
  exact Int64.toInt_ofIntClamp hlow (Int.le_of_lt_add_one hhigh)

/-! ## Printed numbers are numerals -/

/-- One more digit. -/
theorem digitsValue_append_one (base : ℕ) (digits : List Char) (c : Char) :
    digitsValue base (digits ++ [c]) = digitsValue base digits * base + (digitValue c).getD 0 := by
  simp [digitsValue]

/-- The value of a printed digit. -/
theorem digitValue_digitChar : ∀ d < 10, digitValue (Nat.digitChar d) = some d := by decide

/-- The digits of a number denote it. -/
theorem digitsValue_toDigits (n : ℕ) : digitsValue 10 (Nat.toDigits 10 n) = n := by
  induction n using Nat.strongRecOn with
  | ind n ih =>
    by_cases hn : n < 10
    · rw [Nat.toDigits_of_lt_base hn]
      simp [digitsValue, digitValue_digitChar n hn]
    · rw [Nat.toDigits_of_base_le (by decide) (by omega), digitsValue_append_one,
        ih (n / 10) (by omega), digitValue_digitChar _ (Nat.mod_lt n (by decide)), Option.getD_some]
      omega

/-- A number other than zero is printed without a leading zero. -/
theorem head_toDigits_ne {n : ℕ} (hn : n ≠ 0) : (Nat.toDigits 10 n).head? ≠ some '0' := by
  induction n using Nat.strongRecOn with
  | ind n ih =>
    by_cases hlt : n < 10
    · rw [Nat.toDigits_of_lt_base hlt]
      simpa using hn
    · rw [Nat.toDigits_of_base_le (by decide) (by omega),
        List.head?_append_of_ne_nil _ Nat.toDigits_ne_nil]
      exact ih (n / 10) (by omega) (by omega)

/-- The digits of a number are a numeral for it. -/
theorem magnitude_toDigits (n : ℕ) : Magnitude (Nat.toDigits 10 n) n := by
  by_cases hn : n = 0
  · subst hn
    exact @Magnitude.octal [] (by simp)
  · have hvalue := digitsValue_toDigits n
    have hhead := head_toDigits_ne hn
    have hdigits : ∀ c ∈ Nat.toDigits 10 n, isDigitIn 10 c = true := by
      intro c hc
      have hdigit := Nat.isDigit_of_mem_toDigits (by decide) (by decide) hc
      simp only [Char.isDigit, Bool.and_eq_true, decide_eq_true_eq] at hdigit
      exact isDigitIn_ten_iff.mpr hdigit
    cases htext : Nat.toDigits 10 n with
    | nil => exact absurd htext Nat.toDigits_ne_nil
    | cons c cs =>
      rw [htext] at hvalue hhead hdigits
      rw [← hvalue]
      exact .decimal (fun h => hhead (congrArg some h)) hdigits

/-- What `%d` prints is a numeral. -/
theorem numeral_decimal (n : ℤ) : Numeral (decimal n) n := by
  have hmagnitude := magnitude_toDigits n.natAbs
  unfold decimal
  split
  · rw [show n = -(n.natAbs : ℤ) by omega, Int.natAbs_neg, Int.natAbs_natCast]
    exact .minus hmagnitude
  · rw [show n = (n.natAbs : ℤ) by omega, Int.natAbs_natCast]
    exact .unsigned hmagnitude

end Libc
