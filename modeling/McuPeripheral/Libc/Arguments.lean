import McuPeripheral.Libc.Numerals
import Mathlib.Data.List.TakeWhile

/-!
# Numbers as arguments

A program that reads a number with `strtol` and then looks whether anything is left of its
argument accepts the numerals, and nothing else but the empty argument, which it reads as
zero.
-/

namespace Libc

/-- What is left behind a number without a sign. -/
def magnitudeTail : List Char → List Char
  | '0' :: x :: d :: cs =>
    if (x = 'x' ∨ x = 'X') ∧ isDigitIn 16 d = true then (d :: cs).dropWhile (isDigitIn 16)
    else ('0' :: x :: d :: cs).dropWhile (isDigitIn 8)
  | '0' :: cs => ('0' :: cs).dropWhile (isDigitIn 8)
  | cs => cs.dropWhile (isDigitIn 10)

/-- A text behind its sign. -/
def behindSign : List Char → List Char
  | '-' :: cs => cs
  | '+' :: cs => cs
  | cs => cs

/-- The end pointer of `strtol(s, &tail, 0)`: what is left behind the number, or all of the
text if there is no number. -/
def strtolTail (s : List Char) : List Char :=
  match behindSign (s.dropWhile isSpace) with
  | c :: cs => if isDigitIn 10 c = true then magnitudeTail (c :: cs) else s
  | [] => s

/-- Nothing is left behind a numeral without a sign. -/
theorem magnitudeTail_of_magnitude {s : List Char} {n : ℕ} (h : Magnitude s n) :
    magnitudeTail s = [] := by
  cases h with
  | decimal hfirst hdigits =>
    rw [magnitudeTail]
    · exact List.dropWhile_eq_nil_iff.mpr hdigits
    · intro x d cs h
      exact hfirst (List.cons.inj h).1
    · intro cs h
      exact hfirst (List.cons.inj h).1
  | @octal cs hdigits =>
    have hall : ('0' :: cs).dropWhile (isDigitIn 8) = [] := by
      refine List.dropWhile_eq_nil_iff.mpr fun c hc => ?_
      rcases List.mem_cons.mp hc with rfl | hc
      · decide
      · exact hdigits c hc
    match cs with
    | [] => exact hall
    | [x] => exact hall
    | x :: d :: cs =>
      have hx : ¬(x = 'x' ∨ x = 'X') := by
        have hdigit := hdigits x List.mem_cons_self
        rintro (rfl | rfl)
        · exact absurd hdigit (by decide)
        · exact absurd hdigit (by decide)
      rw [magnitudeTail, if_neg fun h => hx h.1]
      exact hall
  | hex hx hdigits =>
    rw [magnitudeTail, if_pos ⟨hx, hdigits _ List.mem_cons_self⟩]
    exact List.dropWhile_eq_nil_iff.mpr hdigits

/-- A text that begins with a digit and of which nothing is left is a numeral. -/
theorem magnitude_of_magnitudeTail {c : Char} {cs : List Char} (hc : isDigitIn 10 c = true)
    (h : magnitudeTail (c :: cs) = []) : ∃ n, Magnitude (c :: cs) n := by
  by_cases hzero : c = '0'
  · subst hzero
    have hoctal (hall : ('0' :: cs).dropWhile (isDigitIn 8) = []) :
        ∃ n, Magnitude ('0' :: cs) n :=
      ⟨_, .octal fun d hd => List.dropWhile_eq_nil_iff.mp hall d (List.mem_cons_of_mem _ hd)⟩
    match cs with
    | [] => exact hoctal h
    | [x] => exact hoctal h
    | x :: d :: cs =>
      rw [magnitudeTail] at h
      split at h
      · rename_i hx
        exact ⟨_, .hex hx.1 (List.dropWhile_eq_nil_iff.mp h)⟩
      · exact hoctal h
  · rw [magnitudeTail] at h
    · exact ⟨_, .decimal hzero (List.dropWhile_eq_nil_iff.mp h)⟩
    · intro x d cs' heq
      exact hzero (List.cons.inj heq).1
    · intro cs' heq
      exact hzero (List.cons.inj heq).1

/-- White space in front of a text plays no role for what is left of it, unless nothing is
read. -/
theorem strtolTail_of_number {s cs : List Char} {n : ℕ}
    (hbody : behindSign (s.dropWhile isSpace) = cs) (h : Magnitude cs n) : strtolTail s = [] := by
  obtain ⟨c, cs, rfl, hc⟩ := h.head
  unfold strtolTail
  rw [hbody]
  simp only [hc, if_true]
  exact magnitudeTail_of_magnitude h

/-- Behind its white space and its sign, a numeral has its digits. -/
theorem Numeral.magnitude {s : List Char} {n : ℤ} (h : Numeral s n) :
    ∃ m, Magnitude (behindSign (s.dropWhile isSpace)) m := by
  induction h with
  | @unsigned s n h =>
    obtain ⟨c, cs, rfl, hc⟩ := h.head
    obtain ⟨hspace, hminus, hplus⟩ := not_space_of_isDigitIn hc
    refine ⟨n, ?_⟩
    rw [List.dropWhile_cons_of_neg (by simp [hspace]), behindSign]
    · exact h
    · intro cs' heq
      exact hminus (List.cons.inj heq).1
    · intro cs' heq
      exact hplus (List.cons.inj heq).1
  | @plus s n h =>
    refine ⟨n, ?_⟩
    rwa [List.dropWhile_cons_of_neg (by decide)]
  | @minus s n h =>
    refine ⟨n, ?_⟩
    rwa [List.dropWhile_cons_of_neg (by decide)]
  | @space c s n hspace h ih => rwa [List.dropWhile_cons_of_pos hspace]

/-- A sign may stand in front of the digits. -/
theorem numeral_of_behindSign {s : List Char} {m : ℕ} (h : Magnitude (behindSign s) m) :
    ∃ n, Numeral s n := by
  unfold behindSign at h
  split at h
  · exact ⟨_, .minus h⟩
  · exact ⟨_, .plus h⟩
  · exact ⟨_, .unsigned h⟩

/-- White space may stand in front of a numeral. -/
theorem numeral_of_dropWhile {s : List Char} {n : ℤ} (h : Numeral (s.dropWhile isSpace) n) :
    Numeral s n := by
  induction s with
  | nil => exact h
  | cons c s ih =>
    by_cases hspace : isSpace c = true
    · rw [List.dropWhile_cons_of_pos hspace] at h
      exact .space hspace (ih h)
    · rwa [List.dropWhile_cons_of_neg hspace] at h

/-- **Accepted arguments.** Nothing is left of the numerals and of the empty text only. -/
theorem strtolTail_eq_nil_iff {s : List Char} : strtolTail s = [] ↔ s = [] ∨ ∃ n, Numeral s n := by
  constructor
  · intro h
    unfold strtolTail at h
    split at h
    · rename_i c cs hbody
      split at h
      · rename_i hc
        obtain ⟨m, hmagnitude⟩ := magnitude_of_magnitudeTail hc h
        rw [← hbody] at hmagnitude
        obtain ⟨n, hnumeral⟩ := numeral_of_behindSign hmagnitude
        exact Or.inr ⟨n, numeral_of_dropWhile hnumeral⟩
      · exact Or.inl h
    · exact Or.inl h
  · rintro (rfl | ⟨n, h⟩)
    · rfl
    · obtain ⟨m, hmagnitude⟩ := h.magnitude
      exact strtolTail_of_number rfl hmagnitude

end Libc
