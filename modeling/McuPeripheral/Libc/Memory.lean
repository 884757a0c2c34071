import McuPeripheral.Calls.Ledger
import McuPeripheral.Libc.Interface
import Mathlib.Logic.Function.Basic
import Mathlib.Tactic.Ring

/-!
# Heap memory with bounds

The heap as a partial map from block numbers to bounded byte arrays. A write or
a load that is not entirely inside its block has no result, and the environment
`heap` turns that into the error outcome `none`, from which nothing recovers.
-/

namespace Libc

open Calls

/-- One byte of memory: a plain byte, or one byte of a stored pointer. -/
inductive Cell
  | byte (b : UInt8)
  | part (p : Ptr) (i : ℕ)
  deriving DecidableEq, Repr

/-- An allocated block. Only the cells below `size` belong to it. -/
structure Block where
  /-- The size that was asked for. -/
  size : ℕ
  /-- The contents. -/
  cell : ℕ → Cell

/-- The live heap blocks. -/
abbrev Memory := ℕ → Option Block

/-- The eight cells of a stored word, little-endian for a number. -/
def Word.cell : Word → ℕ → Cell
  | .size n, i => .byte (UInt8.ofNat (n.toNat / 256 ^ i))
  | .ptr p, i => .part p i

/-- The number stored little-endian in the first `count` cells, if they hold plain bytes. -/
def readBytes (cell : ℕ → Cell) : ℕ → Option ℕ
  | 0 => some 0
  | count + 1 =>
    match cell 0 with
    | .byte b => (readBytes (fun i => cell (i + 1)) count).map fun high => b.toNat + 256 * high
    | .part .. => none

/-- Storing a number and reading it back gives its low bytes. -/
theorem readBytes_ofNat (n count : ℕ) :
    readBytes (fun i => .byte (UInt8.ofNat (n / 256 ^ i))) count = some (n % 256 ^ count) := by
  induction count generalizing n with
  | zero => simp [readBytes, Nat.mod_one]
  | succ count ih =>
    have htail : (fun i => Cell.byte (UInt8.ofNat (n / 256 ^ (i + 1)))) =
        fun i => Cell.byte (UInt8.ofNat (n / 256 / 256 ^ i)) := by
      funext i
      rw [Nat.div_div_eq_div_mul, pow_succ']
    simp only [readBytes, htail, ih, Option.map_some, pow_zero, Nat.div_one]
    rw [pow_succ', Nat.mod_mul]
    simp

/-- A stored size is read back unchanged. -/
theorem readBytes_size (n : UInt64) : readBytes (Word.size n).cell 8 = some n.toNat := by
  have hlt : n.toNat % 256 ^ 8 = n.toNat := Nat.mod_eq_of_lt (by simpa using n.toNat_lt)
  have h := readBytes_ofNat n.toNat 8
  rw [hlt] at h
  exact h

/-- Reading depends on the cells that are read only. -/
theorem readBytes_congr {cell cell' : ℕ → Cell} {count : ℕ} (h : ∀ i < count, cell i = cell' i) :
    readBytes cell count = readBytes cell' count := by
  induction count generalizing cell cell' with
  | zero => rfl
  | succ count ih =>
    simp only [readBytes, h 0 (by omega)]
    rw [ih (fun i hi => h (i + 1) (by omega))]

namespace Memory

/-- The `count` bytes at `p` lie inside the block `b`. -/
def Fits (b : Block) (p : Ptr) (count : ℕ) : Prop := 0 ≤ p.offset ∧ p.offset + count ≤ b.size

instance (b : Block) (p : Ptr) (count : ℕ) : Decidable (Fits b p count) :=
  inferInstanceAs (Decidable (_ ∧ _))

/-- The block with the `count` cells from offset `start` replaced. -/
def overwrite (b : Block) (start : ℤ) (count : ℕ) (new : ℕ → Cell) : Block where
  size := b.size
  cell i := if start ≤ i ∧ i < start + count then new (i - start).toNat else b.cell i

/-- Write `count` cells at `p`, if they are inside a live block. -/
def write (m : Memory) (p : Ptr) (count : ℕ) (new : ℕ → Cell) : Option Memory :=
  match m p.block with
  | none => none
  | some b =>
    if Fits b p count then
      some (Function.update m p.block (some (overwrite b p.offset count new)))
    else none

/-- Load a `size_t` at `p`, if it is inside a live block and was stored as a number. -/
def readSize (m : Memory) (p : Ptr) : Option UInt64 :=
  match m p.block with
  | none => none
  | some b =>
    if Fits b p 8 then (readBytes (fun i => b.cell (p.offset.toNat + i)) 8).map UInt64.ofNat
    else none

/-- Give a block back; only the pointer to its start may be freed. -/
def release (m : Memory) (p : Ptr) : Option Memory :=
  match m p.block with
  | none => none
  | some _ => if p.offset = 0 then some (Function.update m p.block none) else none

/-- What a block contains after `calloc`. -/
def zeroed (size : ℕ) : Block := ⟨size, fun _ => .byte 0⟩

variable {m m' : Memory} {p : Ptr} {b : Block} {count : ℕ} {new : ℕ → Cell}

/-- Outside the written range the block keeps its contents. -/
theorem overwrite_cell_outside {start : ℤ} {i : ℕ} (h : (i : ℤ) < start ∨ start + count ≤ i) :
    (overwrite b start count new).cell i = b.cell i := by
  simp only [overwrite]
  rw [if_neg (by omega)]

/-- Inside the written range it has the new contents. -/
theorem overwrite_cell_inside {start : ℤ} {i : ℕ} (h : start ≤ i) (h' : (i : ℤ) < start + count) :
    (overwrite b start count new).cell i = new (i - start).toNat := by
  simp only [overwrite]
  rw [if_pos ⟨h, h'⟩]

/-- A write inside a live block succeeds and replaces exactly its range. -/
theorem write_of_fits (hb : m p.block = some b) (hfits : Fits b p count) :
    m.write p count new =
      some (Function.update m p.block (some (overwrite b p.offset count new))) := by
  simp [write, hb, hfits]

/-- A write that leaves its block is the error outcome. -/
theorem write_of_not_fits (hb : m p.block = some b) (hfits : ¬Fits b p count) :
    m.write p count new = none := by
  simp [write, hb, hfits]

/-- A size that was stored at `p` is what a load at `p` gives. -/
theorem readSize_of_cells {n : UInt64} (hb : m p.block = some b) (hfits : Fits b p 8)
    (hcell : ∀ i < 8, b.cell (p.offset.toNat + i) = (Word.size n).cell i) :
    m.readSize p = some n := by
  simp [readSize, hb, hfits, readBytes_congr hcell, readBytes_size]

end Memory

/-- One step of the heap; `none` is the error outcome. -/
def heapStep : Option Memory → Event Call Reply → Option Memory → Prop
  | none, _, s' => s' = none
  | some m, ⟨.calloc _, none⟩, s' => s' = some m
  | some m, ⟨.calloc size, some p⟩, s' =>
    p.offset = 0 ∧ m p.block = none ∧
      s' = some (Function.update m p.block (some (Memory.zeroed size.toNat)))
  | some m, ⟨.free p, _⟩, s' => s' = m.release p
  | some m, ⟨.memset p value count, _⟩, s' => s' = m.write p count.toNat fun _ => .byte value
  | some m, ⟨.store p w, _⟩, s' => s' = m.write p 8 w.cell
  | some m, ⟨.loadSize p, n⟩, s' =>
    match m.readSize p with
    | some n' => n = n' ∧ s' = some m
    | none => s' = none
  | some m, ⟨.getenv _, _⟩, s' => s' = some m

/-- The heap as an environment: `calloc` may fail, and may hand out any block that is not live. -/
def heap : Env Call Reply (Option Memory) := ⟨heapStep⟩

/-- The events of a step leave no choice about the heap after it. -/
theorem heapStep_deterministic {s s₁ s₂ : Option Memory} {e : Event Call Reply}
    (h₁ : heapStep s e s₁) (h₂ : heapStep s e s₂) : s₁ = s₂ := by
  obtain ⟨call, reply⟩ := e
  cases s with
  | none => exact h₁.trans h₂.symm
  | some m =>
    cases call with
    | calloc size =>
      cases reply with
      | none => exact h₁.trans h₂.symm
      | some p => exact h₁.2.2.trans h₂.2.2.symm
    | loadSize p =>
      simp only [heapStep] at h₁ h₂
      cases hread : m.readSize p with
      | none =>
        simp only [hread] at h₁ h₂
        exact h₁.trans h₂.symm
      | some n =>
        simp only [hread] at h₁ h₂
        exact h₁.2.trans h₂.2.symm
    | free p => exact h₁.trans h₂.symm
    | memset p value count => exact h₁.trans h₂.symm
    | store p w => exact h₁.trans h₂.symm
    | getenv name => exact h₁.trans h₂.symm

/-- A trace determines the heap at its end. -/
theorem heap_run_deterministic {tr : List (Event Call Reply)} {s s₁ s₂ : Option Memory}
    (h₁ : heap.Run s tr s₁) (h₂ : heap.Run s tr s₂) : s₁ = s₂ := by
  induction tr generalizing s with
  | nil => exact h₁.trans h₂.symm
  | cons e tr ih =>
    obtain ⟨t₁, hstep₁, hrun₁⟩ := h₁
    obtain ⟨t₂, hstep₂, hrun₂⟩ := h₂
    obtain rfl : t₁ = t₂ := heapStep_deterministic hstep₁ hstep₂
    exact ih hrun₁ hrun₂

/-- Nothing recovers from the error outcome. -/
theorem heap_run_none {tr : List (Event Call Reply)} {s' : Option Memory}
    (h : heap.Run none tr s') : s' = none := by
  refine h.preserves (I := fun s => s = none) ?_ rfl
  rintro s e s' rfl hstep
  exact hstep

/-! ## The blocks a program holds

A block is acquired by a `calloc` that succeeds and given back by a `free`. The ledger
names the blocks as its user wants, so that they can be held along with other things.
-/

section Blocks

variable {ρ : Type*} (block : Ptr → ρ)

/-- The blocks handed out by `calloc` and given back by `free`. -/
def heapLedger : Ledger Call Reply ρ where
  acquired
    | ⟨.calloc _, some p⟩ => {block p}
    | _ => 0
  returned
    | ⟨.free p, _⟩ => {block p}
    | _ => 0

end Blocks

end Libc
