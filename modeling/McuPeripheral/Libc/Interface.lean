import McuPeripheral.Calls.Prog
import Mathlib.Data.Int.Notation

/-!
# The C library calls a program makes

Heap allocation, the byte operations on heap memory that matter for its bounds,
and the process environment. A pointer is a block together with a byte offset
into it, so that pointer arithmetic never leaves its block unnoticed.
-/

namespace Libc

open Calls

/-- A pointer into the heap: a block, and a byte offset from its start. -/
structure Ptr where
  /-- Which heap block. -/
  block : ℕ
  /-- Distance in bytes from the start of the block. -/
  offset : ℤ
  deriving DecidableEq, Repr

/-- Pointer arithmetic on byte pointers: `&p[n]`. -/
def Ptr.add (p : Ptr) (n : ℤ) : Ptr := ⟨p.block, p.offset + n⟩

@[simp] theorem Ptr.add_block (p : Ptr) (n : ℤ) : (p.add n).block = p.block := rfl

@[simp] theorem Ptr.add_offset (p : Ptr) (n : ℤ) : (p.add n).offset = p.offset + n := rfl

/-- Moving a pointer twice moves it by the sum. -/
@[simp] theorem Ptr.add_add (p : Ptr) (m n : ℤ) : (p.add m).add n = p.add (m + n) := by
  simp [Ptr.add, Int.add_assoc]

@[simp] theorem Ptr.add_zero (p : Ptr) : p.add 0 = p := by simp [Ptr.add]

/-- What an eight-byte store puts into memory: a `size_t` or a pointer. -/
inductive Word
  | size (n : UInt64)
  | ptr (p : Ptr)
  deriving DecidableEq, Repr

/-- The library calls. -/
inductive Call
  | calloc (size : UInt64)
  | free (p : Ptr)
  | memset (p : Ptr) (value : UInt8) (count : UInt64)
  | store (p : Ptr) (w : Word)
  | loadSize (p : Ptr)
  | getenv (name : String)
  deriving DecidableEq, Repr

/-- What each library call answers. `none` is the null pointer. -/
@[reducible] def Reply : Call → Type
  | .calloc _ => Option Ptr
  | .loadSize _ => UInt64
  | .getenv _ => Option (List Char)
  | .free _ | .memset .. | .store .. => Unit

/-- `calloc(1, size)`. -/
def calloc (size : UInt64) : Prog Call Reply (Option Ptr) := .ask (Call.calloc size)

/-- `free(p)`. -/
def free (p : Ptr) : Prog Call Reply Unit := .ask (Call.free p)

/-- `memset(p, value, count)`. -/
def memset (p : Ptr) (value : UInt8) (count : UInt64) : Prog Call Reply Unit :=
  .ask (Call.memset p value count)

/-- An eight-byte store through a pointer. -/
def store (p : Ptr) (w : Word) : Prog Call Reply Unit := .ask (Call.store p w)

/-- Load a `size_t` through a pointer. -/
def loadSize (p : Ptr) : Prog Call Reply UInt64 := .ask (Call.loadSize p)

/-- `getenv(name)`. -/
def getenv (name : String) : Prog Call Reply (Option (List Char)) := .ask (Call.getenv name)

end Libc
