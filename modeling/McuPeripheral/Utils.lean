import McuPeripheral.Api
import McuPeripheral.Libc.Memory
import Mathlib.Data.Nat.Bitwise

/-!
# The object allocator of `utils.c`

`mcupr_alloc_object` allocates an object together with its private data in one
block, hiding a size header in front of the object; `mcupr_release_object` finds
the header again from the object. The size arithmetic is the one of the C code:
rounding in `size_t`, narrowing to `int`, adding in `int`.
-/

namespace McuPeripheral

open Calls Libc

/-- The conversion from `int` to `size_t`. -/
def intToSize (n : Int32) : UInt64 := n.toInt64.toUInt64

/-- The conversion from `size_t` to `int`. -/
def sizeToInt (n : UInt64) : Int32 := n.toInt64.toInt32

/-- `sizeof(void*)`. -/
def sizeofPointer : UInt64 := 8

/-- `sizeof(mcupr_object_t)`. -/
def sizeofMcuprObject : UInt64 := 8

/-- `MCUPR_ALIGN`. -/
def mcuprAlign (x n : UInt64) : UInt64 := (x + (n - 1)) &&& ~~~(n - 1)

/-- `mcupr_alloc_object`. The object pointer behind `obj0` is passed in and out. -/
def mcuprAllocObject (obj0 : Option Ptr) (size0 offset size1 : Int32) :
    Prog Call Reply (McuprResult × Option Ptr) := do
  let size := sizeToInt (mcuprAlign sizeofMcuprObject sizeofPointer)
  let size0 := sizeToInt (mcuprAlign (intToSize size0) sizeofPointer)
  let size1 := sizeToInt (mcuprAlign (intToSize size1) sizeofPointer)
  let buf ← calloc (intToSize (size + size0 + size1))
  match buf with
  | none => return (.nomem, obj0)
  | some buf => do
    store buf (.size (intToSize (size + size0 + size1)))
    if 0 < size1 then
      store (buf.add (size + offset).toInt) (.ptr (buf.add (size + size0).toInt))
    return (.ok, some (buf.add size.toInt))

/-- What `MCUPR_ALLOC_OBJECT` uses of a C type: its size, and the offset of its field
`data` where it has one. -/
structure TypeLayout where
  /-- `sizeof(type)`. -/
  size : Int32
  /-- `offsetof(type, data)`. -/
  dataOffset : Int32
  deriving DecidableEq, Repr

/-- `MCUPR_ALLOC_OBJECT`: the offset is taken from the private data type. -/
def mcuprAllocObjectOf (obj : Option Ptr) (objType dataType : TypeLayout) :
    Prog Call Reply (McuprResult × Option Ptr) :=
  mcuprAllocObject obj objType.size dataType.dataOffset dataType.size

/-- `mcupr_release_object`. -/
def mcuprReleaseObject (objp : Option Ptr) : Prog Call Reply Unit :=
  match objp with
  | none => return ()
  | some objp => do
    let size := sizeToInt (mcuprAlign sizeofMcuprObject sizeofPointer)
    let obj := objp.add (-size.toInt)
    let total ← loadSize obj
    memset objp 0 total
    free obj

/-! ## The size arithmetic -/

/-- The size of the header, as the code computes it. -/
theorem headerSize_eq : sizeToInt (mcuprAlign sizeofMcuprObject sizeofPointer) = 8 := by decide

/-- The next multiple of the pointer size, as a mathematical integer. -/
def roundUp (n : ℤ) : ℤ := (n + 7) / 8 * 8

/-- Rounding up gives a multiple of eight less than eight bytes on. -/
theorem roundUp_spec (n : ℤ) : n ≤ roundUp n ∧ roundUp n < n + 8 ∧ 8 ∣ roundUp n := by
  unfold roundUp
  omega

/-- The mask of `MCUPR_ALIGN` clears the three low bits. -/
theorem toNat_and_not_seven (x : UInt64) : (x &&& ~~~7).toNat = x.toNat / 8 * 8 := by
  have hmask : (~~~7 : UInt64).toNat = (2 ^ 61 - 1) <<< 3 := by decide
  have hlt := x.toNat_lt
  rw [UInt64.toNat_and, hmask, show 8 = 2 ^ 3 from rfl, ← Nat.shiftRight_eq_div_pow,
    ← Nat.shiftLeft_eq]
  apply Nat.eq_of_testBit_eq
  intro i
  rw [Nat.testBit_and, Nat.testBit_shiftLeft, Nat.testBit_shiftLeft, Nat.testBit_shiftRight,
    Nat.testBit_two_pow_sub_one]
  by_cases h3 : 3 ≤ i
  · rw [Nat.add_sub_cancel' h3]
    by_cases hi : i < 64
    · simp [h3, show i - 3 < 61 by omega]
    · have hbit : x.toNat.testBit i = false :=
        Nat.testBit_lt_two_pow (lt_of_lt_of_le hlt (Nat.pow_le_pow_right (by decide) (by omega)))
      simp [hbit]
  · simp [h3]

/-- A nonnegative `int` keeps its value as a `size_t`. -/
theorem toNat_intToSize {n : Int32} (h : 0 ≤ n.toInt) : ((intToSize n).toNat : ℤ) = n.toInt := by
  have hvalue : n.toInt64.toBitVec.toInt = n.toInt := Int32.toInt_toInt64 n
  rw [BitVec.toInt_eq_toNat_cond] at hvalue
  change (n.toInt64.toBitVec.toNat : ℤ) = n.toInt
  split at hvalue <;> omega

/-- The conversion from `int` to `size_t` adds `2 ^ 64` to a negative number. -/
theorem toNat_intToSize_emod (n : Int32) : ((intToSize n).toNat : ℤ) = n.toInt % 2 ^ 64 := by
  have hvalue : n.toInt64.toBitVec.toInt = n.toInt := Int32.toInt_toInt64 n
  have hlt : n.toInt64.toBitVec.toNat < 2 ^ 64 := n.toInt64.toBitVec.isLt
  rw [BitVec.toInt_eq_toNat_cond] at hvalue
  change (n.toInt64.toBitVec.toNat : ℤ) = n.toInt % 2 ^ 64
  split at hvalue <;> omega

/-- The conversion from `size_t` to `int` wraps. -/
theorem toInt_sizeToInt_bmod (n : UInt64) : (sizeToInt n).toInt = (n.toNat : ℤ).bmod (2 ^ 32) := by
  have hvalue : n.toInt64.toInt = (n.toNat : ℤ).bmod (2 ^ 64) := BitVec.toInt_eq_toNat_bmod _
  unfold sizeToInt
  rw [Int64.toInt_toInt32, hvalue, Int.bmod_bmod_of_dvd (by decide)]

/-- A nonnegative size is rounded up in `size_t` without a wrap. -/
theorem toNat_mcuprAlign {n : Int32} (h : 0 ≤ n.toInt) :
    ((mcuprAlign (intToSize n) sizeofPointer).toNat : ℤ) = roundUp n.toInt := by
  have hn := toNat_intToSize h
  have hlt := n.toInt_lt
  unfold mcuprAlign sizeofPointer roundUp
  rw [show (8 - 1 : UInt64) = 7 by decide, toNat_and_not_seven, UInt64.toNat_add,
    show (7 : UInt64).toNat = 7 by decide, Nat.mod_eq_of_lt (by omega)]
  omega

/-- Rounding a size up as the allocator does wraps where the rounded size leaves `int`. -/
theorem toInt_alignedSize_bmod {n : Int32} (h : 0 ≤ n.toInt) :
    (sizeToInt (mcuprAlign (intToSize n) sizeofPointer)).toInt =
      (roundUp n.toInt).bmod (2 ^ 32) := by
  rw [toInt_sizeToInt_bmod, toNat_mcuprAlign h]

/-- It is exact while the rounded size fits an `int`. -/
theorem toInt_alignedSize {n : Int32} (h : 0 ≤ n.toInt) (hfits : roundUp n.toInt < 2 ^ 31) :
    (sizeToInt (mcuprAlign (intToSize n) sizeofPointer)).toInt = roundUp n.toInt := by
  have hnonneg : 0 ≤ roundUp n.toInt := by
    unfold roundUp
    omega
  rw [toInt_alignedSize_bmod h]
  apply Int.bmod_eq_of_le <;> omega

/-- A rounded size is positive exactly if the size is. -/
theorem alignedSize_pos_iff {n : Int32} (h : 0 ≤ n.toInt) (hfits : roundUp n.toInt < 2 ^ 31) :
    0 < sizeToInt (mcuprAlign (intToSize n) sizeofPointer) ↔ 0 < n.toInt := by
  have hspec := roundUp_spec n.toInt
  rw [Int32.lt_iff_toInt_lt, toInt_alignedSize h hfits, Int32.toInt_zero]
  omega

/-- An offset behind the header is exact while it fits an `int`. -/
theorem toInt_behindHeader {n : Int32} (h : 0 ≤ n.toInt) (hfits : 8 + n.toInt < 2 ^ 31) :
    (8 + n).toInt = 8 + n.toInt := by
  have h8 : (8 : Int32).toInt = 8 := by decide
  rw [Int32.toInt_add, h8]
  apply Int.bmod_eq_of_le <;> omega

/-- Where the private data is, from the start of the block. -/
theorem toInt_behindObject {n : Int32} (h : 0 ≤ n.toInt) (hfits : 8 + roundUp n.toInt < 2 ^ 31) :
    (8 + sizeToInt (mcuprAlign (intToSize n) sizeofPointer)).toInt = 8 + roundUp n.toInt := by
  have hround := toInt_alignedSize h (by omega)
  have hspec := roundUp_spec n.toInt
  rw [toInt_behindHeader (by omega) (by omega), hround]

/-- The size the allocator requests, in the arithmetic of the C code. -/
def requestedSize (size0 size1 : Int32) : UInt64 :=
  intToSize (sizeToInt (mcuprAlign sizeofMcuprObject sizeofPointer) +
    sizeToInt (mcuprAlign (intToSize size0) sizeofPointer) +
    sizeToInt (mcuprAlign (intToSize size1) sizeofPointer))

/-- A request whose object has room for the pointer field and whose three aligned
parts together fit an `int`. -/
structure ValidRequest (size0 offset size1 : Int32) : Prop where
  /-- The object is not empty. -/
  size0_pos : 0 < size0.toInt
  /-- The private data may be empty. -/
  size1_nonneg : 0 ≤ size1.toInt
  /-- The pointer field starts inside the object. -/
  offset_nonneg : 0 ≤ offset.toInt
  /-- The pointer field is aligned. -/
  offset_aligned : 8 ∣ offset.toInt
  /-- The pointer field ends inside the object. -/
  offset_le : offset.toInt + 8 ≤ size0.toInt
  /-- Header, object and private data fit an `int`. -/
  fits : 8 + roundUp size0.toInt + roundUp size1.toInt ≤ 2 ^ 31 - 1

section Layout

variable {size0 offset size1 : Int32} (hvalid : ValidRequest size0 offset size1)

include hvalid

/-- Each rounded size of a valid request fits an `int` behind the header. -/
theorem ValidRequest.rounded_lt :
    8 + roundUp size0.toInt < 2 ^ 31 ∧ 8 + roundUp size1.toInt < 2 ^ 31 := by
  have hpos := hvalid.size0_pos
  have hnonneg := hvalid.size1_nonneg
  have hfits := hvalid.fits
  have hround0 := roundUp_spec size0.toInt
  have hround1 := roundUp_spec size1.toInt
  omega

/-- The private data has a size exactly if its rounded size is not zero. -/
theorem ValidRequest.size1_pos_iff :
    0 < sizeToInt (mcuprAlign (intToSize size1) sizeofPointer) ↔ 0 < size1.toInt := by
  have hrounded := hvalid.rounded_lt
  exact alignedSize_pos_iff hvalid.size1_nonneg (by omega)

/-- Where the pointer field is, from the start of the block. -/
theorem ValidRequest.toInt_field : (8 + offset).toInt = 8 + offset.toInt := by
  have hle := hvalid.offset_le
  have hrounded := hvalid.rounded_lt
  have hround0 := roundUp_spec size0.toInt
  exact toInt_behindHeader hvalid.offset_nonneg (by omega)

/-- Where the private data is, from the start of the block. -/
theorem ValidRequest.toInt_priv :
    (8 + sizeToInt (mcuprAlign (intToSize size0) sizeofPointer)).toInt =
      8 + roundUp size0.toInt :=
  toInt_behindObject hvalid.size0_pos.le hvalid.rounded_lt.1

end Layout

end McuPeripheral
