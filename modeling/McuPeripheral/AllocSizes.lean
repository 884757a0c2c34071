import McuPeripheral.Utils

/-!
# The size arithmetic of the object allocator, over all of `int`

`mcupr_alloc_object` rounds each size up in `size_t`, narrows it to `int`, adds three of
them in `int` and widens the sum again. The request is the sum while that fits an `int`,
and far beyond any block while it is less than `2 ^ 32`; from there on the wraps cancel,
and a few bytes are requested for sizes of some gigabytes.
-/

namespace McuPeripheral

open Calls Libc

/-- The header and the two rounded sizes, as a mathematical integer. -/
def totalSize (size0 size1 : Int32) : ℤ := 8 + roundUp size0.toInt + roundUp size1.toInt

/-- The calls of an allocation that received the block at `buf`. -/
def allocCalls (size0 offset size1 : Int32) (buf : Ptr) : List (Event Call Reply) :=
  ⟨.calloc (requestedSize size0 size1), some buf⟩ ::
  ⟨.store buf (.size (requestedSize size0 size1)), ()⟩ ::
  if 0 < sizeToInt (mcuprAlign (intToSize size1) sizeofPointer) then
    [⟨.store (buf.add (8 + offset).toInt)
      (.ptr (buf.add (8 + sizeToInt (mcuprAlign (intToSize size0) sizeofPointer)).toInt)), ()⟩]
  else []

/-- An allocation either is refused its block, or fills it in and returns the object
behind the header. -/
theorem mcuprAllocObject_cases {obj0 obj : Option Ptr} {size0 offset size1 : Int32}
    {r : McuprResult} {tr : List (Event Call Reply)} :
    (mcuprAllocObject obj0 size0 offset size1).Path tr (r, obj) ↔
      (r = .nomem ∧ obj = obj0 ∧ tr = [⟨.calloc (requestedSize size0 size1), none⟩]) ∨
      ∃ buf : Ptr, r = .ok ∧ obj = some (buf.add 8) ∧ tr = allocCalls size0 offset size1 buf := by
  have h8 : (8 : Int32).toInt = 8 := by decide
  have hsize : requestedSize size0 size1 =
      intToSize (8 + sizeToInt (mcuprAlign (intToSize size0) sizeofPointer) +
        sizeToInt (mcuprAlign (intToSize size1) sizeofPointer)) := by
    rw [requestedSize, headerSize_eq]
  unfold mcuprAllocObject allocCalls
  dsimp only
  rw [headerSize_eq, ← hsize, h8]
  simp only [calloc, store, Prog.path_ask_bind]
  constructor
  · rintro ⟨_ | buf, _, rfl, h⟩
    · obtain ⟨rfl, heq⟩ := h
      obtain ⟨rfl, rfl⟩ := Prod.mk.inj heq
      exact Or.inl ⟨rfl, rfl, rfl⟩
    · obtain ⟨_, _, rfl, h⟩ := h
      refine Or.inr ⟨buf, ?_⟩
      obtain ⟨hp, _, _, rfl, rfl, heq⟩ | ⟨hp, rfl, heq⟩ := Prog.path_ite.mp h
      · obtain ⟨rfl, rfl⟩ := Prod.mk.inj heq
        exact ⟨rfl, rfl, by rw [if_pos hp]⟩
      · obtain ⟨rfl, rfl⟩ := Prod.mk.inj heq
        exact ⟨rfl, rfl, by rw [if_neg hp]⟩
  · rintro (⟨rfl, rfl, rfl⟩ | ⟨buf, rfl, rfl, rfl⟩)
    · exact ⟨none, _, rfl, rfl, rfl⟩
    · refine ⟨some buf, _, rfl, (), _, rfl, Prog.path_ite.mpr ?_⟩
      by_cases hp : 0 < sizeToInt (mcuprAlign (intToSize size1) sizeofPointer)
      · exact Or.inl ⟨hp, (), _, by rw [if_pos hp], rfl, rfl⟩
      · exact Or.inr ⟨hp, by rw [if_neg hp], rfl⟩

/-- A success received a block, and its object starts behind the header. -/
theorem mcuprAllocObject_path_ok {obj0 : Option Ptr} {obj : Ptr} {size0 offset size1 : Int32}
    {tr : List (Event Call Reply)} :
    (mcuprAllocObject obj0 size0 offset size1).Path tr (.ok, some obj) ↔
      ∃ buf : Ptr, obj = buf.add 8 ∧ tr = allocCalls size0 offset size1 buf := by
  rw [mcuprAllocObject_cases]
  constructor
  · rintro (⟨h, -⟩ | ⟨buf, -, hobj, htr⟩)
    · cases h
    · exact ⟨buf, Option.some.inj hobj, htr⟩
  · rintro ⟨buf, rfl, htr⟩
    exact Or.inr ⟨buf, rfl, rfl, htr⟩

/-! ## What is requested -/

section Requests

variable {size0 size1 : Int32} (h0 : 0 ≤ size0.toInt) (h1 : 0 ≤ size1.toInt)

include h0 h1

/-- The total is a multiple of eight of at most `2 ^ 32 + 8`. -/
theorem totalSize_range : 8 ≤ totalSize size0 size1 ∧ totalSize size0 size1 ≤ 2 ^ 32 + 8 ∧
    8 ∣ totalSize size0 size1 := by
  have hlt0 := size0.toInt_lt
  have hlt1 := size1.toInt_lt
  unfold totalSize roundUp
  omega

/-- The request is the total, wrapped into `int` and then into `size_t`. -/
theorem toNat_requestedSize_emod :
    ((requestedSize size0 size1).toNat : ℤ) = (totalSize size0 size1).bmod (2 ^ 32) % 2 ^ 64 := by
  have h8 : (8 : Int32).toInt = 8 := by decide
  unfold requestedSize totalSize
  rw [toNat_intToSize_emod, headerSize_eq, Int32.toInt_add, Int32.toInt_add, h8,
    toInt_alignedSize_bmod h0, toInt_alignedSize_bmod h1]
  simp only [Int.bmod_add_bmod, Int.add_bmod_bmod]

/-- A total that fits an `int` is what is requested. -/
theorem requestedSize_of_fits (hfits : totalSize size0 size1 < 2 ^ 31) :
    ((requestedSize size0 size1).toNat : ℤ) = totalSize size0 size1 := by
  have hrange := totalSize_range h0 h1
  rw [toNat_requestedSize_emod h0 h1, Int.bmod_def]
  norm_num
  split_ifs <;> omega

/-- A total that wraps once becomes negative, and the request is beyond any block. -/
theorem requestedSize_of_wrap (hwrap : 2 ^ 31 ≤ totalSize size0 size1)
    (hlt : totalSize size0 size1 < 2 ^ 32) : 2 ^ 63 ≤ (requestedSize size0 size1).toNat := by
  have hrequest := toNat_requestedSize_emod h0 h1
  rw [Int.bmod_def] at hrequest
  norm_num at hrequest
  split_ifs at hrequest <;> omega

/-- As long as the total wraps at most once, at least as much is requested. -/
theorem totalSize_le_requestedSize (hlt : totalSize size0 size1 < 2 ^ 32) :
    totalSize size0 size1 ≤ (requestedSize size0 size1).toNat := by
  by_cases hfits : totalSize size0 size1 < 2 ^ 31
  · exact (requestedSize_of_fits h0 h1 hfits).ge
  · have hhuge := requestedSize_of_wrap h0 h1 (by omega) hlt
    omega

/-- A total that wraps twice leaves a request of at most a header. -/
theorem requestedSize_of_cancel (hcancel : 2 ^ 32 ≤ totalSize size0 size1) :
    (requestedSize size0 size1).toNat ≤ 8 := by
  have hrange := totalSize_range h0 h1
  have hrequest := toNat_requestedSize_emod h0 h1
  rw [Int.bmod_def] at hrequest
  norm_num at hrequest
  split_ifs at hrequest <;> omega

end Requests

/-! ## Soundness -/

/-- `calloc` hands out no block of more than `PTRDIFF_MAX` bytes. -/
def BlocksBounded (tr : List (Event Call Reply)) : Prop :=
  ∀ (n : UInt64) (buf : Ptr), ⟨.calloc n, some buf⟩ ∈ tr → n.toNat < 2 ^ 63

/-- What the size arithmetic of one allocation should come to. -/
structure SizesSound (size0 offset size1 : Int32) (tr : List (Event Call Reply))
    (r : McuprResult) : Prop where
  /-- After a success the block has room for the header and both sizes, its header
  records the size that was requested, and private data of any size is pointed to. -/
  room : r = .ok → ∃ (n : UInt64) (buf : Ptr) (rest : List (Event Call Reply)),
    tr = ⟨.calloc n, some buf⟩ :: rest ∧
    sizeofMcuprObject.toNat + size0.toInt + size1.toInt ≤ n.toNat ∧
    ⟨.store buf (.size n), ()⟩ ∈ rest ∧
    (0 < size1.toInt → ⟨.store (buf.add (8 + offset).toInt)
      (.ptr (buf.add (8 + roundUp size0.toInt))), ()⟩ ∈ rest)
  /-- A request that does not fit an `int` is refused. -/
  refused : 2 ^ 31 - 1 < totalSize size0 size1 → r = .nomem

/-- An allocation makes one request. -/
theorem blocksBounded_allocCalls {size0 offset size1 : Int32} {buf : Ptr}
    (h : (requestedSize size0 size1).toNat < 2 ^ 63) :
    BlocksBounded (allocCalls size0 offset size1 buf) := by
  intro n p hmem
  have hn : n = requestedSize size0 size1 := by
    unfold allocCalls at hmem
    split at hmem <;> simp_all
  rwa [hn]

section Soundness

variable {size0 offset size1 : Int32} (h0 : 0 ≤ size0.toInt) (h1 : 0 ≤ size1.toInt)

include h0 h1

/-- An allocation whose total fits an `int` has room for everything. -/
theorem sizesSound_of_fits (hfits : totalSize size0 size1 < 2 ^ 31) (buf : Ptr) :
    SizesSound size0 offset size1 (allocCalls size0 offset size1 buf) .ok := by
  have hheader : sizeofMcuprObject.toNat = 8 := by decide
  have hrequest := requestedSize_of_fits h0 h1 hfits
  have hround0 := roundUp_spec size0.toInt
  have hround1 := roundUp_spec size1.toInt
  unfold totalSize at hfits hrequest
  have hpriv := toInt_behindObject h0 (by omega)
  refine ⟨fun _ => ⟨_, buf, _, rfl, ?_, List.mem_cons_self, fun hpos => ?_⟩, fun hbig => ?_⟩
  · rw [hrequest, hheader]
    omega
  · -- rounding up leaves a positive size positive, so the pointer is stored
    rw [if_pos ((alignedSize_pos_iff h1 (by omega)).mpr hpos), hpriv]
    simp
  · unfold totalSize at hbig
    omega

/-- While the wraps do not cancel, every allocation is sound. -/
theorem sizesSound_of_lt (hlt : totalSize size0 size1 < 2 ^ 32) {obj0 obj : Option Ptr}
    {r : McuprResult} {tr : List (Event Call Reply)}
    (hpath : (mcuprAllocObject obj0 size0 offset size1).Path tr (r, obj))
    (hbounded : BlocksBounded tr) : SizesSound size0 offset size1 tr r := by
  obtain ⟨rfl, -, rfl⟩ | ⟨buf, rfl, -, rfl⟩ := mcuprAllocObject_cases.mp hpath
  · exact ⟨nofun, fun _ => rfl⟩
  · by_cases hfits : totalSize size0 size1 < 2 ^ 31
    · exact sizesSound_of_fits h0 h1 hfits buf
    · have hhuge := requestedSize_of_wrap h0 h1 (by omega) hlt
      have hblock := hbounded (requestedSize size0 size1) buf List.mem_cons_self
      omega

/-- Once they cancel, a block of at most eight bytes is handed out for a request that
does not fit. -/
theorem not_sizesSound (hcancel : 2 ^ 32 ≤ totalSize size0 size1) (offset : Int32) (buf : Ptr) :
    BlocksBounded (allocCalls size0 offset size1 buf) ∧
      ¬SizesSound size0 offset size1 (allocCalls size0 offset size1 buf) .ok := by
  have hsmall := requestedSize_of_cancel h0 h1 hcancel
  constructor
  · exact blocksBounded_allocCalls (by omega)
  · intro hsound
    cases hsound.refused (by omega)

end Soundness

/-- **Size arithmetic.** For sizes that are not negative, every allocation is sound if and
only if the header and the two rounded sizes together are less than `2 ^ 32`. -/
theorem alloc_sizes_sound_iff {size0 size1 : Int32} (h0 : 0 ≤ size0.toInt) (h1 : 0 ≤ size1.toInt)
    (obj0 : Option Ptr) (offset : Int32) :
    (∀ tr r obj, (mcuprAllocObject obj0 size0 offset size1).Path tr (r, obj) →
      BlocksBounded tr → SizesSound size0 offset size1 tr r) ↔ totalSize size0 size1 < 2 ^ 32 := by
  constructor
  · intro hall
    by_contra hcancel
    obtain ⟨hbounded, hunsound⟩ := not_sizesSound h0 h1 (by omega) offset ⟨0, 0⟩
    exact hunsound (hall _ _ _
      (mcuprAllocObject_cases.mpr (Or.inr ⟨⟨0, 0⟩, rfl, rfl, rfl⟩)) hbounded)
  · intro hlt tr r obj hpath hbounded
    exact sizesSound_of_lt h0 h1 hlt hpath hbounded

/-- The theorem at the request made for an SPI bus. -/
theorem alloc_sizes_sound_spiBus : SizesSound 24 16 24 (allocCalls 24 16 24 ⟨0, 0⟩) .ok := by
  have hall := (alloc_sizes_sound_iff (by decide) (by decide) none 16).mpr
    (by decide : totalSize 24 24 < 2 ^ 32)
  exact hall _ _ _ (mcuprAllocObject_cases.mpr (Or.inr ⟨⟨0, 0⟩, rfl, rfl, rfl⟩))
    (blocksBounded_allocCalls (by decide))

/-- Not every allocation is sound: for two sizes of `INT_MAX` bytes eight bytes are
requested, the allocation succeeds and stores no pointer. -/
theorem exists_sizes_unsound :
    requestedSize 0x7fffffff 0x7fffffff = 8 ∧
    allocCalls 0x7fffffff 16 0x7fffffff ⟨0, 0⟩ =
      [⟨.calloc 8, some ⟨0, 0⟩⟩, ⟨.store ⟨0, 0⟩ (.size 8), ()⟩] ∧
    ¬∀ (obj0 : Option Ptr) (size0 offset size1 : Int32) (tr : List (Event Call Reply))
      (r : McuprResult) (obj : Option Ptr), 0 ≤ size0.toInt → 0 ≤ size1.toInt →
      (mcuprAllocObject obj0 size0 offset size1).Path tr (r, obj) → BlocksBounded tr →
      SizesSound size0 offset size1 tr r := by
  have hmax : (0x7fffffff : Int32).toInt = 2 ^ 31 - 1 := by decide
  have hnonneg : 0 ≤ (0x7fffffff : Int32).toInt := by rw [hmax]; decide
  have hcancel : 2 ^ 32 ≤ totalSize 0x7fffffff 0x7fffffff := by decide
  refine ⟨by decide, rfl, fun hall => ?_⟩
  obtain ⟨hbounded, hunsound⟩ := not_sizesSound hnonneg hnonneg hcancel 16 ⟨0, 0⟩
  exact hunsound (hall none _ _ _ _ _ _ hnonneg hnonneg
    (mcuprAllocObject_cases.mpr (Or.inr ⟨⟨0, 0⟩, rfl, rfl, rfl⟩)) hbounded)

end McuPeripheral
