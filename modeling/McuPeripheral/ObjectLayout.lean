import McuPeripheral.AllocSizes

/-!
# What `MCUPR_ALLOC_OBJECT` builds

The macro stands for an object with a field `data` that points to private data behind
it. It passes the offset of the field `data` of the private type, and the allocator
stores the pointer at that offset of the object: the object is what it should be
exactly if the two types have the field at the same place.
-/

namespace McuPeripheral

open Calls Libc

/-- The type has a field `data` at an aligned offset. -/
structure TypeLayout.HasField (t : TypeLayout) : Prop where
  /-- The field does not start in front of the type. -/
  nonneg : 0 ≤ t.dataOffset.toInt
  /-- The field is aligned. -/
  aligned : 8 ∣ t.dataOffset.toInt
  /-- The field starts inside the type. -/
  lt : t.dataOffset.toInt < t.size.toInt

/-- Two types the macro can be used with. The offset is taken from the private type, which
must have a field of that name. -/
structure ValidLayouts (objType dataType : TypeLayout) : Prop where
  /-- The field of the object. -/
  object : objType.HasField
  /-- The field of the object has room for a pointer. -/
  pointer : objType.dataOffset.toInt + 8 ≤ objType.size.toInt
  /-- The field of the private type. -/
  data : dataType.HasField
  /-- The rounded sizes together fit an `int`. -/
  fits : roundUp objType.size.toInt + roundUp dataType.size.toInt ≤ 2 ^ 31 - 1

/-- The `count` bytes at `p` are inside the block and aligned for a pointer. -/
structure Area (b : Block) (p : Ptr) (count : ℤ) : Prop where
  /-- The start is aligned. -/
  aligned : 8 ∣ p.offset
  /-- The area starts behind the header. -/
  behindHeader : sizeofMcuprObject.toNat ≤ p.offset
  /-- The area ends inside the block. -/
  inside : p.offset + count ≤ b.size

/-- The object and its private data are disjoint areas of the block, the field `data`
of the object points to the private data, and all other bytes of both are zero. -/
structure ObjectBuilt (objType dataType : TypeLayout) (b : Block) (obj data : Ptr) : Prop where
  /-- The area of the object. -/
  object : Area b obj objType.size.toInt
  /-- The area of the private data. -/
  priv : Area b data dataType.size.toInt
  /-- The areas do not overlap. -/
  disjoint : obj.offset + objType.size.toInt ≤ data.offset ∨
    data.offset + dataType.size.toInt ≤ obj.offset
  /-- The field holds the pointer. -/
  field : ∀ i < 8, b.cell ((obj.offset + objType.dataOffset.toInt).toNat + i) =
    (Word.ptr data).cell i
  /-- The rest of the object is zero. -/
  objectZero : ∀ i : ℕ, obj.offset ≤ i → i < obj.offset + objType.size.toInt →
    (i < obj.offset + objType.dataOffset.toInt ∨
      obj.offset + objType.dataOffset.toInt + 8 ≤ i) → b.cell i = .byte 0
  /-- The private data is zero. -/
  privZero : ∀ i : ℕ, data.offset ≤ i → i < data.offset + dataType.size.toInt →
    b.cell i = .byte 0

/-- What the macro promises for two types: whenever it succeeds, no access left the block,
and the object is built in it. -/
def MacroBuilds (objType dataType : TypeLayout) : Prop :=
  ∀ (obj0 : Option Ptr) (obj : Ptr) (tr : List (Event Call Reply)) (m : Memory)
    (out : Option Memory), (mcuprAllocObjectOf obj0 objType dataType).Path tr (.ok, some obj) →
    heap.Run (some m) tr out →
    ∃ (m₁ : Memory) (b : Block) (data : Ptr), out = some m₁ ∧ m₁ obj.block = some b ∧
      data.block = obj.block ∧ ObjectBuilt objType dataType b obj data

/-! ## The block after the three stores -/

/-- A block with its size in the header and a pointer at offset `f`. -/
def filled (n : UInt64) (f : ℤ) (p : Ptr) : Block :=
  Memory.overwrite (Memory.overwrite (Memory.zeroed n.toNat) 0 8 (Word.size n).cell) f 8
    (Word.ptr p).cell

section Filled

variable {n : UInt64} {f : ℤ} {p : Ptr}

@[simp] theorem filled_size : (filled n f p).size = n.toNat := rfl

/-- The pointer is where it was stored. -/
theorem filled_cell_field (hf : 0 ≤ f) {i : ℕ} (hi : i < 8) :
    (filled n f p).cell (f.toNat + i) = (Word.ptr p).cell i := by
  unfold filled
  rw [Memory.overwrite_cell_inside (by omega) (by omega)]
  congr 1
  omega

/-- Behind the header and outside the pointer everything is zero. -/
theorem filled_cell_zero {i : ℕ} (hi : 8 ≤ i) (hout : (i : ℤ) < f ∨ f + 8 ≤ i) :
    (filled n f p).cell i = .byte 0 := by
  unfold filled
  rw [Memory.overwrite_cell_outside (by omega), Memory.overwrite_cell_outside (by omega)]
  rfl

/-- A store into a block that was just written. -/
theorem write_update {m : Memory} {q : Ptr} {b : Block} {new : ℕ → Cell}
    (hfits : Memory.Fits b q 8) :
    Memory.write (Function.update m q.block (some b)) q 8 new =
      some (Function.update m q.block (some (Memory.overwrite b q.offset 8 new))) := by
  rw [Memory.write_of_fits (Function.update_self ..) hfits, Function.update_idem]

/-- The stores of an allocation stay inside the block, and leave it filled. -/
theorem heap_run_fill {m : Memory} {buf : Ptr} {out : Option Memory} (hf : 8 ≤ f)
    (hroom : f + 8 ≤ n.toNat) :
    heap.Run (some m) [⟨.calloc n, some buf⟩, ⟨.store buf (.size n), ()⟩,
      ⟨.store (buf.add f) (.ptr p), ()⟩] out ↔
    buf.offset = 0 ∧ m buf.block = none ∧
      out = some (Function.update m buf.block (some (filled n f p))) := by
  have hwrites : buf.offset = 0 →
      Memory.write (Function.update m buf.block (some (Memory.zeroed n.toNat))) buf 8
        (Word.size n).cell = some (Function.update m buf.block
          (some (Memory.overwrite (Memory.zeroed n.toNat) 0 8 (Word.size n).cell))) ∧
      Memory.write (Function.update m buf.block
          (some (Memory.overwrite (Memory.zeroed n.toNat) 0 8 (Word.size n).cell))) (buf.add f) 8
        (Word.ptr p).cell = some (Function.update m buf.block (some (filled n f p))) := by
    intro hzero
    constructor
    · rw [write_update, hzero]
      simp only [Memory.Fits, Memory.zeroed]
      omega
    · have hoffset : (buf.add f).offset = f := by simp [hzero]
      rw [← buf.add_block f, write_update, hoffset]
      · rfl
      · simp only [Memory.Fits, Memory.overwrite, Memory.zeroed, hoffset]
        omega
  constructor
  · rintro ⟨_, ⟨hzero, hfresh, rfl⟩, _, hheader, _, hfield, rfl⟩
    obtain ⟨hwrite₁, hwrite₂⟩ := hwrites hzero
    obtain rfl := hheader.trans hwrite₁
    exact ⟨hzero, hfresh, hfield.trans hwrite₂⟩
  · rintro ⟨hzero, hfresh, rfl⟩
    obtain ⟨hwrite₁, hwrite₂⟩ := hwrites hzero
    exact ⟨_, ⟨hzero, hfresh, rfl⟩, _, hwrite₁.symm, _, hwrite₂.symm, rfl⟩

end Filled

/-! ## The calls of the macro -/

section Layouts

variable {objType dataType : TypeLayout} (hvalid : ValidLayouts objType dataType)

include hvalid

/-- The sizes are not negative, and the total wraps at most once. -/
theorem ValidLayouts.sizes : 0 ≤ objType.size.toInt ∧ 0 ≤ dataType.size.toInt ∧
    totalSize objType.size dataType.size < 2 ^ 32 := by
  have hnonneg := hvalid.object.nonneg
  have hlt := hvalid.object.lt
  have hnonneg' := hvalid.data.nonneg
  have hlt' := hvalid.data.lt
  have hfits := hvalid.fits
  unfold totalSize
  omega

/-- Each rounded size fits an `int` behind the header. -/
theorem ValidLayouts.rounded_lt :
    8 + roundUp objType.size.toInt < 2 ^ 31 ∧ 8 + roundUp dataType.size.toInt < 2 ^ 31 := by
  have hround0 := roundUp_spec objType.size.toInt
  have hround1 := roundUp_spec dataType.size.toInt
  have hnonneg := hvalid.object.nonneg
  have hlt := hvalid.object.lt
  have hnonneg' := hvalid.data.nonneg
  have hlt' := hvalid.data.lt
  have hfits := hvalid.fits
  omega

/-- The private data begins behind the rounded object. -/
theorem ValidLayouts.toInt_priv :
    (8 + sizeToInt (mcuprAlign (intToSize objType.size) sizeofPointer)).toInt =
      8 + roundUp objType.size.toInt :=
  toInt_behindObject hvalid.sizes.1 hvalid.rounded_lt.1

/-- The pointer is stored at the offset of the private type's field. -/
theorem ValidLayouts.toInt_field :
    (8 + dataType.dataOffset).toInt = 8 + dataType.dataOffset.toInt := by
  have hround := roundUp_spec dataType.size.toInt
  have hrounded := hvalid.rounded_lt
  have hlt := hvalid.data.lt
  exact toInt_behindHeader hvalid.data.nonneg (by omega)

/-- The private data is not empty, so the pointer is stored. -/
theorem ValidLayouts.stored :
    0 < sizeToInt (mcuprAlign (intToSize dataType.size) sizeofPointer) := by
  have hrounded := hvalid.rounded_lt
  have hnonneg := hvalid.data.nonneg
  have hlt := hvalid.data.lt
  exact (alignedSize_pos_iff hvalid.sizes.2.1 (by omega)).mpr (by omega)

/-- The macro makes these calls when it succeeds. -/
theorem mcuprAllocObjectOf_path {obj0 : Option Ptr} {obj : Ptr} {tr : List (Event Call Reply)} :
    (mcuprAllocObjectOf obj0 objType dataType).Path tr (.ok, some obj) ↔
      ∃ buf : Ptr, obj = buf.add 8 ∧
        tr = [⟨.calloc (requestedSize objType.size dataType.size), some buf⟩,
          ⟨.store buf (.size (requestedSize objType.size dataType.size)), ()⟩,
          ⟨.store (buf.add (8 + dataType.dataOffset.toInt))
            (.ptr (buf.add (8 + roundUp objType.size.toInt))), ()⟩] := by
  have hcalls : ∀ buf, allocCalls objType.size dataType.dataOffset dataType.size buf =
      [⟨.calloc (requestedSize objType.size dataType.size), some buf⟩,
        ⟨.store buf (.size (requestedSize objType.size dataType.size)), ()⟩,
        ⟨.store (buf.add (8 + dataType.dataOffset.toInt))
          (.ptr (buf.add (8 + roundUp objType.size.toInt))), ()⟩] := by
    intro buf
    rw [allocCalls, if_pos hvalid.stored, hvalid.toInt_field, hvalid.toInt_priv]
  simp only [mcuprAllocObjectOf, mcuprAllocObject_path_ok, hcalls]

/-- In every run of those calls the block is filled. -/
theorem ValidLayouts.run_iff {m : Memory} {buf : Ptr} {out : Option Memory} :
    heap.Run (some m) [⟨.calloc (requestedSize objType.size dataType.size), some buf⟩,
      ⟨.store buf (.size (requestedSize objType.size dataType.size)), ()⟩,
      ⟨.store (buf.add (8 + dataType.dataOffset.toInt))
        (.ptr (buf.add (8 + roundUp objType.size.toInt))), ()⟩] out ↔
    buf.offset = 0 ∧ m buf.block = none ∧
      out = some (Function.update m buf.block
        (some (filled (requestedSize objType.size dataType.size) (8 + dataType.dataOffset.toInt)
          (buf.add (8 + roundUp objType.size.toInt))))) := by
  obtain ⟨hobj, hpriv, hlt⟩ := hvalid.sizes
  have hroom := totalSize_le_requestedSize hobj hpriv hlt
  have hround0 := roundUp_spec objType.size.toInt
  have hround1 := roundUp_spec dataType.size.toInt
  have hnonneg := hvalid.data.nonneg
  have haligned := hvalid.data.aligned
  have hinside := hvalid.data.lt
  unfold totalSize at hroom
  exact heap_run_fill (by omega) (by omega)

/-- With the field at the same offset in both types, the filled block is the object. -/
theorem objectBuilt_of_eq {buf : Ptr} (hzero : buf.offset = 0)
    (heq : dataType.dataOffset = objType.dataOffset) :
    ObjectBuilt objType dataType
      (filled (requestedSize objType.size dataType.size) (8 + dataType.dataOffset.toInt)
        (buf.add (8 + roundUp objType.size.toInt)))
      (buf.add 8) (buf.add (8 + roundUp objType.size.toInt)) := by
  obtain ⟨hobj, hpriv, hlt⟩ := hvalid.sizes
  have hroom := totalSize_le_requestedSize hobj hpriv hlt
  have hround0 := roundUp_spec objType.size.toInt
  have hround1 := roundUp_spec dataType.size.toInt
  have hnonneg := hvalid.object.nonneg
  have hle := hvalid.pointer
  have hheader : sizeofMcuprObject.toNat = 8 := by decide
  unfold totalSize at hroom
  rw [heq]
  refine ⟨⟨?_, ?_, ?_⟩, ⟨?_, ?_, ?_⟩, ?_, ?_, ?_, ?_⟩
  all_goals simp only [Ptr.add_offset, hzero, zero_add, filled_size, hheader]
  · omega
  · omega
  · omega
  · omega
  · omega
  · omega
  · omega
  · exact fun i hi => filled_cell_field (by omega) hi
  · exact fun i hlow _ hout => filled_cell_zero (by omega) hout
  · exact fun i hlow _ => filled_cell_zero (by omega) (by omega)

/-- With the field at different offsets, the field of the object is left empty. -/
theorem not_objectBuilt_of_ne {buf data : Ptr} (hzero : buf.offset = 0)
    (hne : dataType.dataOffset ≠ objType.dataOffset) :
    ¬ObjectBuilt objType dataType
      (filled (requestedSize objType.size dataType.size) (8 + dataType.dataOffset.toInt)
        (buf.add (8 + roundUp objType.size.toInt)))
      (buf.add 8) data := by
  intro hbuilt
  have hoffsets : dataType.dataOffset.toInt ≠ objType.dataOffset.toInt :=
    fun h => hne (Int32.toInt_inj.mp h)
  have hnonneg := hvalid.object.nonneg
  have haligned := hvalid.object.aligned
  have haligned' := hvalid.data.aligned
  have hfield := hbuilt.field 0 (by decide)
  -- both fields are aligned, so the pointer that was stored does not overlap the object's
  rw [filled_cell_zero] at hfield
  · cases hfield
  · simp only [Ptr.add_offset, hzero]
    omega
  · simp only [Ptr.add_offset, hzero]
    omega

/-- Then the macro does not build the object, for instance on an empty heap. -/
theorem not_macroBuilds_of_ne (hne : dataType.dataOffset ≠ objType.dataOffset) :
    ¬MacroBuilds objType dataType := by
  intro hbuilds
  obtain ⟨m₁, b, data, hout, hb, -, hbuilt⟩ := hbuilds none _ _ (fun _ => none) _
    ((mcuprAllocObjectOf_path hvalid).mpr ⟨⟨0, 0⟩, rfl, rfl⟩)
    (hvalid.run_iff.mpr ⟨rfl, rfl, rfl⟩)
  obtain rfl := Option.some.inj hout
  rw [Ptr.add_block, Function.update_self] at hb
  obtain rfl := Option.some.inj hb
  exact not_objectBuilt_of_ne hvalid rfl hne hbuilt

end Layouts

/-- **The macro, exactly.** For two types the macro can be used with, it builds the object it
promises if and only if the field `data` has the same offset in both. -/
theorem alloc_object_builds_iff {objType dataType : TypeLayout}
    (hvalid : ValidLayouts objType dataType) :
    MacroBuilds objType dataType ↔ dataType.dataOffset = objType.dataOffset := by
  constructor
  · intro hbuilds
    by_contra hne
    exact not_macroBuilds_of_ne hvalid hne hbuilds
  · intro heq obj0 obj tr m out hpath hrun
    obtain ⟨buf, rfl, rfl⟩ := (mcuprAllocObjectOf_path hvalid).mp hpath
    obtain ⟨hzero, -, rfl⟩ := hvalid.run_iff.mp hrun
    exact ⟨_, _, buf.add (8 + roundUp objType.size.toInt), rfl, Function.update_self .., rfl,
      objectBuilt_of_eq hvalid hzero heq⟩

/-- The theorem at the only use of the macro, where both types are the SPI bus. -/
theorem alloc_object_builds_spiBus : MacroBuilds ⟨24, 16⟩ ⟨24, 16⟩ :=
  (alloc_object_builds_iff ⟨⟨by decide, by decide, by decide⟩, by decide,
    ⟨by decide, by decide, by decide⟩, by decide⟩).mpr rfl

/-- The macro does not always build its object: for private data with the field at another
offset, the field of the object stays empty. -/
theorem exists_object_not_built :
    ¬∀ objType dataType : TypeLayout, ValidLayouts objType dataType →
      MacroBuilds objType dataType := by
  intro hall
  have hvalid : ValidLayouts ⟨24, 16⟩ ⟨16, 8⟩ :=
    ⟨⟨by decide, by decide, by decide⟩, by decide, ⟨by decide, by decide, by decide⟩, by decide⟩
  exact not_macroBuilds_of_ne hvalid (by decide) (hall _ _ hvalid)

end McuPeripheral
