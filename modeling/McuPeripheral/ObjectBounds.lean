import McuPeripheral.AllocSizes

/-!
# What the object allocator does to its block

The header written by `mcupr_alloc_object` counts the whole block, header
included, while `mcupr_release_object` starts clearing behind the header. The
allocation itself stays inside its block; the release never does.
-/

namespace McuPeripheral

open Calls Libc

/-- A valid request asks `calloc` for exactly the header and the two rounded areas. -/
theorem ValidRequest.toNat_requestedSize {size0 offset size1 : Int32}
    (hvalid : ValidRequest size0 offset size1) :
    ((requestedSize size0 size1).toNat : ℤ) = 8 + roundUp size0.toInt + roundUp size1.toInt :=
  requestedSize_of_fits hvalid.size0_pos.le hvalid.size1_nonneg (Int.lt_of_le_sub_one hvalid.fits)

/-- A valid request stores its pointer where the sizes say, without a wrap. -/
theorem ValidRequest.allocCalls_eq {size0 offset size1 : Int32}
    (hvalid : ValidRequest size0 offset size1) (buf : Ptr) :
    allocCalls size0 offset size1 buf =
      ⟨.calloc (requestedSize size0 size1), some buf⟩ ::
      ⟨.store buf (.size (requestedSize size0 size1)), ()⟩ ::
      if 0 < size1.toInt then
        [⟨.store (buf.add (8 + offset.toInt)) (.ptr (buf.add (8 + roundUp size0.toInt))), ()⟩]
      else [] := by
  rw [allocCalls, hvalid.toInt_field, hvalid.toInt_priv]
  simp only [hvalid.size1_pos_iff]

/-- The release of an object loads the header, clears from the object on, and frees
the header's address. -/
theorem mcuprReleaseObject_path {obj : Ptr} {tr : List (Event Call Reply)} {u : Unit} :
    (mcuprReleaseObject (some obj)).Path tr u ↔
      ∃ total : UInt64, tr = [⟨.loadSize (obj.add (-8)), total⟩, ⟨.memset obj 0 total, ()⟩,
        ⟨.free (obj.add (-8)), ()⟩] := by
  have h8 : (8 : Int32).toInt = 8 := by decide
  unfold mcuprReleaseObject
  dsimp only
  rw [headerSize_eq, h8]
  simp only [loadSize, memset, free, Prog.path_ask_bind, Prog.path_ask]
  constructor
  · rintro ⟨total, _, rfl, _, _, rfl, rfl⟩
    exact ⟨total, rfl⟩
  · rintro ⟨total, rfl⟩
    exact ⟨total, _, rfl, _, _, rfl, rfl⟩

/-- The block at `buf` is live, has `size` bytes, and its header says so. -/
def HeaderIntact (buf : Ptr) (size : UInt64) (m : Memory) : Prop :=
  buf.offset = 0 ∧ ∃ b, m buf.block = some b ∧ b.size = size.toNat ∧
    ∀ i < 8, b.cell i = (Word.size size).cell i

/-- The client changed at most the object and the private area of the block at
`buf`, that is, everything in it behind the header. -/
def ClientWrites (buf : Ptr) (m m' : Memory) : Prop :=
  (∀ k ≠ buf.block, m' k = m k) ∧ ∃ b b', m buf.block = some b ∧ m' buf.block = some b' ∧
    b'.size = b.size ∧ ∀ i < 8, b'.cell i = b.cell i

/-- The client cannot damage the header. -/
theorem HeaderIntact.clientWrites {buf : Ptr} {size : UInt64} {m m' : Memory}
    (h : HeaderIntact buf size m) (hw : ClientWrites buf m m') : HeaderIntact buf size m' := by
  obtain ⟨hzero, b, hb, hsize, hcell⟩ := h
  obtain ⟨_, c, b', hc, hb', hsize', hcell'⟩ := hw
  obtain rfl : c = b := by simpa [hb] using hc.symm
  exact ⟨hzero, b', hb', hsize'.trans hsize, fun i hi => (hcell' i hi).trans (hcell i hi)⟩

/-- A store behind the header of the block, and inside it, does not damage the header. -/
theorem HeaderIntact.store {buf : Ptr} {size : UInt64} {m : Memory} {n : ℤ} {w : Word}
    (h : HeaderIntact buf size m) (hlow : 8 ≤ n) (hhigh : n + 8 ≤ size.toNat) :
    ∃ m', m.write (buf.add n) 8 w.cell = some m' ∧ HeaderIntact buf size m' := by
  obtain ⟨hzero, b, hb, hsize, hcell⟩ := h
  have hoffset : (buf.add n).offset = n := by simp [hzero]
  have hfits : Memory.Fits b (buf.add n) 8 := by
    simp only [Memory.Fits, hoffset]
    omega
  refine ⟨_, Memory.write_of_fits hb hfits, hzero, Memory.overwrite b n 8 w.cell, ?_, hsize, ?_⟩
  · simp [hzero]
  · intro i hi
    have hbelow : (i : ℤ) < n := by omega
    rw [Memory.overwrite_cell_outside (Or.inl hbelow)]
    exact hcell i hi

/-- A new block whose size is stored at its start has an intact header. -/
theorem header_run {buf : Ptr} {m : Memory} {size : UInt64} (hzero : buf.offset = 0)
    (hfresh : m buf.block = none) (hsize : 8 ≤ size.toNat) :
    ∃ m₁, heap.Run (some m) [⟨.calloc size, some buf⟩, ⟨.store buf (.size size), ()⟩] (some m₁) ∧
      HeaderIntact buf size m₁ := by
  let m₀ : Memory := Function.update m buf.block (some (Memory.zeroed size.toNat))
  have hb₀ : m₀ buf.block = some (Memory.zeroed size.toNat) := by simp [m₀]
  have hfits : Memory.Fits (Memory.zeroed size.toNat) buf 8 := by
    simp only [Memory.Fits, Memory.zeroed]
    omega
  have hstore := @Memory.write_of_fits m₀ buf _ 8 (Word.size size).cell hb₀ hfits
  refine ⟨_, ⟨some m₀, ⟨hzero, hfresh, rfl⟩, _, hstore.symm, rfl⟩, hzero,
    Memory.overwrite (Memory.zeroed size.toNat) buf.offset 8 (Word.size size).cell, by simp, rfl,
    ?_⟩
  intro i hi
  rw [Memory.overwrite_cell_inside (by omega) (by omega), hzero, sub_zero, Int.toNat_natCast]

section Runs

variable {size0 offset size1 : Int32} (hvalid : ValidRequest size0 offset size1)

include hvalid

/-- A valid request asks for more than the header. -/
theorem ValidRequest.eight_le_requestedSize : 8 ≤ (requestedSize size0 size1).toNat := by
  have hsize := hvalid.toNat_requestedSize
  have hpos := hvalid.size0_pos
  have hnonneg := hvalid.size1_nonneg
  unfold roundUp at hsize
  omega

/-- From any heap, the allocation's own stores stay inside the new block and leave
its header intact. -/
theorem allocCalls_run {buf : Ptr} {m : Memory} (hzero : buf.offset = 0)
    (hfresh : m buf.block = none) :
    ∃ m₁, heap.Run (some m) (allocCalls size0 offset size1 buf) (some m₁) ∧
      HeaderIntact buf (requestedSize size0 size1) m₁ := by
  obtain ⟨m₁, hrun, hintact⟩ := header_run hzero hfresh hvalid.eight_le_requestedSize
  obtain ⟨s, hcalloc, _, hstore, rfl⟩ := hrun
  by_cases hp : 0 < size1.toInt
  · -- the pointer field lies behind the header, so the header survives its store
    have hsize := hvalid.toNat_requestedSize
    have hoffset := hvalid.offset_nonneg
    have hoffset' := hvalid.offset_le
    unfold roundUp at hsize
    obtain ⟨m₂, hwrite, hintact₂⟩ := hintact.store (n := 8 + offset.toInt)
      (w := .ptr (buf.add (8 + roundUp size0.toInt))) (by omega) (by omega)
    refine ⟨m₂, ?_, hintact₂⟩
    rw [hvalid.allocCalls_eq, if_pos hp]
    exact ⟨s, hcalloc, some m₁, hstore, some m₂, hwrite.symm, rfl⟩
  · refine ⟨m₁, ?_, hintact⟩
    rw [hvalid.allocCalls_eq, if_neg hp]
    exact ⟨s, hcalloc, some m₁, hstore, rfl⟩

/-- Conversely, a successful allocation came from such a block, and this is the
heap it left. -/
theorem headerIntact_of_run {buf : Ptr} {m m₁ : Memory}
    (hrun : heap.Run (some m) (allocCalls size0 offset size1 buf) (some m₁)) :
    HeaderIntact buf (requestedSize size0 size1) m₁ := by
  obtain ⟨_, ⟨hzero, hfresh, _⟩, _⟩ := id hrun
  obtain ⟨m₂, hrun₂, hintact⟩ := allocCalls_run hvalid hzero hfresh
  obtain rfl : m₂ = m₁ := Option.some.inj (heap_run_deterministic hrun₂ hrun)
  exact hintact

end Runs

/-- Releasing an object whose header is intact reads the block size from the header
and clears that many bytes from behind the header: eight bytes too far. -/
theorem release_overruns {buf : Ptr} {size : UInt64} {m : Memory} (h : HeaderIntact buf size m)
    (hsize : 8 ≤ size.toNat) {tr : List (Event Call Reply)} {out : Option Memory}
    (hpath : (mcuprReleaseObject (some (buf.add 8))).Path tr ())
    (hrun : heap.Run (some m) tr out) : out = none := by
  obtain ⟨hzero, b, hb, hbsize, hcell⟩ := h
  obtain ⟨total, rfl⟩ := mcuprReleaseObject_path.mp hpath
  obtain ⟨s₁, hload, s₂, hset, hfree⟩ := hrun
  have hread : m.readSize buf = some size :=
    Memory.readSize_of_cells hb (by simp only [Memory.Fits]; omega) (by simpa [hzero] using hcell)
  simp only [heap, heapStep, Ptr.add_add, Int.add_right_neg, Ptr.add_zero, hread] at hload
  obtain ⟨rfl, rfl⟩ := hload
  have hover : ¬Memory.Fits b (buf.add 8) total.toNat := by
    simp only [Memory.Fits, Ptr.add_offset]
    omega
  have hfault : m.write (buf.add 8) total.toNat (fun _ => .byte 0) = none :=
    Memory.write_of_not_fits (by simpa using hb) hover
  have hset' : s₂ = none := hset.trans hfault
  subst hset'
  exact heap_run_none hfree

/-- Such a release can always be run, into the error outcome. -/
theorem exists_release_run {buf : Ptr} {size : UInt64} {m : Memory} (h : HeaderIntact buf size m)
    (hsize : 8 ≤ size.toNat) :
    ∃ tr, (mcuprReleaseObject (some (buf.add 8))).Path tr () ∧ heap.Run (some m) tr none := by
  obtain ⟨hzero, b, hb, hbsize, hcell⟩ := h
  have hread : m.readSize buf = some size :=
    Memory.readSize_of_cells hb (by simp only [Memory.Fits]; omega) (by simpa [hzero] using hcell)
  have hover : ¬Memory.Fits b (buf.add 8) size.toNat := by
    simp only [Memory.Fits, Ptr.add_offset]
    omega
  have hfault : m.write (buf.add 8) size.toNat (fun _ => .byte 0) = none :=
    Memory.write_of_not_fits (by simpa using hb) hover
  refine ⟨_, mcuprReleaseObject_path.mpr ⟨size, rfl⟩, some m, ?_, none, hfault.symm, none, rfl, rfl⟩
  simp [heap, heapStep, hread]

/-- What releasing an object should do, for one request: in every run of an
allocation that received the `n` bytes at `buf`, any client writes behind the
header, and a release, no access leaves its block, the object and private areas
are zero when the block is freed, and the pointer freed is the one from `calloc`. -/
def ReleaseStaysInside (size0 offset size1 : Int32) : Prop :=
  ∀ (obj0 : Option Ptr) (m₀ m₁ m₂ : Memory) (tr tr' : List (Event Call Reply)) (buf obj : Ptr)
    (n : UInt64) (out : Option Memory),
    (mcuprAllocObject obj0 size0 offset size1).Path tr (.ok, some obj) →
    ⟨.calloc n, some buf⟩ ∈ tr → heap.Run (some m₀) tr (some m₁) → ClientWrites buf m₁ m₂ →
    (mcuprReleaseObject (some obj)).Path tr' () → heap.Run (some m₂) tr' out →
    out ≠ none ∧ ∃ before m₃ b, tr' = before ++ [⟨.free buf, ()⟩] ∧
      heap.Run (some m₂) before (some m₃) ∧ m₃ buf.block = some b ∧
      ∀ i, 8 ≤ i → i < n.toNat → b.cell i = .byte 0

section Release

variable {size0 offset size1 : Int32} (hvalid : ValidRequest size0 offset size1)

include hvalid

/-- Every release after a successful valid allocation ends in the error outcome,
whatever the client wrote into its areas. -/
theorem release_of_alloc_overruns {obj0 : Option Ptr} {m₀ m₁ m₂ : Memory}
    {tr tr' : List (Event Call Reply)} {buf obj : Ptr} {n : UInt64} {out : Option Memory}
    (halloc : (mcuprAllocObject obj0 size0 offset size1).Path tr (.ok, some obj))
    (hbuf : ⟨.calloc n, some buf⟩ ∈ tr) (hrun : heap.Run (some m₀) tr (some m₁))
    (hwrites : ClientWrites buf m₁ m₂) (hrelease : (mcuprReleaseObject (some obj)).Path tr' ())
    (hrun' : heap.Run (some m₂) tr' out) : out = none := by
  obtain ⟨buf', rfl, rfl⟩ := mcuprAllocObject_path_ok.mp halloc
  obtain rfl : buf = buf' := by
    unfold allocCalls at hbuf
    split at hbuf <;> simp_all
  exact release_overruns ((headerIntact_of_run hvalid hrun).clientWrites hwrites)
    hvalid.eight_le_requestedSize hrelease hrun'

/-- Starting from an empty heap such an allocation and release can be run. -/
theorem not_releaseStaysInside : ¬ReleaseStaysInside size0 offset size1 := by
  intro hinside
  let buf : Ptr := ⟨0, 0⟩
  have hzero : buf.offset = 0 := rfl
  obtain ⟨m₁, hrun, hintact⟩ := allocCalls_run hvalid (m := fun _ => none) hzero rfl
  obtain ⟨tr', hrelease, hrun'⟩ := exists_release_run hintact hvalid.eight_le_requestedSize
  have hwrites : ClientWrites buf m₁ m₁ := by
    obtain ⟨_, b, hb, _⟩ := hintact
    exact ⟨fun _ _ => rfl, b, b, hb, hb, rfl, fun _ _ => rfl⟩
  have hpath : (mcuprAllocObject none size0 offset size1).Path
      (allocCalls size0 offset size1 buf) (.ok, some (buf.add 8)) :=
    mcuprAllocObject_path_ok.mpr ⟨buf, rfl, rfl⟩
  exact (hinside none _ m₁ m₁ _ tr' buf (buf.add 8) (requestedSize size0 size1) none hpath
    (List.mem_cons_self) hrun hwrites hrelease hrun').1 rfl

end Release

/-- **Release overruns its block.** For no valid request does releasing the object
stay inside the block: every such release ends in the error outcome. -/
theorem object_release_never_stays_inside {size0 offset size1 : Int32}
    (hvalid : ValidRequest size0 offset size1) :
    ¬ReleaseStaysInside size0 offset size1 ∧
      ∀ (obj0 : Option Ptr) (m₀ m₁ m₂ : Memory) (tr tr' : List (Event Call Reply)) (buf obj : Ptr)
        (n : UInt64) (out : Option Memory),
        (mcuprAllocObject obj0 size0 offset size1).Path tr (.ok, some obj) →
        ⟨.calloc n, some buf⟩ ∈ tr → heap.Run (some m₀) tr (some m₁) →
        ClientWrites buf m₁ m₂ → (mcuprReleaseObject (some obj)).Path tr' () →
        heap.Run (some m₂) tr' out → out = none :=
  ⟨not_releaseStaysInside hvalid, fun _ _ _ _ _ _ _ _ _ _ halloc hbuf hrun hwrites hrelease hrun' =>
    release_of_alloc_overruns hvalid halloc hbuf hrun hwrites hrelease hrun'⟩

/-- The request made for an SPI bus is valid. -/
theorem spiBus_validRequest : ValidRequest 24 16 24 :=
  ⟨by decide, by decide, by decide, by decide, by decide, by decide⟩

/-- The theorem at the request made for an SPI bus. -/
theorem object_release_never_stays_inside_spiBus : ¬ReleaseStaysInside 24 16 24 :=
  (object_release_never_stays_inside spiBus_validRequest).1

/-- Not every valid request is released inside its block; the SPI bus is not. -/
theorem exists_release_outside :
    ¬∀ size0 offset size1 : Int32, ValidRequest size0 offset size1 →
      ReleaseStaysInside size0 offset size1 :=
  fun hall => not_releaseStaysInside spiBus_validRequest (hall 24 16 24 spiBus_validRequest)

end McuPeripheral
