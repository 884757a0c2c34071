import McuPeripheral.Calls.Ledger
import McuPeripheral.Libmpsse.Handles
import Mathlib.Algebra.BigOperators.Group.List.Basic

/-!
# The buffers of `Read`

`Read` hands its caller a buffer that has to be freed. `mcupr_i2c_read` calls it twice: for
the data, which it copies out and frees, and for one more byte that ends the transfer and
that it does not look at. This module counts the buffers over any sequence of reads.
-/

namespace McuPeripheral.Libmpsse

open Calls Libc

/-- The arguments of one `mcupr_i2c_read`. -/
structure ReadCall where
  /-- The bus. -/
  bus : Option I2cBus
  /-- The handle. -/
  dev : Int32
  /-- How many bytes to read. -/
  size : UInt32

/-- The call with these arguments. -/
def ReadCall.prog (c : ReadCall) : Prog Call Reply (Int32 × List UInt8) :=
  mcuprI2cRead c.bus c.dev c.size

/-- The buffers handed over by `Read` and given back by `free`. -/
def bufferLedger : Ledger Call Reply Ptr where
  acquired
    | ⟨.read _ _, r⟩ => (r.buffer.map Prod.fst).elim 0 fun p => {p}
    | _ => 0
  returned
    | ⟨.libc (.free p), _⟩ => {p}
    | _ => 0

/-- Every buffer handed over in a read is freed in the same read, and none else is, so that
as many buffers are live after any number of reads as before. -/
structure BuffersGivenBack (h : List (Invocation ReadCall.prog)) : Prop where
  /-- Each read frees its own buffers, each of them once. -/
  freed : ∀ i ∈ h, bufferLedger.Covers 0 i.trace ∧ bufferLedger.after 0 i.trace = 0
  /-- The number of live buffers does not change. -/
  live : ∀ h', h' <+: h → ∀ held : Multiset Ptr,
    (bufferLedger.after held (traceOf h')).card = held.card

/-- The replies to the reads that come right after a `SendNacks`: those of the byte that ends
a transfer. -/
def trailingReplies : List (Event Call Reply) → List ReadReply
  | [] => []
  | ⟨.sendNacks _, _⟩ :: ⟨.read _ _, r⟩ :: tr => r :: trailingReplies tr
  | _ :: tr => trailingReplies tr

/-- The buffers that come with them. -/
def trailingBuffers (tr : List (Event Call Reply)) : Multiset Ptr :=
  (trailingReplies tr).filterMap fun r => r.buffer.map Prod.fst

/-- There are none exactly if every one of these reads gave a null pointer. -/
theorem trailingBuffers_eq_zero_iff {tr : List (Event Call Reply)} :
    trailingBuffers tr = 0 ↔ ∀ r ∈ trailingReplies tr, r.buffer = none := by
  unfold trailingBuffers
  rw [Multiset.coe_eq_zero, List.filterMap_eq_nil_iff]
  simp only [Option.map_eq_none_iff]

section OneRead

variable {ctx : ℕ} {dev : Int32} {size : UInt32} {own' : Multiset Ptr}
  {tr : List (Event Call Reply)}

/-- Reading the data gives back what it takes. -/
theorem moves_data {n : Int32} {data : ReadReply} (h : bufferLedger.Moves 0 tr own') :
    bufferLedger.Moves 0 (⟨.read ctx n, data⟩ :: (freeBuffer data.buffer ++ tr)) own' := by
  obtain ⟨_ | ⟨ptr, bytes⟩, clocked⟩ := data
  · exact .neutral rfl rfl h
  · exact .acquireFirst rfl rfl (.giveBackAll rfl rfl h)

/-- It does not end the transfer. -/
theorem trailingReplies_data (ctx : ℕ) (n : Int32) (data : ReadReply) :
    trailingReplies (⟨.read ctx n, data⟩ :: (freeBuffer data.buffer ++ tr)) =
      trailingReplies tr := by
  obtain ⟨_ | ⟨ptr, bytes⟩, clocked⟩ := data
  · rfl
  · rfl

/-- A read keeps exactly the buffer of the byte that ends the transfer. -/
theorem moves_readTrace (p : ReadReplies) :
    bufferLedger.Moves 0 (readTrace ctx dev size p)
      (trailingBuffers (readTrace ctx dev size p)) := by
  by_cases hstatus : p.address.status = mpsseOk
  · by_cases hack : p.addressAck = ack
    · have hkept : trailingBuffers (readTrace ctx dev size p) =
          (p.trailing.buffer.map Prod.fst).elim 0 fun ptr => {ptr} := by
        have hreplies : trailingReplies (readTrace ctx dev size p) = [p.trailing] := by
          rw [readTrace_of_acknowledged hstatus hack]
          exact trailingReplies_data ctx size.toInt32 p.data
        unfold trailingBuffers
        rw [hreplies]
        cases hbuffer : p.trailing.buffer with
        | none => simp [hbuffer]
        | some buffer => simp [hbuffer]
      rw [hkept, readTrace_of_acknowledged hstatus hack]
      -- the buffer of the data is freed, the one after `SendNacks` is not
      exact .neutral rfl rfl (.neutral rfl rfl (.neutral rfl rfl (moves_data
        (.neutral rfl rfl (.acquireFirst rfl rfl (.neutral rfl rfl (.neutral rfl rfl .nil)))))))
    · rw [readTrace_of_unacknowledged hstatus hack]
      exact .neutral rfl rfl (.neutral rfl rfl (.neutral rfl rfl (.neutral rfl rfl .nil)))
  · rw [readTrace_of_failed hstatus]
    exact .neutral rfl rfl (.neutral rfl rfl (.neutral rfl rfl .nil))

end OneRead

/-- Whatever its arguments, a read keeps exactly the buffer of the byte that ends the transfer. -/
theorem moves_read (i : Invocation ReadCall.prog) :
    bufferLedger.Moves 0 i.trace (trailingBuffers i.trace) := by
  obtain ⟨call, tr, r, hpath⟩ := i
  obtain ⟨rfl, -⟩ | ⟨ctx, p, rfl, -⟩ := mcuprI2cRead_cases hpath
  · exact .nil
  · exact moves_readTrace p

/-! ## Many reads -/

/-- Every read adds its trailing buffer to what is live. -/
theorem after_traceOf (held : Multiset Ptr) (h : List (Invocation ReadCall.prog)) :
    bufferLedger.after held (traceOf h) = held + (h.map fun i => trailingBuffers i.trace).sum := by
  induction h generalizing held with
  | nil => simp
  | cons i h ih =>
    rw [traceOf_cons, bufferLedger.after_append, (moves_read i).after_eq, ih, List.map_cons,
      List.sum_cons, add_assoc]

/-- The buffers of all reads are given back exactly if in every read the byte that ends the
transfer comes without one. -/
theorem read_buffers_given_back_iff (h : List (Invocation ReadCall.prog)) :
    BuffersGivenBack h ↔ ∀ i ∈ h, ∀ r ∈ trailingReplies i.trace, r.buffer = none := by
  simp only [← trailingBuffers_eq_zero_iff]
  constructor
  · intro hback i hi
    have hafter := (moves_read i).after_eq 0
    rw [(hback.freed i hi).2, zero_add] at hafter
    exact hafter.symm
  · intro hnone
    refine ⟨fun i hi => ?_, fun h' hfront held => ?_⟩
    · have hmoves := moves_read i 0
      rwa [hnone i hi, add_zero] at hmoves
    · have hkept : (h'.map fun i => trailingBuffers i.trace).sum = 0 := by
        refine List.sum_eq_zero fun kept hkept => ?_
        obtain ⟨i, hi, rfl⟩ := List.mem_map.mp hkept
        exact hnone i (hfront.subset hi)
      rw [after_traceOf, hkept, add_zero]

/-- The replies of a read of one byte in which every call succeeds. -/
def oneByteReplies : ReadReplies :=
  ⟨mpsseOk, ⟨mpsseOk, [true]⟩, ack, ⟨some (⟨0, 0⟩, [0x5a]), 1⟩, ⟨some (⟨1, 0⟩, [0xff]), 1⟩, mpsseOk⟩

/-- After one read in which every call succeeds one more buffer is live. -/
theorem exists_read_buffer_kept :
    ∃ i : Invocation ReadCall.prog,
      i.op = ⟨some ⟨⟨2, 0⟩, some ⟨some ⟨7, true⟩⟩⟩, handleOf 0x39, 1⟩ ∧
      i.trace = readTrace 7 (handleOf 0x39) 1 oneByteReplies ∧
      (bufferLedger.after 0 i.trace).card = 1 ∧ ¬BuffersGivenBack [i] := by
  have hdev : validHandle (handleOf 0x39) = true := validHandle_handleOf 0x39 (by decide)
  have hafter : bufferLedger.after 0 (readTrace 7 (handleOf 0x39) 1 oneByteReplies) =
      {⟨1, 0⟩} := by decide
  refine ⟨⟨⟨some ⟨⟨2, 0⟩, some ⟨some ⟨7, true⟩⟩⟩, handleOf 0x39, 1⟩, _, _,
    (mcuprI2cRead_path ⟨2, 0⟩ rfl hdev).mpr ⟨oneByteReplies, rfl, rfl⟩⟩, rfl, rfl, ?_,
    fun hback => ?_⟩
  · exact congrArg Multiset.card hafter
  · have hzero := (hback.freed _ List.mem_cons_self).2
    exact absurd (hafter.symm.trans hzero) (by decide)

end McuPeripheral.Libmpsse
