import McuPeripheral.Libmpsse.Model

/-!
# The executions of the libmpsse backend

For each transfer the replies it may receive, as one record, and from them the calls
it makes and what it returns. On an opened bus and with a valid handle these are
all its executions; otherwise it makes no call at all.
-/

namespace McuPeripheral.Libmpsse

open Calls Libc

variable {tr : List (Event Call Reply)}

/-- Whatever happens between `Start` and the label `wayout`, `Stop` is the last call. -/
theorem framed_path {α : Type} {body : Prog Call Reply α} {ctx : ℕ} {r : α} :
    (do
      let _ ← start ctx
      let res ← body
      let _ ← stop ctx
      return res : Prog Call Reply α).Path tr r ↔
      ∃ started stopped tr', tr = ⟨.start ctx, started⟩ :: (tr' ++ [⟨.stop ctx, stopped⟩]) ∧
        body.Path tr' r := by
  rw [start, Prog.path_ask_bind]
  constructor
  · rintro ⟨started, tr₁, rfl, h⟩
    obtain ⟨tr', _, _, rfl, hbody, stopped, _, rfl, rfl, rfl⟩ := Prog.path_bind.mp h
    exact ⟨started, stopped, tr', rfl, hbody⟩
  · rintro ⟨started, stopped, tr', rfl, hbody⟩
    refine ⟨started, _, rfl, Prog.path_bind.mpr ⟨tr', r, _, rfl, hbody, ?_⟩⟩
    exact ⟨stopped, _, rfl, rfl, rfl⟩

/-- The replies to the calls of one `mcupr_i2c_write`, in the order of the calls. Those
behind the point where the function gives up are not asked for. -/
structure WriteReplies where
  /-- The reply to `Start`. -/
  started : Int32
  /-- The reply to writing the address byte. -/
  address : WriteReply
  /-- The acknowledge bit looked up after the address byte. -/
  addressAck : Int32
  /-- The reply to writing the payload. -/
  payload : WriteReply
  /-- The acknowledge bit looked up after the payload. -/
  payloadAck : Int32
  /-- The reply to `Stop`. -/
  stopped : Int32
  deriving DecidableEq, Repr

/-- The calls of one write between `Start` and `Stop`. -/
def writeBody (ctx : ℕ) (dev : Int32) (data : List UInt8) (size : UInt32) (p : WriteReplies) :
    List (Event Call Reply) :=
  ⟨.write ctx [toByte (dev ||| 0x00)], p.address⟩ ::
  if p.address.status ≠ mpsseOk then []
  else ⟨.getAck ctx, p.addressAck⟩ ::
    if p.addressAck ≠ ack then []
    else if 0 < size then
      [⟨.write ctx (data.take size.toNat), p.payload⟩, ⟨.getAck ctx, p.payloadAck⟩]
    else []

/-- The calls of one write. -/
def writeTrace (ctx : ℕ) (dev : Int32) (data : List UInt8) (size : UInt32) (p : WriteReplies) :
    List (Event Call Reply) :=
  ⟨.start ctx, p.started⟩ :: (writeBody ctx dev data size p ++ [⟨.stop ctx, p.stopped⟩])

section WriteTraces

variable {ctx : ℕ} {dev : Int32} {data : List UInt8} {size : UInt32} {p : WriteReplies}

/-- A write whose address byte could not be written. -/
theorem writeTrace_of_failed (hstatus : p.address.status ≠ mpsseOk) :
    writeTrace ctx dev data size p = [⟨.start ctx, p.started⟩,
      ⟨.write ctx [toByte (dev ||| 0x00)], p.address⟩, ⟨.stop ctx, p.stopped⟩] := by
  simp [writeTrace, writeBody, hstatus]

/-- A write whose address byte was not acknowledged, or that has no payload. -/
theorem writeTrace_of_no_payload (hstatus : p.address.status = mpsseOk)
    (hpayload : p.addressAck = ack → ¬0 < size) :
    writeTrace ctx dev data size p = [⟨.start ctx, p.started⟩,
      ⟨.write ctx [toByte (dev ||| 0x00)], p.address⟩, ⟨.getAck ctx, p.addressAck⟩,
      ⟨.stop ctx, p.stopped⟩] := by
  by_cases hack : p.addressAck = ack
  · simp [writeTrace, writeBody, hstatus, hack, hpayload hack]
  · simp [writeTrace, writeBody, hstatus, hack]

/-- A write that goes on to its payload. -/
theorem writeTrace_of_payload (hstatus : p.address.status = mpsseOk) (hack : p.addressAck = ack)
    (hsize : 0 < size) :
    writeTrace ctx dev data size p = [⟨.start ctx, p.started⟩,
      ⟨.write ctx [toByte (dev ||| 0x00)], p.address⟩, ⟨.getAck ctx, p.addressAck⟩,
      ⟨.write ctx (data.take size.toNat), p.payload⟩, ⟨.getAck ctx, p.payloadAck⟩,
      ⟨.stop ctx, p.stopped⟩] := by
  simp [writeTrace, writeBody, hstatus, hack, hsize]

end WriteTraces

/-- What one write returns. -/
def writeResult (size : UInt32) (p : WriteReplies) : Int32 :=
  if p.address.status ≠ mpsseOk then McuprResult.backendFailure.code
  else if p.addressAck ≠ ack then McuprResult.communicationError.code
  else if 0 < size ∧ p.payloadAck ≠ ack then McuprResult.communicationError.code
  else size.toInt32

/-- The executions between `Start` and `Stop` of a write. -/
theorem writeFrame_path {ctx : ℕ} {dev r : Int32} {data : List UInt8} {size : UInt32} :
    (writeFrame ctx dev data size).Path tr r ↔
      ∃ p, tr = writeBody ctx dev data size p ∧ r = writeResult size p := by
  simp only [writeFrame, write, getAck, Prog.path_ask_bind, Prog.path_ite, Prog.path_pure]
  constructor
  · rintro ⟨address, _, rfl, ⟨hst, rfl, rfl⟩ | ⟨hst, a, _, rfl, ⟨ha, rfl, rfl⟩ | ⟨ha, h⟩⟩⟩
    · exact ⟨⟨0, address, 0, ⟨0, []⟩, 0, 0⟩, by simp [writeBody, hst], by simp [writeResult, hst]⟩
    · exact ⟨⟨0, address, a, ⟨0, []⟩, 0, 0⟩, by simp_all [writeBody], by simp_all [writeResult]⟩
    · obtain ⟨hsize, payload, _, rfl, a', _, rfl, ⟨ha', rfl, rfl⟩ | ⟨ha', rfl, rfl⟩⟩ |
        ⟨hsize, rfl, rfl⟩ := h
      · exact ⟨⟨0, address, a, payload, a', 0⟩, by simp_all [writeBody], by simp_all [writeResult]⟩
      · exact ⟨⟨0, address, a, payload, a', 0⟩, by simp_all [writeBody], by simp_all [writeResult]⟩
      · exact ⟨⟨0, address, a, ⟨0, []⟩, 0, 0⟩, by simp_all [writeBody],
          by simp_all [writeResult]⟩
  · rintro ⟨p, rfl, rfl⟩
    refine ⟨p.address, _, rfl, ?_⟩
    by_cases hst : p.address.status = mpsseOk
    · refine Or.inr ⟨by simpa using hst, p.addressAck, _, by simp [hst]; rfl, ?_⟩
      by_cases ha : p.addressAck = ack
      · refine Or.inr ⟨by simpa using ha, ?_⟩
        by_cases hsize : 0 < size
        · refine Or.inl ⟨hsize, p.payload, _, by simp [ha, hsize], p.payloadAck, [], rfl, ?_⟩
          by_cases ha' : p.payloadAck = ack
          · exact Or.inr ⟨by simpa using ha', rfl, by simp [writeResult, hst, ha, ha']⟩
          · exact Or.inl ⟨ha', rfl, by simp [writeResult, hst, ha, ha', hsize]⟩
        · exact Or.inr ⟨hsize, by simp [ha, hsize], by simp [writeResult, hst, ha, hsize]⟩
      · exact Or.inl ⟨ha, by simp [ha], by simp [writeResult, hst, ha]⟩
    · exact Or.inl ⟨hst, by simp [hst], by simp [writeResult, hst]⟩

/-- The replies to the calls of one `mcupr_i2c_read`, in the order of the calls. Those
behind the point where the function gives up are not asked for. -/
structure ReadReplies where
  /-- The reply to `Start`. -/
  started : Int32
  /-- The reply to writing the address byte. -/
  address : WriteReply
  /-- The acknowledge bit looked up after the address byte. -/
  addressAck : Int32
  /-- The reply to reading the data. -/
  data : ReadReply
  /-- The reply to the `Read` of one byte that ends the transfer. -/
  trailing : ReadReply
  /-- The reply to `Stop`. -/
  stopped : Int32
  deriving DecidableEq, Repr

/-- The buffer of a successful `Read` is freed once its bytes are copied. -/
def freeBuffer : Option (Ptr × List UInt8) → List (Event Call Reply)
  | none => []
  | some (ptr, _) => [⟨.libc (.free ptr), ()⟩]

/-- The calls of one read between `Start` and `Stop`. -/
def readBody (ctx : ℕ) (dev : Int32) (size : UInt32) (p : ReadReplies) : List (Event Call Reply) :=
  ⟨.write ctx [toByte (dev ||| 0x01)], p.address⟩ ::
  if p.address.status ≠ mpsseOk then []
  else ⟨.getAck ctx, p.addressAck⟩ ::
    if p.addressAck ≠ ack then []
    else ⟨.read ctx size.toInt32, p.data⟩ :: (freeBuffer p.data.buffer ++
      [⟨.sendNacks ctx, ()⟩, ⟨.read ctx 1, p.trailing⟩, ⟨.sendAcks ctx, ()⟩])

/-- The calls of one read. -/
def readTrace (ctx : ℕ) (dev : Int32) (size : UInt32) (p : ReadReplies) : List (Event Call Reply) :=
  ⟨.start ctx, p.started⟩ :: (readBody ctx dev size p ++ [⟨.stop ctx, p.stopped⟩])

section ReadTraces

variable {ctx : ℕ} {dev : Int32} {size : UInt32} {p : ReadReplies}

/-- A read whose address byte could not be written. -/
theorem readTrace_of_failed (hstatus : p.address.status ≠ mpsseOk) :
    readTrace ctx dev size p = [⟨.start ctx, p.started⟩,
      ⟨.write ctx [toByte (dev ||| 0x01)], p.address⟩, ⟨.stop ctx, p.stopped⟩] := by
  simp [readTrace, readBody, hstatus]

/-- A read whose address byte was not acknowledged. -/
theorem readTrace_of_unacknowledged (hstatus : p.address.status = mpsseOk)
    (hack : p.addressAck ≠ ack) :
    readTrace ctx dev size p = [⟨.start ctx, p.started⟩,
      ⟨.write ctx [toByte (dev ||| 0x01)], p.address⟩, ⟨.getAck ctx, p.addressAck⟩,
      ⟨.stop ctx, p.stopped⟩] := by
  simp [readTrace, readBody, hstatus, hack]

/-- A read that goes on to its data. -/
theorem readTrace_of_acknowledged (hstatus : p.address.status = mpsseOk)
    (hack : p.addressAck = ack) :
    readTrace ctx dev size p = ⟨.start ctx, p.started⟩ ::
      ⟨.write ctx [toByte (dev ||| 0x01)], p.address⟩ :: ⟨.getAck ctx, p.addressAck⟩ ::
      ⟨.read ctx size.toInt32, p.data⟩ :: (freeBuffer p.data.buffer ++ [⟨.sendNacks ctx, ()⟩,
        ⟨.read ctx 1, p.trailing⟩, ⟨.sendAcks ctx, ()⟩, ⟨.stop ctx, p.stopped⟩]) := by
  simp [readTrace, readBody, hstatus, hack]

end ReadTraces

/-- What one read returns, and the bytes it stores. -/
def readResult (size : UInt32) (p : ReadReplies) : Int32 × List UInt8 :=
  if p.address.status ≠ mpsseOk then (McuprResult.backendFailure.code, [])
  else if p.addressAck ≠ ack then (McuprResult.communicationError.code, [])
  else p.data.buffer.elim (McuprResult.communicationError.code, [])
    fun buffer => (size.toInt32, buffer.2.take size.toNat)

/-- The executions between `Start` and `Stop` of a read. -/
theorem readFrame_path {ctx : ℕ} {dev : Int32} {size : UInt32} {r : Int32 × List UInt8} :
    (readFrame ctx dev size).Path tr r ↔
      ∃ p, tr = readBody ctx dev size p ∧ r = readResult size p := by
  simp only [readFrame, write, getAck, Libmpsse.read, sendNacks, sendAcks, free,
    Prog.path_ask_bind, Prog.path_ite, Prog.path_pure]
  constructor
  · rintro ⟨address, _, rfl, ⟨hst, rfl, rfl⟩ | ⟨hst, a, _, rfl, ⟨ha, rfl, rfl⟩ |
      ⟨ha, ⟨buffer, clocked⟩, _, rfl, h⟩⟩⟩
    · exact ⟨⟨0, address, 0, ⟨none, 0⟩, ⟨none, 0⟩, 0⟩, by simp [readBody, hst],
        by simp [readResult, hst]⟩
    · exact ⟨⟨0, address, a, ⟨none, 0⟩, ⟨none, 0⟩, 0⟩, by simp_all [readBody],
        by simp_all [readResult]⟩
    · cases buffer with
      | none =>
        obtain ⟨_, _, rfl, trailing, _, rfl, _, _, rfl, rfl, rfl⟩ := h
        exact ⟨⟨0, address, a, ⟨none, clocked⟩, trailing, 0⟩, by simp_all [readBody, freeBuffer],
          by simp_all [readResult]⟩
      | some buffer =>
        obtain ⟨ptr, data⟩ := buffer
        obtain ⟨_, _, rfl, _, _, rfl, trailing, _, rfl, _, _, rfl, rfl, rfl⟩ := h
        exact ⟨⟨0, address, a, ⟨some (ptr, data), clocked⟩, trailing, 0⟩,
          by simp_all [readBody, freeBuffer], by simp_all [readResult]⟩
  · rintro ⟨p, rfl, rfl⟩
    refine ⟨p.address, _, rfl, ?_⟩
    by_cases hst : p.address.status = mpsseOk
    · refine Or.inr ⟨by simpa using hst, p.addressAck, _, by simp [hst]; rfl, ?_⟩
      by_cases ha : p.addressAck = ack
      · refine Or.inr ⟨by simpa using ha, p.data, _, by simp [ha]; rfl, ?_⟩
        cases hbuffer : p.data.buffer with
        | none =>
          exact ⟨(), _, rfl, p.trailing, _, rfl, (), _, rfl, rfl, by simp [readResult, *]⟩
        | some buffer =>
          exact ⟨(), _, rfl, (), _, rfl, p.trailing, _, rfl, (), _, rfl, rfl,
            by simp [readResult, *]⟩
      · exact Or.inl ⟨ha, by simp [ha], by simp [readResult, hst, ha]⟩
    · exact Or.inl ⟨hst, by simp [hst], by simp [readResult, hst]⟩

/-- Creating a bus allocates it and initialises the adapter; a context that is missing or
closed is given back together with the memory. -/
theorem mcuprI2cBusCreate_path {busp bus : Option I2cBus} {params : McuprI2cBusParams}
    {r : McuprResult} :
    (mcuprI2cBusCreate busp params).Path tr (r, bus) ↔
      (r = .nomem ∧ bus = busp ∧ tr = [⟨.libc (.calloc 32), none⟩]) ∨
      (∃ p : Ptr, r = .backendFailure ∧ bus = busp ∧
        tr = [⟨.libc (.calloc 32), some p⟩, ⟨.mpsse params.freq.toInt32, none⟩,
          ⟨.libc (.free p), ()⟩]) ∨
      (∃ (p : Ptr) (ctx : MpsseContext), ctx.isOpen = false ∧ r = .backendFailure ∧ bus = busp ∧
        tr = [⟨.libc (.calloc 32), some p⟩, ⟨.mpsse params.freq.toInt32, some ctx⟩,
          ⟨.close (some ctx.id), ()⟩, ⟨.libc (.free p), ()⟩]) ∨
      ∃ (p : Ptr) (ctx : MpsseContext), ctx.isOpen = true ∧ r = .ok ∧
        bus = some ⟨p, some ⟨some ctx⟩⟩ ∧
        tr = [⟨.libc (.calloc 32), some p⟩, ⟨.mpsse params.freq.toInt32, some ctx⟩] := by
  unfold mcuprI2cBusCreate calloc
  rw [Prog.path_lift_ask_bind]
  constructor
  · rintro ⟨_ | p, _, rfl, h⟩
    · obtain ⟨rfl, h⟩ := h
      obtain ⟨rfl, rfl⟩ := Prod.mk.inj h
      exact Or.inl ⟨rfl, rfl, rfl⟩
    · obtain ⟨_ | ctx, _, rfl, h⟩ := h
      · obtain ⟨_, _, rfl, rfl, h⟩ := h
        obtain ⟨rfl, rfl⟩ := Prod.mk.inj h
        exact Or.inr (Or.inl ⟨p, rfl, rfl, rfl⟩)
      · obtain ⟨hclosed, _, _, rfl, _, _, rfl, rfl, heq⟩ | ⟨hopen, rfl, heq⟩ := Prog.path_ite.mp h
        · obtain ⟨rfl, rfl⟩ := Prod.mk.inj heq
          exact Or.inr (Or.inr (Or.inl ⟨p, ctx, by simpa using hclosed, rfl, rfl, rfl⟩))
        · obtain ⟨rfl, rfl⟩ := Prod.mk.inj heq
          exact Or.inr (Or.inr (Or.inr ⟨p, ctx, by simpa using hopen, rfl, rfl, rfl⟩))
  · rintro (⟨rfl, rfl, rfl⟩ | ⟨p, rfl, rfl, rfl⟩ | ⟨p, ctx, hclosed, rfl, rfl, rfl⟩ |
      ⟨p, ctx, hopen, rfl, rfl, rfl⟩)
    · exact ⟨none, _, rfl, rfl, rfl⟩
    · exact ⟨some p, _, rfl, none, _, rfl, (), _, rfl, rfl, rfl⟩
    · refine ⟨some p, _, rfl, some ctx, _, rfl, Prog.path_ite.mpr (Or.inl ⟨?_, ?_⟩)⟩
      · simp [hclosed]
      · exact ⟨(), _, rfl, (), _, rfl, rfl, rfl⟩
    · refine ⟨some p, _, rfl, some ctx, _, rfl, Prog.path_ite.mpr (Or.inr ⟨?_, rfl, rfl⟩)⟩
      simp [hopen]

/-- Releasing a bus closes the adapter, clears the bus and frees it. -/
theorem mcuprI2cBusRelease_path {self : Ptr} {priv : LibmpsseData} {u : Unit} :
    (mcuprI2cBusRelease (some ⟨self, some priv⟩)).Path tr u ↔
      tr = [⟨.close (priv.mpsse.map MpsseContext.id), ()⟩,
        ⟨.libc (.memset (self.add 8) 0 24), ()⟩, ⟨.libc (.memset self 0 8), ()⟩,
        ⟨.libc (.free self), ()⟩] := by
  rw [mcuprI2cBusRelease, close, Prog.path_ask_bind]
  constructor
  · rintro ⟨_, _, rfl, _, _, rfl, _, _, rfl, _, _, rfl, rfl, -⟩
    rfl
  · rintro rfl
    exact ⟨(), _, rfl, (), _, rfl, (), _, rfl, (), _, rfl, rfl, rfl⟩

end McuPeripheral.Libmpsse
