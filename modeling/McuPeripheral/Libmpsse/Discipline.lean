import McuPeripheral.Calls.Monitor
import McuPeripheral.Libmpsse.Handles

/-!
# The bus discipline of the libmpsse backend

Whatever the adapter answers, every transfer is one frame from `Start` to `Stop` that
begins with the right address byte, and it leaves the acknowledge mode as it found it.
A monitor over the calls says what a well-ordered trace is; the frames say which call
each part of the trace belongs to. A read asks for its last byte in NACK mode. It does
not look at what it gets for it, so that the last byte that is really clocked in may be
one of the data, and those are acknowledged.
-/

namespace McuPeripheral.Libmpsse

open Calls Libc

/-- The `Read`s of a frame so far. -/
structure Reads where
  /-- Whether the last one asked for one byte in NACK mode, if there is one. -/
  asked : Option Bool
  /-- Whether the last byte that was clocked in was asked for in NACK mode, if there is one. -/
  came : Option Bool
  deriving DecidableEq, Repr

/-- None so far. -/
def Reads.none : Reads := ⟨.none, .none⟩

/-- One more `Read`, with the number of bytes asked for and of those that came. -/
def Reads.add (reads : Reads) (nacking : Bool) (size : Int32) (clocked : ℕ) : Reads :=
  ⟨some (nacking && decide (size = 1)), if clocked = 0 then reads.came else some nacking⟩

/-- What a monitor remembers of the calls on one adapter. -/
structure Phase where
  /-- `none` between frames, and in a frame its `Read`s. -/
  frame : Option Reads
  /-- The acknowledge mode is NACK. -/
  nacking : Bool
  deriving DecidableEq, Repr

/-- Between frames, in ACK mode. -/
def Phase.rest : Phase := ⟨none, false⟩

/-- The phase after one call that is in order: `Start` opens a frame and `Stop` closes it,
everything else on the adapter happens inside a frame, and a frame may be closed only if
`ends` accepts its `Read`s. -/
def Phase.step (ctx : ℕ) (ends : Reads → Bool) (s : Phase) : Event Call Reply → Option Phase
  | ⟨.start c, _⟩ =>
    if c = ctx ∧ s.frame = none then some { s with frame := some .none } else none
  | ⟨.stop c, _⟩ => if c = ctx ∧ s.frame.any ends then some { s with frame := none } else none
  | ⟨.write c _, _⟩ => if c = ctx ∧ s.frame ≠ none then some s else none
  | ⟨.getAck c, _⟩ => if c = ctx ∧ s.frame ≠ none then some s else none
  | ⟨.read c size, r⟩ =>
    if c = ctx ∧ s.frame ≠ none then
      some { s with frame := s.frame.map fun reads => reads.add s.nacking size r.clocked }
    else none
  | ⟨.sendNacks c, _⟩ =>
    if c = ctx ∧ s.frame ≠ none then some { s with nacking := true } else none
  | ⟨.sendAcks c, _⟩ =>
    if c = ctx ∧ s.frame ≠ none then some { s with nacking := false } else none
  | ⟨.libc _, _⟩ => some s
  | _ => none

/-- The monitor of the calls on the adapter `ctx` with this condition on the end of a frame. -/
def frameMonitor (ctx : ℕ) (ends : Reads → Bool) : Monitor Call Reply Phase :=
  ⟨Phase.step ctx ends⟩

/-- The last `Read` of a frame asks for one byte in NACK mode. -/
def lineMonitor (ctx : ℕ) : Monitor Call Reply Phase :=
  frameMonitor ctx fun reads => reads.asked ≠ some false

/-- The last byte clocked in in a frame was asked for in NACK mode. -/
def byteMonitor (ctx : ℕ) : Monitor Call Reply Phase :=
  frameMonitor ctx fun reads => reads.came ≠ some false

section Steps

variable {ctx : ℕ} {ends : Reads → Bool} {nacking : Bool} {reads : Reads}

@[simp] theorem step_start {r : Int32} :
    (frameMonitor ctx ends).step ⟨none, nacking⟩ ⟨.start ctx, r⟩ = some ⟨some .none, nacking⟩ := by
  simp [frameMonitor, Phase.step]

@[simp] theorem step_stop {r : Int32} :
    (frameMonitor ctx ends).step ⟨some reads, nacking⟩ ⟨.stop ctx, r⟩ =
      if ends reads then some ⟨none, nacking⟩ else none := by simp [frameMonitor, Phase.step]

@[simp] theorem step_write {data : List UInt8} {r : WriteReply} :
    (frameMonitor ctx ends).step ⟨some reads, nacking⟩ ⟨.write ctx data, r⟩ =
      some ⟨some reads, nacking⟩ := by simp [frameMonitor, Phase.step]

@[simp] theorem step_getAck {r : Int32} :
    (frameMonitor ctx ends).step ⟨some reads, nacking⟩ ⟨.getAck ctx, r⟩ =
      some ⟨some reads, nacking⟩ := by simp [frameMonitor, Phase.step]

@[simp] theorem step_read {size : Int32} {r : ReadReply} :
    (frameMonitor ctx ends).step ⟨some reads, nacking⟩ ⟨.read ctx size, r⟩ =
      some ⟨some (reads.add nacking size r.clocked), nacking⟩ := by
  simp [frameMonitor, Phase.step]

@[simp] theorem step_sendNacks :
    (frameMonitor ctx ends).step ⟨some reads, nacking⟩ ⟨.sendNacks ctx, ()⟩ =
      some ⟨some reads, true⟩ := by simp [frameMonitor, Phase.step]

@[simp] theorem step_sendAcks :
    (frameMonitor ctx ends).step ⟨some reads, nacking⟩ ⟨.sendAcks ctx, ()⟩ =
      some ⟨some reads, false⟩ := by simp [frameMonitor, Phase.step]

end Steps

/-- How many bytes each `Read` of a trace clocked in. -/
def clockedIn (tr : List (Event Call Reply)) : List ℕ :=
  tr.filterMap fun
    | ⟨.read _ _, r⟩ => some r.clocked
    | _ => none

/-- The last `Read` of the trace clocked in a byte, or none of them did. -/
def LastByteCame (tr : List (Event Call Reply)) : Prop :=
  (clockedIn tr).getLast? = some 0 → ∀ clocked ∈ clockedIn tr, clocked = 0

/-- The trace is one frame, and the first byte transmitted in it is `first`. -/
def OneFrame (ctx : ℕ) (first : UInt8) (tr : List (Event Call Reply)) : Prop :=
  ∃ started written body stopped,
    tr = ⟨.start ctx, started⟩ :: ⟨.write ctx [first], written⟩ ::
      (body ++ [⟨.stop ctx, stopped⟩]) ∧
    ∀ e ∈ body, e.call ≠ .start ctx ∧ e.call ≠ .stop ctx

section Frames

variable {ctx : ℕ} {ends : Reads → Bool} {dev : Int32} {data : List UInt8} {size : UInt32}

/-- A write returns the monitor to rest. -/
theorem run_writeTrace (hnone : ends .none = true) (p : WriteReplies) :
    (frameMonitor ctx ends).run .rest (writeTrace ctx dev data size p) = some .rest := by
  simp only [writeTrace, writeBody]
  split
  · simp [Phase.rest, hnone]
  · split
    · simp [Phase.rest, hnone]
    · split <;> simp [Phase.rest, hnone]

/-- The `Read`s of a frame that goes on to its data. -/
def ReadReplies.reads (size : UInt32) (p : ReadReplies) : Reads :=
  (Reads.none.add false size.toInt32 p.data.clocked).add true 1 p.trailing.clocked

/-- Freeing the buffer of the data is no call on the adapter. -/
theorem run_freeBuffer {s : Phase} {buffer : Option (Ptr × List UInt8)}
    {tr : List (Event Call Reply)} :
    (frameMonitor ctx ends).run s (freeBuffer buffer ++ tr) = (frameMonitor ctx ends).run s tr := by
  cases buffer with
  | none => rfl
  | some buffer => rfl

/-- A read that goes on to its data returns the monitor to rest if its end is accepted. -/
theorem run_readTrace_of_acknowledged {p : ReadReplies} (hstatus : p.address.status = mpsseOk)
    (hack : p.addressAck = ack) :
    (frameMonitor ctx ends).run .rest (readTrace ctx dev size p) =
      if ends (p.reads size) then some .rest else none := by
  rw [readTrace_of_acknowledged hstatus hack]
  simp only [Phase.rest, Monitor.run_cons, step_start, step_write, step_getAck, step_read,
    run_freeBuffer, step_sendNacks, step_sendAcks, step_stop, Option.bind_some]
  unfold ReadReplies.reads
  split
  · rfl
  · rfl

/-- Every other read returns it to rest. -/
theorem run_readTrace_of_refused (hnone : ends .none = true) {p : ReadReplies}
    (hrefused : ¬(p.address.status = mpsseOk ∧ p.addressAck = ack)) :
    (frameMonitor ctx ends).run .rest (readTrace ctx dev size p) = some .rest := by
  by_cases hstatus : p.address.status = mpsseOk
  · rw [readTrace_of_unacknowledged hstatus fun hack => hrefused ⟨hstatus, hack⟩]
    simp [Phase.rest, hnone]
  · rw [readTrace_of_failed hstatus]
    simp [Phase.rest, hnone]

/-- A read ends with a byte asked for in NACK mode. -/
theorem line_readTrace (p : ReadReplies) :
    (lineMonitor ctx).run .rest (readTrace ctx dev size p) = some .rest := by
  by_cases hreached : p.address.status = mpsseOk ∧ p.addressAck = ack
  · rw [lineMonitor, run_readTrace_of_acknowledged hreached.1 hreached.2]
    rfl
  · exact run_readTrace_of_refused rfl hreached

/-- A write clocks in nothing. -/
theorem clockedIn_writeTrace (p : WriteReplies) :
    clockedIn (writeTrace ctx dev data size p) = [] := by
  by_cases hstatus : p.address.status = mpsseOk
  · by_cases hpayload : p.addressAck = ack ∧ 0 < size
    · rw [writeTrace_of_payload hstatus hpayload.1 hpayload.2]
      rfl
    · rw [writeTrace_of_no_payload hstatus fun hack hsize => hpayload ⟨hack, hsize⟩]
      rfl
  · rw [writeTrace_of_failed hstatus]
    rfl

/-- A read that goes on to its data has two `Read`s. -/
theorem clockedIn_readTrace_of_acknowledged {p : ReadReplies}
    (hstatus : p.address.status = mpsseOk) (hack : p.addressAck = ack) :
    clockedIn (readTrace ctx dev size p) = [p.data.clocked, p.trailing.clocked] := by
  rw [readTrace_of_acknowledged hstatus hack]
  cases p.data.buffer with
  | none => rfl
  | some buffer => rfl

/-- Every other read clocks in nothing. -/
theorem clockedIn_readTrace_of_refused {p : ReadReplies}
    (hrefused : ¬(p.address.status = mpsseOk ∧ p.addressAck = ack)) :
    clockedIn (readTrace ctx dev size p) = [] := by
  by_cases hstatus : p.address.status = mpsseOk
  · rw [readTrace_of_unacknowledged hstatus fun hack => hrefused ⟨hstatus, hack⟩]
    rfl
  · rw [readTrace_of_failed hstatus]
    rfl

/-- Where nothing is clocked in, no byte is missing. -/
theorem lastByteCame_of_nil {tr : List (Event Call Reply)} (hnil : clockedIn tr = []) :
    LastByteCame tr := by simp [LastByteCame, hnil]

/-- The byte asked for in NACK mode is the last one clocked in exactly if it came, or if no
byte of the frame did. -/
theorem byte_readTrace (p : ReadReplies) :
    (byteMonitor ctx).Decides .rest (readTrace ctx dev size p)
      (LastByteCame (readTrace ctx dev size p)) := by
  by_cases hreached : p.address.status = mpsseOk ∧ p.addressAck = ack
  · obtain ⟨hstatus, hack⟩ := hreached
    unfold Monitor.Decides LastByteCame
    rw [byteMonitor, run_readTrace_of_acknowledged hstatus hack,
      clockedIn_readTrace_of_acknowledged hstatus hack]
    -- the data is clocked in in ACK mode, the byte behind it in NACK mode
    by_cases hdata : p.data.clocked = 0 <;> by_cases htrailing : p.trailing.clocked = 0 <;>
      simp [ReadReplies.reads, Reads.add, Reads.none, hdata, htrailing]
  · exact .of_rest (run_readTrace_of_refused rfl hreached)
      (lastByteCame_of_nil (clockedIn_readTrace_of_refused hreached))

/-- A write is one frame. -/
theorem oneFrame_writeTrace (p : WriteReplies) :
    OneFrame ctx (toByte (dev ||| 0x00)) (writeTrace ctx dev data size p) := by
  refine ⟨p.started, p.address, _, p.stopped, rfl, ?_⟩
  intro e he
  split at he
  · cases he
  · simp only [List.mem_cons] at he
    rcases he with rfl | he
    · simp
    · split at he
      · cases he
      · split at he
        · simp only [List.mem_cons, List.not_mem_nil, or_false] at he
          rcases he with rfl | rfl <;> simp
        · cases he

/-- A read is one frame. -/
theorem oneFrame_readTrace (p : ReadReplies) :
    OneFrame ctx (toByte (dev ||| 0x01)) (readTrace ctx dev size p) := by
  refine ⟨p.started, p.address, _, p.stopped, rfl, ?_⟩
  intro e he
  split at he
  · cases he
  · simp only [List.mem_cons] at he
    rcases he with rfl | he
    · simp
    · split at he
      · cases he
      · cases hbuffer : p.data.buffer with
        | none =>
          simp only [hbuffer, freeBuffer, List.nil_append, List.mem_cons, List.not_mem_nil,
            or_false] at he
          rcases he with rfl | rfl | rfl | rfl <;> simp
        | some buffer =>
          simp only [hbuffer, freeBuffer, List.cons_append, List.nil_append, List.mem_cons,
            List.not_mem_nil, or_false] at he
          rcases he with rfl | rfl | rfl | rfl | rfl <;> simp

end Frames

/-! ## Histories -/

/-- An open, a read, a write or a close on the given bus. -/
def OnBus (bus : Option I2cBus) : Op → Prop
  | .i2cOpen b _ _ | .i2cClose b _ | .i2cWrite b _ _ _ | .i2cRead b _ _ => b = bus
  | _ => False

/-- A transfer to the handle of an address is one frame that begins with the byte of that
address, and every other call makes no call on the adapter. -/
def WellFramed (ctx : ℕ) (i : Invocation Op.prog) : Prop :=
  match i.op with
  | .i2cRead _ dev _ =>
    (∃ a ≤ 127, dev = handleOf a ∧ OneFrame ctx (UInt8.ofNat (2 * a + 1)) i.trace) ∨
      ((∀ a ≤ 127, dev ≠ handleOf a) ∧ i.trace = [])
  | .i2cWrite _ dev _ _ =>
    (∃ a ≤ 127, dev = handleOf a ∧ OneFrame ctx (UInt8.ofNat (2 * a)) i.trace) ∨
      ((∀ a ≤ 127, dev ≠ handleOf a) ∧ i.trace = [])
  | _ => i.trace = []

/-- A read from the handle. -/
def ReadsFrom (dev : Int32) : Op → Prop
  | .i2cRead _ d _ => d = dev
  | _ => False

/-- A write to the handle. -/
def WritesTo (dev : Int32) : Op → Prop
  | .i2cWrite _ d _ _ => d = dev
  | _ => False

/-- A read from the handle of an address is a frame of that address. -/
theorem WellFramed.read {ctx a : ℕ} {i : Invocation Op.prog} (h : WellFramed ctx i) (ha : a ≤ 127)
    (hop : ReadsFrom (handleOf a) i.op) : OneFrame ctx (UInt8.ofNat (2 * a + 1)) i.trace := by
  obtain ⟨op, tr, r, hpath⟩ := i
  cases op with
  | i2cRead bus dev size =>
    obtain rfl : dev = handleOf a := hop
    rcases h with ⟨b, hb, hab, hframe⟩ | ⟨hnone, -⟩
    · rwa [← handleOf_inj ha hb hab] at hframe
    · exact absurd rfl (hnone a ha)
  | _ => exact hop.elim

/-- A write to the handle of an address is a frame of that address. -/
theorem WellFramed.write {ctx a : ℕ} {i : Invocation Op.prog} (h : WellFramed ctx i) (ha : a ≤ 127)
    (hop : WritesTo (handleOf a) i.op) : OneFrame ctx (UInt8.ofNat (2 * a)) i.trace := by
  obtain ⟨op, tr, r, hpath⟩ := i
  cases op with
  | i2cWrite bus dev data size =>
    obtain rfl : dev = handleOf a := hop
    rcases h with ⟨b, hb, hab, hframe⟩ | ⟨hnone, -⟩
    · rwa [← handleOf_inj ha hb hab] at hframe
    · exact absurd rfl (hnone a ha)
  | _ => exact hop.elim

/-- The call is a successful open of `addr` that gave the handle `dev`. -/
def Opens (i : Invocation Op.prog) (addr dev : Int32) : Prop :=
  ∃ bus old tr hpath, i = ⟨.i2cOpen bus old addr, tr, (.ok, dev), hpath⟩

section Calls

variable {self : Ptr} {ctx : MpsseContext} {i : Invocation Op.prog} (hopen : ctx.isOpen = true)
  (hbus : OnBus (some ⟨self, some ⟨some ctx⟩⟩) i.op)

include hopen hbus

/-- One call on an opened bus. -/
theorem call_disciplined :
    (lineMonitor ctx.id).run .rest i.trace = some .rest ∧
      (byteMonitor ctx.id).Decides .rest i.trace (LastByteCame i.trace) ∧
      WellFramed ctx.id i := by
  obtain ⟨op, tr, r, hpath⟩ := i
  cases op with
  | i2cOpen bus dev addr =>
    obtain rfl : bus = some ⟨self, some ⟨some ctx⟩⟩ := hbus
    obtain ⟨r, dev'⟩ := r
    have hnil : tr = [] := ((mcuprI2cOpen_path self hopen).mp hpath).1
    subst hnil
    exact ⟨rfl, .of_rest rfl (lastByteCame_of_nil rfl), rfl⟩
  | i2cClose bus dev =>
    have hnil : tr = [] := hpath.1
    subst hnil
    exact ⟨rfl, .of_rest rfl (lastByteCame_of_nil rfl), rfl⟩
  | i2cRead bus dev size =>
    obtain rfl : bus = some ⟨self, some ⟨some ctx⟩⟩ := hbus
    cases hvalid : validHandle dev with
    | false =>
      have hnil : tr = [] := ((mcuprI2cRead_path_refused self hopen hvalid).mp hpath).1
      subst hnil
      refine ⟨rfl, .of_rest rfl (lastByteCame_of_nil rfl), Or.inr ⟨fun a ha hdev => ?_, rfl⟩⟩
      rw [validHandle_iff.mpr ⟨a, ha, hdev⟩] at hvalid
      cases hvalid
    | true =>
      obtain ⟨p, rfl, -⟩ := (mcuprI2cRead_path self hopen hvalid).mp hpath
      obtain ⟨a, ha, rfl⟩ := validHandle_iff.mp hvalid
      refine ⟨line_readTrace p, byte_readTrace p, Or.inl ⟨a, ha, rfl, ?_⟩⟩
      rw [← toByte_read a (by omega)]
      exact oneFrame_readTrace p
  | i2cWrite bus dev data size =>
    obtain rfl : bus = some ⟨self, some ⟨some ctx⟩⟩ := hbus
    cases hvalid : validHandle dev with
    | false =>
      have hnil : tr = [] := ((mcuprI2cWrite_path_refused self hopen hvalid).mp hpath).1
      subst hnil
      refine ⟨rfl, .of_rest rfl (lastByteCame_of_nil rfl), Or.inr ⟨fun a ha hdev => ?_, rfl⟩⟩
      rw [validHandle_iff.mpr ⟨a, ha, hdev⟩] at hvalid
      cases hvalid
    | true =>
      obtain ⟨p, rfl, -⟩ := (mcuprI2cWrite_path self hopen hvalid).mp hpath
      obtain ⟨a, ha, rfl⟩ := validHandle_iff.mp hvalid
      refine ⟨run_writeTrace rfl p, .of_rest (run_writeTrace rfl p)
        (lastByteCame_of_nil (clockedIn_writeTrace p)), Or.inl ⟨a, ha, rfl, ?_⟩⟩
      rw [← toByte_write a (by omega)]
      exact oneFrame_writeTrace p
  | _ => exact hbus.elim

/-- A handle given by an open is the handle of the address that was opened. -/
theorem handle_of_opens {addr dev : Int32} (hopens : Opens i addr dev) :
    ∃ a : ℕ, a ≤ 127 ∧ addr.toInt = a ∧ dev = handleOf a := by
  obtain ⟨bus, old, tr, hpath, rfl⟩ := hopens
  obtain rfl : bus = some ⟨self, some ⟨some ctx⟩⟩ := hbus
  obtain ⟨-, ⟨-, h, -⟩ | ⟨hvalid, -, rfl⟩⟩ := (mcuprI2cOpen_path self hopen).mp hpath
  · cases h
  · exact shift_of_validAddr hvalid

end Calls

/-- **Bus discipline.** Over every history of calls on one opened bus, and after each of its
calls, the calls on the adapter are in order, every frame with a `Read` ends with one byte
asked for in NACK mode, and the acknowledge mode is ACK between frames. The last byte clocked
in in every frame is that byte exactly if in each call it came, or none did. Every transfer
to a handle is one frame with its address byte and no other call reaches the adapter; and
with a handle given by an open the address byte is the one of the address opened. -/
theorem bus_discipline {self : Ptr} {ctx : MpsseContext} (hopen : ctx.isOpen = true)
    {h : List (Invocation Op.prog)} (hbus : ∀ i ∈ h, OnBus (some ⟨self, some ⟨some ctx⟩⟩) i.op) :
    (∀ h', h' <+: h → (lineMonitor ctx.id).run .rest (traceOf h') = some .rest) ∧
    (∀ h', h' <+: h → ((byteMonitor ctx.id).run .rest (traceOf h') = some .rest ↔
      ∀ i ∈ h', LastByteCame i.trace)) ∧
    (∀ i ∈ h, WellFramed ctx.id i) ∧
    ∀ i ∈ h, ∀ addr dev, Opens i addr dev → ∃ a : ℕ, a ≤ 127 ∧ addr.toInt = a ∧
      ∀ j ∈ h, (ReadsFrom dev j.op → OneFrame ctx.id (UInt8.ofNat (2 * a + 1)) j.trace) ∧
        (WritesTo dev j.op → OneFrame ctx.id (UInt8.ofNat (2 * a)) j.trace) := by
  have hcalls := fun i hi => call_disciplined hopen (hbus i hi)
  refine ⟨?_, ?_, fun i hi => (hcalls i hi).2.2, ?_⟩
  · intro h' hfront
    exact Monitor.run_traceOf _ fun i hi => (hcalls i (hfront.subset hi)).1
  · intro h' hfront
    exact Monitor.run_traceOf_iff _ fun i hi => (hcalls i (hfront.subset hi)).2.1
  · intro i hi addr dev hopens
    obtain ⟨a, ha, haddr, rfl⟩ := handle_of_opens hopen (hbus i hi) hopens
    exact ⟨a, ha, haddr, fun j hj => ⟨(hcalls j hj).2.2.read ha, (hcalls j hj).2.2.write ha⟩⟩

/-- The replies to a read of two bytes in which everything succeeds. -/
def twoBytesReplies : ReadReplies :=
  ⟨mpsseOk, ⟨mpsseOk, [true]⟩, ack, ⟨some (⟨0, 0⟩, [0x10, 0x11]), 2⟩, ⟨some (⟨1, 0⟩, [0x12]), 1⟩,
    mpsseOk⟩

/-- The replies to a write of one byte in which everything succeeds. -/
def oneByteWritten : WriteReplies :=
  ⟨mpsseOk, ⟨mpsseOk, [true]⟩, ack, ⟨mpsseOk, [true]⟩, ack, mpsseOk⟩

/-- The theorem at an open of slave 0x39, a write of one byte to it and a read of two. -/
theorem bus_discipline_write_and_read :
    ∃ h : List (Invocation Op.prog), h.length = 3 ∧
      traceOf h = writeTrace 7 (handleOf 0x39) [0x80] 1 oneByteWritten ++
        readTrace 7 (handleOf 0x39) 2 twoBytesReplies ∧
      (lineMonitor 7).run .rest (traceOf h) = some .rest ∧
      (byteMonitor 7).run .rest (traceOf h) = some .rest := by
  let bus : Option I2cBus := some ⟨⟨0, 0⟩, some ⟨some ⟨7, true⟩⟩⟩
  have hdev : validHandle (handleOf 0x39) = true := validHandle_handleOf 0x39 (by decide)
  have hopened : (mcuprI2cOpen (some ⟨⟨0, 0⟩, some ⟨some ⟨7, true⟩⟩⟩) (-1) 0x39).Path []
      (.ok, handleOf 0x39) :=
    (mcuprI2cOpen_path _ rfl).mpr ⟨rfl, Or.inr ⟨by decide, rfl, by decide⟩⟩
  have hwritten : (mcuprI2cWrite (some ⟨⟨0, 0⟩, some ⟨some ⟨7, true⟩⟩⟩) (handleOf 0x39) [0x80]
      1).Path _ _ := (mcuprI2cWrite_path _ rfl hdev).mpr ⟨oneByteWritten, rfl, rfl⟩
  have hread : (mcuprI2cRead (some ⟨⟨0, 0⟩, some ⟨some ⟨7, true⟩⟩⟩) (handleOf 0x39) 2).Path _ _ :=
    (mcuprI2cRead_path _ rfl hdev).mpr ⟨twoBytesReplies, rfl, rfl⟩
  let h : List (Invocation Op.prog) := [⟨.i2cOpen bus (-1) 0x39, _, _, hopened⟩,
    ⟨.i2cWrite bus (handleOf 0x39) [0x80] 1, _, _, hwritten⟩,
    ⟨.i2cRead bus (handleOf 0x39) 2, _, _, hread⟩]
  have hbus : ∀ i ∈ h, OnBus bus i.op := by simp [h, OnBus]
  have hdiscipline := @bus_discipline ⟨0, 0⟩ ⟨7, true⟩ rfl h hbus
  have hcame : LastByteCame (readTrace 7 (handleOf 0x39) 2 twoBytesReplies) := by
    rw [LastByteCame, clockedIn_readTrace_of_acknowledged (p := twoBytesReplies) rfl rfl]
    decide
  refine ⟨h, rfl, by simp [h, traceOf], hdiscipline.1 h List.prefix_rfl,
    (hdiscipline.2.1 h List.prefix_rfl).mpr ?_⟩
  exact List.forall_mem_cons.mpr ⟨lastByteCame_of_nil rfl, List.forall_mem_cons.mpr
    ⟨lastByteCame_of_nil (clockedIn_writeTrace oneByteWritten), List.forall_mem_cons.mpr
      ⟨hcame, List.forall_mem_nil _⟩⟩⟩

/-- The replies to a read of one byte behind which no further byte comes. -/
def noByteBehind : ReadReplies :=
  ⟨mpsseOk, ⟨mpsseOk, [true]⟩, ack, ⟨some (⟨0, 0⟩, [0x5a]), 1⟩, ⟨none, 0⟩, mpsseOk⟩

/-- The last byte clocked in in a frame is not always asked for in NACK mode: a read whose last
`Read` gets nothing ends with a byte of the data, which was acknowledged. -/
theorem exists_last_byte_acknowledged :
    ∃ i : Invocation Op.prog,
      i.op = .i2cRead (some ⟨⟨0, 0⟩, some ⟨some ⟨7, true⟩⟩⟩) (handleOf 0x39) 1 ∧
      i.trace = readTrace 7 (handleOf 0x39) 1 noByteBehind ∧
      (adapter fun _ => 0x5a).Run ⟨false, 0⟩ i.trace ⟨true, 1⟩ ∧
      (byteMonitor 7).run .rest i.trace = none := by
  have hdev : validHandle (handleOf 0x39) = true := validHandle_handleOf 0x39 (by decide)
  have hread : (mcuprI2cRead (some ⟨⟨0, 0⟩, some ⟨some ⟨7, true⟩⟩⟩) (handleOf 0x39) 1).Path _ _ :=
    (mcuprI2cRead_path _ rfl hdev).mpr ⟨noByteBehind, rfl, rfl⟩
  refine ⟨⟨.i2cRead (some ⟨⟨0, 0⟩, some ⟨some ⟨7, true⟩⟩⟩) (handleOf 0x39) 1, _, _, hread⟩,
    rfl, rfl, ?_, ?_⟩
  · refine ⟨_, rfl, _, ⟨Or.inl rfl, by decide, fun _ => rfl, rfl⟩, _, ⟨rfl, rfl⟩, _,
      ⟨rfl, by decide, ?_⟩, _, rfl, _, rfl, _, ⟨rfl, by decide, nofun⟩, _, rfl, _, rfl, rfl⟩
    rintro ptr data hdata
    cases hdata
    exact ⟨by decide, rfl⟩
  · simp only [byteMonitor, run_readTrace_of_acknowledged (p := noByteBehind) rfl rfl]
    decide

end McuPeripheral.Libmpsse
