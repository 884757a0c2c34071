import McuPeripheral.Calls.Reader
import McuPeripheral.Libmpsse.Handles
import McuPeripheral.Linuxdev.Api
import McuPeripheral.Linuxdev.Executions

/-!
# Reading from a slave, through Linux and through libmpsse

The slave is a source of bytes that advances by one each time a byte is clocked in. A
client reads from one handle again and again, and every read succeeds. The Linux
device backend consumes exactly what it returns; the libmpsse backend ends every
read with a `Read` of one more byte, which is discarded.
-/

namespace McuPeripheral

open Calls

/-! ## Linux devices -/

namespace Linuxdev

/-- What `read` on an I2C device promises: what it returns is what it clocked in, and no
more than was asked for. -/
def slaveStep (source : ℕ → UInt8) : ℕ → Event Call Reply → ℕ → Prop
  | s, ⟨.read _ count, some data⟩, s' =>
    data = slice source s data.length ∧ data.length ≤ count.toNat ∧ s' = s + data.length
  | s, _, s' => s' = s

/-- The slave behind an I2C device, by how many bytes were clocked in so far. -/
def slave (source : ℕ → UInt8) : Env Call Reply ℕ := ⟨slaveStep source⟩

/-- How many bytes a call clocks in. -/
def bytesClocked : Event Call Reply → ℕ
  | ⟨.read _ _, some data⟩ => data.length
  | _ => 0

/-- What a call takes from the slave. -/
def taking : Invocation Op.prog → Taking UInt8
  | ⟨.i2cRead _ _ size, tr, (_, data), _⟩ => ⟨size.toNat, data, (tr.map bytesClocked).sum⟩
  | i => ⟨0, [], (i.trace.map bytesClocked).sum⟩

/-- A read of at least one byte, and less than `2 ^ 31`, from the handle. -/
def ReadsHandle (bus : Option I2cBus) (dev : Int32) : Op → Prop
  | .i2cRead b d size => b = bus ∧ d = dev ∧ 1 ≤ size.toNat ∧ size.toNat < 2 ^ 31
  | _ => False

/-- A read that returned the number of bytes it was asked for. -/
def ReadAll : Invocation Op.prog → Prop
  | ⟨.i2cRead _ _ size, _, (n, _), _⟩ => n = size.toInt32
  | _ => False

/-- A sequence of successful reads from one handle. -/
structure Reading (source : ℕ → UInt8) where
  /-- The bus. -/
  bus : Option I2cBus
  /-- The handle. -/
  dev : Int32
  /-- The reads. -/
  history : List (Invocation Op.prog)
  /-- How many bytes were clocked in at the end. -/
  position : ℕ
  /-- The client read from the handle, and from nothing else. -/
  session : Session (slave source) (fun _ => ReadsHandle bus dev) 0 history position
  /-- Every read succeeded. -/
  succeeded : ∀ i ∈ history, ReadAll i

/-- What the reads took. -/
def Reading.takings {source : ℕ → UInt8} (r : Reading source) : List (Taking UInt8) :=
  r.history.map taking

/-- A read that does not fail was made on a live bus with a handle that is not negative, and
is one `read` whose bytes it returns. -/
theorem read_of_nonneg {bus : Option I2cBus} {dev n : Int32} {size : UInt32} {data : List UInt8}
    {tr : List (Event Call Reply)} (hpath : (mcuprI2cRead bus dev size).Path tr (n, data))
    (hn : ¬n < 0) :
    n = (Int64.ofNat data.length).toInt32 ∧ tr = [⟨.read dev size.toUInt64, some data⟩] := by
  by_cases hlive : ∃ self priv, bus = some ⟨self, some priv⟩
  · obtain ⟨self, priv, rfl⟩ := hlive
    obtain ⟨-, h, -⟩ | ⟨_ | buf, -, h, rfl⟩ := mcuprI2cRead_path.mp hpath
    · obtain ⟨rfl, -⟩ := Prod.mk.inj h
      exact absurd (by decide) hn
    · obtain ⟨rfl, -⟩ := Prod.mk.inj h
      exact absurd (by decide) hn
    · obtain ⟨rfl, rfl⟩ := Prod.mk.inj h
      exact ⟨rfl, rfl⟩
  · obtain ⟨-, h⟩ := (mcuprI2cRead_path_refused hlive).mp hpath
    obtain ⟨rfl, -⟩ := Prod.mk.inj h
    exact absurd (by decide) hn

/-- A count that fits an `int` is not changed by the conversions. -/
theorem toNat_count {n : ℕ} {size : UInt32} (hn : n < 2 ^ 31) (hsize : size.toNat < 2 ^ 31)
    (h : size.toInt32 = (Int64.ofNat n).toInt32) : n = size.toNat := by
  have hvalue := congrArg Int32.toInt h
  rw [toInt_toInt32 hsize, Int64.toInt32_ofNat', Int32.toInt_ofNat_of_lt hn] at hvalue
  omega

variable {source : ℕ → UInt8}

/-- One successful read returns the next bytes of the slave, and clocks in no others. -/
theorem taking_of_read {bus : Option I2cBus} {dev : Int32} {i : Invocation Op.prog} {s s' : ℕ}
    (hreads : ReadsHandle bus dev i.op) (hall : ReadAll i)
    (hrun : (slave source).Run s i.trace s') :
    (taking i).data = slice source s (taking i).size ∧ s' = s + (taking i).used ∧
      (taking i).used = (taking i).size := by
  obtain ⟨op, tr, r, hpath⟩ := i
  cases op with
  | i2cRead b d size =>
    obtain ⟨-, -, -, hsize⟩ := hreads
    obtain ⟨n, data⟩ := r
    obtain rfl : n = size.toInt32 := hall
    obtain ⟨hcount, rfl⟩ := read_of_nonneg hpath (toInt32_not_neg hsize)
    obtain ⟨_, ⟨hdata, hmost, rfl⟩, rfl⟩ := hrun
    have hmost' : data.length ≤ size.toNat := by simpa using hmost
    have hlength : data.length = size.toNat := toNat_count (by omega) hsize hcount
    refine ⟨?_, ?_, ?_⟩
    · rw [hlength] at hdata
      exact hdata
    · simp [taking, bytesClocked]
    · simp [taking, bytesClocked, hlength]
  | _ => exact hreads.elim

/-- Successful reads through Linux take bytes from the slave without a gap. -/
theorem Reading.takes (r : Reading source) : Takes source 0 r.takings := by
  refine takes_session id taking ReadAll r.session r.succeeded rfl ?_
  intro h i s s' hreads hall hrun
  obtain ⟨hdata, hmoved, -⟩ := taking_of_read hreads hall hrun
  exact ⟨hdata, hmoved⟩

/-- A successful read through Linux uses up what it returns. -/
theorem Reading.used_eq (r : Reading source) : ∀ t ∈ r.takings, t.used = t.size := by
  have hall : ∀ i ∈ r.history, ReadAll i → (taking i).used = (taking i).size :=
    r.session.forall_mem fun h s i s' hreads hrun hgood => (taking_of_read hreads hgood hrun).2.2
  rw [takings, List.forall_mem_map]
  exact fun i hi => hall i hi (r.succeeded i hi)

/-- Successful reads through Linux consume exactly what they return. -/
theorem Reading.consumesExactly (r : Reading source) : ConsumesExactly source r.takings :=
  r.takes.consumesExactly_iff.mpr fun t ht => r.used_eq t (List.mem_of_mem_dropLast ht)

end Linuxdev

/-! ## libmpsse -/

namespace Libmpsse

/-- How many bytes a call clocks in. -/
def bytesClocked : Event Call Reply → ℕ
  | ⟨.read _ _, r⟩ => r.clocked
  | _ => 0

/-- What a call takes from the slave. -/
def taking : Invocation Op.prog → Taking UInt8
  | ⟨.i2cRead _ _ size, tr, (_, data), _⟩ => ⟨size.toNat, data, (tr.map bytesClocked).sum⟩
  | i => ⟨0, [], (i.trace.map bytesClocked).sum⟩

/-- How many bytes the `Read`s of a call clock in after the first one. -/
def bytesTrailing (tr : List (Event Call Reply)) : ℕ :=
  ((tr.filterMap fun
    | ⟨.read _ _, r⟩ => some r.clocked
    | _ => none).drop 1).sum

/-- A read of at least one byte, and less than `2 ^ 31`, from the handle. -/
def ReadsHandle (bus : Option I2cBus) (dev : Int32) : Op → Prop
  | .i2cRead b d size => b = bus ∧ d = dev ∧ 1 ≤ size.toNat ∧ size.toNat < 2 ^ 31
  | _ => False

/-- A read that returned the number of bytes it was asked for. -/
def ReadAll : Invocation Op.prog → Prop
  | ⟨.i2cRead _ _ size, _, (n, _), _⟩ => n = size.toInt32
  | _ => False

/-- Every `Read` delivered its bytes, the trailing one included. -/
def ReadsSucceed (tr : List (Event Call Reply)) : Prop :=
  ∀ ctx size r, ⟨.read ctx size, r⟩ ∈ tr → r.buffer.isSome

/-- A sequence of successful reads from one handle. -/
structure Reading (source : ℕ → UInt8) where
  /-- The bus. -/
  bus : Option I2cBus
  /-- The handle. -/
  dev : Int32
  /-- The reads. -/
  history : List (Invocation Op.prog)
  /-- The acknowledge bit in the context at the start. -/
  acked : Bool
  /-- The adapter and the slave at the end. -/
  line : Line
  /-- The client read from the handle, and from nothing else. -/
  session : Session (adapter source) (fun _ => ReadsHandle bus dev) ⟨acked, 0⟩ history line
  /-- Every read succeeded. -/
  succeeded : ∀ i ∈ history, ReadAll i

/-- What the reads took. -/
def Reading.takings {source : ℕ → UInt8} (r : Reading source) : List (Taking UInt8) :=
  r.history.map taking

/-- The same reads through Linux return the same bytes. -/
def Reading.SameAsLinux {source : ℕ → UInt8} (r : Reading source) : Prop :=
  ∀ l : Linuxdev.Reading source, l.takings.map Taking.size = r.takings.map Taking.size →
    l.takings.map Taking.data = r.takings.map Taking.data

/-- A frame that does not fail passed every check. -/
theorem success_of_readResult {size : UInt32} {p : ReadReplies} {n : Int32} {data : List UInt8}
    (h : (n, data) = readResult size p) (hn : ¬n < 0) :
    p.address.status = mpsseOk ∧ p.addressAck = ack ∧
      ∃ ptr buf, p.data.buffer = some (ptr, buf) ∧ data = buf.take size.toNat := by
  unfold readResult at h
  split at h
  · obtain ⟨rfl, -⟩ := Prod.mk.inj h
    exact absurd (by decide) hn
  · split at h
    · obtain ⟨rfl, -⟩ := Prod.mk.inj h
      exact absurd (by decide) hn
    · rename_i hstatus hack
      refine ⟨not_not.mp hstatus, not_not.mp hack, ?_⟩
      cases hbuffer : p.data.buffer with
      | none =>
        rw [hbuffer] at h
        obtain ⟨rfl, -⟩ := Prod.mk.inj h
        exact absurd (by decide) hn
      | some buffer =>
        rw [hbuffer] at h
        exact ⟨buffer.1, buffer.2, rfl, (Prod.mk.inj h).2⟩

/-- A read that does not fail was made on an opened bus with a valid handle, and its calls
are those of a successful frame. -/
theorem read_of_nonneg {bus : Option I2cBus} {dev n : Int32} {size : UInt32} {data : List UInt8}
    {tr : List (Event Call Reply)} (hpath : (mcuprI2cRead bus dev size).Path tr (n, data))
    (hn : ¬n < 0) :
    ∃ ctx p ptr buf, p.address.status = mpsseOk ∧ p.addressAck = ack ∧
      p.data.buffer = some (ptr, buf) ∧ data = buf.take size.toNat ∧
        tr = readTrace ctx dev size p := by
  obtain ⟨-, h | h⟩ | ⟨ctx, p, htrace, hresult⟩ := mcuprI2cRead_cases hpath
  · obtain ⟨rfl, -⟩ := Prod.mk.inj h
    exact absurd (by decide) hn
  · obtain ⟨rfl, -⟩ := Prod.mk.inj h
    exact absurd (by decide) hn
  · obtain ⟨hstatus, hack, ptr, buf, hbuffer, hdata⟩ := success_of_readResult hresult hn
    exact ⟨ctx, p, ptr, buf, hstatus, hack, hbuffer, hdata, htrace⟩

variable {source : ℕ → UInt8} {s s' : Line} {ctx : ℕ} {dev : Int32} {size : UInt32}
  {p : ReadReplies} {ptr : Libc.Ptr} {buf : List UInt8}

/-- What a successful frame does to the slave: it delivers the bytes asked for, and then
the trailing `Read` clocks in some more. -/
theorem run_readTrace_of_success (hsize : size.toNat < 2 ^ 31)
    (hstatus : p.address.status = mpsseOk) (hack : p.addressAck = ack)
    (hbuffer : p.data.buffer = some (ptr, buf))
    (hrun : (adapter source).Run s (readTrace ctx dev size p) s') :
    buf = slice source s.position size.toNat ∧ p.data.clocked = size.toNat ∧
      s'.position = s.position + size.toNat + p.trailing.clocked ∧
      (p.trailing.buffer.isSome → p.trailing.clocked = 1) := by
  have hcount : size.toInt32.toInt.toNat = size.toNat := by
    rw [toInt_toInt32 hsize]
    rfl
  simp only [readTrace, readBody, hstatus, hack, hbuffer, freeBuffer, ne_eq, not_true, if_false,
    List.cons_append, List.nil_append, Env.run_cons] at hrun
  obtain ⟨_, rfl, _, ⟨-, -, -, rfl⟩, _, ⟨rfl, -⟩, _, ⟨rfl, -, hdata⟩, _, rfl, _, rfl, _,
    ⟨rfl, -, htrailing⟩, _, rfl, _, rfl, rfl⟩ := hrun
  obtain ⟨hclocked, hslice⟩ := hdata ptr buf hbuffer
  rw [hcount] at hclocked
  rw [hclocked] at hslice ⊢
  refine ⟨hslice, rfl, rfl, fun hsome => ?_⟩
  obtain ⟨⟨ptr', buf'⟩, hbuffer'⟩ := Option.isSome_iff_exists.mp hsome
  exact (htrailing ptr' buf' hbuffer').1

/-- The trailing `Read` is one of the calls of a successful frame. -/
theorem trailing_mem_readTrace (hstatus : p.address.status = mpsseOk) (hack : p.addressAck = ack) :
    (⟨.read ctx 1, p.trailing⟩ : Event Call Reply) ∈ readTrace ctx dev size p := by
  simp [readTrace, readBody, hstatus, hack]

/-- The bytes clocked in by a successful frame. -/
theorem bytes_of_success (hstatus : p.address.status = mpsseOk) (hack : p.addressAck = ack) :
    ((readTrace ctx dev size p).map bytesClocked).sum = p.data.clocked + p.trailing.clocked ∧
      bytesTrailing (readTrace ctx dev size p) = p.trailing.clocked := by
  cases hbuffer : p.data.buffer <;>
    simp [readTrace, readBody, hstatus, hack, hbuffer, freeBuffer, bytesClocked, bytesTrailing]

/-- One successful read returns the next bytes of the slave; what else it clocks in is
trailing. -/
theorem taking_of_read {bus : Option I2cBus} {i : Invocation Op.prog}
    (hreads : ReadsHandle bus dev i.op) (hall : ReadAll i)
    (hrun : (adapter source).Run s i.trace s') :
    (taking i).data = slice source s.position (taking i).size ∧
      s'.position = s.position + (taking i).used ∧
      (taking i).used = (taking i).size + bytesTrailing i.trace ∧
      (ReadsSucceed i.trace → bytesTrailing i.trace = 1) := by
  obtain ⟨op, tr, r, hpath⟩ := i
  cases op with
  | i2cRead b d size =>
    obtain ⟨-, -, -, hsize⟩ := hreads
    obtain ⟨n, data⟩ := r
    obtain rfl : n = size.toInt32 := hall
    obtain ⟨ctx, p, ptr, buf, hstatus, hack, hbuffer, rfl, rfl⟩ :=
      read_of_nonneg hpath (toInt32_not_neg hsize)
    obtain ⟨rfl, hclocked, hposition, hone⟩ :=
      run_readTrace_of_success hsize hstatus hack hbuffer hrun
    obtain ⟨hsum, htrailing⟩ := @bytes_of_success ctx d size p hstatus hack
    rw [hclocked] at hsum
    have hused : (taking ⟨.i2cRead b d size, readTrace ctx d size p, _, hpath⟩).used =
        size.toNat + p.trailing.clocked := hsum
    refine ⟨take_slice source le_rfl, ?_, ?_, fun hsucceed => ?_⟩
    · rw [hused, hposition, Nat.add_assoc]
    · rw [hused, htrailing]
      rfl
    · rw [htrailing]
      exact hone (hsucceed ctx 1 p.trailing (trailing_mem_readTrace hstatus hack))
  | _ => exact hreads.elim

/-- Successful reads through libmpsse take bytes from the slave, in order. -/
theorem Reading.takes (r : Reading source) : Takes source 0 r.takings := by
  refine takes_session Line.position taking ReadAll r.session r.succeeded rfl ?_
  intro h i s s' hreads hall hrun
  obtain ⟨hdata, hmoved, -, -⟩ := taking_of_read hreads hall hrun
  exact ⟨hdata, hmoved⟩

/-- A successful read through libmpsse uses up what it returns and what trails behind it. -/
theorem Reading.used_eq (r : Reading source) :
    ∀ i ∈ r.history, (taking i).used = (taking i).size + bytesTrailing i.trace := by
  have hall : ∀ i ∈ r.history, ReadAll i →
      (taking i).used = (taking i).size + bytesTrailing i.trace :=
    r.session.forall_mem fun h s i s' hreads hrun hgood => (taking_of_read hreads hgood hrun).2.2.1
  exact fun i hi => hall i hi (r.succeeded i hi)

/-- No read but the last clocks in a byte behind those it returns. -/
def Reading.OnlyLastTrails (r : Reading source) : Prop :=
  ∀ i ∈ r.history.dropLast, bytesTrailing i.trace = 0

/-- If every `Read` of the adapter succeeds, this means that there is at most one read. -/
theorem Reading.onlyLastTrails_iff_length_le (r : Reading source)
    (hsucceed : ∀ i ∈ r.history, ReadsSucceed i.trace) :
    r.OnlyLastTrails ↔ r.history.length ≤ 1 := by
  have hall : ∀ i ∈ r.history, ReadAll i → ReadsSucceed i.trace → bytesTrailing i.trace = 1 :=
    r.session.forall_mem fun h s i s' hreads hrun hgood => (taking_of_read hreads hgood hrun).2.2.2
  have hlength : r.history.dropLast.length = r.history.length - 1 := List.length_dropLast
  constructor
  · intro honly
    by_contra hmany
    obtain ⟨i, hi⟩ := List.exists_mem_of_length_pos (l := r.history.dropLast) (by omega)
    have hmem := List.mem_of_mem_dropLast hi
    have hone := hall i hmem (r.succeeded i hmem) (hsucceed i hmem)
    rw [honly i hi] at hone
    cases hone
  · intro hfew i hi
    have hpos := List.length_pos_of_mem hi
    omega

/-- Successful reads through libmpsse consume exactly what they return if and only if no
read but the last has a trailing byte. -/
theorem Reading.consumesExactly_iff (r : Reading source) :
    ConsumesExactly source r.takings ↔ r.OnlyLastTrails := by
  rw [r.takes.consumesExactly_iff, takings, ← List.map_dropLast, List.forall_mem_map]
  refine forall₂_congr fun i hi => ?_
  have hused := r.used_eq i (List.mem_of_mem_dropLast hi)
  omega

/-- Reads that consume exactly what they return return what Linux returns. -/
theorem Reading.sameAsLinux (r : Reading source) (hexact : ConsumesExactly source r.takings) :
    r.SameAsLinux := fun l hsizes =>
  l.takes.same_data r.takes l.consumesExactly hexact hsizes

end Libmpsse

/-- **Reads consume what they return.** Sequences of successful reads through Linux consume
exactly what they return; through libmpsse they do, and return the same bytes, if and
only if no read but the last clocks in a trailing byte. -/
theorem i2c_reads_consume_iff (source : ℕ → UInt8) :
    (∀ r : Linuxdev.Reading source, ConsumesExactly source r.takings) ∧
      ∀ r : Libmpsse.Reading source,
        ConsumesExactly source r.takings ∧ r.SameAsLinux ↔ r.OnlyLastTrails := by
  refine ⟨Linuxdev.Reading.consumesExactly, fun r => ?_⟩
  rw [← r.consumesExactly_iff]
  exact ⟨And.left, fun hexact => ⟨hexact, r.sameAsLinux hexact⟩⟩

/-- The replies to a read of one byte from a slave that counts up: it delivers `n`, and
`n + 1` to the trailing `Read`. -/
def countingReplies (n : UInt8) : Libmpsse.ReadReplies :=
  ⟨0, ⟨Libmpsse.mpsseOk, [true]⟩, Libmpsse.ack, ⟨some (⟨1, 0⟩, [n]), 1⟩,
    ⟨some (⟨1, 0⟩, [n + 1]), 1⟩, 0⟩

/-- The slave moves on by two bytes. -/
theorem counting_run (n : ℕ) : (Libmpsse.adapter fun n => UInt8.ofNat n).Run ⟨true, n⟩
    (Libmpsse.readTrace 7 0x72 1 (countingReplies (UInt8.ofNat n))) ⟨true, n + 2⟩ := by
  refine ⟨_, rfl, _, ⟨Or.inl rfl, Nat.le_refl 1, fun _ => rfl, rfl⟩, _, ⟨rfl, rfl⟩, _,
    ⟨rfl, (by decide : 1 ≤ (1 : UInt32).toInt32.toInt.toNat), ?_⟩, _, rfl, _, rfl, _,
    ⟨rfl, (by decide : 1 ≤ (1 : Int32).toInt.toNat), ?_⟩, _, rfl, _, rfl, rfl⟩
  · rintro _ _ ⟨⟩
    exact ⟨rfl, rfl⟩
  · rintro _ _ ⟨⟩
    exact ⟨rfl, by simp [slice, countingReplies]⟩

/-- Two reads of one byte each through Linux from a slave that counts up return 0 and 1. -/
theorem exists_linux_reading : ∃ l : Linuxdev.Reading fun n => UInt8.ofNat n,
    l.takings = [⟨1, [0], 1⟩, ⟨1, [1], 1⟩] := by
  let bus : Option Linuxdev.I2cBus := some ⟨⟨0, 0⟩, some ⟨1⟩⟩
  have hpath (n : UInt8) : (Linuxdev.mcuprI2cRead bus 3 1).Path [⟨.read 3 1, some [n]⟩] (1, [n]) :=
    Linuxdev.mcuprI2cRead_path.mpr (Or.inr ⟨some [n], by decide, rfl, rfl⟩)
  let call (n : UInt8) : Invocation Linuxdev.Op.prog := ⟨.i2cRead bus 3 1, _, _, hpath n⟩
  have hreads (n : UInt8) : Linuxdev.ReadsHandle bus 3 (call n).op :=
    ⟨rfl, rfl, by decide, by decide⟩
  have hrun (n : ℕ) : (Linuxdev.slave fun n => UInt8.ofNat n).Run n (call (UInt8.ofNat n)).trace
      (n + 1) :=
    ⟨_, ⟨rfl, Nat.le_refl 1, rfl⟩, rfl⟩
  exact ⟨⟨bus, 3, [call 0, call 1], 2, .step (call 1) (.step (call 0) .start (hreads 0) (hrun 0))
    (hreads 1) (hrun 1), List.forall_mem_cons.mpr ⟨rfl, List.forall_mem_singleton.mpr rfl⟩⟩, rfl⟩

/-- Through libmpsse they return 0 and 2: the 1 between them is lost. -/
theorem exists_read_loses_byte :
    ∃ (l : Linuxdev.Reading fun n => UInt8.ofNat n) (r : Libmpsse.Reading fun n => UInt8.ofNat n),
      l.takings.map Taking.size = r.takings.map Taking.size ∧
        l.takings.map Taking.data = [[0], [1]] ∧ r.takings.map Taking.data = [[0], [2]] ∧
          ¬(ConsumesExactly (fun n => UInt8.ofNat n) r.takings ∧ r.SameAsLinux) := by
  obtain ⟨l, htakings⟩ := exists_linux_reading
  have hdev : Libmpsse.validHandle 0x72 = true := by decide
  let bus : Option Libmpsse.I2cBus := some ⟨⟨0, 0⟩, some ⟨some ⟨7, true⟩⟩⟩
  have hpath (n : UInt8) : (Libmpsse.mcuprI2cRead bus 0x72 1).Path
      (Libmpsse.readTrace 7 0x72 1 (countingReplies n)) (1, [n]) :=
    (Libmpsse.mcuprI2cRead_path _ rfl hdev).mpr ⟨countingReplies n, rfl, rfl⟩
  let call (n : UInt8) : Invocation Libmpsse.Op.prog := ⟨.i2cRead bus 0x72 1, _, _, hpath n⟩
  have hreads (n : UInt8) : Libmpsse.ReadsHandle bus 0x72 (call n).op :=
    ⟨rfl, rfl, by decide, by decide⟩
  let r : Libmpsse.Reading fun n => UInt8.ofNat n :=
    ⟨bus, 0x72, [call 0, call 2], true, _,
      .step (call 2) (.step (call 0) .start (hreads 0) (counting_run 0)) (hreads 2)
        (counting_run 2),
      List.forall_mem_cons.mpr ⟨rfl, List.forall_mem_singleton.mpr rfl⟩⟩
  have hsizes : l.takings.map Taking.size = r.takings.map Taking.size := by
    rw [htakings]
    rfl
  have hlinux : l.takings.map Taking.data = [[0], [1]] := by
    rw [htakings]
    rfl
  refine ⟨l, r, hsizes, hlinux, rfl, fun hboth => ?_⟩
  have hdata : ([[0], [1]] : List (List UInt8)) = [[0], [2]] := hlinux.symm.trans (hboth.2 l hsizes)
  exact absurd hdata (by decide)

end McuPeripheral
