import McuPeripheral.Backends.Reading
import McuPeripheral.Backends.Slaves

/-!
# A slave on the wire of an adapter

The slave follows the wire byte by byte: after a start the first byte names a slave and a
direction, and if the slave acknowledges it, the bytes behind it are taken by the slave or
given by it. A byte that the slave does not acknowledge ends its part in the transfer.
-/

namespace McuPeripheral.Libmpsse

open Calls

variable {τ : Type}

/-- Where a transfer stands, as the slave sees it. -/
inductive WirePhase
  | idle
  | started
  | taking
  | giving
  | deaf
  deriving DecidableEq, Repr

/-- The adapter and the slave on its wire. -/
structure Wired (τ : Type) where
  /-- The slave. -/
  slave : τ
  /-- Where the transfer stands. -/
  phase : WirePhase
  /-- The recorded acknowledge bit: the last byte transmitted was taken. -/
  acked : Bool

/-- A byte on the wire, and whether it was acknowledged. -/
def wiredByte (S : I2c.Slave τ) (address : ℕ) (w : Wired τ) (byte : UInt8 × Bool) : Wired τ :=
  match w.phase with
  | .started =>
    if byte.1 = UInt8.ofNat (2 * address) ∧ byte.2 = true then
      ⟨S.addressed w.slave, .taking, byte.2⟩
    else if byte.1 = UInt8.ofNat (2 * address + 1) ∧ byte.2 = true then
      ⟨w.slave, .giving, byte.2⟩
    else ⟨w.slave, .deaf, byte.2⟩
  | .taking =>
    if byte.2 = true then ⟨S.take w.slave byte.1, .taking, byte.2⟩ else ⟨w.slave, .deaf, byte.2⟩
  | phase => ⟨w.slave, phase, byte.2⟩

/-- One step of the adapter `ctx` with the slave on its wire. -/
def wiredStep (S : I2c.Slave τ) (ctx address : ℕ) : Wired τ → Event Call Reply → Wired τ → Prop
  | w, ⟨.start c, _⟩, w' => w' = if c = ctx then { w with phase := .started } else w
  | w, ⟨.stop c, _⟩, w' => w' = if c = ctx then { w with phase := .idle } else w
  | w, ⟨.write c data, r⟩, w' =>
    (c ≠ ctx → w' = w) ∧
    (c = ctx → (r.status = mpsseOk ∨ r.status = mpsseFail) ∧ r.acks.length ≤ data.length ∧
      (r.status = mpsseOk → r.acks.length = data.length) ∧
      w' = (data.zip r.acks).foldl (wiredByte S address) w)
  | w, ⟨.getAck c, a⟩, w' => w' = w ∧ (c = ctx → a = if w.acked then ack else 1)
  | w, ⟨.read c size, r⟩, w' =>
    (c ≠ ctx → w' = w) ∧
    (c = ctx → r.clocked ≤ size.toInt.toNat ∧
      w' = (if w.phase = .giving then { w with slave := S.given r.clocked w.slave } else w) ∧
      ∀ ptr data, r.buffer = some (ptr, data) → r.clocked = size.toInt.toNat ∧
        (w.phase = .giving → data = S.gives r.clocked w.slave))
  | w, _, w' => w' = w

/-- The adapter with the slave on its wire. -/
def wired (S : I2c.Slave τ) (ctx address : ℕ) : Env Call Reply (Wired τ) :=
  ⟨wiredStep S ctx address⟩

/-- A call of the adapter that does not fail, and whose bytes were all acknowledged. -/
def Complete : Event Call Reply → Prop
  | ⟨.write _ data, r⟩ => r.status = mpsseOk ∧ r.acks = List.replicate data.length true
  | ⟨.read _ _, r⟩ => r.buffer.isSome
  | _ => True

/-! ## Bytes on the wire -/

section Bytes

variable {S : I2c.Slave τ} {address : ℕ} {w : Wired τ}

/-- Bytes that pass a deaf slave. -/
theorem foldl_wiredByte_of_deaf (bytes : List (UInt8 × Bool)) (h : w.phase = .deaf) :
    (bytes.foldl (wiredByte S address) w).slave = w.slave := by
  induction bytes generalizing w with
  | nil => rfl
  | cons b bytes ih =>
    have hstep : wiredByte S address w b = ⟨w.slave, .deaf, b.2⟩ := by simp [wiredByte, h]
    rw [List.foldl_cons, hstep, ih rfl]

/-- A slave that is taking takes the bytes up to the first one it does not acknowledge. -/
theorem foldl_wiredByte_of_taking (data : List UInt8) (acks : List Bool) (h : w.phase = .taking) :
    ∃ k ≤ data.length,
      ((data.zip acks).foldl (wiredByte S address) w).slave = S.takes w.slave (data.take k) := by
  induction data generalizing w acks with
  | nil => exact ⟨0, le_rfl, rfl⟩
  | cons b data ih =>
    cases acks with
    | nil => exact ⟨0, Nat.zero_le _, rfl⟩
    | cons a acks =>
      cases a with
      | true =>
        have hstep : wiredByte S address w (b, true) = ⟨S.take w.slave b, .taking, true⟩ := by
          simp [wiredByte, h]
        obtain ⟨k, hk, htakes⟩ := @ih ⟨S.take w.slave b, .taking, true⟩ acks rfl
        refine ⟨k + 1, Nat.succ_le_succ hk, ?_⟩
        rw [List.zip_cons_cons, List.foldl_cons, hstep, htakes]
        rfl
      | false =>
        have hstep : wiredByte S address w (b, false) = ⟨w.slave, .deaf, false⟩ := by
          simp [wiredByte, h]
        refine ⟨0, Nat.zero_le _, ?_⟩
        rw [List.zip_cons_cons, List.foldl_cons, hstep, foldl_wiredByte_of_deaf _ rfl]
        rfl

/-- If it acknowledges all of them it takes them all. -/
theorem foldl_wiredByte_of_all (data : List UInt8) (t : τ) :
    (data.zip (List.replicate data.length true)).foldl (wiredByte S address) ⟨t, .taking, true⟩ =
      ⟨S.takes t data, .taking, true⟩ := by
  induction data generalizing t with
  | nil => rfl
  | cons b data ih =>
    have hstep : wiredByte S address ⟨t, .taking, true⟩ (b, true) =
        ⟨S.take t b, .taking, true⟩ := by
      simp [wiredByte]
    rw [List.length_cons, List.replicate_succ, List.zip_cons_cons, List.foldl_cons, hstep, ih]
    rfl

/-- The first byte of a write addresses the slave if it is acknowledged. -/
theorem wiredByte_write {a : Bool} (hphase : w.phase = .started) :
    wiredByte S address w (UInt8.ofNat (2 * address), a) =
      if a = true then ⟨S.addressed w.slave, .taking, true⟩ else ⟨w.slave, .deaf, false⟩ := by
  cases a <;> simp [wiredByte, hphase]

/-- The first byte of a read asks the slave for bytes if it is acknowledged. -/
theorem wiredByte_read {a : Bool} (hphase : w.phase = .started) :
    wiredByte S address w (UInt8.ofNat (2 * address + 1), a) =
      if a = true then ⟨w.slave, .giving, true⟩ else ⟨w.slave, .deaf, false⟩ := by
  cases a <;> simp [wiredByte, hphase]

end Bytes

/-! ## Frames -/

section Frames

variable {S : I2c.Slave τ} {ctx address : ℕ} {w w' : Wired τ}

/-- What happened to an address byte: it was not transmitted, or refused, or acknowledged; only
then does the acknowledge bit say so, and only then is the slave in the transfer. -/
theorem wired_first {b : UInt8} {r : WriteReply} {started : Int32} {w₁ : Wired τ}
    (hstart : (wired S ctx address).step w ⟨.start ctx, started⟩ w₁)
    (hwrite : (wired S ctx address).step w₁ ⟨.write ctx [b], r⟩ w') :
    w₁.phase = .started ∧ w₁.slave = w.slave ∧
      (r.acks = [] ∧ w' = w₁ ∧ r.status ≠ mpsseOk ∨
        ∃ k, r.acks = [k] ∧ w' = wiredByte S address w₁ (b, k)) := by
  obtain rfl : w₁ = { w with phase := .started } := by simpa [wired, wiredStep] using hstart
  obtain ⟨-, hframe⟩ := hwrite
  obtain ⟨-, hlength, hok, hstep⟩ := hframe rfl
  refine ⟨rfl, rfl, ?_⟩
  cases hacks : r.acks with
  | nil =>
    refine Or.inl ⟨rfl, by simpa [hacks] using hstep, fun hstatus => ?_⟩
    rw [hacks] at hok
    exact absurd (hok hstatus) (by simp)
  | cons k acks =>
    rw [hacks] at hlength
    obtain rfl : acks = [] := List.eq_nil_of_length_eq_zero (by simpa using hlength)
    exact Or.inr ⟨k, rfl, by simpa [hacks] using hstep⟩

variable {dev : Int32} {size : UInt32}

/-- The end of a frame and a look at the acknowledge bit leave the slave as it is. -/
theorem wired_stop {stopped : Int32} (h : (wired S ctx address).step w ⟨.stop ctx, stopped⟩ w') :
    w'.slave = w.slave := by
  obtain rfl : w' = { w with phase := .idle } := by simpa [wired, wiredStep] using h
  rfl

/-- After its address a slave that was addressed for a write has taken nothing yet. -/
theorem reached_of_address {payload : List UInt8} {k : Bool} (hphase : w.phase = .started) :
    Reached S w.slave payload (wiredByte S address w (UInt8.ofNat (2 * address), k)).slave := by
  rw [wiredByte_write hphase]
  cases k with
  | true => exact Or.inr ⟨0, Nat.zero_le _, rfl⟩
  | false => exact Or.inl rfl

/-- A write frame reaches the slave as a front of its payload, and as all of it if every byte
was acknowledged. -/
theorem wired_writeTrace {data : List UInt8} {p : WriteReplies}
    (hfirst : toByte (dev ||| 0x00) = UInt8.ofNat (2 * address))
    (hrun : (wired S ctx address).Run w (writeTrace ctx dev data size p) w') :
    Reached S w.slave (data.take size.toNat) w'.slave ∧
      ((∀ e ∈ writeTrace ctx dev data size p, Complete e) →
        w'.slave = S.receives w.slave (data.take size.toNat)) := by
  by_cases hstatus : p.address.status = mpsseOk
  · by_cases hpayload : p.addressAck = ack ∧ 0 < size
    · obtain ⟨hack, hsize⟩ := hpayload
      rw [writeTrace_of_payload hstatus hack hsize] at hrun ⊢
      obtain ⟨w₁, hstart, w₂, hwrite, _, ⟨rfl, hbit⟩, w₃, hsecond, _, ⟨rfl, -⟩, _, hstop, rfl⟩ :=
        hrun
      obtain ⟨hphase, hslave, ⟨-, -, hne⟩ | ⟨k, -, rfl⟩⟩ := wired_first hstart hwrite
      · exact absurd hstatus hne
      -- the payload is only sent if the address was acknowledged
      rw [hfirst, wiredByte_write hphase] at hbit hsecond
      obtain rfl : k = true := by
        cases k with
        | true => rfl
        | false =>
          rw [hack] at hbit
          have hone : ack = 1 := hbit rfl
          exact absurd hone (by decide)
      obtain ⟨-, hframe⟩ := hsecond
      obtain ⟨-, -, -, rfl⟩ := hframe rfl
      rw [wired_stop hstop, ← hslave]
      refine ⟨?_, fun hall => ?_⟩
      · let w₃ : Wired τ := ⟨S.addressed w₁.slave, .taking, true⟩
        have htaking : w₃.phase = .taking := rfl
        obtain ⟨k, hk, htakes⟩ :=
          foldl_wiredByte_of_taking (data.take size.toNat) p.payload.acks htaking
        exact Or.inr ⟨k, hk, htakes⟩
      · have hcomplete : Complete ⟨.write ctx (data.take size.toNat), p.payload⟩ :=
          hall _ (by simp)
        rw [hcomplete.2]
        exact congrArg Wired.slave (foldl_wiredByte_of_all _ _)
    · have hnone : p.addressAck = ack → ¬0 < size := fun h h' => hpayload ⟨h, h'⟩
      rw [writeTrace_of_no_payload hstatus hnone] at hrun ⊢
      obtain ⟨w₁, hstart, w₂, hwrite, _, ⟨rfl, hbit⟩, _, hstop, rfl⟩ := hrun
      obtain ⟨hphase, hslave, ⟨-, -, hne⟩ | ⟨k, hacks, rfl⟩⟩ := wired_first hstart hwrite
      · exact absurd hstatus hne
      rw [hfirst] at hbit hstop
      rw [wired_stop hstop, ← hslave]
      refine ⟨reached_of_address hphase, fun hall => ?_⟩
      have hcomplete : Complete ⟨.write ctx [toByte (dev ||| 0x00)], p.address⟩ :=
        hall _ (by simp)
      obtain rfl : k = true := by simpa [hacks] using hcomplete.2
      rw [wiredByte_write hphase] at hbit ⊢
      have hzero : size.toNat = 0 := by
        have hle := hnone (hbit rfl)
        rw [UInt32.lt_iff_toNat_lt] at hle
        simpa using hle
      rw [hzero]
      rfl
  · rw [writeTrace_of_failed hstatus] at hrun ⊢
    obtain ⟨w₁, hstart, w₂, hwrite, _, hstop, rfl⟩ := hrun
    have hfailed : ¬∀ e ∈ ([⟨.start ctx, p.started⟩,
        ⟨.write ctx [toByte (dev ||| 0x00)], p.address⟩, ⟨.stop ctx, p.stopped⟩] :
          List (Event Call Reply)), Complete e :=
      fun hall => hstatus (hall ⟨.write ctx [toByte (dev ||| 0x00)], p.address⟩ (by simp)).1
    refine ⟨?_, fun hall => absurd hall hfailed⟩
    obtain ⟨hphase, hslave, ⟨-, rfl, -⟩ | ⟨k, -, rfl⟩⟩ := wired_first hstart hwrite
    · rw [wired_stop hstop, hslave]
      exact Or.inl rfl
    · rw [wired_stop hstop, ← hslave, hfirst]
      exact reached_of_address hphase

/-- What a `Read` clocks in the slave has given, if it takes part in the transfer. -/
theorem wired_read {count : Int32} {r : ReadReply}
    (h : (wired S ctx address).step w ⟨.read ctx count, r⟩ w') :
    ∃ m, w'.slave = S.given m w.slave := by
  obtain ⟨-, hframe⟩ := h
  obtain ⟨-, rfl, -⟩ := hframe rfl
  split
  · exact ⟨r.clocked, rfl⟩
  · exact ⟨0, rfl⟩

/-- So has it at the end of a read frame, where one more byte may be clocked in. -/
theorem wired_trailing {buffer : Option (Libc.Ptr × List UInt8)} {r : ReadReply} {stopped : Int32}
    (hrun : (wired S ctx address).Run w (freeBuffer buffer ++ [⟨.sendNacks ctx, ()⟩,
      ⟨.read ctx 1, r⟩, ⟨.sendAcks ctx, ()⟩, ⟨.stop ctx, stopped⟩]) w') :
    ∃ m, w'.slave = S.given m w.slave := by
  obtain ⟨w₁, hfree, hrest⟩ := Env.run_append.mp hrun
  obtain rfl : w₁ = w := by
    cases buffer with
    | none => exact hfree
    | some buffer =>
      obtain ⟨_, rfl, rfl⟩ := hfree
      rfl
  obtain ⟨_, rfl, w₂, hread, _, rfl, _, hstop, rfl⟩ := hrest
  rw [wired_stop hstop]
  exact wired_read hread

/-- The code of a failure is not the size of a transfer. -/
theorem code_ne_size {r : McuprResult} (hsize : size.toNat < 2 ^ 31) (hr : r ≠ .ok) :
    r.code ≠ size.toInt32 := fun h => toInt32_not_neg hsize (h ▸ r.code_neg_iff.mpr hr)

/-- A read frame: the slave gives the bytes that are clocked in; a read that reports success
returns those it was asked for, and it does if every byte was acknowledged and every
`Read` delivered. -/
theorem wired_readTrace {p : ReadReplies} {n : Int32} {data : List UInt8}
    (hsize : size.toNat < 2 ^ 31)
    (hfirst : toByte (dev ||| 0x01) = UInt8.ofNat (2 * address + 1))
    (hresult : (n, data) = readResult size p)
    (hrun : (wired S ctx address).Run w (readTrace ctx dev size p) w') :
    (∃ k, w'.slave = S.given k w.slave) ∧
      (n = size.toInt32 → data = S.gives size.toNat w.slave) ∧
      ((∀ e ∈ readTrace ctx dev size p, Complete e) → n = size.toInt32) := by
  by_cases hstatus : p.address.status = mpsseOk
  · by_cases hack : p.addressAck = ack
    · rw [readTrace_of_acknowledged hstatus hack] at hrun ⊢
      obtain ⟨w₁, hstart, w₂, hwrite, _, ⟨rfl, hbit⟩, w₃, hread, hrest⟩ := hrun
      obtain ⟨hphase, hslave, ⟨-, -, hne⟩ | ⟨k, -, rfl⟩⟩ := wired_first hstart hwrite
      · exact absurd hstatus hne
      rw [hfirst, wiredByte_read hphase] at hbit hread
      obtain rfl : k = true := by
        cases k with
        | true => rfl
        | false =>
          rw [hack] at hbit
          have hone : ack = 1 := hbit rfl
          exact absurd hone (by decide)
      obtain ⟨m, hgiven⟩ := wired_trailing hrest
      obtain ⟨m', hgiven'⟩ := wired_read hread
      obtain ⟨-, hframe⟩ := hread
      obtain ⟨-, -, hbuffer⟩ := hframe rfl
      refine ⟨⟨m' + m, ?_⟩, fun hn => ?_, fun hall => ?_⟩
      · rw [hgiven, hgiven', S.given_add, ← hslave]
        rfl
      · have hpositive : ¬n < 0 := hn ▸ toInt32_not_neg hsize
        obtain ⟨-, -, ptr, bytes, hsome, rfl⟩ := success_of_readResult hresult hpositive
        obtain ⟨hclocked, hbytes⟩ := hbuffer ptr bytes hsome
        have hcount : size.toInt32.toInt.toNat = size.toNat := by
          rw [toInt_toInt32 hsize]
          rfl
        rw [hbytes rfl, hclocked, hcount, ← hslave]
        exact List.take_of_length_le (S.length_gives _ _).le
      · have hcomplete : Complete ⟨.read ctx size.toInt32, p.data⟩ := hall _ (by simp)
        obtain ⟨buffer, hsome⟩ := Option.isSome_iff_exists.mp hcomplete
        simp only [readResult, hstatus, hack, hsome, ne_eq, not_true, if_false] at hresult
        exact (Prod.mk.inj hresult).1
    · rw [readTrace_of_unacknowledged hstatus hack] at hrun ⊢
      obtain ⟨w₁, hstart, w₂, hwrite, _, ⟨rfl, hbit⟩, _, hstop, rfl⟩ := hrun
      obtain ⟨hphase, hslave, ⟨-, -, hne⟩ | ⟨k, hacks, rfl⟩⟩ := wired_first hstart hwrite
      · exact absurd hstatus hne
      rw [hfirst, wiredByte_read hphase] at hbit hstop
      simp only [readResult, hstatus, hack, ne_eq, not_true, if_false, not_false_eq_true,
        if_true] at hresult
      obtain ⟨rfl, -⟩ := Prod.mk.inj hresult
      refine ⟨⟨0, ?_⟩, fun h => absurd h (code_ne_size hsize (by simp)), fun hall => ?_⟩
      · rw [wired_stop hstop, ← hslave]
        cases k <;> rfl
      · have hcomplete : Complete ⟨.write ctx [toByte (dev ||| 0x01)], p.address⟩ :=
          hall _ (by simp)
        obtain rfl : k = true := by simpa [hacks] using hcomplete.2
        exact absurd (hbit rfl) hack
  · rw [readTrace_of_failed hstatus] at hrun ⊢
    obtain ⟨w₁, hstart, w₂, hwrite, _, hstop, rfl⟩ := hrun
    simp only [readResult, hstatus, ne_eq, not_false_eq_true, if_true] at hresult
    obtain ⟨rfl, -⟩ := Prod.mk.inj hresult
    refine ⟨⟨0, ?_⟩, fun h => absurd h (code_ne_size hsize (by simp)), fun hall => ?_⟩
    · obtain ⟨hphase, hslave, ⟨-, rfl, -⟩ | ⟨k, -, rfl⟩⟩ := wired_first hstart hwrite
      · rw [wired_stop hstop, hslave]
        rfl
      · rw [wired_stop hstop, ← hslave, hfirst, wiredByte_read hphase]
        cases k <;> rfl
    · have hcomplete : Complete ⟨.write ctx [toByte (dev ||| 0x01)], p.address⟩ :=
        hall _ (by simp)
      exact absurd hcomplete.1 hstatus

end Frames

/-- The handle of the slave's address, on a bus with an opened adapter. -/
@[reducible] def slaveLink (S : I2c.Slave τ) (self : Libc.Ptr) (ctx : MpsseContext) (address : ℕ)
    (hopen : ctx.isOpen = true) (haddress : address < 128) : I2cLink S where
  backend := i2cBackend
  State := Wired τ
  env := wired S ctx.id address
  bus := some ⟨self, some ⟨some ctx⟩⟩
  dev := handleOf address
  slave := Wired.slave
  Ready _ := True
  Smooth := Complete
  write := by
    intro data size tr n w w' _ hpath hrun
    obtain ⟨p, rfl, -⟩ :=
      (mcuprI2cWrite_path self hopen (validHandle_handleOf address haddress)).mp hpath
    obtain ⟨hreached, hall⟩ := wired_writeTrace (toByte_write address haddress) hrun
    exact ⟨trivial, hreached, hall⟩
  read := by
    intro size tr n data w w' hsize _ hpath hrun
    obtain ⟨p, rfl, hresult⟩ :=
      (mcuprI2cRead_path self hopen (validHandle_handleOf address haddress)).mp hpath
    exact ⟨trivial, wired_readTrace hsize (toByte_read address haddress) hresult hrun⟩

end McuPeripheral.Libmpsse
