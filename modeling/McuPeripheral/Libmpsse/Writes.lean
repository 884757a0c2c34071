import McuPeripheral.Libmpsse.Handles

/-!
# What the result of a write tells

`mcupr_i2c_write` looks at the status of the address byte, but not at the status of the
payload, and after the payload it looks at one acknowledge bit only, that of the last
byte that was transmitted. This module says exactly when its result is the truth.
-/

namespace McuPeripheral.Libmpsse

open Calls Libc

/-- The address byte was written and taken. -/
def AddressTaken (p : WriteReplies) : Prop := p.address.status = mpsseOk ∧ p.address.acks = [true]

/-- The address byte and every byte of the payload were transmitted and taken. -/
def Delivered (size : UInt32) (p : WriteReplies) : Prop :=
  AddressTaken p ∧ (0 < size → p.payload.acks = List.replicate size.toNat true)

/-- What the result of a write should tell: the size exactly if everything was delivered,
and a negative number otherwise. -/
structure WriteTruthful (size : UInt32) (p : WriteReplies) : Prop where
  /-- The size is returned exactly for a delivered payload. -/
  size_iff : writeResult size p = size.toInt32 ↔ Delivered size p
  /-- Anything else is an error. -/
  negative : ¬Delivered size p → writeResult size p < 0

/-- The payload did not get through, and yet the last byte of it that was transmitted
was taken, or none was transmitted. -/
def LossHidden (size : UInt32) (p : WriteReplies) : Prop :=
  AddressTaken p ∧ 0 < size ∧ p.payload.acks ≠ List.replicate size.toNat true ∧
    p.payload.acks.getLast?.getD true = true

/-- A write returns its size exactly if no check it makes fails. -/
theorem writeResult_eq_size_iff {size : UInt32} {p : WriteReplies} (hsize : size.toNat < 2 ^ 31) :
    writeResult size p = size.toInt32 ↔
      p.address.status = mpsseOk ∧ p.addressAck = ack ∧ (0 < size → p.payloadAck = ack) := by
  have hne : ∀ r : McuprResult, r ≠ .ok → r.code ≠ size.toInt32 := by
    intro r hr h
    exact toInt32_not_neg hsize (h ▸ r.code_neg_iff.mpr hr)
  have hbackend := hne .backendFailure (by simp)
  have hcommunication := hne .communicationError (by simp)
  unfold writeResult
  by_cases hstatus : p.address.status = mpsseOk
  · by_cases haddress : p.addressAck = ack
    · by_cases hpayload : 0 < size ∧ p.payloadAck ≠ ack
      · simp [hstatus, haddress, hpayload, hcommunication]
      · have hpayload' : 0 < size → p.payloadAck = ack := by simpa using hpayload
        simpa [hstatus, haddress, hpayload] using hpayload'
    · simp [hstatus, haddress, hcommunication]
  · simp [hstatus, hbackend]

/-- Whatever else a write returns is an error. -/
theorem writeResult_neg {size : UInt32} {p : WriteReplies} (h : writeResult size p ≠ size.toInt32) :
    writeResult size p < 0 := by
  unfold writeResult at h ⊢
  split
  · decide
  · split
    · decide
    · split
      · decide
      · simp_all

section Runs

variable {source : ℕ → UInt8} {s s' : Line} {ctx : ℕ} {dev : Int32} {data : List UInt8}
  {size : UInt32} {p : WriteReplies}

/-- The acknowledge bits looked up: after an address byte written without error its own,
and after a payload the one of the last byte transmitted, or still that of the address. -/
theorem acks_of_run (hrun : (adapter source).Run s (writeTrace ctx dev data size p) s')
    (hstatus : p.address.status = mpsseOk) :
    ∃ taken, p.address.acks = [taken] ∧ p.addressAck = (if taken then ack else 1) ∧
      (p.addressAck = ack → 0 < size →
        p.payloadAck = if p.payload.acks.getLast?.getD taken then ack else 1) := by
  simp only [writeTrace, writeBody, hstatus, ne_eq, not_true, if_false, List.cons_append,
    Env.run_cons] at hrun
  obtain ⟨_, rfl, s₂, ⟨-, -, hlength, rfl⟩, _, ⟨rfl, hack⟩, hrest⟩ := hrun
  obtain ⟨taken, htaken⟩ := List.length_eq_one_iff.mp (hlength hstatus)
  refine ⟨taken, htaken, by simpa [htaken] using hack, fun hacked hsize => ?_⟩
  simp only [hacked, not_true, if_false, if_pos hsize, List.cons_append, Env.run_cons] at hrest
  obtain ⟨_, ⟨-, -, -, rfl⟩, _, ⟨rfl, hack'⟩, -⟩ := hrest
  simpa [htaken] using hack'

/-- The function goes on to the payload exactly if the address byte was taken. -/
theorem addressTaken_iff (hrun : (adapter source).Run s (writeTrace ctx dev data size p) s') :
    AddressTaken p ↔ p.address.status = mpsseOk ∧ p.addressAck = ack := by
  refine and_congr_right fun hstatus => ?_
  obtain ⟨taken, htaken, hack, -⟩ := acks_of_run hrun hstatus
  rw [htaken, hack]
  cases taken <;> decide

/-- After the payload the last acknowledge bit decides. -/
theorem payloadAck_iff (hrun : (adapter source).Run s (writeTrace ctx dev data size p) s')
    (haddress : AddressTaken p) (hsize : 0 < size) :
    p.payloadAck = ack ↔ p.payload.acks.getLast?.getD true = true := by
  obtain ⟨taken, htaken, -, hpayload⟩ := acks_of_run hrun haddress.1
  obtain rfl : taken = true := by simpa [haddress.2] using htaken.symm
  rw [hpayload ((addressTaken_iff hrun).mp haddress).2 hsize]
  cases p.payload.acks.getLast?.getD true <;> decide

/-- The size is returned exactly if the address byte was taken, and so was the last byte
of the payload that was transmitted. -/
theorem size_returned_iff (hrun : (adapter source).Run s (writeTrace ctx dev data size p) s')
    (hsize : size.toNat < 2 ^ 31) :
    writeResult size p = size.toInt32 ↔
      AddressTaken p ∧ (0 < size → p.payload.acks.getLast?.getD true = true) := by
  rw [writeResult_eq_size_iff hsize, ← and_assoc, ← addressTaken_iff hrun]
  refine and_congr_right fun haddress => ?_
  exact forall_congr' fun hpos => payloadAck_iff hrun haddress hpos

/-- One write tells the truth exactly if it does not hide a loss. -/
theorem writeTruthful_iff (hrun : (adapter source).Run s (writeTrace ctx dev data size p) s')
    (hsize : size.toNat < 2 ^ 31) : WriteTruthful size p ↔ ¬LossHidden size p := by
  have hreturned := size_returned_iff hrun hsize
  constructor
  · rintro htruth ⟨haddress, hpos, hloss, hlast⟩
    have hsize' := hreturned.mpr ⟨haddress, fun _ => hlast⟩
    exact hloss ((htruth.size_iff.mp hsize').2 hpos)
  · intro hhidden
    have hiff : writeResult size p = size.toInt32 ↔ Delivered size p := by
      rw [hreturned]
      refine and_congr_right fun haddress => forall_congr' fun hpos => ?_
      constructor
      · intro hlast
        by_contra hloss
        exact hhidden ⟨haddress, hpos, hloss, hlast⟩
      · intro hall
        rw [hall, List.getLast?_replicate]
        split <;> rfl
    exact ⟨hiff, fun hnot => writeResult_neg fun h => hnot (hiff.mp h)⟩

end Runs

/-- **Truthfulness of a write, exactly.** On an opened bus and with a valid handle every
execution of a write answers some pattern of replies, and over any behaviour of the
adapter and the slave its result is the truth exactly if it does not hide a loss. -/
theorem i2c_write_truthful_iff {self : Ptr} {ctx : MpsseContext} {dev : Int32} {data : List UInt8}
    {size : UInt32} (hopen : ctx.isOpen = true) (hdev : validHandle dev = true)
    (hsize : size.toNat < 2 ^ 31) :
    (∀ tr r, (mcuprI2cWrite (some ⟨self, some ⟨some ctx⟩⟩) dev data size).Path tr r →
      ∃ p, tr = writeTrace ctx.id dev data size p ∧ r = writeResult size p) ∧
    ∀ source s p s', (adapter source).Run s (writeTrace ctx.id dev data size p) s' →
      (WriteTruthful size p ↔ ¬LossHidden size p) :=
  ⟨fun _ _ hpath => (mcuprI2cWrite_path self hopen hdev).mp hpath,
    fun _ _ _ _ hrun => writeTruthful_iff hrun hsize⟩

/-- A run of a write of two bytes to slave 0x39, the first refused and the second taken. -/
theorem refused_then_taken_run :
    (adapter fun _ => 0).Run ⟨false, 0⟩
      (writeTrace 7 (handleOf 0x39) [0x80, 0x03] 2
        ⟨0, ⟨mpsseOk, [true]⟩, ack, ⟨mpsseOk, [false, true]⟩, ack, 0⟩) ⟨true, 0⟩ := by
  refine ⟨_, rfl, _, ⟨Or.inl rfl, by decide, fun _ => rfl, rfl⟩, _, ⟨rfl, rfl⟩, _,
    ⟨Or.inl rfl, by decide, fun _ => rfl, rfl⟩, _, ⟨rfl, rfl⟩, _, rfl, rfl⟩

/-- The theorem at a write of one byte to slave 0x39 that is delivered. -/
theorem i2c_write_truthful_one_byte :
    WriteTruthful 1 ⟨0, ⟨mpsseOk, [true]⟩, ack, ⟨mpsseOk, [true]⟩, ack, 0⟩ := by
  have hdev : validHandle (handleOf 0x39) = true := validHandle_handleOf 0x39 (by decide)
  have hrun : (adapter fun _ => 0).Run ⟨false, 0⟩
      (writeTrace 7 (handleOf 0x39) [0x80] 1
        ⟨0, ⟨mpsseOk, [true]⟩, ack, ⟨mpsseOk, [true]⟩, ack, 0⟩) ⟨true, 0⟩ :=
    ⟨_, rfl, _, ⟨Or.inl rfl, by decide, fun _ => rfl, rfl⟩, _, ⟨rfl, rfl⟩, _,
      ⟨Or.inl rfl, by decide, fun _ => rfl, rfl⟩, _, ⟨rfl, rfl⟩, _, rfl, rfl⟩
  have hiff := (@i2c_write_truthful_iff ⟨0, 0⟩ ⟨7, true⟩ (handleOf 0x39) [0x80] 1 rfl hdev
    (by decide)).2 _ _ _ _ hrun
  refine hiff.mpr ?_
  rintro ⟨-, -, hloss, -⟩
  exact hloss rfl

/-- The result of a write is not always the truth: a refused byte in front of one that is
taken is reported as written. -/
theorem exists_write_untruthful :
    ¬∀ (self : Ptr) (ctx : MpsseContext) (dev : Int32) (data : List UInt8) (size : UInt32)
      (source : ℕ → UInt8) (s s' : Line) (p : WriteReplies),
      ctx.isOpen = true → validHandle dev = true → size.toNat < 2 ^ 31 →
      (mcuprI2cWrite (some ⟨self, some ⟨some ctx⟩⟩) dev data size).Path
        (writeTrace ctx.id dev data size p) (writeResult size p) →
      (adapter source).Run s (writeTrace ctx.id dev data size p) s' → WriteTruthful size p := by
  intro hall
  have hdev : validHandle (handleOf 0x39) = true := validHandle_handleOf 0x39 (by decide)
  have htruth := hall ⟨0, 0⟩ ⟨7, true⟩ (handleOf 0x39) [0x80, 0x03] 2 (fun _ => 0) _ _ _ rfl hdev
    (by decide) ((mcuprI2cWrite_path _ rfl hdev).mpr ⟨_, rfl, rfl⟩) refused_then_taken_run
  have hdelivered := htruth.size_iff.mp (by decide)
  exact absurd (hdelivered.2 (by decide)) (by decide)

end McuPeripheral.Libmpsse
