import McuPeripheral.Linuxdev.Descriptors

/-!
# Scanning the addresses of a bus

`i2cdetect` opens every address of a bus into one variable, and closes the variable after
each, whether the open succeeded or not. An open that fails leaves the variable as it is,
so the close then gives back whatever number was there before.
-/

namespace McuPeripheral.Linuxdev

open Calls Libc

/-- What `i2cdetect` does with one address; `tmp` is the byte it does not write. -/
def detectAddress (bus : Option I2cBus) (tmp : UInt8) (dev address : Int32) :
    Prog Call Reply Int32 := do
  let (result, dev) ← mcuprI2cOpen bus dev address
  if result = .ok then
    let _ ← mcuprI2cWrite bus dev [tmp] 0
  mcuprI2cClose bus dev
  return dev

/-- Its loop over the addresses. The variable `dev` is passed in and out. -/
def scanAddresses (bus : Option I2cBus) (tmp : UInt8) : Int32 → List Int32 → Prog Call Reply Int32
  | dev, [] => return dev
  | dev, address :: addresses => do
    let dev ← detectAddress bus tmp dev address
    scanAddresses bus tmp dev addresses

/-- Starting without a descriptor of its own, the client closes each one it opens, and no
other. -/
def ClosesOwn (tr : List (Event Call Reply)) : Prop :=
  fdLedger.Covers 0 tr ∧ fdLedger.after 0 tr = 0

/-- The address was refused, by the open or by the selection of the slave. -/
def AddressRefused : Event Call Reply → Prop
  | ⟨.open .., fd⟩ => fd < 0
  | ⟨.ioctl .., ret⟩ => ret < 0
  | _ => False

/-- The address was opened. -/
def AddressSelected : Event Call Reply → Prop
  | ⟨.ioctl .., ret⟩ => ¬ret < 0
  | _ => False

/-! ## One address -/

section OneAddress

variable {self : Ptr} {priv : I2cData} {tmp : UInt8} {dev dev' address : Int32}
  {tr : List (Event Call Reply)}

/-- What the close of a handle does: it gives its number back, unless that is negative. -/
def closeCalls (dev c : Int32) : List (Event Call Reply) :=
  if 0 ≤ dev then [⟨.close dev, c⟩] else []

/-- A close on a live bus makes these calls. -/
theorem mcuprI2cClose_calls {u : Unit} :
    (mcuprI2cClose (some ⟨self, some priv⟩) dev).Path tr u ↔ ∃ c, tr = closeCalls dev c := by
  unfold closeCalls
  rw [mcuprI2cClose_path]
  constructor
  · rintro (⟨hdev, rfl⟩ | ⟨c, hdev, rfl⟩)
    · exact ⟨0, by rw [if_neg hdev]⟩
    · exact ⟨c, by rw [if_pos hdev]⟩
  · rintro ⟨c, rfl⟩
    by_cases hdev : 0 ≤ dev
    · exact Or.inr ⟨c, hdev, if_pos hdev⟩
    · exact Or.inl ⟨hdev, if_neg hdev⟩

/-- An address is refused by the open, or by the selection of the slave, or it is opened,
written to and closed. -/
theorem detectAddress_path :
    (detectAddress (some ⟨self, some priv⟩) tmp dev address).Path tr dev' ↔
      (∃ fd c, fd < 0 ∧ dev' = dev ∧
        tr = ⟨.open (i2cPath priv.busnum) .rdwr, fd⟩ :: closeCalls dev c) ∨
      (∃ fd ret c c', ¬fd < 0 ∧ ret < 0 ∧ dev' = dev ∧
        tr = ⟨.open (i2cPath priv.busnum) .rdwr, fd⟩ :: ⟨.ioctl fd (.i2cSlave address), ret⟩ ::
          ⟨.close fd, c⟩ :: closeCalls dev c') ∨
      ∃ fd ret n c, ¬fd < 0 ∧ ¬ret < 0 ∧ dev' = fd ∧
        tr = [⟨.open (i2cPath priv.busnum) .rdwr, fd⟩, ⟨.ioctl fd (.i2cSlave address), ret⟩,
          ⟨.write fd [], n⟩, ⟨.close fd, c⟩] := by
  unfold detectAddress
  rw [Prog.path_bind]
  simp only [Prog.path_ite, Prog.path_bind, Prog.path_pure]
  constructor
  · rintro ⟨tr₁, ⟨result, dev₁⟩, tr₂, rfl, hopen, hrest⟩
    obtain ⟨fd, hfd, rfl, rfl, rfl⟩ | ⟨fd, ret, c, hfd, hret, rfl, rfl, rfl⟩ |
      ⟨fd, ret, hfd, hret, rfl, rfl, rfl⟩ := mcuprI2cOpen_path.mp hopen
    · obtain ⟨hok, -⟩ | ⟨-, tr₃, _, _, rfl, hclose, rfl, rfl⟩ := hrest
      · cases hok
      · obtain ⟨c, rfl⟩ := mcuprI2cClose_calls.mp hclose
        exact Or.inl ⟨fd, c, hfd, rfl, by simp⟩
    · obtain ⟨hok, -⟩ | ⟨-, tr₃, _, _, rfl, hclose, rfl, rfl⟩ := hrest
      · cases hok
      · obtain ⟨c', rfl⟩ := mcuprI2cClose_calls.mp hclose
        exact Or.inr (Or.inl ⟨fd, ret, c, c', hfd, hret, rfl, by simp⟩)
    · obtain ⟨-, tr₃, _, _, rfl, hwrite, tr₄, _, _, rfl, hclose, rfl, rfl⟩ | ⟨hne, -⟩ := hrest
      · obtain ⟨hneg, -⟩ | ⟨n, -, -, rfl⟩ := mcuprI2cWrite_path.mp hwrite
        · exact absurd hneg hfd
        · obtain ⟨c, rfl⟩ := mcuprI2cClose_calls.mp hclose
          refine Or.inr (Or.inr ⟨_, ret, n, c, hfd, hret, rfl, ?_⟩)
          rw [closeCalls, if_pos (Int32.not_lt.mp hfd)]
          rfl
      · exact absurd rfl hne
  · rintro (⟨fd, c, hfd, rfl, rfl⟩ | ⟨fd, ret, c, c', hfd, hret, rfl, rfl⟩ |
      ⟨fd, ret, n, c, hfd, hret, rfl, rfl⟩)
    · exact ⟨_, (.nodev, dev'), _, rfl, mcuprI2cOpen_path.mpr (Or.inl ⟨fd, hfd, rfl, rfl, rfl⟩),
        Or.inr ⟨by simp, _, (), [], (List.append_nil _).symm, mcuprI2cClose_calls.mpr ⟨c, rfl⟩,
          rfl, rfl⟩⟩
    · exact ⟨_, (.ioError, dev'), _, rfl,
        mcuprI2cOpen_path.mpr (Or.inr (Or.inl ⟨fd, ret, c, hfd, hret, rfl, rfl, rfl⟩)),
        Or.inr ⟨by simp, _, (), [], (List.append_nil _).symm, mcuprI2cClose_calls.mpr ⟨c', rfl⟩,
          rfl, rfl⟩⟩
    · refine ⟨_, (.ok, dev'), _, rfl,
        mcuprI2cOpen_path.mpr (Or.inr (Or.inr ⟨dev', ret, hfd, hret, rfl, rfl, rfl⟩)),
        Or.inl ⟨rfl, _, _, _, rfl, mcuprI2cWrite_path.mpr (Or.inr ⟨n, hfd, rfl, rfl⟩), _, (), [],
          (List.append_nil _).symm, mcuprI2cClose_calls.mpr ⟨c, ?_⟩, rfl, rfl⟩⟩
      rw [closeCalls, if_pos (Int32.not_lt.mp hfd)]

/-- The close of a handle is covered by nothing, unless the handle is negative. -/
theorem covers_closeCalls (dev c : Int32) : fdLedger.Covers 0 (closeCalls dev c) ↔ dev < 0 := by
  unfold closeCalls
  split_ifs with hdev
  · have hnot : ¬({dev} : Multiset Int32) ≤ 0 := by simp
    exact iff_of_false (fun h => hnot h.1) (Int32.not_lt.mpr hdev)
  · exact iff_of_true trivial (Int32.not_le.mp hdev)

/-- It leaves nothing behind. -/
theorem after_closeCalls (dev c : Int32) : fdLedger.after 0 (closeCalls dev c) = 0 := by
  unfold closeCalls
  split_ifs with hdev
  · exact add_zero _
  · rfl

/-- The close of a handle is no sign of an address. -/
theorem closeCalls_neutral {c : Int32} {e : Event Call Reply} (he : e ∈ closeCalls dev c) :
    ¬AddressRefused e ∧ ¬AddressSelected e := by
  unfold closeCalls at he
  split_ifs at he
  · obtain rfl := List.mem_singleton.mp he
    exact ⟨id, id⟩
  · exact absurd he List.not_mem_nil

/-- What one address comes to: it is refused, and the variable closed as it was, or it is
opened, and the variable is the descriptor that was opened and closed. -/
inductive AddressOutcome (dev dev' : Int32) (tr : List (Event Call Reply)) : Prop
  | refused (hdev : dev' = dev) (hrefused : ∃ e ∈ tr, AddressRefused e)
      (hselected : ∀ e ∈ tr, ¬AddressSelected e) (hcovers : fdLedger.Covers 0 tr ↔ dev < 0)
  | opened (hdev : 0 ≤ dev') (hrefused : ∀ e ∈ tr, ¬AddressRefused e)
      (hselected : ∃ e ∈ tr, AddressSelected e) (hcovers : fdLedger.Covers 0 tr)

/-- A stretch of calls that keeps nothing, and a close behind it. -/
theorem covers_append_closeCalls (dev c : Int32) (h : fdLedger.Moves 0 tr 0) :
    (fdLedger.Covers 0 (tr ++ closeCalls dev c) ↔ dev < 0) ∧
      fdLedger.after 0 (tr ++ closeCalls dev c) = 0 := by
  have hfront := h 0
  rw [zero_add] at hfront
  rw [fdLedger.covers_append, fdLedger.after_append, hfront.2, covers_closeCalls, after_closeCalls]
  exact ⟨and_iff_right hfront.1, rfl⟩

/-- Every address comes to one of the two, and leaves nothing open. -/
theorem detectAddress_outcome
    (hpath : (detectAddress (some ⟨self, some priv⟩) tmp dev address).Path tr dev') :
    AddressOutcome dev dev' tr ∧ fdLedger.after 0 tr = 0 := by
  obtain ⟨fd, c, hfd, rfl, rfl⟩ | ⟨fd, ret, c, c', hfd, hret, rfl, rfl⟩ |
    ⟨fd, ret, n, c, hfd, hret, rfl, rfl⟩ := detectAddress_path.mp hpath
  · have hfront : fdLedger.Moves 0 [⟨.open (i2cPath priv.busnum) .rdwr, fd⟩] 0 :=
      moves_refused hfd .nil
    obtain ⟨hcovers, hafter⟩ := covers_append_closeCalls dev' c hfront
    refine ⟨.refused rfl ⟨_, List.mem_cons_self, hfd⟩ ?_ hcovers, hafter⟩
    rintro e (_ | ⟨_, he⟩)
    · exact id
    · exact (closeCalls_neutral he).2
  · have hfront : fdLedger.Moves 0 [⟨.open (i2cPath priv.busnum) .rdwr, fd⟩,
        ⟨.ioctl fd (.i2cSlave address), ret⟩, ⟨.close fd, c⟩] 0 :=
      moves_open hfd (.neutral rfl rfl (moves_close .nil))
    obtain ⟨hcovers, hafter⟩ := covers_append_closeCalls dev' c' hfront
    refine ⟨.refused rfl ⟨_, List.mem_cons_of_mem _ List.mem_cons_self, hret⟩ ?_ hcovers, hafter⟩
    rintro e (_ | ⟨_, _ | ⟨_, _ | ⟨_, he⟩⟩⟩)
    · exact id
    · exact not_not.mpr hret
    · exact id
    · exact (closeCalls_neutral he).2
  · have hmoves : fdLedger.Moves 0 [⟨.open (i2cPath priv.busnum) .rdwr, dev'⟩,
        ⟨.ioctl dev' (.i2cSlave address), ret⟩, ⟨.write dev' [], n⟩, ⟨.close dev', c⟩] 0 :=
      moves_open hfd (.neutral rfl rfl (.neutral rfl rfl (moves_close .nil)))
    refine ⟨.opened (Int32.not_lt.mp hfd) ?_ ⟨_, List.mem_cons_of_mem _ List.mem_cons_self, hret⟩
      (hmoves 0).1, (hmoves 0).2⟩
    rintro e (_ | ⟨_, _ | ⟨_, _ | ⟨_, _ | ⟨_, he⟩⟩⟩⟩)
    · exact hfd
    · exact hret
    · exact id
    · exact id
    · exact absurd he List.not_mem_nil

end OneAddress

/-! ## The whole scan -/

/-- A scan closes its own descriptors and nothing else exactly if the variable is negative at
the start or no address is refused, and no address is refused after one was opened. -/
theorem scan_closes_own_iff {self : Ptr} {priv : I2cData} {tmp : UInt8} {dev dev' : Int32}
    {addresses : List Int32} {tr : List (Event Call Reply)}
    (hpath : (scanAddresses (some ⟨self, some priv⟩) tmp dev addresses).Path tr dev') :
    ClosesOwn tr ↔ (dev < 0 ∨ ∀ e ∈ tr, ¬AddressRefused e) ∧
      tr.Pairwise fun e e' => AddressSelected e → ¬AddressRefused e' := by
  induction addresses generalizing dev tr with
  | nil =>
    obtain ⟨rfl, -⟩ := hpath
    exact iff_of_true ⟨trivial, rfl⟩ ⟨Or.inr nofun, .nil⟩
  | cons address addresses ih =>
    obtain ⟨tr₁, dev₁, tr₂, rfl, haddress, hrest⟩ := Prog.path_bind.mp hpath
    obtain ⟨houtcome, hafter⟩ := detectAddress_outcome haddress
    have hrun := ih hrest
    unfold ClosesOwn at hrun ⊢
    rw [fdLedger.covers_append, fdLedger.after_append, hafter, and_assoc, hrun,
      List.pairwise_append]
    cases houtcome with
    | refused hdev hrefused hselected hcovers =>
      subst hdev
      have hfront : tr₁.Pairwise fun e e' => AddressSelected e → ¬AddressRefused e' :=
        List.pairwise_of_forall_mem_list fun e he _ _ hsel => absurd hsel (hselected e he)
      have hcross : ∀ e ∈ tr₁, ∀ e' ∈ tr₂, AddressSelected e → ¬AddressRefused e' :=
        fun e he _ _ hsel => absurd hsel (hselected e he)
      have hsome : ¬∀ e ∈ tr₁ ++ tr₂, ¬AddressRefused e := by
        obtain ⟨e, he, hrefusal⟩ := hrefused
        exact fun h => h e (List.mem_append_left _ he) hrefusal
      rw [hcovers]
      constructor
      · rintro ⟨hneg, -, hpairs⟩
        exact ⟨Or.inl hneg, hfront, hpairs, hcross⟩
      · rintro ⟨hneg, -, hpairs, -⟩
        have hneg := hneg.resolve_right hsome
        exact ⟨hneg, Or.inl hneg, hpairs⟩
    | opened hdev hrefused hselected hcovers =>
      have hfront : tr₁.Pairwise fun e e' => AddressSelected e → ¬AddressRefused e' :=
        List.pairwise_of_forall_mem_list fun _ _ e he _ => hrefused e he
      constructor
      · rintro ⟨-, hnone, hpairs⟩
        have hnone := hnone.resolve_left (Int32.not_lt.mpr hdev)
        refine ⟨Or.inr fun e he => ?_, hfront, hpairs, fun _ _ e he _ => hnone e he⟩
        rcases List.mem_append.mp he with he | he
        · exact hrefused e he
        · exact hnone e he
      · rintro ⟨-, -, hpairs, hcross⟩
        -- an address has been opened, so none is refused from here on
        obtain ⟨e, he, hsel⟩ := hselected
        exact ⟨hcovers, Or.inr fun e' he' => hcross e he e' he' hsel, hpairs⟩

/-- A scan that starts with a negative number in the variable and whose first address is
refused. -/
theorem scan_closes_own_refused_first :
    ClosesOwn [⟨.open (i2cPath 1) .rdwr, 3⟩, ⟨.ioctl 3 (.i2cSlave 8), -1⟩, ⟨.close 3, 0⟩,
      ⟨.open (i2cPath 1) .rdwr, 3⟩, ⟨.ioctl 3 (.i2cSlave 9), 0⟩, ⟨.write 3 [], 0⟩,
      ⟨.close 3, 0⟩] := by
  have hpath : (scanAddresses (some ⟨⟨0, 0⟩, some ⟨1⟩⟩) 0 (-1) [8, 9]).Path
      [⟨.open (i2cPath 1) .rdwr, 3⟩, ⟨.ioctl 3 (.i2cSlave 8), -1⟩, ⟨.close 3, 0⟩,
        ⟨.open (i2cPath 1) .rdwr, 3⟩, ⟨.ioctl 3 (.i2cSlave 9), 0⟩, ⟨.write 3 [], 0⟩,
        ⟨.close 3, 0⟩] 3 :=
    Prog.path_bind.mpr ⟨_, -1, _, rfl, detectAddress_path.mpr (Or.inr (Or.inl
      ⟨3, -1, 0, 0, by decide, by decide, rfl, rfl⟩)), Prog.path_bind.mpr ⟨_, 3, [], rfl,
        detectAddress_path.mpr (Or.inr (Or.inr ⟨3, 0, 0, 0, by decide, by decide, rfl, rfl⟩)),
        rfl, rfl⟩⟩
  refine (scan_closes_own_iff hpath).mpr ⟨Or.inl (by decide), ?_⟩
  simp [AddressSelected, AddressRefused]

/-- A scan whose second address is refused: its descriptor is closed by the open that fails,
and once more under the number that the variable still holds from the first address. -/
theorem exists_scan_closes_twice :
    ∃ tr, (scanAddresses (some ⟨⟨0, 0⟩, some ⟨1⟩⟩) 0 (-1) [8, 9]).Path tr 3 ∧ ¬ClosesOwn tr ∧
      tr = [⟨.open (i2cPath 1) .rdwr, 3⟩, ⟨.ioctl 3 (.i2cSlave 8), 0⟩, ⟨.write 3 [], 0⟩,
        ⟨.close 3, 0⟩, ⟨.open (i2cPath 1) .rdwr, 3⟩, ⟨.ioctl 3 (.i2cSlave 9), -1⟩, ⟨.close 3, 0⟩,
        ⟨.close 3, 0⟩] := by
  refine ⟨_, Prog.path_bind.mpr ⟨_, 3, _, rfl, detectAddress_path.mpr (Or.inr (Or.inr
    ⟨3, 0, 0, 0, by decide, by decide, rfl, rfl⟩)), Prog.path_bind.mpr ⟨_, 3, [], rfl,
      detectAddress_path.mpr (Or.inr (Or.inl ⟨3, -1, 0, 0, by decide, by decide, rfl, rfl⟩)),
      rfl, rfl⟩⟩, fun h => ?_, rfl⟩
  exact absurd h.1.2.2.2.2.2.2.2.1 (by decide)

end McuPeripheral.Linuxdev
