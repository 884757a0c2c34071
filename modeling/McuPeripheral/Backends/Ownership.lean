import McuPeripheral.Calls.Ownership
import McuPeripheral.Libmpsse.Executions
import McuPeripheral.Linuxdev.Api
import McuPeripheral.Linuxdev.Executions
import McuPeripheral.ObjectBounds
import McuPeripheral.Pigpiod.Executions

/-!
# What the objects of the library are made of

Chips and buses are created and released in any order, with any outcome of the
allocations and of the backend initialisers. In each backend the heap blocks, the
adapter contexts and the daemon connections that are held should be those of the
objects that are live. A chip of the Linux device backend is never given back.
-/

namespace McuPeripheral

open Calls Libc

/-- What an object is made of. -/
inductive Resource
  | block (p : Ptr)
  | context (id : ℕ)
  | connection (pi : Int32)
  deriving DecidableEq, Repr

/-! ## The object allocator -/

/-- An allocation either fails and stores nothing, or keeps one block, with the object behind
the header. -/
theorem moves_allocObject {obj0 obj : Option Ptr} {size0 offset size1 : Int32} {r : McuprResult}
    {tr : List (Event Libc.Call Libc.Reply)}
    (hpath : (mcuprAllocObject obj0 size0 offset size1).Path tr (r, obj)) :
    (r = .nomem ∧ obj = obj0 ∧ (heapLedger Resource.block).Moves 0 tr 0) ∨
      ∃ buf : Ptr, r = .ok ∧ obj = some (buf.add 8) ∧
        (heapLedger Resource.block).Moves 0 tr {.block buf} := by
  obtain ⟨rfl, rfl, rfl⟩ | ⟨buf, rfl, rfl, rfl⟩ := mcuprAllocObject_cases.mp hpath
  · exact Or.inl ⟨rfl, rfl, .neutral rfl rfl .nil⟩
  · refine Or.inr ⟨buf, rfl, rfl, .acquireFirst rfl rfl (.neutral rfl rfl ?_)⟩
    split
    · exact .neutral rfl rfl .nil
    · exact .nil

/-- A release gives back the block in front of the object. -/
theorem moves_releaseObject {obj : Ptr} {tr : List (Event Libc.Call Libc.Reply)} {u : Unit}
    (hpath : (mcuprReleaseObject (some obj)).Path tr u) :
    (heapLedger Resource.block).Moves {.block (obj.add (-8))} tr 0 := by
  obtain ⟨total, rfl⟩ := mcuprReleaseObject_path.mp hpath
  exact .neutral rfl rfl (.neutral rfl rfl (.giveBackAll rfl rfl .nil))

/-! ## I2C buses

In each backend a bus stands for its block and for what its private data holds. Two of the
backends create nothing else.
-/

/-- A bus with private data of a backend. -/
structure I2cObject (δ : Type) where
  /-- The address of the bus. -/
  self : Ptr
  /-- Its private data. -/
  priv : δ
  deriving DecidableEq, Repr

namespace I2cOp

variable {C : Type} {R : C → Type} {δ : Type} {prog : (o : I2cOp δ) → Prog C R o.Result}

/-- The bus a call created. -/
def created : Invocation prog → Option (I2cObject δ)
  | ⟨.i2cBusCreate .., _, (.ok, some ⟨self, some priv⟩), _⟩ => some ⟨self, priv⟩
  | _ => none

/-- The bus a call releases. -/
def released : I2cOp δ → Option (I2cObject δ)
  | .i2cBusRelease (some ⟨self, some priv⟩) => some ⟨self, priv⟩
  | _ => none

/-- A create that reported a failure. -/
def Refused : Invocation prog → Prop
  | ⟨.i2cBusCreate .., _, (r, _), _⟩ => r ≠ .ok
  | _ => False

/-- A create that left the output pointer as it was. -/
def Silent : Invocation prog → Prop
  | ⟨.i2cBusCreate busp _, _, (_, bus), _⟩ => bus = busp
  | _ => False

/-- A create or a release. -/
def CreatesOrReleases : I2cOp δ → Prop
  | .i2cBusCreate .. | .i2cBusRelease _ => True
  | _ => False

variable (prog) (held : Ledger C R Resource) (privately : δ → Multiset Resource)

/-- The buses of a backend, each with its block and with what its private data holds. -/
def objects : Objects prog (I2cObject δ) Resource where
  created := created
  released := released
  resources o := {.block o.self} + privately o.priv
  refused := Refused
  silent := Silent

/-- What a create and a release do with the resources of a bus. -/
structure Keeps : Prop where
  /-- A create either fails, keeps nothing and stores nothing, or keeps what the bus stands for. -/
  create {busp bus params r tr} : (prog (.i2cBusCreate busp params)).Path tr (r, bus) →
    (r ≠ .ok ∧ bus = busp ∧ held.Moves 0 tr 0) ∨
      ∃ self priv, r = .ok ∧ bus = some ⟨self, some priv⟩ ∧
        held.Moves 0 tr ({.block self} + privately priv)
  /-- A release gives back what the bus stands for. -/
  release {self priv tr u} : (prog (.i2cBusRelease (some ⟨self, some priv⟩))).Path tr u →
    held.Moves ({.block self} + privately priv) tr 0
  /-- A release of no bus makes no calls. -/
  idle {bus tr u} : released (.i2cBusRelease bus) = none →
    (prog (.i2cBusRelease bus)).Path tr u → tr = []

variable {prog held privately} (hkeeps : Keeps prog held privately)

include hkeeps

/-- Every call turns the resources of what it releases into those of what it creates. -/
theorem Keeps.moves_call {i : Invocation prog} (hcalls : CreatesOrReleases i.op) :
    held.Moves ((objects prog privately).worth (released i.op)) i.trace
      ((objects prog privately).worth (created i)) := by
  obtain ⟨op, tr, r, hpath⟩ := i
  cases op with
  | i2cBusCreate busp params =>
    obtain ⟨r, bus⟩ := r
    obtain ⟨hr, -, hmoves⟩ | ⟨self, priv, rfl, rfl, hmoves⟩ := hkeeps.create hpath
    · cases r with
      | ok => exact absurd rfl hr
      | _ => exact hmoves
    · exact hmoves
  | i2cBusRelease bus =>
    obtain _ | ⟨self, _ | priv⟩ := bus
    · obtain rfl := hkeeps.idle rfl hpath
      exact .nil
    · obtain rfl := hkeeps.idle rfl hpath
      exact .nil
    · exact hkeeps.release hpath
  | _ => exact hcalls.elim

/-- A create that fails keeps nothing and stores nothing. -/
theorem Keeps.refused_clean {i : Invocation prog} (hrefused : Refused i) :
    held.after 0 i.trace = 0 ∧ Silent i := by
  obtain ⟨op, tr, r, hpath⟩ := i
  cases op with
  | i2cBusCreate busp params =>
    obtain ⟨r, bus⟩ := r
    obtain ⟨-, rfl, hmoves⟩ | ⟨self, priv, rfl, -⟩ := hkeeps.create hpath
    · exact ⟨hmoves.after_eq 0, rfl⟩
    · exact absurd rfl hrefused
  | _ => exact hrefused.elim

variable [DecidableEq δ]

/-- Creating and releasing are in balance. -/
theorem Keeps.balanced (l : (objects prog privately).Lifetimes CreatesOrReleases) :
    (objects prog privately).Balanced held l.history :=
  .of_moves l.session (fun _ _ hcalls => hkeeps.moves_call hcalls)
    fun _ _ hrefused => hkeeps.refused_clean hrefused

end I2cOp

/-! ## Linux devices -/

namespace Linuxdev

/-- An object a client can create. -/
inductive Object
  | chip (chip : GpioChip)
  | i2cBus (bus : I2cObject I2cData)
  | spiBus (bus : SpiBus)
  deriving DecidableEq, Repr

/-- The heap blocks that are held. -/
def heldLedger : Ledger Call Reply Resource where
  acquired
    | ⟨.libc c, r⟩ => (heapLedger Resource.block).acquired ⟨c, r⟩
    | _ => 0
  returned
    | ⟨.libc c, r⟩ => (heapLedger Resource.block).returned ⟨c, r⟩
    | _ => 0

/-- The object a call created. -/
def created : Invocation Op.prog → Option Object
  | ⟨.gpioChipCreate _, _, (.ok, some chip), _⟩ => some (.chip chip)
  | ⟨.i2cBusCreate .., _, (.ok, some ⟨self, some priv⟩), _⟩ => some (.i2cBus ⟨self, priv⟩)
  | ⟨.spiBusCreate .., _, (.ok, some bus), _⟩ => some (.spiBus bus)
  | _ => none

/-- The object a call releases. -/
def released : Op → Option Object
  | .gpioChipRelease (some chip) => some (.chip chip)
  | .i2cBusRelease (some ⟨self, some priv⟩) => some (.i2cBus ⟨self, priv⟩)
  | .spiBusRelease (some bus) => some (.spiBus bus)
  | _ => none

/-- The block of an object. An SPI bus stands behind the header of its block. -/
def resources : Object → Multiset Resource
  | .chip chip => {.block chip.self}
  | .i2cBus bus => {.block bus.self}
  | .spiBus bus => {.block (bus.self.add (-8))}

/-- A create that reported a failure. -/
def Refused : Invocation Op.prog → Prop
  | ⟨.gpioChipCreate _, _, (r, _), _⟩ => r ≠ .ok
  | ⟨.i2cBusCreate .., _, (r, _), _⟩ => r ≠ .ok
  | ⟨.spiBusCreate .., _, (r, _), _⟩ => r ≠ .ok
  | _ => False

/-- A create that left the output pointer as it was. -/
def Silent : Invocation Op.prog → Prop
  | ⟨.gpioChipCreate chipp, _, (_, chip), _⟩ => chip = chipp
  | ⟨.i2cBusCreate busp _, _, (_, bus), _⟩ => bus = busp
  | ⟨.spiBusCreate busp _, _, (_, bus), _⟩ => bus = busp
  | _ => False

/-- The objects of the backend. -/
def objects : Objects Op.prog Object Resource := ⟨created, released, resources, Refused, Silent⟩

/-- A create or a release. -/
def CreatesOrReleases : Op → Prop
  | .gpioChipCreate _ | .gpioChipRelease _ | .i2cBusCreate .. | .i2cBusRelease _
  | .spiBusCreate .. | .spiBusRelease _ => True
  | _ => False

/-- A release of a chip that is there. -/
def ReleasesChip : Op → Prop
  | .gpioChipRelease (some _) => True
  | _ => False

variable {tr : List (Event Call Reply)} {own own' : Multiset Resource}

/-- What a C library program moves is moved inside the backend. -/
theorem moves_libc {tr₀ : List (Event Libc.Call Libc.Reply)}
    (h : (heapLedger Resource.block).Moves own tr₀ own') :
    heldLedger.Moves own (tr₀.map fun e => ⟨.libc e.call, e.reply⟩) own' :=
  h.map (fun _ => rfl) (fun _ => rfl)

/-- Creating an SPI bus either fails and stores nothing, or keeps one block, with the bus
behind the header. -/
theorem moves_spiBusCreate {busp bus : Option SpiBus} {params : McuprSpiBusParams}
    {r : McuprResult} (hpath : (mcuprSpiBusCreate busp params).Path tr (r, bus)) :
    (r = .nomem ∧ bus = busp ∧ heldLedger.Moves 0 tr 0) ∨
      ∃ buf params', r = .ok ∧ bus = some ⟨buf.add 8, params'⟩ ∧
        heldLedger.Moves 0 tr {.block buf} := by
  unfold mcuprSpiBusCreate at hpath
  obtain ⟨_, ⟨res, obj⟩, _, rfl, hlibc, hrest⟩ := Prog.path_bind.mp hpath
  obtain ⟨tr₀, rfl, halloc⟩ := Prog.path_lift_part.mp hlibc
  obtain ⟨rfl, rfl, hmoves⟩ | ⟨buf, rfl, rfl, hmoves⟩ := moves_allocObject halloc
  · obtain ⟨rfl, heq⟩ := hrest
    obtain ⟨rfl, rfl⟩ := Prod.mk.inj heq
    refine Or.inl ⟨rfl, rfl, ?_⟩
    rw [List.append_nil]
    exact moves_libc hmoves
  · obtain ⟨rfl, heq⟩ := hrest
    obtain ⟨rfl, rfl⟩ := Prod.mk.inj heq
    refine Or.inr ⟨buf, _, rfl, rfl, ?_⟩
    rw [List.append_nil]
    exact moves_libc hmoves

/-- Releasing an SPI bus gives its block back. -/
theorem moves_spiBusRelease {bus : SpiBus} {u : Unit}
    (hpath : (mcuprSpiBusRelease (some bus)).Path tr u) :
    heldLedger.Moves {.block (bus.self.add (-8))} tr 0 := by
  obtain ⟨tr₀, rfl, hrelease⟩ := Prog.path_lift_part.mp hpath
  exact moves_libc (moves_releaseObject hrelease)

/-- Every call but the release of a chip turns the block of what it releases into that of
what it creates. -/
theorem moves_call {i : Invocation Op.prog} (hcalls : CreatesOrReleases i.op)
    (hchip : ¬ReleasesChip i.op) :
    heldLedger.Moves (objects.worth (objects.released i.op)) i.trace
      (objects.worth (objects.created i)) := by
  obtain ⟨op, tr, r, hpath⟩ := i
  cases op with
  | gpioChipCreate chipp =>
    obtain ⟨r, chip⟩ := r
    obtain ⟨rfl, rfl, rfl⟩ | ⟨p, rfl, rfl, rfl⟩ := mcuprGpioChipCreate_path.mp hpath
    · exact .neutral rfl rfl .nil
    · exact .acquireFirst rfl rfl .nil
  | gpioChipRelease chip =>
    cases chip with
    | none =>
      obtain rfl : tr = [] := hpath.1
      exact .nil
    | some chip => exact absurd trivial hchip
  | i2cBusCreate busp params =>
    obtain ⟨r, bus⟩ := r
    obtain ⟨rfl, rfl, rfl⟩ | ⟨p, rfl, rfl, rfl⟩ := mcuprI2cBusCreate_path.mp hpath
    · exact .neutral rfl rfl .nil
    · exact .acquireFirst rfl rfl .nil
  | i2cBusRelease bus =>
    obtain _ | ⟨self, _ | priv⟩ := bus
    · obtain rfl : tr = [] := hpath.1
      exact .nil
    · obtain rfl : tr = [] := hpath.1
      exact .nil
    · have hrelease : (mcuprI2cBusRelease (some ⟨self, some priv⟩)).Path tr r := hpath
      obtain rfl := mcuprI2cBusRelease_path.mp hrelease
      exact .neutral rfl rfl (.neutral rfl rfl (.giveBackAll rfl rfl .nil))
  | spiBusCreate busp params =>
    obtain ⟨r, bus⟩ := r
    obtain ⟨rfl, rfl, hmoves⟩ | ⟨buf, params', rfl, rfl, hmoves⟩ := moves_spiBusCreate hpath
    · exact hmoves
    · have hblock : (buf.add 8).add (-8) = buf := by simp
      change heldLedger.Moves 0 tr {.block ((buf.add 8).add (-8))}
      rwa [hblock]
  | spiBusRelease bus =>
    cases bus with
    | none =>
      obtain ⟨tr₀, rfl, hnil⟩ := Prog.path_lift_part.mp hpath
      obtain rfl : tr₀ = [] := hnil.1
      exact .nil
    | some bus => exact moves_spiBusRelease hpath
  | _ => exact hcalls.elim

/-- A create that fails keeps nothing and stores nothing. -/
theorem refused_clean {i : Invocation Op.prog} (hrefused : Refused i) :
    heldLedger.after 0 i.trace = 0 ∧ Silent i := by
  obtain ⟨op, tr, r, hpath⟩ := i
  cases op with
  | gpioChipCreate chipp =>
    obtain ⟨r, chip⟩ := r
    obtain ⟨rfl, rfl, rfl⟩ | ⟨p, rfl, -⟩ := mcuprGpioChipCreate_path.mp hpath
    · exact ⟨rfl, rfl⟩
    · exact absurd rfl hrefused
  | i2cBusCreate busp params =>
    obtain ⟨r, bus⟩ := r
    obtain ⟨rfl, rfl, rfl⟩ | ⟨p, rfl, -⟩ := mcuprI2cBusCreate_path.mp hpath
    · exact ⟨rfl, rfl⟩
    · exact absurd rfl hrefused
  | spiBusCreate busp params =>
    obtain ⟨r, bus⟩ := r
    obtain ⟨-, rfl, hmoves⟩ | ⟨buf, params', rfl, -⟩ := moves_spiBusCreate hpath
    · exact ⟨hmoves.after_eq 0, rfl⟩
    · exact absurd rfl hrefused
  | _ => exact hrefused.elim

/-- In the Linux device backend creating and releasing are in balance if and only if no chip
is released. -/
theorem balanced_iff (l : objects.Lifetimes CreatesOrReleases) :
    objects.Balanced heldLedger l.history ↔ ∀ i ∈ l.history, ¬ReleasesChip i.op := by
  constructor
  · intro hbalanced i hi hchip
    obtain ⟨pre, post, hsplit⟩ := List.append_of_mem hi
    have hpermits : objects.Discipline CreatesOrReleases pre i.op := by
      have hsession := l.session
      rw [hsplit] at hsession
      exact hsession.permitted
    obtain ⟨op, tr, r, hpath⟩ := i
    cases op with
    | gpioChipRelease chip =>
      cases chip with
      | none => exact hchip
      | some chip =>
        -- the release makes no calls, so the block of the chip is still held
        obtain rfl : tr = [] := hpath.1
        have hworth := hbalanced.worth_eq_zero hsplit rfl hpermits rfl
        exact absurd hworth (Multiset.singleton_ne_zero _)
    | _ => exact hchip
  · intro hchip
    exact .of_moves l.session (fun i hi hcalls => moves_call hcalls (hchip i hi))
      fun i _ hrefused => refused_clean hrefused

end Linuxdev

/-! ## libmpsse -/

namespace Libmpsse

/-- The heap blocks and the contexts that are held. -/
def heldLedger : Ledger Call Reply Resource where
  acquired
    | ⟨.libc c, r⟩ => (heapLedger Resource.block).acquired ⟨c, r⟩
    | ⟨.mpsse _, some ctx⟩ => {.context ctx.id}
    | _ => 0
  returned
    | ⟨.libc c, r⟩ => (heapLedger Resource.block).returned ⟨c, r⟩
    | ⟨.close (some id), _⟩ => {.context id}
    | _ => 0

/-- The context of a bus. -/
def LibmpsseData.resources (priv : LibmpsseData) : Multiset Resource :=
  priv.mpsse.elim 0 fun ctx => {.context ctx.id}

/-- A create gives back what it acquired before a failure, and a release all of the bus. -/
theorem keeps : I2cOp.Keeps Op.prog heldLedger LibmpsseData.resources where
  create hpath := by
    obtain ⟨rfl, rfl, rfl⟩ | ⟨p, rfl, rfl, rfl⟩ | ⟨p, ctx, -, rfl, rfl, rfl⟩ |
      ⟨p, ctx, -, rfl, rfl, rfl⟩ := mcuprI2cBusCreate_path.mp hpath
    · exact Or.inl ⟨nofun, rfl, .neutral rfl rfl .nil⟩
    · exact Or.inl ⟨nofun, rfl,
        .acquireFirst rfl rfl (.neutral rfl rfl (.giveBackAll rfl rfl .nil))⟩
    · exact Or.inl ⟨nofun, rfl, .acquireFirst rfl rfl
        (.acquire rfl rfl (.giveBack rfl rfl (.giveBackAll rfl rfl .nil)))⟩
    · exact Or.inr ⟨p, ⟨some ctx⟩, rfl, rfl, .acquireFirst rfl rfl (.acquire rfl rfl .nil)⟩
  release {self priv tr u} hpath := by
    obtain rfl := mcuprI2cBusRelease_path.mp hpath
    obtain ⟨_ | ctx⟩ := priv
    · exact .neutral rfl rfl (.neutral rfl rfl (.neutral rfl rfl (.giveBackAll rfl rfl .nil)))
    · exact .giveBack rfl rfl (.neutral rfl rfl (.neutral rfl rfl (.giveBackAll rfl rfl .nil)))
  idle {bus tr u} hnone hpath := by
    obtain _ | ⟨self, _ | priv⟩ := bus
    · exact hpath.1
    · exact hpath.1
    · cases hnone

/-- The buses of the backend. -/
abbrev objects : Objects Op.prog (I2cObject LibmpsseData) Resource :=
  I2cOp.objects Op.prog LibmpsseData.resources

end Libmpsse

/-! ## pigpio -/

namespace Pigpiod

/-- The heap blocks and the connections that are held. -/
def heldLedger : Ledger Call Reply Resource where
  acquired
    | ⟨.libc c, r⟩ => (heapLedger Resource.block).acquired ⟨c, r⟩
    | ⟨.pigpioStart .., pi⟩ => if pi < 0 then 0 else {.connection pi}
    | _ => 0
  returned
    | ⟨.libc c, r⟩ => (heapLedger Resource.block).returned ⟨c, r⟩
    | ⟨.pigpioStop pi, _⟩ => {.connection pi}
    | _ => 0

/-- The connection of a bus. -/
def PigpiodI2cData.resources (priv : PigpiodI2cData) : Multiset Resource := {.connection priv.pi}

/-- A create frees the bus if the daemon cannot be reached, and a release gives back all of
the bus. -/
theorem keeps : I2cOp.Keeps Op.prog heldLedger PigpiodI2cData.resources where
  create hpath := by
    obtain ⟨rfl, rfl, rfl⟩ | ⟨p, addr, port, pi, rest, rfl, ⟨hpi, rfl, rfl, rfl⟩ |
      ⟨hpi, rfl, rfl, rfl⟩⟩ := mcuprI2cBusCreate_path.mp hpath
    · exact Or.inl ⟨nofun, rfl, .neutral rfl rfl .nil⟩
    · exact Or.inl ⟨nofun, rfl, .acquireFirst rfl rfl (.neutral rfl rfl (.neutral rfl rfl
        (.neutral rfl (if_pos hpi) (.giveBackAll rfl rfl .nil))))⟩
    · exact Or.inr ⟨p, _, rfl, rfl, .acquireFirst rfl rfl (.neutral rfl rfl (.neutral rfl rfl
        (.acquire rfl (if_neg hpi) .nil)))⟩
  release hpath := by
    obtain rfl := mcuprI2cBusRelease_path.mp hpath
    exact .giveBack rfl rfl (.neutral rfl rfl (.neutral rfl rfl (.giveBackAll rfl rfl .nil)))
  idle {bus tr u} hnone hpath := by
    obtain _ | ⟨self, _ | priv⟩ := bus
    · exact hpath.1
    · exact hpath.1
    · cases hnone

/-- The buses of the backend. -/
abbrev objects : Objects Op.prog (I2cObject PigpiodI2cData) Resource :=
  I2cOp.objects Op.prog PigpiodI2cData.resources

end Pigpiod

/-- A history of creates and releases in one of the backends, with each object released at
most once and whatever the calls are answered. -/
inductive AnyLifetimes
  | linuxdev (l : Linuxdev.objects.Lifetimes Linuxdev.CreatesOrReleases)
  | libmpsse (l : Libmpsse.objects.Lifetimes I2cOp.CreatesOrReleases)
  | pigpiod (l : Pigpiod.objects.Lifetimes I2cOp.CreatesOrReleases)

/-- Creating and releasing are in balance. -/
def AnyLifetimes.Balanced : AnyLifetimes → Prop
  | .linuxdev l => Linuxdev.objects.Balanced Linuxdev.heldLedger l.history
  | .libmpsse l => Libmpsse.objects.Balanced Libmpsse.heldLedger l.history
  | .pigpiod l => Pigpiod.objects.Balanced Pigpiod.heldLedger l.history

/-- No GPIO chip is released; only the Linux device backend has them. -/
def AnyLifetimes.NoChipReleased : AnyLifetimes → Prop
  | .linuxdev l => ∀ i ∈ l.history, ¬Linuxdev.ReleasesChip i.op
  | .libmpsse _ | .pigpiod _ => True

/-- **Creating and releasing.** Over every history of creates and releases, the resources held
are those of the live objects if and only if no GPIO chip is released. -/
theorem create_release_balanced_iff (l : AnyLifetimes) : l.Balanced ↔ l.NoChipReleased := by
  cases l with
  | linuxdev l => exact Linuxdev.balanced_iff l
  | libmpsse l => exact iff_of_true (Libmpsse.keeps.balanced l) trivial
  | pigpiod l => exact iff_of_true (Pigpiod.keeps.balanced l) trivial

/-- A chip is created and released, and its block is still held. -/
theorem exists_chip_leaked : ∃ l : Linuxdev.objects.Lifetimes Linuxdev.CreatesOrReleases,
    l.history.length = 2 ∧ Linuxdev.objects.live l.history = 0 ∧
      Linuxdev.heldLedger.after 0 (traceOf l.history) = {.block ⟨0, 0⟩} ∧
      ¬(AnyLifetimes.linuxdev l).Balanced := by
  let chip : Linuxdev.GpioChip := ⟨⟨0, 0⟩, ⟨0, 8⟩⟩
  have hcreate : (Linuxdev.mcuprGpioChipCreate none).Path _ (.ok, some chip) :=
    Linuxdev.mcuprGpioChipCreate_path.mpr (Or.inr ⟨⟨0, 0⟩, rfl, rfl, rfl⟩)
  let create : Invocation Linuxdev.Op.prog := ⟨.gpioChipCreate none, _, _, hcreate⟩
  let release : Invocation Linuxdev.Op.prog := ⟨.gpioChipRelease (some chip), [], (), rfl, rfl⟩
  have hlive : Linuxdev.objects.live [create] = {.chip chip} := rfl
  have hpermits : Linuxdev.objects.Discipline Linuxdev.CreatesOrReleases [create] release.op := by
    refine ⟨trivial, fun x hx => ?_⟩
    obtain rfl : .chip chip = x := Option.some.inj hx
    rw [hlive]
    exact Multiset.mem_singleton_self _
  let l : Linuxdev.objects.Lifetimes Linuxdev.CreatesOrReleases :=
    ⟨[create, release], .step release (.step create .start ⟨trivial, nofun⟩ (anything_run _))
      hpermits (anything_run _)⟩
  refine ⟨l, rfl, rfl, rfl, fun hbalanced => ?_⟩
  exact Linuxdev.balanced_iff l |>.mp hbalanced release (by simp [l]) trivial

end McuPeripheral
