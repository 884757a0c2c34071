import McuPeripheral.Calls.Threads
import McuPeripheral.Linuxdev.GpioLevels

/-!
# Dividing the kernel between threads

Threads that each have GPIO pins of their own can each be given a kernel of their own, with the
descriptors they have opened and no others; device files belong to nobody, so each thread may
open any of them. A system call that keeps to the pins and descriptors of one thread then acts
on its own kernel as it does on the shared one, and on no other.
-/

namespace McuPeripheral.Linuxdev

open Calls Libc

variable {ι : Type}

/-- A file that the thread may open: it is not the unexport file, and if it is a file of a pin
then the thread owns that pin. -/
structure OwnFile (owner : Int32 → Option ι) (i : ι) (path : List Char) : Prop where
  /-- No thread takes an export back. -/
  ne_unexport : path ≠ unexportPath
  /-- The files of a pin are its owner's. -/
  ofPin : ∀ pin, path = gpioPath pin ∨ path = directionPath pin ∨ path = valuePath pin →
    owner pin = some i

/-- The call opens or looks up a file that the thread may open, or uses a descriptor that the
thread has open; what it writes to the export file is a pin of the thread. -/
def KeepsToOwn (owner : Int32 → Option ι) (i : ι) (k : Kernel) : Event Call Reply → Prop
  | ⟨.libc _, _⟩ => True
  | ⟨.open path _, _⟩ | ⟨.stat path, _⟩ => OwnFile owner i path
  | ⟨.close fd, _⟩ | ⟨.read fd _, _⟩ => (k.files fd).isSome
  | ⟨.ioctl fd _, _⟩ | ⟨.ioctlMessage fd _ _, _⟩ => (k.files fd).isSome
  | ⟨.write fd data, _⟩ => ∃ f, k.files fd = some f ∧
    (f.path = exportPath → ∃ pin, owner pin = some i ∧ data = bytes (decimal pin.toInt))

/-- The kernel `k`, which started as `k₀`, is made of a kernel for each thread. The descriptors
that came into use since then are each held by one thread. -/
structure DividedKernel [DecidableEq ι] (owner : Int32 → Option ι) (k₀ k : Kernel)
    (t : ι → Kernel) (holder : Int32 → Option ι) : Prop where
  /-- A pin is as its owner sees it. -/
  pins : ∀ i pin, owner pin = some i → (t i).pins pin = k.pins pin
  /-- A pin without an owner is as it was. -/
  others : ∀ pin, owner pin = none → k.pins pin = k₀.pins pin
  /-- A thread sees the descriptors it holds, and no others. -/
  files : ∀ i fd, (t i).files fd = if holder fd = some i then k.files fd else none
  /-- They are open on files that it may open, and were not in use at the start. -/
  own : ∀ i fd, holder fd = some i →
    k₀.files fd = none ∧ ∃ f, k.files fd = some f ∧ OwnFile owner i f.path
  /-- A descriptor that no thread holds is as it was. -/
  held : ∀ fd, holder fd = none → k.files fd = k₀.files fd

/-! ## The files of a thread -/

section Files

variable {owner : Int32 → Option ι} {i : ι} {pin : Int32}

/-- A direction file of a thread is that of a pin it owns. -/
theorem OwnFile.owner_direction (h : OwnFile owner i (directionPath pin)) : owner pin = some i :=
  h.ofPin pin (Or.inr (Or.inl rfl))

/-- A value file of a thread is that of a pin it owns. -/
theorem OwnFile.owner_value (h : OwnFile owner i (valuePath pin)) : owner pin = some i :=
  h.ofPin pin (Or.inr (Or.inr rfl))

/-- A directory of a thread is that of a pin it owns. -/
theorem OwnFile.owner_gpio (h : OwnFile owner i (gpioPath pin)) : owner pin = some i :=
  h.ofPin pin (Or.inl rfl)

/-- Any thread may open the export file. -/
theorem OwnFile.export : OwnFile owner i exportPath where
  ne_unexport := by decide
  ofPin q h := by
    have hne := (gpioPath_append_ne q []).1
    rw [List.append_nil] at hne
    obtain h | h | h := h
    · exact absurd h.symm hne
    · exact absurd h.symm (gpioPath_append_ne q _).1
    · exact absurd h.symm (gpioPath_append_ne q _).1

/-- The owner of a pin may look up its directory. -/
theorem OwnFile.gpio (hpin : owner pin = some i) : OwnFile owner i (gpioPath pin) where
  ne_unexport := by
    have hne := (gpioPath_append_ne pin []).2
    rwa [List.append_nil] at hne
  ofPin q h := by
    obtain h | h | h := h
    · rwa [← gpioPath_injective h]
    · exact absurd h (gpioPath_ne_append pin q _)
    · exact absurd h (gpioPath_ne_append pin q _)

/-- It may open its direction file. -/
theorem OwnFile.direction (hpin : owner pin = some i) : OwnFile owner i (directionPath pin) where
  ne_unexport := (gpioPath_append_ne pin _).2
  ofPin q h := by
    obtain h | h | h := h
    · exact absurd h.symm (gpioPath_ne_append q pin _)
    · rwa [← directionPath_injective h]
    · exact absurd h (directionPath_ne_valuePath pin q)

/-- It may open its value file. -/
theorem OwnFile.value (hpin : owner pin = some i) : OwnFile owner i (valuePath pin) where
  ne_unexport := (gpioPath_append_ne pin _).2
  ofPin q h := by
    obtain h | h | h := h
    · exact absurd h.symm (gpioPath_ne_append q pin _)
    · exact absurd h.symm (directionPath_ne_valuePath q pin)
    · rwa [← valuePath_injective h]

/-- Any thread may open a device file. -/
theorem OwnFile.device (rest : List Char) : OwnFile owner i ('/' :: 'd' :: rest) where
  ne_unexport h := absurd (List.cons.inj (List.cons.inj h).2).1 (by decide)
  ofPin q h := by
    obtain h | h | h := h
    · exact absurd (List.cons.inj (List.cons.inj h).2).1 (by decide)
    · exact absurd (List.cons.inj (List.cons.inj h).2).1 (by decide)
    · exact absurd (List.cons.inj (List.cons.inj h).2).1 (by decide)

/-- A file of a thread is there for it if and only if it is there. -/
theorem OwnFile.present_iff {path : List Char} (h : OwnFile owner i path)
    {pins pins' : Int32 → Option Pin} (hpins : ∀ pin, owner pin = some i → pins' pin = pins pin) :
    Present pins' path ↔ Present pins path := by
  refine forall_congr' fun pin => forall_congr' fun hpath => ?_
  rw [hpins pin (h.ofPin pin hpath)]

end Files

/-! ## The descriptors of a thread -/

/-- The descriptor that a system call is made on. -/
def Call.descriptor : Call → Option Int32
  | .close fd | .read fd _ | .write fd _ | .ioctl fd _ | .ioctlMessage fd _ _ => some fd
  | .libc _ | .open .. | .stat _ => none

/-- A thread makes system calls on descriptors that it has open. -/
theorem KeepsToOwn.isSome {owner : Int32 → Option ι} {i : ι} {k : Kernel}
    {e : Event Call Reply} {fd : Int32} (h : KeepsToOwn owner i k e)
    (hfd : e.call.descriptor = some fd) : (k.files fd).isSome := by
  obtain ⟨call, reply⟩ := e
  cases call with
  | close fd' | read fd' | ioctl fd' | ioctlMessage fd' =>
    obtain rfl : fd' = fd := Option.some.inj hfd
    exact h
  | write fd' data =>
    obtain rfl : fd' = fd := Option.some.inj hfd
    obtain ⟨f, hf, -⟩ := h
    rw [hf]
    rfl
  | _ => cases hfd

/-! ## Dividing the kernel -/

section Division

variable {owner : Int32 → Option ι} {i : ι} {board : Board} {k₀ k : Kernel} {t : ι → Kernel}

/-- An update of a pin that the thread owns is the same in its own kernel, and no other pin of
another thread is changed by it. -/
theorem update_own {pins pins₁ : Int32 → Option Pin} {pin : Int32} (hpin : owner pin = some i)
    (hpins : ∀ q, owner q = some i → pins₁ q = pins q) (p : Option Pin) :
    (∀ q, owner q = some i → Function.update pins₁ pin p q = Function.update pins pin p q) ∧
      ∀ q, owner q ≠ some i → Function.update pins pin p q = pins q := by
  constructor
  · intro q hq
    by_cases hne : q = pin
    · rw [hne, Function.update_self, Function.update_self]
    · rw [Function.update_of_ne hne, Function.update_of_ne hne, hpins q hq]
  · intro q hq
    have hne : q ≠ pin := by
      rintro rfl
      exact hq hpin
    rw [Function.update_of_ne hne]

/-- An accepted write to a file of a thread changes pins of the thread only, and would be
accepted by a kernel with the same pins of the thread. -/
theorem SysfsWrite.own {pins pins₁ pins' : Int32 → Option Pin} {path : List Char}
    {data : List UInt8} (h : SysfsWrite board pins path data pins') (hown : OwnFile owner i path)
    (hexport : path = exportPath → ∃ pin, owner pin = some i ∧ data = bytes (decimal pin.toInt))
    (hpins : ∀ q, owner q = some i → pins₁ q = pins q) :
    ∃ pins₁', SysfsWrite board pins₁ path data pins₁' ∧
      (∀ q, owner q = some i → pins₁' q = pins' q) ∧
        ∀ q, owner q ≠ some i → pins' q = pins q := by
  cases h with
  | exportPin pin p havailable hnone hdirection =>
    obtain ⟨q, hq, hdata⟩ := hexport rfl
    obtain rfl : pin = q := Int32.toInt_inj.mp (bytes_decimal_injective hdata)
    exact ⟨_, .exportPin pin p havailable (by rw [hpins pin hq, hnone]) hdirection,
      update_own hq hpins _⟩
  | unexportPin pin p => exact absurd rfl hown.ne_unexport
  | directionOut pin p hp =>
    have hpin := hown.owner_direction
    exact ⟨_, .directionOut pin p (by rw [hpins pin hpin, hp]), update_own hpin hpins _⟩
  | directionIn pin p level hp =>
    have hpin := hown.owner_direction
    exact ⟨_, .directionIn pin p level (by rw [hpins pin hpin, hp]), update_own hpin hpins _⟩
  | value pin level high hp =>
    have hpin := hown.owner_value
    exact ⟨_, .value pin level high (by rw [hpins pin hpin, hp]), update_own hpin hpins _⟩
  | device _ _ hnot => exact ⟨pins₁, .device path data hnot, hpins, fun _ _ => rfl⟩

variable [DecidableEq ι]

variable {holder : Int32 → Option ι} {fd : Int32} {f : OpenFile}

/-- What a thread has open is open, and the thread holds it. -/
theorem DividedKernel.open_of_some (h : DividedKernel owner k₀ k t holder)
    (hf : (t i).files fd = some f) :
    holder fd = some i ∧ k.files fd = some f ∧ OwnFile owner i f.path := by
  rw [h.files i fd] at hf
  split at hf
  · rename_i hholder
    obtain ⟨-, g, hg, hown⟩ := h.own i fd hholder
    obtain rfl : g = f := Option.some.inj (hg.symm.trans hf)
    exact ⟨hholder, hg, hown⟩
  · cases hf

/-- A descriptor that no thread has open is as it was. -/
theorem DividedKernel.rest (h : DividedKernel owner k₀ k t holder)
    (hnone : ∀ i, (t i).files fd = none) : k.files fd = k₀.files fd := by
  refine h.held fd ?_
  by_contra hsome
  obtain ⟨i, hi⟩ := Option.ne_none_iff_exists'.mp hsome
  obtain ⟨-, f, hf, -⟩ := h.own i fd hi
  have hfiles := h.files i fd
  rw [if_pos hi, hf, hnone i] at hfiles
  cases hfiles

/-- The entry of a descriptor changes in the shared table and in that of a thread, and the thread
holds the descriptor from then on if there is an entry. -/
theorem DividedKernel.changed {entry : Option OpenFile} (h : DividedKernel owner k₀ k t holder)
    (hbefore : k₀.files fd = none) (hholder : ∀ j, holder fd = some j → j = i)
    (hown : ∀ f, entry = some f → OwnFile owner i f.path) :
    DividedKernel owner k₀ { k with files := Function.update k.files fd entry }
      (Function.update t i { t i with files := Function.update (t i).files fd entry })
      (Function.update holder fd (entry.map fun _ => i)) := by
  refine ⟨?_, h.others, ?_, ?_, ?_⟩
  · intro j pin hpin
    have hpins := h.pins j pin hpin
    by_cases hj : j = i
    · subst hj
      rwa [Function.update_self]
    · rwa [Function.update_of_ne hj]
  · intro j fd'
    have hfiles := h.files j fd'
    by_cases hj : j = i <;> by_cases hfd : fd' = fd
    · subst hj hfd
      cases entry <;> simp
    · subst hj
      simpa [hfd] using hfiles
    · subst hfd
      have hother : ¬holder fd' = some j := fun hsome => hj (hholder j hsome)
      rw [if_neg hother] at hfiles
      cases entry <;> simp [hj, Ne.symm hj, hfiles]
    · simpa [hj, hfd] using hfiles
  · intro j fd' hj
    by_cases hfd : fd' = fd
    · subst hfd
      rw [Function.update_self] at hj
      obtain ⟨f, rfl, rfl⟩ := Option.map_eq_some_iff.mp hj
      exact ⟨hbefore, f, Function.update_self .., hown f rfl⟩
    · simpa [hfd] using h.own j fd' (by simpa [hfd] using hj)
  · intro fd' hnone
    by_cases hfd : fd' = fd
    · subst hfd
      rw [Function.update_self, Option.map_eq_none_iff] at hnone
      simp [hnone, hbefore]
    · simpa [hfd] using h.held fd' (by simpa [hfd] using hnone)

/-- A thread opens a file of its own. -/
theorem DividedKernel.opened {path : List Char} (h : DividedKernel owner k₀ k t holder)
    (hfree : k.files fd = none) (hown : OwnFile owner i path) :
    DividedKernel owner k₀ (k.opened fd path) (Function.update t i ((t i).opened fd path))
      (Function.update holder fd (some i)) := by
  have hnone : ∀ j, holder fd ≠ some j := by
    intro j hj
    obtain ⟨-, f, hf, -⟩ := h.own j fd hj
    rw [hfree] at hf
    cases hf
  have hbefore : k₀.files fd = none := by
    rw [← h.held fd (Option.eq_none_iff_forall_ne_some.mpr hnone), hfree]
  refine h.changed hbefore (fun j hj => absurd hj (hnone j)) fun f hf => ?_
  obtain rfl := Option.some.inj hf
  exact hown

/-- A thread closes a descriptor that it holds. -/
theorem DividedKernel.closed (h : DividedKernel owner k₀ k t holder)
    (hholder : holder fd = some i) :
    DividedKernel owner k₀ (k.closed fd) (Function.update t i ((t i).closed fd))
      (Function.update holder fd none) := by
  refine h.changed (h.own i fd hholder).1 (fun j hj => ?_) fun f hf => by cases hf
  exact Option.some.inj (hj.symm.trans hholder)

/-- A thread sets up a device that it has open. -/
theorem DividedKernel.configured (h : DividedKernel owner k₀ k t holder)
    (hf : (t i).files fd = some f) (request : Ioctl) :
    DividedKernel owner k₀ (k.configured fd f request)
      (Function.update t i ((t i).configured fd f request)) holder := by
  obtain ⟨hholder, -, hown⟩ := h.open_of_some hf
  have hsame : (f.configure request).path = f.path := by cases request <;> rfl
  have hstill : Function.update holder fd (some i) = holder := by
    rw [← hholder, Function.update_eq_self]
  rw [← hstill]
  refine h.changed (h.own i fd hholder).1 (fun j hj => ?_) fun g hg => ?_
  · exact Option.some.inj (hj.symm.trans hholder)
  · obtain rfl := Option.some.inj hg
    rwa [hsame]

/-- A thread changes pins of its own. -/
theorem DividedKernel.wrote {pins pins₁ : Int32 → Option Pin}
    (h : DividedKernel owner k₀ k t holder) (hown : ∀ q, owner q = some i → pins₁ q = pins q)
    (hother : ∀ q, owner q ≠ some i → pins q = k.pins q) :
    DividedKernel owner k₀ { k with pins := pins }
      (Function.update t i { t i with pins := pins₁ }) holder := by
  refine ⟨?_, ?_, ?_, h.own, h.held⟩
  · intro j pin hpin
    by_cases hj : j = i
    · subst hj
      rw [Function.update_self]
      exact hown pin hpin
    · rw [Function.update_of_ne hj, h.pins j pin hpin]
      refine (hother pin ?_).symm
      rw [hpin]
      simpa using hj
  · intro pin hpin
    rw [← h.others pin hpin]
    exact hother pin (by simp [hpin])
  · intro j fd'
    have hfiles := h.files j fd'
    by_cases hj : j = i
    · subst hj
      rwa [Function.update_self]
    · rwa [Function.update_of_ne hj]

/-- A system call that leaves the kernel as it is leaves the division as it is. -/
theorem DividedKernel.unchanged (h : DividedKernel owner k₀ k t holder) (i : ι) :
    DividedKernel owner k₀ k (Function.update t i (t i)) holder := by
  rwa [Function.update_eq_self]

/-- A system call that keeps to its thread could be made in its own kernel, and
leaves the kernels of the other threads as they are. -/
theorem DividedKernel.step {e : Event Call Reply} {k' : Kernel}
    (h : DividedKernel owner k₀ k t holder) (hkeeps : KeepsToOwn owner i (t i) e)
    (hstep : kernelStep board k e k') :
    ∃ t' holder', kernelStep board (t i) e t' ∧
      DividedKernel owner k₀ k' (Function.update t i t') holder' := by
  have hpins := h.pins i
  obtain ⟨call, reply⟩ := e
  cases call with
  | libc c =>
    obtain rfl := hstep
    exact ⟨t i, holder, rfl, h.unchanged i⟩
  | «open» path flag =>
    obtain ⟨hneg, rfl⟩ | ⟨hneg, hpresent, hfree, rfl⟩ := hstep
    · exact ⟨t i, holder, Or.inl ⟨hneg, rfl⟩, h.unchanged i⟩
    · refine ⟨_, _, Or.inr ⟨hneg, (hkeeps.present_iff hpins).mpr hpresent, ?_, rfl⟩,
        h.opened hfree hkeeps⟩
      rw [h.files i, hfree, ite_self]
  | close fd =>
    obtain rfl := hstep
    obtain ⟨f, hf⟩ := Option.isSome_iff_exists.mp hkeeps
    exact ⟨_, _, rfl, h.closed (h.open_of_some hf).1⟩
  | read fd count =>
    obtain ⟨rfl, hread⟩ := hstep
    refine ⟨t i, holder, ⟨rfl, fun data hdata => ?_⟩, h.unchanged i⟩
    obtain ⟨f, hf⟩ := Option.isSome_iff_exists.mp hkeeps
    obtain ⟨-, hopen, hown⟩ := h.open_of_some hf
    obtain ⟨hlength, g, hg, hcontents⟩ := hread data hdata
    obtain rfl : g = f := Option.some.inj (hg.symm.trans hopen)
    refine ⟨hlength, g, hf, fun pin p hpath hp => hcontents pin p hpath ?_⟩
    rw [hpath] at hown
    rw [← hpins pin hown.owner_value, hp]
  | write fd data =>
    obtain ⟨f, hf, hexport⟩ := hkeeps
    obtain ⟨-, hopen, hown⟩ := h.open_of_some hf
    obtain ⟨hneg, rfl⟩ | ⟨hneg, hlength, g, pins', hg, hwrite, rfl⟩ := hstep
    · exact ⟨t i, holder, Or.inl ⟨hneg, rfl⟩, h.unchanged i⟩
    · obtain rfl : g = f := Option.some.inj (hg.symm.trans hopen)
      obtain ⟨pins₁, hwrite₁, hsame, hother⟩ := hwrite.own hown hexport hpins
      exact ⟨_, holder, Or.inr ⟨hneg, hlength, g, pins₁, hf, hwrite₁, rfl⟩, h.wrote hsame hother⟩
  | stat path =>
    obtain ⟨rfl, hpresent⟩ := hstep
    exact ⟨t i, holder, ⟨rfl, fun hst => (hkeeps.present_iff hpins).mpr (hpresent hst)⟩,
      h.unchanged i⟩
  | ioctl fd request =>
    obtain ⟨hneg, rfl⟩ | ⟨hneg, g, hg, rfl⟩ := hstep
    · exact ⟨t i, holder, Or.inl ⟨hneg, rfl⟩, h.unchanged i⟩
    · obtain ⟨f, hf⟩ := Option.isSome_iff_exists.mp hkeeps
      obtain ⟨-, hopen, -⟩ := h.open_of_some hf
      obtain rfl : g = f := Option.some.inj (hg.symm.trans hopen)
      exact ⟨_, holder, Or.inr ⟨hneg, g, hf, rfl⟩, h.configured hf request⟩
  | ioctlMessage fd tx length =>
    obtain rfl := hstep
    exact ⟨t i, holder, rfl, h.unchanged i⟩

/-- What succeeds for a thread succeeds in its own kernel. -/
theorem DividedKernel.reliable {e : Event Call Reply} (h : DividedKernel owner k₀ k t holder)
    (hkeeps : KeepsToOwn owner i (t i) e) (hreliable : Reliable k e) : Reliable (t i) e := by
  have hpins := h.pins i
  obtain ⟨call, reply⟩ := e
  cases call with
  | «open» path flag =>
    rintro ⟨pin, hsome, hpath⟩
    have hpin : owner pin = some i := by
      obtain rfl | rfl := hpath
      · exact OwnFile.owner_direction hkeeps
      · exact OwnFile.owner_value hkeeps
    exact hreliable ⟨pin, by rwa [← hpins pin hpin], hpath⟩
  | read fd count =>
    rintro ⟨f, pin, hf, hpath, hsome⟩
    obtain ⟨-, hopen, hown⟩ := h.open_of_some hf
    rw [hpath] at hown
    exact hreliable ⟨f, pin, hopen, hpath, by rwa [← hpins pin hown.owner_value]⟩
  | write fd data =>
    rintro ⟨f, pin, p, hf, hp, hpath⟩
    obtain ⟨-, hopen, hown⟩ := h.open_of_some hf
    have hpin : owner pin = some i := by
      obtain hpath | ⟨hpath, -⟩ := hpath
      · exact OwnFile.owner_direction (hpath ▸ hown)
      · exact OwnFile.owner_value (hpath ▸ hown)
    exact hreliable ⟨f, pin, p, hopen, by rw [← hpins pin hpin, hp], hpath⟩
  | stat path =>
    rintro ⟨pin, hsome, rfl⟩
    exact hreliable ⟨pin, by rwa [← hpins pin (OwnFile.owner_gpio hkeeps)], rfl⟩
  | _ => trivial

end Division

/-! ## The division -/

section Divisions

variable [DecidableEq ι]

/-- The kernel with no descriptor in use. -/
def Kernel.unopened (k : Kernel) : Kernel := ⟨fun _ => none, k.pins⟩

/-- At the start no thread holds a descriptor. -/
theorem DividedKernel.start (owner : Int32 → Option ι) (k₀ : Kernel) :
    DividedKernel owner k₀ k₀ (fun _ => k₀.unopened) fun _ => none :=
  ⟨fun _ _ _ => rfl, fun _ _ => rfl, fun _ _ => rfl, fun _ _ h => (by cases h), fun _ _ => rfl⟩

/-- The kernel, of which any system call may fail, can be divided between the threads. -/
def kernelDivision (board : Board) (owner : Int32 → Option ι) (k₀ : Kernel) :
    Division ι (kernel board) (kernel board) where
  madeOf k t := ∃ holder, DividedKernel owner k₀ k t holder
  keeps := KeepsToOwn owner
  step := by
    rintro k t i e k' ⟨holder, h⟩ hkeeps hstep
    obtain ⟨t', holder', ht, h'⟩ := h.step hkeeps hstep
    exact ⟨t', ht, holder', h'⟩

/-- So can the kernel while the accesses to exported pins succeed. -/
def reliableDivision (board : Board) (owner : Int32 → Option ι) (k₀ : Kernel) :
    Division ι (reliableKernel board) (reliableKernel board) where
  madeOf k t := ∃ holder, DividedKernel owner k₀ k t holder
  keeps := KeepsToOwn owner
  step := by
    rintro k t i e k' ⟨holder, h⟩ hkeeps ⟨hstep, hreliable⟩
    obtain ⟨t', holder', ht, h'⟩ := h.step hkeeps hstep
    exact ⟨t', ⟨ht, h.reliable hkeeps hreliable⟩, holder', h'⟩

end Divisions

end McuPeripheral.Linuxdev
