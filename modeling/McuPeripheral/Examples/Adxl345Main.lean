import McuPeripheral.Backends.Ownership
import McuPeripheral.Examples.Adxl345Display
import McuPeripheral.Linuxdev.BusNumbers
import McuPeripheral.Linuxdev.Descriptors

/-!
# The runs of the accelerometer program

`main` creates the bus, opens the device, asks for its identity, sets it up and enters its
loop. It may give up after each of the first three, and it comes back from the loop only by a
double tap.
-/

namespace McuPeripheral.Adxl345

open Calls Libc Linuxdev

/-- The calls that read the parameters and create the bus. -/
def bootCalls (text : Option (List Char)) (buf : Ptr) :
    List (Event Linuxdev.Call Linuxdev.Reply) :=
  ⟨.libc (.getenv "MCUPR_SPI_BUSNUM"), text⟩ ::
    (allocCalls 24 16 24 buf).map fun e => ⟨.libc e.call, e.reply⟩

/-- The bus they create. -/
def createdBus (text : Option (List Char)) (buf : Ptr) : SpiBus :=
  ⟨buf.add 8, ⟨resolveBusnum (envBusnum text), 1000000, .mode3⟩⟩

/-- What a run did on its way through `main`, and its exit status. -/
inductive Phases (n : ℕ) (dev : Int32) :
    List (Event Linuxdev.Call Linuxdev.Reply) → Option Int32 → Prop
  | noBus (text : Option (List Char)) :
      Phases n dev [⟨.libc (.getenv "MCUPR_SPI_BUSNUM"), text⟩,
        ⟨.libc (.calloc (requestedSize 24 24)), none⟩] (some 1)
  | notOpened (text : Option (List Char)) (buf : Ptr)
      (opened : List (Event Linuxdev.Call Linuxdev.Reply)) (r : McuprResult) (fd : Int32) :
      r ≠ .ok → (mcuprSpiOpen (createdBus text buf) dev 0).Path opened (r, fd) →
      Phases n dev (bootCalls text buf ++ opened) (some 1)
  | notDetected (text : Option (List Char)) (buf : Ptr)
      (opened : List (Event Linuxdev.Call Linuxdev.Reply)) (fd : Int32) (reply : TransferReply) :
      (mcuprSpiOpen (createdBus text buf) dev 0).Path opened (.ok, fd) →
      received reply ≠ 0xe5 →
      Phases n dev (bootCalls text buf ++ (opened ++ [transfer fd [0x80, 0] reply])) (some 1)
  | watching (text : Option (List Char)) (buf : Ptr)
      (opened : List (Event Linuxdev.Call Linuxdev.Reply)) (fd : Int32) (reply : TransferReply)
      (setup looped : List (Event (HostCall Linuxdev.Call) (HostReply Linuxdev.Reply)))
      (prev : Acceleration) :
      (mcuprSpiOpen (createdBus text buf) dev 0).Path opened (.ok, fd) →
      received reply = 0xe5 → (adxl345SetupDoubleTap fd).Path setup () →
      (loop (round fd) n .zero).Path looped (.inl prev) →
      Phases n dev (bootCalls text buf ++ (opened ++ transfer fd [0x80, 0] reply ::
        (apiCalls setup ++ apiCalls looped))) none
  | tapped (text : Option (List Char)) (buf : Ptr)
      (opened : List (Event Linuxdev.Call Linuxdev.Reply)) (fd : Int32) (reply : TransferReply)
      (setup looped : List (Event (HostCall Linuxdev.Call) (HostReply Linuxdev.Reply)))
      (c : Int32) (released : List (Event Linuxdev.Call Linuxdev.Reply)) :
      (mcuprSpiOpen (createdBus text buf) dev 0).Path opened (.ok, fd) →
      received reply = 0xe5 → (adxl345SetupDoubleTap fd).Path setup () →
      (loop (round fd) n .zero).Path looped (.inr ()) →
      (mcuprSpiBusRelease (some (createdBus text buf))).Path released () →
      Phases n dev (bootCalls text buf ++ (opened ++ transfer fd [0x80, 0] reply ::
        (apiCalls setup ++ (apiCalls looped ++ ⟨.close fd, c⟩ :: released)))) (some 0)

section Runs

variable {n : ℕ} {bus : Option SpiBus} {dev : Int32}
  {tr : List (Event (HostCall Linuxdev.Call) (HostReply Linuxdev.Reply))} {r : Option Int32}

/-- Every run goes through these phases. -/
theorem main_phases (hpath : (main n bus dev).Path tr r) : Phases n dev (apiCalls tr) r := by
  obtain ⟨_, rfl, hrest₁⟩ := path_printf_bind.mp hpath
  obtain ⟨_, params, _, rfl, hparams, hrest₂⟩ := path_api_bind.mp hrest₁
  obtain ⟨text, rfl, rfl⟩ := mcuprSpiInitParams_path.mp hparams
  obtain ⟨_, ⟨res, bus'⟩, _, rfl, hcreate, hrest₃⟩ := path_api_bind.mp hrest₂
  obtain ⟨rfl, rfl, rfl⟩ | ⟨buf, rfl, rfl, rfl⟩ := mcuprSpiBusCreate_path.mp hcreate
  · obtain ⟨rfl, rfl⟩ := hrest₃
    exact .noBus text
  obtain ⟨opened, ⟨res, fd⟩, _, rfl, hopen, hrest₄⟩ := path_api_bind.mp hrest₃
  rw [Prog.path_ite] at hrest₄
  obtain ⟨hrefused, rfl, rfl⟩ | ⟨hok, hrest₅⟩ := hrest₄
  · simp only [apiCalls_print, apiCalls_append, apiCalls_inHost, List.append_nil]
    exact .notOpened text buf opened res fd hrefused hopen
  obtain rfl : res = .ok := not_not.mp hok
  obtain ⟨_, devid, _, rfl, hread, hrest₆⟩ := Prog.path_bind.mp hrest₅
  obtain ⟨reply, rfl, rfl⟩ := adxl345Read_path.mp hread
  rw [Prog.path_ite] at hrest₆
  obtain ⟨hother, hrest₇⟩ | ⟨hdetected, hrest₇⟩ := hrest₆
  · obtain ⟨_, rfl, rfl, rfl⟩ := path_eprintf_bind.mp hrest₇
    simp only [apiCalls_print, apiCalls_append, apiCalls_inHost, apiCalls_nil, List.append_nil,
      apiCalls_transferTrace]
    exact .notDetected text buf opened fd reply hopen hother
  have hdetected := not_not.mp hdetected
  obtain ⟨_, rfl, hrest₈⟩ := path_printf_bind.mp hrest₇
  obtain ⟨setup, _, _, rfl, hsetup, hrest₉⟩ := Prog.path_bind.mp hrest₈
  obtain ⟨_, rfl, hrest₁₀⟩ := path_printf_bind.mp hrest₉
  obtain ⟨_, rfl, hrest₁₁⟩ := path_printf_bind.mp hrest₁₀
  obtain ⟨looped, result, _, rfl, hloop, hrest₁₂⟩ := Prog.path_bind.mp hrest₁₁
  cases result with
  | inl prev =>
    obtain ⟨rfl, rfl⟩ := hrest₁₂
    simp only [apiCalls_print, apiCalls_append, apiCalls_inHost, List.append_nil,
      apiCalls_transferTrace]
    exact .watching text buf opened fd reply setup looped prev hopen hdetected hsetup hloop
  | inr u =>
    obtain ⟨_, _, _, rfl, hclose, hrest₁₃⟩ := path_api_bind.mp hrest₁₂
    obtain ⟨c, rfl⟩ := mcuprSpiClose_path.mp hclose
    obtain ⟨released, _, _, rfl, hrelease, rfl, rfl⟩ := path_api_bind.mp hrest₁₃
    simp only [apiCalls_print, apiCalls_append, apiCalls_inHost, List.append_nil,
      apiCalls_transferTrace]
    exact .tapped text buf opened fd reply setup looped c released hopen hdetected hsetup hloop
      hrelease

end Runs

/-! ## What a run holds -/

/-- A run of the program, with at most `n` rounds of its loop. -/
structure MainRun (n : ℕ) where
  /-- What the variable `bus` holds before it is set. -/
  bus : Option SpiBus
  /-- What the variable `dev` holds. -/
  dev : Int32
  /-- The calls. -/
  trace : List (Event (HostCall Linuxdev.Call) (HostReply Linuxdev.Reply))
  /-- The exit status, or that the loop goes on. -/
  result : Option Int32
  /-- The program has this execution. -/
  performed : (main n bus dev).Path trace result

/-- The calls of the library. -/
def MainRun.calls {n : ℕ} (run : MainRun n) : List (Event Linuxdev.Call Linuxdev.Reply) :=
  apiCalls run.trace

/-- What a run that made these calls holds: blocks of memory and descriptors. -/
def Holds (calls : List (Event Linuxdev.Call Linuxdev.Reply)) (blocks : Multiset Resource)
    (fds : Multiset Int32) : Prop :=
  heldLedger.Moves 0 calls blocks ∧ fdLedger.Moves 0 calls fds

/-- A run that gave up: what it did last, and what it holds. -/
inductive GaveUp : List (Event Linuxdev.Call Linuxdev.Reply) → Prop
  | noBus (calls : List (Event Linuxdev.Call Linuxdev.Reply)) (size : UInt64) :
      Holds (calls ++ [⟨.libc (.calloc size), none⟩]) 0 0 →
      GaveUp (calls ++ [⟨.libc (.calloc size), none⟩])
  | notOpened (calls : List (Event Linuxdev.Call Linuxdev.Reply)) (buf : Ptr) :
      Holds calls {.block buf} 0 → GaveUp calls
  | notDetected (calls : List (Event Linuxdev.Call Linuxdev.Reply)) (buf : Ptr) (fd : Int32)
      (reply : TransferReply) : received reply ≠ 0xe5 →
      Holds (calls ++ [transfer fd [0x80, 0] reply]) {.block buf} {fd} →
      GaveUp (calls ++ [transfer fd [0x80, 0] reply])

/-- What the exit status says about a run. -/
structure MainRun.Accounts {n : ℕ} (run : MainRun n) : Prop where
  /-- A run that ends with status 0 saw a double tap in its last round and in none before,
  and has given back all it held. -/
  zero : run.result = some 0 → Holds run.calls 0 0 ∧
    ∃ (fd : Int32) (samples : List Sample) (front back : _),
      run.calls = front ++ (samples.flatMap (Sample.calls fd) ++ back) ∧
      ∃ before last, samples = before ++ [last] ∧ last.Taps ∧ ∀ s ∈ before, ¬s.Taps
  /-- A run that has not ended made all its rounds without one, and holds its bus and its
  device. -/
  going : run.result = none → ∃ (buf : Ptr) (fd : Int32) (samples : List Sample) (front : _),
    Holds run.calls {.block buf} {fd} ∧
      run.calls = front ++ samples.flatMap (Sample.calls fd) ∧ samples.length = n ∧
      ∀ s ∈ samples, ¬s.Taps
  /-- A run that ends otherwise gave up, with status 1. -/
  other : run.result ≠ some 0 → run.result ≠ none → run.result = some 1 ∧ GaveUp run.calls

section Holdings

variable {text : Option (List Char)} {buf : Ptr} {n : ℕ} {dev fd : Int32}
  {calls calls' : List (Event Linuxdev.Call Linuxdev.Reply)} {blocks : Multiset Resource}
  {fds : Multiset Int32}

/-- Transfers hand out nothing and take nothing back. -/
theorem Holds.transfers (h : Holds calls blocks fds)
    (htransfers : ∀ e ∈ calls', ∃ fd tx reply, e = transfer fd tx reply) :
    Holds (calls ++ calls') blocks fds := by
  refine ⟨h.1.append (.of_neutral fun e he => ?_), h.2.append (.of_neutral fun e he => ?_)⟩
  · obtain ⟨fd, tx, reply, rfl⟩ := htransfers e he
    exact ⟨rfl, rfl⟩
  · obtain ⟨fd, tx, reply, rfl⟩ := htransfers e he
    exact ⟨rfl, rfl⟩

/-- With the bus a block is held. -/
theorem holds_boot (text : Option (List Char)) (buf : Ptr) :
    Holds (bootCalls text buf) {.block buf} 0 := by
  have hcreate : (mcuprSpiBusCreate none ⟨0, 0, .mode3⟩).Path
      ((allocCalls 24 16 24 buf).map fun e => ⟨.libc e.call, e.reply⟩)
      (.ok, some ⟨buf.add 8, ⟨resolveBusnum 0, 0, .mode3⟩⟩) :=
    mcuprSpiBusCreate_path.mpr (Or.inr ⟨buf, rfl, rfl, rfl⟩)
  constructor
  · obtain ⟨hnomem, -⟩ | ⟨buf', params, -, hbus, hmoves⟩ := moves_spiBusCreate hcreate
    · cases hnomem
    · have hself : buf.add 8 = buf'.add 8 := congrArg SpiBus.self (Option.some.inj hbus)
      have hsame : buf = buf' := by
        have hback := congrArg (Ptr.add · (-8)) hself
        simpa using hback
      rw [hsame] at hmoves ⊢
      exact .neutral rfl rfl hmoves
  · refine .neutral rfl rfl (.of_neutral fun e he => ?_)
    obtain ⟨e, -, rfl⟩ := List.mem_map.mp he
    exact ⟨rfl, rfl⟩

/-- Opening the device keeps its descriptor, or nothing if it fails. -/
theorem holds_open {bus : SpiBus} {r : McuprResult} (h : Holds calls blocks 0)
    (hopen : (mcuprSpiOpen bus dev 0).Path calls' (r, fd)) :
    Holds (calls ++ calls') blocks (if r = .ok then {fd} else 0) := by
  obtain ⟨tr₁, cs, tr₂, rfl, hcs, hcalls⟩ := mcuprSpiOpen_path.mp hopen
  obtain ⟨-, rfl, -⟩ | ⟨_, hmark, -, -⟩ := resolveCsnum_path.mp hcs
  swap
  · exact absurd hmark (by decide)
  rw [List.nil_append]
  obtain ⟨fd, hfd, rfl, rfl, rfl⟩ | ⟨fd, ret, c, hfd, hret, rfl, rfl, rfl⟩ |
    ⟨fd, ret, ret', c, hfd, hret, hret', rfl, rfl, rfl⟩ |
    ⟨fd, ret, ret', hfd, hret, hret', rfl, rfl, rfl⟩ := hcalls
  · exact ⟨h.1.append (.neutral rfl rfl .nil), h.2.append (moves_refused hfd .nil)⟩
  · exact ⟨h.1.append (.neutral rfl rfl (.neutral rfl rfl (.neutral rfl rfl .nil))),
      h.2.append (moves_open hfd (.neutral rfl rfl (moves_close .nil)))⟩
  · exact ⟨h.1.append (.neutral rfl rfl (.neutral rfl rfl (.neutral rfl rfl
        (.neutral rfl rfl .nil)))),
      h.2.append (moves_open hfd (.neutral rfl rfl (.neutral rfl rfl (moves_close .nil))))⟩
  · exact ⟨h.1.append (.neutral rfl rfl (.neutral rfl rfl (.neutral rfl rfl .nil))),
      h.2.append (moves_open hfd (.neutral rfl rfl (.neutral rfl rfl .nil)))⟩

/-- Closing the device and releasing the bus gives back everything. -/
theorem holds_release {c : Int32} {u : Unit} (h : Holds calls {.block buf} {fd})
    (hrelease : (mcuprSpiBusRelease (some (createdBus text buf))).Path calls' u) :
    Holds (calls ++ ⟨.close fd, c⟩ :: calls') 0 0 := by
  have hself : (createdBus text buf).self.add (-8) = buf := by simp [createdBus]
  have hmoves := moves_spiBusRelease hrelease
  rw [hself] at hmoves
  obtain ⟨tr₀, rfl, -⟩ := Prog.path_lift_part.mp hrelease
  refine ⟨h.1.append (.neutral rfl rfl hmoves), h.2.append (moves_close (.of_neutral ?_))⟩
  intro e he
  obtain ⟨e, -, rfl⟩ := List.mem_map.mp he
  exact ⟨rfl, rfl⟩

/-- A setup makes transfers only. -/
theorem transfers_of_setup {u : Unit}
    {setup : List (Event (HostCall Linuxdev.Call) (HostReply Linuxdev.Reply))}
    (hsetup : (adxl345SetupDoubleTap dev).Path setup u) :
    ∀ e ∈ apiCalls setup, ∃ fd tx reply, e = transfer fd tx reply := by
  obtain ⟨r, hcalls⟩ := adxl345SetupDoubleTap_path hsetup
  rw [hcalls]
  intro e he
  simp only [List.mem_cons, List.not_mem_nil, or_false] at he
  rcases he with rfl | rfl | rfl | rfl | rfl | rfl | rfl | rfl <;> exact ⟨_, _, _, rfl⟩

/-- So do rounds. -/
theorem transfers_of_samples {samples : List Sample} :
    ∀ e ∈ samples.flatMap (Sample.calls dev), ∃ fd tx reply, e = transfer fd tx reply := by
  intro e he
  obtain ⟨s, -, he⟩ := List.mem_flatMap.mp he
  simp only [Sample.calls, List.mem_cons, List.not_mem_nil, or_false] at he
  rcases he with rfl | rfl | rfl | rfl | rfl | rfl | rfl <;> exact ⟨_, _, _, rfl⟩

/-- In its loop the program holds its bus and its device. -/
theorem holds_watching {opened : List (Event Linuxdev.Call Linuxdev.Reply)}
    {setup : List (Event (HostCall Linuxdev.Call) (HostReply Linuxdev.Reply))} {u : Unit}
    (reply : TransferReply) (samples : List Sample)
    (hopen : (mcuprSpiOpen (createdBus text buf) dev 0).Path opened (.ok, fd))
    (hsetup : (adxl345SetupDoubleTap fd).Path setup u) :
    Holds (bootCalls text buf ++ (opened ++ transfer fd [0x80, 0] reply ::
      (apiCalls setup ++ samples.flatMap (Sample.calls fd)))) {.block buf} {fd} := by
  have hopened := holds_open (holds_boot text buf) hopen
  rw [if_pos rfl] at hopened
  rw [← List.append_assoc]
  refine hopened.transfers fun e he => ?_
  rcases List.mem_cons.mp he with rfl | he
  · exact ⟨_, _, _, rfl⟩
  · rcases List.mem_append.mp he with he | he
    · exact transfers_of_setup hsetup e he
    · exact transfers_of_samples e he

end Holdings

/-- The program, with a sensor that says who it is and takes its setup. -/
def tapMain : MainRun 10 :=
  let played := (tapHost.scripted .allInputs).hosted.play (main 10 none (-1))
    (.idle, (2, [0, 0xe5]) :: (List.replicate 8 (2, [0, 0]) ++ tapReplies))
  ⟨none, -1, played.trace, played.result, played.performed⟩

end McuPeripheral.Adxl345
