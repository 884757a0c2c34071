import McuPeripheral.Calls.Host
import McuPeripheral.Libc.Formats
import McuPeripheral.Linuxdev.AddressScan
import McuPeripheral.Linuxdev.BusNumbers

/-!
# The program `examples/i2cdetect.c`

It asks every address of a bus for an answer, and prints a table of what it finds. The table
is a format: what every address has answered can be read back from the text. The text is what
the program prints itself; the log of the library goes through a hook of its own.
-/

namespace McuPeripheral.I2cDetect

open Calls Libc Linuxdev

/-- A program linked with the Linux device backend. -/
@[reducible] def Tool (α : Type) : Type :=
  Prog (HostCall Linuxdev.Call) (HostReply Linuxdev.Reply) α

/-- The line above the table. -/
def headerText : List Char := "     0  1  2  3  4  5  6  7  8  9  a  b  c  d  e  f\n".toList

/-- `%02x` of an address. -/
def addressText (address : Int32) : List Char := hexByte address.toUInt32.toUInt8

/-- What is printed for an address. -/
inductive Cell
  | blank
  | silent
  | found
  deriving DecidableEq, Repr

/-- The three texts. -/
def cellText (address : Int32) : Cell → List Char
  | .blank => [' ', ' ', ' ']
  | .silent => ['-', '-', ' ']
  | .found => addressText address ++ [' ']

/-- A text that is printed under a condition. -/
def printIf (c : Prop) [Decidable c] (text : List Char) : Tool Unit :=
  if c then printf text else return ()

/-- What is printed for an address that `mcupr_i2c_open` was called for. -/
def showResult (bus : Option I2cBus) (tmp : UInt8) (dev address : Int32) (result : McuprResult) :
    Tool Unit := do
  if result ≠ .ok then
    printf (cellText address .blank)
  else
    let n ← api (mcuprI2cWrite bus dev [tmp] 0)
    if n < 0 then
      printf (cellText address .silent)
    else
      printf (cellText address .found)

/-- One address in the range that is asked. -/
def ask (bus : Option I2cBus) (tmp : UInt8) (dev address : Int32) : Tool Int32 := do
  let (result, dev) ← api (mcuprI2cOpen bus dev address)
  showResult bus tmp dev address result
  api (mcuprI2cClose bus dev)
  return dev

/-- One address outside of it. -/
def skip (dev address : Int32) : Tool Int32 := do
  printf (cellText address .blank)
  return dev

/-- The range that is asked. -/
def Asked (address : Int32) : Prop := 0x08 ≤ address ∧ address ≤ 0x77

instance : DecidablePred Asked := fun address =>
  inferInstanceAs (Decidable (0x08 ≤ address ∧ address ≤ 0x77))

/-- One address. -/
def visit (bus : Option I2cBus) (tmp : UInt8) (dev address : Int32) : Tool Int32 :=
  if Asked address then ask bus tmp dev address else skip dev address

/-- The body of the loop. The variable `dev` is passed in and out. -/
def body (bus : Option I2cBus) (tmp : UInt8) (dev address : Int32) : Tool Int32 := do
  printIf (address &&& 0x0f = 0x00) (addressText address ++ [':', ' '])
  let dev ← visit bus tmp dev address
  printIf (address &&& 0x0f = 0x0f) ['\n']
  return dev

/-- The loop. -/
def scan (bus : Option I2cBus) (tmp : UInt8) : Int32 → List Int32 → Tool Int32
  | dev, [] => return dev
  | dev, address :: addresses => do
    let dev ← body bus tmp dev address
    scan bus tmp dev addresses

/-- The addresses it goes through. -/
def addresses : List Int32 := (List.range 0x80).map Int32.ofNat

/-- `main`: the exit status. The variables `i2c_bus`, `i2c_dev` and `tmp` are not initialised. -/
def main (bus : Option I2cBus) (dev : Int32) (tmp : UInt8) : Tool Int32 := do
  let params ← api (libc mcuprI2cInitParams)
  let (result, bus) ← api (mcuprI2cBusCreate bus params)
  if result ≠ .ok then return 1
  printf headerText
  let _ ← scan bus tmp dev addresses
  api (mcuprI2cBusRelease bus)
  return 0

/-! ## The table -/

/-- An address with its cell. -/
@[reducible] def Entry : Type := Int32 × Cell

/-- An entry, with what stands in front of it and behind it in its row. -/
def entryText (x : Entry) : List Char :=
  (if x.1 &&& 0x0f = 0x00 then addressText x.1 ++ [':', ' '] else []) ++
    (cellText x.1 x.2 ++ if x.1 &&& 0x0f = 0x0f then ['\n'] else [])

/-- A byte has two hexadecimal digits. -/
theorem length_hexByte (b : UInt8) : (hexByte b).length = 2 := by
  have hlength : (Nat.toDigits 16 b.toNat).length ≤ 2 :=
    (Nat.length_toDigits_le_iff (by decide) (by decide)).mpr b.toNat_lt
  rw [hexByte, List.length_leftpad]
  omega

/-- All cells are as wide. -/
theorem length_cellText (address : Int32) (c : Cell) : (cellText address c).length = 3 := by
  cases c with
  | blank | silent => rfl
  | found => rw [cellText, List.length_append, addressText, length_hexByte, List.length_singleton]

/-- Different cells of an address are different texts. -/
theorem cellText_injective {address : Int32} (h : address ∈ addresses) :
    Function.Injective (cellText address) := by
  have hall : addresses.all (fun address => cellText address .found ≠ [' ', ' ', ' '] ∧
      cellText address .found ≠ ['-', '-', ' ']) = true := by decide +kernel
  obtain ⟨hblank, hsilent⟩ := of_decide_eq_true (List.all_eq_true.mp hall address h)
  intro c c' heq
  cases c with
  | blank =>
    cases c' with
    | blank => rfl
    | silent => simp [cellText] at heq
    | found => exact absurd heq.symm hblank
  | silent =>
    cases c' with
    | blank => simp [cellText] at heq
    | silent => rfl
    | found => exact absurd heq.symm hsilent
  | found =>
    cases c' with
    | blank => exact absurd heq hblank
    | silent => exact absurd heq hsilent
    | found => rfl

/-- The texts of tables over the same addresses differ if the tables do. -/
theorem entries_eq_of_text {entries entries' : List Entry}
    (haddress : entries.map Prod.fst = entries'.map Prod.fst)
    (hmem : ∀ x ∈ entries, x.1 ∈ addresses)
    (htext : entries.flatMap entryText = entries'.flatMap entryText) : entries = entries' := by
  induction entries generalizing entries' with
  | nil => rw [List.map_eq_nil_iff.mp haddress.symm]
  | cons x entries ih =>
    cases entries' with
    | nil => cases haddress
    | cons y entries' =>
      obtain ⟨address, c⟩ := x
      obtain ⟨address', c'⟩ := y
      obtain ⟨rfl, hothers⟩ := List.cons.inj haddress
      simp only [List.flatMap_cons] at htext
      have hlength : (entryText (address, c)).length = (entryText (address, c')).length := by
        simp only [entryText, List.length_append, length_cellText]
      obtain ⟨hentry, hrest⟩ := List.append_inj htext hlength
      have hcell : c = c' :=
        cellText_injective (hmem _ List.mem_cons_self)
          (List.append_cancel_right (List.append_cancel_left hentry))
      rw [hcell, ih hothers (fun x hx => hmem x (List.mem_cons_of_mem _ hx)) hrest]

/-! ## What the bus has answered -/

/-- What an address has answered: the first component is the address that a slave was selected
under last, and a write that follows it is acknowledged or not. -/
def heard : Option Int32 → List (Event Linuxdev.Call Linuxdev.Reply) → List (Int32 × Bool)
  | _, [] => []
  | _, ⟨.ioctl _ (.i2cSlave address), ret⟩ :: tr =>
    heard (if ret < 0 then none else some address) tr
  | some address, ⟨.write _ _, n⟩ :: tr =>
    (address, decide (¬n < 0 ∧ ¬n.toInt32 < 0)) :: heard none tr
  | selected, _ :: tr => heard selected tr

/-- What an entry says was answered. -/
def answer : Entry → Option (Int32 × Bool)
  | (_, .blank) => none
  | (address, .silent) => some (address, false)
  | (address, .found) => some (address, true)

section Heard

variable {selected : Option Int32} {tr : List (Event Linuxdev.Call Linuxdev.Reply)}

/-- Opening a device is no answer. -/
@[simp] theorem heard_open {path : List Char} {flag : OpenFlag} {fd : Int32} :
    heard selected (⟨.open path flag, fd⟩ :: tr) = heard selected tr := by
  cases selected <;> rfl

/-- Nor is closing it. -/
@[simp] theorem heard_close {fd c : Int32} :
    heard selected (⟨.close fd, c⟩ :: tr) = heard selected tr := by
  cases selected <;> rfl

@[simp] theorem heard_closeCalls {dev c : Int32} :
    heard selected (closeCalls dev c ++ tr) = heard selected tr := by
  unfold closeCalls
  split_ifs
  · exact heard_close
  · rfl

@[simp] theorem heard_libc {call : Libc.Call} {r : Libc.Reply call} :
    heard selected (⟨.libc call, r⟩ :: tr) = heard selected tr := by
  cases selected <;> rfl

end Heard

/-! ## Executions -/

section Executions

variable {self : Ptr} {priv : I2cData} {tmp : UInt8} {dev dev' address : Int32}
  {tr : List (Event (HostCall Linuxdev.Call) (HostReply Linuxdev.Reply))}

/-- A text that is printed. -/
theorem printf_path {text : List Char} {u : Unit} (h : (printf text : Tool Unit).Path tr u) :
    tr = [⟨.print .stdout text, ⟨⟩⟩] := Prog.path_ask.mp h

/-- The cell of an address that was opened. -/
def writeCell (n : Int64) : Cell := if ¬n < 0 ∧ ¬n.toInt32 < 0 then .found else .silent

/-- It says whether the write was acknowledged. -/
theorem answer_writeCell (address : Int32) (n : Int64) :
    answer (address, writeCell n) = some (address, decide (¬n < 0 ∧ ¬n.toInt32 < 0)) := by
  unfold writeCell
  split_ifs with hn
  · rw [decide_eq_true hn]
    rfl
  · rw [decide_eq_false hn]
    rfl

/-- An address that was not opened is blank. -/
theorem showResult_failed {bus : Option I2cBus} {result : McuprResult} {u : Unit}
    (hresult : result ≠ .ok) (h : (showResult bus tmp dev address result).Path tr u) :
    tr = [⟨.print .stdout (cellText address .blank), ⟨⟩⟩] := by
  obtain ⟨-, hprint⟩ := (Prog.path_ite.mp h).resolve_right fun h => h.1 hresult
  exact printf_path hprint

/-- One that was opened is written to. -/
theorem showResult_ok {u : Unit} (hdev : ¬dev < 0)
    (h : (showResult (some ⟨self, some priv⟩) tmp dev address .ok).Path tr u) :
    ∃ n, tr = [inHost ⟨.write dev [], n⟩,
      ⟨.print .stdout (cellText address (writeCell n)), ⟨⟩⟩] := by
  obtain ⟨-, hrest⟩ := (Prog.path_ite.mp h).resolve_left fun h => h.1 rfl
  obtain ⟨written, r, _, rfl, hwrite, hprint⟩ := path_api_bind.mp hrest
  obtain ⟨hneg, -⟩ | ⟨n, -, rfl, rfl⟩ := mcuprI2cWrite_path.mp hwrite
  · exact absurd hneg hdev
  refine ⟨n, ?_⟩
  by_cases hn : n < 0
  · rw [if_pos hn] at hprint
    obtain ⟨-, hprint⟩ := (Prog.path_ite.mp hprint).resolve_right fun h => h.1 (by decide)
    rw [printf_path hprint, writeCell, if_neg fun h => h.1 hn]
    rfl
  · rw [if_neg hn] at hprint
    obtain ⟨hneg, hprint⟩ | ⟨hnot, hprint⟩ := Prog.path_ite.mp hprint
    · rw [printf_path hprint, writeCell, if_neg fun h => h.2 hneg]
      rfl
    · rw [printf_path hprint, writeCell, if_pos ⟨hn, hnot⟩]
      rfl

/-- What a part of the scan that is about one address shows and hears of it. -/
structure Shows (address : Int32) (c : Cell)
    (tr : List (Event (HostCall Linuxdev.Call) (HostReply Linuxdev.Reply))) : Prop where
  text : (texts .stdout tr).flatten = cellText address c
  heard : ∀ rest, heard none (apiCalls tr ++ rest) = (answer (address, c)).toList ++ heard none rest

/-- One address in the range that is asked. -/
theorem ask_shows (h : (ask (some ⟨self, some priv⟩) tmp dev address).Path tr dev') :
    (detectAddress (some ⟨self, some priv⟩) tmp dev address).Path (apiCalls tr) dev' ∧
      ∃ c, Shows address c tr := by
  obtain ⟨opened, ⟨result, dev₁⟩, _, rfl, hopen, hrest₁⟩ := path_api_bind.mp h
  obtain ⟨shown, _, _, rfl, hshow, hrest₂⟩ := Prog.path_bind.mp hrest₁
  obtain ⟨closed, _, _, rfl, hclose, rfl, rfl⟩ := path_api_bind.mp hrest₂
  obtain ⟨c, rfl⟩ := mcuprI2cClose_calls.mp hclose
  obtain ⟨fd, hfd, rfl, rfl, rfl⟩ | ⟨fd, ret, c', hfd, hret, rfl, rfl, rfl⟩ |
    ⟨fd, ret, hfd, hret, rfl, rfl, rfl⟩ := mcuprI2cOpen_path.mp hopen
  · obtain rfl := showResult_failed (by decide) hshow
    refine ⟨detectAddress_path.mpr (Or.inl ⟨fd, c, hfd, rfl, by simp⟩), .blank, ?_, fun rest => ?_⟩
    · simp
    · simp [answer]
  · obtain rfl := showResult_failed (by decide) hshow
    refine ⟨detectAddress_path.mpr (Or.inr (Or.inl ⟨fd, ret, c', c, hfd, hret, rfl, by simp⟩)),
      .blank, ?_, fun rest => ?_⟩
    · simp
    · simp [answer, heard, hret]
  · obtain ⟨n, rfl⟩ := showResult_ok hfd hshow
    refine ⟨detectAddress_path.mpr (Or.inr (Or.inr ⟨_, ret, n, c, hfd, hret, rfl, ?_⟩)),
      writeCell n, ?_, fun rest => ?_⟩
    · simp [closeCalls, Int32.not_lt.mp hfd]
    · simp
    · rw [answer_writeCell]
      simp only [apiCalls_append, apiCalls_inHost, apiCalls_cons, apiCalls_print,
        List.append_nil, List.cons_append, List.nil_append, heard_open, heard, if_neg hret,
        heard_closeCalls]
      rfl

/-- One address outside of it. -/
theorem skip_shows (h : (skip dev address).Path tr dev') :
    dev' = dev ∧ apiCalls tr = [] ∧ Shows address .blank tr := by
  obtain ⟨_, rfl, rfl, rfl⟩ := path_printf_bind.mp h
  exact ⟨rfl, rfl, by simp, fun rest => by simp [answer]⟩

/-- A text that is printed under a condition. -/
theorem printIf_path {c : Prop} [Decidable c] {text : List Char} {u : Unit}
    (h : (printIf c text).Path tr u) :
    apiCalls tr = [] ∧ (texts .stdout tr).flatten = if c then text else [] := by
  obtain ⟨hc, hprint⟩ | ⟨hc, rfl, -⟩ := Prog.path_ite.mp h
  · rw [printf_path hprint, if_pos hc]
    exact ⟨rfl, by simp⟩
  · rw [if_neg hc]
    exact ⟨rfl, rfl⟩

/-- What the body of the loop comes to for an address. -/
theorem body_shows (h : (body (some ⟨self, some priv⟩) tmp dev address).Path tr dev') :
    ∃ c, (texts .stdout tr).flatten = entryText (address, c) ∧
      (∀ rest, heard none (apiCalls tr ++ rest) =
        (answer (address, c)).toList ++ heard none rest) ∧
      if Asked address then
        (detectAddress (some ⟨self, some priv⟩) tmp dev address).Path (apiCalls tr) dev'
      else dev' = dev ∧ apiCalls tr = [] ∧ c = .blank := by
  obtain ⟨before, _, _, rfl, hbefore, hrest₁⟩ := Prog.path_bind.mp h
  obtain ⟨shown, dev₁, _, rfl, hshown, hrest₂⟩ := Prog.path_bind.mp hrest₁
  obtain ⟨behind, _, _, rfl, hbehind, rfl, rfl⟩ := Prog.path_bind.mp hrest₂
  obtain ⟨hnone, htext⟩ := printIf_path hbefore
  obtain ⟨hnone', htext'⟩ := printIf_path hbehind
  have hcalls : apiCalls (before ++ (shown ++ (behind ++ []))) = apiCalls shown := by
    simp [hnone, hnone']
  have hentry {c : Cell} (hshows : Shows address c shown) :
      (texts .stdout (before ++ (shown ++ (behind ++ [])))).flatten = entryText (address, c) := by
    simp only [texts_append, List.flatten_append, htext, htext', hshows.text, entryText]
    simp
  rw [hcalls]
  obtain ⟨hasked, hpath⟩ | ⟨hasked, hpath⟩ := Prog.path_ite.mp hshown
  · obtain ⟨hdetect, c, hshows⟩ := ask_shows hpath
    exact ⟨c, hentry hshows, hshows.heard, by rwa [if_pos hasked]⟩
  · obtain ⟨rfl, hnocalls, hshows⟩ := skip_shows hpath
    exact ⟨.blank, hentry hshows, hshows.heard, by rw [if_neg hasked]; exact ⟨rfl, hnocalls, rfl⟩⟩

/-- What the loop comes to: a table, and the scan of the addresses that are asked. -/
theorem scan_shows {addresses : List Int32}
    (h : (scan (some ⟨self, some priv⟩) tmp dev addresses).Path tr dev') :
    (scanAddresses (some ⟨self, some priv⟩) tmp dev (addresses.filter Asked)).Path
        (apiCalls tr) dev' ∧
      ∃ entries : List Entry, entries.map Prod.fst = addresses ∧
        (∀ x ∈ entries, x.2 ≠ .blank → Asked x.1) ∧
        (texts .stdout tr).flatten = entries.flatMap entryText ∧
        ∀ rest, heard none (apiCalls tr ++ rest) = entries.filterMap answer ++ heard none rest := by
  induction addresses generalizing dev tr with
  | nil =>
    obtain ⟨rfl, rfl⟩ := h
    exact ⟨⟨rfl, rfl⟩, [], rfl, by simp, rfl, fun _ => rfl⟩
  | cons address addresses ih =>
    obtain ⟨tr₁, dev₁, tr₂, rfl, hbody, hrest⟩ := Prog.path_bind.mp h
    obtain ⟨c, htext, hheard, hdetect⟩ := body_shows hbody
    obtain ⟨hscan, entries, rfl, hasked, htexts, hheards⟩ := ih hrest
    have hcell : c ≠ .blank → Asked address := by
      intro hc
      by_contra hnot
      rw [if_neg hnot] at hdetect
      exact hc hdetect.2.2
    refine ⟨?_, (address, c) :: entries, rfl, List.forall_mem_cons.mpr ⟨hcell, hasked⟩, ?_, ?_⟩
    · rw [apiCalls_append]
      split_ifs at hdetect with haddress
      · rw [List.filter_cons_of_pos (by simpa using haddress)]
        exact Prog.path_bind.mpr ⟨_, dev₁, _, rfl, hdetect, hscan⟩
      · obtain ⟨rfl, hnone, -⟩ := hdetect
        rwa [List.filter_cons_of_neg (by simpa using haddress), hnone]
    · rw [texts_append, List.flatten_append, htext, htexts, List.flatMap_cons]
    · intro rest
      rw [apiCalls_append, List.append_assoc, hheard, hheards]
      cases c <;> rfl

end Executions

/-! ## The table and the answers -/

/-- The cell that goes with some answers. -/
def cellFor (answers : List (Int32 × Bool)) (address : Int32) : Cell :=
  if (address, true) ∈ answers then .found
  else if (address, false) ∈ answers then .silent
  else .blank

/-- The text that goes with some answers. -/
def tableText (answers : List (Int32 × Bool)) : List Char :=
  headerText ++ addresses.flatMap fun address => entryText (address, cellFor answers address)

/-- The answer an entry gives. -/
theorem mem_answers {entries : List Entry} {address : Int32} {acknowledged : Bool} :
    (address, acknowledged) ∈ entries.filterMap answer ↔
      (address, if acknowledged then Cell.found else .silent) ∈ entries := by
  rw [List.mem_filterMap]
  constructor
  · rintro ⟨⟨address', c⟩, hmem, hanswer⟩
    cases c with
    | blank => cases hanswer
    | silent | found =>
      obtain ⟨rfl, rfl⟩ := Prod.mk.inj (Option.some.inj hanswer)
      exact hmem
  · intro hmem
    refine ⟨_, hmem, ?_⟩
    cases acknowledged <;> rfl

/-- The addresses are different ones. -/
theorem nodup_addresses : addresses.Nodup := by
  refine List.Nodup.map_on ?_ List.nodup_range
  intro m hm n hn h
  have hm' : m < 2 ^ 31 := (List.mem_range.mp hm).trans (by decide)
  have hn' : n < 2 ^ 31 := (List.mem_range.mp hn).trans (by decide)
  have hint := congrArg Int32.toInt h
  rw [Int32.toInt_ofNat_of_lt hm', Int32.toInt_ofNat_of_lt hn'] at hint
  exact Int.ofNat_inj.mp hint

/-- A table over different addresses can be filled in from its answers. -/
theorem cellFor_answers {entries : List Entry} (hnodup : (entries.map Prod.fst).Nodup)
    {x : Entry} (hx : x ∈ entries) : cellFor (entries.filterMap answer) x.1 = x.2 := by
  have hcell {c : Cell} (hc : (x.1, c) ∈ entries) : c = x.2 :=
    congrArg Prod.snd (List.inj_on_of_nodup_map hnodup hc hx rfl)
  simp only [cellFor, mem_answers, if_true, Bool.false_eq_true, if_false]
  split_ifs with hfound hsilent
  · exact hcell hfound
  · exact hcell hsilent
  · obtain ⟨address, c⟩ := x
    cases c with
    | blank => rfl
    | silent => exact absurd hx hsilent
    | found => exact absurd hx hfound

/-- So its text is that of its answers. -/
theorem tableText_answers {entries : List Entry} (haddress : entries.map Prod.fst = addresses) :
    headerText ++ entries.flatMap entryText = tableText (entries.filterMap answer) := by
  have hnodup : (entries.map Prod.fst).Nodup := by
    rw [haddress]
    exact nodup_addresses
  have hentry : ∀ x ∈ entries,
      entryText x = entryText (x.1, cellFor (entries.filterMap answer) x.1) := by
    intro x hx
    rw [cellFor_answers hnodup hx]
  rw [tableText, ← haddress, List.flatMap_map, List.flatMap_congr hentry]

/-- The answers come in the order of the entries. -/
theorem answers_sublist (entries : List Entry) :
    ((entries.filterMap answer).map Prod.fst).Sublist (entries.map Prod.fst) := by
  induction entries with
  | nil => exact .slnil
  | cons x entries ih =>
    obtain ⟨address, c⟩ := x
    cases c with
    | blank => exact ih.cons address
    | silent | found => exact ih.cons_cons address

/-! ## Runs -/

/-- What the variables of the program hold before they are set. -/
structure Start where
  /-- `i2c_bus`. -/
  bus : Option I2cBus
  /-- `i2c_dev`. -/
  dev : Int32
  /-- `tmp`. -/
  tmp : UInt8

/-- The program. -/
def Start.prog (s : Start) : Tool Int32 := main s.bus s.dev s.tmp

/-- What a run prints. -/
def printed (i : Invocation Start.prog) : List Char := (texts .stdout i.trace).flatten

/-- What the addresses answer in a run. -/
def answers (i : Invocation Start.prog) : List (Int32 × Bool) := heard none (apiCalls i.trace)

/-- The calls of a run without a bus: the variable is read, and there is no memory. -/
def NoBus (calls : List (Event Linuxdev.Call Linuxdev.Reply)) : Prop :=
  ∃ text, calls = [⟨.libc (.getenv "MCUPR_I2C_BUSNUM"), text⟩, ⟨.libc (.calloc 12), none⟩]

/-- The calls of a run with a bus: it is created and scanned, and released. -/
inductive Scanned (s : Start) : List (Event Linuxdev.Call Linuxdev.Reply) → Prop
  | mk (initialised created tr released : List (Event Linuxdev.Call Linuxdev.Reply))
      (params : McuprI2cBusParams) (self : Ptr) (priv : I2cData) (dev' : Int32)
      (hparams : (libc mcuprI2cInitParams).Path initialised params)
      (hcreate : (mcuprI2cBusCreate s.bus params).Path created (.ok, some ⟨self, some priv⟩))
      (hscan : (scanAddresses (some ⟨self, some priv⟩) s.tmp s.dev
        (addresses.filter Asked)).Path tr dev')
      (hrelease : (mcuprI2cBusRelease (some ⟨self, some priv⟩)).Path released ()) :
      Scanned s (initialised ++ (created ++ (tr ++ released)))

/-- A run ends without a bus, or it has scanned one. -/
inductive RunSpec (i : Invocation Start.prog) : Prop
  | noBus (hresult : i.result = 1) (hprinted : printed i = []) (hanswers : answers i = [])
      (hcalls : NoBus (apiCalls i.trace))
  | scanned (entries : List Entry) (hresult : i.result = 0)
      (haddress : entries.map Prod.fst = addresses)
      (hasked : ∀ x ∈ entries, x.2 ≠ .blank → Asked x.1)
      (hprinted : printed i = headerText ++ entries.flatMap entryText)
      (hanswers : answers i = entries.filterMap answer)
      (hcalls : Scanned i.op (apiCalls i.trace))

/-- Every run is one of the two. -/
theorem runSpec (i : Invocation Start.prog) : RunSpec i := by
  obtain ⟨⟨bus, dev, tmp⟩, tr, status, hpath⟩ := i
  obtain ⟨_, params, _, rfl, hparams, hrest₁⟩ := path_api_bind.mp hpath
  obtain ⟨created, ⟨res, bus'⟩, _, rfl, hcreate, hrest₂⟩ := path_api_bind.mp hrest₁
  obtain ⟨text, rfl, -⟩ := mcuprI2cInitParams_path.mp hparams
  obtain ⟨rfl, rfl, rfl⟩ | ⟨p, rfl, hcreated, rfl⟩ := mcuprI2cBusCreate_path.mp hcreate
  · obtain ⟨rfl, rfl⟩ := hrest₂
    exact .noBus rfl (by simp [printed]) (by simp [answers, heard]) ⟨text, by simp⟩
  obtain ⟨-, hrest₃⟩ := (Prog.path_ite.mp hrest₂).resolve_left fun h => h.1 rfl
  obtain ⟨_, rfl, hrest₄⟩ := path_printf_bind.mp hrest₃
  obtain ⟨scanned, dev', _, rfl, hscan, hrest₅⟩ := Prog.path_bind.mp hrest₄
  obtain ⟨released, _, _, rfl, hrelease, rfl, rfl⟩ := path_api_bind.mp hrest₅
  obtain ⟨hdetect, entries, haddress, hasked, htext, hheard⟩ := scan_shows hscan
  have hreleased := mcuprI2cBusRelease_path.mp hrelease
  refine .scanned entries rfl haddress hasked ?_ ?_ ?_
  · simp [printed, htext]
  · simp [answers, hheard, hcreated, hreleased, heard]
  · simp only [apiCalls_append, apiCalls_inHost, apiCalls_print, List.append_nil]
    exact .mk _ _ _ _ _ _ _ _ hparams hcreate hdetect hrelease

/-- **The table can be read back.** Two runs print the same exactly if they end the same way
and the same addresses answered the same. -/
theorem i2cdetect_same_table (i j : Invocation Start.prog) :
    printed i = printed j ↔ i.result = j.result ∧ answers i = answers j := by
  have hheader : ∀ text : List Char, headerText ++ text ≠ [] := by
    intro text h
    exact absurd (List.append_eq_nil_iff.mp h).1 (by decide)
  cases runSpec i with
  | noBus hresult hprinted hanswers =>
    cases runSpec j with
    | noBus hresult' hprinted' hanswers' => simp [*]
    | scanned entries' hresult' _ _ hprinted' =>
      rw [hprinted, hprinted', hresult, hresult']
      exact iff_of_false (hheader _).symm fun h => absurd h.1 (by decide)
  | scanned entries hresult haddress hasked hprinted hanswers =>
    cases runSpec j with
    | noBus hresult' hprinted' hanswers' =>
      rw [hprinted, hprinted', hresult, hresult']
      exact iff_of_false (hheader _) fun h => absurd h.1 (by decide)
    | scanned entries' hresult' haddress' hasked' hprinted' hanswers' =>
      rw [hresult, hresult', eq_self_iff_true, true_and]
      constructor
      · intro htext
        rw [hprinted, hprinted'] at htext
        have hmem : ∀ x ∈ entries, x.1 ∈ addresses := by
          intro x hx
          rw [← haddress]
          exact List.mem_map_of_mem hx
        rw [hanswers, hanswers', entries_eq_of_text (haddress.trans haddress'.symm) hmem
          (List.append_cancel_left htext)]
      · intro hsame
        rw [hprinted, hprinted', tableText_answers haddress, tableText_answers haddress',
          ← hanswers, ← hanswers', hsame]

end McuPeripheral.I2cDetect
