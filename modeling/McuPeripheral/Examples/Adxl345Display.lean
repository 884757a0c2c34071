import McuPeripheral.Examples.Adxl345
import McuPeripheral.Linuxdev.Devices
import McuPeripheral.Signals.DeadBand

/-!
# What the accelerometer program shows

The loop of the program reads seven registers a round and shows a reading when an axis has
changed significantly. Whatever the transfers answer, what it shows is never more than the
threshold away from the last reading, and it stops in the first round that finds a double
tap.
-/

namespace McuPeripheral.Adxl345

open Calls Linuxdev Signals

/-- The replies to the transfers of a round. -/
structure Sample where
  /-- The low byte of the X-axis. -/
  xLow : TransferReply
  /-- Its high byte. -/
  xHigh : TransferReply
  /-- The low byte of the Y-axis. -/
  yLow : TransferReply
  /-- Its high byte. -/
  yHigh : TransferReply
  /-- The low byte of the Z-axis. -/
  zLow : TransferReply
  /-- Its high byte. -/
  zHigh : TransferReply
  /-- The interrupt source. -/
  source : TransferReply

namespace Sample

/-- The reading of a round. -/
def acceleration (s : Sample) : Acceleration :=
  ⟨axisValue (received s.xLow) (received s.xHigh), axisValue (received s.yLow) (received s.yHigh),
    axisValue (received s.zLow) (received s.zHigh)⟩

/-- The interrupt source reports a double tap. A transfer that fails reads as `0xff` and
counts as one. -/
def Taps (s : Sample) : Prop := received s.source &&& 0x20 ≠ 0

instance (s : Sample) : Decidable s.Taps := inferInstanceAs (Decidable (_ ≠ _))

/-- The system calls of a round. -/
def calls (dev : Int32) (s : Sample) : List (Event Linuxdev.Call Linuxdev.Reply) :=
  [transfer dev [0xb2, 0] s.xLow, transfer dev [0xb3, 0] s.xHigh, transfer dev [0xb4, 0] s.yLow,
    transfer dev [0xb5, 0] s.yHigh, transfer dev [0xb6, 0] s.zLow, transfer dev [0xb7, 0] s.zHigh,
    transfer dev [0xb0, 0] s.source]

end Sample

/-- The readings of several rounds. -/
def readings (samples : List Sample) : List Acceleration := samples.map Sample.acceleration

/-- The texts the program prints, other than for transfers that fail. -/
def shownTexts (tr : List (Event (HostCall Linuxdev.Call) (HostReply Linuxdev.Reply))) :
    List (List Char) := (texts .stdout tr).filter (· ≠ failureText)

/-- One run of the loop, of at most `n` rounds. -/
structure LoopRun (dev : Int32) (n : ℕ) where
  /-- The calls. -/
  trace : List (Event (HostCall Linuxdev.Call) (HostReply Linuxdev.Reply))
  /-- The previous values it goes on from, or that it has stopped. -/
  result : Acceleration ⊕ Unit
  /-- The loop has this execution. -/
  performed : (loop (round dev) n .zero).Path trace result

/-- No axis differs by more than the threshold. -/
def Near (a b : Acceleration) : Prop :=
  |a.x.toInt - b.x.toInt| ≤ 10 ∧ |a.y.toInt - b.y.toInt| ≤ 10 ∧ |a.z.toInt - b.z.toInt| ≤ 10

/-- What a run shows of its samples. -/
structure LoopRun.Shows {dev : Int32} {n : ℕ} (run : LoopRun dev n) (samples : List Sample) :
    Prop where
  /-- The samples are what was transferred. -/
  calls : apiCalls run.trace = samples.flatMap (Sample.calls dev)
  /-- It shows readings, and the double tap when it stops. -/
  shown : shownTexts run.trace = (updates Far .zero (readings samples)).map readingText ++
    if run.result = .inr () then [tapText] else []
  /-- What was shown can be read off the texts. -/
  legible : ∀ as : List Acceleration, shownTexts run.trace =
    as.map readingText ++ (if run.result = .inr () then [tapText] else []) →
      as = updates Far .zero (readings samples)
  /-- In each round the reading shown last is near the one just made. -/
  tracks : ∀ front s back, samples = front ++ s :: back →
    Near s.acceleration ((updates Far .zero (readings (front ++ [s]))).getLastD .zero)
  /-- A reading that is shown is not near the one shown before it. -/
  spaced : (Acceleration.zero :: updates Far .zero (readings samples)).IsChain
    fun before now => ¬Near now before
  /-- It goes on as long as there is no double tap. -/
  goesOn : ∀ prev, run.result = .inl prev → samples.length = n ∧ ∀ s ∈ samples, ¬s.Taps
  /-- It stops in the first round with a double tap. -/
  stops : run.result = .inr () → samples.length ≤ n ∧
    ∃ front last, samples = front ++ [last] ∧ last.Taps ∧ ∀ s ∈ front, ¬s.Taps

/-! ## One round -/

/-- The readings that are far are those that are not near. -/
theorem far_iff {a b : Acceleration} : Far a b ↔ ¬Near a b := by
  unfold Far Near
  rw [axisFar_iff, axisFar_iff, axisFar_iff]
  omega

section Rounds

variable {dev : Int32} {tr tr' : List (Event (HostCall Linuxdev.Call) (HostReply Linuxdev.Reply))}

@[simp] theorem shownTexts_append : shownTexts (tr ++ tr') = shownTexts tr ++ shownTexts tr' := by
  simp [shownTexts]

@[simp] theorem shownTexts_usleep {usec : UInt32} {r : PUnit} :
    shownTexts [⟨.usleep usec, r⟩] = [] := rfl

/-- A transfer shows nothing. -/
@[simp] theorem shownTexts_transferTrace {tx : List UInt8} {reply : TransferReply} :
    shownTexts (transferTrace dev tx reply) = [] := by
  unfold transferTrace
  split <;> rfl

/-- The text of a reading is not that of a failure. -/
theorem readingText_ne (a : Acceleration) : readingText a ≠ failureText := by
  intro h
  have hhead := congrArg List.head? h
  exact absurd hhead (by decide : some 'X' ≠ some 'S')

/-- What `display` prints. -/
theorem display_path {now prev prev' : Acceleration} (hpath : (display now prev).Path tr prev') :
    apiCalls tr = [] ∧ prev' = refresh Far prev now ∧
      shownTexts tr = if Far now prev then [readingText now] else [] := by
  unfold display at hpath
  unfold refresh
  rw [Prog.path_ite] at hpath
  obtain ⟨hfar, _, _, rfl, rfl, rfl⟩ | ⟨hnear, rfl, rfl⟩ := hpath
  · rw [if_pos hfar, if_pos hfar]
    refine ⟨rfl, rfl, ?_⟩
    simp [shownTexts, readingText_ne]
  · rw [if_neg hnear, if_neg hnear]
    exact ⟨rfl, rfl, rfl⟩

/-- A round reads a sample, shows its reading if that is far from the previous one, and stops
if there is a double tap. -/
theorem round_path {prev : Acceleration} {r : Acceleration ⊕ Unit}
    (hpath : (round dev prev).Path tr r) : ∃ s : Sample, apiCalls tr = s.calls dev ∧
      shownTexts tr = (if Far s.acceleration prev then [readingText s.acceleration] else []) ++
        (if s.Taps then [tapText] else []) ∧
      r = if s.Taps then .inr () else .inl (refresh Far prev s.acceleration) := by
  obtain ⟨tr₁, x, _, rfl, hx, hrest₁⟩ := Prog.path_bind.mp hpath
  obtain ⟨tr₂, y, _, rfl, hy, hrest₂⟩ := Prog.path_bind.mp hrest₁
  obtain ⟨tr₃, z, _, rfl, hz, hrest₃⟩ := Prog.path_bind.mp hrest₂
  obtain ⟨tr₄, prev', _, rfl, hdisplay, hrest₄⟩ := Prog.path_bind.mp hrest₃
  obtain ⟨tr₅, source, tr₆, rfl, hsource, hbreak⟩ := Prog.path_bind.mp hrest₄
  obtain ⟨xLow, xHigh, rfl, rfl⟩ := adxl345ReadAxis_path hx
  obtain ⟨yLow, yHigh, rfl, rfl⟩ := adxl345ReadAxis_path hy
  obtain ⟨zLow, zHigh, rfl, rfl⟩ := adxl345ReadAxis_path hz
  obtain ⟨hcalls, rfl, htexts⟩ := display_path hdisplay
  obtain ⟨source, rfl, rfl⟩ := adxl345Read_path.mp hsource
  let s : Sample := ⟨xLow, xHigh, yLow, yHigh, zLow, zHigh, source⟩
  refine ⟨s, ?_⟩
  rw [Prog.path_ite] at hbreak
  obtain ⟨htaps, _, _, rfl, rfl, rfl⟩ | ⟨htaps, _, _, rfl, rfl, rfl⟩ := hbreak
  · have htaps : s.Taps := htaps
    rw [if_pos htaps, if_pos htaps]
    refine ⟨?_, ?_, rfl⟩
    · simp [hcalls]
      rfl
    · simp [htexts]
      rfl
  · have htaps : ¬s.Taps := htaps
    rw [if_neg htaps, if_neg htaps]
    refine ⟨?_, ?_, rfl⟩
    · simp [hcalls]
      rfl
    · simp [htexts]
      rfl

end Rounds

/-! ## Any number of rounds -/

/-- What holds of the samples after some rounds that found no double tap, in the order they
were made. -/
structure Watched (dev : Int32) (samples : List Sample) (prev : Acceleration)
    (tr : List (Event (HostCall Linuxdev.Call) (HostReply Linuxdev.Reply))) : Prop where
  /-- The samples are what was transferred. -/
  calls : apiCalls tr = samples.flatMap (Sample.calls dev)
  /-- What was shown. -/
  shown : shownTexts tr = (updates Far .zero (readings samples)).map readingText
  /-- The previous values are the ones shown last. -/
  prev_eq : prev = shownAfter Far .zero (readings samples)
  /-- There was no double tap. -/
  untapped : ∀ s ∈ samples, ¬s.Taps

/-- What holds of them after the round that found one. -/
structure Stopped (dev : Int32) (samples : List Sample)
    (tr : List (Event (HostCall Linuxdev.Call) (HostReply Linuxdev.Reply))) : Prop where
  /-- The samples are what was transferred. -/
  calls : apiCalls tr = samples.flatMap (Sample.calls dev)
  /-- What was shown. -/
  shown : shownTexts tr = (updates Far .zero (readings samples)).map readingText ++ [tapText]
  /-- The double tap was found in the last round and not before. -/
  tapped : ∃ front last, samples = front ++ [last] ∧ last.Taps ∧ ∀ s ∈ front, ¬s.Taps

/-- The readings of one more round. -/
@[simp] theorem readings_append_one (samples : List Sample) (s : Sample) :
    readings (samples ++ [s]) = readings samples ++ [s.acceleration] := by
  simp [readings]

section Runs

variable {dev : Int32} {n : ℕ} {samples : List Sample} {prev : Acceleration}
  {tr tr' : List (Event (HostCall Linuxdev.Call) (HostReply Linuxdev.Reply))}

/-- What one more round transfers and shows. -/
theorem Watched.more {s : Sample} {stop : List (List Char)} (h : Watched dev samples prev tr)
    (hcalls : apiCalls tr' = s.calls dev)
    (hshown : shownTexts tr' =
      (if Far s.acceleration prev then [readingText s.acceleration] else []) ++ stop) :
    apiCalls (tr ++ tr') = (samples ++ [s]).flatMap (Sample.calls dev) ∧
      shownTexts (tr ++ tr') =
        (updates Far .zero (readings (samples ++ [s]))).map readingText ++ stop := by
  constructor
  · rw [apiCalls_append, h.calls, hcalls, List.flatMap_append, List.flatMap_singleton]
  · rw [shownTexts_append, h.shown, hshown, readings_append_one, updates_append_one, ← h.prev_eq,
      List.map_append, List.append_assoc]
    split <;> rfl

/-- A round that finds no double tap. -/
theorem Watched.goes {prev' : Acceleration} (h : Watched dev samples prev tr)
    (hround : (round dev prev).Path tr' (.inl prev')) :
    ∃ s, Watched dev (samples ++ [s]) prev' (tr ++ tr') := by
  obtain ⟨s, hcalls, hshown, hresult⟩ := round_path hround
  by_cases htaps : s.Taps
  · rw [if_pos htaps] at hresult
    cases hresult
  · rw [if_neg htaps] at hresult hshown
    obtain ⟨hcalls', hshown'⟩ := h.more hcalls hshown
    refine ⟨s, hcalls', by rw [hshown', List.append_nil], ?_, ?_⟩
    · rw [readings_append_one, shownAfter_append_one, ← h.prev_eq]
      exact Sum.inl.inj hresult
    · intro s' hs'
      rcases List.mem_append.mp hs' with hs' | hs'
      · exact h.untapped s' hs'
      · rwa [List.mem_singleton.mp hs']

/-- A round that finds one. -/
theorem Watched.stops {u : Unit} (h : Watched dev samples prev tr)
    (hround : (round dev prev).Path tr' (.inr u)) :
    ∃ s, Stopped dev (samples ++ [s]) (tr ++ tr') := by
  obtain ⟨s, hcalls, hshown, hresult⟩ := round_path hround
  by_cases htaps : s.Taps
  · rw [if_pos htaps] at hshown
    obtain ⟨hcalls', hshown'⟩ := h.more hcalls hshown
    exact ⟨s, hcalls', hshown', samples, s, rfl, htaps, h.untapped⟩
  · rw [if_neg htaps] at hresult
    cases hresult

/-- The loop, after at most `n` rounds: it goes on without a double tap so far, or it has
stopped in the round that found the first one. -/
theorem loop_path {r : Acceleration ⊕ Unit} (hpath : (loop (round dev) n .zero).Path tr r) :
    (∀ prev, r = .inl prev → ∃ samples, samples.length = n ∧ Watched dev samples prev tr) ∧
      ∀ u, r = .inr u → ∃ samples, samples.length ≤ n ∧ Stopped dev samples tr := by
  let I (k : ℕ) (prev : Acceleration) (tr : List _) : Prop :=
    ∃ samples, samples.length = k ∧ Watched dev samples prev tr
  let Q (k : ℕ) (_ : Unit) (tr : List _) : Prop :=
    ∃ samples, samples.length = k ∧ Stopped dev samples tr
  have hstart : I 0 .zero [] := ⟨[], rfl, rfl, rfl, rfl, by simp⟩
  have hgoes : ∀ k prev tr tr' prev', I k prev tr → (round dev prev).Path tr' (.inl prev') →
      I (k + 1) prev' (tr ++ tr') := by
    rintro k prev tr tr' prev' ⟨samples, rfl, hwatched⟩ hround
    obtain ⟨s, hmore⟩ := hwatched.goes hround
    exact ⟨samples ++ [s], by simp, hmore⟩
  have hstops : ∀ k prev tr tr' u, I k prev tr → (round dev prev).Path tr' (.inr u) →
      Q (k + 1) u (tr ++ tr') := by
    rintro k prev tr tr' u ⟨samples, rfl, hwatched⟩ hround
    obtain ⟨s, hstopped⟩ := hwatched.stops hround
    exact ⟨samples ++ [s], by simp, hstopped⟩
  obtain ⟨hgoing, hdone⟩ := loop_invariant hgoes hstops hstart hpath
  rw [Nat.zero_add] at hgoing hdone
  refine ⟨hgoing, fun u h => ?_⟩
  obtain ⟨m, hm, samples, rfl, hstopped⟩ := hdone u h
  exact ⟨samples, hm, hstopped⟩

end Runs

/-- **The display tracks the readings.** In every run of the loop, whatever the transfers
answer, the reading that is shown is in each round within the threshold of the one just made,
readings shown one after the other are not, and the loop stops in the first round that finds a
double tap. -/
theorem adxl345_display_tracks {dev : Int32} {n : ℕ} (run : LoopRun dev n) :
    ∃ samples, run.Shows samples := by
  have htracks : ∀ samples : List Sample, ∀ front s back, samples = front ++ s :: back →
      Near s.acceleration ((updates Far .zero (readings (front ++ [s]))).getLastD .zero) := by
    intro samples front s back _
    have hnear : ¬Far s.acceleration
        (shownAfter Far .zero (readings front ++ [s.acceleration])) :=
      not_far_shownAfter not_far_self s.acceleration
    rwa [shownAfter_eq_getLastD, far_iff, not_not, ← readings_append_one] at hnear
  have hspaced : ∀ samples, (Acceleration.zero :: updates Far .zero (readings samples)).IsChain
      fun before now => ¬Near now before := by
    intro samples
    refine List.IsChain.imp (fun before now hfar => ?_) isChain_updates
    exact far_iff.mp hfar
  have hlegible : ∀ (as shown : List Acceleration) (stop : List (List Char)),
      shown.map readingText ++ stop = as.map readingText ++ stop → as = shown := by
    intro as shown stop h
    exact (List.map_injective_iff.mpr readingText_injective (List.append_cancel_right h)).symm
  obtain ⟨hgoes, hstops⟩ := loop_path run.performed
  cases hresult : run.result with
  | inl prev =>
    obtain ⟨samples, hlength, hwatched⟩ := hgoes prev hresult
    have hshown : shownTexts run.trace = (updates Far .zero (readings samples)).map readingText ++
        if run.result = .inr () then [tapText] else [] := by
      rw [hwatched.shown, hresult, if_neg (by simp), List.append_nil]
    refine ⟨samples, hwatched.calls, hshown, ?_, htracks samples, hspaced samples, ?_, ?_⟩
    · exact fun as h => hlegible as _ _ (hshown.symm.trans h)
    · exact fun _ _ => ⟨hlength, hwatched.untapped⟩
    · intro h
      rw [hresult] at h
      cases h
  | inr u =>
    obtain ⟨samples, hlength, hstopped⟩ := hstops u hresult
    have hshown : shownTexts run.trace = (updates Far .zero (readings samples)).map readingText ++
        if run.result = .inr () then [tapText] else [] := by
      rw [hstopped.shown, if_pos hresult]
    refine ⟨samples, hstopped.calls, hshown, ?_, htracks samples, hspaced samples, ?_, ?_⟩
    · exact fun as h => hlegible as _ _ (hshown.symm.trans h)
    · intro prev h
      rw [hresult] at h
      cases h
    · exact fun _ => ⟨hlength, hstopped.tapped⟩

/-- The replies of a round with this low byte of the X-axis and this interrupt source. -/
def roundReplies (xLow source : UInt8) : List TransferReply :=
  [(2, [0, xLow]), (2, [0, 0]), (2, [0, 0]), (2, [0, 0]), (2, [0, 0]), (2, [0, 0]),
    (2, [0, source])]

/-- The X-axis goes from 100 to 105 and to 111, where there is a double tap. -/
def tapReplies : List TransferReply :=
  roundReplies 100 0 ++ (roundReplies 105 0 ++ roundReplies 111 0x20)

/-- A process with an SPI device, and no variables. -/
def tapHost : DeviceHost := ⟨fun _ => none, 56, spiPath 0 0, _, rfl⟩

/-- The loop, for at most ten rounds. -/
def tapLoop : LoopRun 3 10 :=
  let played := (tapHost.scripted .allInputs).hosted.play (loop (round 3) 10 .zero)
    (.idle, tapReplies)
  ⟨played.trace, played.result, played.performed⟩

/-- The theorem for this run: the reading between the other two is not shown. -/
theorem adxl345_display_tracks_tap : (∃ samples, tapLoop.Shows samples) ∧
    shownTexts tapLoop.trace = ["X:    100, Y:      0, Z:      0\n".toList,
      "X:    111, Y:      0, Z:      0\n".toList, tapText] :=
  ⟨adxl345_display_tracks tapLoop, by decide +kernel⟩

end McuPeripheral.Adxl345
