import RoboticCar.Drive.Machine

/-!
# Leaving the fault state

A faulted drive is left only by a completed reset, whose conditions are spread over the request,
`halt` and `finish_reset`.  `Step.pending` says what makes or keeps a reset pending, `Path.since`
turns that into a history, and `fault_left_by_reset` puts the conditions together.
-/

namespace RoboticCar.Driving

open Lib CFloat Motion Navigation Prog

variable {F D : Type} {B : BarcodeReaders}

/-- A call that does not halt the drive: no stop, no terrain fault, and no call of `stop`. -/
def Undisturbed (a : Made F D) : Prop :=
  a.op ≠ .stop ∧ a.op ≠ .terrainFault ∧ ∀ e ∈ a.calls, e.1 ≠ .stop

/-- A reset request at `now` that the motion subsystem granted. -/
def Grants (now : UInt32) (a : Made F D) : Prop :=
  a.op = .reset now ∧ a.ok = true ∧ ⟨.reset, true⟩ ∈ a.calls

theorem ne_stop_of_motion {t : List (Event F)} (h : ∀ e ∈ motion t, e.1 ≠ .stop) :
    ∀ e ∈ t, e.1 ≠ .stop := by
  intro e he hs
  exact h e (List.mem_filter.2 ⟨he, by rw [hs]; rfl⟩) hs

section Reset

variable [CFloat F] [CFloat D]

variable {d d' : Drive F D B}

omit [CFloat F] in
theorem Drive.Halted.not_pending {state : DriveState} (h : d.Halted state d') :
    d'.resetResult ≠ .pending := by
  rw [h.resetResult]
  split
  · decide
  · assumption

omit [CFloat F] in
theorem Drive.finishReset_resetUs (m : Drive F D B) (now : UInt32) :
    (m.finishReset now).resetUs = m.resetUs := by
  have hcases := m.finishReset_cases now
  generalize m.finishReset now = m' at hcases ⊢
  cases hcases <;> rfl

/-- A cycle at most keeps a reset pending. -/
theorem Drive.Cycled.pending {s5 : Bool} (h : Inv s5 d) {frame : Option SensorFrame}
    {feedback : Option (MotionFeedback D)} {u : List (Event F)}
    (hd : d.Cycled s5 frame feedback u d') (hp : d'.resetResult = .pending) :
    d.resetResult = .pending ∧ d'.resetUs = d.resetUs ∧ OnlyReads u := by
  cases hd with
  | off => exact ⟨hp, rfl, nofun⟩
  | noFrame hh => exact absurd hp hh.not_pending
  | blind _ hn => cases hn.symm.trans h.navConfigured
  | @sampled _ _ t _ _ _ _ _ ht _ hu =>
    cases hu with
    | resetting hr => exact ⟨hr, Drive.finishReset_resetUs _ _, by simpa using ht.onlyReads⟩
    | faults _ _ hh => exact absurd hp hh.not_pending
    | idle hr => exact absurd hp hr
    | holds hr _ _ _ _ _ hk => exact absurd (hk.resetResult.symm.trans hp) hr
    | acts hr _ _ _ _ _ ho =>
      cases ho with
      | moves _ hk => exact absurd (hk.resetResult.symm.trans hp) hr
      | halts _ _ _ hh => exact absurd hp hh.not_pending

variable [CDouble F D]

/-- **What makes or keeps a reset pending**: a granted request, or a call that does not disturb
it. -/
theorem Step.pending {s5 : Bool} {a : Made F D} (h : Inv s5 d) (hstep : Step s5 d a d')
    (hp : d'.resetResult = .pending) :
    Grants d'.resetUs a ∨
      (d.resetResult = .pending ∧ d.resetUs = d'.resetUs) ∧ Undisturbed a := by
  obtain ⟨op, calls, ok⟩ := a
  have hcase := hstep.cases h.configured h.detourOff
  have hquiet (hop : op ≠ .stop) (hop' : op ≠ .terrainFault)
      (hu : ∀ e ∈ motion calls, e.1 ≠ .stop) : Undisturbed (⟨op, calls, ok⟩ : Made F D) :=
    ⟨hop, hop', ne_stop_of_motion hu⟩
  generalize hmotion : motion calls = u at hcase hquiet
  cases hcase with
  | config hop hc =>
    refine .inr ⟨⟨hc.resetResult.symm.trans hp, hc.resetUs.symm⟩, hquiet ?_ ?_ (by simp)⟩ <;>
      rintro rfl <;> contradiction
  | start hs =>
    cases hs with
    | refuses => exact .inr ⟨⟨hp, rfl⟩, hquiet (by simp) (by simp) (by simp)⟩
    | starts hready _ _ hr =>
      have hstate := h.resetting (hr.symm.trans hp)
      simp [Drive.startReady, hstate] at hready
  | stop hh | terrainFault hh => exact absurd hp hh.not_pending
  | reset hr =>
    cases hr with
    | refuses => exact .inr ⟨⟨hp, rfl⟩, hquiet (by simp) (by simp) (by simp)⟩
    | denied => exact absurd hp (by simp)
    | granted =>
      refine .inl ⟨rfl, rfl, List.mem_of_mem_filter (p := fun e => e.1.isMotion) ?_⟩
      rw [show calls.filter _ = motion calls from rfl, hmotion]
      simp
  | process hd =>
    obtain ⟨hp', hus, hreads⟩ := hd.pending h hp
    refine .inr ⟨⟨hp', hus.symm⟩, hquiet (by rintro ⟨⟩) (by simp) fun e he => ?_⟩
    rw [hreads e he]
    rintro ⟨⟩

/-- When a cycle completes a reset requested at `requested`: in time, with feedback that is newer
and shows an idle, braked motion subsystem, and no blocker or latched fault left. -/
structure Recovers (d d' : Drive F D B) (frame : SensorFrame) (feedback : MotionFeedback D)
    (requested : UInt32) : Prop where
  inTime : frame.timestampUs - requested < resetWaitUs
  valid : feedback.valid = true
  fresh : frame.timestampUs - feedback.timestampUs ≤ d.navigation.config.maxSampleAgeUs
  after : 0 < (feedback.timestampUs - requested).toInt32
  idle : feedback.state = .idle
  noFault : feedback.fault = .none
  braked : feedback.braked = true
  ready : d'.navigation.readiness frame.timestampUs = .clear
  unlatched : ∃ output navigation,
    d.navigation.process frame (some (Drive.odometryOf feedback)) = some (output, navigation) ∧
    (navigation.lifecycle = .faultLatched →
      navigation.resetFault frame.timestampUs = (true, d'.navigation)) ∧
    d'.navigation.lifecycle = .inactive

omit [CDouble F D] in
/-- A cycle that leaves the fault state completes a reset. -/
theorem Drive.Cycled.leaves_fault {s5 : Bool} (h : Inv s5 d) {frame : Option SensorFrame}
    {feedback : Option (MotionFeedback D)} {u : List (Event F)}
    (hd : d.Cycled s5 frame feedback u d') (hs : d.state = .fault) (hs' : d'.state ≠ .fault) :
    d'.state = .off ∧ d.resetResult = .pending ∧ OnlyReads u ∧
      ∃ f m, frame = some f ∧ feedback = some m ∧ Recovers d d' f m d.resetUs := by
  have hinv := h.cycled hd
  have hrun : d.running = false := congrArg DriveState.running hs
  cases hd with
  | off => exact absurd hs hs'
  | noFrame hh => exact absurd (congrArg Core.state hh.core) hs'
  | blind _ hn => cases hn.symm.trans h.navConfigured
  | @sampled f _ t _ _ output navigation _ ht hn hu =>
    cases hu with
    | faults _ _ hh => exact absurd (congrArg Core.state hh.core) hs'
    | idle => exact absurd hs hs'
    | holds _ _ hm | acts _ _ hm => cases hrun.symm.trans hm
    | resetting hr =>
      have hcases := (d.sampled (feedback.getD noFeedback) (reportsOf t) output
        navigation).finishReset_cases f.timestampUs
      generalize (d.sampled (feedback.getD noFeedback) (reportsOf t) output
        navigation).finishReset f.timestampUs = e at hcases hinv hs' ⊢
      cases hcases with
      | expires | waits => exact absurd hs hs'
      | @finishes n _ htime hfresh hafter hidle hfault hbraked hnav hready =>
        refine ⟨rfl, hr, by simpa using ht.onlyReads, ?_⟩
        rw [Drive.feedbackFresh, Bool.and_eq_true, decide_eq_true_eq] at hfresh
        obtain ⟨⟨-, hconfig, -⟩, -⟩ := Nav.process_latches hn
        have hlife : n.lifecycle = .inactive := by
          cases hl : n.lifecycle with
          | inactive => rfl
          | active => exact absurd (hinv.active.2 hl) (by rintro ⟨⟩)
          | faultLatched => exact absurd (hinv.latched hl) hs'
        cases feedback with
        | none => contradiction
        | some m =>
          refine ⟨f, m, rfl, rfl, htime, hfresh.1, hconfig ▸ hfresh.2, hafter, hidle, hfault,
            hbraked, hready, output, navigation, hn, fun hl => ?_, hlife⟩
          rcases hnav with ⟨-, hreset⟩ | ⟨hno, -⟩
          · exact hreset
          · exact absurd hl hno

/-- **Leaving the fault state.**  A call leaves it only to OFF, as a cycle that completes a reset
which was granted earlier in the run, with no halt since and under `Recovers`. -/
theorem fault_left_by_reset {s5 : Bool} {config : NavConfig F D} {d₀ d d' : Drive F D B}
    {l : List (Made F D)} {a : Made F D} (h₀ : Drive.init config = some d₀) (hl : Runs s5 d₀ l d)
    (hstep : Step s5 d a d') (hs : d.state = .fault) (hs' : d'.state ≠ .fault) :
    d'.state = .off ∧ ∃ frame feedback requested, a.op = .process (some frame) (some feedback) ∧
      (∃ l₁ r l₂, l = l₁ ++ r :: l₂ ∧ Grants requested r ∧ ∀ b ∈ l₂, Undisturbed b) ∧
      Recovers d d' frame feedback requested ∧
      ∀ e ∈ a.calls, e.1.isRequest = false ∧ e.1 ≠ .heartbeat true := by
  have hinv := Inv.runs h₀ hl
  obtain ⟨op, calls, ok⟩ := a
  have hcase := hstep.cases hinv.configured hinv.detourOff
  dsimp only at hcase ⊢
  have hsince (hp : d.resetResult = .pending) :
      ∃ l₁ r l₂, l = l₁ ++ r :: l₂ ∧ Grants d.resetUs r ∧ ∀ b ∈ l₂, Undisturbed b := by
    refine hl.since (I := Inv s5)
      (P := fun us e => e.resetResult = .pending ∧ us = e.resetUs) (fun _ _ _ => Inv.step) ?_
      (Inv.init h₀ s5) ?_ ⟨hp, rfl⟩
    · rintro e b e' us he hb ⟨hp', rfl⟩
      exact (hb.pending he hp').imp id fun h => ⟨⟨h.1.1, h.1.2.symm⟩, h.2⟩
    · rintro us ⟨hp', -⟩
      obtain ⟨n, -, rfl⟩ := Option.map_eq_some_iff.1 h₀
      cases hp'
  generalize hmotion : motion calls = u at hcase
  cases hcase with
  | config _ hc => exact absurd ((congrArg Core.state hc.core).trans hs) hs'
  | start hst =>
    cases hst with
    | refuses => exact absurd hs hs'
    | starts hready _ => simp [Drive.startReady, hs] at hready
  | stop hh =>
    refine absurd ((congrArg Core.state hh.core).trans ?_) hs'
    exact if_pos (.inl hs)
  | reset hr => cases hr <;> exact absurd hs hs'
  | terrainFault hh => exact absurd (congrArg Core.state hh.core) hs'
  | process hd =>
    obtain ⟨hoff, hp, hreads, f, m, rfl, rfl, hrec⟩ := hd.leaves_fault hinv hs hs'
    refine ⟨hoff, f, m, d.resetUs, rfl, hsince hp, hrec, fun e he => ?_⟩
    by_cases hm : e.1.isMotion = true
    · have hread : e.1 = .report := hreads e (hmotion ▸ List.mem_filter.2 ⟨he, hm⟩)
      rw [hread]
      exact ⟨rfl, (by simp)⟩
    · exact PortCall.not_isMotion hm

/-- The calls of the bench up to a granted reset of a terrain fault. -/
def benchReset : List (Op ℚ ℚ × List MotionReport) :=
  benchStart ++ [(.terrainFault, []), (.reset 20000, [])]

/-- On the bench a reset is granted and completed 5 ms later. -/
theorem fault_left_by_reset_bench :
    ∃ d₀ l d a d', Drive.init benchConfig = some d₀ ∧
      Runs false (d₀ : Drive ℚ ℚ benchReaders) l d ∧ Step false d a d' ∧ d.state = .fault ∧
      d'.state = .off ∧ ∃ frame feedback requested,
        a.op = .process (some frame) (some feedback) ∧
        Recovers d d' frame feedback requested := by
  have hrun := runs_obliged false benchDrive benchReset
  have hstep := step_obligedCall false (obliged false benchDrive benchReset).2
    (benchCycle 25000 1000 1000 .idle 0) []
  have hs : (obliged false benchDrive benchReset).2.state = .fault := by decide +kernel
  have hs' : (obligedCall false (obliged false benchDrive benchReset).2
      (benchCycle 25000 1000 1000 .idle 0) []).2.state ≠ .fault := by decide +kernel
  obtain ⟨hoff, frame, feedback, requested, hop, -, hrec, -⟩ :=
    fault_left_by_reset init_benchConfig hrun hstep hs hs'
  exact ⟨_, _, _, _, _, init_benchConfig, hrun, hstep, hs, hoff, frame, feedback, requested, hop,
    hrec⟩

end Reset

end RoboticCar.Driving
