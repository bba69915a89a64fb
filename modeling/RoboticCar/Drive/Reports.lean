import RoboticCar.Drive.Machine

/-!
# Only the right report moves the car on

The reports of a cycle are judged in order against the two stored ids.  `Misplaced` lists those that
have no place in a run, given the ones drained before, and `Distrusted` adds a lost report and
feedback of another command.  Each ends the cycle in a fault without a request, and only a
fault-free completion of its own command leads on: `reports_guard_drive`.
-/

namespace RoboticCar.Driving

open Lib CFloat Motion Navigation Prog

variable {F D : Type} {B : BarcodeReaders}

/-! ## Reports out of place -/

/-- A report that has no place in a run, after the reports `pre` of the cycle: lost, for no command,
first for the cancelled command without being its cancellation, or for the current command without
being the one fault-free completion of a manoeuvre. -/
inductive Misplaced (d : Drive F D B) (pre : List MotionReport) (r : MotionReport) : Prop
  | lost (h : r.lost = true)
  | unnamed (h : r.commandId = 0)
  | notCancelled (h : r.commandId = d.cancelId) (hfirst : ∀ r' ∈ pre, r'.commandId ≠ d.cancelId)
      (ho : r.outcome ≠ .cancelled)
  | notDone (h : r.commandId = d.commandId)
      (hd : d.state ≠ .manoeuvre ∨ r.outcome ≠ .done ∨ r.fault ≠ .none ∨
        ∃ r' ∈ pre, r'.commandId = d.commandId)

/-- What makes a cycle distrust the motion subsystem. -/
inductive Distrusted (d : Drive F D B) (feedback : MotionFeedback D)
    (reports : List MotionReport) : Prop
  | report {pre post : List MotionReport} {r : MotionReport} (h : reports = pre ++ r :: post)
      (hr : Misplaced d pre r)
  | loss (h : feedback.reportLossCount ≠ d.reportLossCount)
  | mismatch (h : d.commandId ≠ 0) (hf : feedback.commandId ≠ d.commandId)

namespace Drive

variable {state : DriveState}

theorem Drained.take_unhealthy {id : UInt8} {acc : Drained} (h : acc.healthy = false)
    (r : MotionReport) : (acc.take state id r).healthy = false := by
  simp only [Drained.take, h]
  split_ifs <;> simp

theorem Drained.take_done_of_done {id : UInt8} {acc : Drained} (h : acc.done)
    (r : MotionReport) : (acc.take state id r).done = true := by
  simp only [Drained.take]
  split_ifs <;> first | exact h | rfl

theorem Drained.take_current {id : UInt8} {acc : Drained} {r : MotionReport} (hid : id ≠ 0)
    (hc : acc.cancelId = 0) (h : r.commandId = id) :
    acc.take state id r =
      if state = .manoeuvre ∧ r.outcome = .done ∧ !acc.done ∧ r.fault = .none then
        { acc with done := true, healthy := acc.healthy && !r.lost }
      else { acc with healthy := false } := by
  simp only [Drained.take, h, hc, hid, if_false, if_true]

theorem judged_cancelId_eq_zero {d : Drive F D B} (hc : d.cancelId = 0)
    (reports : List MotionReport) : (d.judged reports).cancelId = 0 := by
  rcases d.judged_cancelId reports with h | h
  · exact h.trans hc
  · exact h

/-- The cancelled id is in force until its first report. -/
theorem judged_cancelId_of_ne {d : Drive F D B} {reports : List MotionReport}
    (h : ∀ r ∈ reports, r.commandId ≠ d.cancelId) : (d.judged reports).cancelId = d.cancelId := by
  rw [judged]
  split_ifs
  · refine List.foldlRecOn (motive := fun acc : Drained => acc.cancelId = d.cancelId) reports _ rfl
      fun acc hacc r hr => ?_
    have hne := h r hr
    rw [← hacc] at hne
    simp only [Drained.take, hne, if_false]
    split_ifs <;> exact hacc
  · rfl

/-- A report of the command completes it or is unhealthy. -/
theorem judged_current {d : Drive F D B} (hr : d.running) (hid : d.commandId ≠ 0)
    (hc : d.cancelId = 0) {reports : List MotionReport} {r : MotionReport} (hmem : r ∈ reports)
    (h : r.commandId = d.commandId) :
    (d.judged reports).done = true ∨ (d.judged reports).healthy = false := by
  induction reports using List.reverseRecOn with
  | nil => exact absurd hmem List.not_mem_nil
  | append_singleton pre r' ih =>
    rw [judged_append hr, List.foldl_cons, List.foldl_nil]
    rcases List.mem_append.1 hmem with hmem | hmem
    · exact (ih hmem).imp (fun hd => Drained.take_done_of_done hd r')
        fun hu => Drained.take_unhealthy hu r'
    · obtain rfl := List.mem_singleton.1 hmem
      rw [Drained.take_current hid (judged_cancelId_eq_zero hc pre) h]
      split_ifs
      · exact .inl rfl
      · exact .inr rfl

/-- A report out of place makes the reports unhealthy. -/
theorem judged_misplaced {d : Drive F D B} (hr : d.running) (ht : d.core.Tidy)
    {pre post : List MotionReport} {r : MotionReport} (h : Misplaced d pre r) :
    (d.judged (pre ++ r :: post)).healthy = false := by
  rw [judged_append hr, List.foldl_cons]
  refine List.foldlRecOn (motive := fun acc : Drained => acc.healthy = false) post _ ?_
    fun acc hacc r' _ => Drained.take_unhealthy hacc r'
  by_cases h0 : r.commandId = 0
  · simp [Drained.take, h0]
  cases h with
  | lost h =>
    simp only [Drained.take, h]
    split_ifs <;> simp
  | unnamed h => exact absurd h h0
  | notCancelled h hfirst ho =>
    simp [Drained.take, judged_cancelId_of_ne hfirst, ← h, h0, ho]
  | notDone h hd =>
    have hid : d.commandId ≠ 0 := h ▸ h0
    have hc : d.cancelId = 0 := by
      by_contra hc
      exact hid (ht.cancelled hc).1
    by_cases hu : (d.judged pre).healthy = false
    · exact Drained.take_unhealthy hu r
    rw [Drained.take_current hid (judged_cancelId_eq_zero hc pre) h, if_neg]
    rintro ⟨hstate, hdone, hfirst, hfault⟩
    rcases hd with hd | hd | hd | ⟨r', hmem, h'⟩
    · exact hd hstate
    · exact hd hdone
    · exact hd hfault
    · rcases judged_current hr hid hc hmem h' with hdone | hun
      · rw [hdone] at hfirst
        exact absurd hfirst (by simp)
      · exact hu hun

end Drive

/-! ## Cycles -/

section Cycles

/-- The advance or the turn is left: the call asks for motion, or the run goes on in another phase.
-/
def Proceeds (d : Drive F D B) (calls : List (Event F)) (d' : Drive F D B) : Prop :=
  (∃ e ∈ calls, e.1.isRequest = true) ∨
    d'.running = true ∧
      (d'.state ≠ .manoeuvre ∨ d'.advancing ≠ d.advancing ∨ d'.searching = true)

variable {u : List (Event F)}

/-- A manoeuvre goes on until its command is done. -/
theorem Move.done_or_wait {cue : Cue} {c c' : Core} (h : Move cue c u c')
    (hs : c.state = .manoeuvre) (hq : c.searching = false) (ho : c.obstacleActive = false) :
    cue.done ∨ u = [] ∧ c' = c := by
  have hne {state : DriveState} (h : c.state = state) (hm : state ≠ .manoeuvre) : False :=
    hm (h.symm.trans hs)
  cases h with
  | turnWait => exact .inr ⟨rfl, rfl⟩
  | advanced _ _ _ hd | turned _ _ _ hd | missed _ _ _ hd => exact .inl hd
  | found _ hq' | sweep _ hq' => cases hq.symm.trans hq'
  | detour ho' => cases ho.symm.trans ho'
  | brake h | wait h | pause h | steer h | brakeWait h | advance h | turn h | reacquireWait h
  | reacquired h | beginDetour _ h => exact (hne h (by decide)).elim

theorem Tried.done_or_quiet {cue : Cue} {c : Core} (h : Tried cue c u) (hs : c.state = .manoeuvre)
    (hq : c.searching = false) (ho : c.obstacleActive = false) : cue.done ∨ asks u = [] := by
  cases h with
  | quiet h => exact .inr h
  | other _ _ _ hc =>
    rcases hc hs with h | h
    · cases hq.symm.trans h
    · cases ho.symm.trans h
  | first _ h => cases hs.symm.trans h
  | second _ _ _ _ hd => exact .inl hd

variable {d d' : Drive F D B}

theorem not_proceeds {calls : List (Event F)} (hs : d.state = .manoeuvre) (hq : d.searching = false)
    (hu : ∀ e ∈ calls, e.1.isRequest = false) (hd : d'.running →
      d'.state = d.state ∧ d'.advancing = d.advancing ∧ d'.searching = d.searching) :
    ¬Proceeds d calls d' := by
  rintro (⟨e, he, hr⟩ | ⟨hrun, hne⟩)
  · cases hr.symm.trans (hu e he)
  · obtain ⟨hstate, hadv, hsearch⟩ := hd hrun
    rcases hne with hne | hne | hne
    · exact hne (hstate.trans hs)
    · exact hne hadv
    · exact absurd ((hsearch.trans hq).symm.trans hne) nofun

theorem isRequest_of_onlyReads {t : List (Event F)} (ht : OnlyReads t) (hu : asks u = []) :
    ∀ e ∈ t ++ u, e.1.isRequest = false := by
  intro e he
  rcases List.mem_append.1 he with he | he
  · rw [ht e he]
    rfl
  · exact isRequest_of_asks_eq_nil hu he

variable [CFloat F] [CFloat D]

/-- A cycle that leaves a manoeuvre drained its completion. -/
theorem Drive.Cycled.completes {s5 : Bool} (h : Inv s5 d) {frame : Option SensorFrame}
    {feedback : Option (MotionFeedback D)} (hd : d.Cycled s5 frame feedback u d')
    (hs : d.state = .manoeuvre) (hq : d.searching = false) (ho : d.obstacleActive = false)
    (hp : Proceeds d u d') : ∃ r ∈ reportsOf u, d.Completes r := by
  have hrun : d.running := congrArg DriveState.running hs
  have hhalted {m : Drive F D B} {state : DriveState} (hh : m.Halted state d')
      (hst : state.running = false) (hu : ∀ e ∈ u, e.1.isRequest = false) : False := by
    refine not_proceeds hs hq hu (fun hrun' => ?_) hp
    cases hrun'.symm.trans (hh.running_eq.trans hst)
  cases hd with
  | off => exact absurd hp (not_proceeds hs hq (by simp) fun _ => ⟨rfl, rfl, rfl⟩)
  | noFrame hh => exact (hhalted hh rfl (fun _ => isRequest_of_asks_eq_nil rfl)).elim
  | blind _ hn => cases hn.symm.trans h.navConfigured
  | @sampled _ _ t _ _ _ _ _ ht _ hu =>
    cases hu with
    | resetting hr => cases hs.symm.trans (h.resetting hr)
    | faults _ _ hh => exact (hhalted hh rfl (isRequest_of_onlyReads ht.onlyReads rfl)).elim
    | idle _ _ hm => cases hrun.symm.trans hm
    | holds _ _ _ _ _ hcore =>
      refine absurd hp (not_proceeds hs hq (isRequest_of_onlyReads ht.onlyReads ?_) fun _ => ?_)
      · rw [asks_append, asks_stopCalls]
        rfl
      · exact ⟨(congrArg Core.state hcore).trans (Core.requestStop_state _),
          (congrArg Core.advancing hcore).trans (Core.requestStop_advancing _),
          (congrArg Core.searching hcore).trans (Core.requestStop_searching _)⟩
    | acts _ _ _ _ _ _ hout =>
      have hdone (hdone : (d.judged (reportsOf t)).done = true) (v : List (Event F)) :
          ∃ r ∈ reportsOf (t ++ v), d.Completes r := by
        obtain ⟨r, hmem, hc⟩ := Drive.judged_done hdone
        exact ⟨r, by rw [reportsOf_append]; exact List.mem_append_left _ hmem, hc⟩
      cases hout with
      | moves hm =>
        rcases hm.done_or_wait hs hq ho with hdn | ⟨rfl, hcore⟩
        · exact hdone hdn _
        · refine absurd hp
            (not_proceeds hs hq (isRequest_of_onlyReads ht.onlyReads rfl) fun _ => ?_)
          exact ⟨congrArg Core.state hcore, congrArg Core.advancing hcore,
            congrArg Core.searching hcore⟩
      | halts htried _ hst hh =>
        rcases htried.done_or_quiet hs hq ho with hdn | hquiet
        · exact hdone hdn _
        · refine (hhalted hh (by rcases hst with rfl | rfl <;> rfl)
            (isRequest_of_onlyReads ht.onlyReads ?_)).elim
          rw [asks_cons, asks_append, hquiet]
          rfl

omit [CFloat F] [CFloat D] in
theorem Distrusted.not_trusted {feedback : MotionFeedback D} {reports : List MotionReport}
    {output : NavOutput F D} {navigation : Nav F D B} (h : Distrusted d feedback reports)
    (hrun : d.running) (ht : d.core.Tidy) (hh : d.healthyReports feedback reports)
    (hm : (d.sampled feedback reports output navigation).feedbackMatches = true) : False := by
  simp only [Drive.healthyReports, hrun, Bool.true_and, Bool.and_eq_true] at hh
  cases h with
  | report h hr =>
    rw [h, Drive.judged_misplaced hrun ht hr] at hh
    exact absurd hh.1 nofun
  | loss h => simp [h] at hh
  | mismatch h0 hf => simp [Drive.feedbackMatches, Drive.sampled, h0, hf] at hm

/-- A distrusted cycle ends in a fault. -/
theorem Drive.Cycled.faults_of_distrusted {s5 : Bool} (h : Inv s5 d) (ht : d.core.Tidy)
    {frame : Option SensorFrame} {feedback : Option (MotionFeedback D)}
    (hd : d.Cycled s5 frame feedback u d') (hrun : d.running)
    (hbad : Distrusted d (feedback.getD noFeedback) (reportsOf u)) :
    d'.state = .fault ∧ ∀ e ∈ u, e.1.isRequest = false := by
  cases hd with
  | off hc => cases hc.symm.trans h.configured
  | noFrame hh =>
    exact ⟨congrArg Core.state hh.core, fun _ => isRequest_of_asks_eq_nil rfl⟩
  | blind _ hn => cases hn.symm.trans h.navConfigured
  | @sampled _ _ t _ _ _ _ _ hreads _ hu =>
    have hnil := hu.atMostOne.reportsOf_eq_nil
    rw [reportsOf_append, hnil, List.append_nil] at hbad
    cases hu with
    | resetting hr =>
      rw [Drive.running, h.resetting hr] at hrun
      contradiction
    | faults _ _ hh =>
      exact ⟨congrArg Core.state hh.core, isRequest_of_onlyReads hreads.onlyReads rfl⟩
    | idle _ _ hm => cases hrun.symm.trans hm
    | holds _ _ _ hh hm | acts _ _ _ _ hh hm => exact (hbad.not_trusted hrun ht hh hm).elim

variable [CDouble F D]

/-- A call leaves an advance or a turn only if it is a cycle that drained a completion of its
command. -/
theorem Step.completes {s5 : Bool} {a : Made F D} (h : Inv s5 d) (hstep : Step s5 d a d')
    (hs : d.state = .manoeuvre) (hq : d.searching = false) (ho : d.obstacleActive = false)
    (hp : Proceeds d a.calls d') :
    (∃ frame feedback, a.op = .process frame feedback) ∧
      ∃ r ∈ reportsOf a.calls, d.Completes r := by
  obtain ⟨op, calls, ok⟩ := a
  have hcase := hstep.cases h.configured h.detourOff
  have hp' : Proceeds d (motion calls) d' :=
    hp.imp (fun ⟨e, he, hr⟩ => ⟨e, mem_motion_of_isRequest he hr, hr⟩) id
  have hstay (hu : asks (motion calls) = []) (hd : d'.running = true →
      d'.state = d.state ∧ d'.advancing = d.advancing ∧ d'.searching = d.searching) : False :=
    not_proceeds hs hq (fun _ => isRequest_of_asks_eq_nil hu) hd hp'
  have hhalt {state : DriveState} (hh : d.Halted state d') (hst : state.running = false)
      (hu : asks (motion calls) = []) : False :=
    hstay hu fun hrun => absurd (hrun.symm.trans (hh.running_eq.trans hst)) nofun
  rw [← reportsOf_motion]
  generalize motion calls = u at hcase hp' hstay hhalt ⊢
  cases hcase with
  | config _ hc =>
    refine (hstay rfl fun _ => ?_).elim
    exact ⟨congrArg Core.state hc.core, congrArg Core.advancing hc.core,
      congrArg Core.searching hc.core⟩
  | start hst =>
    cases hst with
    | refuses => exact (hstay rfl fun _ => ⟨rfl, rfl, rfl⟩).elim
    | starts hready =>
      simp [Drive.startReady, hs] at hready
  | stop hh =>
    refine (hhalt hh ?_ rfl).elim
    rw [Drive.stopState]
    split <;> rfl
  | reset hr => cases hr <;> exact (hstay rfl fun _ => ⟨rfl, rfl, rfl⟩).elim
  | process hd => exact ⟨⟨_, _, rfl⟩, hd.completes h hs hq ho hp'⟩
  | terrainFault hh => exact (hhalt hh rfl rfl).elim

/-- **Only the right report moves the car on.**  An advance or a turn outside a detour is left only
in a cycle that drained a fault-free completion of its command, and a cycle that is `Distrusted`
ends in a fault without a request. -/
theorem reports_guard_drive {s5 : Bool} {config : NavConfig F D} {d₀ d d' : Drive F D B}
    {l : List (Made F D)} {a : Made F D} (h₀ : Drive.init config = some d₀) (hl : Runs s5 d₀ l d)
    (hstep : Step s5 d a d') :
    (d.state = .manoeuvre → d.searching = false → d.obstacleActive = false →
      Proceeds d a.calls d' →
      (∃ frame feedback, a.op = .process frame feedback) ∧
        ∃ r ∈ reportsOf a.calls, d.Completes r) ∧
    ∀ frame feedback, a.op = .process frame feedback → d.running = true →
      Distrusted d (feedback.getD noFeedback) (reportsOf a.calls) →
      d'.state = .fault ∧ ∀ e ∈ a.calls, e.1.isRequest = false := by
  have hinv := Inv.runs h₀ hl
  have htidy := tidy_runs h₀ hl
  refine ⟨fun hs hq ho hp => hstep.completes hinv hs hq ho hp, ?_⟩
  intro frame feedback hop hrun hbad
  obtain ⟨op, calls, ok⟩ := a
  obtain rfl : op = .process frame feedback := hop
  have hcase := hstep.cases hinv.configured hinv.detourOff
  dsimp only at hcase hbad ⊢
  rw [← reportsOf_motion] at hbad
  have hend : d'.state = .fault ∧ ∀ e ∈ motion calls, e.1.isRequest = false := by
    generalize motion calls = u at hcase hbad ⊢
    cases hcase with
    | config hc => exact absurd hc nofun
    | process hd => exact hd.faults_of_distrusted hinv htidy hrun hbad
  refine ⟨hend.1, fun e he => ?_⟩
  by_contra hr
  have hr : e.1.isRequest := by simpa using hr
  exact absurd (hr.symm.trans (hend.2 e (mem_motion_of_isRequest he hr))) (by decide)

/-- On the bench a left turn is left on its completion, and a report without a command ends it in
a fault. -/
theorem reports_guard_drive_bench :
    ∃ d₀ l d a d' a' d'', Drive.init benchConfig = some d₀ ∧
      Runs false (d₀ : Drive ℚ ℚ benchReaders) l d ∧ d.state = .manoeuvre ∧
      Step false d a d' ∧ Proceeds d a.calls d' ∧ (∃ r ∈ reportsOf a.calls, d.Completes r) ∧
      Step false d a' d'' ∧ d''.state = .fault := by
  have hrun := runs_obliged false benchDrive (benchStart ++ benchLeft)
  have hdone := step_obligedCall false (obliged false benchDrive (benchStart ++ benchLeft)).2
    (benchCycle 70000 1000 1000 .complete 1) [⟨1, .done, .none, false⟩]
  have hbad := step_obligedCall false (obliged false benchDrive (benchStart ++ benchLeft)).2
    (benchCycle 70000 1000 1000 .complete 1) [⟨0, .done, .none, false⟩]
  have hstate : (obliged false benchDrive (benchStart ++ benchLeft)).2.state = .manoeuvre := by
    decide +kernel
  have hproceeds : Proceeds (obliged false benchDrive (benchStart ++ benchLeft)).2
      (obligedCall false (obliged false benchDrive (benchStart ++ benchLeft)).2
        (benchCycle 70000 1000 1000 .complete 1) [⟨1, .done, .none, false⟩]).1.calls
      (obligedCall false (obliged false benchDrive (benchStart ++ benchLeft)).2
        (benchCycle 70000 1000 1000 .complete 1) [⟨1, .done, .none, false⟩]).2 := by
    unfold Proceeds
    decide +kernel
  have hright := (reports_guard_drive init_benchConfig hrun hdone).1 hstate (by decide +kernel)
    (by decide +kernel) hproceeds
  refine ⟨_, _, _, _, _, _, _, init_benchConfig, hrun, hstate, hdone, hproceeds, hright.2, hbad, ?_⟩
  refine ((reports_guard_drive init_benchConfig hrun hbad).2 _ _ rfl (by decide +kernel) ?_).1
  have hreports : reportsOf
      (obligedCall false (obliged false benchDrive (benchStart ++ benchLeft)).2
        (benchCycle 70000 1000 1000 .complete 1) [⟨0, .done, .none, false⟩]).1.calls =
      [] ++ ⟨0, .done, .none, false⟩ :: [] := by decide +kernel
  exact .report hreports (.unnamed rfl)

/-- The bench waits for the cancellation of its command and drains it with a completion behind it:
the second report is an old one, and the turn starts. -/
theorem report_after_cancellation :
    ∃ l d a d', Runs false benchDrive l d ∧ Step false d a d' ∧ d.running = true ∧
      d.cancelId = 1 ∧
      reportsOf a.calls = [⟨1, .cancelled, .none, false⟩, ⟨1, .done, .none, false⟩] ∧
      d'.state = .manoeuvre ∧ ∃ e ∈ a.calls, e.1.isRequest = true := by
  refine ⟨_, _, _, _, runs_obliged false benchDrive (benchStart ++ benchLeft.take 4),
    step_obligedCall false _ (benchCycle 60000 1000 1000 .idle 1)
      [⟨1, .cancelled, .none, false⟩, ⟨1, .done, .none, false⟩], ?_⟩
  decide +kernel

end Cycles

end RoboticCar.Driving
