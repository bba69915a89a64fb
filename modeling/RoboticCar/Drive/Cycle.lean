import RoboticCar.Lib.Run
import RoboticCar.Drive.Phases

/-!
# Calls of the drive and their runs

`Op` lists the calls of the owner, `Step` is one of them with the exchange it had, and a run is a
path of steps, so that frames, feedback, reports and the answers of the port are arbitrary.

Each function has its inversion lemma (`drain_ensures`, `control_ensures`, `process_ensures`,
`start_ensures`, …), and `Step.cases` joins them: what any call of the owner can do.
-/

namespace RoboticCar.Driving

open Lib CFloat Motion Navigation Prog

variable {F D : Type} {B : BarcodeReaders}

/-! ## Reports -/

/-- The report that an event delivers, if it is a read that found one. -/
def reportOf : Event F → Option MotionReport
  | ⟨.report, x⟩ => x
  | _ => none

def reportsOf (t : List (Event F)) : List MotionReport := t.filterMap reportOf

@[simp] theorem reportsOf_append (t u : List (Event F)) :
    reportsOf (t ++ u) = reportsOf t ++ reportsOf u := List.filterMap_append

theorem reportsOf_none (t : List (Event F)) : reportsOf (⟨.report, none⟩ :: t) = reportsOf t := rfl

theorem reportsOf_some (r : MotionReport) (t : List (Event F)) :
    reportsOf (⟨.report, some r⟩ :: t) = r :: reportsOf t := rfl

theorem reportsOf_asks (t : List (Event F)) : reportsOf (asks t) = reportsOf t := by
  rw [reportsOf, asks, List.filterMap_filter]
  refine List.filterMap_congr fun e _ => ?_
  rcases e with ⟨c, x⟩
  cases c <;> rfl

theorem reportsOf_motion (t : List (Event F)) : reportsOf (motion t) = reportsOf t := by
  rw [reportsOf, motion, List.filterMap_filter]
  refine List.filterMap_congr fun e _ => ?_
  rcases e with ⟨c, x⟩
  cases c <;> rfl

theorem AtMostOne.reportsOf_eq_nil {u : List (Event F)} (h : AtMostOne u) : reportsOf u = [] := by
  rw [← reportsOf_asks]
  rcases h with h | ⟨⟨c, x⟩, h | ⟨id, h⟩, he⟩ <;> rw [h]
  · rfl
  · cases c <;> first | rfl | exact absurd he nofun
  · cases c <;> first | rfl | exact absurd he nofun

def OnlyReads (t : List (Event F)) : Prop := ∀ e ∈ t, e.1 = .report

variable {t : List (Event F)}

theorem OnlyReads.motion (h : OnlyReads t) : motion t = t :=
  List.filter_eq_self.2 fun e he => by rw [h e he]; rfl

theorem OnlyReads.asks (h : OnlyReads t) : asks t = t :=
  List.filter_eq_self.2 fun e he => by rw [h e he]; rfl

/-- The exchange reads reports until one read finds none, and at most `n` of them. -/
inductive Drains : ℕ → List (Event F) → Prop
  | full : Drains 0 []
  | empty (n : ℕ) : Drains (n + 1) [⟨.report, none⟩]
  | more {n : ℕ} {t : List (Event F)} (r : MotionReport) (h : Drains n t) :
      Drains (n + 1) (⟨.report, some r⟩ :: t)

theorem Drains.onlyReads {n : ℕ} (h : Drains n t) : OnlyReads t := by
  induction h with
  | full => exact fun e he => absurd he List.not_mem_nil
  | empty => exact fun e he => by rw [List.mem_singleton.1 he]
  | more r _ ih => exact fun e he => (List.mem_cons.1 he).elim (fun h => by rw [h]) (ih e)

namespace Drive

/-- What the reports of a cycle make of the ids and flags of `receive_reports`. -/
def judged (d : Drive F D B) (reports : List MotionReport) : Drained :=
  if d.running then reports.foldl (Drained.take d.state d.commandId) ⟨d.cancelId, true, false⟩
  else ⟨d.cancelId, true, false⟩

/-- The loop over the reports judges them in order. -/
theorem drain_ensures (d : Drive F D B) (n : ℕ) (acc : Drained) :
    (d.drain n acc).Ensures fun t r => Drains n t ∧
      r = if d.running then (reportsOf t).foldl (Drained.take d.state d.commandId) acc
        else acc := by
  induction n generalizing acc with
  | zero =>
    rw [drain, ensures_pure]
    exact ⟨.full, by simp [reportsOf]⟩
  | succ n ih =>
    simp only [drain, call, ensures_bind, ensures_perform]
    intro x
    cases x with
    | none =>
      rw [ensures_pure]
      refine ⟨.empty n, ?_⟩
      rw [List.singleton_append, reportsOf_none]
      simp [reportsOf]
    | some r =>
      refine (ih _).mono fun t a h => ⟨.more r h.1, ?_⟩
      · rw [h.2, List.singleton_append, reportsOf_some, List.foldl_cons]
        split <;> rfl

theorem receiveReports_ensures (d : Drive F D B) :
    d.receiveReports.Ensures fun t acc =>
      Drains reportQueueLen t ∧ acc = d.judged (reportsOf t) :=
  d.drain_ensures _ _

/-! ## A cycle -/

section Cycle

variable [CFloat F] [CFloat D]

/-- How a cycle goes on: a pending reset, a fault, nothing to do, a hold, or a cycle that may move.
-/
inductive Controlled (s5 : Bool) (m : Drive F D B) (now : UInt32) (healthy done : Bool) :
    List (Event F) → Drive F D B → Prop
  | resetting (h : m.resetResult = .pending) :
      Controlled s5 m now healthy done [] (m.finishReset now)
  | faults {d' : Drive F D B} (hr : m.resetResult ≠ .pending)
      (h : m.output.stopRequested = true ∨ m.running = true ∧
        (m.feedbackHealthy now = false ∨ healthy = false ∨ m.feedbackMatches = false))
      (hd : m.Halted .fault d') : Controlled s5 m now healthy done haltCalls d'
  | idle (hr : m.resetResult ≠ .pending) (hs : m.output.stopRequested = false)
      (h : m.running = false) : Controlled s5 m now healthy done [] m
  | holds {d' : Drive F D B} (hr : m.resetResult ≠ .pending)
      (hs : m.output.stopRequested = false) (hrun : m.running = true) (hh : healthy = true)
      (hm : m.feedbackMatches = true) (hc : d'.core = m.core.requestStop) (hk : m.Keeps d') :
      Controlled s5 m now healthy done (m.core.stopCalls ++ [⟨.heartbeat false, ()⟩]) d'
  | acts {u : List (Event F)} {d' : Drive F D B} (hr : m.resetResult ≠ .pending)
      (hs : m.output.stopRequested = false) (hrun : m.running = true)
      (hf : m.feedbackHealthy now = true) (hh : healthy = true) (hm : m.feedbackMatches = true)
      (ho : Outcome (m.cue s5 done) m u d') :
      Controlled s5 m now healthy done (⟨.heartbeat true, ()⟩ :: u) d'

/-- How a cycle goes on. -/
theorem control_ensures [CDouble F D] {s5 : Bool} {m : Drive F D B} {now : UInt32}
    {healthy done : Bool} (ho : m.DetourOff s5) :
    (m.control s5 now healthy done).Ensures fun t d' =>
      Controlled s5 m now healthy done (motion t) d' := by
  have hhalt (reason : Reason) (hr : m.resetResult ≠ .pending)
      (h : m.output.stopRequested = true ∨ m.running = true ∧
        (m.feedbackHealthy now = false ∨ healthy = false ∨ m.feedbackMatches = false)) :
      (m.halt s5 .fault reason).Ensures fun t d' =>
        Controlled s5 m now healthy done (motion t) d' := by
    refine (halt_ensures ho .fault reason).mono fun t d' hd => ?_
    rw [hd.1]
    exact .faults hr h hd.2
  rw [control]
  split_ifs with hreset hstop hfeed hidle hrep hhold
  · exact ensures_pure.2 (.resetting hreset)
  · exact hhalt _ hreset (.inl hstop)
  · exact hhalt _ hreset (.inr ⟨hfeed.1, .inl (by simpa using hfeed.2)⟩)
  · exact ensures_pure.2 (.idle hreset (by simpa using hstop) (by simpa using hidle))
  · refine hhalt _ hreset (.inr ⟨by simpa using hidle, .inr ?_⟩)
    exact hrep.imp (by simp) (by simp)
  · simp only [ensures_bind]
    refine (requestStop_ensures m now).mono fun t d' h => ?_
    simp only [call, ensures_perform, ensures_pure]
    intro _
    have hmotion : motion (t ++ ([⟨.heartbeat false, ()⟩] ++ [])) =
        m.core.stopCalls ++ [⟨.heartbeat false, ()⟩] := by
      rw [motion_append, h.1]
      rfl
    rw [hmotion]
    rw [not_or] at hrep
    exact .holds hreset (by simpa using hstop) (by simpa using hidle) (by simpa using hrep.1)
      (by simpa using hrep.2) h.2.1 h.2.2
  · have hrun : m.running := by simpa using hidle
    rw [not_or] at hrep
    refine (act_outcome hrun ho).mono fun t d' h => ?_
    obtain ⟨u, hu, hout⟩ := h
    rw [hu]
    exact .acts hreset (by simpa using hstop) hrun
      (by by_contra hf; exact hfeed ⟨hrun, by simpa using hf⟩)
      (by simpa using hrep.1) (by simpa using hrep.2) hout

omit [CFloat F] in
theorem Controlled.atMostOne {s5 : Bool} {m d' : Drive F D B} {now : UInt32} {healthy done : Bool}
    {u : List (Event F)} (h : Controlled s5 m now healthy done u d') : AtMostOne u := by
  cases h with
  | acts _ _ _ _ _ _ ho => exact ho.atMostOne.after (t := [_]) rfl
  | holds =>
    left
    rw [asks_append, asks_stopCalls]
    rfl
  | _ => exact .inl rfl

/-- The drive after the reports, the feedback and the frame of a cycle. -/
def sampled (d : Drive F D B) (feedback : MotionFeedback D) (reports : List MotionReport)
    (output : NavOutput F D) (navigation : Nav F D B) : Drive F D B :=
  { d with
    feedback := feedback
    cancelId := (d.judged reports).cancelId
    reportLossCount := feedback.reportLossCount
    output := output
    navigation := navigation }

/-- The reports of a cycle are healthy: none is out of place and none was lost. -/
def healthyReports (d : Drive F D B) (feedback : MotionFeedback D)
    (reports : List MotionReport) : Bool :=
  (d.judged reports).healthy &&
    !(d.running && feedback.reportLossCount ≠ d.reportLossCount)

/-- What a cycle can do: its motion calls and the drive it leaves. -/
inductive Cycled (s5 : Bool) (d : Drive F D B) :
    Option SensorFrame → Option (MotionFeedback D) → List (Event F) → Drive F D B → Prop
  | off {frame : Option SensorFrame} {feedback : Option (MotionFeedback D)}
      (h : d.configured = false) : Cycled s5 d frame feedback [] d
  | noFrame {feedback : Option (MotionFeedback D)} {d' : Drive F D B} (h : d.Halted .fault d') :
      Cycled s5 d none feedback haltCalls d'
  | blind {frame : SensorFrame} {feedback : Option (MotionFeedback D)} {t : List (Event F)}
      {d' : Drive F D B} (ht : Drains reportQueueLen t)
      (hn : d.navigation.configured = false)
      (hd : d'.core = .halted .fault) (hnav : d'.navigation = d.navigation.endRun.2)
      (hr : d'.resetResult = if d.resetResult = .pending then .failed else d.resetResult)
      (hc : d'.configured = d.configured) :
      Cycled s5 d (some frame) feedback (t ++ haltCalls) d'
  | sampled {frame : SensorFrame} {feedback : Option (MotionFeedback D)} {t u : List (Event F)}
      {d' : Drive F D B} {output : NavOutput F D} {navigation : Nav F D B}
      (hc : d.configured = true) (ht : Drains reportQueueLen t)
      (hn : d.navigation.process frame (some (odometryOf (feedback.getD noFeedback))) =
        some (output, navigation))
      (hu : Controlled s5
        (d.sampled (feedback.getD noFeedback) (reportsOf t) output navigation) frame.timestampUs
        (d.healthyReports (feedback.getD noFeedback) (reportsOf t)) (d.judged (reportsOf t)).done
        u d') :
      Cycled s5 d (some frame) feedback (t ++ u) d'

/-- **What a cycle does.** -/
theorem process_ensures [CDouble F D] {s5 : Bool} {d : Drive F D B} (ho : d.DetourOff s5)
    (frame : Option SensorFrame) (feedback : Option (MotionFeedback D)) :
    (d.process s5 frame feedback).Ensures fun t d' => d.Cycled s5 frame feedback (motion t) d' := by
  unfold process
  split_ifs with hc
  · exact ensures_pure.2 (.off (by simpa using hc))
  · cases frame with
    | none =>
      refine (halt_ensures ho .fault .badInput).mono fun t d' h => ?_
      rw [h.1]
      exact .noFrame h.2
    | some frame =>
      rw [ensures_bind]
      refine (receiveReports_ensures _).mono fun t acc h => ?_
      obtain ⟨ht, hacc⟩ := h
      have hjudged : acc = d.judged (reportsOf t) := hacc
      subst hjudged
      rw [navigate]
      split
      · rename_i hn
        have hconf : d.navigation.configured = false := by
          by_contra hconf
          obtain ⟨out, n, h⟩ := Nav.process_isSome (by simpa using hconf) frame
            (some (odometryOf (feedback.getD noFeedback)))
          cases hn.symm.trans h
        refine (halt_ensures ?_ .fault .badInput).mono fun u d' h => ?_
        · exact ho
        · rw [motion_append, ht.onlyReads.motion, h.1]
          exact .blind ht hconf h.2.core h.2.navigation h.2.resetResult h.2.configured
      · rename_i output navigation hn
        refine (control_ensures ?_).mono fun u d' h => ?_
        · exact ho
        · rw [motion_append, ht.onlyReads.motion]
          exact .sampled (by simpa using hc) ht hn h

end Cycle

/-! ## Commands -/

section Commands

variable [CFloat D]

theorem terrainFault_ensures {s5 : Bool} {d : Drive F D B} (ho : d.DetourOff s5) :
    (d.terrainFault s5).Ensures fun t d' =>
      d.configured = false ∧ motion t = [] ∧ d' = d ∨
        motion t = haltCalls ∧ d.Halted .fault d' := by
  rw [terrainFault, ensures_ite]
  refine ⟨fun _ => ?_, fun hc => ?_⟩
  · exact (halt_ensures ho .fault .terrainFault).mono fun t d' h => .inr h
  · exact ensures_pure.2 (.inl ⟨by simpa using hc, rfl, rfl⟩)

/-- The state that `s3_drive_stop` leaves: a fault stays. -/
def stopState (d : Drive F D B) : DriveState :=
  if d.state = .fault ∨ d.navigation.lifecycle = .faultLatched then .fault else .off

theorem stop_ensures {s5 : Bool} {d : Drive F D B} (ho : d.DetourOff s5) :
    (d.stop s5).Ensures fun t d' =>
      d.configured = false ∧ motion t = [] ∧ d' = d ∨
        motion t = haltCalls ∧ d.Halted d.stopState d' := by
  rw [stop, ensures_ite, ensures_ite]
  refine ⟨fun hc => ?_, fun _ => ⟨fun hf => ?_, fun hf => ?_⟩⟩
  · exact ensures_pure.2 (.inl ⟨by simpa using hc, rfl, rfl⟩)
  · rw [stopState, if_pos hf]
    exact (halt_ensures ho .fault d.reason).mono fun t d' h => .inr h
  · rw [stopState, if_neg hf]
    exact (halt_ensures ho .off .ok).mono fun t d' h => .inr h

/-- What `s3_drive_start` can do: refuse and change nothing, or start a run. -/
inductive StartCase (d : Drive F D B) (now : UInt32) :
    List (Event F) → Bool × Drive F D B → Prop
  | refuses : StartCase d now [] (false, d)
  | starts {d' : Drive F D B} (hready : d.startReady now = true)
      (hcore : d'.core = { d.core with state := .follow, pending := .none })
      (hnav : d'.navigation = ((d.navigation.start now).2.setMode .track).2)
      (hr : d'.resetResult = d.resetResult) (hc : d'.configured = d.configured)
      (ho : d'.output = d.output) : StartCase d now [⟨.heartbeat true, ()⟩] (true, d')

/-- What a start does. -/
theorem start_ensures {s5 : Bool} {d : Drive F D B} (now : UInt32) :
    (d.start s5 now).Ensures fun t r => StartCase d now (motion t) r := by
  have hrun (obstacle : Obstacle.Observation) : (d.startRun s5 now obstacle).Ensures fun t r =>
      StartCase d now (motion t) r := by
    rw [startRun]
    split_ifs with hready hs5
    · exact ensures_pure.2 .refuses
    · simp only [call, ensures_bind, ensures_perform, ensures_pure]
      exact fun _ _ => .starts (by simpa using hready) rfl rfl rfl rfl rfl
    · simp only [call, ensures_bind, ensures_perform, ensures_pure]
      exact fun _ => .starts (by simpa using hready) rfl rfl rfl rfl rfl
  rw [start]
  split_ifs with hs5
  · simp only [call, ensures_bind, ensures_perform]
    intro x
    cases x with
    | none => exact ensures_pure.2 .refuses
    | some obstacle =>
      dsimp only
      split_ifs
      · exact ensures_pure.2 .refuses
      · exact hrun obstacle
  · exact hrun .zero

/-- What `s3_drive_reset` can do: nothing, or a stop and a request that is granted or not. -/
inductive ResetCase (d : Drive F D B) (now : UInt32) :
    List (Event F) → Bool × Drive F D B → Prop
  | refuses (h : d.configured = false ∨ d.state ≠ .fault ∨ d.resetResult = .pending) :
      ResetCase d now [] (false, d)
  | denied (hs : d.state = .fault) :
      ResetCase d now (haltCalls ++ [⟨.reset, false⟩]) (false, { d with resetResult := .failed })
  | granted (hs : d.state = .fault) (hc : d.configured = true) :
      ResetCase d now (haltCalls ++ [⟨.reset, true⟩])
        (true, { d with resetUs := now, resetResult := .pending })

omit [CFloat D] in
/-- What the request of a reset does. -/
theorem reset_ensures (d : Drive F D B) (now : UInt32) :
    (d.reset now).Ensures fun t r => ResetCase d now (motion t) r := by
  rw [reset]
  split_ifs with h
  · exact ensures_pure.2 (.refuses (by simpa using h))
  · rw [not_or, not_or, not_not] at h
    simp only [call, ensures_bind, ensures_perform, ensures_ite, ensures_pure]
    intro _ _ ok
    refine ⟨fun hok => ?_, fun hok => ?_⟩
    · subst hok
      exact .granted h.2.1 (by simpa using h.1)
    · obtain rfl : ok = false := by simpa using hok
      exact .denied h.2.1

/-- What `finish_reset` can do: give up, wait, or complete the reset. -/
inductive FinishCase (d : Drive F D B) (now : UInt32) : Drive F D B → Prop
  | expires (h : resetWaitUs ≤ now - d.resetUs) :
      FinishCase d now { d with resetResult := .failed }
  | waits {navigation : Nav F D B}
      (h : navigation = d.navigation ∨
        d.navigation.lifecycle = .faultLatched ∧ navigation.lifecycle = .inactive ∧
          navigation.configured = d.navigation.configured) :
      FinishCase d now { d with navigation := navigation }
  | finishes {navigation : Nav F D B} {output : NavOutput F D}
      (htime : now - d.resetUs < resetWaitUs) (hfresh : d.feedbackFresh now = true)
      (hafter : 0 < (d.feedback.timestampUs - d.resetUs).toInt32)
      (hidle : d.feedback.state = .idle) (hfault : d.feedback.fault = .none)
      (hbraked : d.feedback.braked = true)
      (hnav : d.navigation.lifecycle = .faultLatched ∧
          d.navigation.resetFault now = (true, navigation) ∨
        d.navigation.lifecycle ≠ .faultLatched ∧ navigation = d.navigation)
      (hready : navigation.readiness now = .clear) :
      FinishCase d now { d with
        navigation := navigation, state := .off, reason := .ok, output := output,
        resetResult := .ok }

/-- How a pending reset goes on. -/
theorem finishReset_cases (d : Drive F D B) (now : UInt32) :
    FinishCase d now (d.finishReset now) := by
  rw [finishReset]
  by_cases htime : now - d.resetUs ≥ resetWaitUs
  · rw [if_pos htime]
    exact .expires htime
  rw [if_neg htime]
  by_cases hfeed : !d.feedbackFresh now ∨ (d.feedback.timestampUs - d.resetUs).toInt32 ≤ 0 ∨
      d.feedback.state ≠ .idle ∨ d.feedback.fault ≠ .none ∨ !d.feedback.braked
  · rw [if_pos hfeed]
    exact .waits (.inl rfl)
  rw [if_neg hfeed]
  simp only [not_or, Bool.not_eq_true', Bool.not_eq_false, not_not] at hfeed
  obtain ⟨hfresh, hafter, hidle, hfault, hbraked⟩ := hfeed
  by_cases hl : d.navigation.lifecycle = .faultLatched
  · simp only [if_pos hl]
    rcases d.navigation.resetFault_cases now with hr | ⟨hr, hlife, hconf⟩
    · rw [hr]
      exact .waits (.inl rfl)
    · rw [hr]
      by_cases hready : (d.navigation.resetFault now).2.readiness now = .clear
      · simp only [Bool.not_true, Bool.false_eq_true, if_false, hready, ne_eq, not_true_eq_false]
        refine .finishes (UInt32.not_le.1 htime) hfresh (Int32.not_le.1 hafter) hidle hfault hbraked
          (.inl ⟨hl, Prod.ext hr rfl⟩) hready
      · simp only [Bool.not_true, Bool.false_eq_true, if_false, ne_eq, hready, not_false_eq_true,
          if_true]
        exact .waits (.inr ⟨hl, hlife, hconf⟩)
  · simp only [if_neg hl]
    by_cases hready : d.navigation.readiness now = .clear
    · simp only [Bool.not_true, Bool.false_eq_true, if_false, hready, ne_eq, not_true_eq_false]
      exact .finishes (UInt32.not_le.1 htime) hfresh (Int32.not_le.1 hafter) hidle hfault hbraked
        (.inr ⟨hl, rfl⟩) hready
    · simp only [Bool.not_true, Bool.false_eq_true, if_false, ne_eq, hready, not_false_eq_true,
        if_true]
      exact .waits (.inl rfl)

end Commands

end Drive

/-- The calls of the owner: of the drive, the hold of a run, a calibration and the action map. -/
inductive Op (F D : Type)
  | setOptions (options : Options F)
  | start (now : UInt32)
  | stop
  | reset (now : UInt32)
  | process (frame : Option SensorFrame) (feedback : Option (MotionFeedback D))
  | terrainFault
  | hold (on : Bool)
  | applyCalibration (id : SensorId) (collector : CalibrationCollector)
  | setMapping (map : Fin 26 → NavAction)

section Runs

variable [CFloat F] [CFloat D] [CDouble F D]

/-- A call as a program: its result, `true` for calls without one, and the drive it leaves. -/
def Op.run (s5 : Bool) (d : Drive F D B) : Op F D → DriveM F (Bool × Drive F D B)
  | .setOptions options => pure (d.setOptions options)
  | .start now => d.start s5 now
  | .stop => do let d ← d.stop s5; pure (true, d)
  | .reset now => d.reset now
  | .process frame feedback => do let d ← d.process s5 frame feedback; pure (true, d)
  | .terrainFault => do let d ← d.terrainFault s5; pure (true, d)
  | .hold on => pure (true, { d with externalHold := on })
  | .applyCalibration id collector =>
    let r := d.navigation.applyCalibration id collector
    pure (r.1, { d with navigation := r.2 })
  | .setMapping map =>
    let r := d.navigation.setMapping map
    pure (r.1, { d with navigation := r.2 })

/-- A call that was made, with its exchange and its result. -/
structure Made (F D : Type) where
  op : Op F D
  calls : List (Event F)
  ok : Bool

def Step (s5 : Bool) (d : Drive F D B) (a : Made F D) (d' : Drive F D B) : Prop :=
  (a.op.run s5 d).Yields a.calls (a.ok, d')

abbrev Runs (s5 : Bool) : Drive F D B → List (Made F D) → Drive F D B → Prop :=
  Run.Path (Step s5)

/-! ## What a call can do -/

def Op.configures : Op F D → Bool
  | .setOptions _ | .hold _ | .applyCalibration _ _ | .setMapping _ => true
  | _ => false

/-- The drive after a call that only configures. -/
structure Drive.Configured (d d' : Drive F D B) : Prop where
  core : d'.core = d.core
  lifecycle : d'.navigation.lifecycle = d.navigation.lifecycle
  navConfigured : d'.navigation.configured = d.navigation.configured
  resetResult : d'.resetResult = d.resetResult
  resetUs : d'.resetUs = d.resetUs
  configured : d'.configured = d.configured

/-- What a call can do: its motion calls, its result and the drive it leaves. -/
inductive Case (s5 : Bool) (d : Drive F D B) :
    Op F D → List (Event F) → Bool → Drive F D B → Prop
  | config {op : Op F D} {ok : Bool} {d' : Drive F D B} (hop : op.configures = true)
      (h : d.Configured d') : Case s5 d op [] ok d'
  | start {now : UInt32} {u : List (Event F)} {ok : Bool} {d' : Drive F D B}
      (h : d.StartCase now u (ok, d')) : Case s5 d (.start now) u ok d'
  | stop {d' : Drive F D B} (h : d.Halted d.stopState d') : Case s5 d .stop haltCalls true d'
  | reset {now : UInt32} {u : List (Event F)} {ok : Bool} {d' : Drive F D B}
      (h : d.ResetCase now u (ok, d')) : Case s5 d (.reset now) u ok d'
  | process {frame : Option SensorFrame} {feedback : Option (MotionFeedback D)}
      {u : List (Event F)} {d' : Drive F D B} (h : d.Cycled s5 frame feedback u d') :
      Case s5 d (.process frame feedback) u true d'
  | terrainFault {d' : Drive F D B} (h : d.Halted .fault d') :
      Case s5 d .terrainFault haltCalls true d'

/-- **What a call can do**, on an initialised drive. -/
theorem Step.cases {s5 : Bool} {d d' : Drive F D B} {a : Made F D} (h : Step s5 d a d')
    (hc : d.configured) (ho : d.DetourOff s5) :
    Case s5 d a.op (motion a.calls) a.ok d' := by
  suffices hcase : ∀ op : Op F D, (op.run s5 d).Ensures fun t r => Case s5 d op (motion t) r.1 r.2
    from hcase a.op a.calls (a.ok, d') h
  intro op
  have hdone {p : DriveM F (Drive F D B)}
      (hp : p.Ensures fun t e => Case s5 d op (motion t) true e) :
      (do let e ← p; pure (true, e) : DriveM F (Bool × Drive F D B)).Ensures fun t r =>
        Case s5 d op (motion t) r.1 r.2 := by
    rw [ensures_bind]
    refine hp.mono fun t e he => ensures_pure.2 ?_
    rwa [List.append_nil]
  cases op with
  | setOptions =>
    refine ensures_pure.2 (.config rfl ?_)
    rw [Drive.setOptions]
    split_ifs <;> exact ⟨rfl, rfl, rfl, rfl, rfl, rfl⟩
  | start now => exact (Drive.start_ensures now).mono fun t r hr => .start hr
  | stop =>
    refine hdone ((Drive.stop_ensures ho).mono fun t e he => ?_)
    rcases he with ⟨hf, -⟩ | ⟨ht, he⟩
    · cases hf.symm.trans hc
    · rw [ht]
      exact .stop he
  | reset now => exact (Drive.reset_ensures d now).mono fun t r hr => .reset hr
  | process frame feedback =>
    exact hdone ((Drive.process_ensures ho frame feedback).mono fun t e he => .process he)
  | terrainFault =>
    refine hdone ((Drive.terrainFault_ensures ho).mono fun t e he => ?_)
    rcases he with ⟨hf, -⟩ | ⟨ht, he⟩
    · cases hf.symm.trans hc
    · rw [ht]
      exact .terrainFault he
  | hold => exact ensures_pure.2 (.config rfl ⟨rfl, rfl, rfl, rfl, rfl, rfl⟩)
  | applyCalibration id collector =>
    obtain ⟨hl, hn⟩ := Nav.applyCalibration_lifecycle d.navigation id collector
    exact ensures_pure.2 (.config rfl ⟨rfl, hl, hn, rfl, rfl, rfl⟩)
  | setMapping map =>
    obtain ⟨hl, hn⟩ := Nav.setMapping_lifecycle d.navigation map
    exact ensures_pure.2 (.config rfl ⟨rfl, hl, hn, rfl, rfl, rfl⟩)

end Runs

/-! ## A bench

An environment that accepts everything, and a configuration with which runs can be computed. -/

section Bench

/-- It accepts every request under the command id 1 and delivers the given reports in order. -/
def obliging : (c : PortCall F) → List MotionReport → c.Answer × List MotionReport
  | .velocity _ _, l | .manoeuvre _, l | .drive _ _, l | .requestDrive _ _, l
  | .requestTurn _ _, l => (.ok, l)
  | .stop, l | .heartbeat _, l | .cancelScan, l | .setControllerStatus _ _ _, l => ((), l)
  | .report, l => (l.head?, l.tail)
  | .commandId, l => (1, l)
  | .reset, l | .requestScan _, l | .requestPeek _ _, l => (true, l)
  | .snapshot, l => (none, l)
  | .readSnapshot, l => (.unavailable, l)

variable [CFloat F] [CFloat D] [CDouble F D]

/-- One call in the obliging environment, with the reports it finds. -/
def obligedCall (s5 : Bool) (d : Drive F D B) (op : Op F D) (reports : List MotionReport) :
    Made F D × Drive F D B :=
  let r := (op.run s5 d).run obliging reports
  (⟨op, r.1, r.2.1.1⟩, r.2.1.2)

/-- Calls in the obliging environment, in order, each with the reports it finds. -/
def obliged (s5 : Bool) (d : Drive F D B) (ops : List (Op F D × List MotionReport)) :
    List (Made F D) × Drive F D B :=
  ops.foldl (fun s op =>
    let r := obligedCall s5 s.2 op.1 op.2
    (s.1 ++ [r.1], r.2)) ([], d)

theorem step_obligedCall (s5 : Bool) (d : Drive F D B) (op : Op F D)
    (reports : List MotionReport) :
    Step s5 d (obligedCall s5 d op reports).1 (obligedCall s5 d op reports).2 :=
  yields_run obliging _ reports

/-- The obliging environment makes runs. -/
theorem runs_obliged (s5 : Bool) (d : Drive F D B) (ops : List (Op F D × List MotionReport)) :
    Runs s5 d (obliged s5 d ops).1 (obliged s5 d ops).2 := by
  refine List.foldlRecOn (motive := fun s : List (Made F D) × Drive F D B => Runs s5 d s.1 s.2)
    ops _ .nil fun s hs op _ => ?_
  exact .snoc hs (step_obligedCall s5 s.2 op.1 op.2)

def benchReaders : BarcodeReaders where
  Live := Unit
  Record := Unit
  init _ := some ()
  reset _ := ()
  update _ t valid black := (if valid && black then .decoded ⟨0, false, t⟩ else .none, ())
  collecting _ := false
  pending _ := false
  recordZero := ()
  recordReset _ := ()
  recordActive _ := false
  recordUpdate _ _ _ _ _ := (.none, ())

/-- A configuration with the tape between the sensors and every letter mapped to a left turn. -/
def benchConfig : NavConfig ℚ ℚ where
  acquisition := ⟨⟨0, 1, 2⟩, 7⟩
  calibration := .const ⟨1000, 3000, 400, 600⟩
  line := ⟨300, 700, 100000, 1, 1, 1, 100000, true⟩
  steering := ⟨1 / 10, 1 / 20, 1 / 5⟩
  barcode := ⟨1, 1, 1, 1, 1⟩
  map _ := .left
  maxSampleAgeUs := 50000
  rearmStableUs := 1
  faultClearUs := 1
  rearmDistanceM := 1 / 100

def benchDrive : Drive ℚ ℚ benchReaders := (Drive.init benchConfig).get (by decide +kernel)

theorem init_benchConfig : Drive.init benchConfig = some benchDrive :=
  (Option.some_get (by decide +kernel)).symm

/-- A frame with the raw values of the barcode sensor and of the two front sensors. -/
def benchFrame (t : UInt32) (barcode side : ℕ) : SensorFrame :=
  ⟨t, ⟨t, barcode, 0, true, true⟩, ⟨t, side, 0, true, true⟩, ⟨t, side, 0, true, true⟩⟩

def benchFeedback (t : UInt32) (state : MotionState) (id : UInt8) : MotionFeedback ℚ :=
  ⟨0, t, 0, state, .none, true, state = .idle, id, 0⟩

def benchCycle (t : UInt32) (barcode side : ℕ) (state : MotionState) (id : UInt8) : Op ℚ ℚ :=
  .process (some (benchFrame t barcode side)) (some (benchFeedback t state id))

/-- The calls that make the bench ready: three calibrations and a frame. -/
def benchReady : List (Op ℚ ℚ × List MotionReport) :=
  let collector : CalibrationCollector := ⟨⟨10, 10000, 1000, 1000⟩, ⟨10, 30000, 3000, 3000⟩⟩
  [(.applyCalibration .barcode collector, []), (.applyCalibration .left collector, []),
    (.applyCalibration .right collector, []), (benchCycle 10000 1000 1000 .idle 0, [])]

def benchStart : List (Op ℚ ℚ × List MotionReport) := benchReady ++ [(.start 10000, [])]

/-- A run up to a left turn: a barcode, a stop at a junction, the cancellation and the turn. -/
def benchLeft : List (Op ℚ ℚ × List MotionReport) :=
  [(benchCycle 20000 1000 1000 .idle 0, []), (benchCycle 30000 3000 1000 .velocity 1, []),
    (benchCycle 40000 1000 3000 .velocity 1, []), (benchCycle 50000 1000 3000 .idle 1, []),
    (benchCycle 60000 1000 1000 .idle 1, [⟨1, .cancelled, .none, false⟩])]

end Bench

end RoboticCar.Driving
