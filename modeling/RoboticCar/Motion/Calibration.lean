import RoboticCar.Motion.System

/-!
# Calibration

A calibration drives the motors itself, so it must not overlap with a command.  It is accepted in
IDLE only, but the motion task takes it up later, and a command admitted in that window runs during
the calibration (`drive_during_calibration`).  Without such a command calibration is exclusive:
`calibration_exclusive`.
-/

namespace RoboticCar.Motion

open Lib CFloat

variable {F D : Type}

theorem Refines.client_idle {c c' : Ctrl F} (h : Refines c .client c') (hi : c.state = .idle) :
    c'.state = .idle ∧ c'.busy = c.busy := by
  obtain ⟨reports, -, hs⟩ := h
  generalize hc' : c'.chart = s' at hs
  have hst : c'.state = s'.state := congrArg Chart.state hc'
  have hb : c'.busy = s'.busy := congrArg Chart.busy hc'
  rw [hst, hb]
  cases hs with
  | stay => exact ⟨hi, rfl⟩
  | cancel | settle => exact ⟨rfl, rfl⟩

theorem Refines.task_idle {c c' : Ctrl F} (h : Refines c .task c') (hi : c.state = .idle) :
    c'.state = .idle := by
  obtain ⟨reports, -, hs⟩ := h
  generalize hc' : c'.chart = s' at hs
  have hst : c'.state = s'.state := congrArg Chart.state hc'
  have hn : isActive c.chart.state = false := by rw [show c.chart.state = c.state from rfl, hi]; rfl
  rw [hst]
  cases hs with
  | stay | brake => exact hi
  | run braked ha | fault bits ha | done ha => simp [hn] at ha

/-! ## What admits a request -/

def Ctrl.admitsVelocity (c : Ctrl F) : Bool :=
  !c.busy && !c.brakePending && (c.state == .idle || c.state == .velocity)

variable [CFloat F]

/-- The controller is open to a move, and its deadline can be represented. -/
def Ctrl.admitsMove (c : Ctrl F) (distM speedMps : F) : Bool :=
  let speed := minF speedMps (motionControllerSpeedCap c)
  !c.busy && !c.brakePending && c.state == .idle && ge distM zero && gt speed zero &&
    le (distM / speed * lit 3 + lit 2) (lit 600)

/-- A drive is admitted: the numbers are numbers, the speed is positive, the controller is open. -/
def Front.admitsDrive (m : Front F D) (meters speedMps : F) : Bool :=
  m.isCalibrated && isFinite meters && isFinite speedMps && !le speedMps zero &&
    m.ctl.admitsMove (absF meters) speedMps

def Front.admitsTurn (m : Front F D) (degrees speedMps : F) : Bool :=
  m.isCalibrated && isFinite degrees && isFinite speedMps && !le speedMps zero &&
    m.ctl.admitsMove
      (absF degrees / lit 360 * lit (314159265 / 100000000) * lit (116 / 1000)) speedMps

def Front.admits (m : Front F D) : Request F → Bool
  | .velocity l r => m.isCalibrated && isFinite l && isFinite r && m.ctl.admitsVelocity
  | .drive meters speed => m.admitsDrive meters speed
  | .turn degrees speed => m.admitsTurn degrees speed
  | .manoeuvre .left => m.admitsTurn (lit 90) (lit (15 / 100))
  | .manoeuvre .right => m.admitsTurn (-(lit 90)) (lit (15 / 100))
  | .manoeuvre .straight => m.admitsDrive (lit (5 / 100)) (lit (20 / 100))
  | .manoeuvre .uTurn => m.admitsTurn (lit 180) (lit (15 / 100))

theorem motionControllerRequestVelocity_ok (s : Sensors F) (l r : F) (now : UInt32) (c : Ctrl F) :
    (motionControllerRequestVelocity s l r now c).1 = .ok ↔ c.admitsVelocity := by
  unfold motionControllerRequestVelocity Ctrl.admitsVelocity
  dsimp only
  split_ifs with hf hb hi
  · simp [hf]
  · obtain hb | hb | hb := hb <;> simp [hb]
  · simp_all
  · simp_all

theorem motionControllerRequestMove_ok (s : Sensors F) (kind : MotionState) (sl sr : Int)
    (dist speed : F) (now : UInt32) (c : Ctrl F) :
    (motionControllerRequestMove s kind sl sr dist speed now c).1 = .ok ↔
      c.admitsMove dist speed := by
  unfold motionControllerRequestMove Ctrl.admitsMove
  dsimp only
  split_ifs with hf hb ha
  · simp [hf]
  · obtain hb | hb | hb := hb <;> simp [hb]
  · obtain ha | ha | ha := ha <;> simp_all
  all_goals simp_all

theorem Front.requestDrive_ok (meters speed : F) (now : UInt32) (m : Front F D) :
    (m.requestDrive meters speed now).1 = .ok ↔ m.admitsDrive meters speed := by
  unfold Front.requestDrive Front.admitsDrive
  split
  · simp_all
  · split
    · rename_i h
      obtain h | h | h := h <;> simp_all
    · simp only [requestMove, motionControllerRequestMove_ok]
      simp_all

theorem Front.requestTurn_ok (degrees speed : F) (now : UInt32) (m : Front F D) :
    (m.requestTurn degrees speed now).1 = .ok ↔ m.admitsTurn degrees speed := by
  unfold Front.requestTurn Front.admitsTurn
  split
  · simp_all
  · split
    · rename_i h
      obtain h | h | h := h <;> simp_all
    · simp only [requestMove, motionControllerRequestMove_ok]
      simp_all

theorem Front.request_ok (q : Request F) (now : UInt32) (m : Front F D) :
    (m.request q now).1 = .ok ↔ m.admits q := by
  cases q with
  | velocity =>
    simp only [request, requestVelocity, admits]
    split
    · simp_all
    · split
      · rename_i h
        obtain h | h := h <;> simp_all
      · simp only [motionControllerRequestVelocity_ok]
        simp_all
  | drive meters speed => exact m.requestDrive_ok meters speed now
  | turn degrees speed => exact m.requestTurn_ok degrees speed now
  | manoeuvre man =>
    cases man with
    | straight => exact m.requestDrive_ok _ _ now
    | left | right | uTurn => exact m.requestTurn_ok _ _ now

/-! ## Exclusion -/

namespace System

def StartsCalibration [CFloat D] [CDouble F D] (s : System F D) (a : Act F) : Prop :=
  s.front.calRunning = false ∧ (s.act a).front.calRunning = true

def EndsCalibration [CFloat D] [CDouble F D] (s : System F D) (a : Act F) : Prop :=
  s.front.calRunning = true ∧ (s.act a).front.calRunning = false

/-- A calibration starts in IDLE, and no command is running when it ends. -/
def CalibrationExclusive [CFloat D] [CDouble F D] (s : System F D) (a : Act F) : Prop :=
  (s.StartsCalibration a → (s.act a).front.ctl.state = .idle) ∧
    (s.EndsCalibration a → isActive (s.act a).front.ctl.state = false)

/-- The blocks of the calibration handshake and its neighbours: all but the navigation lease. -/
def InScope (a : Act F) : Prop := ∀ enabled, a ≠ .heartbeat enabled

/-- The condition: no request is admitted while a calibration request waits. -/
def NoneAdmittedInWindow (s : System F D) (a : Act F) : Prop :=
  ∀ q, a = .request q → s.front.calRequest = true → s.front.admits q = false

/-- A waiting request or a running calibration means IDLE, and while it runs the controller is
busy. -/
structure Exclusive (s : System F D) : Prop where
  lease : s.front.navigationLease = false
  requested : s.front.calRequest = true → s.front.ctl.state = .idle
  running : s.pc = .calibrating →
    s.front.ctl.state = .idle ∧ s.front.ctl.busy = true ∧ s.front.calRequest = false
  calRunning_iff : s.front.calRunning = true ↔ s.pc = .calibrating

end System

theorem Front.request_frame (q : Request F) (now : UInt32) (m : Front F D) :
    (m.request q now).2.navigationLease = m.navigationLease ∧
      (m.request q now).2.calRequest = m.calRequest ∧
      (m.request q now).2.calRunning = m.calRunning := by
  generalize hp : m.request q now = p
  have h := hp ▸ m.request_handed q now
  cases h with
  | refused => exact ⟨rfl, rfl, rfl⟩
  | velocity | move => exact ⟨by simp, by simp, by simp⟩

theorem Front.request_refused {q : Request F} {m : Front F D} (hq : m.admits q = false)
    (now : UInt32) : (m.request q now).2.ctl.state = m.ctl.state ∧
      (m.request q now).2.ctl.busy = m.ctl.busy := by
  have hres : (m.request q now).1 ≠ .ok := by
    intro h
    rw [m.request_ok q now, hq] at h
    cases h
  generalize hp : m.request q now = p at hres
  have h := hp ▸ m.request_handed q now
  cases h with
  | refused => exact ⟨rfl, rfl⟩
  | velocity l r =>
    obtain ⟨-, he⟩ | ⟨hok, -⟩ | ⟨hok, -⟩ :=
      motionControllerRequestVelocity_cases m.sensors l r now m.ctl
    · simp [he]
    · exact absurd hok hres
    · exact absurd hok hres
  | move kind sl sr dist speed =>
    obtain ⟨-, he⟩ | ⟨hok, -⟩ :=
      motionControllerRequestMove_cases m.sensors kind.state sl sr dist speed now m.ctl
    · simp [he]
    · exact absurd hok hres

theorem Front.admits_busy {m : Front F D} (hb : m.ctl.busy) (q : Request F) :
    m.admits q = false := by
  have hv : m.ctl.admitsVelocity = false := by simp [Ctrl.admitsVelocity, hb]
  have hm : ∀ dist speed, m.ctl.admitsMove dist speed = false := by
    simp [Ctrl.admitsMove, hb]
  have hd : ∀ meters speed, m.admitsDrive meters speed = false := by simp [Front.admitsDrive, hm]
  have ht : ∀ degrees speed, m.admitsTurn degrees speed = false := by simp [Front.admitsTurn, hm]
  cases q with
  | velocity => simp [Front.admits, hv]
  | drive meters speed => exact hd meters speed
  | turn degrees speed => exact ht degrees speed
  | manoeuvre man =>
    cases man with
    | straight => exact hd _ _
    | left | right | uTurn => exact ht _ _

namespace System.Exclusive

variable {s : System F D}

omit [CFloat F] in
/-- A block that withdraws no more than the calibration request and keeps IDLE keeps the invariant.
-/
theorem of_front (h : s.Exclusive) {m : Front F D}
    (hl : m.navigationLease = s.front.navigationLease)
    (hq : m.calRequest → s.front.calRequest)
    (hr : m.calRunning = s.front.calRunning)
    (hi : s.front.ctl.state = .idle →
      m.ctl.state = .idle ∧ m.ctl.busy = s.front.ctl.busy) :
    Exclusive ⟨m, s.clock, s.pc⟩ := by
  refine ⟨hl.trans h.lease, fun hm => (hi (h.requested (hq hm))).1, fun hpc => ?_, ?_⟩
  · obtain ⟨hst, hb, hn⟩ := h.running hpc
    refine ⟨(hi hst).1, (hi hst).2.trans hb, ?_⟩
    by_contra hm
    simp [hq (by simpa using hm)] at hn
  · rw [hr]
    exact h.calRunning_iff

omit [CFloat F] in
theorem of_setCtl (h : s.Exclusive) {c : Ctrl F} (hc : Refines s.front.ctl .client c) :
    Exclusive ⟨s.front.setCtl c, s.clock, s.pc⟩ :=
  h.of_front (by simp) (by simp) (by simp) fun hi => by simpa using hc.client_idle hi

theorem request (h : s.Exclusive) {q : Request F}
    (hq : s.front.calRequest → s.front.admits q = false) (now : UInt32) :
    Exclusive ⟨(s.front.request q now).2, s.clock, s.pc⟩ := by
  obtain ⟨hl, hreq, hrun⟩ := s.front.request_frame q now
  cases ha : s.front.admits q with
  | false =>
    obtain ⟨hst, hb⟩ := Front.request_refused ha now
    exact h.of_front hl (fun hm => hreq ▸ hm) hrun fun hi => ⟨hst.trans hi, hb⟩
  | true =>
    -- an admitted request finds no calibration waiting or running
    have hn : s.front.calRequest = false := by
      by_contra hn
      simp [hq (by simpa using hn)] at ha
    have hpc : s.pc ≠ .calibrating := by
      intro hpc
      simp [Front.admits_busy (h.running hpc).2.1] at ha
    refine ⟨hl.trans h.lease, fun hm => ?_, fun hp => absurd hp hpc, ?_⟩
    · rw [hreq, hn] at hm
      cases hm
    · rw [hrun]
      exact h.calRunning_iff

variable [CFloat D] [CDouble F D]

theorem act (h : s.Exclusive) {a : Act F} (ha : InScope a) (hq : s.NoneAdmittedInWindow a) :
    (s.act a).Exclusive := by
  obtain ⟨hlease, hreq, hrun, hiff⟩ := id h
  cases a with
  | tick => exact { h with }
  | enter =>
    cases hpc : s.pc with
    | waiting =>
      simp only [System.act, hpc]
      refine ⟨hlease, hreq, (by simp), ?_⟩
      simpa [hpc] using hiff
    | entered | checked | calibrating =>
      simpa only [System.act, hpc] using h
  | check =>
    obtain he | ⟨now, elapsed, hpc, ⟨hr, he⟩ | ⟨hr, he⟩⟩ := s.act_check_cases <;> rw [he]
    · exact { h with }
    · exact ⟨hlease, (by rintro ⟨⟩), fun _ => ⟨hreq hr, rfl, rfl⟩, by simp [taken]⟩
    · refine ⟨hlease, hreq, (by simp), ?_⟩
      simpa [hpc] using hiff
  | spin w duty =>
    obtain he | ⟨hpc, he⟩ := s.act_spin_cases w duty <;> rw [he]
    · exact { h with }
    · exact ⟨hlease, hreq, fun _ => hrun hpc, by simpa [hpc, Front.calibrationDrive] using hiff⟩
  | finish x =>
    obtain he | ⟨hpc, he⟩ := s.act_finish_cases x <;> rw [he]
    · exact { h with }
    · exact ⟨hlease, fun _ => (hrun hpc).1, (by simp), by simp [Front.calibrationEnd]⟩
  | step x =>
    have hmk : ∀ m : Front F D, m.navigationLease = false → m.calRequest = s.front.calRequest →
        m.calRunning = s.front.calRunning →
        (s.front.ctl.state = .idle → m.ctl.state = .idle) → s.pc ≠ .calibrating →
        Exclusive ⟨m, s.clock, .waiting⟩ := by
      intro m h1 h2 h3 h4 h5
      refine ⟨h1, fun h => h4 (hreq (h2 ▸ h)), (by simp), ?_⟩
      rw [h3, hiff]
      simp [h5]
    obtain he | ⟨now, elapsed, hpc, ⟨-, he⟩ | ⟨-, he⟩⟩ := s.act_step_cases x <;> rw [he]
    · exact { h with }
    · refine hmk _ (by simpa [Front.makeSafe] using hlease) (by simp [Front.makeSafe])
        (by simp [Front.makeSafe]) (fun hi => ?_) (by simp [hpc])
      simpa [Front.makeSafe] using (motionControllerMakeSafe_refines s.front.ctl).task_idle hi
    · -- without the lease the control block is just the control step
      have hcheck : Front.leaseCheck now { s.front with sensors := x, lastStepUs := now } =
          { s.front with sensors := x, lastStepUs := now } := by
        simp [Front.leaseCheck, motionLeaseExpired, hlease]
      refine hmk _ ?_ ?_ ?_ (fun hi => ?_) (by simp [hpc])
      · simpa [Front.control, hcheck] using hlease
      · simp [Front.control, hcheck]
      · simp [Front.control, hcheck]
      · simpa [Front.control, hcheck] using
          (motionControllerStep_refines x (Front.stepSeconds elapsed) now s.front.ctl).task_idle hi
  | request q => exact request { h with } (hq q rfl) s.now
  | stop =>
    have h' := of_setCtl { h with } (motionControllerStop_refines s.front.ctl)
    simp only [System.act, Front.stop]
    split
    · refine ⟨h'.lease, (by simp), fun hpc => ?_, h'.calRunning_iff⟩
      obtain ⟨h1, h2, -⟩ := h'.running hpc
      exact ⟨h1, h2, rfl⟩
    · exact h'
  | cancel id => exact of_setCtl { h with } (motionControllerCancel_refines id _)
  | reset =>
    refine of_front { h with } (by simp [Front.reset]) (by simp [Front.reset])
      (by simp [Front.reset]) fun hi => ?_
    simp [Front.reset, motionControllerReset, hi]
  | poll => exact of_setCtl { h with } (motionControllerPoll_refines _)
  | heartbeat enabled => exact absurd rfl (ha enabled)
  | requestCalibration =>
    simp only [System.act, Front.requestCalibration]
    split_ifs with h1 h2 h3
    · exact { h with }
    · exact { h with }
    · exact { h with }
    · simp only [not_or, not_not] at h3
      refine ⟨hlease, fun _ => h3.1, fun hpc => ?_, hiff⟩
      exact absurd (hrun hpc).2.1 h3.2.2
  | take =>
    refine of_front { h with } ?_ ?_ ?_ ?_ <;> unfold Front.reportTake <;>
      split <;> simp
  | ack =>
    simp only [System.act, Front.reportAck]
    split
    · exact of_setCtl (s := ⟨{ s.front with reportQueued := s.front.reportQueued - 1 }, s.clock,
        s.pc⟩) { h with } (motionControllerAckComplete_refines _ _)
    · exact { h with }

theorem pc_of_calibrating (hpc : s.pc = .calibrating) (a : Act F) :
    (s.act a).pc = .calibrating ∨ ∃ x, a = .finish x := by
  cases a with
  | finish x => exact .inr ⟨x, rfl⟩
  | _ => exact .inl (by simp [System.act, hpc])

theorem calibrationExclusive (h : s.Exclusive) {a : Act F} (ha : InScope a)
    (hq : s.NoneAdmittedInWindow a) : s.CalibrationExclusive a := by
  have h' := h.act ha hq
  refine ⟨fun hstart => (h'.running (h'.calRunning_iff.mp hstart.2)).1, fun hend => ?_⟩
  have hpc := h.calRunning_iff.mp hend.1
  obtain hpc' | ⟨x, rfl⟩ := pc_of_calibrating hpc a
  · have hrun := hend.2
    rw [h'.calRunning_iff.mpr hpc'] at hrun
    cases hrun
  · have hst : (s.act (.finish x)).front.ctl.state = s.front.ctl.state := by
      simp [System.act, hpc, Front.calibrationEnd, motionControllerSetBusy]
    rw [hst, (h.running hpc).1]
    rfl

omit [CDouble F D] in
theorem init (x₀ x : Sensors F) (encoderOk : Bool) (t : ℕ) :
    (System.init (Front.boot x₀ : Front F D) x encoderOk t).Exclusive :=
  ⟨rfl, nofun, nofun,
    ⟨nofun, nofun⟩⟩

end System.Exclusive

/-- **Calibration is exclusive**: if no motion is admitted while a calibration request waits, every
calibration starts in IDLE and no command is running when it ends. -/
theorem calibration_exclusive [CFloat D] [CDouble F D] (x₀ x : Sensors F) (encoderOk : Bool)
    (t : ℕ) (acts : List (Act F)) (hscope : ∀ a ∈ acts, System.InScope a)
    (hacts : Run.Meets System.act System.NoneAdmittedInWindow
      (System.init (Front.boot x₀ : Front F D) x encoderOk t) acts) :
    Run.Meets System.act System.CalibrationExclusive
      (System.init (Front.boot x₀ : Front F D) x encoderOk t) acts :=
  Run.meets_of_meets (I := System.Exclusive) (fun _ _ h hq => h.act hq.1 hq.2)
    (fun _ _ h hq => h.calibrationExclusive hq.1 hq.2) (.init x₀ x encoderOk t)
    (hacts.and_mem hscope)

/-- A calibration that is requested in IDLE, refuses a drive while it runs and ends. -/
theorem calibration_exclusive_run :
    let x : Sensors ℚ := ⟨⟨0, 0⟩, ⟨0, 0⟩, ⟨0, 0⟩, ⟨0, 0⟩, 1 / 10000⟩
    let s : System ℚ ℚ := System.init (Front.boot x) x true 0
    let acts : List (Act ℚ) :=
      [.requestCalibration, .enter, .check, .request (.drive 1 (2 / 10)), .spin .left 1, .finish x]
    Run.Meets System.act System.CalibrationExclusive s acts ∧
      (acts.dropLast.foldl System.act s).EndsCalibration (.finish x) := by
  intro x s acts
  have hacts : Run.Meets System.act System.NoneAdmittedInWindow s acts := by
    refine ⟨?_, ?_, ?_, ?_, ?_, ?_, trivial⟩
    · rintro q ⟨⟩
    · rintro q ⟨⟩
    · rintro q ⟨⟩
    · intro q _ h
      exact absurd h (by decide +kernel)
    · rintro q ⟨⟩
    · rintro q ⟨⟩
  have hscope : ∀ a ∈ acts, System.InScope a := by
    simp [acts, System.InScope]
  exact ⟨calibration_exclusive _ _ _ _ _ hscope hacts, by decide +kernel, by decide +kernel⟩

/-- A drive is accepted between the calibration request and its start: the calibration starts in
DRIVE, and the drive is still running when it ends. -/
theorem drive_during_calibration :
    let x : Sensors ℚ := ⟨⟨0, 0⟩, ⟨0, 0⟩, ⟨0, 0⟩, ⟨0, 0⟩, 1 / 10000⟩
    let s : System ℚ ℚ := [Act.requestCalibration, .request (.drive 1 (2 / 10)), .enter].foldl
      System.act (System.init (Front.boot x) x true 0)
    s.StartsCalibration .check ∧ (s.act .check).front.ctl.state = .drive ∧
      ¬s.CalibrationExclusive .check ∧
      (s.act .check).EndsCalibration (.finish x) ∧
      ((s.act .check).act (.finish x)).front.ctl.state = .drive ∧
      ¬(s.act .check).CalibrationExclusive (.finish x) := by
  intro x s
  have hstart : s.StartsCalibration .check := ⟨by decide +kernel, by decide +kernel⟩
  have hdrive : (s.act .check).front.ctl.state = .drive := by decide +kernel
  have hend : (s.act .check).EndsCalibration (.finish x) := ⟨by decide +kernel, by decide +kernel⟩
  have hdrive' : ((s.act .check).act (.finish x)).front.ctl.state = .drive := by decide +kernel
  refine ⟨hstart, hdrive, fun h => ?_, hend, hdrive', fun h => ?_⟩
  · have hidle := h.1 hstart
    rw [hdrive] at hidle
    cases hidle
  · have hna := h.2 hend
    rw [hdrive'] at hna
    cases hna

end RoboticCar.Motion
