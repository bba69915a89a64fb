import RoboticCar.Motion.Safety

/-!
# The motion subsystem seen from other tasks

`motion.c`: requests, the queue of reports, the navigation lease and the calibration handshake
happen in blocks that hold the subsystem's mutex, and so does the work of the motion task.  Each
block is one function on `Front`; they interleave in `Motion.System`.

The report queue is a message buffer of eight packed words.
-/

namespace RoboticCar.Motion

open Lib CFloat

/-- The variables of `motion.c`, the controller and the last encoder sample. -/
structure Front (F D : Type) where
  ctl : Ctrl F
  sensors : Sensors F
  /-- `wheel_encoder_is_running` -/
  encoderRunning : Bool
  calRequest : Bool
  calRunning : Bool
  calDone : Bool
  calAbort : Bool
  reportLost : Bool
  reportQueued : ℕ
  reportPeak : ℕ
  /-- the words in the message buffer, oldest first -/
  queue : List ℕ
  lastStepUs : UInt32
  centreM : D
  timestampUs : UInt32
  epoch : UInt32
  valid : Bool
  feedbackReady : Bool
  feedbackCount : Wheels UInt32
  reportLossCount : UInt32
  navigationLease : Bool
  navigationRefreshUs : UInt32

/-- The requests for motion that another task can make. -/
inductive Request (F : Type)
  | velocity (leftMps rightMps : F)
  | drive (meters speedMps : F)
  | turn (degrees speedMps : F)
  | manoeuvre (man : Manoeuvre)
  deriving DecidableEq

/-- `MOTION_REPORT_QUEUE_LEN`. -/
def reportQueueLen : ℕ := 8

/-- `MOTION_NAVIGATION_LEASE_US`. -/
def navigationLeaseUs : UInt32 := 30000

def periodUs : UInt32 := 10000

def motionLeaseExpired (enabled : Bool) (now refreshed : UInt32) : Bool :=
  enabled && decide (now - refreshed > navigationLeaseUs)

variable {F D : Type}

namespace Front

/-- `report_post`: a full queue drops the report and marks the next one. -/
def reportPost (m : Front F D) (r : MotionReport) : Front F D :=
  let word := motionPackReport { r with lost := m.reportLost }
  if m.queue.length < reportQueueLen then
    let queued := if m.reportQueued < reportQueueLen then m.reportQueued + 1 else m.reportQueued
    { m with
      queue := m.queue ++ [word]
      reportLost := false
      reportQueued := queued
      reportPeak := if queued > m.reportPeak then queued else m.reportPeak }
  else { m with reportLost := true, reportLossCount := m.reportLossCount + 1 }

/-- Put back the controller after a call; what it handed to the sink goes through
`reportPost`, in order. -/
def setCtl (m : Front F D) (c : Ctrl F) : Front F D :=
  c.sink.foldl reportPost { m with ctl := { c with sink := [] } }

/-- The message buffer read of `report_receive`, which takes no lock. -/
def reportTake (m : Front F D) : Option MotionReport × Front F D :=
  match m.queue with
  | [] => (none, m)
  | word :: rest => (some (motionUnpackReport word), { m with queue := rest })

/-- The locked block of `report_receive` that follows a successful read. -/
def reportAck (r : MotionReport) (m : Front F D) : Front F D :=
  let m := { m with reportQueued := m.reportQueued - 1 }
  if r.outcome = .done then m.setCtl (motionControllerAckComplete r.commandId m.ctl) else m

section Frame

theorem foldl_reportPost {α : Type} (f : Front F D → α) (hf : ∀ m r, f (reportPost m r) = f m)
    (l : List MotionReport) (m : Front F D) : f (l.foldl reportPost m) = f m := by
  induction l generalizing m with
  | nil => rfl
  | cons r l ih => rw [List.foldl_cons, ih, hf]

variable (m : Front F D) (c : Ctrl F)

@[simp] theorem setCtl_ctl : (m.setCtl c).ctl = { c with sink := [] } :=
  foldl_reportPost Front.ctl (fun m r => by unfold reportPost; dsimp only; split <;> rfl) _ _

@[simp] theorem setCtl_calRequest : (m.setCtl c).calRequest = m.calRequest :=
  foldl_reportPost calRequest (fun m r => by unfold reportPost; dsimp only; split <;> rfl) _ _

@[simp] theorem setCtl_calRunning : (m.setCtl c).calRunning = m.calRunning :=
  foldl_reportPost calRunning (fun m r => by unfold reportPost; dsimp only; split <;> rfl) _ _

@[simp] theorem setCtl_navigationLease : (m.setCtl c).navigationLease = m.navigationLease :=
  foldl_reportPost navigationLease (fun m r => by unfold reportPost; dsimp only; split <;> rfl) _ _

@[simp] theorem setCtl_navigationRefreshUs :
    (m.setCtl c).navigationRefreshUs = m.navigationRefreshUs :=
  foldl_reportPost navigationRefreshUs
    (fun m r => by unfold reportPost; dsimp only; split <;> rfl) _ _

end Frame

variable [CFloat F]

/-! ## Requests -/

/-- `motion_is_calibrated`. -/
def isCalibrated (_ : Front F D) : Bool := gt (lit 2534 : F) zero

/-- `motion_request_velocity`. -/
def requestVelocity (leftMps rightMps : F) (now : UInt32) (m : Front F D) :
    MotionResult × Front F D :=
  if !m.isCalibrated then (.errNotCalibrated, m)
  else if !isFinite leftMps ∨ !isFinite rightMps then (.errBadArg, m)
  else
    let p := motionControllerRequestVelocity m.sensors leftMps rightMps now m.ctl
    (p.1, m.setCtl p.2)

def requestMove (kind : MotionState) (signLeft signRight : Int) (distM speedMps : F)
    (now : UInt32) (m : Front F D) : MotionResult × Front F D :=
  let p := motionControllerRequestMove m.sensors kind signLeft signRight distM speedMps now m.ctl
  (p.1, m.setCtl p.2)

/-- `motion_request_drive`. -/
def requestDrive (meters speedMps : F) (now : UInt32) (m : Front F D) :
    MotionResult × Front F D :=
  if !m.isCalibrated then (.errNotCalibrated, m)
  else if !isFinite meters ∨ !isFinite speedMps ∨ le speedMps zero then (.errBadArg, m)
  else
    let sign : Int := if ge meters zero then 1 else -1
    m.requestMove .drive sign sign (absF meters) speedMps now

/-- `motion_request_turn`. -/
def requestTurn (degrees speedMps : F) (now : UInt32) (m : Front F D) :
    MotionResult × Front F D :=
  if !m.isCalibrated then (.errNotCalibrated, m)
  else if !isFinite degrees ∨ !isFinite speedMps ∨ le speedMps zero then (.errBadArg, m)
  else
    let arcM := absF degrees / lit 360 * lit (314159265 / 100000000) * lit (116 / 1000)
    let signLeft : Int := if gt degrees zero then -1 else 1
    m.requestMove .turn signLeft (-signLeft) arcM speedMps now

/-- `motion_request_manoeuvre`. -/
def requestManoeuvre (man : Manoeuvre) (now : UInt32) (m : Front F D) :
    MotionResult × Front F D :=
  match man with
  | .left => m.requestTurn (lit 90) (lit (15 / 100)) now
  | .right => m.requestTurn (-(lit 90)) (lit (15 / 100)) now
  | .straight => m.requestDrive (lit (5 / 100)) (lit (20 / 100)) now
  | .uTurn => m.requestTurn (lit 180) (lit (15 / 100)) now

/-- The request as the subsystem's interface makes it. -/
def request (q : Request F) (now : UInt32) (m : Front F D) : MotionResult × Front F D :=
  match q with
  | .velocity l r => m.requestVelocity l r now
  | .drive meters speed => m.requestDrive meters speed now
  | .turn degrees speed => m.requestTurn degrees speed now
  | .manoeuvre man => m.requestManoeuvre man now

/-- What a request can come to: the front end refuses it and nothing changes, or it is handed to
the controller. -/
inductive Handed (m : Front F D) (now : UInt32) : MotionResult × Front F D → Prop
  | refused (res : MotionResult) (h : res ≠ .ok) : Handed m now (res, m)
  | velocity (l r : F) : Handed m now
      ((motionControllerRequestVelocity m.sensors l r now m.ctl).1,
        m.setCtl (motionControllerRequestVelocity m.sensors l r now m.ctl).2)
  | move (kind : MoveKind) (sl sr : Int) (dist speed : F) : Handed m now
      ((motionControllerRequestMove m.sensors kind.state sl sr dist speed now m.ctl).1,
        m.setCtl (motionControllerRequestMove m.sensors kind.state sl sr dist speed now m.ctl).2)

theorem requestDrive_handed (meters speed : F) (now : UInt32) (m : Front F D) :
    Handed m now (m.requestDrive meters speed now) := by
  unfold requestDrive
  split
  · exact .refused _ (by decide)
  · split
    · exact .refused _ (by decide)
    · exact .move .drive ..

theorem requestTurn_handed (degrees speed : F) (now : UInt32) (m : Front F D) :
    Handed m now (m.requestTurn degrees speed now) := by
  unfold requestTurn
  split
  · exact .refused _ (by decide)
  · split
    · exact .refused _ (by decide)
    · exact .move .turn ..

theorem request_handed (q : Request F) (now : UInt32) (m : Front F D) :
    Handed m now (m.request q now) := by
  cases q with
  | velocity l r =>
    simp only [request, requestVelocity]
    split_ifs
    · exact .refused _ (by decide)
    · exact .refused _ (by decide)
    · exact .velocity l r
  | drive meters speed => exact requestDrive_handed meters speed now m
  | turn degrees speed => exact requestTurn_handed degrees speed now m
  | manoeuvre man =>
    cases man with
    | straight => exact requestDrive_handed _ _ now m
    | left | right | uTurn => exact requestTurn_handed _ _ now m

/-- `stop`, which also withdraws or aborts a calibration. -/
def stop (m : Front F D) : Front F D :=
  let m := m.setCtl (motionControllerStop m.ctl)
  if m.calRequest ∨ m.calRunning then { m with calRequest := false, calAbort := m.calRunning }
  else m

/-- `motion_cancel`. -/
def cancel (commandId : UInt8) (m : Front F D) : MotionResult × Front F D :=
  let p := motionControllerCancel commandId m.ctl
  (p.1, m.setCtl p.2)

/-- `motion_reset`. -/
def reset (m : Front F D) : Bool × Front F D :=
  let p := motionControllerReset m.ctl
  (p.1, m.setCtl p.2)

/-- `motion_poll`. -/
def poll (m : Front F D) : MotionState × Front F D :=
  let p := motionControllerPoll m.ctl
  (p.1, m.setCtl p.2)

/-- `motion_command_id`. -/
def commandId (m : Front F D) : UInt8 := m.ctl.cmdId

/-- `motion_get_feedback`. -/
def getFeedback (m : Front F D) : MotionFeedback D where
  centreM := m.centreM
  timestampUs := m.timestampUs
  epoch := m.epoch
  state := m.ctl.state
  fault := motionControllerFault m.ctl
  valid := m.valid && m.encoderRunning && !m.calRequest && !m.calRunning && !m.ctl.busy
  braked := motionControllerIsStopped m.ctl
  commandId := m.ctl.cmdId
  reportLossCount := m.reportLossCount

/-- `motion_navigation_heartbeat`. -/
def navigationHeartbeat (enabled : Bool) (now : UInt32) (m : Front F D) : Front F D :=
  { m with
    navigationLease := enabled
    navigationRefreshUs := if enabled then now else m.navigationRefreshUs }

/-- `motion_request_calibration`. -/
def requestCalibration (m : Front F D) : MotionResult × Front F D :=
  if m.navigationLease then (.errBusy, m)
  else if m.ctl.state = .fault then (.errFault, m)
  else if m.ctl.state ≠ .idle ∨ m.calRequest ∨ m.ctl.busy then (.errBusy, m)
  else (.ok, { m with calDone := false, calRequest := true })

/-! ## The motion task -/

/-- The first locked block of `motion_process`: take up a requested calibration. -/
def calibrationTake (m : Front F D) : Bool × Front F D :=
  if m.calRequest then
    (true, { m with
      calRequest := false
      calRunning := true
      valid := false
      ctl := motionControllerSetBusy true m.ctl })
  else (false, m)

/-- One motor command of a calibration. -/
def calibrationDrive (w : Wheel) (duty : F) (m : Front F D) : Front F D :=
  { m with ctl := { m.ctl with motor := motorControlSet m.ctl.motor w duty } }

/-- The end of a calibration: the brakes, a fresh sample and the locked block after it. -/
def calibrationEnd [CFloat D] (s : Sensors F) (now : UInt32) (m : Front F D) : Front F D :=
  let c := { m.ctl with motor := motorControlBrakeAll m.ctl.motor }
  { m with
    sensors := s
    epoch := m.epoch + 1
    centreM := zero
    feedbackCount := s.bits
    valid := false
    calDone := true
    calRunning := false
    calAbort := false
    ctl := motionControllerSetBusy false c
    lastStepUs := now }

/-- The early wake-up of `motion_process`: brake now, control on the next tick. -/
def makeSafe (m : Front F D) : Front F D := m.setCtl (motionControllerMakeSafe m.ctl)

/-- The step length of `motion_process`, held between 2 ms and 50 ms. -/
def stepSeconds (elapsed : UInt32) : F :=
  let dtS := ofInt elapsed.toNat / lit 1000000
  let dtS := if lt dtS (lit (2 / 1000)) then lit (2 / 1000) else dtS
  if gt dtS (lit (50 / 1000)) then lit (50 / 1000) else dtS

/-- The lease check of `motion_process`. -/
def leaseCheck (now : UInt32) (m : Front F D) : Front F D :=
  if motionLeaseExpired m.navigationLease now m.navigationRefreshUs then
    { m.setCtl (motionControllerNavigationTimeout m.ctl) with navigationLease := false }
  else m

/-- The control block of `motion_process`: sample, lease check, control step, feedback. -/
def control [CFloat D] [CDouble F D] (s : Sensors F) (now elapsed : UInt32) (m : Front F D) :
    Front F D :=
  let m := leaseCheck now { m with sensors := s, lastStepUs := now }
  let m := m.setCtl (motionControllerStep s (stepSeconds elapsed) now m.ctl)
  -- the distance accumulates modular encoder deltas, wheel by wheel
  let moved (w : Wheel) : D :=
    lit (1 / 2) * ofInt (wheelEncoderDelta (s.bits.get w) (m.feedbackCount.get w)) *
      CDouble.ofFloat s.scale
  { m with
    centreM := m.centreM + moved .left + moved .right
    feedbackCount := s.bits
    timestampUs := now
    valid := m.feedbackReady && m.encoderRunning && m.isCalibrated && !m.calRunning &&
      !m.calRequest }

/-- The module variables as the program is loaded, with the encoder values `s`. -/
def boot [CFloat D] (s : Sensors F) : Front F D where
  ctl := Ctrl.boot
  sensors := s
  encoderRunning := false
  calRequest := false
  calRunning := false
  calDone := false
  calAbort := false
  reportLost := false
  reportQueued := 0
  reportPeak := 0
  queue := []
  lastStepUs := 0
  centreM := zero
  timestampUs := 0
  epoch := 0
  valid := false
  feedbackReady := false
  feedbackCount := ⟨0, 0⟩
  reportLossCount := 0
  navigationLease := false
  navigationRefreshUs := 0

/-- `motion_init`; `encoderOk` says that the encoder hardware started. -/
def init [CFloat D] (s : Sensors F) (encoderOk : Bool) (now : UInt32) (m : Front F D) :
    Front F D :=
  let c := motionControllerInit s (lit (884 / 1000)) zero zero m.ctl
  { m with
    sensors := s
    encoderRunning := encoderOk
    epoch := m.epoch + 1
    centreM := zero
    feedbackCount := s.bits
    valid := false
    feedbackReady := encoderOk
    navigationLease := false
    ctl := if encoderOk then c else motionControllerSetBusy true c
    lastStepUs := now }

end Front

end RoboticCar.Motion
