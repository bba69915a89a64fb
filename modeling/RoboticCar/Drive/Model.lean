import RoboticCar.Lib.Program
import RoboticCar.Motion.Types
import RoboticCar.Navigation.Navigation
import RoboticCar.Obstacle.Avoidance

/-!
# The drive

`s3_drive.c`, the owner of motion requests: it turns navigation output, motion feedback and reports
into velocities along the line, a braked junction with an optional advance and a turn, a sweep for
a missed line and, with the obstacle subsystem (`s5`, the switch `APP_S5`), a detour.

A function that calls the motion port or the obstacle API is a program (`Lib.Prog`) here, and its
calls are the constructors of `PortCall`.
-/

namespace RoboticCar.Driving

open Lib CFloat Motion Navigation

/-! ## The outside -/

/-- `s5_snapshot_result_t`, with the observation of a successful read. -/
inductive Snapshot
  | ok (observation : Obstacle.Observation)
  | busy
  | unavailable
  | invalid
  deriving DecidableEq

/-- The calls of the drive: its port (`s3_drive_port_t`), its options and the obstacle subsystem. -/
inductive PortCall (F : Type)
  | velocity (left right : F)
  | manoeuvre (m : Manoeuvre)
  | stop
  | report
  | commandId
  | reset
  | heartbeat (enabled : Bool)
  /-- `options.drive` -/
  | drive (meters speedMps : F)
  /-- `motion_request_drive` -/
  | requestDrive (meters speedMps : F)
  /-- `motion_request_turn` -/
  | requestTurn (degrees speedMps : F)
  /-- `subsystem5_snapshot` -/
  | snapshot
  /-- `subsystem5_read_snapshot` -/
  | readSnapshot
  /-- `subsystem5_request_scan` -/
  | requestScan (id : UInt16)
  /-- `subsystem5_request_peek` -/
  | requestPeek (id : UInt16) (angle : Int)
  /-- `subsystem5_cancel_scan` -/
  | cancelScan
  /-- `subsystem5_set_controller_status` -/
  | setControllerStatus (state : Obstacle.State) (fault : Obstacle.Fault) (route : Obstacle.Route)
  deriving DecidableEq

variable {F : Type}

abbrev PortCall.Answer : PortCall F → Type
  | velocity _ _ | manoeuvre _ | drive _ _ | requestDrive _ _ | requestTurn _ _ => MotionResult
  | stop | heartbeat _ | cancelScan | setControllerStatus _ _ _ => Unit
  | report => Option MotionReport
  | commandId => UInt8
  | reset | requestScan _ | requestPeek _ _ => Bool
  | snapshot => Option Obstacle.Observation
  | readSnapshot => Snapshot

abbrev Event (F : Type) : Type := Σ c : PortCall F, c.Answer

/-- Programs that call the port. -/
abbrev DriveM (F : Type) : Type → Type := Prog (PortCall F) PortCall.Answer

def call (c : PortCall F) : DriveM F c.Answer := Prog.perform c

/-- The calls that ask for motion. -/
def PortCall.isRequest : PortCall F → Bool
  | velocity _ _ | manoeuvre _ | drive _ _ | requestDrive _ _ | requestTurn _ _ => true
  | _ => false

/-! ## State -/

inductive DriveState
  | off
  | follow
  | braking
  | manoeuvre
  | reacquire
  | halted
  | fault
  deriving DecidableEq

/-- `FOLLOW <= state <= REACQUIRE`. -/
def DriveState.running : DriveState → Bool
  | follow | braking | manoeuvre | reacquire => true
  | _ => false

/-- `s3_drive_reason_t`. -/
inductive Reason
  | ok
  | sensorFault
  | motionFault
  | rejected
  | lineLost
  | noDirection
  | unmapped
  | timeout
  | reportFault
  | badInput
  | terrainFault
  deriving DecidableEq

inductive ResetResult
  | idle
  | pending
  | ok
  | failed
  deriving DecidableEq

def resetWaitUs : UInt32 := 500000

def brakeWaitUs : UInt32 := 500000

def manoeuvreWaitUs : UInt32 := 10000000

def reacquireWaitUs : UInt32 := 1000000

def pendingWaitUs : UInt32 := 5000000

/-- `s3_drive_options_t`; `hasDrive` says that the drive pointer is not null. -/
structure Options (F : Type) where
  crossStraight : Bool
  turnAdvanceM : F
  advanceMps : F
  hasDrive : Bool
  pendingWaitUs : UInt32
  turnLineWindowUs : UInt32
  searchDeg : F
  searchMps : F
  trackM : F

/-- `s3_drive_t` without its port. -/
structure Drive (F D : Type) (B : BarcodeReaders) where
  externalHold : Bool
  navigation : Nav F D B
  output : NavOutput F D
  feedback : MotionFeedback D
  state : DriveState
  reason : Reason
  pending : NavAction
  phaseUs : UInt32
  pendingUs : UInt32
  resetUs : UInt32
  reportLossCount : UInt32
  commandId : UInt8
  cancelId : UInt8
  configured : Bool
  waitingStop : Bool
  resetResult : ResetResult
  options : Options F
  junctionM : D
  touchUs : UInt32
  turn : NavAction
  advancing : Bool
  touched : Bool
  searching : Bool
  searchSign : Int
  searchLeg : ℕ
  searchUs : UInt32
  obstacle : Obstacle.Avoidance D
  obstacleSnapshot : ℕ
  obstacleSnapshotUs : UInt32
  obstacleSnapshotValid : Bool
  obstacleScanId : UInt16
  obstacleActive : Bool

variable {D : Type} [CFloat F] [CFloat D] {B : BarcodeReaders}

/-- `s3_drive_default_options`. -/
def Options.defaults : Options F where
  crossStraight := false
  turnAdvanceM := zero
  advanceMps := lit 0.10
  hasDrive := false
  pendingWaitUs := Driving.pendingWaitUs
  turnLineWindowUs := 0
  searchDeg := zero
  searchMps := lit 0.05
  trackM := lit 0.116

/-- Options that `s3_drive_set_options` accepts. -/
def Options.valid (o : Options F) : Bool :=
  isFinite o.turnAdvanceM && isFinite o.advanceMps && !lt o.turnAdvanceM zero &&
    !gt o.turnAdvanceM (lit 0.30) &&
    !(gt o.turnAdvanceM zero && (!o.hasDrive || le o.advanceMps zero)) &&
    o.pendingWaitUs ≠ 0 && o.pendingWaitUs < 0x80000000 && o.turnLineWindowUs < 0x80000000 &&
    isFinite o.searchDeg && !lt o.searchDeg zero && !gt o.searchDeg (lit 60) &&
    !(gt o.searchDeg zero && (o.turnLineWindowUs = 0 || !isFinite o.searchMps ||
      le o.searchMps zero || gt o.searchMps (lit 0.30) || !isFinite o.trackM ||
      lt o.trackM (lit 0.05) || gt o.trackM (lit 0.50)))

def noFeedback : MotionFeedback D := ⟨zero, 0, 0, .idle, .none, false, false, 0, 0⟩

namespace Drive

/-- `s3_drive_init`, for a port with every function. -/
def init (config : NavConfig F D) : Option (Drive F D B) :=
  (Nav.init config).map fun navigation => {
    externalHold := false
    navigation := navigation
    output := .zero
    feedback := noFeedback
    state := .off
    reason := .ok
    pending := .none
    phaseUs := 0
    pendingUs := 0
    resetUs := 0
    reportLossCount := 0
    commandId := 0
    cancelId := 0
    configured := true
    waitingStop := false
    resetResult := .idle
    options := .defaults
    junctionM := zero
    touchUs := 0
    turn := .none
    advancing := false
    touched := false
    searching := false
    searchSign := 0
    searchLeg := 0
    searchUs := 0
    obstacle := .init .defaults
    obstacleSnapshot := 0
    obstacleSnapshotUs := 0
    obstacleSnapshotValid := false
    obstacleScanId := 0
    obstacleActive := false }

/-- The drive owns a run. -/
def running (d : Drive F D B) : Bool := d.state.running

def feedbackFresh (d : Drive F D B) (now : UInt32) : Bool :=
  d.feedback.valid && decide (now - d.feedback.timestampUs ≤ d.navigation.config.maxSampleAgeUs)

/-! ## Halting -/

/-- The obstacle part of `halt`, without its calls. -/
def haltObstacle (d : Drive F D B) (state : DriveState) : Drive F D B :=
  let d := { d with obstacleSnapshotValid := false }
  let d := if state = .fault ∧ d.obstacleActive ∧ d.obstacle.state ≠ .fault then
      { d with obstacle := { d.obstacle with state := .fault, fault := .interrupted } }
    else d
  let d := { d with obstacleActive := false }
  if state ≠ .fault then { d with obstacle := d.obstacle.abort } else d

/-- The rest of `halt`, without its calls: a sensor latch of the navigation is retained. -/
def haltRun (d : Drive F D B) (state : DriveState) (reason : Reason) : Drive F D B :=
  let navigation := d.navigation.endRun.2
  { d with
    resetResult := if d.resetResult = .pending then .failed else d.resetResult
    externalHold := false
    navigation := navigation
    pending := .none
    turn := .none
    advancing := false
    touched := false
    searching := false
    commandId := 0
    cancelId := 0
    waitingStop := false
    output := { d.output with
      steering := { d.output.steering with valid := false }
      action := .none
      events := { Events.clear with
        sensorFault := d.output.events.sensorFault, barcode := d.output.events.barcode }
      lifecycle := navigation.lifecycle
      diagnostic := true }
    state := state
    reason := reason }

/-- Tell the obstacle subsystem how far the detour is. -/
def tellStatus (d : Drive F D B) : DriveM F Unit :=
  call (.setControllerStatus d.obstacle.state d.obstacle.fault d.obstacle.plan.route)

/-- The obstacle part of `halt`. -/
def leaveObstacle (s5 : Bool) (d : Drive F D B) (state : DriveState) : DriveM F (Drive F D B) :=
  if s5 then do
    call .cancelScan
    let d := d.haltObstacle state
    d.tellStatus
    pure d
  else pure d

def halt (s5 : Bool) (d : Drive F D B) (state : DriveState) (reason : Reason) :
    DriveM F (Drive F D B) := do
  let d ← d.leaveObstacle s5 state
  call .stop
  call (.heartbeat false)
  pure (d.haltRun state reason)

/-! ## Commands of the owner -/

/-- `s3_drive_terrain_fault`. -/
def terrainFault (s5 : Bool) (d : Drive F D B) : DriveM F (Drive F D B) :=
  if d.configured then d.halt s5 .fault .terrainFault else pure d

/-- `s3_drive_set_options`. -/
def setOptions (d : Drive F D B) (o : Options F) : Bool × Drive F D B :=
  if !d.configured ∨ ¬(d.state = .off ∨ d.state = .halted ∨ d.state = .fault) ∨ !o.valid then
    (false, d)
  else (true, { d with options := o })

/-- What `s3_drive_start` asks of the drive, the feedback and the navigation. -/
def startReady (d : Drive F D B) (now : UInt32) : Bool :=
  d.configured && (d.state = .off || d.state = .halted) && d.feedbackFresh now &&
    d.feedback.state = .idle && d.feedback.fault = .none && d.feedback.braked &&
    (d.navigation.start now).1

/-- The drive that `s3_drive_start` leaves when it accepts. -/
def started (d : Drive F D B) (now : UInt32) : Drive F D B :=
  { d with
    navigation := ((d.navigation.start now).2.setMode .track).2
    state := .follow
    reason := .ok
    pending := .none }

/-- The part of `s3_drive_start` after the obstacle checks. -/
def startRun (s5 : Bool) (d : Drive F D B) (now : UInt32) (obstacle : Obstacle.Observation) :
    DriveM F (Bool × Drive F D B) :=
  if !d.startReady now then pure (false, d)
  else if s5 then do
    let packet := Obstacle.observationPack obstacle
    let d := { d with
      obstacleSnapshot := packet.getD d.obstacleSnapshot
      obstacleSnapshotValid := packet.isSome
      obstacleSnapshotUs := now
      obstacle := { d.obstacle.abort with fault := .ok } }
    call (.setControllerStatus .idle .ok .none)
    call (.heartbeat true)
    pure (true, d.started now)
  else do
    call (.heartbeat true)
    pure (true, d.started now)

/-- `s3_drive_start`. -/
def start (s5 : Bool) (d : Drive F D B) (now : UInt32) : DriveM F (Bool × Drive F D B) :=
  if s5 then do
    match ← call .snapshot with
    | none => pure (false, d)
    | some obstacle =>
      if !Obstacle.rangeReady obstacle now then pure (false, d) else d.startRun s5 now obstacle
  else d.startRun s5 now .zero

/-- `s3_drive_stop`. -/
def stop (s5 : Bool) (d : Drive F D B) : DriveM F (Drive F D B) :=
  if !d.configured then pure d
  else if d.state = .fault ∨ d.navigation.lifecycle = .faultLatched then
    d.halt s5 .fault d.reason
  else d.halt s5 .off .ok

/-- `s3_drive_reset`. -/
def reset (d : Drive F D B) (now : UInt32) : DriveM F (Bool × Drive F D B) :=
  if !d.configured ∨ d.state ≠ .fault ∨ d.resetResult = .pending then pure (false, d)
  else do
    call .stop
    call (.heartbeat false)
    let ok ← call .reset
    if ok then pure (true, { d with resetUs := now, resetResult := .pending })
    else pure (false, { d with resetResult := .failed })

def finishReset (d : Drive F D B) (now : UInt32) : Drive F D B :=
  if now - d.resetUs ≥ resetWaitUs then { d with resetResult := .failed }
  else if !d.feedbackFresh now ∨ (d.feedback.timestampUs - d.resetUs).toInt32 ≤ 0 ∨
      d.feedback.state ≠ .idle ∨ d.feedback.fault ≠ .none ∨ !d.feedback.braked then d
  else
    let fault := if d.navigation.lifecycle = .faultLatched then d.navigation.resetFault now
      else (true, d.navigation)
    let d := { d with navigation := fault.2 }
    if !fault.1 then d
    else if d.navigation.readiness now ≠ .clear then d
    else
      { d with
        state := .off
        reason := .ok
        output := { d.output with lifecycle := d.navigation.lifecycle, stopRequested := false }
        resetResult := .ok }

/-! ## Requests -/

def manoeuvreOf : NavAction → Option Manoeuvre
  | .none => none
  | .left => some .left
  | .right => some .right
  | .straight => some .straight
  | .uTurn => some .uTurn

def requestTurn (d : Drive F D B) : DriveM F (Bool × Drive F D B) :=
  match manoeuvreOf d.turn with
  | none => pure (false, d)
  | some m => do
    let result ← call (.manoeuvre m)
    if result ≠ .ok then pure (false, d)
    else
      let id ← call .commandId
      pure (id ≠ 0, { d with commandId := id })

/-- The advance of `start_manoeuvre`, less what was travelled since the junction was detected. -/
def advanceLeft [CDouble F D] (d : Drive F D B) : F :=
  d.options.turnAdvanceM - CDouble.toFloat (d.feedback.centreM - d.junctionM)

/-- The turn is preceded by an advance. -/
def advances [CDouble F D] (d : Drive F D B) : Bool :=
  (d.turn = .left || d.turn = .right) && gt d.options.turnAdvanceM zero &&
    gt d.advanceLeft (lit 0.003)

def startManoeuvre [CDouble F D] (d : Drive F D B) : DriveM F (Bool × Drive F D B) :=
  let d := { d with touched := false }
  if d.advances then do
    let result ← call (.drive d.advanceLeft d.options.advanceMps)
    if result ≠ .ok then pure (false, d)
    else
      let id ← call .commandId
      pure (id ≠ 0, { d with advancing := true, commandId := id })
  else requestTurn { d with advancing := false }

def straightAcross (d : Drive F D B) : Bool :=
  d.options.crossStraight && d.output.line.valid && d.output.line.junctionCandidate &&
    (d.pending = .none || d.pending = .straight)

def requestStop (d : Drive F D B) (now : UInt32) : DriveM F (Drive F D B) :=
  if d.waitingStop then pure d
  else do
    call .stop
    pure { d with cancelId := d.commandId, commandId := 0, waitingStop := true, phaseUs := now }

def stoppedAfterRequest (d : Drive F D B) : Bool :=
  d.feedback.braked && d.feedback.state = .idle && d.cancelId = 0 &&
    decide (0 < (d.feedback.timestampUs - d.phaseUs).toInt32)

/-! ## Reports -/

/-- What `receive_reports` carries through its loop. -/
structure Drained where
  cancelId : UInt8
  healthy : Bool
  done : Bool

/-- The body of the loop of `receive_reports` in a running state. -/
def Drained.take (state : DriveState) (commandId : UInt8) (acc : Drained) (r : MotionReport) :
    Drained :=
  let healthy := acc.healthy && !r.lost
  if r.commandId = 0 then { acc with healthy := false }
  else if r.commandId = acc.cancelId then
    { acc with cancelId := 0, healthy := healthy && r.outcome = .cancelled }
  else if r.commandId = commandId then
    if state = .manoeuvre ∧ r.outcome = .done ∧ !acc.done ∧ r.fault = .none then
      { acc with done := true, healthy := healthy }
    else { acc with healthy := false }
  else { acc with healthy := healthy }

/-- The loop of `receive_reports`, with the number of reads left. -/
def drain (d : Drive F D B) : ℕ → Drained → DriveM F Drained
  | 0, acc => pure acc
  | n + 1, acc => do
    match ← call .report with
    | none => pure acc
    | some r => d.drain n (if d.running then acc.take d.state d.commandId r else acc)

/-- `MOTION_REPORT_QUEUE_LEN`. -/
def reportQueueLen : ℕ := 8

def receiveReports (d : Drive F D B) : DriveM F Drained :=
  d.drain reportQueueLen ⟨d.cancelId, true, false⟩

/-! ## The sweep for a missed line -/

def searchLegUs (d : Drive F D B) : UInt32 :=
  let rad := d.options.searchDeg * lit 0.0174533
  let s := rad * lit 0.5 * d.options.trackM / d.options.searchMps
  toUInt32 (s * lit 1000000) + 1

def startSearch (d : Drive F D B) (now : UInt32) : Drive F D B :=
  let turnSign : Int := if d.turn = .right then -1 else 1
  let spinUs := now - d.phaseUs
  let overshoot := d.touched ∧ spinUs > 0 ∧ now - d.touchUs < spinUs / 2
  { d with
    searchSign := if overshoot then -turnSign else turnSign
    searchLeg := 0
    searchUs := now
    phaseUs := now
    searching := true }

/-- The sweep velocity of `search_step`. -/
def sweep (s5 : Bool) (d : Drive F D B) : DriveM F (Drive F D B) := do
  let v := d.options.searchMps * ofInt d.searchSign
  let result ← call (.velocity (-v) v)
  if result ≠ .ok then d.halt s5 .fault .rejected else pure d

def searchStep (s5 : Bool) (d : Drive F D B) (now : UInt32) : DriveM F (Drive F D B) :=
  if d.output.line.valid ∧ d.output.line.touching then do
    call .stop
    pure { d with
      searching := false
      navigation := (d.navigation.setMode .track).2
      state := .reacquire
      phaseUs := now }
  else if now - d.searchUs ≥ d.searchLegUs * (if d.searchLeg = 0 then 1 else 2) then
    if d.searchLeg ≠ 0 then d.halt s5 .halted .lineLost
    else sweep s5 { d with searchLeg := 1, searchSign := -d.searchSign, searchUs := now }
  else d.sweep s5

/-! ## Following the line -/

/-- The velocity request of `follow`. -/
def requestVelocity (s5 : Bool) (d : Drive F D B) (left right : F) : DriveM F (Drive F D B) := do
  let result ← call (.velocity left right)
  if result ≠ .ok then d.halt s5 .fault .rejected
  else
    let id ← call .commandId
    let d := { d with commandId := id }
    if id = 0 then d.halt s5 .fault .reportFault else pure d

/-- The end of `follow`: a velocity, or a stop where there is nothing to steer by. -/
def steer (s5 : Bool) (d : Drive F D B) (now : UInt32) : DriveM F (Drive F D B) :=
  if d.output.steering.valid then
    d.requestVelocity s5 d.output.steering.leftMps d.output.steering.rightMps
  else if d.straightAcross then
    d.requestVelocity s5 d.navigation.config.steering.baseMps d.navigation.config.steering.baseMps
  else d.requestStop now

/-- `follow` after the events: a stop that was asked for has to be complete first. -/
def followLine (s5 : Bool) (d : Drive F D B) (now : UInt32) : DriveM F (Drive F D B) :=
  if d.waitingStop then
    if now - d.phaseUs > brakeWaitUs then d.halt s5 .fault .timeout
    else if !d.stoppedAfterRequest then pure d
    else if !d.output.steering.valid ∧ !d.straightAcross then pure d
    else steer s5 { d with waitingStop := false } now
  else d.steer s5 now

/-- `follow` after the barcode: the pending action times out, and a junction uses it. -/
def followEvents (s5 : Bool) (d : Drive F D B) (now : UInt32) : DriveM F (Drive F D B) :=
  if d.pending ≠ .none ∧ now - d.pendingUs > d.options.pendingWaitUs then
    d.halt s5 .halted .timeout
  else if d.output.events.junction then
    if d.options.crossStraight ∧ (d.pending = .none ∨ d.pending = .straight) then
      followLine s5 { d with pending := .none } now
    else if d.pending = .none then d.halt s5 .halted .noDirection
    else do
      let d ← requestStop { d with junctionM := d.feedback.centreM } now
      pure { d with state := .braking }
  else d.followLine s5 now

def follow (s5 : Bool) (d : Drive F D B) (now : UInt32) : DriveM F (Drive F D B) :=
  if d.output.events.lineLost then d.halt s5 .halted .lineLost
  else if d.output.events.barcode then
    if d.output.action = .none then d.halt s5 .halted .unmapped
    else if d.pending ≠ .none then d.halt s5 .halted .noDirection
    else followEvents s5 { d with pending := d.output.action, pendingUs := now } now
  else d.followEvents s5 now

/-! ## The detour -/

/-- `obstacle_snapshot`: whether there is an observation, the observation, and the drive with its
cached packet. -/
def readObstacle (d : Drive F D B) (now : UInt32) :
    DriveM F (Bool × Obstacle.Observation × Drive F D B) := do
  match ← call .readSnapshot with
  | .ok observation =>
    let packet := Obstacle.observationPack observation
    pure (packet.isSome, observation, { d with
      obstacleSnapshot := packet.getD d.obstacleSnapshot
      obstacleSnapshotValid := packet.isSome
      obstacleSnapshotUs := now })
  | result =>
    if result = .busy ∧ d.obstacleSnapshotValid ∧
        now - d.obstacleSnapshotUs ≤ Obstacle.rangeFreshUs then
      let cached := Obstacle.observationUnpack d.obstacleSnapshot
      pure (cached.isSome, cached.getD .zero, d)
    else pure (false, .zero, { d with obstacleSnapshotValid := false })

/-- The avoidance machine is faulted by the drive. -/
def faultObstacle (d : Drive F D B) (fault : Obstacle.Fault) : Drive F D B :=
  { d with obstacle := { d.obstacle with state := .fault, fault := fault } }

/-- The input that `obstacle_control` gives to the avoidance machine. -/
def obstacleInput (d : Drive F D B) (now : UInt32) (done have_ : Bool)
    (observation : Obstacle.Observation) : Obstacle.Input D where
  nowUs := now
  centreM := d.feedback.centreM
  stopped := d.stoppedAfterRequest
  motionDone := done
  healthy := have_ && d.output.line.valid
  tape := if d.navigation.config.line.between then d.output.line.touching else d.output.line.present
  junction := d.output.line.junctionCandidate
  lineReady := d.output.steeringPreview.valid
  observation :=
    if observation.scanId ≠ d.obstacleScanId then { observation with scanDone := false }
    else observation

/-- The next scan id: it skips 0 when it wraps. -/
def nextScanId (d : Drive F D B) : UInt16 :=
  if d.obstacleScanId + 1 = 0 then 1 else d.obstacleScanId + 1

/-- The end of `obstacle_control` after a failed request. -/
def rejectObstacle (s5 : Bool) (d : Drive F D B) : DriveM F (Drive F D B) := do
  let d ← (d.faultObstacle .motionError).halt s5 .fault .rejected
  d.tellStatus
  pure d

/-- A scan or a side reading: the wait for the stop is over. -/
def requestLook (s5 : Bool) (d : Drive F D B) (look : UInt16 → DriveM F Bool) :
    DriveM F (Drive F D B) := do
  let d := { d with waitingStop := false, obstacleScanId := d.nextScanId }
  let ok ← look d.obstacleScanId
  if ok then
    d.tellStatus
    pure d
  else d.rejectObstacle s5

/-- A drive or a turn of the detour, with the id of the command. -/
def requestLeg (s5 : Bool) (d : Drive F D B) (now : UInt32) (leg : DriveM F MotionResult) :
    DriveM F (Drive F D B) := do
  let result ← leg
  if result ≠ .ok then d.rejectObstacle s5
  else
    let id ← call .commandId
    let d := { d with commandId := id, phaseUs := now }
    if id = 0 then d.rejectObstacle s5
    else
      d.tellStatus
      pure d

/-- The switch of `obstacle_control` over the action of the avoidance machine. -/
def performAction (s5 : Bool) (d : Drive F D B) (now : UInt32) (request : Obstacle.Action) :
    DriveM F (Drive F D B) :=
  match request.kind with
  | .stop => do
    call .stop
    let d := { d with phaseUs := now, commandId := 0 }
    d.tellStatus
    pure d
  | .scan => d.requestLook s5 fun id => call (.requestScan id)
  | .peek => d.requestLook s5 fun id => call (.requestPeek id request.value)
  | .drive => d.requestLeg s5 now (call (.requestDrive (ofInt request.value / lit 1000)
      (ofInt request.speedMms / lit 1000)))
  | .turn => d.requestLeg s5 now (call (.requestTurn (ofInt request.value)
      (ofInt request.speedMms / lit 1000)))
  | .resume => do
    let d := { d with
      obstacleActive := false
      waitingStop := false
      commandId := 0
      cancelId := 0
      pendingUs := if d.pending ≠ .none then d.pendingUs + (now - d.obstacle.startedUs)
        else d.pendingUs
      navigation := (d.navigation.setMode .track).2
      state := .follow }
    d.tellStatus
    pure d
  | .none => do
    d.tellStatus
    pure d

/-- `obstacle_control` with a detour under way: one step of the avoidance machine. -/
def detour (s5 : Bool) (d : Drive F D B) (now : UInt32) (done have_ : Bool)
    (observation : Obstacle.Observation) : DriveM F (Drive F D B) :=
  let d := if done then { d with commandId := 0 } else d
  let step := d.obstacle.step (d.obstacleInput now done have_ observation)
  let d := { d with obstacle := step.2 }
  if d.obstacle.state = .fault then d.halt s5 .fault .badInput
  else d.performAction s5 now step.1

/-- The start of a detour: the drive brakes, keeps a barcode of the same cycle and suppresses the
line. -/
def beginDetour (s5 : Bool) (d : Drive F D B) (now : UInt32) (done have_ : Bool)
    (observation : Obstacle.Observation) : DriveM F (Drive F D B) := do
  let d ← requestStop { d with obstacle := d.obstacle.begin now, obstacleActive := true } now
  detour s5 { d with
    state := .manoeuvre
    navigation := (d.navigation.setMode .suppressed).2 } now done have_ observation

/-- `obstacle_control`: `false` where the cycle goes on without a detour. -/
def obstacleControl (s5 : Bool) (d : Drive F D B) (now : UInt32) (done : Bool) :
    DriveM F (Bool × Drive F D B) := do
  let read ← d.readObstacle now
  let have_ := read.1
  let observation := read.2.1
  let d := read.2.2
  if d.obstacleActive then
    let d ← d.detour s5 now done have_ observation
    pure (true, d)
  else if !have_ ∨ !Obstacle.rangeReady observation now then
    let d ← (d.faultObstacle .badRange).halt s5 .fault .badInput
    pure (true, d)
  else if d.state ≠ .follow then
    if observation.rangeMm ≤ d.obstacle.config.emergencyMm then
      let d ← (d.faultObstacle .noPath).halt s5 .fault .badInput
      pure (true, d)
    else pure (false, d)
  else if observation.rangeMm > d.obstacle.config.detectMm then pure (false, d)
  else if d.output.events.lineLost then
    let d ← d.halt s5 .halted .lineLost
    pure (true, d)
  else if d.output.events.barcode then
    if d.pending ≠ .none ∨ d.output.action = .none then
      let d ← d.halt s5 .halted .unmapped
      pure (true, d)
    else
      let d ← beginDetour s5 { d with pending := d.output.action, pendingUs := now } now done have_
        observation
      pure (true, d)
  else
    let d ← d.beginDetour s5 now done have_ observation
    pure (true, d)

/-! ## One cycle -/

/-- The `S3_DRIVE_BRAKING` branch. -/
def braking [CDouble F D] (s5 : Bool) (d : Drive F D B) (now : UInt32) :
    DriveM F (Drive F D B) :=
  if now - d.phaseUs > brakeWaitUs then d.halt s5 .fault .timeout
  else if d.stoppedAfterRequest then do
    let started ← startManoeuvre { d with
      waitingStop := false
      navigation := (d.navigation.setMode .suppressed).2
      turn := d.pending }
    if !started.1 then started.2.halt s5 .fault .rejected
    else pure { started.2 with pending := .none, state := .manoeuvre, phaseUs := now }
  else pure d

/-- A front sensor touched the tape close enough to the end of the turn. -/
def lineReached (d : Drive F D B) (now : UInt32) : Bool :=
  d.touched && decide (now - d.touchUs ≤ d.options.turnLineWindowUs)

/-- The end of a turn: reacquire the line, or sweep for it. -/
def finishTurn (s5 : Bool) (d : Drive F D B) (now : UInt32) : DriveM F (Drive F D B) := do
  let turned := d.turn = .left ∨ d.turn = .right ∨ d.turn = .uTurn
  call .stop
  let d := { d with commandId := 0 }
  if turned ∧ d.options.turnLineWindowUs ≠ 0 ∧ !d.lineReached now then
    if gt d.options.searchDeg zero then pure (d.startSearch now)
    else d.halt s5 .halted .lineLost
  else pure { d with
    navigation := (d.navigation.setMode .track).2, state := .reacquire, phaseUs := now }

/-- The `S3_DRIVE_MANOEUVRE` branch of an advance or a turn. -/
def turning (s5 : Bool) (d : Drive F D B) (now : UInt32) (done : Bool) :
    DriveM F (Drive F D B) :=
  let d := if !d.advancing ∧ d.output.line.valid ∧ d.output.line.touching then
      { d with touchUs := now, touched := true }
    else d
  if now - d.phaseUs > manoeuvreWaitUs then d.halt s5 .fault .timeout
  else if done ∧ d.advancing then do
    let turn ← requestTurn { d with commandId := 0, advancing := false }
    if !turn.1 then turn.2.halt s5 .fault .rejected else pure { turn.2 with phaseUs := now }
  else if done then d.finishTurn s5 now
  else if d.feedback.state ≠ .turn ∧ d.feedback.state ≠ .drive ∧ d.feedback.state ≠ .complete then
    d.halt s5 .fault .rejected
  else pure d

/-- The `S3_DRIVE_REACQUIRE` branch. -/
def reacquire (s5 : Bool) (d : Drive F D B) (now : UInt32) : DriveM F (Drive F D B) := do
  call .stop
  if now - d.phaseUs > reacquireWaitUs then d.halt s5 .halted .lineLost
  else if d.output.steering.valid ∧ d.stoppedAfterRequest then pure { d with state := .follow }
  else pure d

/-- The branches of `s3_drive_process` over the running states. -/
def advance [CDouble F D] (s5 : Bool) (d : Drive F D B) (now : UInt32) (done : Bool) :
    DriveM F (Drive F D B) :=
  if d.state = .follow then d.follow s5 now
  else if d.state = .braking then d.braking s5 now
  else if d.state = .manoeuvre ∧ d.searching then
    if now - d.phaseUs > manoeuvreWaitUs then d.halt s5 .fault .timeout
    else d.searchStep s5 now
  else if d.state = .manoeuvre then d.turning s5 now done
  else d.reacquire s5 now

/-- The cycle of a run that may move: heartbeat, detour, and the branch of the state. -/
def act [CDouble F D] (s5 : Bool) (d : Drive F D B) (now : UInt32) (done : Bool) :
    DriveM F (Drive F D B) := do
  call (.heartbeat true)
  if s5 then
    let detoured ← d.obstacleControl s5 now done
    if detoured.1 then pure detoured.2 else detoured.2.advance s5 now done
  else d.advance s5 now done

/-- The feedback is usable: fresh, and the motion subsystem has no fault. -/
def feedbackHealthy (d : Drive F D B) (now : UInt32) : Bool :=
  d.feedbackFresh now && d.feedback.state ≠ .fault && d.feedback.fault = .none

/-- The feedback belongs to the stored command. -/
def feedbackMatches (d : Drive F D B) : Bool :=
  d.commandId = 0 || d.feedback.commandId = d.commandId

/-- `s3_drive_process` after the navigation: every check before a cycle may move. -/
def control [CDouble F D] (s5 : Bool) (d : Drive F D B) (now : UInt32) (healthy done : Bool) :
    DriveM F (Drive F D B) :=
  if d.resetResult = .pending then pure (d.finishReset now)
  else if d.output.stopRequested then d.halt s5 .fault .sensorFault
  else if d.running ∧ !d.feedbackHealthy now then d.halt s5 .fault .motionFault
  else if !d.running then pure d
  else if !healthy ∨ !d.feedbackMatches then d.halt s5 .fault .reportFault
  else if d.externalHold then do
    let d ← d.requestStop now
    call (.heartbeat false)
    pure d
  else d.act s5 now done

def odometryOf (feedback : MotionFeedback D) : OdometrySample D :=
  ⟨feedback.centreM, feedback.timestampUs, feedback.epoch, feedback.valid⟩

/-- The drive after the reports of a cycle. -/
def received (d : Drive F D B) (acc : Drained) : Drive F D B :=
  { d with cancelId := acc.cancelId, reportLossCount := d.feedback.reportLossCount }

/-- The reports were healthy and no report was lost since the last cycle. -/
def reportsHealthy (d : Drive F D B) (acc : Drained) : Bool :=
  acc.healthy && !(d.running && d.feedback.reportLossCount ≠ d.reportLossCount)

/-- `s3_drive_process` after the reports. -/
def navigate [CDouble F D] (s5 : Bool) (d : Drive F D B) (frame : SensorFrame) (acc : Drained) :
    DriveM F (Drive F D B) :=
  match d.navigation.process frame (some (odometryOf d.feedback)) with
  | none => halt s5 { d.received acc with output := .zero } .fault .badInput
  | some (output, navigation) =>
    control s5 { d.received acc with output := output, navigation := navigation }
      frame.timestampUs (d.reportsHealthy acc) acc.done

/-- `s3_drive_process`.  Its result, which says only whether the input was usable, is ignored by
its caller. -/
def process [CDouble F D] (s5 : Bool) (d : Drive F D B) (frame : Option SensorFrame)
    (feedback : Option (MotionFeedback D)) : DriveM F (Drive F D B) :=
  if !d.configured then pure d
  else
    match frame with
    | none => d.halt s5 .fault .badInput
    | some frame => do
      let d := { d with feedback := feedback.getD noFeedback }
      let acc ← d.receiveReports
      d.navigate s5 frame acc

end Drive

end RoboticCar.Driving
