import RoboticCar.Motion.Motor

/-!
# The motion controller

`motion_controller.c`: the statechart with its straight-line correction, fault checks and motor
outputs.  The module-level variables of the source are the fields of `Ctrl`, with the motor outputs
and the reports handed to the sink.  What the encoder and the estimator return is a `Sensors`
record.
-/

namespace RoboticCar.Motion

open Lib CFloat

/-- What the encoder and the estimator return while a function of the controller runs. -/
structure Sensors (F : Type) where
  /-- `wheel_encoder_bits` -/
  bits : Wheels UInt32
  /-- `wheel_encoder_glitches` -/
  glitches : Wheels UInt32
  /-- `motion_estimation_wheel_speed` -/
  speed : Wheels F
  /-- `motion_estimation_wheel_accel` -/
  accel : Wheels F
  /-- `motion_estimation_scale` -/
  scale : F

structure WheelCtrl (F : Type) where
  pid : SpeedPid F
  stallRef : UInt32
  stallMs : UInt32
  wrongMs : UInt32
  glitchSeen : UInt32
  glitchBucket : UInt32

/-- The variables of `motion_controller.c`, the motor outputs and the reports made so far. -/
structure Ctrl (F : Type) where
  state : MotionState
  faultBits : UInt8
  cmdId : UInt8
  busy : Bool
  brakePending : Bool
  mvTurn : Bool
  mvBack : Wheels Bool
  wheel : Wheels (WheelCtrl F)
  stillMs : UInt16
  maxSpeedMps : F
  leadDriveM : F
  leadTurnM : F
  velTarget : Wheels F
  velStampUs : UInt32
  mvStart : Wheels UInt32
  mvDistM : F
  mvSpeedMps : F
  mvDeadlineUs : UInt32
  motor : Wheels (Motor F)
  sink : List MotionReport

variable {F : Type} [CFloat F]

/-- The module variables as the program is loaded. -/
def Ctrl.boot : Ctrl F :=
  let pid : SpeedPid F := ⟨zero, zero, zero, zero, zero, zero, zero⟩
  let wheel : WheelCtrl F := ⟨pid, 0, 0, 0, 0, 0⟩
  let motor : Motor F := ⟨false, zero, 0, 0⟩
  { state := .idle, faultBits := 0, cmdId := 0, busy := false, brakePending := false
    mvTurn := false, mvBack := ⟨false, false⟩, wheel := ⟨wheel, wheel⟩, stillMs := 0
    maxSpeedMps := lit 1, leadDriveM := zero, leadTurnM := zero
    velTarget := ⟨zero, zero⟩, velStampUs := 0
    mvStart := ⟨0, 0⟩, mvDistM := zero, mvSpeedMps := zero, mvDeadlineUs := 0
    motor := ⟨motor, motor⟩, sink := [] }

/-! ## Helpers -/

/-- `sqrt_f`: twelve steps of Newton's method. -/
def sqrtF (x : F) : F :=
  if le x zero then zero
  else Nat.iterate (fun guess => lit (1 / 2) * (guess + x / guess)) 12
    (if gt x (lit 1) then x else lit 1)

/-- `count_from_bits`: a 20-bit two's complement field as an integer. -/
def countFromBits (bits : UInt32) : Int :=
  let b : ℕ := bits.toNat % 2 ^ 20
  if b < 2 ^ 19 then b else (b : Int) - 2 ^ 20

def wheelEncoderDelta (nowBits thenBits : UInt32) : Int := countFromBits (nowBits - thenBits)

/-- `add_ms`: add to a timer, held at its largest value. -/
def addMs (ms dtMs maxMs : UInt32) : UInt32 := if maxMs - ms > dtMs then ms + dtMs else maxMs

/-- `time_after`: past the deadline on the wrapping clock. -/
def timeAfter (nowUs deadlineUs : UInt32) : Bool := (nowUs - deadlineUs).toInt32 > 0

def isActive (s : MotionState) : Bool := s == .velocity || s == .drive || s == .turn

/-- `mv_sign`: `+1` forward, `-1` backward. -/
def mvSign (c : Ctrl F) (w : Wheel) : F := if c.mvBack.get w then -(lit 1) else lit 1

/-- `outputs_safe`: brake both motors, which also ends a pending stop. -/
def outputsSafe (c : Ctrl F) : Ctrl F :=
  { c with
    motor := motorControlBrakeAll c.motor
    brakePending := false
    wheel := c.wheel.map fun _ w => { w with pid := w.pid.reset } }

/-- `new_command`: the next id, where 255 is followed by 1. -/
def newCommand (c : Ctrl F) : Ctrl F :=
  { c with cmdId := if c.cmdId + 1 = 0 then 1 else c.cmdId + 1 }

/-- `report`: hand a report for the current id to the sink. -/
def report (outcome : MotionOutcome) (fault : MotionFault) (c : Ctrl F) : Ctrl F :=
  { c with sink := c.sink ++ [⟨c.cmdId, outcome, fault, false⟩] }

def raiseFaults (faultBits : UInt8) (c : Ctrl F) : Ctrl F :=
  let c := outputsSafe c
  report .fault (motionFaultFirst faultBits)
    { c with faultBits := (c.faultBits ||| faultBits) &&& 0x1F, state := .fault }

def raiseFault (fault : MotionFault) (c : Ctrl F) : Ctrl F := raiseFaults (motionFaultBit fault) c

def complete (c : Ctrl F) : Ctrl F := report .done .none { c with state := .complete }

def clearChecks (s : Sensors F) (c : Ctrl F) : Ctrl F :=
  { c with wheel := c.wheel.map fun w x =>
      { x with stallRef := s.bits.get w &&& 0xFFFFF, stallMs := 0, wrongMs := 0 } }

def wheelDrive (s : Sensors F) (w : Wheel) (targetMps dtS : F) (c : Ctrl F) : Ctrl F :=
  let x := c.wheel.get w
  let u := x.pid.update targetMps (s.speed.get w) (s.accel.get w) dtS
  { c with
    wheel := c.wheel.set w { x with pid := u.2 }
    motor := motorControlSet c.motor w u.1 }

/-- The timers of `wheel_check`: no encoder progress, and turning against the command. -/
def wheelTimers (s : Sensors F) (w : Wheel) (dtMs : UInt32) (x : WheelCtrl F) : WheelCtrl F :=
  let count := s.bits.get w
  let cmd := x.pid.setpointMps
  let speed := s.speed.get w
  let x :=
    if lt (absF cmd) (lit (2 / 100)) || decide (2 ≤ |wheelEncoderDelta count x.stallRef|) then
      { x with stallRef := count &&& 0xFFFFF, stallMs := 0 }
    else { x with stallMs := addMs x.stallMs dtMs 1023 }
  if gt (absF cmd) (lit (5 / 100)) && gt (absF speed) (lit (5 / 100)) &&
      (gt cmd zero != gt speed zero) then
    { x with wrongMs := addMs x.wrongMs dtMs 511 }
  else { x with wrongMs := 0 }

/-- The verdict of `wheel_check` on the timers. -/
def wheelVerdict (x : WheelCtrl F) : MotionFault :=
  if x.stallMs ≥ 600 then .stall
  else if x.wrongMs ≥ 300 then .direction
  else if x.glitchBucket > 25 then .encoder
  else .none

def wheelCheck (s : Sensors F) (w : Wheel) (dtMs : UInt32) (c : Ctrl F) : MotionFault × Ctrl F :=
  let x := wheelTimers s w dtMs (c.wheel.get w)
  (wheelVerdict x, { c with wheel := c.wheel.set w x })

/-- `track_glitches`: the leaky bucket of each wheel. -/
def trackGlitches (s : Sensors F) (c : Ctrl F) : Ctrl F :=
  { c with wheel := c.wheel.map fun w x =>
      let seen := s.glitches.get w
      let bucket := x.glitchBucket + ((seen - x.glitchSeen) &&& 0xFF)
      let bucket := if bucket > 50 then 50 else bucket
      let bucket := if bucket > 0 then bucket - 1 else bucket
      { x with glitchSeen := seen &&& 0xFF, glitchBucket := bucket } }

/-- `move_wheel_progress`: the distance along the wheel's commanded direction. -/
def moveWheelProgress (s : Sensors F) (c : Ctrl F) (w : Wheel) : F :=
  mvSign c w * ofInt (wheelEncoderDelta (s.bits.get w) (c.mvStart.get w)) * s.scale

/-- The distance left to the brake point of the running move. -/
def moveToBrake (s : Sensors F) (c : Ctrl F) : F :=
  let lead := if c.mvTurn then c.leadTurnM else c.leadDriveM
  c.mvDistM - lead - lit (1 / 2) * (moveWheelProgress s c .left + moveWheelProgress s c .right)

/-- The driving part of `move_step`, with `toBrake` left to the brake point. -/
def moveDrive (s : Sensors F) (dtS toBrake : F) (c : Ctrl F) : Ctrl F :=
  let crawl := minF c.mvSpeedMps (lit (4 / 100))
  -- crawl speed is reached a fixed distance before the brake point
  let v := sqrtF (lit 2 * lit (6 / 10) * maxF (toBrake - lit (8 / 1000)) zero)
  let v := maxF (minF v c.mvSpeedMps) crawl
  -- straight-line correction: the wheel that is ahead slows
  let corr := lit 4 * (moveWheelProgress s c .left - moveWheelProgress s c .right)
  let corr := maxF (minF corr v) (-v)
  let c' := wheelDrive s .left (mvSign c .left * maxF (v - corr) zero) dtS c
  wheelDrive s .right (mvSign c' .right * maxF (v + corr) zero) dtS c'

/-- `move_step`: `true` when the brake point is reached. -/
def moveStep (s : Sensors F) (dtS : F) (c : Ctrl F) : Bool × Ctrl F :=
  let toBrake := moveToBrake s c
  if le toBrake zero then (true, c) else (false, moveDrive s dtS toBrake c)

/-! ## Interface -/

def motionControllerSpeedCap (c : Ctrl F) : F := lit (9 / 10) * c.maxSpeedMps

def motionControllerInit (s : Sensors F) (maxSpeedMps stopLeadDriveM stopLeadTurnM : F)
    (c : Ctrl F) : Ctrl F :=
  let maxSpeed := if gt maxSpeedMps zero then maxSpeedMps else lit 1
  let kff := lit 1 / maxSpeed
  let c := { c with
    maxSpeedMps := maxSpeed
    leadDriveM := stopLeadDriveM
    leadTurnM := stopLeadTurnM
    wheel := c.wheel.map fun w x =>
      { x with
        pid := x.pid.init (lit (32 / 10) * kff) (lit 5 * kff) (lit 0 * kff) kff (lit (15 / 10))
        glitchSeen := s.glitches.get w &&& 0xFF
        glitchBucket := 0 }
    velTarget := ⟨zero, zero⟩ }
  outputsSafe { clearChecks s c with state := .idle, faultBits := 0 }

/-- The part of `motion_controller_step` that runs in every state: glitches and stillness. -/
def trackStill (s : Sensors F) (dtMs : UInt32) (c : Ctrl F) : Ctrl F :=
  let c := trackGlitches s c
  if lt (absF s.speed.left) (lit (1 / 100)) && lt (absF s.speed.right) (lit (1 / 100)) then
    if c.stillMs < 60000 then { c with stillMs := (c.stillMs.toUInt32 + dtMs).toUInt16 } else c
  else { c with stillMs := 0 }

/-- The feedback checks at the end of an active step, which come before completion. -/
def stepChecks (s : Sensors F) (dtMs : UInt32) (done : Bool) (c : Ctrl F) : Ctrl F :=
  let l := wheelCheck s .left dtMs c
  let r := wheelCheck s .right dtMs l.2
  if l.1 ≠ .none ∨ r.1 ≠ .none then raiseFaults (motionFaultBit l.1 ||| motionFaultBit r.1) r.2
  else if done then complete (outputsSafe r.2)
  else r.2

def motionControllerStep (s : Sensors F) (dtS : F) (nowUs : UInt32) (c : Ctrl F) : Ctrl F :=
  let dtMs := toUInt32 (dtS * lit 1000 + lit (1 / 2))
  let c := trackStill s dtMs c
  -- a calibration drives the motors itself
  if c.busy then c
  else
    match c.state with
    | .velocity =>
      if timeAfter nowUs (c.velStampUs + 250000) then raiseFault .staleCommand c
      else
        let c := wheelDrive s .left c.velTarget.left dtS c
        let c := wheelDrive s .right c.velTarget.right dtS c
        stepChecks s dtMs false c
    | .drive | .turn =>
      if timeAfter nowUs c.mvDeadlineUs then raiseFault .timeout c
      else
        let m := moveStep s dtS c
        stepChecks s dtMs m.1 m.2
    | .idle | .complete | .fault => outputsSafe c

def motionControllerMakeSafe (c : Ctrl F) : Ctrl F :=
  if !isActive c.state && !c.busy then outputsSafe c else c

def motionControllerRequestVelocity (s : Sensors F) (leftMps rightMps : F) (nowUs : UInt32)
    (c : Ctrl F) : MotionResult × Ctrl F :=
  let cap := motionControllerSpeedCap c
  if c.state = .fault then (.errFault, c)
  -- stop priority: nothing new until the motion task has braked
  else if c.busy ∨ c.brakePending ∨ (c.state ≠ .idle ∧ c.state ≠ .velocity) then (.errBusy, c)
  else
    let c := { c with
      velTarget := ⟨maxF (minF leftMps cap) (-cap), maxF (minF rightMps cap) (-cap)⟩
      velStampUs := nowUs }
    if c.state = .idle then (.ok, { clearChecks s (newCommand c) with state := .velocity })
    else (.ok, c)

def motionControllerRequestMove (s : Sensors F) (kind : MotionState) (signLeft signRight : Int)
    (distM speedMps : F) (nowUs : UInt32) (c : Ctrl F) : MotionResult × Ctrl F :=
  let speed := minF speedMps (motionControllerSpeedCap c)
  let allowedS := distM / speed * lit 3 + lit 2
  if c.state = .fault then (.errFault, c)
  else if c.busy ∨ c.brakePending ∨ c.state ≠ .idle then (.errBusy, c)
  -- what the deadline cannot represent, NaN and infinity included
  else if !ge distM zero ∨ !gt speed zero ∨ !le allowedS (lit 600) then (.errBadArg, c)
  else
    let c := { c with
      mvTurn := kind == .turn
      mvBack := ⟨decide (signLeft < 0), decide (signRight < 0)⟩
      mvStart := ⟨s.bits.left &&& 0xFFFFF, s.bits.right &&& 0xFFFFF⟩
      mvDistM := distM
      mvSpeedMps := speed
      mvDeadlineUs := nowUs + toUInt32 (allowedS * lit 1000000) }
    let c := { newCommand (clearChecks s c) with state := kind }
    -- zero length: done at once
    (.ok, if le distM zero then complete c else c)

def motionControllerNavigationTimeout (c : Ctrl F) : Ctrl F := raiseFault .staleCommand c

def motionControllerStop (c : Ctrl F) : Ctrl F :=
  let c := if isActive c.state then { report .cancelled .none c with brakePending := true } else c
  if c.state ≠ .fault then { c with state := .idle } else c

def motionControllerCancel (commandId : UInt8) (c : Ctrl F) : MotionResult × Ctrl F :=
  if c.state = .fault then (.errFault, c)
  else if commandId = 0 ∨ commandId ≠ c.cmdId ∨ !isActive c.state then (.errObsolete, c)
  else (.ok, motionControllerStop c)

def motionControllerReset (c : Ctrl F) : Bool × Ctrl F :=
  if c.state ≠ .fault then (true, c)
  else if c.stillMs ≥ 200 ∧ c.wheel.left.glitchBucket ≤ 12 ∧ c.wheel.right.glitchBucket ≤ 12 then
    (true, { c with faultBits := 0, state := .idle })
  else (false, c)

def motionControllerPoll (c : Ctrl F) : MotionState × Ctrl F :=
  (c.state, if c.state = .complete then { c with state := .idle } else c)

def motionControllerAckComplete (commandId : UInt8) (c : Ctrl F) : Ctrl F :=
  if c.state = .complete ∧ commandId = c.cmdId then { c with state := .idle } else c

def motionControllerIsStopped (c : Ctrl F) : Bool :=
  !isActive c.state && !c.busy && !c.brakePending && decide (c.stillMs ≥ 100)

def motionControllerFault (c : Ctrl F) : MotionFault := motionFaultFirst c.faultBits

def motionControllerSetBusy (busy : Bool) (c : Ctrl F) : Ctrl F := { c with busy := busy }

end RoboticCar.Motion
