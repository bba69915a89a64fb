import RoboticCar.Integration.Request

/-!
# The operator's panel

`operator_logic.c`: two buttons lead the operator through the calibration, start a run after a
countdown, stop it and reset a fault.  A `step` per poll is given the time, the debounced buttons
and the latest status; it is a program of two calls, `submit` and `say`.  A `Message` leaves out the
measurements it shows.
-/

namespace RoboticCar.Operator

open Lib Integration Navigation

/-! ## State -/

/-- A press of the GP20 button, reported when it is released. -/
inductive Press
  | none | short | long
  deriving DecidableEq

inductive Phase
  | waitStatus | calPrompt | calCollect | calApply | ready | reset | countdown | start | run
  deriving DecidableEq

/-- `operator_t`, without its port. -/
structure Panel where
  phase : Phase := .waitStatus
  phaseMs : UInt32 := 0
  promptMs : UInt32 := 0
  sequence : UInt32 := 0
  step : ℕ := 0
  countdownShown : ℕ := 0
  awaitingReply : Bool := false
  prompted : Bool := false
  stopHandled : Bool := false
  stopWarned : Bool := false
  inhibit : Bool := false
  ignoreWarned : Bool := false
  resetToCal : Bool := false

def countdownMs : UInt32 := 3000
def replyTimeoutMs : UInt32 := 1000
def collectTimeoutMs : UInt32 := 3000
def promptRepeatMs : UInt32 := 5000
def calSteps : ℕ := 6

/-- The sensors in the order of the walkthrough. -/
def order : ℕ → SensorId
  | 0 => .left
  | 1 => .right
  | _ => .barcode

/-- The lines that are printed. -/
inductive Message
  | busy | calibrationBlocked | placeSensor | samplingRefused | sampling | noReplyRetry
  | samplingUnfinished | range | noReplyRedo | rejected | calibrated | allCalibrated | faultPrompt
  | readyPrompt | recalibrating | resetDone | resetRefused | noReply | startingIn (seconds : ℕ)
  | running | startRefused | startCancelled | stopSent | stopNotAccepted | ignored | welcome
  | builtinCalibration | runEnded
  deriving DecidableEq

/-- The calls the panel makes. -/
inductive PanelCall
  | submit (r : ControlRequest)
  | say (m : Message)
  deriving DecidableEq

abbrev PanelCall.Answer : PanelCall → Type
  | submit _ => Bool
  | say _ => Unit

abbrev PanelM : Type → Type := Prog PanelCall PanelCall.Answer

abbrev PanelEvent : Type := Σ c : PanelCall, c.Answer

def submit (r : ControlRequest) : PanelM Bool := Prog.perform (PanelCall.submit r)

def say (m : Message) : PanelM Unit := Prog.perform (PanelCall.say m)

/-- `say(m)` under a condition. -/
def sayIf (b : Bool) (m : Message) : PanelM Unit := if b then say m else pure ()

namespace Panel

def enter (op : Panel) (phase : Phase) (now : UInt32) : Panel :=
  { op with
    phase := phase, phaseMs := now, prompted := false, awaitingReply := false
    countdownShown := 0 }

def send (op : Panel) (kind : ControlKind) (sensor : SensorId) (st : Status) (now : UInt32) :
    PanelM (Bool × Panel) := do
  let accepted ← submit { kind := kind, sensor := sensor.code }
  sayIf (!accepted) .busy
  return (accepted,
    { op with sequence := st.commandSequence, phaseMs := now, awaitingReply := accepted })

/-- The result of the request that was sent, once the controller has executed it. -/
def replied (op : Panel) (st : Status) : Option Bool :=
  if !op.awaitingReply || st.commandSequence == op.sequence then none else some st.commandOk

def due (op : Panel) (now : UInt32) : Bool × Panel :=
  if !op.prompted || decide (promptRepeatMs ≤ now - op.promptMs) then
    (true, { op with prompted := true, promptMs := now })
  else (false, op)

/-! ## Phases -/

def calPrompt (op : Panel) (now : UInt32) (go : Press) (st : Status) : PanelM Panel := do
  let index := op.step / 2
  let black := op.step % 2 ≠ 0
  let (isDue, op) := op.due now
  if st.state = .fault then
    sayIf isDue .calibrationBlocked
    if go = .none then return op
    let (sent, op) ← op.send .reset .barcode st now
    return if sent then { op with resetToCal := true, phase := .reset } else op
  else
    sayIf isDue .placeSensor
    if go = .none then return op
    let (sent, op) ← op.send (if black then .black else .white) (order index) st now
    return if sent then { op with phase := .calCollect } else op

def calCollect (op : Panel) (now : UInt32) (st : Status) : PanelM Panel := do
  let index := op.step / 2
  let black := op.step % 2 ≠ 0
  if op.awaitingReply then
    match op.replied st with
    | some ok =>
      let op := { op with awaitingReply := false }
      if ok then
        say .sampling
        return op
      else
        say .samplingRefused
        return op.enter .calPrompt now
    | none =>
      if replyTimeoutMs ≤ now - op.phaseMs then
        say .noReplyRetry
        return op.enter .calPrompt now
      else return op
  else if st.collecting ∨ st.calibrationSensor ≠ order index then
    if collectTimeoutMs ≤ now - op.phaseMs then
      say .samplingUnfinished
      return op.enter .calPrompt now
    else return op
  else
    say .range
    if black then
      let (sent, op) ← op.send .applyCalibration (order index) st now
      return if sent then { op with phase := .calApply } else op.enter .calPrompt now
    else return { op with step := (op.step + 1) % 8 }.enter .calPrompt now

def calApply (op : Panel) (now : UInt32) (st : Status) : PanelM Panel := do
  let index := op.step / 2
  match op.replied st with
  | none =>
    if replyTimeoutMs ≤ now - op.phaseMs then
      say .noReplyRedo
      return op.enter .calPrompt now
    else return op
  | some false =>
    say .rejected
    say .range
    say .range
    return { op with step := index * 2 }.enter .calPrompt now
  | some true =>
    say .calibrated
    let op := { op with step := (op.step + 1) % 8 }
    if calSteps ≤ op.step then
      say .allCalibrated
      return op.enter .ready now
    else return op.enter .calPrompt now

def ready (op : Panel) (now : UInt32) (go : Press) (st : Status) : PanelM Panel := do
  let (isDue, op) := op.due now
  if st.state = .fault then
    sayIf isDue .faultPrompt
    if go = .none then return op
    let op := { op with resetToCal := false }
    let (sent, op) ← op.send .reset .barcode st now
    return if sent then { op with phase := .reset } else op
  else
    sayIf isDue .readyPrompt
    match go with
    | .none => return op
    | .long =>
      say .recalibrating
      return { op with step := 0 }.enter .calPrompt now
    | .short => return op.enter .countdown now

def resetTarget (op : Panel) : Phase := if op.resetToCal then .calPrompt else .ready

def resetWait (op : Panel) (now : UInt32) (st : Status) : PanelM Panel := do
  match op.replied st with
  | some ok =>
    say (if ok then .resetDone else .resetRefused)
    return op.enter op.resetTarget now
  | none =>
    if replyTimeoutMs ≤ now - op.phaseMs then
      say .noReply
      return op.enter op.resetTarget now
    else return op

def countdown (op : Panel) (now : UInt32) (st : Status) : PanelM Panel := do
  let elapsed := now - op.phaseMs
  let second := elapsed.toNat / 1000
  if countdownMs ≤ elapsed then
    let (sent, op) ← op.send .start .barcode st now
    return if sent then { op with phase := .start } else op.enter .ready now
  else if op.countdownShown ≤ second then
    say (.startingIn (countdownMs.toNat / 1000 - second))
    return { op with countdownShown := (second + 1) % 4 }
  else return op

def startWait (op : Panel) (now : UInt32) (st : Status) : PanelM Panel := do
  match op.replied st with
  | some true =>
    say .running
    return op.enter .run now
  | some false =>
    say .startRefused
    return op.enter .ready now
  | none =>
    if replyTimeoutMs ≤ now - op.phaseMs then
      say .noReply
      return op.enter .ready now
    else return op

/-- What a STOP does to the panel itself. -/
def stopPressed (op : Panel) (now : UInt32) : PanelM Panel := do
  match op.phase with
  | .calCollect => return op.enter .calPrompt now
  | .calApply => return { op with step := op.step / 2 * 2 + 1 }.enter .calPrompt now -- redo BLACK
  | .countdown | .start =>
    say .startCancelled
    return op.enter .ready now
  | .reset => return op.enter op.resetTarget now
  | _ => return op

/-- The GP21 button, in every phase and without waiting for a status. -/
def stopButton (op : Panel) (now : UInt32) (stopHeld : Bool) : PanelM Panel := do
  if stopHeld then
    let op := { op with inhibit := true }
    if op.stopHandled then return op
    let accepted ← submit { kind := .stop }
    sayIf accepted .stopSent
    sayIf (!accepted && !op.stopWarned) .stopNotAccepted
    let op := { op with
      stopHandled := accepted, stopWarned := op.stopWarned || !accepted }
    op.stopPressed now
  else return { op with stopHandled := false, stopWarned := false }

/-- GP20 is ignored from a STOP until both buttons have been released. -/
def inhibited (op : Panel) (go : Press) (stopHeld goHeld : Bool) : PanelM (Press × Panel) := do
  if op.inhibit then
    let warn := go ≠ .none ∧ !op.ignoreWarned
    sayIf warn .ignored
    let op := { op with ignoreWarned := op.ignoreWarned || warn }
    return (.none,
      if !stopHeld && !goHeld then { op with inhibit := false, ignoreWarned := false } else op)
  else return (go, op)

def act (op : Panel) (now : UInt32) (go : Press) (st : Status) : PanelM Panel := do
  match op.phase with
  | .waitStatus =>
    say .welcome
    let op := { op with step := 0 }
    if st.acceptedCalibration = allSensors then
      say .builtinCalibration
      return op.enter .ready now
    else return op.enter .calPrompt now
  | .calPrompt => op.calPrompt now go st
  | .calCollect => op.calCollect now st
  | .calApply => op.calApply now st
  | .ready => op.ready now go st
  | .reset => op.resetWait now st
  | .countdown => op.countdown now st
  | .start => op.startWait now st
  | .run =>
    if st.state.running then return op
    else
      say .runEnded
      return op.enter .ready now

end Panel

/-- What one poll is given. -/
structure Poll where
  now : UInt32
  go : Press
  stopHeld : Bool
  goHeld : Bool
  status : Option Status

/-- `operator_step`. -/
def Panel.poll (op : Panel) (p : Poll) : PanelM Panel := do
  let op ← op.stopButton p.now p.stopHeld
  let (go, op) ← op.inhibited p.go p.stopHeld p.goHeld
  match p.status with
  | none => return op
  | some st => op.act p.now go st

end RoboticCar.Operator
