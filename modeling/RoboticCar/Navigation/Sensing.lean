import RoboticCar.Lib.CFloat

/-!
# From raw infrared samples to a steering proposal

The pure front of the line follower: enabled channels (`ir_acquisition.c`), darkness and surface
(`ir_reflectance.c`), calibration (`ir_calibration.c`), the line with its events
(`line_detection.c`) and the proposed wheel speeds (`line_controller.c`).  A function that returns
`false` and leaves its object unconfigured returns `none` here.
-/

namespace RoboticCar.Navigation

open Lib CFloat

/-! ## Sensors -/

inductive SensorId
  | barcode
  | left
  | right
  deriving DecidableEq

/-- The sensors in the order of the source's loops. -/
def SensorId.all : List SensorId := [.barcode, .left, .right]

/-- The value of an `s3_sensor_id_t`. -/
def SensorId.code : SensorId → ℕ
  | .barcode => 0
  | .left => 1
  | .right => 2

/-- `S3_SENSOR_BIT`. -/
def SensorId.bit : SensorId → UInt8
  | .barcode => 1
  | .left => 2
  | .right => 4

def allSensors : UInt8 := 7

/-- A value per sensor: the arrays of length `S3_SENSOR_COUNT`. -/
structure PerSensor (α : Type) where
  barcode : α
  left : α
  right : α

namespace PerSensor

variable {α : Type}

/-- `a[id]`. -/
def get (a : PerSensor α) : SensorId → α
  | .barcode => a.barcode
  | .left => a.left
  | .right => a.right

/-- `a[id] = x`. -/
def set (a : PerSensor α) (i : SensorId) (x : α) : PerSensor α :=
  match i with
  | .barcode => { a with barcode := x }
  | .left => { a with left := x }
  | .right => { a with right := x }

def const (x : α) : PerSensor α := ⟨x, x, x⟩

end PerSensor

/-! ## Acquisition -/

structure AcquisitionConfig where
  channel : PerSensor UInt8
  enabledMask : UInt8

structure RawSample where
  timestampUs : UInt32
  raw : ℕ
  error : Int
  enabled : Bool
  valid : Bool

structure SensorFrame where
  timestampUs : UInt32
  sensor : PerSensor RawSample

/-- The loop of `s3_acquisition_config_valid`: channels in range, none used twice. -/
def channelsValid (c : AcquisitionConfig) : List SensorId → UInt8 → Bool
  | [], _ => true
  | i :: rest, seen =>
    if c.channel.get i > 2 then false
    else if c.enabledMask &&& i.bit ≠ 0 then
      let bit := 1 <<< c.channel.get i
      if seen &&& bit ≠ 0 then false else channelsValid c rest (seen ||| bit)
    else channelsValid c rest seen

def acquisitionConfigValid (c : AcquisitionConfig) : Bool :=
  if c.enabledMask = 0 ∨ c.enabledMask &&& ~~~allSensors ≠ 0 then false
  else channelsValid c SensorId.all 0

/-! ## Reflectance -/

inductive Surface
  | unknown
  | white
  | black
  deriving DecidableEq

structure IrCalibration where
  whiteRaw : ℕ
  blackRaw : ℕ
  whiteLimit : ℕ
  blackLimit : ℕ

structure Reflectance where
  calibration : IrCalibration
  surface : Surface
  configured : Bool

/-- A calibration that `ir_reflectance_init` accepts. -/
def IrCalibration.valid (c : IrCalibration) : Bool :=
  c.whiteRaw ≤ 4095 && c.blackRaw ≤ 4095 && c.whiteRaw ≠ c.blackRaw &&
    c.whiteLimit < c.blackLimit && c.blackLimit ≤ 1000

def Reflectance.reset (r : Reflectance) : Reflectance := { r with surface := .unknown }

def Reflectance.init (c : IrCalibration) (r : Reflectance) : Bool × Reflectance :=
  if c.valid then (true, ⟨c, .unknown, true⟩)
  else (false, { r with configured := false, surface := .unknown })

/-- `ir_reflectance_update`: the darkness, if there is one, and the new state. -/
def Reflectance.update (r : Reflectance) (raw : ℕ) : Option ℕ × Reflectance :=
  if !r.configured ∨ raw > 4095 then (none, r.reset)
  else
    let span : Int := (r.calibration.blackRaw : Int) - r.calibration.whiteRaw
    let darkness := (((raw : Int) - r.calibration.whiteRaw) * 1000).tdiv span
    let darkness := if darkness < 0 then 0 else if darkness > 1000 then 1000 else darkness.toNat
    let surface :=
      if darkness ≤ r.calibration.whiteLimit then .white
      else if darkness ≥ r.calibration.blackLimit then .black
      else r.surface
    (some darkness, { r with surface := surface })

/-! ## Calibration -/

structure CalibrationRange where
  count : ℕ
  sum : ℕ
  minimum : ℕ
  maximum : ℕ

structure CalibrationCollector where
  white : CalibrationRange
  black : CalibrationRange

/-- `s3_calibration_finish`: the calibration with the collected references, if it is accepted. -/
def calibrationFinish (c : CalibrationCollector) (active : IrCalibration) :
    Option IrCalibration :=
  if c.white.count < 10 ∨ c.black.count < 10 then none
  else if ¬(c.white.maximum < c.black.minimum ∨ c.black.maximum < c.white.minimum) then none
  else
    let candidate := { active with
      whiteRaw := c.white.sum / c.white.count % 2 ^ 16
      blackRaw := c.black.sum / c.black.count % 2 ^ 16 }
    if candidate.valid then some candidate else none

/-! ## Line detection -/

structure LineConfig where
  signalFloor : ℕ
  junctionDark : ℕ
  lostUs : UInt32
  reacquireUs : UInt32
  junctionUs : UInt32
  rearmUs : UInt32
  maxGapUs : UInt32
  between : Bool
  deriving DecidableEq

structure Persistence where
  active : Bool
  sinceUs : UInt32
  deriving DecidableEq

structure LineObservation where
  valid : Bool
  present : Bool
  junctionCandidate : Bool
  error : Int
  lostEvent : Bool
  reacquiredEvent : Bool
  junctionEvent : Bool
  touching : Bool

def LineObservation.zero : LineObservation := ⟨false, false, false, 0, false, false, false, false⟩

structure LineDetector where
  config : LineConfig
  lost : Persistence
  acquired : Persistence
  junction : Persistence
  clear : Persistence
  lastUs : UInt32
  configured : Bool
  seenSample : Bool
  present : Bool
  junctionLatched : Bool
  lossReported : Bool
  deriving DecidableEq

/-- A duration below half the range of the clock. -/
def durationValid (us : UInt32) : Bool := us ≠ 0 && us < 0x80000000

/-- A configuration that `s3_line_init` accepts. -/
def LineConfig.valid (c : LineConfig) : Bool :=
  c.signalFloor ≠ 0 && c.signalFloor ≤ 2000 && c.junctionDark ≠ 0 && c.junctionDark ≤ 1000 &&
    durationValid c.lostUs && durationValid c.reacquireUs && durationValid c.junctionUs &&
    durationValid c.rearmUs && durationValid c.maxGapUs && !(c.between && c.signalFloor > 1000)

/-- `s3_line_reset`. -/
def LineDetector.reset (d : LineDetector) : LineDetector :=
  let off : Persistence := ⟨false, 0⟩
  ⟨d.config, off, off, off, off, 0, d.configured, false, false, false, false⟩

/-- `s3_line_init`. -/
def LineDetector.init (c : LineConfig) : Option LineDetector :=
  if c.valid then
    let off : Persistence := ⟨false, 0⟩
    some ⟨c, off, off, off, off, 0, true, false, false, false, false⟩
  else none

/-- `persisted`: whether the condition has held for the duration, and the timer. -/
def Persistence.run (t : Persistence) (condition : Bool) (now duration : UInt32) :
    Bool × Persistence :=
  if !condition then (false, { t with active := false })
  else
    let t := if t.active then t else ⟨true, now⟩
    (decide (now - t.sinceUs ≥ duration), t)

/-- Presence in `s3_line_update`: given with the tape between the sensors; otherwise changes
persist. -/
def LineDetector.presence (d : LineDetector) (now : UInt32) (leftDark rightDark : ℕ)
    (out : LineObservation) : Bool × LineObservation × LineDetector :=
  if d.config.between then
    let touching := leftDark ≥ d.config.signalFloor || rightDark ≥ d.config.signalFloor
    (true, { out with touching := touching }, { d with present := true })
  else
    let signal : Bool := leftDark + rightDark ≥ d.config.signalFloor
    let lost := d.lost.run (!signal) now d.config.lostUs
    let d := { d with lost := lost.2 }
    let reported := lost.1 && !d.lossReported
    let d := if reported then { d with present := false, lossReported := true } else d
    let out := { out with lostEvent := reported }
    let acquired := d.acquired.run signal now d.config.reacquireUs
    let d := { d with acquired := acquired.2 }
    let back := acquired.1 && !d.present
    let d := if back then { d with present := true, lossReported := false } else d
    (signal, { out with reacquiredEvent := back }, d)

/-- `s3_line_update`. -/
def LineDetector.update (d : LineDetector) (now : UInt32) (inputsValid : Bool)
    (leftDark rightDark : ℕ) : LineObservation × LineDetector :=
  if !d.configured then (.zero, d)
  else
    let gapBad := d.seenSample && (decide (now - d.lastUs > d.config.maxGapUs) || now == d.lastUs)
    if !inputsValid ∨ leftDark > 1000 ∨ rightDark > 1000 ∨ gapBad then (.zero, d.reset)
    else
      let d := { d with lastUs := now, seenSample := true }
      let out := { LineObservation.zero with
        valid := true, error := ((rightDark : Int) - leftDark).tdiv 10 }
      let bothBlack : Bool := leftDark ≥ d.config.junctionDark && rightDark ≥ d.config.junctionDark
      let p := d.presence now leftDark rightDark out
      let out := p.2.1
      let d := p.2.2
      let junction := d.junction.run bothBlack now d.config.junctionUs
      let event := junction.1 && !d.junctionLatched
      let d := { d with
        junction := junction.2, junctionLatched := d.junctionLatched || event }
      let clear := d.clear.run (!bothBlack) now d.config.rearmUs
      let d := { d with
        clear := clear.2, junctionLatched := d.junctionLatched && !clear.1 }
      ({ out with
          junctionEvent := event
          present := d.present && p.1
          junctionCandidate := bothBlack || d.junctionLatched }, d)

/-! ## Steering -/

structure SteeringConfig (F : Type) where
  baseMps : F
  kpMps : F
  maximumMps : F

structure SteeringRequest (F : Type) where
  valid : Bool
  leftMps : F
  rightMps : F

variable {F : Type} [CFloat F]

def SteeringRequest.zero : SteeringRequest F := ⟨false, CFloat.zero, CFloat.zero⟩

def SteeringConfig.valid (c : SteeringConfig F) : Bool :=
  isFinite c.baseMps && isFinite c.kpMps && isFinite c.maximumMps && gt c.baseMps zero &&
    ge c.kpMps zero && gt c.maximumMps zero && le c.baseMps c.maximumMps

def clampSpeed (speed maximum : F) : F :=
  if lt speed zero then zero else if gt speed maximum then maximum else speed

def steeringCompute (c : SteeringConfig F) (line : LineObservation) : SteeringRequest F :=
  if !c.valid ∨ !line.valid ∨ !line.present ∨ line.junctionCandidate ∨ line.error < -100 ∨
      line.error > 100 then .zero
  else
    let correction := c.kpMps * (ofInt line.error / lit 100)
    { valid := true
      leftMps := clampSpeed (c.baseMps + correction) c.maximumMps
      rightMps := clampSpeed (c.baseMps - correction) c.maximumMps }

end RoboticCar.Navigation
