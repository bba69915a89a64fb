import RoboticCar.Navigation.Sensing

/-!
# The navigation core

`line_navigation.c`: the context that turns sensor frames and odometry into line and barcode events,
with its run lifecycle.  The two barcode readers are a parameter (`BarcodeReaders`), the functions
of `barcode_decoder.h` that navigation calls.  A decoded letter is a `Fin 26`, its index in the
action map.

The layers above use `process_latches`: a frame keeps the lifecycle or faults an active run, and the
output reports which.
-/

namespace RoboticCar.Navigation

open Lib CFloat

structure BarcodeConfig where
  maxGapUs : UInt32
  minNarrowUs : UInt32
  maxRunUs : UInt32
  maxFrameUs : UInt32
  quietModules : UInt8
  deriving DecidableEq

instance neZero_letters : NeZero (26 : ℕ) := ⟨by decide⟩

/-- `s3_barcode_result_t`, the letter as its index in the alphabet. -/
structure BarcodeResult where
  letter : Fin 26
  reversed : Bool
  timestampUs : UInt32
  deriving DecidableEq

/-- `s3_barcode_status_t`; a decoded barcode comes with its result. -/
inductive BarcodeStatus
  | none
  | decoded (result : BarcodeResult)
  | rejected
  | timingError
  | overflow
  deriving DecidableEq

/-- The live decoder and the recorder, by the functions navigation calls. -/
structure BarcodeReaders where
  Live : Type
  Record : Type
  /-- `s3_barcode_init` on a cleared decoder. -/
  init : BarcodeConfig → Option Live
  /-- `s3_barcode_reset`. -/
  reset : Live → Live
  /-- `s3_barcode_update`: timestamp, valid, black. -/
  update : Live → UInt32 → Bool → Bool → BarcodeStatus × Live
  collecting : Live → Bool
  pending : Live → Bool
  /-- A cleared recorder. -/
  recordZero : Record
  /-- `s3_barcode_record_reset`. -/
  recordReset : Record → Record
  /-- `s3_barcode_record_active`. -/
  recordActive : Record → Bool
  /-- `s3_barcode_record_update`: configuration, timestamp, valid, darkness. -/
  recordUpdate : Record → BarcodeConfig → UInt32 → Bool → ℕ → BarcodeStatus × Record

/-! ## Types -/

inductive NavAction
  | none
  | left
  | right
  | straight
  | uTurn
  deriving DecidableEq

/-- `s3_processing_mode_t`. -/
inductive Mode
  | track
  | suppressed
  deriving DecidableEq

/-- `s3_run_state_t`. -/
inductive Lifecycle
  | inactive
  | active
  | faultLatched
  deriving DecidableEq

/-- A set of `s3_readiness_flag_t`. -/
structure Readiness where
  channels : Bool
  calibration : Bool
  sensors : Bool
  odometry : Bool
  fault : Bool
  deriving DecidableEq

def Readiness.clear : Readiness := ⟨false, false, false, false, false⟩

/-- A set of `s3_fault_flag_t`. -/
structure Faults where
  sensor : Bool
  timing : Bool
  odometry : Bool
  epoch : Bool
  deriving DecidableEq

def Faults.clear : Faults := ⟨false, false, false, false⟩

/-- `a | b`. -/
def Faults.or (a b : Faults) : Faults :=
  ⟨a.sensor || b.sensor, a.timing || b.timing, a.odometry || b.odometry, a.epoch || b.epoch⟩

/-- A set of `s3_event_flag_t`. -/
structure Events where
  barcode : Bool
  junction : Bool
  lineLost : Bool
  lineReacquired : Bool
  sensorFault : Bool

def Events.clear : Events := ⟨false, false, false, false, false⟩

structure OdometrySample (D : Type) where
  centreM : D
  timestampUs : UInt32
  epoch : UInt32
  valid : Bool

structure CaptureDistance (D : Type) where
  startM : D
  endM : D
  epoch : UInt32
  startValid : Bool
  endValid : Bool

structure ProcessedSensor where
  valid : Bool
  darkness : ℕ
  surface : Surface

/-- `s3_navigation_config_t`.  Map entries outside the enumeration, which are refused, do not exist.
-/
structure NavConfig (F D : Type) where
  acquisition : AcquisitionConfig
  calibration : PerSensor IrCalibration
  line : LineConfig
  steering : SteeringConfig F
  barcode : BarcodeConfig
  map : Fin 26 → NavAction
  maxSampleAgeUs : UInt32
  rearmStableUs : UInt32
  faultClearUs : UInt32
  rearmDistanceM : D

/-- `s3_navigation_output_t`. -/
structure NavOutput (F D : Type) where
  timestampUs : UInt32
  sampleGapUs : UInt32
  events : Events
  faultMask : UInt8
  sensor : PerSensor ProcessedSensor
  line : LineObservation
  steering : SteeringRequest F
  steeringPreview : SteeringRequest F
  lifecycle : Lifecycle
  readinessBlockers : Readiness
  latchedFaults : Faults
  acceptedCalibration : UInt8
  stopRequested : Bool
  odometryAvailable : Bool
  rearming : Bool
  diagnostic : Bool
  captureDistance : CaptureDistance D
  barcodeStatus : BarcodeStatus
  action : NavAction

/-- `s3_navigation_t`. -/
structure Nav (F D : Type) (B : BarcodeReaders) where
  config : NavConfig F D
  sensor : PerSensor Reflectance
  line : LineDetector
  barcode : B.Live
  barcodeRecord : B.Record
  lastUs : UInt32
  sensorLastUs : PerSensor UInt32
  seenSensors : UInt8
  mode : Mode
  configured : Bool
  seenFrame : Bool
  lifecycle : Lifecycle
  acceptedCalibration : UInt8
  validSensors : UInt8
  currentFaults : Faults
  latchedFaults : Faults
  odometry : OdometrySample D
  odometryAvailable : Bool
  seenOdometry : Bool
  healthyTracking : Bool
  healthySinceUs : UInt32
  rearming : Bool
  rearmAnchorValid : Bool
  rearmStable : Bool
  barcodeHeld : BarcodeStatus
  rearmAnchorM : D
  rearmEpoch : UInt32
  rearmSinceUs : UInt32
  captureDistance : CaptureDistance D

variable {F D : Type} [CFloat F] [CFloat D] {B : BarcodeReaders}

def CaptureDistance.zero : CaptureDistance D := ⟨CFloat.zero, CFloat.zero, 0, false, false⟩

def NavOutput.zero : NavOutput F D where
  timestampUs := 0
  sampleGapUs := 0
  events := .clear
  faultMask := 0
  sensor := .const ⟨false, 0, .unknown⟩
  line := .zero
  steering := .zero
  steeringPreview := .zero
  lifecycle := .inactive
  readinessBlockers := .clear
  latchedFaults := .clear
  acceptedCalibration := 0
  stopRequested := false
  odometryAvailable := false
  rearming := false
  diagnostic := false
  captureDistance := .zero
  barcodeStatus := .none
  action := .none

namespace Nav

/-! ## Initialisation and configuration -/

/-- `s3_navigation_init`. -/
def init (config : NavConfig F D) : Option (Nav F D B) :=
  if !acquisitionConfigValid config.acquisition || !config.steering.valid then none
  else
    match LineDetector.init config.line, B.init config.barcode with
    | some line, some barcode =>
      if !durationValid config.maxSampleAgeUs || !durationValid config.rearmStableUs ||
          !durationValid config.faultClearUs || !isFinite config.rearmDistanceM ||
          le config.rearmDistanceM zero || !config.calibration.barcode.valid ||
          !config.calibration.left.valid || !config.calibration.right.valid then none
      else
        some {
          config := config
          sensor := ⟨⟨config.calibration.barcode, .unknown, true⟩,
            ⟨config.calibration.left, .unknown, true⟩, ⟨config.calibration.right, .unknown, true⟩⟩
          line := line
          barcode := barcode
          barcodeRecord := B.recordZero
          lastUs := 0
          sensorLastUs := .const 0
          seenSensors := 0
          mode := .track
          configured := true
          seenFrame := false
          lifecycle := .inactive
          acceptedCalibration := 0
          validSensors := 0
          currentFaults := .clear
          latchedFaults := .clear
          odometry := ⟨zero, 0, 0, false⟩
          odometryAvailable := false
          seenOdometry := false
          healthyTracking := false
          healthySinceUs := 0
          rearming := false
          rearmAnchorValid := false
          rearmStable := false
          barcodeHeld := .none
          rearmAnchorM := zero
          rearmEpoch := 0
          rearmSinceUs := 0
          captureDistance := .zero }
    | _, _ => none

def resetBarcode (n : Nav F D B) : Nav F D B :=
  { n with
    barcode := B.reset n.barcode
    barcodeRecord := B.recordReset n.barcodeRecord
    barcodeHeld := .none }

def beginRearm (n : Nav F D B) : Nav F D B :=
  resetBarcode { n with
    rearming := true
    rearmStable := false
    rearmAnchorValid := n.odometryAvailable
    rearmAnchorM := n.odometry.centreM
    rearmEpoch := n.odometry.epoch }

/-- `s3_navigation_set_mode`. -/
def setMode (n : Nav F D B) (mode : Mode) : Bool × Nav F D B :=
  if !n.configured then (false, n)
  else if n.mode = mode then (true, n)
  else
    let n := resetBarcode { n with line := n.line.reset }
    let n := { n with captureDistance := .zero }
    let n := if n.lifecycle = .active then n.beginRearm else n
    (true, { n with mode := mode })

/-- `s3_navigation_apply_calibration`. -/
def applyCalibration (n : Nav F D B) (id : SensorId) (collector : CalibrationCollector) :
    Bool × Nav F D B :=
  if !n.configured ∨ n.lifecycle ≠ .inactive then (false, n)
  else
    match calibrationFinish collector (n.config.calibration.get id) with
    | none => (false, n)
    | some candidate =>
      let n := { n with
        config := { n.config with calibration := n.config.calibration.set id candidate }
        acceptedCalibration := n.acceptedCalibration ||| id.bit
        validSensors := n.validSensors &&& ~~~id.bit
        sensor := n.sensor.set id ((n.sensor.get id).init candidate).2
        line := n.line.reset }
      (true, n.resetBarcode)

/-- `s3_navigation_set_mapping`. -/
def setMapping (n : Nav F D B) (map : Fin 26 → NavAction) : Bool × Nav F D B :=
  if !n.configured ∨ n.lifecycle ≠ .inactive then (false, n)
  else (true, { n with config := { n.config with map := map } })

/-- `s3_navigation_readiness`. -/
def readiness (n : Nav F D B) (now : UInt32) : Readiness :=
  if !n.configured then ⟨true, true, true, true, false⟩
  else
    let stale (us : UInt32) : Bool := now - us > n.config.maxSampleAgeUs
    { channels := n.config.acquisition.enabledMask ≠ allSensors
      calibration := n.acceptedCalibration ≠ allSensors
      sensors := !n.seenFrame || n.validSensors ≠ allSensors || stale n.lastUs ||
        SensorId.all.any fun i => stale (n.sensorLastUs.get i)
      odometry := !n.odometryAvailable || stale n.odometry.timestampUs
      fault := n.lifecycle = .faultLatched }

/-- `s3_navigation_start`. -/
def start (n : Nav F D B) (now : UInt32) : Bool × Nav F D B :=
  if !n.configured ∨ n.lifecycle ≠ .inactive ∨ n.readiness now ≠ .clear then (false, n)
  else
    let n := resetBarcode { n with lifecycle := .active, line := n.line.reset }
    (true, { n with captureDistance := .zero, rearming := false })

/-- `s3_navigation_end_run`. -/
def endRun (n : Nav F D B) : Bool × Nav F D B :=
  if !n.configured ∨ n.lifecycle = .faultLatched then (false, n)
  else
    let n := resetBarcode { n with lifecycle := .inactive, rearming := false, line := n.line.reset }
    (true, { n with captureDistance := .zero })

/-- `s3_navigation_reset_fault`. -/
def resetFault (n : Nav F D B) (now : UInt32) : Bool × Nav F D B :=
  if !n.configured ∨ n.lifecycle ≠ .faultLatched ∨
      { n.readiness now with fault := false } ≠ Readiness.clear ∨ n.currentFaults ≠ .clear ∨
      !n.healthyTracking ∨ n.lastUs - n.healthySinceUs < n.config.faultClearUs then (false, n)
  else endRun { n with lifecycle := .inactive, latchedFaults := .clear }

/-! ## Processing a frame -/

def rearmReady (n : Nav F D B) (frame : SensorFrame) (out : NavOutput F D) : Bool × Nav F D B :=
  let clear := out.line.valid && out.line.present && !out.line.junctionCandidate &&
    out.sensor.barcode.valid && out.sensor.barcode.surface = .white && n.odometryAvailable
  if !clear then (false, { n with rearmStable := false })
  else
    let n := if n.rearmAnchorValid then n else { n with
      rearmAnchorM := n.odometry.centreM, rearmEpoch := n.odometry.epoch, rearmAnchorValid := true }
    let n := if n.rearmStable then n else { n with
      rearmSinceUs := frame.timestampUs, rearmStable := true }
    let distance := absF (n.odometry.centreM - n.rearmAnchorM)
    if n.odometry.epoch ≠ n.rearmEpoch ∨
        frame.timestampUs - n.rearmSinceUs < n.config.rearmStableUs ∨
        lt distance n.config.rearmDistanceM then (false, n)
    else (true, { n with rearming := false })

/-- The readers of `process_barcode`: the first to decode wins; a live failure waits for the
recorder. -/
def readBarcode (n : Nav F D B) (t : UInt32) (barcode : ProcessedSensor) :
    BarcodeStatus × Nav F D B :=
  let live := B.update n.barcode t (barcode.valid && barcode.surface ≠ .unknown)
    (barcode.surface = .black)
  let rec_ := B.recordUpdate n.barcodeRecord n.config.barcode t barcode.valid barcode.darkness
  let n := { n with barcode := live.2, barcodeRecord := rec_.2 }
  match live.1, rec_.1 with
  | .decoded result, _ =>
    (.decoded result,
      { n with barcodeRecord := B.recordReset n.barcodeRecord, barcodeHeld := .none })
  | _, .decoded result =>
    (.decoded result, { n with barcode := B.reset n.barcode, barcodeHeld := .none })
  | live, failed =>
    let active := B.recordActive n.barcodeRecord
    let held := if live ≠ .none ∧ active then live else n.barcodeHeld
    let status := if live ≠ .none ∧ !active then live else .none
    if failed ≠ .none ∧ !B.collecting n.barcode ∧ !B.pending n.barcode then
      (if held ≠ .none then held else failed, { n with barcodeHeld := .none })
    else if held ≠ .none ∧ !active then (held, { n with barcodeHeld := .none })
    else (status, { n with barcodeHeld := held })

/-- The end of `process_barcode`: where a barcode started and ended on the odometry. -/
def captureBarcode (n : Nav F D B) (wasCollecting active : Bool) (status : BarcodeStatus) :
    Nav F D B :=
  let collecting := B.collecting n.barcode || B.recordActive n.barcodeRecord
  let n := if !wasCollecting ∧ collecting then
      { n with captureDistance :=
          if n.odometryAvailable then
            { CaptureDistance.zero with
              startValid := true, startM := n.odometry.centreM, epoch := n.odometry.epoch }
          else .zero }
    else n
  if wasCollecting ∧ status ≠ .none then
    let n := if n.odometryAvailable then
        { n with captureDistance :=
            { n.captureDistance with
              endValid := true
              endM := n.odometry.centreM
              startValid := n.captureDistance.startValid &&
                n.captureDistance.epoch = n.odometry.epoch
              epoch := n.odometry.epoch } }
      else n
    if active then n.beginRearm else n
  else n

/-- The rearming test of `process_barcode`: whether the readers may run. -/
def rearmGate (n : Nav F D B) (frame : SensorFrame) (out : NavOutput F D) : Bool × Nav F D B :=
  if n.lifecycle = .active ∧ n.rearming then n.rearmReady frame out else (true, n)

/-- `process_barcode`: the status for the output and the new context. -/
def processBarcode (n : Nav F D B) (frame : SensorFrame) (out : NavOutput F D) :
    BarcodeStatus × Nav F D B :=
  let active : Bool := n.lifecycle = .active
  if n.mode ≠ .track ∨ n.config.acquisition.enabledMask &&& SensorId.bit .barcode = 0 then
    (.none, n)
  else
    let gate := n.rearmGate frame out
    let n := gate.2
    if !gate.1 then (.none, n)
    else
      let wasCollecting := B.collecting n.barcode || B.recordActive n.barcodeRecord
      let read := n.readBarcode (frame.sensor.get .barcode).timestampUs out.sensor.barcode
      (read.1, read.2.captureBarcode wasCollecting active read.1)

/-- What the loop of `process_sensors` carries: the context, the sensors, the faults, a bad time. -/
structure Sampling (F D : Type) (B : BarcodeReaders) where
  nav : Nav F D B
  sensor : PerSensor ProcessedSensor
  faultMask : UInt8
  timeBad : Bool

/-- The body of the loop of `process_sensors`. -/
def processSensor (frame : SensorFrame) (frameTimeBad : Bool) (s : Sampling F D B)
    (i : SensorId) : Sampling F D B :=
  let n := s.nav
  let raw := frame.sensor.get i
  let enabled : Bool := n.config.acquisition.enabledMask &&& i.bit ≠ 0
  let gap := raw.timestampUs - n.sensorLastUs.get i
  let timingBad : Bool := frame.timestampUs - raw.timestampUs > n.config.maxSampleAgeUs ||
    (n.seenSensors &&& i.bit ≠ 0 && (gap = 0 || gap > n.config.maxSampleAgeUs))
  let timeBad := s.timeBad || (enabled && timingBad)
  let failed : Sampling F D B :=
    { s with
      nav := { n with
        sensor := n.sensor.set i (n.sensor.get i).reset
        seenSensors := n.seenSensors &&& ~~~i.bit }
      faultMask := if enabled then s.faultMask ||| i.bit else s.faultMask
      timeBad := timeBad }
  if enabled && raw.enabled && raw.valid && raw.error = 0 && !timingBad && !frameTimeBad then
    match (n.sensor.get i).update raw.raw with
    | (some darkness, reflectance) =>
      { s with
        nav := { n with
          sensor := n.sensor.set i reflectance
          validSensors := n.validSensors ||| i.bit
          seenSensors := n.seenSensors ||| i.bit
          sensorLastUs := n.sensorLastUs.set i raw.timestampUs }
        sensor := s.sensor.set i ⟨true, darkness, reflectance.surface⟩
        timeBad := timeBad }
    | (none, _) => failed
  else failed

def processSensors (n : Nav F D B) (frame : SensorFrame) (frameTimeBad : Bool)
    (sensor : PerSensor ProcessedSensor) : Sampling F D B :=
  SensorId.all.foldl (processSensor frame frameTimeBad)
    ⟨{ n with validSensors := 0 }, sensor, 0, frameTimeBad⟩

/-- The odometry part of `process_health`: the faults of this frame and the context that holds
them. -/
def assess (n : Nav F D B) (frame : SensorFrame) (odometry : Option (OdometrySample D))
    (faultMask : UInt8) (sampleTimeBad : Bool) : Nav F D B :=
  let fresh := odometry.filter fun o => o.valid && isFinite o.centreM &&
    decide (frame.timestampUs - o.timestampUs ≤ n.config.maxSampleAgeUs)
  let epochChanged := n.seenOdometry && fresh.any fun o => o.epoch ≠ n.odometry.epoch
  let n : Nav F D B := { n with
    odometryAvailable := fresh.isSome
    odometry := fresh.getD n.odometry
    seenOdometry := n.seenOdometry || fresh.isSome
    currentFaults := ⟨faultMask ≠ 0, sampleTimeBad, !fresh.isSome, epochChanged⟩ }
  if n.currentFaults = .clear ∧ n.validSensors = allSensors then
    { n with
      healthySinceUs := if n.healthyTracking then n.healthySinceUs else frame.timestampUs
      healthyTracking := true }
  else { n with healthyTracking := false }

/-- `process_health`: whether a sensor fault is reported, and the new context. -/
def processHealth (n : Nav F D B) (frame : SensorFrame) (odometry : Option (OdometrySample D))
    (faultMask : UInt8) (sampleTimeBad : Bool) : Bool × Nav F D B :=
  let n := n.assess frame odometry faultMask sampleTimeBad
  if n.lifecycle = .active ∧ n.currentFaults ≠ .clear then
    let n := resetBarcode { n with
      lifecycle := .faultLatched, latchedFaults := n.currentFaults }
    (true, { n with captureDistance := .zero })
  else if n.lifecycle = .faultLatched then
    (false, { n with latchedFaults := n.latchedFaults.or n.currentFaults })
  else (false, n)

/-- The events and the action of an active, tracking context; otherwise the line's edges are
dropped. -/
def report (n : Nav F D B) (out : NavOutput F D) : NavOutput F D :=
  if n.lifecycle = .active ∧ n.mode = .track then
    let out := { out with
      steering := out.steeringPreview
      events := { out.events with
        lineLost := out.line.lostEvent
        lineReacquired := out.line.reacquiredEvent
        junction := out.line.junctionEvent } }
    match out.barcodeStatus with
    | .decoded result =>
      { out with
        events := { out.events with barcode := true }
        action := n.config.map result.letter }
    | _ => out
  else
    { out with line := { out.line with
        lostEvent := false, reacquiredEvent := false, junctionEvent := false } }

def sampleGap (n : Nav F D B) (frame : SensorFrame) : UInt32 :=
  if n.seenFrame then frame.timestampUs - n.lastUs else 0

/-- A frame that repeats the last timestamp or comes too long after it. -/
def frameTimeBad (n : Nav F D B) (frame : SensorFrame) : Bool :=
  n.seenFrame && (n.sampleGap frame = 0 || n.sampleGap frame > n.config.maxSampleAgeUs)

def enterFrame (n : Nav F D B) (frame : SensorFrame) : Nav F D B :=
  { n with lastUs := frame.timestampUs, seenFrame := true }

/-- The call of `s3_line_update`. -/
def updateLine (n : Nav F D B) (now : UInt32) (left right : ProcessedSensor) :
    LineObservation × Nav F D B :=
  let line := n.line.update now (left.valid && right.valid) left.darkness right.darkness
  (line.1, { n with line := line.2 })

/-- `s3_navigation_process` up to the barcode: sensors, health, line and steering preview. -/
def observe (n : Nav F D B) (frame : SensorFrame) (odometry : Option (OdometrySample D)) :
    NavOutput F D × Nav F D B :=
  let s := (n.enterFrame frame).processSensors frame (n.frameTimeBad frame)
    (.const ⟨false, 0, .unknown⟩)
  let health := s.nav.processHealth frame odometry s.faultMask s.timeBad
  let line := health.2.updateLine frame.timestampUs s.sensor.left s.sensor.right
  ({ NavOutput.zero with
      timestampUs := frame.timestampUs
      sampleGapUs := n.sampleGap frame
      events := { Events.clear with sensorFault := health.1 }
      faultMask := s.faultMask
      sensor := s.sensor
      line := line.1
      steeringPreview := steeringCompute line.2.config.steering line.1 }, line.2)

/-- `s3_navigation_process`: the output and the new context, `none` where the source returns
`false`. -/
def process (n : Nav F D B) (frame : SensorFrame) (odometry : Option (OdometrySample D)) :
    Option (NavOutput F D × Nav F D B) :=
  if !n.configured then none
  else
    let seen := n.observe frame odometry
    let read := seen.2.processBarcode frame seen.1
    let n := read.2
    let out := n.report { seen.1 with barcodeStatus := read.1 }
    some ({ out with
      lifecycle := n.lifecycle
      readinessBlockers := n.readiness frame.timestampUs
      acceptedCalibration := n.acceptedCalibration
      latchedFaults := n.latchedFaults
      stopRequested := n.lifecycle = .faultLatched
      odometryAvailable := n.odometryAvailable
      rearming := n.rearming
      diagnostic := n.lifecycle ≠ .active || n.mode ≠ .track
      captureDistance := n.captureDistance }, n)

/-! ## The lifecycle

Four fields matter to the layers above: the lifecycle, the configuration, whether the context is
configured at all and the accepted calibrations.  Every helper of a processed frame keeps all four.
-/

/-- The contexts agree in lifecycle, configuration, the configured flag and the calibrations. -/
def Keeps (n n' : Nav F D B) : Prop :=
  n'.lifecycle = n.lifecycle ∧ n'.config = n.config ∧ n'.configured = n.configured ∧
    n'.acceptedCalibration = n.acceptedCalibration

variable {n m k : Nav F D B}

/-- Nothing differs but what the readers of `process_barcode` and their rearming write. -/
def BarcodeOnly (n n' : Nav F D B) : Prop :=
  n' = { n with
    barcode := n'.barcode, barcodeRecord := n'.barcodeRecord, barcodeHeld := n'.barcodeHeld
    rearming := n'.rearming, rearmStable := n'.rearmStable, rearmSinceUs := n'.rearmSinceUs
    rearmAnchorValid := n'.rearmAnchorValid, rearmAnchorM := n'.rearmAnchorM
    rearmEpoch := n'.rearmEpoch, captureDistance := n'.captureDistance }

/-- Nothing differs but what `process_sensors` writes. -/
def SensorsOnly (n n' : Nav F D B) : Prop :=
  n' = { n with
    sensor := n'.sensor, sensorLastUs := n'.sensorLastUs
    seenSensors := n'.seenSensors, validSensors := n'.validSensors }

/-- A frame keeps the lifecycle or latches a fault of an active run. -/
def Latches (n n' : Nav F D B) : Prop :=
  (n'.lifecycle = n.lifecycle ∨ n.lifecycle = .active ∧ n'.lifecycle = .faultLatched) ∧
    n'.config = n.config ∧ n'.configured = n.configured ∧
      n'.acceptedCalibration = n.acceptedCalibration

section

omit [CFloat F] [CFloat D]

theorem Keeps.trans (h : n.Keeps m) (h' : m.Keeps k) : n.Keeps k :=
  ⟨h'.1.trans h.1, h'.2.1.trans h.2.1, h'.2.2.1.trans h.2.2.1, h'.2.2.2.trans h.2.2.2⟩

theorem BarcodeOnly.trans (h : n.BarcodeOnly m) (h' : m.BarcodeOnly k) : n.BarcodeOnly k := by
  refine Eq.trans h' ?_
  rw [h]

theorem BarcodeOnly.keeps (h : n.BarcodeOnly m) : n.Keeps m := by
  rw [h]
  exact ⟨rfl, rfl, rfl, rfl⟩

theorem SensorsOnly.trans (h : n.SensorsOnly m) (h' : m.SensorsOnly k) : n.SensorsOnly k := by
  refine Eq.trans h' ?_
  rw [h]

theorem SensorsOnly.keeps (h : n.SensorsOnly m) : n.Keeps m := by
  rw [h]
  exact ⟨rfl, rfl, rfl, rfl⟩

theorem readBarcode_only (n : Nav F D B) (t : UInt32) (barcode : ProcessedSensor) :
    n.BarcodeOnly (n.readBarcode t barcode).2 := by
  simp only [readBarcode]
  split
  · rfl
  · rfl
  · split_ifs <;> rfl

theorem processSensor_only (frame : SensorFrame) (frameTimeBad : Bool) (s : Sampling F D B)
    (i : SensorId) : s.nav.SensorsOnly (processSensor frame frameTimeBad s i).nav := by
  simp only [processSensor]
  split
  · split <;> rfl
  · rfl

theorem processSensors_only (n : Nav F D B) (frame : SensorFrame) (frameTimeBad : Bool)
    (sensor : PerSensor ProcessedSensor) :
    n.SensorsOnly (n.processSensors frame frameTimeBad sensor).nav := by
  refine List.foldlRecOn (motive := fun s : Sampling F D B => n.SensorsOnly s.nav) SensorId.all _
    rfl fun s hs i _ => ?_
  exact hs.trans (processSensor_only frame frameTimeBad s i)

theorem Keeps.latches (h : n.Keeps m) (h' : m.Latches k) : n.Latches k := by
  obtain ⟨hl, hc, hf, ha⟩ := h
  obtain ⟨hl', hc', hf', ha'⟩ := h'
  exact ⟨hl ▸ hl', hc'.trans hc, hf'.trans hf, ha'.trans ha⟩

theorem Latches.keeps (h : n.Latches m) (h' : m.Keeps k) : n.Latches k := by
  obtain ⟨hl, hc, hf, ha⟩ := h
  obtain ⟨hl', hc', hf', ha'⟩ := h'
  exact ⟨hl' ▸ hl, hc'.trans hc, hf'.trans hf, ha'.trans ha⟩

theorem applyCalibration_lifecycle (n : Nav F D B) (id : SensorId)
    (collector : CalibrationCollector) :
    (n.applyCalibration id collector).2.lifecycle = n.lifecycle ∧
      (n.applyCalibration id collector).2.configured = n.configured := by
  rw [applyCalibration]
  split_ifs
  · exact ⟨rfl, rfl⟩
  · split <;> exact ⟨rfl, rfl⟩

theorem applyCalibration_map (n : Nav F D B) (id : SensorId) (collector : CalibrationCollector) :
    (n.applyCalibration id collector).2.config.map = n.config.map := by
  rw [applyCalibration]
  split_ifs
  · rfl
  · split <;> rfl

theorem setMapping_lifecycle (n : Nav F D B) (map : Fin 26 → NavAction) :
    (n.setMapping map).2.lifecycle = n.lifecycle ∧
      (n.setMapping map).2.configured = n.configured := by
  rw [setMapping]
  split_ifs <;> exact ⟨rfl, rfl⟩

end

section

omit [CFloat F]

theorem keeps_setMode (n : Nav F D B) (mode : Mode) : n.Keeps (n.setMode mode).2 := by
  simp only [setMode]
  split_ifs <;> exact ⟨rfl, rfl, rfl, rfl⟩

theorem rearmGate_only (n : Nav F D B) (frame : SensorFrame) (out : NavOutput F D) :
    n.BarcodeOnly (n.rearmGate frame out).2 := by
  simp only [rearmGate, rearmReady]
  split_ifs <;> rfl

theorem captureBarcode_only (n : Nav F D B) (wasCollecting active : Bool)
    (status : BarcodeStatus) : n.BarcodeOnly (n.captureBarcode wasCollecting active status) := by
  simp only [captureBarcode]
  split_ifs <;> rfl

theorem processBarcode_only (n : Nav F D B) (frame : SensorFrame) (out : NavOutput F D) :
    n.BarcodeOnly (n.processBarcode frame out).2 := by
  have hgate := rearmGate_only n frame out
  simp only [processBarcode]
  split
  · rfl
  · split
    · exact hgate
    · exact hgate.trans ((readBarcode_only _ _ _).trans (captureBarcode_only _ _ _ _))

theorem keeps_assess (n : Nav F D B) (frame : SensorFrame)
    (odometry : Option (OdometrySample D)) (faultMask : UInt8) (sampleTimeBad : Bool) :
    n.Keeps (n.assess frame odometry faultMask sampleTimeBad) := by
  simp only [assess]
  split <;> exact ⟨rfl, rfl, rfl, rfl⟩

theorem latches_processHealth (n : Nav F D B) (frame : SensorFrame)
    (odometry : Option (OdometrySample D)) (faultMask : UInt8) (sampleTimeBad : Bool) :
    n.Latches (n.processHealth frame odometry faultMask sampleTimeBad).2 := by
  obtain ⟨hl, hc, hf, ha⟩ := keeps_assess n frame odometry faultMask sampleTimeBad
  simp only [processHealth]
  split
  · rename_i h
    exact ⟨.inr ⟨hl ▸ h.1, rfl⟩, hc, hf, ha⟩
  · split <;> exact ⟨.inl hl, hc, hf, ha⟩

theorem endRun_lifecycle (hn : n.configured) :
    n.endRun.2.lifecycle =
      if n.lifecycle = .faultLatched then .faultLatched else .inactive := by
  simp only [endRun, hn, Bool.not_true, Bool.false_eq_true, false_or]
  split_ifs with h
  · exact h
  · rfl

theorem endRun_configured (n : Nav F D B) : n.endRun.2.configured = n.configured := by
  simp only [endRun]
  split_ifs <;> rfl

theorem endRun_config (n : Nav F D B) : n.endRun.2.config = n.config := by
  simp only [endRun]
  split_ifs <;> rfl

theorem start_cases {now : UInt32} (h : (n.start now).1 = true) :
    n.lifecycle = .inactive ∧ n.readiness now = .clear ∧
      (n.start now).2.lifecycle = .active ∧ (n.start now).2.configured = n.configured := by
  by_cases hn : !n.configured ∨ n.lifecycle ≠ .inactive ∨ n.readiness now ≠ .clear
  · rw [start, if_pos hn] at h
    exact absurd h nofun
  · rw [start, if_neg hn]
    rw [not_or, not_or, not_not, not_not] at hn
    exact ⟨hn.2.1, hn.2.2, rfl, rfl⟩

theorem start_config (n : Nav F D B) (now : UInt32) : (n.start now).2.config = n.config := by
  simp only [start]
  split_ifs <;> rfl

theorem resetFault_cases (n : Nav F D B) (now : UInt32) :
    n.resetFault now = (false, n) ∨
      (n.resetFault now).1 = true ∧ (n.resetFault now).2.lifecycle = .inactive ∧
        (n.resetFault now).2.configured = n.configured := by
  rw [resetFault]
  split_ifs with h
  · exact .inl rfl
  · rw [not_or] at h
    have hn : n.configured := by simpa using h.1
    right
    simp only [endRun, hn]
    exact ⟨rfl, rfl, rfl⟩

theorem resetFault_config (n : Nav F D B) (now : UInt32) :
    (n.resetFault now).2.config = n.config := by
  rw [resetFault]
  split_ifs
  · rfl
  · exact endRun_config _

end

theorem latches_observe (n : Nav F D B) (frame : SensorFrame)
    (odometry : Option (OdometrySample D)) : n.Latches (n.observe frame odometry).2 := by
  have henter : n.Keeps (n.enterFrame frame) := ⟨rfl, rfl, rfl, rfl⟩
  have hsensors := henter.trans (processSensors_only (n.enterFrame frame) frame
    (n.frameTimeBad frame) (.const ⟨false, 0, .unknown⟩)).keeps
  exact (hsensors.latches (latches_processHealth _ _ _ _ _)).keeps ⟨rfl, rfl, rfl, rfl⟩

theorem init_lifecycle {config : NavConfig F D} (h : init config = some n) :
    n.lifecycle = .inactive ∧ n.configured := by
  rw [init] at h
  repeat' split at h
  all_goals cases h
  exact ⟨rfl, rfl⟩

/-- **What a processed frame does to the run**: it keeps the lifecycle or latches a fault of an
active run, and the output tells which. -/
theorem process_latches {n' : Nav F D B} {frame : SensorFrame}
    {odometry : Option (OdometrySample D)} {out : NavOutput F D}
    (h : n.process frame odometry = some (out, n')) :
    n.Latches n' ∧ out.lifecycle = n'.lifecycle ∧
      out.stopRequested = decide (n'.lifecycle = .faultLatched) := by
  simp only [process] at h
  split at h
  · exact absurd h (by simp)
  · simp only [Option.some.injEq, Prod.mk.injEq] at h
    obtain ⟨rfl, rfl⟩ := h
    exact ⟨(latches_observe n frame odometry).keeps (processBarcode_only _ _ _).keeps, rfl, rfl⟩

theorem process_isSome (hn : n.configured) (frame : SensorFrame)
    (odometry : Option (OdometrySample D)) :
    ∃ out n', n.process frame odometry = some (out, n') := by
  simp [process, hn]

end Nav

end RoboticCar.Navigation
