import RoboticCar.Drive.Ranges
import RoboticCar.Integration.Priority
import RoboticCar.Integration.StatusPacket

/-!
# The status always fits its packet

The sampling owner stops the car if `s3_status_pack` refuses its status.  `Robot.status_packs`: this
does not happen in any state that a run reaches.  Enumerations are in range by their types, the rest
by `Drive.Ranged` and `Collection.Ranged`.
-/

namespace RoboticCar.Integration

open Lib CFloat Motion Navigation Driving

variable {F D : Type} {B : BarcodeReaders}

def driveStateCode : DriveState → UInt32
  | .off => 0
  | .follow => 1
  | .braking => 2
  | .manoeuvre => 3
  | .reacquire => 4
  | .halted => 5
  | .fault => 6

def reasonCode : Reason → UInt32
  | .ok => 0
  | .sensorFault => 1
  | .motionFault => 2
  | .rejected => 3
  | .lineLost => 4
  | .noDirection => 5
  | .unmapped => 6
  | .timeout => 7
  | .reportFault => 8
  | .badInput => 9
  | .terrainFault => 10

def motionStateCode : MotionState → UInt32
  | .idle => 0
  | .velocity => 1
  | .drive => 2
  | .turn => 3
  | .complete => 4
  | .fault => 5

def surfaceCode : Surface → UInt32
  | .unknown => 0
  | .white => 1
  | .black => 2

def navActionCode : NavAction → UInt32
  | .none => 0
  | .left => 1
  | .right => 2
  | .straight => 3
  | .uTurn => 4

def lifecycleCode : Lifecycle → UInt32
  | .inactive => 0
  | .active => 1
  | .faultLatched => 2

def flagsCode (flags : List Bool) : UInt32 :=
  flags.foldr (fun b code => 2 * code + if b then 1 else 0) 0

/-- The code of a status and the result beside it, which is zero unless a letter was decoded. -/
def barcodeCode : BarcodeStatus → UInt32 × Codec.Barcode
  | .none => (0, ⟨0, false, 0⟩)
  | .decoded result =>
    (1, ⟨65 + UInt8.ofNat result.letter, result.reversed, result.timestampUs⟩)
  | .rejected => (2, ⟨0, false, 0⟩)
  | .timingError => (3, ⟨0, false, 0⟩)
  | .overflow => (4, ⟨0, false, 0⟩)

/-! ## The status -/

/-- The bits of the two float formats. -/
structure FloatBits (F D : Type) where
  single : F → UInt32
  double : D → UInt64

/-- What `working` keeps from one cycle to the next. -/
structure Working where
  samples : UInt32
  maxGapUs : UInt32
  aboveTarget : UInt32
  commandSequence : UInt32
  commandOk : Bool
  runTiming : StatusCodec.Timing
  adcStatus : Int32

def timingIncrement (value : UInt32) : UInt32 := if value ≠ 4294967295 then value + 1 else value

def samplePeriodUs : UInt32 := 10000

def sensorRecord (s : ProcessedSensor) : Codec.Sensor :=
  ⟨s.valid, UInt16.ofNat s.darkness, surfaceCode s.surface⟩

def lineRecord (o : LineObservation) : Codec.Line :=
  ⟨o.valid, o.present, o.junctionCandidate, .ofInt o.error, o.lostEvent, o.reacquiredEvent,
    o.junctionEvent, o.touching⟩

section Status

variable (bits : FloatBits F D)

def steeringRecord (s : SteeringRequest F) : Codec.Steering :=
  ⟨s.valid, bits.single s.leftMps, bits.single s.rightMps⟩

def distanceRecord (d : CaptureDistance D) : Codec.Distance :=
  ⟨bits.double d.startM, bits.double d.endM, d.epoch, d.startValid, d.endValid⟩

def outputRecord (out : NavOutput F D) : Codec.Output where
  timestampUs := out.timestampUs
  sampleGapUs := out.sampleGapUs
  events := flagsCode [out.events.barcode, out.events.junction, out.events.lineLost,
    out.events.lineReacquired, out.events.sensorFault]
  faultMask := out.faultMask
  sensor := ⟨sensorRecord out.sensor.barcode, sensorRecord out.sensor.left,
    sensorRecord out.sensor.right⟩
  line := lineRecord out.line
  steering := steeringRecord bits out.steering
  steeringPreview := steeringRecord bits out.steeringPreview
  lifecycle := lifecycleCode out.lifecycle
  readinessBlockers := flagsCode [out.readinessBlockers.channels, out.readinessBlockers.calibration,
    out.readinessBlockers.sensors, out.readinessBlockers.odometry, out.readinessBlockers.fault]
  latchedFaults := flagsCode [out.latchedFaults.sensor, out.latchedFaults.timing,
    out.latchedFaults.odometry, out.latchedFaults.epoch]
  acceptedCalibration := out.acceptedCalibration
  stopRequested := out.stopRequested
  odometryAvailable := out.odometryAvailable
  rearming := out.rearming
  diagnostic := out.diagnostic
  captureDistance := distanceRecord bits out.captureDistance
  barcodeStatus := (barcodeCode out.barcodeStatus).1
  barcode := (barcodeCode out.barcodeStatus).2
  action := navActionCode out.action

def motionRecord (f : MotionFeedback D) : StatusCodec.Motion :=
  ⟨bits.double f.centreM, f.timestampUs, f.epoch, motionStateCode f.state,
    UInt32.ofNat f.fault.code, f.valid, f.braked, f.commandId, f.reportLossCount⟩

variable [CFloat F]

def calibrationSummary (r : CalibrationRange) : StatusCodec.Summary :=
  if 0 < r.count then
    ⟨UInt32.ofNat r.count, UInt16.ofNat r.minimum, UInt16.ofNat r.maximum,
      bits.single ((ofInt r.sum : F) / ofInt r.count), true⟩
  else ⟨0, 0, 0, 0, false⟩

/-- The status that `sample` assembles at the end of a cycle. -/
def Robot.assemble (s : Robot F D B) (working : Working) (feedback : MotionFeedback D)
    (now : UInt32) : StatusCodec.Status :=
  let output := s.drive.output
  let collector := s.collection.collector.get s.collection.sensor
  { navigation := outputRecord bits { output with
      lifecycle := s.drive.navigation.lifecycle
      acceptedCalibration := s.drive.navigation.acceptedCalibration
      readinessBlockers := s.drive.navigation.readiness now }
    motion := motionRecord bits feedback
    state := driveStateCode s.drive.state
    reason := reasonCode s.drive.reason
    samples := timingIncrement working.samples
    maxGapUs := if output.sampleGapUs > working.maxGapUs then output.sampleGapUs
      else working.maxGapUs
    aboveTarget := if output.sampleGapUs > samplePeriodUs then timingIncrement working.aboveTarget
      else working.aboveTarget
    commandSequence := working.commandSequence
    runTiming := working.runTiming
    commandOk := working.commandOk
    collecting := s.collection.collecting
    calibrationSensor := UInt32.ofNat s.collection.sensor.code
    white := calibrationSummary bits collector.white
    black := calibrationSummary bits collector.black
    adcStatus := working.adcStatus }

end Status

theorem flagsCode_five (a b c d e : Bool) :
    (flagsCode [a, b, c, d, e]).toNat < 32 ∧ flagsCode [a, b, c, d, e] ≤ 31 := by
  revert a b c d e
  decide

theorem flagsCode_four (a b c d : Bool) : flagsCode [a, b, c, d] ≤ 15 := by
  revert a b c d
  decide

theorem barcodeCode_inRange (status : BarcodeStatus) :
    (barcodeCode status).1 ≤ 4 ∧ Codec.letterValid (barcodeCode status).2.letter = true := by
  have hletter : ∀ letter : Fin 26, Codec.letterValid (65 + UInt8.ofNat letter) = true := by decide
  cases status with
  | decoded result => exact ⟨(by decide : (1 : UInt32) ≤ 4), hletter result.letter⟩
  | none | rejected | timingError | overflow => exact ⟨by decide, by decide⟩

theorem sensorRecord_inRange {s : ProcessedSensor} (h : s.darkness ≤ 1000) :
    (sensorRecord s).inRange = true := by
  have hsurface : surfaceCode s.surface ≤ 2 := by cases s.surface <;> decide
  have hdarkness : UInt16.ofNat s.darkness ≤ 1000 := by
    rw [UInt16.le_iff_toNat_le, UInt16.toNat_ofNat', Nat.mod_eq_of_lt (by omega)]
    exact h
  exact Bool.and_eq_true_iff.2 ⟨decide_eq_true hdarkness, decide_eq_true hsurface⟩

theorem lineRecord_error {o : LineObservation} (h : o.Ranged) :
    -100 ≤ (lineRecord o).error ∧ (lineRecord o).error ≤ 100 := by
  obtain ⟨hlow, hhigh⟩ := h
  have herror : (lineRecord o).error.toInt = o.error := by
    rw [lineRecord, Int16.toInt_ofInt, Int16.size, Int.bmod_eq_of_le (by omega) (by omega)]
  rw [Int16.le_iff_toInt_le, Int16.le_iff_toInt_le, herror]
  exact ⟨hlow, hhigh⟩

theorem outputRecord_inRange (bits : FloatBits F D) {out : NavOutput F D} (h : out.Ranged)
    (haccepted : out.acceptedCalibration ≤ allSensors) :
    (outputRecord bits out).inRange = true := by
  obtain ⟨hstatus, hletter⟩ := barcodeCode_inRange out.barcodeStatus
  have haction : navActionCode out.action < 5 := by cases out.action <;> decide
  have hlifecycle : lifecycleCode out.lifecycle ≤ 2 := by cases out.lifecycle <;> decide
  exact (Codec.Output.inRange_eq_true _).2 ⟨⟨(flagsCode_five _ _ _ _ _).1, h.faultMask,
    (flagsCode_five _ _ _ _ _).2, flagsCode_four _ _ _ _, haccepted⟩, hstatus, haction,
    lineRecord_error h.line, hletter, hlifecycle, sensorRecord_inRange (h.darkness .barcode),
    sensorRecord_inRange (h.darkness .left), sensorRecord_inRange (h.darkness .right)⟩

/-- A range of samples of a 12-bit converter. -/
structure RangeOk (r : CalibrationRange) : Prop where
  count : r.count ≤ 65535
  minimum : r.minimum ≤ 4095
  maximum : r.maximum ≤ 4095

theorem calibrationSummary_valid [CFloat F] (bits : FloatBits F D) {r : CalibrationRange}
    (h : RangeOk r) : (calibrationSummary bits r).valid = true := by
  obtain ⟨hcount, hmin, hmax⟩ := h
  rw [calibrationSummary]
  split
  · simp only [StatusCodec.Summary.valid, Bool.and_eq_true, decide_eq_true_eq,
      UInt16.le_iff_toNat_le, UInt32.le_iff_toNat_le, UInt16.toNat_ofNat', UInt32.toNat_ofNat']
    rw [Nat.mod_eq_of_lt (by omega), Nat.mod_eq_of_lt (by omega), Nat.mod_eq_of_lt (by omega)]
    exact ⟨⟨hcount, hmin⟩, hmax⟩
  · rfl

namespace Collection

def Ranged (c : Collection) : Prop :=
  ∀ i, RangeOk (c.collector.get i).white ∧ RangeOk (c.collector.get i).black

theorem ranged_boot : Collection.boot.Ranged := by
  intro i
  cases i <;> exact ⟨⟨Nat.zero_le _, Nat.zero_le _, Nat.zero_le _⟩,
    ⟨Nat.zero_le _, Nat.zero_le _, Nat.zero_le _⟩⟩

theorem rangeOk_addToRange {r : CalibrationRange} (h : RangeOk r) {raw : ℕ} (hraw : raw ≤ 4095) :
    RangeOk (addToRange r raw) := by
  obtain ⟨hcount, hmin, hmax⟩ := h
  rw [addToRange]
  split
  · exact ⟨hcount, hmin, hmax⟩
  · exact ⟨(by omega : r.count + 1 ≤ 65535), (Nat.min_le_left _ _).trans hmin,
      Nat.max_le.2 ⟨hmax, hraw⟩⟩

theorem Ranged.set {c : Collection} (h : c.Ranged) (id : SensorId) {x : CalibrationCollector}
    (hx : RangeOk x.white ∧ RangeOk x.black) :
    ∀ i, RangeOk ((c.collector.set id x).get i).white ∧
      RangeOk ((c.collector.set id x).get i).black := by
  intro i
  have hi := h i
  cases id <;> cases i <;> first | exact hx | exact hi

theorem Ranged.sampled {c : Collection} (h : c.Ranged) (frame : SensorFrame) :
    (c.sampled frame).Ranged := by
  have hadd : RangeOk (calibrationAdd (c.collector.get c.sensor) c.label
        (frame.sensor.get c.sensor).raw).white ∧
      RangeOk (calibrationAdd (c.collector.get c.sensor) c.label
        (frame.sensor.get c.sensor).raw).black := by
    obtain ⟨hwhite, hblack⟩ := h c.sensor
    unfold calibrationAdd
    split
    · exact ⟨hwhite, hblack⟩
    · rename_i hraw
      split
      · exact ⟨rangeOk_addToRange hwhite (not_lt.1 hraw), hblack⟩
      · exact ⟨hwhite, rangeOk_addToRange hblack (not_lt.1 hraw)⟩
      · exact ⟨hwhite, hblack⟩
  simp only [Collection.sampled]
  split
  · exact h
  · split
    · exact h.set c.sensor hadd
    · exact h

theorem Ranged.begin {c : Collection} (h : c.Ranged) (sensor : SensorId) (label : Surface)
    (now : UInt32) : (c.begin sensor label now).Ranged := by
  have hempty : RangeOk emptyRange := ⟨by decide, by decide, by decide⟩
  obtain ⟨hwhite, hblack⟩ := h sensor
  refine h.set sensor ?_
  split
  · exact ⟨hempty, hblack⟩
  · exact ⟨hwhite, hempty⟩

end Collection

/-! ## Whole runs -/

namespace Robot

def Ranged (s : Robot F D B) : Prop := s.drive.Ranged ∧ s.collection.Ranged

variable [CFloat F] [CFloat D] [CDouble F D] {s5 : Bool} {s s' : Robot F D B}

theorem Executes.collection {now : UInt32} {r : ControlRequest} {l : List (Made F D)}
    {x : Option Bool} (h : s.Executes s5 now r l x s') (hs : s.collection.Ranged) :
    s'.collection.Ranged := by
  cases h with
  | white | black => exact hs.begin _ _ _
  | _ => exact hs

/-- Every deed keeps the values ranged. -/
theorem Step.ranged {a : Deed F D} (h : Step s5 s a s') (hs : Inv s5 s.drive ∧ s.Ranged) :
    Inv s5 s'.drive ∧ s'.Ranged := by
  obtain ⟨hi, hd⟩ := Driving.Runs.ranged h.runs hs.1 hs.2.1
  refine ⟨hi, hd, ?_⟩
  cases h with
  | sample => exact hs.2.2.sampled _
  | finish _ _ _ hx | wait _ _ _ hx => exact hx.collection hs.2.2
  | _ => exact hs.2.2

theorem Ranged.boot {config : NavConfig F D} {d₀ d : Drive F D B} {c : List (Made F D)}
    (h₀ : Drive.init config = some d₀) (hd : Driving.Runs s5 d₀ c d) (status : Status) :
    Inv s5 (boot status d).drive ∧ (boot status d).Ranged := by
  obtain ⟨hi, hr⟩ := hd.ranged (.init h₀ s5) (Drive.init_ranged h₀)
  exact ⟨hi, hr, Collection.ranged_boot⟩

omit [CFloat D] [CDouble F D] in
/-- Ranged values can be packed. -/
theorem Ranged.packs (h : s.Ranged) (bits : FloatBits F D) (working : Working)
    (feedback : MotionFeedback D) (now : UInt32) :
    (StatusCodec.pack (s.assemble bits working feedback now)).isSome = true := by
  have hnav : (s.assemble bits working feedback now).navigation.inRange = true :=
    outputRecord_inRange bits ⟨h.1.1.faultMask, h.1.1.darkness, h.1.1.line⟩ h.1.2
  obtain ⟨hwhite, hblack⟩ := h.2 s.collection.sensor
  have hrange : (s.assemble bits working feedback now).inRange = true := by
    refine (StatusCodec.Status.inRange_iff _).2 ⟨⟨?_, ?_⟩, ⟨rfl, rfl, ⟨?_, ?_⟩, ?_⟩,
      calibrationSummary_valid bits hwhite, calibrationSummary_valid bits hblack⟩
    · change motionStateCode feedback.state ≤ 5
      cases feedback.state <;> decide
    · change UInt32.ofNat feedback.fault.code ≤ 5
      cases feedback.fault <;> decide
    · change driveStateCode s.drive.state ≤ 6
      cases s.drive.state <;> decide
    · change reasonCode s.drive.reason ≤ 10
      cases s.drive.reason <;> decide
    · change UInt32.ofNat s.collection.sensor.code < 3
      cases s.collection.sensor <;> decide
  rw [StatusCodec.pack, if_pos hrange, Codec.pack, if_pos hnav]
  rfl

/-- A block of a run in which a status counts as packed exactly if `s3_status_pack` accepts it. -/
def Publishes (s5 : Bool) (bits : FloatBits F D) (s : Robot F D B) (a : Deed F D)
    (s' : Robot F D B) : Prop :=
  Step s5 s a s' ∧ ∀ packed shown, a.block = some (.publish packed shown) →
    ∃ working feedback now,
      packed = (StatusCodec.pack (s.assemble bits working feedback now)).isSome

theorem Publishes.packed {bits : FloatBits F D} {l : List (Deed F D)}
    (hl : Run.Path (Publishes s5 bits) s l s') (hs : Inv s5 s.drive ∧ s.Ranged) :
    (Inv s5 s'.drive ∧ s'.Ranged) ∧ ∀ a ∈ l, ∀ shown, a.block ≠ some (.publish false shown) := by
  induction hl with
  | nil => exact ⟨hs, nofun⟩
  | @snoc l m m' a hl hstep ih =>
    obtain ⟨hm, hall⟩ := ih
    refine ⟨hstep.1.ranged hm, fun b hb shown heq => ?_⟩
    rcases List.mem_append.1 hb with hb | hb
    · exact hall b hb shown heq
    · rw [List.mem_singleton.1 hb] at heq
      obtain ⟨working, feedback, now, hpacked⟩ := hstep.2 false shown heq
      rw [hm.2.packs] at hpacked
      cases hpacked

/-- **The status always fits its packet**: in every state a run reaches the status that the owner
would assemble is accepted by `s3_status_pack`. -/
theorem status_packs {config : NavConfig F D} {d₀ d : Drive F D B} {c : List (Made F D)}
    (h₀ : Drive.init config = some d₀) (hd : Driving.Runs s5 d₀ c d) (status : Status)
    (bits : FloatBits F D) :
    (∀ l s, Runs s5 (boot status d) l s → ∀ working feedback now,
      (StatusCodec.pack (s.assemble bits working feedback now)).isSome = true) ∧
    ∀ l s, Run.Path (Publishes s5 bits) (boot status d) l s →
      ∀ a ∈ l, ∀ shown, a.block ≠ some (.publish false shown) := by
  have hboot := Ranged.boot h₀ hd status
  refine ⟨fun l s hl working feedback now => ?_, fun l s hl => (Publishes.packed hl hboot).2⟩
  have hs : Inv s5 s.drive ∧ s.Ranged := hl.invariant (I := fun s => Inv s5 s.drive ∧ s.Ranged)
    (fun _ _ _ hi hstep => hstep.ranged hi) hboot
  exact hs.2.packs bits working feedback now

section Bench

/-- A cycle of the bench drive on a frame with a dark barcode sensor. -/
def benchSampled : Made ℚ ℚ × Drive ℚ ℚ benchReaders :=
  obligedCall false benchDrive (benchCycle 10000 3000 1000 .idle 0) []

def benchSeen : Robot ℚ ℚ benchReaders :=
  { (benchAt [.take, .pass]).1 with
    desk := (benchAt [.take, .pass]).1.desk.act (.sample (resetOf benchSampled.2))
    drive := benchSampled.2
    collection := (benchAt [.take, .pass]).1.collection.sampled (benchFrame 10000 3000 1000) }

theorem bench_sampled : Runs false bench
    [.owner (some .take) [], .owner (some .pass) [],
      .owner (some (.sample (resetOf benchSampled.2))) ([] ++ [benchSampled.1])] benchSeen := by
  have h₁ : Step false bench (.owner (some .take) []) (benchAt [.take]).1 :=
    .quiet rfl (by decide +kernel)
  have h₂ : Step false (benchAt [.take]).1 (.owner (some .pass) []) (benchAt [.take, .pass]).1 :=
    .quiet rfl (by decide +kernel)
  have hnone : ∀ p ∈ ([] : List (Made ℚ ℚ)), polls p.op = true := List.forall_mem_nil _
  have hidle : Driving.Runs false (benchAt [.take, .pass]).1.drive [] benchDrive := .nil
  have hop : benchSampled.1.op = .process (some (benchFrame 10000 3000 1000))
      (some (benchFeedback 10000 .idle 0)) := rfl
  have hcycle : Driving.Step false benchDrive benchSampled.1 benchSampled.2 :=
    step_obligedCall false benchDrive (benchCycle 10000 3000 1000 .idle 0) []
  have h₃ : Step false (benchAt [.take, .pass]).1
      (.owner (some (.sample (resetOf benchSampled.2))) ([] ++ [benchSampled.1])) benchSeen :=
    .sample (by decide +kernel) hnone hidle hop hcycle
  exact .snoc (.snoc (.snoc .nil h₁) h₂) h₃

/-- The bench has read a letter, and its status fits whatever bits stand for its floats. -/
theorem status_packs_bench :
    (barcodeCode benchSeen.drive.output.barcodeStatus).2.letter = 65 ∧
      ∀ (bits : FloatBits ℚ ℚ) (working : Working) (feedback : MotionFeedback ℚ) (now : UInt32),
        (StatusCodec.pack (benchSeen.assemble bits working feedback now)).isSome = true := by
  refine ⟨by decide +kernel, fun bits => ?_⟩
  have hidle : Driving.Runs false benchDrive [] benchDrive := .nil
  exact (status_packs init_benchConfig hidle benchStatus bits).1 _ benchSeen bench_sampled

end Bench

end Robot

end RoboticCar.Integration
