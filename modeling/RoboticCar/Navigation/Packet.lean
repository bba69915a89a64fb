import RoboticCar.Lib.Decode
import RoboticCar.Navigation.Sensing

/-!
# The navigation packet

`navigation_codec.c` copies the output of one navigation call into 60 bytes and back.  The record is
the C structure with its machine types: enumerations are codes and floats bits.  `unpack_eq_some`: a
packet is accepted exactly if it is that of the record it is read as; `touching` is not sent.
-/

namespace RoboticCar.Navigation.Codec

open Lib Lib.Bytes Lib.BitField Lib.Decode

/-- `s3_processed_sensor_t`. -/
structure Sensor where
  valid : Bool
  darkness : UInt16
  surface : UInt32

/-- `s3_line_observation_t`. -/
structure Line where
  valid : Bool
  present : Bool
  junctionCandidate : Bool
  error : Int16
  lostEvent : Bool
  reacquiredEvent : Bool
  junctionEvent : Bool
  touching : Bool

/-- `s3_steering_request_t`, the speeds as their bits. -/
structure Steering where
  valid : Bool
  leftMps : UInt32
  rightMps : UInt32

/-- `s3_barcode_result_t`. -/
structure Barcode where
  letter : UInt8
  reversed : Bool
  timestampUs : UInt32

/-- `s3_capture_distance_t`, the distances as their bits. -/
structure Distance where
  startM : UInt64
  endM : UInt64
  epoch : UInt32
  startValid : Bool
  endValid : Bool

/-- `s3_navigation_output_t`. -/
structure Output where
  timestampUs : UInt32
  sampleGapUs : UInt32
  events : UInt32
  faultMask : UInt8
  sensor : PerSensor Sensor
  line : Line
  steering : Steering
  steeringPreview : Steering
  lifecycle : UInt32
  readinessBlockers : UInt32
  latchedFaults : UInt32
  acceptedCalibration : UInt8
  stopRequested : Bool
  odometryAvailable : Bool
  rearming : Bool
  diagnostic : Bool
  captureDistance : Distance
  barcodeStatus : UInt32
  barcode : Barcode
  action : UInt32

def Output.untouched (v : Output) : Output := { v with line := { v.line with touching := false } }

/-- `letter_valid`: no letter, or a capital. -/
def letterValid (c : UInt8) : Bool := c = 0 || (65 ≤ c && c ≤ 90)

/-- What `write_barcode` puts for a letter. -/
def letterCode (c : UInt8) : ℕ := if c = 0 then 0 else (c.toUInt32 - 65 + 1).toNat

def Sensor.fields (s : Sensor) : List (ℕ × ℕ) :=
  [(s.valid.toNat, 1), (s.darkness.toNat, 10), (s.surface.toNat, 2)]

def Line.fields (l : Line) : List (ℕ × ℕ) :=
  [(l.valid.toNat, 1), (l.present.toNat, 1), (l.junctionCandidate.toNat, 1),
    ((l.error.toInt + 100).toNat, 8), (l.lostEvent.toNat, 1), (l.reacquiredEvent.toNat, 1),
    (l.junctionEvent.toNat, 1)]

def Steering.fields (s : Steering) : List (ℕ × ℕ) :=
  [(s.valid.toNat, 1), (s.leftMps.toNat, 32), (s.rightMps.toNat, 32)]

/-- `write_barcode`. -/
def Barcode.fields (b : Barcode) : List (ℕ × ℕ) :=
  [(letterCode b.letter, 5), (b.reversed.toNat, 1), (b.timestampUs.toNat, 32)]

def Distance.fields (d : Distance) : List (ℕ × ℕ) :=
  halves d.startM ++ halves d.endM ++
    [(d.epoch.toNat, 32), (d.startValid.toNat, 1), (d.endValid.toNat, 1)]

/-- The `put` calls of `s3_navigation_pack`. -/
def Output.fields (v : Output) : List (ℕ × ℕ) :=
  [(v.timestampUs.toNat, 32), (v.sampleGapUs.toNat, 32), (v.events.toNat, 5),
    (v.faultMask.toNat, 3)] ++
  v.sensor.barcode.fields ++ v.sensor.left.fields ++ v.sensor.right.fields ++
  v.line.fields ++ v.steering.fields ++
  [(v.barcodeStatus.toNat, 3)] ++ v.barcode.fields ++ [(v.action.toNat, 3)] ++
  v.steeringPreview.fields ++
  [(v.lifecycle.toNat, 2), (v.readinessBlockers.toNat, 5), (v.latchedFaults.toNat, 4),
    (v.acceptedCalibration.toNat, 3), (v.stopRequested.toNat, 1), (v.odometryAvailable.toNat, 1),
    (v.rearming.toNat, 1), (v.diagnostic.toNat, 1)] ++
  v.captureDistance.fields

def Sensor.inRange (s : Sensor) : Bool := s.darkness ≤ 1000 && s.surface ≤ 2

/-- The tests of `s3_navigation_pack`. -/
def Output.inRange (v : Output) : Bool :=
  !(v.events &&& ~~~31 ≠ 0 || 7 < v.faultMask || 4 < v.barcodeStatus || 5 ≤ v.action ||
    v.line.error < -100 || 100 < v.line.error || !letterValid v.barcode.letter ||
    2 < v.lifecycle || 31 < v.readinessBlockers || 15 < v.latchedFaults ||
    7 < v.acceptedCalibration) &&
  v.sensor.barcode.inRange && v.sensor.left.inRange && v.sensor.right.inRange

/-- `s3_navigation_pack`. -/
def pack (v : Output) : Option (Packet 60) :=
  if v.inRange then some (.ofFields 60 v.fields) else none

def readSensor : Decoder Sensor := do
  let valid ← flag
  let darkness ← u16 10
  let surface ← u32 2
  require (darkness ≤ 1000 ∧ surface ≤ 2)
  return ⟨valid, darkness, surface⟩

def readLine : Decoder Line := do
  let valid ← flag
  let present ← flag
  let junctionCandidate ← flag
  let error ← bits 8
  require (error ≤ 200)
  let lostEvent ← flag
  let reacquiredEvent ← flag
  let junctionEvent ← flag
  return ⟨valid, present, junctionCandidate, .ofInt (error - 100), lostEvent, reacquiredEvent,
    junctionEvent, false⟩

def readSteering : Decoder Steering := do
  let valid ← flag
  let leftMps ← u32 32
  let rightMps ← u32 32
  return ⟨valid, leftMps, rightMps⟩

def readBarcode : Decoder Barcode := do
  let code ← bits 5
  require (code ≤ 26)
  let letter := if code = 0 then 0 else UInt8.ofNat (65 + code - 1)
  let reversed ← flag
  let timestampUs ← u32 32
  return ⟨letter, reversed, timestampUs⟩

def readDistance : Decoder Distance := do
  let startM ← u64
  let endM ← u64
  let epoch ← u32 32
  let startValid ← flag
  let endValid ← flag
  return ⟨startM, endM, epoch, startValid, endValid⟩

/-- The `get` calls of `s3_navigation_unpack`, with its tests. -/
def readOutput : Decoder Output := do
  let timestampUs ← u32 32
  let sampleGapUs ← u32 32
  let events ← u32 5
  let faultMask ← u8 3
  let barcodeSensor ← readSensor
  let leftSensor ← readSensor
  let rightSensor ← readSensor
  let line ← readLine
  let steering ← readSteering
  let barcodeStatus ← u32 3
  require (barcodeStatus ≤ 4)
  let barcode ← readBarcode
  let action ← u32 3
  require (action < 5)
  let steeringPreview ← readSteering
  let lifecycle ← u32 2
  require (lifecycle ≤ 2)
  let readinessBlockers ← u32 5
  let latchedFaults ← u32 4
  let acceptedCalibration ← u8 3
  let stopRequested ← flag
  let odometryAvailable ← flag
  let rearming ← flag
  let diagnostic ← flag
  let captureDistance ← readDistance
  return {
    timestampUs, sampleGapUs, events, faultMask
    sensor := ⟨barcodeSensor, leftSensor, rightSensor⟩
    line, steering, steeringPreview, lifecycle, readinessBlockers, latchedFaults
    acceptedCalibration, stopRequested, odometryAvailable, rearming, diagnostic
    captureDistance, barcodeStatus, barcode, action }

/-- `s3_navigation_unpack`. -/
def unpack (p : Packet 60) : Option Output :=
  if p.bytes.getD 59 0 &&& 0x80 ≠ 0 then none else p.decode readOutput

/-! ## What the readers read -/

def Line.Readable (l : Line) : Prop := (-100 ≤ l.error ∧ l.error ≤ 100) ∧ l.touching = false

theorem reads_sensor : Reads readSensor (fun s => s.inRange) Sensor.fields := by
  rintro r ⟨valid, darkness, surface⟩ r'
  simp only [readSensor, bind_eq_some, pure_eq_some, require_eq_some, flag_eq_some,
    u16_eq_some (by decide : 10 ≤ 16), u32_eq_some (by decide : 2 ≤ 32), Sensor.fields, takes_cons,
    takes_nil, Sensor.inRange, Bool.and_eq_true, decide_eq_true_eq, Sensor.mk.injEq, existsAndEq,
    exists_const, true_and, and_true]
  constructor
  · rintro ⟨h₁, h₂, h₃, hok, rfl⟩
    exact ⟨hok, h₁, h₂, h₃, rfl⟩
  · rintro ⟨hok, h₁, h₂, h₃, rfl⟩
    exact ⟨h₁, h₂, h₃, hok, rfl⟩

theorem reads_steering : Reads readSteering (fun _ => True) Steering.fields := by
  rintro r ⟨valid, leftMps, rightMps⟩ r'
  simp only [readSteering, bind_eq_some, pure_eq_some, flag_eq_some,
    u32_eq_some (by decide : 32 ≤ 32), Steering.fields, takes_cons, takes_nil, Steering.mk.injEq,
    existsAndEq, true_and, and_true]

theorem reads_distance : Reads readDistance (fun _ => True) Distance.fields := by
  rintro r ⟨startM, endM, epoch, startValid, endValid⟩ r'
  simp only [readDistance, bind_eq_some, pure_eq_some, flag_eq_some, u64_eq_some,
    u32_eq_some (by decide : 32 ≤ 32), Distance.fields, takes_append, List.append_assoc, takes_cons,
    takes_nil, Distance.mk.injEq, existsAndEq, exists_and_left, true_and, and_true]

theorem error_eq (n : ℕ) (e : Int16) :
    n ≤ 200 ∧ e = .ofInt (n - 100) ↔ (-100 ≤ e ∧ e ≤ 100) ∧ n = (e.toInt + 100).toNat := by
  rw [Int16.le_iff_toInt_le, Int16.le_iff_toInt_le, show (-100 : Int16).toInt = -100 from rfl,
    show (100 : Int16).toInt = 100 from rfl]
  constructor
  · rintro ⟨hn, rfl⟩
    rw [Int16.toInt_ofInt, Int16.size, Int.bmod_eq_of_le (by omega) (by omega)]
    omega
  · rintro ⟨⟨hlow, hhigh⟩, rfl⟩
    refine ⟨by omega, ?_⟩
    rw [Int.toNat_of_nonneg (by omega), Int.add_sub_cancel, Int16.ofInt_toInt]

theorem reads_line : Reads readLine Line.Readable Line.fields := by
  rintro r ⟨valid, present, junctionCandidate, error, lost, reacquired, junction, touching⟩ r'
  simp only [readLine, bind_eq_some, pure_eq_some, flag_eq_some, require_eq_some, bits_eq_some,
    Line.fields, takes_cons, Line.Readable, takes_nil, Line.mk.injEq, existsAndEq, true_and,
    and_true, exists_const]
  have herror := error_eq ((((r.skip 1).skip 1).skip 1).rest % 2 ^ 8) error
  constructor
  · rintro ⟨h₁, h₂, h₃, hn, h₄, h₅, h₆, ⟨he, ht⟩, hr⟩
    obtain ⟨hrange, heq⟩ := herror.1 ⟨hn, he⟩
    exact ⟨⟨hrange, ht⟩, h₁, h₂, h₃, heq, h₄, h₅, h₆, hr⟩
  · rintro ⟨⟨hrange, ht⟩, h₁, h₂, h₃, heq, h₄, h₅, h₆, hr⟩
    obtain ⟨hn, he⟩ := herror.2 ⟨hrange, heq⟩
    exact ⟨h₁, h₂, h₃, hn, h₄, h₅, h₆, ⟨he, ht⟩, hr⟩

theorem letter_eq (n : ℕ) (c : UInt8) :
    n ≤ 26 ∧ c = (if n = 0 then 0 else UInt8.ofNat (65 + n - 1)) ↔
      letterValid c ∧ n = letterCode c := by
  have hdecode : ∀ k : Fin 27,
      letterValid (if k.val = 0 then 0 else UInt8.ofNat (65 + k.val - 1)) ∧
        letterCode (if k.val = 0 then 0 else UInt8.ofNat (65 + k.val - 1)) = k.val := by decide
  have hencode : ∀ x : BitVec 8, letterValid (.ofBitVec x) →
      letterCode (.ofBitVec x) ≤ 26 ∧ UInt8.ofBitVec x =
        if letterCode (.ofBitVec x) = 0 then 0
        else UInt8.ofNat (65 + letterCode (.ofBitVec x) - 1) := by decide +kernel
  constructor
  · rintro ⟨hn, rfl⟩
    obtain ⟨hvalid, hcode⟩ := hdecode ⟨n, by omega⟩
    exact ⟨hvalid, hcode.symm⟩
  · rintro ⟨hvalid, rfl⟩
    exact hencode c.toBitVec hvalid

theorem reads_barcode :
    Reads readBarcode (fun b => letterValid b.letter) Barcode.fields := by
  rintro r ⟨letter, reversed, timestampUs⟩ r'
  simp only [readBarcode, bind_eq_some, pure_eq_some, flag_eq_some, require_eq_some, bits_eq_some,
    u32_eq_some (by decide : 32 ≤ 32), Barcode.fields, takes_cons, takes_nil, Barcode.mk.injEq,
    existsAndEq, true_and, and_true, exists_const]
  have hletter := letter_eq (r.rest % 2 ^ 5) letter
  constructor
  · rintro ⟨hn, h₁, h₂, hc, hr⟩
    obtain ⟨hvalid, hcode⟩ := hletter.1 ⟨hn, hc⟩
    exact ⟨hvalid, hcode, h₁, h₂, hr⟩
  · rintro ⟨hvalid, hcode, h₁, h₂, hr⟩
    obtain ⟨hn, hc⟩ := hletter.2 ⟨hvalid, hcode⟩
    exact ⟨hn, h₁, h₂, hc, hr⟩

structure Output.Readable (v : Output) : Prop where
  barcodeSensor : v.sensor.barcode.inRange = true
  leftSensor : v.sensor.left.inRange = true
  rightSensor : v.sensor.right.inRange = true
  line : v.line.Readable
  barcodeStatus : v.barcodeStatus ≤ 4
  letter : letterValid v.barcode.letter = true
  action : v.action < 5
  lifecycle : v.lifecycle ≤ 2

theorem reads_output : Reads readOutput Output.Readable Output.fields := by
  rintro r ⟨timestampUs, sampleGapUs, events, faultMask, ⟨barcodeSensor, leftSensor, rightSensor⟩,
    line, steering, preview, lifecycle, readiness, latched, accepted, stopRequested, odometry,
    rearming, diagnostic, distance, status, barcode, action⟩ r'
  simp only [readOutput, bind_eq_some, pure_eq_some, flag_eq_some, require_eq_some,
    u8_eq_some (by decide : 3 ≤ 8), u32_eq_some (by decide : 2 ≤ 32),
    u32_eq_some (by decide : 3 ≤ 32), u32_eq_some (by decide : 4 ≤ 32),
    u32_eq_some (by decide : 5 ≤ 32), u32_eq_some (by decide : 32 ≤ 32), reads_sensor _ _ _,
    reads_line _ _ _, reads_steering _ _ _, reads_barcode _ _ _, reads_distance _ _ _,
    Output.fields, List.append_assoc, takes_append, takes_cons, takes_nil, Output.mk.injEq,
    PerSensor.mk.injEq, existsAndEq, true_and, and_true, exists_const, exists_and_left, and_assoc]
  constructor
  · rintro ⟨h₁, h₂, h₃, h₄, hb, r₁, t₁, hl, r₂, t₂, hr, r₃, t₃, hline, r₄, t₄, r₅, t₅, h₅, hstatus,
      hletter, r₆, t₆, h₆, haction, r₇, t₇, h₇, hlifecycle, rest⟩
    exact ⟨⟨hb, hl, hr, hline, hstatus, hletter, haction, hlifecycle⟩, h₁, h₂, h₃, h₄, r₁, t₁, r₂,
      t₂, r₃, t₃, r₄, t₄, r₅, t₅, h₅, r₆, t₆, h₆, r₇, t₇, h₇, rest⟩
  · rintro ⟨⟨hb, hl, hr, hline, hstatus, hletter, haction, hlifecycle⟩, h₁, h₂, h₃, h₄, r₁, t₁, r₂,
      t₂, r₃, t₃, r₄, t₄, r₅, t₅, h₅, r₆, t₆, h₆, r₇, t₇, h₇, rest⟩
    exact ⟨h₁, h₂, h₃, h₄, hb, r₁, t₁, hl, r₂, t₂, hr, r₃, t₃, hline, r₄, t₄, r₅, t₅, h₅, hstatus,
      hletter, r₆, t₆, h₆, haction, r₇, t₇, h₇, hlifecycle, rest⟩

/-! ## What fits -/

def widths : List ℕ :=
  [32, 32, 5, 3, 1, 10, 2, 1, 10, 2, 1, 10, 2, 1, 1, 1, 8, 1, 1, 1, 1, 32, 32, 3, 5, 1, 32, 3,
    1, 32, 32, 2, 5, 4, 3, 1, 1, 1, 1, 32, 32, 32, 32, 32, 1, 1]

theorem Output.widths_fields (v : Output) : v.fields.map Prod.snd = widths := rfl

theorem Sensor.fits {s : Sensor} (h : s.inRange) : Fits s.fields := by
  simp only [inRange, Bool.and_eq_true, decide_eq_true_eq, UInt16.le_iff_toNat_le,
    UInt32.le_iff_toNat_le] at h
  have hdark : s.darkness.toNat ≤ 1000 := h.1
  have hsurface : s.surface.toNat ≤ 2 := h.2
  simp only [fields, fits_cons, fits_nil, and_true]
  exact ⟨Bool.toNat_lt _, by omega, by omega⟩

theorem Line.fits {l : Line} (h : l.Readable) : Fits l.fields := by
  obtain ⟨hn, -⟩ := (error_eq (l.error.toInt + 100).toNat l.error).2 ⟨h.1, rfl⟩
  simp only [fields, fits_cons, fits_nil, and_true]
  exact ⟨Bool.toNat_lt _, Bool.toNat_lt _, Bool.toNat_lt _, by omega, Bool.toNat_lt _,
    Bool.toNat_lt _, Bool.toNat_lt _⟩

theorem Steering.fits (s : Steering) : Fits s.fields := by
  simp only [fields, fits_cons, fits_nil, and_true]
  exact ⟨Bool.toNat_lt _, UInt32.toNat_lt _, UInt32.toNat_lt _⟩

theorem Barcode.fits {b : Barcode} (h : letterValid b.letter) : Fits b.fields := by
  obtain ⟨hn, -⟩ := (letter_eq (letterCode b.letter) b.letter).2 ⟨h, rfl⟩
  simp only [fields, fits_cons, fits_nil, and_true]
  exact ⟨by omega, Bool.toNat_lt _, UInt32.toNat_lt _⟩

theorem Distance.fits (d : Distance) : Fits d.fields := by
  simp only [fields, fits_append, fits_halves, fits_cons, fits_nil, true_and, and_true]
  exact ⟨UInt32.toNat_lt _, Bool.toNat_lt _, Bool.toNat_lt _⟩

theorem Output.fits_iff {v : Output} (h : v.Readable) : Fits v.fields ↔
    v.events.toNat < 32 ∧ v.faultMask ≤ 7 ∧ v.readinessBlockers ≤ 31 ∧ v.latchedFaults ≤ 15 ∧
      v.acceptedCalibration ≤ 7 := by
  have hstatus : v.barcodeStatus.toNat < 2 ^ 3 :=
    (UInt32.le_iff_toNat_le.1 h.barcodeStatus).trans_lt (by decide)
  have haction : v.action.toNat < 2 ^ 3 := (UInt32.lt_iff_toNat_lt.1 h.action).trans (by decide)
  have hlifecycle : v.lifecycle.toNat < 2 ^ 2 :=
    (UInt32.le_iff_toNat_le.1 h.lifecycle).trans_lt (by decide)
  have hflag : ∀ b : Bool, b.toNat < 2 ^ 1 := Bool.toNat_lt
  simp only [fields, fits_append, fits_cons, fits_nil, and_true, true_and,
    Sensor.fits h.barcodeSensor, Sensor.fits h.leftSensor,
    Sensor.fits h.rightSensor, Line.fits h.line, Steering.fits, Barcode.fits h.letter,
    Distance.fits, hstatus, haction, hlifecycle, UInt32.toNat_lt, hflag, and_assoc]
  simp only [UInt8.le_iff_toNat_le, UInt32.le_iff_toNat_le, ← Nat.lt_succ_iff]
  exact Iff.rfl

theorem events_eq_zero (u : UInt32) : u &&& ~~~31 = 0 ↔ u.toNat < 32 := by
  have hmask : (~~~31 : UInt32).toNat = (2 ^ 27 - 1) <<< 5 := rfl
  have hbit (i : ℕ) : ((u &&& ~~~31 : UInt32).toNat).testBit i =
      (u.toNat.testBit i && (decide (5 ≤ i) && decide (i - 5 < 27))) := by
    rw [UInt32.toNat_and, hmask, Nat.testBit_and, Nat.testBit_shiftLeft,
      Nat.testBit_two_pow_sub_one]
  constructor
  · intro h
    refine Nat.lt_pow_two_of_testBit (n := 5) _ fun i hi => ?_
    by_cases hi' : i < 32
    · have hi := hbit i
      rwa [h, UInt32.toNat_zero, Nat.zero_testBit, decide_eq_true (by omega), Bool.true_and,
        decide_eq_true (by omega), Bool.and_true, eq_comm] at hi
    · exact Nat.testBit_lt_two_pow
        (u.toNat_lt.trans_le (Nat.pow_le_pow_right (by decide) (by omega)))
  · intro h
    refine UInt32.toNat_inj.1 (Nat.eq_of_testBit_eq fun i => ?_)
    rw [hbit, UInt32.toNat_zero, Nat.zero_testBit]
    by_cases hi : 5 ≤ i
    · have hlt : u.toNat < 2 ^ i := h.trans_le (Nat.pow_le_pow_right (n := 2) (by decide) hi)
      rw [Nat.testBit_lt_two_pow hlt, Bool.false_and]
    · rw [decide_eq_false hi, Bool.false_and, Bool.and_false]

theorem Output.inRange_eq_true (v : Output) : v.inRange ↔
    (v.events.toNat < 32 ∧ v.faultMask ≤ 7 ∧ v.readinessBlockers ≤ 31 ∧ v.latchedFaults ≤ 15 ∧
      v.acceptedCalibration ≤ 7) ∧ v.barcodeStatus ≤ 4 ∧ v.action < 5 ∧
      (-100 ≤ v.line.error ∧ v.line.error ≤ 100) ∧ letterValid v.barcode.letter ∧
      v.lifecycle ≤ 2 ∧ v.sensor.barcode.inRange ∧ v.sensor.left.inRange ∧
      v.sensor.right.inRange := by
  simp only [inRange, Bool.and_eq_true, Bool.not_eq_true', Bool.or_eq_false_iff,
    decide_eq_false_iff_not, UInt8.not_lt, UInt32.not_lt, UInt32.not_le, Int16.not_lt, ne_eq,
    not_not, events_eq_zero, Bool.not_eq_false']
  tauto

theorem Output.inRange_iff (v : Output) : v.inRange ∧ v.line.touching = false ↔
    v.Readable ∧ Fits v.fields := by
  rw [inRange_eq_true]
  constructor
  · rintro ⟨⟨hfits, hstatus, haction, herror, hletter, hlifecycle, hb, hl, hr⟩, htouching⟩
    have hread : v.Readable :=
      ⟨hb, hl, hr, ⟨herror, htouching⟩, hstatus, hletter, haction, hlifecycle⟩
    exact ⟨hread, (fits_iff hread).2 hfits⟩
  · rintro ⟨hread, hfits⟩
    exact ⟨⟨(fits_iff hread).1 hfits, hread.barcodeStatus, hread.action, hread.line.1,
      hread.letter, hread.lifecycle, hread.barcodeSensor, hread.leftSensor, hread.rightSensor⟩,
      hread.line.2⟩

theorem pack_eq_some {v : Output} {p : Packet 60} :
    pack v = some p ↔ v.inRange ∧ p = .ofFields 60 v.fields := by
  rw [pack, Option.ite_none_right_eq_some, Option.some.injEq, eq_comm (a := p)]

theorem padding_eq_zero (p : Packet 60) :
    p.bytes.getD 59 0 &&& 0x80 = 0 ↔ number p.bytes < 2 ^ 479 := by
  rw [show 479 = 8 * 59 + (7 : Fin 8).val from rfl]
  exact p.last_eq_zero 7

/-- **A packet is read as a record exactly if it is the record's packet**, and the flag that is not
sent is not set. -/
theorem unpack_eq_some {p : Packet 60} {v : Output} :
    unpack p = some v ↔ pack v = some p ∧ v.line.touching = false := by
  have hwidth : ∀ width ∈ v.fields.map Prod.snd, width ≤ 32 := by
    rw [v.widths_fields]
    decide
  have hbits : (v.fields.map Prod.snd).sum = 479 := by
    rw [v.widths_fields]
    rfl
  have hsize : (v.fields.map Prod.snd).sum ≤ 8 * 60 := by omega
  have hdecode (hp : number p.bytes < 2 ^ 479) : p.decode readOutput = some v ↔
      (v.Readable ∧ Fits v.fields) ∧ p = .ofFields 60 v.fields := by
    rw [Packet.decode_eq_some reads_output hwidth hsize (by rwa [hbits]), and_assoc]
  rw [unpack, ite_not, Option.ite_none_right_eq_some, padding_eq_zero, pack_eq_some]
  constructor
  · rintro ⟨hp, h⟩
    obtain ⟨hv, rfl⟩ := (hdecode hp).1 h
    obtain ⟨hrange, htouching⟩ := v.inRange_iff.2 hv
    exact ⟨⟨hrange, rfl⟩, htouching⟩
  · rintro ⟨⟨hrange, rfl⟩, htouching⟩
    have hp : number (Packet.ofFields 60 v.fields).bytes < 2 ^ 479 := by
      have h := Packet.number_ofFields_lt hwidth hsize
      rwa [hbits] at h
    exact ⟨hp, (hdecode hp).2 ⟨v.inRange_iff.1 ⟨hrange, htouching⟩, rfl⟩⟩

@[simp] theorem pack_untouched (v : Output) : pack v.untouched = pack v := rfl

end RoboticCar.Navigation.Codec
