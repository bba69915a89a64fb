import RoboticCar.Integration.Request
import RoboticCar.Navigation.Packet

/-!
# The status packet

What the owner publishes crosses the mutex as bytes (`integration_codec.c`): the navigation packet,
22 bytes of motion feedback and 64 bytes of everything else.  `codecs_lose_nothing` collects the
round trips of the three codecs of the controller.
-/

namespace RoboticCar.Integration.StatusCodec

open Lib Lib.Bytes Lib.BitField Lib.Decode Navigation

/-- `motion_feedback_t`, the distance as its bits. -/
structure Motion where
  centreM : UInt64
  timestampUs : UInt32
  epoch : UInt32
  state : UInt32
  fault : UInt32
  valid : Bool
  braked : Bool
  commandId : UInt8
  reportLossCount : UInt32

/-- `s3_calibration_summary_t`, the average as its bits. -/
structure Summary where
  count : UInt32
  minimum : UInt16
  maximum : UInt16
  average : UInt32
  available : Bool

/-- `s3_run_timing_t`. -/
structure Timing where
  startedUs : UInt32
  samples : UInt32
  maxGapUs : UInt32
  aboveTarget : UInt32
  aboveSafety : UInt32
  lastSafetyUs : UInt32

/-- `s3_integration_status_t`. -/
structure Status where
  navigation : Codec.Output
  motion : Motion
  state : UInt32
  reason : UInt32
  samples : UInt32
  maxGapUs : UInt32
  aboveTarget : UInt32
  commandSequence : UInt32
  runTiming : Timing
  commandOk : Bool
  collecting : Bool
  calibrationSensor : UInt32
  white : Summary
  black : Summary
  adcStatus : Int32

def Status.untouched (v : Status) : Status := { v with navigation := v.navigation.untouched }

structure StatusPacket where
  navigation : Packet 60
  feedback : Packet 22
  metadata : Packet 64

def Summary.valid (s : Summary) : Bool := s.count ≤ 65535 && s.minimum ≤ 4095 && s.maximum ≤ 4095

/-- `put_summary`. -/
def Summary.fields (s : Summary) : List (ℕ × ℕ) :=
  [(s.count.toNat, 16), (s.minimum.toNat, 12), (s.maximum.toNat, 12), (s.average.toNat, 32),
    (s.available.toNat, 1)]

/-- What is put into `feedback`. -/
def Motion.fields (m : Motion) : List (ℕ × ℕ) :=
  halves m.centreM ++
  [(m.timestampUs.toNat, 32), (m.epoch.toNat, 32), (m.state.toNat, 3), (m.fault.toNat, 3),
    (m.valid.toNat, 1), (m.braked.toNat, 1), (m.commandId.toNat, 8), (m.reportLossCount.toNat, 32)]

def Timing.fields (t : Timing) : List (ℕ × ℕ) :=
  [(t.startedUs.toNat, 32), (t.samples.toNat, 32), (t.maxGapUs.toNat, 32),
    (t.aboveTarget.toNat, 32), (t.aboveSafety.toNat, 32), (t.lastSafetyUs.toNat, 32)]

/-- What is put into `metadata`. -/
def Status.fields (v : Status) : List (ℕ × ℕ) :=
  [(v.state.toNat, 3), (v.reason.toNat, 4), (v.samples.toNat, 32), (v.maxGapUs.toNat, 32),
    (v.aboveTarget.toNat, 32), (v.commandSequence.toNat, 32), (v.commandOk.toNat, 1),
    (v.collecting.toNat, 1), (v.calibrationSensor.toNat, 2)] ++
  v.white.fields ++ v.black.fields ++ [(v.adcStatus.toUInt32.toNat, 32)] ++ v.runTiming.fields

/-- The tests of `s3_status_pack` before it packs the navigation output. -/
def Status.inRange (v : Status) : Bool :=
  !(6 < v.state || 10 < v.reason || 5 < v.motion.state || 5 < v.motion.fault ||
    3 ≤ v.calibrationSensor || !v.white.valid || !v.black.valid)

/-- `s3_status_pack`. -/
def pack (v : Status) : Option StatusPacket :=
  if v.inRange then
    (Codec.pack v.navigation).map fun navigation =>
      ⟨navigation, .ofFields 22 v.motion.fields, .ofFields 64 v.fields⟩
  else none

/-- `get_summary`. -/
def readSummary : Decoder Summary := do
  let count ← u32 16
  let minimum ← u16 12
  let maximum ← u16 12
  let average ← u32 32
  let available ← flag
  return ⟨count, minimum, maximum, average, available⟩

def readMotion : Decoder Motion := do
  let centreM ← u64
  let timestampUs ← u32 32
  let epoch ← u32 32
  let state ← u32 3
  let fault ← u32 3
  let valid ← flag
  let braked ← flag
  let commandId ← u8 8
  let reportLossCount ← u32 32
  require (state ≤ 5 ∧ fault ≤ 5)
  return ⟨centreM, timestampUs, epoch, state, fault, valid, braked, commandId, reportLossCount⟩

def readTiming : Decoder Timing := do
  let startedUs ← u32 32
  let samples ← u32 32
  let maxGapUs ← u32 32
  let aboveTarget ← u32 32
  let aboveSafety ← u32 32
  let lastSafetyUs ← u32 32
  return ⟨startedUs, samples, maxGapUs, aboveTarget, aboveSafety, lastSafetyUs⟩

def signed (error : ℕ) : Int32 :=
  .ofInt (if error ≤ 2147483647 then error else -1 - (4294967295 - error))

def readMetadata (navigation : Codec.Output) (motion : Motion) : Decoder Status := do
  let state ← u32 3
  let reason ← u32 4
  require (state ≤ 6 ∧ reason ≤ 10)
  let samples ← u32 32
  let maxGapUs ← u32 32
  let aboveTarget ← u32 32
  let commandSequence ← u32 32
  let commandOk ← flag
  let collecting ← flag
  let calibrationSensor ← u32 2
  require (calibrationSensor < 3)
  let white ← readSummary
  let black ← readSummary
  let error ← bits 32
  let runTiming ← readTiming
  return {
    navigation, motion, state, reason, samples, maxGapUs, aboveTarget, commandSequence, runTiming
    commandOk, collecting, calibrationSensor, white, black
    adcStatus := signed error }

/-- `s3_status_unpack`. -/
def unpack (p : StatusPacket) : Option Status :=
  if p.metadata.bytes.getD 63 0 &&& 0xe0 ≠ 0 then none
  else do
    let navigation ← Codec.unpack p.navigation
    let motion ← p.feedback.decode readMotion
    p.metadata.decode (readMetadata navigation motion)

theorem reads_summary : Reads readSummary (fun _ => True) Summary.fields := by
  rintro r ⟨count, minimum, maximum, average, available⟩ r'
  simp only [readSummary, bind_eq_some, pure_eq_some, flag_eq_some,
    u16_eq_some (by decide : 12 ≤ 16), u32_eq_some (by decide : 16 ≤ 32),
    u32_eq_some (by decide : 32 ≤ 32), Summary.fields, takes_cons, takes_nil, Summary.mk.injEq,
    existsAndEq, true_and, and_true]

theorem reads_timing : Reads readTiming (fun _ => True) Timing.fields := by
  rintro r ⟨startedUs, samples, maxGapUs, aboveTarget, aboveSafety, lastSafetyUs⟩ r'
  simp only [readTiming, bind_eq_some, pure_eq_some, u32_eq_some (by decide : 32 ≤ 32),
    Timing.fields, takes_cons, takes_nil, Timing.mk.injEq, existsAndEq, true_and, and_true]

def Motion.Readable (m : Motion) : Prop := m.state ≤ 5 ∧ m.fault ≤ 5

theorem reads_motion : Reads readMotion Motion.Readable Motion.fields := by
  rintro r ⟨centreM, timestampUs, epoch, state, fault, valid, braked, commandId, loss⟩ r'
  simp only [readMotion, bind_eq_some, pure_eq_some, require_eq_some, flag_eq_some, u64_eq_some,
    u8_eq_some (by decide : 8 ≤ 8), u32_eq_some (by decide : 3 ≤ 32),
    u32_eq_some (by decide : 32 ≤ 32), Motion.fields, Motion.Readable, takes_append, takes_cons,
    takes_nil, Motion.mk.injEq, existsAndEq, true_and, and_true, exists_const]
  constructor
  · rintro ⟨r₁, t₁, h₁, h₂, h₃, h₄, h₅, h₆, h₇, h₈, hok, rfl⟩
    exact ⟨hok, r₁, t₁, h₁, h₂, h₃, h₄, h₅, h₆, h₇, h₈, rfl⟩
  · rintro ⟨hok, r₁, t₁, h₁, h₂, h₃, h₄, h₅, h₆, h₇, h₈, rfl⟩
    exact ⟨r₁, t₁, h₁, h₂, h₃, h₄, h₅, h₆, h₇, h₈, hok, rfl⟩

theorem signed_eq {n : ℕ} (hn : n < 2 ^ 32) (i : Int32) :
    i = signed n ↔ n = i.toUInt32.toNat := by
  have hofNat : signed n = Int32.ofNat n := by
    rw [signed, ← Int32.toBitVec_inj, Int32.toBitVec_ofInt, Int32.toBitVec_ofNat']
    refine BitVec.eq_of_toInt_eq ?_
    rw [BitVec.toInt_ofInt, BitVec.toInt_ofNat']
    split_ifs
    · rfl
    · rw [show (-1 - (4294967295 - (n : ℤ))) = n + -1 * ((2 ^ 32 : ℕ) : ℤ) by omega,
        Int.add_mul_bmod_self_right]
  rw [hofNat, ← Int32.toBitVec_inj, Int32.toBitVec_ofNat', ← BitVec.toNat_inj, BitVec.toNat_ofNat,
    Nat.mod_eq_of_lt hn, eq_comm]
  rfl

/-- What passes the tests of the reader, beside the parts read before. -/
structure Status.Readable (navigation : Codec.Output) (motion : Motion) (v : Status) : Prop where
  navigation_eq : v.navigation = navigation
  motion_eq : v.motion = motion
  codes : v.state ≤ 6 ∧ v.reason ≤ 10
  calibrationSensor : v.calibrationSensor < 3

theorem reads_metadata (navigation : Codec.Output) (motion : Motion) :
    Reads (readMetadata navigation motion) (Status.Readable navigation motion) Status.fields := by
  rintro r ⟨nav, mot, state, reason, samples, maxGapUs, aboveTarget, sequence, timing, commandOk,
    collecting, sensor, white, black, adcStatus⟩ r'
  simp only [readMetadata, bind_eq_some, pure_eq_some, require_eq_some, flag_eq_some, bits_eq_some,
    u32_eq_some (by decide : 2 ≤ 32), u32_eq_some (by decide : 3 ≤ 32),
    u32_eq_some (by decide : 4 ≤ 32), u32_eq_some (by decide : 32 ≤ 32), reads_summary _ _ _,
    reads_timing _ _ _, Status.fields, List.append_assoc, takes_append, takes_cons,
    takes_nil, Status.mk.injEq, existsAndEq, true_and, and_true, exists_const, exists_and_left,
    and_assoc]
  constructor
  · rintro ⟨h₁, h₂, hstate, hreason, h₃, h₄, h₅, h₆, h₇, h₈, h₉, hsensor, r₁, t₁, r₂, t₂, t₃, rfl,
      rfl, hadc⟩
    have hlt : r₂.rest % 2 ^ 32 < 2 ^ 32 := Nat.mod_lt _ (by decide)
    exact ⟨⟨rfl, rfl, ⟨hstate, hreason⟩, hsensor⟩, h₁, h₂, h₃, h₄, h₅, h₆, h₇, h₈, h₉, r₁, t₁, r₂,
      t₂, (signed_eq hlt _).1 hadc, t₃⟩
  · rintro ⟨⟨rfl, rfl, ⟨hstate, hreason⟩, hsensor⟩, h₁, h₂, h₃, h₄, h₅, h₆, h₇, h₈, h₉, r₁, t₁, r₂,
      t₂, hadc, t₃⟩
    have hlt : r₂.rest % 2 ^ 32 < 2 ^ 32 := Nat.mod_lt _ (by decide)
    exact ⟨h₁, h₂, hstate, hreason, h₃, h₄, h₅, h₆, h₇, h₈, h₉, hsensor, r₁, t₁, r₂, t₂, t₃, rfl,
      rfl, (signed_eq hlt _).2 hadc⟩

def motionWidths : List ℕ := [32, 32, 32, 32, 3, 3, 1, 1, 8, 32]

def metadataWidths : List ℕ :=
  [3, 4, 32, 32, 32, 32, 1, 1, 2, 16, 12, 12, 32, 1, 16, 12, 12, 32, 1, 32, 32, 32, 32, 32, 32, 32]

theorem Motion.widths_fields (m : Motion) : m.fields.map Prod.snd = motionWidths := rfl

theorem Status.widths_fields (v : Status) : v.fields.map Prod.snd = metadataWidths := rfl

theorem Motion.fits {m : Motion} (h : m.Readable) : Fits m.fields := by
  have hstate : m.state.toNat ≤ 5 := UInt32.le_iff_toNat_le.1 h.1
  have hfault : m.fault.toNat ≤ 5 := UInt32.le_iff_toNat_le.1 h.2
  simp only [fields, fits_append, fits_halves, fits_cons, fits_nil, true_and, and_true]
  exact ⟨UInt32.toNat_lt _, UInt32.toNat_lt _, by omega, by omega, Bool.toNat_lt _,
    Bool.toNat_lt _, UInt8.toNat_lt _, UInt32.toNat_lt _⟩

theorem Summary.fits_iff (s : Summary) : Fits s.fields ↔ s.valid := by
  have hflag : s.available.toNat < 2 ^ 1 := Bool.toNat_lt _
  have haverage : s.average.toNat < 2 ^ 32 := UInt32.toNat_lt _
  simp only [fields, fits_cons, fits_nil, valid, Bool.and_eq_true, decide_eq_true_eq, hflag,
    haverage, and_true, UInt16.le_iff_toNat_le, UInt32.le_iff_toNat_le, ← Nat.lt_succ_iff,
    and_assoc]
  exact Iff.rfl

theorem Timing.fits (t : Timing) : Fits t.fields := by
  simp only [fields, fits_cons, fits_nil, and_true]
  exact ⟨UInt32.toNat_lt _, UInt32.toNat_lt _, UInt32.toNat_lt _, UInt32.toNat_lt _,
    UInt32.toNat_lt _, UInt32.toNat_lt _⟩

theorem Status.fits_iff {navigation : Codec.Output} {motion : Motion} {v : Status}
    (h : v.Readable navigation motion) :
    Fits v.fields ↔ v.white.valid ∧ v.black.valid := by
  have hstate : v.state.toNat < 2 ^ 3 := (UInt32.le_iff_toNat_le.1 h.codes.1).trans_lt (by decide)
  have hreason : v.reason.toNat < 2 ^ 4 :=
    (UInt32.le_iff_toNat_le.1 h.codes.2).trans_lt (by decide)
  have hsensor : v.calibrationSensor.toNat < 2 ^ 2 :=
    (UInt32.lt_iff_toNat_lt.1 h.calibrationSensor).trans (by decide)
  have hflag : ∀ b : Bool, b.toNat < 2 ^ 1 := Bool.toNat_lt
  simp only [fields, fits_append, fits_cons, fits_nil, hstate, hreason, hsensor, hflag,
    UInt32.toNat_lt, Summary.fits_iff, Timing.fits, true_and, and_true]

theorem decode_motion {p : Packet 22} {m : Motion} :
    p.decode readMotion = some m ↔ m.Readable ∧ p = .ofFields 22 m.fields := by
  have hwidth : ∀ width ∈ m.fields.map Prod.snd, width ≤ 32 := by
    rw [m.widths_fields]
    decide
  have hbits : (m.fields.map Prod.snd).sum = 8 * 22 := by
    rw [m.widths_fields]
    rfl
  have hp : number p.bytes < 2 ^ (8 * 22) := by
    have h := number_lt p.bytes
    rwa [p.length_eq] at h
  rw [Packet.decode_eq_some reads_motion hwidth hbits.le (by rwa [hbits])]
  exact and_congr_right fun h => and_iff_right (Motion.fits h)

theorem decode_metadata {p : Packet 64} {navigation : Codec.Output} {motion : Motion} {v : Status}
    (hp : number p.bytes < 2 ^ 509) :
    p.decode (readMetadata navigation motion) = some v ↔
      v.Readable navigation motion ∧ (v.white.valid ∧ v.black.valid) ∧
        p = .ofFields 64 v.fields := by
  have hwidth : ∀ width ∈ v.fields.map Prod.snd, width ≤ 32 := by
    rw [v.widths_fields]
    decide
  have hbits : (v.fields.map Prod.snd).sum = 509 := by
    rw [v.widths_fields]
    rfl
  rw [Packet.decode_eq_some (reads_metadata navigation motion) hwidth (by omega) (by rwa [hbits])]
  exact and_congr_right fun h => by rw [Status.fits_iff h]

theorem metadata_lt (v : Status) : number (Packet.ofFields 64 v.fields).bytes < 2 ^ 509 := by
  have hwidth : ∀ width ∈ v.fields.map Prod.snd, width ≤ 32 := by
    rw [v.widths_fields]
    decide
  have hbits : (v.fields.map Prod.snd).sum = 509 := by
    rw [v.widths_fields]
    rfl
  have h : number (Packet.ofFields 64 v.fields).bytes < 2 ^ (v.fields.map Prod.snd).sum :=
    Packet.number_ofFields_lt hwidth (by omega)
  rwa [hbits] at h

theorem padding_eq_zero (p : Packet 64) :
    p.bytes.getD 63 0 &&& 0xe0 = 0 ↔ number p.bytes < 2 ^ 509 := by
  rw [show 509 = 8 * 63 + (5 : Fin 8).val from rfl]
  exact p.last_eq_zero 5

theorem Status.inRange_iff (v : Status) : v.inRange ↔
    v.motion.Readable ∧ v.Readable v.navigation v.motion ∧ v.white.valid ∧
      v.black.valid := by
  simp only [inRange, Bool.not_eq_true', Bool.or_eq_false_iff, decide_eq_false_iff_not,
    UInt32.not_lt, UInt32.not_le, Bool.not_eq_false']
  constructor
  · rintro ⟨⟨⟨⟨⟨⟨hstate, hreason⟩, hmotion⟩, hfault⟩, hsensor⟩, hwhite⟩, hblack⟩
    exact ⟨⟨hmotion, hfault⟩, ⟨rfl, rfl, ⟨hstate, hreason⟩, hsensor⟩, hwhite, hblack⟩
  · rintro ⟨⟨hmotion, hfault⟩, ⟨-, -, ⟨hstate, hreason⟩, hsensor⟩, hwhite, hblack⟩
    exact ⟨⟨⟨⟨⟨⟨hstate, hreason⟩, hmotion⟩, hfault⟩, hsensor⟩, hwhite⟩, hblack⟩

theorem pack_eq_some {v : Status} {p : StatusPacket} :
    pack v = some p ↔ v.inRange ∧ Codec.pack v.navigation = some p.navigation ∧
      p.feedback = .ofFields 22 v.motion.fields ∧ p.metadata = .ofFields 64 v.fields := by
  obtain ⟨navigation, feedback, metadata⟩ := p
  rw [pack, Option.ite_none_right_eq_some, Option.map_eq_some_iff]
  refine and_congr_right fun _ => ⟨?_, ?_⟩
  · rintro ⟨q, hq, h⟩
    cases h
    exact ⟨hq, rfl, rfl⟩
  · rintro ⟨hq, rfl, rfl⟩
    exact ⟨navigation, hq, rfl⟩

/-- **A packet is read as a status exactly if it is the status's packet**, and the flag that is not
sent is not set. -/
theorem unpack_eq_some {p : StatusPacket} {v : Status} :
    unpack p = some v ↔ pack v = some p ∧ v.navigation.line.touching = false := by
  rw [unpack, ite_not, Option.ite_none_right_eq_some, padding_eq_zero, pack_eq_some,
    Status.inRange_iff]
  simp only [Option.bind_eq_bind, Option.bind_eq_some_iff, Codec.unpack_eq_some, decode_motion]
  constructor
  · rintro ⟨hp, navigation, ⟨hnavigation, htouching⟩, motion, ⟨hmotion, hfeedback⟩, hmetadata⟩
    obtain ⟨⟨rfl, rfl, hcodes, hsensor⟩, hsummaries, hmetadata⟩ := (decode_metadata hp).1 hmetadata
    exact ⟨⟨⟨hmotion, ⟨rfl, rfl, hcodes, hsensor⟩, hsummaries⟩, hnavigation, hfeedback, hmetadata⟩,
      htouching⟩
  · rintro ⟨⟨⟨hmotion, hread, hsummaries⟩, hnavigation, hfeedback, hmetadata⟩, htouching⟩
    have hp : number p.metadata.bytes < 2 ^ 509 := hmetadata ▸ metadata_lt v
    exact ⟨hp, v.navigation, ⟨hnavigation, htouching⟩, v.motion, ⟨hmotion, hfeedback⟩,
      (decode_metadata hp).2 ⟨hread, hsummaries, hmetadata⟩⟩

@[simp] theorem pack_untouched (v : Status) : pack v.untouched = pack v := rfl

/-- `s3_navigation_pack` and `s3_navigation_unpack`. -/
def navigationCodec : Lib.Decode.Codec Codec.Output (Packet 60) := ⟨Codec.pack, Codec.unpack⟩

/-- `s3_control_pack` and `s3_control_unpack`. -/
def controlCodec : Lib.Decode.Codec ControlRequest ControlPacket :=
  ⟨Integration.pack, Integration.unpack⟩

/-- `s3_status_pack` and `s3_status_unpack`. -/
def statusCodec : Lib.Decode.Codec Status StatusPacket := ⟨pack, unpack⟩

/-- **The packets that cross the mutex lose nothing** but `touching` and what the kind of a request
does not use; an accepted packet is the one its value is packed as, and a refusal leaves the output
alone. -/
theorem codecs_lose_nothing :
    navigationCodec.LosesNothing Codec.Output.untouched ∧
      controlCodec.LosesNothing ControlRequest.canonical ∧
      statusCodec.LosesNothing Status.untouched := by
  refine ⟨.intro ?_ ?_, .intro ?_ ?_, .intro ?_ ?_⟩
  · intro v p h
    exact Codec.unpack_eq_some.2 ⟨(Codec.pack_untouched v).trans h, rfl⟩
  · intro p v h
    exact (Codec.unpack_eq_some.1 h).1
  · intro r p h
    exact unpack_pack h
  · intro p r h
    exact pack_of_unpack h
  · intro v p h
    exact unpack_eq_some.2 ⟨(pack_untouched v).trans h, rfl⟩
  · intro p v h
    exact (unpack_eq_some.1 h).1

/-- A status of a car that follows a line and has read a barcode. -/
def sample : Status where
  navigation :=
    { timestampUs := 4294967290, sampleGapUs := 10021, events := 9, faultMask := 5
      sensor := ⟨⟨true, 1000, 2⟩, ⟨true, 310, 1⟩, ⟨false, 0, 0⟩⟩
      line := ⟨true, true, false, -37, false, true, false, true⟩
      steering := ⟨true, 0x3e19999a, 0x7fc00001⟩
      steeringPreview := ⟨true, 0x3e19999a, 0x3e4ccccd⟩
      lifecycle := 1, readinessBlockers := 12, latchedFaults := 3, acceptedCalibration := 6
      stopRequested := false, odometryAvailable := true, rearming := true, diagnostic := false
      captureDistance := ⟨0x3ff199999999999a, 0xfff8000000000001, 7, true, false⟩
      barcodeStatus := 1, barcode := ⟨81, true, 77⟩, action := 4 }
  motion := ⟨0xbfe3333333333333, 123456, 2, 4, 5, true, false, 255, 3⟩
  state := 2
  reason := 10
  samples := 900
  maxGapUs := 40000
  aboveTarget := 12
  commandSequence := 8
  runTiming := ⟨1, 2, 3, 4, 5, 6⟩
  commandOk := true
  collecting := false
  calibrationSensor := 2
  white := ⟨65535, 12, 4095, 0x43960000, true⟩
  black := ⟨0, 0, 0, 0, false⟩
  adcStatus := -5

theorem sample_comes_back : ∃ p, statusCodec.packTo sample p = (true, p) ∧
    statusCodec.unpackTo p sample = (true, sample.untouched) := by
  have hpack : (pack sample).isSome = true := by decide +kernel
  obtain ⟨p, hp⟩ := Option.isSome_iff_exists.1 hpack
  have h : statusCodec.packTo sample p = (true, p) := Lib.Decode.Codec.assign_eq_true.2 hp
  exact ⟨p, h, codecs_lose_nothing.2.2.unpack_pack sample p p sample h⟩

end RoboticCar.Integration.StatusCodec
