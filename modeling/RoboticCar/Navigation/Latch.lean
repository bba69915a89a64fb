import RoboticCar.Navigation.Rearm

/-!
# The fault latch of the navigation

A frame with a fault ends an active run in `S3_RUN_FAULT_LATCHED`, which only
`s3_navigation_reset_fault` leaves, after healthy frames for `fault_clear_us`.  `Log` is a context
with the frames it has processed; `Tracks` relates what it remembers to them, and `fault_latch` says
what the latch does in every sequence of calls.
-/

namespace RoboticCar.Navigation

open Lib CFloat

variable {F D : Type} {B : BarcodeReaders}

/-- The fields that the latch reads. -/
structure HealthState where
  lifecycle : Lifecycle
  configured : Bool
  lastUs : UInt32
  seenFrame : Bool
  validSensors : UInt8
  currentFaults : Faults
  latchedFaults : Faults
  healthyTracking : Bool
  healthySinceUs : UInt32

namespace Nav

def health (n : Nav F D B) : HealthState where
  lifecycle := n.lifecycle
  configured := n.configured
  lastUs := n.lastUs
  seenFrame := n.seenFrame
  validSensors := n.validSensors
  currentFaults := n.currentFaults
  latchedFaults := n.latchedFaults
  healthyTracking := n.healthyTracking
  healthySinceUs := n.healthySinceUs

theorem BarcodeOnly.health_eq {n m : Nav F D B} (h : n.BarcodeOnly m) : m.health = n.health := by
  rw [h]
  rfl

/-! ## Sensors -/

theorem or_bit_and {i j : SensorId} (h : j ≠ i) (a : UInt8) :
    (a ||| i.bit) &&& j.bit = a &&& j.bit := by
  have hdistrib : (a ||| i.bit) &&& j.bit = (a &&& j.bit) ||| (i.bit &&& j.bit) := by
    apply UInt8.toBitVec_inj.1
    ext k hk
    simp [Bool.and_or_distrib_right]
  have hzero : i.bit &&& j.bit = 0 := by
    cases i <;> cases j <;> first | rfl | exact absurd rfl h
  rw [hdistrib, hzero, UInt8.or_zero]

theorem get_set {α : Type} (a : PerSensor α) (i j : SensorId) (x : α) :
    (a.set i x).get j = if j = i then x else a.get j := by
  cases i <;> cases j <;> rfl

theorem and_not_bit_and {i j : SensorId} (h : j ≠ i) (a : UInt8) :
    (a &&& ~~~i.bit) &&& j.bit = a &&& j.bit := by
  have hkept : ~~~i.bit &&& j.bit = j.bit := by
    cases i <;> cases j <;> first | rfl | exact absurd rfl h
  rw [UInt8.and_assoc, hkept]

theorem bit_ne_zero (i : SensorId) : i.bit ≠ 0 := by
  cases i <;> decide

def enables (n : Nav F D B) (i : SensorId) : Bool := n.config.acquisition.enabledMask &&& i.bit ≠ 0

/-- The sample of a sensor is too old, repeated, or too long after the one before it. -/
def sampleTimeBad (n : Nav F D B) (frame : SensorFrame) (i : SensorId) : Bool :=
  let raw := frame.sensor.get i
  let gap := raw.timestampUs - n.sensorLastUs.get i
  frame.timestampUs - raw.timestampUs > n.config.maxSampleAgeUs ||
    (n.seenSensors &&& i.bit ≠ 0 && (gap = 0 || gap > n.config.maxSampleAgeUs))

/-- The sample of a sensor is valid, in time and within the calibration. -/
def sampleGood (n : Nav F D B) (frame : SensorFrame) (frameTimeBad : Bool) (i : SensorId) : Bool :=
  let raw := frame.sensor.get i
  raw.enabled && raw.valid && raw.error = 0 && !n.sampleTimeBad frame i && !frameTimeBad &&
    ((n.sensor.get i).update raw.raw).1.isSome

/-- What the loop keeps, after the sensors `done`: valid sensors are shown so, a fault is an enabled
sensor without a good sample, a bad time is that of the frame or of an enabled sensor. -/
structure Sampled (n : Nav F D B) (frame : SensorFrame) (frameTimeBad : Bool)
    (done : List SensorId) (s : Sampling F D B) : Prop where
  valid : ∀ i, s.nav.validSensors &&& i.bit ≠ 0 → (s.sensor.get i).valid = true
  fault : s.faultMask ≠ 0 ↔ done.any fun i => n.enables i && !n.sampleGood frame frameTimeBad i
  timeBad : s.timeBad = (frameTimeBad || done.any fun i => n.enables i && n.sampleTimeBad frame i)
  config : s.nav.config = n.config
  rest : ∀ i, i ∉ done → s.nav.sensor.get i = n.sensor.get i ∧
    s.nav.seenSensors &&& i.bit = n.seenSensors &&& i.bit ∧
    s.nav.sensorLastUs.get i = n.sensorLastUs.get i

/-- One sensor keeps the samples in step. -/
theorem Sampled.step {n : Nav F D B} {frame : SensorFrame} {frameTimeBad : Bool}
    {done : List SensorId} {s : Sampling F D B} (h : Sampled n frame frameTimeBad done s)
    {i : SensorId} (hi : i ∉ done) :
    Sampled n frame frameTimeBad (done ++ [i]) (processSensor frame frameTimeBad s i) := by
  obtain ⟨hsensor, hseen, hlast⟩ := h.rest i hi
  have htime : (s.timeBad || n.enables i && n.sampleTimeBad frame i) = (frameTimeBad ||
      (done ++ [i]).any fun i => n.enables i && n.sampleTimeBad frame i) := by
    simp [h.timeBad, Bool.or_assoc]
  have hother (j : SensorId) (hj : j ∉ done ++ [i]) : j ∉ done ∧ j ≠ i := by simpa using hj
  -- a sensor without a good sample
  have hfailed (hbad : n.enables i = true → n.sampleGood frame frameTimeBad i = false) :
      Sampled n frame frameTimeBad (done ++ [i]) { s with
        nav := { s.nav with
          sensor := s.nav.sensor.set i (s.nav.sensor.get i).reset
          seenSensors := s.nav.seenSensors &&& ~~~i.bit }
        faultMask := if n.enables i then s.faultMask ||| i.bit else s.faultMask
        timeBad := s.timeBad || n.enables i && n.sampleTimeBad frame i } := by
    refine ⟨h.valid, ?_, htime, h.config, fun j hj => ?_⟩
    · cases henabled : n.enables i with
      | true => simp [henabled, hbad henabled, bit_ne_zero]
      | false => simpa [henabled] using h.fault
    · obtain ⟨hj, hne⟩ := hother j hj
      rw [get_set, if_neg hne, and_not_bit_and hne]
      exact h.rest j hj
  unfold processSensor
  extract_lets nav raw enabled gap timingBad timeBad failed
  have henabled : enabled = n.enables i := by simp only [enabled, nav, enables, h.config]
  have htiming : timingBad = n.sampleTimeBad frame i := by
    simp only [timingBad, gap, raw, nav, sampleTimeBad, h.config, hseen, hlast]
  have hfail (hbad : n.enables i = true → n.sampleGood frame frameTimeBad i = false) :
      Sampled n frame frameTimeBad (done ++ [i]) failed := by
    simp only [failed, timeBad, henabled, htiming]
    exact hfailed hbad
  split_ifs with hsample
  · split
    · rename_i darkness reflectance hupdate
      have hgood : n.sampleGood frame frameTimeBad i = true := by
        simp_all [sampleGood, raw, nav]
      refine ⟨fun j hj => ?_, ?_, ?_, h.config, fun j hj => ?_⟩
      · rw [get_set]
        split_ifs with hji
        · rfl
        · exact h.valid j (or_bit_and hji _ ▸ hj)
      · simpa [hgood] using h.fault
      · simpa only [timeBad, henabled, htiming] using htime
      · obtain ⟨hj, hne⟩ := hother j hj
        rw [get_set, if_neg hne, get_set, if_neg hne, or_bit_and hne]
        exact h.rest j hj
    · rename_i hupdate
      refine hfail fun _ => ?_
      simp [sampleGood, ← hsensor, hupdate, nav, raw]
  · refine hfail fun hon => ?_
    rw [henabled, htiming, hon, Bool.true_and] at hsample
    simp only [sampleGood, Bool.not_eq_true] at hsample ⊢
    rw [hsample, Bool.false_and]

theorem sampled_processSensors (n : Nav F D B) (frame : SensorFrame) (frameTimeBad : Bool) :
    Sampled n frame frameTimeBad SensorId.all
      (n.processSensors frame frameTimeBad (.const ⟨false, 0, .unknown⟩)) := by
  have h : Sampled n frame frameTimeBad [] ⟨{ n with validSensors := 0 },
      .const ⟨false, 0, .unknown⟩, 0, frameTimeBad⟩ :=
    ⟨fun i hi => absurd UInt8.zero_and hi, by simp, by simp, rfl, fun _ _ => ⟨rfl, rfl, rfl⟩⟩
  exact ((h.step (i := .barcode) (by simp)).step (i := .left) (by decide)).step (by decide)

theorem report_sensor (n : Nav F D B) (out : NavOutput F D) :
    (n.report out).sensor = out.sensor := by
  simp only [report]
  split
  · split <;> rfl
  · rfl

/-! ## One frame -/

variable [CFloat D]

theorem health_setMode (n : Nav F D B) (mode : Mode) : (n.setMode mode).2.health = n.health := by
  simp only [setMode]
  split_ifs <;> rfl

/-- The odometry that a frame can use: valid, finite and no older than a sample may be. -/
def freshOdometry (n : Nav F D B) (frame : SensorFrame) (odometry : Option (OdometrySample D)) :
    Option (OdometrySample D) :=
  odometry.filter fun o => o.valid && isFinite o.centreM &&
    decide (frame.timestampUs - o.timestampUs ≤ n.config.maxSampleAgeUs)

/-- An enabled sensor without a good sample, a bad time, no fresh odometry, odometry of another
epoch. -/
def frameFaults (n : Nav F D B) (frame : SensorFrame) (odometry : Option (OdometrySample D)) :
    Faults where
  sensor := SensorId.all.any fun i => n.enables i && !n.sampleGood frame (n.frameTimeBad frame) i
  timing := n.frameTimeBad frame ||
    SensorId.all.any fun i => n.enables i && n.sampleTimeBad frame i
  odometry := !(n.freshOdometry frame odometry).isSome
  epoch := n.seenOdometry && (n.freshOdometry frame odometry).any fun o =>
    o.epoch ≠ n.odometry.epoch

/-- `process_health`: tracking lives on healthy frames and ends with any other, and faults are
latched. -/
structure Judged (n : Nav F D B) (frame : SensorFrame) (faults : Faults) (n' : Nav F D B) :
    Prop where
  configured : n'.configured = n.configured
  lastUs : n'.lastUs = n.lastUs
  seenFrame : n'.seenFrame = n.seenFrame
  faults : n'.currentFaults = faults
  tracking : n'.healthyTracking = true → n.validSensors = allSensors ∧ n'.currentFaults = .clear ∧
    n'.healthySinceUs = if n.healthyTracking then n.healthySinceUs else frame.timestampUs
  latches : n.lifecycle = .active → n'.currentFaults ≠ .clear →
    n'.lifecycle = .faultLatched ∧ n'.latchedFaults = n'.currentFaults
  latched : n.lifecycle = .faultLatched →
    n'.lifecycle = .faultLatched ∧ n'.latchedFaults = n.latchedFaults.or n'.currentFaults

theorem assess_fields (n : Nav F D B) (frame : SensorFrame) (odometry : Option (OdometrySample D))
    (faultMask : UInt8) (sampleTimeBad : Bool) :
    let m := n.assess frame odometry faultMask sampleTimeBad
    m.lastUs = n.lastUs ∧ m.seenFrame = n.seenFrame ∧ m.latchedFaults = n.latchedFaults ∧
      m.currentFaults = { n.frameFaults frame odometry with
        sensor := faultMask ≠ 0, timing := sampleTimeBad } ∧
      (m.healthyTracking → n.validSensors = allSensors ∧ m.currentFaults = .clear ∧
        m.healthySinceUs = if n.healthyTracking then n.healthySinceUs else frame.timestampUs) := by
  simp only [assess]
  split
  · rename_i h
    exact ⟨rfl, rfl, rfl, rfl, fun _ => ⟨h.2, h.1, rfl⟩⟩
  · exact ⟨rfl, rfl, rfl, rfl, (by simp)⟩

theorem processHealth_judged (n : Nav F D B) (frame : SensorFrame)
    (odometry : Option (OdometrySample D)) (faultMask : UInt8) (sampleTimeBad : Bool) :
    Judged n frame { n.frameFaults frame odometry with
        sensor := faultMask ≠ 0, timing := sampleTimeBad }
      (n.processHealth frame odometry faultMask sampleTimeBad).2 := by
  obtain ⟨hlife, -, hconf, -⟩ := keeps_assess n frame odometry faultMask sampleTimeBad
  obtain ⟨hlast, hseen, hlatched, hfaults, htracking⟩ :=
    assess_fields n frame odometry faultMask sampleTimeBad
  simp only [processHealth]
  generalize n.assess frame odometry faultMask sampleTimeBad = m at *
  split
  · rename_i h
    refine ⟨hconf, hlast, hseen, hfaults, htracking, fun _ _ => ⟨rfl, rfl⟩, fun hl => ?_⟩
    rw [← hlife, h.1] at hl
    cases hl
  split
  · rename_i h
    refine ⟨hconf, hlast, hseen, hfaults, htracking, fun ha => ?_, fun _ => ⟨h, ?_⟩⟩
    · rw [← hlife, h] at ha
      cases ha
    · rw [← hlatched]
  · rename_i hactive hnot
    exact ⟨hconf, hlast, hseen, hfaults, htracking,
      fun ha hf => absurd ⟨hlife.trans ha, hf⟩ hactive, fun hl => absurd (hlife.trans hl) hnot⟩

/-- The frame was healthy: every sensor is shown as valid and there was no fault. -/
def Healthy (out : NavOutput F D) (n' : Nav F D B) : Prop :=
  (∀ i, (out.sensor.get i).valid = true) ∧ n'.currentFaults = .clear

/-- What a frame does to the health of the context. -/
structure Examined (n : Nav F D B) (frame : SensorFrame) (odometry : Option (OdometrySample D))
    (out : NavOutput F D) (n' : Nav F D B) : Prop where
  faults : n'.currentFaults = n.frameFaults frame odometry
  configured : n'.configured = n.configured
  lastUs : n'.lastUs = frame.timestampUs
  seenFrame : n'.seenFrame = true
  tracking : n'.healthyTracking = true → Healthy out n' ∧ n.frameTimeBad frame = false ∧
    n'.healthySinceUs = if n.healthyTracking then n.healthySinceUs else frame.timestampUs
  latches : n.lifecycle = .active → n'.currentFaults ≠ .clear →
    n'.lifecycle = .faultLatched ∧ n'.latchedFaults = n'.currentFaults
  latched : n.lifecycle = .faultLatched →
    n'.lifecycle = .faultLatched ∧ n'.latchedFaults = n.latchedFaults.or n'.currentFaults

variable [CFloat F]

theorem process_health {n n' : Nav F D B} {odometry : Option (OdometrySample D)}
    {out : NavOutput F D} (h : n.process frame odometry = some (out, n')) :
    out.sensor = (n.observe frame odometry).1.sensor ∧
      n'.health = (n.observe frame odometry).2.health := by
  simp only [process] at h
  split at h
  · cases h
  generalize n.observe frame odometry = seen at h ⊢
  have hread := (processBarcode_only seen.2 frame seen.1).health_eq
  generalize seen.2.processBarcode frame seen.1 = read at h hread
  simp only [Option.some.injEq, Prod.mk.injEq] at h
  obtain ⟨rfl, rfl⟩ := h
  exact ⟨report_sensor _ _, hread⟩

/-- **A processed frame is examined.** -/
theorem process_examined {n n' : Nav F D B} {odometry : Option (OdometrySample D)}
    {out : NavOutput F D} (h : n.process frame odometry = some (out, n')) :
    Examined n frame odometry out n' := by
  obtain ⟨hsensor, hhealth⟩ := process_health h
  have hsampled := sampled_processSensors (n.enterFrame frame) frame (n.frameTimeBad frame)
  have honly := processSensors_only (n.enterFrame frame) frame (n.frameTimeBad frame)
    (.const ⟨false, 0, .unknown⟩)
  simp only [observe] at hhealth hsensor
  generalize (n.enterFrame frame).processSensors frame (n.frameTimeBad frame) _ = s at *
  have hjudged := processHealth_judged s.nav frame odometry s.faultMask s.timeBad
  generalize s.nav.processHealth frame odometry s.faultMask s.timeBad = m at *
  replace hhealth : n'.health = m.2.health := hhealth
  have hentered : { s.nav.health with validSensors := 0 } =
      { (n.enterFrame frame).health with validSensors := 0 } := by
    rw [honly]
    rfl
  have hlife : s.nav.lifecycle = n.lifecycle := congrArg HealthState.lifecycle hentered
  have htrack : s.nav.healthyTracking = n.healthyTracking :=
    congrArg HealthState.healthyTracking hentered
  have hsince : s.nav.healthySinceUs = n.healthySinceUs :=
    congrArg HealthState.healthySinceUs hentered
  have hlatched : s.nav.latchedFaults = n.latchedFaults :=
    congrArg HealthState.latchedFaults hentered
  have hlife' : n'.lifecycle = m.2.lifecycle := congrArg HealthState.lifecycle hhealth
  have hfaults : n'.currentFaults = m.2.currentFaults := congrArg HealthState.currentFaults hhealth
  have hlatched' : n'.latchedFaults = m.2.latchedFaults :=
    congrArg HealthState.latchedFaults hhealth
  have hframe : n'.currentFaults = n.frameFaults frame odometry := by
    have honly' : s.nav.config = n.config ∧ s.nav.seenOdometry = n.seenOdometry ∧
        s.nav.odometry = n.odometry := by
      rw [honly]
      exact ⟨rfl, rfl, rfl⟩
    rw [hfaults, hjudged.faults, frameFaults, frameFaults, Faults.mk.injEq]
    refine ⟨?_, hsampled.timeBad, ?_, ?_⟩
    · exact Bool.eq_iff_iff.2 (decide_eq_true_iff.trans hsampled.fault)
    · rw [freshOdometry, freshOdometry, honly'.1]
    · rw [freshOdometry, freshOdometry, honly'.1, honly'.2.1, honly'.2.2]
  constructor
  case faults => exact hframe
  case configured =>
    calc n'.configured = m.2.configured := congrArg HealthState.configured hhealth
      _ = s.nav.configured := hjudged.configured
      _ = n.configured := congrArg HealthState.configured hentered
  case lastUs =>
    calc n'.lastUs = m.2.lastUs := congrArg HealthState.lastUs hhealth
      _ = s.nav.lastUs := hjudged.lastUs
      _ = frame.timestampUs := congrArg HealthState.lastUs hentered
  case seenFrame =>
    calc n'.seenFrame = m.2.seenFrame := congrArg HealthState.seenFrame hhealth
      _ = s.nav.seenFrame := hjudged.seenFrame
      _ = true := congrArg HealthState.seenFrame hentered
  case tracking =>
    intro ht
    obtain ⟨hall, hclear, hs⟩ :=
      hjudged.tracking ((congrArg HealthState.healthyTracking hhealth).symm.trans ht)
    refine ⟨⟨fun i => ?_, hfaults.trans hclear⟩, ?_, ?_⟩
    · rw [hsensor]
      refine hsampled.valid i ?_
      rw [hall]
      cases i <;> decide
    · by_contra hbad
      have htiming := congrArg Faults.timing (hframe.symm.trans (hfaults.trans hclear))
      simp_all [frameFaults, Faults.clear]
    · rw [show n'.healthySinceUs = m.2.healthySinceUs from
        congrArg HealthState.healthySinceUs hhealth, hs, htrack, hsince]
  case latches =>
    intro hactive hne
    rw [hfaults] at hne
    rw [hlife', hlatched', hfaults]
    exact hjudged.latches (hlife.trans hactive) hne
  case latched =>
    intro hl
    rw [hlife', hlatched', hfaults, ← hlatched]
    exact hjudged.latched (hlife.trans hl)

end Nav

/-! ## Every sequence of calls -/

/-- `a` is part of `b`. -/
def Faults.Le (a b : Faults) : Prop := a.or b = b

theorem Faults.le_or (a b : Faults) : a.Le (a.or b) := by
  simp [Le, Faults.or]

theorem Faults.le_refl (a : Faults) : a.Le a := by
  simp [Le, Faults.or]

/-- A call of the navigation that changes it. -/
inductive NavOp (D : Type)
  | setMode (mode : Mode)
  | applyCalibration (id : SensorId) (collector : CalibrationCollector)
  | setMapping (map : Fin 26 → NavAction)
  | start (now : UInt32)
  | endRun
  | resetFault (now : UInt32)
  | process (frame : SensorFrame) (odometry : Option (OdometrySample D))

def NavOp.isFrame : NavOp D → Bool
  | .process _ _ => true
  | _ => false

/-- A processed frame, with its output and the context that it left. -/
structure Handled (F D : Type) (B : BarcodeReaders) where
  frame : SensorFrame
  out : NavOutput F D
  nav : Nav F D B

namespace Handled

def time (p : Handled F D B) : UInt32 := p.frame.timestampUs

def Healthy (p : Handled F D B) : Prop := Nav.Healthy p.out p.nav

end Handled

/-- A context and the frames it has processed. -/
structure Log (F D : Type) (B : BarcodeReaders) where
  nav : Nav F D B
  handled : List (Handled F D B)

namespace Log

/-- The frames end with a stretch of healthy ones, the first of them at `since` and later than the
one before it. -/
def Stretch (l : List (Handled F D B)) (since : UInt32) : Prop :=
  ∃ older recent last, l = older ++ recent ∧ recent.getLast? = some last ∧
    (∀ p ∈ recent, p.Healthy) ∧
    last.time - since = UInt32.ofNat (Signal.duration Handled.time recent) ∧
    ∀ q, older.getLast? = some q → ∀ p, recent.head? = some p → p.time - q.time ≠ 0

/-- What the context knows of its frames. -/
structure Tracks (s : Log F D B) : Prop where
  configured : s.nav.configured = true
  last : ∀ p, s.handled.getLast? = some p → s.nav.lastUs = p.time ∧ s.nav.seenFrame = true
  stretch : s.nav.healthyTracking = true → Stretch s.handled s.nav.healthySinceUs

theorem Tracks.same {s : Log F D B} {n : Nav F D B} (h : Tracks s)
    (hconf : n.configured = s.nav.configured) (hlast : n.lastUs = s.nav.lastUs)
    (hseen : n.seenFrame = s.nav.seenFrame) (htrack : n.healthyTracking = s.nav.healthyTracking)
    (hsince : n.healthySinceUs = s.nav.healthySinceUs) : Tracks { s with nav := n } := by
  refine ⟨hconf.trans h.configured, fun p hp => ?_, fun ht => ?_⟩
  · rw [hlast, hseen]
    exact h.last p hp
  · rw [hsince]
    exact h.stretch (htrack ▸ ht)

theorem Stretch.snoc {l : List (Handled F D B)} {since : UInt32} (h : Stretch l since)
    {p : Handled F D B} (hp : p.Healthy) : Stretch (l ++ [p]) since := by
  obtain ⟨older, recent, last, rfl, hlast, hall, htime, hgap⟩ := h
  refine ⟨older, recent ++ [p], p, by simp, by simp, ?_, Signal.reading_snoc hlast htime, ?_⟩
  · simpa [or_imp, forall_and] using ⟨hall, hp⟩
  · intro q hq x hx
    refine hgap q hq x ?_
    obtain ⟨a, rest, rfl⟩ := List.exists_cons_of_ne_nil (l := recent) (by rintro rfl; cases hlast)
    exact hx

theorem Stretch.first {l : List (Handled F D B)} {p : Handled F D B} (hp : p.Healthy)
    (hgap : ∀ q, l.getLast? = some q → p.time - q.time ≠ 0) : Stretch (l ++ [p]) p.time := by
  refine ⟨l, [p], p, rfl, rfl, by simpa using hp, by simp, fun q hq x hx => ?_⟩
  cases hx
  exact hgap q hq

theorem duration_lt {older recent l₁ l₂ : List (Handled F D B)} {p : Handled F D B}
    (hl : older ++ recent = l₁ ++ p :: l₂) (hp : p ∉ recent)
    (hgap : ∀ q, older.getLast? = some q → ∀ x, recent.head? = some x → x.time - q.time ≠ 0)
    (hne : recent ≠ []) :
    Signal.duration Handled.time recent < Signal.duration Handled.time (p :: l₂) := by
  rcases List.append_eq_append_iff.1 hl with ⟨mid, -, hmid⟩ | ⟨mid, hmid, hl₂⟩
  · exact absurd (hmid ▸ by simp) hp
  obtain ⟨x, rest, rfl⟩ := List.exists_cons_of_ne_nil hne
  cases mid with
  | nil =>
    cases hl₂
    exact absurd List.mem_cons_self hp
  | cons p' mid =>
    obtain ⟨rfl, hrest⟩ := List.cons.inj hl₂
    replace hrest : l₂ = mid ++ x :: rest := hrest
    subst hrest
    obtain ⟨q, hq⟩ : ∃ q, (p :: mid).getLast? = some q :=
      ⟨_, List.getLast?_eq_some_getLast (by simp)⟩
    have hpos : (x.time - q.time).toNat ≠ 0 := fun h0 =>
      hgap q (by rw [hmid, List.getLast?_append, hq]; rfl) x rfl (UInt32.toNat_inj.1 h0)
    rw [← List.cons_append, Signal.duration_append_cons, Signal.duration_snoc hq]
    omega

variable [CFloat F] [CFloat D]

def act (s : Log F D B) : NavOp D → Log F D B
  | .setMode mode => { s with nav := (s.nav.setMode mode).2 }
  | .applyCalibration id collector => { s with nav := (s.nav.applyCalibration id collector).2 }
  | .setMapping map => { s with nav := (s.nav.setMapping map).2 }
  | .start now => { s with nav := (s.nav.start now).2 }
  | .endRun => { s with nav := s.nav.endRun.2 }
  | .resetFault now => { s with nav := (s.nav.resetFault now).2 }
  | .process frame odometry =>
    match s.nav.process frame odometry with
    | some (out, n') => ⟨n', s.handled ++ [⟨frame, out, n'⟩]⟩
    | none => s

theorem Tracks.init {config : NavConfig F D} {n : Nav F D B} (h : Nav.init config = some n) :
    Tracks ⟨n, []⟩ := by
  have hfalse : n.healthyTracking = false := by
    rw [Nav.init] at h
    repeat' split at h
    all_goals cases h
    rfl
  refine ⟨(Nav.init_lifecycle h).2, fun p hp => ?_, fun ht => ?_⟩
  · cases hp
  · cases hfalse.symm.trans ht

/-- A frame keeps the log in step. -/
theorem Tracks.process {s : Log F D B} (h : Tracks s) {frame : SensorFrame}
    {odometry : Option (OdometrySample D)} {out : NavOutput F D} {n' : Nav F D B}
    (hp : s.nav.process frame odometry = some (out, n')) :
    Tracks ⟨n', s.handled ++ [⟨frame, out, n'⟩]⟩ := by
  have hex := Nav.process_examined hp
  refine ⟨hex.configured.trans h.configured, fun p hlast => ?_, fun ht => ?_⟩
  · obtain rfl : ⟨frame, out, n'⟩ = p := by simpa using hlast
    exact ⟨hex.lastUs, hex.seenFrame⟩
  · obtain ⟨hhealthy, hbad, hsince⟩ := hex.tracking ht
    rw [hsince]
    cases htrack : s.nav.healthyTracking with
    | true => exact (h.stretch htrack).snoc hhealthy
    | false =>
      refine Stretch.first (p := ⟨frame, out, n'⟩) hhealthy fun q hq hzero => ?_
      obtain ⟨hlast, hseen⟩ := h.last q hq
      have hgap : s.nav.sampleGap frame = 0 := by
        rw [Nav.sampleGap, hseen, hlast]
        exact hzero
      simp [Nav.frameTimeBad, hseen, hgap] at hbad

/-- **Every call keeps what the context knows of its frames.** -/
theorem Tracks.step {s : Log F D B} (h : Tracks s) (op : NavOp D) : Tracks (s.act op) := by
  cases op with
  | setMode mode =>
    have hhealth := Nav.health_setMode s.nav mode
    exact h.same (congrArg HealthState.configured hhealth) (congrArg HealthState.lastUs hhealth)
      (congrArg HealthState.seenFrame hhealth) (congrArg HealthState.healthyTracking hhealth)
      (congrArg HealthState.healthySinceUs hhealth)
  | applyCalibration =>
    simp only [act, Nav.applyCalibration]
    split
    · exact h
    · split
      · exact h
      · exact h.same rfl rfl rfl rfl rfl
  | setMapping | start | endRun =>
    simp only [act, Nav.setMapping, Nav.start, Nav.endRun]
    split
    · exact h
    · exact h.same rfl rfl rfl rfl rfl
  | resetFault =>
    simp only [act, Nav.resetFault, Nav.endRun]
    split
    · exact h
    · split <;> exact h.same rfl rfl rfl rfl rfl
  | process =>
    rw [act]
    split
    · rename_i hp
      exact h.process hp
    · exact h

/-! ## The latch -/

/-- What a reset of the fault has behind it. -/
structure Recovered (s : Log F D B) (now : UInt32) : Prop where
  /-- the frames end with healthy ones over at least `fault_clear_us`, and the latest is fresh -/
  stretch : ∃ older recent last, s.handled = older ++ recent ∧ recent.getLast? = some last ∧
    (∀ p ∈ recent, p.Healthy) ∧
    s.nav.config.faultClearUs.toNat ≤ Signal.duration Handled.time recent ∧
    now - last.time ≤ s.nav.config.maxSampleAgeUs
  /-- every frame that is no older than `fault_clear_us` was healthy -/
  window : ∀ older p newer, s.handled = older ++ p :: newer →
    Signal.duration Handled.time (p :: newer) ≤ s.nav.config.faultClearUs.toNat → p.Healthy
  /-- nothing but the fault blocked the run -/
  ready : { s.nav.readiness now with fault := false } = Readiness.clear

variable {s : Log F D B} {now : UInt32}

omit [CFloat F] [CFloat D] in
theorem Tracks.recovered (h : Tracks s)
    (hready : { s.nav.readiness now with fault := false } = Readiness.clear)
    (htrack : s.nav.healthyTracking)
    (hlong : ¬s.nav.lastUs - s.nav.healthySinceUs < s.nav.config.faultClearUs) :
    Recovered s now := by
  obtain ⟨older, recent, last, hhandled, hlast, hall, htime, hgap⟩ := h.stretch htrack
  have hne : recent ≠ [] := by
    rintro rfl
    cases hlast
  have hlast' : s.handled.getLast? = some last := by
    rw [hhandled, List.getLast?_append, hlast]
    rfl
  obtain ⟨hus, -⟩ := h.last last hlast'
  have hclear : s.nav.config.faultClearUs.toNat ≤ Signal.duration Handled.time recent := by
    rw [hus, htime, UInt32.not_lt, UInt32.le_iff_toNat_le, UInt32.toNat_ofNat'] at hlong
    exact hlong.trans (Nat.mod_le _ _)
  refine ⟨⟨older, recent, last, hhandled, hlast, hall, hclear, ?_⟩, fun l₁ p l₂ hl hle => ?_,
    hready⟩
  · have hsensors := congrArg Readiness.sensors hready
    simp only [Nav.readiness, h.configured, Readiness.clear] at hsensors
    rw [← hus]
    simp at hsensors
    exact hsensors.1.2
  · by_contra hsick
    have hlt := duration_lt (hhandled.symm.trans hl) (fun hp => hsick (hall p hp)) hgap hne
    omega

/-- What a call may do with the latch. -/
structure Latched (s : Log F D B) (op : NavOp D) : Prop where
  /-- the faults of a frame are those of its sensors, times and odometry -/
  faults : ∀ frame odometry, op = .process frame odometry →
    (s.act op).nav.currentFaults = s.nav.frameFaults frame odometry
  /-- a fault of an active run is latched within the call -/
  latches : ∀ frame odometry, op = .process frame odometry →
    s.nav.lifecycle = .active → (s.act op).nav.currentFaults ≠ .clear →
    (s.act op).nav.lifecycle = .faultLatched ∧
      (s.act op).nav.latchedFaults = (s.act op).nav.currentFaults
  /-- a latched fault is left by a reset after a recovery only -/
  leaves : s.nav.lifecycle = .faultLatched → (s.act op).nav.lifecycle ≠ .faultLatched →
    ∃ now, op = .resetFault now ∧ Recovered s now
  /-- until then faults are only added -/
  adds : s.nav.lifecycle = .faultLatched → (s.act op).nav.lifecycle = .faultLatched →
    s.nav.latchedFaults.Le (s.act op).nav.latchedFaults

theorem Tracks.latched (h : Tracks s) (op : NavOp D) : Latched s op := by
  -- a call that keeps the lifecycle and the latched faults, and is no frame
  have hsame {op : NavOp D} (hop : op.isFrame = false)
      (hl : s.nav.lifecycle = .faultLatched → (s.act op).nav.lifecycle = .faultLatched ∧
        (s.act op).nav.latchedFaults = s.nav.latchedFaults) : Latched s op := by
    have hno (frame odometry) (he : op = .process frame odometry) : False := by
      rw [he] at hop
      cases hop
    exact ⟨fun _ _ he => (hno _ _ he).elim, fun _ _ he => (hno _ _ he).elim,
      fun hs hne => absurd (hl hs).1 hne, fun hs _ => (hl hs).2 ▸ Faults.le_refl _⟩
  cases op with
  | setMode mode =>
    have hhealth := Nav.health_setMode s.nav mode
    exact hsame rfl fun hs => ⟨(congrArg HealthState.lifecycle hhealth).trans hs,
      congrArg HealthState.latchedFaults hhealth⟩
  | applyCalibration | setMapping | start | endRun =>
    refine hsame rfl fun hs => ?_
    simp [act, Nav.applyCalibration, Nav.setMapping, Nav.start, Nav.endRun, hs]
  | resetFault now =>
    refine ⟨by simp, by simp, fun hs hne => ⟨now, rfl, ?_⟩, fun hs hs' => ?_⟩
    · simp only [act, Nav.resetFault] at hne
      split at hne
      · exact absurd hs hne
      · rename_i hcond
        simp only [not_or, not_not, Bool.not_eq_true', Bool.not_eq_false] at hcond
        exact h.recovered hcond.2.2.1 hcond.2.2.2.2.1 hcond.2.2.2.2.2
    · rcases Nav.resetFault_cases s.nav now with hr | ⟨-, hr, -⟩
      · rw [act, hr]
        exact Faults.le_refl _
      · cases hr.symm.trans hs'
  | process frame odometry =>
    obtain ⟨out, n', hp⟩ := Nav.process_isSome h.configured frame odometry
    have hex := Nav.process_examined hp
    have hact : (s.act (.process frame odometry)).nav = n' := by rw [act, hp]
    refine ⟨?_, fun _ _ _ => ?_, fun hs => ?_, fun hs _ => ?_⟩
    · rintro _ _ ⟨⟩
      rw [hact]
      exact hex.faults
    · rw [hact]
      exact hex.latches
    · rw [hact, (hex.latched hs).1]
      exact fun hne => absurd rfl hne
    · rw [hact, (hex.latched hs).2]
      exact Faults.le_or _ _

/-- **The fault latch.**  The faults of a frame are those of its sensors, its times and the
odometry; in an active run they are latched at once, and left by `s3_navigation_reset_fault` only,
after healthy frames over at least `fault_clear_us`. -/
theorem fault_latch {config : NavConfig F D} {n₀ : Nav F D B} (h₀ : Nav.init config = some n₀)
    (l : List (NavOp D)) (op : NavOp D) : Latched (l.foldl act ⟨n₀, []⟩) op :=
  (Run.invariant (I := Tracks) (fun _ op h => h.step op) (.init h₀) l).latched op

section Bench

theorem init_benchNavConfig_isSome :
    (Nav.init benchNavConfig : Option (Nav ℚ ℚ Barcode.readers)).isSome := by
  decide +kernel

def latchNav : Nav ℚ ℚ Barcode.readers := (Nav.init benchNavConfig).get init_benchNavConfig_isSome

/-- A run loses its odometry for a frame; then a sensor fails, a sample repeats and the epoch
changes. -/
def latchOps : List (NavOp ℚ) :=
  let collector : CalibrationCollector := ⟨⟨10, 10000, 1000, 1000⟩, ⟨10, 30000, 3000, 3000⟩⟩
  let frame (k : ℕ) : NavOp ℚ := .process (benchStep false k).1 (benchStep false k).2
  [.applyCalibration .barcode collector, .applyCalibration .left collector,
    .applyCalibration .right collector, frame 1, .start 30000, .process (benchStep false 2).1 none,
    .process ⟨90000, ⟨90000, 1000, 0, true, true⟩, ⟨90000, 1000, 0, true, false⟩,
      ⟨60000, 1000, 0, true, true⟩⟩ (some ⟨3 / 1000, 90000, 1, true⟩),
    frame 4, frame 5, frame 6]

/-- All four faults are latched, and can be reset after the healthy frames. -/
theorem fault_latch_bench :
    (latchOps.foldl act ⟨latchNav, []⟩).nav.lifecycle = .faultLatched ∧
      (latchOps.foldl act ⟨latchNav, []⟩).nav.latchedFaults = ⟨true, true, true, true⟩ ∧
      ((latchOps.foldl act ⟨latchNav, []⟩).act (.resetFault 180000)).nav.lifecycle = .inactive ∧
      Latched (latchOps.foldl act ⟨latchNav, []⟩) (.resetFault 180000) := by
  refine ⟨by decide +kernel, by decide +kernel, by decide +kernel, ?_⟩
  have h₀ : Nav.init benchNavConfig = some latchNav := (Option.some_get _).symm
  exact fault_latch h₀ latchOps (.resetFault 180000)

end Bench

end Log

end RoboticCar.Navigation
