import RoboticCar.Terrain.Packet

/-!
# The terrain monitor

The monitor calibrates itself on a hundred level, still samples, estimates the tilt from the
filtered acceleration and the turn rate from two headings, follows the height over a hump and
classifies the motion.
-/

namespace RoboticCar.Terrain

open Lib CFloat

variable {F D : Type}

/-! ## Vectors of the sensor -/

/-- The three values of a vector: forward, left and up. -/
structure Axes (F : Type) where
  x : F
  y : F
  z : F

namespace Axes

def map {G : Type} (f : F → G) (a : Axes F) : Axes G := ⟨f a.x, f a.y, f a.z⟩

/-- Combine two vectors value by value. -/
def zipWith {G H : Type} (f : F → G → H) (a : Axes F) (b : Axes G) : Axes H :=
  ⟨f a.x b.x, f a.y b.y, f a.z b.z⟩

def all (p : F → Bool) (a : Axes F) : Bool := p a.x && p a.y && p a.z

variable [CFloat F]

def zero : Axes F := ⟨CFloat.zero, CFloat.zero, CFloat.zero⟩

def square (a : Axes F) : F := a.x * a.x + a.y * a.y + a.z * a.z

def dot (a b : Axes F) : F := a.x * b.x + a.y * b.y + a.z * b.z

end Axes

structure ImuSample (F : Type) where
  accelG : Axes F
  magGauss : Axes F
  timestampUs : UInt32
  valid : Bool
  magValid : Bool
  overrun : Bool

structure TerrainOdometry (D : Type) where
  distanceM : D
  epoch : UInt32
  valid : Bool
  stationary : Bool

variable [CFloat F] [CFloat D]

def imuSampleIsValid (s : ImuSample F) : Bool :=
  s.valid && s.accelG.all isFinite && (!s.magValid || s.magGauss.all isFinite)

/-! ## Calibration -/

def imuCalSamples : ℕ := 100

structure ImuCalibration (F : Type) where
  biasG : Axes F
  sum : Axes F
  min : Axes F
  max : Axes F
  count : ℕ
  ready : Bool

namespace ImuCalibration

/-- `imu_calibration_reset`. -/
def reset : ImuCalibration F := ⟨.zero, .zero, .zero, .zero, 0, false⟩

/-- The sample is level and still. -/
def level (s : ImuSample F) (stationary : Bool) : Bool :=
  stationary && imuSampleIsValid s && !gt (absF s.accelG.x) (lit 0.15) &&
    !gt (absF s.accelG.y) (lit 0.15) && !gt (absF (s.accelG.z - lit 1)) (lit 0.15)

/-- `imu_calibration_feed`, without its result. -/
def feed (c : ImuCalibration F) (s : ImuSample F) (stationary : Bool) : ImuCalibration F :=
  if c.ready then c
  else if !level s stationary then reset
  else
    let a := s.accelG
    let low := if c.count = 0 then a else c.min
    let high := if c.count = 0 then a else c.max
    let low := Axes.zipWith (fun v m => if lt v m then v else m) a low
    let high := Axes.zipWith (fun v m => if gt v m then v else m) a high
    -- a spread on one axis drops the whole capture, so the axes after it do not matter
    if !(Axes.zipWith (· - ·) high low).all (fun w => !gt w (lit 0.04)) then reset
    else
      let sum := Axes.zipWith (· + ·) c.sum a
      let c := { c with min := low, max := high, sum := sum, count := c.count + 1 }
      if c.count = imuCalSamples then
        let bias := sum.map (· / lit 100)
        { c with biasG := { bias with z := bias.z - lit 1 }, ready := true }
      else c

end ImuCalibration

/-! ## Humps -/

structure HumpDetector (F : Type) where
  heightM : F
  peakM : F
  highestM : F
  startedUs : UInt32
  levelSamples : ℕ
  active : Bool
  descended : Bool
  highestValid : Bool
  completed : Bool

namespace HumpDetector

/-- `hump_reset`. -/
def reset : HumpDetector F := ⟨zero, zero, zero, 0, 0, false, false, false, false⟩

/-- A hump over which nothing has been climbed yet. -/
def fresh (h : HumpDetector F) (active : Bool) : HumpDetector F :=
  { h with active := active, heightM := zero, peakM := zero, descended := false, levelSamples := 0 }

/-- The end of a hump: it counts if it was high enough and came back to its level. -/
def conclude (h : HumpDetector F) : HumpDetector F :=
  let h := if ge h.peakM (lit 0.005) && lt (absF h.heightM) (lit 0.03) then
      { h with
        highestM := if !h.highestValid || gt h.peakM h.highestM then h.peakM else h.highestM
        highestValid := true
        completed := true }
    else h
  { h with active := false }

/-- The part of `hump_update` for a hump in progress. -/
def climb [CMath F] (h : HumpDetector F) (pitch ds : F) : HumpDetector F :=
  let h := { h with heightM := h.heightM + ds * CMath.sinf (pitch * lit 0.01745329252) }
  let h := if gt h.heightM h.peakM then { h with peakM := h.heightM } else h
  if gt h.peakM (lit 0.50) || lt h.heightM (-(lit 0.03)) then { h with active := false }
  else
    let h := if lt pitch (-(lit 4.0)) then { h with descended := true } else h
    let h := { h with
      levelSamples := if h.descended && lt (absF pitch) (lit 2.0) then h.levelSamples + 1 else 0 }
    if 5 ≤ h.levelSamples then h.conclude else h

/-- `hump_update`. -/
def update [CMath F] (h : HumpDetector F) (pitch ds : F) (valid : Bool) (now : UInt32) :
    HumpDetector F :=
  let h := { h with completed := false }
  if !valid || !isFinite ds || !isFinite pitch || lt ds zero || gt ds (lit 0.05) ||
      gt (absF pitch) (lit 40) || (h.active && decide (10000000 < now - h.startedUs)) then
    h.fresh false
  else
    let h := if !h.active && gt pitch (lit 4.0) && gt ds (lit 0.0001) then
        { h.fresh true with startedUs := now }
      else h
    if !h.active then h else h.climb pitch ds

end HumpDetector

/-! ## Tilt, heading and classification -/

/-- `DEG`: degrees in a radian. -/
def deg : F := lit 57.295779513

/-- `tilt_estimation`: pitch and roll. -/
def tiltEstimation [CMath F] (a : Axes F) : Option (F × F) :=
  let n := a.square
  if !isFinite n || lt n (lit 0.81) || gt n (lit 1.21) || le a.z (lit 0.0) then none
  else some (CMath.atan2f a.x (CMath.sqrtf (a.y * a.y + a.z * a.z)) * deg,
    CMath.atan2f (-a.y) a.z * deg)

def tiltHeading [CMath F] (a m : Axes F) : Option F :=
  let n := CMath.sqrtf a.square
  let norm := m.square
  if !isFinite n || lt n (lit 0.9) || gt n (lit 1.1) || !isFinite norm || lt norm (lit 0.01) ||
      gt norm (lit 0.64) then none
  else
    let u := a.map (· / n)
    let f : Axes F := ⟨lit 1.0 - u.x * u.x, lit 0.0 - u.x * u.y, lit 0.0 - u.x * u.z⟩
    let fn := CMath.sqrtf f.square
    if lt fn (lit 0.2) then none
    else
      let f := f.map (· / fn)
      let left : Axes F :=
        ⟨u.y * f.z - u.z * f.y, u.z * f.x - u.x * f.z, u.x * f.y - u.y * f.x⟩
      let x := m.dot f
      let y := m.dot left
      if lt (x * x + y * y) (lit 0.0025) then none
      else
        let heading := -(CMath.atan2f y x) * deg
        some (if lt heading zero then heading + lit 360.0 else heading)

def tiltAngleDelta (now previous : F) : F :=
  let d := now - previous
  if gt d (lit 180.0) then d - lit 360.0 else if lt d (-(lit 180.0)) then d + lit 360.0 else d

def motionClassify (pitch speed longitudinalG turn : F) (turnValid impact : Bool) : TerrainState :=
  if impact then .impact
  else if turnValid && gt (absF turn) (lit 15) then .turning
  else if gt (absF speed) (lit 0.01) && gt pitch (lit 4) then .climbing
  else if gt (absF speed) (lit 0.01) && lt pitch (-(lit 4)) then .descending
  else if gt (absF longitudinalG) (lit 0.12) then .accelerating
  else if lt (absF speed) (lit 0.01) then .stationary
  else .moving

/-! ## The monitor -/

structure TerrainMonitor (F D : Type) where
  calibration : ImuCalibration F
  hump : HumpDetector F
  result : TerrainResult F
  previousDistance : D
  filtered : Axes F
  heading : F
  magOffset : Axes F
  magScale : Axes F
  previousUs : UInt32
  headingUs : UInt32
  epoch : UInt32
  stableCount : ℕ
  candidate : TerrainState
  seen : Bool
  odometrySeen : Bool
  headingSeen : Bool
  magneticCalibrated : Bool

namespace TerrainMonitor

/-- `terrain_monitor_init`. -/
def init : TerrainMonitor F D :=
  { calibration := .reset, hump := .reset, result := .zero, previousDistance := zero
    filtered := .zero, heading := zero, magOffset := .zero, magScale := ⟨lit 1, lit 1, lit 1⟩
    previousUs := 0, headingUs := 0, epoch := 0, stableCount := 0, candidate := .unknown
    seen := false, odometrySeen := false, headingSeen := false, magneticCalibrated := false }

/-- `terrain_monitor_reset_run`. -/
def resetRun (t : TerrainMonitor F D) : TerrainMonitor F D :=
  { t with
    hump := .reset, seen := false, odometrySeen := false, headingSeen := false, stableCount := 0
    result := .zero }

/-- `imu_calibration_reset` of the monitor's calibration. -/
def resetCalibration (t : TerrainMonitor F D) : TerrainMonitor F D :=
  { t with calibration := .reset }

/-- The values that `terrain_monitor_set_magnetic_calibration` accepts. -/
def magneticValid (offset scale : Axes F) : Bool :=
  offset.all (fun v => isFinite v && !gt (absF v) (lit 5)) &&
    scale.all (fun v => isFinite v && !lt v (lit 0.1) && !gt v (lit 10))

/-- `terrain_monitor_set_magnetic_calibration`, without its result. -/
def setMagneticCalibration (t : TerrainMonitor F D) (offset scale : Axes F) :
    TerrainMonitor F D :=
  if magneticValid offset scale then
    { t with
      magOffset := offset, magScale := scale, magneticCalibrated := true, headingSeen := false }
  else t

/-- The turn rate of one sample: from the heading, or the last one while no new magnetic sample
has come. -/
def turnStep [CMath F] (t : TerrainMonitor F D) (s : ImuSample F) (m : Axes F) (tiltOk : Bool)
    (r : TerrainResult F) : TerrainMonitor F D × TerrainResult F :=
  match if tiltOk && s.magValid && t.magneticCalibrated then tiltHeading t.filtered m else none with
  | some heading =>
    let elapsed := s.timestampUs - t.headingUs
    let rate := tiltAngleDelta heading t.heading * lit 1000000.0 / ofInt elapsed.toNat
    let r := if t.headingSeen && decide (10000 ≤ elapsed) && decide (elapsed ≤ 200000) &&
        le (absF rate) (lit 360) then
        { r with turnDps := rate, flags := { r.flags with turnValid := true } }
      else r
    ({ t with heading := heading, headingUs := s.timestampUs, headingSeen := true }, r)
  | none =>
    if s.magValid || !tiltOk || decide (100000 < s.timestampUs - t.headingUs) then
      ({ t with headingSeen := false }, r)
    else if t.headingSeen && t.result.flags.turnValid then
      (t, { r with turnDps := t.result.turnDps, flags := { r.flags with turnValid := true } })
    else (t, r)

/-- How far and how fast the car moved since the last sample, if the odometry says so. -/
def odometryStep [CDouble F D] (t : TerrainMonitor F D) (odo : TerrainOdometry D)
    (continuity : Bool) (gap : UInt32) : TerrainMonitor F D × F × F × Bool :=
  if odo.valid && isFinite odo.distanceM then
    let t' := { t with
      previousDistance := odo.distanceM, epoch := odo.epoch, odometrySeen := true }
    let delta := odo.distanceM - t.previousDistance
    if t.odometrySeen && continuity && odo.epoch = t.epoch && le (absF delta) (lit 0.05) then
      let ds : F := CDouble.toFloat delta
      let speed := ds / (ofInt gap.toNat / lit 1000000.0)
      (t', ds, speed, le (absF speed) (lit 1.5))
    else (t', zero, zero, false)
  else ({ t with odometrySeen := false }, zero, zero, false)

/-- Count the samples that agree on a class. -/
def propose (t : TerrainMonitor F D) (candidate : TerrainState) : TerrainMonitor F D :=
  if candidate ≠ t.candidate then { t with candidate := candidate, stableCount := 1 }
  else if t.stableCount < 3 then { t with stableCount := t.stableCount + 1 }
  else t

/-- The state of a sample: a new class is taken over once three samples agree on it. -/
def stateStep (t : TerrainMonitor F D) (r : TerrainResult F) (usable : Bool)
    (pitch speed dynamicG : F) : TerrainMonitor F D × TerrainState :=
  if r.impact then ({ t with stableCount := 0 }, .impact)
  else if usable then
    let candidate := motionClassify pitch speed dynamicG r.turnDps r.flags.turnValid false
    let t := t.propose candidate
    let state := if 3 ≤ t.stableCount then candidate else t.result.state
    (t, if state = .impact then .unknown else state)
  else ({ t with stableCount := 0 }, .unknown)

/-- The height shown for a hump in progress. -/
def shownHeight (h : HumpDetector F) : F :=
  if lt h.heightM zero then lit 0.0 else if gt h.heightM (lit 0.5) then lit 0.5 else h.heightM

/-- The highest peak of the run, if there is one. -/
def withPeak (h : HumpDetector F) (r : TerrainResult F) : TerrainResult F :=
  if h.highestValid then { r with peakM := h.highestM, flags := { r.flags with peakValid := true } }
  else r

/-- The part of `terrain_monitor_process` for a sample of a calibrated sensor. -/
def measure [CMath F] [CDouble F D] (t : TerrainMonitor F D) (s : ImuSample F)
    (odo : TerrainOdometry D) (continuity : Bool) (gap : UInt32) (r : TerrainResult F) :
    TerrainMonitor F D :=
  let r := { r with flags := { r.flags with calibrated := true } }
  let a := Axes.zipWith (· - ·) s.accelG t.calibration.biasG
  let filtered := Axes.zipWith
    (fun f v => if continuity then f + lit 0.25 * (v - f) else v) t.filtered a
  let m := Axes.zipWith (· * ·) (Axes.zipWith (· - ·) s.magGauss t.magOffset) t.magScale
  let t := { t with filtered := filtered }
  let n := CMath.sqrtf a.square
  let r := { r with impact := isFinite n && (gt n (lit 2.0) || lt n (lit 0.3)) }
  let tilt := if ge n (lit 0.9) && le n (lit 1.1) then tiltEstimation filtered else none
  let (pitch, roll) := tilt.getD (zero, zero)
  let r := if tilt.isSome then
      { r with pitchDeg := pitch, rollDeg := roll, flags := { r.flags with tiltValid := true } }
    else r
  let (t, r) := t.turnStep s m tilt.isSome r
  let (t, ds, speed, movementOk) := t.odometryStep odo continuity gap
  let dynamicG := a.x - filtered.x
  let hump := t.hump.update pitch ds
    (tilt.isSome && movementOk && !r.impact && lt (absF dynamicG) (lit 0.08) &&
      lt (absF roll) (lit 10) && (!r.flags.turnValid || lt (absF r.turnDps) (lit 15)))
    s.timestampUs
  let r := withPeak hump r
  let r := { r with
    humpCompleted := hump.completed
    humpActive := hump.active
    humpHeightM := if hump.active then shownHeight hump else r.humpHeightM }
  let (t, state) := { t with hump := hump }.stateStep r (tilt.isSome && movementOk) pitch speed
    dynamicG
  { t with previousUs := s.timestampUs, seen := true, result := { r with state := state } }

/-- The result with which a sample begins: its time and the highest peak so far. -/
def begun (t : TerrainMonitor F D) (s : ImuSample F) : TerrainResult F :=
  withPeak t.hump { (.zero : TerrainResult F) with timestampUs := s.timestampUs }

def gap (t : TerrainMonitor F D) (s : ImuSample F) : UInt32 :=
  if t.seen then s.timestampUs - t.previousUs else 0

/-- The sample follows the last one. -/
def continuity (t : TerrainMonitor F D) (s : ImuSample F) : Bool :=
  t.seen && decide (0 < t.gap s) && decide (t.gap s ≤ 100000)

/-- The part of `terrain_monitor_process` for a sample that cannot be used. -/
def reject [CMath F] (t : TerrainMonitor F D) (s : ImuSample F) : TerrainMonitor F D :=
  { t with
    headingSeen := false
    odometrySeen := false
    calibration := if t.calibration.ready then t.calibration else .reset
    hump := t.hump.update zero zero false s.timestampUs
    seen := false
    result := { t.begun s with flags := { (t.begun s).flags with fault := true } } }

/-- The part of `terrain_monitor_process` for a sample that is calibrated on. -/
def calibrate (t : TerrainMonitor F D) (s : ImuSample F) (odo : TerrainOdometry D) :
    TerrainMonitor F D :=
  let calibration := t.calibration.feed s odo.stationary
  { t with
    calibration := calibration
    previousUs := s.timestampUs
    seen := !calibration.ready
    result := t.begun s }

/-- `terrain_monitor_process`. -/
def process [CMath F] [CDouble F D] (t : TerrainMonitor F D) (s : ImuSample F)
    (odo : TerrainOdometry D) : TerrainMonitor F D :=
  if !imuSampleIsValid s || (t.seen && !t.continuity s) then t.reject s
  else if !t.calibration.ready then t.calibrate s odo
  else t.measure s odo (t.continuity s) (t.gap s) (t.begun s)

end TerrainMonitor

end RoboticCar.Terrain
