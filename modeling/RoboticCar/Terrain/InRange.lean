import RoboticCar.Terrain.Monitor

/-!
# The results of the monitor fit into their packet

`terrain_pack` clears the validity of a measurement that is out of range.  The monitor never makes
one: what it calls valid arrives as valid (`TerrainMonitor.InRange.process`).
-/

namespace RoboticCar.Terrain

open Lib CFloat

variable {F D : Type} [CFloat F]

/-- A peak that `terrain_pack` sends. -/
def PeakFits (x : F) : Prop := isFinite x = true ∧ lt x zero = false ∧ gt x (lit 0.5) = false

/-- A turn rate that `terrain_pack` sends. -/
def RateFits (x : F) : Prop := isFinite x = true ∧ gt (absF x) (lit 360) = false

/-- An angle that `terrain_pack` sends. -/
def AngleFits (x : F) : Prop := isFinite x = true ∧ gt (absF x) (lit 90) = false

/-- What the monitor needs of the arithmetic: a number between two others is finite and ordered like
them, and the tilt is at most a quarter turn. -/
class Ranged (F : Type) [CFloat F] [CMath F] : Prop where
  peak (x : F) : ge x (lit 0.005) = true → gt x (lit 0.50) = false → PeakFits x
  rate (x : F) : le (absF x) (lit 360) = true → RateFits x
  tilt (a : Axes F) (pitch roll : F) : tiltEstimation a = some (pitch, roll) →
    AngleFits pitch ∧ AngleFits roll

/-- Everything that the result calls valid is in range. -/
structure TerrainResult.InRange (r : TerrainResult F) : Prop where
  pitch : r.flags.tiltValid = true → AngleFits r.pitchDeg
  roll : r.flags.tiltValid = true → AngleFits r.rollDeg
  turn : r.flags.turnValid = true → RateFits r.turnDps
  peak : r.flags.peakValid = true → PeakFits r.peakM

theorem TerrainResult.InRange.sentFlags_eq {r : TerrainResult F} (h : r.InRange) :
    r.sentFlags = r.flags := by
  have hvalid (a b : Bool) (h : a = true → b = false) : (a && !b) = a := by
    cases a <;> simp_all
  obtain ⟨hpitch, hroll, hturn, hpeak⟩ := h
  unfold sentFlags
  rw [hvalid _ _ fun hv => ?_, hvalid _ _ fun hv => ?_, hvalid _ _ fun hv => ?_]
  · obtain ⟨hfinite, hneg, hhigh⟩ := hpeak hv
    rw [hfinite, hneg, hhigh]
    rfl
  · obtain ⟨hfinite, hhigh⟩ := hturn hv
    rw [hfinite, hhigh]
    rfl
  · rw [(hpitch hv).1, (hpitch hv).2, (hroll hv).1, (hroll hv).2]
    rfl

/-- The highest peak of the run is in range. -/
def HumpDetector.InRange (h : HumpDetector F) : Prop := h.highestValid = true → PeakFits h.highestM

namespace HumpDetector

variable [CMath F] [Ranged F] {h : HumpDetector F}

theorem InRange.conclude (hh : h.InRange) (hpeak : gt h.peakM (lit 0.50) = false) :
    h.conclude.InRange := by
  unfold HumpDetector.conclude
  split_ifs with hcounts hhigher
  · exact fun _ => Ranged.peak _ (Bool.and_eq_true_iff.1 hcounts).1 hpeak
  · exact fun _ => hh (by simp_all)
  · exact hh

theorem InRange.climb (hh : h.InRange) (pitch ds : F) : (h.climb pitch ds).InRange := by
  unfold HumpDetector.climb
  extract_lets h₁ h₂ h₃ h₄
  have hsame : h₂.InRange := by
    unfold h₂
    split <;> exact hh
  have hsame' : h₄.InRange ∧ h₄.peakM = h₂.peakM := by
    unfold h₄ h₃
    split <;> exact ⟨hsame, rfl⟩
  split_ifs with hout
  · exact hsame
  · rw [Bool.or_eq_true, not_or, Bool.not_eq_true] at hout
    exact hsame'.1.conclude (hsame'.2 ▸ hout.1)
  · exact hsame'.1

/-- One update of the detector. -/
theorem InRange.update (hh : h.InRange) (pitch ds : F) (valid : Bool) (now : UInt32) :
    (h.update pitch ds valid now).InRange := by
  unfold HumpDetector.update
  extract_lets h₁ _ h₂
  have hsame : h₂.InRange := by
    unfold h₂
    split <;> exact hh
  split_ifs
  · exact hh
  · exact hsame
  · exact hsame.climb pitch ds

end HumpDetector

namespace TerrainMonitor

/-- What the monitor keeps: the last result and the highest peak are in range. -/
structure InRange (t : TerrainMonitor F D) : Prop where
  result : t.result.InRange
  hump : t.hump.InRange

variable {t : TerrainMonitor F D} {r : TerrainResult F}

theorem inRange_zero : (.zero : TerrainResult F).InRange := by
  constructor <;> intro h <;> cases h

theorem inRange_init [CFloat D] : (init : TerrainMonitor F D).InRange :=
  ⟨inRange_zero, fun h => by cases h⟩

theorem inRange_resetRun : t.resetRun.InRange :=
  ⟨inRange_zero, fun h => by cases h⟩

theorem InRange.setMagneticCalibration (h : t.InRange) (offset scale : Axes F) :
    (t.setMagneticCalibration offset scale).InRange := by
  unfold TerrainMonitor.setMagneticCalibration
  split_ifs
  · exact ⟨h.result, h.hump⟩
  · exact h

theorem withPeak_inRange {h : HumpDetector F} (hr : r.InRange) (hh : h.InRange) :
    (withPeak h r).InRange := by
  unfold withPeak
  split_ifs with hv
  · exact ⟨hr.pitch, hr.roll, hr.turn, fun _ => hh hv⟩
  · exact hr

theorem InRange.begun (ht : t.InRange) (s : ImuSample F) : (t.begun s).InRange :=
  withPeak_inRange (by constructor <;> intro h <;> cases h) ht.hump

variable [CMath F] [Ranged F]

theorem InRange.turnStep (ht : t.result.InRange) (hr : r.InRange) (s : ImuSample F) (m : Axes F)
    (tiltOk : Bool) :
    (t.turnStep s m tiltOk r).1.hump = t.hump ∧ (t.turnStep s m tiltOk r).2.InRange := by
  unfold TerrainMonitor.turnStep
  split
  · dsimp only
    split_ifs with hrate
    · simp only [Bool.and_eq_true] at hrate
      exact ⟨rfl, hr.pitch, hr.roll, fun _ => Ranged.rate _ hrate.2, hr.peak⟩
    · exact ⟨rfl, hr⟩
  · split_ifs with _ hseen
    · exact ⟨rfl, hr⟩
    · simp only [Bool.and_eq_true] at hseen
      exact ⟨rfl, hr.pitch, hr.roll, fun _ => ht.turn hseen.2, hr.peak⟩
    · exact ⟨rfl, hr⟩

variable [CFloat D]

omit [CMath F] [Ranged F] in
theorem odometryStep_hump [CDouble F D] (odo : TerrainOdometry D) (continuity : Bool)
    (gap : UInt32) : (t.odometryStep odo continuity gap).1.hump = t.hump := by
  unfold odometryStep
  split_ifs
  · dsimp only
    split_ifs <;> rfl
  · rfl

omit [CMath F] [Ranged F] [CFloat D] in
theorem stateStep_hump (usable : Bool) (pitch speed dynamicG : F) :
    (t.stateStep r usable pitch speed dynamicG).1.hump = t.hump := by
  unfold stateStep propose
  dsimp only
  split_ifs <;> rfl

theorem InRange.measure [CDouble F D] (ht : t.InRange) (hr : r.InRange) (s : ImuSample F)
    (odo : TerrainOdometry D) (continuity : Bool) (gap : UInt32) :
    (t.measure s odo continuity gap r).InRange := by
  unfold TerrainMonitor.measure
  extract_lets _ _ _ filtered m t₁ _ r₂ tilt _ dynamicG
  have hr₂ : r₂.InRange := ⟨hr.pitch, hr.roll, hr.turn, hr.peak⟩
  have htilt (angles : F × F) (h : tilt = some angles) :
      AngleFits angles.1 ∧ AngleFits angles.2 := by
    unfold tilt at h
    split_ifs at h
    exact Ranged.tilt _ _ _ h
  clear_value tilt
  split
  rename_i pitch roll hangles
  extract_lets r₃
  have hr₃ : r₃.InRange := by
    unfold r₃
    cases tilt with
    | none => exact hr₂
    | some angles =>
      obtain ⟨hpitch, hroll⟩ := (show angles = (pitch, roll) from hangles) ▸ htilt angles rfl
      exact ⟨fun _ => hpitch, fun _ => hroll, hr₂.turn, hr₂.peak⟩
  obtain ⟨hhump, hr₄⟩ := InRange.turnStep (t := t₁) ht.result hr₃ s m tilt.isSome
  split
  rename_i t₂ r₄ hturned
  rw [hturned] at hhump hr₄
  have hhump' := (odometryStep_hump (t := t₂) odo continuity gap).trans hhump
  split
  rename_i t₃ ds speed movementOk hmoved
  rw [hmoved] at hhump'
  extract_lets hump r₅ r₆
  have hup : hump.InRange := (show t₃.hump.InRange from hhump' ▸ ht.hump).update _ _ _ _
  have hr₅ : r₅.InRange := withPeak_inRange hr₄ hup
  split
  rename_i t₄ state hstate
  have hkept := stateStep_hump (t := { t₃ with hump := hump }) (r := r₆)
    (tilt.isSome && movementOk) pitch speed dynamicG
  rw [hstate] at hkept
  exact ⟨⟨hr₅.pitch, hr₅.roll, hr₅.turn, hr₅.peak⟩, hkept ▸ hup⟩

/-- **What the monitor calls valid is in range.** -/
theorem InRange.process [CDouble F D] (ht : t.InRange) (s : ImuSample F) (odo : TerrainOdometry D) :
    (t.process s odo).InRange := by
  have hbegun := ht.begun s
  unfold TerrainMonitor.process
  split_ifs
  · exact ⟨⟨hbegun.pitch, hbegun.roll, hbegun.turn, hbegun.peak⟩, ht.hump.update _ _ _ _⟩
  · exact ⟨hbegun, ht.hump⟩
  · exact ht.measure hbegun s odo _ _

end TerrainMonitor

end RoboticCar.Terrain
