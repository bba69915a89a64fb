import RoboticCar.Navigation.Navigation

/-!
# The ranges of a navigation output

The packets rely on ranges that the source's wider types do not show.  A processed frame gives
masks, darknesses and a line error in range, whatever it holds (`Nav.process_ranged`).
-/

namespace RoboticCar.Navigation

open Lib CFloat

variable {F D : Type} {B : BarcodeReaders}

theorem or_bit_le {mask : UInt8} (h : mask ≤ allSensors) (i : SensorId) :
    mask ||| i.bit ≤ allSensors := by
  have hmask : mask.toNat < 2 ^ 3 := Nat.lt_succ_of_le (UInt8.le_iff_toNat_le.1 h)
  have hbit : i.bit.toNat < 2 ^ 3 := by cases i <;> decide
  rw [UInt8.le_iff_toNat_le, UInt8.toNat_or]
  exact Nat.le_of_lt_succ (Nat.or_lt_two_pow hmask hbit)

theorem Reflectance.update_le {r r' : Reflectance} {raw darkness : ℕ}
    (h : r.update raw = (some darkness, r')) : darkness ≤ 1000 := by
  unfold update at h
  split_ifs at h with hraw
  · simp only [Prod.mk.injEq, reduceCtorEq, false_and] at h
  · simp only [Prod.mk.injEq, Option.some.injEq] at h
    rw [← h.1]
    split_ifs <;> omega

def LineObservation.Ranged (o : LineObservation) : Prop := -100 ≤ o.error ∧ o.error ≤ 100

theorem LineDetector.presence_error (d : LineDetector) (now : UInt32) (left right : ℕ)
    (out : LineObservation) : (d.presence now left right out).2.1.error = out.error := by
  rw [presence]
  split_ifs <;> rfl

theorem LineDetector.update_ranged (d : LineDetector) (now : UInt32) (valid : Bool)
    (left right : ℕ) : (d.update now valid left right).1.Ranged := by
  have hzero : LineObservation.zero.Ranged := ⟨by decide, by decide⟩
  simp only [update]
  split_ifs with hconf hbad
  · exact hzero
  · exact hzero
  · simp only [not_or, not_lt] at hbad
    obtain ⟨-, hleft, hright, -⟩ := hbad
    simp only [LineObservation.Ranged, presence_error]
    have hdiv := Int.mul_tdiv_add_tmod ((right : ℤ) - left) 10
    have hlt := Int.tmod_lt_of_pos ((right : ℤ) - left) (by decide : (0 : ℤ) < 10)
    have hgt := Int.lt_tmod_of_pos ((right : ℤ) - left) (by decide : (0 : ℤ) < 10)
    omega

/-- What is measured in an output is in range. -/
structure NavOutput.Ranged (out : NavOutput F D) : Prop where
  faultMask : out.faultMask ≤ allSensors
  darkness : ∀ i, (out.sensor.get i).darkness ≤ 1000
  line : out.line.Ranged

namespace Nav

/-- What the loop over the sensors keeps. -/
structure Sampling.Ranged (s : Sampling F D B) : Prop where
  faultMask : s.faultMask ≤ allSensors
  darkness : ∀ i, (s.sensor.get i).darkness ≤ 1000

theorem darkness_set {a : PerSensor ProcessedSensor} (h : ∀ i, (a.get i).darkness ≤ 1000)
    (i : SensorId) {x : ProcessedSensor} (hx : x.darkness ≤ 1000) :
    ∀ j, ((a.set i x).get j).darkness ≤ 1000 := by
  intro j
  have hj := h j
  cases i <;> cases j <;> first | exact hx | exact hj

theorem Sampling.Ranged.processSensor {s : Sampling F D B} (h : s.Ranged) (frame : SensorFrame)
    (frameTimeBad : Bool) (i : SensorId) : (processSensor frame frameTimeBad s i).Ranged := by
  have hfail : (if s.nav.config.acquisition.enabledMask &&& i.bit ≠ 0 then s.faultMask ||| i.bit
      else s.faultMask) ≤ allSensors := by
    split_ifs
    · exact or_bit_le h.faultMask i
    · exact h.faultMask
  simp only [Nav.processSensor, decide_eq_true_eq]
  split
  · split
    · rename_i darkness reflectance hupdate
      exact ⟨h.faultMask, darkness_set h.darkness i (Reflectance.update_le hupdate)⟩
    · exact ⟨hfail, h.darkness⟩
  · exact ⟨hfail, h.darkness⟩

theorem processSensors_ranged (n : Nav F D B) (frame : SensorFrame) (frameTimeBad : Bool) :
    (n.processSensors frame frameTimeBad (.const ⟨false, 0, .unknown⟩)).Ranged := by
  refine List.foldlRecOn (motive := Sampling.Ranged) SensorId.all _ ⟨?_, ?_⟩ fun s hs i _ => ?_
  · exact (by decide : (0 : UInt8) ≤ allSensors)
  · intro i
    cases i <;> exact Nat.zero_le _
  · exact hs.processSensor frame frameTimeBad i

theorem report_ranged (n : Nav F D B) {out : NavOutput F D} (h : out.Ranged) :
    (n.report out).Ranged := by
  rw [report]
  split_ifs
  · dsimp only
    split <;> exact { h with }
  · exact { h with }

theorem setMapping_accepted (n : Nav F D B) (map : Fin 26 → NavAction) :
    (n.setMapping map).2.acceptedCalibration = n.acceptedCalibration := by
  rw [setMapping]
  split_ifs <;> rfl

theorem applyCalibration_accepted {n : Nav F D B} (h : n.acceptedCalibration ≤ allSensors)
    (id : SensorId) (collector : CalibrationCollector) :
    (n.applyCalibration id collector).2.acceptedCalibration ≤ allSensors := by
  rw [applyCalibration]
  split_ifs
  · exact h
  · split
    · exact h
    · exact or_bit_le h id

variable [CFloat D]

theorem endRun_accepted (n : Nav F D B) :
    n.endRun.2.acceptedCalibration = n.acceptedCalibration := by
  simp only [endRun]
  split_ifs <;> rfl

theorem start_accepted (n : Nav F D B) (now : UInt32) :
    (n.start now).2.acceptedCalibration = n.acceptedCalibration := by
  simp only [start]
  split_ifs <;> rfl

theorem resetFault_accepted (n : Nav F D B) (now : UInt32) :
    (n.resetFault now).2.acceptedCalibration = n.acceptedCalibration := by
  rw [resetFault]
  split_ifs
  · rfl
  · exact endRun_accepted _

variable [CFloat F]

theorem zero_ranged : (NavOutput.zero : NavOutput F D).Ranged := by
  refine ⟨(by decide : (0 : UInt8) ≤ allSensors), fun i => ?_, ⟨?_, ?_⟩⟩
  · cases i <;> exact Nat.zero_le _
  · exact (by decide : (-100 : ℤ) ≤ 0)
  · exact (by decide : (0 : ℤ) ≤ 100)

theorem observe_ranged (n : Nav F D B) (frame : SensorFrame)
    (odometry : Option (OdometrySample D)) : (n.observe frame odometry).1.Ranged := by
  have hs := processSensors_ranged (n.enterFrame frame) frame (n.frameTimeBad frame)
  exact ⟨hs.faultMask, hs.darkness, LineDetector.update_ranged _ _ _ _ _⟩

/-- **A processed frame gives an output in range**, and accepts no calibration. -/
theorem process_ranged {n n' : Nav F D B} {frame : SensorFrame}
    {odometry : Option (OdometrySample D)} {out : NavOutput F D}
    (h : n.process frame odometry = some (out, n')) :
    out.Ranged ∧ n'.acceptedCalibration = n.acceptedCalibration := by
  have hout := n.observe_ranged frame odometry
  have haccepted := (process_latches h).1.2.2.2
  simp only [process] at h
  split at h
  · cases h
  · generalize (n.observe frame odometry).2.processBarcode frame (n.observe frame odometry).1 =
      read at h
    generalize (n.observe frame odometry).1 = seen at h hout
    obtain ⟨rfl, rfl⟩ := Prod.mk.inj (Option.some.inj h)
    have hreport : (read.2.report { seen with barcodeStatus := read.1 }).Ranged :=
      report_ranged _ { hout with }
    exact ⟨{ hreport with }, haccepted⟩

theorem init_accepted {config : NavConfig F D} {n : Nav F D B} (h : init config = some n) :
    n.acceptedCalibration = 0 := by
  rw [init] at h
  repeat' split at h
  all_goals cases h
  rfl

end Nav

end RoboticCar.Navigation
