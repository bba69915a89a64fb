import RoboticCar.Drive.Authority
import RoboticCar.Navigation.Ranges

/-!
# The ranges of what the drive shows

`Runs.ranged`: every call leaves the measured part of the shown output in range, and only the
calibrations of the three sensors are accepted, whatever the environment answers.
-/

namespace RoboticCar.Driving

open Lib CFloat Motion Navigation Prog

variable {F D : Type} {B : BarcodeReaders}

def Drive.Ranged (d : Drive F D B) : Prop :=
  d.output.Ranged ∧ d.navigation.acceptedCalibration ≤ allSensors

namespace Drive

variable {d d' : Drive F D B}

theorem Ranged.of_keeps (h : d.Ranged) (hk : d.Keeps d') : d'.Ranged :=
  ⟨hk.output ▸ h.1, hk.navigation.2.2.2.trans_le h.2⟩

variable [CFloat D]

theorem Ranged.of_halted {state : DriveState} (h : d.Ranged) (hh : d.Halted state d') :
    d'.Ranged := by
  refine ⟨⟨hh.faultMask ▸ h.1.faultMask, hh.sensor ▸ h.1.darkness, hh.line ▸ h.1.line⟩, ?_⟩
  rw [hh.navigation, Nav.endRun_accepted]
  exact h.2

theorem Ranged.of_outcome {cue : Cue} {u : List (Event F)} (h : d.Ranged)
    (ho : Outcome cue d u d') : d'.Ranged := by
  cases ho with
  | moves _ hk => exact h.of_keeps hk
  | halts _ hk _ hh => exact (h.of_keeps hk).of_halted hh

theorem finishReset_ranged (h : d.Ranged) (now : UInt32) : (d.finishReset now).Ranged := by
  have hfault : (if d.navigation.lifecycle = .faultLatched then d.navigation.resetFault now
      else (true, d.navigation)).2.acceptedCalibration ≤ allSensors := by
    split
    · rw [Nav.resetFault_accepted]
      exact h.2
    · exact h.2
  simp only [finishReset]
  generalize (if d.navigation.lifecycle = .faultLatched then d.navigation.resetFault now
    else (true, d.navigation)) = fault at hfault ⊢
  split_ifs
  · exact h
  · exact h
  · exact ⟨h.1, hfault⟩
  · exact ⟨h.1, hfault⟩
  · exact ⟨⟨h.1.faultMask, h.1.darkness, h.1.line⟩, hfault⟩

theorem init_ranged [CFloat F] {config : NavConfig F D} (h : Drive.init config = some d) :
    d.Ranged := by
  obtain ⟨n, hn, rfl⟩ := Option.map_eq_some_iff.1 h
  refine ⟨Nav.zero_ranged, ?_⟩
  rw [Nav.init_accepted hn]
  decide

variable [CFloat F]

theorem Ranged.cycled {s5 : Bool} {frame : Option SensorFrame}
    {feedback : Option (MotionFeedback D)} {u : List (Event F)} (h : d.Ranged)
    (hn : d.navigation.configured) (hd : d.Cycled s5 frame feedback u d') : d'.Ranged := by
  cases hd with
  | off => exact h
  | noFrame hh => exact h.of_halted hh
  | blind _ hblind => cases hblind.symm.trans hn
  | @sampled _ _ t _ _ output navigation _ _ hp hu =>
    obtain ⟨hout, haccepted⟩ := Nav.process_ranged hp
    have hs : (d.sampled (feedback.getD noFeedback) (reportsOf t) output navigation).Ranged :=
      ⟨hout, haccepted.trans_le h.2⟩
    cases hu with
    | resetting => exact finishReset_ranged hs _
    | faults _ _ hh => exact hs.of_halted hh
    | idle => exact hs
    | holds _ _ _ _ _ _ hk => exact hs.of_keeps hk
    | acts _ _ _ _ _ _ ho => exact hs.of_outcome ho

theorem Ranged.configured [CDouble F D] {s5 : Bool} (h : d.Ranged) {op : Op F D}
    (hop : op.configures) : (op.run s5 d).Ensures fun _ r => r.2.Ranged := by
  cases op with
  | setOptions =>
    refine ensures_pure.2 ?_
    rw [Drive.setOptions]
    split <;> exact h
  | hold => exact ensures_pure.2 h
  | applyCalibration id collector =>
    exact ensures_pure.2 ⟨h.1, Nav.applyCalibration_accepted h.2 id collector⟩
  | setMapping map =>
    exact ensures_pure.2 ⟨h.1, (Nav.setMapping_accepted _ map).trans_le h.2⟩
  | _ => cases hop

end Drive

variable [CFloat F] [CFloat D] [CDouble F D] {s5 : Bool} {d d' : Drive F D B}

/-- One call keeps the ranges. -/
theorem Step.ranged {a : Made F D} (hstep : Step s5 d a d') (hi : Inv s5 d) (h : d.Ranged) :
    d'.Ranged := by
  have hcase := hstep.cases hi.configured hi.detourOff
  obtain ⟨op, calls, ok⟩ := a
  generalize motion calls = u at hcase
  cases hcase with
  | config hop => exact h.configured hop _ _ hstep
  | start hs =>
    cases hs with
    | refuses => exact h
    | starts _ _ hnav _ _ ho =>
      refine ⟨ho ▸ h.1, ?_⟩
      rw [hnav, (Nav.keeps_setMode _ .track).2.2.2, Nav.start_accepted]
      exact h.2
  | stop hh | terrainFault hh => exact h.of_halted hh
  | reset hr => cases hr <;> exact h
  | process hd => exact h.cycled hi.navConfigured hd

/-- **Every run leaves what the drive shows in range.** -/
theorem Runs.ranged {l : List (Made F D)} (hl : Runs s5 d l d') (hi : Inv s5 d) (h : d.Ranged) :
    Inv s5 d' ∧ d'.Ranged :=
  hl.invariant (I := fun d => Inv s5 d ∧ d.Ranged)
    (fun _ _ _ hd hstep => ⟨hd.1.step hstep, hstep.ranged hd.1 hd.2⟩) ⟨hi, h⟩

end RoboticCar.Driving
