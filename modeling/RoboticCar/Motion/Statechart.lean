import RoboticCar.Lib.Run
import RoboticCar.Motion.Controller

/-!
# The statechart of the motion controller

`Chart` is the part of the controller that its callers are about, and `Chart.Step` the statechart:
one constructor per transition, with the reports it makes.  The one call that is no transition is a
lease timeout that finds no command running; every other call is (`Call.refines`).
-/

namespace RoboticCar.Motion

open Lib CFloat

variable {F : Type}

@[ext] structure Chart where
  state : MotionState
  faultBits : UInt8
  cmdId : UInt8
  busy : Bool
  brakePending : Bool
  /-- both motors are braked -/
  braked : Bool
  deriving DecidableEq

def Ctrl.chart (c : Ctrl F) : Chart :=
  ⟨c.state, c.faultBits, c.cmdId, c.busy, c.brakePending, bothBraked c.motor⟩

/-- The id after `id`: 255 is followed by 1. -/
def nextId (id : UInt8) : UInt8 := if id + 1 = 0 then 1 else id + 1

/-- Who makes a transition, and the two requests whose success the chart turns on. -/
inductive Cause
  /-- the motion task's control step, or its brake -/
  | task
  /-- a call of another task that starts nothing and clears nothing -/
  | client
  /-- a request that was accepted as a new command -/
  | accepted
  /-- a reset that cleared the faults -/
  | cleared
  /-- the motion task around and inside a calibration -/
  | calibration
  deriving DecidableEq

namespace Chart

def safe (s : Chart) : Chart := { s with braked := true, brakePending := false }

/-- The transitions of the statechart, with who makes them and the reports they make. -/
inductive Step (s : Chart) : Cause → List MotionReport → Chart → Prop
  | stay (k : Cause) (hk : k ≠ .accepted) : Step s k [] s
  | run (braked : Bool) (ha : isActive s.state) : Step s .task [] { s with braked := braked }
  | brake (ha : isActive s.state = false) : Step s .task [] s.safe
  | fault (bits : UInt8) (ha : isActive s.state) (hb : bits &&& 0x1F ≠ 0) :
      Step s .task [⟨s.cmdId, .fault, motionFaultFirst bits, false⟩]
        { s.safe with state := .fault, faultBits := (s.faultBits ||| bits) &&& 0x1F }
  | done (ha : isActive s.state) :
      Step s .task [⟨s.cmdId, .done, .none, false⟩] { s.safe with state := .complete }
  | accept (kind : MotionState) (hi : s.state = .idle) (hp : s.brakePending = false)
      (hk : isActive kind) :
      Step s .accepted [] { s with state := kind, cmdId := nextId s.cmdId }
  | acceptDone (hi : s.state = .idle) (hp : s.brakePending = false) :
      Step s .accepted [⟨nextId s.cmdId, .done, .none, false⟩]
        { s with state := .complete, cmdId := nextId s.cmdId }
  | cancel (ha : isActive s.state) :
      Step s .client [⟨s.cmdId, .cancelled, .none, false⟩]
        { s with state := .idle, brakePending := true }
  | settle (hc : s.state = .complete) : Step s .client [] { s with state := .idle }
  | clear (hf : s.state = .fault) : Step s .cleared [] { s with state := .idle, faultBits := 0 }
  | calibrationBegin : Step s .calibration [] { s with busy := true }
  | calibrationDrive (braked : Bool) (hb : s.busy) :
      Step s .calibration [] { s with braked := braked }
  | calibrationEnd : Step s .calibration [] { s with busy := false, braked := true }

end Chart

/-- `c'` is reached from `c` by a transition of the chart, with the reports of that transition. -/
def Refines (c : Ctrl F) (k : Cause) (c' : Ctrl F) : Prop :=
  ∃ reports, c'.sink = c.sink ++ reports ∧ Chart.Step c.chart k reports c'.chart

/-- `c'` differs from `c`, as far as the chart goes, only in what the motors do. -/
def Drives (c c' : Ctrl F) : Prop :=
  c'.sink = c.sink ∧ ∃ braked, c'.chart = { c.chart with braked := braked }

theorem Drives.trans {c₁ c₂ c₃ : Ctrl F} (h₁ : Drives c₁ c₂) (h₂ : Drives c₂ c₃) :
    Drives c₁ c₃ := by
  obtain ⟨e₁, b₁, h₁⟩ := h₁
  obtain ⟨e₂, b₂, h₂⟩ := h₂
  exact ⟨e₂.trans e₁, b₂, by rw [h₂, h₁]⟩

theorem Refines.stay {c c' : Ctrl F} {k : Cause} (hk : k ≠ .accepted) (hs : c'.sink = c.sink)
    (hc : c'.chart = c.chart) : Refines c k c' :=
  ⟨[], by simpa using hs, hc ▸ .stay k hk⟩

@[simp] theorem complete_chart (c : Ctrl F) :
    (complete c).chart = { c.chart with state := .complete } := rfl

@[simp] theorem complete_sink (c : Ctrl F) :
    (complete c).sink = c.sink ++ [⟨c.cmdId, .done, .none, false⟩] := rfl

theorem motionControllerStop_refines (c : Ctrl F) : Refines c .client (motionControllerStop c) := by
  unfold motionControllerStop
  dsimp only
  split
  · rename_i ha
    have hf : c.state ≠ .fault := by rintro h; simp [h, isActive] at ha
    rw [if_pos (by exact hf)]
    exact ⟨_, rfl, .cancel ha⟩
  · rename_i ha
    split
    · rename_i hf
      cases hstate : c.state with
      | idle => exact .stay (by decide) rfl (by simp [Ctrl.chart, hstate])
      | complete => exact ⟨[], by simp, .settle hstate⟩
      | fault => exact absurd hstate hf
      | velocity | drive | turn => simp [hstate, isActive] at ha
    · exact .stay (by decide) rfl rfl

theorem motionControllerCancel_refines (id : UInt8) (c : Ctrl F) :
    Refines c .client (motionControllerCancel id c).2 := by
  unfold motionControllerCancel
  split
  · exact .stay (by decide) rfl rfl
  · split
    · exact .stay (by decide) rfl rfl
    · exact motionControllerStop_refines c

theorem motionControllerPoll_refines (c : Ctrl F) :
    Refines c .client (motionControllerPoll c).2 := by
  unfold motionControllerPoll
  split
  · rename_i hc
    exact ⟨[], by simp, .settle hc⟩
  · exact .stay (by decide) rfl rfl

theorem motionControllerAckComplete_refines (id : UInt8) (c : Ctrl F) :
    Refines c .client (motionControllerAckComplete id c) := by
  unfold motionControllerAckComplete
  split
  · rename_i hc
    exact ⟨[], by simp, .settle hc.1⟩
  · exact .stay (by decide) rfl rfl

theorem motionControllerReset_cases (c : Ctrl F) :
    ((c.state = .fault ∧ (motionControllerReset c).1 = true) ∧
      (motionControllerReset c).2 = { c with faultBits := 0, state := .idle }) ∨
    (¬(c.state = .fault ∧ (motionControllerReset c).1 = true) ∧
      (motionControllerReset c).2 = c) := by
  unfold motionControllerReset
  by_cases hf : c.state = .fault
  · rw [if_neg (not_not.mpr hf)]
    split
    · exact .inl ⟨⟨hf, rfl⟩, rfl⟩
    · exact .inr ⟨by simp, rfl⟩
  · rw [if_pos hf]
    exact .inr ⟨by simp [hf], rfl⟩

variable [CFloat F]

/-- The two kinds of move that are requested. -/
inductive MoveKind
  | drive
  | turn
  deriving DecidableEq

def MoveKind.state : MoveKind → MotionState
  | .drive => .drive
  | .turn => .turn

/-- The calls after initialisation.  A calibration is three: busy, the motors, and brakes before the
end. -/
inductive Call (F : Type)
  | requestVelocity (s : Sensors F) (leftMps rightMps : F) (nowUs : UInt32)
  | requestMove (s : Sensors F) (kind : MoveKind) (signLeft signRight : Int)
      (distM speedMps : F) (nowUs : UInt32)
  | stop
  | cancel (commandId : UInt8)
  | reset
  | poll
  | ackComplete (commandId : UInt8)
  | navigationTimeout
  | makeSafe
  | step (s : Sensors F) (dtS : F) (nowUs : UInt32)
  | calibrationBegin
  | calibrationDrive (w : Wheel) (duty : F)
  | calibrationEnd

namespace Call

def apply (c : Ctrl F) : Call F → Ctrl F
  | requestVelocity s l r now => (motionControllerRequestVelocity s l r now c).2
  | requestMove s kind sl sr dist speed now =>
    (motionControllerRequestMove s kind.state sl sr dist speed now c).2
  | stop => motionControllerStop c
  | cancel id => (motionControllerCancel id c).2
  | reset => (motionControllerReset c).2
  | poll => (motionControllerPoll c).2
  | ackComplete id => motionControllerAckComplete id c
  | navigationTimeout => motionControllerNavigationTimeout c
  | makeSafe => motionControllerMakeSafe c
  | step s dt now => motionControllerStep s dt now c
  | calibrationBegin => motionControllerSetBusy true c
  | calibrationDrive w duty =>
    if c.busy then { c with motor := motorControlSet c.motor w duty } else c
  | calibrationEnd =>
    motionControllerSetBusy false { c with motor := motorControlBrakeAll c.motor }

/-- What a call counts as in the chart.  A velocity request starts a command only from IDLE. -/
def cause (c : Ctrl F) : Call F → Cause
  | requestVelocity s l r now =>
    if (motionControllerRequestVelocity s l r now c).1 = .ok ∧ c.state = .idle then .accepted
    else .client
  | requestMove s kind sl sr dist speed now =>
    if (motionControllerRequestMove s kind.state sl sr dist speed now c).1 = .ok then .accepted
    else .client
  | reset => if c.state = .fault ∧ (motionControllerReset c).1 then .cleared else .client
  | stop | cancel _ | poll | ackComplete _ => .client
  | navigationTimeout | makeSafe | step .. => .task
  | calibrationBegin | calibrationDrive .. | calibrationEnd => .calibration

end Call

/-! ## The motion task's calls -/

@[simp] theorem outputsSafe_chart (c : Ctrl F) : (outputsSafe c).chart = c.chart.safe := by
  simp [Ctrl.chart, outputsSafe, Chart.safe]

@[simp] theorem outputsSafe_sink (c : Ctrl F) : (outputsSafe c).sink = c.sink := rfl

@[simp] theorem raiseFaults_chart (bits : UInt8) (c : Ctrl F) :
    (raiseFaults bits c).chart = { c.chart.safe with
      state := .fault, faultBits := (c.faultBits ||| bits) &&& 0x1F } := by
  simp [Ctrl.chart, raiseFaults, report, outputsSafe, Chart.safe]

@[simp] theorem raiseFaults_sink (bits : UInt8) (c : Ctrl F) :
    (raiseFaults bits c).sink = c.sink ++ [⟨c.cmdId, .fault, motionFaultFirst bits, false⟩] :=
  rfl

theorem trackStill_sink (s : Sensors F) (dtMs : UInt32) (c : Ctrl F) :
    (trackStill s dtMs c).sink = c.sink := by
  unfold trackStill trackGlitches
  dsimp only
  split
  · split <;> rfl
  · rfl

theorem trackStill_chart (s : Sensors F) (dtMs : UInt32) (c : Ctrl F) :
    (trackStill s dtMs c).chart = c.chart := by
  unfold trackStill trackGlitches
  dsimp only
  split
  · split <;> rfl
  · rfl

theorem wheelDrive_drives (s : Sensors F) (w : Wheel) (target dt : F) (c : Ctrl F) :
    Drives c (wheelDrive s w target dt c) :=
  ⟨rfl, bothBraked (wheelDrive s w target dt c).motor, rfl⟩

theorem wheelCheck_drives (s : Sensors F) (w : Wheel) (dtMs : UInt32) (c : Ctrl F) :
    Drives c (wheelCheck s w dtMs c).2 :=
  ⟨rfl, bothBraked c.motor, rfl⟩

theorem moveStep_drives (s : Sensors F) (dt : F) (c : Ctrl F) : Drives c (moveStep s dt c).2 := by
  unfold moveStep
  dsimp only
  split
  · exact ⟨rfl, bothBraked c.motor, rfl⟩
  · exact (wheelDrive_drives ..).trans (wheelDrive_drives ..)

theorem motionFaultBit_or_and {f g : MotionFault} (h : f ≠ .none ∨ g ≠ .none) :
    (motionFaultBit f ||| motionFaultBit g) &&& 0x1F ≠ 0 := by
  cases f <;> cases g <;> first | simp at h; done | decide

theorem raiseFaults_refines {c c' : Ctrl F} {bits : UInt8} (ha : isActive c.state)
    (hd : Drives c c') (hb : bits &&& 0x1F ≠ 0) : Refines c .task (raiseFaults bits c') := by
  obtain ⟨hs, braked, hc⟩ := hd
  have hid : c'.cmdId = c.cmdId := congrArg Chart.cmdId hc
  have hf : c'.faultBits = c.faultBits := congrArg Chart.faultBits hc
  refine ⟨[⟨c.cmdId, .fault, motionFaultFirst bits, false⟩], ?_, ?_⟩
  · rw [raiseFaults_sink, hs, hid]
  · rw [raiseFaults_chart, hc, hf]
    exact .fault bits ha hb

/-- The checks after driving are one transition. -/
theorem stepChecks_refines {s : Sensors F} {dtMs : UInt32} {done : Bool} {c c' : Ctrl F}
    (ha : isActive c.state) (hd : Drives c c') :
    Refines c .task (stepChecks s dtMs done c') := by
  have hd' := (hd.trans (wheelCheck_drives s .left dtMs c')).trans
    (wheelCheck_drives s .right dtMs (wheelCheck s .left dtMs c').2)
  unfold stepChecks
  dsimp only
  split_ifs with hf hdone
  · exact raiseFaults_refines ha hd' (motionFaultBit_or_and hf)
  · obtain ⟨hs, braked, hc⟩ := hd'
    have hid := congrArg Chart.cmdId hc
    refine ⟨[⟨c.cmdId, .done, .none, false⟩], ?_, ?_⟩
    · rw [complete_sink, outputsSafe_sink, hs]
      exact congrArg (fun id => c.sink ++ [⟨id, .done, .none, false⟩]) hid
    · rw [complete_chart, outputsSafe_chart, hc]
      exact .done ha
  · obtain ⟨hs, braked, hc⟩ := hd'
    exact ⟨[], by simpa using hs, hc ▸ .run braked ha⟩

/-- A control step is a transition of the chart. -/
theorem motionControllerStep_refines (s : Sensors F) (dtS : F) (nowUs : UInt32) (c : Ctrl F) :
    Refines c .task (motionControllerStep s dtS nowUs c) := by
  unfold motionControllerStep
  dsimp only
  generalize toUInt32 (dtS * lit 1000 + lit (1 / 2)) = dtMs
  have hs := trackStill_sink s dtMs c
  have hc := trackStill_chart s dtMs c
  -- the controller after the bookkeeping of every step, which the chart does not see
  generalize trackStill s dtMs c = c₁ at hs hc
  have hstate : c₁.state = c.state := congrArg Chart.state hc
  have hd : Drives c c₁ := ⟨hs, c.chart.braked, hc⟩
  split
  · exact .stay (by decide) hs hc
  · split
    · rename_i hv
      have ha : isActive c.state := by rw [← hstate, hv]; rfl
      split
      · exact raiseFaults_refines ha hd (by decide)
      · exact stepChecks_refines ha
          ((hd.trans (wheelDrive_drives ..)).trans (wheelDrive_drives ..))
    iterate 2
      · rename_i hm
        have ha : isActive c.state := by rw [← hstate, hm]; rfl
        split
        · exact raiseFaults_refines ha hd (by decide)
        · exact stepChecks_refines ha (hd.trans (moveStep_drives ..))
    all_goals
      rename_i hi
      refine ⟨[], by simpa using hs, ?_⟩
      rw [outputsSafe_chart, hc]
      exact .brake (by rw [← hc]; simp [Ctrl.chart, hi, isActive])

theorem motionControllerMakeSafe_refines (c : Ctrl F) :
    Refines c .task (motionControllerMakeSafe c) := by
  unfold motionControllerMakeSafe
  split
  · rename_i h
    simp only [Bool.and_eq_true, Bool.not_eq_true'] at h
    exact ⟨[], by simp, by rw [outputsSafe_chart]; exact .brake h.1⟩
  · exact .stay (by decide) rfl rfl

/-- A velocity request is refused and changes nothing, updates the running velocity command, or
starts one. -/
theorem motionControllerRequestVelocity_cases (s : Sensors F) (l r : F) (now : UInt32)
    (c : Ctrl F) :
    let p := motionControllerRequestVelocity s l r now c
    (p.1 ≠ .ok ∧ p.2 = c) ∨
    (p.1 = .ok ∧ c.state = .velocity ∧ c.brakePending = false ∧
      p.2.sink = c.sink ∧ p.2.chart = c.chart) ∨
    (p.1 = .ok ∧ c.state = .idle ∧ c.busy = false ∧ c.brakePending = false ∧
      p.2.sink = c.sink ∧
      p.2.chart = { c.chart with state := .velocity, cmdId := nextId c.cmdId }) := by
  unfold motionControllerRequestVelocity
  dsimp only
  split_ifs with hf hb hi
  · exact .inl ⟨by simp, rfl⟩
  · exact .inl ⟨by simp, rfl⟩
  · simp only [not_or, Bool.not_eq_true] at hb
    exact .inr (.inr ⟨rfl, hi, hb.1, hb.2.1, rfl, rfl⟩)
  · simp only [not_or, Bool.not_eq_true, not_and, not_not] at hb
    exact .inr (.inl ⟨rfl, hb.2.2 hi, hb.2.1, rfl, rfl⟩)

/-- A move request is refused and changes nothing, starts a move, or starts one of length zero,
which is done at once. -/
theorem motionControllerRequestMove_cases (s : Sensors F) (kind : MotionState) (sl sr : Int)
    (dist speed : F) (now : UInt32) (c : Ctrl F) :
    let p := motionControllerRequestMove s kind sl sr dist speed now c
    (p.1 ≠ .ok ∧ p.2 = c) ∨
    (p.1 = .ok ∧ c.state = .idle ∧ c.busy = false ∧ c.brakePending = false ∧
      ((p.2.sink = c.sink ++ [⟨nextId c.cmdId, .done, .none, false⟩] ∧
        p.2.chart = { c.chart with state := .complete, cmdId := nextId c.cmdId }) ∨
      (p.2.sink = c.sink ∧
        p.2.chart = { c.chart with state := kind, cmdId := nextId c.cmdId }))) := by
  unfold motionControllerRequestMove
  dsimp only
  split_ifs with hf hb ha hz
  · exact .inl ⟨by simp, rfl⟩
  · exact .inl ⟨by simp, rfl⟩
  · exact .inl ⟨by simp, rfl⟩
  · simp only [not_or, Bool.not_eq_true, not_not] at hb
    exact .inr ⟨rfl, hb.2.2, hb.1, hb.2.1, .inl ⟨rfl, rfl⟩⟩
  · simp only [not_or, Bool.not_eq_true, not_not] at hb
    exact .inr ⟨rfl, hb.2.2, hb.1, hb.2.1, .inr ⟨rfl, rfl⟩⟩

/-- **Every call is a transition of the chart**, except a lease timeout without a running
command. -/
theorem Call.refines (c : Ctrl F) (call : Call F)
    (h : call = .navigationTimeout → isActive c.state) :
    Refines c (call.cause c) (call.apply c) := by
  cases call with
  | requestVelocity s l r now =>
    simp only [cause, apply]
    obtain ⟨hr, he⟩ | ⟨hr, hv, hp, hs, he⟩ | ⟨hr, hi, hb, hp, hs, he⟩ :=
      motionControllerRequestVelocity_cases s l r now c
    · rw [if_neg fun h => hr h.1]
      exact .stay (by decide) (by rw [he]) (by rw [he])
    · rw [if_neg (by simp [hv])]
      exact .stay (by decide) hs he
    · rw [if_pos ⟨hr, hi⟩]
      exact ⟨[], by simpa using hs, he ▸ .accept .velocity hi hp rfl⟩
  | requestMove s kind sl sr dist speed now =>
    simp only [cause, apply]
    have hk : isActive kind.state := by cases kind <;> rfl
    obtain ⟨hr, he⟩ | ⟨hr, hi, hb, hp, ⟨hs, he⟩ | ⟨hs, he⟩⟩ :=
      motionControllerRequestMove_cases s kind.state sl sr dist speed now c
    · rw [if_neg hr]
      exact .stay (by decide) (by rw [he]) (by rw [he])
    · rw [if_pos hr]
      exact ⟨_, hs, he ▸ .acceptDone hi hp⟩
    · rw [if_pos hr]
      exact ⟨[], by simpa using hs, he ▸ .accept kind.state hi hp hk⟩
  | reset =>
    simp only [cause, apply]
    obtain ⟨h, he⟩ | ⟨h, he⟩ := motionControllerReset_cases c
    · rw [if_pos h, he]
      exact ⟨[], by simp, .clear h.1⟩
    · rw [if_neg h, he]
      exact .stay (by decide) rfl rfl
  | stop => exact motionControllerStop_refines c
  | cancel id => exact motionControllerCancel_refines id c
  | poll => exact motionControllerPoll_refines c
  | ackComplete id => exact motionControllerAckComplete_refines id c
  | navigationTimeout =>
    exact raiseFaults_refines (h rfl) ⟨rfl, bothBraked c.motor, rfl⟩ (by decide)
  | makeSafe => exact motionControllerMakeSafe_refines c
  | step s dt now => exact motionControllerStep_refines s dt now c
  | calibrationBegin => exact ⟨[], by simp [apply, motionControllerSetBusy], .calibrationBegin⟩
  | calibrationDrive =>
    simp only [cause, apply]
    split
    · rename_i hb
      exact ⟨[], by simp, .calibrationDrive _ hb⟩
    · exact .stay (by decide) rfl rfl
  | calibrationEnd =>
    refine ⟨[], by simp [apply, motionControllerSetBusy], ?_⟩
    have he : (Call.calibrationEnd.apply c).chart =
        { c.chart with busy := false, braked := true } := by
      simp [apply, motionControllerSetBusy, Ctrl.chart]
    exact he ▸ .calibrationEnd

end RoboticCar.Motion
