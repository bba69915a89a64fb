import RoboticCar.Motion.Statechart

/-!
# Safety of the motion statechart

Stops and requests only change the statechart; the motors follow when the motion task runs.
Meanwhile `Chart.Safe` holds: FAULT is the state with latched fault bits, a pending brake excludes
an active state, and a driven motor is accounted for by an active state, a pending brake or a
calibration.  `motion_safety` states it for every sequence of calls.
-/

namespace RoboticCar.Motion

open Lib CFloat

/-! ## The invariant of the chart -/

structure Chart.Safe (s : Chart) : Prop where
  fault_iff : s.state = .fault ↔ s.faultBits ≠ 0
  pending : s.brakePending = true → isActive s.state = false
  driven : s.braked = false → isActive s.state = true ∨ s.brakePending = true ∨ s.busy = true

theorem isActive_fault : isActive .fault = false := rfl

theorem ne_fault_of_isActive {s : MotionState} (h : isActive s) : s ≠ .fault := by
  rintro rfl
  simp [isActive_fault] at h

theorem latch_ne_zero {bits : UInt8} (h : bits &&& 0x1F ≠ 0) (old : UInt8) :
    (old ||| bits) &&& 0x1F ≠ 0 := by
  intro h0
  apply h
  have h1 : (old.toBitVec ||| bits.toBitVec) &&& 0x1F#8 = 0#8 := congrArg UInt8.toBitVec h0
  rw [BitVec.and_or_distrib_right, BitVec.or_eq_zero_iff] at h1
  exact UInt8.eq_of_toBitVec_eq h1.2

namespace Chart.Safe

variable {s s' : Chart}

theorem safe_fault (s : Chart) {bits : UInt8} (hb : bits &&& 0x1F ≠ 0) :
    Chart.Safe { s.safe with state := .fault, faultBits := (s.faultBits ||| bits) &&& 0x1F } where
  fault_iff := by simp [latch_ne_zero hb]
  pending := by simp [safe]
  driven := by simp [safe]

/-- Every transition is safe. -/
theorem step {k : Cause} {reports : List MotionReport} (h : s.Safe)
    (hs : Chart.Step s k reports s') : s'.Safe := by
  obtain ⟨hf, hp, hd⟩ := h
  -- an active state is not FAULT, so its fault bits are empty
  have hbits : s.state ≠ .fault → s.faultBits = 0 := by
    intro hn
    by_contra h0
    exact hn (hf.mpr h0)
  cases hs with
  | stay => exact ⟨hf, hp, hd⟩
  | run braked ha => exact ⟨hf, hp, fun _ => .inl ha⟩
  | brake => exact ⟨hf, by simp [safe], by simp [safe]⟩
  | fault bits ha hb => exact safe_fault s hb
  | done ha =>
    have h0 := hbits (ne_fault_of_isActive ha)
    exact ⟨by simp [safe, h0], by simp [safe], by simp [safe]⟩
  | accept kind hi hb hk =>
    have h0 := hbits (by simp [hi])
    exact ⟨by simp [h0, ne_fault_of_isActive hk], by simp [hb], fun _ => .inl hk⟩
  | acceptDone hi hb =>
    have h0 := hbits (by simp [hi])
    refine ⟨by simp [h0], by simp [hb], fun hbr => ?_⟩
    simpa [hi, hb, isActive] using hd hbr
  | cancel ha =>
    have h0 := hbits (ne_fault_of_isActive ha)
    exact ⟨by simp [h0], by simp [isActive], by simp⟩
  | settle hc =>
    have h0 := hbits (by simp [hc])
    refine ⟨by simp [h0], by simp [isActive], fun hbr => ?_⟩
    simpa [hc, isActive] using hd hbr
  | clear hc =>
    refine ⟨by simp, by simp [isActive], fun hbr => ?_⟩
    simpa [hc, isActive] using hd hbr
  | calibrationBegin | calibrationEnd => exact ⟨hf, hp, by simp⟩
  | calibrationDrive braked hb => exact ⟨hf, hp, fun _ => .inr (.inr hb)⟩

end Chart.Safe

/-- Only a reset leaves the fault state. -/
theorem Chart.Step.leaves_fault {s s' : Chart} {k : Cause} {reports : List MotionReport}
    (hs : Chart.Step s k reports s') (hf : s.state = .fault) (hf' : s'.state ≠ .fault) :
    k = .cleared := by
  cases hs with
  | clear => rfl
  | stay | calibrationBegin | calibrationDrive | calibrationEnd | brake => exact absurd hf hf'
  | fault => exact absurd rfl hf'
  | run braked ha | done ha | cancel ha => exact absurd hf (ne_fault_of_isActive ha)
  | accept kind hi | acceptDone hi | settle hi => simp [hi] at hf

/-- Only the task ends a pending brake. -/
theorem Chart.Step.ends_pending {s s' : Chart} {k : Cause} {reports : List MotionReport}
    (hs : Chart.Step s k reports s') (hp : s.brakePending)
    (hp' : s'.brakePending = false) : k = .task ∧ s'.braked := by
  cases hs with
  | brake | fault | done => exact ⟨rfl, rfl⟩
  | stay | run | settle | clear | calibrationBegin | calibrationDrive | calibrationEnd =>
    simp [hp] at hp'
  | accept kind hi h | acceptDone hi h => simp [hp] at h
  | cancel => simp at hp'

/-! ## The calls keep it -/

variable {F : Type}

theorem Chart.Safe.stopped {c : Ctrl F} (h : c.chart.Safe)
    (hs : motionControllerIsStopped c) : bothBraked c.motor := by
  simp only [motionControllerIsStopped, Bool.and_eq_true, Bool.not_eq_true', decide_eq_true_eq]
    at hs
  obtain ⟨⟨⟨ha, hb⟩, hp⟩, -⟩ := hs
  by_contra hbr
  have hd : isActive c.state = true ∨ c.brakePending = true ∨ c.busy = true :=
    h.driven (by simpa [Ctrl.chart] using hbr)
  simp [ha, hb, hp] at hd

variable [CFloat F]

theorem motionControllerNavigationTimeout_chart (c : Ctrl F) :
    (motionControllerNavigationTimeout c).chart = { c.chart.safe with
      state := .fault, faultBits := (c.faultBits ||| motionFaultBit .staleCommand) &&& 0x1F } :=
  raiseFaults_chart _ c

theorem Call.apply_safe (c : Ctrl F) (call : Call F) (h : c.chart.Safe) :
    (call.apply c).chart.Safe := by
  by_cases hn : call = .navigationTimeout
  · subst hn
    simp only [apply, motionControllerNavigationTimeout_chart]
    have hb : motionFaultBit .staleCommand &&& 0x1F ≠ 0 := by decide
    exact Chart.Safe.safe_fault c.chart hb
  · obtain ⟨reports, -, hs⟩ := call.refines c fun e => absurd e hn
    exact h.step hs

theorem motionControllerInit_safe (s : Sensors F) (maxSpeed leadDrive leadTurn : F)
    (c : Ctrl F) : (motionControllerInit s maxSpeed leadDrive leadTurn c).chart.Safe := by
  unfold motionControllerInit
  rw [outputsSafe_chart]
  exact ⟨by simp [Chart.safe, Ctrl.chart], by simp [Chart.safe], by simp [Chart.safe]⟩

theorem Call.leaves_fault (c : Ctrl F) (call : Call F) (hf : c.state = .fault)
    (hf' : (call.apply c).state ≠ .fault) :
    call = .reset ∧ (motionControllerReset c).1 = true := by
  have hn : call ≠ .navigationTimeout := by
    rintro rfl
    exact hf' (congrArg Chart.state (motionControllerNavigationTimeout_chart c))
  obtain ⟨reports, -, hs⟩ := call.refines c fun e => absurd e hn
  have hk := hs.leaves_fault hf hf'
  cases call with
  | reset =>
    simp only [cause] at hk
    split at hk
    · rename_i h
      exact ⟨rfl, h.2⟩
    · cases hk
  | requestVelocity | requestMove =>
    simp only [cause] at hk
    split at hk <;> cases hk
  | _ => cases hk

theorem Call.ends_pending (c : Ctrl F) (call : Call F) (hp : c.brakePending)
    (hp' : (call.apply c).brakePending = false) :
    call.cause c = .task ∧ bothBraked (call.apply c).motor = true := by
  by_cases hn : call = .navigationTimeout
  · subst hn
    exact ⟨rfl, congrArg Chart.braked (motionControllerNavigationTimeout_chart c)⟩
  · obtain ⟨reports, -, hs⟩ := call.refines c fun e => absurd e hn
    exact hs.ends_pending hp hp'

theorem motionControllerRequestVelocity_pending (s : Sensors F) (l r : F) (now : UInt32)
    {c : Ctrl F} (hp : c.brakePending) :
    (motionControllerRequestVelocity s l r now c).1 ≠ .ok ∧
      (motionControllerRequestVelocity s l r now c).2 = c := by
  obtain h | ⟨-, -, h, -⟩ | ⟨-, -, -, h, -⟩ := motionControllerRequestVelocity_cases s l r now c
  · exact h
  · simp [hp] at h
  · simp [hp] at h

theorem motionControllerRequestMove_pending (s : Sensors F) (kind : MotionState) (sl sr : Int)
    (dist speed : F) (now : UInt32) {c : Ctrl F} (hp : c.brakePending) :
    (motionControllerRequestMove s kind sl sr dist speed now c).1 ≠ .ok ∧
      (motionControllerRequestMove s kind sl sr dist speed now c).2 = c := by
  obtain h | ⟨-, -, -, h, -⟩ := motionControllerRequestMove_cases s kind sl sr dist speed now c
  · exact h
  · simp [hp] at h

/-- **Motion safety.**  FAULT is the state with latched fault bits, left only by a successful reset;
a pending brake excludes active states and requests, and only the motion task ends it; a driven
motor means an active state, a pending brake or a calibration. -/
theorem motion_safety (s₀ : Sensors F) (maxSpeed leadDrive leadTurn : F) (c₀ : Ctrl F)
    (calls : List (Call F)) :
    let c := calls.foldl Call.apply (motionControllerInit s₀ maxSpeed leadDrive leadTurn c₀)
    (c.state = .fault ↔ c.faultBits ≠ 0) ∧
    (c.brakePending = true →
      isActive c.state = false ∧
      (∀ s l r now, (motionControllerRequestVelocity s l r now c).1 ≠ .ok ∧
        (motionControllerRequestVelocity s l r now c).2 = c) ∧
      (∀ s kind sl sr dist speed now,
        (motionControllerRequestMove s kind sl sr dist speed now c).1 ≠ .ok ∧
        (motionControllerRequestMove s kind sl sr dist speed now c).2 = c) ∧
      ∀ call : Call F, (call.apply c).brakePending = false →
        call.cause c = .task ∧ bothBraked (call.apply c).motor = true) ∧
    (bothBraked c.motor = false →
      isActive c.state = true ∨ c.brakePending = true ∨ c.busy = true) ∧
    (motionControllerIsStopped c = true → bothBraked c.motor = true) ∧
    (∀ call : Call F, c.state = .fault → (call.apply c).state ≠ .fault →
      call = .reset ∧ (motionControllerReset c).1 = true) := by
  intro c
  have h : c.chart.Safe :=
    Run.invariant (I := fun c : Ctrl F => c.chart.Safe) Call.apply_safe
      (motionControllerInit_safe s₀ maxSpeed leadDrive leadTurn c₀) calls
  refine ⟨h.fault_iff, fun hp => ⟨h.pending hp, ?_, ?_, ?_⟩, h.driven, h.stopped, ?_⟩
  · exact fun s l r now => motionControllerRequestVelocity_pending s l r now hp
  · exact fun s kind sl sr dist speed now =>
      motionControllerRequestMove_pending s kind sl sr dist speed now hp
  · exact fun call => call.ends_pending c hp
  · exact fun call => call.leaves_fault c

end RoboticCar.Motion
