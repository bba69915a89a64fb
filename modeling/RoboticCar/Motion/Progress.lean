import RoboticCar.Motion.Odometry

/-!
# The progress of a move

Every control step takes the modular difference of the counts to those at the start of the move,
which is exact within half the range of the 20-bit counter, 42.5 m.  A request is only held against
a time limit of 600 s, which at full speed admits 158 m.

`Journey` is the controller with the position of the wheels.  `progress_true_iff` says for which
journeys the progress is true and the move ends at the requested distance; `drive_passes_by` is one
of 100 m that does not.
-/

namespace RoboticCar.Motion

open Lib CFloat

variable {F : Type}

/-! ## What a running move keeps -/

structure MoveData (F : Type) where
  turn : Bool
  back : Wheels Bool
  start : Wheels UInt32
  distM : F
  leadDriveM : F
  leadTurnM : F

def Ctrl.move (c : Ctrl F) : MoveData F :=
  ⟨c.mvTurn, c.mvBack, c.mvStart, c.mvDistM, c.leadDriveM, c.leadTurnM⟩

section Kept

variable [CFloat F]

theorem trackStill_move (s : Sensors F) (dtMs : UInt32) (c : Ctrl F) :
    (trackStill s dtMs c).move = c.move ∧ (trackStill s dtMs c).state = c.state ∧
      (trackStill s dtMs c).busy = c.busy ∧
      (trackStill s dtMs c).mvDeadlineUs = c.mvDeadlineUs := by
  unfold trackStill trackGlitches
  dsimp only
  split
  · split <;> exact ⟨rfl, rfl, rfl, rfl⟩
  · exact ⟨rfl, rfl, rfl, rfl⟩

theorem moveStep_move (s : Sensors F) (dtS : F) (c : Ctrl F) :
    (moveStep s dtS c).2.move = c.move ∧ (moveStep s dtS c).2.state = c.state := by
  unfold moveStep
  dsimp only
  split <;> exact ⟨rfl, rfl⟩

theorem stepChecks_move (s : Sensors F) (dtMs : UInt32) (done : Bool) (c : Ctrl F) :
    (stepChecks s dtMs done c).move = c.move := by
  unfold stepChecks
  dsimp only
  split_ifs <;> rfl

theorem stepChecks_done (s : Sensors F) (dtMs : UInt32) (c : Ctrl F) :
    (stepChecks s dtMs true c).state = .fault ∨ (stepChecks s dtMs true c).state = .complete := by
  unfold stepChecks
  dsimp only
  split_ifs with hfault hdone
  · exact .inl rfl
  · exact .inr rfl
  · exact absurd rfl hdone

theorem motionControllerStep_move (s : Sensors F) (dtS : F) (now : UInt32) (c : Ctrl F) :
    (motionControllerStep s dtS now c).move = c.move := by
  unfold motionControllerStep
  dsimp only
  generalize toUInt32 (dtS * lit 1000 + lit (1 / 2)) = dtMs
  obtain ⟨hmove, -⟩ := trackStill_move s dtMs c
  generalize trackStill s dtMs c = c₁ at hmove
  rw [← hmove]
  split
  · rfl
  · split
    · split
      · rfl
      · exact stepChecks_move ..
    iterate 2
      · split
        · rfl
        · exact (stepChecks_move ..).trans (moveStep_move ..).1
    all_goals rfl

theorem Call.apply_move {c : Ctrl F} (k : Call F) (h : c.state = .drive ∨ c.state = .turn) :
    (k.apply c).move = c.move := by
  cases k with
  | requestVelocity =>
    simp only [apply, motionControllerRequestVelocity]
    rcases h with h | h <;> simp [h]
  | requestMove =>
    simp only [apply, motionControllerRequestMove]
    rcases h with h | h <;> simp [h]
  | stop =>
    simp only [apply, motionControllerStop]
    split_ifs <;> rfl
  | cancel =>
    simp only [apply, motionControllerCancel, motionControllerStop]
    split_ifs <;> rfl
  | reset =>
    simp only [apply, motionControllerReset]
    split_ifs <;> rfl
  | poll =>
    simp only [apply, motionControllerPoll]
    split_ifs <;> rfl
  | ackComplete =>
    simp only [apply, motionControllerAckComplete]
    split_ifs <;> rfl
  | navigationTimeout | calibrationBegin | calibrationEnd => rfl
  | makeSafe =>
    simp only [apply, motionControllerMakeSafe]
    split_ifs <;> rfl
  | step s dt now => exact motionControllerStep_move s dt now c
  | calibrationDrive =>
    simp only [apply]
    split_ifs <;> rfl

end Kept

/-! ## Journeys -/

/-- The controller and the position of the wheels at the last sample. -/
structure Journey where
  ctl : Ctrl ℚ
  position : Wheels Int

/-- A call whose sample, if it takes one, reads the wheels at a position. -/
def Call.at (k : Call F) (q : Wheels Int) : Call F :=
  match k with
  | .step s dt now => .step (s.at q) dt now
  | k => k

namespace Journey

/-- One call while the wheels are at `i.2`; a control step takes a sample. -/
def call (j : Journey) (i : Call ℚ × Wheels Int) : Journey :=
  ⟨(i.1.at i.2).apply j.ctl,
    match i.1 with
    | .step .. => i.2
    | _ => j.position⟩

/-- The journey of a move that was requested at the position `p`. -/
def start (c : Ctrl ℚ) (x : Sensors ℚ) (p : Wheels Int) (kind : MoveKind) (sl sr : Int)
    (dist speed : ℚ) (now : UInt32) : Journey :=
  ⟨(motionControllerRequestMove (x.at p) kind.state sl sr dist speed now c).2, p⟩

def Underway (kind : MoveKind) (j : Journey) (_ : Call ℚ × Wheels Int) : Prop :=
  j.ctl.state = kind.state

/-- The distance that the wheels have really moved along their commanded directions, on average. -/
def travelled (sl sr : Int) (scale : ℚ) (p q : Wheels Int) : ℚ :=
  scale / 2 * ((if sl < 0 then -1 else 1) * ((q.left - p.left : Int) : ℚ) +
    (if sr < 0 then -1 else 1) * ((q.right - p.right : Int) : ℚ))

/-- The count differences are what the wheels moved, and the move ends at the requested distance. -/
def Tracked (kind : MoveKind) (sl sr : Int) (dist : ℚ) (p : Wheels Int) (j : Journey)
    (i : Call ℚ × Wheels Int) : Prop :=
  match i.1 with
  | .step s dt now =>
    j.ctl.busy = false →
      (∀ w, wheelEncoderDelta ((s.at i.2).bits.get w) (j.ctl.mvStart.get w) =
        i.2.get w - p.get w) ∧
      (dist ≤ travelled sl sr s.scale p i.2 →
        (motionControllerStep (s.at i.2) dt now j.ctl).state ≠ kind.state)
  | _ => True

/-- In a control step both wheels are within half the range of where they started. -/
def InRange (p : Wheels Int) (j : Journey) (i : Call ℚ × Wheels Int) : Prop :=
  match i.1 with
  | .step .. =>
    j.ctl.busy = false →
      ∀ w, -2 ^ 19 ≤ i.2.get w - p.get w ∧ i.2.get w - p.get w < 2 ^ 19
  | _ => True

/-- The data of a move from `p`. -/
structure From (sl sr : Int) (dist : ℚ) (p : Wheels Int) (m : MoveData ℚ) : Prop where
  back : m.back = ⟨decide (sl < 0), decide (sr < 0)⟩
  start : m.start = ⟨bitsAt p.left &&& 0xFFFFF, bitsAt p.right &&& 0xFFFFF⟩
  distM : m.distM = dist
  leadDriveM : 0 ≤ m.leadDriveM
  leadTurnM : 0 ≤ m.leadTurnM

theorem bitsAt_and_mask (q : Int) : bitsAt q &&& 0xFFFFF = bitsAt q := by
  apply UInt32.toNat_inj.1
  have hbits := toNat_bitsAt q
  have hmask : (bitsAt q &&& 0xFFFFF).toNat = (bitsAt q).toNat % 2 ^ 20 := by
    rw [UInt32.toNat_and]
    exact Nat.and_two_pow_sub_one_eq_mod _ 20
  omega

theorem wheelEncoderDelta_eq_iff {p q : Int} :
    wheelEncoderDelta (bitsAt q) (bitsAt p) = q - p ↔ -2 ^ 19 ≤ q - p ∧ q - p < 2 ^ 19 := by
  have hp := toNat_bitsAt p
  have hq := toNat_bitsAt q
  have hsub : (bitsAt q - bitsAt p).toNat =
      (2 ^ 32 - (bitsAt p).toNat + (bitsAt q).toNat) % 2 ^ 32 :=
    UInt32.toNat_sub _ _
  unfold wheelEncoderDelta countFromBits
  dsimp only
  split_ifs <;> omega

variable {kind : MoveKind} {sl sr : Int} {dist : ℚ} {p : Wheels Int}

/-- With exact differences, the way to the brake point is what is left of the requested distance,
less the lead. -/
theorem moveToBrake_le {c : Ctrl ℚ} (hc : From sl sr dist p c.move) {s : Sensors ℚ}
    {q : Wheels Int}
    (hexact : ∀ w, wheelEncoderDelta ((s.at q).bits.get w) (c.mvStart.get w) = q.get w - p.get w)
    : moveToBrake (s.at q) c ≤ dist - travelled sl sr s.scale p q := by
  have hback : c.mvBack = ⟨decide (sl < 0), decide (sr < 0)⟩ := hc.back
  have hdist : c.mvDistM = dist := hc.distM
  have hlead : 0 ≤ if c.mvTurn then c.leadTurnM else c.leadDriveM := by
    split
    · exact hc.leadTurnM
    · exact hc.leadDriveM
  have hleft := hexact .left
  have hright := hexact .right
  have hsum : lit (1 / 2) * (moveWheelProgress (s.at q) c .left +
      moveWheelProgress (s.at q) c .right) = travelled sl sr s.scale p q := by
    unfold moveWheelProgress
    rw [hleft, hright]
    simp only [mvSign, hback, Wheels.get, travelled, decide_eq_true_eq, CFloat.lit, ofInt,
      Sensors.at]
    ring
  unfold moveToBrake
  rw [hsum, hdist]
  linarith

/-- A move past its target ends. -/
theorem step_ends {c : Ctrl ℚ} (hc : From sl sr dist p c.move) (hstate : c.state = kind.state)
    (hbusy : c.busy = false) {s : Sensors ℚ} {q : Wheels Int} {dt : ℚ} {now : UInt32}
    (hexact : ∀ w, wheelEncoderDelta ((s.at q).bits.get w) (c.mvStart.get w) = q.get w - p.get w)
    (hfar : dist ≤ travelled sl sr s.scale p q) :
    (motionControllerStep (s.at q) dt now c).state ≠ kind.state := by
  have hends : ∀ c' : Ctrl ℚ, c'.state = .fault ∨ c'.state = .complete →
      c'.state ≠ kind.state := by
    intro c' h
    rcases h with h | h <;> rw [h] <;> cases kind <;> decide
  unfold motionControllerStep
  dsimp only
  generalize toUInt32 (dt * lit 1000 + lit (1 / 2)) = dtMs
  obtain ⟨hmove, hstate₁, hbusy₁, -⟩ := trackStill_move (s.at q) dtMs c
  generalize trackStill (s.at q) dtMs c = c₁ at *
  have hstart : c₁.mvStart = c.mvStart := congrArg MoveData.start hmove
  have hbrake : moveStep (s.at q) dt c₁ = (true, c₁) := by
    have hle : moveToBrake (s.at q) c₁ ≤ 0 := by
      refine (moveToBrake_le (hmove ▸ hc) (hstart ▸ hexact)).trans ?_
      linarith
    exact if_pos (decide_eq_true hle)
  rw [hbusy₁, hbusy, if_neg Bool.false_ne_true, hstate₁, hstate]
  cases kind with
  | drive | turn =>
    dsimp only [MoveKind.state]
    split
    · exact hends _ (.inl rfl)
    · rw [hbrake]
      exact hends _ (stepChecks_done ..)

theorem tracked_iff {j : Journey} (hj : From sl sr dist p j.ctl.move)
    {i : Call ℚ × Wheels Int} (hstate : Underway kind j i) :
    Tracked kind sl sr dist p j i ↔ InRange p j i := by
  unfold Tracked InRange
  split
  · rename_i s dt now _
    have hexact : ∀ w, wheelEncoderDelta ((s.at i.2).bits.get w) (j.ctl.mvStart.get w) =
        i.2.get w - p.get w ↔ -2 ^ 19 ≤ i.2.get w - p.get w ∧ i.2.get w - p.get w < 2 ^ 19 := by
      intro w
      have hstart : j.ctl.mvStart = ⟨bitsAt p.left &&& 0xFFFFF, bitsAt p.right &&& 0xFFFFF⟩ :=
        hj.start
      rw [hstart, bitsAt_and_mask, bitsAt_and_mask]
      cases w <;> exact wheelEncoderDelta_eq_iff
    simp only [← hexact]
    constructor
    · intro h hbusy
      exact (h hbusy).1
    · intro h hbusy
      exact ⟨h hbusy, step_ends hj hstate hbusy (h hbusy)⟩
  · exact Iff.rfl

/-- A call keeps the move's origin. -/
theorem From.call {j : Journey} (hj : From sl sr dist p j.ctl.move) (i : Call ℚ × Wheels Int)
    (hstate : Underway kind j i) : From sl sr dist p (j.call i).ctl.move := by
  have hmove : (j.call i).ctl.move = j.ctl.move := by
    apply Call.apply_move
    rw [hstate]
    cases kind
    · exact .inl rfl
    · exact .inr rfl
  rwa [hmove]

theorem from_start {c : Ctrl ℚ} {x : Sensors ℚ} {speed : ℚ} {now : UInt32}
    (hdrive : 0 ≤ c.leadDriveM) (hturn : 0 ≤ c.leadTurnM)
    (hok : (motionControllerRequestMove (x.at p) kind.state sl sr dist speed now c).1 = .ok) :
    From sl sr dist p (start c x p kind sl sr dist speed now).ctl.move := by
  unfold start
  unfold motionControllerRequestMove at hok ⊢
  dsimp only at hok ⊢
  split_ifs at hok ⊢ <;> exact ⟨rfl, rfl, rfl, hdrive, hturn⟩

/-- **When the progress of a move is true.**  The count differences of an accepted move are what the
wheels moved, and it ends no later than at the requested distance, exactly when at every control
step both wheels are within half their range of where they started. -/
theorem progress_true_iff (c : Ctrl ℚ) (x : Sensors ℚ) (p : Wheels Int) (kind : MoveKind)
    (sl sr : Int) (dist speed : ℚ) (now : UInt32) (hdrive : 0 ≤ c.leadDriveM)
    (hturn : 0 ≤ c.leadTurnM)
    (hok : (motionControllerRequestMove (x.at p) kind.state sl sr dist speed now c).1 = .ok)
    (l : List (Call ℚ × Wheels Int))
    (hl : Run.Meets call (Underway kind) (start c x p kind sl sr dist speed now) l) :
    Run.Meets call (Tracked kind sl sr dist p) (start c x p kind sl sr dist speed now) l ↔
      Run.Meets call (InRange p) (start c x p kind sl sr dist speed now) l := by
  have hstart := from_start (p := p) hdrive hturn hok
  generalize start c x p kind sl sr dist speed now = j at hl hstart
  induction l generalizing j with
  | nil => exact Iff.rfl
  | cons i l ih =>
    exact and_congr (tracked_iff hstart hl.1) (ih _ hl.2 (hstart.call i hl.1))

instance (kind : MoveKind) (j : Journey) (i : Call ℚ × Wheels Int) :
    Decidable (Underway kind j i) :=
  inferInstanceAs (Decidable (_ = _))

/-- Each wheel moves fewer than `2 ^ 19` counts from one sample to the next. -/
def Close (j : Journey) (i : Call ℚ × Wheels Int) : Prop :=
  match i.1 with
  | .step .. => |i.2.left - j.position.left| < 2 ^ 19 ∧ |i.2.right - j.position.right| < 2 ^ 19
  | _ => True

instance (j : Journey) (i : Call ℚ × Wheels Int) : Decidable (Close j i) := by
  unfold Close
  split <;> infer_instance

/-- `m_per_count(ENCODER_COUNTS_PER_REV)`: the circumference of a wheel of 65.4 mm over 2534
counts. -/
def robotScale : ℚ := 314159265 / 100000000 * (654 / 10000) / 2534

def robotSensors : Sensors ℚ := ⟨⟨0, 0⟩, ⟨0, 0⟩, ⟨7 / 10, 7 / 10⟩, ⟨0, 0⟩, robotScale⟩

/-- The controller as `motion_init` leaves it. -/
def robotCtrl : Ctrl ℚ := motionControllerInit robotSensors (884 / 1000) 0 0 .boot

def robotDrive (dist : ℚ) : Journey :=
  start robotCtrl robotSensors ⟨0, 0⟩ .drive 1 1 dist (7 / 10) 0

/-- A control step at the time `now` with both wheels at `q`. -/
def robotStep (now : UInt32) (q : Int) : Call ℚ × Wheels Int :=
  (.step robotSensors (2 / 100) now, ⟨q, q⟩)

theorem inRange_step {p : Wheels Int} {j : Journey} {now : UInt32} {q : Int}
    (hleft : -2 ^ 19 ≤ q - p.left ∧ q - p.left < 2 ^ 19)
    (hright : -2 ^ 19 ≤ q - p.right ∧ q - p.right < 2 ^ 19) : InRange p j (robotStep now q) := by
  intro _ w
  cases w
  · exact hleft
  · exact hright

/-- A DRIVE of 2 m is tracked to its end. -/
theorem progress_true_bench :
    let l := [robotStep 20000 10000, robotStep 40000 20000, robotStep 60000 24700]
    Run.Meets call (Tracked .drive 1 1 2 ⟨0, 0⟩) (robotDrive 2) l ∧
      (l.foldl call (robotDrive 2)).ctl.state = .complete := by
  intro l
  refine ⟨(progress_true_iff robotCtrl robotSensors ⟨0, 0⟩ .drive 1 1 2 (7 / 10) 0
    (by decide +kernel) (by decide +kernel) (by decide +kernel) l (by decide +kernel)).2 ?_,
    by decide +kernel⟩
  refine ⟨inRange_step ?_ ?_, inRange_step ?_ ?_, inRange_step ?_ ?_, trivial⟩ <;> decide

/-- A DRIVE of 100 m is accepted, and 105 m later the car still drives: the counters have wrapped,
and by the count difference it has come 20 m. -/
theorem drive_passes_by :
    let l := [robotStep 20000 400000, robotStep 40000 800000, robotStep 60000 1200000,
      robotStep 80000 1300000]
    (motionControllerRequestMove (robotSensors.at ⟨0, 0⟩) .drive 1 1 100 (7 / 10) 0
        robotCtrl).1 = .ok ∧
      Run.Meets call (Underway .drive) (robotDrive 100) l ∧
      Run.Meets call Close (robotDrive 100) l ∧
      (l.foldl call (robotDrive 100)).ctl.state = .drive ∧
      105 ≤ travelled 1 1 robotScale ⟨0, 0⟩ ⟨1300000, 1300000⟩ ∧
      ¬Run.Meets call (Tracked .drive 1 1 100 ⟨0, 0⟩) (robotDrive 100) l := by
  intro l
  refine ⟨by decide +kernel, by decide +kernel, by decide +kernel, by decide +kernel,
    by decide +kernel, ?_⟩
  intro h
  have hleft := (h.2.1 (by decide +kernel)).1 .left
  exact absurd hleft (by decide +kernel)

end Journey

end RoboticCar.Motion
