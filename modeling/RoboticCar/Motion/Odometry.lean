import RoboticCar.Motion.System

/-!
# Two ways to measure the distance

The encoders count in 20 bits.  `motion_estimation_robot_distance` takes the counts sign extended;
`motion_process` adds up the modular difference of each sample to the one before.  The differences
are exact (`wheelEncoderDelta_bitsAt`), while the count falls back by the whole range at each odd
multiple of half of it (`countFromBits_bitsAt`).

`odometry_agrees_iff`: the two agree between two samples of an epoch exactly when the wheels have
together passed the wrap a net number of zero times.
-/

namespace RoboticCar.Motion

open Lib CFloat Front

/-- `wheel_encoder_bits` of a wheel that has turned by `q` edges since power-up. -/
def bitsAt (q : Int) : UInt32 := UInt32.ofNat (q % 2 ^ 20).toNat

/-- How often the counter has wrapped on the way to `q`, upwards counted positive. -/
def wraps (q : Int) : Int := (q + 2 ^ 19) / 2 ^ 20

theorem toNat_bitsAt (q : Int) : ((bitsAt q).toNat : Int) = q % 2 ^ 20 := by
  rw [bitsAt, UInt32.toNat_ofNat']
  omega

theorem countFromBits_bitsAt (q : Int) : countFromBits (bitsAt q) = q - 2 ^ 20 * wraps q := by
  have hbits := toNat_bitsAt q
  unfold countFromBits wraps
  dsimp only
  split_ifs <;> omega

/-- A short move is measured exactly. -/
theorem wheelEncoderDelta_bitsAt {p q : Int} (h : |q - p| < 2 ^ 19) :
    wheelEncoderDelta (bitsAt q) (bitsAt p) = q - p := by
  have hp := toNat_bitsAt p
  have hq := toNat_bitsAt q
  have hsub : (bitsAt q - bitsAt p).toNat =
      (2 ^ 32 - (bitsAt p).toNat + (bitsAt q).toNat) % 2 ^ 32 :=
    UInt32.toNat_sub _ _
  rw [abs_lt] at h
  unfold wheelEncoderDelta countFromBits
  dsimp only
  split_ifs <;> omega

section Distance

variable {F : Type} [CFloat F]

def motionEstimationWheelDistance (s : Sensors F) (w : Wheel) : F :=
  ofInt (countFromBits (s.bits.get w)) * s.scale

def motionEstimationRobotDistance (s : Sensors F) : F :=
  lit (1 / 2) * (motionEstimationWheelDistance s .left + motionEstimationWheelDistance s .right)

end Distance

/-- The counts of both wheels, as `motionEstimationRobotDistance` takes them. -/
def countSum {F : Type} (s : Sensors F) : Int :=
  countFromBits s.bits.left + countFromBits s.bits.right

/-- The modular differences of the wheels to the sample before. -/
def deltas {F D : Type} (m : Front F D) (s : Sensors F) : Wheels Int :=
  ⟨wheelEncoderDelta s.bits.left m.feedbackCount.left,
    wheelEncoderDelta s.bits.right m.feedbackCount.right⟩

/-- What `motion_process` makes of the distance with the scale and the differences of a sample. -/
def accumulate {F D : Type} [CFloat F] [CFloat D] [CDouble F D] (centre : D)
    (sample : F × Wheels Int) : D :=
  let moved (w : Wheel) : D :=
    lit (1 / 2) * ofInt (sample.2.get w) * CDouble.ofFloat sample.1
  centre + moved .left + moved .right

/-! ## The samples of a run -/

namespace Front

variable {F D : Type} (m : Front F D) (c : Ctrl F)

@[simp] theorem setCtl_sensors : (m.setCtl c).sensors = m.sensors :=
  foldl_reportPost sensors (fun m r => by unfold reportPost; dsimp only; split <;> rfl) _ _

@[simp] theorem setCtl_feedbackCount : (m.setCtl c).feedbackCount = m.feedbackCount :=
  foldl_reportPost feedbackCount (fun m r => by unfold reportPost; dsimp only; split <;> rfl) _ _

@[simp] theorem setCtl_centreM : (m.setCtl c).centreM = m.centreM :=
  foldl_reportPost centreM (fun m r => by unfold reportPost; dsimp only; split <;> rfl) _ _

/-- The odometry of two states is the same. -/
structure SameOdometry (m m' : Front F D) : Prop where
  sensors : m'.sensors = m.sensors
  feedbackCount : m'.feedbackCount = m.feedbackCount
  centreM : m'.centreM = m.centreM

variable {m}

theorem setCtl_sameOdometry (m : Front F D) (c : Ctrl F) : SameOdometry m (m.setCtl c) :=
  ⟨m.setCtl_sensors c, m.setCtl_feedbackCount c, m.setCtl_centreM c⟩

variable [CFloat F]

theorem request_sameOdometry (m : Front F D) (q : Request F) (now : UInt32) :
    SameOdometry m (m.request q now).2 := by
  have h := m.request_handed q now
  generalize m.request q now = p at h ⊢
  cases h with
  | refused => exact ⟨rfl, rfl, rfl⟩
  | velocity | move => exact setCtl_sameOdometry _ _

theorem leaseCheck_sameOdometry (m : Front F D) (now : UInt32) :
    SameOdometry m (m.leaseCheck now) := by
  unfold leaseCheck
  split_ifs
  · exact ⟨setCtl_sensors .., setCtl_feedbackCount .., setCtl_centreM ..⟩
  · exact ⟨rfl, rfl, rfl⟩

variable [CFloat D] [CDouble F D]

theorem control_sensors (m : Front F D) (x : Sensors F) (now elapsed : UInt32) :
    (m.control x now elapsed).sensors = x := by
  simp only [control, setCtl_sensors, (leaseCheck_sameOdometry _ now).sensors]

/-- The control block adds the differences of its sample to the distance. -/
theorem control_centreM (m : Front F D) (x : Sensors F) (now elapsed : UInt32) :
    (m.control x now elapsed).centreM = accumulate m.centreM (x.scale, deltas m x) := by
  have hlease := leaseCheck_sameOdometry { m with sensors := x, lastStepUs := now } now
  simp only [control, setCtl_feedbackCount, setCtl_centreM, hlease.feedbackCount, hlease.centreM,
    accumulate, deltas, Wheels.get]

end Front

namespace System

variable {F D : Type} [CFloat F] [CFloat D] [CDouble F D]

/-- What a block does to the odometry. -/
inductive Measures (s : System F D) : Act F → System F D → Prop
  | keeps {a : Act F} {s' : System F D} (h : s.front.SameOdometry s'.front) : Measures s a s'
  | samples (x : Sensors F) (now elapsed : UInt32) (h : s.pc = .checked now elapsed)
      (he : ¬elapsed < periodUs / 2) :
      Measures s (.step x) ⟨s.front.control x now elapsed, s.clock, .waiting⟩
  | restarts (x : Sensors F) (h : s.pc = .calibrating) :
      Measures s (.finish x) ⟨s.front.calibrationEnd x s.now, s.clock, .waiting⟩

theorem act_measures (s : System F D) (a : Act F) : s.Measures a (s.act a) := by
  have hsame : s.front.SameOdometry s.front := ⟨rfl, rfl, rfl⟩
  cases a with
  | tick => exact .keeps hsame
  | enter =>
    simp only [act]
    split <;> exact .keeps hsame
  | check =>
    rcases s.act_check_cases with h | ⟨_, _, _, ⟨_, h⟩ | ⟨_, h⟩⟩ <;> rw [h] <;>
      exact .keeps ⟨rfl, rfl, rfl⟩
  | spin w duty =>
    rcases s.act_spin_cases w duty with h | ⟨_, h⟩ <;> rw [h] <;> exact .keeps ⟨rfl, rfl, rfl⟩
  | finish x =>
    rcases s.act_finish_cases x with h | ⟨hpc, h⟩ <;> rw [h]
    · exact .keeps hsame
    · exact .restarts x hpc
  | step x =>
    rcases s.act_step_cases x with h | ⟨now, elapsed, hpc, ⟨_, h⟩ | ⟨he, h⟩⟩ <;> rw [h]
    · exact .keeps hsame
    · exact .keeps (setCtl_sameOdometry _ _)
    · exact .samples x now elapsed hpc he
  | request q => exact .keeps (request_sameOdometry _ q _)
  | stop =>
    refine .keeps ?_
    simp only [act, stop]
    split_ifs <;> exact ⟨setCtl_sensors .., setCtl_feedbackCount ..,
      setCtl_centreM ..⟩
  | cancel | reset | poll => exact .keeps (setCtl_sameOdometry _ _)
  | heartbeat => exact .keeps ⟨rfl, rfl, rfl⟩
  | requestCalibration =>
    refine .keeps ?_
    simp only [act, requestCalibration]
    split_ifs <;> exact ⟨rfl, rfl, rfl⟩
  | take =>
    refine .keeps ?_
    simp only [act, reportTake]
    split <;> exact ⟨rfl, rfl, rfl⟩
  | ack =>
    refine .keeps ?_
    simp only [act, reportAck]
    split_ifs
    · exact ⟨setCtl_sensors .., setCtl_feedbackCount .., setCtl_centreM ..⟩
    · exact ⟨rfl, rfl, rfl⟩

end System

/-! ## Agreement -/

def Sensors.at {F : Type} (x : Sensors F) (q : Wheels Int) : Sensors F :=
  { x with bits := ⟨bitsAt q.left, bitsAt q.right⟩ }

/-- A block whose sample, if it takes one, reads the wheels at a position. -/
def Act.at {F : Type} (a : Act F) (q : Wheels Int) : Act F :=
  match a with
  | .step x => .step (x.at q)
  | .finish x => .finish (x.at q)
  | a => a

/-- The subsystem with the true position of the wheels and the differences of every sample so far.
-/
structure Odometer (F D : Type) where
  sys : System F D
  position : Wheels Int
  samples : List (F × Wheels Int)

namespace Odometer

variable {F D : Type}

/-- The sum of the differences of both wheels. -/
def travel (o : Odometer F D) : Int := (o.samples.map fun s => s.2.left + s.2.right).sum

variable [CFloat F] [CFloat D] [CDouble F D]

/-- The odometer after `motion_init` with the wheels at `p`. -/
def start (m : Front F D) (x : Sensors F) (encoderOk : Bool) (t : ℕ) (p : Wheels Int) :
    Odometer F D :=
  ⟨System.init m (x.at p) encoderOk t, p, []⟩

/-- One block while the wheels are at `i.2`. -/
def act (o : Odometer F D) (i : Act F × Wheels Int) : Odometer F D :=
  let sys := o.sys.act (i.1.at i.2)
  match o.sys.pc, i.1 with
  | .checked _ elapsed, .step x =>
    if elapsed < periodUs / 2 then { o with sys := sys }
    else ⟨sys, i.2, o.samples ++ [(x.scale, deltas o.sys.front (x.at i.2))]⟩
  | .calibrating, .finish _ => { o with sys := sys, position := i.2 }
  | _, _ => { o with sys := sys }

/-- The wheels moved less than half the range since the last sample, and the epoch goes on. -/
def Close (o : Odometer F D) (i : Act F × Wheels Int) : Prop :=
  match o.sys.pc, i.1 with
  | .checked _ elapsed, .step _ =>
    ¬elapsed < periodUs / 2 →
      |i.2.left - o.position.left| < 2 ^ 19 ∧ |i.2.right - o.position.right| < 2 ^ 19
  | .calibrating, .finish _ => False
  | _, _ => True

/-- The last sample is the one taken at `position`, and the next difference is taken to it. -/
structure Synced (o : Odometer F D) : Prop where
  bits : o.sys.front.sensors.bits = ⟨bitsAt o.position.left, bitsAt o.position.right⟩
  feedbackCount : o.sys.front.feedbackCount = o.sys.front.sensors.bits

def wrapSum (o : Odometer F D) : Int := wraps o.position.left + wraps o.position.right

def turned (o : Odometer F D) : Int := o.position.left + o.position.right

omit [CDouble F D] in
theorem synced_start (m : Front F D) (x : Sensors F) (encoderOk : Bool) (t : ℕ)
    (p : Wheels Int) : (start m x encoderOk t p).Synced :=
  ⟨rfl, rfl⟩

/-- What a block does to the odometer. -/
inductive Acts (o : Odometer F D) (i : Act F × Wheels Int) : Odometer F D → Prop
  | keeps {sys : System F D} (h : o.sys.front.SameOdometry sys.front) :
      Acts o i { o with sys := sys }
  | samples (x : Sensors F) (now elapsed : UInt32) (hpc : o.sys.pc = .checked now elapsed)
      (he : ¬elapsed < periodUs / 2) (hi : i.1 = .step x) :
      Acts o i ⟨⟨o.sys.front.control (x.at i.2) now elapsed, o.sys.clock, .waiting⟩, i.2,
        o.samples ++ [(x.scale, deltas o.sys.front (x.at i.2))]⟩
  | restarts (x : Sensors F) (hpc : o.sys.pc = .calibrating) (hi : i.1 = .finish x) :
      Acts o i ⟨⟨o.sys.front.calibrationEnd (x.at i.2) o.sys.now, o.sys.clock, .waiting⟩, i.2,
        o.samples⟩

theorem act_acts (o : Odometer F D) (i : Act F × Wheels Int) : Acts o i (o.act i) := by
  obtain ⟨a, q⟩ := i
  unfold act
  dsimp only
  split
  · rename_i now elapsed x hpc
    by_cases he : elapsed < periodUs / 2
    · have hact : o.sys.act (Act.at (.step x) q) =
          ⟨o.sys.front.makeSafe, o.sys.clock, .waiting⟩ := by
        simp [System.act, Act.at, hpc, he]
      rw [if_pos he, hact]
      exact .keeps (setCtl_sameOdometry _ _)
    · have hact : o.sys.act (Act.at (.step x) q) =
          ⟨o.sys.front.control (x.at q) now elapsed, o.sys.clock, .waiting⟩ := by
        simp [System.act, Act.at, hpc, he]
      rw [if_neg he, hact]
      exact .samples x now elapsed hpc he rfl
  · rename_i x hpc
    have hact : o.sys.act (Act.at (.finish x) q) =
        ⟨o.sys.front.calibrationEnd (x.at q) o.sys.now, o.sys.clock, .waiting⟩ := by
      simp [System.act, Act.at, hpc]
    rw [hact]
    exact .restarts x hpc rfl
  · rename_i a _ _ hstep hfinish
    refine .keeps ?_
    have hm := o.sys.act_measures (a.at q)
    generalize o.sys.act (a.at q) = s at hm ⊢
    generalize hb : a.at q = b at hm
    cases hm with
    | keeps h => exact h
    | samples x now elapsed hpc =>
      cases a with
      | step y => exact (hstep now elapsed y hpc rfl).elim
      | _ => simp [Act.at] at hb
    | restarts x hpc =>
      cases a with
      | finish y => exact (hfinish y hpc rfl).elim
      | _ => simp [Act.at] at hb

variable {o : Odometer F D}

/-- Every act keeps the odometer in step. -/
theorem Synced.act (h : o.Synced) (i : Act F × Wheels Int) : (o.act i).Synced := by
  have hacts := o.act_acts i
  generalize o.act i = o' at hacts
  cases hacts with
  | keeps hsame =>
    refine ⟨hsame.sensors ▸ h.bits, ?_⟩
    rw [hsame.feedbackCount, hsame.sensors]
    exact h.feedbackCount
  | samples =>
    exact ⟨by rw [control_sensors]; rfl, by rw [control_sensors]; rfl⟩
  | restarts => exact ⟨rfl, rfl⟩

/-- A close act adds what the wheels turned. -/
theorem Synced.travel_act (h : o.Synced) {i : Act F × Wheels Int} (hi : Close o i) :
    (o.act i).travel - (o.act i).turned = o.travel - o.turned := by
  have hacts := o.act_acts i
  generalize o.act i = o' at hacts
  cases hacts with
  | keeps => rfl
  | samples x now elapsed hpc he hx =>
    simp only [Close, hpc, hx] at hi
    obtain ⟨hleft, hright⟩ := hi he
    have hdelta : deltas o.sys.front (x.at i.2) =
        ⟨i.2.left - o.position.left, i.2.right - o.position.right⟩ := by
      simp only [deltas, h.feedbackCount, h.bits, Sensors.at, wheelEncoderDelta_bitsAt hleft,
        wheelEncoderDelta_bitsAt hright]
    simp only [travel, turned, hdelta, List.map_append, List.sum_append, List.map_cons,
      List.map_nil, List.sum_singleton]
    omega
  | restarts x hpc hx => simp [Close, hpc, hx] at hi

theorem Synced.foldl (h : o.Synced) (l : List (Act F × Wheels Int)) :
    (l.foldl Odometer.act o).Synced :=
  Run.invariant (I := Synced (F := F) (D := D)) (fun _ i h => h.act i) h l

/-- So does a run of close acts. -/
theorem Synced.travel_foldl (h : o.Synced) {l : List (Act F × Wheels Int)}
    (hl : Run.Meets Odometer.act Close o l) :
    (l.foldl Odometer.act o).travel - (l.foldl Odometer.act o).turned = o.travel - o.turned := by
  induction l generalizing o with
  | nil => rfl
  | cons i l ih => exact (ih (h.act i) hl.2).trans (h.travel_act hl.1)

omit [CFloat F] [CFloat D] [CDouble F D] in
theorem Synced.countSum (h : o.Synced) :
    countSum o.sys.front.sensors = o.turned - 2 ^ 20 * o.wrapSum := by
  simp only [Motion.countSum, h.bits, countFromBits_bitsAt, turned, wrapSum]
  ring

/-- The distance accumulates the differences of the samples of an epoch, one after the other. -/
theorem centreM_foldl {l : List (Act F × Wheels Int)} (hl : Run.Meets act Close o l) :
    ∃ since, (l.foldl act o).samples = o.samples ++ since ∧
      (l.foldl act o).sys.front.centreM = since.foldl accumulate o.sys.front.centreM := by
  induction l generalizing o with
  | nil => exact ⟨[], by simp, rfl⟩
  | cons i l ih =>
    obtain ⟨since, hsamples, hcentre⟩ := ih hl.2
    have hi := hl.1
    rw [List.foldl_cons, hsamples, hcentre]
    have hacts := o.act_acts i
    generalize o.act i = o' at hacts
    cases hacts with
    | keeps hsame => exact ⟨since, rfl, by rw [hsame.centreM]⟩
    | samples x now elapsed hpc he hx =>
      refine ⟨_ :: since, List.append_assoc .., ?_⟩
      rw [control_centreM]
      rfl
    | restarts x hpc hx => simp [Close, hpc, hx] at hi

/-- The distance of the pose is half the counts of both wheels, each times the scale. -/
theorem robotDistance_counts (s : Sensors F) : ∃ counts : Wheels Int,
    motionEstimationRobotDistance s =
        lit (1 / 2) * (ofInt counts.left * s.scale + ofInt counts.right * s.scale) ∧
      counts.left + counts.right = Motion.countSum s :=
  ⟨⟨_, _⟩, rfl, rfl⟩

/-- **When the two distances agree.**  The feedback accumulates the differences of the samples, and
the pose is made from the counts, which change by the same sum exactly when the counters have
wrapped a net number of zero times. -/
theorem odometry_agrees_iff (m : Front F D) (x : Sensors F) (encoderOk : Bool) (t : ℕ)
    (p : Wheels Int) (before since : List (Act F × Wheels Int))
    (h : Run.Meets act Close (before.foldl act (start m x encoderOk t p)) since) :
    (∃ samples : List (F × Wheels Int),
      ((before ++ since).foldl act (start m x encoderOk t p)).samples =
          (before.foldl act (start m x encoderOk t p)).samples ++ samples ∧
        ((before ++ since).foldl act (start m x encoderOk t p)).sys.front.centreM =
          samples.foldl accumulate
            (before.foldl act (start m x encoderOk t p)).sys.front.centreM) ∧
    (∀ s : Sensors F, ∃ counts : Wheels Int,
      motionEstimationRobotDistance s =
          lit (1 / 2) * (ofInt counts.left * s.scale + ofInt counts.right * s.scale) ∧
        counts.left + counts.right = Motion.countSum s) ∧
    (Motion.countSum ((before ++ since).foldl act (start m x encoderOk t p)).sys.front.sensors -
          Motion.countSum (before.foldl act (start m x encoderOk t p)).sys.front.sensors =
        ((before ++ since).foldl act (start m x encoderOk t p)).travel -
          (before.foldl act (start m x encoderOk t p)).travel ↔
      ((before ++ since).foldl act (start m x encoderOk t p)).wrapSum =
        (before.foldl act (start m x encoderOk t p)).wrapSum) := by
  rw [List.foldl_append]
  refine ⟨centreM_foldl h, robotDistance_counts, ?_⟩
  have hfirst := (synced_start m x encoderOk t p).foldl before
  generalize before.foldl act (start m x encoderOk t p) = o at h hfirst ⊢
  rw [(hfirst.foldl since).countSum, hfirst.countSum]
  have htravel := hfirst.travel_foldl h
  omega

omit [CFloat F] [CFloat D] [CDouble F D] in
theorem close_step {x : Sensors F} {q : Wheels Int}
    (h : |q.left - o.position.left| < 2 ^ 19 ∧ |q.right - o.position.right| < 2 ^ 19) :
    Close o (.step x, q) := by
  unfold Close
  split
  · exact fun _ => h
  · rename_i hstep
    cases hstep
  · trivial

/-- One period of the motion task, 10 ms long, that ends with the wheels at `q`. -/
def benchPeriod (q : Wheels Int) : List (Act ℚ × Wheels Int) :=
  let x : Sensors ℚ := ⟨⟨0, 0⟩, ⟨0, 0⟩, ⟨0, 0⟩, ⟨0, 0⟩, 1 / 10000⟩
  [(.tick 10000, q), (.enter, q), (.check, q), (.step x, q)]

def benchStart : Odometer ℚ ℚ :=
  let x : Sensors ℚ := ⟨⟨0, 0⟩, ⟨0, 0⟩, ⟨0, 0⟩, ⟨0, 0⟩, 1 / 10000⟩
  start (boot x) x true 0 ⟨0, 0⟩

/-- The bench: both wheels turn by 100 and then by 1000 edges. -/
theorem odometry_agrees_bench :
    let o := (benchPeriod ⟨100, 100⟩).foldl act benchStart
    let o' := (benchPeriod ⟨100, 100⟩ ++ benchPeriod ⟨1100, 1100⟩).foldl act benchStart
    o'.wrapSum = o.wrapSum ∧
      Motion.countSum o'.sys.front.sensors - Motion.countSum o.sys.front.sensors =
        o'.travel - o.travel := by
  intro o o'
  have hwraps : o'.wrapSum = o.wrapSum := by decide +kernel
  have hclose : Run.Meets act Close o (benchPeriod ⟨1100, 1100⟩) := by
    refine ⟨trivial, trivial, trivial, close_step ?_, trivial⟩
    decide +kernel
  exact ⟨hwraps, (odometry_agrees_iff _ _ _ _ _ _ _ hclose).2.2.2 hwraps⟩

/-- Both wheels turn by 400 000 edges in each of two periods, over their wrap: the pose goes back by
497 152 edges while the feedback goes on by 1 600 000. -/
theorem odometry_disagrees_across_wrap :
    let since := benchPeriod ⟨400000, 400000⟩ ++ benchPeriod ⟨800000, 800000⟩
    Run.Meets act Close benchStart since ∧
      Motion.countSum (since.foldl act benchStart).sys.front.sensors -
          Motion.countSum benchStart.sys.front.sensors = -497152 ∧
      (since.foldl act benchStart).travel - benchStart.travel = 1600000 := by
  intro since
  refine ⟨?_, by decide +kernel, by decide +kernel⟩
  refine ⟨trivial, trivial, trivial, close_step ?_, trivial, trivial, trivial, close_step ?_,
    trivial⟩
  all_goals decide +kernel

end Odometer

end RoboticCar.Motion
