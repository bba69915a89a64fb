import RoboticCar.Motion.Odometry

/-!
# The feedback of a wheel across wraps of its counter

The PIO counts the edges of a wheel in 32 bits.  `encoder_read` keeps 20 of them and
`wheel_encoder_bits` sets the sign; the field is the true count, taken forward, modulo `2 ^ 20`
(`wheelEncoderBits_read`).

`Feedback` adds the true counts and the differences of the samples to a run.
`feedback_displacement`: the distance of the feedback accumulates these, and while a wheel moves
less than half the range from sample to sample, their sum is its true displacement.
-/

namespace RoboticCar.Motion

open Lib CFloat

/-! ## The field of a true count -/

/-- The word that the state machine of the PIO pushes at a true count. -/
def pioWord (n : Int) : UInt32 := UInt32.ofNat (n % 2 ^ 32).toNat

/-- `encoder_read`: what is kept of the word. -/
def encoderRead (word : UInt32) : UInt32 := word &&& 0xFFFFF

/-- `wheel_encoder_bits` with the last count read. -/
def wheelEncoderBits (running inverted : Bool) (last : UInt32) : UInt32 :=
  if !running then 0
  else
    -- the PIO table counts B leading as `+1`; A leading is forward here
    let bits := 0 - last
    (if inverted then 0 - bits else bits) &&& 0xFFFFF

/-- A true count with the sign convention of `wheel_encoder_bits`. -/
def forward (inverted : Bool) (n : Int) : Int := if inverted then n else -n

theorem toNat_and_mask (x : UInt32) : (x &&& 0xFFFFF).toNat = x.toNat % 2 ^ 20 := by
  rw [UInt32.toNat_and]
  exact Nat.and_two_pow_sub_one_eq_mod x.toNat 20

theorem toNat_zero_sub (x : UInt32) : (0 - x).toNat = (2 ^ 32 - x.toNat) % 2 ^ 32 := by
  rw [UInt32.toNat_sub]
  simp

/-- **The field is the true count modulo the range.** -/
theorem wheelEncoderBits_read (inverted : Bool) (n : Int) :
    wheelEncoderBits true inverted (encoderRead (pioWord n)) = bitsAt (forward inverted n) := by
  have hword : ((pioWord n).toNat : Int) = n % 2 ^ 32 := by
    rw [pioWord, UInt32.toNat_ofNat']
    omega
  have hlast : (encoderRead (pioWord n)).toNat = (pioWord n).toNat % 2 ^ 20 := toNat_and_mask _
  have hbits := toNat_bitsAt (forward inverted n)
  apply UInt32.toNat_inj.1
  cases inverted with
  | false =>
    have hfield : (wheelEncoderBits true false (encoderRead (pioWord n))).toNat =
        (2 ^ 32 - (encoderRead (pioWord n)).toNat) % 2 ^ 32 % 2 ^ 20 := by
      rw [← toNat_zero_sub]
      exact toNat_and_mask _
    simp only [forward, Bool.false_eq_true, if_false] at hbits
    simp only [forward, Bool.false_eq_true, if_false]
    omega
  | true =>
    have hfield : (wheelEncoderBits true true (encoderRead (pioWord n))).toNat =
        (2 ^ 32 - (2 ^ 32 - (encoderRead (pioWord n)).toNat) % 2 ^ 32) % 2 ^ 32 % 2 ^ 20 := by
      rw [← toNat_zero_sub (encoderRead (pioWord n)), ← toNat_zero_sub]
      exact toNat_and_mask _
    simp only [forward, if_true] at hbits
    simp only [forward, if_true]
    omega

/-- Both true counts with the sign convention of `wheel_encoder_bits`. -/
def forwards (inverted : Wheels Bool) (n : Wheels Int) : Wheels Int :=
  ⟨forward inverted.left n.left, forward inverted.right n.right⟩

theorem get_forwards (inverted : Wheels Bool) (n : Wheels Int) (w : Wheel) :
    (forwards inverted n).get w = forward (inverted.get w) (n.get w) := by
  cases w <;> rfl

theorem forward_sub (inverted : Bool) (n m : Int) :
    forward inverted (n - m) = forward inverted n - forward inverted m := by
  unfold forward
  split <;> omega

theorem abs_forward (inverted : Bool) (n : Int) : |forward inverted n| = |n| := by
  unfold forward
  split
  · rfl
  · exact abs_neg n

/-- A sample of running encoders at the true counts `n`. -/
def Sensors.read {F : Type} (x : Sensors F) (inverted : Wheels Bool) (n : Wheels Int) :
    Sensors F :=
  { x with
    bits := ⟨wheelEncoderBits true inverted.left (encoderRead (pioWord n.left)),
      wheelEncoderBits true inverted.right (encoderRead (pioWord n.right))⟩ }

theorem Sensors.read_eq_at {F : Type} (x : Sensors F) (inverted : Wheels Bool) (n : Wheels Int) :
    x.read inverted n = x.at (forwards inverted n) := by
  simp only [Sensors.read, Sensors.at, wheelEncoderBits_read, forwards]

/-- A block whose sample, if it takes one, is made at the true counts `n`. -/
def Act.read {F : Type} (a : Act F) (inverted : Wheels Bool) (n : Wheels Int) : Act F :=
  match a with
  | .step x => .step (x.read inverted n)
  | .finish x => .finish (x.read inverted n)
  | a => a

theorem Act.read_eq_at {F : Type} (a : Act F) (inverted : Wheels Bool) (n : Wheels Int) :
    a.read inverted n = a.at (forwards inverted n) := by
  cases a <;> simp [Act.read, Act.at, Sensors.read_eq_at]

namespace System

variable {F D : Type}

/-- The block is the control block of `motion_process`. -/
def samples (s : System F D) (a : Act F) : Bool :=
  match s.pc, a with
  | .checked _ elapsed, .step _ => !decide (elapsed < periodUs / 2)
  | _, _ => false

def restarts (s : System F D) (a : Act F) : Bool :=
  match s.pc, a with
  | .calibrating, .finish _ => true
  | _, _ => false

variable [CFloat F] [CFloat D] [CDouble F D] {s : System F D} {a : Act F} (q : Wheels Int)

/-- A sample leaves the fields of its counts, and its differences in the distance. -/
theorem bits_of_samples (h : s.samples a) :
    (∀ w, (s.act (a.at q)).front.sensors.bits.get w = bitsAt (q.get w)) ∧
      (∀ w, (s.act (a.at q)).front.feedbackCount.get w = bitsAt (q.get w)) ∧
      (s.act (a.at q)).front.centreM = accumulate s.front.centreM
        ((s.act (a.at q)).front.sensors.scale,
          deltas s.front (s.act (a.at q)).front.sensors) := by
  unfold samples at h
  split at h
  · rename_i now elapsed x hpc
    have he : ¬elapsed < periodUs / 2 := by simpa using h
    have hact : s.act (Act.at (.step x) q) =
        ⟨s.front.control (x.at q) now elapsed, s.clock, .waiting⟩ := by
      simp [System.act, Act.at, hpc, he]
    rw [hact, Front.control_sensors, Front.control_centreM]
    exact ⟨fun w => by cases w <;> rfl, fun w => by cases w <;> rfl, rfl⟩
  · cases h

/-- The end of a calibration begins an epoch: it takes the counts and clears the distance. -/
theorem count_of_restarts (h : s.restarts a) :
    (∀ w, (s.act (a.at q)).front.feedbackCount.get w = bitsAt (q.get w)) ∧
      (s.act (a.at q)).front.centreM = zero := by
  unfold restarts at h
  split at h
  · rename_i x hpc
    simp only [System.act, Act.at, hpc]
    exact ⟨fun w => by cases w <;> rfl, rfl⟩
  · cases h

theorem sameOdometry_of_not (hs : s.samples a = false) (hr : s.restarts a = false) :
    s.front.SameOdometry (s.act (a.at q)).front := by
  have hm := s.act_measures (a.at q)
  generalize s.act (a.at q) = s' at hm ⊢
  generalize hb : a.at q = b at hm
  cases hm with
  | keeps h => exact h
  | samples x now elapsed hpc he =>
    cases a with
    | step => simp [System.samples, hpc, he] at hs
    | _ => simp [Act.at] at hb
  | restarts x hpc =>
    cases a with
    | finish => simp [System.restarts, hpc] at hr
    | _ => simp [Act.at] at hb

end System

/-! ## The accumulated differences -/

/-- The subsystem with the true counts at the last sample and at the epoch's start, and its
differences. -/
structure Feedback (F D : Type) where
  sys : System F D
  count : Wheels Int
  origin : Wheels Int
  samples : List (F × Wheels Int)

namespace Feedback

variable {F D : Type}

/-- The sum of the differences of a wheel. -/
def total (o : Feedback F D) (w : Wheel) : Int := (o.samples.map fun s => s.2.get w).sum

variable [CFloat F] [CFloat D] [CDouble F D] (inverted : Wheels Bool)

/-- After `motion_init` with the wheels at the true counts `n`. -/
def start (m : Front F D) (x : Sensors F) (t : ℕ) (n : Wheels Int) : Feedback F D :=
  ⟨System.init m (x.read inverted n) true t, n, n, []⟩

/-- One block while the wheels are at the true counts `i.2`. -/
def act (o : Feedback F D) (i : Act F × Wheels Int) : Feedback F D :=
  let sys := o.sys.act (i.1.read inverted i.2)
  let sensors := sys.front.sensors
  if o.sys.restarts i.1 then ⟨sys, i.2, i.2, []⟩
  else if o.sys.samples i.1 then
    ⟨sys, i.2, o.origin, o.samples ++ [(sensors.scale, deltas o.sys.front sensors)]⟩
  else { o with sys := sys }

/-- A wheel moves less than half the range from one sample to the next. -/
def Close (o : Feedback F D) (i : Act F × Wheels Int) : Prop :=
  o.sys.samples i.1 = true →
    |i.2.left - o.count.left| < 2 ^ 19 ∧ |i.2.right - o.count.right| < 2 ^ 19

instance (o : Feedback F D) (i : Act F × Wheels Int) : Decidable (Close o i) :=
  inferInstanceAs (Decidable (_ → _ ∧ _))

/-- The distance has accumulated the differences, which add up to the true displacements. -/
structure Displacement (o : Feedback F D) : Prop where
  centre : o.sys.front.getFeedback.centreM = o.samples.foldl accumulate zero
  total : ∀ w, o.total w = forward (inverted.get w) (o.count.get w - o.origin.get w)

/-- The next difference is taken to the last sample. -/
structure Sound (o : Feedback F D) : Prop extends Displacement inverted o where
  feedbackCount : ∀ w, o.sys.front.feedbackCount.get w =
    bitsAt (forward (inverted.get w) (o.count.get w))

theorem sound_start (m : Front F D) (x : Sensors F) (t : ℕ) (n : Wheels Int) :
    Sound inverted (start inverted m x t n) where
  centre := rfl
  feedbackCount w := by
    have hread := x.read_eq_at inverted n
    cases w <;> exact congrArg (fun y => Wheels.get (Sensors.bits y) _) hread
  total w := by cases w <;> simp [start, total, forward]

omit [CFloat F] [CFloat D] [CDouble F D] in
theorem get_deltas (m : Front F D) (s : Sensors F) (w : Wheel) :
    (deltas m s).get w = wheelEncoderDelta (s.bits.get w) (m.feedbackCount.get w) := by
  cases w <;> rfl

/-- One block keeps the sum at the displacement: a sample adds what each wheel has gone since the
one before. -/
theorem Sound.act {o : Feedback F D} (h : Sound inverted o) {i : Act F × Wheels Int}
    (hi : Close o i) : Sound inverted (act inverted o i) := by
  unfold Feedback.act
  rw [i.1.read_eq_at inverted i.2]
  dsimp only
  split_ifs with hrestart hsample
  · obtain ⟨hcount, hcentre⟩ := System.count_of_restarts (forwards inverted i.2) hrestart
    refine ⟨⟨hcentre, fun w => ?_⟩, fun w => ?_⟩
    · simp [total, forward]
    · rw [hcount, get_forwards]
  · obtain ⟨hbits, hcount, hcentre⟩ := System.bits_of_samples (forwards inverted i.2) hsample
    refine ⟨⟨?_, fun w => ?_⟩, fun w => ?_⟩
    · rw [Front.getFeedback, hcentre, List.foldl_append, ← h.centre]
      rfl
    · have hclose : |forward (inverted.get w) (i.2.get w) -
          forward (inverted.get w) (o.count.get w)| < 2 ^ 19 := by
        rw [← forward_sub, abs_forward]
        cases w with
        | left => exact (hi hsample).1
        | right => exact (hi hsample).2
      have hdelta := wheelEncoderDelta_bitsAt hclose
      rw [← h.feedbackCount w, ← get_forwards, ← hbits w, get_forwards, ← get_deltas] at hdelta
      have htotal := h.total w
      simp only [total, List.map_append, List.sum_append, List.map_cons, List.map_nil,
        List.sum_singleton, hdelta, forward_sub] at htotal ⊢
      omega
    · rw [hcount, get_forwards]
  · have hsame := System.sameOdometry_of_not (forwards inverted i.2)
      (Bool.not_eq_true _ ▸ hsample) (Bool.not_eq_true _ ▸ hrestart)
    refine ⟨⟨hsame.centreM.trans h.centre, h.total⟩, fun w => ?_⟩
    rw [hsame.feedbackCount]
    exact h.feedbackCount w

/-- **The differences add up to the true displacement.**  While the wheels move less than half their
range between samples, the distance of the feedback accumulates the differences since the start of
the epoch, which add up to the true displacement. -/
theorem feedback_displacement (m : Front F D) (x : Sensors F) (t : ℕ) (n : Wheels Int)
    (l : List (Act F × Wheels Int))
    (hl : Run.Meets (act inverted) Close (start inverted m x t n) l) :
    Run.Always (act inverted) (Displacement inverted) (start inverted m x t n) l :=
  Run.always_of_meets (I := Sound inverted) (fun _ _ h hi => h.act inverted hi)
    (fun _ h => h.toDisplacement) (sound_start inverted m x t n) hl

def benchStart : Feedback ℚ ℚ :=
  let x : Sensors ℚ := ⟨⟨0, 0⟩, ⟨0, 0⟩, ⟨0, 0⟩, ⟨0, 0⟩, 1 / 10000⟩
  start ⟨false, true⟩ (Front.boot x) x 0 ⟨0, 0⟩

/-- The bench: both wheels turn by 400 000 counts in each of three periods, which takes the
counters over their wrap. -/
theorem feedback_displacement_bench :
    let l := Odometer.benchPeriod ⟨400000, 400000⟩ ++ Odometer.benchPeriod ⟨800000, 800000⟩ ++
      Odometer.benchPeriod ⟨1200000, 1200000⟩
    let o := l.foldl (act ⟨false, true⟩) benchStart
    Run.Meets (act ⟨false, true⟩) Close benchStart l ∧
      Run.Always (act ⟨false, true⟩) (Displacement ⟨false, true⟩) benchStart l ∧
      o.samples.map Prod.snd =
        [⟨-400000, 400000⟩, ⟨-400000, 400000⟩, ⟨-400000, 400000⟩] ∧
      o.total .left = -1200000 ∧ o.total .right = 1200000 := by
  intro l
  have hl : Run.Meets (act ⟨false, true⟩) Close benchStart l := by decide +kernel
  exact ⟨hl, feedback_displacement _ _ _ _ _ l hl, by decide +kernel⟩

end Feedback

end RoboticCar.Motion
