import RoboticCar.Barcode.Recording

/-!
# A stall of the sampling

`rec_step` adds the carried rounding to the time since the last reading in 32 bits, so a gap of
almost 2³² µs can look like no time at all.  `stall_restarts_iff` says when a long gap restarts the
record: if the sum stays below 2³², and otherwise only if the record cannot be told from a new one
(`Blank`).  `stall_missed` is a record that goes on over such a gap.
-/

namespace RoboticCar.Barcode

open Navigation Record

/-- The call makes the reading the first of a new record, and says so if a recording was active. -/
def Restarts (r : Record) (c : BarcodeConfig) (x : RecCall) : Prop :=
  r.call c x = (if r.active then .timingError else .none, begin {} x.dark x.t)

/-- The records that calls lead to, each with a configuration of its own. -/
inductive Reached : Record → Prop
  | boot : Reached {}
  | call {r : Record} (c : BarcodeConfig) (x : RecCall) (h : Reached r) : Reached (r.call c x).2

/-- A reading of a recording ends the record, or leaves its ring and its clocks as they were. -/
inductive Recorded (r : Record) : BarcodeStatus × Record → Prop
  | ended {q : Record} {status : BarcodeStatus} (failed : Bool) (hnoise : q.noiseQ4 = r.noiseQ4)
      (hnone : status ≠ .none) (htiming : status ≠ .timingError) :
      Recorded r (status, q.finish failed)
  | on {q : Record} (hstate : q.state ≠ .waiting) (hpre : q.pre = r.pre)
      (hpreUs : q.preUs = r.preUs) (hresidual : q.residualUs = r.residualUs)
      (hnoise : q.noiseQ4 = r.noiseQ4) : Recorded r (.none, q)

variable {r q : Record} {c : BarcodeConfig} {x : RecCall} {now : UInt32} {dark step : ℕ}

/-- The fields of the record that a reading of a recording leaves alone. -/
def Alike (r q : Record) : Prop :=
  q.state ≠ .waiting ∧ q.pre = r.pre ∧ q.preUs = r.preUs ∧ q.residualUs = r.residualUs ∧
    q.noiseQ4 = r.noiseQ4

theorem Alike.on (h : Alike r q) : Recorded r (.none, q) :=
  .on h.1 h.2.1 h.2.2.1 h.2.2.2.1 h.2.2.2.2

theorem Alike.ended (h : Alike r q) (failed : Bool) {status : BarcodeStatus}
    (hnone : status ≠ .none) (htiming : status ≠ .timingError) :
    Recorded r (status, q.finish failed) :=
  .ended failed h.2.2.2.2 hnone htiming

theorem Alike.turn (h : Alike r q) (dark step : ℕ) : Alike r (q.turn dark step) := by
  obtain ⟨turnUs, best, falling, hq⟩ := turn_fields q dark step
  rw [hq]
  exact h

theorem Alike.release (h : Alike r q) (now : UInt32) : Recorded r (q.release now) := by
  unfold Record.release
  split
  · exact h.on
  · exact h.ended false nofun nofun

theorem Alike.conclude (h : Alike r q) (c : BarcodeConfig) (now : UInt32) :
    Recorded r (q.conclude c now) := by
  unfold Record.conclude
  split
  · split
    · exact h.ended true nofun nofun
    · refine Alike.release ?_ now
      exact ⟨RecState.noConfusion, h.2⟩
  · exact h.release now

theorem Alike.listen (h : Alike r q) (c : BarcodeConfig) (now : UInt32) (dark step : ℕ) :
    Recorded r (q.listen c now dark step) := by
  unfold Record.listen
  split
  · exact h.ended true nofun nofun
  · split
    · split
      · exact h.ended true nofun nofun
      · exact Alike.on h
    · dsimp only
      split
      · exact Alike.on h
      · refine Alike.conclude ?_ c now
        exact h

theorem Alike.recordReading (h : Alike r q) (c : BarcodeConfig) (now : UInt32) (dark step : ℕ) :
    Recorded r (q.recordReading c now dark step) := by
  unfold Record.recordReading
  split
  · exact h.ended true nofun nofun
  · dsimp only
    split
    · exact Alike.ended (q := q.store dark step) h true nofun nofun
    · exact (Alike.turn (q := q.store dark step) h dark step).listen c now dark step

/-- A reading of a recording does not restart it. -/
theorem recordReading_recorded (r : Record) (c : BarcodeConfig) (now : UInt32) (dark step : ℕ)
    (hstate : r.state ≠ .waiting) : Recorded r (r.recordReading c now dark step) :=
  Alike.recordReading ⟨hstate, rfl, rfl, rfl, rfl⟩ c now dark step

theorem RingOk.two_lt (h : RingOk r) (hlen : r.pre.length = 2) : r.preUs ≤ recPreUs := by
  obtain ⟨a, b, hpre⟩ := List.length_eq_two.1 hlen
  have ha : a.step = 0 := h.first a (by simp [hpre])
  have hb : b.step ≤ recStepMax := h.steps b (by simp [hpre])
  rw [h.time, hpre]
  simp only [timeOf, List.map_cons, List.map_nil, List.sum_cons, List.sum_nil, Sample.stepUs, ha]
  simp only [recStepMax, recStepUs, recPreUs] at *
  omega

theorem RingOk.preShrink_length {k : ℕ} (hk : k ≤ 2) (rounds : ℕ) (h : RingOk r)
    (hlen : k ≤ r.pre.length) : k ≤ (preShrink rounds r).pre.length := by
  induction rounds generalizing r with
  | zero => exact hlen
  | succ rounds ih =>
    unfold preShrink
    split
    · rename_i hcond
      refine ih h.preDrop_shrunk.ring ?_
      have hdrop := preDrop_length hcond.1
      have htwo : r.pre.length ≠ 2 := fun h2 => hcond.2.not_ge (h.two_lt h2)
      omega
    · exact hlen

theorem RingOk.prePush_length (h : RingOk r) (dark : ℕ) (hstep : step ≤ recStepMax) :
    min 2 (r.pre.length + 1) ≤ (r.prePush dark step).pre.length := by
  unfold Record.prePush
  generalize hr₀ : (if r.pre.length = recPreMax then r.preDrop else r) = r₀
  have hr₀' : RingOk r₀ ∧ r₀.pre.length < recPreMax ∧
      min 1 r.pre.length ≤ r₀.pre.length := by
    rw [← hr₀]
    split
    · rename_i hfull
      have := preDrop_length (r := r) (by rw [hfull]; decide)
      refine ⟨h.preDrop_shrunk.ring, by omega, ?_⟩
      rw [recPreMax] at hfull
      omega
    · exact ⟨h, lt_of_le_of_ne h.length ‹_›, by omega⟩
  obtain ⟨hring, hroom, hlen⟩ := hr₀'
  refine RingOk.preShrink_length (min_le_left _ _) _ (hring.append hroom ?_ fun hnil => ?_) ?_
  · split
    · exact Nat.zero_le _
    · exact hstep
  · rw [hnil]
    rfl
  · simp only [List.length_append, List.length_singleton]
    omega

theorem prePush_nil (hpre : r.pre = []) (hpreUs : r.preUs = 0) (dark step : ℕ) :
    r.prePush dark step = { r with pre := [⟨dark, 0⟩] } := by
  unfold Record.prePush
  simp [hpre, hpreUs, preShrink, recPreMax]

/-! ## What is known of a reached record -/

/-- The rounding is less than a step, and a record without readings has nothing but its paper. -/
structure Sane (r : Record) : Prop where
  residual : r.residualUs < recStepUs
  noise : r.noiseQ4 < 2 ^ 16
  ring : RingOk r
  bare : r.state = .waiting → r.pre = [] →
    r = { seen := r.seen, paper := r.paper, lastUs := r.lastUs, noiseQ4 := r.noiseQ4
          prev := r.prev, residualUs := r.residualUs, blocked := r.blocked }

theorem RingOk.nil (hpre : r.pre = []) (hpreUs : r.preUs = 0) : RingOk r where
  length := by simp [hpre]
  steps := by simp [hpre]
  first := by simp [hpre]
  time := by simp [hpre, hpreUs, timeOf]

theorem Sane.empty : Sane {} := ⟨by decide, by decide, .nil rfl rfl, fun _ _ => rfl⟩

theorem Sane.finish (h : q.noiseQ4 < 2 ^ 16) (failed : Bool) : Sane (q.finish failed) :=
  ⟨Sane.empty.residual, h, .nil rfl rfl, fun _ _ => rfl⟩

theorem Sane.prePush (hres : r.residualUs < recStepUs) (hnoise : r.noiseQ4 < 2 ^ 16)
    (hring : RingOk r) (dark : ℕ) (hstep : step ≤ recStepMax) : Sane (r.prePush dark step) := by
  obtain ⟨hok, hfields, -⟩ := hring.prePush dark hstep
  have hlen := hring.prePush_length dark hstep
  refine ⟨?_, ?_, hok, fun _ hnil => ?_⟩
  · rw [hfields]
    exact hres
  · rw [hfields]
    exact hnoise
  · rw [hnil, List.length_nil] at hlen
    omega

theorem Sane.begin (h : Sane r) (dark : ℕ) (now : UInt32) : Sane (r.begin dark now) :=
  Sane.prePush (r := { r with seen := true, paper := dark, lastUs := now, prev := dark })
    h.residual h.noise ⟨h.ring.1, h.ring.2, h.ring.3, h.ring.4⟩ dark (Nat.zero_le _)

/-- A reading of a recording keeps the record sane. -/
theorem Sane.recorded (h : Sane r) {o : BarcodeStatus × Record} (ho : Recorded r o) :
    Sane o.2 := by
  cases ho with
  | ended failed hnoise => exact .finish (hnoise ▸ h.noise) failed
  | @on q hstate hpre hpreUs hres hnoise =>
    refine ⟨hres ▸ h.residual, hnoise ▸ h.noise, ⟨?_, ?_, ?_, ?_⟩, fun hw => absurd hw hstate⟩
    · exact hpre ▸ h.ring.length
    · exact hpre ▸ h.ring.steps
    · exact hpre ▸ h.ring.first
    · exact hpreUs.trans (hpre ▸ h.ring.time)

theorem learnNoise_lt (h : r.noiseQ4 < 2 ^ 16) (dark : ℕ) : r.learnNoise dark < 2 ^ 16 := by
  unfold Record.learnNoise
  split
  · exact Nat.mod_lt _ (by decide)
  · exact h

/-- So does a waiting one. -/
theorem Sane.waitReading (h : Sane r) (c : BarcodeConfig) (now : UInt32) (dark : ℕ)
    (hstep : step ≤ recStepMax) : Sane (r.waitReading c now dark step).2 := by
  have hring {q : Record} (hpre : q.pre = r.pre) (hpreUs : q.preUs = r.preUs) : RingOk q :=
    ⟨hpre ▸ h.ring.length, hpre ▸ h.ring.steps, hpre ▸ h.ring.first,
      hpreUs.trans (hpre ▸ h.ring.time)⟩
  unfold Record.waitReading
  dsimp only
  split
  · refine ⟨h.residual, h.noise, hring rfl rfl, fun hw hnil => ?_⟩
    have hbare := h.bare hw hnil
    rw [hbare]
  · split
    · refine Sane.prePush ?_ ?_ ?_ dark hstep
      · exact h.residual
      · exact learnNoise_lt (r := { r with paper := _, blocked := false }) h.noise dark
      · exact hring rfl rfl
    · have hs : Sane { r with paper := learnPaper r.paper dark, blocked := false } :=
        ⟨h.residual, h.noise, hring rfl rfl, fun hw hnil => by rw [h.bare hw hnil]⟩
      refine hs.recorded (Alike.recordReading ?_ c now dark step)
      exact ⟨RecState.noConfusion, rfl, rfl, rfl, rfl⟩

theorem step_residual {gapUs : UInt32} {step residual : ℕ}
    (h : r.step gapUs = some (step, residual)) : residual < recStepUs := by
  unfold Record.step at h
  dsimp only at h
  split at h
  · cases h
  · cases h
    simp only [recStepUs]
    omega

/-- **Every call keeps the record sane.** -/
theorem Sane.call (h : Sane r) (c : BarcodeConfig) (x : RecCall) : Sane (r.call c x).2 := by
  unfold Record.call Record.update
  dsimp only
  split
  · exact h
  split
  · exact .empty
  split
  · exact h.begin _ _
  split
  · exact Sane.empty.begin _ _
  · rename_i step residual hstep
    have hs : Sane { r with residualUs := residual, lastUs := x.t } :=
      ⟨step_residual hstep, h.noise, ⟨h.ring.1, h.ring.2, h.ring.3, h.ring.4⟩,
        fun hw hnil => by rw [h.bare hw hnil]⟩
    split
    · exact Sane.empty.begin _ _
    split
    · exact hs.waitReading c _ _ (step_le hstep)
    · rename_i hstate
      exact hs.recorded (recordReading_recorded _ c _ _ _ hstate)

theorem Reached.sane (h : Reached r) : Sane r := by
  induction h with
  | boot => exact .empty
  | call c x _ ih => exact ih.call c x

/-! ## The stall -/

def elapsed (r : Record) (x : RecCall) : ℕ := (x.t - r.lastUs).toNat

/-- The record cannot be told from a new one, and the reading teaches it nothing. -/
structure Blank (r : Record) (x : RecCall) : Prop where
  waiting : r.state = .waiting
  pre : r.pre = []
  paper : x.dark ≤ r.paper
  noise : r.noiseQ4 = 0
  prev : r.prev = x.dark ∨ x.dark + recWhiteBand < r.prev

/-- A long gap that does not wrap restarts the record. -/
theorem restarts_of_lt (hc : configValid c) (hvalid : x.valid)
    (hseen : r.seen) (hgap : c.maxGapUs.toNat + 2 * recStepUs < elapsed r x)
    (hlt : elapsed r x + r.residualUs < 2 ^ 32) : Restarts r c x := by
  have hmod : ((x.t - r.lastUs).toNat + r.residualUs) % 2 ^ 32 = elapsed r x + r.residualUs :=
    Nat.mod_eq_of_lt hlt
  have hne : ¬x.t - r.lastUs = 0 := by
    intro h0
    rw [elapsed, h0] at hgap
    exact absurd hgap (Nat.not_lt_zero _)
  unfold Restarts Record.call Record.update
  simp only [hc, hvalid, hseen, Bool.not_true, Bool.false_eq_true, if_false]
  by_cases hmax : recStepMax < (elapsed r x + r.residualUs) / recStepUs
  · rw [show r.step (x.t - r.lastUs) = none from if_pos (.inr (hmod.symm ▸ hmax))]
    rfl
  · rw [show r.step (x.t - r.lastUs) = some _ from
      if_neg (not_or.2 ⟨hne, hmod.symm ▸ hmax⟩)]
    have hlong : c.maxGapUs.toNat + recStepUs <
        ((x.t - r.lastUs).toNat + r.residualUs) % 2 ^ 32 / recStepUs * recStepUs := by
      rw [hmod]
      simp only [recStepUs] at hgap ⊢
      omega
    dsimp only
    rw [if_pos hlong]
    rfl

/-- A sum that wraps looks like no time. -/
theorem step_wrapped (hres : r.residualUs < recStepUs)
    (hwrap : 2 ^ 32 ≤ elapsed r x + r.residualUs) :
    r.step (x.t - r.lastUs) = some (0, elapsed r x + r.residualUs - 2 ^ 32) := by
  have hlt : elapsed r x < 2 ^ 32 := (x.t - r.lastUs).toNat_lt
  have hne : x.t - r.lastUs ≠ 0 := by
    intro h0
    have : elapsed r x = 0 := by rw [elapsed, h0]; rfl
    rw [recStepUs] at hres
    omega
  have hmod : ((x.t - r.lastUs).toNat + r.residualUs) % 2 ^ 32 =
      elapsed r x + r.residualUs - 2 ^ 32 := by
    change (elapsed r x + r.residualUs) % 2 ^ 32 = _
    rw [Nat.mod_eq_sub_mod hwrap, Nat.mod_eq_of_lt (by rw [recStepUs] at hres; omega)]
  have hunits : (elapsed r x + r.residualUs - 2 ^ 32) / recStepUs = 0 :=
    Nat.div_eq_of_lt (by omega)
  unfold Record.step
  dsimp only
  rw [hmod, hunits, if_neg (not_or.2 ⟨hne, by decide⟩)]
  simp

theorem call_wrapped (hc : configValid c) (hvalid : x.valid) (hseen : r.seen)
    (hres : r.residualUs < recStepUs) (hwrap : 2 ^ 32 ≤ elapsed r x + r.residualUs) :
    r.call c x =
      let r' := { r with residualUs := elapsed r x + r.residualUs - 2 ^ 32, lastUs := x.t }
      if r.state = .waiting then r'.waitReading c x.t x.dark 0
      else r'.recordReading c x.t x.dark 0 := by
  unfold Record.call Record.update
  simp only [hc, hvalid, hseen, Bool.not_true, Bool.false_eq_true, if_false,
    step_wrapped hres hwrap, Nat.zero_mul, Nat.not_lt_zero]
  rfl

theorem begin_empty (dark : ℕ) (now : UInt32) :
    begin {} dark now =
      { seen := true, paper := dark, lastUs := now, prev := dark, pre := [⟨dark, 0⟩] } :=
  prePush_nil rfl rfl dark 0

theorem Recorded.ne_begin {o : BarcodeStatus × Record} (h : Recorded r o) {timing : Bool} :
    o ≠ (if timing then .timingError else .none, begin {} dark now) := by
  rintro rfl
  generalize ho : ((_, _) : BarcodeStatus × Record) = o at h
  cases h with
  | ended failed _ hnone htiming =>
    cases timing with
    | false => exact hnone (congrArg Prod.fst ho).symm
    | true => exact htiming (congrArg Prod.fst ho).symm
  | on hstate =>
    have hw := congrArg (fun o : BarcodeStatus × Record => o.2.state) ho
    rw [begin_empty] at hw
    exact hstate hw.symm

theorem learnPaper_eq_self_iff {paper dark : ℕ} : learnPaper paper dark = dark ↔ dark ≤ paper := by
  unfold learnPaper
  split_ifs <;> omega

theorem learnNoise_eq_zero_iff (hpaper : r.paper = dark) (hnoise : r.noiseQ4 < 2 ^ 16)
    (hdark : dark ≤ 1000) :
    r.learnNoise dark = 0 ↔ r.noiseQ4 = 0 ∧ (r.prev = dark ∨ dark + recWhiteBand < r.prev) := by
  unfold Record.learnNoise
  rw [hpaper]
  by_cases hprev : r.prev ≤ dark + recWhiteBand
  · rw [if_pos ⟨Nat.le_add_right _ _, hprev⟩]
    generalize hdiff : (if r.prev < dark then dark - r.prev else r.prev - dark) = diff
    have hzero : diff = 0 ↔ r.prev = dark := by
      rw [← hdiff]
      split <;> omega
    have hsmall : diff ≤ 1000 := by
      simp only [recWhiteBand] at hprev
      rw [← hdiff]
      split <;> omega
    rw [Nat.mod_eq_of_lt (by omega), ← hzero]
    omega
  · rw [if_neg fun h => hprev h.2]
    exact ⟨fun h => ⟨h, .inr (Nat.lt_of_not_le hprev)⟩, And.left⟩

theorem prePush_eq_begin_iff (h : RingOk r) :
    r.prePush dark 0 = begin {} dark now ↔
      r = { seen := true, paper := dark, lastUs := now, prev := dark } := by
  constructor
  · intro heq
    rw [begin_empty] at heq
    have hpre : r.pre = [] := by
      have hlen := h.prePush_length dark (Nat.zero_le _)
      rw [heq] at hlen
      refine List.length_eq_zero_iff.1 ?_
      simp only [List.length_singleton] at hlen
      omega
    have hpreUs : r.preUs = 0 := by rw [h.time, hpre]; rfl
    rw [prePush_nil hpre hpreUs] at heq
    calc r = { { r with pre := [⟨dark, 0⟩] } with pre := [] } := by rw [← hpre]
      _ = _ := by rw [heq]
  · rintro rfl
    rfl

/-- The waiting record with a light reading that took no time, before the ring has it. -/
def lightened (r : Record) (x : RecCall) (residual : ℕ) : Record :=
  { r with
    residualUs := residual
    lastUs := x.t
    paper := learnPaper r.paper x.dark
    blocked := false
    noiseQ4 := { r with paper := learnPaper r.paper x.dark }.learnNoise x.dark
    whiteUs := satAdd r.whiteUs (0 * recStepUs)
    prev := x.dark }

theorem lightened_eq_iff (h : Sane r) (hseen : r.seen) (hwait : r.state = .waiting)
    (residual : ℕ) :
    lightened r x residual = { seen := true, paper := x.dark, lastUs := x.t, prev := x.dark } ↔
      residual = 0 ∧ Blank r x := by
  have hdark : x.dark ≤ 1000 := min_le_right _ _
  constructor
  · intro heq
    have hres : residual = 0 := congrArg Record.residualUs heq
    have hpre : r.pre = [] := congrArg Record.pre heq
    have hpaper : learnPaper r.paper x.dark = x.dark := congrArg Record.paper heq
    have hnoise : { r with paper := learnPaper r.paper x.dark }.learnNoise x.dark = 0 :=
      congrArg Record.noiseQ4 heq
    obtain ⟨hzero, hprev⟩ := (learnNoise_eq_zero_iff (r := { r with paper := _ })
      hpaper h.noise hdark).1 hnoise
    exact ⟨hres, hwait, hpre, learnPaper_eq_self_iff.1 hpaper, hzero, hprev⟩
  · rintro ⟨hres, -, hpre, hpaper, hzero, hprev⟩
    have hpaper' := learnPaper_eq_self_iff.2 hpaper
    have hnoise := (learnNoise_eq_zero_iff (r := { r with paper := learnPaper r.paper x.dark })
      hpaper' h.noise hdark).2 ⟨hzero, hprev⟩
    rw [lightened, hnoise, hpaper', hres, h.bare hwait hpre, hseen]
    rfl

/-- When a gap that wraps restarts the record. -/
theorem restarts_wrapped_iff (hc : configValid c) (h : Sane r) (hvalid : x.valid)
    (hseen : r.seen) (hwrap : 2 ^ 32 ≤ elapsed r x + r.residualUs) :
    Restarts r c x ↔ elapsed r x + r.residualUs = 2 ^ 32 ∧ Blank r x := by
  rw [Restarts, call_wrapped hc hvalid hseen h.residual hwrap]
  by_cases hstate : r.state = .waiting
  · have hactive : r.active = false := by simp [Record.active, hstate]
    rw [if_pos hstate, hactive]
    unfold Record.waitReading
    dsimp only
    split
    · rename_i hb
      refine iff_of_false (fun heq => ?_) fun ⟨_, hblank⟩ => ?_
      · have hblocked := congrArg (fun o : BarcodeStatus × Record => o.2.blocked) heq
        rw [begin_empty] at hblocked
        cases hb.1.symm.trans hblocked
      · rw [learnPaper_eq_self_iff.2 hblank.paper] at hb
        simp only [Record.white, recRise] at hb
        rcases hb.2 with hw | hr
        · simp at hw
        · omega
    split
    · have hring : RingOk (lightened r x (elapsed r x + r.residualUs - 2 ^ 32)) :=
        ⟨h.ring.1, h.ring.2, h.ring.3, h.ring.4⟩
      have hlight := lightened_eq_iff (x := x) h hseen hstate
        (elapsed r x + r.residualUs - 2 ^ 32)
      rw [← prePush_eq_begin_iff hring] at hlight
      rw [show elapsed r x + r.residualUs = 2 ^ 32 ↔
        elapsed r x + r.residualUs - 2 ^ 32 = 0 by omega, ← hlight]
      exact ⟨fun heq => congrArg Prod.snd heq, fun heq => congrArg (Prod.mk _) heq⟩
    · rename_i hlight
      refine iff_of_false (fun heq => ?_) fun ⟨_, hblank⟩ => ?_
      · exact (recordReading_recorded (trigger _ c) c _ _ _ nofun).ne_begin heq
      · rw [learnPaper_eq_self_iff.2 hblank.paper, recRise] at hlight
        omega
  · have hactive : r.active := by simp [Record.active, hstate]
    rw [if_neg hstate, hactive]
    refine iff_of_false (fun heq => ?_) fun ⟨_, hblank⟩ => hstate hblank.waiting
    refine (recordReading_recorded _ c _ _ _ ?_).ne_begin heq
    exact hstate

/-- **When a stall restarts the record.**  A reading more than `max_gap_us` and two steps after the
last one begins a new record exactly if the gap and the carried rounding fit into 32 bits or the
record was blank. -/
theorem stall_restarts_iff (hc : configValid c = true) (h : Reached r) (hvalid : x.valid = true)
    (hseen : r.seen = true) (hgap : c.maxGapUs.toNat + 2 * recStepUs < elapsed r x) :
    Restarts r c x ↔ elapsed r x + r.residualUs < 2 ^ 32 ∨
      elapsed r x + r.residualUs = 2 ^ 32 ∧ Blank r x := by
  rcases Nat.lt_or_ge (elapsed r x + r.residualUs) (2 ^ 32) with hlt | hge
  · exact iff_of_true (restarts_of_lt hc hvalid hseen hgap hlt) (.inl hlt)
  · rw [restarts_wrapped_iff hc h.sane hvalid hseen hge, or_iff_right hge.not_gt]

section Bench

def stallConfig : BarcodeConfig := ⟨30000, 1000, 100000, 2000000, 10⟩

/-- A recording that began 501 µs after the first reading: one step, and 1 µs is carried on. -/
def stallRecord : Record := (Record.call (Record.call {} stallConfig ⟨0, true, 0⟩).2 stallConfig
  ⟨501, true, 900⟩).2

theorem stallRecord_reached : Reached stallRecord := .call _ _ (.call _ _ .boot)

/-- A reading 40 ms later restarts the record. -/
theorem stall_restarts_bench :
    configValid stallConfig = true ∧ Reached stallRecord ∧ stallRecord.seen = true ∧
      stallRecord.active = true ∧ Restarts stallRecord stallConfig ⟨40501, true, 0⟩ := by
  refine ⟨by decide, stallRecord_reached, by decide +kernel, by decide +kernel, ?_⟩
  exact (stall_restarts_iff (by decide) stallRecord_reached rfl (by decide +kernel)
    (by decide +kernel)).2 (.inl (by decide +kernel))

/-- **A stall that is not seen.**  A reading 2³² - 1 µs later is stored in the recording as if no
time had passed. -/
theorem stall_missed :
    configValid stallConfig = true ∧ Reached stallRecord ∧ stallRecord.seen = true ∧
      stallRecord.active = true ∧ elapsed stallRecord ⟨500, true, 900⟩ = 2 ^ 32 - 1 ∧
      stallConfig.maxGapUs.toNat + 2 * recStepUs < elapsed stallRecord ⟨500, true, 900⟩ ∧
      (stallRecord.call stallConfig ⟨500, true, 900⟩).1 = .none ∧
      (stallRecord.call stallConfig ⟨500, true, 900⟩).2.sample =
        stallRecord.sample ++ [⟨900, 0⟩] ∧
      ¬Restarts stallRecord stallConfig ⟨500, true, 900⟩ := by
  refine ⟨by decide, stallRecord_reached, ?_⟩
  unfold Restarts
  decide +kernel

end Bench

end RoboticCar.Barcode
