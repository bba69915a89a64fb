import RoboticCar.Barcode.Record

/-!
# What a call of the record reader does

`Took` lists the outcomes of one call of `s3_barcode_record_update`, and `update_took` says that
there are no others.  Two invariants are kept here: the ring holds what its clock says (`RingOk`),
and the frame of a recording is the time of its readings (`FrameOk`).
-/

namespace RoboticCar.Barcode

open Navigation

structure RecCall where
  t : UInt32
  valid : Bool
  darkness : ℕ

def RecCall.dark (x : RecCall) : ℕ := min x.darkness 1000

namespace Record

def call (r : Record) (c : BarcodeConfig) (x : RecCall) : BarcodeStatus × Record :=
  r.update c x.t x.valid x.darkness

def ticked (r : Record) (x : RecCall) (residual : ℕ) : Record :=
  { r with residualUs := residual, lastUs := x.t }

/-- The recording that a reading is added to: the one under way, or a new one. -/
def opened (r : Record) (c : BarcodeConfig) (x : RecCall) (residual : ℕ) : Record :=
  if r.state = .waiting then
    trigger { r.ticked x residual with paper := learnPaper r.paper x.dark, blocked := false } c
  else r.ticked x residual

def noted (r : Record) (c : BarcodeConfig) (x : RecCall) (step residual : ℕ) : Record :=
  ((r.opened c x residual).store x.dark step).turn x.dark step

def heard (r : Record) (c : BarcodeConfig) (x : RecCall) (step residual : ℕ) : Record :=
  let r := r.noted c x step residual
  { r with whiteUs := satAdd r.whiteUs (step * recStepUs) }

end Record

open Record

/-- A reading in time that belongs to a recording. -/
structure Opens (c : BarcodeConfig) (r : Record) (x : RecCall) (step residual : ℕ) : Prop where
  valid : x.valid = true
  seen : r.seen = true
  step : r.step (x.t - r.lastUs) = some (step, residual)
  dark : r.state = .waiting → learnPaper r.paper x.dark + recRise ≤ x.dark
  room : (r.opened c x residual).sample.length < recMax

/-- What one call does. -/
inductive Took (c : BarcodeConfig) (r : Record) (x : RecCall) : BarcodeStatus × Record → Prop
  | reset : Took c r x (.none, {})
  | restart (status : BarcodeStatus) (r' : Record) (hr' : r' = {} ∨ r' = r ∧ r.seen = false)
      (hstatus : ∀ result, status ≠ .decoded result) : Took c r x (status, r'.begin x.dark x.t)
  | blocked (residual : ℕ) (hwaiting : r.state = .waiting) (hseen : r.seen = true)
      (hblocked : r.blocked = true) :
      Took c r x (.none,
        { r.ticked x residual with paper := learnPaper r.paper x.dark, whiteUs := 0 })
  | light (step residual noise : ℕ) (hwaiting : r.state = .waiting) (hseen : r.seen = true)
      (hstep : r.step (x.t - r.lastUs) = some (step, residual))
      (hlight : x.dark < learnPaper r.paper x.dark + recRise) :
      Took c r x (.none, prePush { r.ticked x residual with
        paper := learnPaper r.paper x.dark
        blocked := false
        noiseQ4 := noise
        whiteUs := satAdd r.whiteUs (step * recStepUs)
        prev := x.dark } x.dark step)
  | failed (status : BarcodeStatus) (q : Record) (hq : q.seen = true)
      (hstatus : ∀ result, status ≠ .decoded result) :
      Took c r x (status, q.finish true)
  | ink (step residual : ℕ) (h : Opens c r x step residual)
      (hstate : (r.opened c x residual).state = .recording) :
      Took c r x (.none, { r.noted c x step residual with whiteUs := 0 })
  | white (step residual : ℕ) (h : Opens c r x step residual)
      (hwhite : (r.noted c x step residual).white x.dark = true) :
      Took c r x (.none, r.heard c x step residual)
  | quiet (step residual : ℕ) (h : Opens c r x step residual)
      (hwhite : (r.noted c x step residual).white x.dark = true) (candidate : Fin 26 × Bool)
      (required : ℕ)
      (hverdict : (r.heard c x step residual).verdict c = some (candidate, required))
      (hstate : (r.opened c x residual).state = .recording) :
      Took c r x (.none, { r.heard c x step residual with
        requiredUs := required, candidate := candidate, state := .quiet })
  | release (step residual : ℕ) (h : Opens c r x step residual)
      (hwhite : (r.noted c x step residual).white x.dark = true) (candidate : Fin 26 × Bool)
      (required : ℕ) (hverdict : (r.heard c x step residual).verdict c = some (candidate, required))
      (hover : required ≤ (r.heard c x step residual).frameUs) (q : Record) (hq : q.seen = true)
      (hstate : (r.opened c x residual).state = .recording) :
      Took c r x (.decoded ⟨candidate.1, candidate.2, x.t⟩, q.finish false)
  | released (step residual : ℕ) (h : Opens c r x step residual)
      (hwhite : (r.noted c x step residual).white x.dark = true)
      (hstate : (r.opened c x residual).state = .quiet)
      (hover : (r.heard c x step residual).requiredUs ≤ (r.heard c x step residual).frameUs)
      (q : Record) (hq : q.seen = true) :
      Took c r x (.decoded ⟨(r.heard c x step residual).candidate.1,
        (r.heard c x step residual).candidate.2, x.t⟩, q.finish false)

variable {r : Record} {c : BarcodeConfig} {x : RecCall}

theorem turn_fields (r : Record) (dark step : ℕ) : ∃ turnUs best falling,
    r.turn dark step = { r with turnUs := turnUs, best := best, falling := falling } := by
  unfold Record.turn
  dsimp only
  split_ifs <;> exact ⟨_, _, _, rfl⟩

section Opening

variable (r c x) (step residual : ℕ)

theorem noted_fields :
    ∃ turnUs best falling, r.noted c x step residual =
      { (r.opened c x residual).store x.dark step with
        turnUs := turnUs, best := best, falling := falling } :=
  turn_fields _ _ _

theorem noted_state :
    (r.noted c x step residual).state = (r.opened c x residual).state := by
  obtain ⟨_, _, _, h⟩ := noted_fields r c x step residual
  rw [h]
  rfl

theorem noted_records :
    (r.noted c x step residual).paper = (r.opened c x residual).paper ∧
      (r.noted c x step residual).prominence = (r.opened c x residual).prominence ∧
      (r.noted c x step residual).candidate = (r.opened c x residual).candidate ∧
      (r.noted c x step residual).requiredUs = (r.opened c x residual).requiredUs := by
  obtain ⟨_, _, _, h⟩ := noted_fields r c x step residual
  rw [h]
  exact ⟨rfl, rfl, rfl, rfl⟩

theorem white_congr {r r' : Record} (hpaper : r'.paper = r.paper)
    (hprominence : r'.prominence = r.prominence) (dark : ℕ) : r'.white dark = r.white dark := by
  cases r
  cases r'
  subst hpaper hprominence
  rfl

theorem opened_seen :
    (r.opened c x residual).seen = r.seen := by
  unfold Record.opened
  split <;> rfl

theorem noted_seen :
    (r.noted c x step residual).seen = r.seen := by
  obtain ⟨_, _, _, h⟩ := noted_fields r c x step residual
  rw [h]
  exact opened_seen r c x residual

theorem opened_state :
    (r.opened c x residual).state = if r.state = .waiting then .recording else r.state := by
  unfold Record.opened
  split <;> rfl

end Opening

variable {step residual : ℕ}

/-- Enough white ends the recording. -/
theorem conclude_took (h : Opens c r x step residual)
    (hwhite : (r.noted c x step residual).white x.dark = true) :
    Took c r x ((r.heard c x step residual).conclude c x.t) := by
  have hseen : (r.heard c x step residual).seen = true :=
    (noted_seen r c x step residual).trans h.seen
  have hs : (r.heard c x step residual).state = (r.opened c x residual).state :=
    noted_state r c x step residual
  unfold Record.conclude
  by_cases hstate : (r.heard c x step residual).state = .recording
  · rw [if_pos hstate]
    rw [hs] at hstate
    rcases hv : (r.heard c x step residual).verdict c with - | ⟨candidate, required⟩
    · exact .failed _ _ hseen nofun
    · dsimp only [Record.release]
      split
      · exact .quiet step residual h hwhite candidate required hv hstate
      · rename_i hover
        exact .release step residual h hwhite candidate required hv (Nat.le_of_not_lt hover) _
          hseen hstate
  · rw [if_neg hstate]
    unfold Record.release
    split
    · exact .white step residual h hwhite
    · rename_i hover
      refine .released step residual h hwhite ?_ (Nat.le_of_not_lt hover) _ hseen
      rw [hs, opened_state] at hstate
      rw [opened_state]
      cases hr : r.state <;> simp_all

/-- A reading of the recording. -/
theorem recordReading_took (hvalid : x.valid) (hseen : r.seen)
    (hstep : r.step (x.t - r.lastUs) = some (step, residual))
    (hdark : r.state = .waiting → learnPaper r.paper x.dark + recRise ≤ x.dark) :
    Took c r x ((r.opened c x residual).recordReading c x.t x.dark step) := by
  unfold Record.recordReading
  by_cases hroom : recMax ≤ (r.opened c x residual).sample.length
  · rw [if_pos hroom]
    exact .failed _ _ ((opened_seen r c x residual).trans hseen) nofun
  rw [if_neg hroom]
  have hopens : Opens c r x step residual := ⟨hvalid, hseen, hstep, hdark, Nat.lt_of_not_le hroom⟩
  have hnoted := (noted_seen r c x step residual).trans hseen
  dsimp only
  split
  · exact .failed _ _ ((opened_seen r c x residual).trans hseen) nofun
  change Took c r x ((r.noted c x step residual).listen c x.t x.dark step)
  unfold Record.listen
  split
  · exact .failed _ _ hnoted nofun
  by_cases hwhite : (r.noted c x step residual).white x.dark
  · rw [if_neg (by simp [hwhite])]
    change Took c r x (if (r.heard c x step residual).whiteUs < _ then _ else _)
    split
    · exact .white step residual hopens hwhite
    · exact conclude_took hopens hwhite
  · rw [if_pos (by simp [hwhite])]
    by_cases hquiet : (r.noted c x step residual).state = .quiet
    · rw [if_pos hquiet]
      exact .failed _ _ hnoted nofun
    · rw [if_neg hquiet]
      refine .ink step residual hopens ?_
      rw [noted_state, opened_state] at hquiet
      rw [opened_state]
      cases hr : r.state <;> simp_all

/-- A waiting reading. -/
theorem waitReading_took (hvalid : x.valid)
    (hstep : r.step (x.t - r.lastUs) = some (step, residual)) (hseen : r.seen)
    (hwaiting : r.state = .waiting) :
    Took c r x ((r.ticked x residual).waitReading c x.t x.dark step) := by
  unfold Record.waitReading
  dsimp only
  split
  · rename_i hblocked
    exact .blocked residual hwaiting hseen hblocked.1
  by_cases hlight : x.dark < learnPaper r.paper x.dark + recRise
  · rw [if_pos (show x.dark < learnPaper (r.ticked x residual).paper x.dark + recRise from hlight)]
    exact .light step residual _ hwaiting hseen hstep hlight
  · rw [if_neg (show ¬x.dark < learnPaper (r.ticked x residual).paper x.dark + recRise from hlight)]
    have h := recordReading_took (c := c) hvalid hseen hstep fun _ => Nat.le_of_not_lt hlight
    rw [Record.opened, if_pos hwaiting] at h
    exact h

/-- **One call** of the record reader. -/
theorem update_took (hc : configValid c) (r : Record) (x : RecCall) :
    Took c r x (r.call c x) := by
  unfold Record.call Record.update
  rw [if_neg (by simp [hc])]
  by_cases hvalid : x.valid
  · rw [if_neg (by simp [hvalid])]
    by_cases hseen : r.seen
    · rw [if_neg (by simp [hseen])]
      rcases hstep : r.step (x.t - r.lastUs) with - | ⟨step, residual⟩
      · exact .restart _ {} (.inl rfl) (by split <;> exact nofun)
      · dsimp only
        split
        · exact .restart _ {} (.inl rfl) (by split <;> exact nofun)
        · by_cases hwaiting : r.state = .waiting
          · rw [if_pos hwaiting]
            exact waitReading_took hvalid hstep hseen hwaiting
          · rw [if_neg hwaiting]
            have h := recordReading_took (c := c) hvalid hseen hstep fun hw => absurd hw hwaiting
            rw [Record.opened, if_neg hwaiting] at h
            exact h
    · rw [if_pos (by simp [hseen])]
      exact .restart _ r (.inr ⟨rfl, by simpa using hseen⟩) nofun
  · rw [if_pos (by simp [hvalid])]
    exact .reset

/-! ## The ring -/

theorem satAdd_le (a b : ℕ) : satAdd a b ≤ a + b := by
  unfold satAdd
  split <;> omega

theorem step_le {gapUs : UInt32} (h : r.step gapUs = some (step, residual)) :
    step ≤ recStepMax := by
  unfold Record.step at h
  dsimp only at h
  split at h
  · cases h
  · rename_i hok
    rw [not_or, Nat.not_lt] at hok
    cases h
    exact hok.2

def timeOf (samples : List Sample) : ℕ := (samples.map Sample.stepUs).sum

/-- The ring is not too long, its steps fit, and its clock is the time of its readings after the
first. -/
structure RingOk (r : Record) : Prop where
  length : r.pre.length ≤ recPreMax
  steps : ∀ s ∈ r.pre, s.step ≤ recStepMax
  first : ∀ s, r.pre.head? = some s → s.step = 0
  time : r.preUs = timeOf r.pre

/-- The oldest readings of the ring are dropped, and leave no more white than the time they took
out. -/
structure Shrunk (r r' : Record) : Prop where
  ring : RingOk r'
  fields : r' = { r with pre := r'.pre, leadingUs := r'.leadingUs, preUs := r'.preUs }
  credit : r'.leadingUs + r'.preUs ≤ r.leadingUs + r.preUs
  length : r'.pre.length ≤ r.pre.length

theorem Shrunk.refl (h : RingOk r) : Shrunk r r := ⟨h, rfl, le_rfl, le_rfl⟩

theorem Shrunk.trans {r₁ r₂ r₃ : Record} (h : Shrunk r₁ r₂) (h' : Shrunk r₂ r₃) :
    Shrunk r₁ r₃ := by
  refine ⟨h'.ring, ?_, h'.credit.trans h.credit, h'.length.trans h.length⟩
  rw [h'.fields, h.fields]

/-- One reading is dropped from the ring. -/
theorem RingOk.preDrop_shrunk (h : RingOk r) : Shrunk r r.preDrop := by
  rcases hpre : r.pre with - | ⟨a, - | ⟨b, rest⟩⟩
  · rw [show r.preDrop = r by simp [Record.preDrop, hpre]]
    exact .refl h
  · rw [show r.preDrop = r by simp [Record.preDrop, hpre]]
    exact .refl h
  · have hdrop : r.preDrop = { r with
        pre := ⟨b.dark, 0⟩ :: rest
        leadingUs := if a.dark ≤ recFaintBand ∧ b.dark ≤ recFaintBand then
          satAdd r.leadingUs b.stepUs else 0
        preUs := r.preUs - b.stepUs } := by
      simp [Record.preDrop, hpre]
    have ha : a.step = 0 := h.first a (by simp [hpre])
    have htime : r.preUs = b.stepUs + timeOf rest := by
      rw [h.time, hpre]
      simp [timeOf, Sample.stepUs, ha]
    have hlength := h.length
    have hsteps := h.steps
    rw [hpre] at hlength hsteps
    rw [hdrop]
    refine ⟨⟨?_, ?_, ?_, ?_⟩, rfl, ?_, ?_⟩
    · exact (Nat.le_succ _).trans hlength
    · intro s hs
      rcases List.mem_cons.1 hs with rfl | hs
      · exact Nat.zero_le _
      · exact hsteps s (by simp [hs])
    · simp
    · simp [timeOf, Sample.stepUs, htime] at htime ⊢
    · have hsat := satAdd_le r.leadingUs b.stepUs
      dsimp only
      split <;> omega
    · simp [hpre]

theorem RingOk.preShrink_shrunk (h : RingOk r) (rounds : ℕ) : Shrunk r (preShrink rounds r) := by
  induction rounds generalizing r with
  | zero => exact .refl h
  | succ rounds ih =>
    unfold preShrink
    split
    · exact h.preDrop_shrunk.trans (ih h.preDrop_shrunk.ring)
    · exact .refl h

theorem preDrop_length (h : 1 < r.pre.length) : r.preDrop.pre.length + 1 = r.pre.length := by
  rcases hpre : r.pre with - | ⟨a, - | ⟨b, rest⟩⟩ <;> simp_all [Record.preDrop]

/-- One reading is added to the ring. -/
theorem RingOk.append (h : RingOk r) {d : ℕ} (hroom : r.pre.length < recPreMax)
    (hstep : step ≤ recStepMax) (hfirst : r.pre = [] → step = 0) :
    RingOk { r with pre := r.pre ++ [⟨d, step⟩], preUs := r.preUs + step * recStepUs } where
  length := by simpa using Nat.succ_le_of_lt hroom
  steps s hs := by
    rcases List.mem_append.1 hs with hs | hs
    · exact h.steps s hs
    · rw [List.mem_singleton.1 hs]
      exact hstep
  first s hs := by
    rcases hpre : r.pre with - | ⟨a, rest⟩
    · obtain rfl : ⟨d, step⟩ = s := by simpa [hpre] using hs
      exact hfirst hpre
    · exact h.first s (by simpa [hpre] using hs)
  time := by simp [timeOf, Sample.stepUs, h.time]

/-- **A reading more in the ring.**  The leading white and the ring together grow by no more than
its step. -/
theorem RingOk.prePush (h : RingOk r) (dark : ℕ) (hstep : step ≤ recStepMax) :
    RingOk (r.prePush dark step) ∧
      r.prePush dark step = { r with
        pre := (r.prePush dark step).pre
        leadingUs := (r.prePush dark step).leadingUs
        preUs := (r.prePush dark step).preUs } ∧
      (r.prePush dark step).leadingUs + (r.prePush dark step).preUs ≤
        r.leadingUs + r.preUs + step * recStepUs := by
  unfold Record.prePush
  generalize hr₀ : (if r.pre.length = recPreMax then r.preDrop else r) = r₀
  have hshrunk : Shrunk r r₀ := by
    rw [← hr₀]
    split
    · exact h.preDrop_shrunk
    · exact .refl h
  have hroom : r₀.pre.length < recPreMax := by
    rw [← hr₀]
    split
    · rename_i hfull
      have := preDrop_length (r := r) (by rw [hfull]; decide)
      omega
    · exact lt_of_le_of_ne h.length ‹_›
  dsimp only
  generalize hstep' : (if r₀.pre.length = 0 then 0 else step) = step'
  have hle : step' ≤ step := by
    rw [← hstep']
    split <;> omega
  have hring := hshrunk.ring.append (d := dark) hroom (hle.trans hstep) fun hnil => by
    rw [← hstep', hnil]
    rfl
  have hfinal := hring.preShrink_shrunk (r₀.pre ++ [Sample.mk dark step']).length
  refine ⟨hfinal.ring, ?_, hfinal.credit.trans ?_⟩
  · rw [hfinal.fields, hshrunk.fields]
  · have hcredit := hshrunk.credit
    have hmul : step' * recStepUs ≤ step * recStepUs := Nat.mul_le_mul_right _ hle
    dsimp only
    omega

theorem prePush_fields (r : Record) (dark step : ℕ) : ∃ pre leadingUs preUs,
    r.prePush dark step = { r with pre := pre, leadingUs := leadingUs, preUs := preUs } := by
  have hdrop (r : Record) : ∃ pre leadingUs preUs,
      r.preDrop = { r with pre := pre, leadingUs := leadingUs, preUs := preUs } := by
    unfold Record.preDrop
    split <;> exact ⟨_, _, _, rfl⟩
  have hshrink (rounds : ℕ) (r : Record) : ∃ pre leadingUs preUs,
      preShrink rounds r = { r with pre := pre, leadingUs := leadingUs, preUs := preUs } := by
    induction rounds generalizing r with
    | zero => exact ⟨_, _, _, rfl⟩
    | succ rounds ih =>
      unfold preShrink
      split
      · obtain ⟨_, _, _, hr⟩ := hdrop r
        rw [hr]
        exact ih _
      · exact ⟨_, _, _, rfl⟩
  unfold Record.prePush
  split
  · obtain ⟨_, _, _, hr⟩ := hdrop r
    rw [hr]
    exact hshrink _ _
  · exact hshrink _ _

theorem prePush_keeps (r : Record) (dark step : ℕ) :
    (r.prePush dark step).seen = r.seen ∧ (r.prePush dark step).state = r.state ∧
      (r.prePush dark step).paper = r.paper := by
  obtain ⟨_, _, _, h⟩ := prePush_fields r dark step
  rw [h]
  exact ⟨rfl, rfl, rfl⟩

/-- The ring holds the last readings. -/
theorem prePush_suffix (r : Record) (dark step : ℕ) :
    (r.prePush dark step).pre.map Sample.dark <:+ r.pre.map Sample.dark ++ [dark] := by
  have hdrop (r : Record) : r.preDrop.pre.map Sample.dark <:+ r.pre.map Sample.dark := by
    rcases hpre : r.pre with - | ⟨a, - | ⟨b, rest⟩⟩ <;> simp [Record.preDrop, hpre]
  have hshrink (rounds : ℕ) (r : Record) :
      (preShrink rounds r).pre.map Sample.dark <:+ r.pre.map Sample.dark := by
    induction rounds generalizing r with
    | zero => exact List.suffix_rfl
    | succ rounds ih =>
      unfold preShrink
      split
      · exact (ih _).trans (hdrop r)
      · exact List.suffix_rfl
  refine (hshrink _ _).trans ?_
  simp only [List.map_append, List.map_cons, List.map_nil]
  split
  · exact (List.suffix_append_self_iff.2 (hdrop r))
  · exact List.suffix_rfl

/-- The recording is not too long, its steps fit, and its clock is the time of its readings. -/
structure FrameOk (r : Record) : Prop where
  length : r.sample.length ≤ recMax
  steps : ∀ s ∈ r.sample, s.step ≤ recStepMax
  time : r.frameUs = timeOf r.sample

theorem timeOf_le {samples : List Sample} (h : ∀ s ∈ samples, s.step ≤ recStepMax) :
    timeOf samples ≤ samples.length * 31500 := by
  induction samples with
  | nil => rfl
  | cons s samples ih =>
    have hs : s.stepUs ≤ 31500 := Nat.mul_le_mul_right recStepUs (h s List.mem_cons_self)
    have := ih fun s' hs' => h s' (List.mem_cons_of_mem s hs')
    simp only [timeOf, List.map_cons, List.sum_cons, List.length_cons] at this ⊢
    omega

/-- The frame begins with the ring. -/
theorem FrameOk.trigger (h : RingOk r) : FrameOk (r.trigger c) where
  length := by
    have := h.length
    simp only [Record.trigger]
    split
    · exact (by decide : 1 ≤ recMax)
    · exact this.trans (by decide)
  steps s hs := by
    simp only [Record.trigger] at hs
    split at hs
    · rw [List.mem_singleton.1 hs]
      exact Nat.zero_le _
    · exact h.steps s hs
  time := by
    have htime := h.time
    simp only [Record.trigger]
    split
    · rename_i hnil
      simp [timeOf, Sample.stepUs, htime, List.eq_nil_of_length_eq_zero hnil]
    · exact htime

theorem FrameOk.store (h : FrameOk r) {dark : ℕ} (hroom : r.sample.length < recMax)
    (hstep : step ≤ recStepMax) : FrameOk (r.store dark step) where
  length := by simpa [Record.store] using Nat.succ_le_of_lt hroom
  steps s hs := by
    rcases List.mem_append.1 hs with hs | hs
    · exact h.steps s hs
    · rw [List.mem_singleton.1 hs]
      exact hstep
  time := by
    have hle := timeOf_le h.steps
    have hmul : step * recStepUs ≤ 31500 := Nat.mul_le_mul_right recStepUs hstep
    have hlen : r.sample.length * 31500 < 2048 * 31500 :=
      Nat.mul_lt_mul_of_pos_right hroom (by decide)
    simp only [Record.store, satAdd, h.time]
    rw [if_neg (by omega)]
    simp [timeOf, Sample.stepUs]

end RoboticCar.Barcode
