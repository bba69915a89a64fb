import RoboticCar.Drive.Turns
import RoboticCar.Navigation.Rearm

/-!
# Barcodes that the drive hears

Navigation looks for barcodes whenever it tracks the line, but the drive listens only while it
follows the line.  A barcode that ends while the car brakes, reacquires the line or is held is lost
(`barcode_lost_while_braking`).  By `barcodes_noticed` nothing else loses one.
-/

namespace RoboticCar.Navigation

open Lib CFloat Barcode

variable {F D : Type} [CFloat F] [CFloat D]

namespace Nav

/-- Navigation does not look for barcodes, or both readers are between two of them and no failure is
held back. -/
def Between (n : Nav F D readers) : Prop :=
  n.mode ≠ .track ∨
    Live.pending n.barcode = false ∧ Record.active n.barcodeRecord = false ∧
      n.barcodeHeld = .none ∧ recStepMax * recStepUs < n.config.barcode.maxRunUs.toNat

instance (n : Nav F D readers) : Decidable n.Between :=
  inferInstanceAs (Decidable (_ ∨ _ ∧ _ ∧ _ ∧ _))

variable {frame : SensorFrame} {odometry : Option (OdometrySample D)}

omit [CFloat F] in
theorem processHealth_held {n : Nav F D readers} {faultMask : UInt8} {sampleTimeBad : Bool}
    (h : (n.processHealth frame odometry faultMask sampleTimeBad).2.lifecycle = .active) :
    (n.processHealth frame odometry faultMask sampleTimeBad).2.barcodeHeld = n.barcodeHeld := by
  simp only [processHealth, assess] at h ⊢
  split_ifs at h ⊢ <;> first | rfl | cases h

theorem observe_held {n : Nav F D readers} (h : (n.observe frame odometry).2.lifecycle = .active) :
    (n.observe frame odometry).2.barcodeHeld = n.barcodeHeld := by
  have hsensors : ((n.enterFrame frame).processSensors frame (n.frameTimeBad frame)
      (.const ⟨false, 0, .unknown⟩)).nav.barcodeHeld = n.barcodeHeld := by
    refine List.foldlRecOn (motive := fun s : Sampling F D readers =>
      s.nav.barcodeHeld = n.barcodeHeld) SensorId.all _ rfl fun s hs i _ => ?_
    simp only [processSensor]
    split
    · split <;> exact hs
    · exact hs
  exact (processHealth_held h).trans hsensors

/-- Between two barcodes a frame reports none. -/
theorem Between.silent {n n' : Nav F D readers} (h : n.Between) {out : NavOutput F D}
    (hp : n.process frame odometry = some (out, n')) : out.events.barcode = false := by
  refine Bool.eq_false_iff.2 fun hevent => ?_
  obtain ⟨hn', hshown⟩ := process_shown (p := ⟨frame, odometry, out⟩) hp
  obtain ⟨hactive, result, hresult, -⟩ := hshown.event hevent
  have hkeeps := (Nav.processBarcode_only (n.observe frame odometry).2 frame
    (n.observe frame odometry).1).keeps
  have hlife := hkeeps.1.symm.trans (hn' ▸ hactive)
  obtain ⟨-, hrearm, -, -⟩ := Nav.observe_active hlife
  have hheld := observe_held hlife
  have hconfig := (Nav.latches_observe n frame odometry).2.1
  simp only [rearm, RearmState.mk.injEq] at hrearm
  obtain ⟨hmode, -, -, -, -, -, -, hbarcode, hrecord⟩ := hrearm
  generalize n.observe frame odometry = seen at *
  obtain ⟨o, m⟩ := seen
  unfold processBarcode at hresult
  dsimp only at hresult
  split_ifs at hresult with hoff hgate
  rw [not_or, not_not] at hoff
  rcases h with htrack | ⟨hpending, hidle, hnone, hrun⟩
  · exact htrack (hmode.symm.trans hoff.1)
  · obtain ⟨hb, hr⟩ := rearmGate_fields m frame o
    have hgheld : (m.rearmGate frame o).2.barcodeHeld = n.barcodeHeld := by
      rw [← hheld]
      simp only [Nav.rearmGate, Nav.rearmReady]
      split_ifs <;> rfl
    have hgconfig := (m.rearmGate_only frame o).keeps.2.1
    rcases (readBarcode_spec (by rw [hgheld, hnone]; rintro _ ⟨⟩) _ _).2 result hresult with
      hlive | ⟨-, hrec⟩
    · have hcandidate := Live.pending_of_decoded hlive
      rw [hb, hbarcode, hpending] at hcandidate
      cases hcandidate
    · have hactive : Record.active (m.rearmGate frame o).2.barcodeRecord = true :=
        Record.active_of_decoded (by rw [hgconfig, hconfig]; exact hrun) hrec
      rw [hr, hrecord, hidle] at hactive
      cases hactive

end Nav

end RoboticCar.Navigation

namespace RoboticCar.Driving

open Lib CFloat Motion Navigation Prog

variable {F D : Type} {B : BarcodeReaders}

/-! ## What becomes of a barcode -/

/-- The barcode is noticed: the run is over, its action is pending, or it was used at the junction.
-/
def Noticed (out : NavOutput F D) (d' : Drive F D B) : Prop :=
  d'.running = false ∨ out.action ≠ .none ∧ d'.pending = out.action ∨
    out.events.junction = true ∧ out.action = .straight ∧ d'.state = .follow ∧ d'.pending = .none

theorem Core.Hears.pending_eq {cue : Cue} {c c' : Core} {a : NavAction} (h : c.Hears cue c')
    (ha : cue.heard = some a) : a ≠ .none ∧ c'.pending = a ∧ c'.state = c.state := by
  cases h with
  | silent hnone => cases hnone.symm.trans ha
  | heard b hb hne =>
    obtain rfl := Option.some.inj (hb.symm.trans ha)
    exact ⟨hne, rfl, rfl⟩

theorem Leg.pending_eq {cue : Cue} {c c' : Core} {u : List (Event F)} (h : Leg cue c u c') :
    c'.pending = c.pending := by
  have hforget : (c.forget cue).pending = c.pending := by
    rw [Core.forget]
    split <;> rfl
  cases h with
  | rest | look => exact hforget
  | _ => rfl

/-- A move that follows the line notices a barcode. -/
theorem Move.notices {cue : Cue} {c c' : Core} {u : List (Event F)} {a : NavAction}
    (h : Move cue c u c') (hs : c.state = .follow) (ho : c.obstacleActive = false)
    (ha : cue.heard = some a) :
    a ≠ .none ∧ c'.pending = a ∨
      cue.junction ∧ a = .straight ∧ c'.state = .follow ∧ c'.pending = .none := by
  have hlisten {c₁ : Core} (hl : c.Listens cue c₁) :
      a ≠ .none ∧ c₁.pending = a ∨
        cue.junction = true ∧ a = .straight ∧ c₁.state = .follow ∧ c₁.pending = .none := by
    cases hl with
    | keep hh => exact .inl ⟨(hh.pending_eq ha).1, (hh.pending_eq ha).2.1⟩
    | cross hh hj hp =>
      obtain ⟨hne, hpending, hstate⟩ := hh.pending_eq ha
      rw [hpending] at hp
      exact .inr ⟨hj, hp.resolve_left hne, hstate.trans hs, rfl⟩
  cases h with
  | @brake c₁ _ hh =>
    obtain ⟨hne, hpending, -⟩ := hh.pending_eq ha
    exact .inl ⟨hne, c₁.requestStop_pending.trans hpending⟩
  | wait _ hl => exact hlisten hl
  | steer _ hl =>
    have h₁ := hlisten hl
    exact h₁
  | @pause c₁ _ hl =>
    rw [c₁.requestStop_pending, c₁.requestStop_state]
    exact hlisten hl
  | detour hd => cases ho.symm.trans hd
  | @beginDetour c₁ _ _ _ _ _ hh hl =>
    obtain ⟨hne, hpending, -⟩ := hh.pending_eq ha
    exact .inl ⟨hne, hl.pending_eq.trans (c₁.requestStop_pending.trans hpending)⟩
  | brakeWait hs' | advance hs' | turn hs' | found hs' | sweep hs' | turnWait hs' | advanced hs'
  | turned hs' | missed hs' | reacquireWait hs' | reacquired hs' =>
    cases hs.symm.trans hs'

namespace Drive

variable [CFloat D] {s5 : Bool} {m : Drive F D B} {now : UInt32}

theorem halt_stops (ho : m.DetourOff s5) {state : DriveState} (hs : state.running = false)
    (reason : Reason) : (m.halt s5 state reason).Ensures fun _ d' => d'.running = false :=
  (halt_ensures ho state reason).mono fun _ _ h => h.2.running_eq.trans hs

/-- So does a cycle, unless it ends the run. -/
theorem Outcome.noticed {done : Bool} {u : List (Event F)} {d' : Drive F D B}
    (h : Outcome (m.cue s5 done) m u d') (hs : m.state = .follow) (hoff : m.obstacleActive = false)
    (hb : m.output.events.barcode) : Noticed m.output d' := by
  cases h with
  | moves hm => exact .inr (hm.notices hs hoff (if_pos hb))
  | halts _ _ hstate hh =>
    refine .inl (hh.running_eq.trans ?_)
    rcases hstate with rfl | rfl <;> rfl

variable [CFloat F] [CDouble F D]

/-- **A barcode on the followed line is noticed.** -/
theorem act_notices {done : Bool} (hs : m.state = .follow) (hoff : m.obstacleActive = false)
    (hb : m.output.events.barcode) :
    (m.act s5 now done).Ensures fun _ d' => Noticed m.output d' := by
  have hrun : m.running := by
    rw [running, hs]
    rfl
  refine (act_outcome hrun fun _ => hoff).mono fun _ _ h => ?_
  obtain ⟨_, -, houtcome⟩ := h
  exact houtcome.noticed hs hoff hb

theorem control_notices {healthy done : Bool} (hreset : m.resetResult ≠ .pending)
    (hs : m.state = .follow) (hoff : m.obstacleActive = false) (hhold : m.externalHold = false)
    (hb : m.output.events.barcode) :
    (m.control s5 now healthy done).Ensures fun _ d' => Noticed m.output d' := by
  have hhalt (reason : Reason) :
      (m.halt s5 .fault reason).Ensures fun _ d' => Noticed m.output d' :=
    (halt_stops (fun _ => hoff) rfl reason).mono fun _ _ h => .inl h
  have hrun : m.running := by rw [running, hs]; rfl
  rw [control]
  split_ifs with hpending hstop hfeed hidle hrep hheld
  · exact absurd hpending hreset
  · exact hhalt _
  · exact hhalt _
  · exact absurd hrun (by simpa using hidle)
  · exact hhalt _
  · cases hhold.symm.trans hheld
  · exact act_notices hs hoff hb

end Drive

variable [CFloat F] [CFloat D] [CDouble F D] {s5 : Bool}

/-- A cycle of a run that does not follow the line, or is held, finds both readers between two
barcodes. -/
def Attentive (d : Drive F D Barcode.readers) : Prop :=
  d.running = true → d.state = .follow ∧ d.externalHold = false ∨ d.navigation.Between

instance (d : Drive F D Barcode.readers) : Decidable (Attentive d) :=
  inferInstanceAs (Decidable (_ → _ ∧ _ ∨ _))

/-- **An attentive cycle notices its barcode.** -/
theorem Drive.process_notices {d : Drive F D Barcode.readers} (h : Inv s5 d) (ht : d.core.Tidy)
    (ha : Attentive d) (hrun : d.running) {frame : SensorFrame}
    {feedback : Option (MotionFeedback D)} {out : NavOutput F D} {n : Nav F D Barcode.readers}
    (hn : d.navigation.process frame (some (odometryOf (feedback.getD noFeedback))) =
      some (out, n)) (hb : out.events.barcode) :
    (d.process s5 (some frame) feedback).Ensures fun _ d' => Noticed out d' := by
  rcases ha hrun with ⟨hs, hhold⟩ | hbetween
  · have hreset : d.resetResult ≠ .pending := fun hp =>
      absurd (hs.symm.trans (h.resetting hp)) (by simp)
    have hoff : d.obstacleActive = false := (ht.of_follow hs).2.2
    simp only [process, h.configured, Bool.not_true, Bool.false_eq_true, if_false, ensures_bind]
    refine (receiveReports_ensures _).mono fun t acc _ => ?_
    simp only [navigate, hn]
    exact control_notices hreset hs hoff hhold hb
  · exact absurd ((hbetween.silent hn).symm.trans hb) (by simp)

/-- **No barcode is silently ignored** in a run of attentive cycles: a reported one ends the run,
becomes the pending action, or is used at the junction of the same cycle. -/
theorem barcodes_noticed {config : NavConfig F D} {d₀ d d' : Drive F D Barcode.readers}
    {l : List (Made F D)} {a : Made F D} {out : NavOutput F D} (hinit : Drive.init config = some d₀)
    (hpath : Runs s5 d₀ l d) (hstep : Step s5 d a d') (ha : Attentive d) (hrun : d.running = true)
    (hout : outputOf d a.op = some out) (hb : out.events.barcode = true) : Noticed out d' := by
  have hinv := Inv.runs hinit hpath
  have htidy := tidy_runs hinit hpath
  obtain ⟨op, calls, ok⟩ := a
  cases op with
  | process frame feedback =>
    cases frame with
    | none => cases hout
    | some frame =>
      obtain ⟨⟨out', n⟩, hn, hout'⟩ := Option.map_eq_some_iff.1 hout
      obtain rfl : out' = out := hout'
      have hensures := Drive.process_notices hinv htidy ha hrun hn hb
      have hop : ((Op.process (some frame) feedback : Op F D).run s5 d).Ensures fun _ r =>
          Noticed out' r.2 := by
        rw [Op.run, ensures_bind]
        exact hensures.mono fun _ e he => ensures_pure.2 he
      exact hop _ _ hstep
  | _ => cases hout

/-! ## Two barcodes on the bench -/

section Bench

open Barcode

/-- The bench with the real readers; A asks for a left turn and every other letter for a right
one. -/
def cardConfig : NavConfig ℚ ℚ :=
  { benchNavConfig with
    map := fun letter => if letter = 0 then .left else .right
    rearmStableUs := 1
    rearmDistanceM := 1 / 1000 }

def cardDrive : Drive ℚ ℚ readers := (Drive.init cardConfig).get (by decide +kernel)

/-- A cycle after `t` ms, the barcode sensor on black or white, at a junction or not, 0.1 mm on per
ms. -/
def cardCycle (t : ℕ) (black junction : Bool) (state : MotionState) (id : UInt8) : Op ℚ ℚ :=
  let now := UInt32.ofNat (1000 * t)
  let raw (dark : Bool) : ℕ := if dark then 3000 else 1000
  .process (some ⟨now, ⟨now, raw black, 0, true, true⟩, ⟨now, raw junction, 0, true, true⟩,
      ⟨now, raw junction, 0, true, true⟩⟩)
    (some ⟨t / 10000, now, 0, state, .none, true, state = .idle, id, 0⟩)

def cardStart : List (Op ℚ ℚ) :=
  let collector : CalibrationCollector := ⟨⟨10, 10000, 1000, 1000⟩, ⟨10, 30000, 3000, 3000⟩⟩
  [.applyCalibration .barcode collector, .applyCalibration .left collector,
    .applyCalibration .right collector, cardCycle 10 false false .idle 0, .start 10000,
    cardCycle 20 false false .idle 0]

def cardStripes (pattern : ℕ) : List ℕ :=
  [8, 7, 6, 5, 4, 3, 2, 1, 0].map fun i => if pattern.testBit i then 6 else 3

def shades : Bool → List ℕ → List (ℕ × Bool)
  | _, [] => []
  | black, w :: ws => List.replicate w (10, black) ++ shades (!black) ws

def card (pattern : ℕ) : List (ℕ × Bool) :=
  shades true (cardStripes star ++ [3] ++ cardStripes pattern ++ [3] ++ cardStripes star)

def margin (n : ℕ) : List (ℕ × Bool) := (10, false) :: List.replicate n (30, false)

/-- The cycles of samples that follow the time `t`. -/
def cardCycles (junction : Bool) : ℕ → List (ℕ × Bool) → List (Op ℚ ℚ)
  | _, [] => []
  | t, (step, black) :: l =>
    cardCycle (t + step) black junction .velocity 1 :: cardCycles junction (t + step) l

def attend : List (Op ℚ ℚ) → Drive ℚ ℚ readers → Drive ℚ ℚ readers
  | [], d => d
  | op :: ops, d =>
    -- no cycle before the junction looks at these two; evaluating them here keeps the run shallow
    match !d.options.crossStraight && d.navigation.config.line.between with
    | true => attend ops (obligedCall false d op []).2
    | false => d

theorem runs_attend (ops : List (Op ℚ ℚ)) (d : Drive ℚ ℚ readers) :
    ∃ l, Runs false d l (attend ops d) := by
  induction ops generalizing d with
  | nil => exact ⟨[], .nil⟩
  | cons op ops ih =>
    rw [attend]
    split
    · obtain ⟨l, hl⟩ := ih (obligedCall false d op []).2
      exact ⟨_, Run.Path.append (.snoc .nil (step_obligedCall false d op [])) hl⟩
    · exact ⟨[], .nil⟩

/-- The drive before the last sample of the white behind the card of A. -/
def beforeFirst : Drive ℚ ℚ readers :=
  attend (cardStart ++ cardCycles false 20 (margin 11 ++ card 0x109 ++ margin 9)) cardDrive

def firstCycle : Op ℚ ℚ := cardCycle 1810 false false .velocity 1

/-- The drive before the last sample of the white behind the card of B: it has come to a junction
meanwhile. -/
def beforeSecond : Drive ℚ ℚ readers :=
  attend (cardCycles false 1810 (List.replicate 12 (30, false) ++ card 0x049 ++ margin 5) ++
      cardCycles true 3470 (List.replicate 4 (30, false)))
    (obligedCall false beforeFirst firstCycle []).2

def secondCycle : Op ℚ ℚ := cardCycle 3620 false true .velocity 1

theorem card_run :
    (beforeFirst.state = .follow ∧ beforeFirst.externalHold = false ∧
      (outputOf beforeFirst firstCycle).any (·.events.barcode) = true) ∧
    beforeSecond.state = .braking ∧
      (outputOf beforeSecond secondCycle).any (fun out =>
        out.events.barcode && out.action = .right) = true ∧
      (obligedCall false beforeSecond secondCycle []).2.state = .braking ∧
      (obligedCall false beforeSecond secondCycle []).2.pending = .left := by
  decide +kernel

theorem runs_beforeFirst : ∃ l, Runs false cardDrive l beforeFirst := runs_attend _ _

theorem runs_beforeSecond : ∃ l, Runs false cardDrive l beforeSecond := by
  obtain ⟨l₁, h₁⟩ := runs_beforeFirst
  obtain ⟨l₂, h₂⟩ := runs_attend
    (cardCycles false 1810 (List.replicate 12 (30, false) ++ card 0x049 ++ margin 5) ++
      cardCycles true 3470 (List.replicate 4 (30, false)))
    (obligedCall false beforeFirst firstCycle []).2
  exact ⟨_, Run.Path.append (.snoc h₁ (step_obligedCall false _ firstCycle [])) h₂⟩

/-- **A barcode is lost.**  The car brakes for the junction after A when it reads B, and the left
turn of A stays pending. -/
theorem barcode_lost_while_braking : ∃ l out,
    Drive.init cardConfig = some cardDrive ∧ Runs false cardDrive l beforeSecond ∧
      Step false beforeSecond (obligedCall false beforeSecond secondCycle []).1
        (obligedCall false beforeSecond secondCycle []).2 ∧
      beforeSecond.running = true ∧
      outputOf beforeSecond (obligedCall false beforeSecond secondCycle []).1.op = some out ∧
      out.events.barcode = true ∧ out.action = .right ∧
      (obligedCall false beforeSecond secondCycle []).2.pending = .left ∧
      ¬Noticed out (obligedCall false beforeSecond secondCycle []).2 := by
  obtain ⟨-, hbraking, hany, hstate, hpending⟩ := card_run
  obtain ⟨l, hl⟩ := runs_beforeSecond
  obtain ⟨out, hout, hright⟩ := (Option.any_eq_true _ _).1 hany
  rw [Bool.and_eq_true, decide_eq_true_eq] at hright
  refine ⟨l, out, (Option.some_get (by decide +kernel)).symm, hl, step_obligedCall _ _ _ _, ?_,
    hout, hright.1, hright.2, hpending, ?_⟩
  · rw [Drive.running, hbraking]
    rfl
  · rintro (hstopped | ⟨-, heard⟩ | ⟨-, -, -, hnone⟩)
    · rw [Drive.running, hstate] at hstopped
      cases hstopped
    · rw [hpending, hright.2] at heard
      cases heard
    · cases hpending.symm.trans hnone

/-- The letter A on the followed line. -/
theorem barcodes_noticed_bench : ∃ l out,
    Runs false cardDrive l beforeFirst ∧
      outputOf beforeFirst (obligedCall false beforeFirst firstCycle []).1.op = some out ∧
      out.events.barcode = true ∧ Noticed out (obligedCall false beforeFirst firstCycle []).2 := by
  obtain ⟨⟨hfollow, hhold, hany⟩, -⟩ := card_run
  obtain ⟨l, hl⟩ := runs_beforeFirst
  obtain ⟨out, hout, hb⟩ := (Option.any_eq_true _ _).1 hany
  exact ⟨l, out, hl, hout, hb, barcodes_noticed (Option.some_get (by decide +kernel)).symm hl
    (step_obligedCall false _ firstCycle []) (fun _ => .inl ⟨hfollow, hhold⟩)
    (by rw [Drive.running, hfollow]; rfl) hout hb⟩

end Bench

end RoboticCar.Driving
