import RoboticCar.Operator.Safety

/-!
# The calibration walkthrough

The panel leads the operator over six steps: white and then black for each of three sensors, with an
apply after each black.  `Walked` lists what a poll can do to the phase and the step
(`poll_walked`).  `Led`: since the step was last 0, the marks of every step below it have been seen
in order; `walkthrough_complete` reads off what READY stands for.
-/

namespace RoboticCar.Operator

open Lib Integration Navigation Prog

def sensorRequest (kind : ControlKind) (sensor : SensorId) : ControlRequest :=
  { kind := kind, sensor := sensor.code }

def OnlyStop (t : List PanelEvent) : Prop := ∀ q, (q, true) ∈ submits t → q.kind = .stop

def Accepts (t : List PanelEvent) (r : ControlRequest) : Prop :=
  (r, true) ∈ submits t ∧ ∀ q, (q, true) ∈ submits t → q = r ∨ q.kind = .stop

theorem onlyStop_of_nil {t : List PanelEvent} (h : submits t = []) : OnlyStop t := by
  simp [OnlyStop, h]

theorem OnlyStop.append {t u : List PanelEvent} (ht : OnlyStop t) (hu : OnlyStop u) :
    OnlyStop (t ++ u) := by
  intro q hq
  rw [submits_append, List.mem_append] at hq
  exact hq.elim (ht q) (hu q)

variable {r : ControlRequest}

/-- STOP requests hide no other. -/
theorem OnlyStop.accepts {t u : List PanelEvent} (ht : OnlyStop t) (hu : Accepts u r) :
    Accepts (t ++ u) r := by
  refine ⟨by simp [hu.1], fun q hq => ?_⟩
  rw [submits_append, List.mem_append] at hq
  exact hq.elim (fun hq => .inr (ht q hq)) (hu.2 q)

theorem accepts_of_sent {t : List PanelEvent} (h : submits t = [(r, true)]) : Accepts t r := by
  simp [Accepts, h]

/-! ## What a poll does to the walkthrough -/

def Phase.Sampling (phase : Phase) : Prop := phase = .calCollect ∨ phase = .calApply

def Phase.Calibrating (phase : Phase) : Prop := phase = .calPrompt ∨ phase.Sampling

theorem Phase.Settled.not_sampling {phase : Phase} (h : phase.Settled) : ¬phase.Sampling := by
  rintro (rfl | rfl) <;> exact h

namespace Panel

def InWalk (op : Panel) : Prop :=
  op.phase.Calibrating ∨ op.phase = .reset ∧ op.resetToCal = true

def sensor (op : Panel) : SensorId := order (op.step / 2)

/-- What a poll can do to the phase and the step. -/
inductive Walked (op : Panel) (status : Option Status) (t : List PanelEvent) (op' : Panel) : Prop
  /-- The step stays, and the walkthrough is left or entered by no one. -/
  | keeps (hstep : op'.step = op.step) (hphase : op'.phase = op.phase ∨ ¬op'.phase.Sampling)
      (hwalk : op'.InWalk ↔ op.InWalk) (hquiet : op'.phase = .calApply → OnlyStop t)
  /-- The walkthrough is begun. -/
  | begins (hwalk : ¬op.InWalk) (hphase : ¬op'.phase.Sampling) (hstep : op'.step = 0)
  | collects (hphase : op.phase = .calPrompt) (hphase' : op'.phase = .calCollect)
      (hstep : op'.step = op.step)
      (hsent : Accepts t (sensorRequest (if op.step % 2 ≠ 0 then .black else .white) op.sensor))
  /-- White has been collected. -/
  | whitened (hphase : op.phase = .calCollect) (hphase' : op'.phase = .calPrompt)
      (heven : op.step % 2 = 0) (hstep : op'.step = (op.step + 1) % 8)
  /-- Black has been collected, and the calibration is to be applied. -/
  | asks (hphase : op.phase = .calCollect) (hphase' : op'.phase = .calApply)
      (hodd : op.step % 2 = 1) (hstep : op'.step = op.step)
      (hsent : Accepts t (sensorRequest .applyCalibration op.sensor))
  | applied (hphase : op.phase = .calApply)
      (hphase' : op'.phase = if calSteps ≤ op'.step then .ready else .calPrompt)
      (hstep : op'.step = (op.step + 1) % 8)
      (hok : ∃ st, status = some st ∧ op.replied st = some true)
  | rejected (hphase : op.phase = .calApply) (hphase' : op'.phase = .calPrompt)
      (hstep : op'.step = op.step / 2 * 2)
  /-- STOP during an apply: black is collected again. -/
  | redone (hphase : op.phase = .calApply) (hphase' : op'.phase = .calPrompt)
      (hstep : op'.step = op.step / 2 * 2 + 1)

variable {op : Panel} {now : UInt32} {go : Press} {st : Status}

theorem inWalk_of_calPrompt (h : op.phase = .calPrompt) : op.InWalk := .inl (.inl h)

theorem inWalk_of_calCollect (h : op.phase = .calCollect) : op.InWalk := .inl (.inr (.inl h))

theorem inWalk_of_calApply (h : op.phase = .calApply) : op.InWalk := .inl (.inr (.inr h))

/-- The phases outside the walkthrough. -/
theorem not_inWalk (h : op.phase = .ready ∨ op.phase = .reset ∧ op.resetToCal = false ∨
    op.phase = .countdown ∨ op.phase = .start ∨ op.phase = .run ∨ op.phase = .waitStatus) :
    ¬op.InWalk := by
  rcases h with h | ⟨h, h'⟩ | h | h | h | h <;>
    simp_all [InWalk, Phase.Calibrating, Phase.Sampling]

variable {status : Option Status} {t : List PanelEvent} {op' : Panel}

/-- Back to the prompt of the same step. -/
theorem Walked.back (hwalk : op.InWalk) (hphase : op'.phase = .calPrompt)
    (hstep : op'.step = op.step) : op.Walked status t op' := by
  refine .keeps hstep (.inr ?_) (iff_of_true (inWalk_of_calPrompt hphase) hwalk) (by simp [hphase])
  simp [hphase, Phase.Sampling]

/-- The poll changes nothing of the walkthrough. -/
theorem Walked.stays (hstep : op'.step = op.step) (hphase : op'.phase = op.phase)
    (hreset : op'.resetToCal = op.resetToCal) (hquiet : OnlyStop t) : op.Walked status t op' :=
  .keeps hstep (.inl hphase) (by simp [InWalk, hphase, hreset]) fun _ => hquiet

/-- A fault leads to a RESET. -/
theorem Walked.resets (hwalk : op.InWalk) (hphase : op'.phase = .reset)
    (hreset : op'.resetToCal) (hstep : op'.step = op.step) : op.Walked status t op' := by
  refine .keeps hstep (.inr ?_) (iff_of_true (.inr ⟨hphase, hreset⟩) hwalk) (by simp [hphase])
  simp [hphase, Phase.Sampling]

/-- The panel is not in the walkthrough. -/
theorem Walked.outside (hstep : op'.step = op.step) (hop : ¬op.InWalk) (hop' : ¬op'.InWalk) :
    op.Walked status t op' := by
  refine .keeps hstep (.inr fun h => hop' (.inl (.inr h))) (iff_of_false hop' hop) fun h => ?_
  exact absurd (inWalk_of_calApply h) hop'

theorem inWalk_resetTarget (hop : op.phase = .reset) :
    (op.enter op.resetTarget now).InWalk ↔ op.InWalk := by
  cases h : op.resetToCal <;>
    simp [InWalk, enter, resetTarget, h, hop, Phase.Calibrating, Phase.Sampling]

/-- A RESET leads back to where it came from. -/
theorem Walked.returns (hop : op.phase = .reset) :
    op.Walked status t (op.enter op.resetTarget now) := by
  have hsampling : ¬op.resetTarget.Sampling := op.resetTarget_settled.not_sampling
  exact .keeps rfl (.inr hsampling) (inWalk_resetTarget hop) fun h => absurd (.inr h) hsampling

/-- **What a phase does to the walkthrough.** -/
theorem act_walked (op : Panel) (now : UInt32) (go : Press) (st : Status) :
    (op.act now go st).Ensures (op.Walked (some st)) := by
  refine (act_did op now go st).mono fun t op' h => ?_
  generalize hs : submits t = l at h
  cases h with
  | welcomes hop hphase =>
    refine .begins (not_inWalk (by simp [hop])) ?_ rfl
    rcases hphase with rfl | rfl <;> simp [enter, Phase.Sampling]
  | recalibrates hop =>
    exact .begins (not_inWalk (.inl hop)) (by simp [enter, Phase.Sampling]) rfl
  | stays | prompts | samples | shows => exact .stays rfl rfl rfl (onlyStop_of_nil hs)
  | refused _ hop =>
    rcases hop with hop | hop
    · exact .back (inWalk_of_calPrompt hop) hop rfl
    · exact .outside rfl (not_inWalk (.inl hop)) (not_inWalk (.inl hop))
  | @resets _ cal _ _ hop =>
    -- the RESET of a fault in READY leads back to READY
    cases cal with
    | true => exact .resets (inWalk_of_calPrompt hop) rfl rfl rfl
    | false =>
      exact .outside rfl (not_inWalk (.inl hop)) (not_inWalk (.inr (.inl ⟨rfl, rfl⟩)))
  | collects _ hop => exact .collects hop rfl rfl (accepts_of_sent hs)
  | retries hop => exact .back (.inl (.inr hop)) rfl rfl
  | whitened hop heven => exact .whitened hop rfl heven rfl
  | applies hop hodd => exact .asks hop rfl hodd rfl (accepts_of_sent hs)
  | unapplied hop => exact .back (inWalk_of_calCollect hop) rfl rfl
  | rejected hop => exact .rejected hop rfl rfl
  | applied hop hok hphase => exact .applied hop hphase rfl ⟨st, rfl, hok⟩
  | counts hop => exact .outside rfl (not_inWalk (.inl hop)) (not_inWalk (by simp [enter]))
  | returns hop => exact .returns hop
  | starts hop => exact .outside rfl (not_inWalk (by simp [hop])) (not_inWalk (by simp))
  | unstarted hop => exact .outside rfl (not_inWalk (by simp [hop])) (not_inWalk (.inl rfl))
  | leaves hop hphase =>
    refine .outside rfl (not_inWalk ?_) (not_inWalk ?_)
    · rcases hop with hop | hop <;> simp [hop]
    · rcases hphase with rfl | rfl <;> simp [enter]

/-! ### A whole poll -/

theorem Walked.settled (h : op.Walked status t op') (hop : op.phase.Settled) (ht : submits t = []) :
    op'.step = op.step ∧ (op'.InWalk ↔ op.InWalk) ∨ ¬op.InWalk ∧ op'.step = 0 := by
  have hsampling : ¬op.phase.Sampling := hop.not_sampling
  cases h with
  | keeps hstep _ hwalk => exact .inl ⟨hstep, hwalk⟩
  | begins hwalk _ hstep => exact .inr ⟨hwalk, hstep⟩
  | collects _ _ _ hsent => simp [Accepts, ht] at hsent
  | whitened hphase | asks hphase => exact absurd (.inl hphase) hsampling
  | applied hphase | rejected hphase | redone hphase => exact absurd (.inr hphase) hsampling

/-- STOP leaves the step, or repeats black after an apply. -/
theorem stopPressed_walked (op : Panel) (now : UInt32) :
    (op.stopPressed now).Ensures fun _ op' =>
      op'.step = op.step ∧ (op'.InWalk ↔ op.InWalk) ∨
      op.phase = .calApply ∧ op'.phase = .calPrompt ∧ op'.step = op.step / 2 * 2 + 1 := by
  unfold stopPressed
  cases hop : op.phase with
  | waitStatus | calPrompt | ready | run => exact ensures_pure.2 (.inl ⟨rfl, Iff.rfl⟩)
  | calCollect =>
    refine ensures_pure.2 (.inl ⟨rfl, ?_⟩)
    exact iff_of_true (inWalk_of_calPrompt rfl) (inWalk_of_calCollect hop)
  | calApply => exact ensures_pure.2 (.inr ⟨rfl, rfl, rfl⟩)
  | reset => exact ensures_pure.2 (.inl ⟨rfl, inWalk_resetTarget hop⟩)
  | countdown | start =>
    refine ensures_bind.2 (say_spec fun _ _ => ensures_pure.2 (.inl ⟨rfl, ?_⟩))
    exact iff_of_false (not_inWalk (.inl rfl)) (not_inWalk (by simp [hop]))

theorem InWalk.calPrompt (h : op.InWalk) (hop : op.phase.Settled) : op.phase = .calPrompt := by
  rcases h with (h | h) | ⟨h, -⟩
  · exact h
  · exact absurd h hop.not_sampling
  · rw [h] at hop
    exact hop.elim

variable {op₁ : Panel}

/-- A STOP, and a settled phase after it. -/
theorem Walked.stopped (h₁ : op₁.step = op.step ∧ (op₁.InWalk ↔ op.InWalk) ∨
      op.phase = .calApply ∧ op₁.phase = .calPrompt ∧ op₁.step = op.step / 2 * 2 + 1)
    (hs : op'.phase.Settled)
    (h : op'.step = op₁.step ∧ (op'.InWalk ↔ op₁.InWalk) ∨ ¬op₁.InWalk ∧ op'.step = 0) :
    op.Walked status t op' := by
  have hsampling : ¬op'.phase.Sampling := hs.not_sampling
  rcases h₁ with ⟨hstep₁, hwalk₁⟩ | ⟨hop, hop₁, hstep₁⟩
  · rcases h with ⟨hstep, hwalk⟩ | ⟨hwalk, hstep⟩
    · exact .keeps (hstep.trans hstep₁) (.inr hsampling) (hwalk.trans hwalk₁)
        fun h => absurd (.inr h) hsampling
    · exact .begins (mt hwalk₁.2 hwalk) hsampling hstep
  · have hwalk₁ : op₁.InWalk := inWalk_of_calPrompt hop₁
    rcases h with ⟨hstep, hwalk⟩ | ⟨hwalk, -⟩
    · exact .redone hop ((hwalk.2 hwalk₁).calPrompt hs) (hstep.trans hstep₁)
    · exact absurd hwalk₁ hwalk

/-- The panels differ in flags of the buttons only. -/
structure SameWalk (op op₁ : Panel) : Prop where
  phase : op₁.phase = op.phase
  step : op₁.step = op.step
  resetToCal : op₁.resetToCal = op.resetToCal
  replied : ∀ st, op₁.replied st = op.replied st

theorem SameWalk.trans {op₂ : Panel} (h : op.SameWalk op₁) (h' : op₁.SameWalk op₂) :
    op.SameWalk op₂ where
  phase := h'.phase.trans h.phase
  step := h'.step.trans h.step
  resetToCal := h'.resetToCal.trans h.resetToCal
  replied st := (h'.replied st).trans (h.replied st)

theorem SameWalk.inWalk (h : op.SameWalk op₁) : op₁.InWalk ↔ op.InWalk := by
  simp [InWalk, h.phase, h.resetToCal]

/-- A poll after something that only moved flags. -/
theorem Walked.after {u : List PanelEvent} (h : op₁.Walked status u op') (hsame : op.SameWalk op₁)
    (ht : OnlyStop t) : op.Walked status (t ++ u) op' := by
  have hsensor : op₁.sensor = op.sensor := by simp [sensor, hsame.step]
  have hwalk₁ : op₁.InWalk ↔ op.InWalk := hsame.inWalk
  obtain ⟨hphase₁, hstep₁, -, hreplied₁⟩ := hsame
  cases h with
  | keeps hstep hphase hwalk hquiet =>
    rw [hphase₁] at hphase
    exact .keeps (hstep.trans hstep₁) hphase (hwalk.trans hwalk₁) fun h => ht.append (hquiet h)
  | begins hwalk hphase hstep => exact .begins (mt hwalk₁.2 hwalk) hphase hstep
  | collects hphase hphase' hstep hsent =>
    rw [hstep₁, hsensor] at hsent
    exact .collects (hphase₁ ▸ hphase) hphase' (hstep.trans hstep₁) (ht.accepts hsent)
  | whitened hphase hphase' heven hstep =>
    exact .whitened (hphase₁ ▸ hphase) hphase' (hstep₁ ▸ heven) (hstep₁ ▸ hstep)
  | asks hphase hphase' hodd hstep hsent =>
    rw [hsensor] at hsent
    exact .asks (hphase₁ ▸ hphase) hphase' (hstep₁ ▸ hodd) (hstep.trans hstep₁) (ht.accepts hsent)
  | applied hphase hphase' hstep hok =>
    simp only [hreplied₁] at hok
    exact .applied (hphase₁ ▸ hphase) hphase' (hstep₁ ▸ hstep) hok
  | rejected hphase hphase' hstep => exact .rejected (hphase₁ ▸ hphase) hphase' (hstep₁ ▸ hstep)
  | redone hphase hphase' hstep => exact .redone (hphase₁ ▸ hphase) hphase' (hstep₁ ▸ hstep)

theorem inhibited_same (op : Panel) (go : Press) (stopHeld goHeld : Bool) :
    (op.inhibited go stopHeld goHeld).Ensures fun t r => submits t = [] ∧ op.SameWalk r.2 ∧
      (op.inhibit → r.1 = .none) := by
  refine ensures_ite.2 ⟨fun hi => ?_, fun hi => ?_⟩
  · refine ensures_bind.2 (sayIf_spec fun t ht => ensures_pure.2 ?_)
    refine ⟨by simpa using ht, ?_, fun _ => rfl⟩
    cases !stopHeld && !goHeld <;> exact ⟨rfl, rfl, rfl, fun _ => rfl⟩
  · exact ensures_pure.2 ⟨rfl, ⟨rfl, rfl, rfl, fun _ => rfl⟩, fun h => absurd h hi⟩

def stops (op : Panel) (p : Poll) : Bool := p.stopHeld && !op.stopHandled

theorem stopButton_same {p : Poll} (h : op.stops p = false) :
    (op.stopButton now p.stopHeld).Ensures fun t op' => submits t = [] ∧ op.SameWalk op' := by
  refine ensures_ite.2 ⟨fun hheld => ?_, fun _ => ?_⟩
  · have hhandled : op.stopHandled := by simpa [stops, hheld] using h
    refine ensures_ite.2 ⟨fun _ => ?_, fun hh => absurd hhandled hh⟩
    exact ensures_pure.2 ⟨rfl, rfl, rfl, rfl, fun _ => rfl⟩
  · exact ensures_pure.2 ⟨rfl, rfl, rfl, rfl, fun _ => rfl⟩

/-- The poll at which STOP is noticed. -/
theorem stopButton_stops {p : Poll} (h : op.stops p) :
    (op.stopButton now p.stopHeld).Ensures fun t op' =>
      OnlyStop t ∧ op'.phase.Settled ∧ op'.inhibit ∧
      (op'.step = op.step ∧ (op'.InWalk ↔ op.InWalk) ∨
        op.phase = .calApply ∧ op'.phase = .calPrompt ∧ op'.step = op.step / 2 * 2 + 1) := by
  simp only [stops, Bool.and_eq_true, Bool.not_eq_true'] at h
  refine ensures_ite.2 ⟨fun _ => ?_, fun hn => absurd h.1 hn⟩
  refine ensures_ite.2 ⟨fun hh => by simp [h.2] at hh, fun _ => ?_⟩
  refine ensures_bind.2 (ensures_perform.2 fun accepted => ?_)
  refine ensures_bind.2 (sayIf_spec fun t ht => ?_)
  refine ensures_bind.2 (sayIf_spec fun u hu => ?_)
  refine ((stopPressed_spec _ now).and (stopPressed_walked _ now)).mono fun v op' h => ?_
  obtain ⟨⟨hv, -, hinhibit, hsettled⟩, hwalk⟩ := h
  refine ⟨?_, hsettled, hinhibit, hwalk⟩
  simp [OnlyStop, ht, hu, hv]

/-- **What a poll does to the walkthrough.**  A reply is taken only without a new STOP. -/
theorem poll_walked (op : Panel) (p : Poll) :
    (op.poll p).Ensures fun t op' =>
      op.Walked (if op.stops p then none else p.status) t op' := by
  cases hstops : op.stops p with
  | false =>
    refine ensures_bind.2 ((stopButton_same hstops).mono fun t op₁ ⟨ht, h₁⟩ => ?_)
    refine ensures_bind.2 ((inhibited_same op₁ _ _ _).mono fun u r ⟨hu, hr, _⟩ => ?_)
    have hsame : op.SameWalk r.2 := h₁.trans hr
    have htu : OnlyStop (t ++ u) := onlyStop_of_nil (by simp [ht, hu])
    rw [if_neg Bool.false_ne_true]
    cases p.status with
    | none =>
      refine ensures_pure.2 (.stays hsame.step hsame.phase hsame.resetToCal ?_)
      simpa using htu
    | some st =>
      refine (act_walked r.2 p.now r.1 st).mono fun v op' hv => ?_
      rw [← List.append_assoc]
      exact hv.after hsame htu
  | true =>
    refine ensures_bind.2 ((stopButton_stops hstops).mono fun t op₁ ⟨ht, hs, hi, h₁⟩ => ?_)
    refine ensures_bind.2 ((inhibited_same op₁ _ _ _).mono fun u r ⟨hu, hr, hgo⟩ => ?_)
    rw [if_pos rfl]
    have hrs : r.2.phase.Settled := hr.phase ▸ hs
    have hwalk : r.2.step = op.step ∧ (r.2.InWalk ↔ op.InWalk) ∨
        op.phase = .calApply ∧ r.2.phase = .calPrompt ∧ r.2.step = op.step / 2 * 2 + 1 := by
      rw [hr.step, hr.phase, hr.inWalk]
      exact h₁
    cases p.status with
    | none =>
      refine ensures_pure.2 ?_
      exact Walked.stopped hwalk hrs (.inl ⟨rfl, Iff.rfl⟩)
    | some st =>
      -- the phase acts on a panel that the STOP has settled, and without a press
      intro v op' hy
      obtain ⟨hv, hs'⟩ := (act_spec r.2 p.now r.1 st v op' hy).settled hrs (hgo hi)
      exact Walked.stopped hwalk hs' ((act_walked r.2 p.now r.1 st v op' hy).settled hrs hv)

end Panel

/-! ## Marks in the history -/

/-- What the polls can show of the walkthrough. -/
inductive Mark
  | accepted (kind : ControlKind) (sensor : SensorId)
  /-- An ok was taken as the answer to an apply. -/
  | confirmed (sensor : SensorId)

def Polling.Shows (a : Polling) : Mark → Prop
  | .accepted kind sensor => (sensorRequest kind sensor, true) ∈ submits a.exchange
  | .confirmed sensor => a.before.phase = .calApply ∧ a.before.sensor = sensor ∧
      a.before.stops a.poll = false ∧ ∃ st, a.status = some st ∧ a.before.replied st = some true

variable {a : Polling}

/-- A successful apply confirms the sensor. -/
theorem confirmed_of_taken {op : Panel} (ha : a.before = op) (hphase : op.phase = .calApply)
    (hok : ∃ st, (if op.stops a.poll then none else a.status) = some st ∧
      op.replied st = some true) : a.Shows (.confirmed op.sensor) := by
  obtain ⟨st, hst, hreplied⟩ := hok
  subst ha
  cases hstops : a.before.stops a.poll with
  | true => simp [hstops] at hst
  | false => exact ⟨hphase, rfl, hstops, st, by simpa [hstops] using hst, hreplied⟩

def Seen (ms : List Mark) (l : List Polling) : Prop :=
  List.SublistForall₂ (fun m a => Polling.Shows a m) ms l

theorem seen_nil (l : List Polling) : Seen [] l := List.SublistForall₂.nil

variable {l : List Polling}

theorem Seen.snoc {ms : List Mark} (h : Seen ms l) (a : Polling) : Seen ms (l ++ [a]) := by
  obtain ⟨as, has, hsub⟩ := List.sublistForall₂_iff.1 h
  exact List.sublistForall₂_iff.2 ⟨as, has, hsub.trans (List.sublist_append_left l [a])⟩

/-- A mark is added by the poll that shows it. -/
theorem Seen.snoc_mark {ms : List Mark} {m : Mark} (h : Seen ms l) (ha : a.Shows m) :
    Seen (ms ++ [m]) (l ++ [a]) := by
  obtain ⟨as, has, hsub⟩ := List.sublistForall₂_iff.1 h
  refine List.sublistForall₂_iff.2 ⟨as ++ [a], ?_, hsub.append_right [a]⟩
  exact List.rel_append has (.cons ha .nil)

theorem seen_singleton {m : Mark} (ha : a ∈ l) (hm : a.Shows m) : Seen [m] l :=
  List.sublistForall₂_iff.2 ⟨[a], .cons hm .nil, List.singleton_sublist.2 ha⟩

theorem Seen.of_append {ms ms' : List Mark} (h : Seen (ms ++ ms') l) : Seen ms l := by
  obtain ⟨as, has, hsub⟩ := List.sublistForall₂_iff.1 h
  refine List.sublistForall₂_iff.2 ⟨as.take ms.length, ?_, (List.take_sublist _ as).trans hsub⟩
  simpa using List.forall₂_take ms.length has

/-- The step is 0, and white of the left sensor has been asked for since. -/
def Opened (l : List Polling) : Prop :=
  ∃ l₀ l₁, l = l₀ ++ l₁ ∧ (∀ a ∈ l₁, a.before.step = 0) ∧
    ∃ w ∈ l₁, w.Shows (.accepted .white .left)

/-- Since the step was last 0, and white of the left sensor asked for, the marks have appeared. -/
def Passed (l : List Polling) (ms : List Mark) : Prop :=
  ∃ l₁ l₂, l = l₁ ++ l₂ ∧ Opened l₁ ∧ (∀ a ∈ l₂, a.before.step ≠ 0) ∧ Seen ms l₂

theorem Opened.snoc (h : Opened l) (ha : a.before.step = 0) : Opened (l ++ [a]) := by
  obtain ⟨l₀, l₁, rfl, hzero, w, hw, hwhite⟩ := h
  refine ⟨l₀, l₁ ++ [a], by simp, ?_, w, List.mem_append_left _ hw, hwhite⟩
  simpa [or_imp, forall_and, ha] using hzero

/-- White of the left sensor opens the walkthrough. -/
theorem opened_of_white (ha : a.before.step = 0) (hwhite : a.Shows (.accepted .white .left)) :
    Opened (l ++ [a]) :=
  ⟨l, [a], rfl, by simpa using ha, a, List.mem_singleton_self a, hwhite⟩

theorem Opened.passed (h : Opened l) : Passed l [] :=
  ⟨l, [], by simp, h, List.forall_mem_nil _, seen_nil []⟩

section Passed

variable {l : List Polling} {ms : List Mark} {a : Polling}

theorem Passed.snoc (h : Passed l ms) (ha : a.before.step ≠ 0) : Passed (l ++ [a]) ms := by
  obtain ⟨l₁, l₂, rfl, hopened, hstep, hseen⟩ := h
  refine ⟨l₁, l₂ ++ [a], by simp, hopened, ?_, hseen.snoc a⟩
  simpa [or_imp, forall_and, ha] using hstep

/-- The poll shows the next mark. -/
theorem Passed.snoc_mark {m : Mark} (h : Passed l ms) (ha : a.before.step ≠ 0)
    (hm : a.Shows m) : Passed (l ++ [a]) (ms ++ [m]) := by
  obtain ⟨l₁, l₂, rfl, hopened, hstep, hseen⟩ := h
  refine ⟨l₁, l₂ ++ [a], by simp, hopened, ?_, hseen.snoc_mark hm⟩
  simpa [or_imp, forall_and, ha] using hstep

theorem Passed.of_append {ms' : List Mark} (h : Passed l (ms ++ ms')) : Passed l ms := by
  obtain ⟨l₁, l₂, hl, hopened, hstep, hseen⟩ := h
  exact ⟨l₁, l₂, hl, hopened, hstep, hseen.of_append⟩

end Passed

def LastAccepted (l : List Polling) (r : ControlRequest) : Prop :=
  ∃ l₁ a l₂, l = l₁ ++ a :: l₂ ∧ Accepts a.exchange r ∧ ∀ b ∈ l₂, OnlyStop b.exchange

theorem LastAccepted.snoc (h : LastAccepted l r) (ha : OnlyStop a.exchange) :
    LastAccepted (l ++ [a]) r := by
  obtain ⟨l₁, b, l₂, rfl, hb, hquiet⟩ := h
  refine ⟨l₁, b, l₂ ++ [a], by simp, hb, ?_⟩
  simpa [or_imp, forall_and, ha] using hquiet

theorem lastAccepted_of_accepts (ha : Accepts a.exchange r) : LastAccepted (l ++ [a]) r :=
  ⟨l, a, [], rfl, ha, List.forall_mem_nil _⟩

/-! ## The step and the history -/

def stepMarks (k : ℕ) : List Mark :=
  if k % 2 = 0 then [.accepted .white (order (k / 2))]
  else [.accepted .black (order (k / 2)), .accepted .applyCalibration (order (k / 2)),
    .confirmed (order (k / 2))]

/-- The marks of the steps from 1 up to below `k`. -/
def marks : ℕ → List Mark
  | 0 | 1 => []
  | k + 2 => marks (k + 1) ++ stepMarks (k + 1)

/-- The marks of one more step. -/
theorem marks_succ {k : ℕ} (hk : k ≠ 0) : marks (k + 1) = marks k ++ stepMarks k := by
  obtain ⟨n, rfl⟩ := Nat.exists_eq_succ_of_ne_zero hk
  rfl

def Panel.underway (op : Panel) : List Mark :=
  match op.phase with
  | .calCollect => [.accepted (if op.step % 2 ≠ 0 then .black else .white) op.sensor]
  | .calApply => [.accepted .black op.sensor, .accepted .applyCalibration op.sensor]
  | _ => []

theorem Panel.underway_eq_nil {op : Panel} (h : ¬op.phase.Sampling) : op.underway = [] := by
  unfold underway
  cases hop : op.phase <;> simp_all [Phase.Sampling]

theorem Panel.underway_congr {op op' : Panel} (hphase : op'.phase = op.phase)
    (hstep : op'.step = op.step) : op'.underway = op.underway := by
  simp only [underway, sensor, hphase, hstep]

/-- The step stands for what the polls so far have shown. -/
structure Led (l : List Polling) (op : Panel) : Prop where
  range : op.InWalk → op.step < calSteps
  odd : op.phase = .calApply → op.step % 2 = 1
  opened : op.step = 0 → op.phase = .calCollect → Opened l
  passed : op.step ≠ 0 → Passed l (marks op.step ++ op.underway)
  awaits : op.phase = .calApply → LastAccepted l (sensorRequest .applyCalibration op.sensor)

/-- At power-up the step is 0. -/
theorem led_init : Led [] {} where
  range := by simp [calSteps]
  odd := nofun
  opened := nofun
  passed h := absurd rfl h
  awaits := nofun

/-- Nothing is being sampled. -/
theorem Led.of_idle {op : Panel} (hop : ¬op.phase.Sampling)
    (hrange : op.InWalk → op.step < calSteps) (hpassed : op.step ≠ 0 → Passed l (marks op.step)) :
    Led l op where
  range := hrange
  odd h := absurd (.inr h) hop
  opened _ h := absurd (.inl h) hop
  passed h := by
    rw [Panel.underway_eq_nil hop, List.append_nil]
    exact hpassed h
  awaits h := absurd (.inr h) hop

section Step

variable {l : List Polling} {op op' : Panel} {a : Polling}

/-- A poll that leaves the step alone. -/
theorem Led.keeps (h : Led l op) (ha : a.before = op) (hstep : op'.step = op.step)
    (hphase : op'.phase = op.phase ∨ ¬op'.phase.Sampling) (hwalk : op'.InWalk ↔ op.InWalk)
    (hquiet : op'.phase = .calApply → OnlyStop a.exchange) : Led (l ++ [a]) op' := by
  have hrange : op'.InWalk → op'.step < calSteps := by
    rw [hwalk, hstep]
    exact h.range
  have hpassed (hne : op'.step ≠ 0) : Passed (l ++ [a]) (marks op.step ++ op.underway) :=
    (h.passed (hstep ▸ hne)).snoc (ha ▸ hstep ▸ hne)
  rcases hphase with hphase | hphase
  · refine ⟨hrange, fun hp => ?_, fun h0 hp => ?_, fun hne => ?_, fun hp => ?_⟩
    · exact hstep ▸ h.odd (hphase ▸ hp)
    · exact (h.opened (hstep ▸ h0) (hphase ▸ hp)).snoc (ha ▸ hstep ▸ h0)
    · rw [hstep, Panel.underway_congr hphase hstep]
      exact hpassed hne
    · have hsensor : op'.sensor = op.sensor := by simp [Panel.sensor, hstep]
      rw [hsensor]
      exact (h.awaits (hphase ▸ hp)).snoc (hquiet hp)
  · refine .of_idle hphase hrange fun hne => ?_
    rw [hstep]
    exact (hpassed hne).of_append

/-- A collection begins. -/
theorem Led.collects (h : Led l op) (ha : a.before = op) (hphase : op.phase = .calPrompt)
    (hphase' : op'.phase = .calCollect) (hstep : op'.step = op.step)
    (hsent : Accepts a.exchange
      (sensorRequest (if op.step % 2 ≠ 0 then .black else .white) op.sensor)) :
    Led (l ++ [a]) op' := by
  have hrange : op.step < calSteps := h.range (Panel.inWalk_of_calPrompt hphase)
  refine ⟨fun _ => hstep ▸ hrange, by simp [hphase'], fun h0 _ => ?_, fun hne => ?_,
    by simp [hphase']⟩
  · have h0 : op.step = 0 := hstep ▸ h0
    have hwhite : (sensorRequest .white .left, true) ∈ submits a.exchange := by
      simpa [h0, Panel.sensor, order] using hsent.1
    exact opened_of_white (ha ▸ h0) hwhite
  · have hne : op.step ≠ 0 := hstep ▸ hne
    have hpassed := h.passed hne
    rw [Panel.underway_eq_nil (by simp [hphase, Phase.Sampling]), List.append_nil] at hpassed
    have hunderway : op'.underway =
        [.accepted (if op.step % 2 ≠ 0 then .black else .white) op.sensor] := by
      simp only [Panel.underway, hphase', Panel.sensor, hstep]
    rw [hstep, hunderway]
    exact hpassed.snoc_mark (ha ▸ hne) hsent.1

/-- White is collected, and black is next. -/
theorem Led.whitened (h : Led l op) (ha : a.before = op) (hphase : op.phase = .calCollect)
    (hphase' : op'.phase = .calPrompt) (heven : op.step % 2 = 0)
    (hstep : op'.step = (op.step + 1) % 8) : Led (l ++ [a]) op' := by
  have hrange : op.step < 6 := h.range (Panel.inWalk_of_calCollect hphase)
  have hstep : op'.step = op.step + 1 := by omega
  refine .of_idle (by simp [hphase', Phase.Sampling]) (fun _ => ?_) fun _ => ?_
  · simp only [calSteps]
    omega
  · rw [hstep]
    by_cases h0 : op.step = 0
    · rw [h0]
      exact ((h.opened h0 hphase).snoc (ha ▸ h0)).passed
    · have hpassed := (h.passed h0).snoc (a := a) (ha ▸ h0)
      rw [marks_succ h0]
      simpa [Panel.underway, hphase, stepMarks, heven, Panel.sensor] using hpassed

/-- Black is collected, and the apply is sent. -/
theorem Led.asks (h : Led l op) (ha : a.before = op) (hphase : op.phase = .calCollect)
    (hphase' : op'.phase = .calApply) (hodd : op.step % 2 = 1) (hstep : op'.step = op.step)
    (hsent : Accepts a.exchange (sensorRequest .applyCalibration op.sensor)) :
    Led (l ++ [a]) op' := by
  have hne : op.step ≠ 0 := by omega
  have hsensor : op'.sensor = op.sensor := by simp [Panel.sensor, hstep]
  refine ⟨fun _ => hstep ▸ h.range (Panel.inWalk_of_calCollect hphase), fun _ => hstep ▸ hodd,
    by simp [hphase'], fun _ => ?_, fun _ => ?_⟩
  · have hpassed := (h.passed hne).snoc_mark (a := a) (m := .accepted .applyCalibration op.sensor)
      (ha ▸ hne) hsent.1
    rw [hstep]
    simpa [Panel.underway, hphase, hphase', hodd, hsensor] using hpassed
  · rw [hsensor]
    exact lastAccepted_of_accepts hsent

/-- The apply succeeds. -/
theorem Led.applied (h : Led l op) (ha : a.before = op) (hphase : op.phase = .calApply)
    (hphase' : op'.phase = if calSteps ≤ op'.step then .ready else .calPrompt)
    (hstep : op'.step = (op.step + 1) % 8) (hconfirmed : a.Shows (.confirmed op.sensor)) :
    Led (l ++ [a]) op' := by
  have hrange : op.step < 6 := h.range (Panel.inWalk_of_calApply hphase)
  have hodd : op.step % 2 = 1 := h.odd hphase
  have hne : op.step ≠ 0 := by omega
  have hstep : op'.step = op.step + 1 := by omega
  refine .of_idle ?_ (fun hwalk => ?_) fun _ => ?_
  · rw [hphase']
    split <;> simp [Phase.Sampling]
  · by_contra hle
    rw [if_pos (not_lt.1 hle)] at hphase'
    exact Panel.not_inWalk (.inl hphase') hwalk
  · have hpassed := (h.passed hne).snoc_mark (ha ▸ hne) hconfirmed
    rw [hstep, marks_succ hne]
    simpa [Panel.underway, hphase, stepMarks, hodd, Panel.sensor] using hpassed

/-- The apply fails: the sensor begins again with white. -/
theorem Led.rejected (h : Led l op) (ha : a.before = op) (hphase : op.phase = .calApply)
    (hphase' : op'.phase = .calPrompt) (hstep : op'.step = op.step / 2 * 2) :
    Led (l ++ [a]) op' := by
  have hrange : op.step < 6 := h.range (Panel.inWalk_of_calApply hphase)
  have hodd : op.step % 2 = 1 := h.odd hphase
  refine .of_idle (by simp [hphase', Phase.Sampling]) (fun _ => ?_) fun hne => ?_
  · simp only [calSteps]
    omega
  · -- white and black of the sensor no longer count
    have hsucc : op.step = op'.step + 1 := by omega
    have hne' : op.step ≠ 0 := by omega
    have hpassed := ((h.passed hne').snoc (a := a) (ha ▸ hne')).of_append
    rw [hsucc, marks_succ hne] at hpassed
    exact hpassed.of_append

/-- A STOP during the apply: black is repeated. -/
theorem Led.redone (h : Led l op) (ha : a.before = op) (hphase : op.phase = .calApply)
    (hphase' : op'.phase = .calPrompt) (hstep : op'.step = op.step / 2 * 2 + 1) :
    Led (l ++ [a]) op' := by
  have hodd : op.step % 2 = 1 := h.odd hphase
  have hwalk : op'.InWalk ↔ op.InWalk :=
    iff_of_true (Panel.inWalk_of_calPrompt hphase') (Panel.inWalk_of_calApply hphase)
  refine h.keeps ha (by omega) (.inr ?_) hwalk ?_
  · simp [hphase', Phase.Sampling]
  · simp [hphase']

end Step

/-- **Every poll keeps the step in agreement with the history.** -/
theorem Led.snoc {s s' : Panel × ℕ} (h : Led l s.1) (ha : Takes s a s') : Led (l ++ [a]) s'.1 := by
  obtain ⟨hbefore, -, -, hy⟩ := ha
  cases s.1.poll_walked a.poll a.exchange s'.1 hy with
  | keeps hstep hphase hwalk hquiet => exact h.keeps hbefore hstep hphase hwalk hquiet
  | begins hwalk hphase hstep =>
    exact .of_idle hphase (fun _ => by simp [hstep, calSteps]) fun hne => absurd hstep hne
  | collects hphase hphase' hstep hsent => exact h.collects hbefore hphase hphase' hstep hsent
  | whitened hphase hphase' heven hstep => exact h.whitened hbefore hphase hphase' heven hstep
  | asks hphase hphase' hodd hstep hsent =>
    exact h.asks hbefore hphase hphase' hodd hstep hsent
  | applied hphase hphase' hstep hok =>
    exact h.applied hbefore hphase hphase' hstep (confirmed_of_taken hbefore hphase hok)
  | rejected hphase hphase' hstep => exact h.rejected hbefore hphase hphase' hstep
  | redone hphase hphase' hstep => exact h.redone hbefore hphase hphase' hstep

/-- **Along every run the step stands for the marks seen.** -/
theorem polls_led {t₀ : ℕ} {s : Panel × ℕ} (h : Polls t₀ l s) : Led l s.1 := by
  induction h with
  | nil => exact led_init
  | snoc _ ha ih => exact ih.snoc ha

/-- READY is entered after the last step. -/
theorem step_of_ready {s s' : Panel × ℕ} (h : Led l s.1) (ha : Takes s a s')
    (hphase : s.1.phase = .calApply) (hready : s'.1.phase = .ready) : s'.1.step = calSteps := by
  obtain ⟨hbefore, -, -, hy⟩ := ha
  have hwalk : s.1.InWalk := Panel.inWalk_of_calApply hphase
  have hwalk' : ¬s'.1.InWalk := Panel.not_inWalk (.inl hready)
  have hrange : s.1.step < 6 := h.range hwalk
  cases s.1.poll_walked a.poll a.exchange s'.1 hy with
  | keeps _ _ hiff => exact absurd (hiff.2 hwalk) hwalk'
  | begins hout => exact absurd hwalk hout
  | collects hp | whitened hp | asks hp => simp [hphase] at hp
  | applied _ hphase' =>
    have hle : calSteps ≤ s'.1.step := by
      by_contra hlt
      rw [if_neg hlt, hready] at hphase'
      exact nomatch hphase'
    simp only [calSteps] at hle ⊢
    omega
  | rejected _ hphase' | redone _ hphase' => simp [hready] at hphase'

/-- **The calibration walkthrough.**  READY is entered from an apply only if, since the step was
last 0, the left, the right and the barcode sensor were confirmed in this order, each after an
accepted request for white and one for black. -/
theorem walkthrough_complete {t₀ : ℕ} {l : List Polling} {s : Panel × ℕ} (h : Polls t₀ l s) :
    (s.1.phase.Calibrating → s.1.step < calSteps) ∧
    (s.1.phase = .calApply → s.1.step % 2 = 1 ∧
      LastAccepted l (sensorRequest .applyCalibration s.1.sensor)) ∧
    (∀ l' a, l = l' ++ [a] → a.before.phase = .calApply → s.1.phase = .ready →
      ∃ l₀ l₁ l₂, l = l₀ ++ l₁ ++ l₂ ∧ (∀ b ∈ l₁, b.before.step = 0) ∧
        (∀ b ∈ l₂, b.before.step ≠ 0) ∧ Seen [.accepted .white .left] l₁ ∧
        Seen [.accepted .black .left, .accepted .applyCalibration .left, .confirmed .left,
          .accepted .white .right, .accepted .black .right, .accepted .applyCalibration .right,
          .confirmed .right,
          .accepted .white .barcode, .accepted .black .barcode,
          .accepted .applyCalibration .barcode, .confirmed .barcode] l₂) := by
  have hled : Led l s.1 := polls_led h
  refine ⟨fun hc => hled.range (.inl hc), fun hp => ⟨hled.odd hp, hled.awaits hp⟩, ?_⟩
  rintro l' a rfl happly hready
  obtain ⟨m, hm, ha⟩ := Run.Path.unsnoc h
  have hstep : s.1.step = calSteps := step_of_ready (polls_led hm) ha (ha.1 ▸ happly) hready
  have hpassed := (hled.passed (by simp [hstep, calSteps])).of_append
  rw [hstep] at hpassed
  obtain ⟨_, l₂, hl, ⟨l₀, l₁, rfl, hzero, w, hw, hwhite⟩, hne, hseen⟩ := hpassed
  exact ⟨l₀, l₁, l₂, hl, hzero, hne, seen_singleton hw hwhite, hseen⟩

abbrev BenchInput := Press × Bool × Status

/-- The polls so far, the panel and the time after a poll every 10 ms. -/
def benchNext (s : List Polling × Panel × ℕ) (x : BenchInput) : List Polling × Panel × ℕ :=
  let r := benchPoll s.2.1 (s.2.2 + 10) x.1 x.2.1 x.2.2
  (s.1 ++ [r.1], r.2, s.2.2 + 10)

def benchRun (xs : List BenchInput) : List Polling × Panel × ℕ := xs.foldl benchNext ([], {}, 0)

theorem benchRun_snoc (xs : List BenchInput) (x : BenchInput) :
    benchRun (xs ++ [x]) = benchNext (benchRun xs) x := by
  simp [benchRun]

theorem benchRun_polls (xs : List BenchInput) : Polls 0 (benchRun xs).1 (benchRun xs).2 := by
  induction xs using List.reverseRecOn with
  | nil => exact .nil
  | append_singleton xs x ih =>
    rw [benchRun_snoc]
    exact ih.snoc (benchPoll_takes _ _ _ _ _ _ (Nat.le_add_right _ 10))

/-- An idle car that has executed `n` requests, the last one with success. -/
def benchDone (n : UInt32) (sensor : SensorId) : Status := ⟨.off, n, true, false, sensor, 0⟩

/-- White and black of a sensor; its calibration has been asked for. -/
def benchSensor (n : UInt32) (sensor : SensorId) : List BenchInput :=
  [(.short, false, benchDone n sensor), (.none, false, benchDone (n + 1) sensor),
    (.none, false, benchDone (n + 1) sensor), (.short, false, benchDone (n + 1) sensor),
    (.none, false, benchDone (n + 2) sensor), (.none, false, benchDone (n + 2) sensor)]

/-- A STOP while the calibration of the right sensor is being applied has black repeated. -/
def benchRedo : List BenchInput :=
  [(.none, true, benchDone 5 .right), (.none, false, benchDone 6 .right),
    (.short, false, benchDone 6 .right), (.none, false, benchDone 7 .right),
    (.none, false, benchDone 7 .right)]

def benchInputs : List BenchInput :=
  [(.none, false, benchDone 0 .barcode)] ++ benchSensor 0 .left ++
    [(.none, false, benchDone 3 .left)] ++ benchSensor 3 .right ++ benchRedo ++
    [(.none, false, benchDone 8 .right)] ++ benchSensor 8 .barcode

def benchLast : BenchInput := (.none, false, benchDone 11 .barcode)

def benchAnswer : Polling :=
  (benchPoll (benchRun benchInputs).2.1 ((benchRun benchInputs).2.2 + 10) benchLast.1
    benchLast.2.1 benchLast.2.2).1

def benchWalk : List Polling := (benchRun (benchInputs ++ [benchLast])).1

/-- The walkthrough with a STOP in it leads to READY, by the marks of its last pass. -/
theorem walkthrough_complete_bench :
    (benchRun (benchInputs ++ [benchLast])).2.1.phase = .ready ∧
    ∃ l₀ l₁ l₂, benchWalk = l₀ ++ l₁ ++ l₂ ∧ (∀ b ∈ l₁, b.before.step = 0) ∧
      (∀ b ∈ l₂, b.before.step ≠ 0) ∧ Seen [.accepted .white .left] l₁ ∧
      Seen [.accepted .black .left, .accepted .applyCalibration .left, .confirmed .left,
        .accepted .white .right, .accepted .black .right, .accepted .applyCalibration .right,
        .confirmed .right,
        .accepted .white .barcode, .accepted .black .barcode,
        .accepted .applyCalibration .barcode, .confirmed .barcode] l₂ := by
  have hready : (benchRun (benchInputs ++ [benchLast])).2.1.phase = .ready := by decide +kernel
  have happly : benchAnswer.before.phase = .calApply := by decide +kernel
  have hsnoc : benchWalk = (benchRun benchInputs).1 ++ [benchAnswer] := by
    rw [benchWalk, benchRun_snoc, benchNext, benchAnswer]
  exact ⟨hready, (walkthrough_complete (benchRun_polls _)).2.2 _ _ hsnoc happly hready⟩

end RoboticCar.Operator
