import RoboticCar.Lib.Clock
import RoboticCar.Lib.Run
import RoboticCar.Operator.Logic

/-!
# What the panel submits

`start_safety` says what has to have happened before a START is submitted, and that a held STOP lets
nothing but STOP requests through and repeats those until one is accepted.  Polls are reduced to
what they do to the phase, the countdown and two flags (`act_spec`, `Unheld`), whose histories are
`Released` and `HoldAccepted`.
-/

namespace RoboticCar.Operator

open Lib Integration Navigation Prog

def submits (t : List PanelEvent) : List (ControlRequest × Bool) :=
  t.filterMap fun
    | ⟨.submit r, b⟩ => some (r, b)
    | ⟨.say _, _⟩ => none

@[simp]
theorem submits_nil : submits [] = [] := rfl

@[simp]
theorem submits_append (t u : List PanelEvent) : submits (t ++ u) = submits t ++ submits u :=
  List.filterMap_append

@[simp]
theorem submits_submit (r : ControlRequest) (b : Bool) (t : List PanelEvent) :
    submits (⟨.submit r, b⟩ :: t) = (r, b) :: submits t := rfl

@[simp]
theorem submits_say (m : Message) (x : Unit) (t : List PanelEvent) :
    submits (⟨.say m, x⟩ :: t) = submits t := rfl

theorem say_spec {Q : List PanelEvent → Unit → Prop} {m : Message}
    (h : ∀ t, submits t = [] → Q t ()) : (say m).Ensures Q :=
  ensures_perform.2 fun _ => h _ rfl

theorem sayIf_spec {Q : List PanelEvent → Unit → Prop} {b : Bool} {m : Message}
    (h : ∀ t, submits t = [] → Q t ()) : (sayIf b m).Ensures Q := by
  unfold sayIf
  split
  · exact say_spec h
  · exact ensures_pure.2 (h [] rfl)

theorem Panel.send_spec {Q : List PanelEvent → Bool × Panel → Prop} {op : Panel}
    {kind : ControlKind} {sensor : Navigation.SensorId} {st : Status} {now : UInt32}
    (h : ∀ t accepted, submits t = [({ kind := kind, sensor := sensor.code }, accepted)] →
      Q t (accepted,
        { op with sequence := st.commandSequence, phaseMs := now, awaitingReply := accepted })) :
    (op.send kind sensor st now).Ensures Q := by
  refine ensures_bind.2 (ensures_perform.2 fun accepted => ?_)
  refine ensures_bind.2 (sayIf_spec fun t ht => ensures_pure.2 (h _ _ ?_))
  simp [ht]

/-! ## The phases -/

def Phase.Settled : Phase → Prop
  | .waitStatus | .calPrompt | .ready | .run => True
  | .calCollect | .calApply | .reset | .countdown | .start => False

theorem Phase.Settled.ne_countdown {phase : Phase} (h : phase.Settled) : phase ≠ .countdown := by
  rintro rfl
  exact h

namespace Panel

/-- What a phase, given a status, does: the requests it submits, with their results, and the panel
it leaves. -/
inductive Did (op : Panel) (now : UInt32) (go : Press) (st : Status) :
    List (ControlRequest × Bool) → Panel → Prop
  | welcomes {phase : Phase} (hop : op.phase = .waitStatus)
      (hphase : phase = .ready ∨ phase = .calPrompt) :
      Did op now go st [] ({ op with step := 0 }.enter phase now)
  | stays : Did op now go st [] op
  /-- A prompt, with no press. -/
  | prompts {prompted : Bool} {ms : UInt32} (hop : op.phase = .calPrompt ∨ op.phase = .ready) :
      Did op now go st [] { op with prompted := prompted, promptMs := ms }
  /-- A press whose request is not accepted. -/
  | refused {prompted resetToCal : Bool} {ms : UInt32} {r : ControlRequest} (hgo : go ≠ .none)
      (hop : op.phase = .calPrompt ∨ op.phase = .ready) (hr : r.kind ≠ .start ∧ r.kind ≠ .stop) :
      Did op now go st [(r, false)] { op with
        prompted := prompted, promptMs := ms, sequence := st.commandSequence, phaseMs := now
        awaitingReply := false, resetToCal := resetToCal }
  | resets {prompted cal : Bool} {ms : UInt32} (hgo : go ≠ .none)
      (hop : op.phase = if cal then .calPrompt else .ready) :
      Did op now go st [({ kind := .reset, sensor := SensorId.code .barcode }, true)] { op with
        prompted := prompted, promptMs := ms, sequence := st.commandSequence, phaseMs := now
        awaitingReply := true, resetToCal := cal, phase := .reset }
  | collects {prompted : Bool} {ms : UInt32} (hgo : go ≠ .none) (hop : op.phase = .calPrompt) :
      Did op now go st [({ kind := if op.step % 2 ≠ 0 then .black else .white
                           sensor := (order (op.step / 2)).code }, true)] { op with
        prompted := prompted, promptMs := ms, sequence := st.commandSequence, phaseMs := now
        awaitingReply := true, phase := .calCollect }
  | samples (hop : op.phase = .calCollect) : Did op now go st [] { op with awaitingReply := false }
  | retries (hop : op.phase = .calCollect ∨ op.phase = .calApply) :
      Did op now go st [] (op.enter .calPrompt now)
  | whitened (hop : op.phase = .calCollect) (heven : op.step % 2 = 0) :
      Did op now go st [] ({ op with step := (op.step + 1) % 8 }.enter .calPrompt now)
  | applies (hop : op.phase = .calCollect) (hodd : op.step % 2 = 1) :
      Did op now go st
        [({ kind := .applyCalibration, sensor := (order (op.step / 2)).code }, true)]
        { op with
          sequence := st.commandSequence, phaseMs := now, awaitingReply := true
          phase := .calApply }
  | unapplied {r : ControlRequest} (hop : op.phase = .calCollect)
      (hr : r.kind = .applyCalibration) :
      Did op now go st [(r, false)]
        ({ op with sequence := st.commandSequence }.enter .calPrompt now)
  | rejected (hop : op.phase = .calApply) :
      Did op now go st [] ({ op with step := op.step / 2 * 2 }.enter .calPrompt now)
  | applied {phase : Phase} (hop : op.phase = .calApply) (hok : op.replied st = some true)
      (hphase : phase = if calSteps ≤ (op.step + 1) % 8 then .ready else .calPrompt) :
      Did op now go st [] ({ op with step := (op.step + 1) % 8 }.enter phase now)
  | recalibrates {ms : UInt32} (hop : op.phase = .ready) :
      Did op now go st [] ({ op with promptMs := ms, step := 0 }.enter .calPrompt now)
  | counts {ms : UInt32} (hop : op.phase = .ready) (hgo : go = .short) (hst : st.state ≠ .fault) :
      Did op now go st [] ({ op with promptMs := ms }.enter .countdown now)
  | returns (hop : op.phase = .reset) : Did op now go st [] (op.enter op.resetTarget now)
  | starts (hop : op.phase = .countdown) (hms : countdownMs ≤ now - op.phaseMs) :
      Did op now go st [({ kind := .start, sensor := SensorId.code .barcode }, true)] { op with
        sequence := st.commandSequence, phaseMs := now, awaitingReply := true, phase := .start }
  | unstarted {r : ControlRequest} (hop : op.phase = .countdown)
      (hms : countdownMs ≤ now - op.phaseMs) (hr : r.kind = .start) :
      Did op now go st [(r, false)] ({ op with sequence := st.commandSequence }.enter .ready now)
  | shows {n : ℕ} (hop : op.phase = .countdown) :
      Did op now go st [] { op with countdownShown := n }
  | leaves {phase : Phase} (hop : op.phase = .start ∨ op.phase = .run)
      (hphase : phase = .ready ∨ phase = .run) : Did op now go st [] (op.enter phase now)

variable {op : Panel} {now : UInt32} {go : Press} {st : Status}

theorem due_spec (op : Panel) (now : UInt32) :
    ∃ prompted promptMs,
      (op.due now).2 = { op with prompted := prompted, promptMs := promptMs } := by
  unfold due
  split
  · exact ⟨true, now, rfl⟩
  · exact ⟨op.prompted, op.promptMs, rfl⟩

variable {t : List PanelEvent} {op' : Panel}

theorem Did.quiet (ht : submits t = []) (h : op.Did now go st [] op') :
    op.Did now go st (submits t) op' := by
  rw [ht]
  exact h

theorem did_stays : (pure op : PanelM Panel).Ensures fun t op' =>
    op.Did now go st (submits t) op' :=
  ensures_pure.2 .stays

theorem did_say {m : Message} (h : op.Did now go st [] op') : (do
      say m
      return op' : PanelM Panel).Ensures fun t op' => op.Did now go st (submits t) op' := by
  refine ensures_bind.2 (say_spec fun t ht => ensures_pure.2 ?_)
  exact h.quiet (by simpa using ht)

/-- A request sent by a phase. -/
theorem did_send {op₁ : Panel} {kind : ControlKind} {sensor : Navigation.SensorId}
    {f : Bool × Panel → Panel} (ht : submits t = [])
    (h : ∀ accepted, op.Did now go st [({ kind := kind, sensor := sensor.code }, accepted)]
      (f (accepted, { op₁ with
        sequence := st.commandSequence, phaseMs := now, awaitingReply := accepted }))) :
    (do
      let r ← op₁.send kind sensor st now
      return f r : PanelM Panel).Ensures fun u op' => op.Did now go st (submits (t ++ u)) op' := by
  refine ensures_bind.2 (send_spec fun u accepted hu => ensures_pure.2 ?_)
  have hall : submits (t ++ (u ++ [])) = submits u := by simp [ht]
  rw [hall, hu]
  exact h accepted

theorem calPrompt_did (hop : op.phase = .calPrompt) :
    (op.calPrompt now go st).Ensures fun t op' => op.Did now go st (submits t) op' := by
  unfold calPrompt
  obtain ⟨prompted, promptMs, hdue⟩ := op.due_spec now
  generalize op.due now = d at hdue ⊢
  obtain ⟨isDue, op₁⟩ := d
  subst hdue
  refine ensures_ite.2 ⟨fun _ => ?_, fun _ => ?_⟩
  all_goals
    refine ensures_bind.2 (sayIf_spec fun t ht => ?_)
    refine ensures_ite.2 ⟨fun _ => ensures_pure.2 ?_, fun hgo => did_send ht ?_⟩
    · exact Did.quiet (by simp [ht]) (.prompts (.inl hop))
  · rintro (_ | _)
    · exact .refused hgo (.inl hop) (by decide)
    · exact .resets hgo hop
  · rintro (_ | _)
    · exact .refused hgo (.inl hop) (by split <;> exact ⟨nofun, nofun⟩)
    · exact .collects hgo hop

theorem ready_did (hop : op.phase = .ready) :
    (op.ready now go st).Ensures fun t op' => op.Did now go st (submits t) op' := by
  unfold ready
  obtain ⟨prompted, promptMs, hdue⟩ := op.due_spec now
  generalize op.due now = d at hdue ⊢
  obtain ⟨isDue, op₁⟩ := d
  subst hdue
  refine ensures_ite.2 ⟨fun _ => ?_, fun hfault => ?_⟩
  · refine ensures_bind.2 (sayIf_spec fun t ht => ?_)
    refine ensures_ite.2 ⟨fun _ => ensures_pure.2 ?_, fun hgo => did_send ht ?_⟩
    · exact Did.quiet (by simp [ht]) (.prompts (.inr hop))
    · rintro (_ | _)
      · exact .refused hgo (.inr hop) (by decide)
      · exact .resets hgo hop
  · refine ensures_bind.2 (sayIf_spec fun t ht => ?_)
    cases go with
    | none =>
      refine ensures_pure.2 ?_
      exact Did.quiet (by simp [ht]) (.prompts (.inr hop))
    | long =>
      refine ensures_bind.2 (say_spec fun u hu => ensures_pure.2 ?_)
      exact Did.quiet (by simp [ht, hu]) (.recalibrates hop)
    | short =>
      refine ensures_pure.2 ?_
      exact Did.quiet (by simp [ht]) (.counts hop rfl hfault)

theorem calCollect_did (hop : op.phase = .calCollect) :
    (op.calCollect now st).Ensures fun t op' => op.Did now go st (submits t) op' := by
  have hretries : op.Did now go st [] (op.enter .calPrompt now) := .retries (.inl hop)
  refine ensures_ite.2 ⟨fun _ => ?_, fun _ => ensures_ite.2 ⟨fun _ => ?_, fun _ => ?_⟩⟩
  · rcases op.replied st with - | (_ | _)
    · exact ensures_ite.2 ⟨fun _ => did_say hretries, fun _ => did_stays⟩
    · exact did_say hretries
    · exact did_say (.samples hop)
  · exact ensures_ite.2 ⟨fun _ => did_say hretries, fun _ => did_stays⟩
  · refine ensures_bind.2 (say_spec fun t ht => ?_)
    refine ensures_ite.2 ⟨fun hblack => did_send ht ?_, fun hwhite => ensures_pure.2 ?_⟩
    · rintro (_ | _)
      · exact .unapplied hop rfl
      · exact .applies hop (by omega)
    · exact Did.quiet (by simp [ht]) (.whitened hop (by omega))

theorem calApply_did (hop : op.phase = .calApply) :
    (op.calApply now st).Ensures fun t op' => op.Did now go st (submits t) op' := by
  unfold calApply
  rcases hreplied : op.replied st with - | (_ | _)
  · exact ensures_ite.2 ⟨fun _ => did_say (.retries (.inr hop)), fun _ => did_stays⟩
  · refine ensures_bind.2 (say_spec fun t ht => ?_)
    refine ensures_bind.2 (say_spec fun u hu => ?_)
    refine ensures_bind.2 (say_spec fun v hv => ensures_pure.2 ?_)
    exact Did.quiet (by simp [ht, hu, hv]) (.rejected hop)
  · refine ensures_bind.2 (say_spec fun t ht => ensures_ite.2 ⟨fun h => ?_, fun h => ?_⟩)
    · refine ensures_bind.2 (say_spec fun u hu => ensures_pure.2 ?_)
      exact Did.quiet (by simp [ht, hu]) (.applied hop hreplied (if_pos h).symm)
    · refine ensures_pure.2 ?_
      exact Did.quiet (by simp [ht]) (.applied hop hreplied (if_neg h).symm)

theorem countdown_did (hop : op.phase = .countdown) :
    (op.countdown now st).Ensures fun t op' => op.Did now go st (submits t) op' := by
  refine ensures_ite.2 ⟨fun hms => ?_, fun _ => ensures_ite.2 ⟨fun _ => ?_, fun _ => ?_⟩⟩
  · refine did_send (t := []) rfl ?_
    rintro (_ | _)
    · exact .unstarted hop hms rfl
    · exact .starts hop hms
  · exact did_say (.shows hop)
  · exact did_stays

/-- **What a phase does**, whichever it is. -/
theorem act_did (op : Panel) (now : UInt32) (go : Press) (st : Status) :
    (op.act now go st).Ensures fun t op' => op.Did now go st (submits t) op' := by
  unfold act
  cases hop : op.phase with
  | waitStatus =>
    refine ensures_bind.2 (say_spec fun t ht => ensures_ite.2 ⟨fun _ => ?_, fun _ => ?_⟩)
    · refine ensures_bind.2 (say_spec fun u hu => ensures_pure.2 ?_)
      exact Did.quiet (by simp [ht, hu]) (.welcomes hop (.inl rfl))
    · refine ensures_pure.2 ?_
      exact Did.quiet (by simp [ht]) (.welcomes hop (.inr rfl))
  | calPrompt => exact calPrompt_did hop
  | calCollect => exact calCollect_did hop
  | calApply => exact calApply_did hop
  | ready => exact ready_did hop
  | countdown => exact countdown_did hop
  | reset =>
    unfold resetWait
    rcases op.replied st with - | ok
    · exact ensures_ite.2 ⟨fun _ => did_say (.returns hop), fun _ => did_stays⟩
    · exact did_say (.returns hop)
  | start =>
    unfold startWait
    rcases op.replied st with - | (_ | _)
    · exact ensures_ite.2 ⟨fun _ => did_say (.leaves (.inl hop) (.inl rfl)),
        fun _ => did_stays⟩
    · exact did_say (.leaves (.inl hop) (.inl rfl))
    · exact did_say (.leaves (.inl hop) (.inr rfl))
  | run =>
    exact ensures_ite.2 ⟨fun _ => did_stays, fun _ => did_say (.leaves (.inr hop) (.inl rfl))⟩

structure Acted (op : Panel) (now : UInt32) (go : Press) (st : Status) (t : List PanelEvent)
    (op' : Panel) : Prop where
  stopHandled : op'.stopHandled = op.stopHandled
  inhibit : op'.inhibit = op.inhibit
  /-- Between requests nothing is submitted without a press. -/
  settled : op.phase.Settled → go = .none → submits t = [] ∧ op'.phase.Settled
  /-- Only a countdown that has run out submits START. -/
  starts : ∀ r b, (r, b) ∈ submits t → r.kind = .start →
    op.phase = .countdown ∧ countdownMs ≤ now - op.phaseMs
  /-- A countdown goes on, or is begun by a short press. -/
  counts : op'.phase = .countdown → op.phase = .countdown ∧ op'.phaseMs = op.phaseMs ∨
    op.phase = .ready ∧ go = .short ∧ st.state ≠ .fault ∧ op'.phaseMs = now

theorem Acted.quiet (ht : submits t = [])
    (hflags : op'.stopHandled = op.stopHandled ∧ op'.inhibit = op.inhibit)
    (hsettled : op.phase.Settled → op'.phase.Settled) (hc : op'.phase ≠ .countdown) :
    op.Acted now go st t op' where
  stopHandled := hflags.1
  inhibit := hflags.2
  settled h _ := ⟨ht, hsettled h⟩
  starts := by simp [ht]
  counts h := absurd h hc

theorem Acted.sent {r : ControlRequest} {accepted : Bool} (ht : submits t = [(r, accepted)])
    (hr : r.kind ≠ .start) (hflags : op'.stopHandled = op.stopHandled ∧ op'.inhibit = op.inhibit)
    (hgo : op.phase.Settled → go ≠ .none) (hc : op'.phase ≠ .countdown) :
    op.Acted now go st t op' where
  stopHandled := hflags.1
  inhibit := hflags.2
  settled h h' := absurd h' (hgo h)
  starts := by simp_all
  counts h := absurd h hc

theorem resetTarget_settled (op : Panel) : op.resetTarget.Settled := by
  unfold resetTarget
  split <;> trivial

/-- What the phases can do in a poll. -/
theorem act_spec (op : Panel) (now : UInt32) (go : Press) (st : Status) :
    (op.act now go st).Ensures (op.Acted now go st) := by
  refine (act_did op now go st).mono fun t op' h => ?_
  generalize hs : submits t = l at h
  cases h with
  | counts hop hgo hst =>
    exact ⟨rfl, rfl, fun _ h => by simp [hgo] at h, by simp [hs],
      fun _ => .inr ⟨hop, hgo, hst, rfl⟩⟩
  | starts hop hms | unstarted hop hms =>
    exact ⟨rfl, rfl, by simp [hop, Phase.Settled], fun _ _ _ _ => ⟨hop, hms⟩, nofun⟩
  | stays | shows => exact ⟨rfl, rfl, fun h _ => ⟨hs, h⟩, by simp [hs], fun h => .inl ⟨h, rfl⟩⟩
  | refused hgo hop hr =>
    exact .sent hs hr.1 ⟨rfl, rfl⟩ (fun _ => hgo) (by rcases hop with hop | hop <;> simp [hop])
  | resets hgo => exact .sent hs (by simp) ⟨rfl, rfl⟩ (fun _ => hgo) nofun
  | collects hgo =>
    exact .sent hs (by dsimp only; split <;> nofun) ⟨rfl, rfl⟩ (fun _ => hgo) nofun
  | applies hop => exact .sent hs (by simp) ⟨rfl, rfl⟩ (by simp [hop, Phase.Settled]) nofun
  | unapplied hop hr =>
    exact .sent hs (by simp [hr]) ⟨rfl, rfl⟩ (by simp [hop, Phase.Settled]) nofun
  | returns =>
    have htarget : op.resetTarget.Settled := op.resetTarget_settled
    exact .quiet hs ⟨rfl, rfl⟩ (fun _ => htarget) htarget.ne_countdown
  | prompts hop => exact .quiet hs ⟨rfl, rfl⟩ id (by rcases hop with hop | hop <;> simp [hop])
  | samples hop => exact .quiet hs ⟨rfl, rfl⟩ id (by simp [hop])
  | welcomes _ hphase | leaves _ hphase =>
    rcases hphase with rfl | rfl <;> exact .quiet hs ⟨rfl, rfl⟩ (fun _ => trivial) nofun
  | applied _ _ hphase =>
    subst hphase
    split <;> exact .quiet hs ⟨rfl, rfl⟩ (fun _ => trivial) nofun
  | _ => exact .quiet hs ⟨rfl, rfl⟩ (fun _ => trivial) nofun

/-! ## A whole poll -/

theorem stopPressed_spec (op : Panel) (now : UInt32) :
    (op.stopPressed now).Ensures fun t op' => submits t = [] ∧
      op'.stopHandled = op.stopHandled ∧ op'.inhibit = op.inhibit ∧ op'.phase.Settled := by
  unfold stopPressed
  cases hop : op.phase with
  | waitStatus | calPrompt | ready | run =>
    exact ensures_pure.2 ⟨rfl, rfl, rfl, by simp [hop, Phase.Settled]⟩
  | calCollect | calApply => exact ensures_pure.2 ⟨rfl, rfl, rfl, trivial⟩
  | reset => exact ensures_pure.2 ⟨rfl, rfl, rfl, op.resetTarget_settled⟩
  | countdown | start =>
    refine ensures_bind.2 (say_spec fun t ht => ensures_pure.2 ?_)
    exact ⟨by simpa using ht, rfl, rfl, trivial⟩

/-- STOP is submitted once while it is held and not accepted; after such a poll nothing is under
way. -/
theorem stopButton_held (op : Panel) (now : UInt32) :
    (op.stopButton now true).Ensures fun t op' => op'.inhibit ∧
      if op.stopHandled then
        submits t = [] ∧ op'.stopHandled ∧ op'.phase = op.phase
      else ∃ b, submits t = [({ kind := .stop }, b)] ∧ op'.stopHandled = b ∧ op'.phase.Settled := by
  refine ensures_ite.2 ⟨fun _ => ?_, nofun⟩
  refine ensures_ite.2 ⟨fun hh => ?_, fun hh => ?_⟩
  · exact ensures_pure.2 ⟨rfl, by simp_all⟩
  · refine ensures_bind.2 (ensures_perform.2 fun accepted => ?_)
    refine ensures_bind.2 (sayIf_spec fun t ht => ?_)
    refine ensures_bind.2 (sayIf_spec fun u hu => ?_)
    refine (stopPressed_spec _ now).mono fun v op' ⟨hv, hhandled, hinhibit, hsettled⟩ => ?_
    refine ⟨hinhibit, ?_⟩
    rw [if_neg hh]
    exact ⟨accepted, by simp [ht, hu, hv], hhandled, hsettled⟩

theorem inhibited_spec (op : Panel) (go : Press) (stopHeld goHeld : Bool) :
    (op.inhibited go stopHeld goHeld).Ensures fun t r => submits t = [] ∧
      r.2.phase = op.phase ∧ r.2.phaseMs = op.phaseMs ∧ r.2.stopHandled = op.stopHandled ∧
      (r.1 ≠ .none → r.1 = go ∧ op.inhibit = false) ∧
      (r.2.inhibit = false → op.inhibit = false ∨ stopHeld = false ∧ goHeld = false) := by
  refine ensures_ite.2 ⟨fun hi => ?_, fun hi => ?_⟩
  · refine ensures_bind.2 (sayIf_spec fun t ht => ensures_pure.2 ?_)
    cases stopHeld <;> cases goHeld <;> simp_all
  · exact ensures_pure.2 (by simp_all)

theorem poll_spec {Q : List PanelEvent → Panel → Prop} {op : Panel} {p : Poll}
    (h : (op.stopButton p.now p.stopHeld).Ensures fun t op₁ =>
      (op₁.inhibited p.go p.stopHeld p.goHeld).Ensures fun u r =>
        (p.status = none → Q (t ++ u) r.2) ∧ ∀ st v op', p.status = some st →
          r.2.Acted p.now r.1 st v op' → Q (t ++ (u ++ v)) op') :
    (op.poll p).Ensures Q := by
  refine ensures_bind.2 (h.mono fun t op₁ h => ensures_bind.2 (h.mono fun u r h => ?_))
  obtain ⟨hnone, hsome⟩ := h
  cases hst : p.status with
  | none => exact ensures_pure.2 (by simpa using hnone hst)
  | some st => exact (act_spec r.2 p.now r.1 st).mono fun v op' ha => hsome st v op' hst ha

/-- A poll with the stop button held. -/
theorem poll_held {op : Panel} {p : Poll} (hp : p.stopHeld)
    (hop : op.stopHandled → op.phase.Settled) :
    (op.poll p).Ensures fun t op' => op'.inhibit ∧ op'.phase.Settled ∧
      if op.stopHandled then submits t = [] ∧ op'.stopHandled
      else ∃ b, submits t = [({ kind := .stop }, b)] ∧ op'.stopHandled = b := by
  refine poll_spec ?_
  rw [hp]
  refine (stopButton_held op p.now).mono fun t op₁ ⟨hi, hstop⟩ => ?_
  have hsettled : op₁.phase.Settled := by
    split_ifs at hstop with hh
    · exact hstop.2.2 ▸ hop hh
    · obtain ⟨b, -, -, h⟩ := hstop
      exact h
  refine (inhibited_spec op₁ _ _ _).mono fun u r ⟨hu, hphase, _, hhandled, hgo, hinhibit⟩ => ?_
  have hr : r.2.inhibit := by
    by_contra hr
    simp_all
  have hnone : r.1 = .none := by
    by_contra hgo'
    simp_all
  have hrs : r.2.phase.Settled := hphase ▸ hsettled
  have hstop' : if op.stopHandled then submits t = [] ∧ r.2.stopHandled = true
      else ∃ b, submits t = [({ kind := .stop }, b)] ∧ r.2.stopHandled = b := by
    rw [hhandled]
    split_ifs at hstop ⊢ with hh
    · exact ⟨hstop.1, hstop.2.1⟩
    · obtain ⟨b, h, h', -⟩ := hstop
      exact ⟨b, h, h'⟩
  refine ⟨fun _ => ⟨hr, hrs, by simpa [hu] using hstop'⟩, fun st v op' _ ha => ?_⟩
  obtain ⟨hv, hs⟩ := ha.settled hrs hnone
  exact ⟨ha.inhibit.trans hr, hs, by simpa [hu, hv, ha.stopHandled] using hstop'⟩

/-- What a poll without STOP does. -/
structure Unheld (op : Panel) (p : Poll) (t : List PanelEvent) (op' : Panel) : Prop where
  stopHandled : op'.stopHandled = false
  inhibit : op'.inhibit = false → op.inhibit = false ∨ p.goHeld = false
  starts : ∀ r b, (r, b) ∈ submits t → r.kind = .start →
    op.phase = .countdown ∧ countdownMs ≤ p.now - op.phaseMs
  counts : op'.phase = .countdown → op.phase = .countdown ∧ op'.phaseMs = op.phaseMs ∨
    op.phase = .ready ∧ p.go = .short ∧ (∃ st, p.status = some st ∧ st.state ≠ .fault) ∧
      op.inhibit = false ∧ op'.phaseMs = p.now

/-- A poll with the stop button released. -/
theorem poll_unheld {op : Panel} {p : Poll} (hp : p.stopHeld = false) :
    (op.poll p).Ensures (op.Unheld p) := by
  refine poll_spec ?_
  rw [hp]
  refine ensures_pure.2 ?_
  refine (inhibited_spec _ _ _ _).mono fun u r ⟨hu, hphase, hms, hhandled, hgo, hinhibit⟩ => ?_
  refine ⟨fun _ => ?_, fun st v op' hst ha => ?_⟩
  · exact ⟨hhandled, fun h => (hinhibit h).imp id And.right, by simp [hu],
      fun h => .inl ⟨hphase ▸ h, hms⟩⟩
  · refine ⟨ha.stopHandled.trans hhandled, fun h => ?_, fun q b hq hk => ?_, fun h => ?_⟩
    · exact (hinhibit (ha.inhibit ▸ h)).imp id And.right
    · obtain ⟨hc, hover⟩ := ha.starts q b (by simpa [hu] using hq) hk
      exact ⟨hphase ▸ hc, hms ▸ hover⟩
    · rcases ha.counts h with ⟨hc, hc'⟩ | ⟨hready, hshort, hfault, hnow⟩
      · exact .inl ⟨hphase ▸ hc, hc'.trans hms⟩
      · obtain ⟨hgo, hi⟩ := hgo (by simp [hshort])
        exact .inr ⟨hphase ▸ hready, hgo ▸ hshort, ⟨st, hst, hfault⟩, hi, hnow⟩

end Panel

/-! ## Runs -/

/-- One poll of a run: the panel before it, the time, the buttons and the status, and the calls
that were made. -/
structure Polling where
  before : Panel
  time : ℕ
  go : Press
  stopHeld : Bool
  goHeld : Bool
  status : Option Status
  exchange : List PanelEvent

/-- What the poll is given: the time as the millisecond counter shows it. -/
def Polling.poll (a : Polling) : Poll where
  now := Clock.reading a.time
  go := a.go
  stopHeld := a.stopHeld
  goHeld := a.goHeld
  status := a.status

/-- The panel is polled, with time going on; the inputs and the results of its submissions are
anybody's. -/
def Takes (s : Panel × ℕ) (a : Polling) (s' : Panel × ℕ) : Prop :=
  a.before = s.1 ∧ s.2 ≤ a.time ∧ s'.2 = a.time ∧ (s.1.poll a.poll).Yields a.exchange s'.1

/-- The polls from power-up, at time `t₀`. -/
def Polls (t₀ : ℕ) (l : List Polling) (s : Panel × ℕ) : Prop := Run.Path Takes ({}, t₀) l s

/-- Every held STOP was followed by a poll with both buttons released. -/
def Released (l : List Polling) : Prop :=
  ∀ l₁ a l₂, l = l₁ ++ a :: l₂ → a.stopHeld = true →
    ∃ b ∈ l₂, b.stopHeld = false ∧ b.goHeld = false

/-- STOP is held, and during this hold a STOP request was accepted. -/
def HoldAccepted (l : List Polling) : Prop :=
  ∃ l₁ a l₂, l = l₁ ++ a :: l₂ ∧ (∀ b ∈ a :: l₂, b.stopHeld = true) ∧
    ({ kind := .stop }, true) ∈ submits a.exchange

def Polling.PressesStart (a : Polling) : Prop :=
  a.before.phase = .ready ∧ a.go = .short ∧ ∃ st, a.status = some st ∧ st.state ≠ .fault

/-- A start was asked for at the time `t`, properly, and STOP has not been held since. -/
def StartAsked (l : List Polling) (t : ℕ) : Prop :=
  ∃ l₁ a l₂, l = l₁ ++ a :: l₂ ∧ a.PressesStart ∧ Released l₁ ∧
    (∀ b ∈ a :: l₂, b.stopHeld = false) ∧ a.time = t

theorem released_nil : Released [] := by
  simp [Released]

variable {l : List Polling} {a : Polling}

theorem released_snoc (ha : a.stopHeld = false) (h : Released l ∨ a.goHeld = false) :
    Released (l ++ [a]) := by
  intro l₁ b l₂ hl hb
  rcases Run.append_singleton_eq_append_cons.1 hl with ⟨-, rfl, -⟩ | ⟨l₃, rfl, hl'⟩
  · simp [ha] at hb
  · rcases h with h | h
    · obtain ⟨c, hc, hc'⟩ := h l₁ b l₃ hl' hb
      exact ⟨c, List.mem_append_left _ hc, hc'⟩
    · exact ⟨a, by simp, ha, h⟩

theorem holdAccepted_snoc :
    HoldAccepted (l ++ [a]) ↔
      a.stopHeld ∧ (({ kind := .stop }, true) ∈ submits a.exchange ∨ HoldAccepted l) := by
  constructor
  · rintro ⟨l₁, b, l₂, hl, hheld, hb⟩
    rcases Run.append_singleton_eq_append_cons.1 hl with ⟨-, rfl, -⟩ | ⟨l₃, rfl, hl'⟩
    · exact ⟨hheld b List.mem_cons_self, .inl hb⟩
    · refine ⟨hheld a (by simp), .inr ⟨l₁, b, l₃, hl', fun c hc => ?_, hb⟩⟩
      exact hheld c (List.mem_append_left [a] hc)
  · rintro ⟨ha, h | ⟨l₁, b, l₃, rfl, hheld, hb⟩⟩
    · exact ⟨l, a, [], rfl, by simpa using ha, h⟩
    · refine ⟨l₁, b, l₃ ++ [a], by simp, fun c hc => ?_, hb⟩
      rcases List.mem_append.1 (show c ∈ (b :: l₃) ++ [a] from hc) with hc | hc
      · exact hheld c hc
      · rwa [List.mem_singleton.1 hc]

theorem StartAsked.snoc {t : ℕ} (h : StartAsked l t) (ha : a.stopHeld = false) :
    StartAsked (l ++ [a]) t := by
  obtain ⟨l₁, b, l₂, rfl, hb, hl₁, hheld, ht⟩ := h
  refine ⟨l₁, b, l₂ ++ [a], by simp, hb, hl₁, fun c hc => ?_, ht⟩
  rcases List.mem_append.1 (show c ∈ (b :: l₂) ++ [a] from hc) with hc | hc
  · exact hheld c hc
  · rwa [List.mem_singleton.1 hc]

/-- What the panel knows of the polls so far. -/
structure Knows (l : List Polling) (s : Panel × ℕ) : Prop where
  handled : s.1.stopHandled = true ↔ HoldAccepted l
  settled : s.1.stopHandled = true → s.1.phase.Settled
  released : s.1.inhibit = false → Released l
  asked : s.1.phase = .countdown →
    ∃ t, StartAsked l t ∧ s.1.phaseMs = Clock.reading t ∧ t ≤ s.2

theorem knows_init (t₀ : ℕ) : Knows [] ({}, t₀) where
  handled := by simp [HoldAccepted]
  settled := nofun
  released _ := released_nil
  asked := nofun

/-- One poll keeps the panel's knowledge. -/
theorem Knows.snoc {s s' : Panel × ℕ} (h : Knows l s) (ha : Takes s a s') :
    Knows (l ++ [a]) s' := by
  obtain ⟨hbefore, htime, htime', hy⟩ := ha
  cases hheld : a.stopHeld with
  | true =>
    obtain ⟨hi, hs, hstop⟩ := Panel.poll_held hheld h.settled _ _ hy
    refine ⟨?_, fun _ => hs, fun hi' => by simp [hi] at hi', fun hc => absurd hc hs.ne_countdown⟩
    rw [holdAccepted_snoc, ← h.handled]
    split_ifs at hstop with hh
    · simp [hheld, hh, hstop]
    · obtain ⟨b, hb, hb'⟩ := hstop
      simp [hheld, hh, hb, hb']
  | false =>
    have hu := Panel.poll_unheld hheld _ _ hy
    refine ⟨?_, by simp [hu.stopHandled], fun hi => ?_, fun hc => ?_⟩
    · simp [holdAccepted_snoc, hheld, hu.stopHandled]
    · exact released_snoc hheld ((hu.inhibit hi).imp h.released id)
    · rcases hu.counts hc with ⟨hc', hms⟩ | ⟨hready, hshort, hst, hi, hms⟩
      · obtain ⟨t, ht, hms', hle⟩ := h.asked hc'
        exact ⟨t, ht.snoc hheld, hms.trans hms', hle.trans (htime.trans htime'.ge)⟩
      · refine ⟨a.time, ⟨l, a, [], rfl, ⟨hbefore ▸ hready, hshort, hst⟩, h.released hi, ?_, rfl⟩,
          hms, htime'.ge⟩
        simpa using hheld

theorem Polls.knows {t₀ : ℕ} {s : Panel × ℕ} (h : Polls t₀ l s) : Knows l s := by
  induction h with
  | nil => exact knows_init t₀
  | snoc _ ha ih => exact ih.snoc ha

/-- **START safety.**  A START is submitted only without STOP, three seconds after a short press in
READY with a status that is not FAULT; no STOP was held since, and every earlier hold ended with
both buttons released.  A poll with STOP held submits STOP only, until it is accepted. -/
theorem start_safety {t₀ : ℕ} {l l₀ l₁ : List Polling} {p : Polling} {s : Panel × ℕ}
    (h : Polls t₀ l s) (hl : l = l₀ ++ p :: l₁) :
    (∀ r b, (r, b) ∈ submits p.exchange → r.kind = .start →
      p.stopHeld = false ∧ ∃ t, StartAsked l₀ t ∧ t + countdownMs.toNat ≤ p.time) ∧
    (p.stopHeld = true →
      HoldAccepted l₀ ∧ submits p.exchange = [] ∨
      ¬HoldAccepted l₀ ∧ ∃ b, submits p.exchange = [({ kind := .stop }, b)]) := by
  subst hl
  obtain ⟨m, m', hm, hbefore, htime, -, hy⟩ := h.reaches
  have hk := Polls.knows hm
  cases hheld : p.stopHeld with
  | true =>
    obtain ⟨-, -, hstop⟩ := Panel.poll_held hheld hk.settled _ _ hy
    rw [← hk.handled]
    split_ifs at hstop with hh
    · exact ⟨by simp [hstop.1], fun _ => .inl ⟨hh, hstop.1⟩⟩
    · obtain ⟨b, hb, -⟩ := hstop
      refine ⟨fun r b' hr hk => ?_, fun _ => .inr ⟨hh, b, hb⟩⟩
      obtain ⟨rfl, -⟩ : r = { kind := .stop } ∧ b' = b := by simpa [hb] using hr
      exact absurd hk (by decide)
  | false =>
    refine ⟨fun r b hr hkind => ⟨rfl, ?_⟩, nofun⟩
    obtain ⟨hc, hover⟩ := (Panel.poll_unheld hheld _ _ hy).starts r b hr hkind
    obtain ⟨t, ht, hms, hle⟩ := hk.asked hc
    refine ⟨t, ht, ?_⟩
    rw [hms] at hover
    have hsub := Clock.toNat_sub_le (hle.trans htime)
    have hover' : countdownMs.toNat ≤ (Clock.reading p.time - Clock.reading t).toNat :=
      UInt32.le_iff_toNat_le.1 hover
    omega

/-- The poll at `time` with an accepting controller, and the panel after it. -/
def benchPoll (op : Panel) (time : ℕ) (go : Press) (stopHeld : Bool) (st : Status) :
    Polling × Panel :=
  let r := (op.poll ⟨Clock.reading time, go, stopHeld, false, some st⟩).run
    (fun c (_ : Unit) => (match c with | .submit _ => true | .say _ => (), ())) ()
  (⟨op, time, go, stopHeld, false, some st, r.1⟩, r.2.1)

theorem benchPoll_takes (op : Panel) (t time : ℕ) (go : Press) (stopHeld : Bool) (st : Status)
    (ht : t ≤ time) :
    Takes (op, t) (benchPoll op time go stopHeld st).1
      ((benchPoll op time go stopHeld st).2, time) :=
  ⟨rfl, ht, rfl, yields_run _ _ _⟩

def benchStatus : Status where
  state := .off
  commandSequence := 0
  commandOk := false
  collecting := false
  calibrationSensor := .barcode
  acceptedCalibration := 7

def benchReady := benchPoll {} 0 .none false benchStatus
def benchHeld := benchPoll benchReady.2 10 .none true benchStatus
def benchReleased := benchPoll benchHeld.2 20 .none false benchStatus
def benchPressed := benchPoll benchReleased.2 30 .short false benchStatus
def benchStart := benchPoll benchPressed.2 3030 .none false benchStatus

theorem bench_polls :
    Polls 0 [benchReady.1, benchHeld.1, benchReleased.1, benchPressed.1, benchStart.1]
      (benchStart.2, 3030) :=
  ((((Run.Path.nil.snoc (benchPoll_takes _ _ _ _ _ _ (by decide))).snoc
    (benchPoll_takes _ _ _ _ _ _ (by decide))).snoc
    (benchPoll_takes _ _ _ _ _ _ (by decide))).snoc
    (benchPoll_takes _ _ _ _ _ _ (by decide))).snoc
    (benchPoll_takes _ _ _ _ _ _ (by decide))

/-- STOP held and released, then a press, a countdown and START. -/
theorem start_safety_bench :
    ({ kind := .start }, true) ∈ submits benchStart.1.exchange ∧
    (∃ t, StartAsked [benchReady.1, benchHeld.1, benchReleased.1, benchPressed.1] t ∧
      t + countdownMs.toNat ≤ 3030) ∧
    ∃ b, submits benchHeld.1.exchange = [({ kind := .stop }, b)] := by
  have hstart : ({ kind := .start }, true) ∈ submits benchStart.1.exchange := by decide
  have hlist : [benchReady.1, benchHeld.1, benchReleased.1, benchPressed.1, benchStart.1] =
      [benchReady.1, benchHeld.1, benchReleased.1, benchPressed.1] ++ benchStart.1 :: [] := rfl
  have hlist' : [benchReady.1, benchHeld.1, benchReleased.1, benchPressed.1, benchStart.1] =
      [benchReady.1] ++ benchHeld.1 :: [benchReleased.1, benchPressed.1, benchStart.1] := rfl
  refine ⟨hstart, ((start_safety bench_polls hlist).1 _ _ hstart rfl).2, ?_⟩
  rcases (start_safety bench_polls hlist').2 rfl with ⟨-, h⟩ | ⟨-, h⟩
  · exact absurd h (by decide)
  · exact h

end RoboticCar.Operator
