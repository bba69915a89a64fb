import Mathlib.Data.List.Induction
import RoboticCar.Drive.Authority

/-!
# The phase machine over whole runs

A call of the owner is a few steps of the phase machine (`Tick`, `Step.ticks`), so what every tick
keeps holds in every state that a run reaches (`core_invariant`).  The first such invariant is
`Core.Tidy`: a command that is being cancelled leaves no other behind, and the flags of the phases
exclude each other.
-/

namespace RoboticCar.Driving

open Lib CFloat Motion Navigation Prog Relation

variable {F D : Type} {B : BarcodeReaders}

/-- One step of the phase machine.  A command can only be done if there is one. -/
inductive Tick (F : Type) (c : Core) : Core → Prop
  | halt (state : DriveState) (hs : state.running = false) : Tick F c (.halted state)
  | start (state : DriveState) (hc : c = .halted state) :
      Tick F c { c with state := .follow, pending := .none }
  | settle : Tick F c { c with cancelId := 0 }
  | stop : Tick F c c.requestStop
  | move {cue : Cue} {u : List (Event F)} {c' : Core}
      (hd : cue.done = true → c.commandId ≠ 0) (hm : Move cue c u c') : Tick F c c'

section Judged

def Drive.Completes (d : Drive F D B) (r : MotionReport) : Prop :=
  r.commandId = d.commandId ∧ r.commandId ≠ 0 ∧ r.outcome = .done ∧ r.fault = .none

namespace Drive

theorem judged_append {d : Drive F D B} (hr : d.running) (pre post : List MotionReport) :
    d.judged (pre ++ post) = post.foldl (Drained.take d.state d.commandId) (d.judged pre) := by
  rw [judged, judged, if_pos hr, if_pos hr, List.foldl_append]

theorem Drained.take_done {state : DriveState} {id : UInt8} {acc : Drained} {r : MotionReport}
    (h : (acc.take state id r).done = true) :
    acc.done ∨ r.commandId = id ∧ r.commandId ≠ 0 ∧ r.outcome = .done ∧ r.fault = .none := by
  simp only [Drained.take] at h
  split_ifs at h with h₁ h₂ h₃ h₄
  · exact .inl h
  · exact .inl h
  · exact .inr ⟨h₃, h₁, h₄.2.1, h₄.2.2.2⟩
  · exact .inl h
  · exact .inl h

theorem Drained.take_cancelId (state : DriveState) (id : UInt8) (acc : Drained)
    (r : MotionReport) :
    (acc.take state id r).cancelId = acc.cancelId ∨ (acc.take state id r).cancelId = 0 := by
  simp only [Drained.take]
  split_ifs <;> simp

/-- A command is done only by its completion. -/
theorem judged_done {d : Drive F D B} {reports : List MotionReport}
    (h : (d.judged reports).done = true) : ∃ r ∈ reports, d.Completes r := by
  have hr : d.running := by
    by_contra hr
    rw [judged, if_neg hr] at h
    exact absurd h (by simp)
  induction reports using List.reverseRecOn with
  | nil =>
    rw [judged, if_pos hr] at h
    exact absurd h (by simp)
  | append_singleton pre r ih =>
    rw [judged_append hr] at h
    rcases Drained.take_done h with h | h
    · obtain ⟨r', hmem, hc⟩ := ih h
      exact ⟨r', List.mem_append_left _ hmem, hc⟩
    · exact ⟨r, by simp, h⟩

theorem judged_cancelId (d : Drive F D B) (reports : List MotionReport) :
    (d.judged reports).cancelId = d.cancelId ∨ (d.judged reports).cancelId = 0 := by
  rw [judged]
  split_ifs
  · refine List.foldlRecOn
      (motive := fun acc : Drained => acc.cancelId = d.cancelId ∨ acc.cancelId = 0)
      reports _ (.inl rfl) fun acc hacc r _ => ?_
    rcases Drained.take_cancelId d.state d.commandId acc r with h | h
    · rwa [h]
    · exact .inr h
  · exact .inl rfl

end Drive

end Judged

/-! ## Calls are ticks -/

section Ticks

variable [CFloat F] [CFloat D]

variable {d d' : Drive F D B}

omit [CFloat F] in
theorem Drive.Halted.running_eq {state : DriveState} (h : d.Halted state d') :
    d'.running = state.running :=
  congrArg DriveState.running (congrArg Core.state h.core)

omit [CFloat F] in
theorem Drive.not_running_of_startReady {now : UInt32} (h : d.startReady now) :
    d.running = false := by
  simp only [Drive.startReady, Bool.and_eq_true, Bool.or_eq_true, decide_eq_true_eq] at h
  rcases h.1.1.1.1.1.2 with hs | hs <;> rw [Drive.running, hs] <;> rfl

omit [CFloat F] in
theorem Drive.finishReset_running {m : Drive F D B} (h : m.running = false) (now : UInt32) :
    (m.finishReset now).running = false := by
  have hcases := m.finishReset_cases now
  generalize m.finishReset now = m' at hcases ⊢
  cases hcases with
  | finishes => rfl
  | _ => exact h

variable {s5 : Bool}

/-- A cycle is a few ticks. -/
theorem Drive.Cycled.ticks {frame : Option SensorFrame} {feedback : Option (MotionFeedback D)}
    {u : List (Event F)} (h : Inv s5 d) (hd : d.Cycled s5 frame feedback u d')
    (hrun : d'.running) : ReflTransGen (Tick F) d.core d'.core := by
  have hhalt {m : Drive F D B} {state : DriveState} (hh : m.Halted state d')
      (hs : state.running = false) : False :=
    absurd (hrun.symm.trans (hh.running_eq.trans hs)) nofun
  cases hd with
  | off => exact .refl
  | noFrame hh => exact (hhalt hh rfl).elim
  | blind _ hn => cases hn.symm.trans h.navConfigured
  | @sampled _ _ t _ _ output navigation _ _ hn hu =>
    have hsettle : ReflTransGen (Tick F) d.core
        (d.sampled (feedback.getD noFeedback) (reportsOf t) output navigation).core := by
      have hcore : (d.sampled (feedback.getD noFeedback) (reportsOf t) output navigation).core =
          { d.core with cancelId := (d.judged (reportsOf t)).cancelId } := rfl
      rw [hcore]
      rcases d.judged_cancelId (reportsOf t) with hc | hc <;> rw [hc]
      · exact .refl
      · exact .single .settle
    cases hu with
    | resetting hp =>
      have hstate : d.state = .fault := h.resetting hp
      have hoff : (d.sampled (feedback.getD noFeedback) (reportsOf t) output navigation).running =
          false := congrArg DriveState.running hstate
      cases hrun.symm.trans (Drive.finishReset_running hoff _)
    | faults _ _ hh => exact (hhalt hh rfl).elim
    | idle _ _ hm => cases hrun.symm.trans hm
    | holds _ _ _ _ _ hcore =>
      rw [hcore]
      exact hsettle.tail .stop
    | acts _ _ _ _ _ _ ho =>
      cases ho with
      | moves hm =>
        refine hsettle.tail (.move (fun hdone => ?_) hm)
        obtain ⟨r, -, hid, hne, -⟩ := Drive.judged_done hdone
        exact fun h0 => hne (hid.trans h0)
      | halts _ _ hs hh => exact (hhalt hh (by rcases hs with rfl | rfl <;> rfl)).elim

variable [CDouble F D]

variable {a : Made F D}

/-- **Every call is a few ticks of the phase machine.** -/
theorem Step.ticks (h : Inv s5 d) (hstep : Step s5 d a d') :
    ReflTransGen (Tick F) d.core d'.core := by
  by_cases hrun : d'.running
  · obtain ⟨op, calls, ok⟩ := a
    have hcase := hstep.cases h.configured h.detourOff
    have hhalt {state : DriveState} (hh : d.Halted state d') (hs : state.running = false) : False :=
      absurd (hrun.symm.trans (hh.running_eq.trans hs)) nofun
    generalize motion calls = u at hcase
    cases hcase with
    | config _ hc => rw [hc.core]
    | start hs =>
      cases hs with
      | refuses => exact .refl
      | starts hready hcore =>
        rw [hcore]
        exact .single (.start _ (h.cleared (Drive.not_running_of_startReady hready)))
    | stop hh =>
      refine (hhalt hh ?_).elim
      rw [Drive.stopState]
      split <;> rfl
    | reset hs => cases hs <;> exact .refl
    | process hd => exact hd.ticks h hrun
    | terrainFault hh => exact (hhalt hh rfl).elim
  · -- A call that does not end in a run leaves the machine halted, whatever it did.
    have hrun : d'.running = false := by simpa using hrun
    rw [(h.step hstep).cleared hrun]
    exact .single (.halt _ hrun)

/-- Only a start makes the drive run. -/
theorem Step.was_running (h : Inv s5 d) (hstep : Step s5 d a d')
    (hop : ∀ now, a.op = .start now → a.ok = false) (hrun : d'.running) :
    d.running := by
  obtain ⟨op, calls, ok⟩ := a
  have hcase := hstep.cases h.configured h.detourOff
  have hhalt {m : Drive F D B} {state : DriveState} (hh : m.Halted state d')
      (hs : state.running = false) : False :=
    absurd (hrun.symm.trans (hh.running_eq.trans hs)) (by simp)
  generalize motion calls = u at hcase
  cases hcase with
  | config _ hc => exact (congrArg (fun c : Core => c.state.running) hc.core).symm.trans hrun
  | start hs =>
    cases hs with
    | refuses => exact hrun
    | starts => exact absurd (hop _ rfl) (by simp)
  | stop hh =>
    refine (hhalt hh ?_).elim
    rw [Drive.stopState]
    split <;> rfl
  | reset hs => cases hs <;> exact hrun
  | process hd =>
    cases hd with
    | off => exact hrun
    | noFrame hh => exact (hhalt hh rfl).elim
    | blind _ hn => cases hn.symm.trans h.navConfigured
    | sampled _ _ _ hu =>
      cases hu with
      | resetting hp =>
        have hoff : d.running = false := congrArg DriveState.running (h.resetting hp)
        refine (Bool.eq_false_iff.1 (Drive.finishReset_running ?_ _) hrun).elim
        exact hoff
      | faults _ _ hh => exact (hhalt hh rfl).elim
      | idle _ _ hm => cases hrun.symm.trans hm
      | holds _ _ hm | acts _ _ hm => exact hm
  | terrainFault hh => exact (hhalt hh rfl).elim

theorem Step.not_running_of_stop (hstep : Step s5 d a d') (h : Inv s5 d) (hop : a.op = .stop) :
    d'.running = false := by
  obtain ⟨op, calls, ok⟩ := a
  obtain rfl : op = .stop := hop
  have hcase := hstep.cases h.configured h.detourOff
  generalize motion calls = u at hcase
  cases hcase with
  | config hop => exact absurd hop nofun
  | stop hh =>
    rw [hh.running_eq, Drive.stopState]
    split <;> rfl

/-- What every tick keeps, a call keeps. -/
theorem Step.core_keeps {I : Core → Prop} (htick : ∀ c c', I c → Tick F c c' → I c')
    (hstep : Step s5 d a d') (hd : Inv s5 d) (h : I d.core) : I d'.core := by
  have hticks := hstep.ticks hd
  generalize d'.core = c' at hticks ⊢
  induction hticks with
  | refl => exact h
  | tail _ ht ih => exact htick _ _ ih ht

/-- **Invariants of the phase machine are invariants of the drive.** -/
theorem core_invariant {I : Core → Prop} (hoff : I (.halted .off))
    (htick : ∀ c c', I c → Tick F c c' → I c') {config : NavConfig F D} {d₀ : Drive F D B}
    {l : List (Made F D)} (h₀ : Drive.init config = some d₀) (hl : Runs s5 d₀ l d) : I d.core := by
  have hrun : Inv s5 d ∧ I d.core := by
    refine Run.Path.invariant (I := fun d : Drive F D B => Inv s5 d ∧ I d.core) hl ?_ ?_
    · rintro d a d' ⟨hd, hi⟩ hstep
      exact ⟨hd.step hstep, hstep.core_keeps htick hd hi⟩
    · have hinit := Inv.init h₀ s5
      obtain ⟨n, -, rfl⟩ := Option.map_eq_some_iff.1 h₀
      exact ⟨hinit, hoff⟩
  exact hrun.2

end Ticks

/-! ## The phases exclude each other -/

/-- A command being cancelled is the only one; advance, sweep and detour are manoeuvres, one at a
time. -/
structure Core.Tidy (c : Core) : Prop where
  cancelled : c.cancelId ≠ 0 → c.commandId = 0 ∧ c.waitingStop = true
  advancing : c.advancing = true →
    c.state = .manoeuvre ∧ c.obstacleActive = false ∧ c.searching = false ∧ c.pending = .none
  searching : c.searching = true →
    c.state = .manoeuvre ∧ c.obstacleActive = false ∧ c.commandId = 0 ∧ c.cancelId = 0
  detour : c.obstacleActive = true → c.state = .manoeuvre
  braking : c.state = .braking → c.pending ≠ .none

theorem Core.Tidy.halted (state : DriveState) (h : state ≠ .braking) : (Core.halted state).Tidy :=
  ⟨nofun, nofun, nofun, nofun, fun hs => absurd hs h⟩

variable {c : Core}

theorem Core.Tidy.requestStop (h : c.Tidy) : c.requestStop.Tidy := by
  rw [Core.requestStop]
  split
  · exact h
  · refine ⟨fun _ => ⟨rfl, rfl⟩, h.advancing, fun hq => ?_, h.detour, h.braking⟩
    obtain ⟨hs, ho, hid, -⟩ := h.searching hq
    exact ⟨hs, ho, rfl, hid⟩

theorem Core.Tidy.of_follow (h : c.Tidy) (hs : c.state = .follow) :
    c.advancing = false ∧ c.searching = false ∧ c.obstacleActive = false := by
  refine ⟨?_, ?_, ?_⟩ <;> by_contra hf <;> rw [Bool.not_eq_false] at hf
  · exact absurd (hs.symm.trans (h.advancing hf).1) nofun
  · exact absurd (hs.symm.trans (h.searching hf).1) nofun
  · cases hs.symm.trans (h.detour hf)

theorem Core.Tidy.setPending (h : c.Tidy) (hs : c.state = .follow) (a : NavAction) :
    Core.Tidy { c with pending := a } := by
  refine ⟨h.cancelled, fun ha => ?_, h.searching, h.detour, fun hb => ?_⟩
  · exact absurd (hs.symm.trans (h.advancing ha).1) nofun
  · cases hs.symm.trans hb

theorem Core.Tidy.leaveFollow (h : c.Tidy) (hs : c.state = .follow) (state : DriveState)
    (detour : Bool) (hd : detour → state = .manoeuvre)
    (hb : state = .braking → c.pending ≠ .none) :
    Core.Tidy { c.requestStop with state := state, obstacleActive := detour } := by
  obtain ⟨hadv, hsearch, -⟩ := h.of_follow hs
  refine ⟨h.requestStop.cancelled, fun ha' => ?_, fun hq' => ?_, hd, fun hs' => ?_⟩
  · exact absurd ((c.requestStop_advancing.trans hadv).symm.trans ha') nofun
  · exact absurd ((c.requestStop_searching.trans hsearch).symm.trans hq') nofun
  · exact fun hnone => hb hs' (c.requestStop_pending.symm.trans hnone)

variable {c' : Core}

/-- A leg of the detour keeps the core tidy. -/
theorem Leg.tidy {cue : Cue} {u : List (Event F)} (h : Leg cue c u c') (hc : c.Tidy)
    (ho : c.obstacleActive) : c'.Tidy := by
  have hq {p : Prop} (hq : c.searching) : p :=
    absurd (ho.symm.trans (hc.searching hq).2.1) (by simp)
  have hforget : (c.forget cue).Tidy := by
    rw [Core.forget]
    split
    · exact ⟨fun h => ⟨rfl, (hc.cancelled h).2⟩, hc.advancing, hq, hc.detour, hc.braking⟩
    · exact hc
  have hcancel : (c.forget cue).cancelId = c.cancelId := by
    rw [Core.forget]
    split <;> rfl
  cases h with
  | rest => exact hforget
  | stop =>
    exact ⟨fun h => ⟨rfl, (hc.cancelled h).2⟩, hc.advancing, hq, hc.detour, hc.braking⟩
  | look h =>
    exact ⟨fun h' => absurd (hcancel.trans h) h', hforget.advancing, hforget.searching,
      hforget.detour, hforget.braking⟩
  | drive h | turn h =>
    exact ⟨fun h' => absurd h h', hc.advancing, hq, hc.detour, hc.braking⟩
  | resume h =>
    refine ⟨fun h' => absurd h h', fun ha => ?_, hq, (by simp), (by simp)⟩
    exact absurd (ho.symm.trans (hc.advancing ha).2.1) (by simp)

/-- So does a move. -/
theorem Move.tidy {cue : Cue} {u : List (Event F)} (h : Move cue c u c') (hc : c.Tidy)
    (hd : cue.done → c.commandId ≠ 0) : c'.Tidy := by
  cases h with
  | brake hs hh _ hp =>
    obtain ⟨a, rfl⟩ := hh.exists_pending
    have hoff := (Core.requestStop_obstacleActive { c with pending := a }).trans
      (hc.of_follow hs).2.2
    exact (hc.setPending hs a).leaveFollow hs .braking _
      (fun h => absurd (hoff.symm.trans h) nofun) fun _ => hp
  | wait hs hl =>
    obtain ⟨a, rfl⟩ := hl.exists_pending
    exact hc.setPending hs a
  | pause hs hl =>
    obtain ⟨a, rfl⟩ := hl.exists_pending
    exact (hc.setPending hs a).requestStop
  | steer hs hl hw =>
    obtain ⟨a, rfl⟩ := hl.exists_pending
    have hp := hc.setPending hs a
    refine ⟨fun hcid => ?_, hp.advancing, fun hq => ?_, hp.detour, hp.braking⟩
    · exact absurd (hw (hp.cancelled hcid).2) hcid
    · exact absurd ((hc.of_follow hs).2.1.symm.trans hq) nofun
  | brakeWait | sweep | turnWait | reacquireWait => exact hc
  | detour ho hl => exact hl.tidy hc ho
  | beginDetour _ hs _ hh hl =>
    obtain ⟨a, rfl⟩ := hh.exists_pending
    exact hl.tidy ((hc.setPending hs a).leaveFollow hs .manoeuvre true (fun _ => rfl) nofun) rfl
  | advance | turn | found | advanced | turned | missed | reacquired =>
    obtain ⟨h₁, h₂, h₃, h₄, h₅⟩ := hc
    constructor <;> simp_all

/-- **So does every tick.** -/
theorem Tick.tidy (h : Tick F c c') (hc : c.Tidy) : c'.Tidy := by
  cases h with
  | halt state hs => exact .halted state fun h => absurd (h ▸ hs) nofun
  | start state h =>
    subst h
    exact ⟨nofun, nofun, nofun, nofun, nofun⟩
  | settle =>
    refine ⟨fun h => absurd rfl h, hc.advancing, fun hq => ?_, hc.detour, hc.braking⟩
    obtain ⟨hs, ho, hid, -⟩ := hc.searching hq
    exact ⟨hs, ho, hid, rfl⟩
  | stop => exact hc.requestStop
  | move hd hm => exact hm.tidy hc hd

theorem Core.Tidy.sampled {d : Drive F D B} (h : d.core.Tidy) (feedback : MotionFeedback D)
    (reports : List MotionReport) (output : NavOutput F D) (navigation : Nav F D B) :
    (d.sampled feedback reports output navigation).core.Tidy := by
  have hcore : (d.sampled feedback reports output navigation).core =
      { d.core with cancelId := (d.judged reports).cancelId } := rfl
  rw [hcore]
  rcases d.judged_cancelId reports with hj | hj <;> rw [hj]
  · exact h
  · exact (Tick.settle : Tick F _ _).tidy h

theorem Step.tidy [CFloat F] [CFloat D] [CDouble F D] {s5 : Bool} {d d' : Drive F D B}
    {a : Made F D} (hstep : Step s5 d a d') (hd : Inv s5 d) (h : d.core.Tidy) : d'.core.Tidy :=
  hstep.core_keeps (fun _ _ hc ht => ht.tidy hc) hd h

/-- **The drive stays tidy** along every run. -/
theorem tidy_runs [CFloat F] [CFloat D] [CDouble F D] {s5 : Bool} {config : NavConfig F D}
    {d₀ d : Drive F D B} {l : List (Made F D)} (h₀ : Drive.init config = some d₀)
    (hl : Runs s5 d₀ l d) : d.core.Tidy :=
  core_invariant (.halted .off (by decide)) (fun _ _ hc ht => ht.tidy hc) h₀ hl

end RoboticCar.Driving
