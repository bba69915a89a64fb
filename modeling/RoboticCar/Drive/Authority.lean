import RoboticCar.Drive.Cycle

/-!
# Authority over the motors

`Lockstep` is the agreement of the drive with the navigation core: a running drive has an active
run, a latched fault and a pending reset hold it in its fault state, and outside a run no command
is stored.  Motion is requested only by an `Authorised` cycle, and a call that ends a run leaves
the motors `Disarmed`: `drive_authority`.
-/

namespace RoboticCar.Driving

open Lib CFloat Motion Navigation Prog

variable {F D : Type} {B : BarcodeReaders}

variable {cue : Cue} {c c' : Core}

theorem Core.Hears.exists_pending (h : c.Hears cue c') : ∃ a, c' = { c with pending := a } := by
  cases h with
  | silent => exact ⟨c.pending, rfl⟩
  | heard a => exact ⟨a, rfl⟩

theorem Core.Listens.exists_pending (h : c.Listens cue c') : ∃ a, c' = { c with pending := a } := by
  cases h with
  | keep h => exact h.exists_pending
  | cross h =>
    obtain ⟨a, rfl⟩ := h.exists_pending
    exact ⟨.none, rfl⟩

variable {u : List (Event F)}

theorem Leg.running (h : Leg cue c u c') (hc : c.state.running) :
    c'.state.running := by
  have hforget : (c.forget cue).state = c.state := by
    rw [Core.forget]
    split <;> rfl
  cases h with
  | rest => rwa [hforget]
  | look => exact hforget ▸ hc
  | stop | drive | turn => exact hc
  | resume => rfl

/-- A move leaves the run going. -/
theorem Move.running (h : Move cue c u c') (hc : c.state.running) :
    c'.state.running := by
  cases h with
  | wait _ hl | steer _ hl =>
    obtain ⟨a, rfl⟩ := hl.exists_pending
    exact hc
  | pause _ hl =>
    obtain ⟨a, rfl⟩ := hl.exists_pending
    rwa [Core.requestStop_state]
  | detour _ hl => exact hl.running hc
  | beginDetour _ _ _ _ hl => exact hl.running rfl
  | _ => first | rfl | exact hc

theorem Move.detourOff (h : Move cue c u c') (hc : c.obstacleActive = false)
    (hd : cue.detours = false) : c'.obstacleActive = false := by
  cases h with
  | brake _ hl | pause _ hl =>
    obtain ⟨a, rfl⟩ := hl.exists_pending
    exact (Core.requestStop_obstacleActive _).trans hc
  | wait _ hl | steer _ hl =>
    obtain ⟨a, rfl⟩ := hl.exists_pending
    exact hc
  | detour ho => cases ho.symm.trans hc
  | beginDetour hb => cases hb.symm.trans hd
  | _ => exact hc

/-! ## The invariant -/

section Lockstep

/-- The drive and the navigation agree, and a drive outside a run holds nothing. -/
structure Lockstep (d : Drive F D B) : Prop where
  active : d.running = true ↔ d.navigation.lifecycle = .active
  latched : d.navigation.lifecycle = .faultLatched → d.state = .fault
  resetting : d.resetResult = .pending → d.state = .fault
  cleared : d.running = false →
    d.pending = .none ∧ d.turn = .none ∧ d.commandId = 0 ∧ d.cancelId = 0 ∧
      d.waitingStop = false ∧ d.advancing = false ∧ d.searching = false

/-- The inductive form of `Lockstep`: outside a run the whole machine is cleared. -/
structure Inv (s5 : Bool) (d : Drive F D B) : Prop where
  active : d.running = true ↔ d.navigation.lifecycle = .active
  latched : d.navigation.lifecycle = .faultLatched → d.state = .fault
  resetting : d.resetResult = .pending → d.state = .fault
  cleared : d.running = false → d.core = .halted d.state
  configured : d.configured = true
  navConfigured : d.navigation.configured = true
  detourOff : d.DetourOff s5

variable {s5 : Bool} {d : Drive F D B}

theorem Inv.lockstep (h : Inv s5 d) : Lockstep d := by
  refine ⟨h.active, h.latched, h.resetting, fun hr => ?_⟩
  have hc := h.cleared hr
  simp only [Drive.core, Core.halted, Core.mk.injEq] at hc
  exact ⟨hc.2.1, hc.2.2.1, hc.2.2.2.2.2.2.1, hc.2.2.2.2.2.2.2.1, hc.2.2.2.2.2.1, hc.2.2.2.1,
    hc.2.2.2.2.1⟩

variable [CFloat D]

variable {d' : Drive F D B}

/-- A halt keeps the invariant. -/
theorem Inv.of_halted {state : DriveState} (hh : d.Halted state d') (hs : state.running = false)
    (hl : d.navigation.lifecycle = .faultLatched → state = .fault) (hc : d.configured)
    (hn : d.navigation.configured) : Inv s5 d' := by
  have hstate : d'.state = state := congrArg Core.state hh.core
  have hlife : d'.navigation.lifecycle =
      if d.navigation.lifecycle = .faultLatched then .faultLatched else .inactive := by
    rw [hh.navigation, Nav.endRun_lifecycle hn]
  refine ⟨?_, fun h => ?_, fun h => ?_, fun _ => ?_, hh.configured.trans hc, ?_, fun _ => ?_⟩
  · rw [Drive.running, hstate, hs, hlife]
    split <;> simp
  · rw [hlife] at h
    rw [hstate]
    refine hl ?_
    by_contra hno
    rw [if_neg hno] at h
    cases h
  · rw [hh.resetResult] at h
    split at h
    · cases h
    · contradiction
  · rw [hh.core, hstate]
  · rw [hh.navigation, Nav.endRun_configured, hn]
  · exact congrArg Core.obstacleActive hh.core

variable {m : Drive F D B}

omit [CFloat D] in
theorem Inv.of_keeps (h : Inv s5 m) (hrun : m.running) (hrun' : d'.running)
    (hk : m.Keeps d') (ho : d'.DetourOff s5) : Inv s5 d' := by
  have hlife : d'.navigation.lifecycle = .active := hk.navigation.1.trans (h.active.1 hrun)
  refine ⟨⟨fun _ => hlife, fun _ => hrun'⟩, fun hl => ?_, fun hr => ?_, fun hr => ?_,
    hk.configured.trans h.configured, hk.navigation.2.2.1.trans h.navConfigured, ho⟩
  · cases hl.symm.trans hlife
  · have hstate := h.resetting (hk.resetResult ▸ hr)
    rw [Drive.running, hstate] at hrun
    exact absurd hrun (by decide)
  · cases hr.symm.trans hrun'

/-- So does a cycle that may move. -/
theorem Inv.of_outcome {done : Bool} {u : List (Event F)} (h : Inv s5 m) (hrun : m.running)
    (ho : m.Outcome (m.cue s5 done) u d') : Inv s5 d' := by
  have hactive : m.navigation.lifecycle = .active := h.active.1 hrun
  cases ho with
  | moves hm hk =>
    exact h.of_keeps hrun (hm.running hrun) hk fun hs5 => hm.detourOff (h.detourOff hs5) hs5
  | halts ht hk hs hh =>
    refine Inv.of_halted hh (by rcases hs with rfl | rfl <;> rfl) (fun hl => ?_)
      (hk.configured.trans h.configured) (hk.navigation.2.2.1.trans h.navConfigured)
    cases hl.symm.trans (hk.navigation.1.trans hactive)

/-- So does the end of a reset. -/
theorem Inv.finishReset (h : Inv s5 m) (hp : m.resetResult = .pending) (now : UInt32) :
    Inv s5 (m.finishReset now) := by
  have hstate : m.state = .fault := h.resetting hp
  have hrun : m.running = false := by rw [Drive.running, hstate]; rfl
  have hinactive : m.navigation.lifecycle ≠ .active := fun ha =>
    absurd (hrun.symm.trans (h.active.2 ha)) (by simp)
  have hcore := h.cleared hrun
  have hcases := m.finishReset_cases now
  generalize m.finishReset now = m' at hcases ⊢
  cases hcases with
  | expires =>
    exact { h with resetting := (by simp) }
  | waits hn =>
    rcases hn with rfl | ⟨hl, hn, hconf⟩
    · exact { h with }
    · refine ⟨⟨fun hr => ?_, fun ha => ?_⟩, fun _ => hstate, fun _ => hstate, h.cleared,
        h.configured, hconf.trans h.navConfigured, h.detourOff⟩
      · cases hrun.symm.trans hr
      · cases hn.symm.trans ha
  | @finishes navigation output htime hfresh hafter hidle hfault hbraked hnav =>
    have hn : navigation.lifecycle = .inactive ∧
        navigation.configured = m.navigation.configured := by
      rcases hnav with ⟨hl, hr⟩ | ⟨hl, rfl⟩
      · rcases m.navigation.resetFault_cases now with hr' | ⟨-, hlife, hconf⟩
        · rw [hr'] at hr
          cases hr
        · rw [hr] at hlife hconf
          exact ⟨hlife, hconf⟩
      · refine ⟨?_, rfl⟩
        cases hlife : m.navigation.lifecycle with
        | inactive => rfl
        | active => exact absurd hlife hinactive
        | faultLatched => exact absurd hlife hl
    refine ⟨⟨(by rintro ⟨⟩), fun ha => ?_⟩, fun hl => ?_, (by simp), fun _ => ?_, h.configured,
      hn.2.trans h.navConfigured, h.detourOff⟩
    · cases hn.1.symm.trans ha
    · cases hn.1.symm.trans hl
    · have hoff : ∀ c : Core, c = .halted .fault → { c with state := .off } = .halted .off := by
        rintro c rfl
        rfl
      exact hoff m.core (hstate ▸ hcore)

variable [CFloat F]

/-- Frame, feedback and reports of a cycle keep the invariant, unless the frame faults a running
drive. -/
theorem Inv.sampled (h : Inv s5 d) {frame : SensorFrame} {feedback : MotionFeedback D}
    {output : NavOutput F D} {navigation : Nav F D B}
    (hn : d.navigation.process frame (some (Drive.odometryOf feedback)) =
      some (output, navigation))
    (hs : output.stopRequested = false ∨ d.running = false) (reports : List MotionReport) :
    Inv s5 (d.sampled feedback reports output navigation) := by
  obtain ⟨⟨hlatch, -, hconf, -⟩, -, hstop⟩ := Nav.process_latches hn
  have hlife : navigation.lifecycle = d.navigation.lifecycle := by
    rcases hlatch with hsame | ⟨hactive, hlatched⟩
    · exact hsame
    · rcases hs with hs | hs
      · rw [hlatched] at hstop
        cases hs.symm.trans hstop
      · cases hs.symm.trans (h.active.2 hactive)
  refine ⟨?_, ?_, h.resetting, fun hr => ?_, h.configured, hconf.trans h.navConfigured,
    h.detourOff⟩
  · exact hlife ▸ h.active
  · exact hlife ▸ h.latched
  · have hc := h.cleared hr
    have hjudged : (d.judged reports).cancelId = d.cancelId := by
      rw [Drive.judged, show d.running = false from hr]
      rfl
    have hcore : (d.sampled feedback reports output navigation).core =
        { d.core with cancelId := (d.judged reports).cancelId } := rfl
    rw [hcore, hjudged]
    exact hc

/-- **Every cycle keeps the invariant.** -/
theorem Inv.cycled (h : Inv s5 d) {frame : Option SensorFrame}
    {feedback : Option (MotionFeedback D)} {u : List (Event F)}
    (hd : d.Cycled s5 frame feedback u d') : Inv s5 d' := by
  cases hd with
  | off => exact h
  | noFrame hh => exact Inv.of_halted hh rfl (fun _ => rfl) h.configured h.navConfigured
  | blind _ hn => cases hn.symm.trans h.navConfigured
  | @sampled _ _ t _ _ _ _ hc ht hn hu =>
    cases hu with
    | resetting hp =>
      have hstate : d.state = .fault := h.resetting hp
      have hrun : d.running = false := by rw [Drive.running, hstate]; rfl
      exact (h.sampled hn (.inr hrun) _).finishReset hp _
    | faults hr hf hh =>
      refine Inv.of_halted hh rfl (fun _ => rfl) h.configured ?_
      exact (Nav.process_latches hn).1.2.2.1.trans h.navConfigured
    | idle hr hs hrun => exact h.sampled hn (.inr hrun) _
    | holds hr hs hrun _ _ hcore hk =>
      have hm := h.sampled hn (.inl hs) (reportsOf t)
      refine hm.of_keeps hrun ?_ hk fun hs5 => ?_
      · have hstate := congrArg Core.state hcore
        rw [Core.requestStop_state] at hstate
        exact (congrArg DriveState.running hstate).trans hrun
      · refine (congrArg Core.obstacleActive hcore).trans ?_
        rw [Core.requestStop_obstacleActive]
        exact hm.detourOff hs5
    | acts hr hs hrun hf hh hm ho => exact (h.sampled hn (.inl hs) _).of_outcome hrun ho

variable [CDouble F D]

/-- **The invariant holds after every call.** -/
theorem Inv.step {a : Made F D} (h : Inv s5 d) (hstep : Step s5 d a d') : Inv s5 d' := by
  obtain ⟨op, calls, ok⟩ := a
  have hcase := hstep.cases h.configured h.detourOff
  generalize motion calls = u at hcase
  cases hcase with
  | config _ hc =>
    have hstate : d'.state = d.state := congrArg Core.state hc.core
    refine ⟨?_, ?_, ?_, fun hr => ?_, hc.configured.trans h.configured,
      hc.navConfigured.trans h.navConfigured, fun hs5 => ?_⟩
    · rw [Drive.running, hstate, hc.lifecycle]
      exact h.active
    · rw [hstate, hc.lifecycle]
      exact h.latched
    · rw [hstate, hc.resetResult]
      exact h.resetting
    · rw [hc.core, hstate]
      rw [Drive.running, hstate] at hr
      exact h.cleared hr
    · exact (congrArg Core.obstacleActive hc.core).trans (h.detourOff hs5)
  | start hs =>
    cases hs with
    | refuses => exact h
    | starts hready hcore hnav hr hc =>
      simp only [Drive.startReady, Bool.and_eq_true, Bool.or_eq_true, decide_eq_true_eq] at hready
      obtain ⟨⟨⟨⟨⟨⟨-, hstate⟩, -⟩, -⟩, -⟩, -⟩, hstart⟩ := hready
      obtain ⟨-, -, hactive, hnc⟩ := Nav.start_cases hstart
      obtain ⟨hlife, -, hconf, -⟩ := Nav.keeps_setMode (d.navigation.start _).2 .track
      rw [← hnav] at hlife hconf
      have hrun : d'.running := congrArg DriveState.running (congrArg Core.state hcore)
      have hlife : d'.navigation.lifecycle = .active := hlife.trans hactive
      refine ⟨⟨fun _ => hlife, fun _ => hrun⟩, fun hl => ?_, fun hp => ?_, fun hf => ?_,
        hc.trans h.configured, (hconf.trans hnc).trans h.navConfigured, fun hs5 => ?_⟩
      · cases hl.symm.trans hlife
      · rw [hr] at hp
        rcases hstate with hstate | hstate <;>
          cases hstate.symm.trans (h.resetting hp)
      · cases hf.symm.trans hrun
      · exact (congrArg Core.obstacleActive hcore).trans (h.detourOff hs5)
  | stop hh =>
    refine Inv.of_halted hh ?_ (fun hl => ?_) h.configured h.navConfigured
    · rw [Drive.stopState]
      split <;> rfl
    · rw [Drive.stopState, if_pos (.inr hl)]
  | reset hr =>
    cases hr with
    | refuses => exact h
    | denied =>
      exact { h with resetting := (by simp) }
    | granted hs =>
      exact { h with resetting := fun _ => hs }
  | process hd => exact h.cycled hd
  | terrainFault hh => exact Inv.of_halted hh rfl (fun _ => rfl) h.configured h.navConfigured

omit [CDouble F D] in
theorem Inv.init {config : NavConfig F D} (h : Drive.init config = some d) (s5 : Bool) :
    Inv s5 d := by
  obtain ⟨n, hn, rfl⟩ := Option.map_eq_some_iff.1 h
  obtain ⟨hl, hc⟩ := Nav.init_lifecycle hn
  refine ⟨⟨nofun, fun ha => ?_⟩, fun hf => ?_, nofun, fun _ => rfl, rfl, hc, fun _ => rfl⟩
  · cases hl.symm.trans ha
  · cases hl.symm.trans hf

/-- **It holds in every run.** -/
theorem Inv.runs {config : NavConfig F D} {d₀ : Drive F D B} {l : List (Made F D)}
    (h₀ : Drive.init config = some d₀) (hl : Runs s5 d₀ l d) : Inv s5 d :=
  Run.Path.invariant (I := Inv s5) hl (fun _ _ _ => Inv.step) (Inv.init h₀ s5)

end Lockstep

/-! ## Requests and their conditions -/

section Authority

/-- A call may ask for motion: a cycle of a running drive with an active navigation, fresh feedback
without a fault and healthy reports. -/
def Authorised [CFloat F] [CFloat D] (d : Drive F D B) (op : Op F D)
    (reports : List MotionReport) : Prop :=
  ∃ frame feedback output navigation,
    op = .process (some frame) (some feedback) ∧ d.running = true ∧
    d.navigation.process frame (some (Drive.odometryOf feedback)) = some (output, navigation) ∧
    d.navigation.lifecycle = .active ∧ navigation.lifecycle = .active ∧
    feedback.valid = true ∧
    frame.timestampUs - feedback.timestampUs ≤ d.navigation.config.maxSampleAgeUs ∧
    feedback.state ≠ .fault ∧ feedback.fault = .none ∧
    d.healthyReports feedback reports = true

/-- The exchange calls `stop` and then `heartbeat(false)`, with no request and no heartbeat after
that. -/
def Disarmed (t : List (Event F)) : Prop :=
  ∃ pre mid post, t = pre ++ ⟨.stop, ()⟩ :: (mid ++ ⟨.heartbeat false, ()⟩ :: post) ∧
    ∀ e ∈ mid ++ post, e.1.isRequest = false ∧ e.1 ≠ .heartbeat true

theorem PortCall.not_isMotion {c : PortCall F} (h : ¬c.isMotion) :
    c.isRequest = false ∧ c ≠ .heartbeat true := by
  cases c <;> first | exact absurd rfl h | exact ⟨rfl, nofun⟩

variable {e : Event F}

theorem mem_motion_of_isRequest {t : List (Event F)} (he : e ∈ t) (hr : e.1.isRequest) :
    e ∈ motion t := by
  refine List.mem_filter.2 ⟨he, ?_⟩
  by_contra hm
  exact absurd (hr.symm.trans (PortCall.not_isMotion hm).1) nofun

variable {u : List (Event F)}

/-- An exchange whose motion calls end as `halt` does is disarmed, whatever the obstacle calls
around them. -/
theorem Disarmed.of_motion {t : List (Event F)} (h : motion t = u ++ haltCalls) : Disarmed t := by
  obtain ⟨pre, rest, rfl, -, hrest⟩ := List.filter_eq_append_iff.1 h
  obtain ⟨pre', rest', rfl, -, -, hrest'⟩ := List.filter_eq_cons_iff.1 hrest
  obtain ⟨mid, post, rfl, hmid, -, hpost⟩ := List.filter_eq_cons_iff.1 hrest'
  refine ⟨pre ++ pre', mid, post, by rw [List.append_assoc], fun e he => ?_⟩
  rcases List.mem_append.1 he with he | he
  · exact PortCall.not_isMotion (hmid e he)
  · exact PortCall.not_isMotion (List.filter_eq_nil_iff.1 hpost e he)

theorem isRequest_of_asks_eq_nil (h : asks u = []) (he : e ∈ u) : e.1.isRequest = false := by
  by_contra hr
  have hask := List.filter_eq_nil_iff.1 h e he
  exact hask (PortCall.isAsk_of_isRequest (by simpa using hr))

variable [CFloat F] [CFloat D]

variable {s5 : Bool} {d : Drive F D B} {feedback : Option (MotionFeedback D)}

theorem Inv.authorised (h : Inv s5 d) {frame : SensorFrame} {reports : List MotionReport}
    {output : NavOutput F D} {navigation : Nav F D B}
    (hn : d.navigation.process frame (some (Drive.odometryOf (feedback.getD noFeedback))) =
      some (output, navigation))
    (hs : output.stopRequested = false) (hrun : d.running)
    (hf : (d.sampled (feedback.getD noFeedback) reports output navigation).feedbackHealthy
      frame.timestampUs = true)
    (hh : d.healthyReports (feedback.getD noFeedback) reports) :
    Authorised d (.process (some frame) feedback) reports := by
  have hactive := h.active.1 hrun
  obtain ⟨⟨hlatch, hconfig, -⟩, -, hstop⟩ := Nav.process_latches hn
  have hstay : navigation.lifecycle = .active := by
    rcases hlatch with hsame | ⟨-, hlatched⟩
    · exact hsame.trans hactive
    · rw [hlatched] at hstop
      cases hs.symm.trans hstop
  simp only [Drive.feedbackHealthy, Drive.feedbackFresh, Drive.sampled, Bool.and_eq_true,
    decide_eq_true_eq, hconfig] at hf
  obtain ⟨⟨⟨hvalid, hfresh⟩, hstate⟩, hfault⟩ := hf
  cases feedback with
  | none => exact absurd hvalid nofun
  | some feedback =>
    exact ⟨frame, feedback, output, navigation, rfl, hrun, hn, hactive, hstay, hvalid, hfresh,
      of_decide_eq_true hstate, of_decide_eq_true hfault, hh⟩

variable {d' : Drive F D B}

/-- A cycle that asks for motion is authorised. -/
theorem Inv.cycled_authorised (h : Inv s5 d) {frame : Option SensorFrame}
    (hd : d.Cycled s5 frame feedback u d') (he : e ∈ u) (hr : e.1.isRequest) :
    Authorised d (.process frame feedback) (reportsOf u) := by
  have hquiet {v : List (Event F)} (hv : asks v = []) (he : e ∈ v) : False :=
    absurd (hr.symm.trans (isRequest_of_asks_eq_nil hv he)) nofun
  have hreads {t : List (Event F)} (ht : OnlyReads t) (he : e ∈ t) : False := by
    rw [ht e he] at hr
    exact absurd hr nofun
  cases hd with
  | off => exact absurd he List.not_mem_nil
  | noFrame => exact (hquiet rfl he).elim
  | blind _ hn => cases hn.symm.trans h.navConfigured
  | sampled hc ht hn hu =>
    have hnil := hu.atMostOne.reportsOf_eq_nil
    rw [reportsOf_append, hnil, List.append_nil]
    rcases List.mem_append.1 he with he | he
    · exact (hreads ht.onlyReads he).elim
    cases hu with
    | resetting | idle => exact absurd he List.not_mem_nil
    | faults => exact (hquiet rfl he).elim
    | holds =>
      refine (hquiet ?_ he).elim
      rw [asks_append, asks_stopCalls]
      rfl
    | acts _ hs hrun hf hh => exact h.authorised hn hs hrun hf hh

/-- A cycle that ends a run halts the drive. -/
theorem Inv.cycled_halts (h : Inv s5 d) {frame : Option SensorFrame}
    (hd : d.Cycled s5 frame feedback u d') (hrun : d.running) (hrun' : d'.running = false) :
    ∃ v, u = v ++ haltCalls := by
  have hgoes {e : Drive F D B} (he : e.running) (he' : e.running = false) : False :=
    absurd (he.symm.trans he') (by simp)
  cases hd with
  | off => exact (hgoes hrun hrun').elim
  | noFrame => exact ⟨[], rfl⟩
  | blind _ hn => cases hn.symm.trans h.navConfigured
  | @sampled _ _ t _ _ _ _ hc ht hn hu =>
    cases hu with
    | resetting hp =>
      have hstate : d.state = .fault := h.resetting hp
      rw [Drive.running, hstate] at hrun
      contradiction
    | faults => exact ⟨t, rfl⟩
    | idle _ _ hm => exact (hgoes hrun hm).elim
    | holds _ _ hm _ _ hcore =>
      have hstate := congrArg Core.state hcore
      rw [Core.requestStop_state] at hstate
      exact (hgoes ((congrArg DriveState.running hstate).trans hm) hrun').elim
    | acts _ _ hm _ _ _ ho =>
      cases ho with
      | moves hmove => exact (hgoes (hmove.running hm) hrun').elim
      | @halts u =>
        exact ⟨t ++ ⟨.heartbeat true, ()⟩ :: u, by rw [List.append_assoc, List.cons_append]⟩

variable [CDouble F D]

theorem Inv.step_authorised {a : Made F D} (h : Inv s5 d) (hstep : Step s5 d a d')
    (he : e ∈ a.calls) (hr : e.1.isRequest) : Authorised d a.op (reportsOf a.calls) := by
  obtain ⟨op, calls, ok⟩ := a
  have hmotion : e ∈ motion calls := mem_motion_of_isRequest he hr
  have hcase := hstep.cases h.configured h.detourOff
  have hquiet {v : List (Event F)} (hv : asks v = []) (he : e ∈ v) : False :=
    absurd (hr.symm.trans (isRequest_of_asks_eq_nil hv he)) nofun
  rw [← reportsOf_motion]
  generalize motion calls = u at hcase hmotion ⊢
  cases hcase with
  | config | stop | terrainFault => exact (hquiet rfl hmotion).elim
  | start hs | reset hs => cases hs <;> exact (hquiet rfl hmotion).elim
  | process hd => exact h.cycled_authorised hd hmotion hr

/-- A call that ends a run disarms the motors. -/
theorem Inv.step_disarmed {a : Made F D} (h : Inv s5 d) (hstep : Step s5 d a d')
    (hrun : d.running) (hrun' : d'.running = false) : Disarmed a.calls := by
  obtain ⟨op, calls, ok⟩ := a
  have hcase := hstep.cases h.configured h.detourOff
  have hgoes : d'.state ≠ d.state := fun hs => by
    rw [Drive.running, hs] at hrun'
    cases hrun.symm.trans hrun'
  have hfault : d.state ≠ .fault := fun hs => by
    rw [Drive.running, hs] at hrun
    contradiction
  suffices ∃ v, motion calls = v ++ haltCalls from Disarmed.of_motion this.choose_spec
  generalize motion calls = u at hcase
  cases hcase with
  | config _ hc => exact absurd (congrArg Core.state hc.core) hgoes
  | start hs =>
    cases hs with
    | refuses => exact absurd rfl hgoes
    | starts _ hcore =>
      have hstate : d'.state = .follow := congrArg Core.state hcore
      rw [Drive.running, hstate] at hrun'
      contradiction
  | stop | terrainFault => exact ⟨[], rfl⟩
  | reset hs =>
    cases hs with
    | refuses => exact absurd rfl hgoes
    | denied hs | granted hs => exact absurd hs hfault
  | process hd => exact h.cycled_halts hd hrun hrun'

/-- **Authority over the motors.**  In every run the drive and the navigation agree; a call asks for
motion only if it is `Authorised` and, if it ends a run, disarms the motors. -/
theorem drive_authority {s5 : Bool} {config : NavConfig F D} {d₀ d : Drive F D B}
    {l : List (Made F D)} (h₀ : Drive.init config = some d₀) (hl : Runs s5 d₀ l d) :
    Lockstep d ∧ ∀ a d', Step s5 d a d' →
      (∀ e ∈ a.calls, e.1.isRequest = true → Authorised d a.op (reportsOf a.calls)) ∧
      (d.running = true → d'.running = false → Disarmed a.calls) := by
  have hinv := Inv.runs h₀ hl
  refine ⟨hinv.lockstep, fun a d' hstep => ⟨fun e he hr => ?_, fun hrun hrun' => ?_⟩⟩
  · exact hinv.step_authorised hstep he hr
  · exact hinv.step_disarmed hstep hrun hrun'

/-- The conditions on the bench, at the first cycle after a start: it asks for a velocity. -/
theorem drive_authority_bench :
    ∃ d₀ l d a d', Drive.init benchConfig = some d₀ ∧
      Runs false (d₀ : Drive ℚ ℚ benchReaders) l d ∧ Step false d a d' ∧ d.running = true ∧
      (∃ e ∈ a.calls, e.1.isRequest = true) ∧ Lockstep d ∧
      Authorised d a.op (reportsOf a.calls) := by
  have hrun := runs_obliged false benchDrive benchStart
  have hstep := step_obligedCall false (obliged false benchDrive benchStart).2
    (benchCycle 20000 1000 1000 .idle 0) []
  obtain ⟨hlock, hnext⟩ := drive_authority init_benchConfig hrun
  have hasks : ∃ e ∈ (obligedCall false (obliged false benchDrive benchStart).2
      (benchCycle 20000 1000 1000 .idle 0) []).1.calls, e.1.isRequest = true := by
    decide +kernel
  obtain ⟨e, he, hr⟩ := hasks
  exact ⟨_, _, _, _, _, init_benchConfig, hrun, hstep, by decide +kernel, ⟨e, he, hr⟩, hlock,
    (hnext _ _ hstep).1 e he hr⟩

end Authority

end RoboticCar.Driving
