import RoboticCar.Drive.Machine

/-!
# The drive as a client of the motion subsystem

A call of the owner reads reports until there are none left; only then it may make one request, and
after that read the id of the command (`Step.asked`).  After a call the drive holds only ids that it
held before, without having asked for motion since, or the one it has just read (`Step.holds`).
-/

namespace RoboticCar.Driving

open Lib CFloat Motion Navigation Prog

variable {F D : Type} {B : BarcodeReaders}

/-! ## The order of a call -/

def NoRequest (t : List (Event F)) : Prop := ∀ e ∈ t, e.1.isRequest = false

variable {t : List (Event F)}

theorem NoRequest.of_asks (h : asks t = []) : NoRequest t :=
  fun _ he => isRequest_of_asks_eq_nil h he

theorem OnlyReads.noRequest (h : OnlyReads t) : NoRequest t :=
  fun e he => by rw [h e he]; rfl

theorem noRequest_iff_asks : NoRequest (asks t) ↔ NoRequest t := by
  refine ⟨fun h e he => ?_, fun h e he => h e (List.mem_filter.1 he).1⟩
  by_contra hr
  rw [Bool.not_eq_false] at hr
  have hask := h e (List.mem_filter.2 ⟨he, PortCall.isAsk_of_isRequest hr⟩)
  cases hr.symm.trans hask

theorem asks_motion (t : List (Event F)) : asks (motion t) = asks t := by
  rw [asks, motion, List.filter_filter]
  refine List.filter_congr fun e _ => ?_
  rcases e with ⟨c, x⟩
  cases c <;> rfl

theorem Drains.found {n : ℕ} (h : Drains n t) : ⟨.report, none⟩ ∈ t ∨ (reportsOf t).length = n := by
  induction h with
  | full => exact .inr rfl
  | empty => exact .inl (by simp)
  | more r _ ih =>
    rw [reportsOf_some, List.length_cons]
    exact ih.imp (List.mem_cons_of_mem _) (congrArg (· + 1))

section Order

variable [CFloat F] [CFloat D] [CDouble F D]

variable {s5 : Bool} {d : Drive F D B}

/-- **What a call asks for**: nothing, or the reports of the queue and then at most one request
with the id of its command. -/
theorem Step.asked {d' : Drive F D B} {a : Made F D} (h : Inv s5 d) (hstep : Step s5 d a d') :
    asks a.calls = [] ∨ ∃ t u, asks a.calls = t ++ asks u ∧ Drains Drive.reportQueueLen t ∧
      AtMostOne u := by
  obtain ⟨op, calls, ok⟩ := a
  have hcase := hstep.cases h.configured h.detourOff
  rw [← asks_motion calls]
  generalize motion calls = u at hcase
  cases hcase with
  | start hs | reset hs => cases hs <;> exact .inl rfl
  | process hd =>
    cases hd with
    | off | noFrame => exact .inl rfl
    | blind ht =>
      refine .inr ⟨_, [], ?_, ht, .inl rfl⟩
      rw [asks_append, ht.onlyReads.asks]
      rfl
    | sampled _ ht _ hu =>
      refine .inr ⟨_, _, ?_, ht, hu.atMostOne⟩
      rw [asks_append, ht.onlyReads.asks]
  | _ => exact .inl rfl

variable {op : Op F D} {done : List (Event F)}

theorem exists_step {c : PortCall F} {k : c.Answer → DriveM F (Bool × Drive F D B)}
    (h : (op.run s5 d).Leads done (.call c k)) :
    ∃ x u ok d', Step s5 d ⟨op, done ++ ⟨c, x⟩ :: u, ok⟩ d' := by
  obtain ⟨u, ⟨ok, d'⟩, hu⟩ := exists_yields (fun c => ⟨(obliging c []).1⟩) (k (obliging c []).1)
  exact ⟨_, u, ok, d', h.append (.cons hu)⟩

theorem asks_underway (h : Inv s5 d) {c : PortCall F} {k : c.Answer → DriveM F (Bool × Drive F D B)}
    (hl : (op.run s5 d).Leads done (.call c k)) (hc : c.isAsk) :
    ∃ x t u v, asks done ++ ⟨c, x⟩ :: v = t ++ asks u ∧ Drains Drive.reportQueueLen t ∧
      AtMostOne u := by
  obtain ⟨x, v, ok, d', hstep⟩ := exists_step hl
  have hsplit : asks (done ++ ⟨c, x⟩ :: v) = asks done ++ ⟨c, x⟩ :: asks v := by
    rw [asks_append, asks_cons, if_pos hc]
  rcases hstep.asked h with hnil | ⟨t, u, hasks, ht, hu⟩
  · rw [hsplit] at hnil
    exact absurd hnil (by simp)
  · rw [hsplit] at hasks
    exact ⟨x, t, u, _, hasks, ht, hu⟩

/-- A request comes after all reports are read. -/
theorem requests_after_drain (h : Inv s5 d) {c : PortCall F}
    {k : c.Answer → DriveM F (Bool × Drive F D B)} (hl : (op.run s5 d).Leads done (.call c k))
    (hc : c.isRequest) : Drains Drive.reportQueueLen (asks done) := by
  obtain ⟨x, t, u, v, hasks, ht, hu⟩ := asks_underway h hl (PortCall.isAsk_of_isRequest hc)
  have hreq : (⟨c, x⟩ : Event F).1.isRequest = true := hc
  rcases List.append_eq_append_iff.1 hasks with ⟨w, rfl, hw⟩ | ⟨w, hdone, hw⟩
  · -- the request would be a read of a report
    cases w with
    | nil => simpa using ht
    | cons e =>
      rw [List.cons_append, List.cons.injEq] at hw
      rw [hw.1, ht.onlyReads e (by simp)] at hreq
      exact absurd hreq nofun
  · -- the call would have made a request before
    cases w with
    | nil => simpa [hdone] using ht
    | cons e w =>
      rcases hu with hu | ⟨e', hu | ⟨id, hu⟩, he'⟩
      · rw [hu] at hw
        exact absurd hw (by simp)
      · rw [hu] at hw
        exact absurd hw (by simp)
      · rw [hu] at hw
        cases w with
        | nil =>
          simp only [List.cons_append, List.nil_append, List.cons.injEq] at hw
          rw [← hw.2.1] at hreq
          exact absurd hreq nofun
        | cons => exact absurd hw (by simp)

/-- Reports are read before any request. -/
theorem reads_before_request (h : Inv s5 d)
    {k : Option MotionReport → DriveM F (Bool × Drive F D B)}
    (hl : (op.run s5 d).Leads done (.call .report k)) : NoRequest done := by
  obtain ⟨x, t, u, v, hasks, ht, hu⟩ := asks_underway h hl rfl
  have hreport : (⟨.report, x⟩ : Event F) ∉ asks u := by
    rcases hu with hu | ⟨⟨c, y⟩, hu | ⟨id, hu⟩, he⟩ <;> rw [hu]
    · exact List.not_mem_nil
    · intro hmem
      cases List.mem_singleton.1 hmem
      exact absurd he nofun
    · intro hmem
      rcases List.mem_cons.1 hmem with h | h
      · cases h
        exact absurd he nofun
      · cases List.mem_singleton.1 h
  have hreads : OnlyReads (asks done) := by
    rcases List.append_eq_append_iff.1 hasks with ⟨w, rfl, -⟩ | ⟨w, -, hw⟩
    · exact fun e he => ht.onlyReads e (List.mem_append_left _ he)
    · exact absurd (hw ▸ by simp) hreport
  exact noRequest_iff_asks.1 hreads.noRequest

end Order

/-! ## The ids the drive remembers -/

/-- The drive remembers the id, for the command it runs or for the one it cancels. -/
def Core.Holds (c : Core) (id : UInt8) : Prop := id ≠ 0 ∧ (c.commandId = id ∨ c.cancelId = id)

namespace Core

theorem not_holds_halted (state : DriveState) (id : UInt8) : ¬(Core.halted state).Holds id := by
  rintro ⟨hne, h | h⟩ <;> exact hne h.symm

theorem holds_of_cancelId {c c' : Core} {id : UInt8} (h : c'.Holds id) (hid : c'.commandId = 0)
    (hc : c'.cancelId = c.cancelId) : c.Holds id := by
  obtain ⟨hne, h | h⟩ := h
  · exact absurd (h.symm.trans hid) hne
  · exact ⟨hne, .inr (hc ▸ h)⟩

theorem holds_of_requestStop {c : Core} {id : UInt8} (h : c.requestStop.Holds id) : c.Holds id := by
  rw [requestStop] at h
  split at h
  · exact h
  · obtain ⟨hne, h | h⟩ := h
    · exact absurd h.symm hne
    · exact ⟨hne, .inl h⟩

theorem holds_of_forget {cue : Cue} {c : Core} {id : UInt8} (h : (c.forget cue).Holds id) :
    c.Holds id := by
  rw [forget] at h
  split at h
  · exact holds_of_cancelId h rfl rfl
  · exact h

end Core

/-- After the calls `u` the held id is an old one, with no motion asked for, or was just read. -/
def Traces (c : Core) (u : List (Event F)) (c' : Core) : Prop :=
  ∀ id, c'.Holds id → NoRequest u ∧ c.Holds id ∨ ⟨.commandId, id⟩ ∈ u

variable {c c' : Core} {u : List (Event F)}

theorem Traces.of_named (hmem : ⟨.commandId, c'.commandId⟩ ∈ u) (hc : c'.cancelId = 0) :
    Traces c u c' := by
  rintro id ⟨hne, h | h⟩
  · exact .inr (h ▸ hmem)
  · exact absurd (h.symm.trans hc) hne

theorem Traces.of_quiet (hu : asks u = []) (h : ∀ id, c'.Holds id → c.Holds id) : Traces c u c' :=
  fun id hid => .inl ⟨.of_asks hu, h id hid⟩

theorem Traces.of_not_holds (u : List (Event F)) (h : ∀ id, ¬c'.Holds id) : Traces c u c' :=
  fun id hid => absurd hid (h id)

theorem Traces.after {m : Core} (ht : NoRequest t) (hm : ∀ id, m.Holds id → c.Holds id)
    (h : Traces m u c') : Traces c (t ++ u) c' := by
  intro id hid
  rcases h id hid with ⟨hu, hh⟩ | hmem
  · exact .inl ⟨fun e he => (List.mem_append.1 he).elim (ht e) (hu e), hm id hh⟩
  · exact .inr (List.mem_append_right _ hmem)

theorem Leg.traces {cue : Cue} (h : Leg cue c u c') : Traces c u c' := by
  cases h with
  | rest => exact .of_quiet rfl fun id => Core.holds_of_forget
  | stop | resume => exact .of_quiet rfl fun id h => Core.holds_of_cancelId h rfl rfl
  | look => exact .of_quiet rfl fun id h => Core.holds_of_forget h
  | drive hc | turn hc => exact .of_named (by simp) hc

/-- Where the ids of a move come from. -/
theorem Move.traces {cue : Cue} (h : Move cue c u c') (hc : c.Tidy)
    (hdone : cue.done → c.commandId ≠ 0) : Traces c u c' := by
  cases h with
  | wait _ hl =>
    obtain ⟨a, rfl⟩ := hl.exists_pending
    exact .of_quiet rfl fun id h => h
  | brake _ hl | pause _ hl =>
    obtain ⟨a, rfl⟩ := hl.exists_pending
    exact .of_quiet (asks_stopCalls _) fun id h =>
      Core.holds_of_requestStop (c := { c with pending := a }) h
  | steer _ hl hw =>
    obtain ⟨a, rfl⟩ := hl.exists_pending
    refine .of_named (by simp) ?_
    by_contra hne
    exact hne (hw (hc.cancelled hne).2)
  | advance _ hc | turn _ hc => exact .of_named (by simp) hc
  | advanced _ _ _ hd =>
    refine .of_named (by simp) ?_
    by_contra hne
    exact hdone hd (hc.cancelled hne).1
  | sweep _ hq =>
    obtain ⟨-, -, hid, hcid⟩ := hc.searching hq
    refine .of_not_holds _ fun id h => ?_
    obtain ⟨hne, h | h⟩ := h
    · exact hne (h.symm.trans hid)
    · exact hne (h.symm.trans hcid)
  | turned | missed => exact .of_quiet rfl fun id h => Core.holds_of_cancelId h rfl rfl
  | detour _ hl => exact hl.traces
  | beginDetour _ _ _ hh hl =>
    obtain ⟨a, rfl⟩ := hh.exists_pending
    exact hl.traces.after (.of_asks (asks_stopCalls _)) fun id h =>
      Core.holds_of_requestStop (c := { c with pending := a }) h
  | _ => exact .of_quiet rfl fun id h => h

theorem Drive.holds_of_sampled {d : Drive F D B} {feedback : MotionFeedback D}
    {reports : List MotionReport} {output : NavOutput F D} {navigation : Nav F D B} {id : UInt8}
    (h : (d.sampled feedback reports output navigation).core.Holds id) : d.core.Holds id := by
  obtain ⟨hne, h | h⟩ := h
  · exact ⟨hne, .inl h⟩
  · have hjudged : (d.judged reports).cancelId = id := h
    rcases d.judged_cancelId reports with hc | hc
    · exact ⟨hne, .inr (hc.symm.trans hjudged)⟩
    · exact absurd (hjudged.symm.trans hc) hne

section Calls

variable [CFloat F] [CFloat D]

variable {d d' : Drive F D B}

omit [CFloat F] in
theorem Drive.Halted.traces {state : DriveState} (h : d.Halted state d') (c : Core)
    (u : List (Event F)) : Traces c u d'.core :=
  .of_not_holds u fun id => h.core ▸ Core.not_holds_halted state id

omit [CFloat F] in
theorem Drive.holds_of_finishReset {now : UInt32} {id : UInt8}
    (h : (d.finishReset now).core.Holds id) : d.core.Holds id := by
  have hcases := d.finishReset_cases now
  generalize d.finishReset now = e at hcases h
  cases hcases <;> exact h

theorem Drive.Cycled.traces {s5 : Bool} {frame : Option SensorFrame}
    {feedback : Option (MotionFeedback D)} {u : List (Event F)} (h : Inv s5 d) (ht : d.core.Tidy)
    (hd : d.Cycled s5 frame feedback u d') : Traces d.core u d'.core := by
  cases hd with
  | off => exact .of_quiet rfl fun id h => h
  | noFrame hh => exact hh.traces _ _
  | blind _ hn => cases hn.symm.trans h.navConfigured
  | @sampled _ _ t _ _ output navigation _ hreads _ hu =>
    refine Traces.after
      (m := (d.sampled (feedback.getD noFeedback) (reportsOf t) output navigation).core)
      hreads.onlyReads.noRequest (fun id => Drive.holds_of_sampled) ?_
    cases hu with
    | resetting => exact .of_quiet rfl fun id => Drive.holds_of_finishReset
    | faults _ _ hh => exact hh.traces _ _
    | idle => exact .of_quiet rfl fun id h => h
    | holds _ _ _ _ _ hcore =>
      rw [hcore]
      refine .of_quiet ?_ fun id => Core.holds_of_requestStop
      rw [asks_append, asks_stopCalls]
      rfl
    | acts _ _ _ _ _ _ ho =>
      cases ho with
      | moves hm =>
        refine (hm.traces (ht.sampled _ _ _ _) fun hdone => ?_).after (t := [_]) (.of_asks rfl)
          fun id h => h
        obtain ⟨r, -, hid, hne, -⟩ := Drive.judged_done hdone
        exact fun h0 => hne (hid.trans h0)
      | halts _ _ _ hh => exact hh.traces _ _

variable [CDouble F D]

/-- **What the drive remembers after a call.** -/
theorem Step.holds {s5 : Bool} {a : Made F D} (h : Inv s5 d) (ht : d.core.Tidy)
    (hstep : Step s5 d a d') {id : UInt8} (hid : d'.core.Holds id) :
    NoRequest a.calls ∧ d.core.Holds id ∨ ⟨.commandId, id⟩ ∈ a.calls := by
  suffices htraces : Traces d.core (motion a.calls) d'.core by
    refine (htraces id hid).imp (And.imp_left fun hn => ?_) fun hmem => (List.mem_filter.1 hmem).1
    rw [← noRequest_iff_asks, asks_motion] at hn
    exact noRequest_iff_asks.1 hn
  obtain ⟨op, calls, ok⟩ := a
  have hcase := hstep.cases h.configured h.detourOff
  generalize motion calls = u at hcase ⊢
  cases hcase with
  | config _ hc => exact .of_quiet rfl fun id h => hc.core ▸ h
  | start hs =>
    cases hs with
    | refuses => exact .of_quiet rfl fun id h => h
    | starts _ hcore => exact .of_quiet rfl fun id h => by rw [hcore] at h; exact h
  | stop hh | terrainFault hh => exact hh.traces _ _
  | reset hs =>
    cases hs <;> exact .of_quiet rfl fun id h => h
  | process hd => exact hd.traces h ht

end Calls

end RoboticCar.Driving
