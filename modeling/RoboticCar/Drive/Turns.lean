import RoboticCar.Drive.Machine

/-!
# Turns come only from barcodes

`Core.due` lists the actions that were heard and not yet requested, `Core.decided` those whose
junction was reached.  A move takes what it requests or keeps from the front of what was on its way
and what it just heard or reached (`Move.due_sublist`, `Move.decided_sublist`), which bounds the
manoeuvres of a run by its barcodes and junctions: `turns_from_barcodes`.
-/

namespace RoboticCar.Driving

open Lib CFloat Motion Navigation Prog Driving.Core

variable {F D : Type} {B : BarcodeReaders}

/-! ## Actions on their way -/

def actionOf : Manoeuvre → NavAction
  | .left => .left
  | .right => .right
  | .straight => .straight
  | .uTurn => .uTurn

theorem actionOf_manoeuvreOf {a : NavAction} {m : Manoeuvre} (h : Drive.manoeuvreOf a = some m) :
    actionOf m = a := by
  cases a <;> cases h <;> rfl

def turnOf : Event F → Option NavAction
  | ⟨.manoeuvre m, _⟩ => some (actionOf m)
  | _ => none

def turnsOf (t : List (Event F)) : List NavAction := t.filterMap turnOf

@[simp] theorem turnsOf_append (t u : List (Event F)) :
    turnsOf (t ++ u) = turnsOf t ++ turnsOf u := List.filterMap_append

theorem turnsOf_asks (t : List (Event F)) : turnsOf (asks t) = turnsOf t := by
  rw [turnsOf, asks, List.filterMap_filter]
  refine List.filterMap_congr fun e _ => ?_
  rcases e with ⟨c, x⟩
  cases c <;> rfl

theorem turnsOf_motion (t : List (Event F)) : turnsOf (motion t) = turnsOf t := by
  rw [turnsOf, motion, List.filterMap_filter]
  refine List.filterMap_congr fun e _ => ?_
  rcases e with ⟨c, x⟩
  cases c <;> rfl

theorem turnsOf_manoeuvre {a : NavAction} {m : Manoeuvre} (h : Drive.manoeuvreOf a = some m)
    (x : MotionResult) (t : List (Event F)) :
    turnsOf (⟨.manoeuvre m, x⟩ :: t) = a :: turnsOf t := by
  rw [← actionOf_manoeuvreOf h]
  rfl

theorem turnsOf_eq_nil {t : List (Event F)} (h : asks t = []) : turnsOf t = [] := by
  rw [← turnsOf_asks, h]
  rfl

variable {u : List (Event F)}

theorem Asked.turnsOf {e : Event F} (h : Asked e u) : turnsOf u = turnsOf [e] := by
  rw [← turnsOf_asks]
  rcases h with h | ⟨id, h⟩ <;> rw [h]
  rw [← List.singleton_append, turnsOf_append]
  exact List.append_nil _

theorem OnlyReads.turnsOf {t : List (Event F)} (h : OnlyReads t) : turnsOf t = [] := by
  refine List.filterMap_eq_nil_iff.2 fun e he => ?_
  have hc := h e he
  rcases e with ⟨c, x⟩
  cases hc
  rfl

def listed : NavAction → List NavAction
  | .none => []
  | a => [a]

theorem listed_of_ne {a : NavAction} (h : a ≠ .none) : listed a = [a] := by
  cases a <;> first | rfl | exact absurd rfl h

theorem length_listed_le (a : NavAction) : (listed a).length ≤ 1 := by
  cases a <;> decide

namespace Core

def ahead (c : Core) : List NavAction := if c.advancing then [c.turn] else []

def due (c : Core) : List NavAction := c.ahead ++ listed c.pending

/-- The actions whose junction is reached and that are not yet requested. -/
def decided (c : Core) : List NavAction :=
  c.ahead ++ if c.state = .braking then listed c.pending else []

def reached (cue : Cue) (c : Core) : List NavAction :=
  if c.state = .follow ∧ cue.junction = true then listed (cue.heard.getD c.pending) else []

theorem due_congr {c c' : Core} (ha : c'.advancing = c.advancing) (ht : c'.turn = c.turn)
    (hp : c'.pending = c.pending) : c'.due = c.due := by
  simp only [due, ahead, ha, ht, hp]

theorem decided_congr {c c' : Core} (ha : c'.advancing = c.advancing) (ht : c'.turn = c.turn)
    (hs : c'.state = .braking ∧ c.state = .braking ∧ c'.pending = c.pending ∨
      c'.state ≠ .braking ∧ c.state ≠ .braking) : c'.decided = c.decided := by
  rcases hs with ⟨hs', hs, hp⟩ | ⟨hs', hs⟩
  · simp only [decided, ahead, ha, ht, hs', hs, hp]
  · simp only [decided, ahead, ha, ht, hs', hs, if_false]

end Core

/-! ## What a move does to them -/

variable {cue : Cue} {c c' : Core}

/-- What is heard may become due. -/
theorem Core.Hears.due_sublist (h : c.Hears cue c') :
    c'.due.Sublist (c.due ++ cue.heard.toList) := by
  cases h with
  | silent => exact List.sublist_append_left _ _
  | heard a h ha hp =>
    rw [h, due, due, hp]
    simp [ahead, listed]

theorem Core.Listens.due_sublist (h : c.Listens cue c') :
    c'.due.Sublist (c.due ++ cue.heard.toList) := by
  cases h with
  | keep h => exact h.due_sublist
  | cross h =>
    refine List.Sublist.trans ?_ h.due_sublist
    rw [due, due]
    exact (List.append_sublist_append_left _).2 (List.nil_sublist _)

theorem Core.requestStop_due (c : Core) : c.requestStop.due = c.due :=
  due_congr c.requestStop_advancing c.requestStop_turn c.requestStop_pending

theorem Core.requestStop_ahead (c : Core) : c.requestStop.ahead = c.ahead := by
  simp only [ahead, requestStop_advancing, requestStop_turn]

theorem Core.requestStop_decided (c : Core) : c.requestStop.decided = c.decided := by
  simp only [decided, requestStop_ahead, requestStop_state, requestStop_pending]

theorem turnsOf_stopCalls (c : Core) : turnsOf (c.stopCalls : List (Event F)) = [] :=
  turnsOf_eq_nil (asks_stopCalls c)

/-- A leg of the detour requests no manoeuvre. -/
theorem Leg.due_eq (h : Leg cue c u c') : turnsOf u = [] ∧ c'.due = c.due := by
  have hforget : (c.forget cue).due = c.due := by
    rw [forget]
    split <;> rfl
  cases h with
  | rest | look => exact ⟨rfl, hforget⟩
  | _ => exact ⟨rfl, rfl⟩

/-- **Every requested or kept action was on its way or just heard**, in this order. -/
theorem Move.due_sublist (h : Move cue c u c') :
    (turnsOf u ++ c'.due).Sublist (c.due ++ cue.heard.toList) := by
  have hkeep {v : List (Event F)} {e : Core} (hv : turnsOf v = []) (he : e.due.Sublist c.due) :
      (turnsOf v ++ e.due).Sublist (c.due ++ cue.heard.toList) := by
    rw [hv, List.nil_append]
    exact he.trans (List.sublist_append_left _ _)
  cases h with
  | brake _ hh =>
    rw [turnsOf_stopCalls, List.nil_append]
    exact (requestStop_due _ ▸ hh.due_sublist : _)
  | wait _ hl | steer _ hl => exact hl.due_sublist
  | pause _ hl =>
    rw [turnsOf_stopCalls, List.nil_append, requestStop_due]
    exact hl.due_sublist
  | advance _ _ hp =>
    have hne : c.pending ≠ .none := by rintro h; rcases hp with hp | hp <;> cases hp.symm.trans h
    refine hkeep rfl ?_
    rw [due, due, listed_of_ne hne]
    exact List.sublist_append_right _ _
  | turn _ _ hm =>
    have hne : c.pending ≠ .none := fun h => by rw [h] at hm; cases hm
    rw [turnsOf_manoeuvre hm]
    refine List.Sublist.trans ?_ (List.sublist_append_left _ _)
    rw [due, due, listed_of_ne hne]
    exact List.sublist_append_right _ _
  | advanced _ _ _ _ ha hm =>
    rw [turnsOf_manoeuvre hm]
    refine List.Sublist.trans ?_ (List.sublist_append_left _ _)
    rw [due, due, ahead, ahead, if_pos ha]
    exact .refl _
  | detour _ hl =>
    obtain ⟨hu, hd⟩ := hl.due_eq
    exact hkeep hu (hd ▸ .refl _)
  | @beginDetour c₁ _ v _ _ _ hh hl =>
    obtain ⟨hv, hd⟩ := hl.due_eq
    have hstop : due { c₁.requestStop with state := .manoeuvre, obstacleActive := true } =
        c₁.due := c₁.requestStop_due
    rw [turnsOf_append, turnsOf_stopCalls, hv, hd, hstop]
    exact hh.due_sublist
  | _ => exact hkeep rfl (.refl _)

theorem Leg.decided_eq (h : Leg cue c u c') (hs : c.state = .manoeuvre) :
    c'.decided = c.decided := by
  have hforget : (c.forget cue).decided = c.decided := by
    rw [forget]
    split <;> rfl
  cases h with
  | rest | look => exact hforget
  | resume => exact decided_congr rfl rfl (.inr ⟨by simp, by simp [hs]⟩)
  | _ => rfl

theorem Core.decided_setPending (hs : c.state = .follow) (a : NavAction) :
    decided { c with pending := a } = c.decided :=
  decided_congr rfl rfl (.inr ⟨by simp [hs], by simp [hs]⟩)

theorem Core.Hears.reached_eq (h : c.Hears cue c') (hs : c.state = .follow)
    (hj : cue.junction) : c.reached cue = listed c'.pending := by
  rw [reached, if_pos ⟨hs, hj⟩]
  cases h with
  | silent h | heard a h =>
    rw [h]
    rfl

/-- **Every requested or decided action was decided before, or its junction was just reached**, in
this order. -/
theorem Move.decided_sublist (h : Move cue c u c') (ht : c.Tidy) :
    (turnsOf u ++ c'.decided).Sublist (c.decided ++ c.reached cue) := by
  have hkeep {v : List (Event F)} {e : Core} (hv : turnsOf v = []) (he : e.decided = c.decided) :
      (turnsOf v ++ e.decided).Sublist (c.decided ++ c.reached cue) := by
    rw [hv, he]
    exact List.sublist_append_left _ _
  cases h with
  | @brake c₁ hs hh hj =>
    have hahead : c₁.requestStop.ahead = c.ahead := by
      obtain ⟨a, rfl⟩ := hh.exists_pending
      exact requestStop_ahead _
    have hbraked : decided { c₁.requestStop with state := .braking } =
        c.ahead ++ listed c₁.pending := by
      rw [← hahead, ← c₁.requestStop_pending, decided, if_pos rfl]
      rfl
    have hfollow : c.decided = c.ahead := by
      rw [decided, if_neg (by simp [hs]), List.append_nil]
    rw [turnsOf_stopCalls, hh.reached_eq hs hj, hbraked, hfollow]
    exact .refl _
  | wait hs hl | steer hs hl =>
    obtain ⟨a, rfl⟩ := hl.exists_pending
    exact hkeep rfl (decided_setPending hs a)
  | pause hs hl =>
    obtain ⟨a, rfl⟩ := hl.exists_pending
    exact hkeep (turnsOf_stopCalls _)
      ((requestStop_decided _).trans (decided_setPending hs a))
  | brakeWait | sweep | turnWait | reacquireWait | missed => exact hkeep rfl rfl
  | advance hs _ hp =>
    have hne : c.pending ≠ .none := by rintro h; rcases hp with hp | hp <;> cases hp.symm.trans h
    refine List.Sublist.trans ?_ (List.sublist_append_left _ _)
    rw [decided, decided, if_pos hs, listed_of_ne hne]
    exact List.sublist_append_right _ _
  | turn hs _ hm =>
    have hne : c.pending ≠ .none := fun h => by rw [h] at hm; cases hm
    rw [turnsOf_manoeuvre hm]
    refine List.Sublist.trans ?_ (List.sublist_append_left _ _)
    rw [decided, decided, if_pos hs, listed_of_ne hne]
    exact List.sublist_append_right _ _
  | advanced hs _ _ _ ha hm =>
    have hstate : c.state ≠ .braking := by simp [hs]
    rw [turnsOf_manoeuvre hm]
    refine List.Sublist.trans ?_ (List.sublist_append_left _ _)
    rw [decided, decided, if_neg hstate, ahead, ahead, if_pos ha]
    exact .refl _
  | found hs | turned hs | reacquired hs =>
    exact hkeep rfl (decided_congr rfl rfl (.inr ⟨by simp, by simp [hs]⟩))
  | detour ho hl => exact hkeep hl.due_eq.1 (hl.decided_eq (ht.detour ho))
  | beginDetour _ hs _ hh hl =>
    obtain ⟨a, rfl⟩ := hh.exists_pending
    have hstart : decided { requestStop { c with pending := a } with
        state := .manoeuvre, obstacleActive := true } = c.decided := by
      refine decided_congr ?_ ?_ (.inr ⟨by simp, by simp [hs]⟩)
      · exact requestStop_advancing { c with pending := a }
      · exact requestStop_turn { c with pending := a }
    refine hkeep ?_ ((hl.decided_eq rfl).trans hstart)
    rw [turnsOf_append, turnsOf_stopCalls, hl.due_eq.1]
    rfl

theorem Tried.turns_sublist (h : Tried cue c u) :
    (turnsOf u).Sublist c.due ∧ (turnsOf u).Sublist c.decided := by
  cases h with
  | quiet h => simp [turnsOf_eq_nil h]
  | @other e h _ hm =>
    have hnone : turnsOf [e] = [] := by
      rcases e with ⟨p, x⟩
      cases p <;> first | rfl | exact absurd rfl (hm _)
    rw [h.turnsOf, hnone]
    exact ⟨List.nil_sublist _, List.nil_sublist _⟩
  | first h hs hm =>
    have hne : c.pending ≠ .none := fun h => by rw [h] at hm; cases hm
    rw [h.turnsOf, turnsOf_manoeuvre hm, due, decided, if_pos hs, listed_of_ne hne]
    exact ⟨List.sublist_append_right _ _, List.sublist_append_right _ _⟩
  | second h _ _ _ _ ha hm =>
    rw [h.turnsOf, turnsOf_manoeuvre hm, due, decided, ahead, if_pos ha]
    exact ⟨List.sublist_append_left _ _, List.sublist_append_left _ _⟩

/-! ## What a call does to them -/

section Calls

def outputOf [CFloat F] [CFloat D] (d : Drive F D B) : Op F D → Option (NavOutput F D)
  | .process (some frame) feedback =>
    (d.navigation.process frame (some (Drive.odometryOf (feedback.getD noFeedback)))).map (·.1)
  | _ => none

def barcodesOf [CFloat F] [CFloat D] (d : Drive F D B) (op : Op F D) : List NavAction :=
  match outputOf d op with
  | some out => if out.events.barcode then [out.action] else []
  | none => []

/-- The action with which a call reaches a junction: that of a barcode of the same call, or the
pending one. -/
def junctionsOf [CFloat F] [CFloat D] (d : Drive F D B) (op : Op F D) : List NavAction :=
  match outputOf d op with
  | some out =>
    if d.state = .follow ∧ out.events.junction = true then
      listed (if out.events.barcode then out.action else d.pending)
    else []
  | none => []

theorem Core.due_halted (state : DriveState) : (halted state).due = [] := rfl

theorem Core.decided_halted (state : DriveState) : (halted state).decided = [] := by
  rw [decided]
  split <;> rfl

/-- The actions on their way before and after a call that requested `turns`, heard `heard`, met
`met`. -/
def Accounts (c : Core) (turns heard met : List NavAction) (c' : Core) : Prop :=
  (turns ++ c'.due).Sublist (c.due ++ heard) ∧ (turns ++ c'.decided).Sublist (c.decided ++ met)

theorem Accounts.of_halted (c : Core) (heard met : List NavAction) (state : DriveState) :
    Accounts c [] heard met (.halted state) := by
  rw [Accounts, due_halted, decided_halted]
  exact ⟨List.nil_sublist _, List.nil_sublist _⟩

theorem Accounts.of_eq {c c' : Core} (hd : c'.due = c.due) (hr : c'.decided = c.decided)
    (heard met : List NavAction) : Accounts c [] heard met c' := by
  rw [Accounts, hd, hr]
  exact ⟨List.sublist_append_left _ _, List.sublist_append_left _ _⟩

variable [CFloat D]

variable {d d' : Drive F D B}

/-- A cycle accounts for its actions. -/
theorem Drive.Outcome.accounts {cue : Cue} {u : List (Event F)} (h : Drive.Outcome cue d u d')
    (ht : d.core.Tidy) :
    Accounts d.core (turnsOf u) cue.heard.toList (d.core.reached cue) d'.core := by
  cases h with
  | moves hm => exact ⟨hm.due_sublist, hm.decided_sublist ht⟩
  | halts htried _ _ hh =>
    obtain ⟨hdue, hdec⟩ := htried.turns_sublist
    rw [hh.core, turnsOf_append, show turnsOf (haltCalls : List (Event F)) = [] from rfl,
      List.append_nil, Accounts, due_halted, decided_halted, List.append_nil]
    exact ⟨hdue.trans (List.sublist_append_left _ _), hdec.trans (List.sublist_append_left _ _)⟩

variable [CFloat F] {op : Op F D} {output : NavOutput F D} {feedback : MotionFeedback D}
  {reports : List MotionReport} {navigation : Nav F D B} {s5 done : Bool}

theorem heard_sampled (h : outputOf d op = some output) :
    ((d.sampled feedback reports output navigation).cue s5 done).heard.toList =
      barcodesOf d op := by
  simp only [barcodesOf, h, Drive.cue, Drive.sampled]
  by_cases hb : output.events.barcode <;> simp [hb]

theorem reached_sampled (h : outputOf d op = some output) :
    (d.sampled feedback reports output navigation).core.reached
      ((d.sampled feedback reports output navigation).cue s5 done) = junctionsOf d op := by
  simp only [junctionsOf, h, reached, Drive.cue, Drive.core, Drive.sampled]
  refine if_congr Iff.rfl ?_ rfl
  by_cases hb : output.events.barcode <;> simp [hb]

theorem Drive.Cycled.accounts {s5 : Bool} (h : Inv s5 d) (ht : d.core.Tidy)
    {frame : Option SensorFrame} {feedback : Option (MotionFeedback D)} {u : List (Event F)}
    (hd : d.Cycled s5 frame feedback u d') :
    Accounts d.core (turnsOf u) (barcodesOf d (.process frame feedback))
      (junctionsOf d (.process frame feedback)) d'.core := by
  have hinv := h.cycled hd
  cases hd with
  | off => exact .of_eq rfl rfl _ _
  | noFrame hh =>
    rw [hh.core]
    exact .of_halted _ _ _ _
  | blind _ hn => cases hn.symm.trans h.navConfigured
  | @sampled f _ t v _ output navigation _ hreads hn hu =>
    have hout : outputOf d (.process (some f) feedback) = some output := by
      simp only [outputOf, hn, Option.map_some]
    rw [turnsOf_append, hreads.onlyReads.turnsOf, List.nil_append]
    cases hu with
    | resetting hr =>
      have hstate : d.state = .fault := h.resetting hr
      have hoff : (d.sampled (feedback.getD noFeedback) (reportsOf t) output navigation).running =
          false := congrArg DriveState.running hstate
      rw [hinv.cleared (Drive.finishReset_running hoff _)]
      exact .of_halted _ _ _ _
    | faults _ _ hh =>
      rw [hh.core]
      exact .of_halted _ _ _ _
    | idle => exact .of_eq rfl rfl _ _
    | holds _ _ _ _ _ hcore =>
      rw [hcore, turnsOf_eq_nil (by rw [asks_append, asks_stopCalls]; rfl)]
      exact .of_eq (requestStop_due _) (requestStop_decided _) _ _
    | acts _ _ _ _ _ _ ho =>
      have hacc := ho.accounts (ht.sampled _ _ _ _)
      rw [heard_sampled hout, reached_sampled hout] at hacc
      exact hacc

variable [CDouble F D]

/-- **Every call accounts for the manoeuvres it requests.** -/
theorem Step.accounts {s5 : Bool} {a : Made F D} (h : Inv s5 d) (ht : d.core.Tidy)
    (hstep : Step s5 d a d') :
    Accounts d.core (turnsOf a.calls) (barcodesOf d a.op) (junctionsOf d a.op) d'.core := by
  obtain ⟨op, calls, ok⟩ := a
  have hcase := hstep.cases h.configured h.detourOff
  rw [← turnsOf_motion]
  generalize motion calls = u at hcase ⊢
  cases hcase with
  | config _ hc =>
    rw [hc.core]
    exact .of_eq rfl rfl _ _
  | start hs =>
    cases hs with
    | refuses => exact .of_eq rfl rfl _ _
    | starts hready hcore =>
      rw [hcore, h.cleared (Drive.not_running_of_startReady hready)]
      exact ⟨List.nil_sublist _, List.nil_sublist _⟩
  | stop hh | terrainFault hh =>
    rw [hh.core]
    exact .of_halted _ _ _ _
  | reset hr => cases hr <;> exact .of_eq rfl rfl _ _
  | process hd => exact hd.accounts h ht

end Calls

/-! ## Runs -/

section Runs

/-- The actions since the start of a run: of its barcodes, of its junctions and of the manoeuvres
requested. -/
structure Log where
  barcodes : List NavAction
  junctions : List NavAction
  turns : List NavAction

def Log.empty : Log := ⟨[], [], []⟩

variable [CFloat F] [CFloat D]

def Log.add (log : Log) (d : Drive F D B) (a : Made F D) : Log :=
  ⟨log.barcodes ++ barcodesOf d a.op, log.junctions ++ junctionsOf d a.op,
    log.turns ++ turnsOf a.calls⟩

variable [CDouble F D]

def LoggedStep (s5 : Bool) (s : Drive F D B × Log) (a : Made F D) (s' : Drive F D B × Log) :
    Prop :=
  Step s5 s.1 a s'.1 ∧ s'.2 = s.2.add s.1 a

/-- The log accounts for the actions on their way. -/
structure Log.Accounted (log : Log) (c : Core) : Prop where
  barcodes : (log.turns ++ c.due).Sublist log.barcodes
  junctions : (log.turns ++ c.decided).Sublist log.junctions

theorem sublist_append_trans {α : Type} {done left from_ more left' new : List α}
    (h : (done ++ left).Sublist from_) (h' : (more ++ left').Sublist (left ++ new)) :
    (done ++ more ++ left').Sublist (from_ ++ new) := by
  have h₁ : (done ++ (more ++ left')).Sublist (done ++ (left ++ new)) :=
    (List.append_sublist_append_left done).2 h'
  have h₂ : (done ++ left ++ new).Sublist (from_ ++ new) :=
    (List.append_sublist_append_right new).2 h
  rw [← List.append_assoc, ← List.append_assoc] at h₁
  exact h₁.trans h₂

/-- **Every call keeps the log accounted.** -/
theorem LoggedStep.accounted {s5 : Bool} {s s' : Drive F D B × Log} {a : Made F D}
    (h : (Inv s5 s.1 ∧ s.1.core.Tidy) ∧ s.2.Accounted s.1.core) (hstep : LoggedStep s5 s a s') :
    (Inv s5 s'.1 ∧ s'.1.core.Tidy) ∧ s'.2.Accounted s'.1.core := by
  obtain ⟨⟨hinv, htidy⟩, hlog⟩ := h
  obtain ⟨hcall, hadd⟩ := hstep
  obtain ⟨hdue, hdecided⟩ := hcall.accounts hinv htidy
  refine ⟨⟨hinv.step hcall, hcall.tidy hinv htidy⟩, ?_⟩
  rw [hadd]
  exact ⟨sublist_append_trans hlog.barcodes hdue, sublist_append_trans hlog.junctions hdecided⟩

/-- At most one action is on its way. -/
theorem Core.Tidy.length_due_le {c : Core} (h : c.Tidy) : c.due.length ≤ 1 := by
  rw [due, ahead]
  by_cases ha : c.advancing
  · rw [if_pos ha, (h.advancing ha).2.2.2]
    exact le_rfl
  · rw [if_neg ha, List.nil_append]
    exact length_listed_le c.pending

/-- **Turns come only from barcodes.**  Since a start, the requested manoeuvres are an in-order
selection of the actions of the barcodes and of the junctions reached; at most one action is on its
way, and a junction without an action leads to none. -/
theorem turns_from_barcodes {s5 : Bool} {config : NavConfig F D} {d₀ d d₁ e : Drive F D B}
    {l l' : List (Made F D)} {now : UInt32} {calls : List (Event F)} {log : Log}
    (h₀ : Drive.init config = some d₀) (hl : Runs s5 d₀ l d)
    (hstart : Step s5 d ⟨.start now, calls, true⟩ d₁)
    (hrun : Run.Path (LoggedStep s5) (d₁, Log.empty) l' (e, log)) :
    log.turns.Sublist log.barcodes ∧ log.turns.Sublist log.junctions ∧ e.core.due.length ≤ 1 ∧
    ∀ a e' out, Step s5 e a e' → e.state = .follow → outputOf e a.op = some out →
      out.events.junction = true →
      (if out.events.barcode then out.action else e.pending) = .none →
      turnsOf a.calls = [] ∧ e'.core.decided = [] := by
  have hinv := Inv.runs h₀ hl
  have hstarted : Log.empty.Accounted d₁.core := by
    have hcase := hstart.cases hinv.configured hinv.detourOff
    dsimp only at hcase
    generalize motion calls = u at hcase
    cases hcase with
    | config hop => exact absurd hop nofun
    | start hs =>
      cases hs with
      | starts hready hcore =>
        rw [hcore, hinv.cleared (Drive.not_running_of_startReady hready)]
        exact ⟨List.nil_sublist _, List.nil_sublist _⟩
  have hend := hrun.invariant (I := fun s : Drive F D B × Log =>
    (Inv s5 s.1 ∧ s.1.core.Tidy) ∧ s.2.Accounted s.1.core) (fun _ _ _ => LoggedStep.accounted)
    ⟨⟨hinv.step hstart, hstart.tidy hinv (tidy_runs h₀ hl)⟩, hstarted⟩
  obtain ⟨⟨hinv', htidy'⟩, hlog⟩ := hend
  refine ⟨(List.sublist_append_left _ _).trans hlog.barcodes,
    (List.sublist_append_left _ _).trans hlog.junctions, htidy'.length_due_le, ?_⟩
  intro a e' out hstep hs hout hj hnone
  have hmet : junctionsOf e a.op = [] := by
    simp only [junctionsOf, hout, hs, hj, and_self, if_true, hnone]
    rfl
  have hdecided : e.core.decided = [] := by
    rw [decided, ahead, (htidy'.of_follow hs).1, if_neg Bool.false_ne_true,
      if_neg (by simp [Drive.core, hs])]
    rfl
  have hsub := (hstep.accounts hinv' htidy').2
  rw [hmet, hdecided] at hsub
  exact List.append_eq_nil_iff.1 (List.sublist_nil.1 hsub)

def obligedLog (s5 : Bool) (s : Drive F D B × Log) (ops : List (Op F D × List MotionReport)) :
    List (Made F D) × Drive F D B × Log :=
  ops.foldl (fun s op =>
    let r := obligedCall s5 s.2.1 op.1 op.2
    (s.1 ++ [r.1], r.2, s.2.2.add s.2.1 r.1)) ([], s)

theorem path_obligedLog (s5 : Bool) (s : Drive F D B × Log)
    (ops : List (Op F D × List MotionReport)) :
    Run.Path (LoggedStep s5) s (obligedLog s5 s ops).1 (obligedLog s5 s ops).2 := by
  refine List.foldlRecOn (motive := fun r : List (Made F D) × Drive F D B × Log =>
    Run.Path (LoggedStep s5) s r.1 r.2) ops _ .nil fun r hr op _ => ?_
  exact .snoc hr ⟨step_obligedCall s5 r.2.1 op.1 op.2, rfl⟩

/-- On the bench one barcode gives one left turn. -/
theorem turns_from_barcodes_bench :
    ∃ d₀ l d now calls d₁ l' e log, Drive.init benchConfig = some d₀ ∧
      Runs false (d₀ : Drive ℚ ℚ benchReaders) l d ∧
      Step false d ⟨.start now, calls, true⟩ d₁ ∧
      Run.Path (LoggedStep false) (d₁, Log.empty) l' (e, log) ∧ log.turns = [.left] ∧
      log.turns.Sublist log.barcodes ∧ log.turns.Sublist log.junctions := by
  let ready := (obliged false benchDrive benchReady).2
  let started := obligedCall false ready (.start 10000) []
  have hrun := runs_obliged false benchDrive benchReady
  have hstart : Step false ready ⟨.start 10000, started.1.calls, true⟩ started.2 := by
    have hok : started.1.ok := by decide +kernel
    have hmade : started.1 = ⟨.start 10000, started.1.calls, true⟩ :=
      congrArg (Made.mk _ _) hok
    exact hmade ▸ step_obligedCall false ready (.start 10000) []
  have hpath := path_obligedLog false (started.2, Log.empty) benchLeft
  have hlog := turns_from_barcodes init_benchConfig hrun hstart hpath
  exact ⟨_, _, _, _, _, _, _, _, _, init_benchConfig, hrun, hstart, hpath, by decide +kernel,
    hlog.1, hlog.2.1⟩

end Runs

end RoboticCar.Driving
