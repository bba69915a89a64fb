import RoboticCar.Drive.Model

/-!
# The phases of a run

An abstract machine over the few fields of the drive that decide what may happen next.  `Move` lists
the moves of a cycle that leaves the run going, with the motion calls it makes, and `Leg` those of a
detour; `Tried` says what a cycle may have called before it gives up.

Every cycle that may move makes one of the moves or halts (`act_outcome`), and later modules argue
about `Move` only.
-/

namespace RoboticCar.Driving

open Lib CFloat Motion Navigation Prog

/-! ## The machine -/

/-- The fields that decide what may happen next. -/
structure Core where
  state : DriveState
  pending : NavAction
  turn : NavAction
  advancing : Bool
  searching : Bool
  waitingStop : Bool
  commandId : UInt8
  cancelId : UInt8
  obstacleActive : Bool

/-- What a cycle depends on: the build, a completed command, the action of a barcode, a junction. -/
structure Cue where
  detours : Bool
  done : Bool
  heard : Option NavAction
  junction : Bool

variable {F : Type}

/-- The calls of the motion subsystem, as opposed to those of the obstacle subsystem. -/
def PortCall.isMotion : PortCall F → Bool
  | snapshot | readSnapshot | requestScan _ | requestPeek _ _ | cancelScan
  | setControllerStatus _ _ _ => false
  | _ => true

def motion (t : List (Event F)) : List (Event F) := t.filter (·.1.isMotion)

/-- The calls that ask for motion, for a report or for the id of a command. -/
def PortCall.isAsk : PortCall F → Bool
  | report | commandId => true
  | c => c.isRequest

def asks (t : List (Event F)) : List (Event F) := t.filter (·.1.isAsk)

/-- The exchange asks for `e` and then at most for the id of the command. -/
def Asked (e : Event F) (u : List (Event F)) : Prop :=
  asks u = [e] ∨ ∃ id, asks u = [e, ⟨.commandId, id⟩]

/-- The calls with which `halt` ends. -/
def haltCalls : List (Event F) := [⟨.stop, ()⟩, ⟨.heartbeat false, ()⟩]

namespace Core

/-- The machine after `halt`. -/
def halted (state : DriveState) : Core := ⟨state, .none, .none, false, false, false, 0, 0, false⟩

/-- `request_stop` on the machine. -/
def requestStop (c : Core) : Core :=
  if c.waitingStop then c
  else { c with cancelId := c.commandId, commandId := 0, waitingStop := true }

/-- The calls of `request_stop`. -/
def stopCalls (c : Core) : List (Event F) := if c.waitingStop then [] else [⟨.stop, ()⟩]

/-- A barcode becomes the pending action, and only if there is none. -/
inductive Hears (cue : Cue) (c : Core) : Core → Prop
  | silent (h : cue.heard = none) : Hears cue c c
  | heard (a : NavAction) (h : cue.heard = some a) (ha : a ≠ .none) (hc : c.pending = .none) :
      Hears cue c { c with pending := a }

/-- A barcode is heard, and a junction that is crossed straight on may use up the action. -/
inductive Listens (cue : Cue) (c : Core) : Core → Prop
  | keep {c' : Core} (h : Hears cue c c') : Listens cue c c'
  | cross {c' : Core} (h : Hears cue c c') (hj : cue.junction = true)
      (hp : c'.pending = .none ∨ c'.pending = .straight) :
      Listens cue c { c' with pending := .none }

def forget (cue : Cue) (c : Core) : Core := if cue.done then { c with commandId := 0 } else c

end Core

/-- One step of a detour under way. -/
inductive Leg (cue : Cue) (c : Core) : List (Event F) → Core → Prop
  | rest : Leg cue c [] (c.forget cue)
  | stop : Leg cue c [⟨.stop, ()⟩] { c with commandId := 0 }
  | look (h : c.cancelId = 0) : Leg cue c [] { c.forget cue with waitingStop := false }
  | drive (h : c.cancelId = 0) (meters speed : F) {id : UInt8} (hid : id ≠ 0) :
      Leg cue c [⟨.requestDrive meters speed, .ok⟩, ⟨.commandId, id⟩] { c with commandId := id }
  | turn (h : c.cancelId = 0) (degrees speed : F) {id : UInt8} (hid : id ≠ 0) :
      Leg cue c [⟨.requestTurn degrees speed, .ok⟩, ⟨.commandId, id⟩] { c with commandId := id }
  | resume (h : c.cancelId = 0) :
      Leg cue c [] { c with
        obstacleActive := false, waitingStop := false, commandId := 0, state := .follow }

/-- One cycle that leaves the run going. -/
inductive Move (cue : Cue) (c : Core) : List (Event F) → Core → Prop
  | brake {c₁ : Core} (hs : c.state = .follow) (hh : c.Hears cue c₁) (hj : cue.junction = true)
      (hp : c₁.pending ≠ .none) :
      Move cue c c₁.stopCalls { c₁.requestStop with state := .braking }
  | wait {c₁ : Core} (hs : c.state = .follow) (hl : c.Listens cue c₁) : Move cue c [] c₁
  | pause {c₁ : Core} (hs : c.state = .follow) (hl : c.Listens cue c₁) :
      Move cue c c₁.stopCalls c₁.requestStop
  | steer {c₁ : Core} (hs : c.state = .follow) (hl : c.Listens cue c₁)
      (hw : c₁.waitingStop = true → c₁.cancelId = 0) (left right : F) {id : UInt8} (hid : id ≠ 0) :
      Move cue c [⟨.velocity left right, .ok⟩, ⟨.commandId, id⟩]
        { c₁ with waitingStop := false, commandId := id }
  | brakeWait (hs : c.state = .braking) : Move cue c [] c
  | advance (hs : c.state = .braking) (hc : c.cancelId = 0)
      (hp : c.pending = .left ∨ c.pending = .right) (meters speed : F) {id : UInt8}
      (hid : id ≠ 0) :
      Move cue c [⟨.drive meters speed, .ok⟩, ⟨.commandId, id⟩]
        { c with waitingStop := false, turn := c.pending, advancing := true, commandId := id,
                 pending := .none, state := .manoeuvre }
  | turn (hs : c.state = .braking) (hc : c.cancelId = 0) {m : Manoeuvre}
      (hm : Drive.manoeuvreOf c.pending = some m) {id : UInt8} (hid : id ≠ 0) :
      Move cue c [⟨.manoeuvre m, .ok⟩, ⟨.commandId, id⟩]
        { c with waitingStop := false, turn := c.pending, advancing := false, commandId := id,
                 pending := .none, state := .manoeuvre }
  | found (hs : c.state = .manoeuvre) (hq : c.searching = true) (ho : c.obstacleActive = false) :
      Move cue c [⟨.stop, ()⟩] { c with searching := false, state := .reacquire }
  | sweep (hs : c.state = .manoeuvre) (hq : c.searching = true) (ho : c.obstacleActive = false)
      (left right : F) : Move cue c [⟨.velocity left right, .ok⟩] c
  | turnWait (hs : c.state = .manoeuvre) (hq : c.searching = false) (ho : c.obstacleActive = false)
      (hd : cue.done = false) : Move cue c [] c
  | advanced (hs : c.state = .manoeuvre) (hq : c.searching = false) (ho : c.obstacleActive = false)
      (hd : cue.done = true) (ha : c.advancing = true) {m : Manoeuvre}
      (hm : Drive.manoeuvreOf c.turn = some m) {id : UInt8} (hid : id ≠ 0) :
      Move cue c [⟨.manoeuvre m, .ok⟩, ⟨.commandId, id⟩]
        { c with commandId := id, advancing := false }
  | turned (hs : c.state = .manoeuvre) (hq : c.searching = false) (ho : c.obstacleActive = false)
      (hd : cue.done = true) (ha : c.advancing = false) :
      Move cue c [⟨.stop, ()⟩] { c with commandId := 0, state := .reacquire }
  | missed (hs : c.state = .manoeuvre) (hq : c.searching = false) (ho : c.obstacleActive = false)
      (hd : cue.done = true) (ha : c.advancing = false) :
      Move cue c [⟨.stop, ()⟩] { c with commandId := 0, searching := true }
  | reacquireWait (hs : c.state = .reacquire) : Move cue c [⟨.stop, ()⟩] c
  | reacquired (hs : c.state = .reacquire) (hc : c.cancelId = 0) :
      Move cue c [⟨.stop, ()⟩] { c with state := .follow }
  | detour {u : List (Event F)} {c' : Core} (ho : c.obstacleActive = true) (hl : Leg cue c u c') :
      Move cue c u c'
  | beginDetour {c₁ c' : Core} {u : List (Event F)} (hb : cue.detours = true)
      (hs : c.state = .follow) (ho : c.obstacleActive = false) (hh : c.Hears cue c₁)
      (hl : Leg cue { c₁.requestStop with state := .manoeuvre, obstacleActive := true } u c') :
      Move cue c (c₁.stopCalls ++ u) c'

/-- What a cycle may have called before it halts: at most one request, a manoeuvre only if it is
due. -/
inductive Tried (cue : Cue) (c : Core) (u : List (Event F)) : Prop
  | quiet (h : asks u = [])
  | other {e : Event F} (h : Asked e u) (he : e.1.isRequest = true)
      (hm : ∀ m, e.1 ≠ .manoeuvre m)
      (hc : c.state = .manoeuvre → c.searching = true ∨ c.obstacleActive = true)
  | first {m : Manoeuvre} {x : MotionResult} (h : Asked ⟨.manoeuvre m, x⟩ u)
      (hs : c.state = .braking) (hm : Drive.manoeuvreOf c.pending = some m)
  | second {m : Manoeuvre} {x : MotionResult} (h : Asked ⟨.manoeuvre m, x⟩ u)
      (hs : c.state = .manoeuvre) (hq : c.searching = false) (ho : c.obstacleActive = false)
      (hd : cue.done = true) (ha : c.advancing = true) (hm : Drive.manoeuvreOf c.turn = some m)

section Refinement

variable {D : Type} {B : BarcodeReaders}

namespace Drive

def core (d : Drive F D B) : Core :=
  ⟨d.state, d.pending, d.turn, d.advancing, d.searching, d.waitingStop, d.commandId, d.cancelId,
    d.obstacleActive⟩

/-- What the cycle depends on, given whether its command is done. -/
def cue (s5 : Bool) (d : Drive F D B) (done : Bool) : Cue where
  detours := s5
  done := done
  heard := if d.output.events.barcode then some d.output.action else none
  junction := d.output.events.junction

/-- The lifecycle, the configuration, the state of a reset and the output are the same. -/
structure Keeps (d d' : Drive F D B) : Prop where
  navigation : d.navigation.Keeps d'.navigation
  resetResult : d'.resetResult = d.resetResult
  configured : d'.configured = d.configured
  output : d'.output = d.output

/-- The drive after `halt`. -/
structure Halted [CFloat D] (d : Drive F D B) (state : DriveState) (d' : Drive F D B) : Prop where
  core : d'.core = .halted state
  navigation : d'.navigation = d.navigation.endRun.2
  resetResult : d'.resetResult = if d.resetResult = .pending then .failed else d.resetResult
  configured : d'.configured = d.configured
  faultMask : d'.output.faultMask = d.output.faultMask
  sensor : d'.output.sensor = d.output.sensor
  line : d'.output.line = d.output.line

/-- How a cycle that may move ends: with a move, or halted after what it tried. -/
inductive Outcome [CFloat D] (cue : Cue) (d : Drive F D B) : List (Event F) → Drive F D B → Prop
  | moves {u : List (Event F)} {d' : Drive F D B} (hm : Move cue d.core u d'.core)
      (hk : d.Keeps d') : Outcome cue d u d'
  | halts {u : List (Event F)} {m d' : Drive F D B} {state : DriveState}
      (ht : Tried cue d.core u) (hk : d.Keeps m) (hs : state = .halted ∨ state = .fault)
      (hh : m.Halted state d') : Outcome cue d (u ++ haltCalls) d'

theorem Keeps.refl (d : Drive F D B) : d.Keeps d := ⟨⟨rfl, rfl, rfl, rfl⟩, rfl, rfl, rfl⟩

theorem Keeps.trans {d m e : Drive F D B} (h : d.Keeps m) (h' : m.Keeps e) : d.Keeps e :=
  ⟨h.navigation.trans h'.navigation, h'.resetResult.trans h.resetResult,
    h'.configured.trans h.configured, h'.output.trans h.output⟩

end Drive

namespace Core

theorem requestStop_state (c : Core) : c.requestStop.state = c.state := by
  rw [requestStop]
  split <;> rfl

theorem requestStop_pending (c : Core) : c.requestStop.pending = c.pending := by
  rw [requestStop]
  split <;> rfl

theorem requestStop_turn (c : Core) : c.requestStop.turn = c.turn := by
  rw [requestStop]
  split <;> rfl

theorem requestStop_advancing (c : Core) : c.requestStop.advancing = c.advancing := by
  rw [requestStop]
  split <;> rfl

theorem requestStop_searching (c : Core) : c.requestStop.searching = c.searching := by
  rw [requestStop]
  split <;> rfl

theorem requestStop_obstacleActive (c : Core) :
    c.requestStop.obstacleActive = c.obstacleActive := by
  rw [requestStop]
  split <;> rfl

end Core

@[simp] theorem motion_nil : motion ([] : List (Event F)) = [] := rfl

@[simp] theorem motion_append (t u : List (Event F)) :
    motion (t ++ u) = motion t ++ motion u := List.filter_append ..

@[simp] theorem motion_cons (e : Event F) (t : List (Event F)) :
    motion (e :: t) = if e.1.isMotion then e :: motion t else motion t := List.filter_cons

@[simp] theorem asks_nil : asks ([] : List (Event F)) = [] := rfl

@[simp] theorem asks_append (t u : List (Event F)) :
    asks (t ++ u) = asks t ++ asks u := List.filter_append ..

@[simp] theorem asks_cons (e : Event F) (t : List (Event F)) :
    asks (e :: t) = if e.1.isAsk then e :: asks t else asks t := List.filter_cons

attribute [simp] PortCall.isMotion PortCall.isRequest PortCall.isAsk

theorem PortCall.isAsk_of_isRequest {c : PortCall F} (h : c.isRequest) : c.isAsk := by
  cases c <;> first | rfl | exact h

theorem asks_stopCalls (c : Core) : asks (c.stopCalls : List (Event F)) = [] := by
  rw [Core.stopCalls]
  split <;> rfl

def AtMostOne (u : List (Event F)) : Prop :=
  asks u = [] ∨ ∃ e, Asked e u ∧ e.1.isRequest = true

variable {t u : List (Event F)}

theorem Asked.after {e : Event F} (ht : asks t = []) (h : Asked e u) : Asked e (t ++ u) := by
  rwa [Asked, asks_append, ht, List.nil_append]

theorem AtMostOne.after (ht : asks t = []) (h : AtMostOne u) : AtMostOne (t ++ u) := by
  rcases h with h | ⟨e, h, he⟩
  · exact .inl (by rw [asks_append, ht, h]; rfl)
  · exact .inr ⟨e, h.after ht, he⟩

theorem AtMostOne.before (ht : asks t = []) (h : AtMostOne u) : AtMostOne (u ++ t) := by
  have hu : asks (u ++ t) = asks u := by rw [asks_append, ht, List.append_nil]
  unfold AtMostOne Asked at h ⊢
  rwa [hu]

theorem Leg.atMostOne {cue : Cue} {c c' : Core} (h : Leg cue c u c') : AtMostOne u := by
  cases h with
  | drive | turn => exact .inr ⟨_, .inr ⟨_, rfl⟩, rfl⟩
  | _ => exact .inl rfl

/-- A move makes at most one request. -/
theorem Move.atMostOne {cue : Cue} {c c' : Core} (h : Move cue c u c') : AtMostOne u := by
  cases h with
  | brake | pause => exact .inl (asks_stopCalls _)
  | detour _ hl => exact hl.atMostOne
  | beginDetour _ _ _ _ hl => exact hl.atMostOne.after (asks_stopCalls _)
  | sweep => exact .inr ⟨_, .inl rfl, rfl⟩
  | steer | advance | turn | advanced => exact .inr ⟨_, .inr ⟨_, rfl⟩, rfl⟩
  | _ => exact .inl rfl

theorem Tried.atMostOne {cue : Cue} {c : Core} (h : Tried cue c u) : AtMostOne u := by
  cases h with
  | quiet h => exact .inl h
  | other h he => exact .inr ⟨_, h, he⟩
  | first h | second h => exact .inr ⟨_, h, rfl⟩

/-- So does a cycle. -/
theorem Drive.Outcome.atMostOne {D : Type} {B : BarcodeReaders} [CFloat D] {cue : Cue}
    {d d' : Drive F D B} (h : Drive.Outcome cue d u d') : AtMostOne u := by
  cases h with
  | moves hm => exact hm.atMostOne
  | halts ht => exact ht.atMostOne.before rfl

namespace Drive

variable [CFloat D]

def DetourOff (s5 : Bool) (d : Drive F D B) : Prop := s5 = false → d.obstacleActive = false

/-- Every exchange of a cycle ends as the abstract machine allows, after the calls `u` made so
far. -/
def Refines (cue : Cue) (d : Drive F D B) (u : List (Event F)) (p : DriveM F (Drive F D B)) :
    Prop :=
  p.Ensures fun t d' => Outcome cue d (u ++ motion t) d'

omit [CFloat D] in
theorem haltObstacle_obstacleActive (d : Drive F D B) (state : DriveState) :
    (d.haltObstacle state).obstacleActive = false := by
  simp only [haltObstacle]
  split_ifs <;> rfl

variable {d m : Drive F D B}

theorem haltRun_halted (hn : m.navigation = d.navigation) (hr : m.resetResult = d.resetResult)
    (hc : m.configured = d.configured) (hout : m.output = d.output) (ho : m.obstacleActive = false)
    (state : DriveState) (reason : Reason) : d.Halted state (m.haltRun state reason) := by
  refine ⟨?_, ?_, ?_, hc, ?_, ?_, ?_⟩
  · simp [core, haltRun, Core.halted, ho]
  · simp [haltRun, hn]
  · simp [haltRun, hr]
  all_goals simp [haltRun, hout]

omit [CFloat D] in
theorem haltObstacle_frame (d : Drive F D B) (state : DriveState) :
    (d.haltObstacle state).navigation = d.navigation ∧
      (d.haltObstacle state).resetResult = d.resetResult ∧
      (d.haltObstacle state).configured = d.configured ∧
      (d.haltObstacle state).output = d.output := by
  simp only [haltObstacle]
  split_ifs <;> exact ⟨rfl, rfl, rfl, rfl⟩

/-- What a halt does. -/
theorem halt_ensures {s5 : Bool} (ho : d.DetourOff s5) (state : DriveState) (reason : Reason) :
    (d.halt s5 state reason).Ensures fun t d' => motion t = haltCalls ∧ d.Halted state d' := by
  cases s5 with
  | false =>
    simp only [halt, leaveObstacle, call, ensures_bind, ensures_perform, ensures_pure,
      Bool.false_eq_true, if_false]
    exact fun _ _ => ⟨rfl, haltRun_halted rfl rfl rfl rfl (ho rfl) state reason⟩
  | true =>
    obtain ⟨hn, hr, hc, hout⟩ := haltObstacle_frame d state
    simp only [halt, leaveObstacle, tellStatus, call, ensures_bind, ensures_perform, ensures_pure,
      if_true]
    exact fun _ _ _ _ => ⟨rfl,
      haltRun_halted hn hr hc hout (haltObstacle_obstacleActive d state) state reason⟩

variable {cue : Cue} {u : List (Event F)}

theorem halt_refines {s5 : Bool} (ht : Tried cue d.core u) (hk : d.Keeps m) (ho : m.DetourOff s5)
    {state : DriveState} (hs : state = .halted ∨ state = .fault) (reason : Reason) :
    Refines cue d u (m.halt s5 state reason) := by
  refine (halt_ensures ho state reason).mono fun t d' h => ?_
  rw [h.1]
  exact .halts ht hk hs h.2

theorem pure_refines {d' : Drive F D B} (hm : Move cue d.core u d'.core) (hk : d.Keeps d') :
    Refines cue d u (pure d') := by
  rw [Refines, ensures_pure, motion_nil, List.append_nil]
  exact .moves hm hk

theorem ite_refines {c : Prop} [Decidable c] {p q : DriveM F (Drive F D B)}
    (hp : c → Refines cue d u p) (hq : ¬c → Refines cue d u q) :
    Refines cue d u (if c then p else q) := by
  split
  · exact hp ‹_›
  · exact hq ‹_›

theorem bind_refines {α : Type} {p : DriveM F α} {k : α → DriveM F (Drive F D B)}
    (h : p.Ensures fun t a => Refines cue d (u ++ motion t) (k a)) : Refines cue d u (p >>= k) := by
  rw [Refines, ensures_bind]
  refine h.mono fun t a ha => ha.mono fun t' d' ho => ?_
  rwa [motion_append, ← List.append_assoc]

theorem call_refines {c : PortCall F} {k : c.Answer → DriveM F (Drive F D B)}
    (h : ∀ x, Refines cue d (u ++ motion [⟨c, x⟩]) (k x)) : Refines cue d u (call c >>= k) :=
  bind_refines (ensures_perform.2 h)

/-! ### Following -/

omit [CFloat D] in
/-- What the request of a stop does. -/
theorem requestStop_ensures (m : Drive F D B) (now : UInt32) :
    (m.requestStop now).Ensures fun t d' =>
      motion t = m.core.stopCalls ∧ d'.core = m.core.requestStop ∧ m.Keeps d' := by
  rw [requestStop]
  by_cases hw : m.waitingStop
  · rw [if_pos hw, ensures_pure]
    exact ⟨by simp [Core.stopCalls, core, hw], by simp [Core.requestStop, core, hw], .refl m⟩
  · rw [if_neg hw]
    simp only [call, ensures_bind, ensures_perform, ensures_pure]
    refine fun _ => ⟨?_, ?_, { Keeps.refl _ with }⟩
    · simp [Core.stopCalls, core, hw]
    · simp [Core.requestStop, core, hw]

theorem requestStop_refines
    (hm : Move cue d.core (m.core.stopCalls : List (Event F)) m.core.requestStop) (hk : d.Keeps m)
    (now : UInt32) : Refines cue d [] (m.requestStop now) := by
  refine (requestStop_ensures m now).mono fun t d' h => ?_
  obtain ⟨ht, hc, hk'⟩ := h
  rw [List.nil_append, ht]
  exact .moves (hc ▸ hm) (hk.trans hk')

omit [CFloat D] in
theorem cancelId_of_stopped (h : m.stoppedAfterRequest) : m.cancelId = 0 := by
  simp [stoppedAfterRequest] at h
  exact h.1.2

section Follow

variable {s5 : Bool} {cue : Cue} {d m : Drive F D B} {c₁ : Core} {now : UInt32}

theorem requestVelocity_refines (hs : d.state = .follow) (hl : d.core.Listens cue c₁)
    (hw : c₁.waitingStop → c₁.cancelId = 0) (hm : m.core = { c₁ with waitingStop := false })
    (hk : d.Keeps m) (ho : m.DetourOff s5) (left right : F) :
    Refines cue d [] (m.requestVelocity s5 left right) := by
  have hc : d.core.state = .manoeuvre → d.core.searching = true ∨ d.core.obstacleActive = true :=
    fun h => absurd (hs.symm.trans h) nofun
  rw [requestVelocity]
  refine call_refines fun result => ?_
  have ht {u : List (Event F)} (hu : Asked ⟨.velocity left right, result⟩ u) :
      Tried cue d.core u := .other hu rfl (by simp) hc
  refine ite_refines (fun hr => ?_) fun hr => ?_
  · exact halt_refines (ht (.inl rfl)) hk ho (.inr rfl) _
  · refine call_refines fun id => ite_refines (fun hid => ?_) fun hid => ?_
    · exact halt_refines (m := { m with commandId := id }) (ht (.inr ⟨id, rfl⟩))
        { hk with } ho (.inr rfl) _
    · obtain rfl : result = .ok := not_not.1 hr
      refine pure_refines ?_ { hk with }
      change Move cue d.core _ { m.core with commandId := id }
      rw [hm]
      exact .steer hs hl hw left right hid

/-- Steering along the line. -/
theorem steer_refines (hs : d.state = .follow) (hl : d.core.Listens cue c₁)
    (hw : c₁.waitingStop → c₁.cancelId = 0)
    (hv : c₁.waitingStop → m.output.steering.valid ∨ m.straightAcross)
    (hm : m.core = { c₁ with waitingStop := false }) (hk : d.Keeps m) (ho : m.DetourOff s5) :
    Refines cue d [] (m.steer s5 now) := by
  rw [steer]
  split_ifs with h₁ h₂
  · exact requestVelocity_refines hs hl hw hm hk ho _ _
  · exact requestVelocity_refines hs hl hw hm hk ho _ _
  · have hf : c₁.waitingStop = false := by
      by_contra hc
      rcases hv (by simpa using hc) with h | h
      · exact h₁ h
      · exact h₂ h
    have hc₁ : m.core = c₁ := by rw [hm, ← hf]
    exact requestStop_refines (hc₁ ▸ .pause hs hl) hk now

theorem followLine_refines (hs : d.state = .follow) (hl : d.core.Listens cue m.core)
    (hk : d.Keeps m) (ho : m.DetourOff s5) : Refines cue d [] (m.followLine s5 now) := by
  rw [followLine]
  split_ifs with hw ht hstop hv
  · exact halt_refines (.quiet rfl) hk ho (.inr rfl) _
  · exact pure_refines (.wait hs hl) hk
  · exact pure_refines (.wait hs hl) hk
  · refine steer_refines hs hl (fun _ => cancelId_of_stopped (by simpa using hstop)) (fun _ => ?_)
      rfl { hk with } ho
    by_contra hno
    rw [not_or, Bool.not_eq_true, Bool.not_eq_true] at hno
    have hacross : m.straightAcross = false := hno.2
    exact hv ⟨by simpa using hno.1, by simpa using hacross⟩
  · refine steer_refines hs hl (fun h => absurd h hw) (fun h => absurd h hw) ?_ hk ho
    simp [core, hw]

/-- The events of a frame on the line. -/
theorem followEvents_refines (hs : d.state = .follow) (hh : d.core.Hears cue m.core)
    (hj : cue.junction = m.output.events.junction) (hk : d.Keeps m) (ho : m.DetourOff s5) :
    Refines cue d [] (m.followEvents s5 now) := by
  rw [followEvents]
  split_ifs with ht hjunction hcross hp
  · exact halt_refines (.quiet rfl) hk ho (.inl rfl) _
  · exact followLine_refines hs (.cross hh (hj.trans hjunction) hcross.2)
      { hk with } ho
  · exact halt_refines (.quiet rfl) hk ho (.inl rfl) _
  · refine bind_refines ((requestStop_ensures _ now).mono fun t d' h => ?_)
    obtain ⟨ht, hc, hk'⟩ := h
    rw [List.nil_append, ht]
    refine pure_refines ?_ (hk.trans { hk' with })
    have hcore : ({ d' with state := .braking } : Drive F D B).core =
        { m.core.requestStop with state := .braking } := by
      rw [show m.core.requestStop = d'.core from hc.symm]
      rfl
    rw [hcore]
    exact .brake hs hh (hj.trans hjunction) hp
  · exact followLine_refines hs (.keep hh) hk ho

omit [CFloat D] in
theorem hears_output (s5 : Bool) (d : Drive F D B) (now : UInt32) (done : Bool) :
    (d.output.events.barcode = false → d.core.Hears (d.cue s5 done) d.core) ∧
      (d.output.events.barcode → d.output.action ≠ .none → d.pending = .none →
        d.core.Hears (d.cue s5 done)
          ({ d with pending := d.output.action, pendingUs := now } : Drive F D B).core) := by
  refine ⟨fun hb => .silent (by simp [cue, hb]), fun hb ha hp => ?_⟩
  exact .heard d.output.action (by simp [cue, hb]) ha hp

/-- The branch that follows the line. -/
theorem follow_refines {done : Bool} (hs : d.state = .follow) (ho : d.DetourOff s5) :
    Refines (d.cue s5 done) d [] (d.follow s5 now) := by
  obtain ⟨hsilent, hheard⟩ := hears_output s5 d now done
  rw [follow]
  split_ifs with hlost hb ha hp
  · exact halt_refines (.quiet rfl) (.refl d) ho (.inl rfl) _
  · exact halt_refines (.quiet rfl) (.refl d) ho (.inl rfl) _
  · exact halt_refines (.quiet rfl) (.refl d) ho (.inl rfl) _
  · exact followEvents_refines hs (hheard hb ha (not_not.1 hp)) rfl { Keeps.refl _ with } ho
  · exact followEvents_refines hs (hsilent (by simpa using hb)) rfl (.refl d) ho

end Follow

variable [CFloat F]

section Manoeuvre

variable {s5 : Bool} {cue : Cue} {d m : Drive F D B} {now : UInt32}

/-! ### Braking, the advance and the turn -/

omit [CFloat F] [CFloat D] in
theorem requestTurn_ensures (m : Drive F D B) :
    (m.requestTurn).Ensures fun t r =>
      (r.1 = false → motion t = [] ∨ ∃ a x, manoeuvreOf m.turn = some a ∧
        Asked ⟨.manoeuvre a, x⟩ (motion t)) ∧
      (r.1 → ∃ a id, manoeuvreOf m.turn = some a ∧ id ≠ 0 ∧
        motion t = [⟨.manoeuvre a, .ok⟩, ⟨.commandId, id⟩] ∧
        r.2.core = { m.core with commandId := id }) ∧
      m.Keeps r.2 ∧ r.2.obstacleActive = m.obstacleActive := by
  rw [requestTurn]
  split
  · rw [ensures_pure]
    exact ⟨fun _ => .inl rfl, nofun, .refl m, rfl⟩
  · rename_i a ha
    simp only [call, ensures_bind, ensures_perform, ensures_ite, ensures_pure]
    refine fun result => ⟨fun hr => ?_, fun hr id => ?_⟩
    · exact ⟨fun _ => .inr ⟨a, result, ha, .inl rfl⟩, nofun, .refl m, trivial⟩
    · obtain rfl : result = .ok := not_not.1 hr
      refine ⟨fun _ => .inr ⟨a, .ok, ha, .inr ⟨id, rfl⟩⟩, fun hid => ?_,
        { Keeps.refl _ with }, trivial⟩
      exact ⟨a, id, ha, by simpa using hid, rfl, rfl⟩

/-- What a failed or successful start of a manoeuvre leaves: the id of an advance, or of the turn
itself. -/
inductive Started (m : Drive F D B) : List (Event F) → Bool × Drive F D B → Prop
  | none {e : Drive F D B} (hk : m.Keeps e) (ho : e.obstacleActive = m.obstacleActive) :
      Started m [] (false, e)
  | refusedAdvance {u : List (Event F)} {e : Drive F D B} {meters speed : F} {x : MotionResult}
      (hu : Asked ⟨.drive meters speed, x⟩ u) (hk : m.Keeps e)
      (ho : e.obstacleActive = m.obstacleActive) : Started m u (false, e)
  | refusedTurn {u : List (Event F)} {e : Drive F D B} {a : Manoeuvre} {x : MotionResult}
      (ha : manoeuvreOf m.turn = some a) (hu : Asked ⟨.manoeuvre a, x⟩ u) (hk : m.Keeps e)
      (ho : e.obstacleActive = m.obstacleActive) : Started m u (false, e)
  | advance {e : Drive F D B} {meters speed : F} {id : UInt8} (hid : id ≠ 0)
      (ht : m.turn = .left ∨ m.turn = .right) (hk : m.Keeps e)
      (hc : e.core = { m.core with advancing := true, commandId := id }) :
      Started m [⟨.drive meters speed, .ok⟩, ⟨.commandId, id⟩] (true, e)
  | turn {e : Drive F D B} {a : Manoeuvre} {id : UInt8} (hid : id ≠ 0)
      (ha : manoeuvreOf m.turn = some a) (hk : m.Keeps e)
      (hc : e.core = { m.core with advancing := false, commandId := id }) :
      Started m [⟨.manoeuvre a, .ok⟩, ⟨.commandId, id⟩] (true, e)

/-- What the start of a manoeuvre does. -/
theorem startManoeuvre_ensures [CDouble F D] (m : Drive F D B) :
    m.startManoeuvre.Ensures fun t r => m.Started (motion t) r := by
  have hk {e : Drive F D B} (hn : e.navigation = m.navigation)
      (hr : e.resetResult = m.resetResult) (hc : e.configured = m.configured)
      (ho : e.output = m.output) : m.Keeps e :=
    ⟨by rw [hn]; exact ⟨rfl, rfl, rfl, rfl⟩, hr, hc, ho⟩
  simp only [startManoeuvre]
  split
  · rename_i hadv
    have ht : m.turn = .left ∨ m.turn = .right := by
      simp only [advances, Bool.and_eq_true, Bool.or_eq_true, decide_eq_true_eq] at hadv
      exact hadv.1.1
    simp only [call, ensures_bind, ensures_perform, ensures_ite, ensures_pure]
    refine fun result => ⟨fun hr => ?_, fun hr id => ?_⟩
    · exact .refusedAdvance (.inl rfl) (hk rfl rfl rfl rfl) rfl
    · obtain rfl : result = .ok := not_not.1 hr
      by_cases hid : id = 0
      · rw [show decide (id ≠ 0) = false by simp [hid]]
        exact .refusedAdvance (.inr ⟨id, rfl⟩) (hk rfl rfl rfl rfl) rfl
      · rw [show decide (id ≠ 0) = true by simp [hid]]
        exact .advance hid ht (hk rfl rfl rfl rfl) rfl
  · refine (requestTurn_ensures _).mono fun t r h => ?_
    obtain ⟨hfail, hok, hkeep, ho⟩ := h
    rcases r with ⟨b, e⟩
    cases b with
    | false =>
      rcases hfail rfl with h | ⟨a, x, ha, hu⟩
      · rw [h]
        exact .none { hkeep with } ho
      · exact .refusedTurn ha hu { hkeep with } ho
    | true =>
      obtain ⟨a, id, ha, hid, ht, he⟩ := hok rfl
      rw [ht]
      exact .turn hid ha { hkeep with } he

/-- The branch that brakes. -/
theorem braking_refines [CDouble F D] (hs : d.state = .braking) (ho : d.DetourOff s5) :
    Refines cue d [] (d.braking s5 now) := by
  rw [braking]
  split_ifs with ht hstop
  · exact halt_refines (.quiet rfl) (.refl d) ho (.inr rfl) _
  · have hcancel : d.cancelId = 0 := cancelId_of_stopped hstop
    have hbraking : d.core.state = .manoeuvre → d.core.searching = true ∨
        d.core.obstacleActive = true := fun h => absurd (hs.symm.trans h) nofun
    have hkeep : d.Keeps { d with
        waitingStop := false
        navigation := (d.navigation.setMode .suppressed).2
        turn := d.pending } := ⟨Nav.keeps_setMode _ _, rfl, rfl, rfl⟩
    have hcore (e : Drive F D B) : ({ e with
        pending := .none, state := .manoeuvre, phaseUs := now } : Drive F D B).core =
        { e.core with pending := .none, state := .manoeuvre } := rfl
    refine bind_refines ((startManoeuvre_ensures _).mono fun t r hstart => ?_)
    rw [List.nil_append]
    generalize motion t = u at hstart
    cases hstart with
    | none hk hoe =>
      exact halt_refines (.quiet rfl) (hkeep.trans hk)
        (fun h => hoe.trans (ho h)) (.inr rfl) _
    | refusedAdvance hu hk hoe =>
      exact halt_refines (.other hu rfl (by simp) hbraking) (hkeep.trans hk)
        (fun h => hoe.trans (ho h)) (.inr rfl) _
    | refusedTurn ha hu hk hoe =>
      exact halt_refines (.first hu hs ha) (hkeep.trans hk)
        (fun h => hoe.trans (ho h)) (.inr rfl) _
    | advance hid hturn hk hc =>
      refine pure_refines ?_ (hkeep.trans { hk with })
      rw [hcore, hc]
      exact .advance hs hcancel hturn _ _ hid
    | turn hid ha hk hc =>
      refine pure_refines ?_ (hkeep.trans { hk with })
      rw [hcore, hc]
      exact .turn hs hcancel ha hid
  · exact pure_refines (.brakeWait hs) (.refl d)

theorem sweep_refines (hs : d.state = .manoeuvre) (hq : d.searching)
    (hm : m.core = d.core) (hk : d.Keeps m) (ho : d.obstacleActive = false) :
    Refines cue d [] (m.sweep s5) := by
  have hom : m.obstacleActive = false := (congrArg Core.obstacleActive hm).trans ho
  rw [sweep]
  refine call_refines fun result => ite_refines (fun hr => ?_) fun hr => ?_
  · refine halt_refines (.other (.inl rfl) rfl ?_ fun _ => .inl hq) hk (fun _ => hom) (.inr rfl) _
    exact nofun
  · obtain rfl : result = .ok := not_not.1 hr
    refine pure_refines ?_ hk
    rw [hm]
    exact .sweep hs hq ho _ _

/-- The sweep for the line. -/
theorem searchStep_refines (hs : d.state = .manoeuvre) (hq : d.searching)
    (ho : d.obstacleActive = false) : Refines cue d [] (d.searchStep s5 now) := by
  rw [searchStep]
  refine ite_refines (fun _ => ?_) fun _ => ite_refines (fun _ => ?_) fun _ => ?_
  · refine call_refines fun _ => pure_refines ?_ ⟨Nav.keeps_setMode _ _, rfl, rfl, rfl⟩
    exact .found hs hq ho
  · refine ite_refines (fun _ => ?_) fun _ => ?_
    · exact halt_refines (.quiet rfl) (.refl d) (fun _ => ho) (.inl rfl) _
    · exact sweep_refines hs hq rfl { Keeps.refl _ with } ho
  · exact sweep_refines hs hq rfl (.refl d) ho

/-! ### The end of the advance and of the turn -/

theorem finishTurn_refines (hs : d.state = .manoeuvre) (hq : d.searching = false)
    (ho : d.obstacleActive = false) (hd : cue.done) (ha : d.advancing = false)
    (hm : m.core = d.core) (hk : d.Keeps m) : Refines cue d [] (m.finishTurn s5 now) := by
  have hom : m.obstacleActive = false := (congrArg Core.obstacleActive hm).trans ho
  rw [finishTurn]
  refine call_refines fun _ => ite_refines (fun _ => ite_refines (fun _ => ?_) fun _ => ?_)
    fun _ => ?_
  · refine pure_refines ?_ { hk with }
    change Move cue d.core _ { m.core with commandId := 0, searching := true }
    rw [hm]
    exact .missed hs hq ho hd ha
  · exact halt_refines (m := { m with commandId := 0 }) (.quiet rfl) { hk with }
      (fun _ => hom) (.inl rfl) _
  · refine pure_refines ?_ ⟨hk.1.trans (Nav.keeps_setMode _ _), hk.2, hk.3, hk.4⟩
    change Move cue d.core _ { m.core with commandId := 0, state := .reacquire }
    rw [hm]
    exact .turned hs hq ho hd ha

/-- The branch that advances and turns. -/
theorem turning_refines {done : Bool} (hs : d.state = .manoeuvre) (hq : d.searching = false)
    (ho : d.obstacleActive = false) : Refines (d.cue s5 done) d [] (d.turning s5 now done) := by
  have htouch : ∃ m : Drive F D B,
      (if !d.advancing ∧ d.output.line.valid ∧ d.output.line.touching
        then { d with touchUs := now, touched := true } else d) = m ∧
        m.core = d.core ∧ d.Keeps m := by
    refine ⟨_, rfl, ?_, ?_⟩ <;> split_ifs <;> first | rfl | exact { Keeps.refl _ with }
  obtain ⟨m, hm, hcore, hk⟩ := htouch
  have hom : m.obstacleActive = false := (congrArg Core.obstacleActive hcore).trans ho
  have hadv : m.advancing = d.advancing := congrArg Core.advancing hcore
  have hturn : m.turn = d.turn := congrArg Core.turn hcore
  simp only [turning, hm]
  refine ite_refines (fun _ => ?_) fun _ => ite_refines (fun hd => ?_) fun hnd =>
    ite_refines (fun hd => ?_) fun hd => ite_refines (fun _ => ?_) fun _ => ?_
  · exact halt_refines (.quiet rfl) hk (fun _ => hom) (.inr rfl) _
  · have ha : d.advancing := hadv ▸ hd.2
    refine bind_refines ((requestTurn_ensures _).mono fun t r h => ?_)
    obtain ⟨hfail, hok, hkeep, hoe⟩ := h
    rw [List.nil_append]
    have hdue {a : Manoeuvre} (h : manoeuvreOf m.turn = some a) :
        manoeuvreOf d.core.turn = some a := by rwa [hturn] at h
    rcases r with ⟨b, e⟩
    cases b with
    | false =>
      refine halt_refines (m := e) ?_ (hk.trans { hkeep with })
        (fun _ => hoe.trans hom) (.inr rfl) _
      rcases hfail rfl with h | ⟨a, x, hmo, hu⟩
      · exact .quiet (by rw [h]; rfl)
      · exact .second hu hs hq ho hd.1 ha (hdue hmo)
    | true =>
      obtain ⟨a, id, hmo, hid, ht, he⟩ := hok rfl
      rw [ht]
      refine pure_refines ?_ (hk.trans { hkeep with })
      have he' : ({ e with phaseUs := now } : Drive F D B).core =
          { m.core with commandId := id, advancing := false } := he
      rw [he', hcore]
      exact .advanced hs hq ho hd.1 ha (hdue hmo) hid
  · have ha : d.advancing = false := by
      by_contra ha
      exact hnd ⟨hd, by rw [hadv]; simpa using ha⟩
    exact finishTurn_refines hs hq ho hd ha hcore hk
  · exact halt_refines (.quiet rfl) hk (fun _ => hom) (.inr rfl) _
  · refine pure_refines ?_ hk
    rw [hcore]
    exact .turnWait hs hq ho (by simpa [Drive.cue] using hd)

omit [CFloat F] in
/-- The branch that reacquires the line. -/
theorem reacquire_refines (hs : d.state = .reacquire) (ho : d.DetourOff s5) :
    Refines cue d [] (d.reacquire s5 now) := by
  rw [reacquire]
  refine call_refines fun _ => ite_refines (fun _ => ?_) fun _ => ite_refines (fun h => ?_)
    fun _ => ?_
  · exact halt_refines (.quiet rfl) (.refl d) ho (.inl rfl) _
  · exact pure_refines (.reacquired hs (cancelId_of_stopped h.2)) { Keeps.refl _ with }
  · exact pure_refines (.reacquireWait hs) (.refl d)

/-- Every branch of a run without a detour. -/
theorem advance_refines [CDouble F D] {done : Bool} (hr : d.running)
    (ho : d.obstacleActive = false) : Refines (d.cue s5 done) d [] (d.advance s5 now done) := by
  rw [advance]
  refine ite_refines (fun hs => ?_) fun h₁ => ite_refines (fun hs => ?_) fun h₂ =>
    ite_refines (fun hs => ite_refines (fun _ => ?_) fun _ => ?_) fun h₃ =>
    ite_refines (fun hs => ?_) fun h₄ => ?_
  · exact follow_refines hs fun _ => ho
  · exact braking_refines hs fun _ => ho
  · exact halt_refines (.quiet rfl) (.refl d) (fun _ => ho) (.inr rfl) _
  · exact searchStep_refines hs.1 hs.2 ho
  · refine turning_refines hs ?_ ho
    by_contra hq
    exact h₃ ⟨hs, by simpa using hq⟩
  · refine reacquire_refines ?_ fun _ => ho
    revert hr
    simp only [running]
    cases hstate : d.state <;> simp_all [DriveState.running]

end Manoeuvre

/-! ### The detour -/

section Detour

variable {s5 : Bool} {cue : Cue} {d m : Drive F D B} {c : Core} {u : List (Event F)} {now : UInt32}

omit [CFloat F] in
theorem rejectObstacle_refines (ht : Tried cue d.core u) (hk : d.Keeps m) (ho : m.DetourOff s5) :
    Refines cue d u (m.rejectObstacle s5) := by
  simp only [rejectObstacle, Refines, ensures_bind]
  have ho' : (m.faultObstacle .motionError).DetourOff s5 := ho
  refine (halt_ensures ho' .fault .rejected).mono fun t d' h => ?_
  simp only [tellStatus, call, ensures_perform, ensures_pure]
  intro _
  have hmotion : motion (t ++ ([⟨.setControllerStatus d'.obstacle.state d'.obstacle.fault
      d'.obstacle.plan.route, ()⟩] ++ [])) = haltCalls := by
    rw [motion_append, h.1]
    rfl
  rw [hmotion]
  exact .halts ht { hk with } (.inr rfl)
    { h.2 with }

omit [CFloat F] in
theorem tellStatus_refines (hm : Move cue d.core u m.core) (hk : d.Keeps m) :
    Refines cue d u (do m.tellStatus; pure m) := by
  refine bind_refines (ensures_perform.2 fun _ => ?_)
  rw [show motion [(⟨_, _⟩ : Event F)] = [] from rfl, List.append_nil]
  exact pure_refines hm hk

/-- What a step of the detour owes the cycle: its moves are moves of the cycle after the calls `u`.
-/
structure Inside (cue : Cue) (d : Drive F D B) (u : List (Event F)) (c : Core) : Prop where
  leg : ∀ {v : List (Event F)} {c' : Core}, Leg cue c v c' → Move cue d.core (u ++ v) c'
  quiet : asks u = []
  tried : d.state = .manoeuvre → d.searching = true ∨ d.obstacleActive = true

omit [CFloat D] [CFloat F] in
theorem Inside.tried_one (hi : Inside cue d u c) {v : List (Event F)} {e : Event F}
    (hv : Asked e v) (hr : e.1.isRequest) (he : ∀ a, e.1 ≠ .manoeuvre a) :
    Tried cue d.core (u ++ v) :=
  .other (hv.after hi.quiet) hr he hi.tried

omit [CFloat F] in
theorem requestLook_refines (hi : Inside cue d u c) (hc : c.cancelId = 0)
    (hm : m.core = c.forget cue) (hk : d.Keeps m) (ho : m.DetourOff s5)
    {look : UInt16 → DriveM F Bool} (hlook : ∀ id, (look id).Ensures fun t _ => motion t = []) :
    Refines cue d u (m.requestLook s5 look) := by
  refine bind_refines ((hlook _).mono fun t ok ht => ?_)
  rw [ht, List.append_nil]
  have hkeep : d.Keeps { m with waitingStop := false, obstacleScanId := m.nextScanId } :=
    { hk with }
  refine ite_refines (fun _ => tellStatus_refines ?_ hkeep) fun _ => ?_
  · change Move cue d.core u { m.core with waitingStop := false }
    rw [hm, ← List.append_nil u]
    exact hi.leg (.look hc)
  · exact rejectObstacle_refines (.quiet hi.quiet) hkeep ho

omit [CFloat D] [CFloat F] in
theorem forget_commandId (c : Core) (id : UInt8) :
    { c.forget cue with commandId := id } = { c with commandId := id } := by
  rw [Core.forget]
  split <;> rfl

omit [CFloat F] in
theorem requestLeg_refines (hi : Inside cue d u c) (hm : m.core = c.forget cue) (hk : d.Keeps m)
    (ho : m.DetourOff s5) {leg : DriveM F MotionResult} {e : MotionResult → Event F}
    (he : leg.Ensures fun t x => motion t = [e x]) (hreq : ∀ x, (e x).1.isRequest = true)
    (hman : ∀ x a, (e x).1 ≠ .manoeuvre a)
    (hleg : ∀ id : UInt8, id ≠ 0 →
      Leg cue c [e .ok, ⟨.commandId, id⟩] { c with commandId := id }) :
    Refines cue d u (m.requestLeg s5 now leg) := by
  refine bind_refines (he.mono fun t x ht => ?_)
  rw [ht]
  have hone : Tried cue d.core (u ++ [e x]) := by
    refine hi.tried_one (.inl ?_) (hreq x) (hman x)
    rw [asks_cons, PortCall.isAsk_of_isRequest (hreq x), if_pos rfl, asks_nil]
  refine ite_refines (fun _ => rejectObstacle_refines hone hk ho) fun hx => ?_
  obtain rfl : x = .ok := not_not.1 hx
  refine call_refines fun id => ?_
  have hkeep : d.Keeps { m with commandId := id, phaseUs := now } := { hk with }
  rw [List.append_assoc]
  refine ite_refines (fun _ => rejectObstacle_refines ?_ hkeep ho) fun hid =>
    tellStatus_refines ?_ hkeep
  · refine hi.tried_one (.inr ⟨id, ?_⟩) (hreq .ok) (hman .ok)
    rw [asks_append, asks_cons, PortCall.isAsk_of_isRequest (hreq .ok), if_pos rfl]
    rfl
  · change Move cue d.core _ { m.core with commandId := id }
    rw [hm, forget_commandId]
    exact hi.leg (hleg id hid)

/-- The action of the avoidance machine. -/
theorem performAction_refines (hi : Inside cue d u c) (hm : m.core = c.forget cue)
    (hk : d.Keeps m) (ho : m.DetourOff s5) {request : Obstacle.Action}
    (hstop : ¬Obstacle.Avoidance.Quiet request.kind → c.cancelId = 0) :
    Refines cue d u (m.performAction s5 now request) := by
  have hcancel (h : request.kind ≠ .none ∧ request.kind ≠ .stop) : c.cancelId = 0 :=
    hstop fun hq => hq.elim h.1 h.2
  rw [performAction]
  split <;> rename_i hkind
  · refine call_refines fun _ => tellStatus_refines ?_ { hk with }
    change Move cue d.core _ { m.core with commandId := 0 }
    rw [hm, forget_commandId]
    exact hi.leg .stop
  · exact requestLook_refines hi (hcancel (by simp [hkind])) hm hk ho fun id =>
      ensures_perform.2 fun _ => rfl
  · exact requestLook_refines hi (hcancel (by simp [hkind])) hm hk ho fun id =>
      ensures_perform.2 fun _ => rfl
  · exact requestLeg_refines hi hm hk ho (ensures_perform.2 fun _ => rfl) (fun _ => rfl)
      nofun
      fun id hid => .drive (hcancel (by simp [hkind])) _ _ hid
  · exact requestLeg_refines hi hm hk ho (ensures_perform.2 fun _ => rfl) (fun _ => rfl)
      nofun
      fun id hid => .turn (hcancel (by simp [hkind])) _ _ hid
  · refine tellStatus_refines ?_ ⟨hk.1.trans (Nav.keeps_setMode _ _), hk.2, hk.3, hk.4⟩
    have hc : c.cancelId = 0 := hcancel (by simp [hkind])
    have hforget : ({ m.core with
          obstacleActive := false, waitingStop := false, commandId := 0, cancelId := 0,
          state := .follow } : Core) =
        { c with
          obstacleActive := false, waitingStop := false, commandId := 0, state := .follow } := by
      rw [hm, Core.forget]
      split <;> simp [hc]
    change Move cue d.core u { m.core with
      obstacleActive := false, waitingStop := false, commandId := 0, cancelId := 0,
      state := .follow }
    rw [hforget, ← List.append_nil u]
    exact hi.leg (.resume hc)
  · refine tellStatus_refines ?_ hk
    rw [hm, ← List.append_nil u]
    exact hi.leg .rest

/-- A cycle of a detour. -/
theorem detour_refines {done have_ : Bool} {observation : Obstacle.Observation}
    (hcue : cue.done = done) (hi : Inside cue d u m.core) (hk : d.Keeps m)
    (ho : m.DetourOff s5) :
    Refines cue d u (m.detour s5 now done have_ observation) := by
  have hforget : ∃ e : Drive F D B, (if done then { m with commandId := 0 } else m) = e ∧
      e.core = m.core.forget cue ∧ e.cancelId = m.cancelId ∧ d.Keeps e ∧ e.DetourOff s5 := by
    refine ⟨_, rfl, ?_, ?_, ?_, ?_⟩
    · rw [Core.forget, hcue]
      split <;> rfl
    · split <;> rfl
    · split <;> exact { hk with }
    · split <;> exact ho
  obtain ⟨e, he, hcore, hcancel, hke, hoe⟩ := hforget
  simp only [detour, he]
  let f : Drive F D B :=
    { e with obstacle := (e.obstacle.step (e.obstacleInput now done have_ observation)).2 }
  have hkf : d.Keeps f := { hke with }
  refine ite_refines (fun _ => ?_) fun _ => ?_
  · exact halt_refines (m := f) (.quiet hi.quiet) hkf hoe (.inr rfl) _
  · refine performAction_refines (m := f) hi hcore hkf hoe fun hquiet => ?_
    have hstop : e.stoppedAfterRequest := Obstacle.Avoidance.step_stopped hquiet
    exact hcancel.symm.trans (cancelId_of_stopped hstop)

/-- The cycle that begins a detour. -/
theorem beginDetour_refines {done have_ : Bool} {observation : Obstacle.Observation}
    (hcue : cue.done = done) (hdet : cue.detours) (hs : d.state = .follow)
    (hod : d.obstacleActive = false) (hh : d.core.Hears cue m.core) (hk : d.Keeps m)
    (hs5 : s5) :
    Refines cue d [] (m.beginDetour s5 now done have_ observation) := by
  rw [beginDetour]
  refine bind_refines ((requestStop_ensures _ now).mono fun t e h => ?_)
  obtain ⟨ht, hc, hk'⟩ := h
  have hcalls : motion t = m.core.stopCalls := ht
  rw [List.nil_append, hcalls]
  have hcore : ({ e with
      state := .manoeuvre
      navigation := (e.navigation.setMode .suppressed).2 } : Drive F D B).core =
      { m.core.requestStop with state := .manoeuvre, obstacleActive := true } := by
    have he : e.core = Core.requestStop { m.core with obstacleActive := true } := hc
    have : ({ e with
        state := .manoeuvre
        navigation := (e.navigation.setMode .suppressed).2 } : Drive F D B).core =
        { e.core with state := .manoeuvre } := rfl
    rw [this, he, Core.requestStop, Core.requestStop]
    split <;> rfl
  refine detour_refines hcue ⟨fun {v c'} hl => ?_, ?_, fun h => ?_⟩
    ((hk.trans { hk' with }).trans ⟨Nav.keeps_setMode _ _, rfl, rfl, rfl⟩)
    (by simp [DetourOff, hs5])
  · rw [hcore] at hl
    exact .beginDetour hdet hs hod hh hl
  · exact asks_stopCalls _
  · cases hs.symm.trans h

/-- Only the cached observation of the obstacle subsystem differs. -/
structure Glance (d e : Drive F D B) : Prop where
  core : e.core = d.core
  output : e.output = d.output
  keeps : d.Keeps e

omit [CFloat D] [CFloat F] in
theorem Glance.cue_eq {m : Drive F D B} (h : d.Glance m) (s5 done : Bool) :
    d.cue s5 done = m.cue s5 done := by
  simp only [Drive.cue, h.output]

omit [CFloat D] [CFloat F] in
theorem readObstacle_ensures (d : Drive F D B) (now : UInt32) :
    (d.readObstacle now).Ensures fun t r => motion t = [] ∧ d.Glance r.2.2 := by
  simp only [readObstacle, call, ensures_bind, ensures_perform]
  intro x
  split
  · rw [ensures_pure]
    exact ⟨rfl, rfl, rfl, { Keeps.refl _ with }⟩
  · rw [ensures_ite]
    refine ⟨fun _ => ?_, fun _ => ?_⟩ <;> rw [ensures_pure]
    · exact ⟨rfl, rfl, rfl, .refl d⟩
    · exact ⟨rfl, rfl, rfl, { Keeps.refl _ with }⟩

omit [CFloat F] in
theorem Outcome.of_glance {m e : Drive F D B} (hg : d.Glance m) (h : Outcome cue m u e) :
    Outcome cue d u e := by
  cases h with
  | moves hm hk => exact .moves (hg.core ▸ hm) (hg.keeps.trans hk)
  | halts ht hk hs hh => exact .halts (hg.core ▸ ht) (hg.keeps.trans hk) hs hh

/-- How `obstacle_control` ends: the cycle is over, or it goes on as it was. -/
def Detoured (cue : Cue) (d : Drive F D B) (t : List (Event F)) (r : Bool × Drive F D B) : Prop :=
  (r.1 = true → Outcome cue d (motion t) r.2) ∧
    (r.1 = false → motion t = [] ∧ d.Glance r.2 ∧ d.obstacleActive = false)

omit [CFloat F] in
theorem Refines.detoured {p : DriveM F (Drive F D B)} (h : Refines cue d [] p) :
    (do let e ← p; pure (true, e) : DriveM F (Bool × Drive F D B)).Ensures (Detoured cue d) := by
  rw [ensures_bind]
  refine Ensures.mono h fun t e ho => ensures_pure.2 ⟨fun _ => ?_, nofun⟩
  rwa [List.append_nil]

/-- The detour, if there is one. -/
theorem obstacleControl_ensures {done : Bool} (hs5 : s5) :
    (d.obstacleControl s5 now done).Ensures (Detoured (d.cue s5 done) d) := by
  rw [obstacleControl, ensures_bind]
  refine (readObstacle_ensures d now).mono fun t r h => ?_
  obtain ⟨have_, observation, m⟩ := r
  have ht : motion t = [] := h.1
  have hg : d.Glance m := h.2
  have hoff (e : Drive F D B) : e.DetourOff s5 := fun h => absurd (h.symm.trans hs5) nofun
  have hcue : d.cue s5 done = m.cue s5 done := hg.cue_eq s5 done
  -- The rest is a cycle of `m`; what it ends with carries over to `d`.
  have hlift {p : DriveM F (Bool × Drive F D B)} (h : p.Ensures (Detoured (m.cue s5 done) m)) :
      p.Ensures fun t' a => Detoured (d.cue s5 done) d (t ++ t') a := by
    refine h.mono fun t' a hd => ⟨fun ha => ?_, fun ha => ?_⟩
    · rw [motion_append, ht, hcue]
      exact (hd.1 ha).of_glance hg
    · obtain ⟨hm, hg', ho⟩ := hd.2 ha
      refine ⟨by rw [motion_append, ht, hm, List.append_nil], ⟨hg'.core.trans hg.core,
        hg'.output.trans hg.output, hg.keeps.trans hg'.keeps⟩, ?_⟩
      exact (congrArg Core.obstacleActive hg.core).symm.trans ho
  refine hlift ?_
  have hhalt (e : Drive F D B) (hk : m.Keeps e) {state : DriveState}
      (hst : state = .halted ∨ state = .fault) (reason : Reason) :
      Refines (m.cue s5 done) m [] (e.halt s5 state reason) :=
    halt_refines (.quiet rfl) hk (hoff e) hst reason
  obtain ⟨hsilent, hheard⟩ := hears_output s5 m now done
  dsimp only
  split_ifs with ho hready hfollow hclose hfar hlost hb hp
  · have hinside : Inside (m.cue s5 done) m [] m.core :=
      ⟨fun hl => .detour ho hl, rfl, fun _ => .inr ho⟩
    exact (detour_refines rfl hinside (.refl m) (hoff m)).detoured
  · exact (hhalt (m.faultObstacle .badRange) { Keeps.refl _ with } (.inr rfl) _).detoured
  · exact (hhalt (m.faultObstacle .noPath) { Keeps.refl _ with } (.inr rfl) _).detoured
  · exact ensures_pure.2 ⟨nofun, fun _ => ⟨rfl, ⟨rfl, rfl, .refl m⟩, by simpa using ho⟩⟩
  · exact ensures_pure.2 ⟨nofun, fun _ => ⟨rfl, ⟨rfl, rfl, .refl m⟩, by simpa using ho⟩⟩
  · exact (hhalt m (.refl m) (.inl rfl) _).detoured
  · exact (hhalt m (.refl m) (.inl rfl) _).detoured
  · rw [not_or, not_not] at hp
    exact (beginDetour_refines rfl hs5 (not_not.1 hfollow) (by simpa using ho)
      (hheard hb hp.2 hp.1) { Keeps.refl _ with } hs5).detoured
  · exact (beginDetour_refines rfl hs5 (not_not.1 hfollow) (by simpa using ho)
      (hsilent (by simpa using hb)) (.refl m) hs5).detoured

end Detour

/-- **The drive refines the phase machine**: a cycle that may move starts with the heartbeat and
then makes one of the machine's moves, or halts after what it tried. -/
theorem act_outcome [CDouble F D] {s5 : Bool} {now : UInt32} {done : Bool} (hr : d.running)
    (ho : d.DetourOff s5) :
    (d.act s5 now done).Ensures fun t d' =>
      ∃ u, motion t = ⟨.heartbeat true, ()⟩ :: u ∧ Outcome (d.cue s5 done) d u d' := by
  simp only [act, call, ensures_bind, ensures_perform]
  intro x
  cases s5 with
  | false =>
    refine (advance_refines hr (ho rfl)).mono fun t d' h => ?_
    exact ⟨motion t, rfl, h⟩
  | true =>
    rw [if_pos rfl, ensures_bind]
    refine (obstacleControl_ensures rfl).mono fun t r h => ?_
    obtain ⟨b, m⟩ := r
    cases b with
    | true =>
      refine ensures_pure.2 ⟨motion t, ?_, h.1 rfl⟩
      rw [List.append_nil]
      rfl
    | false =>
      have ht : motion t = [] := (h.2 rfl).1
      have hg : d.Glance m := (h.2 rfl).2.1
      have hod : d.obstacleActive = false := (h.2 rfl).2.2
      have hstate : m.state = d.state := congrArg Core.state hg.core
      have hrm : m.running := by rwa [running, hstate]
      have hom : m.obstacleActive = false := (congrArg Core.obstacleActive hg.core).trans hod
      refine (advance_refines hrm hom).mono fun t' d' h' => ⟨motion t', ?_, ?_⟩
      · rw [motion_append, motion_append, ht]
        rfl
      · rw [hg.cue_eq true done]
        exact h'.of_glance hg

end Drive

end Refinement

end RoboticCar.Driving
