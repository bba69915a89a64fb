import RoboticCar.Integration.Priority
import RoboticCar.Operator.Safety

/-!
# Replies to the panel

The panel takes the first status with another `command_sequence` than at its request as the reply.
`Session` is the panel with its poll under way, the robot and the register of its desk.

A result that is counted for somebody else after the status was read, or while the panel waits, is
taken for its own (`foreign_reply`).  Otherwise (`Careful`) the reply is the panel's
(`replies_own`): `Outstanding` says where its request is meanwhile.
-/

namespace RoboticCar.Operator

open Lib Integration Prog

/-! ## What a poll leaves the panel waiting for -/

def Phase.Waits : Phase → Prop
  | .calCollect | .calApply | .reset | .start => True
  | _ => False

namespace Panel

def Waiting (op : Panel) : Prop := op.awaitingReply = true → op.phase.Waits

theorem Waiting.of_not {op : Panel} (h : op.awaitingReply = false) : op.Waiting := fun h' =>
  absurd (h.symm.trans h') nofun

/-- A phase goes on waiting for the same reply, or waits for that to the one request it has sent. -/
def Asks (op : Panel) (st : Status) (t : List PanelEvent) (op' : Panel) : Prop :=
  op'.Waiting ∧
    (submits t = [] ∧
        (op'.awaitingReply = true → op.awaitingReply = true ∧ op'.sequence = op.sequence) ∨
      ∃ r accepted, r.kind ≠ .stop ∧ submits t = [(r, accepted)] ∧ op'.awaitingReply = accepted ∧
        (accepted = true → op'.sequence = st.commandSequence))

variable {op : Panel} {now : UInt32} {go : Press} {st : Status} {t : List PanelEvent}

theorem Asks.settle {op' : Panel} (ht : submits t = []) (h : op'.awaitingReply = false) :
    op.Asks st t op' :=
  ⟨.of_not h, .inl ⟨ht, fun h' => absurd (h.symm.trans h') nofun⟩⟩

theorem Asks.keep {op' : Panel} (ht : submits t = []) (hw : op.Waiting)
    (hphase : op'.phase = op.phase) (ha : op'.awaitingReply = op.awaitingReply)
    (hs : op'.sequence = op.sequence) : op.Asks st t op' := by
  refine ⟨fun h => ?_, .inl ⟨ht, fun h => ⟨ha ▸ h, hs⟩⟩⟩
  rw [hphase]
  exact hw (ha ▸ h)

theorem Asks.sent {op' : Panel} {r : ControlRequest} {accepted : Bool} (hr : r.kind ≠ .stop)
    (ht : submits t = [(r, accepted)])
    (hyes : accepted →
      op'.awaitingReply ∧ op'.sequence = st.commandSequence ∧ op'.phase.Waits)
    (hno : accepted = false → op'.awaitingReply = false) : op.Asks st t op' := by
  cases accepted with
  | false => exact ⟨.of_not (hno rfl), .inr ⟨r, false, hr, ht, hno rfl, nofun⟩⟩
  | true =>
    obtain ⟨ha, hs, hw⟩ := hyes rfl
    exact ⟨fun _ => hw, .inr ⟨r, true, hr, ht, ha, fun _ => hs⟩⟩

theorem Waiting.not_awaiting (hw : op.Waiting) (h : ¬op.phase.Waits) :
    op.awaitingReply = false := by
  by_contra ha
  exact h (hw (by simpa using ha))

/-- **What a phase asks for**, whichever it is. -/
theorem act_asks (hw : op.Waiting) : (op.act now go st).Ensures (op.Asks st) := by
  refine (act_did op now go st).mono fun t op' h => ?_
  generalize hs : submits t = l at h
  cases h with
  | stays | shows | prompts => exact .keep hs hw rfl rfl rfl
  | refused _ _ hr => exact .sent hr.2 hs nofun fun _ => rfl
  | unapplied _ hr | unstarted _ _ hr => exact .sent (by simp [hr]) hs nofun fun _ => rfl
  | resets | applies | starts => exact .sent (by simp) hs (fun _ => ⟨rfl, rfl, trivial⟩) nofun
  | collects =>
    refine .sent ?_ hs (fun _ => ⟨rfl, rfl, trivial⟩) nofun
    split <;> nofun
  | _ => exact .settle hs rfl

/-- What a poll asks for: STOP first, then at most one other request. -/
structure Polled (op : Panel) (status : Option Status) (t : List PanelEvent) (op' : Panel)
    (stops sends : List (ControlRequest × Bool)) : Prop where
  submits : Operator.submits t = stops ++ sends
  only_stops : ∀ x ∈ stops, x.1.kind = .stop
  waiting : op'.Waiting
  asks : sends = [] ∧ (op'.awaitingReply = true →
      stops = [] ∧ op.awaitingReply = true ∧ op'.sequence = op.sequence) ∨
    ∃ r accepted st, status = some st ∧ r.kind ≠ .stop ∧ sends = [(r, accepted)] ∧
      op'.awaitingReply = accepted ∧ (accepted = true → op'.sequence = st.commandSequence)

theorem stopPressed_asks (op : Panel) (now : UInt32) (hw : op.Waiting) :
    (op.stopPressed now).Ensures fun t op' => Operator.submits t = [] ∧
      op'.awaitingReply = false := by
  unfold stopPressed
  cases hop : op.phase with
  | waitStatus | calPrompt | ready | run =>
    exact ensures_pure.2 ⟨rfl, hw.not_awaiting (by rw [hop]; exact id)⟩
  | calCollect | calApply | reset => exact ensures_pure.2 ⟨rfl, rfl⟩
  | countdown | start =>
    refine ensures_bind.2 (say_spec fun t ht => ensures_pure.2 ?_)
    exact ⟨by simpa using ht, rfl⟩

theorem stopButton_asks (hw : op.Waiting) (now : UInt32) (stopHeld : Bool) :
    (op.stopButton now stopHeld).Ensures fun t op' => op'.Waiting ∧
      (∀ x ∈ Operator.submits t, x.1.kind = .stop) ∧
      (op'.awaitingReply → Operator.submits t = [] ∧ op.awaitingReply ∧
        op'.sequence = op.sequence) := by
  refine ensures_ite.2 ⟨fun _ => ensures_ite.2 ⟨fun _ => ?_, fun _ => ?_⟩, fun _ => ?_⟩
  · exact ensures_pure.2 ⟨hw, nofun, fun h => ⟨rfl, h, rfl⟩⟩
  · refine ensures_bind.2 (ensures_perform.2 fun accepted => ?_)
    refine ensures_bind.2 (sayIf_spec fun t ht => ?_)
    refine ensures_bind.2 (sayIf_spec fun u hu => ?_)
    refine (stopPressed_asks _ now ?_).mono fun v op' ⟨hv, ha⟩ => ?_
    · exact hw
    refine ⟨.of_not ha, ?_, fun h => absurd (ha.symm.trans h) nofun⟩
    simp [ht, hu, hv]
  · exact ensures_pure.2 ⟨hw, nofun, fun h => ⟨rfl, h, rfl⟩⟩

theorem inhibited_asks (op : Panel) (go : Press) (stopHeld goHeld : Bool) :
    (op.inhibited go stopHeld goHeld).Ensures fun t r => Operator.submits t = [] ∧
      r.2.phase = op.phase ∧ r.2.awaitingReply = op.awaitingReply ∧
      r.2.sequence = op.sequence := by
  refine ensures_ite.2 ⟨fun _ => ?_, fun _ => ?_⟩
  · refine ensures_bind.2 (sayIf_spec fun t ht => ensures_pure.2 ?_)
    refine ⟨by simpa using ht, ?_⟩
    split_ifs <;> exact ⟨rfl, rfl, rfl⟩
  · exact ensures_pure.2 ⟨rfl, rfl, rfl, rfl⟩

/-- **What a poll asks for.** -/
theorem poll_asks (hw : op.Waiting) (p : Poll) :
    (op.poll p).Ensures fun t op' => ∃ stops sends, op.Polled p.status t op' stops sends := by
  refine ensures_bind.2 ((stopButton_asks hw p.now p.stopHeld).mono ?_)
  rintro t op₁ ⟨hw₁, hstops, hkeep⟩
  refine ensures_bind.2 ((inhibited_asks op₁ _ _ _).mono ?_)
  rintro u ⟨go, op₂⟩ ⟨hu, hphase, ha, hseq⟩
  have hw₂ : op₂.Waiting := fun h => hphase ▸ hw₁ (ha ▸ h)
  have hkeep₂ (h : op₂.awaitingReply) : Operator.submits t = [] ∧
      op.awaitingReply = true ∧ op₂.sequence = op.sequence := by
    obtain ⟨h₁, h₂, h₃⟩ := hkeep (ha ▸ h)
    exact ⟨h₁, h₂, hseq.trans h₃⟩
  cases hst : p.status with
  | none =>
    refine ensures_pure.2 ⟨Operator.submits t, [], ?_, hstops, hw₂, .inl ⟨rfl, hkeep₂⟩⟩
    simp [hu]
  | some st =>
    refine (act_asks hw₂).mono ?_
    rintro v op₃ ⟨hw₃, hasks⟩
    refine ⟨Operator.submits t, Operator.submits v, by simp [hu], hstops, hw₃, ?_⟩
    rcases hasks with ⟨hv, hk⟩ | ⟨r, accepted, hr, hv, hacc, hs⟩
    · refine .inl ⟨hv, fun h => ?_⟩
      obtain ⟨h₁, h₂, h₃⟩ := hkeep₂ (hk h).1
      exact ⟨h₁, h₂, (hk h).2.trans h₃⟩
    · exact .inr ⟨r, accepted, st, rfl, hr, hv, hacc, hs⟩

end Panel

/-! ## Where a request is until its result is shown -/

/-- The request `t` was accepted at `q` results, and nothing else since: it waits, is in hand, is a
RESET under way, or has its result, with which alone the status shows another sequence. -/
inductive Outstanding (s : Desk) (b : Register) (t : ℕ) (q : UInt32) : Prop
  | waiting (hstop : s.stop = false) (hw : b.waiting = some t) (ht : s.taken = none)
      (hr : s.resetWaiting = false) (hs : s.sequence = q) (hq : s.status.commandSequence = q)
  | held (hstop : s.stop = false) (hp : s.pending = false) (hh : b.held = some t)
      (hr : s.resetWaiting = false) (hs : s.sequence = q) (hq : s.status.commandSequence = q)
  | resetting (hstop : s.stop = false) (hp : s.pending = false) (ht : s.taken = none)
      (hr : b.resetting = some t) (hs : s.sequence = q) (hq : s.status.commandSequence = q)
  | done (hstop : s.stop = false) (hp : s.pending = false) (ht : s.taken = none)
      (hr : s.resetWaiting = false) (hs : s.sequence = q + 1) (hm : (some t, s.ok) ∈ b.results)
      (hq : s.status.commandSequence = q ∨
        s.status.commandSequence = q + 1 ∧ s.status.commandOk = s.ok)

namespace Outstanding

variable {s : Desk} {b : Register} {t : ℕ} {q : UInt32}

theorem shown (h : Outstanding s b t q) (hq : s.status.commandSequence ≠ q) :
    (some t, s.status.commandOk) ∈ b.results := by
  cases h with
  | waiting _ _ _ _ _ hq' | held _ _ _ _ _ hq' | resetting _ _ _ _ _ hq' => exact absurd hq' hq
  | done _ _ _ _ _ hm hq' =>
    obtain ⟨-, hok⟩ := hq'.resolve_left hq
    exact hok ▸ hm

theorem move (h : Outstanding s b t q) (stage : Desk.Stage) (resetPending ready : Bool)
    {status : Status} (hst : status = s.status ∨
      status.commandSequence = s.sequence ∧ status.commandOk = s.ok) :
    Outstanding { s with
      stage := stage, resetPending := resetPending, status := status, statusReady := ready }
      b t q := by
  have hsame (hq : s.status.commandSequence = q) (hs : s.sequence = q) :
      status.commandSequence = q := by
    rcases hst with rfl | ⟨hst, -⟩
    · exact hq
    · exact hst.trans hs
  cases h with
  | waiting hstop hw ht hr hs hq => exact .waiting hstop hw ht hr hs (hsame hq hs)
  | held hstop hp hh hr hs hq => exact .held hstop hp hh hr hs (hsame hq hs)
  | resetting hstop hp ht hr hs hq => exact .resetting hstop hp ht hr hs (hsame hq hs)
  | done hstop hp ht hr hs hm hq =>
    refine .done hstop hp ht hr hs hm ?_
    rcases hst with rfl | ⟨hst, hok⟩
    · exact hq
    · exact .inr ⟨hst.trans hs, hok⟩

theorem accept {r : ControlRequest} (hr : r.kind ≠ .stop) (ha : (s.submit r).1 = true)
    (ht : s.taken = none) (hw : s.resetWaiting = false) (hs : s.sequence = q)
    (hq : s.status.commandSequence = q) :
    Outstanding (s.act (.submit r)) (b.next s (.submit r)) b.accepted.length q := by
  have hwait : (b.next s (.submit r)).waiting = some b.accepted.length := by
    rw [Register.next, if_pos ha]
    exact if_neg hr
  have hc := s.submit_cases r
  dsimp only [Desk.act]
  generalize s.submit r = x at hc ha ⊢
  cases hc with
  | refused => cases ha
  | stop hstop => exact absurd hstop hr
  | command _ _ _ hstop => exact .waiting hstop hwait ht hw hs hq

theorem found_eq_none (hstop : s.stop = false) (hp : s.pending = false) : s.found = none := by
  simp [Desk.found, hstop, hp]

/-- **An outstanding request stays so** until another one is accepted. -/
theorem step (h : Outstanding s b t q) (hk : s.Kept b) {a : Block} (hready : s.Ready a)
    (hno : ∀ r, a = .submit r → (s.submit r).1 = false) :
    Outstanding (s.act a) (b.next s a) t q := by
  cases a with
  | submit r =>
    have hr := hno r rfl
    have hc := s.submit_cases r
    rw [Register.next, hr]
    dsimp only [Desk.act]
    generalize s.submit r = x at hc hr ⊢
    cases hc with
    | refused => exact h
    | stop | command => cases hr
  | take =>
    have hnone : s.taken = none := by
      by_contra hne
      exact (hk.inHand hne).1 hready
    cases h with
    | waiting hstop hw _ hr hs hq =>
      refine .held rfl rfl ?_ hr hs hq
      rw [Register.next, hstop]
      exact hw
    | held _ _ hh => exact absurd hnone (hk.held_iff.1 (by simp [hh])).1
    | resetting hstop hp _ hr hs hq => exact .resetting rfl rfl (found_eq_none hstop hp) hr hs hq
    | done hstop hp _ hr hs hm hq =>
      exact .done rfl rfl (found_eq_none hstop hp) hr hs hm hq
  | stop =>
    obtain ⟨-, hst⟩ := hready
    have htaken (ht : s.taken = none) : False := by
      rw [Desk.Holds, ht] at hst
      cases hst
    cases h with
    | held _ _ hh => exact absurd hst (hk.held_iff.1 (by simp [hh])).2
    | waiting _ _ ht | resetting _ _ ht | done _ _ ht => exact (htaken ht).elim
  | sample reset =>
    cases hres : s.resetDone reset with
    | none =>
      simp only [Desk.act, Register.next, hres]
      exact h.move _ _ _ (.inl rfl)
    | some =>
      have hwait : s.resetWaiting := by
        by_contra hr
        simp [Desk.resetDone, hr] at hres
      simp only [Desk.act, Register.next, hres]
      cases h with
      | resetting hstop hp ht hr hs hq =>
        refine .done hstop hp ht rfl (by rw [← hs]; rfl) ?_ (.inl hq)
        rw [hr]
        exact List.mem_append_right _ List.mem_cons_self
      | waiting _ _ _ hr | held _ _ _ hr | done _ _ _ hr =>
        cases hr.symm.trans hwait
  | finish =>
    obtain ⟨-, htaken⟩ := hready
    cases h with
    | held hstop hp hh hr hs hq =>
      refine .done hstop hp rfl hr (by rw [← hs]; rfl) ?_ (.inl hq)
      simp only [Register.next, hh]
      exact List.mem_append_right _ List.mem_cons_self
    | waiting _ _ ht | resetting _ _ ht | done _ _ ht => exact absurd ht htaken
  | wait =>
    obtain ⟨-, hres⟩ := hready
    have htaken (ht : s.taken = none) : False := by
      rw [Desk.Holds, ht] at hres
      cases hres
    cases h with
    | held hstop hp hh hr hs hq => exact .resetting hstop hp rfl hh hs hq
    | waiting _ _ ht | resetting _ _ ht | done _ _ ht => exact (htaken ht).elim
  | publish packed =>
    cases packed with
    | false => exact h.move _ _ _ (.inl rfl)
    | true => exact h.move _ _ _ (.inr ⟨rfl, rfl⟩)
  | pass | completed | idle | finished => exact h.move _ _ _ (.inl rfl)

end Outstanding

variable {F D : Type} {B : Navigation.BarcodeReaders}

/-- A poll under way: its input, the calls made, what is left of it, and its accepted request. -/
structure Underway where
  given : Poll
  calls : List PanelEvent
  rest : PanelM Panel
  asked : Option ℕ

def Underway.of (op : Panel) (given : Poll) : Underway := ⟨given, [], op.poll given, none⟩

structure Session (F D : Type) (B : Navigation.BarcodeReaders) where
  robot : Robot F D B
  register : Register
  panel : Panel
  poll : Option Underway
  /-- the last accepted request of the panel's other than STOP -/
  ours : Option ℕ

inductive Move (F D : Type)
  /-- a block of the sampling owner, of the network or of another caller -/
  | world (a : Deed F D)
  /-- the panel reads the clock, the buttons and the status -/
  | begins (now : UInt32) (go : Press) (stopHeld goHeld : Bool)
  | prints (m : Message)
  | submits (r : ControlRequest)
  | returns

namespace Session

/-- `s3_integration_status`. -/
def shown (s : Session F D B) : Option Status :=
  if s.robot.desk.statusReady then some s.robot.desk.status else none

def boot (status : Status) (d : Driving.Drive F D B) : Session F D B :=
  ⟨.boot status d, .empty, {}, none, none⟩

variable [CFloat F] [CFloat D] [CDouble F D]

inductive Step (s5 : Bool) (s : Session F D B) : Move F D → Session F D B → Prop
  | world {a : Deed F D} {x : Robot F D B × Register}
      (h : Robot.Watched s5 (s.robot, s.register) a x) :
      Step s5 s (.world a) { s with robot := x.1, register := x.2 }
  | begins {now : UInt32} {go : Press} {stopHeld goHeld : Bool} (hp : s.poll = none) :
      Step s5 s (.begins now go stopHeld goHeld)
        { s with poll := some (.of s.panel ⟨now, go, stopHeld, goHeld, s.shown⟩) }
  | prints {u : Underway} {m : Message} {k : Unit → PanelM Panel} (hp : s.poll = some u)
      (hr : u.rest = .call (.say m) k) :
      Step s5 s (.prints m)
        { s with
          poll := some { u with calls := u.calls ++ [⟨.say m, ()⟩], rest := k () } }
  | submits {u : Underway} {r : ControlRequest} {k : Bool → PanelM Panel}
      (hp : s.poll = some u) (hr : u.rest = .call (.submit r) k) :
      Step s5 s (.submits r)
        { s with
          robot := { s.robot with desk := s.robot.desk.act (.submit r) }
          register := s.register.next s.robot.desk (.submit r)
          poll := some {
            u with
            calls := u.calls ++ [⟨.submit r, (s.robot.desk.submit r).1⟩]
            rest := k (s.robot.desk.submit r).1
            asked := if r.kind ≠ .stop ∧ (s.robot.desk.submit r).1 then
              some s.register.accepted.length else u.asked } }
  | returns {u : Underway} {op : Panel} (hp : s.poll = some u) (hr : u.rest = .ret op) :
      Step s5 s .returns { s with panel := op, poll := none, ours := u.asked.or s.ours }

/-- The panel waits for a reply, or the poll under way has made it wait for one. -/
def Expects (s : Session F D B) : Prop :=
  s.panel.awaitingReply = true ∨ ∃ u, s.poll = some u ∧ u.asked ≠ none

/-- While the panel expects a reply nothing else is accepted, and its request finds nothing in hand
and nothing counted since the status of the poll. -/
def Careful (s : Session F D B) : Move F D → Prop
  | .world (.submit r) => (s.robot.desk.submit r).1 = true → ¬s.Expects
  | .submits r => r.kind ≠ .stop → (s.robot.desk.submit r).1 = true →
      s.robot.desk.taken = none ∧ s.robot.desk.resetWaiting = false ∧
      ∀ u st, s.poll = some u → u.given.status = some st →
        s.robot.desk.sequence = st.commandSequence ∧
        s.robot.desk.status.commandSequence = st.commandSequence
  | _ => True

/-! ## The invariant -/

/-- The panel's request is outstanding since the sequence `q`. -/
def Owed (s : Session F D B) (own : Option ℕ) (q : UInt32) : Prop :=
  ∃ t, own = some t ∧ Outstanding s.robot.desk s.register t q

structure Fits (s : Session F D B) (u : Underway) : Prop where
  leads : (s.panel.poll u.given).Leads u.calls u.rest
  /-- the accepted request of its own is the one noted -/
  asked_iff : (∃ r, (r, true) ∈ submits u.calls ∧ r.kind ≠ .stop) ↔ u.asked ≠ none
  owed : u.asked ≠ none → ∀ st, u.given.status = some st → s.Owed u.asked st.commandSequence
  /-- until it calls, the panel is as before -/
  waits : submits u.calls = [] → s.panel.awaitingReply = true → s.Owed s.ours s.panel.sequence

structure Honest (s5 : Bool) (s : Session F D B) : Prop where
  sound : s.robot.Sound s5 s.register
  waiting : s.panel.Waiting
  idle : s.poll = none → s.panel.awaitingReply = true → s.Owed s.ours s.panel.sequence
  underway : ∀ u, s.poll = some u → s.Fits u

variable {s5 : Bool} {s s' : Session F D B} {u : Underway} {own : Option ℕ} {q : UInt32}

theorem owner_ne_submit {x y : Robot F D B} {block : Option Block} {calls : List (Driving.Made F D)}
    (h : Robot.Step s5 x (.owner block calls) y) (r : ControlRequest) :
    block ≠ some (.submit r) := by
  rintro rfl
  generalize ha : Deed.owner (some (.submit r)) calls = a at h
  cases h with
  | quiet hb =>
    cases ha
    cases hb
  | @unmapped _ newly | @unstarted _ newly | @unbegun newly => cases newly <;> cases ha
  | _ => cases ha

theorem Owed.world (h : s.Owed own q) (hs : s.robot.Sound s5 s.register) {a : Deed F D}
    {x : Robot F D B × Register} (hx : Robot.Watched s5 (s.robot, s.register) a x)
    (hc : s.Careful (.world a)) (he : s.Expects) :
    Owed { s with robot := x.1, register := x.2 } own q := by
  obtain ⟨t, ht, ho⟩ := h
  refine ⟨t, ht, ?_⟩
  obtain ⟨hstep, hreg⟩ := hx
  obtain ⟨hdesk, hready⟩ := hstep.desk hs.start
  rw [hreg, hdesk]
  cases hb : a.block with
  | none => exact ho
  | some blk =>
    refine ho.step hs.kept (hready blk hb) fun r hr => ?_
    subst hr
    cases a with
    | submit =>
      cases hb
      by_contra hacc
      exact hc (by simpa using hacc) he
    | network => cases hb
    | owner => exact absurd hb (owner_ne_submit hstep r)

omit [CFloat F] [CFloat D] [CDouble F D] in
theorem Fits.last (h : s.Fits u) (hw : s.panel.Waiting) {r : ControlRequest}
    {k : Bool → PanelM Panel} (hr : u.rest = .call (.submit r) k) :
    (∀ x ∈ submits u.calls, x.1.kind = .stop) ∧
      (r.kind ≠ .stop → ∃ st, u.given.status = some st) := by
  obtain ⟨v, op, hv⟩ := exists_yields (fun c => by cases c <;> exact ⟨default⟩) (k true)
  have hy : (s.panel.poll u.given).Yields (u.calls ++ ⟨.submit r, true⟩ :: v) op :=
    h.leads.append (hr ▸ .cons hv)
  obtain ⟨stops, sends, hp⟩ := Panel.poll_asks hw u.given _ _ hy
  have hsub : submits u.calls ++ (r, true) :: submits v = stops ++ sends := by
    simpa using hp.submits
  rcases hp.asks with ⟨rfl, -⟩ | ⟨r', acc, st, hst, hne, rfl, -⟩
  · have hall (x : ControlRequest × Bool) (hx : x ∈ submits u.calls ++ (r, true) :: submits v) :
        x.1.kind = .stop := by
      rw [hsub, List.append_nil] at hx
      exact hp.only_stops x hx
    exact ⟨fun x hx => hall x (List.mem_append_left _ hx),
      fun hne => absurd (hall (r, true) (by simp)) hne⟩
  · refine ⟨fun x hx => ?_, fun _ => ⟨st, hst⟩⟩
    have hpre : submits u.calls <+: stops := by
      rcases List.prefix_or_prefix_of_prefix
        (⟨_, hsub⟩ : submits u.calls <+: stops ++ [(r', acc)]) (List.prefix_append _ _) with hp | hp
      · exact hp
      · have hlen := congrArg List.length hsub
        simp only [List.length_append, List.length_cons, List.length_nil] at hlen
        have := hp.length_le
        exact (hp.eq_of_length (by omega)) ▸ List.prefix_rfl
    exact hp.only_stops x (hpre.subset hx)

/-- The robot's own careful step is honest. -/
theorem Honest.world (h : s.Honest s5) {a : Deed F D} {x : Robot F D B × Register}
    (hx : Robot.Watched s5 (s.robot, s.register) a x) (hc : s.Careful (.world a)) :
    Honest s5 { s with robot := x.1, register := x.2 } where
  sound := hx.2 ▸ h.sound.step hx.1
  waiting := h.waiting
  idle hp ha := (h.idle hp ha).world h.sound hx hc (.inl ha)
  underway u hu :=
    { h.underway u hu with
      owed := fun ha st hst =>
        ((h.underway u hu).owed ha st hst).world h.sound hx hc (.inr ⟨u, hu, ha⟩)
      waits := fun hn ha => ((h.underway u hu).waits hn ha).world h.sound hx hc (.inl ha) }

/-- So is a submission. -/
theorem Honest.submits (h : s.Honest s5) {r : ControlRequest} (hstep : Step s5 s (.submits r) s')
    (hc : s.Careful (.submits r)) : Honest s5 s' := by
  generalize hm : Move.submits r = m at hstep
  cases hstep with
  | world | begins | prints | returns => cases hm
  | @submits u r _ hp hr =>
    cases hm
    have hfit := h.underway u hp
    obtain ⟨hstops, hgiven⟩ := hfit.last h.waiting hr
    have hnone : u.asked = none := by
      by_contra hne
      obtain ⟨r', hr', hk⟩ := hfit.asked_iff.2 hne
      exact hk (hstops _ hr')
    refine ⟨h.sound.step (.submit r), h.waiting, nofun, ?_⟩
    rintro _ ⟨⟩
    refine ⟨hfit.leads.append (hr ▸ .cons (.nil _)), ?_, fun ha st hst => ?_, fun hn => ?_⟩
    · simp only [submits_append, submits_submit, submits_nil, List.mem_append, List.mem_singleton,
        Prod.mk.injEq]
      split_ifs with hown
      · exact iff_of_true ⟨r, .inr ⟨rfl, hown.2.symm⟩, hown.1⟩ nofun
      · refine iff_of_false ?_ (not_not.2 hnone)
        rintro ⟨r', hr' | ⟨rfl, hacc⟩, hk⟩
        · exact hk (hstops _ hr')
        · exact hown ⟨hk, hacc.symm⟩
    · dsimp only at ha hst ⊢
      split_ifs at ha ⊢ with hown
      · obtain ⟨ht, hw, hseq⟩ := hc hown.1 hown.2
        obtain ⟨hs, hq⟩ := hseq u st hp hst
        exact ⟨_, rfl, .accept hown.1 hown.2 ht hw hs hq⟩
      · exact absurd hnone ha
    · simp at hn

omit [CFloat F] [CFloat D] [CDouble F D] in
/-- So is the end of a poll. -/
theorem Honest.returns (h : s.Honest s5) {op : Panel} (hp : s.poll = some u)
    (hr : u.rest = .ret op) :
    Honest s5 { s with panel := op, poll := none, ours := u.asked.or s.ours } := by
  have hfit := h.underway u hp
  have hy : (s.panel.poll u.given).Yields u.calls op := by
    have hleads := hfit.leads
    rw [hr] at hleads
    exact hleads
  obtain ⟨stops, sends, hpolled⟩ := Panel.poll_asks h.waiting u.given _ _ hy
  refine ⟨h.sound, hpolled.waiting, fun _ ha => ?_, nofun⟩
  rcases hpolled.asks with ⟨rfl, hkeep⟩ | ⟨r, acc, st, hst, hne, rfl, hacc, hseq⟩
  · -- nothing was called
    obtain ⟨rfl, hwait, hsame⟩ := hkeep ha
    have hnil : Operator.submits u.calls = [] := hpolled.submits
    have hnone : u.asked = none := by
      by_contra hne
      obtain ⟨r, hr, -⟩ := hfit.asked_iff.2 hne
      rw [hnil] at hr
      cases hr
    rw [hnone, hsame]
    exact hfit.waits hnil hwait
  · -- the request that the panel waits for is the one noted
    obtain rfl : acc = true := hacc.symm.trans ha
    have hasked : u.asked ≠ none :=
      hfit.asked_iff.1 ⟨r, by rw [hpolled.submits]; simp, hne⟩
    obtain ⟨t, ht, ho⟩ := hfit.owed hasked st hst
    rw [hseq rfl, ht]
    exact ⟨t, rfl, ho⟩

/-- **Every careful step keeps the panel's replies its own.** -/
theorem Honest.step (h : s.Honest s5) {m : Move F D} (hstep : Step s5 s m s')
    (hc : s.Careful m) : Honest s5 s' := by
  cases hstep with
  | world hx => exact h.world hx hc
  | begins hp =>
    refine ⟨h.sound, h.waiting, nofun, ?_⟩
    rintro _ ⟨⟩
    refine ⟨.nil _, ?_, fun hne => absurd rfl hne, fun _ ha => h.idle hp ha⟩
    exact iff_of_false (fun ⟨_, hr, _⟩ => absurd hr List.not_mem_nil) fun hne => hne rfl
  | @prints u _ _ hp hr =>
    have hfit := h.underway u hp
    refine ⟨h.sound, h.waiting, nofun, ?_⟩
    rintro _ ⟨⟩
    refine ⟨hfit.leads.append (hr ▸ .cons (.nil _)), ?_, hfit.owed, fun hn => hfit.waits ?_⟩
    · simpa using hfit.asked_iff
    · simpa using hn
  | submits hp hr => exact h.submits (.submits hp hr) hc
  | returns hp hr => exact h.returns hp hr

theorem Honest.boot {config : Navigation.NavConfig F D} {d₀ d : Driving.Drive F D B}
    {c : List (Driving.Made F D)} (h₀ : Driving.Drive.init config = some d₀)
    (hc : ∀ m ∈ c, m.op.configures) (hd : Driving.Runs s5 d₀ c d) (status : Status) :
    Honest s5 (boot status d) :=
  ⟨.boot h₀ hc hd status, .of_not rfl, fun _ => nofun, nofun⟩

def CarefulStep (s5 : Bool) (s : Session F D B) (m : Move F D) (s' : Session F D B) : Prop :=
  Step s5 s m s' ∧ s.Careful m

/-- **A reply is the panel's own.**  In every run of careful steps a status that the panel takes for
a reply shows the result that the owner counted for the panel's last accepted request. -/
theorem replies_own {config : Navigation.NavConfig F D} {d₀ d : Driving.Drive F D B}
    {c : List (Driving.Made F D)} (h₀ : Driving.Drive.init config = some d₀)
    (hc : ∀ m ∈ c, m.op.configures = true) (hd : Driving.Runs s5 d₀ c d) (status : Status)
    {l : List (Move F D)} (hl : Run.Path (CarefulStep s5) (boot status d) l s)
    (hp : s.poll = none) {st : Status} (hst : s.shown = some st) {ok : Bool}
    (hr : s.panel.replied st = some ok) :
    ∃ t, s.ours = some t ∧ (some t, ok) ∈ s.register.results := by
  have h : s.Honest s5 := hl.invariant (I := Honest s5)
    (fun _ _ _ h hstep => h.step hstep.1 hstep.2) (.boot h₀ hc hd status)
  have hshown : s.robot.desk.status = st := by
    unfold shown at hst
    split_ifs at hst
    exact Option.some.inj hst
  subst hshown
  unfold Panel.replied at hr
  split_ifs at hr with hcond
  obtain ⟨ha, hq⟩ : s.panel.awaitingReply = true ∧
      s.robot.desk.status.commandSequence ≠ s.panel.sequence := by simpa using hcond
  obtain ⟨t, ht, ho⟩ := h.idle hp ha
  exact ⟨t, ht, Option.some.inj hr ▸ ho.shown hq⟩

/-! ## A bench -/

section Bench

open Driving

abbrev BenchSession := Session ℚ ℚ benchReaders

inductive Beat
  /-- a block of the owner that only moves the desk -/
  | owner (b : Block)
  | sample
  /-- a START is refused, since the terrain monitor is not ready -/
  | refuse
  /-- a whole poll -/
  | poll (now : UInt32) (go : Press)
  /-- another caller -/
  | other (r : ControlRequest)

def answer (c : PanelCall) (x : Desk × Register × Option ℕ) :
    c.Answer × Desk × Register × Option ℕ :=
  match c with
  | .say _ => ((), x)
  | .submit r => ((x.1.submit r).1, x.1.act (.submit r), x.2.1.next x.1 (.submit r),
      if r.kind ≠ .stop ∧ (x.1.submit r).1 then some x.2.1.accepted.length else x.2.2)

def answered (s : BenchSession) (rest : PanelM Panel) (asked : Option ℕ) : BenchSession :=
  let x := rest.run answer (s.robot.desk, s.register, asked)
  ⟨{ s.robot with desk := x.2.2.1 }, x.2.2.2.1, x.2.1, none, x.2.2.2.2.or s.ours⟩

def fed (d : Drive ℚ ℚ benchReaders) : Made ℚ ℚ × Drive ℚ ℚ benchReaders :=
  obligedCall false d (.process (some (benchFrame 0 0 0)) (some (benchFeedback 0 .idle 0))) []

def moved (s : BenchSession) (b : Block) : BenchSession :=
  { s with
    robot := { s.robot with desk := s.robot.desk.act b }
    register := s.register.next s.robot.desk b }

def play (s : BenchSession) : Beat → BenchSession
  | .owner b => s.moved b
  | .sample =>
    let s' := s.moved (.sample (resetOf (fed s.robot.drive).2))
    { s' with robot := { s'.robot with
      drive := (fed s.robot.drive).2
      collection := s'.robot.collection.sampled (benchFrame 0 0 0) } }
  | .refuse => s.moved (.finish false)
  | .poll now go => s.answered (s.panel.poll ⟨now, go, false, false, s.shown⟩) none
  | .other r => s.moved (.submit r)

/-- The owner has nothing in hand and has counted nothing that is not shown. -/
def calm (desk : Desk) : Bool :=
  desk.taken.isNone && !desk.resetWaiting && desk.sequence == desk.status.commandSequence

/-- The beat is possible; a careful one has no other caller and polls a calm desk. -/
def playable (careful : Bool) (s : BenchSession) : Beat → Bool
  | .owner b => b.isQuiet && decide (s.robot.desk.Ready b)
  | .sample => decide (s.robot.desk.stage = .sampling)
  | .refuse => decide (s.robot.starting = .idle) &&
      decide (s.robot.desk.stage = .executing) && decide (s.robot.desk.Holds .start)
  | .poll _ _ => s.poll.isNone && (!careful || calm s.robot.desk)
  | .other _ => !careful

def playableAll (careful : Bool) : BenchSession → List Beat → Bool
  | _, [] => true
  | s, b :: l => playable careful s b && playableAll careful (s.play b) l

section Playing

variable {careful : Bool} {R : BenchSession → Move ℚ ℚ → BenchSession → Prop}

theorem answered_run (hR : ∀ s m s', Step false s m s' → (careful → s.Careful m) → R s m s')
    {rest : PanelM Panel} : ∀ {s : BenchSession} {u : Underway}, s.poll = some u → u.rest = rest →
      (careful → calm s.robot.desk ∧
        ∀ st, u.given.status = some st →
          st.commandSequence = s.robot.desk.status.commandSequence) →
      ∃ l, Run.Path R s l (s.answered rest u.asked) := by
  induction rest with
  | ret =>
    intro s u hp hr _
    exact ⟨_, .snoc .nil (hR _ _ _ (.returns hp hr) fun _ => trivial)⟩
  | call c k ih =>
    intro s u hp hr hcalm
    cases c with
    | say m =>
      obtain ⟨l, hl⟩ := ih () (s := { s with poll := some {
        u with calls := u.calls ++ [⟨.say m, ()⟩], rest := k () } }) rfl rfl hcalm
      exact ⟨_, .append (.snoc .nil (hR _ _ _ (.prints hp hr) fun _ => trivial)) hl⟩
    | submit r =>
      have hstep : Step false s (.submits r) _ := .submits hp hr
      have hcare (hc : careful) : s.Careful (.submits r) := by
        obtain ⟨hcalm, hseen⟩ := hcalm hc
        simp only [calm, Bool.and_eq_true, Option.isNone_iff_eq_none, Bool.not_eq_true',
          beq_iff_eq] at hcalm
        intro _ _
        refine ⟨hcalm.1.1, hcalm.1.2, fun u' st hu' hst => ?_⟩
        obtain rfl : u = u' := Option.some.inj (hp.symm.trans hu')
        rw [hseen st hst]
        exact ⟨hcalm.2, rfl⟩
      have hcalm' (hc : careful) : calm (s.robot.desk.act (.submit r)) = true ∧
          ∀ st, u.given.status = some st →
            st.commandSequence = (s.robot.desk.act (.submit r)).status.commandSequence := by
        have hcases := s.robot.desk.submit_cases r
        have hcalm := hcalm hc
        dsimp only [Desk.act]
        generalize s.robot.desk.submit r = x at hcases ⊢
        cases hcases <;> exact hcalm
      obtain ⟨l, hl⟩ := ih (s.robot.desk.submit r).1 (s := {
        s with
        robot := { s.robot with desk := s.robot.desk.act (.submit r) }
        register := s.register.next s.robot.desk (.submit r)
        poll := some {
          u with
          calls := u.calls ++ [⟨.submit r, (s.robot.desk.submit r).1⟩]
          rest := k (s.robot.desk.submit r).1
          asked := if r.kind ≠ .stop ∧ (s.robot.desk.submit r).1 then
            some s.register.accepted.length else u.asked } }) rfl rfl hcalm'
      exact ⟨_, .append (.snoc .nil (hR _ _ _ hstep hcare)) hl⟩

theorem play_run (hR : ∀ s m s', Step false s m s' → (careful → s.Careful m) → R s m s')
    {s : BenchSession} {b : Beat} (h : playable careful s b) :
    ∃ l, Run.Path R s l (s.play b) := by
  have hworld {a : Deed ℚ ℚ} {robot : Robot ℚ ℚ benchReaders}
      (hx : Robot.Step false s.robot a robot) (hc : careful = true → s.Careful (.world a)) :
      ∃ l, Run.Path R s l
        { s with robot := robot, register := s.register.after s.robot.desk a.block } :=
    ⟨_, .snoc .nil (hR _ _ _ (.world (x := (robot, _)) ⟨hx, rfl⟩) hc)⟩
  cases b with
  | owner =>
    obtain ⟨hb, hready⟩ := Bool.and_eq_true_iff.1 h
    exact hworld (.quiet hb (of_decide_eq_true hready)) fun _ => trivial
  | sample =>
    exact hworld (.sample (of_decide_eq_true h) (List.forall_mem_nil _) .nil rfl
      (step_obligedCall false _ _ [])) fun _ => trivial
  | refuse =>
    simp only [playable, Bool.and_eq_true, decide_eq_true_eq] at h
    obtain ⟨r, hr, hk⟩ := Option.map_eq_some_iff.1 h.2
    have hx : s.robot.Executes false 0 r [] (some false) s.robot :=
      .startIneligible hk (show s.robot.eligible false 0 = false from rfl)
    exact hworld (.finish h.1.1 h.1.2 hr hx) fun _ => trivial
  | poll now go =>
    simp only [playable, Bool.and_eq_true, Option.isNone_iff_eq_none] at h
    have hbegin : Step false s (.begins now go false false) _ := .begins h.1
    have hcalm (hc : careful) : calm s.robot.desk = true ∧ ∀ st, s.shown = some st →
        st.commandSequence = s.robot.desk.status.commandSequence := by
      refine ⟨by simpa [hc] using h.2, fun st hst => ?_⟩
      unfold shown at hst
      split_ifs at hst
      rw [Option.some.inj hst]
    obtain ⟨l, hl⟩ := answered_run hR
      (s := { s with poll := some (.of s.panel ⟨now, go, false, false, s.shown⟩) }) rfl rfl hcalm
    exact ⟨_, .append (.snoc .nil (hR _ _ _ hbegin fun _ => trivial)) hl⟩
  | other r =>
    have hno : careful ≠ true := by simpa [playable] using h
    exact hworld (.submit r) fun hc => absurd hc hno

theorem playableAll_run
    (hR : ∀ s m s', Step false s m s' → (careful → s.Careful m) → R s m s')
    {b : List Beat} : ∀ {s : BenchSession}, playableAll careful s b →
      ∃ l, Run.Path R s l (b.foldl play s) := by
  induction b with
  | nil => exact fun _ => ⟨_, .nil⟩
  | cons b bs ih =>
    intro s h
    obtain ⟨hb, hbs⟩ := Bool.and_eq_true_iff.1 h
    obtain ⟨l, hl⟩ := play_run hR hb
    obtain ⟨l', hl'⟩ := ih hbs
    exact ⟨_, hl.append hl'⟩

end Playing

/-- The bench at power-up, and what its owner shows: everything is calibrated. -/
def benchShown : Status := ⟨.off, 0, false, false, .barcode, 7⟩

def bench : BenchSession := boot benchShown benchDrive

/-- An empty cycle of the owner and three polls; the third finds the countdown over. -/
def benchPrompt : List Beat :=
  [.owner .take, .owner .pass, .sample, .owner .idle, .owner (.publish true benchShown),
    .poll 0 .none, .poll 10 .short]

def benchRefusal : List Beat :=
  [.owner .pass, .sample, .refuse, .owner (.publish true benchShown)]

def benchOwn : List Beat := benchPrompt ++ [.poll 3010 .none, .owner .take] ++ benchRefusal

def benchAnswered : BenchSession := benchOwn.foldl play bench

/-- The panel is told that its START was refused, and it was. -/
theorem replies_own_bench :
    benchAnswered.shown.isSome = true ∧
    benchAnswered.panel.replied benchAnswered.robot.desk.status = some false ∧
    ∃ t, benchAnswered.ours = some t ∧ (some t, false) ∈ benchAnswered.register.results := by
  have hshown : benchAnswered.shown = some benchAnswered.robot.desk.status :=
    if_pos (by decide +kernel)
  have hreplied : benchAnswered.panel.replied benchAnswered.robot.desk.status = some false := by
    decide +kernel
  obtain ⟨l, hl⟩ := playableAll_run (R := CarefulStep false) (fun _ _ _ h hc => ⟨h, hc rfl⟩)
    (show playableAll true bench benchOwn = true by decide +kernel)
  refine ⟨by rw [hshown]; rfl, hreplied, ?_⟩
  exact replies_own init_benchConfig (List.forall_mem_nil _) .nil benchShown hl
    (by decide +kernel) hshown hreplied

/-- Another START is in hand when the panel reads the status and sends its own. -/
def benchOther : List Beat :=
  benchPrompt ++ [.other { kind := .start }, .owner .take, .poll 3010 .none] ++ benchRefusal

def benchForeign : BenchSession := benchOther.foldl play bench

/-- **A reply that belongs to somebody else.**  The panel is told that its START was refused; the
only result there is belongs to the other one, and the panel's is not executed. -/
theorem foreign_reply :
    (∃ l, Run.Path (Step false) bench l benchForeign) ∧ benchForeign.poll.isNone = true ∧
    benchForeign.shown.isSome = true ∧
    benchForeign.panel.replied benchForeign.robot.desk.status = some false ∧
    benchForeign.ours = some 1 ∧ benchForeign.register.executed = [0] ∧
    benchForeign.register.results = [(some 0, false)] := by
  refine ⟨playableAll_run (fun _ _ _ h _ => h)
    (show playableAll false bench benchOther = true by decide +kernel), ?_⟩
  decide +kernel

end Bench

end Session

end RoboticCar.Operator
