import RoboticCar.Integration.Request
import RoboticCar.Lib.Run

/-!
# The desk of the sampling owner

Any task may hand the sampling owner a request (`s3_integration_submit`).  One waits at a time, a
RESET keeps the desk closed until its result is known, and a STOP is never refused: it throws away
what waits and is carried out first.

`Desk` is the flags under the lock and what the owner knows alone, and a `Block` is what one side
does between two operations on the lock.  `Register` is the history that the flags leave out; the
two agree in every run (`Desk.Kept.step`).
-/

namespace RoboticCar.Integration

/-! ## The desk -/

inductive Desk.Stage
  /-- waiting for the next tick -/
  | asleep
  /-- it has looked at the desk -/
  | taken
  /-- a STOP, if there was one, is carried out -/
  | sampling
  /-- a RESET under way has its result, and the desk is still closed for it -/
  | completing
  /-- before the command in hand -/
  | executing
  /-- a RESET was refused or done at once, and the desk is still closed for it -/
  | finishing
  | publishing
  deriving DecidableEq

structure Desk where
  stop : Bool
  pending : Bool
  resetPending : Bool
  statusReady : Bool
  /-- the packet that waits while `pending` is set -/
  command : ControlPacket
  status : Status
  stage : Desk.Stage
  /-- the command in hand -/
  taken : Option ControlRequest
  resetWaiting : Bool
  /-- `working.command_sequence` and `working.command_ok` -/
  sequence : UInt32
  ok : Bool

/-- What one side does between two operations on the lock. -/
inductive Block
  | submit (r : ControlRequest)
  /-- the owner looks at the desk -/
  | take
  /-- it carries out a STOP -/
  | stop
  /-- there is no STOP in hand -/
  | pass
  /-- it samples; `reset` is the result of the RESET under way, once it has one -/
  | sample (reset : Option Bool)
  | completed
  /-- there is no command in hand -/
  | idle
  /-- the command in hand has its result -/
  | finish (ok : Bool)
  /-- the RESET in hand is under way -/
  | wait
  | finished
  /-- it publishes its status, if that fits into a packet -/
  | publish (packed : Bool) (shown : Status)

namespace Desk

/-- `s3_integration_submit`: is the request accepted? -/
def submit (s : Desk) (r : ControlRequest) : Bool × Desk :=
  match pack r with
  | none => (false, s)
  | some packet =>
    if r.kind = .stop then
      (true, { s with stop := true, pending := false, resetPending := false })
    else if !s.pending && !s.stop && !s.resetPending then
      (true, { s with
        command := packet, pending := true, resetPending := decide (r.kind = .reset) })
    else (false, s)

def found (s : Desk) : Option ControlRequest :=
  if s.stop then some { kind := .stop } else if s.pending then unpack s.command else none

def Holds (s : Desk) (kind : ControlKind) : Prop := s.taken.map ControlRequest.kind = some kind

instance (s : Desk) (kind : ControlKind) : Decidable (s.Holds kind) :=
  inferInstanceAs (Decidable (_ = _))

def Ready (s : Desk) : Block → Prop
  | .submit _ => True
  | .take => s.stage = .asleep
  | .stop => s.stage = .taken ∧ s.Holds .stop
  | .pass => s.stage = .taken ∧ ¬s.Holds .stop
  | .sample _ => s.stage = .sampling
  | .completed => s.stage = .completing
  | .idle => s.stage = .executing ∧ s.taken = none
  | .finish _ => s.stage = .executing ∧ s.taken ≠ none
  | .wait => s.stage = .executing ∧ s.Holds .reset
  | .finished => s.stage = .finishing
  | .publish _ _ => s.stage = .publishing

instance (s : Desk) (b : Block) : Decidable (s.Ready b) := by
  cases b <;> unfold Ready <;> infer_instance

def resetDone (s : Desk) (reset : Option Bool) : Option Bool :=
  if s.resetWaiting then reset else none

def count (s : Desk) (ok : Bool) : Desk := { s with ok := ok, sequence := s.sequence + 1 }

def act (s : Desk) : Block → Desk
  | .submit r => (s.submit r).2
  | .take => { s with taken := s.found, stop := false, pending := false, stage := .taken }
  | .stop => { s.count true with resetWaiting := false, taken := none, stage := .sampling }
  | .pass => { s with stage := .sampling }
  | .sample reset =>
    match s.resetDone reset with
    | some ok => { s.count ok with resetWaiting := false, stage := .completing }
    | none => { s with stage := .executing }
  | .completed => { s with resetPending := false, stage := .executing }
  | .idle => { s with stage := .publishing }
  | .finish ok =>
    { s.count ok with
      taken := none, stage := if s.Holds .reset then .finishing else .publishing }
  | .wait => { s with resetWaiting := true, taken := none, stage := .publishing }
  | .finished => { s with resetPending := false, stage := .publishing }
  | .publish packed shown =>
    { s with
      status := if packed then { shown with commandSequence := s.sequence, commandOk := s.ok }
        else s.status
      statusReady := packed
      stage := .asleep }

def boot (status : Status) : Desk :=
  ⟨false, false, false, false, List.replicate 11 0, status, .asleep, none, false, 0, false⟩

end Desk

/-! ## The register -/

/-- The history of the desk.  A request is known by its place among the accepted ones. -/
structure Register where
  accepted : List ControlRequest
  /-- how many were accepted when the owner last looked -/
  begun : ℕ
  /-- the request that waits at the desk -/
  waiting : Option ℕ
  /-- the request in hand -/
  held : Option ℕ
  /-- the RESET under way -/
  resetting : Option ℕ
  executed : List ℕ
  /-- the results in the order in which they were counted; a STOP has no place of its own, since
  one cycle carries out all that came before it -/
  results : List (Option ℕ × Bool)

namespace Register

def empty : Register := ⟨[], 0, none, none, none, [], []⟩

/-- The register after a request is accepted; only a STOP throws away what waits. -/
def accept (b : Register) (r : ControlRequest) : Register :=
  { b with
    accepted := b.accepted ++ [r]
    waiting := if r.kind = .stop then none else some b.accepted.length }

def next (b : Register) (s : Desk) : Block → Register
  | .submit r =>
    if (s.submit r).1 then b.accept r else b
  | .take =>
    { b with
      begun := b.accepted.length, held := if s.stop then none else b.waiting, waiting := none }
  | .stop => { b with resetting := none, results := b.results ++ [(none, true)] }
  | .sample reset =>
    match s.resetDone reset with
    | some ok => { b with resetting := none, results := b.results ++ [(b.resetting, ok)] }
    | none => b
  | .finish ok =>
    { b with
      held := none, executed := b.executed ++ b.held.toList
      results := b.results ++ [(b.held, ok)] }
  | .wait =>
    { b with held := none, resetting := b.held, executed := b.executed ++ b.held.toList }
  | _ => b

def kind (b : Register) (t : ℕ) : Option ControlKind := b.accepted[t]?.map ControlRequest.kind

/-- An accepted request other than a STOP, with no STOP accepted since. -/
def Live (b : Register) (t : ℕ) : Prop :=
  (∃ k, b.kind t = some k ∧ k ≠ .stop) ∧ ∀ i, t < i → b.kind i ≠ some .stop

def counted (b : Register) : List ℕ := b.results.filterMap Prod.fst

def Unfinished (b : Register) (t : ℕ) : Prop :=
  b.Live t ∧ b.kind t = some .reset ∧ t ∉ b.counted

variable {b : Register} {r : ControlRequest} {t : ℕ}

theorem kind_lt {k : ControlKind} (h : b.kind t = some k) : t < b.accepted.length := by
  by_contra hlt
  rw [kind, List.getElem?_eq_none (Nat.le_of_not_lt hlt)] at h
  cases h

theorem Live.lt (h : b.Live t) : t < b.accepted.length := by
  obtain ⟨⟨k, hk, -⟩, -⟩ := h
  exact kind_lt hk

theorem kind_accept (b : Register) (r : ControlRequest) (t : ℕ) :
    (b.accept r).kind t = if t = b.accepted.length then some r.kind else b.kind t := by
  simp only [kind, accept]
  split_ifs with ht
  · rw [ht, List.getElem?_concat_length]
    rfl
  · rcases Nat.lt_or_gt_of_ne ht with hlt | hgt
    · rw [List.getElem?_append_left hlt]
    · rw [List.getElem?_eq_none (by simp; omega), List.getElem?_eq_none hgt.le]

theorem kind_accept_of_lt (ht : t < b.accepted.length) : (b.accept r).kind t = b.kind t := by
  rw [kind_accept, if_neg ht.ne]

theorem not_live_accept_stop (hr : r.kind = .stop) : ¬(b.accept r).Live t := by
  rintro ⟨⟨k, hk, hne⟩, hstop⟩
  have hlast : (b.accept r).kind b.accepted.length = some .stop := by
    rw [kind_accept, if_pos rfl, hr]
  have hlt : t < b.accepted.length + 1 := by simpa [accept] using kind_lt hk
  rcases Nat.lt_or_eq_of_le (Nat.le_of_lt_succ hlt) with hlt | rfl
  · exact hstop _ hlt hlast
  · exact hne (Option.some.inj (hk.symm.trans hlast))

theorem live_accept (hr : r.kind ≠ .stop) :
    (b.accept r).Live t ↔ b.Live t ∨ t = b.accepted.length := by
  have hstop (i : ℕ) : (b.accept r).kind i = some .stop ↔ b.kind i = some .stop := by
    rw [kind_accept]
    split_ifs with hi
    · refine iff_of_false (by simpa using hr) fun h => ?_
      exact absurd (kind_lt h) (by omega)
    · rfl
  constructor
  · rintro ⟨⟨k, hk, hne⟩, hs⟩
    by_cases ht : t = b.accepted.length
    · exact .inr ht
    · rw [kind_accept, if_neg ht] at hk
      exact .inl ⟨⟨k, hk, hne⟩, fun i hi h => hs i hi ((hstop i).2 h)⟩
  · rintro (h | rfl)
    · obtain ⟨⟨k, hk, hne⟩, hs⟩ := h
      refine ⟨⟨k, ?_, hne⟩, fun i hi h => hs i hi ((hstop i).1 h)⟩
      rw [kind_accept_of_lt (kind_lt hk), hk]
    · refine ⟨⟨r.kind, by rw [kind_accept, if_pos rfl], hr⟩, fun i hi h => ?_⟩
      exact absurd (kind_lt ((hstop i).1 h)) (by omega)

theorem unfinished_accept (hr : r.kind ≠ .stop) (hnew : b.accepted.length ∉ b.counted) :
    (b.accept r).Unfinished t ↔ b.Unfinished t ∨ t = b.accepted.length ∧ r.kind = .reset := by
  rw [Unfinished, Unfinished, live_accept hr, kind_accept]
  constructor
  · rintro ⟨hl, hk, hc⟩
    split_ifs at hk with ht
    · exact .inr ⟨ht, Option.some.inj hk⟩
    · exact .inl ⟨hl.resolve_right ht, hk, hc⟩
  · rintro (⟨hl, hk, hc⟩ | ⟨rfl, hk⟩)
    · rw [if_neg hl.lt.ne]
      exact ⟨.inl hl, hk, hc⟩
    · rw [if_pos rfl, hk]
      exact ⟨.inr rfl, rfl, hnew⟩

theorem unfinished_of_accepted {b' : Register} (ha : b'.accepted = b.accepted) :
    b'.Unfinished t ↔ b.Live t ∧ b.kind t = some .reset ∧ t ∉ b'.counted := by
  simp only [Unfinished, Live, kind, ha]

theorem counted_of_results {b' : Register} {held : Option ℕ} {ok : Bool}
    (h : b'.results = b.results ++ [(held, ok)]) : b'.counted = b.counted ++ held.toList := by
  rw [counted, h, List.filterMap_append, ← counted]
  cases held <;> rfl

theorem next_accepted (b : Register) (s : Desk) (a : Block) :
    (b.next s a).accepted = b.accepted ∨ ∃ r, b.next s a = b.accept r := by
  cases a with
  | submit r =>
    rw [next]
    split_ifs with h
    · exact .inr ⟨r, rfl⟩
    · exact .inl rfl
  | sample reset =>
    dsimp only [next]
    cases s.resetDone reset <;> exact .inl rfl
  | _ => exact .inl rfl

theorem kind_next {k : ControlKind} (h : b.kind t = some k) (s : Desk) (a : Block) :
    (b.next s a).kind t = some k := by
  rcases b.next_accepted s a with ha | ⟨r, ha⟩
  · rw [kind, ha]
    exact h
  · rw [ha, kind_accept_of_lt (kind_lt h), h]

theorem results_next (b : Register) (s : Desk) (a : Block) :
    b.results <+: (b.next s a).results := by
  cases a with
  | submit =>
    rw [next]
    split_ifs <;> exact List.prefix_rfl
  | sample reset =>
    dsimp only [next]
    cases s.resetDone reset with
    | none => exact List.prefix_rfl
    | some => exact List.prefix_append _ _
  | stop | finish => exact List.prefix_append _ _
  | _ => exact List.prefix_rfl

end Register

namespace Desk

def HoldsCommand (s : Desk) : Prop := s.taken ≠ none ∧ ¬s.Holds .stop

/-- The agreement of the desk and its register. -/
structure Kept (s : Desk) (b : Register) : Prop where
  sequence : s.sequence = UInt32.ofNat b.results.length
  begun_le : b.begun ≤ b.accepted.length
  /-- the flag is set while a STOP waits -/
  stop_iff : s.stop = true ↔ ∃ i, b.begun ≤ i ∧ b.kind i = some .stop
  /-- and then nothing was accepted after that STOP -/
  stopped : s.stop = true → ∀ t, ¬b.Live t
  pending_iff : s.pending = true ↔ b.waiting ≠ none
  waiting : ∀ t, b.waiting = some t →
    b.begun ≤ t ∧ b.Live t ∧ ∃ r, b.accepted[t]? = some r ∧ unpack s.command = some r.canonical
  held_iff : b.held ≠ none ↔ s.HoldsCommand
  held : ∀ t, b.held = some t → t < b.begun ∧ t ∉ b.executed ∧ (b.Live t ∨ s.stop = true) ∧
    ∃ r, b.accepted[t]? = some r ∧ s.taken = some r.canonical
  /-- every STOP the owner knows of came before the request in hand -/
  held_after : ∀ t, b.held = some t → ∀ i < b.begun, b.kind i = some .stop → i < t
  inHand : s.taken ≠ none → s.stage ≠ .asleep ∧ s.stage ≠ .finishing ∧ s.stage ≠ .publishing
  stop_first : s.Holds .stop → s.stage = .taken
  /-- a STOP in hand was accepted after everything else the owner knows of -/
  stop_held : s.Holds .stop → ∀ t < b.begun, ¬b.Live t
  resetting_iff : s.resetWaiting = true ↔ b.resetting ≠ none
  resetting : ∀ t, b.resetting = some t → b.kind t = some .reset ∧ t < b.begun ∧
    t ∈ b.executed ∧ t ∉ b.counted ∧ (b.Live t ∨ s.stop = true ∨ s.Holds .stop)
  executed_lt : ∀ t ∈ b.executed, t < b.begun
  executed_nodup : b.executed.Nodup
  counted_executed : ∀ t ∈ b.counted, t ∈ b.executed
  counted_nodup : b.counted.Nodup
  /-- a live request is somewhere -/
  somewhere : ∀ t, b.Live t →
    b.waiting = some t ∨ b.held = some t ∨ b.resetting = some t ∨ t ∈ b.counted
  reset_closes : ∀ t, b.Unfinished t → s.resetPending = true
  reset_unique : ∀ t t', b.Unfinished t → b.Unfinished t' → t = t'
  reset_opens : s.resetPending = true →
    (∃ t, b.Unfinished t) ∨ s.stage = .completing ∨ s.stage = .finishing
  closing : s.stage = .completing ∨ s.stage = .finishing →
    (s.resetPending = true ∨ s.stop = true) ∧ ∀ t, ¬b.Unfinished t

variable {s : Desk} {b : Register}

theorem Kept.boot (status : Status) : Kept (boot status) .empty := by
  have hlive : ∀ t, ¬Register.empty.Live t := fun t h => absurd h.lt (by simp [Register.empty])
  constructor
  case stop_iff => simp [Desk.boot, Register.empty, Register.kind]
  case somewhere => exact fun t ht => absurd ht (hlive t)
  case reset_closes => exact fun t ht => absurd ht.1 (hlive t)
  case reset_unique => exact fun t _ ht => absurd ht.1 (hlive t)
  all_goals simp [Desk.boot, Register.empty, HoldsCommand, Register.counted, Holds]

/-! ### Callers -/

/-- What a call of `s3_integration_submit` can do. -/
inductive Submitted (s : Desk) (r : ControlRequest) : Bool × Desk → Prop
  | refused : Submitted s r (false, s)
  | stop (hr : r.kind = .stop) :
      Submitted s r (true, { s with stop := true, pending := false, resetPending := false })
  | command {packet : ControlPacket} (hr : r.kind ≠ .stop) (hp : pack r = some packet)
      (hfree : s.pending = false) (hstop : s.stop = false) (hreset : s.resetPending = false) :
      Submitted s r (true, { s with
        command := packet, pending := true, resetPending := decide (r.kind = .reset) })

/-- What a submission can do to the desk. -/
theorem submit_cases (s : Desk) (r : ControlRequest) : Submitted s r (s.submit r) := by
  rw [submit]
  split
  · exact .refused
  · rename_i packet hp
    split_ifs with hr hfree
    · exact .stop hr
    · simp only [Bool.and_eq_true, Bool.not_eq_true'] at hfree
      exact .command hr hp hfree.1.1 hfree.1.2 hfree.2
    · exact .refused

theorem Kept.getElem?_accept (h : Kept s b) {t : ℕ} (ht : t < b.begun) (r : ControlRequest) :
    (b.accept r).accepted[t]? = b.accepted[t]? :=
  List.getElem?_append_left (ht.trans_le h.begun_le)

theorem Kept.kind_accept (h : Kept s b) {t : ℕ} (ht : t < b.begun) (r : ControlRequest) :
    (b.accept r).kind t = b.kind t :=
  Register.kind_accept_of_lt (ht.trans_le h.begun_le)

variable {r : ControlRequest}

/-- A STOP is taken at any time. -/
theorem Kept.submitStop (h : Kept s b) (hr : r.kind = .stop) :
    Kept { s with stop := true, pending := false, resetPending := false } (b.accept r) := by
  have hlive (t : ℕ) : ¬(b.accept r).Live t := Register.not_live_accept_stop hr
  refine { h with
    begun_le := h.begun_le.trans (by simp [Register.accept])
    stop_iff := iff_of_true rfl ⟨b.accepted.length, h.begun_le, ?_⟩
    stopped := fun _ => hlive
    pending_iff := by simp [Register.accept, hr]
    waiting := fun t ht => by simp [Register.accept, hr] at ht
    held := fun t ht => ?_
    held_after := fun t ht i hi hk => h.held_after t ht i hi (h.kind_accept hi r ▸ hk)
    stop_held := fun _ t _ => hlive t
    resetting := fun t ht => ?_
    somewhere := fun t ht => absurd ht (hlive t)
    reset_closes := fun t ht => absurd ht.1 (hlive t)
    reset_unique := fun t _ ht => absurd ht.1 (hlive t)
    reset_opens := nofun
    closing := fun _ => ⟨.inr rfl, fun t ht => hlive t ht.1⟩ }
  · rw [Register.kind_accept, if_pos rfl, hr]
  · obtain ⟨hlt, hnew, -, hreq⟩ := h.held t ht
    exact ⟨hlt, hnew, .inr rfl, (h.getElem?_accept hlt r).symm ▸ hreq⟩
  · obtain ⟨hk, hlt, hex, hc, -⟩ := h.resetting t ht
    exact ⟨(h.kind_accept hlt r).trans hk, hlt, hex, hc, .inr (.inl rfl)⟩

theorem Kept.length_not_mem_counted (h : Kept s b) : b.accepted.length ∉ b.counted := fun hc =>
  absurd (h.executed_lt _ (h.counted_executed _ hc)) h.begun_le.not_gt

/-- Another request is taken by a free desk. -/
theorem Kept.submitCommand (h : Kept s b) {packet : ControlPacket} (hr : r.kind ≠ .stop)
    (hp : pack r = some packet) (hfree : s.pending = false) (hstop : s.stop = false)
    (hreset : s.resetPending = false) :
    Kept { s with command := packet, pending := true, resetPending := decide (r.kind = .reset) }
      (b.accept r) := by
  have hw : (b.accept r).waiting = some b.accepted.length := if_neg hr
  have hnone : b.waiting = none := by
    by_contra hne
    exact absurd (h.pending_iff.2 hne) (by simp [hfree])
  have hunf (t : ℕ) : (b.accept r).Unfinished t ↔ t = b.accepted.length ∧ r.kind = .reset := by
    rw [Register.unfinished_accept hr h.length_not_mem_counted]
    refine or_iff_right fun ht => ?_
    exact absurd (h.reset_closes t ht) (by simp [hreset])
  have hkeep {t : ℕ} (ht : b.Live t) : (b.accept r).Live t := (Register.live_accept hr).2 (.inl ht)
  refine { h with
    begun_le := h.begun_le.trans (by simp [Register.accept])
    stop_iff := iff_of_false (by simp [hstop]) ?_
    stopped := fun hs => absurd hs (by simp [hstop])
    pending_iff := iff_of_true rfl (by simp [hw])
    waiting := fun t ht => ?_
    held := fun t ht => ?_
    held_after := fun t ht i hi hk => h.held_after t ht i hi (h.kind_accept hi r ▸ hk)
    stop_held := fun hs t ht hl => ?_
    resetting := fun t ht => ?_
    somewhere := fun t ht => ?_
    reset_closes := fun t ht => by simpa using ((hunf t).1 ht).2
    reset_unique := fun t t' ht ht' => ((hunf t).1 ht).1.trans ((hunf t').1 ht').1.symm
    reset_opens := fun hp => .inl ⟨_, (hunf _).2 ⟨rfl, of_decide_eq_true hp⟩⟩
    closing := fun hs => ?_ }
  · rintro ⟨i, hi, hk⟩
    rw [Register.kind_accept] at hk
    split_ifs at hk with hlast
    · exact hr (Option.some.inj hk)
    · exact absurd (h.stop_iff.2 ⟨i, hi, hk⟩) (by simp [hstop])
  · obtain rfl : b.accepted.length = t := Option.some.inj (hw.symm.trans ht)
    refine ⟨h.begun_le, (Register.live_accept hr).2 (.inr rfl), r, ?_, unpack_pack hp⟩
    exact List.getElem?_concat_length
  · obtain ⟨hlt, hnew, hl, hreq⟩ := h.held t ht
    exact ⟨hlt, hnew, hl.imp_left hkeep, (h.getElem?_accept hlt r).symm ▸ hreq⟩
  · rcases (Register.live_accept hr).1 hl with hl | rfl
    · exact h.stop_held hs t ht hl
    · exact absurd ht h.begun_le.not_gt
  · obtain ⟨hk, hlt, hex, hc, hl⟩ := h.resetting t ht
    exact ⟨(h.kind_accept hlt r).trans hk, hlt, hex, hc, hl.imp_left hkeep⟩
  · rcases (Register.live_accept hr).1 ht with hl | rfl
    · refine .inr ((h.somewhere t hl).resolve_left fun hw' => ?_)
      cases hnone.symm.trans hw'
    · exact .inl hw
  · exact absurd (h.closing hs).1 (by simp [hreset, hstop])

/-! ### The owner -/

theorem Kept.not_holds_stop (h : Kept s b) (hs : s.stage ≠ .taken) : ¬s.Holds .stop :=
  fun hst => hs (h.stop_first hst)

theorem Kept.move (h : Kept s b) (stage : Stage) (hfrom : s.stage ≠ .completing)
    (hfrom' : s.stage ≠ .finishing) (hto : stage ≠ .completing) (hto' : stage ≠ .finishing)
    (hstop : ¬s.Holds .stop) (htaken : s.taken ≠ none → stage ≠ .asleep ∧ stage ≠ .publishing)
    (status : Status) (ready : Bool) :
    Kept { s with stage := stage, status := status, statusReady := ready } b :=
  { h with
    inHand := fun ht => ⟨(htaken ht).1, hto', (htaken ht).2⟩
    stop_first := fun hs => absurd hs hstop
    reset_opens := fun hr => by
      rcases h.reset_opens hr with hu | hc | hf
      · exact .inl hu
      · exact absurd hc hfrom
      · exact absurd hf hfrom'
    closing := fun hs => (hs.elim hto hto').elim }

/-- The owner takes what it finds. -/
theorem Kept.take (h : Kept s b) (hs : s.stage = .asleep) :
    Kept { s with taken := s.found, stop := false, pending := false, stage := .taken }
      { b with
        begun := b.accepted.length
        held := if s.stop then none else b.waiting
        waiting := none } := by
  have hno : ¬s.Holds .stop := h.not_holds_stop (hs ▸ (by simp))
  -- a command is found exactly if one waits and no STOP does
  have hfound : (if s.stop then none else b.waiting) ≠ none ↔
      s.found ≠ none ∧ s.found.map ControlRequest.kind ≠ some .stop := by
    rw [found]
    by_cases hst : s.stop
    · simp [hst]
    · simp only [hst, Bool.false_eq_true, if_false]
      cases hw : b.waiting with
      | none =>
        have hp : s.pending ≠ true := fun hp => h.pending_iff.1 hp hw
        simp [hp]
      | some t =>
        obtain ⟨-, ⟨⟨k, hk, hne⟩, -⟩, r, hr, hu⟩ := h.waiting t hw
        have hp : s.pending := h.pending_iff.2 (by simp [hw])
        simp only [Register.kind, hr, Option.map_some, Option.some.injEq] at hk
        simp [hp, hu, ControlRequest.canonical, hk, hne]
  have hheld {t : ℕ} (ht : (if s.stop then none else b.waiting) = some t) :
      s.stop = false ∧ b.waiting = some t := by
    split_ifs at ht with hst
    exact ⟨by simpa using hst, ht⟩
  refine { h with
    begun_le := le_rfl
    stop_iff := iff_of_false (by simp) ?_
    stopped := (by simp)
    pending_iff := by simp
    waiting := (by simp)
    held_iff := hfound
    held := fun t ht => ?_
    held_after := fun t ht i hi hk => ?_
    inHand := fun _ => ⟨(by rintro ⟨⟩), (by simp), (by rintro ⟨⟩)⟩
    stop_first := fun _ => rfl
    stop_held := fun hst t _ => ?_
    resetting := fun t ht => ?_
    executed_lt := fun t ht => (h.executed_lt t ht).trans_le h.begun_le
    somewhere := fun t ht => ?_
    reset_opens := fun hr => .inl ((h.reset_opens hr).resolve_right ?_)
    closing := fun hc => ?_ }
  · rintro ⟨i, hi, hk⟩
    exact absurd (Register.kind_lt hk) (Nat.not_lt.2 hi)
  · obtain ⟨hst, hw⟩ := hheld ht
    obtain ⟨hge, hl, r, hr, hu⟩ := h.waiting t hw
    refine ⟨hl.lt, fun hex => absurd (h.executed_lt t hex) hge.not_gt, .inl hl, r, hr, ?_⟩
    have hp : s.pending := h.pending_iff.2 (by simp [hw])
    simp [found, hst, hp, hu]
  · obtain ⟨-, hw⟩ := hheld ht
    obtain ⟨-, ⟨⟨k, hk', hne⟩, hl⟩, -⟩ := h.waiting t hw
    by_contra hge
    rcases Nat.lt_or_eq_of_le (Nat.le_of_not_lt hge) with hlt | rfl
    · exact hl i hlt hk
    · exact hne (Option.some.inj (hk'.symm.trans hk))
  · by_cases hst' : s.stop
    · exact h.stopped hst' t
    · have hne : (if s.stop then none else b.waiting) = none := by
        by_contra hne
        exact (hfound.1 hne).2 hst
      simp only [hst', Bool.false_eq_true, if_false] at hne
      have hp : s.pending ≠ true := fun hp => h.pending_iff.1 hp hne
      simp [Holds, found, hst', hp] at hst
  · obtain ⟨hk, hlt, hex, hc, hl⟩ := h.resetting t ht
    refine ⟨hk, hlt.trans_le h.begun_le, hex, hc, ?_⟩
    rcases hl with hl | hst | hst
    · exact .inl hl
    · exact .inr (.inr (by simp [Holds, found, hst]))
    · exact absurd hst hno
  · have hst : s.stop = false := by
      by_contra hst
      exact h.stopped (by simpa using hst) t ht
    simp only [hst, Bool.false_eq_true, if_false]
    rcases h.somewhere t ht with hw | hh | hrest
    · exact .inr (.inl hw)
    · exact absurd hs (h.inHand (h.held_iff.1 (by simp [hh])).1).1
    · exact .inr (.inr hrest)
  · rw [hs]
    decide
  · rcases hc with hc | hc <;> cases hc

theorem Kept.sequence_succ (h : Kept s b) (held : Option ℕ) (ok : Bool) :
    s.sequence + 1 = UInt32.ofNat (b.results ++ [(held, ok)]).length := by
  rw [h.sequence, List.length_append, UInt32.ofNat_add]
  rfl

/-- The STOP block cancels a waiting reset. -/
theorem Kept.stopBlock (h : Kept s b) (hs : s.stage = .taken) (hstop : s.Holds .stop) :
    Kept { s.count true with resetWaiting := false, taken := none, stage := .sampling }
      { b with resetting := none, results := b.results ++ [(none, true)] } := by
  have hc : ({ b with resetting := none, results := b.results ++ [(none, true)] } :
      Register).counted = b.counted := by
    rw [Register.counted_of_results rfl]
    exact List.append_nil _
  have hheld : b.held = none := by
    by_contra hne
    exact (h.held_iff.1 hne).2 hstop
  refine { h with
    sequence := h.sequence_succ _ _
    held_iff := iff_of_false (by simp [hheld]) (by simp [HoldsCommand])
    held := fun t ht => absurd (hheld.symm.trans ht) nofun
    inHand := fun ht => absurd rfl ht
    stop_first := nofun
    stop_held := nofun
    resetting_iff := by simp
    resetting := nofun
    counted_executed := hc.symm ▸ h.counted_executed
    counted_nodup := hc.symm ▸ h.counted_nodup
    somewhere := fun t ht => ?_
    reset_closes := fun t ht => h.reset_closes t ?_
    reset_unique := fun t t' ht ht' => h.reset_unique t t' ?_ ?_
    reset_opens := fun hr => ?_
    closing := fun hc => ?_ }
  · rw [hc]
    rcases h.somewhere t ht with hw | hh | hr | hd
    · exact .inl hw
    · exact .inr (.inl hh)
    · exact absurd ht (h.stop_held hstop t (h.resetting t hr).2.1)
    · exact .inr (.inr (.inr hd))
  · exact ⟨ht.1, ht.2.1, hc ▸ ht.2.2⟩
  · exact ⟨ht.1, ht.2.1, hc ▸ ht.2.2⟩
  · exact ⟨ht'.1, ht'.2.1, hc ▸ ht'.2.2⟩
  · obtain ⟨t, ht⟩ := (h.reset_opens hr).resolve_right (hs ▸ nofun)
    exact .inl ⟨t, ht.1, ht.2.1, hc.symm ▸ ht.2.2⟩
  · rcases hc with hc | hc <;> cases hc

/-- A waiting reset gets its result. -/
theorem Kept.sampled (h : Kept s b) (hs : s.stage = .sampling) (hw : s.resetWaiting)
    (ok : Bool) :
    Kept { s.count ok with resetWaiting := false, stage := .completing }
      { b with resetting := none, results := b.results ++ [(b.resetting, ok)] } := by
  obtain ⟨t₀, ht₀⟩ := Option.ne_none_iff_exists'.1 (h.resetting_iff.1 hw)
  obtain ⟨hk₀, hlt₀, hex₀, hnew₀, hl₀⟩ := h.resetting t₀ ht₀
  have hno : ¬s.Holds .stop := h.not_holds_stop (hs ▸ nofun)
  have hc : ({ b with resetting := none, results := b.results ++ [(b.resetting, ok)] } :
      Register).counted = b.counted ++ [t₀] := by
    rw [Register.counted_of_results rfl, ht₀]
    rfl
  have hnone (t : ℕ) : ¬Register.Unfinished
      { b with resetting := none, results := b.results ++ [(b.resetting, ok)] } t := by
    rintro ⟨hl, hk, hd⟩
    rw [hc, List.mem_append, not_or, List.mem_singleton] at hd
    rcases hl₀ with hl₀ | hst | hst
    · exact hd.2 (h.reset_unique t t₀ ⟨hl, hk, hd.1⟩ ⟨hl₀, hk₀, hnew₀⟩)
    · exact h.stopped hst t hl
    · exact hno hst
  refine { h with
    sequence := h.sequence_succ _ _
    inHand := fun ht => ⟨nofun, nofun, nofun⟩
    stop_first := fun hst => absurd hst hno
    resetting_iff := by simp
    resetting := nofun
    counted_executed := fun t ht => ?_
    counted_nodup := ?_
    somewhere := fun t ht => ?_
    reset_closes := fun t ht => absurd ht (hnone t)
    reset_unique := fun t _ ht => absurd ht (hnone t)
    reset_opens := fun _ => .inr (.inl rfl)
    closing := fun _ => ⟨?_, hnone⟩ }
  · rw [hc, List.mem_append, List.mem_singleton] at ht
    rcases ht with ht | rfl
    · exact h.counted_executed t ht
    · exact hex₀
  · rw [hc, ← List.concat_eq_append]
    exact h.counted_nodup.concat hnew₀
  · rw [hc, List.mem_append, List.mem_singleton]
    rcases h.somewhere t ht with hw | hh | hr | hd
    · exact .inl hw
    · exact .inr (.inl hh)
    · exact .inr (.inr (.inr (.inr (Option.some.inj (hr.symm.trans ht₀)))))
    · exact .inr (.inr (.inr (.inl hd)))
  · rcases hl₀ with hl₀ | hst | hst
    · exact .inl (h.reset_closes t₀ ⟨hl₀, hk₀, hnew₀⟩)
    · exact .inr hst
    · exact absurd hst hno

theorem Kept.reopen (h : Kept s b) {stage : Stage}
    (hs : s.stage = .completing ∧ stage = .executing ∨
      s.stage = .finishing ∧ stage = .publishing) :
    Kept { s with resetPending := false, stage := stage } b := by
  have hclosing : s.stage = .completing ∨ s.stage = .finishing := hs.imp And.left And.left
  have hno : ¬s.Holds .stop := by
    refine h.not_holds_stop fun ht => ?_
    rcases hclosing with hs | hs <;> cases hs.symm.trans ht
  refine { h with
    inHand := fun ht => ?_
    stop_first := fun hst => absurd hst hno
    reset_closes := fun t ht => absurd ht ((h.closing hclosing).2 t)
    reset_opens := nofun
    closing := fun hc => ?_ }
  · rcases hs with ⟨-, rfl⟩ | ⟨hs, -⟩
    · exact ⟨nofun, nofun, nofun⟩
    · exact absurd hs (h.inHand ht).2.1
  · rcases hs with ⟨-, rfl⟩ | ⟨-, rfl⟩ <;> rcases hc with hc | hc <;> cases hc

theorem Kept.inTurn (h : Kept s b) (hs : s.stage = .executing) (ht : s.taken ≠ none) :
    ∃ t, b.held = some t ∧ t < b.begun ∧ t ∉ b.executed ∧ (b.Live t ∨ s.stop) ∧
      b.kind t = s.taken.map ControlRequest.kind := by
  have hno : ¬s.Holds .stop := h.not_holds_stop (hs ▸ nofun)
  obtain ⟨t, hheld⟩ := Option.ne_none_iff_exists'.1 (h.held_iff.2 ⟨ht, hno⟩)
  obtain ⟨hlt, hnew, hl, r, hr, htaken⟩ := h.held t hheld
  refine ⟨t, hheld, hlt, hnew, hl, ?_⟩
  rw [Register.kind, hr, htaken]
  rfl

/-- A command in turn gets its result. -/
theorem Kept.finish (h : Kept s b) (hs : s.stage = .executing) (ht : s.taken ≠ none) (ok : Bool) :
    Kept { s.count ok with
        taken := none, stage := if s.Holds .reset then .finishing else .publishing }
      { b with
        held := none, executed := b.executed ++ b.held.toList
        results := b.results ++ [(b.held, ok)] } := by
  obtain ⟨t₀, hheld, hlt₀, hnew₀, hl₀, hkind⟩ := h.inTurn hs ht
  have hnotCounted : t₀ ∉ b.counted := fun hd => hnew₀ (h.counted_executed t₀ hd)
  simp only [hheld, Option.toList_some]
  generalize hb : ({ b with
    held := none, executed := b.executed ++ [t₀], results := b.results ++ [(some t₀, ok)] } :
      Register) = b'
  have hacc : b'.accepted = b.accepted := hb ▸ rfl
  have hres : b'.results = b.results ++ [(some t₀, ok)] := hb ▸ rfl
  have hc : b'.counted = b.counted ++ [t₀] := Register.counted_of_results hres
  have hunf (t : ℕ) : b'.Unfinished t ↔ b.Unfinished t ∧ t ≠ t₀ := by
    rw [Register.unfinished_of_accepted hacc, hc, List.mem_append, List.mem_singleton, not_or]
    simp only [Register.Unfinished, and_assoc]
  subst hb
  refine { h with
    sequence := h.sequence_succ _ _
    held_iff := by simp [HoldsCommand]
    held := nofun
    held_after := nofun
    inHand := fun ht => absurd rfl ht
    stop_first := nofun
    stop_held := nofun
    resetting := fun t hr => ?_
    executed_lt := fun t he => ?_
    executed_nodup := ?_
    counted_executed := fun t hd => ?_
    counted_nodup := ?_
    somewhere := fun t hl => ?_
    reset_closes := fun t hu => h.reset_closes t ((hunf t).1 hu).1
    reset_unique := fun t t' hu hu' => h.reset_unique t t' ((hunf t).1 hu).1 ((hunf t').1 hu').1
    reset_opens := fun hr => ?_
    closing := fun hst => ?_ }
  · obtain ⟨hk, hlt, hex, hd, hl⟩ := h.resetting t hr
    refine ⟨hk, hlt, List.mem_append_left _ hex, ?_, hl.imp_right (Or.imp_right fun hst => ?_)⟩
    · rw [hc, List.mem_append, List.mem_singleton, not_or]
      exact ⟨hd, fun he => hnew₀ (he ▸ hex)⟩
    · exact absurd hst (h.not_holds_stop (hs ▸ nofun))
  · rcases List.mem_append.1 he with he | he
    · exact h.executed_lt t he
    · rwa [List.mem_singleton.1 he]
  · rw [← List.concat_eq_append]
    exact h.executed_nodup.concat hnew₀
  · rw [hc, List.mem_append] at hd
    exact List.mem_append.2 (hd.imp_left (h.counted_executed t))
  · rw [hc, ← List.concat_eq_append]
    exact h.counted_nodup.concat hnotCounted
  · rw [hc, List.mem_append, List.mem_singleton]
    rcases h.somewhere t hl with hw | hh | hr | hd
    · exact .inl hw
    · exact .inr (.inr (.inr (.inr (Option.some.inj (hh.symm.trans hheld)))))
    · exact .inr (.inr (.inl hr))
    · exact .inr (.inr (.inr (.inl hd)))
  · obtain ⟨t, hu⟩ := (h.reset_opens hr).resolve_right (hs ▸ nofun)
    by_cases he : t = t₀
    · subst he
      exact .inr (.inr (if_pos (hkind.symm.trans hu.2.1)))
    · exact .inl ⟨t, (hunf t).2 ⟨hu, he⟩⟩
  · have hreset : s.Holds .reset := by
      by_contra hno
      simp [if_neg hno] at hst
    rcases hl₀ with hl₀ | hst
    · have hu₀ : b.Unfinished t₀ := ⟨hl₀, hkind.trans hreset, hnotCounted⟩
      refine ⟨.inl (h.reset_closes t₀ hu₀), fun t hu => ?_⟩
      exact ((hunf t).1 hu).2 (h.reset_unique t t₀ ((hunf t).1 hu).1 hu₀)
    · exact ⟨.inr hst, fun t hu => h.stopped hst t ((hunf t).1 hu).1.1⟩

theorem Kept.wait (h : Kept s b) (hs : s.stage = .executing) (hr : s.Holds .reset) :
    Kept { s with resetWaiting := true, taken := none, stage := .publishing }
      { b with held := none, resetting := b.held, executed := b.executed ++ b.held.toList } := by
  have ht : s.taken ≠ none := fun hn => by simp [Holds, hn] at hr
  obtain ⟨t₀, hheld, hlt₀, hnew₀, hl₀, hkind⟩ := h.inTurn hs ht
  have hnotCounted : t₀ ∉ b.counted := fun hd => hnew₀ (h.counted_executed t₀ hd)
  simp only [hheld, Option.toList_some]
  refine { h with
    held_iff := by simp [HoldsCommand]
    held := nofun
    held_after := nofun
    inHand := fun ht => absurd rfl ht
    stop_first := nofun
    stop_held := nofun
    resetting_iff := by simp
    resetting := fun t ht => ?_
    executed_lt := fun t he => ?_
    executed_nodup := ?_
    counted_executed := fun t hd => List.mem_append_left _ (h.counted_executed t hd)
    somewhere := fun t hl => ?_
    reset_opens := fun hp => .inl ((h.reset_opens hp).resolve_right (hs ▸ nofun))
    closing := nofun }
  · obtain rfl : t₀ = t := Option.some.inj ht
    exact ⟨hkind.trans hr, hlt₀, List.mem_append_right _ (List.mem_singleton_self _), hnotCounted,
      hl₀.imp_right .inl⟩
  · rcases List.mem_append.1 he with he | he
    · exact h.executed_lt t he
    · rwa [List.mem_singleton.1 he]
  · rw [← List.concat_eq_append]
    exact h.executed_nodup.concat hnew₀
  · rcases h.somewhere t hl with hw | hh | hr' | hd
    · exact .inl hw
    · exact .inr (.inr (.inl (hheld.symm.trans hh)))
    · -- two unfinished RESETs would be one, but only one of them was executed
      obtain ⟨hk, -, hex, hd, -⟩ := h.resetting t hr'
      rcases hl₀ with hl₀ | hst
      · have he : t = t₀ := h.reset_unique t t₀ ⟨hl, hk, hd⟩ ⟨hl₀, hkind.trans hr, hnotCounted⟩
        exact absurd (he ▸ hex) hnew₀
      · exact absurd hl (h.stopped hst t)
    · exact .inr (.inr (.inr hd))

/-- **The flags and the register agree after every block.** -/
theorem Kept.step (h : Kept s b) {a : Block} (ha : s.Ready a) : Kept (s.act a) (b.next s a) := by
  have hno (hs : s.stage ≠ .taken) : ¬s.Holds .stop := h.not_holds_stop hs
  cases a with
  | submit r =>
    have hr := s.submit_cases r
    rw [act, Register.next]
    generalize s.submit r = x at hr ⊢
    cases hr with
    | refused => exact h
    | stop hk => exact h.submitStop hk
    | command hk hp hfree hstop hreset => exact h.submitCommand hk hp hfree hstop hreset
  | take => exact h.take ha
  | stop => exact h.stopBlock ha.1 ha.2
  | pass =>
    have hs : s.stage = .taken := ha.1
    exact h.move .sampling (hs ▸ nofun) (hs ▸ nofun) nofun nofun ha.2
      (fun _ => ⟨nofun, nofun⟩) _ _
  | sample reset =>
    have hs : s.stage = .sampling := ha
    have hmove : Kept { s with stage := .executing } b :=
      h.move .executing (hs ▸ nofun) (hs ▸ nofun) nofun nofun
        (hno (hs ▸ nofun)) (fun _ => ⟨nofun, nofun⟩) _ _
    dsimp only [act, Register.next]
    cases hd : s.resetDone reset with
    | none => exact hmove
    | some ok =>
      refine h.sampled hs ?_ ok
      by_contra hw
      rw [resetDone, if_neg hw] at hd
      cases hd
  | completed => exact h.reopen (.inl ⟨ha, rfl⟩)
  | idle =>
    have hs : s.stage = .executing := ha.1
    exact h.move .publishing (hs ▸ nofun) (hs ▸ nofun) nofun nofun
      (hno (hs ▸ nofun)) (fun ht => absurd ha.2 ht) _ _
  | finish ok => exact h.finish ha.1 ha.2 ok
  | wait => exact h.wait ha.1 ha.2
  | finished => exact h.reopen (.inr ⟨ha, rfl⟩)
  | publish =>
    have hs : s.stage = .publishing := ha
    exact h.move .asleep (hs ▸ nofun) (hs ▸ nofun) nofun nofun
      (hno (hs ▸ nofun)) (fun ht => absurd hs (h.inHand ht).2.2) _ _

/-- A live request that the owner has seen is counted by the end of the cycle, or is a RESET still
under way. -/
theorem Kept.settled (h : Kept s b) {t : ℕ} (ht : b.Live t) (hlt : t < b.begun)
    (hs : s.stage = .asleep) :
    t ∈ b.executed ∧ (t ∈ b.counted ∨ b.kind t = some .reset ∧ b.resetting = some t) := by
  rcases h.somewhere t ht with hw | hh | hr | hd
  · exact absurd hlt (h.waiting t hw).1.not_gt
  · exact absurd hs (h.inHand (h.held_iff.1 (by simp [hh])).1).1
  · obtain ⟨hk, -, hex, -⟩ := h.resetting t hr
    exact ⟨hex, .inr ⟨hk, hr⟩⟩
  · exact ⟨h.counted_executed t hd, .inl hd⟩

theorem Kept.accepts (h : Kept s b) (hr : r.kind ≠ .stop) (ha : (s.submit r).1 = true) :
    b.waiting = none ∧ ∀ t, ¬b.Unfinished t := by
  have hcase := s.submit_cases r
  generalize s.submit r = x at hcase ha
  cases hcase with
  | refused => cases ha
  | stop hk => exact absurd hk hr
  | command _ _ hfree _ hreset =>
    refine ⟨?_, fun t ht => ?_⟩
    · by_contra hne
      exact absurd (h.pending_iff.2 hne) (by simp [hfree])
    · exact absurd (h.reset_closes t ht) (by simp [hreset])

end Desk

end RoboticCar.Integration
