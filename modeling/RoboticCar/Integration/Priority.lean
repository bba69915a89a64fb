import RoboticCar.Integration.Owner

/-!
# STOP comes first

What the callers of `s3_integration_submit` can rely on, whatever happens between the blocks of the
owner.  In every state of a watched run (`Robot.Sound`) the desk and the register agree, and a
running drive was started by a START that was accepted after every STOP the owner knows of, unless
it is about to carry out a STOP.  `Robot.stop_priority` puts together what follows.
-/

namespace RoboticCar.Integration

open Lib CFloat Motion Navigation Driving

variable {F D : Type} {B : BarcodeReaders}

def Register.after (b : Register) (s : Desk) : Option Block → Register
  | none => b
  | some a => b.next s a

theorem Register.kind_after {b : Register} {t : ℕ} {k : ControlKind} (h : b.kind t = some k)
    (s : Desk) (a : Option Block) : (b.after s a).kind t = some k := by
  cases a with
  | none => exact h
  | some a => exact Register.kind_next h s a

theorem Register.results_after (b : Register) (s : Desk) (a : Option Block) :
    b.results <+: (b.after s a).results := by
  cases a with
  | none => exact List.prefix_rfl
  | some a => exact b.results_next s a

namespace Robot

def boot (status : Status) (d : Drive F D B) : Robot F D B :=
  ⟨.boot status, d, .boot, .idle, .boot⟩

/-! ## The invariant -/

theorem quiet_stage {s : Desk} {b : Block} (hb : b.isQuiet) (hready : s.Ready b) :
    s.stage ≠ .executing ∨ s.taken = none := by
  have hother {x : Desk.Stage} (hx : s.stage = x) (hne : x ≠ .executing) :
      s.stage ≠ .executing ∨ s.taken = none := .inl (hx ▸ hne)
  cases b with
  | take | completed | finished | publish => exact hother hready nofun
  | pass => exact hother hready.1 nofun
  | idle => exact .inr hready.2
  | _ => cases hb

def Begun (s : Robot F D B) : Prop := ∃ newly, s.starting = .begun newly

/-- A running drive was started by a START accepted after every STOP known, or such a STOP is in
hand. -/
def Governed (s : Robot F D B) (b : Register) : Prop :=
  s.drive.running = true → ∃ t, b.kind t = some .start ∧
    (s.desk.Holds .stop ∨ ∀ i < b.begun, b.kind i = some .stop → i < t) ∧
    ((some t, true) ∈ b.results ∨ s.Begun ∧ b.held = some t)

structure Sound (s5 : Bool) (s : Robot F D B) (b : Register) : Prop where
  kept : s.desk.Kept b
  drive : Inv s5 s.drive
  start : s.StartInHand
  governed : s.Governed b

variable {s5 : Bool} {s s' : Robot F D B} {b : Register}

theorem Governed.keep (h : s.Governed b) {b' : Register}
    (hrun : s'.drive.running → s.drive.running)
    (hkind : ∀ t, b.kind t = some .start → b'.kind t = some .start)
    (hresults : b.results <+: b'.results)
    (hstop : ∀ t, (s.desk.Holds .stop ∨ ∀ i < b.begun, b.kind i = some .stop → i < t) →
      s'.desk.Holds .stop ∨ ∀ i < b'.begun, b'.kind i = some .stop → i < t)
    (hbegun : s.Begun → s'.Begun ∧ b'.held = b.held) : s'.Governed b' := by
  intro hr
  obtain ⟨t, hk, hs, hres⟩ := h (hrun hr)
  refine ⟨t, hkind t hk, hstop t hs, hres.imp (fun hm => hresults.subset hm) ?_⟩
  rintro ⟨hb, hheld⟩
  exact ⟨(hbegun hb).1, (hbegun hb).2.trans hheld⟩

theorem not_begun {x : Starting} (hx : s.starting = x) (hne : ∀ newly, x ≠ .begun newly) :
    ¬s.Begun := by
  rintro ⟨newly, hb⟩
  exact hne newly (hx.symm.trans hb)

theorem Sound.idle_of_stage (h : Sound s5 s b) (hs : s.desk.stage ≠ .executing) :
    s.starting = .idle := by
  by_contra hne
  exact hs (h.start hne).1

theorem Sound.governed_submit (h : Sound s5 s b) (r : ControlRequest) :
    Governed { s with desk := s.desk.act (.submit r) } (b.next s.desk (.submit r)) := by
  have hr := s.desk.submit_cases r
  dsimp only [Desk.act, Register.next]
  have haccept {desk : Desk} (hd : desk.taken = s.desk.taken) :
      Governed { s with desk := desk } (b.accept r) := by
    refine h.governed.keep id (fun t hk => ?_) List.prefix_rfl (fun t hs => hs.imp ?_ ?_)
      fun hb => ⟨hb, rfl⟩
    · rw [Register.kind_accept_of_lt (Register.kind_lt hk), hk]
    · rw [Desk.Holds, Desk.Holds, hd]
      exact id
    · intro hlt i hi hk
      exact hlt i hi (h.kept.kind_accept hi r ▸ hk)
  generalize s.desk.submit r = x at hr ⊢
  cases hr with
  | refused => exact h.governed
  | stop | command => exact haccept rfl

theorem Sound.governed_take (h : Sound s5 s b) (hs : s.desk.stage = .asleep) :
    Governed { s with desk := s.desk.act .take } (b.next s.desk .take) := by
  have hidle : s.starting = .idle := h.idle_of_stage (hs ▸ nofun)
  refine h.governed.keep id (fun _ => id) List.prefix_rfl (fun t ht => ?_) fun hb =>
    absurd hb (not_begun hidle nofun)
  have hold := ht.resolve_left (h.kept.not_holds_stop (hs ▸ nofun))
  by_cases hstop : s.desk.stop
  · left
    simp [Desk.Holds, Desk.act, Desk.found, hstop]
  · refine .inr fun i hi hk => hold i ?_ hk
    by_contra hge
    exact hstop (h.kept.stop_iff.2 ⟨i, Nat.le_of_not_lt hge, hk⟩)

variable [CFloat F] [CFloat D] [CDouble F D] {a : Deed F D}

def Watched (s5 : Bool) (x : Robot F D B × Register) (a : Deed F D)
    (y : Robot F D B × Register) : Prop :=
  Step s5 x.1 a y.1 ∧ y.2 = x.2.after x.1.desk a.block

theorem StartInHand.step (h : s.StartInHand) (hstep : Step s5 s a s') : s'.StartInHand := by
  have hidle (hs : s.desk.stage ≠ .executing) : s.starting = .idle := by
    by_contra hne
    exact hs (h hne).1
  cases hstep with
  | submit r =>
    intro hne
    have hr := s.desk.submit_cases r
    obtain ⟨hs, hk⟩ := h hne
    dsimp only [Desk.act]
    generalize s.desk.submit r = x at hr ⊢
    cases hr <;> exact ⟨hs, hk⟩
  | network => exact h
  | quiet hb hready =>
    have hs := quiet_stage hb hready
    intro hne
    obtain ⟨hst, hk⟩ := h hne
    rcases hs with hs | hs
    · exact absurd hst hs
    · rw [Desk.Holds, hs] at hk
      cases hk
  | stop hready =>
    exact fun hne => absurd (hidle (by rw [hready.1]; decide)) hne
  | sample hs => exact fun hne => absurd (hidle (hs ▸ (by simp))) hne
  | finish hi _ _ hx | wait hi _ _ hx => exact fun hne => absurd (hx.spec.2.1.trans hi) hne
  | claim hi hs hr hk =>
    refine fun _ => ⟨hs, ?_⟩
    rw [Desk.Holds, hr, Option.map_some, hk]
  | started hc =>
    exact fun _ => h (hc ▸ (by simp))
  | @unmapped _ newly _ _ hc | @unstarted _ newly _ _ _ _ _ hc | @unbegun newly _ _ hc =>
    cases newly with
    | true => exact fun _ => h (hc ▸ (by rintro ⟨⟩))
    | false => exact fun hne => absurd rfl hne
  | begun | reopen => exact fun hne => absurd rfl hne
  | unpacked hready =>
    refine fun hne => absurd (hidle ?_) hne
    rw [show s.desk.stage = .publishing from hready]
    decide

/-- **A running drive is governed after every block.** -/
theorem Governed.step (h : Sound s5 s b) (hstep : Step s5 s a s') :
    s'.Governed (b.after s.desk a.block) := by
  have hwas := hstep.runs
  have hstay (hno : ∀ m ∈ a.calls, begins m = false) :
      s'.drive.running = true → s.drive.running = true := was_running h.drive hwas hno
  have hkind (t : ℕ) (hk : b.kind t = some .start) :
      (b.after s.desk a.block).kind t = some .start := Register.kind_after hk s.desk a.block
  have hresults := b.results_after s.desk a.block
  have hno (hs : s.desk.stage ≠ .taken) : ¬s.desk.Holds .stop := h.kept.not_holds_stop hs
  have hfalse {m : Made F D} {d : Drive F D B} (hd : Driving.Step s5 s.drive m d)
      (hm : m.op = .stop) {desk : Desk} {c : Collection} {x : Starting} {map : ActiveMap}
      {b' : Register} : Governed ⟨desk, d, c, x, map⟩ b' := fun hr =>
    absurd ((hd.not_running_of_stop h.drive hm).symm.trans hr) (by simp)
  cases hstep with
  | submit r => exact h.governed_submit r
  | network => exact h.governed
  | @quiet blk hb hready =>
    cases blk with
    | take => exact h.governed_take hready
    | pass | completed | idle | finished | publish => exact h.governed
    | _ => cases hb
  | stop _ hm hd | unbegun _ hm hd | unpacked _ hm hd => exact hfalse hd hm
  | @sample l m d₁ d₂ _ _ hs hl _ hm =>
    have hidle : s.starting = .idle := h.idle_of_stage (hs ▸ (by simp))
    refine h.governed.keep (hstay ?_) hkind hresults (fun t ht => .inr ?_) fun hb =>
      absurd hb (not_begun hidle (by simp))
    · intro p hp
      rcases List.mem_append.1 hp with hp | hp
      · exact begins_eq_false_of_polls (hl p hp)
      · rw [List.mem_singleton.1 hp, begins, hm]
    · have hlt := ht.resolve_left (hno (hs ▸ (by simp)))
      dsimp only [Deed.block, Register.after, Register.next]
      cases s.desk.resetDone (resetOf d₂) <;> exact hlt
  | finish hidle hs hr hx | wait hidle hs hr hx =>
    refine h.governed.keep (hstay fun m hm => (hx.spec.2.2.1 m hm).1) hkind hresults
      (fun t ht => .inr (ht.resolve_left (hno (hs ▸ (by decide))))) fun hb =>
        absurd hb (not_begun hidle (by decide))
  | claim hidle =>
    exact h.governed.keep id hkind hresults (fun _ => id) fun hb =>
      absurd hb (not_begun hidle (by simp))
  | started hc =>
    obtain ⟨hs, hk⟩ := h.start (hc ▸ (by simp))
    have ht : s.desk.taken ≠ none := fun hn => by simp [Desk.Holds, hn] at hk
    obtain ⟨t, hheld, -, -, -, hkt⟩ := h.kept.inTurn hs ht
    exact fun _ => ⟨t, hkt.trans hk, .inr (h.kept.held_after t hheld), .inr ⟨⟨_, rfl⟩, hheld⟩⟩
  | @unmapped _ newly m _ hc hm =>
    obtain ⟨hs, -⟩ := h.start (hc ▸ (by simp))
    refine h.governed.keep (hstay ?_) hkind hresults (fun t ht => .inr ?_) fun hb =>
      absurd hb (not_begun hc (by simp))
    · intro p hp
      rw [List.mem_singleton.1 hp, begins, hm]
    · have hlt := ht.resolve_left (hno (hs ▸ (by simp)))
      cases newly <;> exact hlt
  | @unstarted _ newly _ m₁ m₂ _ _ hc hm₁ _ _ hm₂ _ hok =>
    obtain ⟨hs, -⟩ := h.start (hc ▸ (by simp))
    refine h.governed.keep (hstay ?_) hkind hresults (fun t ht => .inr ?_) fun hb =>
      absurd hb (not_begun hc (by simp))
    · intro p hp
      simp only [Deed.calls, List.mem_cons, List.not_mem_nil, or_false] at hp
      rcases hp with rfl | rfl
      · rw [begins, hm₁]
      · rw [begins, hm₂, hok]
    · have hlt := ht.resolve_left (hno (hs ▸ (by simp)))
      cases newly <;> exact hlt
  | begun hc =>
    obtain ⟨hs, -⟩ := h.start (hc ▸ (by simp))
    intro hr
    obtain ⟨t, hk, hstop, hres⟩ := h.governed hr
    refine ⟨t, hkind t hk, .inr (hstop.resolve_left (hno (hs ▸ (by simp)))), .inl ?_⟩
    rcases hres with hm | ⟨-, hheld⟩
    · exact hresults.subset hm
    · exact List.mem_append_right _ (by simp [hheld])
  | reopen hc =>
    obtain ⟨hs, -⟩ := h.start (hc ▸ (by simp))
    exact h.governed.keep id hkind hresults
      (fun t ht => .inr (ht.resolve_left (hno (hs ▸ (by simp))))) fun hb =>
        absurd hb (not_begun hc (by simp))

/-- Every deed keeps the robot sound. -/
theorem Sound.step (h : Sound s5 s b) (hstep : Step s5 s a s') :
    Sound s5 s' (b.after s.desk a.block) := by
  obtain ⟨hdesk, hready⟩ := hstep.desk h.start
  refine ⟨?_, hstep.runs.invariant (I := Inv s5) (fun _ _ _ => Inv.step) h.drive,
    h.start.step hstep, Governed.step h hstep⟩
  rw [hdesk]
  cases hb : a.block with
  | none => exact h.kept
  | some blk => exact h.kept.step (hready blk hb)

theorem boot_not_running {config : NavConfig F D} {d₀ d : Drive F D B} {c : List (Made F D)}
    (h₀ : Drive.init config = some d₀) (hc : ∀ m ∈ c, m.op.configures)
    (hd : Driving.Runs s5 d₀ c d) : d.running = false := by
  have hoff : d₀.running = false := by
    obtain ⟨n, -, rfl⟩ := Option.map_eq_some_iff.1 h₀
    rfl
  by_contra hrun
  refine absurd (hoff.symm.trans (was_running (Inv.init h₀ s5) hd (fun m hm => ?_) ?_)) (by decide)
  · unfold begins
    split
    · rename_i hop
      have hconf := hc m hm
      rw [hop] at hconf
      cases hconf
    · rfl
  · simpa using hrun

theorem Sound.boot {config : NavConfig F D} {d₀ d : Drive F D B} {c : List (Made F D)}
    (h₀ : Drive.init config = some d₀) (hc : ∀ m ∈ c, m.op.configures)
    (hd : Driving.Runs s5 d₀ c d) (status : Status) : Sound s5 (boot status d) .empty := by
  refine ⟨.boot status, Inv.runs h₀ hd, fun hne => absurd rfl hne, fun hrun => ?_⟩
  exact absurd ((boot_not_running h₀ hc hd).symm.trans hrun) nofun

/-- Every run keeps it sound. -/
theorem Sound.watched {x : Robot F D B × Register} {l : List (Deed F D)}
    (h : Sound s5 s b) (hl : Run.Path (Watched s5) (s, b) l x) : Sound s5 x.1 x.2 :=
  hl.invariant (I := fun y : Robot F D B × Register => Sound s5 y.1 y.2)
    (fun _ _ _ hy hstep => hstep.2 ▸ hy.step hstep.1) h

theorem Step.samples_spec (h : Step s5 s a s') {m : Made F D} (hm : m ∈ a.calls)
    (hs : samples m) :
    s.desk.stage = .sampling ∧ ∀ p ∈ a.calls, begins p = false := by
  have hone {p : Made F D} (hp : m ∈ [p]) (hq : samples p = false) : False := by
    rw [List.mem_singleton.1 hp, hq] at hs
    cases hs
  cases h with
  | submit | network | quiet | claim | begun | reopen => exact absurd hm List.not_mem_nil
  | stop _ hop | unbegun _ hop | unpacked _ hop | unmapped _ hop =>
    exact (hone hm (by rw [samples, hop])).elim
  | finish _ _ _ hx | wait _ _ _ hx =>
    exact absurd (hs.symm.trans (hx.spec.2.2.1 m hm).2) (by decide)
  | started _ hm₁ _ _ hm₂ | unstarted _ hm₁ _ _ hm₂ =>
    simp only [Deed.calls, List.mem_cons, List.not_mem_nil, or_false] at hm
    rcases hm with rfl | rfl
    · rw [samples, hm₁] at hs
      cases hs
    · rw [samples, hm₂] at hs
      cases hs
  | sample hst hl _ hop =>
    refine ⟨hst, fun p hp => ?_⟩
    rcases List.mem_append.1 hp with hp | hp
    · exact begins_eq_false_of_polls (hl p hp)
    · rw [List.mem_singleton.1 hp, begins, hop]

/-- **Motion is asked for only under a START that came after every STOP the owner knows of.** -/
theorem Sound.motion (h : Sound s5 s b) (hstep : Step s5 s a s') {m : Made F D}
    (hm : m ∈ a.calls) {e : Event F} (he : e ∈ m.calls) (hr : e.1.isRequest) :
    ∃ t, b.kind t = some .start ∧ (some t, true) ∈ b.results ∧
      ∀ i < b.begun, b.kind i = some .stop → i < t := by
  -- the drive just before the call was running
  obtain ⟨l₁, l₂, hcalls⟩ := List.append_of_mem hm
  have hruns := hstep.runs
  rw [hcalls] at hruns
  obtain ⟨d, d', hl₁, hd⟩ := hruns.reaches
  have hinv : Inv s5 d := hl₁.invariant (I := Inv s5) (fun _ _ _ => Inv.step) h.drive
  obtain ⟨frame, feedback, -, -, hop, hrun, -⟩ := hinv.step_authorised hd he hr
  have hsamples : samples m := by rw [samples, hop]
  obtain ⟨hs, hno⟩ := hstep.samples_spec hm hsamples
  have hrunning : s.drive.running := by
    refine was_running h.drive hl₁ (fun p hp => hno p ?_) hrun
    rw [hcalls]
    exact List.mem_append_left _ hp
  obtain ⟨t, hk, hstop, hres⟩ := h.governed hrunning
  have hidle : s.starting = .idle := h.idle_of_stage (hs ▸ (by simp))
  refine ⟨t, hk, hres.resolve_right fun hb => not_begun hidle (by simp) hb.1, ?_⟩
  exact hstop.resolve_left (h.kept.not_holds_stop (hs ▸ (by simp)))

/-! ## What the callers can rely on -/

/-- What holds of the desk, whoever comes to it and whenever. -/
structure Orderly (s5 : Bool) (s : Robot F D B) (b : Register) : Prop where
  /-- A STOP that was accepted since the last cycle began is what the next one finds, -/
  stop_found : s.desk.stage = .asleep → (∃ i, b.begun ≤ i ∧ b.kind i = some .stop) →
    (s.desk.act .take).Holds .stop
  /-- and the next block of the owner carries it out. -/
  stop_first : s.desk.Holds .stop → s.desk.stage = .taken ∧
    ∀ block calls s', Step s5 s (.owner block calls) s' →
      block = some .stop ∧ ∃ m, calls = [m] ∧ m.op = .stop
  /-- Motion is asked for only after a START has succeeded that was accepted after every STOP that
  was accepted before the cycle began. -/
  motion : ∀ a s', Step s5 s a s' → ∀ m ∈ a.calls, ∀ e ∈ m.calls, e.1.isRequest = true →
    ∃ t, b.kind t = some .start ∧ (some t, true) ∈ b.results ∧
      ∀ i < b.begun, b.kind i = some .stop → i < t
  /-- What is in hand is what was accepted. -/
  in_hand : ∀ t, b.held = some t →
    ∃ r, b.accepted[t]? = some r ∧ s.desk.taken = some r.canonical
  /-- No request is executed or counted twice, and the sequence counts the results. -/
  at_most_once : b.executed.Nodup ∧ b.counted.Nodup ∧ (∀ t ∈ b.counted, t ∈ b.executed) ∧
    s.desk.sequence = UInt32.ofNat b.results.length
  /-- Without a later STOP, a request that the owner has seen was executed and counted by the end
  of the cycle, unless it is a RESET that the drive is still working on. -/
  exactly_once : ∀ t, b.Live t → t < b.begun → s.desk.stage = .asleep →
    t ∈ b.executed ∧ (t ∈ b.counted ∨ b.kind t = some .reset ∧ b.resetting = some t)
  /-- Executed and counted requests stay so. -/
  stays : ∀ a s', Step s5 s a s' → b.results <+: (b.after s.desk a.block).results
  /-- A command is accepted only while nothing waits and no RESET is unfinished. -/
  accepts : ∀ r, r.kind ≠ .stop → (s.desk.submit r).1 = true →
    b.waiting = none ∧ ∀ t, ¬b.Unfinished t
  /-- The desk is closed for an unfinished RESET, and otherwise only between its result and the
  owner's next block, which opens it. -/
  reset_pending : s.desk.resetPending = true →
    (∃ t, b.Unfinished t) ∨ s.desk.stage = .completing ∨ s.desk.stage = .finishing
  reset_cleared : s.desk.stage = .completing ∨ s.desk.stage = .finishing →
    ∀ block calls s', Step s5 s (.owner block calls) s' → s'.desk.resetPending = false

variable {block : Option Block} {calls : List (Made F D)}

theorem Step.routine (h : Step s5 s (.owner block calls) s') (hs : s.StartInHand)
    (hne : s.desk.stage ≠ .executing) :
    ∃ blk, block = some blk ∧ s.desk.Ready blk ∧ s'.desk = s.desk.act blk ∧
      (blk.isQuiet ∨ (∃ m, calls = [m] ∧ m.op = .stop) ∧ (∀ r, blk ≠ .submit r) ∨
        ∃ reset, blk = .sample reset) := by
  have hstarted {x : Starting} (hx : s.starting = x) (hx' : x ≠ .idle) : False :=
    hne (hs (hx ▸ hx')).1
  cases h with
  | @quiet blk hb hready => exact ⟨blk, rfl, hready, rfl, .inl hb⟩
  | sample hst => exact ⟨_, rfl, hst, rfl, .inr (.inr ⟨_, rfl⟩)⟩
  | finish _ hst | wait _ hst | claim _ hst => exact absurd hst hne
  | unmapped hc | started hc | unstarted hc | begun hc | unbegun hc | reopen hc =>
    exact (hstarted hc nofun).elim
  | @stop m _ hready hm | @unpacked _ m _ hready hm =>
    exact ⟨_, rfl, hready, rfl, .inr (.inl ⟨⟨m, rfl, hm⟩, nofun⟩)⟩

/-- A STOP in hand is served before anything else. -/
theorem Sound.stop_first (h : Sound s5 s b) (hs : s.desk.Holds .stop)
    (hstep : Step s5 s (.owner block calls) s') :
    block = some .stop ∧ ∃ m, calls = [m] ∧ m.op = .stop := by
  have hstage : s.desk.stage = .taken := h.kept.stop_first hs
  obtain ⟨blk, rfl, hready, -, hkind⟩ := hstep.routine h.start (hstage ▸ nofun)
  have helse {x : Desk.Stage} (hx : s.desk.stage = x) (hne : x ≠ .taken) : False :=
    hne (hx.symm.trans hstage)
  cases blk with
  | stop => exact ⟨rfl, by simpa [Block.isQuiet] using hkind⟩
  | pass => exact absurd hs hready.2
  | submit => simp [Block.isQuiet] at hkind
  | take | sample | completed | finished | publish => exact (helse hready nofun).elim
  | idle | finish | wait => exact (helse hready.1 nofun).elim

theorem Sound.reset_cleared (h : Sound s5 s b)
    (hs : s.desk.stage = .completing ∨ s.desk.stage = .finishing)
    (hstep : Step s5 s (.owner block calls) s') : s'.desk.resetPending = false := by
  have hne : s.desk.stage ≠ .executing := by
    rcases hs with hs | hs <;> rw [hs] <;> decide
  obtain ⟨blk, rfl, hready, hdesk, hkind⟩ := hstep.routine h.start hne
  have helse {x : Desk.Stage} (hx : s.desk.stage = x) (hc : x ≠ .completing)
      (hf : x ≠ .finishing) : False :=
    hs.elim (fun hs => hc (hx.symm.trans hs)) fun hs => hf (hx.symm.trans hs)
  rw [hdesk]
  cases blk with
  | completed | finished => rfl
  | submit => simp [Block.isQuiet] at hkind
  | stop | pass | idle | finish | wait => exact (helse hready.1 nofun nofun).elim
  | take | sample | publish => exact (helse hready nofun nofun).elim

section Bench

def benchStatus : Status := ⟨.off, 0, false, false, .barcode, 0⟩

def bench : Robot ℚ ℚ benchReaders := boot benchStatus benchDrive

def benchAt (l : List Block) : Robot ℚ ℚ benchReaders × Register :=
  ({ bench with desk := (l.foldl Desk.act bench.desk) },
    (l.foldl (fun x a => (x.1.act a, x.2.next x.1 a)) (bench.desk, Register.empty)).2)

end Bench

end Robot

end RoboticCar.Integration
