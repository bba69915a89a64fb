import RoboticCar.Obstacle.Scanner

/-!
# One scan at a time

A request for a scan is accepted when the mailbox is free, and sets `busy`; `ScanWatch` adds the
outstanding request.  The task clears `busy` in a later block than the one in which it reads the
mailbox, so a request in between loses it and the next one is accepted while its scan runs
(`second_scan_accepted`).  `one_scan_at_a_time`: this does not happen to requests between two
rounds.
-/

namespace RoboticCar.Obstacle

open Lib

def Scanner.current (t : Scanner) : UInt16 := if t.peekId ≠ 0 then t.peekId else t.obs.scanId

/-- The subsystem and the request that is outstanding. -/
structure ScanWatch where
  sys : ScanSystem
  outstanding : Option UInt16

namespace ScanWatch

def start : ScanWatch := ⟨.start, none⟩

def accepts (b : Mailbox) : ScanAct → Option UInt16
  | .requestScan id => if (b.requestScan id).1 then some id else none
  | .requestPeek id angle => if (b.requestPeek id angle).1 then some id else none
  | _ => none

def moves (s : ScanSystem) : ScanAct → Bool
  | .judge _ still =>
    match s.pc with
    | .taken _ m => s.task.initialized && !m.cancel && s.task.scanning && !still
    | _ => false
  | _ => false

/-- The id under which the step publishes the outcome of a scan that is over. -/
def publishes (s : ScanSystem) : ScanAct → Option UInt16
  | .publish =>
    if s.pc = .publishing ∧ s.task.scanning = false ∧ s.task.obs.scanDone = true then
      some s.task.obs.scanId
    else none
  | _ => none

def settle (w : ScanWatch) (a : ScanAct) : Option UInt16 :=
  match accepts w.sys.box a with
  | some id => some id
  | none =>
    if a = .cancelScan ∨ (moves w.sys a = true ∧ w.outstanding = some w.sys.task.current) ∨
        (w.outstanding.isSome ∧ w.outstanding = publishes w.sys a) then none
    else w.outstanding

def act (w : ScanWatch) (a : ScanAct) : ScanWatch := ⟨w.sys.act a, w.settle a⟩

/-- A request that is accepted finds the task between two rounds, with its hardware started. -/
def Timely (w : ScanWatch) (a : ScanAct) : Prop :=
  (accepts w.sys.box a).isSome → w.sys.pc = .top ∧ w.sys.task.initialized = true

instance (w : ScanWatch) (a : ScanAct) : Decidable (Timely w a) :=
  inferInstanceAs (Decidable ((accepts w.sys.box a).isSome = true →
    w.sys.pc = .top ∧ w.sys.task.initialized = true))

def OneAtATime (w : ScanWatch) (a : ScanAct) : Prop :=
  (accepts w.sys.box a).isSome → w.outstanding = none

/-! ## What a round does for the outstanding request -/

/-- The task serves the request: its scan is running, or it is over. -/
def Serves (t : Scanner) (id : UInt16) : Prop :=
  (t.scanning = true ∧ t.current = id) ∨
    (t.scanning = false ∧ t.obs.scanDone = true ∧ t.obs.scanId = id)

/-- What serving a request depends on is the same. -/
structure SameService (t t' : Scanner) : Prop where
  scanning : t'.scanning = t.scanning
  peekId : t'.peekId = t.peekId
  initialized : t'.initialized = t.initialized
  scanDone : t'.obs.scanDone = t.obs.scanDone
  scanId : t'.obs.scanId = t.obs.scanId

/-- A scan that runs was started by the hardware, and a look to the side is a scan that runs. -/
structure Tidy (t : Scanner) : Prop where
  peek : t.scanning = false → t.peekId = 0
  started : t.scanning = true → t.initialized = true

variable {t t' : Scanner} {id : UInt16}

theorem SameService.serves (h : SameService t t') (hs : Serves t id) : Serves t' id := by
  unfold Serves Scanner.current at hs ⊢
  rwa [h.scanning, h.peekId, h.scanDone, h.scanId]

theorem SameService.tidy (h : SameService t t') (ht : Tidy t) : Tidy t' :=
  ⟨by rw [h.scanning, h.peekId]; exact ht.peek,
    by rw [h.scanning, h.initialized]; exact ht.started⟩

theorem ping_same (t : Scanner) (now : UInt32) (e : Echo) : SameService t (t.ping now e).2 := by
  unfold Scanner.ping
  split_ifs <;> exact ⟨rfl, rfl, rfl, rfl, rfl⟩

theorem hide_same (t : Scanner) (now : UInt32) : SameService t (t.hide now) := by
  unfold Scanner.hide
  split_ifs <;> exact ⟨rfl, rfl, rfl, rfl, rfl⟩

/-- What a stage of a round does for a request. -/
structure Stage (t t' : Scanner) : Prop where
  tidy : Tidy t → Tidy t'
  initialized : t'.initialized = t.initialized
  serves : ∀ id, Tidy t → Serves t id → Serves t' id
  rests : t.scanning = false → t'.scanning = false

theorem SameService.stage (h : SameService t t') : Stage t t' :=
  ⟨h.tidy, h.initialized, fun _ _ => h.serves, fun hs => h.scanning.trans hs⟩

theorem Stage.trans {t₁ t₂ t₃ : Scanner} (h : Stage t₁ t₂) (h' : Stage t₂ t₃) : Stage t₁ t₃ :=
  ⟨fun ht => h'.tidy (h.tidy ht), h'.initialized.trans h.initialized,
    fun id ht hs => h'.serves id (h.tidy ht) (h.serves id ht hs), fun hs => h'.rests (h.rests hs)⟩

theorem Stage.of_ends (hscan : t.scanning) (hends : t'.scanning = false)
    (hpeek : t'.peekId = 0) (hinit : t'.initialized = t.initialized)
    (hdone : t'.obs.scanDone) (hid : t'.obs.scanId = t.current) : Stage t t' := by
  refine ⟨fun _ => ⟨fun _ => hpeek, fun h => ?_⟩, hinit, fun id _ hs => ?_, fun _ => hends⟩
  · cases hends.symm.trans h
  · rcases hs with ⟨-, rfl⟩ | ⟨hrest, -⟩
    · exact .inr ⟨hends, hdone, hid⟩
    · cases hscan.symm.trans hrest

theorem finish_stage (now : UInt32) (hscan : t.scanning) : Stage t (t.finish now) := by
  unfold Scanner.finish
  by_cases hpeek : t.peekId ≠ 0
  · rw [if_pos hpeek]
    exact .of_ends hscan rfl rfl rfl rfl (if_pos hpeek).symm
  rw [if_neg hpeek]
  split_ifs
  all_goals exact .of_ends hscan rfl (not_not.1 hpeek) rfl rfl (if_neg hpeek).symm

theorem timeOut_stage (t : Scanner) (now : UInt32) : Stage t (t.timeOut now) := by
  unfold Scanner.timeOut
  by_cases hlate : t.scanning = true ∧ now - t.scan.startedUs ≥ scanTimeoutUs
  · rw [if_pos hlate]
    exact .of_ends hlate.1 rfl rfl rfl rfl rfl
  · rw [if_neg hlate]
    exact SameService.stage ⟨rfl, rfl, rfl, rfl, rfl⟩

theorem measured_stage (t : Scanner) (now : UInt32) (mm : ℕ) (valid : Bool) :
    Stage t (t.measured now mm valid) := by
  unfold Scanner.measured
  obtain ⟨failures, noEcho, hcount, -⟩ := t.count_obs valid
  simp only [hcount]
  split_ifs with hscan
  · refine Stage.trans ?_ (finish_stage now (by exact hscan))
    exact SameService.stage ⟨rfl, rfl, rfl, rfl, rfl⟩
  all_goals exact SameService.stage ⟨rfl, rfl, rfl, rfl, rfl⟩

theorem work_stage (t : Scanner) (now : UInt32) (m : Taken) (still : Bool) (e : Echo) :
    Stage (t.request now m still) (t.work now m still e) := by
  unfold Scanner.work
  have hping := (ping_same (t.request now m still) now e).stage
  generalize (t.request now m still).ping now e = p at hping ⊢
  obtain ⟨r, u⟩ := p
  cases r with
  | none => exact (hping.trans (timeOut_stage _ now)).trans (hide_same _ now).stage
  | some =>
    exact ((hping.trans (measured_stage _ now _ _)).trans (timeOut_stage _ now)).trans
      (hide_same _ now).stage

theorem request_none (t : Scanner) (now : UInt32) {m : Taken} (still : Bool) (h : m.req = 0) :
    t.request now m still = t := by
  simp [Scanner.request, h]

theorem request_serves (now : UInt32) {m : Taken} (still : Bool) (ht : Tidy t) (hreq : m.req ≠ 0)
    (hcancel : m.cancel = false) (hscan : t.scanning = false) (hinit : t.initialized) :
    Serves (t.request now m still) m.req ∧ Tidy (t.request now m still) ∧
      (t.request now m still).initialized = true := by
  unfold Scanner.request
  by_cases hpeek : m.reqAngle ≠ 0
  · rw [if_pos ⟨hreq, hpeek, by simp [hcancel]⟩]
    split
    · exact ⟨.inr ⟨hscan, rfl, rfl⟩, ⟨ht.peek, ht.started⟩, hinit⟩
    · exact ⟨.inl ⟨rfl, if_pos hreq⟩, ⟨nofun, fun _ => hinit⟩, hinit⟩
  rw [if_neg fun h => hpeek h.2.1, if_pos ⟨hreq, by simp [hcancel]⟩]
  split_ifs
  · exact ⟨.inr ⟨hscan, rfl, rfl⟩, ⟨ht.peek, ht.started⟩, hinit⟩
  · exact ⟨.inl ⟨rfl, if_neg (not_not.2 (ht.peek hscan))⟩, ⟨nofun, fun _ => hinit⟩, hinit⟩

/-- What the task owes to what it read from the mailbox. -/
structure Carries (t : Scanner) (busy : Bool) (m : Taken) : Prop where
  cancel : m.cancel = true → m.req = 0
  busy : m.req ≠ 0 → busy = true
  rests : m.req ≠ 0 → t.scanning = false
  started : m.req ≠ 0 → t.initialized = true

def Placed (t : Scanner) (busy : Bool) : Pc → Prop
  | .top | .publishing => True
  | .taken _ m | .judged _ m => Carries t busy m
  | .aborted _ m => m.req = 0 ∧ t.scanning = false
  | .idle => t.scanning = false

def Waits (t : Scanner) (requested id : UInt16) : Pc → Prop
  | .top => requested = id ∨ (t.scanning = true ∧ t.current = id)
  | .taken _ m | .judged _ m =>
    m.cancel = false ∧ (m.req = id ∨ (t.scanning = true ∧ t.current = id))
  | .aborted _ _ => False
  | .idle | .publishing => Serves t id

/-- What a run keeps in which requests are accepted in time. -/
structure Orderly (w : ScanWatch) : Prop where
  tidy : Tidy w.sys.task
  busy : w.sys.task.scanning = true → w.sys.box.busy = true
  placed : Placed w.sys.task w.sys.box.busy w.sys.pc
  -- a request lies in the mailbox only between two rounds
  fresh : w.sys.box.requested ≠ 0 → w.sys.pc = .top ∧ w.sys.box.busy = true ∧
    w.sys.box.cancel = false ∧ w.sys.task.scanning = false ∧ w.sys.task.initialized = true
  waits : ∀ id, w.outstanding = some id → id ≠ 0 ∧ w.sys.box.cancel = false ∧
    w.sys.task.initialized = true ∧ Waits w.sys.task w.sys.box.requested id w.sys.pc

theorem orderly_start : start.Orderly where
  tidy := ⟨fun _ => rfl, nofun⟩
  busy := nofun
  placed := trivial
  fresh h := absurd rfl h
  waits := nofun

/-! ## The steps -/

variable {a : ScanAct}

theorem act_of_accepts {s : ScanSystem} (h : accepts s.box a = some id) :
    id ≠ 0 ∧ s.box.free ∧ ∃ angle,
      s.act a = { s with
        box := { s.box with requested := id, requestedAngle := angle, busy := true } } := by
  cases a with
  | requestScan i =>
    by_cases hfree : i ≠ 0 ∧ s.box.free
    · have hr : s.box.requestScan i = (true, _) := if_pos hfree
      simp only [accepts, hr, if_true, Option.some.injEq] at h
      subst h
      exact ⟨hfree.1, hfree.2, s.box.requestedAngle, by simp only [ScanSystem.act, hr]⟩
    · have hr : s.box.requestScan i = (false, _) := if_neg hfree
      simp [accepts, hr] at h
  | requestPeek i angle =>
    by_cases hfree : i ≠ 0 ∧ peekAngleValid angle = true ∧ s.box.free
    · have hr : s.box.requestPeek i angle = (true, _) := if_pos hfree
      simp only [accepts, hr, if_true, Option.some.injEq] at h
      subst h
      exact ⟨hfree.1, hfree.2.2, angle, by simp only [ScanSystem.act, hr]⟩
    · have hr : s.box.requestPeek i angle = (false, _) := if_neg hfree
      simp [accepts, hr] at h
  | _ => cases h

theorem act_requestScan_refused {s : ScanSystem} (h : accepts s.box (.requestScan id) = none) :
    s.act (.requestScan id) = s := by
  by_cases hfree : id ≠ 0 ∧ s.box.free
  · have hr : s.box.requestScan id = (true, _) := if_pos hfree
    simp [accepts, hr] at h
  · have hr : s.box.requestScan id = (false, _) := if_neg hfree
    simp only [ScanSystem.act, hr]

theorem act_requestPeek_refused {s : ScanSystem} {angle : ℕ}
    (h : accepts s.box (.requestPeek id angle) = none) : s.act (.requestPeek id angle) = s := by
  by_cases hfree : id ≠ 0 ∧ peekAngleValid angle = true ∧ s.box.free
  · have hr : s.box.requestPeek id angle = (true, _) := if_pos hfree
    simp [accepts, hr] at h
  · have hr : s.box.requestPeek id angle = (false, _) := if_neg hfree
    simp only [ScanSystem.act, hr]

variable {w : ScanWatch}

/-- What is outstanding after a step that accepts nothing was so before, and was neither cancelled,
given up nor published. -/
theorem settle_some (hacc : accepts w.sys.box a = none) (h : w.settle a = some id) :
    w.outstanding = some id ∧ a ≠ .cancelScan ∧
      ¬(moves w.sys a ∧ w.sys.task.current = id) ∧ publishes w.sys a ≠ some id := by
  unfold settle at h
  rw [hacc] at h
  rw [Option.ite_none_left_eq_some, not_or, not_or] at h
  obtain ⟨⟨hcancel, hmoves, hpublishes⟩, h⟩ := h
  refine ⟨h, hcancel, fun hm => hmoves ⟨hm.1, by rw [h, hm.2]⟩, fun hp => hpublishes ?_⟩
  rw [h, hp]
  exact ⟨rfl, rfl⟩

theorem Orderly.oneAtATime (h : w.Orderly) (ha : Timely w a) : OneAtATime w a := by
  intro hacc
  by_contra hout
  obtain ⟨id, hid⟩ := Option.ne_none_iff_exists'.1 hout
  obtain ⟨hne, -, -, hwaits⟩ := h.waits id hid
  obtain ⟨new, hnew⟩ := Option.isSome_iff_exists.1 hacc
  obtain ⟨-, hfree, -⟩ := act_of_accepts hnew
  simp only [Waits, (ha hacc).1] at hwaits
  simp only [Mailbox.free, Bool.and_eq_true, decide_eq_true_eq, Bool.not_eq_true'] at hfree
  rcases hwaits with hreq | ⟨hscan, -⟩
  · exact hne (hreq.symm.trans hfree.1.1)
  · exact absurd (h.busy hscan) (by simp [hfree.1.2])

/-- A request is accepted in order. -/
theorem Orderly.accept (h : w.Orderly) (ha : Timely w a) (hacc : accepts w.sys.box a = some id) :
    (w.act a).Orderly := by
  obtain ⟨hpc, hinit⟩ := ha (by simp [hacc])
  obtain ⟨hne, hfree, angle, hact⟩ := act_of_accepts hacc
  simp only [Mailbox.free, Bool.and_eq_true, decide_eq_true_eq, Bool.not_eq_true'] at hfree
  have hscan : w.sys.task.scanning = false := by
    by_contra hscan
    exact absurd (h.busy (by simpa using hscan)) (by simp [hfree.1.2])
  have hsettle : w.settle a = some id := by simp only [settle, hacc]
  unfold ScanWatch.act
  rw [hact, hsettle]
  refine ⟨h.tidy, fun _ => rfl, ?_, fun _ => ⟨hpc, rfl, hfree.2, hscan, hinit⟩, fun i hi => ?_⟩
  · simp only [Placed, hpc]
  · obtain rfl := Option.some.inj hi
    refine ⟨hne, hfree.2, hinit, ?_⟩
    simp only [Waits, hpc, true_or]

theorem Orderly.cancel (h : w.Orderly) : (w.act .cancelScan).Orderly := by
  have hsettle : w.settle .cancelScan = none := by simp [settle, accepts]
  unfold ScanWatch.act
  rw [hsettle]
  exact ⟨h.tidy, h.busy, h.placed, fun hreq => absurd rfl hreq, nofun⟩

theorem Orderly.same (h : w.Orderly) (hacc : accepts w.sys.box a = none)
    (hact : w.sys.act a = w.sys) : (w.act a).Orderly := by
  unfold ScanWatch.act
  rw [hact]
  exact ⟨h.tidy, h.busy, h.placed, h.fresh, fun id hid => h.waits id (settle_some hacc hid).1⟩

theorem Orderly.take (h : w.Orderly) (now : UInt32) : (w.act (.take now)).Orderly := by
  by_cases hpc : w.sys.pc = .top
  swap
  · refine h.same rfl ?_
    cases hp : w.sys.pc <;> simp [ScanSystem.act, hp] at hpc ⊢
  have hact : w.sys.act (.take now) = { w.sys with
      box := { w.sys.box with cancel := false, requested := 0, requestedAngle := 0 }
      pc := .taken now ⟨w.sys.box.cancel, w.sys.box.requested, w.sys.box.requestedAngle⟩ } := by
    simp only [ScanSystem.act, hpc]
  unfold ScanWatch.act
  rw [hact]
  refine ⟨h.tidy, h.busy, ⟨fun hc => ?_, fun hreq => ?_, fun hreq => ?_, fun hreq => ?_⟩,
    fun hreq => absurd rfl hreq, fun id hid => ?_⟩
  · by_contra hreq
    exact absurd hc (by simp [(h.fresh hreq).2.2.1])
  · exact (h.fresh hreq).2.1
  · exact (h.fresh hreq).2.2.2.1
  · exact (h.fresh hreq).2.2.2.2
  · obtain ⟨hne, hcancel, hinit, hwaits⟩ := h.waits id (settle_some (a := .take now) rfl hid).1
    rw [hpc] at hwaits
    exact ⟨hne, rfl, hinit, hcancel, hwaits⟩

theorem bringUp_same (t : Scanner) (now : UInt32) (hw : Hardware) :
    (t.bringUp now hw).scanning = t.scanning ∧ (t.bringUp now hw).peekId = t.peekId := by
  unfold Scanner.bringUp
  split_ifs <;> exact ⟨rfl, rfl⟩

theorem Orderly.judge (h : w.Orderly) (hw : Hardware) (still : Bool) :
    (w.act (.judge hw still)).Orderly := by
  cases hpc : w.sys.pc with
  | taken now m =>
    have hcarries : Carries w.sys.task w.sys.box.busy m := by
      have := h.placed
      rwa [hpc] at this
    have hempty : w.sys.box.requested = 0 := by
      by_contra hreq
      exact absurd (h.fresh hreq).1 (by simp [hpc])
    have hwaits : ∀ id, w.settle (.judge hw still) = some id → id ≠ 0 ∧
        w.sys.box.cancel = false ∧ w.sys.task.initialized = true ∧ m.cancel = false ∧
        (m.req = id ∨ (w.sys.task.scanning = true ∧ w.sys.task.current = id)) := by
      intro id hid
      have := h.waits id (settle_some (a := .judge hw still) rfl hid).1
      rwa [hpc] at this
    unfold ScanWatch.act
    by_cases hinit : w.sys.task.initialized
    swap
    · have hrests : w.sys.task.scanning = false := by
        by_contra hscan
        exact hinit (h.tidy.started (by simpa using hscan))
      have hact : w.sys.act (.judge hw still) =
          { w.sys with task := w.sys.task.bringUp now hw, pc := .publishing } := by
        simp [ScanSystem.act, hpc, hinit]
      obtain ⟨hscan, hpeek⟩ := bringUp_same w.sys.task now hw
      rw [hact]
      refine ⟨⟨fun _ => hpeek.trans (h.tidy.peek hrests), fun hs => ?_⟩, fun hs => ?_, trivial,
        fun hreq => absurd hempty hreq, fun id hid => ?_⟩
      · cases hs.symm.trans (hscan.trans hrests)
      · cases hs.symm.trans (hscan.trans hrests)
      · exact absurd (hwaits id hid).2.2.1 hinit
    by_cases habort : m.cancel = true ∨ (w.sys.task.scanning = true ∧ (!still) = true)
    · have hact : w.sys.act (.judge hw still) =
          { w.sys with task := w.sys.task.abort now, pc := .aborted now m } := by
        simp only [ScanSystem.act, hpc, hinit, Bool.not_true, Bool.false_eq_true, if_false,
          if_pos habort]
      rw [hact]
      refine ⟨⟨fun _ => rfl, (by rintro ⟨⟩)⟩, (by rintro ⟨⟩), ⟨?_, rfl⟩,
        fun hreq => absurd hempty hreq,
        fun id hid => ?_⟩
      · rcases habort with hcancel | ⟨hscan, -⟩
        · exact hcarries.cancel hcancel
        · by_contra hreq
          exact absurd (hcarries.rests hreq) (by simp [hscan])
      · -- the request that is outstanding is the one whose scan was running
        obtain ⟨hne, -, -, hcancel, hreq⟩ := hwaits id hid
        obtain ⟨hscan, hstill⟩ := habort.resolve_left (by simp [hcancel])
        rcases hreq with hreq | ⟨-, hcurrent⟩
        · exact absurd (hcarries.rests (hreq ▸ hne)) (by simp [hscan])
        · refine absurd ⟨?_, hcurrent⟩ (settle_some (a := .judge hw still) rfl hid).2.2.1
          simpa [moves, hpc, hinit, hcancel, hscan] using hstill
    · have hact : w.sys.act (.judge hw still) = { w.sys with pc := .judged now m } := by
        simp only [ScanSystem.act, hpc, hinit, Bool.not_true, Bool.false_eq_true, if_false,
          if_neg habort]
      rw [hact]
      exact ⟨h.tidy, h.busy, hcarries, fun hreq => absurd hempty hreq, hwaits⟩
  | _ => exact h.same rfl (by simp only [ScanSystem.act, hpc])

theorem Orderly.empty (h : w.Orderly) (hpc : w.sys.pc ≠ .top) : w.sys.box.requested = 0 := by
  by_contra hreq
  exact hpc (h.fresh hreq).1

theorem Orderly.release (h : w.Orderly) : (w.act .release).Orderly := by
  cases hpc : w.sys.pc with
  | aborted now m =>
    have hact : w.sys.act .release =
        { w.sys with box := { w.sys.box with busy := false }, pc := .judged now m } := by
      simp only [ScanSystem.act, hpc]
    have hplaced := h.placed
    rw [hpc] at hplaced
    obtain ⟨hreq, hrests⟩ := hplaced
    have hno (hscan : w.sys.task.scanning) : False :=
      absurd (hscan.symm.trans hrests) (by simp)
    unfold ScanWatch.act
    rw [hact]
    refine ⟨h.tidy, fun hscan => (hno hscan).elim, ⟨fun _ => hreq, ?_, ?_, ?_⟩,
      fun hr => absurd (h.empty (by simp [hpc])) hr, fun id hid => ?_⟩
    · exact fun hne => absurd hreq hne
    · exact fun hne => absurd hreq hne
    · exact fun hne => absurd hreq hne
    · have hwaits := (h.waits id (settle_some (a := .release) rfl hid).1).2.2.2
      rw [hpc] at hwaits
      exact hwaits.elim
  | _ => exact h.same rfl (by simp only [ScanSystem.act, hpc])

theorem Orderly.work (h : w.Orderly) (still : Bool) (e : Echo) :
    (w.act (.work still e)).Orderly := by
  cases hpc : w.sys.pc with
  | judged now m =>
    have hact : w.sys.act (.work still e) = { w.sys with
        task := w.sys.task.work now m still e
        pc := if (w.sys.task.work now m still e).scanning then .publishing else .idle } := by
      simp only [ScanSystem.act, hpc]
    have hcarries : Carries w.sys.task w.sys.box.busy m := by
      have := h.placed
      rwa [hpc] at this
    have hstage := work_stage w.sys.task now m still e
    -- either the request of the round is taken up, or the round goes on with what it has
    have hrequest : Tidy (w.sys.task.request now m still) ∧
        (w.sys.task.request now m still).initialized = w.sys.task.initialized ∧
        ((w.sys.task.request now m still).scanning = true → w.sys.box.busy = true) ∧
        (m.req ≠ 0 → Serves (w.sys.task.request now m still) m.req) ∧
        (m.req = 0 → w.sys.task.request now m still = w.sys.task) := by
      by_cases hreq : m.req = 0
      · rw [request_none _ now still hreq]
        exact ⟨h.tidy, rfl, h.busy, fun hne => absurd hreq hne, fun _ => rfl⟩
      · have hcancel : m.cancel = false := by
          by_contra hc
          exact hreq (hcarries.cancel (by simpa using hc))
        obtain ⟨hserves, htidy, hinit⟩ := request_serves now still h.tidy hreq hcancel
          (hcarries.rests hreq) (hcarries.started hreq)
        exact ⟨htidy, hinit.trans (hcarries.started hreq).symm, fun _ => hcarries.busy hreq,
          fun _ => hserves, fun hz => absurd hz hreq⟩
    obtain ⟨htidy, hinit, hbusy, hserves, hsame⟩ := hrequest
    generalize w.sys.task.request now m still = u at hstage htidy hinit hbusy hserves hsame
    generalize w.sys.task.work now m still e = v at hact hstage
    unfold ScanWatch.act
    rw [hact]
    refine ⟨hstage.tidy htidy, fun hscan => hbusy ?_, ?_,
      fun hr => absurd (h.empty (by simp [hpc])) hr, fun id hid => ?_⟩
    · by_contra hs
      exact absurd (hscan.symm.trans (hstage.rests (by simpa using hs))) (by decide)
    · cases hs : v.scanning <;> simp [Placed, hs]
    · obtain ⟨hne, hcancel, hi, hwaits⟩ :=
        h.waits id (settle_some (a := .work still e) rfl hid).1
      rw [hpc] at hwaits
      have hserved : Serves u id := by
        rcases hwaits.2 with hreq | hrunning
        · exact hreq ▸ hserves (hreq ▸ hne)
        · have hreq : m.req = 0 := by
            by_contra hreq
            exact absurd (hcarries.rests hreq) (by simp [hrunning.1])
          rw [hsame hreq]
          exact .inl hrunning
      refine ⟨hne, hcancel, (hstage.initialized.trans hinit).trans hi, ?_⟩
      have := hstage.serves id htidy hserved
      split_ifs <;> exact this
  | _ => exact h.same rfl (by simp only [ScanSystem.act, hpc])

theorem Orderly.rest (h : w.Orderly) : (w.act .rest).Orderly := by
  cases hpc : w.sys.pc with
  | idle =>
    have hact : w.sys.act .rest =
        { w.sys with box := { w.sys.box with busy := false }, pc := .publishing } := by
      simp only [ScanSystem.act, hpc]
    have hrests : w.sys.task.scanning = false := by
      have := h.placed
      rwa [hpc] at this
    unfold ScanWatch.act
    rw [hact]
    refine ⟨h.tidy, fun hscan => absurd (hscan.symm.trans hrests) (by simp), trivial,
      fun hr => absurd (h.empty (by simp [hpc])) hr, fun id hid => ?_⟩
    have hwaits := h.waits id (settle_some (a := .rest) rfl hid).1
    rwa [hpc] at hwaits
  | _ => exact h.same rfl (by simp only [ScanSystem.act, hpc])

theorem Orderly.publish (h : w.Orderly) : (w.act .publish).Orderly := by
  cases hpc : w.sys.pc with
  | publishing =>
    have hact : w.sys.act .publish =
        { w.sys with box := w.sys.box.publish w.sys.task.obs, pc := .top } := by
      simp only [ScanSystem.act, hpc]
    have hbox : ∃ packet, w.sys.box.publish w.sys.task.obs =
        { w.sys.box with published := packet } := by
      unfold Mailbox.publish
      split <;> exact ⟨_, rfl⟩
    obtain ⟨packet, hbox⟩ := hbox
    unfold ScanWatch.act
    rw [hact, hbox]
    refine ⟨h.tidy, h.busy, trivial, fun hr => absurd (h.empty (by simp [hpc])) hr,
      fun id hid => ?_⟩
    obtain ⟨hout, -, -, hpublishes⟩ := settle_some (a := .publish) rfl hid
    obtain ⟨hne, hcancel, hinit, hwaits⟩ := h.waits id hout
    rw [hpc] at hwaits
    refine ⟨hne, hcancel, hinit, .inr ?_⟩
    rcases hwaits with hrunning | ⟨hrests, hdone, hscanId⟩
    · exact hrunning
    · exact absurd (by simp [publishes, hpc, hrests, hdone, hscanId]) hpublishes
  | _ => exact h.same rfl (by simp only [ScanSystem.act, hpc])

/-- Every timely act is orderly. -/
theorem Orderly.act (h : w.Orderly) (ha : Timely w a) : (w.act a).Orderly := by
  cases hacc : accepts w.sys.box a with
  | some => exact h.accept ha hacc
  | none =>
    cases a with
    | take now => exact h.take now
    | judge hw still => exact h.judge hw still
    | release => exact h.release
    | work still e => exact h.work still e
    | rest => exact h.rest
    | publish => exact h.publish
    | requestScan => exact h.same hacc (act_requestScan_refused hacc)
    | requestPeek => exact h.same hacc (act_requestPeek_refused hacc)
    | cancelScan => exact h.cancel

/-- **One scan at a time.**  If requests come only between two rounds of a started task, one is
accepted only if the one before it was cancelled, given up because the car moved, or finished with
its outcome published. -/
theorem one_scan_at_a_time (acts : List ScanAct)
    (h : Run.Meets ScanWatch.act Timely start acts) :
    Run.Meets ScanWatch.act OneAtATime start acts :=
  Run.meets_of_meets (I := Orderly) (fun _ _ h ha => h.act ha) (fun _ _ h ha => h.oneAtATime ha)
    orderly_start h

def benchRound (now : UInt32) (e : Echo) : List ScanAct :=
  [.take now, .judge ⟨true, true, true⟩ true, .work true e, .rest, .publish]

def silence : Echo := ⟨none, false⟩

/-- The bench: a look to the side is finished by one ping, and then a second one is accepted. -/
def benchActs : List ScanAct :=
  benchRound 0 silence ++ [.requestPeek 1 30] ++ benchRound 10000 silence ++
    benchRound 270000 silence ++ benchRound 280000 ⟨some 1000, false⟩ ++ [.requestPeek 2 30]

theorem one_scan_bench :
    Run.Meets ScanWatch.act OneAtATime start benchActs ∧
      (benchActs.foldl ScanWatch.act start).outstanding = some 2 :=
  ⟨one_scan_at_a_time benchActs (by decide +kernel), by decide +kernel⟩

/-- A request falls between the block that reads the mailbox and the one that clears `busy`; while
its scan is running a second one is accepted. -/
theorem second_scan_accepted :
    let acts := benchRound 0 silence ++
      [.take 10000, .judge ⟨true, true, true⟩ true, .requestScan 1, .work true silence, .rest,
        .publish] ++ benchRound 20000 silence
    let w := acts.foldl ScanWatch.act start
    w.sys.task.scanning = true ∧ w.sys.task.current = 1 ∧ w.outstanding = some 1 ∧
      accepts w.sys.box (.requestScan 2) = some 2 ∧ ¬OneAtATime w (.requestScan 2) := by
  intro acts w
  have hout : w.outstanding = some 1 := by decide +kernel
  have hacc : accepts w.sys.box (.requestScan 2) = some 2 := by decide +kernel
  refine ⟨by decide +kernel, by decide +kernel, hout, hacc, fun h => ?_⟩
  exact absurd ((h (by rw [hacc]; rfl)).symm.trans hout) nofun

end ScanWatch

end RoboticCar.Obstacle
