import RoboticCar.Drive.Client
import RoboticCar.Motion.Queue

/-!
# Commands and their reports

The drive and the motion subsystem as `s3_integration.c` wires them: between two calls of the drive
the motion task and the other tasks run.  `Car` adds the history that the 8-bit ids leave out.

Ids repeat after 255 commands.  A call reads all waiting reports before it asks for motion, and asks
at most once, so the queue only holds reports of the last two commands (`Books.window`), whose ids
differ; `claimed_report` is the consequence.
-/

namespace RoboticCar.Integration

open Lib CFloat Motion Navigation Driving Prog

variable {F D : Type} {B : BarcodeReaders}

section Wiring

variable [CFloat F]

/-- `floor_wheel`: a wheel never creeps more slowly than `S3_MIN_WHEEL_MPS`. -/
def floorWheel (mps : F) : F :=
  if gt mps zero && lt mps (lit (1 / 100)) then lit (1 / 100) else mps

/-- The request that a call of the port makes, and its result. -/
inductive Requests : Event F → Request F → MotionResult → Prop
  | velocity (left right : F) (x : MotionResult) :
      Requests ⟨.velocity left right, x⟩ (.velocity (floorWheel left) (floorWheel right)) x
  | manoeuvre (m : Manoeuvre) (x : MotionResult) : Requests ⟨.manoeuvre m, x⟩ (.manoeuvre m) x
  | drive (meters speed : F) (x : MotionResult) :
      Requests ⟨.drive meters speed, x⟩ (.drive meters speed) x
  | requestDrive (meters speed : F) (x : MotionResult) :
      Requests ⟨.requestDrive meters speed, x⟩ (.drive meters speed) x
  | requestTurn (degrees speed : F) (x : MotionResult) :
      Requests ⟨.requestTurn degrees speed, x⟩ (.turn degrees speed) x

theorem Requests.isRequest {e : Event F} {q : Request F} {x : MotionResult}
    (h : Requests e q x) : e.1.isRequest := by
  cases h <;> rfl

/-- The calls of the port that neither ask for motion nor read from the subsystem. -/
inductive Tells [CFloat D] [CDouble F D] (s : System F D) : Event F → System F D → Prop
  | stop : Tells s ⟨.stop, ()⟩ (s.act .stop)
  | heartbeat (enabled : Bool) : Tells s ⟨.heartbeat enabled, ()⟩ (s.act (.heartbeat enabled))
  | reset : Tells s ⟨.reset, s.front.reset.1⟩ (s.act .reset)
  | obstacle {e : Event F} (h : e.1.isMotion = false) : Tells s e s

end Wiring

/-! ## Both sides together -/

/-- The owner of the drive: between two calls, or in one with `done` behind it and `rest` before it.
-/
inductive Client (F D : Type) (B : BarcodeReaders)
  | idle
  | calling (op : Op F D) (done : List (Event F)) (rest : DriveM F (Bool × Drive F D B))
      (unacked : Option MotionReport)

/-- The drive, its owner and the motion subsystem, with the history of the commands. -/
structure Car (F D : Type) (B : BarcodeReaders) where
  sys : System F D
  drive : Drive F D B
  client : Client F D B
  /-- the number of commands accepted so far -/
  accepted : ℕ
  /-- for each word in the report queue, the command that was current when it was posted -/
  tags : List ℕ
  /-- the command that was current when the drive last read a command id -/
  held : ℕ

inductive Happening (F D : Type)
  /-- a block of the motion task, the passing of time, or a call of another task that neither asks
  for motion nor reads reports -/
  | background (a : Act F)
  | begins (op : Op F D)
  | calls (e : Event F)
  /-- a read of the report queue, with the command a report was posted for -/
  | reads (report : Option (ℕ × MotionReport))
  | acks (r : MotionReport)
  | returns (ok : Bool)

namespace Car

def posted (s : Car F D B) (sys : System F D) : ℕ :=
  sys.front.queue.length - s.sys.front.queue.length

/-- The car after a block: the reports it posted belong to the command that is current then. -/
def settle (s : Car F D B) (sys : System F D) (accepted : ℕ) : Car F D B :=
  { s with
    sys := sys
    accepted := accepted
    tags := s.tags ++ List.replicate (s.posted sys) accepted }

variable [CFloat F] [CFloat D] [CDouble F D]

def begun (s5 : Bool) (s : Car F D B) (op : Op F D) : Car F D B :=
  { s with client := .calling op [] (op.run s5 s.drive) none }

/-- One step of the car.  A request makes a new command exactly if it is accepted while the
controller is idle. -/
inductive Step (s5 : Bool) (s : Car F D B) : Happening F D → Car F D B → Prop
  | background {a : Act F} (ha : a.isBackground = true) :
      Step s5 s (.background a) (s.settle (s.sys.act a) s.accepted)
  | begins (op : Op F D) (hc : s.client = .idle) :
      Step s5 s (.begins op) (s.begun s5 op)
  | requests {op : Op F D} {done : List (Event F)} {e : Event F}
      {k : e.1.Answer → DriveM F (Bool × Drive F D B)} {q : Request F} {x : MotionResult}
      (hc : s.client = .calling op done (.call e.1 k) none) (he : Requests e q x)
      (hx : (s.sys.front.request q s.sys.now).1 = x) :
      Step s5 s (.calls e)
        { s.settle (s.sys.act (.request q))
            (if x = .ok ∧ s.sys.front.ctl.state = .idle then s.accepted + 1 else s.accepted) with
          client := .calling op (done ++ [e]) (k e.2) none }
  | tells {op : Op F D} {done : List (Event F)} {e : Event F}
      {k : e.1.Answer → DriveM F (Bool × Drive F D B)} {sys : System F D}
      (hc : s.client = .calling op done (.call e.1 k) none) (he : Tells s.sys e sys) :
      Step s5 s (.calls e)
        { s.settle sys s.accepted with client := .calling op (done ++ [e]) (k e.2) none }
  | names {op : Op F D} {done : List (Event F)} {k : UInt8 → DriveM F (Bool × Drive F D B)}
      (hc : s.client = .calling op done (.call .commandId k) none) :
      Step s5 s (.calls ⟨.commandId, s.sys.front.commandId⟩)
        { s with
          held := s.accepted
          client := .calling op (done ++ [⟨.commandId, s.sys.front.commandId⟩])
            (k s.sys.front.commandId) none }
  | finds {op : Op F D} {done : List (Event F)}
      {k : Option MotionReport → DriveM F (Bool × Drive F D B)}
      (hc : s.client = .calling op done (.call .report k) none) (hq : s.sys.front.queue = []) :
      Step s5 s (.reads none)
        { s with client := .calling op (done ++ [⟨.report, none⟩]) (k none) none }
  | takes {op : Op F D} {done : List (Event F)}
      {k : Option MotionReport → DriveM F (Bool × Drive F D B)} {w t : ℕ} {queue tags : List ℕ}
      (hc : s.client = .calling op done (.call .report k) none)
      (hq : s.sys.front.queue = w :: queue) (ht : s.tags = t :: tags) :
      Step s5 s (.reads (some (t, motionUnpackReport w)))
        { s with
          sys := s.sys.act .take
          tags := tags
          client := .calling op (done ++ [⟨.report, some (motionUnpackReport w)⟩])
            (k (some (motionUnpackReport w))) (some (motionUnpackReport w)) }
  | acks {op : Op F D} {done : List (Event F)} {rest : DriveM F (Bool × Drive F D B)}
      {r : MotionReport} (hc : s.client = .calling op done rest (some r)) :
      Step s5 s (.acks r)
        { s.settle (s.sys.act (.ack r)) s.accepted with client := .calling op done rest none }
  | returns {op : Op F D} {done : List (Event F)} {ok : Bool} {d : Drive F D B}
      (hc : s.client = .calling op done (.ret (ok, d)) none) :
      Step s5 s (.returns ok) { s with drive := d, client := .idle }

abbrev Runs (s5 : Bool) : Car F D B → List (Happening F D) → Car F D B → Prop :=
  Run.Path (Step s5)

/-- The car as it is started: `motion_init` has run at time `t`, and the drive is initialised. -/
def boot (x₀ x : Sensors F) (encoderOk : Bool) (t : ℕ) (d : Drive F D B) : Car F D B :=
  ⟨.init (Front.boot x₀) x encoderOk t, d, .idle, 0, [], 0⟩

end Car

/-- The queue and its history agree, and no report is older than the command before the last. -/
structure Books (s : Car F D B) : Prop where
  sink : s.sys.front.ctl.sink = []
  cmdId : s.sys.front.ctl.cmdId = instanceId s.accepted
  fits : s.sys.front.queue.length ≤ Motion.reportQueueLen
  tagged : List.Forall₂ (fun w t => (motionUnpackReport w).commandId = instanceId t)
    s.sys.front.queue s.tags
  window : ∀ t ∈ s.tags, t = s.accepted ∨ t + 1 = s.accepted

theorem forall₂_replicate {R : ℕ → ℕ → Prop} {l : List ℕ} {n : ℕ} (h : ∀ w ∈ l, R w n) :
    List.Forall₂ R l (List.replicate l.length n) := by
  induction l with
  | nil => exact .nil
  | cons w l ih =>
    exact .cons (h w List.mem_cons_self) (ih fun w' hw => h w' (List.mem_cons_of_mem _ hw))

variable {s : Car F D B}

/-- A block that posts reports of the command `n`, when the reports that wait are not older than
the command before it. -/
theorem Books.settle (h : Books s) (sys : System F D) {n : ℕ}
    (hp : s.sys.front.Posts (instanceId n) sys.front) (hw : ∀ t ∈ s.tags, t = n ∨ t + 1 = n) :
    Books (s.settle sys n) := by
  obtain ⟨new, hq, hnew⟩ := hp.queue
  refine ⟨hp.sink, hp.cmdId, hp.fits h.fits, ?_, fun t ht => ?_⟩
  · have hlen : s.posted sys = new.length := by
      rw [Car.posted, hq, List.length_append, Nat.add_sub_cancel_left]
    simp only [Car.settle, hlen, hq]
    exact List.rel_append h.tagged (forall₂_replicate hnew)
  · rcases List.mem_append.1 ht with ht | ht
    · exact hw t ht
    · exact .inl (List.eq_of_mem_replicate ht)

/-- Reading a report keeps the books. -/
theorem Books.take [CFloat F] [CFloat D] [CDouble F D] (h : Books s) {w t : ℕ} {queue tags : List ℕ}
    (hq : s.sys.front.queue = w :: queue) (ht : s.tags = t :: tags) (client : Client F D B) :
    Books { s with sys := s.sys.act .take, tags := tags, client := client } := by
  have hfront : (s.sys.act .take).front = { s.sys.front with queue := queue } := by
    simp only [System.act, Front.reportTake]
    rw [hq]
  have htagged := h.tagged
  rw [hq, ht, List.forall₂_cons] at htagged
  refine ⟨?_, ?_, ?_, ?_, fun t' ht' => h.window t' (ht ▸ List.mem_cons_of_mem _ ht')⟩
  · rw [hfront]
    exact h.sink
  · rw [hfront]
    exact h.cmdId
  · have hfits := h.fits
    rw [hq, List.length_cons] at hfits
    rw [hfront]
    exact Nat.le_of_succ_le hfits
  · rw [hfront]
    exact htagged.2

/-! ## A call under way -/

/-- The ids that the drive remembers are that of the command it last read, and no command was
accepted since. -/
def Stored (s : Car F D B) : Prop :=
  ∀ id, s.drive.core.Holds id → id = instanceId s.held ∧ s.held = s.accepted

/-- A call that has not asked for motion: waiting reports are read, others are of the current
command. -/
structure Fresh (s : Car F D B) (done : List (Event F)) : Prop where
  stored : Stored s
  waiting : ∃ old new, s.tags = old ++ new ∧ (∀ t ∈ new, t = s.accepted) ∧
    (old = [] ∨ old.length + (reportsOf done).length ≤ Motion.reportQueueLen ∧
      (⟨.report, none⟩ : Event F) ∉ done)

/-- The history of a call under way. -/
structure Underway [CFloat F] [CFloat D] [CDouble F D] (s5 : Bool) (s : Car F D B) (op : Op F D)
    (done : List (Event F)) (rest : DriveM F (Bool × Drive F D B)) : Prop where
  leads : (op.run s5 s.drive).Leads done rest
  fresh : NoRequest done → Fresh s done
  named : ∀ id, (⟨.commandId, id⟩ : Event F) ∈ done → id = instanceId s.held ∧ s.held = s.accepted

/-- The owner is between two calls or inside one. -/
inductive Stage [CFloat F] [CFloat D] [CDouble F D] (s5 : Bool) (s : Car F D B) :
    Client F D B → Prop
  | idle (h : Stored s) : Stage s5 s .idle
  | calling {op : Op F D} {done : List (Event F)} {rest : DriveM F (Bool × Drive F D B)}
      (unacked : Option MotionReport) (h : Underway s5 s op done rest) :
      Stage s5 s (.calling op done rest unacked)

variable {done : List (Event F)}

theorem Fresh.all_current (h : Fresh s done) (hd : Drains Drive.reportQueueLen (asks done)) :
    ∀ t ∈ s.tags, t = s.accepted := by
  obtain ⟨old, new, htags, hnew, hold⟩ := h.waiting
  have hnil : old = [] := by
    rcases hold with hold | ⟨hlen, hnone⟩
    · exact hold
    · rcases hd.found with hfound | hfound
      · exact absurd (List.mem_filter.1 hfound).1 hnone
      · rw [reportsOf_asks] at hfound
        rw [hfound] at hlen
        exact List.eq_nil_of_length_eq_zero (Nat.le_zero.1 (Nat.le_of_add_le_add_right
          (hlen.trans (Nat.zero_add _).ge)))
  rw [htags, hnil]
  exact hnew

theorem mem_of_mem_snoc {c : PortCall F} {x : c.Answer} {e : Event F} (h : ⟨c, x⟩ ∈ done ++ [e])
    (hne : e.1 ≠ c) : ⟨c, x⟩ ∈ done := by
  rcases List.mem_append.1 h with h | h
  · exact h
  · exact absurd (congrArg Sigma.fst (List.mem_singleton.1 h)).symm hne

theorem Fresh.answered (h : Fresh s done) {e : Event F} (he : e.1 ≠ .report) :
    Fresh s (done ++ [e]) := by
  have hquiet : reportsOf [e] = [] := by
    rcases e with ⟨c, x⟩
    cases c <;> first | rfl | exact absurd rfl he
  obtain ⟨old, new, htags, hnew, hold⟩ := h.waiting
  refine ⟨h.stored, old, new, htags, hnew, hold.imp_right (And.imp (fun hlen => ?_) ?_)⟩
  · rwa [reportsOf_append, hquiet, List.append_nil]
  · exact fun hnone hmem => hnone (mem_of_mem_snoc hmem he)

section Steps

variable [CFloat F] [CFloat D] [CDouble F D] {s5 : Bool} {s : Car F D B} {op : Op F D}
  {done : List (Event F)}

variable {k : Option MotionReport → DriveM F (Bool × Drive F D B)}

theorem Underway.noRequest (h : Underway s5 s op done (.call .report k)) (hi : Inv s5 s.drive) :
    NoRequest done :=
  reads_before_request hi h.leads

theorem Underway.settle {rest : DriveM F (Bool × Drive F D B)} (h : Underway s5 s op done rest)
    (sys : System F D) (client : Client F D B) :
    Underway s5 { s.settle sys s.accepted with client := client } op done rest := by
  refine ⟨h.leads, fun hn => ⟨(h.fresh hn).stored, ?_⟩, h.named⟩
  obtain ⟨old, new, htags, hnew, hold⟩ := (h.fresh hn).waiting
  refine ⟨old, new ++ List.replicate (s.posted sys) s.accepted, ?_, fun t ht => ?_, hold⟩
  · rw [Car.settle, htags, List.append_assoc]
  · exact (List.mem_append.1 ht).elim (hnew t) List.eq_of_mem_replicate

/-- A call that is no ask leaves the operation under way. -/
theorem Underway.told {e : Event F} {k : e.1.Answer → DriveM F (Bool × Drive F D B)}
    (h : Underway s5 s op done (.call e.1 k)) (he : e.1.isAsk = false) :
    Underway s5 s op (done ++ [e]) (k e.2) := by
  have hne {c : PortCall F} (hc : c.isAsk) : e.1 ≠ c := fun h =>
    absurd (hc.symm.trans (h ▸ he)) (by decide)
  refine ⟨h.leads.append (.cons (.nil _)), fun hn => ?_, fun id hid => h.named id ?_⟩
  · exact (h.fresh fun e' he' => hn e' (List.mem_append_left _ he')).answered (hne rfl)
  · exact mem_of_mem_snoc hid (hne rfl)

/-- At a request only current reports are unread. -/
theorem Underway.requested {e : Event F} {k : e.1.Answer → DriveM F (Bool × Drive F D B)}
    (h : Underway s5 s op done (.call e.1 k)) (hi : Inv s5 s.drive)
    (he : e.1.isRequest) : (∀ t ∈ s.tags, t = s.accepted) ∧
      ∀ (sys : System F D) (n : ℕ) (client : Client F D B),
        Underway s5 { s.settle sys n with client := client } op (done ++ [e]) (k e.2) := by
  have hdrains := requests_after_drain hi h.leads he
  have hquiet : NoRequest done := noRequest_iff_asks.1 hdrains.onlyReads.noRequest
  refine ⟨(h.fresh hquiet).all_current hdrains, fun sys n client =>
    ⟨h.leads.append (.cons (.nil _)), fun hn => ?_, fun id hid => ?_⟩⟩
  · have hreq := hn e (List.mem_append_right _ (List.mem_singleton_self e))
    cases he.symm.trans hreq
  · rcases List.mem_append.1 hid with hid | hid
    · have hread := hdrains.onlyReads _ (List.mem_filter.2 ⟨hid, rfl⟩)
      cases hread
    · rw [← List.mem_singleton.1 hid] at he
      exact absurd he nofun

theorem Underway.named_current {k : UInt8 → DriveM F (Bool × Drive F D B)}
    (h : Underway s5 s op done (.call .commandId k)) {id : UInt8}
    (hid : id = instanceId s.accepted) (client : Client F D B) :
    Underway s5 { s with held := s.accepted, client := client } op
      (done ++ [⟨.commandId, id⟩]) (k id) := by
  refine ⟨h.leads.append (.cons (.nil _)), fun hn => ?_, fun id' hid' => ⟨?_, rfl⟩⟩
  · have hfresh := (h.fresh fun e he => hn e (List.mem_append_left _ he)).answered
      (e := ⟨.commandId, id⟩) nofun
    refine ⟨fun id' hid' => ⟨?_, rfl⟩, hfresh.waiting⟩
    obtain ⟨heq, hheld⟩ := hfresh.stored id' hid'
    exact hheld ▸ heq
  · rcases List.mem_append.1 hid' with hid' | hid'
    · obtain ⟨heq, hheld⟩ := h.named id' hid'
      exact hheld ▸ heq
    · cases List.mem_singleton.1 hid'
      exact hid

/-- Reading a report drops its tag. -/
theorem Underway.took (h : Underway s5 s op done (.call .report k)) (hi : Inv s5 s.drive) {t : ℕ}
    {tags : List ℕ} (ht : s.tags = t :: tags) (r : MotionReport) (sys : System F D)
    (client : Client F D B) :
    Underway s5 { s with sys := sys, tags := tags, client := client } op
      (done ++ [⟨.report, some r⟩]) (k (some r)) := by
  have hfresh := h.fresh (h.noRequest hi)
  obtain ⟨old, new, htags, hnew, hold⟩ := hfresh.waiting
  refine ⟨h.leads.append (.cons (.nil _)), fun _ => ⟨hfresh.stored, ?_⟩, fun id hid => ?_⟩
  · rw [ht] at htags
    cases old with
    | nil =>
      rw [List.nil_append] at htags
      rw [← htags] at hnew
      exact ⟨[], tags, rfl, fun t' ht' => hnew t' (List.mem_cons_of_mem _ ht'), .inl rfl⟩
    | cons t' old =>
      rw [List.cons_append, List.cons.injEq] at htags
      obtain ⟨hlen, hnone⟩ := hold.resolve_left (List.cons_ne_nil _ _)
      refine ⟨old, new, htags.2, hnew, .inr ⟨?_, fun hmem => ?_⟩⟩
      · rw [reportsOf_append, List.length_append]
        rw [List.length_cons] at hlen
        exact (by omega : old.length + ((reportsOf done).length + 1) ≤ Motion.reportQueueLen)
      · rcases List.mem_append.1 hmem with hmem | hmem
        · exact hnone hmem
        · cases List.mem_singleton.1 hmem
  · exact h.named id (mem_of_mem_snoc hid nofun)

/-- An empty queue ends the reading. -/
theorem Underway.found (h : Underway s5 s op done (.call .report k)) (hi : Inv s5 s.drive)
    (ht : s.tags = []) (client : Client F D B) :
    Underway s5 { s with client := client } op (done ++ [⟨.report, none⟩]) (k none) := by
  have hfresh := h.fresh (h.noRequest hi)
  refine ⟨h.leads.append (.cons (.nil _)), fun _ => ⟨hfresh.stored, ?_⟩, fun id hid => ?_⟩
  · exact ⟨[], [], ht, nofun, .inl rfl⟩
  · exact h.named id (mem_of_mem_snoc hid nofun)

theorem Underway.stored_return {ok : Bool} {d : Drive F D B}
    (h : Underway s5 s op done (.ret (ok, d))) (hi : Inv s5 s.drive) (ht : s.drive.core.Tidy)
    (client : Client F D B) : Stored { s with drive := d, client := client } := by
  have hstep : Driving.Step s5 s.drive ⟨op, done, ok⟩ d := h.leads
  intro id hid
  rcases hstep.holds hi ht hid with ⟨hn, hheld⟩ | hnamed
  · exact (h.fresh hn).stored id hheld
  · exact h.named id hnamed

end Steps

/-! ## The invariant of the car -/

section Invariant

variable [CFloat F] [CFloat D] [CDouble F D] {s5 : Bool}

structure Sound (s5 : Bool) (s : Car F D B) : Prop where
  inv : Inv s5 s.drive
  tidy : s.drive.core.Tidy
  books : Books s
  stage : Stage s5 s s.client

theorem Sound.underway {s : Car F D B} (h : Sound s5 s) {op : Op F D} {done : List (Event F)}
    {rest : DriveM F (Bool × Drive F D B)} {unacked : Option MotionReport}
    (hc : s.client = .calling op done rest unacked) : Underway s5 s op done rest := by
  have hstage := h.stage
  rw [hc] at hstage
  cases hstage with
  | calling _ hu => exact hu

omit [CFloat F] [CFloat D] [CDouble F D] in
theorem Books.settle_current {s : Car F D B} (h : Books s) {sys : System F D}
    (hp : s.sys.front.Posts s.sys.front.ctl.cmdId sys.front) (client : Client F D B) :
    Books { s.settle sys s.accepted with client := client } := by
  rw [h.cmdId] at hp
  obtain ⟨h₁, h₂, h₃, h₄, h₅⟩ := h.settle sys hp h.window
  exact ⟨h₁, h₂, h₃, h₄, h₅⟩

theorem Tells.posts {s sys : System F D} {e : Event F} (h : Tells s e sys)
    (hs : s.front.ctl.sink = []) : s.front.Posts s.front.ctl.cmdId sys.front := by
  cases h with
  | stop | heartbeat | reset => exact System.act_posts hs rfl
  | obstacle => exact .of_eq rfl rfl hs

theorem Tells.isAsk {s sys : System F D} {e : Event F} (h : Tells s e sys) :
    e.1.isAsk = false := by
  cases h with
  | stop | heartbeat | reset => rfl
  | obstacle he =>
    rcases e with ⟨c, x⟩
    cases c <;> first | rfl | exact absurd he (by simp)

/-- A request keeps the books: when it makes a new command, the reports that wait are all of the
one before it. -/
theorem Books.request {s : Car F D B} (h : Books s) (hcur : ∀ t ∈ s.tags, t = s.accepted)
    {q : Request F} {x : MotionResult} (hx : (s.sys.front.request q s.sys.now).1 = x)
    (client : Client F D B) :
    Books { s.settle (s.sys.act (.request q))
        (if x = .ok ∧ s.sys.front.ctl.state = .idle then s.accepted + 1 else s.accepted) with
      client := client } := by
  have hp := Front.request_posts h.sink q s.sys.now
  rw [hx] at hp
  by_cases hnew : x = .ok ∧ s.sys.front.ctl.state = .idle
  · rw [if_pos hnew, h.cmdId, ← instanceId_succ] at hp
    rw [if_pos hnew]
    obtain ⟨h₁, h₂, h₃, h₄, h₅⟩ := h.settle (s.sys.act (.request q)) hp
      fun t ht => .inr (congrArg (· + 1) (hcur t ht))
    exact ⟨h₁, h₂, h₃, h₄, h₅⟩
  · rw [if_neg hnew] at hp
    rw [if_neg hnew]
    exact h.settle_current hp client

/-- **Every step keeps the invariant.** -/
theorem Sound.step {s s' : Car F D B} {a : Happening F D} (h : Sound s5 s)
    (hstep : Car.Step s5 s a s') : Sound s5 s' := by
  obtain ⟨hi, ht, hb, hst⟩ := id h
  cases hstep with
  | @background a ha =>
    refine ⟨hi, ht, hb.settle_current (System.act_posts hb.sink ha) s.client, ?_⟩
    have hkeep : Stage s5 (s.settle (s.sys.act a) s.accepted) s.client := by
      generalize s.client = client at hst
      cases hst with
      | idle hs => exact .idle hs
      | calling unacked hu => exact .calling unacked (hu.settle (s.sys.act a) s.client)
    exact hkeep
  | begins op hc =>
    rw [hc] at hst
    cases hst with
    | idle hs =>
      refine ⟨hi, ht, { hb with }, .calling none ?_⟩
      refine ⟨.nil _,
        fun _ => ⟨hs, s.tags, [], (List.append_nil _).symm, nofun, .inr ⟨?_, nofun⟩⟩, nofun⟩
      rw [← hb.tagged.length_eq]
      exact hb.fits
  | requests hc he hx =>
    obtain ⟨hcur, hu⟩ := (h.underway hc).requested hi he.isRequest
    exact ⟨hi, ht, hb.request hcur hx _, .calling none (hu _ _ _)⟩
  | tells hc he =>
    exact ⟨hi, ht, hb.settle_current (he.posts hb.sink) _,
      .calling none (((h.underway hc).told he.isAsk).settle _ _)⟩
  | names hc =>
    exact ⟨hi, ht, { hb with },
      .calling none ((h.underway hc).named_current hb.cmdId _)⟩
  | finds hc hq =>
    have htags : s.tags = [] := by
      have htagged := hb.tagged
      rw [hq] at htagged
      exact List.forall₂_nil_left_iff.1 htagged
    exact ⟨hi, ht, { hb with },
      .calling none ((h.underway hc).found hi htags _)⟩
  | takes hc hq htags =>
    exact ⟨hi, ht, hb.take hq htags _, .calling _ ((h.underway hc).took hi htags _ _ _)⟩
  | @acks _ _ _ r hc =>
    exact ⟨hi, ht, hb.settle_current (Front.reportAck_posts hb.sink r) _,
      .calling none ((h.underway hc).settle _ _)⟩
  | @returns op done ok d hc =>
    have hcall : Driving.Step s5 s.drive ⟨op, done, ok⟩ d := (h.underway hc).leads
    exact ⟨hi.step hcall, hcall.tidy hi ht, { hb with },
      .idle ((h.underway hc).stored_return hi ht _)⟩

theorem Sound.boot (x₀ x : Sensors F) (encoderOk : Bool) (t : ℕ) {config : NavConfig F D}
    {d : Drive F D B} (h₀ : Drive.init config = some d) (s5 : Bool) :
    Sound s5 (Car.boot x₀ x encoderOk t d) := by
  have hinv := Inv.init h₀ s5
  have hcore : d.core = .halted .off := by
    obtain ⟨n, -, rfl⟩ := Option.map_eq_some_iff.1 h₀
    rfl
  refine ⟨hinv, ?_, ⟨?_, ?_, ?_, .nil, nofun⟩, .idle fun id hid => ?_⟩
  · exact hcore ▸ .halted .off (by decide)
  · cases encoderOk <;> rfl
  · cases encoderOk <;> rfl
  · exact Nat.zero_le _
  · exact absurd (hcore ▸ hid) (Core.not_holds_halted .off id)

end Invariant

/-! ## Reports reach their command -/

def Client.reports : Client F D B → List MotionReport
  | .idle => []
  | .calling _ done _ _ => reportsOf done

/-- What the drive makes of the reports that the call under way has read. -/
def Car.judged (s : Car F D B) (reports : List MotionReport) : Drive.Drained :=
  s.drive.judged (s.client.reports ++ reports)

/-- The drive takes a report for one of its current or its cancelled command. -/
def Car.Claims (s : Car F D B) (r : MotionReport) : Prop :=
  s.drive.running = true ∧ r.commandId ≠ 0 ∧
    (r.commandId = (s.judged []).cancelId ∨ r.commandId = s.drive.commandId)

theorem Car.judged_unclaimed {r : MotionReport} (h : ¬s.Claims r) :
    (s.judged [r]).cancelId = (s.judged []).cancelId ∧
      (s.judged [r]).done = (s.judged []).done := by
  by_cases hrun : s.drive.running
  · rw [Claims, judged, List.append_nil, and_iff_right hrun, not_and, not_or] at h
    rw [judged, judged, Drive.judged_append hrun, List.append_nil, List.foldl_cons, List.foldl_nil,
      Drive.Drained.take]
    split_ifs with h₁ h₂ h₃
    · exact ⟨rfl, rfl⟩
    · exact absurd h₂ (h h₁).1
    · exact absurd h₃ (h h₁).2
    · exact absurd h₃ (h h₁).2
    · exact ⟨rfl, rfl⟩
  · rw [judged, judged, Drive.judged, Drive.judged, if_neg hrun, if_neg hrun]
    exact ⟨rfl, rfl⟩

section Main

variable [CFloat F] [CFloat D] [CDouble F D]

/-- **Reports reach their command.**  However often the ids have wrapped, a report that the drive
takes for its current or its cancelled command was posted for that command, and no other report
changes its commands. -/
theorem claimed_report {s5 : Bool} (x₀ x : Sensors F) (encoderOk : Bool) (t₀ : ℕ)
    {config : NavConfig F D} {d₀ : Drive F D B} {l : List (Happening F D)} {s s' : Car F D B}
    {t : ℕ} {r : MotionReport} (h₀ : Drive.init config = some d₀)
    (hl : Car.Runs s5 (.boot x₀ x encoderOk t₀ d₀) l s)
    (hstep : Car.Step s5 s (.reads (some (t, r))) s') :
    (s.Claims r → t = s.held) ∧
      (¬s.Claims r → (s.judged [r]).cancelId = (s.judged []).cancelId ∧
        (s.judged [r]).done = (s.judged []).done) := by
  refine ⟨fun hc => ?_, Car.judged_unclaimed⟩
  have hsound := Run.Path.invariant (I := Sound s5) hl (fun _ _ _ h hs => h.step hs)
    (.boot x₀ x encoderOk t₀ h₀ s5)
  obtain ⟨-, hne, hid⟩ := hc
  cases hstep with
  | @takes _ _ _ w _ _ _ hcall hq htags =>
    have hu := hsound.underway hcall
    have hholds : s.drive.core.Holds (motionUnpackReport w).commandId := by
      refine ⟨hne, hid.elim (fun hid => .inr ?_) fun hid => .inl hid.symm⟩
      rcases s.drive.judged_cancelId (s.client.reports ++ []) with hj | hj
      · exact (hid.trans hj).symm
      · exact absurd (hid.trans hj) hne
    obtain ⟨hheld, hcur⟩ := (hu.fresh (hu.noRequest hsound.inv)).stored _ hholds
    have htagged := hsound.books.tagged
    rw [hq, htags, List.forall₂_cons] at htagged
    rcases hsound.books.window t (htags ▸ List.mem_cons_self) with ht | ht
    · exact ht.trans hcur.symm
    · -- the report of the command before has another id
      rw [hcur, ← ht, htagged.1] at hheld
      exact absurd hheld.symm (instanceId_succ_ne t)

end Main

/-! ## Undisturbed calls

A car whose owner's calls nothing else interrupts can be computed. -/

section Bench

variable [CFloat F] [CFloat D] [CDouble F D]

def Car.grant (s : Car F D B) (q : Request F) : MotionResult × Car F D B :=
  let x := (s.sys.front.request q s.sys.now).1
  (x, s.settle (s.sys.act (.request q))
    (if x = .ok ∧ s.sys.front.ctl.state = .idle then s.accepted + 1 else s.accepted))

/-- A call of the port, answered at once.  A report that is read is acknowledged right away. -/
def Car.attend (s : Car F D B) : (c : PortCall F) → c.Answer × Car F D B
  | .velocity left right => s.grant (.velocity (floorWheel left) (floorWheel right))
  | .manoeuvre m => s.grant (.manoeuvre m)
  | .drive meters speed | .requestDrive meters speed => s.grant (.drive meters speed)
  | .requestTurn degrees speed => s.grant (.turn degrees speed)
  | .stop => ((), s.settle (s.sys.act .stop) s.accepted)
  | .heartbeat enabled => ((), s.settle (s.sys.act (.heartbeat enabled)) s.accepted)
  | .reset => (s.sys.front.reset.1, s.settle (s.sys.act .reset) s.accepted)
  | .commandId => (s.sys.front.commandId, { s with held := s.accepted })
  | .report =>
    match s.sys.front.queue with
    | [] => (none, s)
    | w :: _ =>
      let s := { s with sys := s.sys.act .take, tags := s.tags.tail }
      (some (motionUnpackReport w),
        s.settle (s.sys.act (.ack (motionUnpackReport w))) s.accepted)
  | .cancelScan | .setControllerStatus _ _ _ => ((), s.settle s.sys s.accepted)
  | .requestScan _ | .requestPeek _ _ => (true, s.settle s.sys s.accepted)
  | .snapshot => (none, s.settle s.sys s.accepted)
  | .readSnapshot => (.unavailable, s.settle s.sys s.accepted)

variable {s : Car F D B}

theorem Car.runs_attend (s5 : Bool) (hb : Books s) (op : Op F D) (done : List (Event F))
    (c : PortCall F) (k : c.Answer → DriveM F (Bool × Drive F D B)) :
    ∃ l, Car.Runs s5 { s with client := .calling op done (.call c k) none } l
      { (s.attend c).2 with
        client := .calling op (done ++ [⟨c, (s.attend c).1⟩]) (k (s.attend c).1) none } := by
  cases c with
  | report =>
    have htagged := hb.tagged
    cases hq : s.sys.front.queue with
    | nil =>
      simp only [attend, hq]
      exact ⟨_, .snoc .nil (.finds rfl hq)⟩
    | cons =>
      rw [hq] at htagged
      obtain ⟨t, tags, -, -, htags⟩ := List.forall₂_cons_left_iff.1 htagged
      simp only [attend, hq, htags, List.tail_cons]
      exact ⟨_, .snoc (.snoc .nil (.takes rfl hq rfl)) (.acks rfl)⟩
  | velocity l r => exact ⟨_, .snoc .nil (.requests rfl (.velocity l r _) rfl)⟩
  | manoeuvre m => exact ⟨_, .snoc .nil (.requests rfl (.manoeuvre m _) rfl)⟩
  | drive m v => exact ⟨_, .snoc .nil (.requests rfl (.drive m v _) rfl)⟩
  | requestDrive m v => exact ⟨_, .snoc .nil (.requests rfl (.requestDrive m v _) rfl)⟩
  | requestTurn a v => exact ⟨_, .snoc .nil (.requests rfl (.requestTurn a v _) rfl)⟩
  | stop => exact ⟨_, .snoc .nil (.tells rfl .stop)⟩
  | heartbeat on => exact ⟨_, .snoc .nil (.tells rfl (.heartbeat on))⟩
  | reset => exact ⟨_, .snoc .nil (.tells rfl .reset)⟩
  | commandId => exact ⟨_, .snoc .nil (.names rfl)⟩
  | _ => exact ⟨_, .snoc .nil (.tells rfl (.obstacle rfl))⟩

def Car.perform (s5 : Bool) (s : Car F D B) (op : Op F D) : Car F D B :=
  let r := (op.run s5 s.drive).run (fun c s => s.attend c) s
  { r.2.2 with drive := r.2.1.2, client := .idle }

theorem Car.runs_rest {s5 : Bool} {op : Op F D} (p : DriveM F (Bool × Drive F D B))
    {done : List (Event F)} (h : Sound s5 { s with client := .calling op done p none }) :
    ∃ l, Car.Runs s5 { s with client := .calling op done p none } l
      { (p.run (fun c s => s.attend c) s).2.2 with
        drive := (p.run (fun c s => s.attend c) s).2.1.2, client := .idle } := by
  induction p generalizing s done with
  | ret => exact ⟨_, .snoc .nil (.returns rfl)⟩
  | call c k ih =>
    have hb : Books s := ⟨h.books.sink, h.books.cmdId, h.books.fits, h.books.tagged, h.books.window⟩
    obtain ⟨l₁, h₁⟩ := Car.runs_attend s5 hb op done c k
    obtain ⟨l₂, h₂⟩ := ih _ (h₁.invariant (fun _ _ _ h hs => h.step hs) h)
    exact ⟨_, h₁.append h₂⟩

/-- Every operation runs to its end. -/
theorem Car.runs_perform {s5 : Bool} (h : Sound s5 s) (hc : s.client = .idle) (op : Op F D) :
    ∃ l, Car.Runs s5 s l (s.perform s5 op) := by
  have hbegin : Car.Runs s5 s [.begins op] _ := .snoc .nil (.begins op hc)
  obtain ⟨l, hl⟩ := Car.runs_rest _ (hbegin.invariant (fun _ _ _ h hs => h.step hs) h)
  exact ⟨_, hbegin.append hl⟩

theorem Car.runs_performs {s5 : Bool} (h : Sound s5 s) (hc : s.client = .idle)
    (ops : List (Op F D)) : ∃ l, Car.Runs s5 s l (ops.foldl (perform s5) s) := by
  suffices hall : (∃ l, Car.Runs s5 s l (ops.foldl (perform s5) s)) ∧
      (ops.foldl (perform s5) s).client = .idle from hall.1
  refine List.foldlRecOn (motive := fun s' : Car F D B => (∃ l, Car.Runs s5 s l s') ∧
    s'.client = .idle) ops _ ⟨⟨[], .nil⟩, hc⟩ fun s' hs' op _ => ⟨?_, rfl⟩
  obtain ⟨⟨l, hl⟩, hc'⟩ := hs'
  obtain ⟨l', hl'⟩ := Car.runs_perform (hl.invariant (fun _ _ _ h hs => h.step hs) h) hc' op
  exact ⟨_, hl.append hl'⟩

theorem run_process {d : Drive F D B} (hc : d.configured) (s5 : Bool) (frame : SensorFrame)
    (feedback : Option (MotionFeedback D)) :
    ∃ k, (Op.process (some frame) feedback).run s5 d = .call .report k := by
  have hoff : ¬(!d.configured) = true := by simp [hc]
  rw [Op.run, Drive.process, if_neg hoff]
  exact ⟨_, rfl⟩

def benchSensors : Sensors ℚ := ⟨⟨0, 0⟩, ⟨0, 0⟩, ⟨0, 0⟩, ⟨0, 0⟩, 1 / 10000⟩

/-- The car of the bench after its owner's calls up to the stop at a junction. -/
def benchCar : Car ℚ ℚ benchReaders :=
  ((benchStart ++ benchLeft.take 3).map Prod.fst).foldl (Car.perform false)
    (.boot benchSensors benchSensors true 0 benchDrive)

/-- The stop at the junction cancels the first command, and the next cycle finds the report of
that command in the queue and claims it. -/
theorem claimed_report_bench :
    ∃ l s s' r, Car.Runs false (.boot benchSensors benchSensors true 0 benchDrive) l s ∧
      Car.Step false s (.reads (some (1, r))) s' ∧ s.Claims r ∧ 1 = s.held := by
  obtain ⟨l, hl⟩ := Car.runs_performs
    (Sound.boot benchSensors benchSensors true 0 init_benchConfig false) rfl
    ((benchStart ++ benchLeft.take 3).map Prod.fst)
  obtain ⟨k, hk⟩ := run_process (d := benchCar.drive) (by decide +kernel) false
    (benchFrame 50000 1000 3000) (some (benchFeedback 50000 .idle 1))
  have hqueue : benchCar.sys.front.queue = [motionPackReport ⟨1, .cancelled, .none, false⟩] := by
    decide +kernel
  have htags : benchCar.tags = [1] := by decide +kernel
  have hrun := hl.snoc (.begins (benchCycle 50000 1000 3000 .idle 1) rfl)
  have hclient : (benchCar.begun false (benchCycle 50000 1000 3000 .idle 1)).client =
      .calling (benchCycle 50000 1000 3000 .idle 1) [] (.call .report k) none := by
    rw [← hk]
    rfl
  have hstep : Car.Step false _ _ _ := .takes hclient hqueue htags
  have hclaims : (benchCar.begun false (benchCycle 50000 1000 3000 .idle 1)).Claims
      (motionUnpackReport (motionPackReport ⟨1, .cancelled, .none, false⟩)) := by
    rw [motionUnpackReport_pack]
    exact ⟨by decide +kernel, by decide, .inl (by decide +kernel)⟩
  exact ⟨_, _, _, _, hrun, hstep, hclaims,
    (claimed_report _ _ _ _ init_benchConfig hrun hstep).1 hclaims⟩

end Bench

end RoboticCar.Integration
