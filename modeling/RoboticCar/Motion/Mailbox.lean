import Mathlib.Data.List.DropRight
import RoboticCar.Motion.Frontend

/-!
# The report queue

The controller posts into a message buffer of eight words and never waits.  A reader takes a word
without a lock and only then, in a locked block, counts it off.  `Mail` is the front end with a log
of what was posted and read, and `mailbox_delivers` holds whatever the order of the steps.

A report posted into the place of one that is not yet counted off is not counted
(`queued_falls_behind`); without such posts `reportQueued` is right (`queued_counts`).
-/

namespace RoboticCar.Motion

open Lib CFloat

abbrev Log := List (MotionReport × Bool)

def droppedSince (log : Log) : Bool := !(log.rtakeWhile fun p => !p.2).isEmpty

/-- The reports that found room, in order and marked, where `before` was posted earlier. -/
def delivered (before : Log) : Log → List MotionReport
  | [] => []
  | (r, true) :: log =>
    { r with lost := droppedSince before } :: delivered (before ++ [(r, true)]) log
  | (r, false) :: log => delivered (before ++ [(r, false)]) log

def drops (log : Log) : ℕ := log.countP fun p => !p.2

@[simp]
theorem droppedSince_concat (log : Log) (r : MotionReport) (room : Bool) :
    droppedSince (log ++ [(r, room)]) = !room := by
  cases room <;> simp [droppedSince]

theorem delivered_concat (before log : Log) (r : MotionReport) (room : Bool) :
    delivered before (log ++ [(r, room)]) =
      delivered before log ++
        if room then [{ r with lost := droppedSince (before ++ log) }] else [] := by
  induction log generalizing before with
  | nil => cases room <;> simp [delivered]
  | cons p log ih =>
    obtain ⟨q, ok⟩ := p
    cases ok <;> simp [delivered, ih]

/-! ## The steps -/

/-- The front end with what was posted, what was taken and not yet counted off, and what was
received. -/
structure Mail (F D : Type) where
  front : Front F D
  log : Log
  taken : List MotionReport
  received : List MotionReport

/-- `report_post`, the read of the buffer in `report_receive`, and its locked block. -/
inductive MailOp
  | post (r : MotionReport)
  | take
  | ack (k : ℕ)

namespace Mail

variable {F D : Type}

/-- One step.  A read of an empty buffer and a locked block without a reader do nothing. -/
def act (s : Mail F D) : MailOp → Mail F D
  | .post r =>
    { s with
      front := s.front.reportPost r
      log := s.log ++ [(r, decide (s.front.queue.length < reportQueueLen))] }
  | .take =>
    match s.front.reportTake with
    | (none, _) => s
    | (some r, m) => { s with front := m, taken := s.taken ++ [r], received := s.received ++ [r] }
  | .ack k =>
    match s.taken[k]? with
    | none => s
    | some r => { s with front := s.front.reportAck r, taken := s.taken.eraseIdx k }

def boot [CFloat F] [CFloat D] (s : Sensors F) : Mail F D := ⟨Front.boot s, [], [], []⟩

/-- What every step keeps. -/
structure Kept (s : Mail F D) : Prop where
  order : s.received ++ s.front.queue.map motionUnpackReport = delivered [] s.log
  marks : s.front.reportLost = droppedSince s.log
  losses : s.front.reportLossCount = UInt32.ofNat (drops s.log)
  sink : s.front.ctl.sink = []
  fits : s.front.queue.length ≤ reportQueueLen
  queued : s.front.reportQueued ≤ s.front.reportPeak
  counted : s.front.reportPeak = reportQueueLen ∨
    s.front.reportPeak < reportQueueLen ∧
      s.front.reportQueued = s.front.queue.length + s.taken.length

theorem kept_boot [CFloat F] [CFloat D] (s : Sensors F) : (boot s : Mail F D).Kept where
  order := rfl
  marks := rfl
  losses := rfl
  sink := rfl
  fits := Nat.zero_le _
  queued := le_rfl
  counted := .inr ⟨Nat.zero_lt_succ 7, rfl⟩

theorem reportAck_eq {m : Front F D} (hs : m.ctl.sink = []) (r : MotionReport) :
    ∃ c : Ctrl F, c.sink = [] ∧
      m.reportAck r = { m with reportQueued := m.reportQueued - 1, ctl := c } := by
  unfold Front.reportAck
  split_ifs
  · have hsink : (motionControllerAckComplete r.commandId m.ctl).sink = [] := by
      unfold motionControllerAckComplete
      split_ifs <;> exact hs
    refine ⟨{ motionControllerAckComplete r.commandId m.ctl with sink := [] }, rfl, ?_⟩
    rw [Front.setCtl, hsink]
    rfl
  · exact ⟨m.ctl, hs, rfl⟩

variable {s : Mail F D}

/-- A post keeps the mailbox. -/
theorem Kept.post (h : s.Kept) (r : MotionReport) : (s.act (.post r)).Kept := by
  have hpeak := h.queued
  have hcounted := h.counted
  have hfits := h.fits
  unfold act Front.reportPost
  by_cases hroom : s.front.queue.length < reportQueueLen
  · simp only [hroom, if_true, decide_true]
    refine ⟨?_, by simp, ?_, h.sink, ?_, ?_, ?_⟩
    · dsimp only
      rw [delivered_concat, ← h.order, h.marks]
      simp
    · rw [h.losses]
      simp [drops]
    · simpa using Nat.succ_le_of_lt hroom
    · dsimp only
      split_ifs <;> omega
    · simp only [List.length_append, List.length_singleton]
      split_ifs <;> omega
  · simp only [hroom, if_false, decide_false]
    refine ⟨?_, by simp, ?_, h.sink, hfits, hpeak, hcounted⟩
    · rw [delivered_concat, ← h.order]
      simp
    · rw [h.losses]
      simp [drops]

theorem Kept.take (h : s.Kept) : (s.act .take).Kept := by
  unfold act Front.reportTake
  cases hq : s.front.queue with
  | nil => exact h
  | cons =>
    have horder := h.order
    have hfits := h.fits
    have hcounted := h.counted
    rw [hq] at horder hfits hcounted
    refine ⟨?_, h.marks, h.losses, h.sink, ?_, h.queued, ?_⟩
    · simpa using horder
    · exact Nat.le_of_succ_le hfits
    · simp only [List.length_append, List.length_cons, List.length_nil] at hcounted ⊢
      omega

/-- An acknowledgement keeps the mailbox. -/
theorem Kept.ack (h : s.Kept) (k : ℕ) : (s.act (.ack k)).Kept := by
  unfold act
  dsimp only
  cases hk : s.taken[k]? with
  | none => exact h
  | some r =>
    obtain ⟨c, hc, hack⟩ := reportAck_eq h.sink r
    have hlt : k < s.taken.length := (List.getElem?_eq_some_iff.1 hk).1
    have hpeak := h.queued
    have hcounted := h.counted
    simp only [hack]
    refine ⟨h.order, h.marks, h.losses, hc, h.fits, ?_, ?_⟩
    · exact (Nat.sub_le _ _).trans hpeak
    · simp only [List.length_eraseIdx, hlt, if_true]
      omega

theorem Kept.act (h : s.Kept) : ∀ op : MailOp, (s.act op).Kept
  | .post r => h.post r
  | .take => h.take
  | .ack k => h.ack k

theorem Kept.length_le (h : s.Kept) : s.front.queue.length ≤ s.front.reportPeak := by
  have hfits := h.fits
  have hpeak := h.queued
  have hcounted := h.counted
  omega

theorem Kept.reportPeak_le (h : s.Kept) (op : MailOp) :
    s.front.reportPeak ≤ (s.act op).front.reportPeak := by
  cases op with
  | post =>
    simp only [Mail.act, Front.reportPost]
    split_ifs <;> simp only <;> omega
  | take =>
    simp only [Mail.act, Front.reportTake]
    cases s.front.queue <;> exact le_rfl
  | ack k =>
    simp only [Mail.act]
    cases s.taken[k]? with
    | none => exact le_rfl
    | some r =>
      obtain ⟨c, _, hack⟩ := reportAck_eq h.sink r
      simp [hack]

theorem Kept.foldl (h : s.Kept) (ops : List MailOp) : (ops.foldl Mail.act s).Kept :=
  Run.invariant (I := Kept (F := F) (D := D)) (fun _ op h => h.act op) h ops

theorem Kept.reportPeak_foldl (h : s.Kept) (ops : List MailOp) :
    s.front.reportPeak ≤ (ops.foldl Mail.act s).front.reportPeak := by
  induction ops generalizing s with
  | nil => exact le_rfl
  | cons op ops ih => exact (h.reportPeak_le op).trans (ih (h.act op))

variable [CFloat F] [CFloat D]

/-- **The report queue.**  Readers receive the reports that found room, in order, marked after a
drop; the loss counter counts the drops on its 32 bits, and the peak is never below the reports in
the buffer. -/
theorem mailbox_delivers (x : Sensors F) (ops : List MailOp) :
    (ops.foldl act (boot x : Mail F D)).received ++
        (ops.foldl act (boot x : Mail F D)).front.queue.map motionUnpackReport =
      delivered [] (ops.foldl act (boot x : Mail F D)).log ∧
    (ops.foldl act (boot x : Mail F D)).front.reportLossCount =
      UInt32.ofNat (drops (ops.foldl act (boot x : Mail F D)).log) ∧
    ∀ done rest, ops = done ++ rest →
      (done.foldl act (boot x : Mail F D)).front.queue.length ≤
        (ops.foldl act (boot x : Mail F D)).front.reportPeak := by
  have hkept := (kept_boot x : (boot x : Mail F D).Kept).foldl ops
  refine ⟨hkept.order, hkept.losses, ?_⟩
  rintro done rest rfl
  rw [List.foldl_append]
  have hdone := (kept_boot x : (boot x : Mail F D).Kept).foldl done
  exact hdone.length_le.trans (hdone.reportPeak_foldl rest)

theorem foldl_posts (x : Sensors F) (r : MotionReport) (n : ℕ) :
    ((List.replicate n (.post r)).foldl act (boot x : Mail F D)).front.queue.length =
        min n reportQueueLen ∧
      drops ((List.replicate n (.post r)).foldl act (boot x : Mail F D)).log =
        n - reportQueueLen := by
  induction n with
  | zero => exact ⟨rfl, rfl⟩
  | succ n ih =>
    rw [List.replicate_succ', List.foldl_append, List.foldl_cons, List.foldl_nil]
    generalize (List.replicate n (.post r)).foldl act (boot x : Mail F D) = s at ih ⊢
    obtain ⟨hlength, hdrops⟩ := ih
    simp only [drops] at hdrops
    simp only [act, Front.reportPost, drops, List.countP_append, hdrops, List.countP_singleton]
    by_cases hroom : s.front.queue.length < reportQueueLen
    · simp only [hroom, if_true, decide_true, List.length_append, List.length_singleton,
        Bool.not_true, Bool.false_eq_true, if_false]
      omega
    · simp only [hroom, if_false, decide_false, Bool.not_false, if_true]
      omega

/-- After `2 ^ 32` drops the loss counter is back at zero. -/
theorem loss_count_wraps :
    let x : Sensors ℚ := ⟨⟨0, 0⟩, ⟨0, 0⟩, ⟨0, 0⟩, ⟨0, 0⟩, 1 / 10000⟩
    let ops := List.replicate (2 ^ 32 + 8) (MailOp.post ⟨1, .done, .none, false⟩)
    drops (ops.foldl act (boot x : Mail ℚ ℚ)).log = 2 ^ 32 ∧
      (ops.foldl act (boot x : Mail ℚ ℚ)).front.reportLossCount = 0 := by
  intro x ops
  have hdrops : drops (ops.foldl act (boot x : Mail ℚ ℚ)).log = 2 ^ 32 :=
    (foldl_posts x _ (2 ^ 32 + 8)).2
  refine ⟨hdrops, ?_⟩
  rw [((kept_boot x : (boot x : Mail ℚ ℚ).Kept).foldl ops).losses, hdrops]
  rfl

/-- A post that finds room in the buffer finds room on the counter too. -/
def Countable (s : Mail F D) : MailOp → Prop
  | .post _ => s.front.queue.length < reportQueueLen →
      s.front.queue.length + s.taken.length < reportQueueLen
  | _ => True

instance (s : Mail F D) : ∀ op, Decidable (s.Countable op)
  | .post _ => inferInstanceAs (Decidable (_ → _))
  | .take | .ack _ => isTrue trivial

/-- The counter counts what is in the buffer and what is not yet counted off. -/
def Counts (s : Mail F D) : Prop :=
  s.Kept ∧ s.front.reportQueued = s.front.queue.length + s.taken.length

omit [CFloat F] [CFloat D] in
theorem Counts.act (h : s.Counts) {op : MailOp} (hop : s.Countable op) : (s.act op).Counts := by
  obtain ⟨hkept, hq⟩ := h
  refine ⟨hkept.act op, ?_⟩
  cases op with
  | post =>
    simp only [Mail.act, Front.reportPost]
    by_cases hroom : s.front.queue.length < reportQueueLen
    · have hfits := hop hroom
      rw [if_pos hroom, if_pos (by omega)]
      simp only [List.length_append, List.length_singleton]
      omega
    · rw [if_neg hroom]
      exact hq
  | take =>
    simp only [Mail.act, Front.reportTake]
    cases hbuffer : s.front.queue with
    | nil => exact hq
    | cons =>
      rw [hbuffer] at hq
      simp only [List.length_cons, List.length_append, List.length_nil] at hq ⊢
      omega
  | ack k =>
    simp only [Mail.act]
    cases hk : s.taken[k]? with
    | none => exact hq
    | some r =>
      obtain ⟨c, -, hack⟩ := reportAck_eq hkept.sink r
      have hlt : k < s.taken.length := (List.getElem?_eq_some_iff.1 hk).1
      simp only [hack, List.length_eraseIdx, hlt, if_true]
      omega

/-- **The counter of the report queue** is the number of reports in the buffer whenever no reader is
between its two steps, if no post finds eight in the buffer and with the readers. -/
theorem queued_counts (x : Sensors F) {ops : List MailOp}
    (h : Run.Meets act Countable (boot x : Mail F D) ops) :
    Run.Always act (fun s => s.taken = [] → s.front.reportQueued = s.front.queue.length)
      (boot x : Mail F D) ops := by
  refine Run.always_of_meets (I := Counts) (fun _ _ hs hop => hs.act hop) ?_ ⟨kept_boot x, rfl⟩ h
  rintro s ⟨-, hs⟩ htaken
  rw [hs, htaken]
  rfl

/-- Eight reports, one of them read and counted off before the ninth. -/
theorem queued_counts_eight :
    let x : Sensors ℚ := ⟨⟨0, 0⟩, ⟨0, 0⟩, ⟨0, 0⟩, ⟨0, 0⟩, 1 / 10000⟩
    let posts (n : ℕ) := List.replicate n (MailOp.post ⟨1, .cancelled, .none, false⟩)
    let ops := posts 8 ++ [.take, .ack 0] ++ posts 1
    Run.Meets act Countable (boot x : Mail ℚ ℚ) ops ∧
      Run.Always act (fun s => s.taken = [] → s.front.reportQueued = s.front.queue.length)
        (boot x : Mail ℚ ℚ) ops := by
  intro x posts ops
  have h : Run.Meets act Countable (boot x : Mail ℚ ℚ) ops := by decide +kernel
  exact ⟨h, queued_counts x h⟩

/-- The ninth is posted between the two steps of the reader: in the end no reader is under way and
the buffer is full, and the counter shows seven. -/
theorem queued_falls_behind :
    let x : Sensors ℚ := ⟨⟨0, 0⟩, ⟨0, 0⟩, ⟨0, 0⟩, ⟨0, 0⟩, 1 / 10000⟩
    let posts (n : ℕ) := List.replicate n (MailOp.post ⟨1, .cancelled, .none, false⟩)
    let ops := posts 8 ++ MailOp.take :: posts 1 ++ [.ack 0]
    let s := ops.foldl act (boot x : Mail ℚ ℚ)
    s.taken = [] ∧ s.front.queue.length = 8 ∧ s.front.reportQueued = 7 := by
  decide +kernel

end Mail

end RoboticCar.Motion
