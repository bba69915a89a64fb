import RoboticCar.Motion.Safety

/-!
# One report per command

`motion.h` promises that every command ends with exactly one report.  `Ledger` numbers the accepted
commands and tags each report with the instance that was current when it was made.

A transition of the statechart keeps the promise (`Books.call`).  A lease timeout breaks it when no
command runs: it reports a fault under the id of the last command.  `one_report_iff`: this is the
only way.
-/

namespace RoboticCar.Motion

open Lib CFloat

variable {F : Type}

/-- A controller with the number of accepted commands, and every report with its instance. -/
structure Ledger (F : Type) where
  ctl : Ctrl F
  accepted : ℕ
  posted : List (ℕ × MotionReport)

namespace Ledger

def reportsOf (l : Ledger F) (i : ℕ) : ℕ := l.posted.countP fun p => p.1 == i

/-- **The promise**: an accepted command has at most one report, and one once a later one is
accepted. -/
def OneReport (l : Ledger F) : Prop :=
  ∀ i, 1 ≤ i → i ≤ l.accepted → l.reportsOf i ≤ 1 ∧ (i < l.accepted → l.reportsOf i = 1)

def start (c : Ctrl F) : Ledger F := ⟨c, 0, []⟩

variable [CFloat F]

/-- A call, entered in the ledger; an accepted request is current before any report of its call. -/
def call (l : Ledger F) (op : Call F) : Ledger F :=
  let c := op.apply l.ctl
  let n := if op.cause l.ctl = .accepted then l.accepted + 1 else l.accepted
  ⟨c, n, l.posted ++ (c.sink.drop l.ctl.sink.length).map (n, ·)⟩

/-- The condition: a lease timeout finds a command running, or no command was accepted yet. -/
def TimeoutFindsCommand (l : Ledger F) (op : Call F) : Prop :=
  op = .navigationTimeout → isActive l.ctl.state = true ∨ l.accepted = 0

end Ledger

/-! ## The books balance -/

/-- A transition makes no report and keeps the command, ends it with one report, or accepts one and
reports it exactly if it is over at once. -/
theorem Chart.Step.reports {s s' : Chart} {k : Cause} {reports : List MotionReport}
    (hs : Chart.Step s k reports s') :
    (k ≠ .accepted ∧ reports.length = 0 ∧ isActive s'.state = isActive s.state) ∨
    (k ≠ .accepted ∧ reports.length = 1 ∧ isActive s.state ∧ isActive s'.state = false) ∨
    (k = .accepted ∧ isActive s.state = false ∧
      reports.length = if isActive s'.state then 0 else 1) := by
  cases hs with
  | stay k hk => exact .inl ⟨hk, rfl, rfl⟩
  | run | brake | calibrationBegin | calibrationDrive | calibrationEnd =>
    exact .inl ⟨by decide, rfl, rfl⟩
  | fault bits ha | done ha | cancel ha => exact .inr (.inl ⟨by decide, rfl, ha, rfl⟩)
  | accept kind hi hp hk => exact .inr (.inr ⟨rfl, by rw [hi]; rfl, by simp [hk]⟩)
  | acceptDone hi => exact .inr (.inr ⟨rfl, by rw [hi]; rfl, by simp [isActive]⟩)
  | settle h | clear h => exact .inl ⟨by decide, rfl, by rw [h]; rfl⟩

namespace Ledger

/-- Instances in the past have one report each, the current one has none while it runs and one after
that. -/
structure Books (l : Ledger F) : Prop where
  past : ∀ i, 1 ≤ i → i < l.accepted → l.reportsOf i = 1
  current : 1 ≤ l.accepted → l.reportsOf l.accepted = if isActive l.ctl.state then 0 else 1
  future : ∀ i, l.accepted < i → l.reportsOf i = 0
  active : isActive l.ctl.state = true → 1 ≤ l.accepted

theorem Books.oneReport {l : Ledger F} (h : l.Books) : l.OneReport := by
  intro i hi hle
  obtain hlt | rfl := Nat.lt_or_eq_of_le hle
  · exact ⟨(h.past i hi hlt).le, fun _ => h.past i hi hlt⟩
  · refine ⟨?_, fun hlt => absurd hlt (lt_irrefl _)⟩
    rw [h.current hi]
    split <;> decide

theorem books_start {c : Ctrl F} (hc : isActive c.state = false) : (start c).Books where
  past i hi hlt := absurd hlt (Nat.not_lt_zero i)
  current h := absurd h (Nat.not_succ_le_zero 0)
  future _ _ := rfl
  active h := by simp [start, hc] at h

theorem countP_tagged (n i : ℕ) (reports : List MotionReport) :
    (reports.map (n, ·)).countP (fun p => p.1 == i) = if n = i then reports.length else 0 := by
  induction reports with
  | nil => simp
  | cons r rest ih =>
    rw [List.map_cons, List.countP_cons, ih]
    by_cases h : n = i <;> simp [h]

variable [CFloat F]

theorem reportsOf_call {l : Ledger F} {op : Call F} {reports : List MotionReport}
    (hsink : (op.apply l.ctl).sink = l.ctl.sink ++ reports) (i : ℕ) :
    (l.call op).reportsOf i =
      l.reportsOf i + if (l.call op).accepted = i then reports.length else 0 := by
  simp only [reportsOf, call, hsink, List.drop_left', List.countP_append, countP_tagged]

theorem Books.call {l : Ledger F} (h : l.Books) {op : Call F}
    (hr : Refines l.ctl (op.cause l.ctl) (op.apply l.ctl)) : (l.call op).Books := by
  obtain ⟨reports, hsink, hs⟩ := hr
  have hcount := reportsOf_call hsink
  obtain ⟨hk, hlen, ha⟩ | ⟨hk, hlen, ha, ha'⟩ | ⟨hk, ha, hlen⟩ := hs.reports
  · -- nothing starts or ends
    have hn : (l.call op).accepted = l.accepted := if_neg hk
    have hr : ∀ i, (l.call op).reportsOf i = l.reportsOf i := fun i => by
      rw [hcount, hlen, ite_self, Nat.add_zero]
    have ha : isActive (l.call op).ctl.state = isActive l.ctl.state := ha
    exact ⟨by simpa only [hn, hr] using h.past, by simpa only [hn, hr, ha] using h.current,
      by simpa only [hn, hr] using h.future, by simpa only [hn, ha] using h.active⟩
  · -- the running command ends with its one report
    have hn : (l.call op).accepted = l.accepted := if_neg hk
    have ha' : isActive (l.call op).ctl.state = false := ha'
    have h1 := h.active ha
    refine ⟨fun i hi hlt => ?_, fun _ => ?_, fun i hlt => ?_, by simp [ha']⟩
    · rw [hn] at hlt
      rw [hcount, hn, if_neg (by omega), h.past i hi hlt]
    · rw [hcount, if_pos rfl, hlen, hn, h.current h1, ha']
      simp [show isActive l.ctl.state = true from ha]
    · rw [hn] at hlt
      rw [hcount, hn, if_neg (by omega), h.future i hlt]
  · -- a new instance; the one before it has its report, since no command was running
    have hn : (l.call op).accepted = l.accepted + 1 := if_pos hk
    have hi0 : isActive l.ctl.state = false := ha
    refine ⟨fun i hi hlt => ?_, fun _ => ?_, fun i hlt => ?_, fun _ => by omega⟩
    · rw [hn] at hlt
      rw [hcount, hn, if_neg (by omega), Nat.add_zero]
      obtain hlt' | rfl := Nat.lt_or_eq_of_le (Nat.le_of_lt_succ hlt)
      · exact h.past i hi hlt'
      · rw [h.current hi, hi0]; rfl
    · rw [hcount, if_pos rfl, hn, h.future _ (Nat.lt_succ_self _), hlen, Nat.zero_add]
      rfl
    · rw [hn] at hlt
      rw [hcount, hn, if_neg (by omega), h.future i (by omega)]

theorem reportsOf_timeout (l : Ledger F) (i : ℕ) :
    (l.call .navigationTimeout).reportsOf i =
      l.reportsOf i + if l.accepted = i then 1 else 0 := by
  have hsink : (Call.navigationTimeout.apply l.ctl).sink = l.ctl.sink ++
      [⟨l.ctl.cmdId, .fault, motionFaultFirst (motionFaultBit .staleCommand), false⟩] :=
    raiseFaults_sink _ l.ctl
  exact reportsOf_call hsink i

theorem Books.call_of_condition (l : Ledger F) (op : Call F) (h : l.Books)
    (hc : l.TimeoutFindsCommand op) : (l.call op).Books := by
  by_cases hidle : op = .navigationTimeout ∧ isActive l.ctl.state = false
  · -- before the first command a timeout reports for no instance
    obtain ⟨rfl, hi⟩ := hidle
    have h0 : l.accepted = 0 := by simpa [hi] using hc rfl
    have hn : (l.call .navigationTimeout).accepted = 0 := h0
    have hst : (l.call .navigationTimeout).ctl.state = .fault := rfl
    refine ⟨fun i _ hlt => by omega, fun h1 => by omega, fun i hlt => ?_, by simp [hst, isActive]⟩
    rw [reportsOf_timeout, if_neg (by omega), h.future i (by omega)]
  · refine h.call (op.refines l.ctl fun e => ?_)
    by_contra ha
    exact hidle ⟨e, by simpa using ha⟩

theorem not_oneReport_of_missed (l : Ledger F) (op : Call F) (h : l.Books)
    (hc : ¬l.TimeoutFindsCommand op) : ¬(l.call op).OneReport := by
  simp only [TimeoutFindsCommand, Classical.not_imp, not_or, Bool.not_eq_true] at hc
  obtain ⟨rfl, hi, h0⟩ := hc
  have h1 : 1 ≤ l.accepted := by omega
  intro hone
  have hle := (hone l.accepted h1 le_rfl).1
  rw [reportsOf_timeout, if_pos rfl, h.current h1, hi] at hle
  simp at hle

/-- **One report per command**: every accepted command has at most one report, and exactly one once
a later one is accepted, if and only if no lease timeout finds no command running. -/
theorem one_report_iff (s₀ : Sensors F) (maxSpeed leadDrive leadTurn : F) (c₀ : Ctrl F)
    (calls : List (Call F)) :
    let l := start (motionControllerInit s₀ maxSpeed leadDrive leadTurn c₀)
    Run.Always Ledger.call OneReport l calls ↔
      Run.Meets Ledger.call TimeoutFindsCommand l calls :=
  Run.always_iff_meets Books.call_of_condition (fun _ h => h.oneReport) not_oneReport_of_missed
    (books_start rfl) calls

/-- A drive of 5 cm is accepted and completes, and then the lease times out: the one command has
two reports, DONE and FAULT, under the same id. -/
theorem two_reports_after_timeout :
    let still : Sensors ℚ := ⟨⟨0, 0⟩, ⟨0, 0⟩, ⟨0, 0⟩, ⟨0, 0⟩, 1 / 10000⟩
    let arrived : Sensors ℚ := ⟨⟨600, 600⟩, ⟨0, 0⟩, ⟨0, 0⟩, ⟨0, 0⟩, 1 / 10000⟩
    let calls : List (Call ℚ) :=
      [.requestMove still .drive 1 1 (5 / 100) (2 / 10) 0, .step arrived (1 / 100) 10000,
        .navigationTimeout]
    let l := calls.foldl Ledger.call (start (motionControllerInit still 1 0 0 Ctrl.boot))
    l.posted = [(1, ⟨1, .done, .none, false⟩), (1, ⟨1, .fault, .staleCommand, false⟩)] ∧
      l.accepted = 1 ∧ ¬l.OneReport := by
  intro still arrived calls l
  have hposted :
      l.posted = [(1, ⟨1, .done, .none, false⟩), (1, ⟨1, .fault, .staleCommand, false⟩)] := by
    decide +kernel
  have hacc : l.accepted = 1 := by decide +kernel
  refine ⟨hposted, hacc, fun h => ?_⟩
  have h1 := (h 1 le_rfl hacc.ge).1
  rw [reportsOf, hposted] at h1
  simp at h1

end Ledger

end RoboticCar.Motion
