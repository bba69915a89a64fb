import RoboticCar.Motion.System

/-!
# What the report queue holds

`Front.Posts` says for one block that the queue grew at its end, by words under the id that is
current afterwards, and holds no more than eight.  Only an accepted request changes the current id
(`Front.request_posts`, `System.act_posts`).  `instanceId` is the id of a command counted from 1;
two commands in a row never share it (`instanceId_succ_ne`).
-/

namespace RoboticCar.Motion

open Lib CFloat

variable {F D : Type}

/-- The id of the `n`-th accepted command; before the first one it is 0. -/
def instanceId (n : ℕ) : UInt8 := nextId^[n] 0

theorem instanceId_succ (n : ℕ) : instanceId (n + 1) = nextId (instanceId n) :=
  Function.iterate_succ_apply' nextId n 0

theorem nextId_ne (id : UInt8) : nextId id ≠ id := by
  unfold nextId
  split
  · rintro rfl
    exact absurd ‹_› (by decide)
  · intro h
    simp at h

theorem instanceId_succ_ne (n : ℕ) : instanceId (n + 1) ≠ instanceId n := by
  rw [instanceId_succ]
  exact nextId_ne _

/-- The reports of a transition carry the id that is current after it, which is a new one exactly
for an accepted command. -/
theorem Chart.Step.ids {s s' : Chart} {k : Cause} {reports : List MotionReport}
    (h : Chart.Step s k reports s') :
    (∀ r ∈ reports, r.commandId = s'.cmdId) ∧
      s'.cmdId = if k = .accepted then nextId s.cmdId else s.cmdId := by
  cases h with
  | stay k hk => exact ⟨nofun, by rw [if_neg hk]⟩
  | _ => exact ⟨by simp [Chart.safe], rfl⟩

/-- What the reports of a controller call say: all of them are made for the command that is current
after it. -/
def Signed (c c' : Ctrl F) : Prop :=
  ∃ reports, c'.sink = c.sink ++ reports ∧ ∀ r ∈ reports, r.commandId = c'.cmdId

section Calls

variable [CFloat F]

/-- Only an accepted request changes the id. -/
theorem Call.ids (c : Ctrl F) (call : Call F) :
    Signed c (call.apply c) ∧
      (call.apply c).cmdId = if call.cause c = .accepted then nextId c.cmdId else c.cmdId := by
  by_cases hn : call = .navigationTimeout
  · -- a lease timeout is no transition of the chart when it finds no command running
    subst hn
    exact ⟨⟨_, raiseFaults_sink _ c, by simp [apply, motionControllerNavigationTimeout, raiseFault,
      raiseFaults, report, outputsSafe]⟩, rfl⟩
  · obtain ⟨reports, hsink, hs⟩ := call.refines c fun e => absurd e hn
    exact ⟨⟨reports, hsink, hs.ids.1⟩, hs.ids.2⟩

end Calls

/-! ## Blocks of the front end -/

namespace Front

/-- From `m` to `m'` reports were posted at the end of the queue, all under `id`, which is then the
current id. -/
structure Posts (m : Front F D) (id : UInt8) (m' : Front F D) : Prop where
  queue : ∃ new, m'.queue = m.queue ++ new ∧ ∀ w ∈ new, (motionUnpackReport w).commandId = id
  cmdId : m'.ctl.cmdId = id
  sink : m'.ctl.sink = []
  fits : m.queue.length ≤ reportQueueLen → m'.queue.length ≤ reportQueueLen

theorem Posts.of_eq {m m' : Front F D} (hq : m'.queue = m.queue)
    (hid : m'.ctl.cmdId = m.ctl.cmdId) (hs : m'.ctl.sink = []) : m.Posts m.ctl.cmdId m' :=
  ⟨⟨[], by rw [hq, List.append_nil], nofun⟩, hid, hs, fun h => by rwa [hq]⟩

theorem Posts.trans {m₁ m₂ m₃ : Front F D} {id : UInt8} (h : m₁.Posts id m₂)
    (h' : m₂.Posts id m₃) : m₁.Posts id m₃ := by
  obtain ⟨new, hq, hnew⟩ := h.queue
  obtain ⟨new', hq', hnew'⟩ := h'.queue
  refine ⟨⟨new ++ new', by rw [hq', hq, List.append_assoc], fun w hw => ?_⟩, h'.cmdId, h'.sink,
    fun hf => h'.fits (h.fits hf)⟩
  exact (List.mem_append.1 hw).elim (hnew w) (hnew' w)

theorem reportPost_queue (m : Front F D) (r : MotionReport) :
    (∃ new, (m.reportPost r).queue = m.queue ++ new ∧
      ∀ w ∈ new, (motionUnpackReport w).commandId = r.commandId) ∧
    (m.queue.length ≤ reportQueueLen → (m.reportPost r).queue.length ≤ reportQueueLen) := by
  unfold reportPost
  by_cases hroom : m.queue.length < reportQueueLen
  · rw [if_pos hroom]
    refine ⟨⟨_, rfl, by simp⟩, fun _ => ?_⟩
    rw [List.length_append]
    exact hroom
  · rw [if_neg hroom]
    exact ⟨⟨[], by simp, nofun⟩, id⟩

theorem foldl_reportPost_queue {id : UInt8} {l : List MotionReport}
    (hl : ∀ r ∈ l, r.commandId = id) (m : Front F D) :
    (∃ new, (l.foldl reportPost m).queue = m.queue ++ new ∧
      ∀ w ∈ new, (motionUnpackReport w).commandId = id) ∧
    (m.queue.length ≤ reportQueueLen → (l.foldl reportPost m).queue.length ≤ reportQueueLen) := by
  induction l generalizing m with
  | nil => exact ⟨⟨[], by simp, nofun⟩, fun h => h⟩
  | cons r l ih =>
    obtain ⟨⟨new, hq, hnew⟩, hfits⟩ := m.reportPost_queue r
    obtain ⟨⟨new', hq', hnew'⟩, hfits'⟩ :=
      ih (fun r hr => hl r (List.mem_cons_of_mem _ hr)) (m.reportPost r)
    refine ⟨⟨new ++ new', by rw [List.foldl_cons, hq', hq, List.append_assoc], fun w hw => ?_⟩,
      fun hf => hfits' (hfits hf)⟩
    rcases List.mem_append.1 hw with hw | hw
    · exact (hnew w hw).trans (hl r List.mem_cons_self)
    · exact hnew' w hw

theorem setCtl_posts {m : Front F D} (hs : m.ctl.sink = []) {c : Ctrl F} (hc : Signed m.ctl c) :
    m.Posts c.cmdId (m.setCtl c) := by
  obtain ⟨reports, hsink, hid⟩ := hc
  rw [hs, List.nil_append] at hsink
  obtain ⟨hq, hfits⟩ := foldl_reportPost_queue (hsink ▸ hid) { m with ctl := { c with sink := [] } }
  exact ⟨hq, by rw [setCtl_ctl], by rw [setCtl_ctl], hfits⟩

section Blocks

variable [CFloat F] {m : Front F D}

theorem setCtl_call_posts (hs : m.ctl.sink = []) (call : Call F)
    (hk : call.cause m.ctl ≠ .accepted) : m.Posts m.ctl.cmdId (m.setCtl (call.apply m.ctl)) := by
  have hids := call.ids m.ctl
  rw [if_neg hk] at hids
  exact hids.2 ▸ setCtl_posts hs hids.1

/-- A request posts under its own id. -/
theorem request_posts (hs : m.ctl.sink = []) (q : Request F) (now : UInt32) :
    m.Posts (if (m.request q now).1 = .ok ∧ m.ctl.state = .idle then nextId m.ctl.cmdId
      else m.ctl.cmdId) (m.request q now).2 := by
  have h := m.request_handed q now
  generalize m.request q now = p at h ⊢
  cases h with
  | refused res hres =>
    rw [if_neg fun h => hres h.1]
    exact .of_eq rfl rfl hs
  | velocity l r =>
    have hids := (Call.requestVelocity m.sensors l r now).ids m.ctl
    simp only [Call.cause, Call.apply, ite_eq_left_iff, reduceCtorEq, imp_false, not_not] at hids
    exact hids.2 ▸ setCtl_posts hs hids.1
  | move kind sl sr dist speed =>
    have hids := (Call.requestMove m.sensors kind sl sr dist speed now).ids m.ctl
    have hidle : (motionControllerRequestMove m.sensors kind.state sl sr dist speed now m.ctl).1 =
        .ok → m.ctl.state = .idle := by
      intro hok
      rcases motionControllerRequestMove_cases m.sensors kind.state sl sr dist speed now m.ctl with
        h | h
      · exact absurd hok h.1
      · exact h.2.1
    simp only [Call.cause, Call.apply, ite_eq_left_iff, reduceCtorEq, imp_false, not_not] at hids
    simp only [and_iff_left_of_imp hidle]
    exact hids.2 ▸ setCtl_posts hs hids.1

theorem stop_posts (hs : m.ctl.sink = []) : m.Posts m.ctl.cmdId m.stop := by
  have h := setCtl_call_posts hs .stop (by simp [Call.cause])
  unfold stop
  dsimp only
  split_ifs
  · exact { h with }
  · exact h

theorem reset_posts (hs : m.ctl.sink = []) : m.Posts m.ctl.cmdId m.reset.2 := by
  refine setCtl_call_posts hs .reset ?_
  rw [Call.cause]
  split_ifs <;> decide

theorem reportAck_posts (hs : m.ctl.sink = []) (r : MotionReport) :
    m.Posts m.ctl.cmdId (m.reportAck r) := by
  unfold reportAck
  split_ifs
  · have h := setCtl_call_posts (m := { m with reportQueued := m.reportQueued - 1 }) hs
      (.ackComplete r.commandId) (by simp [Call.cause])
    exact { h with }
  · exact .of_eq rfl rfl hs

theorem leaseCheck_posts (hs : m.ctl.sink = []) (now : UInt32) :
    m.Posts m.ctl.cmdId (m.leaseCheck now) := by
  unfold leaseCheck
  split_ifs
  · have h := setCtl_call_posts hs .navigationTimeout (by simp [Call.cause])
    exact { h with }
  · exact .of_eq rfl rfl hs

/-- A control step posts under the current id. -/
theorem control_posts [CFloat D] [CDouble F D] (hs : m.ctl.sink = []) (x : Sensors F)
    (now elapsed : UInt32) : m.Posts m.ctl.cmdId (m.control x now elapsed) := by
  have hlease := leaseCheck_posts (m := { m with sensors := x, lastStepUs := now }) hs now
  have hstep := setCtl_call_posts hlease.sink (.step x (stepSeconds elapsed) now)
    (by simp [Call.cause])
  rw [hlease.cmdId] at hstep
  have hbegin : m.Posts m.ctl.cmdId _ := { hlease with }
  have h := hbegin.trans hstep
  exact { h with }

end Blocks

end Front

/-- The blocks that neither ask for motion nor take a report from the queue. -/
def Act.isBackground : Act F → Bool
  | .request _ | .take | .ack _ => false
  | _ => true

/-- **Every other block posts under the id it finds.** -/
theorem System.act_posts [CFloat F] [CFloat D] [CDouble F D] {s : System F D}
    (hs : s.front.ctl.sink = []) {a : Act F} (ha : a.isBackground) :
    s.front.Posts s.front.ctl.cmdId (s.act a).front := by
  have hsame : s.front.Posts s.front.ctl.cmdId s.front := .of_eq rfl rfl hs
  cases a with
  | request | take | ack => exact absurd ha nofun
  | tick => exact hsame
  | enter =>
    simp only [act]
    split <;> exact hsame
  | check =>
    rcases s.act_check_cases with h | ⟨_, _, _, ⟨_, h⟩ | ⟨_, h⟩⟩ <;> rw [h]
    · exact hsame
    · exact .of_eq rfl rfl hs
    · exact hsame
  | spin w duty =>
    rcases s.act_spin_cases w duty with h | ⟨_, h⟩ <;> rw [h]
    · exact hsame
    · exact .of_eq rfl rfl hs
  | finish x =>
    rcases s.act_finish_cases x with h | ⟨_, h⟩ <;> rw [h]
    · exact hsame
    · exact .of_eq rfl rfl hs
  | step x =>
    rcases s.act_step_cases x with h | ⟨now, elapsed, _, ⟨_, h⟩ | ⟨_, h⟩⟩ <;> rw [h]
    · exact hsame
    · exact Front.setCtl_call_posts hs .makeSafe (by simp [Call.cause])
    · exact Front.control_posts hs x now elapsed
  | stop => exact Front.stop_posts hs
  | cancel id => exact Front.setCtl_call_posts hs (.cancel id) (by simp [Call.cause])
  | reset => exact Front.reset_posts hs
  | poll => exact Front.setCtl_call_posts hs .poll (by simp [Call.cause])
  | heartbeat => exact .of_eq rfl rfl hs
  | requestCalibration =>
    simp only [act, Front.requestCalibration]
    split_ifs <;> exact .of_eq rfl rfl hs

end RoboticCar.Motion
