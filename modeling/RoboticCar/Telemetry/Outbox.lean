import RoboticCar.Telemetry.Cache

/-!
# Fault packets in the outbox

A fault update builds its packet in its critical section and places it in the outbox afterwards, so
two updates can be placed in the other order than they were made in (`overtaken_packet_stale`).  By
`last_packet_true` this is the only way to a last packet that does not show the cached mask.
-/

namespace RoboticCar.Telemetry

open Lib.Run

theorem lockedUpdate_ok {k : Kernel} {s s' : Cache} {v : Snapshot} (h : Cached s.latest v)
    {changed active : UInt8} {packet : List UInt8}
    (hok : lockedUpdate k s changed active = .ok (s', packet)) :
    Cached s'.latest (withFaults changed active v) ∧
      encode .faults (withFaults changed active v) 2 = some packet := by
  rw [lockedUpdate, h.parse] at hok
  split_ifs at hok with hbad
  simp only [not_or, not_not] at hbad
  obtain ⟨p, packet', hp, hpacket, hchanges⟩ := h.update hbad.2.1 hbad.2.2
  simp only [hp, hpacket, Option.getD_some, Except.ok.injEq, Prod.mk.injEq] at hok
  obtain ⟨rfl, rfl⟩ := hok
  exact ⟨hchanges.cached, hpacket⟩

@[simp] theorem latest_queuePublish (k : Kernel) (s : Cache) (t : Topic) (payload : List UInt8) :
    (s.queuePublish k t payload).2.latest = s.latest := by
  rw [Cache.queuePublish]
  split_ifs <;> rfl

/-- The cache and the calls that are still to place their packet, in the order of their updates. -/
structure Updates (τ : Type) where
  cache : Cache
  unsent : List (τ × List UInt8)

/-- What a task does next: the first or the second half of a call. -/
inductive Updates.Act (τ : Type)
  | update (task : τ) (changed active : UInt8) (k : Kernel)
  | send (task : τ)

def Kernel.granting : Kernel := ⟨true, true, true⟩

namespace Updates

variable {τ : Type} [DecidableEq τ]

/-- One half of a call.  A task that is still to place a packet makes no other call. -/
def act (s : Updates τ) : Act τ → Updates τ
  | .update task changed active k =>
    if task ∈ s.unsent.map Prod.fst then s
    else
      match lockedUpdate k s.cache changed active with
      | .error _ => s
      | .ok (cache, packet) => ⟨cache, s.unsent ++ [(task, packet)]⟩
  | .send task =>
    match s.unsent.find? (·.1 = task) with
    | none => s
    | some (_, packet) =>
      ⟨(s.cache.queuePublish .granting .faults packet).2, s.unsent.filter (·.1 ≠ task)⟩

end Updates

def maskIn (t : Topic) (packet : List UInt8) : Option UInt8 := (parse t packet).map Snapshot.faults

def Cache.lastFaults (s : Cache) : Option (List UInt8) :=
  (s.outbox.filter (·.1 = .faults)).getLast?.map Prod.snd

namespace Updates

variable {τ : Type}

/-- Once all calls have returned, nothing has changed since `start`, or the last packet is true. -/
def LastPacketTrue (start : Cache) (s : Updates τ) : Prop :=
  s.unsent = [] → s.cache = start ∨
    ∃ packet mask, s.cache.lastFaults = some packet ∧ maskIn .faults packet = some mask ∧
      maskIn .snapshot s.cache.latest = some mask

/-- The call that updated last does not place its packet while another is to be placed. -/
def InOrder (s : Updates τ) : Act τ → Prop
  | .update _ _ _ _ => True
  | .send task => s.unsent.getLast?.map Prod.fst = some task → s.unsent.length = 1

instance [DecidableEq τ] (s : Updates τ) : (a : Act τ) → Decidable (s.InOrder a)
  | .update _ _ _ _ => isTrue trivial
  | .send task =>
    inferInstanceAs (Decidable (s.unsent.getLast?.map Prod.fst = some task → s.unsent.length = 1))

/-! ## The newest packet -/

/-- The newest packet, placed or not, has the mask of the cache. -/
structure Newest (s : Updates τ) (packet : List UInt8) (v : Snapshot) : Prop where
  cached : Cached s.cache.latest v
  encoded : encode .faults v 2 = some packet
  newest : (∃ l task, s.unsent = l ++ [(task, packet)]) ∨
    s.unsent = [] ∧ s.cache.lastFaults = some packet

def Good (start : Cache) (s : Updates τ) : Prop :=
  (s.unsent = [] ∧ s.cache = start ∧ ∃ v, Cached start.latest v) ∨ ∃ packet v, s.Newest packet v

variable {packet : List UInt8}

theorem maskIn_of_encode {v : Snapshot} {capacity : ℕ}
    (h : encode .faults v capacity = some packet) : maskIn .faults packet = some v.faults := by
  obtain ⟨-, haccepts, hpacket⟩ := (encode_eq_some_iff .faults v capacity packet).1 h
  rw [maskIn, (parse_eq_some_iff .faults packet _).2
    ⟨by decide, _, hpacket, bodyContents_pack haccepts⟩]
  rfl

variable {s : Updates τ}

theorem Newest.lastPacketTrue {v : Snapshot} (h : s.Newest packet v) (start : Cache) :
    s.LastPacketTrue start := by
  intro hdone
  rcases h.newest with ⟨l, task, hl⟩ | ⟨-, hlast⟩
  · exact absurd (hdone.symm.trans hl) (by simp)
  · refine .inr ⟨packet, v.faults, hlast, maskIn_of_encode h.encoded, ?_⟩
    rw [maskIn, h.cached.parse]
    rfl

theorem Good.cached {start : Cache} (h : s.Good start) : ∃ v, Cached s.cache.latest v := by
  rcases h with ⟨-, hstart, hv⟩ | ⟨_, v, hn⟩
  · exact hstart ▸ hv
  · exact ⟨v, hn.cached⟩

variable [DecidableEq τ]

theorem lastFaults_queuePublish {s : Cache} (h : payloadValid .faults packet) :
    (s.queuePublish .granting .faults packet).2.lastFaults = some packet := by
  rw [Cache.queuePublish, h]
  simp [Kernel.granting, Cache.lastFaults]

/-- An update keeps the outbox good. -/
theorem Good.update {start : Cache} (h : s.Good start) (task : τ) (changed active : UInt8)
    (k : Kernel) : (s.act (.update task changed active k)).Good start := by
  simp only [act]
  split_ifs with hbusy
  · exact h
  · cases hok : lockedUpdate k s.cache changed active with
    | error => exact h
    | ok r =>
      obtain ⟨v, hv⟩ := h.cached
      obtain ⟨hcached, hpacket⟩ := lockedUpdate_ok hv hok
      exact .inr ⟨r.2, _, hcached, hpacket, .inl ⟨s.unsent, task, rfl⟩⟩

theorem Newest.send {v : Snapshot} (h : s.Newest packet v) {task : τ}
    (horder : s.InOrder (.send task)) : (s.act (.send task)).Newest packet v := by
  simp only [act]
  rcases h.newest with ⟨l, last, hl⟩ | ⟨hnone, hlast⟩
  · by_cases htask : last = task
    · -- it is the newest itself, and then the only one
      subst htask
      have hnil : l = [] := by
        have hlen : s.unsent.length = 1 := horder (by rw [hl]; simp)
        rw [hl] at hlen
        simpa using hlen
      subst hnil
      have hfind : s.unsent.find? (·.1 = last) = some (last, packet) := by rw [hl]; simp
      rw [hfind]
      refine ⟨by simpa using h.cached, h.encoded, .inr ⟨by rw [hl]; simp, ?_⟩⟩
      exact lastFaults_queuePublish (payloadValid_of_encode h.encoded)
    · cases s.unsent.find? (·.1 = task) with
      | none => exact h
      | some =>
        refine ⟨by simpa using h.cached, h.encoded, .inl ⟨l.filter (·.1 ≠ task), last, ?_⟩⟩
        rw [hl, List.filter_append]
        simp [htask]
  · rw [hnone, List.find?_nil]
    exact h

/-- So does a send in order. -/
theorem Good.send {start : Cache} (h : s.Good start) {task : τ} (horder : s.InOrder (.send task)) :
    (s.act (.send task)).Good start := by
  rcases h with ⟨hnone, hstart⟩ | ⟨packet, v, hn⟩
  · have hidle : s.act (.send task) = s := by simp only [act, hnone, List.find?_nil]
    rw [hidle]
    exact .inl ⟨hnone, hstart⟩
  · exact .inr ⟨packet, v, hn.send horder⟩

/-- The report of an IMU fault is interrupted before it places its packet by that of a lost link. -/
def overtaken : List (Act (Fin 2)) :=
  [.update 0 0x04 0x04 .granting, .update 1 0x10 0x10 .granting, .send 1, .send 0]

/-- The packet that was overtaken is the last one, and lacks the fault of the other task. -/
theorem overtaken_packet_stale :
    (overtaken.foldl act ⟨.boot, []⟩).unsent = [] ∧
      (overtaken.foldl act ⟨.boot, []⟩).cache.lastFaults.bind (maskIn .faults) = some 0x04 ∧
      maskIn .snapshot (overtaken.foldl act ⟨.boot, []⟩).cache.latest = some 0x14 ∧
      ¬(overtaken.foldl act ⟨.boot, []⟩).LastPacketTrue .boot := by
  have hunsent : (overtaken.foldl act ⟨.boot, []⟩).unsent = [] := by decide +kernel
  have hlast : (overtaken.foldl act ⟨.boot, []⟩).cache.lastFaults.bind (maskIn .faults) =
      some 0x04 := by decide +kernel
  have hcache : maskIn .snapshot (overtaken.foldl act ⟨.boot, []⟩).cache.latest = some 0x14 := by
    decide +kernel
  refine ⟨hunsent, hlast, hcache, fun htrue => ?_⟩
  rcases htrue hunsent with hstart | ⟨packet, mask, hpacket, hmask, hmask'⟩
  · exact absurd hstart (by decide +kernel)
  · rw [hpacket, Option.bind_some, hmask] at hlast
    rw [hmask', hlast] at hcache
    exact absurd hcache (by decide)

/-- **The last fault packet** has the mask of the cache whenever all calls have returned, if the
call that updated last never places its packet before another that is still to be placed. -/
theorem last_packet_true (calls : List (Call × Kernel)) (acts : List (Act τ))
    (h : Meets act InOrder ⟨calls.foldl Cache.act .boot, []⟩ acts) :
    Always act (LastPacketTrue (calls.foldl Cache.act .boot))
      ⟨calls.foldl Cache.act .boot, []⟩ acts := by
  have hcached := Lib.Run.invariant (I := fun s : Cache => ∃ v, Cached s.latest v)
    (fun s c ⟨v, hv⟩ => (callOk hv c).2) ⟨_, cached_boot⟩ calls
  refine always_of_meets (I := Good (calls.foldl Cache.act .boot)) ?_ ?_
    (.inl ⟨rfl, rfl, hcached⟩) h
  · intro s a hs horder
    cases a with
    | update task changed active k => exact hs.update task changed active k
    | send task => exact hs.send horder
  · rintro s (⟨-, hstart, -⟩ | ⟨packet, v, hn⟩)
    · exact fun _ => .inl hstart
    · exact hn.lastPacketTrue _

/-- Two updates at once whose packets are placed in the order of the updates. -/
theorem last_packet_true_bench :
    Always act (LastPacketTrue .boot) ⟨.boot, []⟩
      [Act.update (0 : Fin 2) 0x04 0x04 .granting, .update 1 0x10 0x10 .granting, .send 0,
        .send 1] :=
  last_packet_true [] _ (by decide +kernel)

end Updates

end RoboticCar.Telemetry
