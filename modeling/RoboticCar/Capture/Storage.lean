import Mathlib.Data.List.Flatten
import RoboticCar.Capture.Model
import RoboticCar.Lib.Ring
import RoboticCar.Lib.Run

/-!
# What the capture stores

The samples of a run fall into *sections*: those that wait until a trigger, and those taken from
the trigger to the end of the episode.  `capture_storage`: the episodes hold for each section the
last of the waiting samples and all that were taken, and nothing stored changes again.  `Stored`
ties the capture to the sections of its history.
-/

namespace RoboticCar.Capture

open Lib CFloat

variable {D : Type}

/-! ## The used part of the pool -/

namespace Bcap

def samples (c : Bcap D) : List Sample := (List.range c.used).map c.pool

@[simp]
theorem length_samples (c : Bcap D) : c.samples.length = c.used := by simp [samples]

theorem samples_store (c : Bcap D) (s : Sample) : (c.store s).samples = c.samples ++ [s] := by
  simp only [samples, store, List.range_succ, List.map_append, List.map_singleton,
    Function.update_self]
  congr 1
  refine List.map_congr_left fun j hj => ?_
  exact Function.update_of_ne (List.mem_range.1 hj).ne s c.pool

def writing (c : Bcap D) : Episode D := c.episode c.episodes

/-- The captures differ in the pool, its use and the count of the episode that is written. -/
structure Appended (ss : List Sample) (c c' : Bcap D) : Prop where
  samples : c'.samples = c.samples ++ ss
  used : c'.used = c.used + ss.length
  episode : c'.episode = Function.update c.episode c.episodes
    { c.writing with count := c.writing.count + ss.length }
  rest : c' = { c with pool := c'.pool, used := c'.used, episode := c'.episode }

theorem Appended.refl (c : Bcap D) : Appended [] c c :=
  ⟨by simp, rfl, by simp [writing], rfl⟩

theorem Appended.writing {ss : List Sample} {c c' : Bcap D} (h : Appended ss c c') :
    c'.writing = { c.writing with count := c.writing.count + ss.length } := by
  have hepisodes : c'.episodes = c.episodes := by rw [h.rest]
  rw [Bcap.writing, hepisodes, h.episode, Function.update_self]

theorem Appended.store {ss : List Sample} {c c' : Bcap D} (h : Appended ss c c') (s : Sample) :
    Appended (ss ++ [s]) c (c'.store s) := by
  have hepisodes : c'.episodes = c.episodes := by rw [h.rest]
  refine ⟨?_, ?_, ?_, ?_⟩
  · rw [samples_store, h.samples, List.append_assoc]
  · simp [Bcap.store, h.used, add_assoc]
  · have hwriting := h.writing
    simp only [Bcap.writing, hepisodes] at hwriting
    simp only [Bcap.store, hepisodes, hwriting]
    rw [h.episode, Function.update_idem]
    simp [Bcap.writing, add_assoc]
  · rw [h.rest]
    rfl

end Bcap

variable [CFloat D]

/-- A sample at a position, as it is stored in an episode that begins at `origin`. -/
def placed (origin : D) (p : Sample × D) : Sample := { p.1 with mm := relMm origin p.2 }

namespace Bcap

def ring (c : Bcap D) : List (Sample × D) :=
  Ring.view (fun k => (c.pre k, c.preM k)) preSize c.preHead c.preCount

/-- The ring's samples are stored. -/
theorem flush_appended (c : Bcap D) :
    Appended (c.ring.map (placed c.writing.originM)) c (c.flush c.oldest) := by
  have hring : c.ring.map (placed c.writing.originM) = (List.range c.preCount).map fun n =>
      let k := (c.oldest + n) % preSize
      placed c.writing.originM (c.pre k, c.preM k) := by
    simp only [ring, Ring.view, List.map_map]
    refine List.map_congr_left fun n _ => ?_
    simp only [Function.comp_apply, Ring.slot, oldest, Nat.mod_add_mod]
  rw [hring, flush]
  generalize c.oldest = oldest
  generalize List.range c.preCount = ns
  induction ns using List.reverseRecOn with
  | nil => exact .refl c
  | append_singleton ns n ih =>
    rw [List.foldl_append, List.map_append]
    generalize ns.foldl _ c = c' at ih ⊢
    -- neither the ring nor the origin is touched by the stores before
    have hpre : c'.pre = c.pre := by rw [ih.rest]
    have hpreM : c'.preM = c.preM := by rw [ih.rest]
    have horigin : (c'.episode c'.episodes).originM = c.writing.originM := by
      rw [show c'.episode c'.episodes = c'.writing from rfl, ih.writing]
    simp only [List.foldl_cons, List.foldl_nil, List.map_cons, List.map_nil, hpre, hpreM, horigin]
    exact ih.store _

omit [CFloat D] in
theorem newEpisode_originM (c : Bcap D) (i : Input D) :
    (c.newEpisode i).originM = (c.ring.map Prod.snd ++ [i.centreM]).head (by simp) := by
  unfold newEpisode
  rcases hn : c.preCount with - | n
  · simp [ring, hn]
  · simp [ring, hn, Ring.view, List.range_succ_eq_map, Ring.slot, oldest]

/-- An episode begins with the ring's samples. -/
theorem openEpisode_appended (c : Bcap D) (i : Input D) :
    ∃ c', Appended (c.ring.map (placed (c.newEpisode i).originM))
      { c with episode := Function.update c.episode c.episodes (c.newEpisode i) } c' ∧
      c.openEpisode i = { c' with active := true, quiet := 0 } := by
  refine ⟨_, ?_, rfl⟩
  have h := flush_appended
    { c with episode := Function.update c.episode c.episodes (c.newEpisode i) }
  simp only [writing, Function.update_self] at h
  exact h

end Bcap

/-! ## The history and its sections -/

/-- What a sample holds of its input: the raw value, the surface and the states, and in its own
units the darkness and the time since the last one. -/
structure Sample.Holds (s : Sample) (dt : UInt32) (i : Input D) : Prop where
  raw : s.raw = i.raw
  surface : s.flags &&& 3 = i.surface &&& 3
  status : s.flags >>> 2 &&& 7 = i.status &&& 7
  collecting : s.flags.toNat.testBit 5 = i.collecting
  rearming : s.flags.toNat.testBit 6 = i.rearming
  gap : s.flags.toNat.testBit 7 = decide (30000 < dt)
  dark4 : s.dark4.toNat = min i.darkness.toNat 1000 / 4
  dtMs : s.dtMs.toNat = min (dt.toNat / 1000) 255

omit [CFloat D] in
theorem flags_bits : ∀ (surface : Fin 4) (status : Fin 8) (collecting rearming gap : Bool),
    let flags : UInt8 := UInt8.ofNat surface ||| UInt8.ofNat status <<< (2 : UInt8) |||
      (if collecting then 0x20 else 0) ||| (if rearming then 0x40 else 0) |||
      (if gap then 0x80 else 0)
    flags &&& 3 = UInt8.ofNat surface ∧ flags >>> 2 &&& 7 = UInt8.ofNat status ∧
      flags.toNat.testBit 5 = collecting ∧ flags.toNat.testBit 6 = rearming ∧
      flags.toNat.testBit 7 = gap := by
  decide +kernel

omit [CFloat D] in
theorem sampleOf_holds (dt : UInt32) (i : Input D) : (sampleOf dt i).Holds dt i := by
  have hsurface : (i.surface &&& 3).toNat < 4 := by
    rw [UInt8.toNat_and]
    exact Nat.and_lt_two_pow _ (n := 2) (by decide)
  have hstatus : (i.status &&& 7).toNat < 8 := by
    rw [UInt8.toNat_and]
    exact Nat.and_lt_two_pow _ (n := 3) (by decide)
  have hbits := flags_bits ⟨_, hsurface⟩ ⟨_, hstatus⟩ i.collecting i.rearming (decide (30000 < dt))
  simp only [UInt8.ofNat_toNat, decide_eq_true_eq] at hbits
  obtain ⟨hsurf, hstat, hcoll, hrearm, hgap⟩ := hbits
  refine ⟨rfl, hsurf, hstat, hcoll, hrearm, hgap, ?_, ?_⟩
  · simp only [sampleOf]
    split_ifs with h
    · have hlt : 1000 < i.darkness.toNat := UInt16.lt_iff_toNat_lt.1 h
      rw [min_eq_right hlt.le]
      rfl
    · have hle : i.darkness.toNat ≤ 1000 := UInt16.le_iff_toNat_le.1 (UInt16.not_lt.1 h)
      simp
      omega
  · simp only [sampleOf]
    split_ifs with h
    · have hlt : 255 < dt.toNat / 1000 := by simpa using UInt32.lt_iff_toNat_lt.1 h
      rw [min_eq_right hlt.le]
      rfl
    · have hle : dt.toNat / 1000 ≤ 255 := by
        simpa using UInt32.le_iff_toNat_le.1 (UInt32.not_lt.1 h)
      simp
      omega

/-- An input with the sample that was made of it. -/
structure Reading (D : Type) where
  input : Input D
  sample : Sample

def sinceLast (h : List (Reading D)) (i : Input D) : UInt32 :=
  match h.getLast? with
  | some r => i.tUs - r.input.tUs
  | none => 0

/-- The next reading after those of `h`. -/
def nextReading (h : List (Reading D)) (i : Input D) : Reading D where
  input := i
  sample := sampleOf (sinceLast h i) i

def history (l : List (Input D)) : List (Reading D) :=
  l.foldl (fun h i => h ++ [nextReading h i]) []

omit [CFloat D] in
theorem history_snoc (l : List (Input D)) (i : Input D) :
    history (l ++ [i]) = history l ++ [nextReading (history l) i] := by
  simp [history]

/-- Every reading holds what its input said. -/
def Faithful (h : List (Reading D)) : Prop :=
  ∀ before r after, h = before ++ r :: after → r.sample.Holds (sinceLast before r.input) r.input

omit [CFloat D] in
/-- Every sample of a history holds its input. -/
theorem faithful_history (l : List (Input D)) : Faithful (history l) := by
  induction l using List.reverseRecOn with
  | nil => simp [Faithful, history]
  | append_singleton l i ih =>
    rw [history_snoc]
    exact Run.snoc_splits (sampleOf_holds _ i) ih

def Reading.white (r : Reading D) : Bool := r.input.surface = 1

def Ends (m : List (Reading D)) : Prop :=
  endQuiet ≤ (m.rtakeWhile Reading.white).length ∧
    ∃ r, m.getLast? = some r ∧ r.input.collecting = false

/-- A stretch of the history: the readings before a trigger, and those from it on. -/
structure Section (D : Type) where
  waiting : List (Reading D)
  taken : List (Reading D)

namespace Section

def all (s : Section D) : List (Reading D) := s.waiting ++ s.taken

def kept (s : Section D) : List (Reading D) := s.waiting.rtake preSize ++ s.taken

def origin (s : Section D) : D := (s.kept.head?.map fun r => r.input.centreM).getD zero

def written (s : Section D) : List Sample :=
  s.kept.map fun r => placed s.origin (r.sample, r.input.centreM)

def snoc (s : Section D) (r : Reading D) : Section D := { s with taken := s.taken ++ [r] }

omit [CFloat D] in
theorem kept_snoc (s : Section D) (r : Reading D) : (s.snoc r).kept = s.kept ++ [r] := by
  simp only [kept, snoc, List.append_assoc]

theorem origin_snoc {s : Section D} (r : Reading D) (hs : s.kept ≠ []) :
    (s.snoc r).origin = s.origin := by
  simp only [origin, kept_snoc, List.head?_append_of_ne_nil _ hs]

theorem written_snoc {s : Section D} (r : Reading D) (hs : s.kept ≠ []) :
    (s.snoc r).written = s.written ++ [placed s.origin (r.sample, r.input.centreM)] := by
  rw [written, kept_snoc, origin_snoc r hs, List.map_append]
  rfl

end Section

/-- The entry of the table for the section `s` after the sections `before`. -/
structure Entry (before : List (Section D)) (s : Section D) (e : Episode D) : Prop where
  first : e.first = (before.flatMap Section.written).length
  count : e.count = s.kept.length
  origin : e.originM = s.origin

/-- A section of an episode: it begins with the first trigger and has not ended before its last
reading. -/
structure Section.Proper (s : Section D) : Prop where
  waiting : ∀ r ∈ s.waiting, r.input.triggers = false
  trigger : ∃ r m, s.taken = r :: m ∧ r.input.triggers = true
  unended : ∀ m, m <+: s.taken → m ≠ s.taken → ¬Ends m

/-- The closed episodes hold the sections `closed`. -/
structure Stored (closed : List (Section D)) (c : Bcap D) : Prop where
  count : closed.length = c.episodes
  table : ∀ before s after, closed = before ++ s :: after →
    Entry before s (c.episode before.length)
  proper : ∀ s ∈ closed, s.Proper
  ended : ∀ before s after, closed = before ++ s :: after →
    Ends s.taken ∨ ((before ++ [s]).flatMap Section.written).length = poolSize

/-- No episode is open; the readings `rest` have come since the last one. -/
structure Waiting (h : List (Reading D)) (closed : List (Section D)) (rest : List (Reading D))
    (c : Bcap D) : Prop extends Stored closed c where
  inactive : c.active = false
  history : h = closed.flatMap Section.all ++ rest
  pool : c.samples = closed.flatMap Section.written
  size : c.used ≤ poolSize
  episodes : c.episodes ≤ maxEpisodes
  head : c.preHead < preSize
  preCount : c.preCount ≤ preSize
  ring : c.ring = (rest.map fun r => (r.sample, r.input.centreM)).rtake preSize
  skipped : (∃ r ∈ rest, r.input.triggers = true) → c.isFull = true

/-- An episode is open, for the section `s`. -/
structure Taking (h : List (Reading D)) (closed : List (Section D)) (s : Section D)
    (c : Bcap D) : Prop extends Stored closed c where
  active : c.active = true
  history : h = closed.flatMap Section.all ++ s.all
  pool : c.samples = closed.flatMap Section.written ++ s.written
  size : c.used < poolSize
  episodes : c.episodes < maxEpisodes
  head : c.preHead < preSize
  entry : Entry closed s c.writing
  open_proper : s.Proper
  open_unended : ¬Ends s.taken
  quiet : c.quiet.toNat = (s.taken.rtakeWhile Reading.white).length

theorem waiting_begin (now : UInt32) : Waiting [] [] [] (beginRun now : Bcap D) where
  count := rfl
  table := by simp
  proper := by simp
  ended := by simp
  inactive := rfl
  history := rfl
  pool := rfl
  size := Nat.zero_le _
  episodes := Nat.zero_le _
  head := show 0 < preSize by decide
  preCount := Nat.zero_le _
  ring := by simp only [Bcap.ring, beginRun, Ring.view_zero, List.map_nil, List.rtake_nil]
  skipped := by simp

variable {c : Bcap D}

omit [CFloat D] in
theorem isFull_remember (h : c.isFull) (i : Input D) (s : Sample) :
    (c.remember i s).isFull = true := by
  simp only [Bcap.isFull, Bool.or_eq_true, decide_eq_true_eq] at h ⊢
  refine h.imp id fun h => ?_
  simp only [Bcap.remember]
  split_ifs <;> omega

omit [CFloat D] in
theorem ring_remember {h : List (Sample × D)} (hhead : c.preHead < preSize)
    (hcount : c.preCount ≤ preSize) (hring : c.ring = h.rtake preSize) (i : Input D) (s : Sample) :
    (c.remember i s).ring = (h ++ [(s, i.centreM)]).rtake preSize := by
  have hpush := Ring.view_push hhead hcount hring (s, i.centreM)
  have hpairs : (fun k => (Function.update c.pre c.preHead s k,
      Function.update c.preM c.preHead i.centreM k)) =
      Function.update (fun k => (c.pre k, c.preM k)) c.preHead (s, i.centreM) := by
    funext k
    by_cases hk : k = c.preHead
    · subst hk
      simp
    · simp [Function.update_of_ne hk]
  have hcount' : (if c.preCount < preSize then c.preCount + 1 else c.preCount) =
      min preSize (c.preCount + 1) := by
    split_ifs <;> omega
  simp only [Bcap.ring, Bcap.remember, hpairs, hcount']
  exact hpush

/-- A sample goes into the ring. -/
theorem Waiting.remember {h : List (Reading D)} {closed : List (Section D)}
    {rest : List (Reading D)} (w : Waiting h closed rest c) {r : Reading D}
    (hfull : r.input.triggers → c.isFull) :
    Waiting (h ++ [r]) closed (rest ++ [r]) (c.remember r.input r.sample) := by
  refine { w with
    history := ?_, head := Nat.mod_lt _ (by decide), preCount := ?_, ring := ?_, skipped := ?_ }
  · rw [w.history, List.append_assoc]
  · have := w.preCount
    simp only [Bcap.remember]
    split_ifs <;> omega
  · rw [List.map_append]
    exact ring_remember w.head w.preCount w.ring _ _
  · rintro ⟨t, ht, htrigger⟩
    apply isFull_remember
    rcases List.mem_append.1 ht with ht | ht
    · exact w.skipped ⟨t, ht, htrigger⟩
    · rw [List.mem_singleton.1 ht] at htrigger
      exact hfull htrigger

/-! ## A reading of an episode -/

/-- The reading `r` is about to be stored; with it the open section is `s`. -/
structure Due (h : List (Reading D)) (closed : List (Section D)) (s : Section D) (r : Reading D)
    (c : Bcap D) : Prop extends Stored closed c where
  active : c.active = true
  history : h = closed.flatMap Section.all ++ s.all
  pool : c.samples ++ [placed c.writing.originM (r.sample, r.input.centreM)] =
    closed.flatMap Section.written ++ s.written
  size : c.used < poolSize
  episodes : c.episodes < maxEpisodes
  head : c.preHead < preSize
  first : c.writing.first = (closed.flatMap Section.written).length
  origin : c.writing.originM = s.origin
  counted : c.writing.count + 1 = s.kept.length
  open_proper : s.Proper
  last : s.taken.getLast? = some r
  quiet : (if r.input.surface = 1 then c.quiet + 1 else 0).toNat =
    (s.taken.rtakeWhile Reading.white).length

theorem extend_eq (hactive : c.active) (hsize : c.used < poolSize) (i : Input D) (s : Sample) :
    c.extend i s =
      let c₁ := c.store (placed c.writing.originM (s, i.centreM))
      let quiet := if i.surface = 1 then c.quiet + 1 else 0
      if (endQuiet ≤ quiet.toNat ∧ i.collecting = false) ∨ poolSize ≤ c.used + 1 then
        { c₁ with quiet := quiet, active := false, episodes := c.episodes + 1, preCount := 0 }
      else { c₁ with quiet := quiet } := by
  simp only [Bcap.extend, if_pos hsize, Bcap.closeEpisode, Bcap.store, hactive, if_true,
    Bool.not_eq_true']
  rfl

omit [CFloat D] in
theorem ends_iff {m : List (Reading D)} {r : Reading D} (hlast : m.getLast? = some r) :
    Ends m ↔ endQuiet ≤ (m.rtakeWhile Reading.white).length ∧ r.input.collecting = false := by
  simp [Ends, hlast]

section Extend

variable {h : List (Reading D)} {closed : List (Section D)} {s : Section D} {r : Reading D}
  {c : Bcap D}

theorem Due.entry (d : Due h closed s r c) (x : Sample) :
    Entry closed s ((c.store x).episode closed.length) := by
  rw [d.count]
  simp only [Bcap.store, Function.update_self]
  exact ⟨d.first, d.counted, d.origin⟩

theorem Stored.update (d : Stored closed c) {c' : Bcap D} (hepisodes : c'.episodes = c.episodes)
    {e : Episode D} (hepisode : c'.episode = Function.update c.episode c.episodes e) :
    Stored closed c' := by
  refine { d with count := d.count.trans hepisodes.symm, table := ?_ }
  intro before t after hclosed
  have hne : before.length ≠ c.episodes := by
    rw [← d.count, hclosed]
    simp
  rw [hepisode, Function.update_of_ne hne]
  exact d.table before t after hclosed

theorem Due.used_eq (d : Due h closed s r c) :
    c.used + 1 = ((closed ++ [s]).flatMap Section.written).length := by
  have hlen := congrArg List.length d.pool
  simpa using hlen

/-- The sample that is due is stored; the episode may end with it. -/
theorem Due.extend (d : Due h closed s r c) :
    Taking h closed s (c.extend r.input r.sample) ∨
      Waiting h (closed ++ [s]) [] (c.extend r.input r.sample) := by
  have hpool := d.pool
  have hsize := d.size
  rw [← Bcap.samples_store] at hpool
  have hquiet := d.quiet
  rw [extend_eq d.active d.size]
  dsimp only
  generalize (if r.input.surface = 1 then c.quiet + 1 else 0) = quiet at hquiet ⊢
  rw [hquiet]
  generalize hx : placed c.writing.originM (r.sample, r.input.centreM) = x at hpool ⊢
  have hstored : Stored closed (c.store x) := d.toStored.update rfl rfl
  split_ifs with hclose
  · right
    have hended : Ends s.taken ∨ ((closed ++ [s]).flatMap Section.written).length = poolSize := by
      rw [ends_iff d.last, ← d.used_eq]
      exact hclose.imp id fun h => by omega
    refine ⟨⟨?_, ?_, ?_, ?_⟩, rfl, ?_, ?_, ?_, d.episodes, d.head, Nat.zero_le _, ?_, by simp⟩
    · simp [d.count]
    · exact Run.snoc_splits (d.entry x) hstored.table
    · intro t ht
      rcases List.mem_append.1 ht with ht | ht
      · exact d.proper t ht
      · exact List.mem_singleton.1 ht ▸ d.open_proper
    · exact Run.snoc_splits hended d.ended
    · simp [d.history]
    · have hwritten : (closed ++ [s]).flatMap Section.written =
          closed.flatMap Section.written ++ s.written := by simp
      exact hpool.trans hwritten.symm
    · exact hsize
    · simp [Bcap.ring]
  · left
    rw [not_or] at hclose
    refine ⟨⟨hstored.count, hstored.table, d.proper, d.ended⟩, d.active, d.history, hpool,
      Nat.lt_of_not_le hclose.2, d.episodes, d.head, ?_, d.open_proper, ?_, hquiet⟩
    · have hentry := d.entry x
      rw [d.count] at hentry
      exact hentry
    · rw [ends_iff d.last]
      exact hclose.1

omit [CFloat D] in
theorem Section.Proper.snoc (hs : s.Proper) (hunended : ¬Ends s.taken) (r : Reading D) :
    (s.snoc r).Proper := by
  refine ⟨hs.waiting, ?_, fun m hm hne => ?_⟩
  · obtain ⟨t, m, htaken, ht⟩ := hs.trigger
    exact ⟨t, m ++ [r], by simp [Section.snoc, htaken], ht⟩
  · rcases List.prefix_concat_iff.1 hm with rfl | hm
    · exact absurd rfl hne
    · by_cases hall : m = s.taken
      · exact hall ▸ hunended
      · exact hs.unended m hm hall

omit [CFloat D] in
theorem Section.Proper.kept_ne_nil (hs : s.Proper) : s.kept ≠ [] := by
  obtain ⟨t, m, htaken, -⟩ := hs.trigger
  simp [kept, htaken]

/-- In an open episode the next sample is due. -/
theorem Taking.due (t : Taking h closed s c) (r : Reading D) :
    Due (h ++ [r]) closed (s.snoc r) r c := by
  have hlength : s.taken.length ≤ c.used := by
    have hpool := congrArg List.length t.pool
    simp only [Bcap.length_samples, List.length_append, Section.written, List.length_map,
      Section.kept] at hpool
    omega
  refine { t.toStored with
    active := t.active, history := ?_, pool := ?_, size := t.size, episodes := t.episodes
    head := t.head, first := t.entry.first, origin := ?_, counted := ?_
    open_proper := t.open_proper.snoc t.open_unended r, last := by simp [Section.snoc]
    quiet := ?_ }
  · simp [t.history, Section.all, Section.snoc]
  · rw [Section.written_snoc r t.open_proper.kept_ne_nil, t.pool, t.entry.origin,
      List.append_assoc]
  · rw [t.entry.origin, Section.origin_snoc r t.open_proper.kept_ne_nil]
  · rw [t.entry.count, Section.kept_snoc, List.length_append, List.length_singleton]
  · have hquiet := t.quiet
    have hsize := t.size
    have hwhite : (s.taken.rtakeWhile Reading.white).length ≤ s.taken.length :=
      (List.rtakeWhile_suffix _ _).length_le
    have hroom : c.quiet.toNat + 1 < 2 ^ 16 := by
      simp only [poolSize] at hsize
      omega
    simp only [Section.snoc, List.rtakeWhile_concat, Reading.white, decide_eq_true_eq]
    split_ifs
    · rw [UInt16.toNat_add, List.length_append, ← hquiet]
      exact Nat.mod_eq_of_lt hroom
    · rfl

theorem map_rtake {α β : Type*} (f : α → β) (l : List α) (n : ℕ) :
    (l.map f).rtake n = (l.rtake n).map f := by
  simp [List.rtake]

theorem Waiting.proper_trigger {rest : List (Reading D)} (w : Waiting h closed rest c)
    (htrigger : r.input.triggers) (hroom : c.isFull = false) :
    (⟨rest, [r]⟩ : Section D).Proper := by
  refine ⟨fun t ht => ?_, ⟨r, [], rfl, htrigger⟩, fun m hm hne => ?_⟩
  · -- a trigger before would have found the capture full, and it would still be
    by_contra hother
    rw [w.skipped ⟨t, ht, by simpa using hother⟩] at hroom
    exact Bool.noConfusion hroom
  · rcases List.prefix_concat_iff.1 (List.nil_append [r] ▸ hm) with rfl | hm
    · exact absurd rfl hne
    · simp [List.prefix_nil.1 hm, Ends, endQuiet]

/-- A trigger with room opens an episode, and its sample is due. -/
theorem Waiting.due {rest : List (Reading D)} (w : Waiting h closed rest c)
    (htrigger : r.input.triggers) (hroom : c.isFull = false) :
    Due (h ++ [r]) closed ⟨rest, [r]⟩ r (c.openEpisode r.input) := by
  obtain ⟨c', happended, hopen⟩ := c.openEpisode_appended r.input
  have hring : c.ring = (rest.rtake preSize).map fun r => (r.sample, r.input.centreM) := by
    rw [w.ring, map_rtake]
  have hlength : c.ring.length = c.preCount := by simp [Bcap.ring]
  have hspace : c.episodes < maxEpisodes ∧ c.used + c.preCount + 1 ≤ poolSize := by
    simpa [Bcap.isFull] using hroom
  have horigin : (c.newEpisode r.input).originM = (⟨rest, [r]⟩ : Section D).origin := by
    have hkept : c.ring.map Prod.snd ++ [r.input.centreM] =
        (⟨rest, [r]⟩ : Section D).kept.map fun r => r.input.centreM := by
      simp [hring, Section.kept]
    rw [Bcap.newEpisode_originM, Section.origin, ← List.head?_map, ← hkept,
      List.head?_eq_some_head, Option.getD_some]
  have hwriting := happended.writing
  have hused := happended.used
  have hepisodes : c'.episodes = c.episodes := by rw [happended.rest]
  have hhead : c'.preHead = c.preHead := by rw [happended.rest]
  simp only [Bcap.writing, Function.update_self, List.length_map, hlength] at hwriting hused
  rw [hopen]
  refine { w.toStored.update hepisodes (happended.episode.trans (Function.update_idem ..)) with
    active := rfl, history := ?_, pool := ?_, size := ?_, episodes := ?_
    head := ?_, first := ?_, origin := ?_, counted := ?_
    open_proper := w.proper_trigger htrigger hroom, last := rfl, quiet := ?_ }
  · simp [w.history, Section.all]
  · have hsamples : c'.samples = closed.flatMap Section.written ++
        c.ring.map (placed (c.newEpisode r.input).originM) := w.pool ▸ happended.samples
    simp only [Bcap.writing, hwriting, horigin] at hsamples ⊢
    refine (congrArg (· ++ _) hsamples).trans ?_
    simp [Section.written, Section.kept, hring]
  · exact hused ▸ hspace.2
  · exact hepisodes ▸ hspace.1
  · exact hhead ▸ w.head
  · simp only [Bcap.writing, hwriting, ← w.pool, Bcap.length_samples]
    rfl
  · simpa only [Bcap.writing, hwriting] using horigin
  · simp only [Bcap.writing, hwriting, ← hlength, hring]
    simp [Bcap.newEpisode, Section.kept]
  · by_cases hwhite : r.input.surface = 1
    · simp [hwhite, Reading.white, List.rtakeWhile]
    · simp [hwhite, Reading.white, List.rtakeWhile]

end Extend

/-! ## One call -/

/-- The captures differ in the counters and the time of the last sample. -/
def Bcap.Noted (c c' : Bcap D) : Prop :=
  c' = { c with
    lastUs := c'.lastUs, haveLast := c'.haveLast, dropped := c'.dropped, decoded := c'.decoded
    rejected := c'.rejected, timing := c'.timing, overflow := c'.overflow, letters := c'.letters }

omit [CFloat D] in
theorem countResult_noted (c : Bcap D) (i : Input D) (t : UInt32) (b : Bool) :
    c.Noted ({ c with lastUs := t, haveLast := b }.countResult i) := by
  unfold Bcap.countResult Bcap.Noted
  split_ifs <;> rfl

section Record

variable {h : List (Reading D)} {closed : List (Section D)} {s : Section D}
  {rest : List (Reading D)} {r : Reading D} {c c' : Bcap D}

theorem Waiting.noted (w : Waiting h closed rest c) (hc : c.Noted c') :
    Waiting h closed rest c' := by
  rw [hc]
  exact { w with }

theorem Taking.noted (t : Taking h closed s c) (hc : c.Noted c') : Taking h closed s c' := by
  rw [hc]
  exact { t with }

/-- The capture keeps the history in sections, the last of which may be open. -/
def Kept (h : List (Reading D)) (c : Bcap D) : Prop :=
  (∃ closed rest, Waiting h closed rest c) ∨ ∃ closed s, Taking h closed s c

/-- What `record` does with the sample. -/
def Bcap.keep (c : Bcap D) (r : Reading D) : Bcap D :=
  if (c.trigger r.input).active then (c.trigger r.input).extend r.input r.sample
  else (c.trigger r.input).remember r.input r.sample

theorem Due.kept (d : Due h closed s r c) : Kept h (c.extend r.input r.sample) :=
  d.extend.symm.imp (fun w => ⟨_, _, w⟩) fun t => ⟨_, _, t⟩

/-- A sample while an episode is open. -/
theorem Taking.keep (t : Taking h closed s c) (r : Reading D) : Kept (h ++ [r]) (c.keep r) := by
  have htrigger : c.trigger r.input = c := by simp [Bcap.trigger, t.active]
  rw [Bcap.keep, htrigger, if_pos t.active]
  exact (t.due r).kept

/-- A sample while none is. -/
theorem Waiting.keep (w : Waiting h closed rest c) (r : Reading D) :
    Kept (h ++ [r]) (c.keep r) := by
  by_cases htrigger : r.input.triggers
  · cases hfull : c.isFull with
    | true =>
      -- the trigger is counted, and the sample goes to the ring as any other
      have hskip : c.trigger r.input =
          { c with dropped := if c.dropped < 255 then c.dropped + 1 else c.dropped } := by
        simp [Bcap.trigger, w.inactive, htrigger, hfull]
      have w' : Waiting h closed rest (c.trigger r.input) := w.noted (by rw [hskip]; rfl)
      rw [Bcap.keep, if_neg (by simp [w'.inactive])]
      refine .inl ⟨_, _, w'.remember fun _ => ?_⟩
      rw [hskip]
      exact hfull
    | false =>
      have hopen : c.trigger r.input = c.openEpisode r.input := by
        simp [Bcap.trigger, w.inactive, htrigger, hfull]
      have d := w.due htrigger hfull
      rw [Bcap.keep, hopen, if_pos d.active]
      exact d.kept
  · have hquiet : c.trigger r.input = c := by simp [Bcap.trigger, htrigger]
    rw [Bcap.keep, hquiet, if_neg (by simp [w.inactive])]
    exact .inl ⟨_, _, w.remember fun h => absurd h htrigger⟩

/-- The pool is at most added to, and the time of the last sample is kept. -/
structure Bcap.Grown (c c' : Bcap D) : Prop where
  samples : c.samples <+: c'.samples
  haveLast : c'.haveLast = c.haveLast
  lastUs : c'.lastUs = c.lastUs

omit [CFloat D] in
theorem Bcap.Grown.trans {c₁ c₂ c₃ : Bcap D} (h : c₁.Grown c₂) (h' : c₂.Grown c₃) :
    c₁.Grown c₃ :=
  ⟨h.samples.trans h'.samples, h'.haveLast.trans h.haveLast, h'.lastUs.trans h.lastUs⟩

omit [CFloat D] in
theorem countResult_grown (c : Bcap D) (i : Input D) : c.Grown (c.countResult i) := by
  unfold Bcap.countResult
  split_ifs <;> exact ⟨List.prefix_rfl, rfl, rfl⟩

theorem trigger_grown (c : Bcap D) (i : Input D) : c.Grown (c.trigger i) := by
  rw [Bcap.trigger]
  by_cases htrigger : (!c.active && i.triggers)
  · rw [if_pos htrigger]
    cases c.isFull with
    | true => exact ⟨List.prefix_rfl, rfl, rfl⟩
    | false =>
      obtain ⟨c', happended, hopen⟩ := c.openEpisode_appended i
      have hhave := congrArg Bcap.haveLast happended.rest
      have hlast := congrArg Bcap.lastUs happended.rest
      rw [if_neg Bool.false_ne_true, hopen]
      exact ⟨⟨_, happended.samples.symm⟩, hhave, hlast⟩
  · rw [if_neg htrigger]
    exact ⟨List.prefix_rfl, rfl, rfl⟩

omit [CFloat D] in
theorem closeEpisode_grown (c : Bcap D) : c.Grown c.closeEpisode := by
  unfold Bcap.closeEpisode
  split_ifs <;> exact ⟨List.prefix_rfl, rfl, rfl⟩

theorem extend_grown (c : Bcap D) (i : Input D) (x : Sample) : c.Grown (c.extend i x) := by
  simp only [Bcap.extend]
  generalize hc : (if c.used < poolSize then _ else c) = c₁
  have hstore : c.Grown c₁ := by
    rw [← hc]
    split_ifs
    · exact ⟨⟨_, (c.samples_store _).symm⟩, rfl, rfl⟩
    · exact ⟨List.prefix_rfl, rfl, rfl⟩
  generalize (if i.surface = 1 then c₁.quiet + 1 else 0) = quiet
  refine hstore.trans ?_
  split_ifs
  · have hclose := closeEpisode_grown { c₁ with quiet := quiet }
    exact { hclose with }
  · exact ⟨List.prefix_rfl, rfl, rfl⟩

theorem keep_grown (c : Bcap D) (r : Reading D) : c.Grown (c.keep r) := by
  refine (trigger_grown c r.input).trans ?_
  unfold Bcap.keep
  split_ifs
  · exact extend_grown _ _ _
  · exact ⟨List.prefix_rfl, rfl, rfl⟩

/-- The time of the last sample is that of the history. -/
structure Timed (h : List (Reading D)) (c : Bcap D) : Prop where
  haveLast : c.haveLast = h.getLast?.isSome
  lastUs : ∀ r, h.getLast? = some r → c.lastUs = r.input.tUs

theorem Timed.record (ht : Timed h c) (i : Input D) :
    c.record i = ({ c with lastUs := i.tUs, haveLast := true }.countResult i).keep
      (nextReading h i) := by
  have hdt : (if c.haveLast then i.tUs - c.lastUs else 0) =
      match h.getLast? with | some r => i.tUs - r.input.tUs | none => 0 := by
    cases hlast : h.getLast? with
    | none => simp [ht.haveLast, hlast]
    | some r => simp [ht.haveLast, ht.lastUs r hlast, hlast]
  simp only [Bcap.record, Bcap.makeSample, Bcap.keep, nextReading, hdt]
  rfl

/-- **One call keeps the history in sections.** -/
theorem Kept.record (hk : Kept h c) (ht : Timed h c) (i : Input D) :
    Kept (h ++ [nextReading h i]) (c.record i) := by
  have hnoted := countResult_noted c i i.tUs true
  rw [ht.record]
  rcases hk with ⟨closed, rest, w⟩ | ⟨closed, s, t⟩
  · exact (w.noted hnoted).keep _
  · exact (t.noted hnoted).keep _

theorem Timed.next (ht : Timed h c) (i : Input D) :
    Timed (h ++ [nextReading h i]) (c.record i) := by
  rw [ht.record]
  have hgrown := (countResult_grown { c with lastUs := i.tUs, haveLast := true } i).trans
    (keep_grown _ (nextReading h i))
  refine ⟨?_, fun r hr => ?_⟩
  · rw [List.getLast?_concat]
    exact hgrown.haveLast
  · rw [List.getLast?_concat, Option.some_inj] at hr
    rw [← hr]
    exact hgrown.lastUs

end Record

/-- **So does a run.** -/
theorem kept_run (now : UInt32) (l : List (Input D)) :
    Kept (history l) (l.foldl Bcap.record (beginRun now)) ∧
      Timed (history l) (l.foldl Bcap.record (beginRun now)) := by
  induction l using List.reverseRecOn with
  | nil => exact ⟨.inl ⟨_, _, waiting_begin now⟩, rfl, nofun⟩
  | append_singleton l i ih =>
    rw [history_snoc, List.foldl_append]
    exact ⟨ih.1.record ih.2 i, ih.2.next i⟩

/-- What is stored stays. -/
theorem samples_record (c : Bcap D) (i : Input D) : c.samples <+: (c.record i).samples := by
  have hcount := countResult_grown { c with lastUs := i.tUs, haveLast := true } i
  have hkeep := keep_grown ({ c with lastUs := i.tUs, haveLast := true }.countResult i)
    ⟨i, (c.makeSample i).1⟩
  exact (hcount.trans hkeep).samples

theorem samples_foldl (l : List (Input D)) (c : Bcap D) :
    c.samples <+: (l.foldl Bcap.record c).samples := by
  induction l generalizing c with
  | nil => exact List.prefix_rfl
  | cons i l ih => exact (samples_record c i).trans (ih _)

theorem pool_foldl (l : List (Input D)) {j : ℕ} (hj : j < c.used) :
    (l.foldl Bcap.record c).pool j = c.pool j := by
  have hgrown := samples_foldl l c
  have hj' : j < (l.foldl Bcap.record c).used := by
    have hlength := hgrown.length_le
    simp only [Bcap.length_samples] at hlength
    omega
  have hget := hgrown.getElem (i := j) (by simpa using hj)
  simpa [Bcap.samples] using hget.symm

/-! ## The sections in the pool -/

namespace Bcap

def opened (c : Bcap D) : ℕ := c.episodes + c.active.toNat

def slice (c : Bcap D) (k : ℕ) : List Sample :=
  (List.range (c.episode k).count).map fun j => c.pool ((c.episode k).first + j)

/-- The episodes are consecutive slices, which cover the used part of the pool. -/
structure Sliced (c : Bcap D) : Prop where
  first : 0 < c.opened → (c.episode 0).first = 0
  next : ∀ k, k + 1 < c.opened →
    (c.episode (k + 1)).first = (c.episode k).first + (c.episode k).count
  last : ∀ k, k + 1 = c.opened → (c.episode k).first + (c.episode k).count = c.used
  none : c.opened = 0 → c.used = 0

end Bcap

/-- The episodes, with the open one, hold the sections. -/
structure Filed (sections : List (Section D)) (c : Bcap D) : Prop where
  count : sections.length = c.opened
  pool : c.samples = sections.flatMap Section.written
  table : ∀ before s after, sections = before ++ s :: after →
    Entry before s (c.episode before.length)

section Filed

variable {h : List (Reading D)} {closed sections : List (Section D)} {s : Section D}
  {rest : List (Reading D)} {c : Bcap D}

theorem Waiting.filed (w : Waiting h closed rest c) : Filed closed c :=
  ⟨by simp [w.count, Bcap.opened, w.inactive], w.pool, w.table⟩

theorem Taking.filed (t : Taking h closed s c) : Filed (closed ++ [s]) c := by
  refine ⟨by simp [t.count, Bcap.opened, t.active], by simp [t.pool],
    Run.snoc_splits (t.count ▸ t.entry) t.table⟩

omit [CFloat D] in
theorem slice_eq {k : ℕ} (hfit : (c.episode k).first + (c.episode k).count ≤ c.used) :
    c.slice k = (c.samples.drop (c.episode k).first).take (c.episode k).count := by
  refine List.ext_getElem ?_ fun j _ _ => ?_
  · simp only [Bcap.slice, List.length_map, List.length_range, List.length_take, List.length_drop,
      Bcap.length_samples]
    omega
  · simp [Bcap.slice, Bcap.samples]

theorem length_written (s : Section D) : s.written.length = s.kept.length := by
  simp [Section.written]

/-- The slice of an episode is its section. -/
theorem Filed.slice (f : Filed sections c) {before after : List (Section D)}
    (hsections : sections = before ++ s :: after) : c.slice before.length = s.written := by
  have he := f.table before s after hsections
  have hpool : c.samples = before.flatMap Section.written ++
      (s.written ++ after.flatMap Section.written) := by
    simp [f.pool, hsections]
  have hused := congrArg List.length hpool
  simp only [Bcap.length_samples, List.length_append, length_written, ← he.first] at hused
  have hfit : (c.episode before.length).first + (c.episode before.length).count ≤ c.used := by
    rw [he.count]
    omega
  rw [slice_eq hfit, he.first, he.count, ← length_written, hpool, List.drop_left, List.take_left]

theorem Filed.exists_section (f : Filed sections c) {k : ℕ} (hk : k < c.opened) :
    ∃ before s after, sections = before ++ s :: after ∧ before.length = k := by
  rw [← f.count] at hk
  exact ⟨sections.take k, sections[k], sections.drop (k + 1), by simp, by simp; omega⟩

theorem Filed.sliced (f : Filed sections c) : c.Sliced := by
  refine ⟨fun h => ?_, fun k hk => ?_, fun k hk => ?_, fun h => ?_⟩
  · obtain ⟨before, s, after, hsections, hlength⟩ := f.exists_section h
    obtain rfl := List.length_eq_zero_iff.1 hlength
    exact (f.table [] s after hsections).first
  · obtain ⟨before, s, after, hsections, rfl⟩ := f.exists_section (Nat.lt_of_succ_lt hk)
    have hcount := f.count
    rw [hsections] at hcount
    rcases after with - | ⟨t, after⟩
    · simp at hcount
      omega
    · have hs := f.table before s _ hsections
      have ht := f.table (before ++ [s]) t after (by simp [hsections])
      have hfirst := ht.first
      simp only [List.length_append, List.length_singleton, List.flatMap_append,
        List.flatMap_singleton, length_written] at hfirst
      rw [hfirst, hs.first, hs.count]
  · obtain ⟨before, s, after, hsections, rfl⟩ := f.exists_section (Nat.lt_of_succ_le hk.le)
    have hcount := f.count
    rw [hsections, ← hk] at hcount
    obtain rfl : after = [] := by simpa using hcount
    have hs := f.table before s _ hsections
    have hused := congrArg List.length f.pool
    simp only [hsections, Bcap.length_samples, List.flatMap_append, List.length_append,
      List.flatMap_singleton, length_written] at hused
    rw [hs.first, hs.count, hused]
  · have hused := congrArg List.length f.pool
    rw [← f.count, List.length_eq_zero_iff] at h
    simpa [h] using hused

omit [CFloat D] in
theorem Bcap.Sliced.first_le (hs : c.Sliced) {k k' : ℕ} (hk : k < k') (hk' : k' < c.opened) :
    (c.episode k).first + (c.episode k).count ≤ (c.episode k').first := by
  induction k' with
  | zero => omega
  | succ k' ih =>
    rw [hs.next k' hk']
    rcases Nat.lt_succ_iff_lt_or_eq.1 hk with hlt | rfl
    · exact (ih hlt (Nat.lt_of_succ_lt hk')).trans (Nat.le_add_right _ _)
    · exact le_rfl

omit [CFloat D] in
/-- Every stored sample belongs to one episode. -/
theorem Bcap.Sliced.exists_unique (hs : c.Sliced) {j : ℕ} (hj : j < c.used) :
    ∃! k, k < c.opened ∧ (c.episode k).first ≤ j ∧
      j < (c.episode k).first + (c.episode k).count := by
  -- the first episode that ends beyond the place
  have hexists : ∀ k, k < c.opened → j < (c.episode k).first + (c.episode k).count →
      ∃ k, k < c.opened ∧ (c.episode k).first ≤ j ∧
        j < (c.episode k).first + (c.episode k).count := by
    intro k
    induction k with
    | zero => exact fun hk hlt => ⟨0, hk, (hs.first hk).le.trans (Nat.zero_le _), hlt⟩
    | succ k ih =>
      intro hk hlt
      by_cases hfirst : (c.episode (k + 1)).first ≤ j
      · exact ⟨k + 1, hk, hfirst, hlt⟩
      · exact ih (Nat.lt_of_succ_lt hk) (hs.next k hk ▸ Nat.lt_of_not_le hfirst)
  obtain ⟨k, hk⟩ : ∃ k, k + 1 = c.opened := by
    rcases hopened : c.opened with - | k
    · exact absurd (hs.none hopened) (Nat.ne_of_gt (Nat.zero_lt_of_lt hj))
    · exact ⟨k, rfl⟩
  obtain ⟨k, hin⟩ := hexists k (Nat.lt_of_succ_le hk.le) (hs.last k hk ▸ hj)
  refine ⟨k, hin, fun k' hin' => ?_⟩
  rcases lt_trichotomy k' k with hlt | rfl | hlt
  · have := hs.first_le hlt hin.1
    omega
  · rfl
  · have := hs.first_le hlt hin'.1
    omega

/-- The sections of the history are held by the episodes, the open one last; the closed ones have
ended. -/
structure Sectioned (h : List (Reading D)) (sections : List (Section D)) (tail : List (Reading D))
    (c : Bcap D) : Prop where
  history : h = sections.flatMap Section.all ++ tail
  count : sections.length = c.opened
  proper : ∀ s ∈ sections, s.Proper
  slice : ∀ before s after, sections = before ++ s :: after → c.slice before.length = s.written
  ended : ∀ before s after, sections = before ++ s :: after → before.length < c.episodes →
    Ends s.taken ∨ (c.episode before.length).first + (c.episode before.length).count = poolSize
  unended : ∀ before s after, sections = before ++ s :: after → before.length = c.episodes →
    ¬Ends s.taken
  none_left : c.active = true → tail = []
  skipped : (∃ r ∈ tail, r.input.triggers = true) → c.isFull = true

theorem Filed.end_eq (f : Filed sections c) {before after : List (Section D)}
    (hsections : sections = before ++ s :: after) :
    (c.episode before.length).first + (c.episode before.length).count =
      ((before ++ [s]).flatMap Section.written).length := by
  have he := f.table before s after hsections
  rw [he.first, he.count, ← length_written, List.flatMap_append, List.length_append,
    List.flatMap_singleton]

theorem Waiting.sectioned (w : Waiting h closed rest c) : Sectioned h closed rest c where
  history := w.history
  count := w.filed.count
  proper := w.proper
  slice _ _ _ := w.filed.slice
  ended before s after hclosed _ := by
    rw [w.filed.end_eq hclosed]
    exact w.ended before s after hclosed
  unended before s after hclosed hlength := by
    have hcount := w.count
    rw [hclosed] at hcount
    simp at hcount
    omega
  none_left hactive := absurd hactive (by simp [w.inactive])
  skipped := w.skipped

theorem Taking.sectioned (t : Taking h closed s c) : Sectioned h (closed ++ [s]) [] c where
  history := by simp [t.history]
  count := t.filed.count
  proper r hr := by
    rcases List.mem_append.1 hr with hr | hr
    · exact t.proper r hr
    · exact List.mem_singleton.1 hr ▸ t.open_proper
  slice _ _ _ := t.filed.slice
  ended before r after hclosed hlt := by
    rw [t.filed.end_eq hclosed]
    rcases Run.append_singleton_eq_append_cons.1 hclosed with ⟨rfl, rfl, -⟩ | ⟨after', -, hinit⟩
    · exact absurd t.count hlt.ne
    · exact t.ended before r after' hinit
  unended before r after hclosed hlength := by
    rcases Run.append_singleton_eq_append_cons.1 hclosed with ⟨rfl, rfl, -⟩ | ⟨after', -, hinit⟩
    · exact t.open_unended
    · rw [← t.count, hinit] at hlength
      simp at hlength
  none_left _ := rfl
  skipped := by simp

theorem Kept.sectioned (hk : Kept h c) :
    c.opened ≤ maxEpisodes ∧ c.used ≤ poolSize ∧ c.Sliced ∧
      ∃ sections tail, Sectioned h sections tail c := by
  rcases hk with ⟨closed, rest, w⟩ | ⟨closed, s, t⟩
  · refine ⟨?_, w.size, w.filed.sliced, closed, rest, w.sectioned⟩
    simpa [Bcap.opened, w.inactive] using w.episodes
  · refine ⟨?_, t.size.le, t.filed.sliced, closed ++ [s], [], t.sectioned⟩
    simpa [Bcap.opened, t.active, Nat.succ_le_iff] using t.episodes

end Filed

/-- **What the capture stores.**  The episodes are consecutive slices of the used pool, one for each
section: the last 150 readings before the trigger, and every reading from it on, each holding what
its input said.  Nothing stored changes again. -/
theorem capture_storage (now : UInt32) (l : List (Input D)) :
    let c := l.foldl Bcap.record (beginRun now)
    c.opened ≤ maxEpisodes ∧ c.used ≤ poolSize ∧ c.Sliced ∧
      (∀ j < c.used, ∃! k, k < c.opened ∧ (c.episode k).first ≤ j ∧
        j < (c.episode k).first + (c.episode k).count) ∧
      (∃ sections tail, Sectioned (history l) sections tail c) ∧ Faithful (history l) ∧
      ∀ (l' : List (Input D)) (j : ℕ), j < c.used → (l'.foldl Bcap.record c).pool j = c.pool j := by
  intro c
  obtain ⟨hopened, hused, hsliced, hsections⟩ := (kept_run now l).1.sectioned
  exact ⟨hopened, hused, hsliced, fun j => hsliced.exists_unique, hsections,
    faithful_history l, fun l' j => pool_foldl l'⟩

end RoboticCar.Capture
