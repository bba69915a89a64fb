import RoboticCar.Lib.Debounce
import RoboticCar.Navigation.Sensing

/-!
# The events of the line detector

`s3_line_update` reports a lost line, its return and a junction, each behind a persistence timer and
a latch.  A history is the list of calls since the last reset.

* `run_shows`: `persisted` tells whether the clock readings show the condition for the duration.
* `call_kept` is what a call does to the timers and flags, and `traces` follows these.
* `events_debounced` says what the events of a history are.
-/

namespace RoboticCar.Navigation

open Lib Signal Debounce Persistence

section Timer

variable {α : Type*} {time : α → UInt32} {p : α → Bool}

def Persistence.Tracks (time : α → UInt32) (p : α → Bool) (t : Persistence) (h : List α) : Prop :=
  if t.active then
    ∃ y, (h.rtakeWhile p).getLast? = some y ∧
      time y - t.sinceUs = UInt32.ofNat (duration time (h.rtakeWhile p))
  else h.rtakeWhile p = []

theorem Persistence.tracks_nil (since : UInt32) :
    Persistence.Tracks time p ⟨false, since⟩ [] := by
  simp [Tracks]

/-- One call of `persisted`: the answer is whether the readings show the condition for the duration.
-/
theorem Persistence.run_shows {t : Persistence} {h : List α} (ht : t.Tracks time p h) (x : α)
    {d : UInt32} (hd : 0 < d.toNat) :
    (t.run (p x) (time x) d).2.Tracks time p (h ++ [x]) ∧
      ((t.run (p x) (time x) d).1 = true ↔ Shows time p d.toNat (h ++ [x])) := by
  cases hx : p x with
  | false =>
    have hnot : ¬p x = true := by simp [hx]
    refine ⟨?_, iff_of_false (by simp [run]) (not_shows_of_not hd hnot)⟩
    simp [run, Tracks, List.rtakeWhile_concat_neg p h x hnot]
  | true =>
    have hshow : ∀ since, time x - since = UInt32.ofNat (duration time ((h ++ [x]).rtakeWhile p)) →
        (time x - since ≥ d ↔ Shows time p d.toNat (h ++ [x])) := by
      intro since hsince
      rw [hsince, ge_iff_le, UInt32.le_iff_toNat_le, UInt32.toNat_ofNat']
      rfl
    rw [List.rtakeWhile_concat_pos p h x hx] at hshow
    unfold Tracks at ht ⊢
    rw [List.rtakeWhile_concat_pos p h x hx]
    cases hactive : t.active with
    | false =>
      rw [hactive, if_neg Bool.false_ne_true] at ht
      have hsince : time x - time x = UInt32.ofNat (duration time (h.rtakeWhile p ++ [x])) := by
        simp [ht]
      refine ⟨?_, ?_⟩
      · simpa [run, hactive] using hsince
      · simpa [run, hactive] using hshow _ hsince
    | true =>
      rw [hactive, if_pos rfl] at ht
      obtain ⟨y, hlast, hy⟩ := ht
      have hsince := reading_snoc (x := x) hlast hy
      refine ⟨?_, ?_⟩
      · simp [run, hactive, hsince]
      · simpa [run, hactive] using hshow _ hsince

end Timer

/-! ## Calls -/

/-- The arguments of a call of `s3_line_update`. -/
structure LineSample where
  timestampUs : UInt32
  inputsValid : Bool
  leftDark : ℕ
  rightDark : ℕ
  deriving DecidableEq

namespace LineConfig

variable (c : LineConfig) (s : LineSample)

/-- The `signal` of `s3_line_update`. -/
def signal : Bool := c.between || decide (s.leftDark + s.rightDark ≥ c.signalFloor)

/-- The `both_black` of `s3_line_update`. -/
def bothBlack : Bool := s.leftDark ≥ c.junctionDark && s.rightDark ≥ c.junctionDark

end LineConfig

namespace LineDetector

/-- A call of `s3_line_update`. -/
def call (d : LineDetector) (s : LineSample) : LineObservation × LineDetector :=
  d.update s.timestampUs s.inputsValid s.leftDark s.rightDark

theorem presence_between {d : LineDetector} (hb : d.config.between) (now : UInt32)
    (left right : ℕ) (out : LineObservation) :
    ∃ touching, d.presence now left right out =
      (true, { out with touching := touching }, { d with present := true }) := by
  simp [presence, hb]

theorem presence_follow {d : LineDetector} (hb : d.config.between = false) (s : LineSample)
    (out : LineObservation) :
    let lost := d.lost.run (!d.config.signal s) s.timestampUs d.config.lostUs
    let acquired := d.acquired.run (d.config.signal s) s.timestampUs d.config.reacquireUs
    let reported := lost.1 && !d.lossReported
    let back := acquired.1 && !d.present
    d.presence s.timestampUs s.leftDark s.rightDark out =
      (d.config.signal s, { out with lostEvent := reported, reacquiredEvent := back },
        { d with
          lost := lost.2
          acquired := acquired.2
          present := (d.present || back) && !reported
          lossReported := (d.lossReported || reported) && !back }) := by
  intro lost acquired reported back
  -- an absent signal stops the timer of the reacquisition, so that both are never reported
  have happart : reported = true → acquired.1 = false := by
    intro h
    have hlost : lost.1 := (Bool.and_eq_true_iff.1 h).1
    cases hs : d.config.signal s with
    | false => simp [acquired, hs, run]
    | true => simp [lost, hs, run] at hlost
  have hsignal : decide (s.leftDark + s.rightDark ≥ d.config.signalFloor) = d.config.signal s := by
    simp [LineConfig.signal, hb]
  unfold presence
  simp only [hb, Bool.false_eq_true, if_false, hsignal]
  cases hr : reported with
  | true =>
    have hlost : (lost.1 && !d.lossReported) := hr
    have hback : back = false := by simp [back, happart hr]
    simp only [lost, acquired] at hlost happart
    simp [hlost, happart hr, hback, acquired, lost]
  | false =>
    have hlost : (lost.1 && !d.lossReported) = false := hr
    cases hk : back with
    | true =>
      have hback : (acquired.1 && !d.present) := hk
      simp only [lost, acquired] at hlost hback
      simp [hlost, hback, acquired, lost]
    | false =>
      have hback : (acquired.1 && !d.present) = false := hk
      simp only [lost, acquired] at hlost hback
      simp [hlost, hback, acquired, lost]

/-- What a call that does not reset the detector says about junctions, and how it leaves the
detector. -/
structure Kept (d : LineDetector) (s : LineSample) (out : LineObservation) (d' : LineDetector) :
    Prop where
  gap : d.seenSample = true → s.timestampUs - d.lastUs ≤ d.config.maxGapUs
  config : d'.config = d.config
  configured : d'.configured = d.configured
  lastUs : d'.lastUs = s.timestampUs
  seenSample : d'.seenSample = true
  junction : d'.junction =
    (d.junction.run (d.config.bothBlack s) s.timestampUs d.config.junctionUs).2
  clear : d'.clear = (d.clear.run (!d.config.bothBlack s) s.timestampUs d.config.rearmUs).2
  junctionEvent : out.junctionEvent =
    ((d.junction.run (d.config.bothBlack s) s.timestampUs d.config.junctionUs).1 &&
      !d.junctionLatched)
  junctionLatched : d'.junctionLatched =
    ((d.junctionLatched || out.junctionEvent) &&
      !(d.clear.run (!d.config.bothBlack s) s.timestampUs d.config.rearmUs).1)

/-- What it says about the presence of the line, unless the tape is between the sensors. -/
structure Follows (d : LineDetector) (s : LineSample) (out : LineObservation)
    (d' : LineDetector) : Prop where
  lost : d'.lost = (d.lost.run (!d.config.signal s) s.timestampUs d.config.lostUs).2
  acquired : d'.acquired =
    (d.acquired.run (d.config.signal s) s.timestampUs d.config.reacquireUs).2
  lostEvent : out.lostEvent =
    ((d.lost.run (!d.config.signal s) s.timestampUs d.config.lostUs).1 && !d.lossReported)
  reacquiredEvent : out.reacquiredEvent =
    ((d.acquired.run (d.config.signal s) s.timestampUs d.config.reacquireUs).1 && !d.present)
  lossReported : d'.lossReported = ((d.lossReported || out.lostEvent) && !out.reacquiredEvent)
  present : d'.present = ((d.present || out.reacquiredEvent) && !out.lostEvent)

theorem call_kept {d : LineDetector} {s : LineSample} (h : (d.call s).1.valid = true) :
    Kept d s (d.call s).1 (d.call s).2 ∧
      (d.config.between = false → Follows d s (d.call s).1 (d.call s).2) ∧
      (d.config.between →
        (d.call s).1.lostEvent = false ∧ (d.call s).1.reacquiredEvent = false) := by
  revert h
  simp only [call, update]
  split_ifs with hconf hbad
  · simp [LineObservation.zero]
  · simp [LineObservation.zero]
  · intro _
    have hgap : d.seenSample = true → s.timestampUs - d.lastUs ≤ d.config.maxGapUs := by
      intro hseen
      by_contra hlate
      exact hbad (.inr (.inr (.inr (by simp [hseen, UInt32.not_le.1 hlate]))))
    cases hb : d.config.between with
    | true =>
      obtain ⟨touching, hp⟩ := presence_between
        (d := { d with lastUs := s.timestampUs, seenSample := true }) hb s.timestampUs s.leftDark
        s.rightDark { LineObservation.zero with
          valid := true, error := ((s.rightDark : Int) - s.leftDark).tdiv 10 }
      simp only [hp]
      refine ⟨⟨hgap, rfl, rfl, rfl, rfl, rfl, rfl, rfl, rfl⟩, nofun, fun _ => ⟨rfl, rfl⟩⟩
    | false =>
      have hp := presence_follow
        (d := { d with lastUs := s.timestampUs, seenSample := true }) hb s
        { LineObservation.zero with
          valid := true, error := ((s.rightDark : Int) - s.leftDark).tdiv 10 }
      simp only at hp
      simp only [hp]
      exact ⟨⟨hgap, rfl, rfl, rfl, rfl, rfl, rfl, rfl, rfl⟩,
        fun _ => ⟨rfl, rfl, rfl, rfl, rfl, rfl⟩, nofun⟩

/-- The last observation of a history of calls, and the detector after it. -/
def run (d : LineDetector) (h : List LineSample) : LineObservation × LineDetector :=
  h.foldl (fun r s => r.2.call s) (.zero, d)

def observe (d : LineDetector) (h : List LineSample) : LineObservation := (d.run h).1

def after (d : LineDetector) (h : List LineSample) : LineDetector := (d.run h).2

theorem observe_snoc (d : LineDetector) (h : List LineSample) (x : LineSample) :
    d.observe (h ++ [x]) = ((d.after h).call x).1 := by
  simp [observe, after, run]

theorem after_snoc (d : LineDetector) (h : List LineSample) (x : LineSample) :
    d.after (h ++ [x]) = ((d.after h).call x).2 := by
  simp [after, run]

/-- No call of the history resets the detector: neither its inputs nor its gap are bad. -/
def Unbroken (d : LineDetector) (l : List LineSample) : Prop :=
  ∀ h x, h ++ [x] <+: l → (d.observe (h ++ [x])).valid = true

/-- How the timers of a detector stand after a history since a reset. -/
structure Traces (c : LineConfig) (h : List LineSample) (d : LineDetector) : Prop where
  config : d.config = c
  last : ∀ y, h.getLast? = some y → d.seenSample = true ∧ d.lastUs = y.timestampUs
  junction : d.junction.Tracks LineSample.timestampUs c.bothBlack h
  clear : d.clear.Tracks LineSample.timestampUs (fun s => !c.bothBlack s) h
  lost : c.between = false → d.lost.Tracks LineSample.timestampUs (fun s => !c.signal s) h
  acquired : c.between = false → d.acquired.Tracks LineSample.timestampUs c.signal h

theorem traces_reset (d : LineDetector) : Traces d.config [] d.reset where
  config := rfl
  last := nofun
  junction := tracks_nil 0
  clear := tracks_nil 0
  lost _ := tracks_nil 0
  acquired _ := tracks_nil 0

variable {c : LineConfig} {d : LineDetector} {h : List LineSample} {x : LineSample}

theorem pos_of_durationValid {us : UInt32} (h : durationValid us) : 0 < us.toNat := by
  have hne : us ≠ 0 := (by simpa using (Bool.and_eq_true_iff.1 h).1)
  exact Nat.pos_of_ne_zero fun h0 => hne (UInt32.toNat_inj.1 h0)

theorem lt_of_durationValid {us : UInt32} (h : durationValid us) : us.toNat < 2 ^ 31 := by
  have hlt : us < 0x80000000 := by simpa using (Bool.and_eq_true_iff.1 h).2
  simpa using UInt32.lt_iff_toNat_lt.1 hlt

theorem durations (hc : c.valid) :
    durationValid c.lostUs ∧ durationValid c.reacquireUs ∧
      durationValid c.junctionUs ∧ durationValid c.rearmUs ∧
      durationValid c.maxGapUs := by
  simp only [LineConfig.valid, Bool.and_eq_true] at hc
  obtain ⟨⟨⟨⟨⟨⟨-, hlost⟩, hacquired⟩, hjunction⟩, hclear⟩, hgap⟩, -⟩ := hc
  exact ⟨hlost, hacquired, hjunction, hclear, hgap⟩

/-- A valid sample keeps the timers in step. -/
theorem Traces.step (hc : c.valid) (ht : Traces c h d)
    (hvalid : (d.call x).1.valid = true) : Traces c (h ++ [x]) (d.call x).2 := by
  obtain ⟨hkept, hfollows, -⟩ := call_kept hvalid
  obtain rfl := ht.config
  obtain ⟨hlost, hacquired, hjunction, hclear, -⟩ := durations hc
  refine ⟨hkept.config, ?_, ?_, ?_, ?_, ?_⟩
  · intro y hy
    obtain rfl : x = y := by simpa using hy
    exact ⟨hkept.seenSample, hkept.lastUs⟩
  · rw [hkept.junction]
    exact (run_shows ht.junction x (pos_of_durationValid hjunction)).1
  · rw [hkept.clear]
    exact (run_shows ht.clear x (pos_of_durationValid hclear)).1
  · intro hb
    rw [(hfollows hb).lost]
    exact (run_shows (ht.lost hb) x (pos_of_durationValid hlost)).1
  · intro hb
    rw [(hfollows hb).acquired]
    exact (run_shows (ht.acquired hb) x (pos_of_durationValid hacquired)).1

/-! ## The events -/

def Lost (d : LineDetector) (h : List LineSample) : Prop := (d.observe h).lostEvent = true

def Back (d : LineDetector) (h : List LineSample) : Prop := (d.observe h).reacquiredEvent = true

def Junction (d : LineDetector) (h : List LineSample) : Prop := (d.observe h).junctionEvent = true

instance (d : LineDetector) : DecidablePred d.Lost := fun _ => inferInstanceAs (Decidable (_ = _))

instance (d : LineDetector) : DecidablePred d.Back := fun _ => inferInstanceAs (Decidable (_ = _))

section Run

variable {l : List LineSample} (hc : c.valid = true) (hconfig : d.config = c)
  (hl : Unbroken d.reset l)

include hc hconfig hl

theorem traces (hh : h <+: l) : Traces c h (d.reset.after h) := by
  induction h using List.reverseRecOn with
  | nil => exact hconfig ▸ traces_reset d
  | append_singleton h x ih =>
    rw [after_snoc]
    have hvalid := hl h x hh
    rw [observe_snoc] at hvalid
    exact (ih ((List.prefix_append h [x]).trans hh)).step hc hvalid

theorem call_of_prefix (hh : h ++ [x] <+: l) :
    Traces c h (d.reset.after h) ∧ ((d.reset.after h).call x).1.valid = true := by
  refine ⟨traces hc hconfig hl ((List.prefix_append h [x]).trans hh), ?_⟩
  rw [← observe_snoc]
  exact hl h x hh

theorem gap_le {y : LineSample} (hh : h ++ [x] <+: l) (hy : h.getLast? = some y) :
    (x.timestampUs - y.timestampUs).toNat ≤ c.maxGapUs.toNat := by
  obtain ⟨ht, hvalid⟩ := call_of_prefix hc hconfig hl hh
  obtain ⟨hseen, hlast⟩ := ht.last y hy
  have hgap := (call_kept hvalid).1.gap hseen
  rw [hlast, ht.config] at hgap
  exact UInt32.le_iff_toNat_le.1 hgap

/-- A junction is both sensors black for long enough. -/
theorem junction_iff (hh : h ++ [x] <+: l) :
    Junction d.reset (h ++ [x]) ↔
      Shows LineSample.timestampUs c.bothBlack c.junctionUs.toNat (h ++ [x]) ∧
        ¬(d.reset.after h).junctionLatched = true := by
  obtain ⟨-, -, hpos, -⟩ := durations hc
  obtain ⟨ht, hvalid⟩ := call_of_prefix hc hconfig hl hh
  have hevent := (call_kept hvalid).1.junctionEvent
  rw [ht.config] at hevent
  rw [Junction, observe_snoc, hevent, Bool.and_eq_true,
    (run_shows ht.junction x (pos_of_durationValid hpos)).2, Bool.not_eq_true',
    Bool.not_eq_true]

/-- The line is lost after its signal is away for long enough. -/
theorem lost_iff (hb : c.between = false) (hh : h ++ [x] <+: l) :
    Lost d.reset (h ++ [x]) ↔
      Shows LineSample.timestampUs (fun s => !c.signal s) c.lostUs.toNat (h ++ [x]) ∧
        ¬(d.reset.after h).lossReported = true := by
  obtain ⟨hpos, -⟩ := durations hc
  obtain ⟨ht, hvalid⟩ := call_of_prefix hc hconfig hl hh
  have hevent := ((call_kept hvalid).2.1 (ht.config ▸ hb)).lostEvent
  rw [ht.config] at hevent
  rw [Lost, observe_snoc, hevent, Bool.and_eq_true,
    (run_shows (ht.lost hb) x (pos_of_durationValid hpos)).2, Bool.not_eq_true',
    Bool.not_eq_true]

/-- The line is back after its signal holds for long enough. -/
theorem back_iff (hb : c.between = false) (hh : h ++ [x] <+: l) :
    Back d.reset (h ++ [x]) ↔
      Shows LineSample.timestampUs c.signal c.reacquireUs.toNat (h ++ [x]) ∧
        ¬(d.reset.after h).present = true := by
  obtain ⟨-, hpos, -⟩ := durations hc
  obtain ⟨ht, hvalid⟩ := call_of_prefix hc hconfig hl hh
  have hevent := ((call_kept hvalid).2.1 (ht.config ▸ hb)).reacquiredEvent
  rw [ht.config] at hevent
  rw [Back, observe_snoc, hevent, Bool.and_eq_true,
    (run_shows (ht.acquired hb) x (pos_of_durationValid hpos)).2, Bool.not_eq_true',
    Bool.not_eq_true]

theorem shows_of_lost (hb : c.between = false) (hh : h <+: l) (he : Lost d.reset h) :
    Shows LineSample.timestampUs (fun s => !c.signal s) c.lostUs.toNat h :=
  hold_of_fires nofun (fun _ _ => lost_iff hc hconfig hl hb) hh he

theorem shows_of_back (hb : c.between = false) (hh : h <+: l) (he : Back d.reset h) :
    Shows LineSample.timestampUs c.signal c.reacquireUs.toNat h :=
  hold_of_fires nofun (fun _ _ => back_iff hc hconfig hl hb) hh he

theorem junction_latch :
    Latch l (Junction d.reset)
      (Shows LineSample.timestampUs (fun s => !c.bothBlack s) c.rearmUs.toNat)
      (Shows LineSample.timestampUs c.bothBlack c.junctionUs.toNat)
      (fun h => (d.reset.after h).junctionLatched = true) := by
  obtain ⟨-, -, hjunction, hrearm, -⟩ := durations hc
  refine ⟨nofun, fun h x => junction_iff hc hconfig hl, ?_, ?_,
    nofun⟩
  · intro h x hh
    obtain ⟨ht, hvalid⟩ := call_of_prefix hc hconfig hl hh
    have hlatched := (call_kept hvalid).1.junctionLatched
    rw [ht.config] at hlatched
    rw [after_snoc, hlatched, Bool.and_eq_true, Bool.or_eq_true, Bool.not_eq_true',
      ← Bool.not_eq_true,
      (run_shows ht.clear x (pos_of_durationValid hrearm)).2, Junction, observe_snoc]
  · intro h _
    apply not_shows_both (pos_of_durationValid hjunction) (pos_of_durationValid hrearm)
    intro s hs
    simp [hs]

theorem lost_latch (hb : c.between = false) :
    Latch l (Lost d.reset) (Back d.reset)
      (Shows LineSample.timestampUs (fun s => !c.signal s) c.lostUs.toNat)
      (fun h => (d.reset.after h).lossReported = true) := by
  obtain ⟨hlost, hback, -⟩ := durations hc
  refine ⟨nofun, fun h x => lost_iff hc hconfig hl hb, ?_, ?_, nofun⟩
  · intro h x hh
    obtain ⟨ht, hvalid⟩ := call_of_prefix hc hconfig hl hh
    rw [after_snoc, ((call_kept hvalid).2.1 (ht.config ▸ hb)).lossReported, Lost, Back,
      observe_snoc, Bool.and_eq_true, Bool.or_eq_true, Bool.not_eq_true', Bool.not_eq_true]
  · rintro h hh ⟨hshows, he⟩
    refine not_shows_both (pos_of_durationValid hlost) (pos_of_durationValid hback) ?_
      ⟨hshows, shows_of_back hc hconfig hl hb hh he⟩
    intro s hs
    simpa using hs

theorem back_latch (hb : c.between = false) :
    Latch l (Back d.reset) (Lost d.reset)
      (Shows LineSample.timestampUs c.signal c.reacquireUs.toNat)
      (fun h => (d.reset.after h).present = true) := by
  obtain ⟨hlost, hback, -⟩ := durations hc
  refine ⟨nofun, fun h x => back_iff hc hconfig hl hb, ?_, ?_, nofun⟩
  · intro h x hh
    obtain ⟨ht, hvalid⟩ := call_of_prefix hc hconfig hl hh
    rw [after_snoc, ((call_kept hvalid).2.1 (ht.config ▸ hb)).present, Lost, Back,
      observe_snoc, Bool.and_eq_true, Bool.or_eq_true, Bool.not_eq_true', Bool.not_eq_true]
  · rintro h hh ⟨hshows, he⟩
    refine not_shows_both (pos_of_durationValid hback) (pos_of_durationValid hlost) ?_
      ⟨hshows, shows_of_lost hc hconfig hl hb hh he⟩
    intro s hs
    simp [hs]

theorem junction_stretches {a b : List LineSample} (hh : a ++ b <+: l) (hb : b ≠ [])
    (ha : Junction d.reset a) (hab : Junction d.reset (a ++ b)) :
    ∃ b₁ u b₂ v, b = b₁ ++ u ++ (b₂ ++ v) ∧
      (∀ s ∈ u, c.bothBlack s = false) ∧ c.rearmUs.toNat ≤ duration LineSample.timestampUs u ∧
      (∀ s ∈ v, c.bothBlack s) ∧
      c.junctionUs.toNat ≤ duration LineSample.timestampUs v := by
  obtain ⟨-, -, hjunction, hrearm, -⟩ := durations hc
  have L := junction_latch hc hconfig hl
  obtain ⟨m, n, rfl, -, -, hclear⟩ := L.released_between hh hb ha hab
  have hblack := hold_of_fires L.nothing L.fires ((List.prefix_append a _).trans hh) ha
  -- the first event is at a black sample, so the clear stretch begins after it
  obtain ⟨b₁, u, rfl, hu, hulong⟩ := hclear.held.stretch
    (hblack.rtakeWhile_eq_nil (pos_of_durationValid hjunction) (fun s hs => by simp [hs]))
  -- and ends at a clear one, so the black stretch begins after that
  have hend := hold_of_fires L.nothing L.fires hh hab
  rw [← List.append_assoc] at hend
  obtain ⟨b₂, v, rfl, hv, hvlong⟩ := hend.held.stretch
    (hclear.rtakeWhile_eq_nil (pos_of_durationValid hrearm) (fun s hs => by simpa using hs))
  exact ⟨b₁, u, b₂, v, rfl, fun s hs => by simpa using hu s hs, hulong, hv, hvlong⟩

end Run

/-- Losses and reacquisitions alternate, each exactly at the first sample of a long enough absence
or presence since the last event of the other kind. -/
structure PresenceEvents (c : LineConfig) (d : LineDetector) (l : List LineSample) : Prop where
  apart : ∀ h, h <+: l → ¬(Lost d h ∧ Back d h)
  back_between : ∀ a b, a ++ b <+: l → b ≠ [] → Lost d a → Lost d (a ++ b) →
    ∃ b₁ b₂, b = b₁ ++ b₂ ∧ b₁ ≠ [] ∧ b₂ ≠ [] ∧ Back d (a ++ b₁)
  lost_between : ∀ a b, a ++ b <+: l → b ≠ [] → Back d a → Back d (a ++ b) →
    ∃ b₁ b₂, b = b₁ ++ b₂ ∧ b₁ ≠ [] ∧ b₂ ≠ [] ∧ Lost d (a ++ b₁)
  lost_first : ∀ a b x, a ++ b ++ [x] <+: l → a = [] ∨ Back d a → Silent (Back d) a b →
    (Lost d (a ++ b ++ [x]) ↔
      Held LineSample.timestampUs (fun s => !c.signal s) c.lostUs.toNat (b ++ [x]) ∧
        Never (Held LineSample.timestampUs (fun s => !c.signal s) c.lostUs.toNat) b)
  back_first : ∀ a b x, a ++ b ++ [x] <+: l → a = [] ∨ Lost d a → Silent (Lost d) a b →
    (Back d (a ++ b ++ [x]) ↔
      Held LineSample.timestampUs c.signal c.reacquireUs.toNat (b ++ [x]) ∧
        Never (Held LineSample.timestampUs c.signal c.reacquireUs.toNat) b)

/-- Between two junction events the sensors were not both black for `rearmUs`, and then both black
for `junctionUs`. -/
def JunctionEvents (c : LineConfig) (d : LineDetector) (l : List LineSample) : Prop :=
  ∀ a b, a ++ b <+: l → b ≠ [] → Junction d a → Junction d (a ++ b) →
    ∃ b₁ u b₂ v, b = b₁ ++ u ++ (b₂ ++ v) ∧
      (∀ s ∈ u, c.bothBlack s = false) ∧ c.rearmUs.toNat ≤ duration LineSample.timestampUs u ∧
      (∀ s ∈ v, c.bothBlack s = true) ∧ c.junctionUs.toNat ≤ duration LineSample.timestampUs v

variable {l : List LineSample}

theorem presence_events (hc : c.valid) (hconfig : d.config = c) (hl : Unbroken d.reset l)
    (hb : c.between = false) : PresenceEvents c d.reset l := by
  have hlost := lost_latch hc hconfig hl hb
  have hback := back_latch hc hconfig hl hb
  obtain ⟨hlostUs, hbackUs, -, -, hgapUs⟩ := durations hc
  have hgap : ∀ h x y, h ++ [x] <+: l → h.getLast? = some y →
      (x.timestampUs - y.timestampUs).toNat ≤ c.maxGapUs.toNat :=
    fun h x y hh hy => gap_le hc hconfig hl hh hy
  have hsmall := lt_of_durationValid hgapUs
  refine ⟨?_, ?_, ?_, ?_, ?_⟩
  · rintro h hh ⟨he, he'⟩
    exact hlost.apart h hh ⟨shows_of_lost hc hconfig hl hb hh he, he'⟩
  · intro a b hab hne
    exact hlost.released_between hab hne
  · intro a b hab hne
    exact hback.released_between hab hne
  · intro a b x
    have hbound := lt_of_durationValid hlostUs
    apply hlost.fires_iff_held (pos_of_durationValid hlostUs) (by omega) hgap
    intro a ha he
    exact (shows_of_back hc hconfig hl hb ha he).rtakeWhile_eq_nil
      (pos_of_durationValid hbackUs) (fun s hs => by simp [hs])
  · intro a b x
    have hbound := lt_of_durationValid hbackUs
    apply hback.fires_iff_held (pos_of_durationValid hbackUs) (by omega) hgap
    intro a ha he
    exact (shows_of_lost hc hconfig hl hb ha he).rtakeWhile_eq_nil
      (pos_of_durationValid hlostUs) (fun s hs => by simpa using hs)

theorem no_presence_events (hc : c.valid) (hconfig : d.config = c) (hl : Unbroken d.reset l)
    (hb : c.between) (hh : h <+: l) : ¬Lost d.reset h ∧ ¬Back d.reset h := by
  rcases h.eq_nil_or_concat with rfl | ⟨h, x, rfl⟩
  · exact ⟨nofun, nofun⟩
  · rw [List.concat_eq_append] at *
    obtain ⟨ht, hvalid⟩ := call_of_prefix hc hconfig hl hh
    obtain ⟨hlost, hback⟩ := (call_kept hvalid).2.2 (ht.config ▸ hb)
    rw [Lost, Back, observe_snoc, hlost, hback]
    exact ⟨nofun, nofun⟩

/-- What the owner of a detector does with it: `s3_line_reset` or `s3_line_update`. -/
inductive Use
  | reset
  | update (s : LineSample)
  deriving DecidableEq

def use (d : LineDetector) : Use → LineDetector
  | .reset => d.reset
  | .update s => (d.call s).2

theorem config_presence (d : LineDetector) (s : LineSample) (out : LineObservation) :
    (d.presence s.timestampUs s.leftDark s.rightDark out).2.2.config = d.config := by
  cases hb : d.config.between with
  | true =>
    obtain ⟨touching, hp⟩ := presence_between hb s.timestampUs s.leftDark s.rightDark out
    rw [hp]
  | false => rw [presence_follow hb s out]

theorem config_use (d : LineDetector) (u : Use) : (d.use u).config = d.config := by
  cases u with
  | reset => rfl
  | update s =>
    simp only [use, call, update]
    split_ifs
    · rfl
    · rfl
    · exact config_presence _ s _

theorem config_foldl_use (d : LineDetector) (us : List Use) :
    (us.foldl use d).config = d.config := by
  induction us generalizing d with
  | nil => rfl
  | cons u us ih => rw [List.foldl_cons, ih, config_use]

/-- **The line events are debounced.**  After any reset of a detector, losses and reacquisitions are
as `PresenceEvents` states, and there are none with the tape between the sensors; junctions are as
`JunctionEvents` states. -/
theorem events_debounced {c : LineConfig} {d : LineDetector} (hinit : init c = some d)
    (us : List Use) {l : List LineSample} (hl : Unbroken (us.foldl use d).reset l) :
    (c.between = false → PresenceEvents c (us.foldl use d).reset l) ∧
      (c.between = true → ∀ h, h <+: l →
        ¬Lost (us.foldl use d).reset h ∧ ¬Back (us.foldl use d).reset h) ∧
      JunctionEvents c (us.foldl use d).reset l := by
  obtain ⟨hc, hd⟩ : c.valid = true ∧ d.config = c := by
    unfold init at hinit
    split at hinit
    · rename_i hc
      cases hinit
      exact ⟨hc, rfl⟩
    · cases hinit
  have hconfig : (us.foldl use d).config = c := by rw [config_foldl_use, hd]
  refine ⟨presence_events hc hconfig hl, ?_, ?_⟩
  · intro hb h hh
    exact no_presence_events hc hconfig hl hb hh
  · intro a b hh hb
    exact junction_stretches hc hconfig hl hh hb

theorem unbroken_iff {d : LineDetector} :
    Unbroken d l ↔ ∀ h ∈ l.inits, h ≠ [] → (d.observe h).valid = true := by
  constructor
  · intro hl h hh hne
    obtain ⟨h, x, rfl⟩ := h.eq_nil_or_concat.resolve_left hne
    rw [List.concat_eq_append] at *
    exact hl h x ((List.mem_inits _ _).1 hh)
  · intro hl h x hh
    exact hl _ ((List.mem_inits _ _).2 hh) (by simp)

instance (d : LineDetector) (l : List LineSample) : Decidable (Unbroken d l) :=
  decidable_of_iff _ unbroken_iff.symm

def lineDefaults : LineConfig := ⟨200, 600, 100000, 30000, 30000, 100000, 30000, false⟩

/-- A detector with a configuration, as `s3_line_init` leaves it. -/
def fresh (c : LineConfig) : LineDetector :=
  ⟨c, ⟨false, 0⟩, ⟨false, 0⟩, ⟨false, 0⟩, ⟨false, 0⟩, 0, true, false, false, false, false⟩

def onLine : List LineSample :=
  [⟨0, true, 300, 300⟩, ⟨10000, true, 300, 300⟩, ⟨20000, true, 300, 300⟩, ⟨30000, true, 300, 300⟩]

/-- By the defaults, the line is reported after a bad sample and 30 ms on it. -/
theorem onLine_reported :
    PresenceEvents lineDefaults
        ([Use.update ⟨5, false, 0, 0⟩].foldl use (fresh lineDefaults)).reset onLine ∧
      Back ([Use.update ⟨5, false, 0, 0⟩].foldl use (fresh lineDefaults)).reset onLine :=
  ⟨(events_debounced (c := lineDefaults) (d := fresh lineDefaults) rfl
    [Use.update ⟨5, false, 0, 0⟩] (l := onLine) (by decide +kernel)).1 rfl, by decide +kernel⟩

/-- With the tape between the sensors the same samples report nothing, although the signal counts
as present for as long. -/
theorem between_not_reported :
    init { lineDefaults with between := true } =
        some (fresh { lineDefaults with between := true }) ∧
      Unbroken (fresh { lineDefaults with between := true }).reset onLine ∧
      ¬(PresenceEvents { lineDefaults with between := true }
          (fresh { lineDefaults with between := true }).reset onLine ∧
        JunctionEvents { lineDefaults with between := true }
          (fresh { lineDefaults with between := true }).reset onLine) := by
  refine ⟨by decide +kernel, by decide +kernel, fun h => ?_⟩
  have hfirst := h.1.back_first [] (onLine.take 3) ⟨30000, true, 300, 300⟩ (List.prefix_refl _)
    (.inl rfl) (by decide +kernel)
  exact absurd (hfirst.2 (by decide +kernel)) (by decide +kernel)

end LineDetector

end RoboticCar.Navigation
