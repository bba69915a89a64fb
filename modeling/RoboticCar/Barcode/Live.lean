import RoboticCar.Barcode.Code39
import RoboticCar.Lib.Signal

/-!
# The live decoder

`s3_barcode_update` measures the stripes as they pass under the sensor, validates 29 of them with
the largest margin and reports the letter once the white behind has lasted as long as the last star
requires.  `update_sound`: the samples up to a report are white, 29 stripes and white again, and
the batch validator accepts their durations.  `Follows` carries the induction over the calls.
-/

namespace RoboticCar.Barcode

open Lib Navigation Signal

/-- The copy of a configuration in the bit fields of `s3_barcode_stored_config_t`. -/
def stored (c : BarcodeConfig) : BarcodeConfig where
  maxGapUs := c.maxGapUs % 2 ^ 28
  minNarrowUs := c.minNarrowUs % 2 ^ 28
  maxRunUs := c.maxRunUs % 2 ^ 28
  maxFrameUs := c.maxFrameUs % 2 ^ 31
  quietModules := c.quietModules % 2 ^ 6

/-- `s3_barcode_decoder_t`: `runs` is the array below `count`; the candidate's letter is its code
less one. -/
structure Live where
  config : BarcodeConfig
  runs : List UInt32 := []
  lastUs : UInt32 := 0
  runStartUs : UInt32 := 0
  frameStartUs : UInt32 := 0
  leadingUs : UInt32 := 0
  observedGapUs : UInt32 := 0
  trailingRequiredUs : UInt32 := 0
  configured : Bool := false
  seen : Bool := false
  black : Bool := false
  collecting : Bool := false
  pending : Bool := false
  candidate : Fin 26 × Bool := (0, false)

namespace Live

/-- `s3_barcode_reset`. -/
def reset (d : Live) : Live := { config := d.config, configured := d.configured }

/-- `s3_barcode_init`. -/
def init (c : BarcodeConfig) : Option Live :=
  if configValid c then some { config := stored c, configured := true } else none

def seed (d : Live) (now : UInt32) (black : Bool) : Live :=
  { d.reset with seen := true, black := black, lastUs := now, runStartUs := now }

/-- The end of the last stripe: the candidate, and the white it needs. -/
def complete (d : Live) (now : UInt32) (black : Bool) : BarcodeStatus × Live :=
  let runs := d.runs.map UInt32.toNat
  let gap := d.observedGapUs.toNat
  match decodeRuns runs d.leadingUs.toNat 0x7FFFFFFF gap d.config,
    character (char 2 runs) gap d.config with
  | some candidate, some (_, narrow) =>
    if black then (.rejected, d.seed now black)
    else (.none, { d with
      candidate := candidate
      trailingRequiredUs := UInt32.ofNat narrow * d.config.quietModules.toUInt32
      pending := true
      black := black
      runStartUs := now })
  | _, _ => (.rejected, d.seed now black)

/-- A change of the surface, `elapsed` after the last one. -/
def change (d : Live) (now gap elapsed : UInt32) (black : Bool) : BarcodeStatus × Live :=
  if d.collecting then
    if runCount ≤ d.runs.length then (.overflow, d.seed now black)
    else
      let d := { d with runs := d.runs ++ [elapsed] }
      if d.runs.length = runCount then d.complete now black
      else (.none, { d with black := black, runStartUs := now })
  else if black then
    (.none, { d with
      leadingUs := elapsed
      frameStartUs := now
      collecting := true
      runs := []
      observedGapUs := gap
      black := black
      runStartUs := now })
  else (.none, { d with black := black, runStartUs := now })

def wait (d : Live) (now elapsed : UInt32) (black : Bool) : BarcodeStatus × Live :=
  if black then (.rejected, d.seed now black)
  else if d.trailingRequiredUs ≤ elapsed then
    (.decoded ⟨d.candidate.1, d.candidate.2, now⟩,
      { d with collecting := false, pending := false, runs := [] })
  else (.none, d)

/-- The clock, and the largest gap of the frame. -/
def tick (d : Live) (now gap : UInt32) : Live :=
  { d with
    lastUs := now
    observedGapUs := if d.collecting ∧ d.observedGapUs < gap then gap else d.observedGapUs }

/-- `s3_barcode_update` for a sample in time. -/
def follow (d : Live) (now gap : UInt32) (black : Bool) : BarcodeStatus × Live :=
  let elapsed := now - d.runStartUs
  let d := d.tick now gap
  if d.collecting ∧ d.config.maxFrameUs < now - d.frameStartUs then (.rejected, d.seed now black)
  else if d.pending then d.wait now elapsed black
  else if black ≠ d.black then d.change now gap elapsed black
  else if d.collecting ∧ d.config.maxRunUs < elapsed then (.rejected, d.seed now black)
  else (.none, d)

/-- `s3_barcode_update`. -/
def update (d : Live) (now : UInt32) (valid black : Bool) : BarcodeStatus × Live :=
  if !d.configured then (.rejected, d)
  else if !valid then (.rejected, d.reset)
  else if !d.seen then (.none, d.seed now black)
  else
    let gap := now - d.lastUs
    if gap = 0 ∨ d.config.maxGapUs < gap then (.timingError, d.seed now black)
    else d.follow now gap black

end Live

/-! ## Samples -/

structure Call where
  t : UInt32
  valid : Bool
  black : Bool

def Live.after (d : Live) (l : List Call) : Live :=
  l.foldl (fun d x => (d.update x.t x.valid x.black).2) d

/-- A stretch of white that ends with `z`, 29 stripes and white again, with no gap of more than
`maxGapUs`. -/
structure Shows (c : BarcodeConfig) (white : List Call) (z : Call) (bars : List (List Call))
    (trail : List Call) : Prop where
  stripes : bars.length = runCount
  alternating : Signal.Alternating Call.black false ((white ++ [z]) :: (bars ++ [trail]))
  valid : ∀ y ∈ white ++ z :: (bars.flatten ++ trail), y.valid = true
  gaps : ∀ g ∈ gaps Call.t (white ++ z :: (bars.flatten ++ trail)),
    0 < g ∧ g ≤ c.maxGapUs.toNat

/-- The calls end with a barcode in the sense of `Shows` and of the batch validator. -/
def ShowsLetter (c : BarcodeConfig) (l : List Call) (letter : Fin 26) (reversed : Bool) : Prop :=
  ∃ white z bars trail, white ++ z :: (bars.flatten ++ trail) <:+ l ∧ Shows c white z bars trail ∧
    decodeRuns (spans Call.t (bars ++ [trail]))
      (duration Call.t (white ++ z :: (bars.flatten ++ trail).take 1) % 2 ^ 32)
      (duration Call.t trail)
      (largest (gaps Call.t (z :: (bars.flatten ++ trail.take 1)))) c =
        some (letter, reversed)

/-- The last calls are valid samples without a gap. -/
structure Stretch (c : BarcodeConfig) (l ys : List Call) : Prop where
  suffix : ys <:+ l
  valid : ∀ y ∈ ys, y.valid = true
  gaps : ∀ g ∈ gaps Call.t ys, 0 < g ∧ g ≤ c.maxGapUs.toNat

/-- The sample `x` comes in time after one at `last`. -/
structure InTime (c : BarcodeConfig) (last : UInt32) (x : Call) : Prop where
  valid : x.valid = true
  pos : x.t - last ≠ 0
  le : x.t - last ≤ c.maxGapUs

variable {c : BarcodeConfig} {l ys : List Call} {x y z : Call} {d : Live}

theorem Stretch.start (hx : x.valid) : Stretch c (l ++ [x]) [x] where
  suffix := List.suffix_append l [x]
  valid := by simpa using hx
  gaps := by simp

theorem Stretch.snoc (h : Stretch c l ys) (hy : ys.getLast? = some y) (hx : InTime c y.t x) :
    Stretch c (l ++ [x]) (ys ++ [x]) := by
  refine ⟨?_, ?_, fun g hg => ?_⟩
  · obtain ⟨pre, rfl⟩ := h.suffix
    exact ⟨pre, (List.append_assoc pre ys [x]).symm⟩
  · simpa [or_imp, forall_and, hx.valid] using h.valid
  · rw [gaps_snoc hy, List.mem_append, List.mem_singleton] at hg
    rcases hg with hg | rfl
    · exact h.gaps g hg
    · exact ⟨Nat.pos_of_ne_zero fun h => hx.pos (UInt32.toNat_inj.1 h),
        UInt32.le_iff_toNat_le.1 hx.le⟩

theorem Stretch.right {zs : List Call} (h : Stretch c l (zs ++ ys)) : Stretch c l ys where
  suffix := (List.suffix_append zs ys).trans h.suffix
  valid y hy := h.valid y (List.mem_append_right zs hy)
  gaps g hg := h.gaps g (mem_gaps_append zs hg)

/-- The fields that describe the stripe under the sensor and those before it. -/
structure Marks where
  lastUs : UInt32
  runStartUs : UInt32
  frameStartUs : UInt32
  leadingUs : UInt32
  runs : List UInt32
  black : Bool

def Live.marks (d : Live) : Marks :=
  ⟨d.lastUs, d.runStartUs, d.frameStartUs, d.leadingUs, d.runs, d.black⟩

/-- The decoder between barcodes: the surface has not changed since `runStartUs`. -/
structure Idle (c : BarcodeConfig) (l : List Call) (m : Marks) (cur : List Call) : Prop where
  stretch : Stretch c l cur
  colour : ∀ y ∈ cur, y.black = m.black
  last : ∃ y, cur.getLast? = some y ∧ y.t = m.lastUs
  run : m.lastUs - m.runStartUs = UInt32.ofNat (duration Call.t cur)

/-- Inside a barcode: the white before it ended with `z`, and `cur` is under the sensor after
`bars`. -/
structure Reading (c : BarcodeConfig) (l : List Call) (m : Marks) (white : List Call) (z : Call)
    (bars : List (List Call)) (cur : List Call) : Prop where
  stretch : Stretch c l (white ++ z :: (bars.flatten ++ cur))
  alternating : Signal.Alternating Call.black false ((white ++ [z]) :: (bars ++ [cur]))
  colour : ∀ y ∈ cur, y.black = m.black
  last : ∃ y, cur.getLast? = some y ∧ y.t = m.lastUs
  run : m.lastUs - m.runStartUs = UInt32.ofNat (duration Call.t cur)
  runs : m.runs.map UInt32.toNat = spans Call.t (bars ++ [cur])
  leading : m.leadingUs =
    UInt32.ofNat (duration Call.t (white ++ z :: (bars.flatten ++ cur).take 1))
  frame : m.lastUs - m.frameStartUs =
    UInt32.ofNat (duration Call.t (bars.flatten ++ cur))
  frame_le : duration Call.t (bars.flatten ++ cur) ≤ c.maxFrameUs.toNat

/-! ## One more sample -/

theorem Idle.start (hx : x.valid) {m : Marks} (hm : m.lastUs = x.t)
    (hm' : m.runStartUs = x.t) (hb : m.black = x.black) : Idle c (l ++ [x]) m [x] where
  stretch := .start hx
  colour := by simp [hb]
  last := ⟨x, rfl, hm.symm⟩
  run := by simp [hm, hm']

variable {m : Marks} {white cur : List Call} {bars : List (List Call)}

theorem Idle.grow (h : Idle c l m cur) (hx : InTime c m.lastUs x) (hb : x.black = m.black) :
    Idle c (l ++ [x]) { m with lastUs := x.t } (cur ++ [x]) := by
  obtain ⟨y, hy, hlast⟩ := h.last
  refine ⟨h.stretch.snoc hy (hlast ▸ hx), ?_, ⟨x, by simp, rfl⟩, ?_⟩
  · simpa [or_imp, forall_and, hb] using h.colour
  · exact reading_snoc hy (hlast ▸ h.run)

/-- Black after white begins a barcode. -/
theorem Idle.open_ (h : Idle c l m cur) (hx : InTime c m.lastUs x) (hm : m.black = false)
    (hb : x.black) : ∃ white z, cur = white ++ [z] ∧ z.t = m.lastUs ∧
      Reading c (l ++ [x]) ⟨x.t, x.t, x.t, x.t - m.runStartUs, [], true⟩ white z [] [x] := by
  obtain ⟨z, hz, hlast⟩ := h.last
  obtain ⟨white, rfl⟩ := List.getLast?_eq_some_iff.1 hz
  refine ⟨white, z, rfl, hlast, ?_⟩
  have hstretch := h.stretch.snoc hz (hlast ▸ hx)
  have hrun := reading_snoc hz (x := x) (hlast ▸ h.run)
  rw [List.append_assoc] at hstretch hrun
  refine ⟨hstretch, ?_, by simpa using hb, ⟨x, rfl, rfl⟩, by simp, rfl, hrun, by simp, by simp⟩
  exact ⟨by simp, by simpa [hm] using h.colour, by simp, by simpa using hb, trivial⟩

theorem frame_lt (hc : configValid c) {F : ℕ} {gap : UInt32} (hF : F ≤ c.maxFrameUs.toNat)
    (hgap : gap ≤ c.maxGapUs) : F + gap.toNat < 2 ^ 32 := by
  simp only [configValid, Bool.and_eq_true, decide_eq_true_eq, UInt32.lt_iff_toNat_lt,
    UInt32.le_iff_toNat_le] at hc hgap
  have h31 : (0x80000000 : UInt32).toNat = 2 ^ 31 := rfl
  omega

namespace Reading

variable (h : Reading c l m white z bars cur)

include h

theorem alternating_cur : Signal.Alternating Call.black false ((white ++ [z]) :: bars) ∧
    cur ≠ [] ∧ ∀ a ∈ cur, a.black = colourAt false (bars.length + 1) :=
  alternating_snoc.1 (show Signal.Alternating _ _ (((white ++ [z]) :: bars) ++ [cur]) from
    h.alternating)

theorem black_eq : m.black = colourAt false (bars.length + 1) := by
  obtain ⟨y, hy, -⟩ := h.last
  have hmem := List.mem_of_getLast? hy
  rw [← h.colour y hmem, h.alternating_cur.2.2 y hmem]

theorem take_one (t : List Call) :
    (bars.flatten ++ (cur ++ t)).take 1 = (bars.flatten ++ cur).take 1 := by
  rw [← List.append_assoc, List.take_append_of_le_length]
  have := List.length_pos_iff.2 h.alternating_cur.2.1
  simp only [List.length_append]
  omega

variable (hc : configValid c) (hx : InTime c m.lastUs x)
  (hframe : x.t - m.frameStartUs ≤ c.maxFrameUs)

include hc hx hframe

theorem frame_next :
    x.t - m.frameStartUs = UInt32.ofNat (duration Call.t (bars.flatten ++ (cur ++ [x]))) ∧
      duration Call.t (bars.flatten ++ (cur ++ [x])) ≤ c.maxFrameUs.toNat := by
  obtain ⟨y, hy, hlast⟩ := h.last
  have hy' : (bars.flatten ++ cur).getLast? = some y := by simp [List.getLast?_append, hy]
  have hread := reading_snoc hy' (x := x) (hlast ▸ h.frame)
  rw [List.append_assoc] at hread
  refine ⟨hread, ?_⟩
  have hlt : duration Call.t (bars.flatten ++ (cur ++ [x])) < 2 ^ 32 := by
    rw [← List.append_assoc, duration_snoc hy', hlast]
    exact frame_lt hc h.frame_le hx.le
  rw [hread, UInt32.le_iff_toNat_le, UInt32.toNat_ofNat_of_lt' hlt] at hframe
  exact hframe

theorem run_next :
    x.t - m.runStartUs = UInt32.ofNat (duration Call.t (cur ++ [x])) ∧
      (x.t - m.runStartUs).toNat = duration Call.t (cur ++ [x]) := by
  obtain ⟨y, hy, hlast⟩ := h.last
  have hread := reading_snoc hy (x := x) (hlast ▸ h.run)
  have hle := (duration_le_append bars.flatten (cur ++ [x])).trans
    (h.frame_next hc hx hframe).2
  refine ⟨hread, hread ▸ UInt32.toNat_ofNat_of_lt' ?_⟩
  exact hle.trans_lt c.maxFrameUs.toNat_lt

/-- One more sample of the stripe. -/
theorem grow (hb : x.black = m.black) :
    Reading c (l ++ [x]) { m with lastUs := x.t } white z bars (cur ++ [x]) := by
  obtain ⟨y, hy, hlast⟩ := h.last
  obtain ⟨hframe', hframe_le⟩ := h.frame_next hc hx hframe
  refine ⟨?_, ?_, ?_, ⟨x, by simp, rfl⟩, (h.run_next hc hx hframe).1, ?_, ?_, hframe', hframe_le⟩
  · have := h.stretch.snoc (by simp [List.getLast?_append, List.getLast?_cons, hy]) (hlast ▸ hx)
    simpa using this
  · refine alternating_snoc.2 ⟨h.alternating_cur.1, by simp, fun a ha => ?_⟩
    rcases List.mem_append.1 ha with ha | ha
    · exact h.alternating_cur.2.2 a ha
    · rw [List.mem_singleton.1 ha, hb, h.black_eq, List.length_cons]
  · simpa [or_imp, forall_and, hb] using h.colour
  · rw [spans_grow _ h.alternating_cur.2.1]
    exact h.runs
  · rw [h.take_one]
    exact h.leading

/-- The stripe ends, and the next begins. -/
theorem next (hb : x.black ≠ m.black) :
    Reading c (l ++ [x])
      { m with
        lastUs := x.t, runStartUs := x.t, runs := m.runs ++ [x.t - m.runStartUs], black := x.black }
      white z (bars ++ [cur]) [x] := by
  obtain ⟨y, hy, hlast⟩ := h.last
  obtain ⟨hframe', hframe_le⟩ := h.frame_next hc hx hframe
  have hflat (t : List Call) : (bars ++ [cur]).flatten ++ t = bars.flatten ++ (cur ++ t) := by simp
  refine ⟨?_, ?_, by simp, ⟨x, rfl, rfl⟩, by simp, ?_, ?_, hflat _ ▸ hframe', hflat _ ▸ hframe_le⟩
  · have := h.stretch.snoc (by simp [List.getLast?_append, List.getLast?_cons, hy]) (hlast ▸ hx)
    simpa using this
  · refine alternating_snoc.2 ⟨h.alternating, by simp, fun a ha => ?_⟩
    rw [List.mem_singleton.1 ha, List.length_cons, List.length_append, List.length_singleton,
      colourAt_succ, ← h.black_eq]
    exact Bool.eq_not_of_ne hb
  · rw [List.map_append, h.runs, List.append_assoc, List.singleton_append, spans_new]
    simp [(h.run_next hc hx hframe).2]
  · rw [hflat, h.take_one]
    exact h.leading

end Reading

/-! ## The calls -/

/-- What the decoder tells about the calls so far. -/
inductive Follows (c : BarcodeConfig) (l : List Call) (d : Live) : Prop
  | unseen (hseen : d.seen = false)
  | idle (cur : List Call) (hcollecting : d.collecting = false) (hpending : d.pending = false)
      (h : Idle c l d.marks cur)
  | collecting (white : List Call) (z : Call) (bars : List (List Call)) (cur : List Call)
      (hcollecting : d.collecting = true) (hpending : d.pending = false)
      (h : Reading c l d.marks white z bars cur) (hlt : bars.length < runCount)
      (hgap : d.observedGapUs.toNat =
        largest (gaps Call.t (z :: (bars.flatten ++ cur))))
  | pending (white : List Call) (z : Call) (bars : List (List Call)) (cur : List Call)
      (hcollecting : d.collecting = true) (hpending : d.pending = true)
      (h : Reading c l d.marks white z bars cur) (hlen : bars.length = runCount)
      (hdecode : decodeRuns (spans Call.t (bars ++ [cur])) d.leadingUs.toNat 0x7FFFFFFF
        (largest (gaps Call.t (z :: (bars.flatten ++ cur.take 1)))) c =
          some d.candidate)
      (hrequired : d.trailingRequiredUs.toNat =
        c.quietModules.toNat * narrowOf (char 2 (spans Call.t (bars ++ [cur]))))

/-- The outcome of the last of the calls `l`. -/
structure Good (c : BarcodeConfig) (l : List Call) (r : BarcodeStatus × Live) : Prop where
  config : r.2.config = c ∧ r.2.configured = true
  follows : Follows c l r.2
  sound : ∀ result, r.1 = .decoded result → ShowsLetter c l result.letter result.reversed

theorem good_seed (hd : d.config = c ∧ d.configured) (hx : x.valid)
    {status : BarcodeStatus} (hstatus : ∀ result, status ≠ .decoded result) :
    Good c (l ++ [x]) (status, d.seed x.t x.black) where
  config := hd
  follows := .idle [x] rfl rfl (.start hx rfl rfl rfl)
  sound result h := absurd h (hstatus result)

theorem good_none (hd : d.config = c ∧ d.configured) (h : Follows c l d) :
    Good c l (.none, d) :=
  ⟨hd, h, nofun⟩

theorem good_wait (hd : d.config = c ∧ d.configured)
    (h : Reading c (l ++ [x]) d.marks white z bars cur)
    (hcollecting : d.collecting) (hpending : d.pending)
    (hlen : bars.length = runCount)
    (hdecode : decodeRuns (spans Call.t (bars ++ [cur])) d.leadingUs.toNat 0x7FFFFFFF
      (largest (gaps Call.t (z :: (bars.flatten ++ cur.take 1)))) c =
        some d.candidate)
    (hrequired : d.trailingRequiredUs.toNat =
      c.quietModules.toNat * narrowOf (char 2 (spans Call.t (bars ++ [cur]))))
    {elapsed : UInt32} (helapsed : elapsed.toNat = duration Call.t cur) :
    Good c (l ++ [x]) (d.wait x.t elapsed false) := by
  unfold Live.wait
  rw [if_neg (by decide)]
  by_cases hover : d.trailingRequiredUs ≤ elapsed
  · rw [if_pos hover]
    refine ⟨hd, .idle cur rfl rfl ⟨?_, h.colour, h.last, h.run⟩, ?_⟩
    · have hstretch := h.stretch
      rw [← List.cons_append, ← List.append_assoc] at hstretch
      exact hstretch.right
    · rintro _ ⟨rfl⟩
      refine ⟨white, z, bars, cur, h.stretch.suffix,
        ⟨hlen, h.alternating, h.stretch.valid, h.stretch.gaps⟩, ?_⟩
      rw [UInt32.le_iff_toNat_le, hrequired, helapsed] at hover
      rw [decodeRuns_trailing hover, ← UInt32.toNat_ofNat', ← h.leading]
      exact hdecode
  · rw [if_neg hover]
    exact good_none hd (.pending white z bars cur hcollecting hpending h hlen hdecode hrequired)

/-- The last stripe is validated. -/
theorem good_complete (hc : configValid c) (hd : d.config = c ∧ d.configured)
    (hx : x.valid) (hcollecting : d.collecting) (hlen : bars.length = runCount)
    (h : Reading c (l ++ [x]) { d.marks with runStartUs := x.t, black := x.black } white z bars [x])
    (hgap : d.observedGapUs.toNat =
      largest (gaps Call.t (z :: (bars.flatten ++ [x])))) :
    Good c (l ++ [x]) (d.complete x.t x.black) := by
  unfold Live.complete
  have hruns : d.runs.map UInt32.toNat = spans Call.t (bars ++ [[x]]) := h.runs
  simp only [hd.1, hruns, hgap]
  split
  · rename_i candidate _ narrow hdecode hchar
    by_cases hb : x.black
    · rw [if_pos hb]
      exact good_seed hd hx nofun
    · rw [if_neg hb]
      refine good_none ⟨rfl, hd.2⟩ (.pending white z bars [x] hcollecting rfl h hlen hdecode ?_)
      obtain ⟨rfl, hwidths⟩ := characterWidths_narrow hchar
      have hquiet := quiet_lt hc hwidths
      have hnarrow := (narrowOf_le fun _ => le_of_widthOk hwidths).trans_lt c.maxRunUs.toNat_lt
      rw [UInt32.toNat_mul, UInt32.toNat_ofNat_of_lt' hnarrow, UInt8.toNat_toUInt32, Nat.mul_comm]
      exact Nat.mod_eq_of_lt (hquiet.trans (by decide))
  · exact good_seed hd hx nofun

theorem Reading.largest_next (h : Reading c l m white z bars cur) {observed : UInt32}
    (hgap : observed.toNat = largest (gaps Call.t (z :: (bars.flatten ++ cur)))) :
    (if observed < x.t - m.lastUs then x.t - m.lastUs else observed).toNat =
      largest (gaps Call.t (z :: (bars.flatten ++ (cur ++ [x])))) := by
  obtain ⟨y, hy, hlast⟩ := h.last
  have hy' : (z :: (bars.flatten ++ cur)).getLast? = some y := by
    simp [List.getLast?_cons, List.getLast?_append, hy]
  rw [← List.append_assoc, ← List.cons_append, gaps_snoc hy', largest_append, ← hgap,
    hlast]
  split_ifs with hlt
  · rw [UInt32.lt_iff_toNat_lt] at hlt
    omega
  · rw [UInt32.lt_iff_toNat_lt] at hlt
    omega

theorem good_change_idle (hd : d.config = c ∧ d.configured) (h : Idle c l m cur)
    (hx : InTime c m.lastUs x) (hlast : d.lastUs = x.t)
    (hcollecting : d.collecting = false) (hpending : d.pending = false) (hb : x.black ≠ m.black) :
    Good c (l ++ [x]) (d.change x.t (x.t - m.lastUs) (x.t - m.runStartUs) x.black) := by
  unfold Live.change
  rw [if_neg (by simp [hcollecting])]
  by_cases hblack : x.black
  · rw [if_pos hblack]
    obtain ⟨white, z, rfl, hz, hread⟩ := h.open_ hx (by simpa [hblack] using hb) hblack
    refine good_none hd (.collecting white z [] [x] rfl hpending ?_ (by decide) ?_)
    · simpa [Live.marks, hlast, hblack] using hread
    · simp [gaps, largest, hz]
  · rw [if_neg hblack]
    exact good_none hd (.idle [x] hcollecting hpending (.start hx.valid hlast rfl rfl))

theorem good_change_collecting (hc : configValid c)
    (hd : d.config = c ∧ d.configured) (hx : x.valid) {start : UInt32}
    (h : Reading c (l ++ [x]) { d.marks with
      runStartUs := x.t, runs := d.runs ++ [x.t - start], black := x.black } white z bars [x])
    (hlen : bars.length ≤ runCount) (hcollecting : d.collecting)
    (hpending : d.pending = false) (hgap : d.observedGapUs.toNat =
      largest (gaps Call.t (z :: (bars.flatten ++ [x])))) (gap : UInt32) :
    Good c (l ++ [x]) (d.change x.t gap (x.t - start) x.black) := by
  have hcount : d.runs.length + 1 = bars.length := by
    have hlength := congrArg List.length h.runs
    rw [length_spans, List.length_map, List.length_append, List.length_singleton] at hlength
    exact hlength
  unfold Live.change
  rw [if_pos hcollecting, if_neg (by omega)]
  dsimp only
  rw [List.length_append, List.length_singleton, hcount]
  by_cases hfull : bars.length = runCount
  · rw [if_pos hfull]
    exact good_complete (d := { d with runs := d.runs ++ [x.t - start] }) hc hd hx hcollecting hfull
      h hgap
  · rw [if_neg hfull]
    exact good_none hd (.collecting white z bars [x] hcollecting hpending h (by omega) hgap)

theorem follow_eq (d : Live) (now gap : UInt32) (black : Bool) :
    d.follow now gap black =
      if d.collecting ∧ d.config.maxFrameUs < now - d.frameStartUs then
        (.rejected, (d.tick now gap).seed now black)
      else if d.pending then (d.tick now gap).wait now (now - d.runStartUs) black
      else if black ≠ d.black then (d.tick now gap).change now gap (now - d.runStartUs) black
      else if d.collecting ∧ d.config.maxRunUs < now - d.runStartUs then
        (.rejected, (d.tick now gap).seed now black)
      else (.none, d.tick now gap) := rfl

/-- A sample in time. -/
theorem good_follow (hc : configValid c) (hd : d.config = c ∧ d.configured)
    (h : Follows c l d) (hseen : d.seen) (hx : InTime c d.lastUs x) :
    Good c (l ++ [x]) (d.follow x.t (x.t - d.lastUs) x.black) := by
  have hd' : (d.tick x.t (x.t - d.lastUs)).config = c ∧
      (d.tick x.t (x.t - d.lastUs)).configured = true := hd
  rw [follow_eq]
  by_cases hframe : d.collecting ∧ d.config.maxFrameUs < x.t - d.frameStartUs
  · rw [if_pos hframe]
    exact good_seed hd' hx.valid nofun
  rw [if_neg hframe]
  rw [not_and, UInt32.not_lt, hd.1] at hframe
  cases h with
  | unseen h => simp [h] at hseen
  | idle cur hcollecting hpending h =>
    rw [if_neg (by simp [hpending])]
    by_cases hb : x.black = d.black
    · rw [if_neg (not_not.2 hb), if_neg (by simp [hcollecting])]
      exact good_none hd' (.idle _ hcollecting hpending (h.grow hx hb))
    · rw [if_pos hb]
      exact good_change_idle hd' h hx rfl hcollecting hpending hb
  | collecting white z bars cur hcollecting hpending h hlt hgap =>
    have hgap' : (d.tick x.t (x.t - d.lastUs)).observedGapUs.toNat =
        largest (gaps Call.t (z :: (bars.flatten ++ (cur ++ [x])))) := by
      rw [← h.largest_next hgap]
      simp only [Live.tick, hcollecting, true_and]
      rfl
    rw [if_neg (by simp [hpending])]
    by_cases hb : x.black = d.black
    · rw [if_neg (not_not.2 hb)]
      by_cases hrun : d.collecting ∧ d.config.maxRunUs < x.t - d.runStartUs
      · rw [if_pos hrun]
        exact good_seed hd' hx.valid nofun
      · rw [if_neg hrun]
        have hread := h.grow hc hx (hframe hcollecting) hb
        exact good_none hd' (.collecting _ _ _ _ hcollecting hpending hread hlt hgap')
    · rw [if_pos hb]
      refine good_change_collecting hc hd' hx.valid (h.next hc hx (hframe hcollecting) hb)
        (by simpa using Nat.succ_le_of_lt hlt) hcollecting hpending (by simpa using hgap') _
  | pending white z bars cur hcollecting hpending h hlen hdecode hrequired =>
    rw [if_pos hpending]
    by_cases hb : x.black
    · unfold Live.wait
      rw [if_pos hb]
      exact good_seed hd' hx.valid nofun
    · -- after the last stripe the surface is white
      have hblack : x.black = d.black := by
        have hm : d.black = colourAt false (bars.length + 1) := h.black_eq
        rw [hm, hlen, Bool.eq_false_of_not_eq_true hb]
        rfl
      rw [Bool.eq_false_of_not_eq_true hb]
      refine good_wait hd' (h.grow hc hx (hframe hcollecting) hblack) hcollecting hpending hlen
        ?_ ?_ (h.run_next hc hx (hframe hcollecting)).2
      · rw [spans_grow _ h.alternating_cur.2.1, List.take_append_of_le_length]
        · exact hdecode
        · exact List.length_pos_iff.2 h.alternating_cur.2.1
      · rw [spans_grow _ h.alternating_cur.2.1]
        exact hrequired

/-- **One call follows the samples.** -/
theorem good_update (hc : configValid c) (hd : d.config = c ∧ d.configured)
    (h : Follows c l d) (x : Call) : Good c (l ++ [x]) (d.update x.t x.valid x.black) := by
  unfold Live.update
  rw [if_neg (by simp [hd.2])]
  by_cases hvalid : x.valid
  · rw [if_neg (by simp [hvalid])]
    by_cases hseen : d.seen
    · rw [if_neg (by simp [hseen])]
      by_cases hgap : x.t - d.lastUs = 0 ∨ d.config.maxGapUs < x.t - d.lastUs
      · rw [if_pos hgap]
        exact good_seed hd hvalid nofun
      · rw [if_neg hgap]
        rw [not_or, UInt32.not_lt, hd.1] at hgap
        exact good_follow hc hd h hseen ⟨hvalid, hgap.1, hgap.2⟩
    · rw [if_pos (by simp [hseen])]
      exact good_seed hd hvalid nofun
  · rw [if_pos (by simp [hvalid])]
    exact ⟨hd, .unseen rfl, nofun⟩

theorem stored_eq (hc : configValid c) : stored c = c := by
  simp only [configValid, Bool.and_eq_true, decide_eq_true_eq, UInt32.lt_iff_toNat_lt,
    UInt32.le_iff_toNat_le, UInt8.le_iff_toNat_le] at hc
  obtain ⟨⟨⟨⟨⟨⟨⟨⟨-, -⟩, hnarrow⟩, -⟩, hframe⟩, hgap⟩, hq⟩, hq'⟩, hmul⟩ := hc
  have h10 : (10 : UInt8).toNat = 10 := rfl
  have h50 : (50 : UInt8).toNat = 50 := rfl
  have h31 : (0x80000000 : UInt32).toNat = 2 ^ 31 := rfl
  have hrun : c.maxRunUs.toNat < 2 ^ 28 := by
    have := Nat.mul_le_mul_left c.maxRunUs.toNat (h10 ▸ hq)
    omega
  have hmod {a b : UInt32} (h : a.toNat < b.toNat) : a % b = a :=
    UInt32.toNat_inj.1 ((UInt32.toNat_mod a b).trans (Nat.mod_eq_of_lt h))
  have h28 : ((2 : UInt32) ^ 28).toNat = 2 ^ 28 := by decide
  have hquiet : c.quietModules % 2 ^ 6 = c.quietModules :=
    UInt8.toNat_inj.1 ((UInt8.toNat_mod _ _).trans (Nat.mod_eq_of_lt (hq'.trans_lt (by decide))))
  simp only [stored]
  rw [hmod (by omega), hmod (by omega), hmod (by omega), hmod (hframe.trans_eq (by decide)), hquiet]

/-- **So does every run.** -/
theorem after_follows (hc : configValid c) {d₀ : Live} (h₀ : Live.init c = some d₀)
    (l : List Call) :
    ((d₀.after l).config = c ∧ (d₀.after l).configured = true) ∧ Follows c l (d₀.after l) := by
  induction l using List.reverseRecOn with
  | nil =>
    rw [Live.init, if_pos hc, Option.some.injEq] at h₀
    subst h₀
    exact ⟨⟨stored_eq hc, rfl⟩, .unseen rfl⟩
  | append_singleton l x ih =>
    have hgood := good_update hc ih.1 ih.2 x
    rw [Live.after, List.foldl_append]
    exact ⟨hgood.config, hgood.follows⟩

/-- **The live decoder is sound.**  When a call reports a letter, the calls up to it end with
white, 29 stripes and white, and the batch validator finds the same letter in their durations. -/
theorem update_sound {d₀ : Live} (h₀ : Live.init c = some d₀) (l : List Call) (x : Call)
    {result : BarcodeResult}
    (h : ((d₀.after l).update x.t x.valid x.black).1 = .decoded result) :
    (d₀.after l).config = c ∧ ShowsLetter c (l ++ [x]) result.letter result.reversed := by
  have hc : configValid c := by
    by_contra hc
    rw [Live.init, if_neg hc] at h₀
    cases h₀
  obtain ⟨hd, hf⟩ := after_follows hc h₀ l
  exact ⟨hd.1, (good_update hc hd hf x).sound result h⟩

def benchStripes (pattern : ℕ) : List ℕ :=
  [8, 7, 6, 5, 4, 3, 2, 1, 0].map fun i => if pattern.testBit i then 8 else 3

/-- White, the barcode of the letter A and white, in samples. -/
def benchWidths : List ℕ :=
  [31] ++ benchStripes star ++ [3] ++ benchStripes 0x109 ++ [3] ++ benchStripes star ++ [30]

/-- Samples at 50 Hz of blocks that alternate in colour, from the sample `n` on. -/
def benchSamples : ℕ → Bool → List ℕ → List Call
  | _, _, [] => []
  | n, black, w :: ws =>
    (List.range w).map (fun i => ⟨UInt32.ofNat ((n + i) * 20000), true, black⟩) ++
      benchSamples (n + w) (!black) ws

/-- The letter is reported with the last sample of the quiet zone. -/
theorem update_sound_bench : ∃ d₀, Live.init defaults = some d₀ ∧
    ((d₀.after (benchSamples 0 false benchWidths)).update 3860000 true false).1 =
      .decoded ⟨0, false, 3860000⟩ ∧
    ShowsLetter defaults (benchSamples 0 false benchWidths ++ [⟨3860000, true, false⟩])
      0 false := by
  have h : ((({ config := stored defaults, configured := true } : Live).after
      (benchSamples 0 false benchWidths)).update 3860000 true false).1 =
        .decoded ⟨0, false, 3860000⟩ := by
    decide +kernel
  exact ⟨_, rfl, h, (update_sound rfl _ ⟨3860000, true, false⟩ h).2⟩

end RoboticCar.Barcode
