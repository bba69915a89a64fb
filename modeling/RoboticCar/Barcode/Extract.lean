import RoboticCar.Barcode.Code39

/-!
# Stripes of a recording

The second reader of `barcode_decoder.c` looks for the stripes afterwards: `extractRuns` finds bumps
and dips, by their prominence or by a band just above a quiet paper, and measures the times between
the crossings of their half-way levels.  Widths that do not pass may have a bias that the stars show
(`correctSharedRuns`, `correctVaryingRuns`).

Indices and times are natural numbers: 2048 readings with steps of at most 31.5 ms stay in the
range of the source's 32-bit integers.
-/

namespace RoboticCar.Barcode

open Navigation

/-- A stored reading: 10 bits of darkness and the step in units of 0.5 ms. -/
structure Sample where
  dark : ℕ
  step : ℕ
  deriving DecidableEq

def recStepUs : ℕ := 500

/-- `REC_STEP_US`: the time since the reading before. -/
def Sample.stepUs (s : Sample) : ℕ := s.step * recStepUs

def recProminence : ℕ := 100

def recFaintBand : ℕ := 5

def recFaintDipUs : ℕ := 30000

def recRise : ℕ := 50

def recExtMax : ℕ := 63

/-! ## Extremes -/

def darkAt (samples : List Sample) (i : ℕ) : ℕ := (samples.getD i ⟨0, 0⟩).dark

/-- An extreme that is being looked for: its index and its darkness. -/
structure Extreme where
  index : ℕ
  dark : ℕ

/-- The loop that finds bumps and dips: the best reading since the last turn, the direction, and the
extremes so far, last first. -/
def findExtremes (prominence : ℕ) :
    List Sample → ℕ → Extreme → Bool → List ℕ → Option (List ℕ × Extreme × Bool)
  | [], _, best, rising, ext => some (ext, best, rising)
  | s :: rest, i, best, rising, ext =>
    if (if rising then best.dark < s.dark else s.dark < best.dark) then
      findExtremes prominence rest (i + 1) ⟨i, s.dark⟩ rising ext
    else if prominence ≤ (if rising then best.dark - s.dark else s.dark - best.dark) then
      if recExtMax - 1 ≤ ext.length then none
      else findExtremes prominence rest (i + 1) ⟨i, s.dark⟩ (!rising) (best.index :: ext)
    else findExtremes prominence rest (i + 1) best rising ext

/-- The time from the reading `i` to the reading `j`. -/
def timeBetween (samples : List Sample) (i j : ℕ) : ℕ :=
  (((samples.drop (i + 1)).take (j - i)).map Sample.stepUs).sum

/-- How big the pair of extremes at `j` is: height times time. -/
def pairSize (samples : List Sample) (ext : List ℕ) (j : ℕ) : ℕ :=
  let i := ext.getD j 0
  let i' := ext.getD (j + 1) 0
  let a := darkAt samples i
  let b := darkAt samples i'
  (if b < a then a - b else b - a) * timeBetween samples i i'

/-- The first smallest pair among those at `1 … n - 3`. -/
def smallestPair (samples : List Sample) (ext : List ℕ) : ℕ :=
  ((List.range (ext.length - 3)).foldl (fun (acc : Option ℕ × ℕ) k =>
    let size := pairSize samples ext (k + 1)
    if acc.1.all (size < ·) then (some size, k + 1) else acc) (none, 1)).2

/-- The loop that drops a neighbouring pair while there are too many extremes. -/
def trim (samples : List Sample) : ℕ → List ℕ → List ℕ
  | 0, ext => ext
  | rounds + 1, ext =>
    if runCount + 2 < ext.length then
      let cut := smallestPair samples ext
      trim samples rounds (ext.take cut ++ ext.drop (cut + 2))
    else ext

/-- The extremes by prominence; each round of trimming drops two of them. -/
def prominentExtremes (samples : List Sample) (prominence : ℕ) : Option (List ℕ) := do
  let prominence := if prominence = 0 then recProminence else prominence
  let first ← samples.head?
  let (ext, best, rising) ← findExtremes prominence samples.tail 1 ⟨0, first.dark⟩ true [0]
  let ext := (if rising then ext else best.index :: ext).reverse
  if ext.length < 3 then none else some (trim samples ext.length ext)

/-- Where the loops of `rec_faint_extrema` are. -/
inductive FaintPhase
  /-- Looking for ink. -/
  | seek
  /-- In a region of ink, with its peak, the lowest reading of the last dip and its time. -/
  | ink (peak dip : Extreme) (lowUs : ℕ)
  /-- In the valley behind it. -/
  | valley (peak dip : Extreme)

/-- The loops of `rec_faint_extrema`, one reading at a time: the extremes so far, last first. -/
def findFaint (floor : ℕ) : List Sample → ℕ → FaintPhase → List ℕ → Option (List ℕ)
  | [], _, .seek, ext => some ext
  | [], _, .ink _ _ _, _ => none
  | [], _, .valley peak dip, ext => some (dip.index :: peak.index :: ext)
  | s :: rest, i, .seek, ext =>
    if s.dark ≤ floor then findFaint floor rest (i + 1) .seek ext
    else if runCount + 2 < ext.length + 2 then none
    else findFaint floor rest (i + 1) (.ink ⟨i, s.dark⟩ ⟨i, s.dark⟩ 0) ext
  | s :: rest, i, .ink peak dip lowUs, ext =>
    if floor < s.dark then
      findFaint floor rest (i + 1) (.ink (if peak.dark < s.dark then ⟨i, s.dark⟩ else peak) dip 0)
        ext
    else
      let dip := if lowUs = 0 ∨ s.dark < dip.dark then ⟨i, s.dark⟩ else dip
      if recFaintDipUs < lowUs + s.stepUs then
        findFaint floor rest (i + 1) (.valley peak dip) ext
      else findFaint floor rest (i + 1) (.ink peak dip (lowUs + s.stepUs)) ext
  | s :: rest, i, .valley peak dip, ext =>
    if s.dark ≤ floor then
      findFaint floor rest (i + 1) (.valley peak (if s.dark < dip.dark then ⟨i, s.dark⟩ else dip))
        ext
    else
      -- the region is complete, and this reading begins the next one
      let ext := dip.index :: peak.index :: ext
      if runCount + 2 < ext.length + 2 then none
      else findFaint floor rest (i + 1) (.ink ⟨i, s.dark⟩ ⟨i, s.dark⟩ 0) ext

/-- `rec_faint_extrema`: exactly 15 regions. -/
def faintExtremes (samples : List Sample) (paper : ℕ) : Option (List ℕ) := do
  let ext ← findFaint (paper + recFaintBand) samples 0 .seek [0]
  if ext.length = runCount + 2 then some ext.reverse else none

/-- `rec_frac`: how far the reading `d` still is at the level `lo` of a segment that ends at `hi`,
in 1024ths. -/
def recFrac (d lo hi : ℕ) : ℕ :=
  let num : ℤ := (d : ℤ) - hi
  let den : ℤ := (lo : ℤ) - hi
  let f := if den = 0 then 0 else (num * 1024).tdiv den
  if f < 0 then 0 else if 1024 < f then 1024 else f.toNat

/-- The inner loop of an edge: the first crossing of `mid` in the segment from `tj` on, or the last
one. -/
def crossing (up core takeLast : Bool) (mid : ℕ) : ℕ → Option ℕ → List Sample → Option ℕ
  | tj, edge, a :: b :: rest =>
    let crosses :=
      if up then if core then a.dark ≤ mid && mid < b.dark else a.dark < mid && mid ≤ b.dark
      else mid < a.dark && b.dark ≤ mid
    let x := tj + b.stepUs * (if up then mid - a.dark else a.dark - mid) /
      (if up then b.dark - a.dark else a.dark - b.dark)
    crossing up core takeLast mid (tj + b.stepUs)
      (if crosses && (edge.isNone || takeLast) then some x else edge) (b :: rest)
  | _, edge, _ => edge

/-- What the loop over the readings carries: the times, the segment, and the edges, last first. -/
structure EdgeScan where
  t : ℕ := 0
  tLo : ℕ := 0
  atLo : ℕ := 0
  k : ℕ := 0
  edges : List ℕ := []

/-- The edge of the segment that ends at the reading `i`. -/
def edgeOf (samples : List Sample) (faint : Bool) (paper start i lo hi guess tLo : ℕ) : ℕ :=
  let up := lo < hi
  let level := if up then hi else lo
  let core := faint && paper ≤ level && level ≤ paper + recRise
  (crossing up core (if core then up else !up) ((lo + hi) / 2) tLo none
    ((samples.drop start).take (i - start + 1))).getD guess

/-- The body of the loop, for the reading `i`. -/
def EdgeScan.next (samples : List Sample) (ext : List ℕ) (faint : Bool) (paper : ℕ)
    (acc : EdgeScan) (i : ℕ) : EdgeScan :=
  let step := (samples.getD i ⟨0, 0⟩).stepUs
  let t := acc.t + step
  if acc.k + 1 < ext.length then
    let start := ext.getD acc.k 0
    let stop := ext.getD (acc.k + 1) 0
    let lo := darkAt samples start
    let hi := darkAt samples stop
    let atLo := acc.atLo +
      step * (recFrac (darkAt samples (i - 1)) lo hi + recFrac (darkAt samples i) lo hi) / 2048
    if i = stop then
      { t := t, tLo := t, atLo := 0, k := acc.k + 1
        edges := edgeOf samples faint paper start i lo hi (acc.tLo + atLo) acc.tLo :: acc.edges }
    else { acc with t := t, atLo := atLo }
  else { acc with t := t }

/-- The differences of neighbouring edges, modulo `2 ^ 32`. -/
def widths : List ℕ → List ℕ
  | a :: b :: edges => (b + 2 ^ 32 - a) % 2 ^ 32 :: widths (b :: edges)
  | _ => []

/-- What `rec_extract_runs` gives: the widths, the first and the last edge, and the largest step. -/
structure Extraction where
  runs : List ℕ
  first : ℕ
  last : ℕ
  gap : ℕ

/-- `rec_extract_runs`, where it finds 29 stripes. -/
def extractRuns (samples : List Sample) (paper prominence : ℕ) (faint : Bool) :
    Option Extraction := do
  if samples.length < 3 then none
  let ext ← if faint then faintExtremes samples paper else prominentExtremes samples prominence
  let edges := (((List.range samples.length).drop 1).foldl
    (EdgeScan.next samples ext faint paper) {}).edges.reverse
  let runs := widths edges
  if runs.length = runCount then
    some ⟨runs, edges.headD 0, edges.getLastD 0, (samples.tail.map Sample.stepUs).foldl max 0⟩
  else none

/-! ## Corrections from the stars -/

/-- The star as it is read against the direction of travel. -/
def starReversed : ℕ := 0x052

/-- The element `i` of a pattern is wide. -/
def isWide (pattern i : ℕ) : Bool := pattern.testBit (8 - i)

/-- The mean of the narrow elements of a star. -/
def starNarrow (pattern : ℕ) (runs : List ℕ) : ℕ :=
  (((runs.take 9).zipIdx.filter fun x => !isWide pattern x.2).map Prod.fst).sum / 6

/-- Widths with the bias added to the bars and taken from the spaces, if they stay in range. -/
def biased (c : BarcodeConfig) (bias : ℤ) (runs : List ℕ) : Option (List ℕ) :=
  let adjusted := runs.zipIdx.map fun x => (x.1 : ℤ) + if x.2 % 2 = 1 then -bias else bias
  if adjusted.all fun v => 0 < v && v ≤ c.maxRunUs.toNat then some (adjusted.map Int.toNat)
  else none

/-- How far, in millionths, a width is from its reference. -/
def widthError (run reference : ℕ) : ℕ :=
  (if reference < run then run - reference else reference - run) * 1000000 / reference

/-- The largest error of a star with the bias, if it passes as the star. -/
def starScore (c : BarcodeConfig) (gap pattern : ℕ) (bias : ℤ) (runs : List ℕ) : Option ℕ := do
  let adjusted ← biased c bias (runs.take 9)
  let (found, narrow) ← character adjusted gap c
  if found ≠ pattern then none
  let wide := ((adjusted.zipIdx.filter fun x => isWide pattern x.2).map Prod.fst).sum / 3
  some ((adjusted.zipIdx.map fun x =>
    widthError x.1 (if isWide pattern x.2 then wide else narrow)).foldl max 0)

/-- The better of two fits: the smaller error, and then the smaller bias. -/
def betterFit (best : Option (ℕ × ℤ)) (fit : ℕ × ℤ) : Option (ℕ × ℤ) :=
  match best with
  | none => some fit
  | some (score, bias) =>
    if fit.1 < score ∨ fit.1 = score ∧ fit.2.natAbs < bias.natAbs then some fit else best

/-- The 129 points of the search. -/
def ticks : List ℤ := (List.range 129).map fun n => (n : ℤ) - 64

/-- The best bias on the grid, for both stars at once or for one. -/
def bestFit (score : ℤ → Option ℕ) (trial : ℤ → ℤ) : Option (ℕ × ℤ) :=
  ticks.foldl (fun best tick =>
    match score (trial tick) with
    | some s => betterFit best (s, trial tick)
    | none => best) none

def sharedFit (c : BarcodeConfig) (gap pattern : ℕ) (runs : List ℕ) : Option ℤ :=
  let minimum := min (starNarrow pattern runs) (starNarrow pattern (runs.drop 20))
  if minimum < c.minNarrowUs.toNat ∨ c.maxRunUs.toNat < minimum then none
  else
    let bound : ℤ := (minimum * 3 / 4 : ℕ)
    (bestFit (fun bias => do
      let first ← starScore c gap pattern bias runs
      let last ← starScore c gap pattern bias (runs.drop 20)
      return max first last) fun tick => (bound * tick).tdiv 64).map Prod.snd

/-- `rec_correct_shared_runs`: whether the stars matched, and the corrected widths with the bias. -/
def correctSharedRuns (runs : List ℕ) (gap : ℕ) (c : BarcodeConfig) :
    Bool × Option (List ℕ × ℤ) :=
  if !configValid c ∨ c.maxGapUs.toNat < gap then (false, none)
  else
    match sharedFit c gap star runs, sharedFit c gap starReversed runs with
    | none, none => (false, none)
    | some _, some _ => (true, none)
    | some bias, none | none, some bias => (true, (biased c bias runs).map fun r => (r, bias))

/-- `rec_fit_star`: an even bias, and the narrow mean. -/
def fitStar (c : BarcodeConfig) (gap pattern : ℕ) (runs : List ℕ) : Option (ℤ × ℕ) :=
  let narrow := starNarrow pattern runs
  if narrow < c.minNarrowUs.toNat ∨ c.maxRunUs.toNat < narrow then none
  else
    let bound : ℤ := (narrow * 3 / 4 : ℕ)
    (bestFit (fun bias => starScore c gap pattern bias runs)
      fun tick => (bound * tick).tdiv 128 * 2).map fun fit => (fit.2, narrow)

/-- The biases of the two stars in one direction, if they drift little enough. -/
def varyingFit (c : BarcodeConfig) (gap pattern : ℕ) (runs : List ℕ) : Option (ℤ × ℤ) := do
  let (bias₀, narrow₀) ← fitStar c gap pattern runs
  let (bias₁, narrow₁) ← fitStar c gap pattern (runs.drop 20)
  if bias₀ < 0 ∧ 0 < bias₁ ∨ 0 < bias₀ ∧ bias₁ < 0 then none
  if min narrow₀ narrow₁ / 2 < (bias₁ - bias₀).natAbs then none
  return (bias₀, bias₁)

/-- The last loop of the varying correction, with the time and the shift of the edge before a width.
-/
def shiftEdges (c : BarcodeConfig) (bias₀ bias₁ : ℤ) (start finish : ℕ) :
    List ℕ → ℕ → ℕ → ℤ → Option (List ℕ)
  | [], _, _, _ => some []
  | run :: runs, i, t, shift => do
    let t := t + run
    let bias := if t ≤ start then bias₀ else if finish ≤ t then bias₁
      else (bias₀ * ((finish : ℤ) - t) + bias₁ * ((t : ℤ) - start)).tdiv ((finish : ℤ) - start)
    let shift' := if i % 2 = 1 then (-bias).tdiv 2 else bias.tdiv 2
    let width := (run : ℤ) + shift' - shift
    if width ≤ 0 ∨ (c.maxRunUs.toNat : ℤ) < width then none
    let rest ← shiftEdges c bias₀ bias₁ start finish runs (i + 1) t shift'
    return width.toNat :: rest

/-- `s3_barcode_record_correct_varying_runs`. -/
def correctVaryingRuns (runs : List ℕ) (gap : ℕ) (c : BarcodeConfig) :
    Option (List ℕ × ℤ × ℤ) := do
  if !configValid c ∨ c.maxGapUs.toNat < gap ∨ !runs.all (widthOk c) ∨
      c.maxFrameUs.toNat < runs.sum then none
  let (bias₀, bias₁) ←
    match varyingFit c gap star runs, varyingFit c gap starReversed runs with
    | some fit, none | none, some fit => some fit
    | _, _ => none
  let runs ← shiftEdges c bias₀ bias₁ (runs.take 9).sum (runs.take 20).sum runs 0 0
    ((-bias₀).tdiv 2)
  return (runs, bias₀, bias₁)

/-- The correction that `rec_candidate` tries: the shared one, and the varying one only where no
star matched. -/
def correctRuns (runs : List ℕ) (gap : ℕ) (c : BarcodeConfig) : Option (List ℕ × ℤ × ℤ) :=
  match correctSharedRuns runs gap c with
  | (_, some (runs, bias)) => some (runs, bias, bias)
  | (true, none) => none
  | (false, none) => correctVaryingRuns runs gap c

end RoboticCar.Barcode
