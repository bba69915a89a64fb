import RoboticCar.Barcode.Extract

/-!
# The record reader

`s3_barcode_record_update`.  While it waits it learns the darkness of the paper; a reading well
above it starts a recording, and enough white ends it.  The stripes are then extracted and validated
(`recCandidate`), and the letter is released once the white behind them suffices.

The ring and the recording are lists, oldest first, of readings with the step since the one before;
the first one of the ring holds none.
-/

namespace RoboticCar.Barcode

open Navigation

def recMax : ℕ := 2048

def recPreUs : ℕ := 1500000

def recPreMax : ℕ := 320

def recWhiteBand : ℕ := 75

def recMinProminence : ℕ := 15

def recFaintMaxNoise : ℕ := 15

def recStepMax : ℕ := 63

inductive RecState
  | waiting
  | recording
  | quiet
  deriving DecidableEq

/-- `s3_barcode_record_t`. -/
structure Record where
  sample : List Sample := []
  pre : List Sample := []
  preUs : ℕ := 0
  prefixUs : ℕ := 0
  lastUs : UInt32 := 0
  whiteUs : ℕ := 0
  leadingUs : ℕ := 0
  frameUs : ℕ := 0
  requiredUs : ℕ := 0
  prev : ℕ := 0
  residualUs : ℕ := 0
  noiseQ4 : ℕ := 0
  prominence : ℕ := 0
  candidate : Fin 26 × Bool := (0, false)
  state : RecState := .waiting
  seen : Bool := false
  paper : ℕ := 0
  best : ℕ := 0
  falling : Bool := false
  blocked : Bool := false
  turnUs : ℕ := 0
  deriving DecidableEq

def satAdd (a b : ℕ) : ℕ := if 0x7FFFFFFF - b < a then 0x7FFFFFFF else a + b

namespace Record

/-- `s3_barcode_record_active`. -/
def active (r : Record) : Bool := r.state ≠ .waiting

/-- `rec_step`: the step, and the rounding that is carried on. -/
def step (r : Record) (gapUs : UInt32) : Option (ℕ × ℕ) :=
  let total := (gapUs.toNat + r.residualUs) % 2 ^ 32
  let units := total / recStepUs
  if gapUs = 0 ∨ recStepMax < units then none else some (units, total - units * recStepUs)

/-- `rec_faint_eligible`. -/
def faintEligible (r : Record) : Bool :=
  r.paper ≤ recFaintBand && r.prominence ≠ 0 && r.prominence ≤ recFaintMaxNoise

/-- `rec_monitor_band`. -/
def monitorBand (r : Record) : ℕ := if r.faintEligible then recFaintBand else r.prominence

/-- The band above the paper that `rec_white` allows. -/
def whiteBand (r : Record) : ℕ :=
  if r.monitorBand ≠ 0 ∧ r.monitorBand < recWhiteBand then r.monitorBand else recWhiteBand

/-- `rec_white`. -/
def white (r : Record) (dark : ℕ) : Bool := dark ≤ r.paper + r.whiteBand

/-- `rec_pre_drop`, on a ring with another reading behind the oldest. -/
def preDrop (r : Record) : Record :=
  match r.pre with
  | a :: b :: rest =>
    { r with
      pre := ⟨b.dark, 0⟩ :: rest
      leadingUs := if a.dark ≤ recFaintBand ∧ b.dark ≤ recFaintBand then
        satAdd r.leadingUs b.stepUs else 0
      preUs := r.preUs - b.stepUs }
  | _ => r

/-- The loop at the end of `rec_pre_push`, with a bound on the number of rounds. -/
def preShrink : ℕ → Record → Record
  | 0, r => r
  | rounds + 1, r =>
    if 1 < r.pre.length ∧ recPreUs < r.preUs then preShrink rounds r.preDrop else r

/-- `rec_pre_push`: every round of the loop drops a reading. -/
def prePush (r : Record) (dark step : ℕ) : Record :=
  let r := if r.pre.length = recPreMax then r.preDrop else r
  let step := if r.pre.length = 0 then 0 else step
  let r := { r with pre := r.pre ++ [⟨dark, step⟩], preUs := r.preUs + step * recStepUs }
  preShrink r.pre.length r

/-- The loop of `rec_paper_prominence`, up to the first reading above `floor`. -/
def paperNoise (floor : ℕ) : ℕ → List Sample → ℕ × ℕ × ℕ
  | _, [] => (0, 0, 0)
  | previous, s :: rest =>
    if floor < previous ∨ floor < s.dark then (0, 0, 0)
    else
      let (elapsed, sum, differences) := paperNoise floor s.dark rest
      (elapsed + s.stepUs,
        sum + (if previous < s.dark then s.dark - previous else previous - s.dark),
        differences + 1)

/-- `rec_paper_prominence`. -/
def paperProminence (r : Record) (c : BarcodeConfig) : ℕ :=
  let prominence := (r.noiseQ4 + 3) / 4
  let prominence :=
    if r.paper ≤ recFaintBand ∧ 1 < r.pre.length then
      let (elapsed, sum, differences) :=
        paperNoise (r.paper + recFaintBand) (r.pre.headD ⟨0, 0⟩).dark r.pre.tail
      if differences ≠ 0 ∧ c.quietModules.toNat * c.minNarrowUs.toNat ≤ elapsed then
        (4 * sum + differences - 1) / differences
      else prominence
    else prominence
  min (max prominence recMinProminence) recProminence

/-- How far a bias moves an outer edge, rounded towards more white. -/
def halfBias (bias : ℤ) : ℤ := if 0 < bias then (bias + 1).tdiv 2 else bias.tdiv 2

/-- A valid interpretation: the corrected widths, the margin before them, and the letter. -/
structure Interpretation where
  extraction : Extraction
  runs : List ℕ
  bias₀ : ℤ
  bias₁ : ℤ
  leading : ℕ
  result : Fin 26 × Bool

/-- The widths of `rec_candidate`: as extracted if they pass, and otherwise corrected once. -/
def interpret (r : Record) (c : BarcodeConfig) (faint : Bool) : Option Interpretation := do
  let e ← extractRuns r.sample r.paper r.prominence faint
  let leading := satAdd r.leadingUs e.first
  match decodeRuns e.runs leading 0x7FFFFFFF e.gap c with
  | some result => return ⟨e, e.runs, 0, 0, leading, result⟩
  | none =>
    let (runs, bias₀, bias₁) ← correctRuns e.runs e.gap c
    if (leading : ℤ) < halfBias bias₀ then none
    let leading := ((leading : ℤ) - halfBias bias₀).toNat
    let result ← decodeRuns runs leading 0x7FFFFFFF e.gap c
    return ⟨e, runs, bias₀, bias₁, leading, result⟩

/-- The recording length from which the white behind the barcode is enough. -/
def Interpretation.required (i : Interpretation) (c : BarcodeConfig) : ℕ :=
  let need := (i.extraction.last : ℤ) + halfBias i.bias₁ +
    c.quietModules.toNat * narrowOf (char 2 i.runs)
  if 0x7FFFFFFF < need then 0x7FFFFFFF else (need % 2 ^ 32).toNat

/-- `rec_candidate`: the letter, and the required length. -/
def recCandidate (r : Record) (c : BarcodeConfig) (faint : Bool) :
    Option ((Fin 26 × Bool) × ℕ) :=
  (r.interpret c faint).map fun i => (i.result, i.required c)

/-- The verdict on a complete recording: two valid interpretations have to agree. -/
def verdict (r : Record) (c : BarcodeConfig) : Option ((Fin 26 × Bool) × ℕ) :=
  match r.recCandidate c false, if r.faintEligible then r.recCandidate c true else none with
  | good, none => good
  | none, some recovered => some recovered
  | some good, some recovered =>
    if good.1 ≠ recovered.1 then none
    else some (recovered.1, if good.2 < recovered.2 then recovered.2 else good.2)

/-! ## The calls -/

/-- `rec_finish`; `failed` says that the status is not DECODED. -/
def finish (r : Record) (failed : Bool) : Record :=
  { seen := r.seen, paper := r.paper, lastUs := r.lastUs, noiseQ4 := r.noiseQ4, prev := r.paper
    blocked := failed }

def begin (r : Record) (dark : ℕ) (now : UInt32) : Record :=
  prePush { r with seen := true, paper := dark, lastUs := now, prev := dark } dark 0

/-- The paper after a waiting reading follows lighter ones at once, darker ones slowly, a bar not at
all. -/
def learnPaper (paper dark : ℕ) : ℕ :=
  if dark < paper then dark
  else if dark < paper + recRise then paper + (dark - paper) / 32
  else paper

/-- The noise after a waiting reading. -/
def learnNoise (r : Record) (dark : ℕ) : ℕ :=
  if dark ≤ r.paper + recWhiteBand ∧ r.prev ≤ r.paper + recWhiteBand then
    (r.noiseQ4 - r.noiseQ4 / 16 + if r.prev < dark then dark - r.prev else r.prev - dark) % 2 ^ 16
  else r.noiseQ4

/-- The start of a recording: the ring becomes its beginning. -/
def trigger (r : Record) (c : BarcodeConfig) : Record :=
  let r := { r with state := .recording, prominence := r.paperProminence c, prefixUs := r.preUs }
  { r with
    leadingUs := if r.faintEligible then r.leadingUs else r.whiteUs - r.prefixUs
    whiteUs := 0
    frameUs := r.prefixUs
    requiredUs := 0
    sample := if r.pre.length = 0 then [⟨r.prev, 0⟩] else r.pre
    best := r.prev
    falling := false
    turnUs := 0 }

def store (r : Record) (dark step : ℕ) : Record :=
  { r with
    sample := r.sample ++ [⟨dark, step⟩]
    frameUs := satAdd r.frameUs (step * recStepUs) }

/-- The bumps and dips are followed as they come. -/
def turn (r : Record) (dark step : ℕ) : Record :=
  let r := { r with turnUs := satAdd r.turnUs (step * recStepUs) }
  if (if r.falling then dark < r.best else r.best < dark) then { r with best := dark }
  else if r.monitorBand ≤ (if r.falling then dark - r.best else r.best - dark) then
    { r with best := dark, falling := !r.falling, turnUs := 0 }
  else r

def release (r : Record) (now : UInt32) : BarcodeStatus × Record :=
  if r.frameUs < r.requiredUs then (.none, r)
  else (.decoded ⟨r.candidate.1, r.candidate.2, now⟩, r.finish false)

/-- Enough white has followed. -/
def conclude (r : Record) (c : BarcodeConfig) (now : UInt32) : BarcodeStatus × Record :=
  if r.state = .recording then
    match r.verdict c with
    | none => (.rejected, r.finish true)
    | some (candidate, required) =>
      release { r with requiredUs := required, candidate := candidate, state := .quiet } now
  else r.release now

def listen (r : Record) (c : BarcodeConfig) (now : UInt32) (dark step : ℕ) :
    BarcodeStatus × Record :=
  if c.maxRunUs.toNat < r.turnUs ∧ !r.white dark then (.rejected, r.finish true)
  else if !r.white dark then
    if r.state = .quiet then (.rejected, r.finish true) else (.none, { r with whiteUs := 0 })
  else
    let r := { r with whiteUs := satAdd r.whiteUs (step * recStepUs) }
    if r.whiteUs < c.maxRunUs.toNat then (.none, r) else r.conclude c now

def recordReading (r : Record) (c : BarcodeConfig) (now : UInt32) (dark step : ℕ) :
    BarcodeStatus × Record :=
  if recMax ≤ r.sample.length then (.overflow, r.finish true)
  else
    let r := r.store dark step
    if c.maxFrameUs.toNat < r.frameUs - r.prefixUs then (.rejected, r.finish true)
    else (r.turn dark step).listen c now dark step

def waitReading (r : Record) (c : BarcodeConfig) (now : UInt32) (dark step : ℕ) :
    BarcodeStatus × Record :=
  let r := { r with paper := learnPaper r.paper dark }
  if r.blocked ∧ (!r.white dark ∨ r.paper + recRise ≤ dark) then (.none, { r with whiteUs := 0 })
  else
    let r := { r with blocked := false }
    if dark < r.paper + recRise then
      (.none, prePush { r with
        noiseQ4 := r.learnNoise dark
        whiteUs := satAdd r.whiteUs (step * recStepUs)
        prev := dark } dark step)
    else (r.trigger c).recordReading c now dark step

/-- `s3_barcode_record_update`. -/
def update (r : Record) (c : BarcodeConfig) (now : UInt32) (valid : Bool) (darkness : ℕ) :
    BarcodeStatus × Record :=
  let dark := min darkness 1000
  if !configValid c then (.none, r)
  else if !valid then (.none, {})
  else if !r.seen then (.none, r.begin dark now)
  else
    match r.step (now - r.lastUs) with
    | none => (if r.active then .timingError else .none, begin {} dark now)
    | some (step, residual) =>
      if c.maxGapUs.toNat + recStepUs < step * recStepUs then
        (if r.active then .timingError else .none, begin {} dark now)
      else
        let r := { r with residualUs := residual, lastUs := now }
        if r.state = .waiting then r.waitReading c now dark step
        else r.recordReading c now dark step

end Record

end RoboticCar.Barcode
