import RoboticCar.Lib.CFloat

/-!
# The barcode capture

`barcode_capture.c` keeps one *episode* for each piece of black: the samples before its trigger,
from a ring, and those up to its end, in a pool that all episodes share.  This is the writing half,
`bcap_begin_run` and `bcap_record`; an array of `bcap_t` is a function of the index.
-/

namespace RoboticCar.Capture

open Lib CFloat

/-- `BCAP_POOL`. -/
def poolSize : ℕ := 2400

def maxEpisodes : ℕ := 12

/-- `BCAP_PRE`. -/
def preSize : ℕ := 150

def endQuiet : ℕ := 40

def samplePeriodMs : ℕ := 10

structure Sample where
  raw : UInt16
  mm : UInt16
  dark4 : UInt8
  flags : UInt8
  dtMs : UInt8

structure Episode (D : Type) where
  first : ℕ
  count : ℕ
  startMs : UInt32
  originM : D

/-- `bcap_t`; the letters are a list. -/
structure Bcap (D : Type) where
  pool : ℕ → Sample
  pre : ℕ → Sample
  preM : ℕ → D
  episode : ℕ → Episode D
  runStartUs : UInt32
  lastUs : UInt32
  used : ℕ
  preHead : ℕ
  preCount : ℕ
  quiet : UInt16
  episodes : ℕ
  dropped : ℕ
  active : Bool
  haveLast : Bool
  decoded : UInt16
  rejected : UInt16
  timing : UInt16
  overflow : UInt16
  letters : List Char

structure Input (D : Type) where
  tUs : UInt32
  raw : UInt16
  darkness : UInt16
  surface : UInt8
  status : UInt8
  letter : Char
  collecting : Bool
  rearming : Bool
  centreM : D

variable {D : Type} [CFloat D]

def beginRun (now : UInt32) : Bcap D where
  pool _ := ⟨0, 0, 0, 0, 0⟩
  pre _ := ⟨0, 0, 0, 0, 0⟩
  preM _ := zero
  episode _ := ⟨0, 0, 0, zero⟩
  runStartUs := now
  lastUs := 0
  used := 0
  preHead := 0
  preCount := 0
  quiet := 0
  episodes := 0
  dropped := 0
  active := false
  haveLast := false
  decoded := 0
  rejected := 0
  timing := 0
  overflow := 0
  letters := []

/-- The sample of an input, given the time since the last one. -/
def sampleOf (dt : UInt32) (i : Input D) : Sample where
  raw := i.raw
  mm := 0
  dark4 := ((if i.darkness > 1000 then 1000 else i.darkness) / 4).toUInt8
  flags :=
    let collecting : UInt8 := if i.collecting then 0x20 else 0
    let rearming : UInt8 := if i.rearming then 0x40 else 0
    let gap : UInt8 := if dt > 30000 then 0x80 else 0
    (i.surface &&& (3 : UInt8)) ||| (i.status &&& (7 : UInt8)) <<< (2 : UInt8) ||| collecting |||
      rearming ||| gap
  dtMs := (if dt / 1000 > 255 then 255 else dt / 1000).toUInt8

namespace Bcap

def makeSample (c : Bcap D) (i : Input D) : Sample × Bcap D :=
  (sampleOf (if c.haveLast then i.tUs - c.lastUs else 0) i,
    { c with lastUs := i.tUs, haveLast := true })

end Bcap

def relMm (origin now : D) : UInt16 :=
  let d := (now - origin) * lit 1000
  if !gt d (lit 0) then 0
  else UInt16.ofNat (toInt (if gt d (lit 65535) then lit 65535 else d + lit (1 / 2))).toNat

namespace Bcap

/-! ## Recording -/

/-- The results of the decoder are counted, inside and outside episodes. -/
def countResult (c : Bcap D) (i : Input D) : Bcap D :=
  if i.status = 1 then
    { c with
      decoded := c.decoded + 1
      letters := if c.letters.length < 8 then c.letters ++ [i.letter] else c.letters }
  else if i.status = 2 then { c with rejected := c.rejected + 1 }
  else if i.status = 3 then { c with timing := c.timing + 1 }
  else if i.status = 4 then { c with overflow := c.overflow + 1 }
  else c

/-- `pool[used++] = s; e->count++`, for the episode that is written. -/
def store (c : Bcap D) (s : Sample) : Bcap D :=
  { c with
    pool := Function.update c.pool c.used s
    used := c.used + 1
    episode := Function.update c.episode c.episodes
      { c.episode c.episodes with count := (c.episode c.episodes).count + 1 } }

/-- The ring's samples become the first ones of the episode. -/
def flush (c : Bcap D) (oldest : ℕ) : Bcap D :=
  (List.range c.preCount).foldl
    (fun c n =>
      let k := (oldest + n) % preSize
      c.store { c.pre k with mm := relMm (c.episode c.episodes).originM (c.preM k) }) c

def oldest (c : Bcap D) : ℕ := (c.preHead + preSize - c.preCount) % preSize

/-- The entry of an episode that is about to begin. -/
def newEpisode (c : Bcap D) (i : Input D) : Episode D :=
  let nowMs := (i.tUs - c.runStartUs) / 1000
  let backMs := UInt32.ofNat (c.preCount * samplePeriodMs)
  { first := c.used
    count := 0
    startMs := if nowMs > backMs then nowMs - backMs else 0
    originM := if c.preCount ≠ 0 then c.preM c.oldest else i.centreM }

/-- An episode begins, with the samples before its trigger. -/
def openEpisode (c : Bcap D) (i : Input D) : Bcap D :=
  let c := flush { c with episode := Function.update c.episode c.episodes (c.newEpisode i) }
    c.oldest
  { c with active := true, quiet := 0 }

def closeEpisode (c : Bcap D) : Bcap D :=
  if c.active then { c with active := false, episodes := c.episodes + 1 } else c

def isFull (c : Bcap D) : Bool :=
  decide (maxEpisodes ≤ c.episodes) || decide (poolSize < c.used + c.preCount + 1)

/-- A sample while an episode is open. -/
def extend (c : Bcap D) (i : Input D) (s : Sample) : Bcap D :=
  let c := if c.used < poolSize then
      c.store { s with mm := relMm (c.episode c.episodes).originM i.centreM }
    else c
  let c := { c with quiet := if i.surface = 1 then c.quiet + 1 else 0 }
  if (endQuiet ≤ c.quiet.toNat ∧ !i.collecting) ∨ poolSize ≤ c.used then
    { c.closeEpisode with preCount := 0 }
  else c

/-- A sample while no episode is open. -/
def remember (c : Bcap D) (i : Input D) (s : Sample) : Bcap D :=
  { c with
    pre := Function.update c.pre c.preHead s
    preM := Function.update c.preM c.preHead i.centreM
    preHead := (c.preHead + 1) % preSize
    preCount := if c.preCount < preSize then c.preCount + 1 else c.preCount }

end Bcap

/-- Black, or a reader that collects, begins an episode. -/
def Input.triggers (i : Input D) : Bool := i.surface = 2 || i.collecting

namespace Bcap

/-- The trigger: an episode is begun, or counted as not stored. -/
def trigger (c : Bcap D) (i : Input D) : Bcap D :=
  if !c.active && i.triggers then
    if c.isFull then { c with dropped := if c.dropped < 255 then c.dropped + 1 else c.dropped }
    else c.openEpisode i
  else c

def record (c : Bcap D) (i : Input D) : Bcap D :=
  let (s, c) := c.makeSample i
  let c := (c.countResult i).trigger i
  if c.active then c.extend i s else c.remember i s

end Bcap

end RoboticCar.Capture
