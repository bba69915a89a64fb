import Mathlib.Data.Int.Order.Lemmas
import Mathlib.Data.List.Chain
import RoboticCar.Lib.CFloat

/-!
# The route on the laptop

The car sends its distance since START, in centimetres modulo 4096, and its heading.  The laptop's
`RouteTracker` takes the step from the last pose to be the one nearest to zero, and a pose `(0, 0)`
that would be far away for the START of another run.

Poses get lost.  `route_distance`: the distance is right for whatever poses are delivered, as long
as two in a row are less than half a turn of the counter apart (`unwrapDistance_eq`).
-/

namespace RoboticCar.Telemetry.Route

open Lib CFloat

def poseDistanceMod : ℤ := 4096

def wrap (x m : ℤ) : ℤ := if x.tmod m < 0 then x.tmod m + m else x.tmod m

/-- What `send_pose` makes of the rounded distance in centimetres and heading in degrees. -/
def wrapPose (cm deg : ℤ) : ℤ × ℤ := (wrap cm poseDistanceMod, wrap deg 360)

/-! ## The laptop -/

def unwrapDistance (previous wrapped : ℤ) : ℤ :=
  let step := (wrapped - previous) % poseDistanceMod
  previous + if step ≥ poseDistanceMod / 2 then step - poseDistanceMod else step

def maxRuns : ℕ := 5
def maxPoints : ℕ := 6000
def restartJumpCm : ℤ := 60

/-- The functions of Python's `math` that the route is drawn with. -/
class Trig (F : Type) where
  radians : F → F
  sin : F → F
  cos : F → F
  /-- `round(x, 1)`. -/
  round1 : F → F

structure Point (F : Type) where
  x : F
  y : F
  d : ℤ

/-- A run, without its markers. -/
structure Drawn (F T : Type) where
  id : ℕ
  startedAt : T
  endedAt : Option T
  joinedMidRun : Bool
  distanceCm : ℤ
  startCm : ℤ
  headingDeg : ℤ
  xCm : F
  yCm : F
  pathCm : F
  points : List (Point F)
  droppedPoints : ℕ

/-- `RouteTracker`; the current run is the newest one. -/
structure RouteTracker (F T : Type) where
  runs : List (Drawn F T)
  ended : Bool
  counter : ℕ

def headingStep (previous current : ℤ) : ℤ := (current - previous + 180) % 360 - 180

namespace RouteTracker

variable {F T : Type} [CFloat F]

def init : RouteTracker F T := ⟨[], true, 0⟩

def newRun (t : RouteTracker F T) (wrapped heading : ℤ) (at_ : T) : RouteTracker F T :=
  let startCm := if wrapped < poseDistanceMod / 2 then wrapped else wrapped - poseDistanceMod
  let run : Drawn F T :=
    { id := t.counter + 1, startedAt := at_, endedAt := none
      joinedMidRun := !(wrapped == 0 && heading == 0)
      distanceCm := startCm, startCm := startCm, headingDeg := heading
      xCm := zero, yCm := zero, pathCm := zero, points := [⟨zero, zero, 0⟩], droppedPoints := 0 }
  { runs := (run :: t.runs).take maxRuns, ended := false, counter := t.counter + 1 }

/-- `end`. -/
def endRun (t : RouteTracker F T) (at_ : T) : RouteTracker F T :=
  match t.runs with
  | run :: rest =>
    if t.ended then t
    else { t with runs := { run with endedAt := some at_ } :: rest, ended := true }
  | [] => t

def draw [Trig F] (run : Drawn F T) (distance heading : ℤ) : Drawn F T :=
  let step := distance - run.distanceCm
  let middle := Trig.radians
    (ofInt run.headingDeg + ofInt (headingStep run.headingDeg heading) / lit 2 : F)
  let x := run.xCm + -ofInt step * Trig.sin middle
  let y := run.yCm + ofInt step * Trig.cos middle
  let run := { run with
    xCm := x, yCm := y, pathCm := run.pathCm + ofInt |step|
    distanceCm := distance, headingDeg := heading }
  if run.points.length < maxPoints then
    { run with
      points := run.points ++ [⟨Trig.round1 x, Trig.round1 y, distance - run.startCm⟩] }
  else { run with droppedPoints := run.droppedPoints + 1 }

def pose [Trig F] (t : RouteTracker F T) (wrapped heading : ℤ) (at_ : T) : RouteTracker F T :=
  match t.runs with
  | [] => t.newRun wrapped heading at_
  | run :: rest =>
    if t.ended then t.newRun wrapped heading at_
    else
      let distance := unwrapDistance run.distanceCm wrapped
      if wrapped = 0 ∧ heading = 0 ∧ |distance - run.distanceCm| > restartJumpCm then
        (t.endRun at_).newRun wrapped heading at_
      else { t with runs := draw run distance heading :: rest }

end RouteTracker

theorem wrap_eq_emod (x : ℤ) {m : ℤ} (hm : 0 < m) : wrap x m = x % m := by
  have hmod := Int.emod_nonneg x hm.ne'
  have hlt := Int.emod_lt_of_pos x hm
  unfold wrap
  rw [Int.tmod_eq_emod]
  by_cases h : 0 ≤ x ∨ m ∣ x
  · rw [if_pos h, Nat.cast_zero, sub_zero, if_neg (by omega)]
  · rw [if_neg h, if_pos (by omega)]
    omega

theorem wrapPose_fst (cm deg : ℤ) : (wrapPose cm deg).1 = cm % 4096 :=
  wrap_eq_emod cm (by decide)

/-- **The unwrapped step is the true one** if that is less than half a turn. -/
theorem unwrapDistance_eq {previous a b deg : ℤ} (h : previous % 4096 = a % 4096)
    (hlo : -2048 ≤ b - a) (hhi : b - a ≤ 2047) :
    unwrapDistance previous (wrapPose b deg).1 = previous + (b - a) := by
  simp only [unwrapDistance, wrapPose_fst, poseDistanceMod]
  split_ifs <;> omega

/-! ## Delivered poses -/

/-- A pose that was delivered: the true distance since START and heading, and the time. -/
structure Pose (T : Type) where
  cm : ℤ
  deg : ℤ
  time : T

namespace Pose

variable {F T : Type} [CFloat F] [Trig F]

def deliver (t : RouteTracker F T) (p : Pose T) : RouteTracker F T :=
  t.pose (wrapPose p.cm p.deg).1 (wrapPose p.cm p.deg).2 p.time

/-- The next pose is less than half a turn away, and not far away if it reads `(0, 0)`. -/
def Next (p q : Pose T) : Prop :=
  (-2048 ≤ q.cm - p.cm ∧ q.cm - p.cm ≤ 2047) ∧
    (wrapPose q.cm q.deg = (0, 0) → |q.cm - p.cm| ≤ restartJumpCm)

/-- The tracker is in the run `run`, which stands at the pose up to whole turns. -/
def Tracks (t : RouteTracker F T) (run : Drawn F T) (rest : List (Drawn F T)) (p : Pose T) : Prop :=
  t.runs = run :: rest ∧ t.ended = false ∧
    run.distanceCm % 4096 = p.cm % 4096

variable {t : RouteTracker F T}

theorem tracks_first (h : t.runs = [] ∨ t.ended) (p : Pose T) :
    ∃ run, Tracks (deliver t p) run (t.runs.take (maxRuns - 1)) p ∧ run.id = t.counter + 1 := by
  have hnew : deliver t p = t.newRun (wrapPose p.cm p.deg).1 (wrapPose p.cm p.deg).2 p.time := by
    unfold deliver RouteTracker.pose
    split
    · rfl
    · rename_i hruns
      rw [if_pos (h.resolve_left (by simp [hruns]))]
  rw [hnew]
  refine ⟨_, ⟨rfl, rfl, ?_⟩, rfl⟩
  simp only [wrapPose_fst, poseDistanceMod]
  split_ifs <;> omega

theorem draw_fields (run : Drawn F T) (distance heading : ℤ) :
    (RouteTracker.draw run distance heading).distanceCm = distance ∧
      (RouteTracker.draw run distance heading).id = run.id := by
  simp only [RouteTracker.draw]
  split_ifs <;> exact ⟨rfl, rfl⟩

/-- A next pose extends the drawn run. -/
theorem Tracks.deliver {run : Drawn F T} {rest : List (Drawn F T)} {p q : Pose T}
    (h : Tracks t run rest p) (hnext : p.Next q) :
    ∃ run', Tracks (deliver t q) run' rest q ∧ run'.id = run.id ∧
      run'.distanceCm = run.distanceCm + (q.cm - p.cm) := by
  obtain ⟨hruns, hended, hmod⟩ := h
  have hstep : unwrapDistance run.distanceCm (wrapPose q.cm q.deg).1 =
      run.distanceCm + (q.cm - p.cm) := unwrapDistance_eq hmod hnext.1.1 hnext.1.2
  have hstay : ¬((wrapPose q.cm q.deg).1 = 0 ∧ (wrapPose q.cm q.deg).2 = 0 ∧
      |unwrapDistance run.distanceCm (wrapPose q.cm q.deg).1 - run.distanceCm| >
        restartJumpCm) := by
    rintro ⟨h₁, h₂, hfar⟩
    rw [hstep, add_sub_cancel_left] at hfar
    exact hfar.not_ge (hnext.2 (Prod.ext h₁ h₂))
  obtain ⟨hdistance, hid⟩ := draw_fields run
    (unwrapDistance run.distanceCm (wrapPose q.cm q.deg).1) (wrapPose q.cm q.deg).2
  refine ⟨RouteTracker.draw run _ _, ⟨?_, ?_, ?_⟩, hid, hdistance.trans hstep⟩
  · simp only [Pose.deliver, RouteTracker.pose, hruns, hended, Bool.false_eq_true, if_false]
    rw [if_neg hstay]
  · simp only [Pose.deliver, RouteTracker.pose, hruns, hended, Bool.false_eq_true, if_false]
    rw [if_neg hstay]
  · rw [hdistance, hstep]
    omega

/-- So does a run of poses. -/
theorem Tracks.foldl {run : Drawn F T} {rest : List (Drawn F T)} {p : Pose T} {ps : List (Pose T)}
    (h : Tracks t run rest p) (hps : (p :: ps).IsChain Next) :
    ∃ run', Tracks (ps.foldl Pose.deliver t) run' rest ((p :: ps).getLast (by simp)) ∧
      run'.id = run.id ∧
      run'.distanceCm - run.distanceCm = ((p :: ps).getLast (by simp)).cm - p.cm := by
  induction ps generalizing t run p with
  | nil => exact ⟨run, h, rfl, by simp⟩
  | cons q ps ih =>
    obtain ⟨hnext, hchain⟩ := List.isChain_cons_cons.1 hps
    obtain ⟨m, hm, hmid, hmcm⟩ := h.deliver hnext
    obtain ⟨run', h', hid, hcm⟩ := ih hm hchain
    refine ⟨run', ?_, hid.trans hmid, ?_⟩
    · rw [List.getLast_cons_cons]
      exact h'
    · rw [List.getLast_cons_cons]
      omega

/-- **The distance of the route.**  If two poses in a row are less than half a turn of the counter
apart and none reads `(0, 0)` far from the one before, the tracker stays in the run that the first
began, and its distance grows by the true one. -/
theorem route_distance {t : RouteTracker F T} (ht : t.runs = [] ∨ t.ended = true) (p : Pose T)
    {ps : List (Pose T)} (hps : (p :: ps).IsChain Next) :
    ∃ first rest, (deliver t p).runs = first :: rest ∧ first.id = t.counter + 1 ∧
      ∀ done, done <+: ps → ∃ run, (done.foldl deliver (deliver t p)).runs = run :: rest ∧
        (done.foldl deliver (deliver t p)).ended = false ∧ run.id = first.id ∧
        run.distanceCm - first.distanceCm = ((p :: done).getLast (by simp)).cm - p.cm := by
  obtain ⟨first, hfirst, hid⟩ := tracks_first ht p
  refine ⟨first, _, hfirst.1, hid, ?_⟩
  rintro done ⟨later, rfl⟩
  have hchain : (p :: done).IsChain Next := List.IsChain.left_of_append hps
  obtain ⟨run, hrun, hrunid, hcm⟩ := hfirst.foldl hchain
  exact ⟨run, hrun.1, hrun.2.1, hrunid, hcm⟩

/-- A route that is drawn straight ahead. -/
local instance benchTrig : Trig ℚ := ⟨id, fun _ => 0, fun _ => 1, id⟩

/-- Backwards at first, then once around the counter, through a pose that reads `(0, 0)`. -/
theorem route_distance_around :
    ∃ (first run : Drawn ℚ ℕ) (rest : _), ([⟨2000, 0, 1⟩, ⟨4040, 90, 2⟩, ⟨4096, 0, 3⟩].foldl deliver
        (deliver (.init : RouteTracker ℚ ℕ) ⟨-10, 0, 0⟩)).runs = run :: rest ∧
      run.id = first.id ∧ run.distanceCm - first.distanceCm = 4106 := by
  have hps : ([⟨-10, 0, 0⟩, ⟨2000, 0, 1⟩, ⟨4040, 90, 2⟩, ⟨4096, 0, 3⟩] : List (Pose ℕ)).IsChain
      Next := by
    simp only [List.isChain_cons_cons, List.isChain_singleton, Next]
    decide
  obtain ⟨first, rest, -, -, h⟩ :=
    route_distance (t := (.init : RouteTracker ℚ ℕ)) (.inl rfl) ⟨-10, 0, 0⟩ hps
  obtain ⟨run, hruns, -, hid, hcm⟩ := h _ List.prefix_rfl
  exact ⟨first, run, rest, hruns, hid, hcm⟩

end Pose

end RoboticCar.Telemetry.Route
