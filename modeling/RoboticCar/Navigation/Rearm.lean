import RoboticCar.Barcode.Readers
import RoboticCar.Lib.Run

/-!
# One barcode, one letter

After a letter navigation rearms: the readers get nothing until the line is present, no junction is
near and the barcode sensor sees white, over a time and a distance.  `Holds` is the invariant of a
rearming run, and `one_letter` the result between any two letters of a run.
-/

namespace RoboticCar.Navigation

open Lib CFloat Barcode

variable {F D : Type} [CFloat F] [CFloat D] {B : BarcodeReaders}

/-- What the barcode part of navigation keeps from frame to frame. -/
structure RearmState (D : Type) (B : BarcodeReaders) where
  mode : Mode
  rearming : Bool
  anchorValid : Bool
  anchorM : D
  epoch : UInt32
  stable : Bool
  sinceUs : UInt32
  barcode : B.Live
  record : B.Record

namespace Nav

def rearm (n : Nav F D B) : RearmState D B where
  mode := n.mode
  rearming := n.rearming
  anchorValid := n.rearmAnchorValid
  anchorM := n.rearmAnchorM
  epoch := n.rearmEpoch
  stable := n.rearmStable
  sinceUs := n.rearmSinceUs
  barcode := n.barcode
  record := n.barcodeRecord

omit [CFloat F] [CFloat D] in
theorem SensorsOnly.rearm_eq {n m : Nav F D B} (h : n.SensorsOnly m) : m.rearm = n.rearm := by
  rw [h]
  rfl

omit [CFloat F] in
theorem rearm_assess (n : Nav F D B) (frame : SensorFrame) (odometry : Option (OdometrySample D))
    (faultMask : UInt8) (sampleTimeBad : Bool) :
    (n.assess frame odometry faultMask sampleTimeBad).rearm = n.rearm := by
  simp only [assess]
  split <;> rfl

variable {frame : SensorFrame} {odometry : Option (OdometrySample D)}

omit [CFloat F] in
theorem assess_clear {n : Nav F D B} {faultMask : UInt8} {sampleTimeBad : Bool}
    (h : (n.assess frame odometry faultMask sampleTimeBad).currentFaults = .clear) :
    (n.assess frame odometry faultMask sampleTimeBad).odometryAvailable = true ∧
      odometry = some (n.assess frame odometry faultMask sampleTimeBad).odometry := by
  simp only [assess] at h ⊢
  generalize hfresh : Option.filter _ odometry = fresh at h ⊢
  cases fresh with
  | none => split at h <;> simp [Faults.clear] at h
  | some =>
    obtain ⟨hodometry, -⟩ := Option.filter_eq_some_iff.1 hfresh
    split <;> exact ⟨rfl, hodometry⟩

omit [CFloat F] in
theorem processHealth_active {n : Nav F D B} {faultMask : UInt8} {sampleTimeBad : Bool}
    (h : (n.processHealth frame odometry faultMask sampleTimeBad).2.lifecycle = .active) :
    let n' := (n.processHealth frame odometry faultMask sampleTimeBad).2
    n'.rearm = n.rearm ∧ n'.odometryAvailable ∧ odometry = some n'.odometry := by
  simp only [processHealth] at h ⊢
  split_ifs at h ⊢ with hfault hlatched
  · cases h
  · cases hlatched.symm.trans h
  · have hclear := not_not.1 fun hne => hfault ⟨h, hne⟩
    exact ⟨rearm_assess _ _ _ _ _, assess_clear hclear⟩

/-- A frame that leaves the run active keeps the rearming part, and its odometry is that of the
call. -/
theorem observe_active {n : Nav F D B} (h : (n.observe frame odometry).2.lifecycle = .active) :
    n.lifecycle = .active ∧ (n.observe frame odometry).2.rearm = n.rearm ∧
      (n.observe frame odometry).2.odometryAvailable = true ∧
      odometry = some (n.observe frame odometry).2.odometry := by
  obtain ⟨hlifecycle | ⟨-, hlatched⟩, -⟩ := latches_observe n frame odometry
  · obtain ⟨hrearm, hodometry⟩ := processHealth_active (n := ((n.enterFrame frame).processSensors
      frame (n.frameTimeBad frame) (.const ⟨false, 0, .unknown⟩)).nav) h
    exact ⟨hlifecycle ▸ h, hrearm.trans (processSensors_only _ _ _ _).rearm_eq, hodometry⟩
  · cases h.symm.trans hlatched

end Nav

/-! ## The gate -/

def Clear (line : LineObservation) (barcode : ProcessedSensor) (available : Bool) : Prop :=
  line.valid = true ∧ line.present = true ∧ line.junctionCandidate = false ∧
    barcode.valid = true ∧ barcode.surface = .white ∧ available = true

namespace Nav

/-- What `rearm_ready` does once the anchor is there. -/
inductive Readied (n : Nav F D B) (frame : SensorFrame) (out : NavOutput F D) :
    Bool × Nav F D B → Prop
  | unclear (h : ¬Clear out.line out.sensor.barcode n.odometryAvailable) :
      Readied n frame out (false, { n with rearmStable := false })
  | waits (h : Clear out.line out.sensor.barcode n.odometryAvailable) (since : UInt32)
      (hsince : since = if n.rearmStable then n.rearmSinceUs else frame.timestampUs) :
      Readied n frame out (false, { n with rearmSinceUs := since, rearmStable := true })
  | ready (h : Clear out.line out.sensor.barcode n.odometryAvailable) (since : UInt32)
      (hsince : since = if n.rearmStable then n.rearmSinceUs else frame.timestampUs)
      (hepoch : n.odometry.epoch = n.rearmEpoch)
      (hstable : n.config.rearmStableUs ≤ frame.timestampUs - since)
      (hfar : lt (absF (n.odometry.centreM - n.rearmAnchorM)) n.config.rearmDistanceM = false) :
      Readied n frame out
        (true, { n with rearmSinceUs := since, rearmStable := true, rearming := false })

omit [CFloat F] in
theorem rearmReady_readied {n : Nav F D B} (hanchor : n.rearmAnchorValid)
    (frame : SensorFrame) (out : NavOutput F D) :
    Readied n frame out (n.rearmReady frame out) := by
  by_cases hclear : Clear out.line out.sensor.barcode n.odometryAvailable
  · obtain ⟨hvalid, hpresent, hjunction, hsensor, hwhite, havailable⟩ := id hclear
    rw [rearmReady]
    dsimp only
    rw [if_neg (by simp [hvalid, hpresent, hjunction, hsensor, hwhite, havailable]),
      if_pos hanchor]
    by_cases hs : n.rearmStable
    · have hn (b : Bool) : { n with rearming := b } =
          { n with rearmSinceUs := n.rearmSinceUs, rearmStable := true, rearming := b } := by
        rw [← hs]
      rw [if_pos hs]
      split_ifs with h
      · exact (congrArg (Prod.mk false) (hn n.rearming)) ▸
          .waits hclear n.rearmSinceUs (if_pos hs).symm
      · simp only [not_or, not_not, UInt32.not_lt, Bool.not_eq_true] at h
        exact (hn false) ▸ .ready hclear n.rearmSinceUs (if_pos hs).symm h.1 h.2.1 h.2.2
    · rw [if_neg hs]
      split_ifs with h
      · exact .waits hclear frame.timestampUs (if_neg hs).symm
      · simp only [not_or, not_not, UInt32.not_lt, Bool.not_eq_true] at h
        exact .ready hclear frame.timestampUs (if_neg hs).symm h.1 h.2.1 h.2.2
  · have : rearmReady n frame out = (false, { n with rearmStable := false }) := by
      rw [rearmReady]
      rw [if_pos]
      rw [Bool.not_eq_true', ← Bool.not_eq_true]
      intro h
      exact hclear (by simpa [Clear, and_assoc] using h)
    exact this ▸ .unclear hclear

def SameOdometry (n n' : Nav F D B) : Prop :=
  n'.odometryAvailable = n.odometryAvailable ∧ n'.odometry = n.odometry

omit [CFloat F] [CFloat D] in
theorem SameOdometry.trans {n m k : Nav F D B} (h : n.SameOdometry m) (h' : m.SameOdometry k) :
    n.SameOdometry k :=
  ⟨h'.1.trans h.1, h'.2.trans h.2⟩

omit [CFloat F] [CFloat D] in
theorem BarcodeOnly.sameOdometry {n m : Nav F D B} (h : n.BarcodeOnly m) : n.SameOdometry m := by
  rw [h]
  exact ⟨rfl, rfl⟩

omit [CFloat F] [CFloat D] in
/-- A letter comes from the live decoder, else from the record reader, and none is held back. -/
theorem readBarcode_spec {n : Nav F D B} (hheld : ∀ r, n.barcodeHeld ≠ .decoded r) (t : UInt32)
    (barcode : ProcessedSensor) :
    (∀ r, (n.readBarcode t barcode).2.barcodeHeld ≠ .decoded r) ∧
      ∀ result, (n.readBarcode t barcode).1 = .decoded result →
        (B.update n.barcode t (barcode.valid && barcode.surface ≠ .unknown)
            (barcode.surface = .black)).1 = .decoded result ∨
          (∀ r, (B.update n.barcode t (barcode.valid && barcode.surface ≠ .unknown)
            (barcode.surface = .black)).1 ≠ .decoded r) ∧
          (B.recordUpdate n.barcodeRecord n.config.barcode t barcode.valid barcode.darkness).1 =
            .decoded result := by
  unfold readBarcode
  generalize B.update n.barcode t _ _ = live
  generalize B.recordUpdate n.barcodeRecord n.config.barcode t barcode.valid barcode.darkness =
    record
  obtain ⟨live, d⟩ := live
  obtain ⟨record, r⟩ := record
  dsimp only
  split
  · exact ⟨nofun, fun result h => .inl h⟩
  · rename_i hlive
    exact ⟨nofun, fun result h => .inr ⟨fun r hr => hlive r hr, h⟩⟩
  · rename_i hlive hrecord
    have hheld' (q : BarcodeResult) :
        (if live ≠ .none ∧ B.recordActive r then live else n.barcodeHeld) ≠ .decoded q := by
      split_ifs
      exacts [hlive q, hheld q]
    have hstatus (q : BarcodeResult) :
        (if live ≠ .none ∧ !B.recordActive r then live else .none) ≠ .decoded q := by
      split_ifs
      exacts [hlive q, nofun]
    generalize (if live ≠ .none ∧ B.recordActive r then live else n.barcodeHeld) = held at *
    generalize (if live ≠ .none ∧ !B.recordActive r then live else .none) = status at *
    by_cases hfailed : record ≠ .none ∧ !B.collecting d ∧ !B.pending d
    · rw [if_pos hfailed]
      refine ⟨nofun, fun result h => ?_⟩
      split_ifs at h
      exacts [absurd h (hheld' result), absurd h (hrecord result)]
    · rw [if_neg hfailed]
      split_ifs
      exacts [⟨nofun, fun result h => absurd h (hheld' result)⟩,
        ⟨hheld', fun result h => absurd h (hstatus result)⟩]

def feeds (n : Nav F D B) (frame : SensorFrame) (odometry : Option (OdometrySample D)) : Bool :=
  let seen := n.observe frame odometry
  seen.2.mode = .track && seen.2.config.acquisition.enabledMask &&& SensorId.bit .barcode ≠ 0 &&
    (seen.2.rearmGate frame seen.1).1

end Nav

/-- A processed frame: the arguments and the output of `s3_navigation_process`. -/
structure Processed (F D : Type) where
  frame : SensorFrame
  odometry : Option (OdometrySample D)
  out : NavOutput F D

def Processed.Clear (p : Processed F D) : Prop :=
  Navigation.Clear p.out.line p.out.sensor.barcode p.out.odometryAvailable

/-- The calls of a run: a frame, and whether it reached the readers; a mode, and whether it is
another one. -/
inductive NavCall (F D : Type)
  | processed (p : Processed F D) (fed : Bool)
  | mode (mode : Mode) (changed : Bool)

def NavCall.Idle : NavCall F D → Prop
  | .processed _ fed => fed = false
  | .mode _ changed => changed = false

def NavCall.Unfed : NavCall F D → Prop
  | .processed _ fed => fed = false
  | .mode _ _ => True

def frames : List (NavCall F D) → List (Processed F D)
  | [] => []
  | .processed p _ :: l => p :: frames l
  | .mode _ _ :: l => frames l

/-- One call of `s3_navigation_process` or `s3_navigation_set_mode`. -/
inductive NavStep : Nav F D B → NavCall F D → Nav F D B → Prop
  | process {n n' : Nav F D B} {p : Processed F D}
      (h : n.process p.frame p.odometry = some (p.out, n')) :
      NavStep n (.processed p (n.feeds p.frame p.odometry)) n'
  | mode (n : Nav F D B) (mode : Mode) :
      NavStep n (.mode mode ((n.setMode mode).2.mode ≠ n.mode)) (n.setMode mode).2

/-- What an output says about the frame. -/
structure Shown (p : Processed F D) (seen : NavOutput F D) (status : BarcodeStatus)
    (n' : Nav F D B) : Prop where
  clear : p.Clear ↔ Clear seen.line seen.sensor.barcode n'.odometryAvailable
  sensor : p.out.sensor = seen.sensor
  event : p.out.events.barcode = true → n'.lifecycle = .active ∧ ∃ result,
    status = .decoded result ∧ p.out.barcodeStatus = .decoded result

theorem process_shown {n n' : Nav F D B} {p : Processed F D}
    (h : n.process p.frame p.odometry = some (p.out, n')) :
    let seen := n.observe p.frame p.odometry
    let read := seen.2.processBarcode p.frame seen.1
    n' = read.2 ∧ Shown p seen.1 read.1 n' := by
  simp only [Nav.process] at h
  split at h
  · cases h
  · obtain ⟨hout, rfl⟩ := Prod.mk.inj (Option.some.inj h)
    dsimp only
    generalize (n.observe p.frame p.odometry).2.processBarcode p.frame
      (n.observe p.frame p.odometry).1 = read at hout ⊢
    obtain ⟨status, n'⟩ := read
    refine ⟨rfl, ?_, ?_, ?_⟩
    · rw [Processed.Clear, ← hout]
      simp only [Nav.report]
      split
      · split <;> rfl
      · rfl
    · rw [← hout]
      simp only [Nav.report]
      split
      · split <;> rfl
      · rfl
    · rw [← hout]
      simp only [Nav.report]
      split
      · rename_i hactive
        split
        · rename_i result
          exact fun _ => ⟨hactive.1, result, rfl, rfl⟩
        · simp [Nav.observe, Events.clear]
      · simp [Nav.observe, Events.clear]

/-! ## The invariant of a rearming run -/

def Processed.time (p : Processed F D) : UInt32 := p.frame.timestampUs

omit [CFloat F] [CFloat D] in
theorem frames_append (l l' : List (NavCall F D)) : frames (l ++ l') = frames l ++ frames l' := by
  induction l with
  | nil => rfl
  | cons x l ih => cases x <;> simp [frames, ih]

def Cleared (n : Nav F D readers) : Prop :=
  Live.reset n.barcode = n.barcode ∧ n.barcodeRecord = ({} : Record)

/-- The calls end with frames that rearming counts, the first of them at `since`. -/
def Steady (l : List (NavCall F D)) (since : UInt32) : Prop :=
  ∃ old tail q, l = old ++ tail ∧ (frames tail).getLast? = some q ∧ (∀ p ∈ frames tail, p.Clear) ∧
    q.time - since = UInt32.ofNat (Signal.duration Processed.time (frames tail))

/-- The run has been rearming through the calls `l`, since it was at `origin`. -/
structure Holds (origin : OdometrySample D) (l : List (NavCall F D)) (n : Nav F D readers) :
    Prop where
  active : n.lifecycle = .active
  available : n.odometryAvailable = true
  rearming : n.rearming = true
  anchorValid : n.rearmAnchorValid = true
  anchorM : n.rearmAnchorM = origin.centreM
  epoch : n.rearmEpoch = origin.epoch
  cleared : Cleared n
  idle : ∀ x ∈ l, x.Idle
  enabled : n.rearmStable = true → n.mode = .track ∧
    n.config.acquisition.enabledMask &&& SensorId.bit .barcode ≠ 0
  steady : n.rearmStable = true → Steady l n.rearmSinceUs

/-- Rearming from `origin` is over with `p`: line present, no junction near and white over the time
of `held`, and the car is away from `origin`. -/
structure Rearms (c : NavConfig F D) (origin : OdometrySample D) (held : List (NavCall F D))
    (p : Processed F D) : Prop where
  steady : ∃ old tail, held = old ++ tail ∧ (∀ q ∈ frames tail ++ [p], q.Clear) ∧
    c.rearmStableUs.toNat ≤ Signal.duration Processed.time (frames tail ++ [p])
  far : ∃ o, p.odometry = some o ∧ o.epoch = origin.epoch ∧
    lt (absF (o.centreM - origin.centreM)) c.rearmDistanceM = false

variable {origin : OdometrySample D} {l : List (NavCall F D)} {n n' : Nav F D readers}
  {p : Processed F D}

omit [CFloat F] [CFloat D] in
theorem Holds.steady_next (h : Holds origin l n) (hp : p.Clear) {since : UInt32}
    (hsince : since = if n.rearmStable then n.rearmSinceUs else p.frame.timestampUs) :
    ∃ old tail, l = old ++ tail ∧ (∀ q ∈ frames tail ++ [p], q.Clear) ∧
      p.time - since = UInt32.ofNat (Signal.duration Processed.time (frames tail ++ [p])) := by
  by_cases hstable : n.rearmStable
  · obtain ⟨old, tail, q, hl, hq, hclear, htime⟩ := h.steady hstable
    rw [if_pos hstable] at hsince
    refine ⟨old, tail, hl, ?_, Signal.reading_snoc hq (hsince ▸ htime)⟩
    simpa [or_imp, forall_and] using ⟨hclear, hp⟩
  · rw [if_neg hstable] at hsince
    refine ⟨l, [], by simp, by simpa [frames] using hp, ?_⟩
    rw [hsince]
    exact sub_self _

variable {x : NavCall F D}

omit [CFloat F] [CFloat D] in
theorem Holds.next (h : Holds origin l n) (hactive : n'.lifecycle = .active)
    (havailable : n'.odometryAvailable) (hconfig : n'.config = n.config) (stable : Bool)
    (since : UInt32) (hrearm : n'.rearm = { n.rearm with stable := stable, sinceUs := since })
    (henabled : stable → n.mode = .track ∧
      n.config.acquisition.enabledMask &&& SensorId.bit .barcode ≠ 0)
    (hx : x.Idle) (hsteady : stable → Steady (l ++ [x]) since) :
    Holds origin (l ++ [x]) n' := by
  simp only [Nav.rearm, RearmState.mk.injEq] at hrearm
  obtain ⟨hmode, hrearming, hvalid, hanchor, hepoch, hstable, hsince, hbarcode, hrecord⟩ := hrearm
  refine ⟨hactive, havailable, hrearming.trans h.rearming, hvalid.trans h.anchorValid,
    hanchor.trans h.anchorM, hepoch.trans h.epoch, ?_, ?_, ?_, ?_⟩
  · rw [Cleared, hbarcode, hrecord]
    exact h.cleared
  · simpa [or_imp, forall_and] using ⟨h.idle, hx⟩
  · rw [hstable, hmode, hconfig]
    exact henabled
  · rw [hstable, hsince]
    exact hsteady

/-- A frame keeps the rearm state or rearms. -/
theorem Holds.process (h : Holds origin l n)
    (hp : n.process p.frame p.odometry = some (p.out, n')) (hactive : n'.lifecycle = .active) :
    n.feeds p.frame p.odometry = false ∧ p.out.events.barcode = false ∧
        Holds origin (l ++ [.processed p false]) n' ∨
      n.feeds p.frame p.odometry ∧ Rearms n.config origin l p := by
  obtain ⟨hn', hshown⟩ := process_shown hp
  have hkeeps := (Nav.processBarcode_only (n.observe p.frame p.odometry).2 p.frame
    (n.observe p.frame p.odometry).1).keeps
  have hconfig := (Nav.latches_observe n p.frame p.odometry).2.1
  obtain ⟨-, hrearm, havailable, hodometry⟩ := Nav.observe_active (hkeeps.1 ▸ hn' ▸ hactive)
  unfold Nav.feeds
  generalize n.observe p.frame p.odometry = seen at *
  obtain ⟨out, m⟩ := seen
  have hm := hrearm
  simp only [Nav.rearm, RearmState.mk.injEq] at hm
  obtain ⟨hmode, hrearming, hvalid, hanchor, hepoch, hstable, hsince, -, -⟩ := hm
  -- what a call without a letter reports
  have hnone {q : Nav F D readers} (hq : m.processBarcode p.frame out = (.none, q)) :
      n' = q ∧ p.out.events.barcode = false := by
    rw [hq] at hn' hshown
    refine ⟨hn', Bool.eq_false_iff.2 fun hevent => ?_⟩
    obtain ⟨-, result, hresult, -⟩ := hshown.event hevent
    cases hresult
  by_cases hoff : m.mode ≠ .track ∨
      m.config.acquisition.enabledMask &&& SensorId.bit .barcode = 0
  · -- the barcode is not processed, and rearming has not counted any frame
    obtain ⟨rfl, hevent⟩ := hnone (q := m) (by simp [Nav.processBarcode, hoff])
    have hoff' : n.rearmStable = false := by
      refine Bool.eq_false_iff.2 fun hs => ?_
      obtain ⟨htrack, henabled⟩ := h.enabled hs
      rcases hoff with hoff | hoff
      · exact hoff (hmode.trans htrack)
      · exact henabled (hconfig ▸ hoff)
    refine .inl ⟨by rcases hoff with hoff | hoff <;> simp [hoff], hevent, ?_⟩
    refine h.next hactive havailable hconfig false n.rearmSinceUs ?_ (by simp) rfl (by simp)
    rw [hrearm, ← hoff']
    rfl
  · have hactive' : m.lifecycle = .active := hkeeps.1 ▸ hn' ▸ hactive
    have hgate : m.rearmGate p.frame out = m.rearmReady p.frame out :=
      if_pos ⟨hactive', hrearming.trans h.rearming⟩
    have hread {q : Nav F D readers} (hq : m.rearmReady p.frame out = (false, q)) :
        m.processBarcode p.frame out = (.none, q) := by
      simp [Nav.processBarcode, hoff, hgate, hq]
    have hclear (hc : Clear out.line out.sensor.barcode m.odometryAvailable)
        (ha : n'.odometryAvailable = m.odometryAvailable) : p.Clear :=
      hshown.clear.2 (ha.symm ▸ hc)
    rw [not_or, not_not] at hoff
    have hfeeds : (decide (m.mode = .track) &&
        decide (m.config.acquisition.enabledMask &&& SensorId.bit .barcode ≠ 0) &&
        (m.rearmGate p.frame out).1) = (m.rearmReady p.frame out).1 := by
      simp [hoff, hgate]
    rw [hfeeds]
    have hready := Nav.rearmReady_readied (hvalid.trans h.anchorValid) p.frame out
    generalize hgo : m.rearmReady p.frame out = o at hready
    cases hready with
    | unclear =>
      obtain ⟨rfl, hevent⟩ := hnone (hread hgo)
      refine .inl ⟨rfl, hevent, h.next hactive havailable hconfig false n.rearmSinceUs ?_ (by simp)
        rfl (by simp)⟩
      rw [← hrearm, ← hsince]
      rfl
    | waits hc since hs =>
      obtain ⟨rfl, hevent⟩ := hnone (hread hgo)
      rw [hstable, hsince] at hs
      obtain ⟨old, tail, hl, hcl, htime⟩ := h.steady_next (hclear hc rfl) hs
      refine .inl ⟨rfl, hevent, h.next hactive havailable hconfig true since ?_
        (fun _ => ⟨hmode ▸ hoff.1, hconfig ▸ hoff.2⟩) rfl fun _ => ?_⟩
      · rw [← hrearm]
        rfl
      · refine ⟨old, tail ++ [.processed p false], p, by rw [hl, List.append_assoc], ?_⟩
        rw [frames_append]
        exact ⟨by simp [frames], hcl, htime⟩
    | ready hc since hs he htime hfar =>
      have hsame := (m.processBarcode_only p.frame out).sameOdometry
      rw [hstable, hsince] at hs
      obtain ⟨old, tail, hl, hcl, hduration⟩ := h.steady_next (hclear hc (hn' ▸ hsame.1)) hs
      refine .inr ⟨rfl, ⟨old, tail, hl, hcl, ?_⟩, m.odometry, hodometry, ?_, ?_⟩
      · have hle := UInt32.le_iff_toNat_le.1 htime
        have hmod := congrArg UInt32.toNat hduration
        rw [UInt32.toNat_ofNat'] at hmod
        rw [← hconfig]
        exact hle.trans (hmod.le.trans (Nat.mod_le _ _))
      · rw [he, hepoch, h.epoch]
      · rw [← h.anchorM, ← hanchor, ← hconfig]
        exact hfar

omit [CFloat F] [CFloat D] in
theorem holds_beginRearm {m : Nav F D readers} (hactive : m.lifecycle = .active)
    (havailable : m.odometryAvailable) : Holds m.odometry [] m.beginRearm where
  active := hactive
  available := havailable
  rearming := rfl
  anchorValid := havailable
  anchorM := rfl
  epoch := rfl
  cleared := ⟨rfl, rfl⟩
  idle := by simp
  enabled h := Bool.noConfusion (h : false)
  steady h := Bool.noConfusion (h : false)

omit [CFloat F] in
theorem Holds.mode (h : Holds origin l n) (mode : Mode) :
    (n.setMode mode).2 = n ∨
      (n.setMode mode).2.mode ≠ n.mode ∧
        Holds (n.setMode mode).2.odometry [] (n.setMode mode).2 := by
  simp only [Nav.setMode]
  split_ifs with hconfigured hmode
  · exact .inl rfl
  · exact .inl rfl
  · refine .inr ⟨fun heq => hmode heq.symm, ?_⟩
    have hbegin := holds_beginRearm (m := { Nav.resetBarcode { n with line := n.line.reset } with
      captureDistance := .zero }) h.active h.available
    exact { hbegin with enabled := (by rintro ⟨⟩), steady := (by rintro ⟨⟩) }
  · exact absurd h.active ‹_›

/-! ## A letter -/

/-- What the readers need: a sane live decoder, no letter held back, the default configuration. -/
structure Ready (n : Nav F D readers) : Prop where
  sane : Live.Sane n.barcode
  held : ∀ result, n.barcodeHeld ≠ .decoded result
  config : n.config.barcode = defaults

namespace Ready

omit [CFloat F] in
theorem setMode (h : Ready n) (mode : Mode) : Ready (n.setMode mode).2 := by
  simp only [Nav.setMode]
  split_ifs
  · exact h
  · exact h
  · exact ⟨Live.sane_reset _, (by rintro _ ⟨⟩), h.config⟩
  · exact ⟨Live.sane_reset _, (by rintro _ ⟨⟩), h.config⟩

omit [CFloat F] in
theorem rearmGate (h : Ready n) (frame : SensorFrame) (out : NavOutput F D) :
    Ready (n.rearmGate frame out).2 := by
  simp only [Nav.rearmGate, Nav.rearmReady]
  split_ifs <;> exact { h with }

omit [CFloat F] [CFloat D] in
theorem readBarcode (h : Ready n) (t : UInt32) (barcode : ProcessedSensor) :
    Ready (n.readBarcode t barcode).2 := by
  refine ⟨?_, (Nav.readBarcode_spec h.held t barcode).1, ?_⟩
  · have hupdate := Live.sane_update h.sane t (barcode.valid && barcode.surface ≠ .unknown)
      (barcode.surface = .black)
    simp only [Nav.readBarcode]
    split
    · exact hupdate
    · exact Live.sane_reset _
    · split_ifs <;> exact hupdate
  · rw [(n.readBarcode_only t barcode).keeps.2.1]
    exact h.config

omit [CFloat F] in
theorem captureBarcode (h : Ready n) (wasCollecting active : Bool) (status : BarcodeStatus) :
    Ready (n.captureBarcode wasCollecting active status) := by
  simp only [Nav.captureBarcode]
  split_ifs <;> first
    | exact { h with }
    | exact ⟨Live.sane_reset _, (by rintro _ ⟨⟩), h.config⟩

omit [CFloat F] in
theorem processBarcode (h : Ready n) (frame : SensorFrame) (out : NavOutput F D) :
    Ready (n.processBarcode frame out).2 := by
  simp only [Nav.processBarcode]
  split
  · exact h
  · split
    · exact h.rearmGate frame out
    · exact ((h.rearmGate frame out).readBarcode _ _).captureBarcode _ _ _

theorem observe (h : Ready n) (frame : SensorFrame) (odometry : Option (OdometrySample D)) :
    Ready (n.observe frame odometry).2 := by
  have hsensors : Ready ((n.enterFrame frame).processSensors frame (n.frameTimeBad frame)
      (.const ⟨false, 0, .unknown⟩)).nav := by
    refine List.foldlRecOn (motive := fun s : Nav.Sampling F D readers => Ready s.nav)
      SensorId.all _ { h with } fun s hs i _ => ?_
    simp only [Nav.processSensor]
    split
    · split <;> exact { hs with }
    · exact { hs with }
  generalize hs : (n.enterFrame frame).processSensors frame (n.frameTimeBad frame)
    (.const ⟨false, 0, .unknown⟩) = s at hsensors
  have hassess : Ready (s.nav.assess frame odometry s.faultMask s.timeBad) := by
    simp only [Nav.assess]
    split <;> exact { hsensors with }
  have hhealth : Ready (s.nav.processHealth frame odometry s.faultMask s.timeBad).2 := by
    simp only [Nav.processHealth]
    split_ifs
    · exact ⟨Live.sane_reset _, (by rintro _ ⟨⟩), hassess.config⟩
    · exact { hassess with }
    · exact hassess
  simp only [Nav.observe, hs]
  exact { hhealth with }

theorem step (h : Ready n) {x : NavCall F D} (hx : NavStep n x n') : Ready n' := by
  cases hx with
  | process hp => exact (process_shown hp).1 ▸ (h.observe _ _).processBarcode _ _
  | mode => exact h.setMode _

end Ready

def liveRead (n : Nav F D readers) (p : Processed F D) : BarcodeStatus :=
  (Live.update n.barcode (p.frame.sensor.get .barcode).timestampUs
    (p.out.sensor.barcode.valid && p.out.sensor.barcode.surface ≠ .unknown)
    (p.out.sensor.barcode.surface = .black)).1

def recordRead (n : Nav F D readers) (p : Processed F D) : BarcodeStatus :=
  (Record.update n.barcodeRecord n.config.barcode (p.frame.sensor.get .barcode).timestampUs
    p.out.sensor.barcode.valid p.out.sensor.barcode.darkness).1

/-- The letter of the output is that of one reader, the live decoder if it has one. -/
def ReportsOne (n : Nav F D readers) (p : Processed F D) : Prop :=
  ∃ result, p.out.barcodeStatus = .decoded result ∧ (liveRead n p = .decoded result ∨
    (∀ r, liveRead n p ≠ .decoded r) ∧ recordRead n p = .decoded result)

omit [CFloat F] in
theorem captureBarcode_letter (m : Nav F D readers) (result : BarcodeResult) :
    ∃ q : Nav F D readers, m.SameOdometry q ∧ q.lifecycle = m.lifecycle ∧
      m.captureBarcode true true (.decoded result) = q.beginRearm := by
  unfold Nav.captureBarcode
  simp only [Bool.not_true, Bool.false_eq_true, false_and, ↓reduceIte, ne_eq, reduceCtorEq,
    not_false_eq_true, and_self]
  split_ifs
  · refine ⟨_, ?_, ?_, rfl⟩
    exacts [⟨rfl, rfl⟩, rfl]
  · exact ⟨m, ⟨rfl, rfl⟩, rfl, rfl⟩

omit [CFloat F] in
theorem rearmGate_fields (m : Nav F D readers) (frame : SensorFrame) (out : NavOutput F D) :
    (m.rearmGate frame out).2.barcode = m.barcode ∧
      (m.rearmGate frame out).2.barcodeRecord = m.barcodeRecord := by
  simp only [Nav.rearmGate, Nav.rearmReady]
  split_ifs <;> exact ⟨rfl, rfl⟩

/-- **A letter.**  It is fed to the readers, comes from one of them, and begins the rearming. -/
theorem Ready.letter (h : Ready n) (hp : n.process p.frame p.odometry = some (p.out, n'))
    (hevent : p.out.events.barcode) :
    n.feeds p.frame p.odometry ∧ ReportsOne n p ∧ Holds n'.odometry [] n' := by
  obtain ⟨hn', hshown⟩ := process_shown hp
  obtain ⟨hactive, result, hresult, hstatus⟩ := hshown.event hevent
  have hkeeps := (Nav.processBarcode_only (n.observe p.frame p.odometry).2 p.frame
    (n.observe p.frame p.odometry).1).keeps
  have hm : Ready (n.observe p.frame p.odometry).2 := h.observe _ _
  have hconfig := (Nav.latches_observe n p.frame p.odometry).2.1
  have hlifecycle := hkeeps.1.symm.trans (hn' ▸ hactive)
  obtain ⟨-, hrearm, havailable, -⟩ := Nav.observe_active hlifecycle
  have hsensor := hshown.sensor
  unfold Nav.feeds
  generalize n.observe p.frame p.odometry = seen at *
  obtain ⟨out, m⟩ := seen
  unfold Nav.processBarcode at hn' hresult
  dsimp only at hn' hresult
  split_ifs at hn' hresult with hoff hgate
  obtain ⟨hbarcode, hrecord⟩ := rearmGate_fields m p.frame out
  have hodometry := (m.rearmGate_only p.frame out).sameOdometry
  have hgateKeeps := (m.rearmGate_only p.frame out).keeps.1
  have hq := hm.rearmGate p.frame out
  have hread := (Nav.readBarcode_spec hq.held _ _).2 result hresult
  -- one of the readers was in the middle of a barcode
  have hwas : (readers.collecting (m.rearmGate p.frame out).2.barcode ||
      readers.recordActive (m.rearmGate p.frame out).2.barcodeRecord) := by
    change (Live.collecting _ || Record.active _) = true
    rcases hread with hlive | ⟨-, hrec⟩
    · rw [Live.collecting_of_decoded hq.sane hlive, Bool.true_or]
    · rw [Record.active_of_decoded (by rw [hq.config]; decide) hrec, Bool.or_true]
  rw [hwas, hresult, decide_eq_true hlifecycle] at hn'
  obtain ⟨q, hsame, hqlife, hcapture⟩ := captureBarcode_letter
    ((m.rearmGate p.frame out).2.readBarcode
      (p.frame.sensor.get .barcode).timestampUs out.sensor.barcode).2 result
  rw [hcapture] at hn'
  subst hn'
  refine ⟨?_, ⟨result, hstatus, ?_⟩, ?_⟩
  · rw [not_or, not_not] at hoff
    simpa [hoff] using hgate
  · simp only [Nav.rearm, RearmState.mk.injEq] at hrearm
    obtain ⟨-, -, -, -, -, -, -, hb, hr⟩ := hrearm
    rw [hbarcode, hrecord, (m.rearmGate_only p.frame out).keeps.2.1, hb, hr, hconfig] at hread
    rw [liveRead, recordRead, hsensor]
    exact hread
  · have hodometry := hodometry.trans ((Nav.readBarcode_only _ _ _).sameOdometry.trans hsame)
    have hactive' := hqlife.trans ((Nav.readBarcode_only _ _ _).keeps.1.trans hgateKeeps)
    exact holds_beginRearm (hactive'.trans hlifecycle) (hodometry.1.trans havailable)

/-! ## Between two letters -/

/-- Where rearming began: with the letter, or with a change of the mode since then. -/
def Begins (older : List (NavCall F D)) : Prop :=
  older = [] ∨ ∃ older' mode, older = older' ++ [.mode mode true]

/-- After a letter the readers get nothing before `p`, where rearming is over and both start anew.
-/
def RearmsFirst (n₀ : Nav F D readers) (l : List (NavCall F D)) : Prop :=
  ∃ (older held : List (NavCall F D)) (p : Processed F D) (rest : List (NavCall F D))
      (begun n : Nav F D readers), l = older ++ held ++ .processed p true :: rest ∧
    (∀ x ∈ older, x.Unfed) ∧ (∀ x ∈ held, x.Idle) ∧ Begins older ∧
    Run.Path NavStep n₀ older begun ∧ Run.Path NavStep begun held n ∧ Cleared n ∧
    Rearms n₀.config begun.odometry held p

def StillRearms (n₀ : Nav F D readers) (l : List (NavCall F D)) (n : Nav F D readers) : Prop :=
  ∃ (older held : List (NavCall F D)) (begun : Nav F D readers), l = older ++ held ∧
    (∀ x ∈ older, x.Unfed) ∧ Begins older ∧ Run.Path NavStep n₀ older begun ∧
    Run.Path NavStep begun held n ∧ Holds begun.odometry held n

omit [CFloat F] [CFloat D] in
theorem NavCall.Idle.unfed (h : x.Idle) : x.Unfed := by
  cases x with
  | processed => exact h
  | mode => trivial

theorem NavStep.keeps (h : NavStep n x n') :
    n'.config = n.config ∧ (n'.lifecycle = .active → n.lifecycle = .active) := by
  cases h with
  | process hp =>
    obtain ⟨⟨hlifecycle | ⟨hactive, -⟩, hconfig, -⟩, -⟩ := Nav.process_latches hp
    · exact ⟨hconfig, fun h => hlifecycle ▸ h⟩
    · exact ⟨hconfig, fun _ => hactive⟩
  | mode mode =>
    obtain ⟨hlifecycle, hconfig, -⟩ := Nav.keeps_setMode n mode
    exact ⟨hconfig, fun h => hlifecycle ▸ h⟩

omit [CFloat F] [CFloat D] in
theorem Holds.same_mode (h : Holds origin l n) (mode : Mode) :
    Holds origin (l ++ [.mode mode false]) n := by
  refine h.next h.active h.available rfl n.rearmStable n.rearmSinceUs rfl h.enabled rfl fun hs => ?_
  obtain ⟨old, tail, q, rfl, hq, hclear, htime⟩ := h.steady hs
  refine ⟨old, tail ++ [.mode mode false], q, by rw [List.append_assoc], ?_⟩
  rw [frames_append, show frames [NavCall.mode (F := F) (D := D) mode false] = [] from rfl,
    List.append_nil]
  exact ⟨hq, hclear, htime⟩

variable {n₀ : Nav F D readers}

theorem StillRearms.step (h : StillRearms n₀ l n) (hconfig : n.config = n₀.config)
    (hx : NavStep n x n') (hactive : n'.lifecycle = .active) :
    StillRearms n₀ (l ++ [x]) n' ∧ (∀ p fed, x = .processed p fed → p.out.events.barcode = false) ∨
      RearmsFirst n₀ (l ++ [x]) := by
  obtain ⟨older, held, begun, rfl, hunfed, hbegins, holder, hheld, hholds⟩ := h
  have hpath := hheld.snoc hx
  cases hx with
  | process hp =>
    rcases hholds.process hp hactive with ⟨hfed, hevent, hnext⟩ | ⟨hfed, hrearms⟩
    · rw [hfed] at hpath ⊢
      refine .inl
        ⟨⟨older, _, begun, List.append_assoc .., hunfed, hbegins, holder, hpath, hnext⟩, ?_⟩
      rintro p fed ⟨⟩
      exact hevent
    · rw [hfed]
      exact .inr ⟨older, held, _, [], begun, n, rfl, hunfed, hholds.idle, hbegins, holder, hheld,
        hholds.cleared, hconfig ▸ hrearms⟩
  | mode mode =>
    refine .inl ⟨?_, by simp⟩
    rcases hholds.mode mode with heq | ⟨hne, hnew⟩
    · have hsame : decide ((n.setMode mode).2.mode ≠ n.mode) = false := by
        rw [heq]
        simp
      rw [hsame, heq] at hpath
      rw [hsame, heq]
      exact ⟨older, _, begun, List.append_assoc .., hunfed, hbegins, holder, hpath,
        hholds.same_mode mode⟩
    · rw [decide_eq_true hne] at hpath ⊢
      refine ⟨older ++ held ++ [.mode mode true], [], _, by simp, ?_, .inr ⟨_, mode, rfl⟩, ?_, .nil,
        hnew⟩
      · intro y hy
        simp only [List.mem_append, List.mem_singleton] at hy
        rcases hy with (hy | hy) | rfl
        · exact hunfed y hy
        · exact (hholds.idle y hy).unfed
        · trivial
      · rw [List.append_assoc]
        exact holder.append hpath

theorem RearmsFirst.snoc (h : RearmsFirst n₀ l) (x : NavCall F D) : RearmsFirst n₀ (l ++ [x]) := by
  obtain ⟨older, held, p, rest, begun, n, rfl, h⟩ := h
  exact ⟨older, held, p, rest ++ [x], begun, n, by simp, h⟩

/-- A run after a letter: the rearming is over, or it goes on, or the run is not active any
more. -/
theorem rearms_run (h₀ : Holds n₀.odometry [] n₀) (hpath : Run.Path NavStep n₀ l n) :
    n.config = n₀.config ∧
      (n.lifecycle = .active → RearmsFirst n₀ l ∨ StillRearms n₀ l n) := by
  induction hpath with
  | nil => exact ⟨rfl, fun _ => .inr ⟨[], [], n₀, rfl, by simp, .inl rfl, .nil, .nil, h₀⟩⟩
  | @snoc l m e x _ hx ih =>
    obtain ⟨hconfig, hback⟩ := hx.keeps
    refine ⟨hconfig.trans ih.1, fun hactive => ?_⟩
    rcases ih.2 (hback hactive) with hfirst | hstill
    · exact .inl (hfirst.snoc x)
    · rcases hstill.step ih.1 hx hactive with ⟨hnext, -⟩ | hfirst
      · exact .inr hnext
      · exact .inl hfirst

omit [CFloat F] in
theorem start_ready {m : Nav F D readers} {now : UInt32} (hconfig : m.config.barcode = defaults)
    (hstart : m.start now = (true, n₀)) : Ready n₀ := by
  simp only [Nav.start] at hstart
  split_ifs at hstart
  · cases hstart
  · obtain rfl := (Prod.mk.inj hstart).2
    exact ⟨Live.sane_reset _, (by rintro _ ⟨⟩), hconfig⟩

/-- **One barcode gives at most one letter**: every letter comes from one of the two readers and
resets both, and between two letters they get nothing until the car has passed the barcode. -/
theorem one_letter {m : Nav F D readers} {now : UInt32} (hconfig : m.config.barcode = defaults)
    (hstart : m.start now = (true, n₀)) :
    (∀ l n n' p fed, Run.Path NavStep n₀ l n → NavStep n (.processed p fed) n' →
      p.out.events.barcode = true → ReportsOne n p ∧ Cleared n') ∧
    ∀ l₁ n₁ n₂ first fed₁ l₂ n₃ n₄ second fed₂, Run.Path NavStep n₀ l₁ n₁ →
      NavStep n₁ (.processed first fed₁) n₂ → first.out.events.barcode = true →
      Run.Path NavStep n₂ l₂ n₃ → NavStep n₃ (.processed second fed₂) n₄ →
      second.out.events.barcode = true →
      RearmsFirst n₂ (l₂ ++ [.processed second fed₂]) := by
  have hready {l : List (NavCall F D)} {n : Nav F D readers} (hpath : Run.Path NavStep n₀ l n) :
      Ready n :=
    hpath.invariant (fun _ _ _ h hx => h.step hx) (start_ready hconfig hstart)
  refine ⟨fun l n n' p fed hpath hx hevent => ?_, ?_⟩
  · cases hx with
    | process hp =>
      obtain ⟨-, hone, hholds⟩ := (hready hpath).letter hp hevent
      exact ⟨hone, hholds.cleared⟩
  · intro l₁ n₁ n₂ first fed₁ l₂ n₃ n₄ second fed₂ hpath₁ hfirst hevent₁ hpath₂ hsecond hevent₂
    have hholds : Holds n₂.odometry [] n₂ := by
      cases hfirst with
      | process hp => exact ((hready hpath₁).letter hp hevent₁).2.2
    have hactive : n₄.lifecycle = .active := by
      cases hsecond with
      | process hp => exact ((process_shown hp).2.event hevent₂).1
    obtain ⟨hconfig, hrun⟩ := rearms_run hholds hpath₂
    rcases hrun (hsecond.keeps.2 hactive) with hdone | hstill
    · exact hdone.snoc _
    · -- a letter of a rearming run ends the rearming
      rcases hstill.step hconfig hsecond hactive with ⟨-, hnone⟩ | hdone
      · exact absurd hevent₂ (by rw [hnone _ _ rfl]; decide)
      · exact hdone

section Bench

def Nav.run (n : Nav F D B) (xs : List (SensorFrame × Option (OdometrySample D))) :
    List (NavCall F D) × Nav F D B :=
  xs.foldl (fun s x => match s.2.process x.1 x.2 with
    | some (out, n') => (s.1 ++ [.processed ⟨x.1, x.2, out⟩ (s.2.feeds x.1 x.2)], n')
    | none => s) ([], n)

theorem path_run (n : Nav F D B) (xs : List (SensorFrame × Option (OdometrySample D))) :
    Run.Path NavStep n (n.run xs).1 (n.run xs).2 := by
  refine List.foldlRecOn (motive := fun s : List (NavCall F D) × Nav F D B =>
    Run.Path NavStep n s.1 s.2) xs _ .nil fun s hs x _ => ?_
  split
  · rename_i out n' hprocess
    exact hs.snoc (.process (p := ⟨x.1, x.2, out⟩) hprocess)
  · exact hs

/-- A configuration with the tape between the sensors and the readers at their defaults. -/
def benchNavConfig : NavConfig ℚ ℚ where
  acquisition := ⟨⟨0, 1, 2⟩, 7⟩
  calibration := .const ⟨1000, 3000, 400, 600⟩
  line := ⟨300, 700, 100000, 1, 1, 1, 100000, true⟩
  steering := ⟨1 / 10, 1 / 20, 1 / 5⟩
  barcode := defaults
  map _ := .left
  maxSampleAgeUs := 50000
  rearmStableUs := 100000
  faultClearUs := 1
  rearmDistanceM := 1 / 100

/-- The frame `k`, every 30 ms: the barcode sensor on black or white, and the car 1 mm on. -/
def benchStep (black : Bool) (k : ℕ) : SensorFrame × Option (OdometrySample ℚ) :=
  let t := UInt32.ofNat (30000 * k)
  (⟨t, ⟨t, if black then 3000 else 1000, 0, true, true⟩, ⟨t, 1000, 0, true, true⟩,
    ⟨t, 1000, 0, true, true⟩⟩, some ⟨k / 1000, t, 0, true⟩)

/-- The frames of blocks that alternate in colour, from the frame `k` on. -/
def benchSteps : Bool → ℕ → List ℕ → List (SensorFrame × Option (OdometrySample ℚ))
  | _, _, [] => []
  | black, k, w :: ws =>
    (List.range w).map (fun i => benchStep black (k + i)) ++ benchSteps (!black) (k + w) ws

def benchNav : Nav ℚ ℚ readers :=
  let collector : CalibrationCollector := ⟨⟨10, 10000, 1000, 1000⟩, ⟨10, 30000, 3000, 3000⟩⟩
  let n : Nav ℚ ℚ readers := (Nav.init benchNavConfig).get (by decide +kernel)
  let n := SensorId.all.foldl (fun n i => (n.applyCalibration i collector).2) n
  (n.run [benchStep false 1]).2

/-- A barcode on the bench: its letter comes from one of the readers and resets both, and so on
until the next one. -/
theorem one_letter_bench : ∃ (l₁ : List (NavCall ℚ ℚ)) (n₁ n₂ : Nav ℚ ℚ readers)
    (first : Processed ℚ ℚ) (fed₁ : Bool), (benchNav.start 30000).1 = true ∧
    Run.Path NavStep (benchNav.start 30000).2 l₁ n₁ ∧ NavStep n₁ (.processed first fed₁) n₂ ∧
    first.out.events.barcode = true ∧ ReportsOne n₁ first ∧ Cleared n₂ ∧
    ∀ l₂ n₃ n₄ second fed₂, Run.Path NavStep n₂ l₂ n₃ → NavStep n₃ (.processed second fed₂) n₄ →
      second.out.events.barcode = true → RearmsFirst n₂ (l₂ ++ [.processed second fed₂]) := by
  have hstart : benchNav.start 30000 = (true, (benchNav.start 30000).2) :=
    Prod.ext (by decide +kernel) rfl
  have hletter : (((benchNav.start 30000).2.run (benchSteps false 2 benchWidths)).2.process
      (benchStep false 195).1 (benchStep false 195).2).any (fun r => r.1.events.barcode) =
        true := by
    decide +kernel
  obtain ⟨⟨out, n₂⟩, hfirst, hevent⟩ := (Option.any_eq_true _ _).1 hletter
  have hpath := path_run (benchNav.start 30000).2 (benchSteps false 2 benchWidths)
  have hstep := NavStep.process (p := ⟨_, _, out⟩) hfirst
  obtain ⟨hreports, hrearms⟩ := one_letter (m := benchNav) (by decide +kernel) hstart
  obtain ⟨hone, hcleared⟩ := hreports _ _ _ _ _ hpath hstep hevent
  exact ⟨_, _, _, _, _, congrArg Prod.fst hstart, hpath, hstep, hevent, hone, hcleared,
    fun _ _ _ _ _ => hrearms _ _ _ _ _ _ _ _ _ _ hpath hstep hevent⟩

end Bench

end RoboticCar.Navigation
