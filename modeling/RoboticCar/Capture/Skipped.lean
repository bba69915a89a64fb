import RoboticCar.Capture.Storage

/-!
# The episodes that are not stored

An episode without room is skipped, and `dropped` counts it.  `record` does not remember that it
skips one: every sample that is black, or that a reader collects, is counted.  `Skipping` is the
memory that it lacks; `dropped_eq_begun_iff` says when the counter is right, and
`bar_counted_twice` is a bar for which it is not.
-/

namespace RoboticCar.Capture

open Lib CFloat

variable {D : Type} [CFloat D]

/-- What has been skipped, and how the last sample was. -/
structure Skipping where
  skipping : Bool
  quiet : ℕ
  begun : ℕ
  black : Bool
  collecting : Bool

namespace Skipping

def start : Skipping := ⟨false, 0, 0, false, false⟩

def turned (w : Skipping) (i : Input D) : Bool :=
  (i.surface = 2 && !w.black) || (i.collecting && !w.collecting)

/-- One sample.  An episode that is skipped lasts as long as one that is stored. -/
def next (w : Skipping) (c : Bcap D) (i : Input D) : Skipping :=
  let w' := if c.active then w
    else if w.skipping then
      let quiet := if i.surface = 1 then w.quiet + 1 else 0
      { w with quiet := quiet, skipping := !(endQuiet ≤ quiet && !i.collecting) }
    else if w.turned i && c.isFull then
      { w with
        skipping := true, begun := w.begun + 1, quiet := if i.surface = 1 then 1 else 0 }
    else w
  { w' with black := i.surface = 2, collecting := i.collecting }

omit [CFloat D] in
theorem triggers_of_turned {w : Skipping} {i : Input D} (h : w.turned i) :
    i.triggers := by
  simp only [turned, Input.triggers, Bool.or_eq_true, Bool.and_eq_true] at h ⊢
  exact h.imp And.left And.left

omit [CFloat D] in
theorem begun_next (w : Skipping) (c : Bcap D) (i : Input D) :
    (w.next c i).begun = if !c.active && !w.skipping && w.turned i && c.isFull then w.begun + 1
      else w.begun := by
  simp only [next, Bool.and_assoc]
  cases c.active
  · cases w.skipping
    · generalize (w.turned i && c.isFull) = begins
      cases begins <;> rfl
    · rfl
  · rfl

end Skipping

theorem extend_dropped (c : Bcap D) (i : Input D) (s : Sample) :
    (c.extend i s).dropped = c.dropped := by
  simp only [Bcap.extend, Bcap.closeEpisode, Bcap.store]
  split_ifs <;> rfl

theorem openEpisode_dropped (c : Bcap D) (i : Input D) :
    (c.openEpisode i).dropped = c.dropped := by
  obtain ⟨c', happended, hopen⟩ := c.openEpisode_appended i
  have hdropped := congrArg Bcap.dropped happended.rest
  rw [hopen]
  exact hdropped

theorem trigger_dropped (c : Bcap D) (i : Input D) :
    (c.trigger i).dropped = if !c.active && i.triggers && c.isFull then
      (if c.dropped < 255 then c.dropped + 1 else c.dropped) else c.dropped := by
  rw [Bcap.trigger]
  cases !c.active && i.triggers
  · rfl
  · cases c.isFull
    · exact openEpisode_dropped c i
    · rfl

/-- When a call counts an episode as dropped. -/
theorem record_dropped (c : Bcap D) (i : Input D) :
    (c.record i).dropped = if !c.active && i.triggers && c.isFull then
      (if c.dropped < 255 then c.dropped + 1 else c.dropped) else c.dropped := by
  have hkeep : ∀ (c' : Bcap D) (s : Sample), (if (c'.trigger i).active then
      (c'.trigger i).extend i s else (c'.trigger i).remember i s).dropped =
        (c'.trigger i).dropped := by
    intro c' s
    split_ifs
    · exact extend_dropped _ i s
    · rfl
  have hcount : ∀ c' : Bcap D, (c'.countResult i).active = c'.active ∧
      (c'.countResult i).isFull = c'.isFull ∧ (c'.countResult i).dropped = c'.dropped := by
    intro c'
    unfold Bcap.countResult
    split_ifs <;> exact ⟨rfl, rfl, rfl⟩
  refine (hkeep _ _).trans ((trigger_dropped _ i).trans ?_)
  rw [(hcount _).1, (hcount _).2.1, (hcount _).2.2]
  rfl

def Bcap.watched (p : Bcap D × Skipping) (i : Input D) : Bcap D × Skipping :=
  (p.1.record i, p.2.next p.1 i)

/-- The counter is the number of skipped episodes, as far as it counts. -/
def Counted (p : Bcap D × Skipping) : Prop := p.1.dropped = min 255 p.2.begun

/-- If the sample would be counted, then it is the first one of its episode. -/
def FirstOfEpisode (p : Bcap D × Skipping) (i : Input D) : Prop :=
  p.1.dropped < 255 → p.1.active = false → i.triggers = true → p.1.isFull = true →
    p.2.skipping = false ∧ p.2.turned i = true

/-- **When unstored episodes are counted once**: the counter is the number of skipped episodes, up
to 255, throughout a run exactly when every counted sample is the first of its episode. -/
theorem dropped_eq_begun_iff (now : UInt32) (l : List (Input D)) :
    Run.Always Bcap.watched Counted (beginRun now, .start) l ↔
      Run.Meets Bcap.watched FirstOfEpisode (beginRun now, .start) l := by
  refine Run.always_iff_meets (I := Counted) (fun p i hp hfirst => ?_) (fun _ hp => hp)
    (fun p i hp hmiss => ?_) (show Counted (beginRun now, .start) from rfl) l
  · simp only [Counted, Bcap.watched, record_dropped, Skipping.begun_next] at hp ⊢
    by_cases hcounts : (!p.1.active && i.triggers && p.1.isFull) = true
    · rw [if_pos hcounts]
      simp only [Bool.and_eq_true, Bool.not_eq_true'] at hcounts
      by_cases hlow : p.1.dropped < 255
      · obtain ⟨hskip, hturned⟩ := hfirst hlow hcounts.1.1 hcounts.1.2 hcounts.2
        simp only [hlow, hskip, hturned, hcounts.1.1, hcounts.2, if_true, Bool.not_false,
          Bool.and_self]
        omega
      · rw [if_neg hlow]
        split_ifs <;> omega
    · have hbegun : ¬(!p.1.active && !p.2.skipping && p.2.turned i && p.1.isFull) = true := by
        simp only [Bool.and_eq_true] at hcounts ⊢
        exact fun h => hcounts ⟨⟨h.1.1.1, Skipping.triggers_of_turned h.1.2⟩, h.2⟩
      rw [if_neg hcounts, if_neg hbegun]
      exact hp
  · simp only [FirstOfEpisode, not_forall] at hmiss
    obtain ⟨hlow, hactive, htrigger, hfull, hlater⟩ := hmiss
    have hbegun : (!p.1.active && !p.2.skipping && p.2.turned i && p.1.isFull) = false := by
      simpa [hactive, hfull] using hlater
    simp only [Counted, Bcap.watched, record_dropped, Skipping.begun_next] at hp ⊢
    rw [hbegun, if_neg Bool.false_ne_true]
    simp only [hactive, htrigger, hfull, hlow, if_true, Bool.not_false, Bool.and_self]
    omega

def sampleOn (surface : UInt8) : Input ℚ := ⟨0, 2000, 500, surface, 0, 'A', false, false, 0⟩

/-- Twelve bars of one sample, each with its white, and one of two samples. -/
def thirteenBars : List (Input ℚ) :=
  (List.replicate 12 (sampleOn 2 :: List.replicate endQuiet (sampleOn 1))).flatten ++
    [sampleOn 2, sampleOn 2]

/-- Two samples of one bar are counted as two episodes. -/
theorem bar_counted_twice :
    let p := thirteenBars.foldl Bcap.watched (beginRun 0, .start)
    p.1.dropped = 2 ∧ p.2.begun = 1 ∧ ¬Counted p := by
  have h : (thirteenBars.foldl Bcap.watched (beginRun 0, .start)).1.dropped = 2 ∧
      (thirteenBars.foldl Bcap.watched (beginRun 0, .start)).2.begun = 1 := by
    decide +kernel
  refine ⟨h.1, h.2, fun hcounted => ?_⟩
  rw [Counted, h.1, h.2] at hcounted
  omega

end RoboticCar.Capture
