import RoboticCar.Barcode.Stall

/-!
# The clocks of the record reader

`Accounted` says what the clocks of the reader and its stored readings are worth, beside `Sane`:
every call keeps it, and the clock of a recording is the end time that `rec_extract_runs` finds in
it (`time_accounted`).
-/

namespace RoboticCar.Barcode

open Navigation Record

variable {r q : Record} {c : BarcodeConfig} {x : RecCall} {step : ℕ}

theorem preShrink_within {rounds : ℕ} (h : r.pre.length ≤ rounds + 1)
    (hlen : 1 < (preShrink rounds r).pre.length) : (preShrink rounds r).preUs ≤ recPreUs := by
  induction rounds generalizing r with
  | zero => exact absurd hlen (Nat.not_lt.2 h)
  | succ rounds ih =>
    unfold preShrink at hlen ⊢
    split at hlen
    · rename_i hcond
      rw [if_pos hcond]
      have := preDrop_length hcond.1
      exact ih (by omega) hlen
    · rename_i hcond
      rw [if_neg hcond]
      exact Nat.le_of_not_lt fun hlt => hcond ⟨hlen, hlt⟩

theorem prePush_within (hlen : 1 < (r.prePush dark step).pre.length) :
    (r.prePush dark step).preUs ≤ recPreUs :=
  preShrink_within (Nat.le_succ _) hlen

theorem prePush_dark (h : ∀ s ∈ r.pre, s.dark ≤ 1000) (hdark : dark ≤ 1000) (step : ℕ) :
    ∀ s ∈ (r.prePush dark step).pre, s.dark ≤ 1000 := by
  intro s hs
  have hmem := (prePush_suffix r dark step).subset (List.mem_map_of_mem hs)
  rcases List.mem_append.1 hmem with hmem | hmem
  · obtain ⟨s', hs', heq⟩ := List.mem_map.1 hmem
    exact heq ▸ h s' hs'
  · exact List.mem_singleton.1 hmem ▸ hdark

theorem release_paper (r : Record) (now : UInt32) : (r.release now).2.paper = r.paper := by
  unfold Record.release
  split <;> rfl

theorem conclude_paper (r : Record) (c : BarcodeConfig) (now : UInt32) :
    (r.conclude c now).2.paper = r.paper := by
  unfold Record.conclude
  split
  · split
    · rfl
    · exact release_paper _ now
  · exact release_paper r now

theorem listen_paper (r : Record) (c : BarcodeConfig) (now : UInt32) (dark step : ℕ) :
    (r.listen c now dark step).2.paper = r.paper := by
  unfold Record.listen
  dsimp only
  split_ifs
  · rfl
  · rfl
  · rfl
  · rfl
  · exact conclude_paper _ c now

theorem recordReading_paper (r : Record) (c : BarcodeConfig) (now : UInt32) (dark step : ℕ) :
    (r.recordReading c now dark step).2.paper = r.paper := by
  obtain ⟨_, _, _, hturn⟩ := turn_fields (r.store dark step) dark step
  unfold Record.recordReading
  dsimp only
  split_ifs
  · rfl
  · rfl
  · rw [listen_paper, hturn]
    rfl

theorem learnPaper_le {paper dark bound : ℕ} (h : paper ≤ bound) (hdark : dark ≤ bound) :
    learnPaper paper dark ≤ bound := by
  unfold learnPaper
  split_ifs <;> omega

theorem call_paper (hpaper : r.paper ≤ 1000) (c : BarcodeConfig) (x : RecCall) :
    (r.call c x).2.paper ≤ 1000 := by
  have hdark : x.dark ≤ 1000 := min_le_right _ _
  have hlearnt : learnPaper r.paper x.dark ≤ 1000 := learnPaper_le hpaper hdark
  unfold Record.call Record.update
  dsimp only
  split
  · exact hpaper
  split
  · exact Nat.zero_le _
  split
  · exact (prePush_keeps _ _ _).2.2.trans_le hdark
  split
  · exact (prePush_keeps _ _ _).2.2.trans_le hdark
  split
  · exact (prePush_keeps _ _ _).2.2.trans_le hdark
  split
  · unfold Record.waitReading
    dsimp only
    split_ifs
    · exact hlearnt
    · exact (prePush_keeps _ _ _).2.2.trans_le hlearnt
    · exact (recordReading_paper _ c _ _ _).trans_le hlearnt
  · exact (recordReading_paper _ c _ _ _).trans_le hpaper

/-! ## The recording -/

/-- The frame is the time of its readings, the first of which has no step. -/
structure Framed (r : Record) : Prop extends FrameOk r where
  dark : ∀ s ∈ r.sample, s.dark ≤ 1000
  first : ∃ s rest, r.sample = s :: rest ∧ s.step = 0

theorem Framed.congr (h : Framed r) (hsample : q.sample = r.sample)
    (hframe : q.frameUs = r.frameUs) : Framed q := by
  obtain ⟨⟨hlength, hsteps, htime⟩, hdark, hfirst⟩ := h
  refine ⟨⟨?_, ?_, ?_⟩, ?_, ?_⟩ <;> simpa only [hsample, hframe]

/-- The clocks and the readings of a record that calls lead to, beside what `Sane` says. -/
structure Accounted (r : Record) : Prop where
  within : 1 < r.pre.length → r.preUs ≤ recPreUs
  dark : ∀ s ∈ r.pre, s.dark ≤ 1000
  prev : r.prev ≤ 1000
  paper : r.paper ≤ 1000
  framed : r.state ≠ .waiting → Framed r

theorem Accounted.empty : Accounted {} := by
  refine ⟨?_, ?_, ?_, ?_, ?_⟩ <;> simp

/-- The frame begins with the ring. -/
theorem Framed.trigger (h : RingOk r) (hdark : ∀ s ∈ r.pre, s.dark ≤ 1000)
    (hprev : r.prev ≤ 1000) : Framed (r.trigger c) := by
  refine ⟨.trigger h, ?_, ?_⟩
  · simp only [Record.trigger]
    split
    · simpa using hprev
    · exact hdark
  · rcases hpre : r.pre with - | ⟨s, rest⟩
    · exact ⟨⟨r.prev, 0⟩, [], by simp [Record.trigger, hpre], rfl⟩
    · exact ⟨s, rest, by simp [Record.trigger, hpre], h.first s (by simp [hpre])⟩

/-- A stored reading adds its step to the frame. -/
theorem Framed.store (h : Framed r) {dark : ℕ} (hdark : dark ≤ 1000)
    (hroom : r.sample.length < recMax) (hstep : step ≤ recStepMax) :
    Framed (r.store dark step) := by
  obtain ⟨s, rest, hsample, hs⟩ := h.first
  refine ⟨h.toFrameOk.store hroom hstep, ?_, s, rest ++ [⟨dark, step⟩], ?_, hs⟩
  · simpa [Record.store, or_imp, forall_and, hdark] using h.dark
  · simp [Record.store, hsample]

theorem Accounted.opened (h : Accounted r) (hring : RingOk r) (c : BarcodeConfig) (x : RecCall)
    (residual : ℕ) : Framed (r.opened c x residual) := by
  unfold Record.opened
  split
  · refine .trigger ?_ h.dark h.prev
    exact { hring with }
  · rename_i hstate
    exact (h.framed hstate).congr rfl rfl

/-- A reading of a recording: the ring and the previous reading stay as at its beginning. -/
theorem Accounted.noted (h : Accounted r) (hring : RingOk r) {residual : ℕ}
    (ho : Opens c r x step residual) (hpaper : q.paper ≤ 1000)
    (hq : ∃ white required candidate state, q = { r.noted c x step residual with
      whiteUs := white, requiredUs := required, candidate := candidate, state := state }) :
    Accounted q := by
  have hdark : x.dark ≤ 1000 := min_le_right _ _
  have hframed := (h.opened hring c x residual).store hdark ho.room (step_le ho.step)
  have hopened : (r.opened c x residual).pre = r.pre ∧ (r.opened c x residual).preUs = r.preUs ∧
      (r.opened c x residual).prev = r.prev := by
    unfold Record.opened
    split <;> exact ⟨rfl, rfl, rfl⟩
  obtain ⟨hpre, hpreUs, hprev⟩ := hopened
  obtain ⟨_, _, _, hnoted⟩ := noted_fields r c x step residual
  obtain ⟨_, _, _, _, rfl⟩ := hq
  rw [hnoted] at *
  refine ⟨?_, ?_, hprev.trans_le h.prev, hpaper, fun _ => hframed.congr rfl rfl⟩
  · exact fun hlen => hpreUs.trans_le (h.within (hpre ▸ hlen))
  · exact fun s hs => h.dark s (hpre ▸ hs)

theorem Accounted.prePush {dark : ℕ} (hpre : ∀ s ∈ r.pre, s.dark ≤ 1000) (hdark : dark ≤ 1000)
    (hprev : r.prev ≤ 1000) (hpaper : r.paper ≤ 1000) (hframed : r.state ≠ .waiting → Framed r)
    (step : ℕ) : Accounted (r.prePush dark step) := by
  refine ⟨prePush_within, prePush_dark hpre hdark step, ?_, ?_, ?_⟩
  all_goals
    obtain ⟨_, _, _, hfields⟩ := prePush_fields r dark step
    rw [hfields]
  · exact hprev
  · exact hpaper
  · exact fun hstate => (hframed hstate).congr rfl rfl

theorem Accounted.finish (failed : Bool) (hpaper : (q.finish failed).paper ≤ 1000) :
    Accounted (q.finish failed) := by
  refine ⟨?_, ?_, hpaper, hpaper, ?_⟩ <;> simp [Record.finish]

/-- One outcome keeps the clocks. -/
theorem Accounted.took (h : Accounted r) (hring : RingOk r) {o : BarcodeStatus × Record}
    (ho : Took c r x o) (hpaper : o.2.paper ≤ 1000) : Accounted o.2 := by
  have hdark : x.dark ≤ 1000 := min_le_right _ _
  cases ho with
  | reset => exact .empty
  | restart status r' hr' =>
    have hr' : Accounted r' := by
      rcases hr' with rfl | ⟨rfl, -⟩
      · exact .empty
      · exact h
    refine .prePush ?_ hdark ?_ ?_ ?_ 0
    · exact hr'.dark
    · exact hdark
    · exact hdark
    · exact fun hs => (hr'.framed hs).congr rfl rfl
  | blocked residual hwaiting =>
    exact ⟨h.within, h.dark, h.prev, hpaper, fun hs => absurd hwaiting hs⟩
  | light step residual noise hwaiting =>
    rw [(prePush_keeps _ _ _).2.2] at hpaper
    refine .prePush ?_ hdark ?_ hpaper (absurd hwaiting) step
    · exact h.dark
    · exact hdark
  | ink step residual hopens | white step residual hopens | quiet step residual hopens =>
    exact h.noted hring hopens hpaper ⟨_, _, _, _, rfl⟩
  | failed => exact .finish true hpaper
  | release | released => exact .finish false hpaper

/-- **A call keeps the clocks.** -/
theorem Accounted.call (h : Accounted r) (hs : Sane r) (c : BarcodeConfig) (x : RecCall) :
    Accounted (r.call c x).2 := by
  by_cases hc : configValid c
  · exact h.took hs.ring (update_took hc r x) (call_paper h.paper c x)
  · simpa [Record.call, Record.update, hc] using h

/-- So does every run of calls. -/
theorem Reached.accounted (h : Reached r) : Accounted r := by
  induction h with
  | boot => exact .empty
  | call c x hr ih => exact ih.call hr.sane c x

/-- The end time that the loop over the readings finds. -/
theorem scan_t (samples : List Sample) (ext : List ℕ) (faint : Bool) (paper : ℕ) :
    (((List.range samples.length).drop 1).foldl (EdgeScan.next samples ext faint paper) {}).t =
      timeOf samples.tail := by
  have hnext (acc : EdgeScan) (i : ℕ) : (acc.next samples ext faint paper i).t =
      acc.t + (samples.getD i ⟨0, 0⟩).stepUs := by
    unfold EdgeScan.next
    dsimp only
    split_ifs <;> rfl
  have hfold (is : List ℕ) (acc : EdgeScan) :
      (is.foldl (EdgeScan.next samples ext faint paper) acc).t =
        acc.t + (is.map fun i => (samples.getD i ⟨0, 0⟩).stepUs).sum := by
    induction is generalizing acc with
    | nil => rfl
    | cons i is ih => rw [List.foldl_cons, ih, hnext, List.map_cons, List.sum_cons, Nat.add_assoc]
  have hmap : (List.range samples.length).map (fun i => samples.getD i ⟨0, 0⟩) = samples := by
    refine List.ext_getElem (by simp) fun i hi hi' => ?_
    simp [hi']
  rw [hfold, timeOf, Nat.zero_add, ← List.drop_one]
  conv_rhs => rw [← hmap]
  rw [← List.map_drop, List.map_map]
  rfl

/-- **The time accounting of the record reader.**  The ring and the recording are within their
sizes, and their clocks are the times of their readings; that of a recording is the end time that
`rec_extract_runs` computes. -/
theorem time_accounted (h : Reached r) :
    r.residualUs < recStepUs ∧
    r.pre.length ≤ recPreMax ∧ (∀ s, r.pre.head? = some s → s.step = 0) ∧
    r.preUs = timeOf r.pre ∧ (1 < r.pre.length → r.preUs ≤ recPreUs) ∧
    (r.state ≠ .waiting → r.sample.length ≤ recMax ∧ (∀ s ∈ r.sample, s.dark ≤ 1000) ∧
      (∃ s rest, r.sample = s :: rest ∧ s.step = 0) ∧ r.frameUs = timeOf r.sample.tail ∧
      ∀ ext faint, (((List.range r.sample.length).drop 1).foldl
        (EdgeScan.next r.sample ext faint r.paper) {}).t = r.frameUs) := by
  obtain ⟨hresidual, -, hring, -⟩ := h.sane
  have haccounted := h.accounted
  refine ⟨hresidual, hring.length, hring.first, hring.time, haccounted.within, fun hstate => ?_⟩
  have hframed := haccounted.framed hstate
  obtain ⟨s, rest, hsample, hs⟩ := hframed.first
  have htime : r.frameUs = timeOf r.sample.tail := by
    simp [hframed.time, hsample, timeOf, Sample.stepUs, hs]
  exact ⟨hframed.length, hframed.dark, hframed.first, htime,
    fun ext faint => (scan_t r.sample ext faint r.paper).trans htime.symm⟩

theorem time_accounted_stall :
    stallRecord.state ≠ .waiting ∧ stallRecord.frameUs = timeOf stallRecord.sample.tail :=
  have hstate : stallRecord.state ≠ .waiting := by decide +kernel
  ⟨hstate, ((time_accounted stallRecord_reached).2.2.2.2.2 hstate).2.2.2.1⟩

end RoboticCar.Barcode
