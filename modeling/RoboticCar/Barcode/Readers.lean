import RoboticCar.Barcode.Live
import RoboticCar.Barcode.Recording

/-!
# The two readers together

`readers` is the pair that `line_navigation.c` feeds with every reading.  Either of them reports a
letter only in the middle of a barcode (`Live.collecting_of_decoded`, `Record.active_of_decoded`).
-/

namespace RoboticCar.Barcode

open Navigation

/-- The readers of `s3_navigation_t`. -/
def readers : BarcodeReaders where
  Live := Live
  Record := Record
  init := Live.init
  reset := Live.reset
  update := Live.update
  collecting := Live.collecting
  pending := Live.pending
  recordZero := {}
  recordReset := fun _ => {}
  recordActive := Record.active
  recordUpdate := Record.update

/-! ## The live decoder -/

namespace Live

/-- A decoder that waits for the white behind a barcode is still collecting. -/
def Sane (d : Live) : Prop := d.pending = true → d.collecting = true

theorem sane_reset (d : Live) : d.reset.Sane := nofun

theorem sane_seed (d : Live) (now : UInt32) (black : Bool) : (d.seed now black).Sane := nofun

variable {d : Live}

theorem sane_complete (hd : d.collecting) (now : UInt32) (black : Bool) :
    (d.complete now black).2.Sane := by
  unfold complete
  dsimp only
  split
  · split
    · exact sane_seed d now black
    · exact fun _ => hd
  · exact sane_seed d now black

theorem sane_change (hd : d.Sane) (now gap elapsed : UInt32) (black : Bool) :
    (d.change now gap elapsed black).2.Sane := by
  unfold change
  split
  · rename_i hcollecting
    split
    · exact sane_seed d now black
    · dsimp only
      split
      · exact sane_complete (d := { d with runs := d.runs ++ [elapsed] }) hcollecting now black
      · exact hd
  · split
    · exact fun _ => rfl
    · exact hd

theorem sane_wait (hd : d.Sane) (now elapsed : UInt32) (black : Bool) :
    (d.wait now elapsed black).2.Sane := by
  unfold wait
  split_ifs
  · exact sane_seed d now black
  · nofun
  · exact hd

/-- Every call keeps the decoder sane. -/
theorem sane_update (hd : d.Sane) (now : UInt32) (valid black : Bool) :
    (d.update now valid black).2.Sane := by
  have htick (gap : UInt32) : (d.tick now gap).Sane := hd
  unfold update
  dsimp only
  split_ifs
  · exact hd
  · exact sane_reset d
  · exact sane_seed d now black
  · exact sane_seed d now black
  · unfold follow
    dsimp only
    split_ifs
    · exact sane_seed _ now black
    · exact sane_wait (htick _) now _ black
    · exact sane_change (htick _) now _ _ black
    · exact sane_seed _ now black
    · exact htick _

theorem complete_ne_decoded (now : UInt32) (black : Bool) (result : BarcodeResult) :
    (d.complete now black).1 ≠ .decoded result := by
  unfold complete
  dsimp only
  split
  · split_ifs <;> simp
  · simp

theorem change_ne_decoded (now gap elapsed : UInt32) (black : Bool) (result : BarcodeResult) :
    (d.change now gap elapsed black).1 ≠ .decoded result := by
  unfold change
  dsimp only
  split_ifs
  · simp
  · exact complete_ne_decoded now black result
  all_goals simp

theorem pending_of_decoded {now : UInt32} {valid black : Bool} {result : BarcodeResult}
    (h : (d.update now valid black).1 = .decoded result) : d.pending := by
  unfold update at h
  dsimp only at h
  split_ifs at h
  unfold follow at h
  dsimp only at h
  split_ifs at h with _ hpending
  · exact hpending
  · exact absurd h (change_ne_decoded _ _ _ _ _)

/-- A letter comes out of a barcode under way. -/
theorem collecting_of_decoded (hd : d.Sane) {now : UInt32} {valid black : Bool}
    {result : BarcodeResult} (h : (d.update now valid black).1 = .decoded result) :
    d.collecting :=
  hd (pending_of_decoded h)

end Live

namespace Record

variable {r : Record} {c : BarcodeConfig}

theorem listen_ne_decoded (hwhite : r.whiteUs = 0) {step : ℕ}
    (hstep : step * recStepUs < c.maxRunUs.toNat) (now : UInt32) (dark : ℕ)
    (result : BarcodeResult) : (r.listen c now dark step).1 ≠ .decoded result := by
  have hshort : satAdd r.whiteUs (step * recStepUs) < c.maxRunUs.toNat := by
    have := satAdd_le r.whiteUs (step * recStepUs)
    omega
  unfold listen
  dsimp only
  split_ifs <;> simp

theorem recordReading_ne_decoded (hwhite : r.whiteUs = 0) {step : ℕ}
    (hstep : step * recStepUs < c.maxRunUs.toNat) (now : UInt32) (dark : ℕ)
    (result : BarcodeResult) : (r.recordReading c now dark step).1 ≠ .decoded result := by
  obtain ⟨turnUs, best, falling, hturn⟩ := turn_fields (r.store dark step) dark step
  unfold recordReading
  dsimp only
  split_ifs
  · nofun
  · nofun
  · exact listen_ne_decoded (by rw [hturn]; exact hwhite) hstep now dark result

/-- A letter is reported at the end of a recording, if the longest stripe takes more than one
reading. -/
theorem active_of_decoded (hrun : recStepMax * recStepUs < c.maxRunUs.toNat) {now : UInt32}
    {valid : Bool} {darkness : ℕ} {result : BarcodeResult}
    (h : (r.update c now valid darkness).1 = .decoded result) : r.active := by
  by_contra hactive
  have hwaiting : r.state = .waiting := by simpa [active] using hactive
  unfold update at h
  split_ifs at h
  split at h
  · cases h
  · rename_i step residual hstep
    have hle : step * recStepUs < c.maxRunUs.toNat :=
      (Nat.mul_le_mul_right recStepUs (step_le hstep)).trans_lt hrun
    split_ifs at h
    unfold waitReading at h
    dsimp only at h
    split_ifs at h
    exact recordReading_ne_decoded rfl hle now _ result h

end Record

end RoboticCar.Barcode
