import RoboticCar.Integration.Priority

/-!
# The barcode map is frozen by the first run

A START takes the map and its latch in one block, installs the table and only then starts the drive;
map commands find the latch closed from that block on.  If it fails it opens the latch again, but
only if it was the one to close it.

`Robot.Frozen` is the invariant, `Robot.Taken` follows one START to its result, and
`Robot.map_frozen` puts the guarantees together.
-/

namespace RoboticCar.Driving

open Lib CFloat Motion Navigation Prog

variable {F D : Type} {B : BarcodeReaders} [CFloat F] [CFloat D]

/-! ## The table of the drive -/

omit [CFloat F] in
theorem Drive.finishReset_config (d : Drive F D B) (now : UInt32) :
    (d.finishReset now).navigation.config = d.navigation.config := by
  have hfault : (if d.navigation.lifecycle = .faultLatched then d.navigation.resetFault now
      else (true, d.navigation)).2.config = d.navigation.config := by
    split_ifs
    · exact d.navigation.resetFault_config now
    · rfl
  rw [finishReset]
  generalize (if d.navigation.lifecycle = .faultLatched then d.navigation.resetFault now
    else (true, d.navigation)) = fault at hfault
  by_cases hwait : now - d.resetUs ≥ resetWaitUs
  · rw [if_pos hwait]
  · rw [if_neg hwait]
    dsimp only
    split_ifs <;> first | rfl | exact hfault

variable {d d' : Drive F D B}

omit [CFloat F] in
theorem Drive.Halted.config_eq {state : DriveState} (h : d.Halted state d') :
    d'.navigation.config = d.navigation.config := by
  rw [h.navigation, Nav.endRun_config]

theorem Drive.Cycled.config_eq {s5 : Bool} {frame : Option SensorFrame}
    {feedback : Option (MotionFeedback D)} {u : List (Event F)}
    (h : d.Cycled s5 frame feedback u d') : d'.navigation.config = d.navigation.config := by
  cases h with
  | off => rfl
  | noFrame hh => exact hh.config_eq
  | blind _ _ _ hnav => rw [hnav, Nav.endRun_config]
  | sampled hc ht hn hu =>
    have hsampled := (Nav.process_latches hn).1.2.1
    cases hu with
    | resetting => exact (Drive.finishReset_config _ _).trans hsampled
    | faults _ _ hh => exact hh.config_eq.trans hsampled
    | idle => exact hsampled
    | holds _ _ _ _ _ _ hk => exact hk.navigation.2.1.trans hsampled
    | acts _ _ _ _ _ _ ho =>
      cases ho with
      | moves _ hk => exact hk.navigation.2.1.trans hsampled
      | halts _ hk _ hh => exact hh.config_eq.trans (hk.navigation.2.1.trans hsampled)

variable [CDouble F D]

theorem Step.map_eq {s5 : Bool} {a : Made F D} (hstep : Step s5 d a d') (h : Inv s5 d)
    (hop : ∀ map, a.op ≠ .setMapping map) : d'.navigation.config.map = d.navigation.config.map := by
  obtain ⟨op, calls, ok⟩ := a
  have hcase := hstep.cases h.configured h.detourOff
  generalize motion calls = u at hcase
  cases hcase with
  | config hc =>
    have hpure {x : Bool × Drive F D B} (hx : (pure x : DriveM F (Bool × Drive F D B)).Yields calls
        (ok, d')) : d' = x.2 := congrArg Prod.snd (yields_ret.1 hx).2
    cases op with
    | setOptions =>
      rw [hpure hstep, Drive.setOptions]
      split_ifs <;> rfl
    | hold => rw [hpure hstep]
    | applyCalibration id collector =>
      rw [hpure hstep]
      exact d.navigation.applyCalibration_map id collector
    | setMapping map => exact absurd rfl (hop map)
    | _ => cases hc
  | start hs =>
    cases hs with
    | refuses => rfl
    | starts _ _ hnav => rw [hnav, (Nav.keeps_setMode _ _).2.1, Nav.start_config]
  | stop hh | terrainFault hh => rw [hh.config_eq]
  | reset hs => cases hs <;> rfl
  | process hd => rw [hd.config_eq]

theorem Step.setMapping_eq {s5 : Bool} {a : Made F D} {map : Fin 26 → NavAction}
    (hstep : Step s5 d a d') (hop : a.op = .setMapping map) :
    a.ok = (d.navigation.setMapping map).1 ∧
      d' = { d with navigation := (d.navigation.setMapping map).2 } := by
  obtain ⟨op, calls, ok⟩ := a
  obtain rfl : op = .setMapping map := hop
  obtain ⟨-, hx⟩ := yields_ret.1 hstep
  exact ⟨congrArg Prod.fst hx, congrArg Prod.snd hx⟩

end RoboticCar.Driving

namespace RoboticCar.Integration

open Lib CFloat Motion Navigation Driving
open Telemetry (BarcodeMap Reply mapUnpack mapPack wireVersion)

variable {F D : Type} {B : BarcodeReaders}

def Register.Started (b : Register) : Prop :=
  ∃ t, b.kind t = some .start ∧ (some t, true) ∈ b.results

namespace Robot

/-! ## The invariant -/

/-- The table of the navigation core is the expansion of the active map. -/
def Agrees (s : Robot F D B) : Prop :=
  ∃ map, mapUnpack s.activeMap.masked = some map ∧ s.drive.navigation.config.map = expand map

def MayOpen : Starting → Prop
  | .claimed _ newly | .begun newly => newly = true
  | .reopening => True
  | .idle => False

structure Frozen (s : Robot F D B) (b : Register) : Prop where
  wellformed : s.activeMap.Wellformed
  closed : s.starting ≠ .idle → s.activeMap.latched = true
  claimed : ∀ map newly, s.starting = .claimed map newly →
    mapUnpack s.activeMap.masked = some map
  begun : s.Begun → s.Agrees
  still : s.starting ≠ .idle → ¬s.Begun → s.drive.running = false
  running : s.drive.running = true → s.activeMap.latched = true ∧ s.Agrees
  started : b.Started → s.activeMap.latched = true ∧ s.Agrees ∧ ¬MayOpen s.starting

section

variable {s s' : Robot F D B} {b : Register}

theorem Agrees.congr (h : s.Agrees) (hmap : s'.activeMap.masked = s.activeMap.masked)
    (htable : s'.drive.navigation.config.map = s.drive.navigation.config.map) : s'.Agrees := by
  obtain ⟨map, hm, ht⟩ := h
  exact ⟨map, hmap ▸ hm, htable.trans ht⟩

theorem Frozen.keep (h : Frozen s b) {b' : Register} (hmap : s'.activeMap = s.activeMap)
    (htable : s'.drive.navigation.config.map = s.drive.navigation.config.map)
    (hrun : s'.drive.running → s.drive.running)
    (hstart : s'.starting = s.starting) (hb : b'.Started → b.Started) : Frozen s' b' := by
  have hbegun : s'.Begun ↔ s.Begun := by rw [Begun, Begun, hstart]
  have hagrees (ha : s.Agrees) : s'.Agrees := ha.congr (by rw [hmap]) htable
  refine ⟨hmap ▸ h.wellformed, fun hne => ?_, fun map newly hc => ?_, fun hg => ?_,
    fun hne hg => ?_, fun hr => ?_, fun hs => ?_⟩
  · exact hmap ▸ h.closed (hstart ▸ hne)
  · exact hmap ▸ h.claimed map newly (hstart ▸ hc)
  · exact hagrees (h.begun (hbegun.1 hg))
  · exact Bool.eq_false_iff.2 fun hr =>
      Bool.eq_false_iff.1 (h.still (hstart ▸ hne) fun hb => hg (hbegun.2 hb)) (hrun hr)
  · obtain ⟨hl, ha⟩ := h.running (hrun hr)
    exact ⟨hmap ▸ hl, hagrees ha⟩
  · obtain ⟨hl, ha, ho⟩ := h.started (hb hs)
    exact ⟨hmap ▸ hl, hagrees ha, hstart ▸ ho⟩

/-- Outside a START the invariant is about the map, a running drive and a START that succeeded. -/
theorem Frozen.of_idle (hi : s.starting = .idle) (hw : s.activeMap.Wellformed)
    (hr : s.drive.running = true → s.activeMap.latched = true ∧ s.Agrees)
    (hb : b.Started → s.activeMap.latched = true ∧ s.Agrees) : Frozen s b := by
  refine ⟨hw, fun hne => absurd hi hne, fun map newly hc => ?_,
    fun hg => absurd hg (not_begun hi (by simp)), fun hne => absurd hi hne, hr, fun hs => ?_⟩
  · cases hi.symm.trans hc
  · obtain ⟨hl, ha⟩ := hb hs
    exact ⟨hl, ha, hi ▸ id⟩

/-- A network packet keeps it frozen. -/
theorem Frozen.network (h : Frozen s b) (payload : List UInt8) :
    Frozen { s with activeMap := (commandProcess s.activeMap payload).2 } b := by
  rcases commandProcess_cases s.activeMap payload with ⟨map, -, hopen, hp, -⟩ | ⟨hsame, -⟩
  · have hclosed : s.activeMap.latched ≠ true := by simp [hopen]
    have hidle : s.starting = .idle := by
      by_contra hne
      exact hclosed (h.closed hne)
    exact .of_idle hidle ⟨map, (ActiveMap.packed hp).2⟩
      (fun hr => absurd (h.running hr).1 hclosed) fun hs => absurd (h.started hs).1 hclosed
  · exact h.keep hsame rfl id rfl id

theorem Frozen.refused (h : Frozen s b) {d : Drive F D B} {newly : Bool} {b' : Register}
    (hmay : newly → MayOpen s.starting) (hne : s.starting ≠ .idle)
    (hrun : d.running = false)
    (hagrees : s.Agrees → Agrees (s.refused d newly)) (hb : b'.Started → b.Started) :
    Frozen (s.refused d newly) b' := by
  have hnot : ¬(s.refused d newly).Begun := by
    cases newly <;> exact not_begun rfl nofun
  refine ⟨h.wellformed, fun _ => h.closed hne, fun map n hc => ?_, fun hg => absurd hg hnot,
    fun _ _ => hrun, fun hr => absurd (hrun.symm.trans hr) nofun, fun hs => ?_⟩
  · cases newly <;> cases hc
  · obtain ⟨hl, ha, ho⟩ := h.started (hb hs)
    refine ⟨hl, hagrees ha, ?_⟩
    cases newly with
    | true => exact absurd (hmay rfl) ho
    | false => exact id

/-- A START takes the map of a car that stands still. -/
theorem Frozen.claim (h : Frozen s b) {map : BarcodeMap} {newly : Bool} {m' : ActiveMap}
    (hc : configurationClaim s.activeMap = some (map, newly, m')) (hoff : s.drive.running = false)
    {b' : Register} (hb : b'.Started → b.Started) :
    Frozen { s with activeMap := m', starting := .claimed map newly } b' := by
  obtain ⟨hmap, rfl, rfl⟩ := of_configurationClaim hc
  have hlatched := h.wellformed.latched_closed
  rw [← ActiveMap.masked_closed] at hmap
  refine ⟨⟨map, hmap⟩, fun _ => hlatched, fun _ _ hc => ?_,
    fun hg => absurd hg (not_begun rfl (by simp)), fun _ _ => hoff,
    fun hr => absurd (hoff.symm.trans hr) (by simp), fun hst => ?_⟩
  · obtain ⟨rfl, -⟩ := Starting.claimed.inj hc
    exact hmap
  · obtain ⟨hl, ha, -⟩ := h.started (hb hst)
    exact ⟨hlatched, ha.congr (ActiveMap.masked_closed _) rfl, by simp [MayOpen, hl]⟩

/-- A START with its table installed has started the drive. -/
theorem Frozen.go (h : Frozen s b) {map : BarcodeMap} {newly : Bool} {d : Drive F D B}
    (hc : s.starting = .claimed map newly) (htable : d.navigation.config.map = expand map)
    {b' : Register} (hb : b'.Started → b.Started) :
    Frozen { s with drive := d, starting := .begun newly } b' := by
  have hlatched := h.closed (hc ▸ (by simp))
  have hagrees : Agrees { s with drive := d, starting := .begun newly } :=
    ⟨map, h.claimed map newly hc, htable⟩
  refine ⟨h.wellformed, fun _ => hlatched, (by simp), fun _ => hagrees,
    fun _ hg => absurd ⟨newly, rfl⟩ hg, fun _ => ⟨hlatched, hagrees⟩, fun hst => ?_⟩
  obtain ⟨-, -, ho⟩ := h.started (hb hst)
  rw [hc] at ho
  exact ⟨hlatched, hagrees, ho⟩

theorem started_after_of_started (hb : b.Started) (desk : Desk) (blk : Option Block) :
    (b.after desk blk).Started := by
  obtain ⟨t, hk, hres⟩ := hb
  exact ⟨t, Register.kind_after hk desk blk, (b.results_after desk blk).subset hres⟩

end

variable [CFloat F] [CFloat D] [CDouble F D] {s5 : Bool} {s s' : Robot F D B} {b : Register}
  {a : Deed F D}

def keepsTable (m : Made F D) : Bool :=
  match m.op with
  | .setMapping _ => false
  | _ => true

variable {l : List (Made F D)}

theorem map_eq_of_runs {d d' : Drive F D B} (h : Inv s5 d) (hl : Driving.Runs s5 d l d')
    (hk : ∀ m ∈ l, keepsTable m) : d'.navigation.config.map = d.navigation.config.map := by
  induction hl with
  | nil => rfl
  | @snoc l e e' m hl hm ih =>
    have he : Inv s5 e := hl.invariant (I := Inv s5) (fun _ _ _ => Inv.step) h
    refine (hm.map_eq he fun map hop => ?_).trans
      (ih fun p hp => hk p (List.mem_append_left _ hp))
    have hm' := hk m (List.mem_append_right _ (List.mem_singleton_self m))
    rw [keepsTable, hop] at hm'
    cases hm'

variable {r : ControlRequest}

theorem Executes.start_refused {now : UInt32} {x : Option Bool} (h : s.Executes s5 now r l x s')
    (hr : r.kind = .start) : x = some false ∧ s'.activeMap = s.activeMap := by
  cases h with
  | startIneligible | startUnclaimed => exact ⟨rfl, rfl⟩
  | occupied hr' => exact absurd hr hr'.2.2
  | noSensor hr' =>
    rw [hr] at hr'
    cases hr'
  | resetUnready hr' | reset hr' | mappingRefused hr' | mapping hr' | applyCalibration hr'
  | white hr' | black hr' => cases hr.symm.trans hr'

theorem Sound.started_after (h : Sound s5 s b) (hstep : Step s5 s a s')
    (hb : (b.after s.desk a.block).Started) :
    b.Started ∨ s.Begun ∧ a.block = some (.finish true) := by
  obtain ⟨t, hk, hres⟩ := hb
  have hold (hm : (some t, true) ∈ b.results) : b.Started := by
    refine ⟨t, ?_, hm⟩
    have hcounted : t ∈ b.counted := List.mem_filterMap.2 ⟨_, hm, rfl⟩
    have hlt : t < b.accepted.length :=
      (h.kept.executed_lt t (h.kept.counted_executed t hcounted)).trans_le h.kept.begun_le
    cases hblk : a.block with
    | none => rwa [hblk] at hk
    | some blk =>
      rw [hblk] at hk
      rcases b.next_accepted s.desk blk with ha | ⟨r, ha⟩
      · simpa only [Register.after, Register.kind, ha] using hk
      · rw [Register.after, ha, Register.kind_accept_of_lt hlt] at hk
        exact hk
  cases hstep with
  | submit =>
    dsimp only [Deed.block, Register.after, Register.next] at hres
    split_ifs at hres <;> exact .inl (hold hres)
  | network | wait | claim | started | unpacked => exact .inl (hold hres)
  | @quiet blk hq => cases blk <;> first | exact .inl (hold hres) | cases hq
  | stop | reopen =>
    rcases List.mem_append.1 hres with hm | hm
    · exact .inl (hold hm)
    · simp at hm
  | @sample _ _ _ d₂ =>
    left
    dsimp only [Deed.block, Register.after, Register.next] at hres
    cases hd : s.desk.resetDone (resetOf d₂) with
    | none =>
      rw [hd] at hres
      exact hold hres
    | some =>
      rw [hd] at hres
      rcases List.mem_append.1 hres with hm | hm
      · exact hold hm
      · simp only [List.mem_singleton, Prod.mk.injEq] at hm
        have hreset := (h.kept.resetting t hm.1.symm).1
        have hk' := Register.kind_after hreset s.desk (some (.sample (resetOf d₂)))
        exact absurd (Option.some.inj (hk.symm.trans hk')) (by simp)
  | @finish r now l ok _ hidle hs hr hx =>
    rcases List.mem_append.1 hres with hm | hm
    · exact .inl (hold hm)
    · -- `execute` by itself never ends a START with success
      simp only [List.mem_singleton, Prod.mk.injEq] at hm
      obtain ⟨t', hheld, -, -, -, hkt⟩ := h.kept.inTurn hs (by simp [hr])
      obtain rfl : t = t' := Option.some.inj (hm.1.trans hheld)
      have hkind : r.kind = .start := by
        have hkb : b.kind t = some r.kind := by rw [hkt, hr]; rfl
        have hkb' := Register.kind_after hkb s.desk (some (.finish ok))
        exact Option.some.inj (hkb'.symm.trans hk)
      obtain rfl : true = ok := hm.2
      exact absurd (hx.start_refused hkind).1 (by decide)
  | @unmapped _ newly | @unstarted _ newly | @unbegun newly =>
    left
    cases newly with
    | true => exact hold hres
    | false =>
      rcases List.mem_append.1 hres with hm | hm
      · exact hold hm
      · simp at hm
  | begun hc => exact .inr ⟨⟨_, hc⟩, rfl⟩

theorem Executes.table {now : UInt32} {x : Option Bool} (h : s.Executes s5 now r l x s')
    (hi : Inv s5 s.drive) :
    s'.activeMap = s.activeMap ∧
        s'.drive.navigation.config.map = s.drive.navigation.config.map ∨
      s.activeMap.latched = false ∧ s'.activeMap.Wellformed ∧ s'.drive.running = false := by
  have hrun := was_running hi h.spec.1 fun m hm => (h.spec.2.2.1 m hm).1
  cases h with
  | resetUnready | startIneligible | startUnclaimed | occupied | noSensor | white | black =>
    exact .inl ⟨rfl, rfl⟩
  | reset _ hm hd | applyCalibration _ _ _ hm hd =>
    exact .inl ⟨rfl, hd.map_eq hi (by simp [hm])⟩
  | mappingRefused _ _ hm =>
    rcases applyMapping_cases s.activeMap r.map with ⟨hsame, -⟩ | ⟨-, hok, -⟩
    · exact .inl ⟨hsame, rfl⟩
    · cases hm.symm.trans hok
  | mapping _ ho hmap =>
    rcases applyMapping_cases s.activeMap r.map with ⟨-, hno⟩ | ⟨hopen, -, reduced, hp⟩
    · cases hno.symm.trans hmap
    · refine .inr ⟨hopen, ⟨reduced, (ActiveMap.packed hp).2⟩, Bool.eq_false_iff.2 fun hr => ?_⟩
      have hactive := hi.active.1 (hrun hr)
      simp [Robot.occupied, hactive] at ho

/-- A command keeps the map frozen. -/
theorem Frozen.executes (h : Frozen s b) (hinv : Inv s5 s.drive) (hi : s.starting = .idle)
    {now : UInt32} {x : Option Bool} (hx : s.Executes s5 now r l x s') {desk : Desk} {b' : Register}
    (hb : b'.Started → b.Started) : Frozen { s' with desk := desk } b' := by
  have hrun := was_running hinv hx.spec.1 fun m hm => (hx.spec.2.2.1 m hm).1
  rcases hx.table hinv with ⟨hmap, htable⟩ | ⟨hopen, hwell, hoff⟩
  · exact h.keep hmap htable hrun hx.spec.2.1 hb
  · refine .of_idle (hx.spec.2.1.trans hi) hwell (fun hr => ?_) fun hst => ?_
    · cases hoff.symm.trans hr
    · exact absurd (h.started (hb hst)).1 (by simp [hopen])

theorem mapped {m : Made F D} {d : Drive F D B} {table : Fin 26 → NavAction}
    (hd : Driving.Step s5 s.drive m d) (hm : m.op = .setMapping table) :
    (m.ok → d.navigation.config.map = table) ∧ (m.ok = false → d = s.drive) ∧
      d.running = s.drive.running := by
  obtain ⟨hok, rfl⟩ := hd.setMapping_eq hm
  rw [hok, Nav.setMapping]
  split_ifs
  · exact ⟨(by simp), fun _ => rfl, rfl⟩
  · exact ⟨fun _ => rfl, (by simp), rfl⟩

/-- **The map and the table agree after every block.** -/
theorem Frozen.step (h : Frozen s b) (hsound : Sound s5 s b) (hstep : Step s5 s a s') :
    Frozen s' (b.after s.desk a.block) := by
  have hb := hsound.started_after hstep
  have hwas := hstep.runs
  have hold (hnot : ¬s.Begun) (hs : (b.after s.desk a.block).Started) : b.Started :=
    (hb hs).resolve_right fun hg => hnot hg.1
  have hplain {x : Starting} (hx : s.starting = x) (hne : ∀ newly, x ≠ .begun newly) :
      (b.after s.desk a.block).Started → b.Started := hold (not_begun hx hne)
  have hidle (hs : s.desk.stage ≠ .executing) : s.starting = .idle := hsound.idle_of_stage hs
  have hstop {m : Made F D} {d : Drive F D B} (hm : m.op = .stop)
      (hd : Driving.Step s5 s.drive m d) (hr : d.running = true) : s.drive.running = true :=
    absurd ((hd.not_running_of_stop hsound.drive hm).symm.trans hr) (by simp)
  have htable {map : BarcodeMap} {now : UInt32} {m₁ m₂ : Made F D} {d₁ d₂ : Drive F D B}
      (hm₁ : m₁.op = .setMapping (expand map)) (hd₁ : Driving.Step s5 s.drive m₁ d₁)
      (hok₁ : m₁.ok = true) (hm₂ : m₂.op = .start now) (hd₂ : Driving.Step s5 d₁ m₂ d₂) :
      d₂.navigation.config.map = expand map :=
    (hd₂.map_eq (hsound.drive.step hd₁) (by simp [hm₂])).trans ((mapped hd₁ hm₁).1 hok₁)
  cases hstep with
  | submit =>
    exact h.keep rfl rfl id rfl fun hs => (hb hs).resolve_right fun hg => absurd hg.2 (by rintro ⟨⟩)
  | network payload => exact h.network payload
  | quiet hq =>
    refine h.keep rfl rfl id rfl fun hs => (hb hs).resolve_right ?_
    rintro ⟨-, he⟩
    rw [Option.some.inj he] at hq
    cases hq
  | stop hready hm hd =>
    have hi : s.starting = .idle := hidle (by rw [hready.1]; decide)
    exact h.keep rfl (hd.map_eq hsound.drive (by simp [hm])) (hstop hm hd) rfl (hplain hi (by simp))
  | @sample l m d₁ d₂ _ _ hs hl hd₁ hm =>
    have hi : s.starting = .idle := hidle (hs ▸ (by simp))
    refine h.keep rfl (map_eq_of_runs hsound.drive hwas fun p hp => ?_)
      (was_running hsound.drive hwas fun p hp => ?_) rfl (hplain hi (by simp))
    · rcases List.mem_append.1 hp with hp | hp
      · have hpoll := hl p hp
        unfold keepsTable
        split
        · rename_i hop
          rw [hop] at hpoll
          cases hpoll
        · rfl
      · rw [List.mem_singleton.1 hp, keepsTable, hm]
    · rcases List.mem_append.1 hp with hp | hp
      · exact begins_eq_false_of_polls (hl p hp)
      · rw [List.mem_singleton.1 hp, begins, hm]
  | finish hi _ _ hx | wait hi _ _ hx => exact h.executes hsound.drive hi hx (hplain hi (by decide))
  | claim hi _ _ _ he hc =>
    refine h.claim hc ?_ (hplain hi (by simp))
    simp only [Robot.eligible, Bool.and_eq_true, Bool.or_eq_true, decide_eq_true_eq] at he
    rcases he.1.1.2 with hst | hst <;> exact congrArg DriveState.running hst
  | @unmapped map newly m d hc hm hd hok =>
    have hne : s.starting ≠ .idle := by simp [hc]
    obtain rfl : d = s.drive := (mapped hd hm).2.1 hok
    exact h.refused (by rw [hc]; exact id) hne (h.still hne (not_begun hc (by simp))) id
      (hplain hc (by simp))
  | started hc hm₁ hd₁ hok₁ hm₂ hd₂ =>
    exact h.go hc (htable hm₁ hd₁ hok₁ hm₂ hd₂) (hplain hc (by simp))
  | @unstarted map newly now m₁ m₂ d₁ d₂ hc hm₁ hd₁ hok₁ hm₂ hd₂ hok₂ =>
    have hne : s.starting ≠ .idle := by simp [hc]
    refine h.refused (by rw [hc]; exact id) hne (Bool.eq_false_iff.2 fun hr => ?_)
      (fun _ => ⟨map, h.claimed map newly hc, htable hm₁ hd₁ hok₁ hm₂ hd₂⟩) (hplain hc (by simp))
    have hr₁ := hd₂.was_running (hsound.drive.step hd₁) (fun _ _ => hok₂) hr
    rw [(mapped hd₁ hm₁).2.2, h.still hne (not_begun hc (by simp))] at hr₁
    cases hr₁
  | @begun newly hc =>
    exact .of_idle rfl h.wellformed h.running fun _ =>
      ⟨h.closed (hc ▸ (by simp)), h.begun ⟨newly, hc⟩⟩
  | @unbegun newly m d hc hm hd =>
    have hne : s.starting ≠ .idle := by simp [hc]
    refine h.refused (by rw [hc]; exact id) hne (hd.not_running_of_stop hsound.drive hm)
      (fun ha => ha.congr rfl (hd.map_eq hsound.drive (by simp [hm]))) fun hst =>
        (hb hst).resolve_right ?_
    rintro ⟨-, he⟩
    cases newly <;> cases he
  | reopen hc =>
    have hoff := h.still (hc ▸ (by decide)) (not_begun hc (by simp))
    obtain ⟨map, hmap⟩ := h.wellformed
    refine .of_idle rfl ⟨map, ?_⟩ (fun hr => absurd (hoff.symm.trans hr) (by simp)) fun hst => ?_
    · rw [configurationReopen, ActiveMap.masked_masked, hmap]
    · obtain ⟨-, -, ho⟩ := h.started (hplain hc (by simp) hst)
      rw [hc] at ho
      exact absurd trivial ho
  | unpacked hready hm hd =>
    have hi : s.starting = .idle :=
      hidle (by rw [show s.desk.stage = .publishing from hready]; decide)
    exact h.keep rfl (hd.map_eq hsound.drive (by simp [hm])) (hstop hm hd) rfl (hplain hi (by simp))

theorem Frozen.boot {config : NavConfig F D} {d₀ d : Drive F D B} {c : List (Made F D)}
    (h₀ : Drive.init config = some d₀) (hc : ∀ m ∈ c, m.op.configures)
    (hd : Driving.Runs s5 d₀ c d) (status : Status) : Frozen (boot status d) .empty := by
  have hoff := boot_not_running h₀ hc hd
  refine .of_idle rfl ActiveMap.wellformed_boot
    (fun hr => absurd (hoff.symm.trans hr) (by simp)) ?_
  rintro ⟨t, -, hres⟩
  exact absurd hres List.not_mem_nil

variable {x y : Robot F D B × Register}

/-- A run keeps the map frozen. -/
theorem Frozen.watched {l : List (Deed F D)} (h : Frozen x.1 x.2) (hs : Sound s5 x.1 x.2)
    (hl : Run.Path (Watched s5) x l y) : Frozen y.1 y.2 ∧ Sound s5 y.1 y.2 := by
  refine hl.invariant
    (I := fun z : Robot F D B × Register => Frozen z.1 z.2 ∧ Sound s5 z.1 z.2) ?_ ⟨h, hs⟩
  rintro z a z' ⟨hf, hs⟩ ⟨hstep, hb⟩
  rw [hb]
  exact ⟨hf.step hs hstep, hs.step hstep⟩

/-- A started robot keeps its map. -/
theorem Frozen.map_stays (h : Frozen s b) (hsound : Sound s5 s b) (hb : b.Started)
    (hstep : Step s5 s a s') : s'.activeMap = s.activeMap := by
  obtain ⟨hlatched, -, hopen⟩ := h.started hb
  have hexec {now : UInt32} {r : ControlRequest} {l : List (Made F D)} {x : Option Bool}
      {e : Robot F D B} (hx : s.Executes s5 now r l x e) : e.activeMap = s.activeMap := by
    rcases hx.table hsound.drive with ⟨hmap, -⟩ | ⟨hno, -⟩
    · exact hmap
    · cases hno.symm.trans hlatched
  cases hstep with
  | submit | quiet | stop | sample | unmapped | started | unstarted | begun | unbegun | unpacked =>
    rfl
  | network payload =>
    rcases commandProcess_cases s.activeMap payload with ⟨-, -, hno, -⟩ | ⟨hsame, -⟩
    · cases hno.symm.trans hlatched
    · exact hsame
  | finish _ _ _ hx | wait _ _ _ hx =>
    have hmap := hexec hx
    exact hmap
  | claim _ _ _ _ _ hc =>
    obtain ⟨-, -, rfl⟩ := of_configurationClaim hc
    exact ActiveMap.closed_of_latched hlatched
  | reopen hc =>
    rw [hc] at hopen
    exact absurd trivial hopen

theorem Frozen.map_stays_forever {l : List (Deed F D)} (h : Frozen x.1 x.2) (hs : Sound s5 x.1 x.2)
    (hb : x.2.Started) (hl : Run.Path (Watched s5) x l y) : y.1.activeMap = x.1.activeMap := by
  suffices hI : (Frozen y.1 y.2 ∧ Sound s5 y.1 y.2) ∧ y.2.Started ∧
      y.1.activeMap = x.1.activeMap from hI.2.2
  refine hl.invariant
    (I := fun z : Robot F D B × Register => (Frozen z.1 z.2 ∧ Sound s5 z.1 z.2) ∧ z.2.Started ∧
      z.1.activeMap = x.1.activeMap) ?_ ⟨⟨h, hs⟩, hb, rfl⟩
  rintro z a z' ⟨⟨hf, hs⟩, hst, hmap⟩ ⟨hstep, hz⟩
  rw [hz]
  exact ⟨⟨hf.step hs hstep, hs.step hstep⟩, started_after_of_started hst _ _,
    (hf.map_stays hs hst hstep).trans hmap⟩

/-! ## A START that fails -/

/-- The blocks from the owner's first block on a START to the one with its result. -/
structure Attempts (l : List (Deed F D)) (ok : Bool) : Prop where
  first : ∃ block calls rest, l = .owner block calls :: rest
  last : ∃ rest a, l = rest ++ [a] ∧ a.block = some (.finish ok) ∧
    ∀ d ∈ rest, ∀ r, d.block ≠ some (.finish r)

def Turn (s : Robot F D B) : Prop :=
  s.desk.stage = .executing ∧ s.desk.Holds .start ∧ s.starting = .idle

/-- How the map of a START under way comes from the map `m₀` that it found. -/
def Taken (m₀ : ActiveMap) (s : Robot F D B) : Prop :=
  s.activeMap = m₀.closed ∧
    match s.starting with
    | .idle => False
    | .claimed _ newly | .begun newly => newly = !m₀.latched
    | .reopening => m₀.latched = false

omit [CFloat F] [CFloat D] [CDouble F D] in
theorem Taken.ne_idle {m₀ : ActiveMap} (h : Taken m₀ s) : s.starting ≠ .idle := by
  intro hi
  obtain ⟨-, hm⟩ := h
  rw [hi] at hm
  exact hm

theorem Turn.first (h : s.Turn) {block : Option Block} {calls : List (Made F D)}
    (hstep : Step s5 s (.owner block calls) s') :
    (∃ ok, block = some (.finish ok)) ∧ s'.activeMap = s.activeMap ∨ Taken s.activeMap s' := by
  obtain ⟨hs, hk, hi⟩ := h
  have helse {x : Desk.Stage} (hx : s.desk.stage = x) (hne : x ≠ .executing) : False :=
    hne (hx.symm.trans hs)
  have hstarted {x : Starting} (hx : s.starting = x) (hne : x ≠ .idle) : False :=
    hne (hx.symm.trans hi)
  have hkind {r : ControlRequest} (hr : s.desk.taken = some r) : r.kind = .start := by
    rw [Desk.Holds, hr] at hk
    exact Option.some.inj hk
  cases hstep with
  | quiet hb hready =>
    rcases quiet_stage hb hready with hne | hn
    · exact absurd hs hne
    · rw [Desk.Holds, hn] at hk
      cases hk
  | stop hready => exact (helse hready.1 (by simp)).elim
  | sample hst => exact (helse hst (by simp)).elim
  | finish _ _ hr hx =>
    have hmap := (hx.start_refused (hkind hr)).2
    exact .inl ⟨⟨_, rfl⟩, hmap⟩
  | wait _ _ hr hx => exact absurd ((hkind hr).symm.trans (hx.spec.2.2.2 rfl)) (by simp)
  | claim _ _ _ _ _ hc =>
    obtain ⟨-, rfl, rfl⟩ := of_configurationClaim hc
    exact .inr ⟨rfl, rfl⟩
  | unmapped hc | started hc | unstarted hc | begun hc | unbegun hc | reopen hc =>
    exact (hstarted hc (by rintro ⟨⟩)).elim
  | unpacked hready => exact (helse hready (by simp)).elim

/-- One deed while a START is in hand. -/
theorem Taken.step {m₀ : ActiveMap} (h : Taken m₀ s) (hf : Frozen s b) (hsound : Sound s5 s b)
    (hstep : Step s5 s a s') :
    (∀ ok, a.block ≠ some (.finish ok)) ∧ Taken m₀ s' ∨
      ∃ ok, a.block = some (.finish ok) ∧ (ok = false → s'.activeMap = m₀) := by
  have hne := h.ne_idle
  obtain ⟨hs, hk⟩ := hsound.start hne
  have hlatched := hf.closed hne
  have helse {x : Desk.Stage} (hx : s.desk.stage = x) (hx' : x ≠ .executing) : False :=
    hx' (hx.symm.trans hs)
  obtain ⟨hmap, hnew⟩ := h
  -- a START that found the map frozen leaves it so, one that froze it opens it again
  have hrefused {d : Drive F D B} {newly : Bool} (hn : newly = !m₀.latched) :
      (∀ ok, refusal newly ≠ some (.finish ok)) ∧ Taken m₀ (s.refused d newly) ∨
        ∃ ok, refusal newly = some (.finish ok) ∧
          (ok = false → (s.refused d newly).activeMap = m₀) := by
    cases newly with
    | true =>
      have hopen : m₀.latched = false := by simpa using hn.symm
      exact .inl ⟨(by rintro _ ⟨⟩), hmap, hopen⟩
    | false =>
      refine .inr ⟨false, rfl, fun _ => hmap.trans (ActiveMap.closed_of_latched ?_)⟩
      simpa using hn.symm
  cases hstep with
  | submit => exact .inl ⟨(by rintro _ ⟨⟩), hmap, hnew⟩
  | network payload =>
    refine .inl ⟨(by rintro _ ⟨⟩), ?_, hnew⟩
    rcases commandProcess_cases s.activeMap payload with ⟨-, -, hno, -⟩ | ⟨hsame, -⟩
    · cases hno.symm.trans hlatched
    · exact hsame.trans hmap
  | quiet hb hready =>
    rcases quiet_stage hb hready with hst | hn
    · exact absurd hs hst
    · rw [Desk.Holds, hn] at hk
      cases hk
  | stop hready => exact (helse hready.1 (by simp)).elim
  | sample hst => exact (helse hst (by simp)).elim
  | finish hi | wait hi | claim hi => exact absurd hi hne
  | unmapped hc | unstarted hc | unbegun hc =>
    rw [hc] at hnew
    exact hrefused hnew
  | started hc =>
    rw [hc] at hnew
    exact .inl ⟨(by rintro _ ⟨⟩), hmap, hnew⟩
  | begun => exact .inr ⟨true, rfl, (by simp)⟩
  | reopen hc =>
    rw [hc] at hnew
    refine .inr ⟨false, rfl, fun _ => ?_⟩
    change s.activeMap.masked = m₀
    rw [hmap, ActiveMap.masked_closed, ActiveMap.masked_of_open hnew]
  | unpacked hready => exact (helse hready (by simp)).elim

theorem Taken.watched {m₀ : ActiveMap} {l : List (Deed F D)} (h : Taken m₀ x.1)
    (hf : Frozen x.1 x.2) (hs : Sound s5 x.1 x.2) (hl : Run.Path (Watched s5) x l y)
    (hno : ∀ a ∈ l, ∀ ok, a.block ≠ some (.finish ok)) : Taken m₀ y.1 := by
  induction hl with
  | nil => exact h
  | @snoc l y z a hl ha ih =>
    obtain ⟨hf', hs'⟩ := hf.watched hs hl
    have hy := ih fun c hc => hno c (List.mem_append_left _ hc)
    rcases hy.step hf' hs' ha.1 with ⟨-, hz⟩ | ⟨ok, hok, -⟩
    · exact hz
    · exact absurd hok (hno a (List.mem_append_right _ (List.mem_singleton_self a)) ok)

/-- **A START that is refused leaves the map as it found it.** -/
theorem Turn.refused {l : List (Deed F D)} (h : x.1.Turn) (hf : Frozen x.1 x.2)
    (hs : Sound s5 x.1 x.2) (hl : Run.Path (Watched s5) x l y) (ha : Attempts l false) :
    y.1.activeMap = x.1.activeMap := by
  obtain ⟨⟨block, calls, tail, rfl⟩, rest, a, hsplit, hlast, hno⟩ := ha
  obtain ⟨z, hfirst, htail⟩ := hl.uncons
  have hz := hf.watched hs (.snoc .nil hfirst)
  cases rest with
  | nil =>
    obtain ⟨rfl, rfl⟩ := List.cons.inj hsplit
    obtain rfl := htail.eq_of_nil
    rcases h.first hfirst.1 with ⟨-, hmap⟩ | htaken
    · exact hmap
    · -- a block with the result has ended the START
      have hidle := hz.2.start htaken.ne_idle
      have hdesk := (hfirst.1.desk hs.start).1
      rw [hlast] at hdesk
      rw [hdesk] at hidle
      obtain ⟨-, hk⟩ := hidle
      cases hk
  | cons =>
    obtain ⟨rfl, rfl⟩ := List.cons.inj hsplit
    obtain ⟨w, hmid, hend⟩ := htail.unsnoc
    rcases h.first hfirst.1 with ⟨⟨ok, hok⟩, -⟩ | htaken
    · exact absurd hok (hno _ List.mem_cons_self ok)
    · obtain ⟨hfw, hsw⟩ := hz.1.watched hz.2 hmid
      have hw := htaken.watched hz.1 hz.2 hmid fun d hd => hno d (List.mem_cons_of_mem _ hd)
      rcases hw.step hfw hsw hend.1 with ⟨hnot, -⟩ | ⟨ok, hok, hmap⟩
      · exact absurd hlast (hnot false)
      · obtain rfl : false = ok := by simpa using hlast.symm.trans hok
        exact hmap rfl

/-- **The map is frozen by the first run.**  After a successful START the latched map never changes,
and the table of an active navigation is its expansion; a refused START leaves the map as it was; a
map command is answered OK exactly if its map was installed. -/
theorem map_frozen {config : NavConfig F D} {d₀ d : Drive F D B} {c : List (Made F D)}
    (h₀ : Drive.init config = some d₀) (hc : ∀ m ∈ c, m.op.configures = true)
    (hd : Driving.Runs s5 d₀ c d) (status : Status) {l : List (Deed F D)}
    (hl : Run.Path (Watched s5) (boot status d, .empty) l (s, b)) :
    (b.Started → s.activeMap.latched = true ∧
      ∀ l' y, Run.Path (Watched s5) (s, b) l' y → y.1.activeMap = s.activeMap) ∧
    (s.drive.navigation.lifecycle = .active →
      (∃ map, mapUnpack s.activeMap.masked = some map ∧
        s.drive.navigation.config.map = expand map) ∧
      ∀ i, barcodeAction s.activeMap (letterOf i) =
        actionFor (s.drive.navigation.config.map i)) ∧
    (s.Turn → ∀ l' y, Run.Path (Watched s5) (s, b) l' y → Attempts l' false →
      y.1.activeMap = s.activeMap) ∧
    ∀ payload reply s', Step s5 s (.network payload (some reply)) s' →
      (reply = .ok ↔ ∃ map, mapUnpack payload = some map ∧ mapPack map = some s'.activeMap) := by
  obtain ⟨hf, hs⟩ := (Frozen.boot h₀ hc hd status).watched (Sound.boot h₀ hc hd status) hl
  refine ⟨fun hb => ⟨(hf.started hb).1, fun l' y => hf.map_stays_forever hs hb⟩, fun hactive => ?_,
    fun ht l' y => ht.refused hf hs, fun payload reply s' hstep => ?_⟩
  · obtain ⟨map, hmap, htable⟩ := (hf.running (hs.drive.active.2 hactive)).2
    refine ⟨⟨map, hmap, htable⟩, fun i => ?_⟩
    rw [htable, barcodeAction_eq_expand hmap]
  · generalize ha : Deed.network payload (some reply) = a at hstep
    cases hstep with
    | network payload' sends =>
      cases sends with
      | false => cases ha
      | true =>
        obtain ⟨rfl, hreply⟩ := Deed.network.inj ha
        obtain rfl := Option.some.inj hreply
        exact commandProcess_ok_iff s.activeMap payload
    | _ => cases ha

/-! ## A bench -/

section Bench

def benchCalibrated : List (Made ℚ ℚ) × Drive ℚ ℚ benchReaders :=
  obliged false benchDrive (benchReady.take 3)

/-- A START waits, the owner has looked, and the desk is at the sampling block. -/
def benchWaiting : List Block := [.submit { kind := .start }, .take, .pass]

/-- The calibrated bench after some blocks that only move the desk. -/
def benchMoved (l : List Block) : Robot ℚ ℚ benchReaders × Register :=
  let x := l.foldl (fun x a => (x.1.act a, x.2.next x.1 a)) (Desk.boot benchStatus, Register.empty)
  ({ boot benchStatus benchCalibrated.2 with desk := x.1 }, x.2)

def benchSample : Made ℚ ℚ × Drive ℚ ℚ benchReaders :=
  obligedCall false benchCalibrated.2 (benchCycle 10000 1000 1000 .idle 0) []

def benchTable : Made ℚ ℚ × Drive ℚ ℚ benchReaders :=
  obligedCall false benchSample.2 (.setMapping (expand ⟨65, 66, 67, 68⟩)) []

def benchGo : Made ℚ ℚ × Drive ℚ ℚ benchReaders := obligedCall false benchTable.2 (.start 10000) []

def benchTurn : Robot ℚ ℚ benchReaders × Register :=
  let x := benchMoved benchWaiting
  ({ x.1 with
      desk := x.1.desk.act (.sample (resetOf benchSample.2)), drive := benchSample.2
      collection := x.1.collection.sampled (benchFrame 10000 1000 1000) },
    x.2.next x.1.desk (.sample (resetOf benchSample.2)))

def benchClaimed : Robot ℚ ℚ benchReaders × Register :=
  ({ benchTurn.1 with
      activeMap := ActiveMap.boot.closed, starting := .claimed ⟨65, 66, 67, 68⟩ true }, benchTurn.2)

def benchStarted : Robot ℚ ℚ benchReaders × Register :=
  ({ benchClaimed.1 with drive := benchGo.2, starting := .begun true }, benchClaimed.2)

def benchDriving : Robot ℚ ℚ benchReaders × Register :=
  ({ benchStarted.1 with desk := benchStarted.1.desk.act (.finish true), starting := .idle },
    benchStarted.2.next benchStarted.1.desk (.finish true))

theorem bench_taken : benchTurn.1.desk.taken.isSome := by decide +kernel

theorem bench_driving : Run.Path (Watched false) (benchMoved [])
    [.submit { kind := .start }, .owner (some .take) [], .owner (some .pass) [],
      .owner (some (.sample (resetOf benchSample.2))) [benchSample.1], .owner none [],
      .owner none [benchTable.1, benchGo.1], .owner (some (.finish true)) []] benchDriving := by
  have h₁ : Watched false (benchMoved []) (.submit { kind := .start })
      (benchMoved [.submit { kind := .start }]) := ⟨.submit _, rfl⟩
  have h₂ : Watched false (benchMoved [.submit { kind := .start }]) (.owner (some .take) [])
      (benchMoved [.submit { kind := .start }, .take]) := ⟨.quiet rfl (by decide +kernel), rfl⟩
  have h₃ : Watched false (benchMoved [.submit { kind := .start }, .take])
      (.owner (some .pass) []) (benchMoved benchWaiting) := ⟨.quiet rfl (by decide +kernel), rfl⟩
  have h₄ : Watched false (benchMoved benchWaiting)
      (.owner (some (.sample (resetOf benchSample.2))) ([] ++ [benchSample.1])) benchTurn :=
    ⟨.sample (by decide +kernel) (List.forall_mem_nil _) .nil rfl
      (step_obligedCall false benchCalibrated.2 _ []), rfl⟩
  have heligible : benchTurn.1.eligible true 10000 := by decide +kernel
  have h₅ : Watched false benchTurn (.owner none []) benchClaimed :=
    ⟨.claim rfl (by decide +kernel) (Option.some_get bench_taken).symm (by decide +kernel) heligible
      (by decide +kernel), rfl⟩
  have h₆ : Watched false benchClaimed (.owner none [benchTable.1, benchGo.1]) benchStarted :=
    ⟨.started rfl rfl (step_obligedCall false benchSample.2 _ []) (by decide +kernel) rfl
      (step_obligedCall false benchTable.2 _ []) (by decide +kernel), rfl⟩
  have h₇ : Watched false benchStarted (.owner (some (.finish true)) []) benchDriving :=
    ⟨.begun rfl, rfl⟩
  exact .snoc (.snoc (.snoc (.snoc (.snoc (.snoc (.snoc .nil h₁) h₂) h₃) h₄) h₅) h₆) h₇

/-- The first START of the bench succeeds: the map is latched, and what is reported for a letter is
what the drive does. -/
theorem map_frozen_bench : benchDriving.2.Started ∧
    benchDriving.1.drive.navigation.lifecycle = .active ∧
    benchDriving.1.activeMap.latched = true ∧
    ∀ i, barcodeAction benchDriving.1.activeMap (letterOf i) =
      actionFor (benchDriving.1.drive.navigation.config.map i) := by
  have hstarted : benchDriving.2.Started := ⟨0, by decide +kernel, by decide +kernel⟩
  have hactive : benchDriving.1.drive.navigation.lifecycle = .active := by decide +kernel
  have h := map_frozen init_benchConfig (by decide +kernel)
    (runs_obliged false benchDrive (benchReady.take 3)) benchStatus bench_driving
  exact ⟨hstarted, hactive, (h.1 hstarted).1, (h.2.1 hactive).2⟩

/-- A map command on a full outbox: the map E/F/G/H is installed, and no reply is queued. -/
theorem map_installed_unanswered :
    ∃ s', Run.Path (Step false) (boot benchStatus benchDrive)
        [.network [wireVersion, 0xa4, 0x98, 0x03] none] s' ∧
      mapUnpack [wireVersion, 0xa4, 0x98, 0x03] = some ⟨69, 70, 71, 72⟩ ∧
      mapPack ⟨69, 70, 71, 72⟩ = some s'.activeMap :=
  ⟨_, .snoc .nil (.network _ false), by decide +kernel, by decide +kernel⟩

end Bench

end Robot

end RoboticCar.Integration
