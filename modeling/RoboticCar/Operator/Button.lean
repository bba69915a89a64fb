import RoboticCar.Lib.Clock
import RoboticCar.Lib.Debounce
import RoboticCar.Operator.Logic

/-!
# The buttons of the panel

`op_button_update` debounces one button: a level counts after 30 ms, and a button that is held at
power-up is ignored until it was seen released for 100 ms.  A history is a list of polls at true
times; `Edge` and `Pressed` say what its last poll reports, and `button_debounced` when.
-/

namespace RoboticCar.Operator

open Lib Debounce

def debounceMs : UInt32 := 30
def releaseMs : UInt32 := 100
def longPressMs : UInt32 := 2000

structure Button where
  sinceMs : UInt32
  pressedMs : UInt32
  seen : Bool
  raw : Bool
  stable : Bool
  armed : Bool

namespace Button

/-- `op_button_init`. -/
def init : Button := ⟨0, 0, false, false, false, false⟩

/-- The settled level of `op_button_update`: the press, the edge and the button. -/
def settle (b : Button) (nowMs : UInt32) : Press × Bool × Button :=
  if b.raw ≠ b.stable ∧ nowMs - b.sinceMs ≥ debounceMs then
    let b' := { b with stable := b.raw }
    if b.raw then (.none, b.armed, { b' with pressedMs := b.sinceMs })
    else if b.armed then
      (if b.sinceMs - b.pressedMs ≥ longPressMs then .long else .short, false, b')
    else (.none, false, b')
  else (.none, false, b)

/-- `op_button_update`: the press, the edge and the button. -/
def update (b : Button) (down : Bool) (nowMs : UInt32) : Press × Bool × Button :=
  if !b.seen ∨ down ≠ b.raw then
    (.none, false, { b with seen := true, raw := down, sinceMs := nowMs })
  else
    let r := b.settle nowMs
    let b := r.2.2
    -- a button held at power-up is ignored until it is seen released
    if !b.armed ∧ !b.raw ∧ !b.stable ∧ nowMs - b.sinceMs ≥ releaseMs then
      (r.1, r.2.1, { b with armed := true })
    else r

variable (b : Button) (down : Bool) (nowMs : UInt32)

def Steady (ms : UInt32) : Prop := b.seen = true ∧ down = b.raw ∧ nowMs - b.sinceMs ≥ ms

instance (ms : UInt32) : Decidable (b.Steady down nowMs ms) :=
  inferInstanceAs (Decidable (_ ∧ _ ∧ _))

/-- What a poll reports and how it leaves the button. -/
structure Updated (r : Press × Bool × Button) : Prop where
  edge : r.2.1 = true ↔
    b.Steady down nowMs debounceMs ∧ down = true ∧ b.stable = false ∧ b.armed = true
  press : r.1 ≠ .none ↔
    b.Steady down nowMs debounceMs ∧ down = false ∧ b.stable = true ∧ b.armed = true
  long : r.1 ≠ .none → (r.1 = .long ↔ b.sinceMs - b.pressedMs ≥ longPressMs)
  seen : r.2.2.seen = true
  raw : r.2.2.raw = down
  sinceMs : r.2.2.sinceMs = if b.seen = true ∧ down = b.raw then b.sinceMs else nowMs
  armed : r.2.2.armed = true → b.armed = true ∨ b.Steady down nowMs releaseMs ∧ down = false
  on : (r.2.2.stable = true ∧ r.2.2.armed = true) ↔
    ((b.stable = true ∧ b.armed = true) ∨ r.2.1 = true) ∧ ¬r.1 ≠ .none
  pressedMs : r.2.2.pressedMs =
    if b.Steady down nowMs debounceMs ∧ down = true ∧ b.stable = false then b.sinceMs
    else b.pressedMs

theorem update_updated : Updated b down nowMs (b.update down nowMs) := by
  unfold update settle
  constructor <;> grind [Steady]

/-! ## Histories -/

/-- A poll of the button at a true time in milliseconds. -/
structure Poll where
  down : Bool
  time : ℕ

/-- What the last poll of a history reports, and the button after it. -/
def run (h : List Poll) : Press × Bool × Button :=
  h.foldl (fun r x => r.2.2.update x.down (Clock.reading x.time)) (.none, false, init)

def after (h : List Poll) : Button := (run h).2.2

def Edge (h : List Poll) : Prop := (run h).2.1 = true

def Pressed (h : List Poll) : Prop := (run h).1 ≠ .none

instance : DecidablePred Edge := fun _ => inferInstanceAs (Decidable (_ = _))

instance : DecidablePred Pressed := fun _ => inferInstanceAs (Decidable (_ ≠ _))

theorem run_snoc (h : List Poll) (x : Poll) :
    run (h ++ [x]) = (after h).update x.down (Clock.reading x.time) := by
  simp [run, after]

theorem run_updated (h : List Poll) (x : Poll) :
    Updated (after h) x.down (Clock.reading x.time) (run (h ++ [x])) := by
  rw [run_snoc]
  exact update_updated ..

/-- The last raw change of a history is at the poll `x`. -/
def LastChange (h : List Poll) (x : Poll) : Prop :=
  ∃ u v, h = u ++ x :: v ∧ (∀ y ∈ v, y.down = x.down) ∧ ∀ z, u.getLast? = some z → z.down ≠ x.down

/-- The raw level at the end of a history was unchanged at all polls for the time. -/
def Unchanged (level : Bool) (ms : ℕ) (h : List Poll) : Prop :=
  ∃ x y, LastChange h x ∧ h.getLast? = some y ∧ x.down = level ∧ x.time + ms ≤ y.time

variable {h : List Poll} {x : Poll}

theorem lastChange_new (hx : ∀ z, h.getLast? = some z → z.down ≠ x.down) :
    LastChange (h ++ [x]) x :=
  ⟨h, [], rfl, by simp, hx⟩

variable {y : Poll}

theorem LastChange.snoc (hx : LastChange h x) (hy : y.down = x.down) : LastChange (h ++ [y]) x := by
  obtain ⟨u, v, rfl, hv, hu⟩ := hx
  refine ⟨u, v ++ [y], by simp, ?_, hu⟩
  intro z hz
  rcases List.mem_append.1 hz with hz | hz
  · exact hv z hz
  · exact (List.mem_singleton.1 hz) ▸ hy

theorem LastChange.getLast? (hx : LastChange h x) :
    ∃ y, h.getLast? = some y ∧ y.down = x.down ∧ x ∈ h := by
  obtain ⟨u, v, rfl, hv, -⟩ := hx
  rcases v.eq_nil_or_concat with rfl | ⟨v, y, rfl⟩
  · exact ⟨x, by simp, rfl, by simp⟩
  · rw [List.concat_eq_append] at *
    refine ⟨y, ?_, hv y (by simp), by simp⟩
    rw [← List.cons_append, ← List.append_assoc, List.getLast?_concat]

theorem LastChange.unique (hx : LastChange h x) (hy : LastChange h y) : x = y := by
  -- of two such polls the earlier one would have a poll of its own level before the later one
  have hlater : ∀ {u a v v' : List Poll} {x y : Poll}, x :: v = a ++ y :: v' →
      (∀ z ∈ v, z.down = x.down) → (∀ z, (u ++ a).getLast? = some z → z.down ≠ y.down) →
      x = y := by
    intro u a v v' x y hxv hv hu
    cases a with
    | nil => exact (List.cons.inj hxv).1
    | cons z a =>
      obtain ⟨rfl, rfl⟩ := List.cons.inj hxv
      have hsame : ∀ z ∈ x :: a, z.down = y.down := by
        intro z hz
        rw [hv y (by simp)]
        rcases List.mem_cons.1 hz with rfl | hz
        · rfl
        · exact hv z (by simp [hz])
      obtain ⟨z, hz⟩ : ∃ z, (x :: a).getLast? = some z := ⟨_, List.getLast?_cons⟩
      refine absurd (hsame z (List.mem_of_getLast? hz)) (hu z ?_)
      rw [List.getLast?_append, hz]
      rfl
  obtain ⟨u, v, rfl, hv, hu⟩ := hx
  obtain ⟨u', v', h, hv', hu'⟩ := hy
  rcases List.append_eq_append_iff.1 h with ⟨a, rfl, ha⟩ | ⟨a, rfl, ha⟩
  · exact hlater ha hv hu'
  · exact (hlater ha hv' hu).symm

/-! ## What the button knows of its history -/

def Timely (l : List Poll) : Prop := l.Pairwise fun x y => x.time ≤ y.time

instance (l : List Poll) : Decidable (Timely l) := inferInstanceAs (Decidable (l.Pairwise _))

theorem seen_after (hh : (after h).seen = true) :
    ∃ x, LastChange h x ∧ (after h).raw = x.down ∧
      (after h).sinceMs = Clock.reading x.time := by
  induction h using List.reverseRecOn with
  | nil => simp [after, run, init] at hh
  | append_singleton h x ih =>
    have hr := run_updated h x
    by_cases hsame : (after h).seen = true ∧ x.down = (after h).raw
    · obtain ⟨y, hy, hraw, hsince⟩ := ih hsame.1
      refine ⟨y, hy.snoc (hsame.2.trans hraw), hr.raw.trans (hsame.2.trans hraw), ?_⟩
      rw [← hsince]
      exact hr.sinceMs.trans (if_pos hsame)
    · refine ⟨x, lastChange_new ?_, hr.raw, hr.sinceMs.trans (if_neg hsame)⟩
      intro z hz hzx
      obtain ⟨h', rfl⟩ := List.getLast?_eq_some_iff.1 hz
      have hr' := run_updated h' z
      exact hsame ⟨hr'.seen, hzx.symm.trans hr'.raw.symm⟩

theorem unchanged_of_steady {ms : UInt32} (ht : Timely (h ++ [x]))
    (hs : (after h).Steady x.down (Clock.reading x.time) ms) :
    Unchanged x.down ms.toNat (h ++ [x]) := by
  obtain ⟨hseen, hdown, hms⟩ := hs
  obtain ⟨y, hy, hraw, hsince⟩ := seen_after hseen
  have hyx : y.time ≤ x.time :=
    (List.pairwise_append.1 ht).2.2 y hy.getLast?.choose_spec.2.2 x (by simp)
  refine ⟨y, x, hy.snoc (hdown.trans hraw), by simp, (hdown.trans hraw).symm, ?_⟩
  rw [hsince, ge_iff_le, UInt32.le_iff_toNat_le] at hms
  have hle := hms.trans (Clock.toNat_sub_le hyx)
  omega

theorem released_of_armed (ht : Timely h) (hh : (after h).armed = true) :
    ∃ a, a <+: h ∧ Unchanged false releaseMs.toNat a := by
  induction h using List.reverseRecOn with
  | nil => simp [after, run, init] at hh
  | append_singleton h x ih =>
    rcases (run_updated h x).armed hh with harmed | ⟨hsteady, hdown⟩
    · obtain ⟨a, ha, hrel⟩ := ih (List.pairwise_append.1 ht).1 harmed
      exact ⟨a, ha.trans (List.prefix_append _ _), hrel⟩
    · exact ⟨h ++ [x], List.prefix_refl _, hdown ▸ unchanged_of_steady ht hsteady⟩

def On (h : List Poll) : Prop := (after h).stable = true ∧ (after h).armed = true

/-- An armed button whose level was seen pressed for long enough at the last poll. -/
def Settled (h : List Poll) : Prop :=
  ∃ h' x, h = h' ++ [x] ∧ (after h').Steady x.down (Clock.reading x.time) debounceMs ∧
    x.down = true ∧ (after h').armed = true

theorem latch (l : List Poll) : Latch l Edge Pressed Settled On := by
  refine ⟨by simp [On, after, run, init], ?_, ?_, ?_, by simp [Edge, run]⟩
  · intro h x _
    rw [Edge, (run_updated h x).edge, Settled, On]
    constructor
    · rintro ⟨hsteady, hdown, hstable, harmed⟩
      exact ⟨⟨h, x, rfl, hsteady, hdown, harmed⟩, by simp [hstable]⟩
    · rintro ⟨⟨h', x', heq, hsteady, hdown, harmed⟩, hoff⟩
      obtain ⟨rfl, hx⟩ := List.append_inj' heq rfl
      obtain rfl := List.singleton_inj.1 hx
      exact ⟨hsteady, hdown, by simpa [harmed] using hoff, harmed⟩
  · intro h x _
    exact (run_updated h x).on
  · rintro h - ⟨⟨h', x, rfl, -, hdown, -⟩, hpressed⟩
    have hup := ((run_updated h' x).press.1 hpressed).2.1
    rw [hup] at hdown
    cases hdown

theorem pressedMs_of_on (hon : On h) :
    ∃ a b y, h = a ++ b ∧ Edge a ∧ Silent Edge a b ∧ LastChange a y ∧
      (after h).pressedMs = Clock.reading y.time := by
  induction h using List.reverseRecOn with
  | nil => simp [On, after, run, init] at hon
  | append_singleton h x ih =>
    have hr := run_updated h x
    have hnil : ∀ c : List Poll, Silent Edge c [] := by
      intro c b₁ b₂ hb
      simp [(List.append_eq_nil_iff.1 hb.symm).1]
    by_cases hedge : Edge (h ++ [x])
    · obtain ⟨hsteady, hdown, hstable, -⟩ := hr.edge.1 hedge
      obtain ⟨y, hy, hraw, hsince⟩ := seen_after hsteady.1
      refine ⟨h ++ [x], [], y, by simp, hedge, hnil _, hy.snoc (hsteady.2.1.trans hraw), ?_⟩
      rw [← hsince]
      exact hr.pressedMs.trans (if_pos ⟨hsteady, hdown, hstable⟩)
    · have hbefore : On h := (hr.on.1 hon).1.resolve_right hedge
      obtain ⟨a, b, y, rfl, ha, hb, hy, hms⟩ := ih hbefore
      refine ⟨a, b ++ [x], y, by simp, ha, silent_snoc.2 ⟨hb, hedge⟩, hy, ?_⟩
      rw [← hms]
      exact hr.pressedMs.trans (if_neg fun hc => by simp [hbefore.1] at hc)

/-! ## Debouncing -/

/-- The reports along a history. -/
structure Debounced (l : List Poll) : Prop where
  apart : ∀ h, h <+: l → ¬(Edge h ∧ Pressed h)
  press_between : ∀ a b, a ++ b <+: l → b ≠ [] → Edge a → Edge (a ++ b) →
    ∃ b₁ b₂, b = b₁ ++ b₂ ∧ b₁ ≠ [] ∧ b₂ ≠ [] ∧ Pressed (a ++ b₁)
  edge_between : ∀ a b, a ++ b <+: l → b ≠ [] → a = [] ∨ Pressed a → Pressed (a ++ b) →
    ∃ b₁ b₂, b = b₁ ++ b₂ ∧ b₁ ≠ [] ∧ b₂ ≠ [] ∧ Edge (a ++ b₁)
  released : ∀ h x, h ++ [x] <+: l → Edge (h ++ [x]) ∨ Pressed (h ++ [x]) →
    ∃ a, a <+: h ∧ Unchanged false 100 a
  unchanged : ∀ h, h <+: l →
    (Edge h → Unchanged true 30 h) ∧ (Pressed h → Unchanged false 30 h)
  long : ∀ a b x y, a ++ b <+: l → Edge a → Silent Edge a b → Pressed (a ++ b) →
    LastChange a x → LastChange (a ++ b) y → y.time - x.time < 2 ^ 32 →
    ((run (a ++ b)).1 = .long ↔ 2000 ≤ y.time - x.time)

theorem on_of_pressed (hp : Pressed (h ++ [x])) : On h :=
  ((run_updated h x).press.1 hp).2.2

theorem edge_before_press {a b : List Poll} (hb : b ≠ []) (ha : a = [] ∨ Pressed a)
    (hab : Pressed (a ++ b)) :
    ∃ b₁ b₂, b = b₁ ++ b₂ ∧ b₁ ≠ [] ∧ b₂ ≠ [] ∧ Edge (a ++ b₁) := by
  obtain ⟨c, x, rfl⟩ := b.eq_nil_or_concat.resolve_left hb
  rw [List.concat_eq_append, ← List.append_assoc] at hab
  have hoff : ¬On a := (latch a).off_of_release (List.prefix_refl a) ha
  obtain ⟨b₁, b₂, rfl, hne, hE⟩ :=
    (latch (a ++ c)).set_between (List.prefix_refl _) hoff (on_of_pressed hab)
  exact ⟨b₁, b₂ ++ [x], by simp, hne, by simp, hE⟩

theorem exists_snoc (hh : Edge h ∨ Pressed h) : ∃ h' x, h = h' ++ [x] := by
  rcases h.eq_nil_or_concat with rfl | ⟨h', x, rfl⟩
  · simp [Edge, Pressed, run] at hh
  · exact ⟨h', x, List.concat_eq_append⟩

theorem unchanged_of_report (ht : Timely h) :
    (Edge h → Unchanged true 30 h) ∧ (Pressed h → Unchanged false 30 h) := by
  constructor
  · intro hh
    obtain ⟨h, x, rfl⟩ := exists_snoc (.inl hh)
    obtain ⟨hsteady, hdown, -⟩ := (run_updated h x).edge.1 hh
    exact hdown ▸ unchanged_of_steady ht hsteady
  · intro hh
    obtain ⟨h, x, rfl⟩ := exists_snoc (.inr hh)
    obtain ⟨hsteady, hdown, -⟩ := (run_updated h x).press.1 hh
    exact hdown ▸ unchanged_of_steady ht hsteady

theorem LastChange.time_le (ht : Timely h) (hy : LastChange h y) (hx : x ∈ h)
    (hxy : x.down ≠ y.down) : x.time ≤ y.time := by
  obtain ⟨u, v, rfl, hv, -⟩ := hy
  rcases List.mem_append.1 hx with hx | hx
  · exact (List.pairwise_append.1 ht).2.2 x hx y (by simp)
  · rcases List.mem_cons.1 hx with rfl | hx
    · exact absurd rfl hxy
    · exact absurd (hv x hx) hxy

theorem long_iff {a b : List Poll} (ht : Timely (a ++ b)) (ha : Edge a) (hb : Silent Edge a b)
    (hp : Pressed (a ++ b)) (hx : LastChange a x) (hy : LastChange (a ++ b) y)
    (hshort : y.time - x.time < 2 ^ 32) : (run (a ++ b)).1 = .long ↔ 2000 ≤ y.time - x.time := by
  obtain ⟨x', -, hx', -, hxdown, -⟩ :=
    (unchanged_of_report (List.pairwise_append.1 ht).1).1 ha
  obtain ⟨y', -, hy', -, hydown, -⟩ := (unchanged_of_report ht).2 hp
  obtain rfl := hx.unique hx'
  obtain rfl := hy.unique hy'
  have hle : x.time ≤ y.time :=
    hy.time_le ht (List.mem_append_left b hx.getLast?.choose_spec.2.2) (by simp [hxdown, hydown])
  obtain ⟨c, z, rfl⟩ : ∃ c z, b = c ++ [z] := by
    rcases b.eq_nil_or_concat with rfl | ⟨c, z, rfl⟩
    · simp only [List.append_nil] at hp
      have hsettled := hold_of_fires (latch a).nothing (latch a).fires (List.prefix_refl a) ha
      exact absurd ⟨hsettled, hp⟩ ((latch a).apart a (List.prefix_refl a))
    · exact ⟨c, z, List.concat_eq_append⟩
  rw [← List.append_assoc] at hp hy ⊢
  have hr := run_updated (a ++ c) z
  -- the change before the edge is the one that `pressedMs` holds
  obtain ⟨a', b', x', heq, ha', hb', hlast, hpressed⟩ := pressedMs_of_on (on_of_pressed hp)
  obtain rfl := Silent.unique heq ha ha' hb.append_left hb'
  obtain rfl := hx.unique hlast
  -- and the change before the release the one that `sinceMs` holds
  obtain ⟨hsteady, -⟩ := hr.press.1 hp
  obtain ⟨y', hlast', hraw, hsince⟩ := seen_after hsteady.1
  obtain rfl := hy.unique (hlast'.snoc (hsteady.2.1.trans hraw))
  rw [hr.long hp, hpressed, hsince, Clock.reading_sub hle, ge_iff_le, UInt32.le_iff_toNat_le,
    Clock.toNat_reading, Nat.mod_eq_of_lt hshort]
  rfl

/-- **The buttons are debounced.**  Edges and presses alternate; each comes only after 100 ms
released, at a level unchanged for 30 ms; and a press shorter than a wrap is long exactly when 2 s
passed between its raw changes. -/
theorem button_debounced (l : List Poll) (ht : Timely l) : Debounced l := by
  have htimely : ∀ h, h <+: l → Timely h := fun h hh => ht.sublist hh.sublist
  refine ⟨?_, ?_, ?_, ?_, ?_, ?_⟩
  · rintro h - ⟨he, hp⟩
    have hsettled := hold_of_fires (latch h).nothing (latch h).fires (List.prefix_refl h) he
    exact (latch h).apart h (List.prefix_refl h) ⟨hsettled, hp⟩
  · intro a b hab hb ha hE
    exact (latch l).released_between hab hb ha hE
  · intro a b _ hb ha hp
    exact edge_before_press hb ha hp
  · intro h x hh hreport
    have harmed : (after h).armed = true := by
      rcases hreport with he | hp
      · exact ((run_updated h x).edge.1 he).2.2.2
      · exact ((run_updated h x).press.1 hp).2.2.2
    exact released_of_armed (htimely h ((List.prefix_append h [x]).trans hh)) harmed
  · intro h hh
    exact unchanged_of_report (htimely h hh)
  · intro a b x y hab ha hb hp hx hy hshort
    exact long_iff (htimely _ hab) ha hb hp hx hy hshort

/-- A bounce, a press that is held for two seconds over another bounce, and its release. -/
def bench : List Poll :=
  [⟨false, 0⟩, ⟨false, 100⟩, ⟨true, 110⟩, ⟨false, 115⟩, ⟨true, 120⟩, ⟨true, 150⟩, ⟨false, 900⟩,
    ⟨true, 910⟩, ⟨false, 2120⟩, ⟨false, 2150⟩]

/-- The press of the bench is long by the changes at 120 ms and 2120 ms. -/
theorem button_debounced_bench :
    Debounced bench ∧ Edge (bench.take 6) ∧ (run bench).1 = .long :=
  ⟨button_debounced bench (by decide +kernel), by decide +kernel, by decide +kernel⟩

end Button

end RoboticCar.Operator
