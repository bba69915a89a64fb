import Mathlib.Data.List.DropRight
import RoboticCar.Lib.Signal

/-!
# Debounced events over a sampled signal

An event predicate holds of a history of samples if its last sample emits the event.

* `Held`: a condition has held at the end of a history for some time; `Shows`: the difference of two
  32-bit readings says so.  The first times of both agree (`Held.shows`).
* A `Latch` emits an event at a sample with some condition unless it is set, is set by its event and
  released by another.  It emits exactly at the first such sample since its release
  (`Latch.fires_iff`).
-/

namespace RoboticCar.Lib.Debounce

open Signal

variable {α : Type*}

section Held

variable (time : α → UInt32) (p : α → Bool) (d : ℕ)

/-- The condition holds at the last samples, and has for the time `d`. -/
def Held (h : List α) : Prop := d ≤ duration time (h.rtakeWhile p)

/-- The clock readings say so. -/
def Shows (h : List α) : Prop := d ≤ duration time (h.rtakeWhile p) % 2 ^ 32

instance : DecidablePred (Held time p d) := fun _ => inferInstanceAs (Decidable (_ ≤ _))

variable {time p d} {h : List α}

theorem Shows.held (hs : Shows time p d h) : Held time p d h := hs.trans (Nat.mod_le _ _)

theorem not_held_nil (hd : 0 < d) : ¬Held time p d [] := by
  simpa [Held, duration, gaps] using hd.ne'

theorem not_shows_of_not {x : α} (hd : 0 < d) (hx : ¬p x) : ¬Shows time p d (h ++ [x]) := by
  intro hs
  have hnil : ¬Held time p d [] := not_held_nil hd
  have hheld := hs.held
  rw [Held, List.rtakeWhile_concat_neg p h x hx] at hheld
  exact hnil (by simpa [Held] using hheld)

/-- Two conditions that exclude each other are not both shown. -/
theorem not_shows_both {q : α → Bool} {d' : ℕ} (hd : 0 < d) (hd' : 0 < d')
    (hpq : ∀ x, p x → ¬q x) : ¬(Shows time p d h ∧ Shows time q d' h) := by
  rintro ⟨hp, hq⟩
  rcases h.eq_nil_or_concat with rfl | ⟨h, x, rfl⟩
  · exact not_held_nil hd hp.held
  · rw [List.concat_eq_append] at *
    by_cases hx : p x
    · exact not_shows_of_not hd' (hpq x hx) hq
    · exact not_shows_of_not hd hx hp

theorem getLast?_rtakeWhile {y : α} (hy : (h.rtakeWhile p).getLast? = some y) :
    h.getLast? = some y := by
  obtain ⟨l, hl⟩ := List.rtakeWhile_suffix p h
  rw [← hl, List.getLast?_append, hy]
  rfl

/-- A condition that is shown excludes another one at the last sample. -/
theorem Shows.rtakeWhile_eq_nil {q : α → Bool} (hd : 0 < d) (hpq : ∀ x, p x → ¬q x)
    (hs : Shows time p d h) : h.rtakeWhile q = [] := by
  rcases h.eq_nil_or_concat with rfl | ⟨h, x, rfl⟩
  · exact List.rtakeWhile_nil q
  · rw [List.concat_eq_append] at *
    have hx : p x := by
      by_contra hx
      exact not_shows_of_not hd hx hs
    exact List.rtakeWhile_concat_neg q h x (hpq x hx)

/-- The samples of a condition stop at a sample without it. -/
theorem rtakeWhile_append {a : List α} (ha : a.rtakeWhile p = []) (b : List α) :
    (a ++ b).rtakeWhile p = b.rtakeWhile p := by
  induction b using List.reverseRecOn with
  | nil => simpa using ha
  | append_singleton b x ih =>
    rw [← List.append_assoc, List.rtakeWhile_concat, List.rtakeWhile_concat, ih]

/-- At the first sample at which the condition has held for `d`, the readings show it: one gap does
not carry the time over a wrap. -/
theorem Held.shows {g : ℕ} {x : α} (hg : d + g < 2 ^ 32)
    (hgap : ∀ y, h.getLast? = some y → (time x - time y).toNat ≤ g)
    (hheld : Held time p d (h ++ [x])) (hbefore : ¬Held time p d h) :
    Shows time p d (h ++ [x]) := by
  have hlt : duration time ((h ++ [x]).rtakeWhile p) < 2 ^ 32 := by
    rw [List.rtakeWhile_concat]
    split
    · cases hlast : (h.rtakeWhile p).getLast? with
      | none =>
        rw [List.getLast?_eq_none_iff.1 hlast]
        exact Nat.two_pow_pos 32
      | some y =>
        rw [duration_snoc hlast]
        have hstep := hgap y (getLast?_rtakeWhile hlast)
        have hshort : duration time (h.rtakeWhile p) < d := not_le.1 hbefore
        omega
    · exact Nat.two_pow_pos 32
  rw [Shows, Nat.mod_eq_of_lt hlt]
  exact hheld

end Held

/-- No beginning of the list has the property. -/
def Never (P : List α → Prop) (b : List α) : Prop := ∀ b₁ b₂, b = b₁ ++ b₂ → ¬P b₁

variable {P : List α → Prop} {b : List α}

theorem never_iff_inits : Never P b ↔ ∀ h ∈ b.inits, ¬P h := by
  constructor
  · intro hb h hh
    obtain ⟨b₂, rfl⟩ := (List.mem_inits _ _).1 hh
    exact hb h b₂ rfl
  · rintro hb b₁ b₂ rfl
    exact hb b₁ ((List.mem_inits _ _).2 (List.prefix_append _ _))

instance (P : List α → Prop) [DecidablePred P] (b : List α) : Decidable (Never P b) :=
  decidable_of_iff _ never_iff_inits.symm

theorem never_snoc {x : α} : Never P (b ++ [x]) ↔ Never P b ∧ ¬P (b ++ [x]) := by
  constructor
  · intro h
    exact ⟨fun b₁ b₂ hb => h b₁ (b₂ ++ [x]) (by simp [hb]), h _ [] (by simp)⟩
  · rintro ⟨hb, hx⟩ b₁ b₂ h
    rcases b₂.eq_nil_or_concat with rfl | ⟨b₂, y, rfl⟩
    · rw [List.append_nil] at h
      rwa [← h]
    · rw [List.concat_eq_append, ← List.append_assoc] at h
      exact hb b₁ b₂ (List.append_inj_left' h rfl)

/-- If the first property implies the second, and the second the first at its first time, they have
the same first time. -/
theorem first_iff {Q : List α → Prop} {l : List α} (hPQ : ∀ b, P b → Q b) (hnil : ¬Q [])
    (hQP : ∀ b x, b ++ [x] <+: l → Q (b ++ [x]) → ¬Q b → P (b ++ [x])) {x : α}
    (hl : b ++ [x] <+: l) : P (b ++ [x]) ∧ Never P b ↔ Q (b ++ [x]) ∧ Never Q b := by
  -- before the first time of `P` there is no time of `Q`
  have hnever : ∀ c, c <+: l → Never P c → Never Q c := by
    intro c
    induction c using List.reverseRecOn with
    | nil =>
      intro _ _ b₁ b₂ hb
      rwa [(List.append_eq_nil_iff.1 hb.symm).1]
    | append_singleton c y ih =>
      intro hc hP
      have hc' : c <+: l := (List.prefix_append c [y]).trans hc
      have hQ := ih hc' (never_snoc.1 hP).1
      refine never_snoc.2 ⟨hQ, fun hy => (never_snoc.1 hP).2 (hQP c y hc hy ?_)⟩
      exact hQ c [] (by simp)
  have hbl : b <+: l := (List.prefix_append b [x]).trans hl
  constructor
  · rintro ⟨hP, hb⟩
    exact ⟨hPQ _ hP, hnever b hbl hb⟩
  · rintro ⟨hQ, hb⟩
    exact ⟨hQP b x hl hQ (hb b [] (by simp)), fun b₁ b₂ h hP => hb b₁ b₂ h (hPQ _ hP)⟩

/-! ## Latches -/

/-- Along `l`, `E` is emitted when `hold` is true and the latch is not set; `E'` releases it. -/
structure Latch (l : List α) (E E' hold on : List α → Prop) : Prop where
  start : ¬on []
  fires : ∀ h x, h ++ [x] <+: l → (E (h ++ [x]) ↔ hold (h ++ [x]) ∧ ¬on h)
  keeps : ∀ h x, h ++ [x] <+: l → (on (h ++ [x]) ↔ (on h ∨ E (h ++ [x])) ∧ ¬E' (h ++ [x]))
  apart : ∀ h, h <+: l → ¬(hold h ∧ E' h)
  nothing : ¬E []

variable {E : List α → Prop}

theorem hold_of_fires {l h : List α} {hold on : List α → Prop} (hnil : ¬E [])
    (hfires : ∀ h x, h ++ [x] <+: l → (E (h ++ [x]) ↔ hold (h ++ [x]) ∧ ¬on h)) (hh : h <+: l)
    (he : E h) : hold h := by
  rcases h.eq_nil_or_concat with rfl | ⟨h, x, rfl⟩
  · exact absurd he hnil
  · rw [List.concat_eq_append] at *
    exact ((hfires h x hh).1 he).1

/-- No sample of `b` after `a` emits the event. -/
def Silent (E : List α → Prop) (a b : List α) : Prop :=
  Never (fun b₁ => b₁ ≠ [] ∧ E (a ++ b₁)) b

instance [DecidableEq α] (E : List α → Prop) [DecidablePred E] (a b : List α) :
    Decidable (Silent E a b) :=
  inferInstanceAs (Decidable (Never _ b))

variable {a : List α}

theorem silent_snoc {x : α} : Silent E a (b ++ [x]) ↔ Silent E a b ∧ ¬E (a ++ b ++ [x]) := by
  rw [Silent, never_snoc, Silent, List.append_assoc]
  simp

/-- The last event of a history is one event. -/
theorem Silent.unique {a' b' : List α} (h : a ++ b = a' ++ b') (ha : E a) (ha' : E a')
    (hb : Silent E a b) (hb' : Silent E a' b') : a = a' := by
  rcases List.append_eq_append_iff.1 h with ⟨c, rfl, rfl⟩ | ⟨c, rfl, rfl⟩
  · by_contra hne
    exact hb c b' rfl ⟨fun hc => hne (by simp [hc]), ha'⟩
  · by_contra hne
    exact hb' c b rfl ⟨fun hc => hne (by simp [hc]), ha⟩

theorem Silent.append_left {c : List α} (h : Silent E a (b ++ c)) : Silent E a b := by
  rintro b₁ b₂ rfl
  exact h b₁ (b₂ ++ c) (by simp)

namespace Latch

variable {l : List α} {E E' hold on : List α → Prop} (L : Latch l E E' hold on)

include L

variable {a : List α}

theorem on_of_event (hl : a <+: l) (ha : E a) : on a := by
  rcases a.eq_nil_or_concat with rfl | ⟨a, x, rfl⟩
  · exact absurd ha L.nothing
  · rw [List.concat_eq_append] at *
    have hhold := hold_of_fires L.nothing L.fires hl ha
    exact (L.keeps a x hl).2 ⟨.inr ha, fun h => L.apart _ hl ⟨hhold, h⟩⟩

theorem off_of_release (hl : a <+: l) (ha : a = [] ∨ E' a) : ¬on a := by
  rcases a.eq_nil_or_concat with rfl | ⟨a, x, rfl⟩
  · exact L.start
  · rw [List.concat_eq_append] at *
    have hrelease : E' (a ++ [x]) := ha.resolve_left (by simp)
    exact fun hon => ((L.keeps a x hl).1 hon).2 hrelease

variable {b : List α}

/-- A set latch stays set until it is released. -/
theorem on_of_silent (hl : a ++ b <+: l) (ha : on a) (hb : Silent E' a b) : on (a ++ b) := by
  induction b using List.reverseRecOn with
  | nil => simpa using ha
  | append_singleton b x ih =>
    rw [← List.append_assoc] at hl ⊢
    have hon := ih ((List.prefix_append _ [x]).trans hl) (silent_snoc.1 hb).1
    exact (L.keeps _ x hl).2 ⟨.inl hon, (silent_snoc.1 hb).2⟩

/-- A latch that is not set stays so until its event. -/
theorem set_between (hl : a ++ b <+: l) (ha : ¬on a) (hab : on (a ++ b)) :
    ∃ b₁ b₂, b = b₁ ++ b₂ ∧ b₁ ≠ [] ∧ E (a ++ b₁) := by
  induction b using List.reverseRecOn with
  | nil => exact absurd (by simpa using hab) ha
  | append_singleton b x ih =>
    rw [← List.append_assoc] at hl hab
    rcases ((L.keeps _ x hl).1 hab).1 with hon | hevent
    · obtain ⟨b₁, b₂, rfl, hne, hE⟩ := ih ((List.prefix_append _ [x]).trans hl) hon
      exact ⟨b₁, b₂ ++ [x], by simp, hne, hE⟩
    · exact ⟨b ++ [x], [], by simp, by simp, by rwa [← List.append_assoc]⟩

/-- **Between two events of a latch it was released.** -/
theorem released_between (hl : a ++ b <+: l) (hb : b ≠ []) (ha : E a) (hab : E (a ++ b)) :
    ∃ b₁ b₂, b = b₁ ++ b₂ ∧ b₁ ≠ [] ∧ b₂ ≠ [] ∧ E' (a ++ b₁) := by
  obtain ⟨c, x, rfl⟩ := b.eq_nil_or_concat.resolve_left hb
  rw [List.concat_eq_append] at *
  rw [← List.append_assoc] at hl hab
  have hc : a ++ c <+: l := (List.prefix_append _ [x]).trans hl
  have hoff := ((L.fires _ x hl).1 hab).2
  by_contra hnone
  apply hoff
  apply L.on_of_silent hc (L.on_of_event ((List.prefix_append _ c).trans hc) ha)
  rintro b₁ b₂ rfl ⟨hne, hE⟩
  exact hnone ⟨b₁, b₂ ++ [x], by simp, hne, by simp, hE⟩

/-- While it is not released, a latch is set by the first sample with the condition. -/
theorem off_iff_never (hl : a ++ b <+: l) (ha : ¬on a) (hhold : ¬hold a) (hb : Silent E' a b) :
    ¬on (a ++ b) ↔ Never (fun b₁ => hold (a ++ b₁)) b := by
  induction b using List.reverseRecOn with
  | nil =>
    refine iff_of_true (by simpa using ha) ?_
    intro b₁ b₂ h
    rw [(List.append_eq_nil_iff.1 h.symm).1]
    simpa using hhold
  | append_singleton b x ih =>
    obtain ⟨hb, hx⟩ := silent_snoc.1 hb
    rw [← List.append_assoc] at hl ⊢
    rw [never_snoc, ← ih ((List.prefix_append _ [x]).trans hl) hb, L.keeps _ x hl,
      L.fires _ x hl, ← List.append_assoc]
    tauto

/-- **A latch emits its event exactly at the first sample with the condition since its release.** -/
theorem fires_iff {x : α} (hl : a ++ b ++ [x] <+: l) (ha : a = [] ∨ E' a) (hhold : ¬hold a)
    (hb : Silent E' a b) :
    E (a ++ b ++ [x]) ↔
      hold (a ++ (b ++ [x])) ∧ Never (fun b₁ => hold (a ++ b₁)) b := by
  have hab : a ++ b <+: l := (List.prefix_append _ [x]).trans hl
  have hoff := L.off_of_release ((List.prefix_append _ b).trans hab) ha
  rw [L.fires _ x hl, L.off_iff_never hab hoff hhold hb, List.append_assoc]

end Latch

section Timed

variable {time : α → UInt32} {p : α → Bool} {d : ℕ} {l : List α} {E E' on : List α → Prop}

theorem shows_append {a : List α} (ha : a.rtakeWhile p = []) (b : List α) :
    Shows time p d (a ++ b) ↔ Shows time p d b := by
  rw [Shows, Shows, rtakeWhile_append ha]

/-- **A latch behind a timer emits exactly at the first sample at which the condition has held long
enough since its release**, if no gap between samples can carry the timer over a wrap. -/
theorem Latch.fires_iff_held (L : Latch l E E' (Shows time p d) on) {g : ℕ} (hd : 0 < d)
    (hg : d + g < 2 ^ 32)
    (hgap : ∀ h x y, h ++ [x] <+: l → h.getLast? = some y → (time x - time y).toNat ≤ g)
    (hp : ∀ a, a <+: l → E' a → a.rtakeWhile p = [])
    {a b : List α} {x : α} (hl : a ++ b ++ [x] <+: l) (ha : a = [] ∨ E' a)
    (hb : Silent E' a b) :
    E (a ++ b ++ [x]) ↔ Held time p d (b ++ [x]) ∧ Never (Held time p d) b := by
  have hstop : a.rtakeWhile p = [] := by
    rcases ha with rfl | ha
    · exact List.rtakeWhile_nil p
    · exact hp a (((List.prefix_append a b).trans (List.prefix_append _ [x])).trans hl) ha
  have hhold : ¬Shows time p d a := by
    intro hs
    have hnil : ¬Held time p d [] := not_held_nil hd
    have hheld : Held time p d a := hs.held
    rw [Held, hstop] at hheld
    exact hnil hheld
  rw [L.fires_iff hl ha hhold hb, shows_append hstop]
  simp only [shows_append hstop]
  refine first_iff (P := Shows time p d) (Q := Held time p d) (fun _ => Shows.held)
    (not_held_nil hd) ?_ (List.prefix_refl (b ++ [x]))
  intro c y hc hheld hbefore
  refine hheld.shows hg (fun z hz => hgap (a ++ c) y z ?_ ?_) hbefore
  · rw [List.append_assoc] at hl ⊢
    exact ((List.prefix_append_right_inj a).2 hc).trans hl
  · rw [List.getLast?_append, hz]
    rfl

/-- The samples at the end of a history with a condition, after a part that ends without it. -/
theorem Held.stretch {a b : List α} (ha : a.rtakeWhile p = []) (h : Held time p d (a ++ b)) :
    ∃ b₁ u, b = b₁ ++ u ∧ (∀ s ∈ u, p s) ∧ d ≤ duration time u := by
  rw [Held, rtakeWhile_append ha] at h
  obtain ⟨b₁, hb₁⟩ := List.rtakeWhile_suffix p b
  exact ⟨b₁, _, hb₁.symm, fun s hs => List.mem_rtakeWhile_imp hs, h⟩

end Timed

end RoboticCar.Lib.Debounce
