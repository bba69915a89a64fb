import Mathlib.Data.List.Basic

/-!
# Runs of a machine

A machine is a step function on states and inputs.  `Always` says that a property holds in every
state of a run, and `Meets` that every input meets a condition where it is taken.  `invariant`,
`always_of_meets` and `always_iff_meets` reduce such statements to one step.

Where somebody else chooses the steps, a machine is a relation with labels and its runs are the
inductive `Path`, which grows at its end, with `Path.invariant` for invariants and `Path.since` for
what holds since a label that began it.
-/

namespace RoboticCar.Lib.Run

variable {σ α : Type*} (step : σ → α → σ)

/-- The property holds in every state that the run passes. -/
def Always (P : σ → Prop) : σ → List α → Prop
  | s, [] => P s
  | s, a :: l => P s ∧ Always P (step s a) l

/-- Every input of the run meets the condition in the state it is taken in. -/
def Meets (Q : σ → α → Prop) : σ → List α → Prop
  | _, [] => True
  | s, a :: l => Q s a ∧ Meets Q (step s a) l

instance Meets.decidable {Q : σ → α → Prop} [∀ s a, Decidable (Q s a)] :
    ∀ (s : σ) (l : List α), Decidable (Meets step Q s l)
  | _, [] => isTrue trivial
  | s, a :: l =>
    haveI : Decidable (Meets step Q (step s a) l) := Meets.decidable (step s a) l
    inferInstanceAs (Decidable (Q s a ∧ Meets step Q (step s a) l))

variable {step} {P I : σ → Prop} {Q : σ → α → Prop}

variable {s : σ} {l : List α}

/-- A condition on the inputs alone joins one on inputs and states. -/
theorem Meets.and_mem {p : α → Prop} (hp : ∀ a ∈ l, p a) (hl : Meets step Q s l) :
    Meets step (fun s a => p a ∧ Q s a) s l := by
  induction l generalizing s with
  | nil => trivial
  | cons a l ih =>
    exact ⟨⟨hp a List.mem_cons_self, hl.1⟩, ih (fun b hb => hp b (List.mem_cons_of_mem a hb)) hl.2⟩

/-- What holds at the start and is kept by every step holds at the end of every run. -/
theorem invariant (hstep : ∀ s a, I s → I (step s a)) (hs : I s) (l : List α) :
    I (l.foldl step s) :=
  List.foldlRecOn l step hs fun s hs a _ => hstep s a hs

theorem Always.head (h : Always step P s l) : P s := by
  cases l with
  | nil => exact h
  | cons => exact h.1

/-- An invariant of the steps that meet the condition gives its consequence in every state of a
run whose steps all meet it. -/
theorem always_of_meets (hstep : ∀ s a, I s → Q s a → I (step s a)) (hP : ∀ s, I s → P s) (hs : I s)
    (hl : Meets step Q s l) : Always step P s l := by
  induction l generalizing s with
  | nil => exact hP s hs
  | cons a l ih => exact ⟨hP s hs, ih (hstep s a hs hl.1) hl.2⟩

/-- The same for a statement about the steps themselves. -/
theorem meets_of_meets {R : σ → α → Prop} (hstep : ∀ s a, I s → Q s a → I (step s a))
    (hR : ∀ s a, I s → Q s a → R s a) (hs : I s) (hl : Meets step Q s l) : Meets step R s l := by
  induction l generalizing s with
  | nil => trivial
  | cons a l ih => exact ⟨hR s a hs hl.1, ih (hstep s a hs hl.1) hl.2⟩

/-- If, besides, a step that misses the condition ends outside the property, then the property
holds throughout a run exactly when every step meets the condition. -/
theorem always_iff_meets (hstep : ∀ s a, I s → Q s a → I (step s a)) (hP : ∀ s, I s → P s)
    (hmiss : ∀ s a, I s → ¬Q s a → ¬P (step s a)) (hs : I s) (l : List α) :
    Always step P s l ↔ Meets step Q s l := by
  refine ⟨fun h => ?_, always_of_meets hstep hP hs⟩
  induction l generalizing s with
  | nil => trivial
  | cons a l ih =>
    have hq : Q s a := by
      by_contra hq
      exact hmiss s a hs hq h.2.head
    exact ⟨hq, ih (hstep s a hs hq) h.2⟩

/-! ## Labelled runs of a relation -/

/-- The labels taken in order from `s` end in the last argument. -/
inductive Path {σ α : Type*} (R : σ → α → σ → Prop) (s : σ) : List α → σ → Prop
  | nil : Path R s [] s
  | snoc {l : List α} {m e : σ} {a : α} (h : Path R s l m) (ha : R m a e) : Path R s (l ++ [a]) e

variable {R : σ → α → σ → Prop} {e : σ}

theorem Path.append {m : σ} {l' : List α} (h : Path R s l m) (h' : Path R m l' e) :
    Path R s (l ++ l') e := by
  induction h' with
  | nil => rwa [List.append_nil]
  | snoc _ ha ih => exact List.append_assoc l _ _ ▸ .snoc ih ha

theorem Path.eq_of_nil (h : Path R s [] e) : e = s := by
  generalize hl : ([] : List α) = l at h
  cases h with
  | nil => rfl
  | snoc => simp at hl

/-- A path begins with its first label. -/
theorem Path.uncons {a : α} (h : Path R s (a :: l) e) : ∃ m, R s a m ∧ Path R m l e := by
  generalize hl : a :: l = l' at h
  induction h generalizing l with
  | nil => cases hl
  | @snoc l₀ m e b hm hb ih =>
    cases l₀ with
    | nil =>
      obtain ⟨rfl, rfl⟩ := List.cons.inj hl
      obtain rfl := hm.eq_of_nil
      exact ⟨e, hb, .nil⟩
    | cons =>
      obtain ⟨rfl, rfl⟩ := List.cons.inj hl
      obtain ⟨k, hk, hp⟩ := ih rfl
      exact ⟨k, hk, .snoc hp hb⟩

/-- A path ends with its last label. -/
theorem Path.unsnoc {a : α} (h : Path R s (l ++ [a]) e) : ∃ m, Path R s l m ∧ R m a e := by
  generalize hl : l ++ [a] = l' at h
  cases h with
  | nil => simp at hl
  | snoc hm hb =>
    obtain ⟨rfl, hab⟩ := List.append_inj' hl rfl
    obtain rfl := List.singleton_inj.1 hab
    exact ⟨_, hm, hb⟩

/-- A list that ends in `a` splits at its last element or before it. -/
theorem append_singleton_eq_append_cons {l₁ l₂ : List α} {a b : α} :
    l ++ [a] = l₁ ++ b :: l₂ ↔
      l₁ = l ∧ b = a ∧ l₂ = [] ∨ ∃ l₃, l₂ = l₃ ++ [a] ∧ l = l₁ ++ b :: l₃ := by
  constructor
  · intro h
    rcases List.eq_nil_or_concat l₂ with rfl | ⟨l₃, c, rfl⟩
    · obtain ⟨h, hab⟩ := List.append_inj' h rfl
      exact .inl ⟨h.symm, (List.singleton_inj.1 hab).symm, rfl⟩
    · have h' : l ++ [a] = (l₁ ++ b :: l₃) ++ [c] := by simpa using h
      obtain ⟨h, hac⟩ := List.append_inj' h' rfl
      exact .inr ⟨l₃, by simp [List.singleton_inj.1 hac], h⟩
  · rintro (⟨rfl, rfl, rfl⟩ | ⟨l₃, rfl, rfl⟩)
    · rfl
    · simp

/-- A path through a label is a path up to it and a step with it. -/
theorem Path.reaches {l₁ l₂ : List α} {a : α} (h : Path R s (l₁ ++ a :: l₂) e) :
    ∃ m m', Path R s l₁ m ∧ R m a m' := by
  generalize hl : l₁ ++ a :: l₂ = l at h
  induction h generalizing l₂ with
  | nil => simp at hl
  | snoc hm ha ih =>
    rcases append_singleton_eq_append_cons.1 hl.symm with ⟨rfl, rfl, -⟩ | ⟨l₃, -, rfl⟩
    · exact ⟨_, _, hm, ha⟩
    · exact ih rfl

theorem snoc_splits {P : List α → α → Prop} {x : α} (hlast : P l x)
    (hinit : ∀ l₁ a l₂, l = l₁ ++ a :: l₂ → P l₁ a) (l₁ : List α) (a : α) (l₂ : List α)
    (h : l ++ [x] = l₁ ++ a :: l₂) : P l₁ a := by
  rcases append_singleton_eq_append_cons.1 h with ⟨rfl, rfl, -⟩ | ⟨l₃, -, hl⟩
  · exact hlast
  · exact hinit l₁ a l₃ hl

/-- What holds at the start and is kept by every step holds at the end of every path. -/
theorem Path.invariant (h : Path R s l e) (hstep : ∀ s a s', I s → R s a s' → I s') (hs : I s) :
    I e := by
  induction h with
  | nil => exact hs
  | snoc _ ha ih => exact hstep _ _ _ ih ha

/-- A property that only some labels begin was begun by such a label, with only labels that
continue it since then.  The index `i` is what the beginning fixes. -/
theorem Path.since {ι : Type*} {P : ι → σ → Prop} {begins : ι → α → Prop} {continues : α → Prop}
    (hI : ∀ s a s', I s → R s a s' → I s')
    (hstep : ∀ s a s' i, I s → R s a s' → P i s' → begins i a ∨ P i s ∧ continues a) (hs : I s)
    (h₀ : ∀ i, ¬P i s) (h : Path R s l e) {i : ι} (he : P i e) :
    ∃ l₁ a l₂, l = l₁ ++ a :: l₂ ∧ begins i a ∧ ∀ b ∈ l₂, continues b := by
  induction h with
  | nil => exact absurd he (h₀ i)
  | @snoc l m e a hm ha ih =>
    rcases hstep _ _ _ i (hm.invariant hI hs) ha he with hb | ⟨hp, hc⟩
    · exact ⟨l, a, [], rfl, hb, nofun⟩
    · obtain ⟨l₁, b, l₂, rfl, hb, hl₂⟩ := ih hp
      refine ⟨l₁, b, l₂ ++ [a], by simp, hb, fun x hx => ?_⟩
      rcases List.mem_append.1 hx with hx | hx
      · exact hl₂ x hx
      · rwa [List.mem_singleton.1 hx]

end RoboticCar.Lib.Run
