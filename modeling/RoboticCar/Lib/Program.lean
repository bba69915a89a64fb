import Mathlib.Data.List.Basic

/-!
# Programs that call an environment

Sequential code that calls functions it does not own is a tree: it returns, or makes one call and
goes on with the answer.  The environment is adversarial, so a program is given by its exchanges:
`Leads p t q` says that after the exchange `t` the program `p` has become `q`, and `Yields p t a`
that it has returned `a`.  `Ensures p Q` is about all completed exchanges, and `ensures_bind` and
its companions compute it along the text of a program.
-/

namespace RoboticCar.Lib

/-- A program with calls `C`, answers `A` and results in `α`. -/
inductive Prog (C : Type) (A : C → Type) (α : Type) : Type
  | ret (a : α)
  | call (c : C) (k : A c → Prog C A α)

namespace Prog

variable {C : Type} {A : C → Type} {α β : Type}

def bind : Prog C A α → (α → Prog C A β) → Prog C A β
  | .ret a, f => f a
  | .call c k, f => .call c fun x => (k x).bind f

instance : Monad (Prog C A) where
  pure := .ret
  bind := Prog.bind

/-- Make one call and return its answer. -/
def perform (c : C) : Prog C A (A c) := .call c .ret

/-- After the exchange `t` the program `p` has become `q`. -/
inductive Leads : Prog C A α → List (Σ c, A c) → Prog C A α → Prop
  | nil (p : Prog C A α) : Leads p [] p
  | cons {c : C} {k : A c → Prog C A α} {x : A c} {t : List (Σ c, A c)} {q : Prog C A α}
      (h : Leads (k x) t q) : Leads (.call c k) (⟨c, x⟩ :: t) q

/-- After the exchange `t` the program `p` has returned `a`. -/
def Yields (p : Prog C A α) (t : List (Σ c, A c)) (a : α) : Prop := p.Leads t (.ret a)

variable {t : List (Σ c, A c)}

theorem Leads.append {p q r : Prog C A α} {u : List (Σ c, A c)}
    (h : p.Leads t q) (h' : q.Leads u r) : p.Leads (t ++ u) r := by
  induction h with
  | nil => exact h'
  | cons _ ih => exact .cons (ih h')

theorem yields_ret {a b : α} : (ret a : Prog C A α).Yields t b ↔ t = [] ∧ b = a := by
  constructor
  · intro h
    cases h with
    | nil => exact ⟨rfl, rfl⟩
  · rintro ⟨rfl, rfl⟩
    exact .nil _

theorem yields_call {c : C} {k : A c → Prog C A α} {a : α} :
    (call c k).Yields t a ↔ ∃ x u, t = ⟨c, x⟩ :: u ∧ (k x).Yields u a := by
  constructor
  · intro h
    cases h with
    | cons h => exact ⟨_, _, rfl, h⟩
  · rintro ⟨x, u, rfl, h⟩
    exact .cons h

theorem yields_bind {p : Prog C A α} {f : α → Prog C A β} {b : β} :
    (p >>= f).Yields t b ↔ ∃ t₁ a t₂, t = t₁ ++ t₂ ∧ p.Yields t₁ a ∧ (f a).Yields t₂ b := by
  induction p generalizing t with
  | ret a =>
    constructor
    · exact fun h => ⟨[], a, t, rfl, .nil _, h⟩
    · rintro ⟨t₁, a', t₂, rfl, h, h'⟩
      obtain ⟨rfl, rfl⟩ := yields_ret.1 h
      exact h'
  | call c k ih =>
    constructor
    · intro h
      obtain ⟨x, u, rfl, hk⟩ := yields_call.1 h
      obtain ⟨t₁, a, t₂, rfl, h₁, h₂⟩ := (ih x).1 hk
      exact ⟨⟨c, x⟩ :: t₁, a, t₂, rfl, .cons h₁, h₂⟩
    · rintro ⟨t₁, a, t₂, rfl, h₁, h₂⟩
      obtain ⟨x, u, rfl, hk⟩ := yields_call.1 h₁
      exact .cons ((ih x).2 ⟨u, a, t₂, rfl, hk, h₂⟩)

/-- If every call can be answered, every program can be completed. -/
theorem exists_yields (hA : ∀ c, Nonempty (A c)) (p : Prog C A α) : ∃ t a, p.Yields t a := by
  induction p with
  | ret a => exact ⟨[], a, .nil _⟩
  | call c k ih =>
    obtain ⟨x⟩ := hA c
    obtain ⟨t, a, h⟩ := ih x
    exact ⟨⟨c, x⟩ :: t, a, .cons h⟩

/-- Every completed exchange of `p`, with its result, satisfies `Q`. -/
def Ensures (p : Prog C A α) (Q : List (Σ c, A c) → α → Prop) : Prop :=
  ∀ t a, p.Yields t a → Q t a

variable {Q : List (Σ c, A c) → α → Prop}

theorem Ensures.mono {p : Prog C A α} {R : List (Σ c, A c) → α → Prop} (h : p.Ensures R)
    (hRQ : ∀ t a, R t a → Q t a) : p.Ensures Q :=
  fun t a hy => hRQ t a (h t a hy)

theorem Ensures.and {p : Prog C A α} {R : List (Σ c, A c) → α → Prop} (h : p.Ensures Q)
    (h' : p.Ensures R) : p.Ensures fun t a => Q t a ∧ R t a :=
  fun t a hy => ⟨h t a hy, h' t a hy⟩

theorem ensures_pure {a : α} : (pure a : Prog C A α).Ensures Q ↔ Q [] a := by
  constructor
  · exact fun h => h _ _ (.nil _)
  · intro h t b hy
    obtain ⟨rfl, rfl⟩ := yields_ret.1 hy
    exact h

theorem ensures_bind {p : Prog C A β} {f : β → Prog C A α} :
    (p >>= f).Ensures Q ↔ p.Ensures fun t b => (f b).Ensures fun u a => Q (t ++ u) a := by
  constructor
  · exact fun h t b hp u a hf => h _ _ (yields_bind.2 ⟨t, b, u, rfl, hp, hf⟩)
  · intro h t a hy
    obtain ⟨t₁, b, t₂, rfl, hp, hf⟩ := yields_bind.1 hy
    exact h t₁ b hp t₂ a hf

theorem ensures_perform {c : C} {Q : List (Σ c, A c) → A c → Prop} :
    (perform c : Prog C A (A c)).Ensures Q ↔ ∀ x, Q [⟨c, x⟩] x := by
  constructor
  · exact fun h x => h _ _ (.cons (.nil _))
  · intro h t a hy
    obtain ⟨x, u, rfl, hx⟩ := yields_call.1 hy
    obtain ⟨rfl, rfl⟩ := yields_ret.1 hx
    exact h a

theorem ensures_ite {c : Prop} [Decidable c] {p q : Prog C A α} :
    (if c then p else q).Ensures Q ↔ (c → p.Ensures Q) ∧ (¬c → q.Ensures Q) := by
  split <;> simp_all

/-- Run a program against an environment with state `σ`: its exchange, its result and the state
left behind. -/
def run {σ : Type} (H : (c : C) → σ → A c × σ) : Prog C A α → σ → List (Σ c, A c) × α × σ
  | .ret a, s => ([], a, s)
  | .call c k, s =>
    let r := (k (H c s).1).run H (H c s).2
    (⟨c, (H c s).1⟩ :: r.1, r.2)

/-- What an environment makes of a program is one of its exchanges. -/
theorem yields_run {σ : Type} (H : (c : C) → σ → A c × σ) (p : Prog C A α) (s : σ) :
    p.Yields (p.run H s).1 (p.run H s).2.1 := by
  induction p generalizing s with
  | ret => exact .nil _
  | call c k ih => exact .cons (ih _ _)

end Prog

end RoboticCar.Lib
