/-
  Fallible functions: inversion of `Except` computations.

  A function that may raise is written in `do` notation over `Except ε`; the
  lemmas here take a successful run apart, one bind, one check or one loop at
  a time, so that no proof about such a function unfolds the monad.
-/
import Mathlib.Data.List.Basic

namespace Except

variable {ε α β σ : Type}

/-- Raise `e` unless `p` holds. -/
def require (p : Prop) [Decidable p] (e : ε) : Except ε PUnit :=
  if p then .ok ⟨⟩ else .error e

theorem require_eq_ok {p : Prop} [Decidable p] {e : ε} {u : PUnit} :
    require p e = .ok u ↔ p := by
  unfold require; split_ifs with h <;> simp [h]

theorem bind_eq_ok {x : Except ε α} {f : α → Except ε β} {b : β} :
    (x >>= f) = .ok b ↔ ∃ a, x = .ok a ∧ f a = .ok b := by
  cases x with
  | error e => simp [bind, Except.bind]
  | ok a => simp [bind, Except.bind]

theorem bind_eq_error {x : Except ε α} {f : α → Except ε β} {e : ε} :
    (x >>= f) = .error e ↔ x = .error e ∨ ∃ a, x = .ok a ∧ f a = .error e := by
  cases x with
  | error e' => simp [bind, Except.bind]
  | ok a => simp [bind, Except.bind]

theorem map_eq_ok {x : Except ε α} {f : α → β} {b : β} :
    (f <$> x) = .ok b ↔ ∃ a, x = .ok a ∧ f a = b := by
  cases x with
  | error e => simp [Functor.map, Except.map]
  | ok a => simp [Functor.map, Except.map]

theorem pure_eq_ok {a b : α} : (pure a : Except ε α) = .ok b ↔ a = b := by
  simp [pure, Except.pure]

@[simp] theorem ok_bind (a : α) (f : α → Except ε β) : ((.ok a : Except ε α) >>= f) = f a := rfl

@[simp] theorem error_bind (e : ε) (f : α → Except ε β) :
    ((.error e : Except ε α) >>= f) = .error e := rfl

theorem require_bind_eq_ok {p : Prop} [Decidable p] {e : ε} {f : PUnit → Except ε β} {b : β} :
    (require p e >>= f) = .ok b ↔ p ∧ f ⟨⟩ = .ok b := by
  rw [bind_eq_ok]
  constructor
  · rintro ⟨⟨⟩, h, hf⟩; exact ⟨require_eq_ok.1 h, hf⟩
  · rintro ⟨h, hf⟩; exact ⟨⟨⟩, require_eq_ok.2 h, hf⟩

theorem require_bind_eq_error {p : Prop} [Decidable p] {e e' : ε} {f : PUnit → Except ε β} :
    (require p e >>= f) = .error e' ↔ ¬p ∧ e = e' ∨ p ∧ f ⟨⟩ = .error e' := by
  unfold require
  split_ifs with h <;> simp [h]

/-- A sequence succeeds if and only if both of its parts do. -/
theorem exists_bind_ok {x : Except ε α} {f : α → Except ε β} :
    (∃ b, (x >>= f) = .ok b) ↔ ∃ a, x = .ok a ∧ ∃ b, f a = .ok b := by
  simp only [bind_eq_ok]
  constructor
  · rintro ⟨b, a, ha, hb⟩; exact ⟨a, ha, b, hb⟩
  · rintro ⟨a, ha, b, hb⟩; exact ⟨b, a, ha, hb⟩

theorem exists_require_bind_ok {p : Prop} [Decidable p] {e : ε} {f : PUnit → Except ε β} :
    (∃ b, (require p e >>= f) = .ok b) ↔ p ∧ ∃ b, f ⟨⟩ = .ok b := by
  simp only [require_bind_eq_ok, exists_and_left]

/-- **Loop rule**: what one round of a loop preserves, the loop preserves. -/
theorem foldlM_invariant {P : σ → Prop} {f : σ → α → Except ε σ} :
    ∀ {l : List α} {s s' : σ}, l.foldlM f s = .ok s' → P s →
      (∀ a ∈ l, ∀ s s', P s → f s a = .ok s' → P s') → P s'
  | [], s, s', h, hs, _ => by
    rw [List.foldlM_nil, pure_eq_ok] at h; exact h ▸ hs
  | a :: l, s, s', h, hs, hf => by
    rw [List.foldlM_cons, bind_eq_ok] at h
    obtain ⟨s₁, h₁, h⟩ := h
    exact foldlM_invariant h (hf a (by simp) s s₁ hs h₁) fun b hb => hf b (by simp [hb])

/-! ## The errors of a computation -/

/-- Every error that the computation may raise meets `P`. -/
def Raises (P : ε → Prop) (x : Except ε α) : Prop := ∀ e, x = .error e → P e

namespace Raises

variable {P : ε → Prop}

theorem ok (a : α) : Raises P (.ok a : Except ε α) := fun _ h => by cases h

theorem error {e : ε} (h : P e) : Raises P (.error e : Except ε α) := by
  rintro e' ⟨⟩
  exact h

theorem mono {Q : ε → Prop} {x : Except ε α} (h : Raises P x) (hPQ : ∀ e, P e → Q e) :
    Raises Q x := fun e he => hPQ e (h e he)

theorem require {p : Prop} [Decidable p] {e : ε} (h : ¬p → P e) : Raises P (require p e) := by
  unfold Except.require
  split_ifs with hp
  · exact ok _
  · exact error (h hp)

theorem bind {x : Except ε α} {f : α → Except ε β} (hx : Raises P x)
    (hf : ∀ a, x = .ok a → Raises P (f a)) : Raises P (x >>= f) := by
  cases x with
  | error e => exact error (hx e rfl)
  | ok a => exact hf a rfl

theorem foldlM {f : σ → α → Except ε σ} (hf : ∀ s a, Raises P (f s a)) :
    ∀ (l : List α) (s : σ), Raises P (l.foldlM f s)
  | [], s => ok s
  | a :: l, s => (hf s a).bind fun s' _ => foldlM hf l s'

end Raises

end Except
