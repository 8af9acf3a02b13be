/-
  Labelled transition systems: runs, reachability and the rules to reason
  about them.

  A system is given by its initial states and a step relation. `Run` keeps the
  whole history (every step with the state before and after it), so that a
  property of a run can speak about the step that made something true.
  `Reachable.of_step` and `Run.invariant` are the two induction rules;
  `restrict` is the sub-system whose steps meet a condition on the state before
  the step and the action.
-/
import Mathlib.Data.List.Basic

/-- A transition system over states `σ` with actions `α`. -/
structure TransitionSystem (σ α : Type) where
  init : σ → Prop
  step : σ → α → σ → Prop

namespace TransitionSystem

variable {σ α : Type} (T : TransitionSystem σ α)

/-- One step of a run, with the state before and after it. -/
structure Event (σ α : Type) where
  pre : σ
  act : α
  post : σ

/-- `T.Run s tr s'`: the steps `tr` (oldest first) lead from `s` to `s'`. -/
inductive Run : σ → List (Event σ α) → σ → Prop
  | nil (s : σ) : Run s [] s
  | snoc {s s₁ s₂ : σ} {tr : List (Event σ α)} {a : α} :
      Run s tr s₁ → T.step s₁ a s₂ → Run s (tr ++ [⟨s₁, a, s₂⟩]) s₂

/-- `s` is reached from an initial state. -/
def Reachable (s : σ) : Prop := ∃ s₀ tr, T.init s₀ ∧ T.Run s₀ tr s

/-- The runs all of whose steps meet `P` (of the state before and the action). -/
def restrict (P : σ → α → Prop) : TransitionSystem σ α where
  init := T.init
  step s a s' := T.step s a s' ∧ P s a

/-- Each action of a list meets a condition on the state before it; `f` is the step. -/
def Meets (f : σ → α → σ) (C : σ → α → Prop) : σ → List α → Prop
  | _, [] => True
  | s, a :: as => C s a ∧ Meets f C (f s a) as

variable {T}

theorem Reachable.init {s : σ} (h : T.init s) : T.Reachable s := ⟨s, [], h, .nil s⟩

theorem Reachable.step {s s' : σ} {a : α} (h : T.Reachable s) (hs : T.step s a s') :
    T.Reachable s' := by
  obtain ⟨s₀, tr, h₀, hr⟩ := h
  exact ⟨s₀, _, h₀, hr.snoc hs⟩

/-- Where the steps are those of a function, its iteration stays within the reachable states. -/
theorem Reachable.foldl {f : σ → α → σ} (hf : ∀ s a, T.step s a (f s a)) {s : σ}
    (h : T.Reachable s) (as : List α) : T.Reachable (as.foldl f s) := by
  induction as generalizing s with
  | nil => exact h
  | cons a as ih => exact ih (h.step (hf s a))

/-- The same in the sub-system whose steps meet a condition. -/
theorem Reachable.foldl_restrict {C : σ → α → Prop} {f : σ → α → σ}
    (hf : ∀ s a, T.step s a (f s a)) {s : σ} {as : List α} (h : (T.restrict C).Reachable s)
    (has : Meets f C s as) : (T.restrict C).Reachable (as.foldl f s) := by
  induction as generalizing s with
  | nil => exact h
  | cons a as ih => exact ih (h.step ⟨hf s a, has.1⟩) has.2

/-- **Run rule**: what holds of the empty run and is kept by one more step holds
    of every run. -/
theorem Run.invariant {P : List (Event σ α) → σ → Prop} {s s' : σ} {tr : List (Event σ α)}
    (h : T.Run s tr s') (h₀ : P [] s)
    (hstep : ∀ tr s₁ a s₂, T.Run s tr s₁ → P tr s₁ → T.step s₁ a s₂ →
      P (tr ++ [⟨s₁, a, s₂⟩]) s₂) : P tr s' := by
  induction h with
  | nil => exact h₀
  | snoc hr hs ih => exact hstep _ _ _ _ hr ih hs

/-- **Invariant rule**: an inductive property holds in every reachable state. -/
theorem Reachable.of_step {P : σ → Prop} {s : σ} (h : T.Reachable s)
    (h₀ : ∀ s, T.init s → P s)
    (hstep : ∀ s a s', T.Reachable s → P s → T.step s a s' → P s') : P s := by
  obtain ⟨s₀, tr, hi, hr⟩ := h
  refine hr.invariant (P := fun _ s => P s) (h₀ _ hi) ?_
  exact fun tr s₁ a s₂ hr₁ hP hs => hstep s₁ a s₂ ⟨s₀, tr, hi, hr₁⟩ hP hs

theorem Run.of_restrict {P : σ → α → Prop} {s s' : σ} {tr : List (Event σ α)}
    (h : (T.restrict P).Run s tr s') : T.Run s tr s' := by
  induction h with
  | nil => exact .nil _
  | snoc _ hs ih => exact ih.snoc hs.1

theorem Reachable.of_restrict {P : σ → α → Prop} {s : σ} (h : (T.restrict P).Reachable s) :
    T.Reachable s := by
  obtain ⟨s₀, tr, h₀, hr⟩ := h
  exact ⟨s₀, tr, h₀, hr.of_restrict⟩

/-- Every event of a run is a step of the system. -/
theorem Run.step_of_mem {s s' : σ} {tr : List (Event σ α)} (h : T.Run s tr s') {e : Event σ α}
    (he : e ∈ tr) : T.step e.pre e.act e.post := by
  induction h with
  | nil => simp at he
  | snoc _ hs ih =>
    rcases List.mem_append.1 he with he | he
    · exact ih he
    · rw [List.mem_singleton.1 he]; exact hs

/-- A run from a reachable state goes through reachable states. -/
theorem Run.reachable {s s' : σ} {tr : List (Event σ α)} (h : T.Run s tr s') (h₀ : T.Reachable s) :
    T.Reachable s' ∧ ∀ e ∈ tr, T.Reachable e.pre := by
  induction h with
  | nil => exact ⟨h₀, fun e he => absurd he List.not_mem_nil⟩
  | snoc _ hs ih =>
    obtain ⟨hr, hall⟩ := ih
    refine ⟨hr.step hs, fun e he => ?_⟩
    rcases List.mem_append.1 he with he | he
    · exact hall e he
    · rw [List.mem_singleton.1 he]
      exact hr

end TransitionSystem
