/-
  The graph of the Sessions: an edge goes from a parent to a child.

  `Acyclic` says that no Session is an ancestor of itself; a rank that grows along
  every edge shows it (`acyclic_of_rank`).
-/
import Mathlib.Logic.Relation
import Aize.Model

namespace Aize
namespace State

/-- `p` is a direct parent of `c`. -/
def Parent (s : State) (p c : String) : Prop := (⟨p, c⟩ : Edge) ∈ s.sessionEdges

/-- No Session is an ancestor of itself. -/
def Acyclic (s : State) : Prop := ∀ x, ¬Relation.TransGen s.Parent x x

theorem lt_of_ancestor {s : State} {rank : String → ℕ}
    (h : ∀ e ∈ s.sessionEdges, rank e.parent < rank e.child) {x y : String}
    (hxy : Relation.TransGen s.Parent x y) : rank x < rank y := by
  induction hxy with
  | single hp => exact h _ hp
  | tail _ hp ih => exact ih.trans (h _ hp)

/-- A rank that grows from parent to child shows that the graph has no cycle. -/
theorem acyclic_of_rank {s : State} (rank : String → ℕ)
    (h : ∀ e ∈ s.sessionEdges, rank e.parent < rank e.child) : s.Acyclic :=
  fun _ hx => lt_irrefl _ (lt_of_ancestor h hx)

theorem Acyclic.ne {s : State} (h : s.Acyclic) {p c : String} (hp : s.Parent p c) : p ≠ c := by
  rintro rfl
  exact h p (.single hp)

end State
end Aize
