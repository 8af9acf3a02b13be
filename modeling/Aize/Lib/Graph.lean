/-
  Directed graphs, given by a list of edges.

  The first part is about adding one edge: which paths it adds (`path_add`), and that
  it closes no cycle unless there was a path back (`Acyclic.add`). The second part compares
  two graphs: which paths and which lack of cycles carry over from one to the other, if they
  differ in the edges from one vertex or to one vertex. The third part is a depth-first search with a list of the vertices that have been expanded. It never
  expands a vertex twice, so the number of edges bounds its rounds (`search_iff`).
-/
import Mathlib.Logic.Relation
import Mathlib.Data.List.Basic
import Mathlib.Tactic.Common

namespace EdgeList

open Relation

variable {V : Type*}

/-- No vertex is on a cycle. -/
def Acyclic (r : V → V → Prop) : Prop := ∀ x, ¬TransGen r x x

/-- The relation `r` with an edge from `p` to `c`. -/
def Add (r : V → V → Prop) (p c x y : V) : Prop := r x y ∨ x = p ∧ y = c

section Adding

variable {r : V → V → Prop} {p c x y : V}

/-- A path after the edge has been added uses it, or does not. -/
theorem path_add : ReflTransGen (Add r p c) x y ↔
    ReflTransGen r x y ∨ ReflTransGen r x p ∧ ReflTransGen r c y := by
  constructor
  · intro h
    induction h with
    | refl => exact .inl .refl
    | tail _ hstep ih =>
      rcases hstep with hr | ⟨rfl, rfl⟩
      · rcases ih with ih | ⟨hp, hc⟩
        · exact .inl (ih.tail hr)
        · exact .inr ⟨hp, hc.tail hr⟩
      · rcases ih with ih | ⟨hp, -⟩
        · exact .inr ⟨ih, .refl⟩
        · exact .inr ⟨hp, .refl⟩
  · have hmono : ∀ {a b}, ReflTransGen r a b → ReflTransGen (Add r p c) a b :=
      fun h =>
      ReflTransGen.mono (fun _ _ => .inl) _ _ h
    rintro (h | ⟨hp, hc⟩)
    · exact hmono h
    · exact ((hmono hp).tail (.inr ⟨rfl, rfl⟩)).trans (hmono hc)

/-- **An edge closes no cycle** if there is no path back. -/
theorem Acyclic.add (h : Acyclic r) (hback : ¬ReflTransGen r c p) : Acyclic (Add r p c) := by
  intro x hx
  obtain ⟨z, hstep, hpath⟩ := TransGen.head'_iff.1 hx
  rcases hstep with hr | ⟨rfl, rfl⟩
  · rcases path_add.1 hpath with hz | ⟨hz, hc⟩
    · exact h x (.head' hr hz)
    · exact hback (hc.trans (hz.head hr))
  · rcases path_add.1 hpath with hz | ⟨hz, -⟩
    · exact hback hz
    · exact hback hz

theorem Acyclic.mono {q : V → V → Prop} (h : Acyclic r) (hq : ∀ x y, q x y → r x y) : Acyclic q :=
  fun x hx => h x (TransGen.mono hq _ _ hx)

end Adding

/-! ## Comparing two graphs -/

section Comparing

variable {r q : V → V → Prop} {a c h x y : V} {T : V → Prop}

/-- A path survives if the edge that is taken away is replaced from a vertex before it. -/
theorem path_detour (hkeep : ∀ x y, r x y → q x y ∨ x = a ∧ y = c) (hnew : q h c)
    (hback : ¬ReflTransGen r c h) (hpath : ReflTransGen r a h) (hx : ReflTransGen r a x) :
    ReflTransGen q a x := by
  -- A path to `h` does not pass through `c`, so it does not use the edge.
  have hbefore : ∀ {y}, ReflTransGen r a y → ReflTransGen r y h → ReflTransGen q a y := by
    intro y hy
    induction hy with
    | refl => exact fun _ => .refl
    | @tail b y _ hstep ih =>
      intro hyh
      rcases hkeep b y hstep with hq | ⟨-, rfl⟩
      · exact (ih (hyh.head hstep)).tail hq
      · exact absurd hyh hback
  have hc : ReflTransGen q a c := (hbefore hpath .refl).tail hnew
  induction hx with
  | refl => exact .refl
  | @tail b y _ hstep ih =>
    rcases hkeep b y hstep with hq | ⟨-, rfl⟩
    · exact ih.tail hq
    · exact hc

/-- Edges that go out from a vertex which no edge leads to close no cycle. -/
theorem Acyclic.of_source (hr : Acyclic r) (hq : ∀ x y, q x y → r x y ∨ x = a)
    (ha : ∀ x, ¬q x a) : Acyclic q := by
  have hpath : ∀ {x y}, TransGen q x y → x ≠ a → TransGen r x y := by
    intro x y hxy hx
    induction hxy with
    | single hstep => exact .single ((hq _ _ hstep).resolve_right hx)
    | @tail y z hxy hstep ih =>
      refine ih.tail ((hq _ _ hstep).resolve_right ?_)
      rintro rfl
      obtain ⟨w, -, hw⟩ := TransGen.tail'_iff.1 hxy
      exact ha w hw
  intro x hx
  refine hr x (hpath hx ?_)
  rintro rfl
  obtain ⟨w, -, hw⟩ := TransGen.tail'_iff.1 hx
  exact ha w hw

/-- A path that does not start at a source uses no edge from it. -/
theorem path_of_source (hq : ∀ x y, q x y → r x y ∨ x = a) (ha : ∀ x, ¬q x a) (hx : x ≠ a)
    (hxy : ReflTransGen q x y) : ReflTransGen r x y := by
  induction hxy with
  | refl => exact .refl
  | @tail y z hxy hstep ih =>
    refine ih.tail ((hq _ _ hstep).resolve_right ?_)
    rintro rfl
    rcases ReflTransGen.cases_tail hxy with rfl | ⟨w, -, hw⟩
    · exact hx rfl
    · exact ha w hw

/-- An edge that leads on is on a path of the smaller graph. -/
theorem Acyclic.of_target (hr : Acyclic r) (hq : ∀ x y z, q x y → q y z → r x y) : Acyclic q := by
  have hpath : ∀ {x y z}, TransGen q x y → q y z → TransGen r x y := by
    intro x y z hxy
    induction hxy generalizing z with
    | single hstep => exact fun hyz => .single (hq _ _ _ hstep hyz)
    | tail _ hstep ih => exact fun hyz => (ih hstep).tail (hq _ _ _ hstep hyz)
  intro x hx
  obtain ⟨y, hxy, -⟩ := TransGen.head'_iff.1 hx
  exact hr x (hpath hx hxy)

/-- Edges from `h` close no cycle if none of their targets has a path back. -/
theorem Acyclic.fan (hr : Acyclic r) (hq : ∀ x y, q x y → r x y ∨ x = h ∧ T y)
    (hback : ∀ y, T y → ¬ReflTransGen r y h) : Acyclic q := by
  -- A path to `h` need not leave it before.
  have hto : ∀ {x}, ReflTransGen q x h → ReflTransGen r x h := by
    intro x hx
    induction hx using ReflTransGen.head_induction_on with
    | refl => exact .refl
    | head hstep _ ih =>
      rcases hq _ _ hstep with hr | ⟨rfl, -⟩
      · exact ih.head hr
      · exact .refl
  have hpath : ∀ {x y}, TransGen q x y → TransGen r x y ∨
      ∃ c, T c ∧ ReflTransGen q x h ∧ ReflTransGen q c y := by
    intro x y hxy
    induction hxy with
    | single hstep =>
      rcases hq _ _ hstep with hr | ⟨rfl, ht⟩
      · exact .inl (.single hr)
      · exact .inr ⟨_, ht, .refl, .refl⟩
    | tail hxy hstep ih =>
      rcases ih with ih | ⟨c, ht, hx, hc⟩
      · rcases hq _ _ hstep with hr | ⟨rfl, ht⟩
        · exact .inl (ih.tail hr)
        · exact .inr ⟨_, ht, hxy.to_reflTransGen, .refl⟩
      · exact .inr ⟨c, ht, hx, hc.tail hstep⟩
  intro x hx
  rcases hpath hx with hx | ⟨c, ht, hxh, hcx⟩
  · exact hr x hx
  · exact hback c ht (hto (hcx.trans hxh))

end Comparing

/-! ## Depth-first search -/

section Search

variable {E : Type*} [DecidableEq V] (src tgt : E → V) (edges : List E)

/-- The targets of the edges from `x`. -/
def children (x : V) : List V := (edges.filter fun e => src e = x).map tgt

/-- Depth-first search for `target`, with the vertices `seen` that are not expanded. -/
def search (target : V) : ℕ → List V → List V → Bool
  | 0, _, _ => false
  | _ + 1, [], _ => false
  | fuel + 1, v :: stack, seen =>
    if v = target then true
    else if v ∈ seen then search target fuel stack seen
    else search target fuel ((children src tgt edges v).reverse ++ stack) (v :: seen)

/-- There is an edge from `x` to `y`. -/
def Edge (x y : V) : Prop := ∃ e ∈ edges, src e = x ∧ tgt e = y

/-- There is an edge from `x` to `y`, and `x` may still be expanded. -/
def Fresh (seen : List V) (x y : V) : Prop := Edge src tgt edges x y ∧ x ∉ seen

/-- The number of edges from vertices that may still be expanded. -/
def freshEdges (seen : List V) : ℕ := (edges.filter fun e => src e ∉ seen).length

variable {src tgt edges}

theorem mem_children {x y : V} : y ∈ children src tgt edges x ↔ Edge src tgt edges x y := by
  simp [children, Edge, and_assoc]

/-- Expanding a vertex uses up its edges. -/
theorem freshEdges_cons {v : V} {seen : List V} (hv : v ∉ seen) :
    freshEdges src edges (v :: seen) + (children src tgt edges v).length =
      freshEdges src edges seen := by
  unfold freshEdges children
  rw [List.length_map]
  induction edges with
  | nil => rfl
  | cons e edges ih =>
    by_cases he : src e = v
    · simp [he, hv] at ih ⊢
      omega
    · by_cases hs : src e ∈ seen
      · simp [he, hs] at ih ⊢
        omega
      · simp [he, hs] at ih ⊢
        omega

/-- A path may end with its last visit to `v`: from then on `v` is not expanded. -/
theorem path_expand {v x y : V} {seen : List V} (h : ReflTransGen (Fresh src tgt edges seen) x y) :
    ReflTransGen (Fresh src tgt edges (v :: seen)) x y ∨
      ∃ z, Edge src tgt edges v z ∧ ReflTransGen (Fresh src tgt edges (v :: seen)) z y := by
  induction h using ReflTransGen.head_induction_on with
  | refl => exact .inl .refl
  | @head a b hstep _ ih =>
    rcases ih with ih | ih
    · by_cases ha : a = v
      · exact .inr ⟨b, ha ▸ hstep.1, ih⟩
      · exact .inl (ih.head ⟨hstep.1, by simp [ha, hstep.2]⟩)
    · exact .inr ih

/-- Expanding `v` replaces it by its children. -/
theorem expand_iff {v target : V} {seen stack : List V} (hv : v ∉ seen) (hne : v ≠ target) :
    (∃ x ∈ (children src tgt edges v).reverse ++ stack,
      ReflTransGen (Fresh src tgt edges (v :: seen)) x target) ↔
    ∃ x ∈ v :: stack, ReflTransGen (Fresh src tgt edges seen) x target := by
  have hmono : ∀ {a b}, ReflTransGen (Fresh src tgt edges (v :: seen)) a b →
      ReflTransGen (Fresh src tgt edges seen) a b := fun h =>
    ReflTransGen.mono (fun a b hab => ⟨hab.1, fun ha => hab.2 (List.mem_cons_of_mem v ha)⟩) _ _ h
  constructor
  · rintro ⟨x, hx, hpath⟩
    rcases List.mem_append.1 hx with hx | hx
    · have hedge := mem_children.1 (List.mem_reverse.1 hx)
      exact ⟨v, List.mem_cons_self, (hmono hpath).head ⟨hedge, hv⟩⟩
    · exact ⟨x, List.mem_cons_of_mem v hx, hmono hpath⟩
  · rintro ⟨x, hx, hpath⟩
    rcases path_expand hpath with h | ⟨z, hz, h⟩
    · rcases List.mem_cons.1 hx with hxv | hx
      · rcases ReflTransGen.cases_head (hxv ▸ h) with hv' | ⟨z, hz, -⟩
        · exact absurd hv' hne
        · exact absurd List.mem_cons_self hz.2
      · exact ⟨x, List.mem_append_right _ hx, h⟩
    · exact ⟨z, List.mem_append_left _ (List.mem_reverse.2 (mem_children.2 hz)), h⟩

/-- **What the search finds**, with enough fuel. -/
theorem search_eq_true {target : V} : ∀ {fuel : ℕ} {stack seen : List V},
    stack.length + freshEdges src edges seen < fuel →
      (search src tgt edges target fuel stack seen = true ↔
        ∃ x ∈ stack, ReflTransGen (Fresh src tgt edges seen) x target) := by
  intro fuel
  induction fuel with
  | zero => intro stack seen h; omega
  | succ fuel ih =>
    intro stack seen h
    cases stack with
    | nil => simp [search]
    | cons v stack =>
      unfold search
      split_ifs with htarget hseen
      · subst htarget
        simpa using .inl .refl
      · rw [ih (by simp at h; omega)]
        -- A vertex that is not expanded any more has only the trivial path.
        have hv : ¬ReflTransGen (Fresh src tgt edges seen) v target := by
          intro hpath
          rcases ReflTransGen.cases_head hpath with rfl | ⟨z, hz, -⟩
          · exact htarget rfl
          · exact hz.2 hseen
        simp [hv]
      · have hcount : freshEdges src edges (v :: seen) + (children src tgt edges v).length =
            freshEdges src edges seen := freshEdges_cons hseen
        rw [ih (by simp at h ⊢; omega)]
        exact expand_iff hseen htarget

/-- **The search decides reachability.** -/
theorem search_iff {start target : V} {fuel : ℕ} (h : edges.length + 1 < fuel) :
    search src tgt edges target fuel [start] [] = true ↔
      ReflTransGen (Edge src tgt edges) start target := by
  have hle : freshEdges src edges [] ≤ edges.length := List.length_filter_le ..
  rw [search_eq_true (by simp; omega)]
  have hfresh : Fresh src tgt edges [] = Edge src tgt edges := by
    ext x y
    simp [Fresh]
  simp [hfresh]

end Search

end EdgeList
