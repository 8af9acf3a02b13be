/-
  The Goals around a Session (`session_goal_dag` and `_session_graph_distances` in
  `goal/query.py`).

  Two searches from the focus, one against the edges and one along them, find its
  ancestors and its descendants. `distances_exact` says what a search finds in any list of
  edges, and `goalDag_exact` what is listed then in a graph without cycles.
-/
import Aize.Lib.Distances
import Aize.SessionGraph
import Aize.Reachable

namespace Aize

open Relation Distances

/-! ## What is listed -/

/-- What a listed Session is to the focus. -/
inductive FocusRelation where
  | ancestor
  | focus
  | descendant
  deriving DecidableEq, Repr

/-- `relation_order`. -/
def FocusRelation.order : FocusRelation → ℕ
  | .ancestor => 0
  | .focus => 1
  | .descendant => 2

/-- The Goal of a listed Session. -/
structure GoalContext where
  goalId : ℕ
  body : String
  completionState : CompletionState
  completionReason : String
  deriving DecidableEq, Repr

/-- A listed Session. -/
structure GoalNode where
  sessionId : String
  active : Bool
  unitId : String
  relationToFocus : FocusRelation
  distance : ℕ
  goal : Option GoalContext
  deriving DecidableEq, Repr

/-- What an edge says about the Goals of its ends. -/
inductive Relationship where
  | subgoal
  | context
  deriving DecidableEq, Repr

/-- A listed edge. -/
structure GoalEdge where
  edge : Edge
  relationship : Relationship
  deriving DecidableEq, Repr

/-- The result of `session_goal_dag`. -/
structure GoalDag where
  focusSessionId : String
  includeDescendants : Bool
  nodes : List GoalNode
  edges : List GoalEdge
  deriving DecidableEq, Repr

/-- The order of the nodes: the farthest ancestors first, then the focus, then the
    descendants. -/
def GoalNode.before (a b : GoalNode) : Prop :=
  let key := fun n : GoalNode =>
    if n.relationToFocus = .ancestor then -(n.distance : ℤ) else (n.distance : ℤ)
  a.relationToFocus.order < b.relationToFocus.order ∨
    a.relationToFocus.order = b.relationToFocus.order ∧
      (key a < key b ∨ key a = key b ∧ a.sessionId ≤ b.sessionId)

instance instDecidableNodeBefore : DecidableRel GoalNode.before := fun a b => by
  unfold GoalNode.before; infer_instance

/-- The order of the edges. -/
def GoalEdge.before (a b : GoalEdge) : Prop :=
  a.edge.parent < b.edge.parent ∨ a.edge.parent = b.edge.parent ∧ a.edge.child ≤ b.edge.child

instance instDecidableEdgeBefore : DecidableRel GoalEdge.before := fun a b => by
  unfold GoalEdge.before; infer_instance

/-! ## The searches -/

/-- The adjacency lists that the loop over the edges fills: `to` is appended to the list of
    `source`. An edge with a missing end is passed over. -/
def adjacency (source target : Edge → String) (edges : List Edge) : Dict String (List String) :=
  edges.foldl (fun lists e =>
    if e.parent = "" ∨ e.child = "" then lists
    else lists.insert (source e) ((lists.lookup (source e)).getD [] ++ [target e])) ∅

/-- `parents_by_child`. -/
def parentsByChild (edges : List Edge) : Dict String (List String) :=
  adjacency Edge.child Edge.parent edges

/-- `children_by_parent`. -/
def childrenByParent (edges : List Edge) : Dict String (List String) :=
  adjacency Edge.parent Edge.child edges

/-- `_session_graph_distances`, for at most `fuel` rounds of its loop. -/
def sessionGraphDistances (fuel : ℕ) (adjacency : Dict String (List String)) (start : String) :
    Option (Dict String ℕ) :=
  explore (fun current => (adjacency.lookup current).getD []) fuel ((∅ : Dict String ℕ).insert start 0)
    [start]

/-- There is an edge from `p` to `c`, and both its ends are given. -/
def Joins (edges : List Edge) (p c : String) : Prop :=
  (⟨p, c⟩ : Edge) ∈ edges ∧ p ≠ "" ∧ c ≠ ""

theorem mem_adjacency {source target : Edge → String} {edges : List Edge} {x y : String} :
    y ∈ ((adjacency source target edges).lookup x).getD [] ↔
      ∃ e ∈ edges, (e.parent ≠ "" ∧ e.child ≠ "") ∧ source e = x ∧ target e = y := by
  unfold adjacency
  induction edges using List.reverseRecOn with
  | nil => simp
  | append_singleton edges e ih =>
    rw [List.foldl_append, List.foldl_cons, List.foldl_nil]
    generalize edges.foldl _ (∅ : Dict String (List String)) = lists at ih ⊢
    by_cases he : e.parent = "" ∨ e.child = ""
    · rw [if_pos he, ih]
      constructor
      · rintro ⟨e', hm, h⟩
        exact ⟨e', List.mem_append_left _ hm, h⟩
      · rintro ⟨e', hm, h⟩
        rcases List.mem_append.1 hm with hm | hm
        · exact ⟨e', hm, h⟩
        · rw [List.mem_singleton.1 hm] at h
          exact absurd he (not_or.2 h.1)
    · rw [if_neg he, Dict.lookup_insert_of]
      rw [not_or] at he
      split_ifs with hx
      · subst hx
        rw [Option.getD_some, List.mem_append, ih, List.mem_singleton]
        constructor
        · rintro (⟨e', hm, h⟩ | rfl)
          · exact ⟨e', List.mem_append_left _ hm, h⟩
          · exact ⟨e, by simp, he, rfl, rfl⟩
        · rintro ⟨e', hm, h⟩
          rcases List.mem_append.1 hm with hm | hm
          · exact .inl ⟨e', hm, h⟩
          · rw [List.mem_singleton.1 hm] at h
            exact .inr h.2.2.symm
      · rw [ih]
        constructor
        · rintro ⟨e', hm, h⟩
          exact ⟨e', List.mem_append_left _ hm, h⟩
        · rintro ⟨e', hm, h⟩
          rcases List.mem_append.1 hm with hm | hm
          · exact ⟨e', hm, h⟩
          · rw [List.mem_singleton.1 hm] at h
            exact absurd h.2.1.symm hx

theorem mem_childrenByParent (edges : List Edge) (x y : String) :
    y ∈ ((childrenByParent edges).lookup x).getD [] ↔ Joins edges x y := by
  unfold childrenByParent
  rw [mem_adjacency]
  constructor
  · rintro ⟨⟨p, c⟩, hm, hne, rfl, rfl⟩
    exact ⟨hm, hne⟩
  · rintro ⟨hm, hne⟩
    exact ⟨_, hm, hne, rfl, rfl⟩

theorem mem_parentsByChild (edges : List Edge) (x y : String) :
    y ∈ ((parentsByChild edges).lookup x).getD [] ↔ Joins edges y x := by
  unfold parentsByChild
  rw [mem_adjacency]
  constructor
  · rintro ⟨⟨p, c⟩, hm, hne, rfl, rfl⟩
    exact ⟨hm, hne⟩
  · rintro ⟨hm, hne⟩
    exact ⟨_, hm, hne, rfl, rfl⟩

/-- The search in any list of edges: enough rounds end it, and it has found the shortest
    path lengths. -/
theorem distances_exact {source target : Edge → String} {edges : List Edge}
    {r : String → String → Prop}
    (hr : ∀ x y, y ∈ ((adjacency source target edges).lookup x).getD [] ↔ r x y) (start : String) :
    ∃ dist, (∀ fuel, edges.length + 1 < fuel →
        sessionGraphDistances fuel (adjacency source target edges) start = some dist) ∧
      ∀ x n, dist.lookup x = some n ↔ Shortest r start n x := by
  have hT : ∀ x, ∀ y ∈ ((adjacency source target edges).lookup x).getD [],
      y ∈ (edges.map target).toFinset := by
    intro x y hy
    obtain ⟨e, hm, -, -, rfl⟩ := mem_adjacency.1 hy
    exact List.mem_toFinset.2 (List.mem_map_of_mem hm)
  obtain ⟨dist, hends, hexact⟩ := explore_exact hT start
  have hcard : (edges.map target).toFinset.card ≤ edges.length := by
    have := (edges.map target).toFinset_card_le
    rwa [List.length_map] at this
  have hrel : (fun x y => y ∈ ((adjacency source target edges).lookup x).getD []) = r :=
    funext fun x => funext fun y => propext (hr x y)
  refine ⟨dist, fun fuel hfuel => hends fuel (by omega), fun x n => ?_⟩
  rw [hexact, hrel]

/-! ## The listing -/

namespace State

variable {s l : State} {focus : String} {includeDescendants : Bool}

/-- `current_goals`: the current Goals by their Sessions. -/
def currentGoalsBySession (s : State) : Dict String (ℕ × Goal) :=
  s.currentGoals.foldl (fun goals g => goals.insert g.2.sessionId g) ∅

/-- What is listed of a Goal. -/
def goalContext (g : ℕ × Goal) : GoalContext :=
  { goalId := g.1
    body := g.2.body
    completionState := g.2.completionState
    completionReason := g.2.completionReason }

/-- The relation of a selected Session to the focus, and its distance. -/
def relationToFocus (focus : String) (ancestors descendants : Dict String ℕ) (id : String) :
    FocusRelation × ℕ :=
  if id = focus then (.focus, 0)
  else match ancestors.lookup id with
    | some n => (.ancestor, n)
    | none => (.descendant, (descendants.lookup id).getD 0)

/-- The node of a selected id, if it is the id of a Session. -/
def goalNode (s : State) (focus : String) (ancestors descendants : Dict String ℕ) (id : String) :
    Option GoalNode :=
  (s.sessions.lookup id).map fun session =>
    let place := relationToFocus focus ancestors descendants id
    { sessionId := id
      active := session.active
      unitId := session.unitId
      relationToFocus := place.1
      distance := place.2
      goal := (s.currentGoalsBySession.lookup id).map goalContext }

/-- What is listed of an edge. -/
def goalEdge (s : State) (e : Edge) : GoalEdge :=
  { edge := e
    relationship := if e.parent ∈ s.currentGoalsBySession ∧ e.child ∈ s.currentGoalsBySession
      then .subgoal else .context }

/-- `session_goal_dag` in the loaded state, for at most `fuel` rounds of each search. -/
def goalDag (s : State) (fuel : ℕ) (focus : String) (includeDescendants : Bool) :
    Option GoalDag := do
  let ancestors ← sessionGraphDistances fuel (parentsByChild s.sessionEdges) focus
  let descendants ← if includeDescendants then
      sessionGraphDistances fuel (childrenByParent s.sessionEdges) focus
    else some ((∅ : Dict String ℕ).insert focus 0)
  let selectedIds := (ancestors.keys ++ descendants.keys).dedup
  return {
    focusSessionId := focus
    includeDescendants := includeDescendants
    nodes := (selectedIds.filterMap (s.goalNode focus ancestors descendants)).insertionSort
      GoalNode.before
    edges := ((s.sessionEdges.filter fun e => e.parent ∈ selectedIds ∧ e.child ∈ selectedIds).map
      s.goalEdge).insertionSort GoalEdge.before }

/-- `session_goal_dag`. -/
def sessionGoalDag (s : State) (env : Env) (fuel : ℕ) (sessionId : String)
    (includeDescendants : Bool) : Except Err (Option GoalDag) := do
  let s ← s.load env
  Except.require (sessionId ∈ s.sessions) (.storeError s!"unknown session: {sessionId}")
  return s.goalDag fuel sessionId includeDescendants

/-! ## What is listed is exact -/

/-- The focus, its ancestors and, when asked for, its descendants. -/
def Around (s : State) (focus : String) (includeDescendants : Bool) (x : String) : Prop :=
  x = focus ∨ TransGen (Joins s.sessionEdges) x focus ∨
    includeDescendants ∧ TransGen (Joins s.sessionEdges) focus x

/-- The relation and the distance of a node are those of its Session in the graph. -/
def Placed (s : State) (focus : String) (includeDescendants : Bool) (node : GoalNode) : Prop :=
  match node.relationToFocus with
  | .focus => node.sessionId = focus ∧ node.distance = 0
  | .ancestor => TransGen (Joins s.sessionEdges) node.sessionId focus ∧
      Shortest (Joins s.sessionEdges) node.sessionId node.distance focus
  | .descendant => includeDescendants ∧ TransGen (Joins s.sessionEdges) focus node.sessionId ∧
      Shortest (Joins s.sessionEdges) focus node.distance node.sessionId

/-- The node says what is known of its Session. -/
structure Informs (s : State) (node : GoalNode) : Prop where
  session : ∃ session, s.sessions.lookup node.sessionId = some session ∧
    node.active = session.active ∧ node.unitId = session.unitId
  goal : node.goal = (s.currentGoalForSession node.sessionId).map goalContext

/-- The Session has a current Goal. -/
def HasGoal (s : State) (x : String) : Prop := ∃ g, s.currentGoalForSession x = some g

theorem lookup_currentGoals {x : String} (hx : x ≠ "") :
    s.currentGoalsBySession.lookup x = s.currentGoalForSession x := by
  have hfold : ∀ (gs : List (ℕ × Goal)) (d : Dict String (ℕ × Goal)),
      (gs.map fun g => g.2.sessionId).Nodup → ∀ g,
      ((gs.foldl (fun goals g => goals.insert g.2.sessionId g) d).lookup x = some g ↔
        (g ∈ gs ∧ g.2.sessionId = x) ∨ (∀ g ∈ gs, g.2.sessionId ≠ x) ∧ d.lookup x = some g) := by
    intro gs
    induction gs with
    | nil => simp
    | cons a gs ih =>
      intro d hnodup g
      rw [List.map_cons, List.nodup_cons] at hnodup
      rw [List.foldl_cons, ih _ hnodup.2, Dict.lookup_insert_of]
      by_cases ha : x = a.2.sessionId
      · have hno : ∀ b ∈ gs, b.2.sessionId ≠ x := by
          rintro b hb rfl
          exact hnodup.1 (ha ▸ List.mem_map_of_mem hb)
        rw [if_pos ha]
        constructor
        · rintro (⟨hb, he⟩ | ⟨-, he⟩)
          · exact absurd he (hno g hb)
          · cases he
            exact .inl ⟨List.mem_cons_self, ha.symm⟩
        · rintro (⟨hb, he⟩ | ⟨h, -⟩)
          · rcases List.mem_cons.1 hb with rfl | hb
            · exact .inr ⟨hno, rfl⟩
            · exact absurd he (hno g hb)
          · exact absurd ha.symm (h a List.mem_cons_self)
      · rw [if_neg ha]
        constructor
        · rintro (⟨hb, he⟩ | ⟨h, he⟩)
          · exact .inl ⟨List.mem_cons_of_mem _ hb, he⟩
          · refine .inr ⟨fun b hb => ?_, he⟩
            rcases List.mem_cons.1 hb with rfl | hb
            · exact fun h => ha h.symm
            · exact h b hb
        · rintro (⟨hb, he⟩ | ⟨h, he⟩)
          · rcases List.mem_cons.1 hb with rfl | hb
            · exact absurd he.symm ha
            · exact .inl ⟨hb, he⟩
          · exact .inr ⟨fun b hb => h b (List.mem_cons_of_mem _ hb), he⟩
  refine Option.ext fun g => ?_
  unfold currentGoalsBySession
  rw [hfold _ _ (nodup_currentGoals s)]
  constructor
  · rintro (⟨hg, rfl⟩ | ⟨-, hg⟩)
    · exact (mem_currentGoals.1 hg).2
    · cases hg
  · intro hg
    obtain ⟨-, -, rfl⟩ := currentGoalForSession_eq_some hg
    exact .inl ⟨mem_currentGoals.2 ⟨hx, hg⟩, rfl⟩

/-- What the two searches find. -/
structure Found (s : State) (focus : String) (includeDescendants : Bool)
    (ancestors descendants : Dict String ℕ) : Prop where
  ancestor : ∀ x n, ancestors.lookup x = some n ↔ Shortest (Joins s.sessionEdges) x n focus
  descendant : ∀ x n, descendants.lookup x = some n ↔
    if includeDescendants then Shortest (Joins s.sessionEdges) focus n x else x = focus ∧ n = 0

variable {ancestors descendants : Dict String ℕ}

theorem exists_found (s : State) (focus : String) (includeDescendants : Bool) :
    ∃ ancestors descendants, Found s focus includeDescendants ancestors descendants ∧
      ∀ fuel, s.sessionEdges.length + 1 < fuel →
        sessionGraphDistances fuel (parentsByChild s.sessionEdges) focus = some ancestors ∧
        (if includeDescendants then
            sessionGraphDistances fuel (childrenByParent s.sessionEdges) focus
          else some ((∅ : Dict String ℕ).insert focus 0)) = some descendants := by
  obtain ⟨ancestors, hends, hexact⟩ := distances_exact
    (mem_parentsByChild s.sessionEdges) focus
  obtain ⟨below, hends', hexact'⟩ := distances_exact
    (mem_childrenByParent s.sessionEdges) focus
  cases includeDescendants with
  | true =>
    refine ⟨ancestors, below, ⟨fun x n => ?_, fun x n => ?_⟩, fun fuel h => ⟨hends fuel h, ?_⟩⟩
    · rw [hexact, shortest_reverse]
    · rw [hexact', if_pos rfl]
    · rw [if_pos rfl]
      exact hends' fuel h
  | false =>
    refine ⟨ancestors, (∅ : Dict String ℕ).insert focus 0, ⟨fun x n => ?_, fun x n => ?_⟩,
      fun fuel h => ⟨hends fuel h, rfl⟩⟩
    · rw [hexact, shortest_reverse]
    · rw [if_neg Bool.false_ne_true, Dict.lookup_insert_of]
      split_ifs with hx
      · simp [hx, eq_comm]
      · simp [hx]

theorem Found.mem_ancestors (h : Found s focus includeDescendants ancestors descendants)
    {x : String} : x ∈ ancestors ↔ x = focus ∨ TransGen (Joins s.sessionEdges) x focus := by
  have hr : x ∈ ancestors ↔ ReflTransGen (Joins s.sessionEdges) x focus := by
    rw [Dict.mem_iff_lookup]
    constructor
    · rintro ⟨n, hn⟩
      exact ((h.ancestor x n).1 hn).path.reaches
    · intro hp
      obtain ⟨n, hn⟩ := exists_shortest hp
      exact ⟨n, (h.ancestor x n).2 hn⟩
  rw [hr, reflTransGen_iff_eq_or_transGen, eq_comm]

theorem Found.mem_descendants (h : Found s focus includeDescendants ancestors descendants)
    {x : String} : x ∈ descendants ↔
      x = focus ∨ includeDescendants ∧ TransGen (Joins s.sessionEdges) focus x := by
  rw [Dict.mem_iff_lookup]
  constructor
  · rintro ⟨n, hn⟩
    rw [h.descendant] at hn
    split_ifs at hn with hi
    · exact (reflTransGen_iff_eq_or_transGen.1 hn.path.reaches).imp_right fun hp => ⟨hi, hp⟩
    · exact .inl hn.1
  · rintro (rfl | ⟨hi, hp⟩)
    · refine ⟨0, (h.descendant x 0).2 ?_⟩
      split_ifs
      · exact .refl _ _
      · exact ⟨rfl, rfl⟩
    · obtain ⟨n, hn⟩ := exists_shortest hp.to_reflTransGen
      refine ⟨n, (h.descendant x n).2 ?_⟩
      rwa [if_pos hi]

/-- The ids that are selected. -/
theorem Found.mem_selected (h : Found s focus includeDescendants ancestors descendants)
    {x : String} :
    x ∈ (ancestors.keys ++ descendants.keys).dedup ↔ s.Around focus includeDescendants x := by
  rw [List.mem_dedup, List.mem_append, ← AList.mem_keys, ← AList.mem_keys, h.mem_ancestors,
    h.mem_descendants]
  unfold Around
  tauto

theorem acyclic_joins (h : s.Acyclic) (x : String) : ¬TransGen (Joins s.sessionEdges) x x :=
  fun hx => h x (TransGen.mono (fun _ _ hj => hj.1) _ _ hx)

/-- **The place of a node** is the right one, and the only one. -/
theorem Found.placed_iff (h : Found s focus includeDescendants ancestors descendants)
    (hacyclic : s.Acyclic) {node : GoalNode} :
    s.Placed focus includeDescendants node ↔
      s.Around focus includeDescendants node.sessionId ∧
        (node.relationToFocus, node.distance) =
          relationToFocus focus ancestors descendants node.sessionId := by
  have hcycle := acyclic_joins hacyclic
  unfold Placed relationToFocus
  by_cases hf : node.sessionId = focus
  · rw [if_pos hf]
    cases hr : node.relationToFocus with
    | focus => simp [hf, Around]
    | ancestor => simp [hf, hcycle]
    | descendant => simp [hf, hcycle]
  · rw [if_neg hf]
    cases hl : ancestors.lookup node.sessionId with
    | some n =>
      have hs := (h.ancestor _ n).1 hl
      have hpath : TransGen (Joins s.sessionEdges) node.sessionId focus :=
        (h.mem_ancestors.1 (Dict.mem_iff_lookup.2 ⟨n, hl⟩)).resolve_left hf
      have hback : ¬TransGen (Joins s.sessionEdges) focus node.sessionId := fun hp =>
        hcycle focus (hp.trans hpath)
      cases hr : node.relationToFocus with
      | focus => simp [hf]
      | ancestor =>
        simp only [Prod.mk.injEq, true_and]
        constructor
        · rintro ⟨-, hd⟩
          exact ⟨.inr (.inl hpath), hd.unique hs⟩
        · rintro ⟨-, hd⟩
          exact ⟨hpath, hd ▸ hs⟩
      | descendant => simp [hback]
    | none =>
      have hno : ¬TransGen (Joins s.sessionEdges) node.sessionId focus := by
        intro hp
        have hmem := h.mem_ancestors.2 (.inr hp)
        rw [← AList.lookup_isSome, hl] at hmem
        cases hmem
      cases hr : node.relationToFocus with
      | focus => simp [hf]
      | ancestor => simp [hno]
      | descendant =>
        simp only [Prod.mk.injEq, true_and, Around, hf, hno, false_or]
        constructor
        · rintro ⟨hi, hp, hd⟩
          have hlook := (h.descendant node.sessionId node.distance).2 (by rwa [if_pos hi])
          exact ⟨⟨hi, hp⟩, by rw [hlook]; rfl⟩
        · rintro ⟨⟨hi, hp⟩, hd⟩
          obtain ⟨n, hn⟩ := exists_shortest hp.to_reflTransGen
          have hlook := (h.descendant node.sessionId n).2 (by rwa [if_pos hi])
          rw [hlook, Option.getD_some] at hd
          exact ⟨hi, hp, hd ▸ hn⟩

/-- Exactly the Sessions around the focus are listed, each once and where it belongs, with
    the edges between them. -/
structure ListsExactly (s : State) (focus : String) (includeDescendants : Bool)
    (dag : GoalDag) : Prop where
  header : dag.focusSessionId = focus ∧ dag.includeDescendants = includeDescendants
  nodup : (dag.nodes.map GoalNode.sessionId).Nodup
  listed : ∀ x, x ∈ dag.nodes.map GoalNode.sessionId ↔
    x ∈ s.sessions ∧ s.Around focus includeDescendants x
  node : ∀ node, node ∈ dag.nodes ↔ s.Informs node ∧ s.Placed focus includeDescendants node
  edge : ∀ d, d ∈ dag.edges ↔ d.edge ∈ s.sessionEdges ∧
    (s.Around focus includeDescendants d.edge.parent ∧
      s.Around focus includeDescendants d.edge.child) ∧
    (d.relationship = .subgoal ↔ s.HasGoal d.edge.parent ∧ s.HasGoal d.edge.child)
  multiplicity : ∀ e ∈ dag.edges.map GoalEdge.edge,
    (dag.edges.map GoalEdge.edge).count e = s.sessionEdges.count e
  between : (∀ e ∈ s.sessionEdges, e.parent ∈ s.sessions ∧ e.child ∈ s.sessions) →
    ∀ e ∈ s.sessionEdges, (e ∈ dag.edges.map GoalEdge.edge ↔
      e.parent ∈ dag.nodes.map GoalNode.sessionId ∧ e.child ∈ dag.nodes.map GoalNode.sessionId)

theorem around_ne (hfocus : focus ≠ "") {x : String}
    (h : s.Around focus includeDescendants x) : x ≠ "" := by
  rcases h with rfl | hp | ⟨-, hp⟩
  · exact hfocus
  · obtain ⟨z, hz, -⟩ := TransGen.head'_iff.1 hp
    exact hz.2.1
  · obtain ⟨z, -, hz⟩ := TransGen.tail'_iff.1 hp
    exact hz.2.2

theorem mem_currentGoals_iff {x : String} (hx : x ≠ "") :
    x ∈ s.currentGoalsBySession ↔ s.HasGoal x := by
  rw [Dict.mem_iff_lookup, lookup_currentGoals hx]
  rfl

theorem goalNode_eq_some {node : GoalNode} {x : String} (hx : x ≠ "") :
    s.goalNode focus ancestors descendants x = some node ↔ node.sessionId = x ∧ s.Informs node ∧
      (node.relationToFocus, node.distance) = relationToFocus focus ancestors descendants x := by
  unfold goalNode
  rw [Option.map_eq_some_iff, lookup_currentGoals hx]
  constructor
  · rintro ⟨session, hs, rfl⟩
    exact ⟨rfl, ⟨⟨session, hs, rfl, rfl⟩, rfl⟩, rfl⟩
  · rintro ⟨rfl, ⟨⟨session, hs, hactive, hunit⟩, hgoal⟩, hplace⟩
    refine ⟨session, hs, ?_⟩
    rw [← hplace, ← hactive, ← hunit, ← hgoal]

/-- **The listing is exact** in a graph without cycles. -/
theorem goalDag_exact (hacyclic : s.Acyclic) (hfocus : focus ∈ s.sessions)
    (hne : ∀ x ∈ s.sessions, x ≠ "") (includeDescendants : Bool) :
    ∃ dag, (∀ fuel, s.sessionEdges.length + 1 < fuel →
        s.goalDag fuel focus includeDescendants = some dag) ∧
      s.ListsExactly focus includeDescendants dag := by
  obtain ⟨ancestors, descendants, hfound, hends⟩ := exists_found s focus includeDescendants
  generalize hids : (ancestors.keys ++ descendants.keys).dedup = ids
  have hmem : ∀ x, x ∈ ids ↔ s.Around focus includeDescendants x := fun x => by
    rw [← hids]
    exact hfound.mem_selected
  have hidne : ∀ x ∈ ids, x ≠ "" := fun x hx => around_ne (hne _ hfocus) ((hmem x).1 hx)
  have hnodup : ids.Nodup := hids ▸ List.nodup_dedup _
  have hnode : ∀ node, node ∈ ids.filterMap (s.goalNode focus ancestors descendants) ↔
      s.Informs node ∧ s.Placed focus includeDescendants node := by
    intro node
    rw [List.mem_filterMap, hfound.placed_iff hacyclic]
    constructor
    · rintro ⟨x, hx, hn⟩
      obtain ⟨rfl, hi, hp⟩ := (goalNode_eq_some (hidne x hx)).1 hn
      exact ⟨hi, (hmem _).1 hx, hp⟩
    · rintro ⟨hi, hx, hp⟩
      have hx := (hmem _).2 hx
      exact ⟨_, hx, (goalNode_eq_some (hidne _ hx)).2 ⟨rfl, hi, hp⟩⟩
  have hlisted : ∀ x, x ∈ (ids.filterMap (s.goalNode focus ancestors descendants)).map
      GoalNode.sessionId ↔ x ∈ s.sessions ∧ s.Around focus includeDescendants x := by
    intro x
    rw [List.map_filterMap, List.mem_filterMap]
    constructor
    · rintro ⟨y, hy, hmap⟩
      obtain ⟨node, hn, rfl⟩ := Option.map_eq_some_iff.1 hmap
      obtain ⟨rfl, ⟨⟨session, hs, -⟩, -⟩, -⟩ := (goalNode_eq_some (hidne y hy)).1 hn
      exact ⟨Dict.mem_iff_lookup.2 ⟨session, hs⟩, (hmem _).1 hy⟩
    · rintro ⟨hs, hx⟩
      obtain ⟨session, hs⟩ := Dict.mem_iff_lookup.1 hs
      refine ⟨x, (hmem x).2 hx, ?_⟩
      unfold goalNode
      rw [hs]
      rfl
  have hedges : ∀ e, e ∈ s.sessionEdges.filter (fun e => e.parent ∈ ids ∧ e.child ∈ ids) ↔
      e ∈ s.sessionEdges ∧ s.Around focus includeDescendants e.parent ∧
        s.Around focus includeDescendants e.child := by
    intro e
    rw [List.mem_filter, decide_eq_true_eq, hmem, hmem]
  generalize hnodes : ids.filterMap (s.goalNode focus ancestors descendants) = nodes
    at hnode hlisted
  generalize hkept : s.sessionEdges.filter (fun e => e.parent ∈ ids ∧ e.child ∈ ids) = kept at hedges
  have hmapped : ((kept.map s.goalEdge).insertionSort GoalEdge.before).map GoalEdge.edge |>.Perm
      kept := by
    have hperm := (List.perm_insertionSort GoalEdge.before (kept.map s.goalEdge)).map GoalEdge.edge
    rw [List.map_map] at hperm
    have hid : kept.map (GoalEdge.edge ∘ s.goalEdge) = kept := List.map_id' kept
    rwa [hid] at hperm
  refine ⟨{ focusSessionId := focus
            includeDescendants := includeDescendants
            nodes := nodes.insertionSort GoalNode.before
            edges := (kept.map s.goalEdge).insertionSort GoalEdge.before },
    fun fuel hfuel => ?_, ⟨rfl, rfl⟩, ?_, fun x => ?_, fun node => ?_, fun d => ?_, fun e he => ?_,
    fun hjoined e he => ?_⟩
  · obtain ⟨h₁, h₂⟩ := hends fuel hfuel
    unfold goalDag
    rw [h₁]
    split_ifs at h₂ ⊢
    · rw [h₂]
      dsimp only [bind, Option.bind]
      rw [hids, hnodes, hkept]
      rfl
    · cases h₂
      dsimp only [bind, Option.bind]
      rw [hids, hnodes, hkept]
      rfl
  · dsimp only
    rw [((List.perm_insertionSort GoalNode.before nodes).map GoalNode.sessionId).nodup_iff, ← hnodes,
      List.map_filterMap]
    refine List.Nodup.filterMap (fun x y z hx hy => ?_) hnodup
    obtain ⟨n, hn, rfl⟩ := Option.map_eq_some_iff.1 hx
    obtain ⟨n', hn', he⟩ := Option.map_eq_some_iff.1 hy
    obtain ⟨session, -, rfl⟩ := Option.map_eq_some_iff.1 hn
    obtain ⟨session', -, rfl⟩ := Option.map_eq_some_iff.1 hn'
    exact he.symm
  · rw [((List.perm_insertionSort GoalNode.before nodes).map GoalNode.sessionId).mem_iff]
    exact hlisted x
  · rw [List.mem_insertionSort]
    exact hnode node
  · rw [List.mem_insertionSort, List.mem_map]
    have hgoal : ∀ e ∈ kept, ((s.goalEdge e).relationship = .subgoal ↔
        s.HasGoal e.parent ∧ s.HasGoal e.child) := by
      intro e he
      obtain ⟨-, hp, hc⟩ := (hedges e).1 he
      rw [← mem_currentGoals_iff (around_ne (hne _ hfocus) hp),
        ← mem_currentGoals_iff (around_ne (hne _ hfocus) hc)]
      unfold goalEdge
      split_ifs with h
      · simp [h]
      · simp [h]
    constructor
    · rintro ⟨e, he, rfl⟩
      obtain ⟨hm, harnd⟩ := (hedges e).1 he
      exact ⟨hm, harnd, hgoal e he⟩
    · rintro ⟨hm, harnd, hrel⟩
      have he := (hedges d.edge).2 ⟨hm, harnd⟩
      refine ⟨d.edge, he, ?_⟩
      have hsame := (hgoal d.edge he).trans hrel.symm
      obtain ⟨e, r⟩ := d
      have : (s.goalEdge e).relationship = r := by
        cases r <;> cases hr : (s.goalEdge e).relationship <;> simp [hr] at hsame ⊢
      rw [← this]
      rfl
  · rw [hmapped.count_eq]
    have hk : e ∈ kept := hmapped.mem_iff.1 he
    rw [← hkept] at hk ⊢
    exact List.count_filter (List.mem_filter.1 hk).2
  · have hk : e ∈ ((kept.map s.goalEdge).insertionSort GoalEdge.before).map GoalEdge.edge ↔ e ∈ kept :=
      hmapped.mem_iff
    have hsorted : ∀ x, x ∈ (nodes.insertionSort GoalNode.before).map GoalNode.sessionId ↔
        x ∈ s.sessions ∧ s.Around focus includeDescendants x := fun x => by
      rw [((List.perm_insertionSort GoalNode.before nodes).map GoalNode.sessionId).mem_iff]
      exact hlisted x
    rw [hk, hedges, hsorted, hsorted]
    obtain ⟨hp, hc⟩ := hjoined e he
    tauto

/-- No loaded Session has a blank id. -/
theorem ne_of_load {env : Env} (h : s.load env = .ok l) : ∀ x ∈ l.sessions, x ≠ "" := by
  unfold load ensureDefaults at h
  dsimp only at h
  obtain ⟨s₁, -, h⟩ := Except.bind_eq_ok.1 h
  obtain ⟨s₂, -, h⟩ := Except.bind_eq_ok.1 h
  obtain ⟨s₃, -, h⟩ := Except.bind_eq_ok.1 h
  obtain ⟨s₄, -, h⟩ := Except.bind_eq_ok.1 h
  obtain ⟨⟨⟩, hcheck, h⟩ := Except.bind_eq_ok.1 h
  cases h
  obtain ⟨-, hcheck⟩ := Except.require_bind_eq_ok.1 hcheck
  rintro x hx rfl
  exact Except.require_eq_ok.1 hcheck "" (AList.mem_keys.1 hx) (by decide)

end State

open State

/-- **The Goals around a Session.** In any list of edges, both searches end and find the
    Sessions that can be reached, with the lengths of the shortest paths; so in a graph
    without cycles the listing is exact. -/
theorem session_goals_exact :
    (∀ (edges : List Edge) (start : String),
      (∃ dist, (∀ fuel, edges.length + 1 < fuel →
          sessionGraphDistances fuel (childrenByParent edges) start = some dist) ∧
        (∀ x, x ∈ dist ↔ ReflTransGen (Joins edges) start x) ∧
        ∀ x n, dist.lookup x = some n ↔ Shortest (Joins edges) start n x) ∧
      ∃ dist, (∀ fuel, edges.length + 1 < fuel →
          sessionGraphDistances fuel (parentsByChild edges) start = some dist) ∧
        (∀ x, x ∈ dist ↔ ReflTransGen (Joins edges) x start) ∧
        ∀ x n, dist.lookup x = some n ↔ Shortest (Joins edges) x n start) ∧
    ∀ (s l : State) (env : Env) (focus : String) (includeDescendants : Bool),
      s.load env = .ok l → l.Acyclic → focus ∈ l.sessions →
        ∃ dag, (∀ fuel, l.sessionEdges.length + 1 < fuel →
            s.sessionGoalDag env fuel focus includeDescendants = .ok (some dag)) ∧
          l.ListsExactly focus includeDescendants dag := by
  refine ⟨fun edges start => ⟨?_, ?_⟩, fun s l env focus includeDescendants hl hacyclic hfocus => ?_⟩
  · obtain ⟨dist, hends, hexact⟩ := distances_exact
      (mem_childrenByParent edges) start
    refine ⟨dist, hends, fun x => ?_, hexact⟩
    rw [Dict.mem_iff_lookup]
    constructor
    · rintro ⟨n, hn⟩
      exact ((hexact x n).1 hn).path.reaches
    · intro hp
      obtain ⟨n, hn⟩ := exists_shortest hp
      exact ⟨n, (hexact x n).2 hn⟩
  · obtain ⟨dist, hends, hexact⟩ := distances_exact
      (mem_parentsByChild edges) start
    refine ⟨dist, hends, fun x => ?_, fun x n => (hexact x n).trans shortest_reverse⟩
    rw [Dict.mem_iff_lookup]
    constructor
    · rintro ⟨n, hn⟩
      exact (shortest_reverse.1 ((hexact x n).1 hn)).path.reaches
    · intro hp
      obtain ⟨n, hn⟩ := exists_shortest hp
      exact ⟨n, (hexact x n).2 (shortest_reverse.2 hn)⟩
  · obtain ⟨dag, hends, hexact⟩ := goalDag_exact hacyclic hfocus (ne_of_load hl) includeDescendants
    refine ⟨dag, fun fuel hfuel => ?_, hexact⟩
    unfold sessionGoalDag
    rw [hl, Except.ok_bind, Except.require, if_pos hfocus, Except.ok_bind, hends fuel hfuel]
    rfl

/-- The Session of a new Goal and its parent, the root. -/
theorem session_goals_exact_started :
    ∃ dag, (∀ fuel, (loadedAfter started (clock 3)).sessionEdges.length + 1 < fuel →
        (newStore.nexts started).store.sessionGoalDag (clock 3) fuel "a" true = .ok (some dag)) ∧
      (loadedAfter started (clock 3)).ListsExactly "a" true dag := by
  have hrank : ∀ e ∈ (loadedAfter started (clock 3)).sessionEdges,
      (if e.parent = "root" then 0 else 1) < if e.child = "root" then 0 else 1 := by
    decide +kernel
  exact session_goals_exact.2 _ _ (clock 3) "a" true (ok_getD (by decide +kernel))
    (acyclic_of_rank (fun x => if x = "root" then 0 else 1) hrank) (by decide +kernel)

end Aize
