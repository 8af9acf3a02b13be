/-
  The repair of the Session graph (`_has_path`, `_link_sessions_in_state`,
  `_ensure_unit_session_owner_parents` and the root edges of `ensure_defaults`).

  A repair hangs the homes below the root, every Session of an owned Unit below the home of
  its owner, and what then has no path from the root below the root. `Above` is the graph as
  the repair is going to see it: the parents and the homes of the owners. On a housed state
  whose graph is a DAG below the root, a repair raises nothing exactly when nobody is above
  itself (`Housed.defaults_ok`, `Housed.hung`), and `Hung` is what it then leaves.
-/
import Aize.SessionGraph
import Aize.Housing
import Aize.Lib.Graph

namespace Aize

open Relation

namespace State

variable {s s₁ s' : State} {p c sid home timestamp : String}

/-! ## Paths -/

theorem searchPath_eq (edges : List Edge) (target : String) : ∀ fuel stack seen,
    searchPath edges target fuel stack seen =
      EdgeList.search Edge.parent Edge.child edges target fuel stack seen := by
  intro fuel
  induction fuel with
  | zero => exact fun _ _ => rfl
  | succ fuel ih =>
    intro stack seen
    cases stack with
    | nil => rfl
    | cons x stack =>
      unfold searchPath EdgeList.search
      rw [ih, ih]
      rfl

/-- **`_has_path`** decides whether there is a path. -/
theorem hasPath_iff {x y : String} :
    hasPath s.sessionEdges x y = true ↔ ReflTransGen s.Parent x y := by
  unfold hasPath
  rw [searchPath_eq, EdgeList.search_iff (by omega)]
  have hedge : EdgeList.Edge Edge.parent Edge.child s.sessionEdges = s.Parent := by
    funext a b
    refine propext ⟨?_, fun h => ⟨⟨a, b⟩, h, rfl, rfl⟩⟩
    rintro ⟨e, he, rfl, rfl⟩
    exact he
  rw [hedge]

/-- **`_link_sessions_in_state`**. -/
theorem link_eq_ok : s.linkSessionsInState p c = .ok s' ↔ p ∈ s.sessions ∧ c ∈ s.sessions ∧ p ≠ c ∧
    (s.Parent p c ∧ s' = s ∨ ¬s.Parent p c ∧ ¬ReflTransGen s.Parent c p ∧
      s' = { s with sessionEdges := s.sessionEdges ++ [⟨p, c⟩] }) := by
  unfold linkSessionsInState
  rw [← hasPath_iff]
  unfold Parent
  by_cases hp : p ∈ s.sessions
  · by_cases hc : c ∈ s.sessions
    · by_cases hne : p = c
      · simp [hc, hne]
      · by_cases hmem : (⟨p, c⟩ : Edge) ∈ s.sessionEdges
        · simp [hp, hc, hne, hmem, @eq_comm _ s s']
        · by_cases hpath : hasPath s.sessionEdges c p = true
          · simp [hp, hc, hne, hmem, hpath]
          · simp only [hp, hc, hne, hmem, hpath, not_true, if_false, true_and, false_and, false_or,
              not_false_eq_true, ne_eq, Except.ok.injEq, Bool.false_eq_true]
            exact eq_comm
    · simp [hp, hc]
  · simp [hp]

theorem mem_append_edge {edges : List Edge} {x y : String} :
    (⟨x, y⟩ : Edge) ∈ edges ++ [⟨p, c⟩] ↔ (⟨x, y⟩ : Edge) ∈ edges ∨ x = p ∧ y = c := by
  simp

/-! ## Owners -/

/-- The home of the owner of a Session's Unit, below which the Session belongs. -/
def ownerHome (s : State) (sessionId : String) : Option String :=
  let unitId := (s.sessions.lookup sessionId).elim "" fun session => strip session.unitId
  let owner := (s.units.lookup unitId).elim "" fun unit => strip unit.ownerAccount
  ((s.users.lookup owner).map fun user => strip user.homeSessionId).filter fun home =>
    home ≠ "" ∧ home ≠ sessionId

theorem ownerParent_none (h : s.ownerHome sid = none) : s.ensureOwnerParent sid = .ok s := by
  unfold ownerHome at h
  unfold ensureOwnerParent
  dsimp only at h ⊢
  split
  · rfl
  · rename_i user hu
    rw [hu, Option.map_some] at h
    rw [if_pos]
    by_contra hno
    rw [not_or] at hno
    rw [Option.filter_some_pos (by simpa using hno)] at h
    cases h

/-- **One round of `_ensure_unit_session_owner_parents`.** -/
theorem ownerParent_some (h : s.ownerHome sid = some home) (hsid : sid ∈ s.sessions) :
    s.ensureOwnerParent sid = .ok s' ↔ home ∈ s.sessions ∧
      (s.Parent home sid ∨ ¬ReflTransGen s.Parent sid home) ∧
      s' = { s with sessionEdges := ((if (⟨home, sid⟩ : Edge) ∈ s.sessionEdges then s.sessionEdges
        else s.sessionEdges ++ [⟨home, sid⟩]).filter (· ≠ ⟨rootSessionId, sid⟩)) } := by
  unfold ownerHome at h
  unfold ensureOwnerParent
  dsimp only at h ⊢
  split
  · rename_i hu
    rw [hu] at h
    cases h
  · rename_i user hu
    rw [hu, Option.map_some] at h
    obtain ⟨hhome, hne⟩ := Option.filter_eq_some_iff.1 h
    cases Option.some.inj hhome
    have hne' : strip user.homeSessionId ≠ "" ∧ strip user.homeSessionId ≠ sid := by simpa using hne
    rw [if_neg (by simpa using hne'), Except.require_bind_eq_ok]
    refine and_congr_right fun hmem => ?_
    by_cases hedge : s.Parent (strip user.homeSessionId) sid
    · have hedge' : (⟨strip user.homeSessionId, sid⟩ : Edge) ∈ s.sessionEdges := hedge
      rw [if_pos hedge', if_pos hedge', Except.ok_bind, Except.pure_eq_ok]
      simp [hedge, eq_comm]
    · have hedge' : (⟨strip user.homeSessionId, sid⟩ : Edge) ∉ s.sessionEdges := hedge
      rw [if_neg hedge', if_neg hedge', Except.bind_eq_ok]
      simp only [link_eq_ok, hmem, hsid, hne'.2, hedge, true_and, false_and, false_or, not_false_eq_true,
        ne_eq, Except.pure_eq_ok]
      constructor
      · rintro ⟨t, ⟨hpath, rfl⟩, rfl⟩
        exact ⟨hpath, rfl⟩
      · rintro ⟨hpath, rfl⟩
        exact ⟨_, ⟨hpath, rfl⟩, rfl⟩

/-! ## Owners as parents -/

/-- The Sessions in `done` have been hung below the homes of their owners, from `b` on. -/
structure Rehung (b s : State) (done : List String) : Prop where
  eq : s = { b with sessionEdges := s.sessionEdges }
  sub : ∀ p c, s.Parent p c → b.Parent p c ∨ b.ownerHome c = some p ∧ c ∈ done
  keep : ∀ p c, b.Parent p c → s.Parent p c ∨ p = rootSessionId ∧ c ∈ done ∧ ∃ h, b.ownerHome c = some h
  owned : ∀ c ∈ done, ∀ h, b.ownerHome c = some h → s.Parent h c ∧ ¬s.Parent rootSessionId c
  nodup : b.sessionEdges.Nodup → s.sessionEdges.Nodup
  acyclic : b.Acyclic → s.Acyclic
  reach : b.Acyclic → (∀ h c, b.ownerHome c = some h → ReflTransGen b.Parent rootSessionId h) →
    ∀ x, ReflTransGen b.Parent rootSessionId x → ReflTransGen s.Parent rootSessionId x

variable {b : State} {done : List String}

theorem Rehung.start (b : State) : Rehung b b [] where
  eq := rfl
  sub _ _ := .inl
  keep _ _ := .inl
  owned _ hc := absurd hc List.not_mem_nil
  nodup := id
  acyclic := id
  reach _ _ _ := id

theorem Rehung.ownerHome (h : Rehung b s done) : s.ownerHome = b.ownerHome := by
  rw [h.eq]
  rfl

theorem Rehung.sessions (h : Rehung b s done) : s.sessions = b.sessions := by
  rw [h.eq]

/-- A Session that no user's home is above is passed over. -/
theorem Rehung.skip (h : Rehung b s done) (hc : b.ownerHome c = none) :
    Rehung b s (done ++ [c]) where
  eq := h.eq
  sub p x hp := (h.sub p x hp).imp_right fun ⟨ho, hd⟩ => ⟨ho, List.mem_append_left _ hd⟩
  keep p x hp := (h.keep p x hp).imp_right fun ⟨hr, hd, ho⟩ => ⟨hr, List.mem_append_left _ hd, ho⟩
  owned x hx home ho := by
    rcases List.mem_append.1 hx with hx | hx
    · exact h.owned x hx home ho
    · rw [List.mem_singleton.1 hx, hc] at ho
      cases ho
  nodup := h.nodup
  acyclic := h.acyclic
  reach := h.reach

/-- **One round** hangs its Session below the home of the owner. -/
theorem Rehung.round (h : Rehung b s done) (hroot : ∀ x y, b.ownerHome x = some y → y ≠ rootSessionId)
    (hc : b.ownerHome c = some home) (hmem : c ∈ b.sessions)
    (hok : s.ensureOwnerParent c = .ok s') : Rehung b s' (done ++ [c]) := by
  obtain ⟨-, hback, rfl⟩ := (ownerParent_some (h.ownerHome ▸ hc) (h.sessions ▸ hmem)).1 hok
  -- The edges afterwards.
  have hedges : ∀ x y, (⟨x, y⟩ : Edge) ∈ (if (⟨home, c⟩ : Edge) ∈ s.sessionEdges then s.sessionEdges
      else s.sessionEdges ++ [⟨home, c⟩]).filter (· ≠ ⟨rootSessionId, c⟩) ↔
      (s.Parent x y ∨ x = home ∧ y = c) ∧ ¬(x = rootSessionId ∧ y = c) := by
    intro x y
    rw [List.mem_filter]
    refine and_congr ?_ (by simp [imp_iff_not_or])
    split_ifs with hin
    · refine ⟨.inl, ?_⟩
      rintro (hp | ⟨rfl, rfl⟩)
      · exact hp
      · exact hin
    · exact mem_append_edge
  generalize hnew : (if (⟨home, c⟩ : Edge) ∈ s.sessionEdges then s.sessionEdges
      else s.sessionEdges ++ [⟨home, c⟩]).filter (· ≠ ⟨rootSessionId, c⟩) = new at hedges
  have hne := hroot c home hc
  have hadd : ∀ x y, State.Parent { s with sessionEdges := new } x y →
      EdgeList.Add s.Parent home c x y := fun x y hp => ((hedges x y).1 hp).1
  refine ⟨?_, fun x y hp => ?_, fun x y hp => ?_, fun x hx y ho => ?_, fun hnd => ?_, fun hac => ?_,
    fun hac hhomes => ?_⟩
  · dsimp only
    rw [h.eq]
  · rcases ((hedges x y).1 hp).1 with hp | ⟨rfl, rfl⟩
    · exact (h.sub x y hp).imp_right fun ⟨ho, hd⟩ => ⟨ho, List.mem_append_left _ hd⟩
    · exact .inr ⟨hc, by simp⟩
  · rcases h.keep x y hp with hp | ⟨hr, hd, ho⟩
    · by_cases hxy : x = rootSessionId ∧ y = c
      · exact .inr ⟨hxy.1, by simp [hxy.2], home, hxy.2 ▸ hc⟩
      · exact .inl ((hedges x y).2 ⟨.inl hp, hxy⟩)
    · exact .inr ⟨hr, List.mem_append_left _ hd, ho⟩
  · rcases List.mem_append.1 hx with hx | hx
    · obtain ⟨hp, hnr⟩ := h.owned x hx y ho
      refine ⟨(hedges y x).2 ⟨.inl hp, fun hc => hroot x y ho hc.1⟩, fun hr => ?_⟩
      rcases ((hedges rootSessionId x).1 hr).1 with hr | ⟨hr, -⟩
      · exact hnr hr
      · exact hne hr.symm
    · obtain rfl := List.mem_singleton.1 hx
      rw [hc] at ho
      cases ho
      exact ⟨(hedges home x).2 ⟨.inr ⟨rfl, rfl⟩, fun hc => hne hc.1⟩,
        fun hr => ((hedges rootSessionId x).1 hr).2 ⟨rfl, rfl⟩⟩
  · rw [← hnew]
    refine List.Nodup.filter _ ?_
    split_ifs with hin
    · exact h.nodup hnd
    · exact List.Nodup.append (h.nodup hnd) (List.nodup_singleton _) (by simpa using hin)
  · by_cases hin : s.Parent home c
    · refine EdgeList.Acyclic.mono (h.acyclic hac) fun x y hp => ?_
      rcases hadd x y hp with hp | ⟨rfl, rfl⟩
      · exact hp
      · exact hin
    · exact (EdgeList.Acyclic.add (h.acyclic hac) (hback.resolve_left hin)).mono hadd
  · intro x hx
    have hnoback : ¬ReflTransGen s.Parent c home := by
      rcases hback with hin | hback
      · intro hpath
        exact h.acyclic hac home (.head' hin hpath)
      · exact hback
    refine EdgeList.path_detour (fun a y hp => ?_) ((hedges home c).2 ⟨.inr ⟨rfl, rfl⟩, fun hc => hne hc.1⟩)
      hnoback (h.reach hac hhomes home (hhomes home c hc)) (h.reach hac hhomes x hx)
    by_cases hay : a = rootSessionId ∧ y = c
    · exact .inr hay
    · exact .inl ((hedges a y).2 ⟨.inl hp, hay⟩)

/-- **All rounds.** -/
theorem Rehung.rounds (hroot : ∀ x y, b.ownerHome x = some y → y ≠ rootSessionId) :
    ∀ {rest done : List String} {s : State}, Rehung b s done → (∀ c ∈ rest, c ∈ b.sessions) →
      rest.foldlM ensureOwnerParent s = .ok s' → Rehung b s' (done ++ rest) := by
  intro rest
  induction rest with
  | nil =>
    intro done s h _ hok
    cases hok
    rwa [List.append_nil]
  | cons c rest ih =>
    intro done s h hmem hok
    rw [List.foldlM_cons] at hok
    obtain ⟨s₁, h₁, hok⟩ := Except.bind_eq_ok.1 hok
    have hsplit : done ++ c :: rest = (done ++ [c]) ++ rest := by simp
    have hrest : ∀ x ∈ rest, x ∈ b.sessions := fun x hx => hmem x (List.mem_cons_of_mem _ hx)
    rw [hsplit]
    refine ih ?_ hrest hok
    cases hc : b.ownerHome c with
    | none =>
      rw [ownerParent_none (h.ownerHome ▸ hc)] at h₁
      cases h₁
      exact h.skip hc
    | some home => exact h.round hroot hc (hmem c List.mem_cons_self) h₁

/-- **`_ensure_unit_session_owner_parents`**, all of it. -/
theorem rehung_all (hroot : ∀ x y, b.ownerHome x = some y → y ≠ rootSessionId)
    (hok : b.ensureUnitSessionOwnerParents = .ok s') : Rehung b s' b.sessions.keys := by
  have h := Rehung.rounds hroot (Rehung.start b) (fun c hc => AList.mem_keys.1 hc) hok
  rwa [List.nil_append] at h

/-- `p` is above `c`: it is a parent, or the home of the owner, which a load makes a parent. -/
def Above (s : State) (p c : String) : Prop := s.Parent p c ∨ s.ownerHome c = some p

theorem Rehung.above (h : Rehung b s done) (hp : s.Parent p c) : b.Above p c :=
  (h.sub p c hp).imp_right And.left

/-- The repair of the owners raises nothing where nobody is above itself. -/
theorem rehung_ok (hroot : ∀ x y, b.ownerHome x = some y → y ≠ rootSessionId)
    (hhome : ∀ x y, b.ownerHome x = some y → y ∈ b.sessions) (hd : EdgeList.Acyclic b.Above) :
    ∃ s', b.ensureUnitSessionOwnerParents = .ok s' := by
  have hrounds : ∀ {rest done : List String} {s : State}, Rehung b s done →
      (∀ c ∈ rest, c ∈ b.sessions) → ∃ s', rest.foldlM ensureOwnerParent s = .ok s' := by
    intro rest
    induction rest with
    | nil => exact fun _ _ => ⟨_, rfl⟩
    | cons c rest ih =>
      intro done s h hmem
      have hrest : ∀ x ∈ rest, x ∈ b.sessions := fun x hx => hmem x (List.mem_cons_of_mem _ hx)
      rw [List.foldlM_cons]
      cases hc : b.ownerHome c with
      | none =>
        rw [ownerParent_none (h.ownerHome ▸ hc), Except.ok_bind]
        exact ih (h.skip hc) hrest
      | some home =>
        have hcs := hmem c List.mem_cons_self
        have hnoback : ¬ReflTransGen s.Parent c home := by
          intro hpath
          refine hd home (.head' (.inr hc) (ReflTransGen.mono (fun _ _ hp => ?_) _ _ hpath))
          exact h.above hp
        have hok := (ownerParent_some (h.ownerHome ▸ hc) (h.sessions ▸ hcs)).2
          ⟨h.sessions ▸ hhome c home hc, .inr hnoback, rfl⟩
        rw [hok, Except.ok_bind]
        exact ih (h.round hroot hc hcs hok) hrest
  exact hrounds (Rehung.start b) fun c hc => AList.mem_keys.1 hc

/-- If the repair of the owners raises nothing, then nobody is above itself. -/
theorem Rehung.above_acyclic (h : Rehung b s b.sessions.keys)
    (hmem : ∀ x y, b.ownerHome x = some y → x ∈ b.sessions)
    (hroot : ∀ p, ¬b.Above p rootSessionId) (hb : b.Acyclic) : EdgeList.Acyclic b.Above := by
  refine EdgeList.Acyclic.of_source (h.acyclic hb) ?_ hroot
  rintro p c (hp | ho)
  · exact (h.keep p c hp).imp_right And.left
  · exact .inl (h.owned c (AList.mem_keys.2 (hmem c p ho)) p ho).1

/-! ## The root -/

/-- The Sessions in `done` have been hung below the root where they were not, from `b` on. -/
structure Rooting (b s : State) (done : List String) : Prop where
  eq : s = { b with sessionEdges := s.sessionEdges }
  sub : ∀ p c, s.Parent p c → b.Parent p c ∨ p = rootSessionId ∧ c ∈ done ∧ c ≠ rootSessionId ∧
    ¬ReflTransGen b.Parent rootSessionId c
  mono : ∀ p c, b.Parent p c → s.Parent p c
  reach : ∀ c ∈ done, ReflTransGen s.Parent rootSessionId c
  nodup : b.sessionEdges.Nodup → s.sessionEdges.Nodup
  acyclic : (∀ p, ¬b.Parent p rootSessionId) → b.Acyclic → s.Acyclic

theorem Rooting.start (b : State) : Rooting b b [] where
  eq := rfl
  sub _ _ := .inl
  mono _ _ := id
  reach _ hc := absurd hc List.not_mem_nil
  nodup := id
  acyclic _ := id

theorem Rooting.round (h : Rooting b s done) (c : String) :
    Rooting b (s.ensureRootEdge c) (done ++ [c]) := by
  have hreach : ∀ x, ReflTransGen b.Parent rootSessionId x → ReflTransGen s.Parent rootSessionId x :=
    fun x hx => ReflTransGen.mono h.mono _ _ hx
  unfold ensureRootEdge
  split_ifs with hc <;> rw [hasPath_iff] at hc
  · refine ⟨h.eq, fun p x hp => ?_, h.mono, fun x hx => ?_, h.nodup, h.acyclic⟩
    · exact (h.sub p x hp).imp_right fun ⟨hr, hd, hrest⟩ => ⟨hr, List.mem_append_left _ hd, hrest⟩
    · rcases List.mem_append.1 hx with hx | hx
      · exact h.reach x hx
      · obtain rfl := List.mem_singleton.1 hx
        rcases hc with rfl | hc
        · exact .refl
        · exact hc
  · rw [not_or] at hc
    obtain ⟨hne, hno⟩ := hc
    have hedge : ∀ x y, State.Parent { s with
        sessionEdges := s.sessionEdges ++ [⟨rootSessionId, c⟩] } x y ↔
        EdgeList.Add s.Parent rootSessionId c x y := fun x y => mem_append_edge
    refine ⟨?_, fun p x hp => ?_, fun p x hp => (hedge p x).2 (.inl (h.mono p x hp)), fun x hx => ?_,
      fun hnd => ?_, fun hr hac => ?_⟩
    · dsimp only
      rw [h.eq]
    · rcases (hedge p x).1 hp with hp | ⟨rfl, rfl⟩
      · exact (h.sub p x hp).imp_right fun ⟨hr, hd, hrest⟩ =>
          ⟨hr, List.mem_append_left _ hd, hrest⟩
      · exact .inr ⟨rfl, by simp, hne, fun hb => hno (hreach x hb)⟩
    · rcases List.mem_append.1 hx with hx | hx
      · exact ReflTransGen.mono (fun a y hp => (hedge a y).2 (.inl hp)) _ _ (h.reach x hx)
      · rw [List.mem_singleton.1 hx]
        exact .single ((hedge _ _).2 (.inr ⟨rfl, rfl⟩))
    · refine List.Nodup.append (h.nodup hnd) (List.nodup_singleton _) ?_
      have hnot : (⟨rootSessionId, c⟩ : Edge) ∉ s.sessionEdges := fun hin => hno (.single hin)
      simpa using hnot
    · refine (EdgeList.Acyclic.add (h.acyclic hr hac) ?_).mono fun x y => (hedge x y).1
      intro hback
      rcases ReflTransGen.cases_tail hback with he | ⟨z, -, hz⟩
      · exact hne he.symm
      · rcases h.sub z _ hz with hz | ⟨-, -, hroot, -⟩
        · exact hr z hz
        · exact hroot rfl

/-- **The root edges**, all of them. -/
theorem rooting_all (b : State) (ids : List String) : Rooting b (ids.foldl ensureRootEdge b) ids := by
  have hrounds : ∀ (rest : List String) {done : List String} {s : State}, Rooting b s done →
      Rooting b (rest.foldl ensureRootEdge s) (done ++ rest) := by
    intro rest
    induction rest with
    | nil =>
      intro done s h
      rwa [List.append_nil]
    | cons c rest ih =>
      intro done s h
      have hsplit : done ++ c :: rest = (done ++ [c]) ++ rest := by simp
      rw [hsplit]
      exact ih (h.round c)
  have h := hrounds ids (Rooting.start b)
  rwa [List.nil_append] at h

/-! ## Homes -/

/-- The homes of the users in `done` have been hung below the root, from `b` on. -/
structure Homing (b s : State) (done : List String) : Prop where
  sub : ∀ p c, s.Parent p c → b.Parent p c ∨
    p = rootSessionId ∧ ∃ n ∈ done, b.Login n ∧ accountHomeSessionId n = c
  mono : ∀ p c, b.Parent p c → s.Parent p c
  reach : ∀ n ∈ done, b.Login n → ReflTransGen s.Parent rootSessionId (accountHomeSessionId n)
  nodup : b.sessionEdges.Nodup → s.sessionEdges.Nodup
  acyclic : b.Acyclic → s.Acyclic

theorem Homing.start (b : State) : Homing b b [] where
  sub _ _ := .inl
  mono _ _ := id
  reach _ hn := absurd hn List.not_mem_nil
  nodup := id
  acyclic := id

variable {name : String}

theorem Homing.skip (h : Homing b s done) (hn : ¬b.Login name) : Homing b s (done ++ [name]) where
  sub p c hp := (h.sub p c hp).imp_right fun ⟨hr, n, hd, hn⟩ => ⟨hr, n, List.mem_append_left _ hd, hn⟩
  mono := h.mono
  reach n hd hl := by
    rcases List.mem_append.1 hd with hd | hd
    · exact h.reach n hd hl
    · exact absurd (List.mem_singleton.1 hd ▸ hl) hn
  nodup := h.nodup
  acyclic := h.acyclic

theorem house_parent (s : State) (name timestamp : String) :
    (s.house name timestamp).Parent = s.Parent := by
  unfold Parent
  rw [house_edges]

/-- A round for a user who can log in. -/
theorem Homing.settle (h : Homing b s done) (hn : b.Login name)
    (hok : (if hasPath s.sessionEdges rootSessionId (accountHomeSessionId name) then
        .ok (s.house name timestamp)
      else (s.house name timestamp).linkSessionsInState rootSessionId (accountHomeSessionId name)) =
      .ok s') : Homing b s' (done ++ [name]) := by
  have hsub : ∀ p c, s.Parent p c → b.Parent p c ∨ p = rootSessionId ∧
      ∃ n ∈ done ++ [name], b.Login n ∧ accountHomeSessionId n = c := fun p c hp =>
    (h.sub p c hp).imp_right fun ⟨hr, n, hd, hn⟩ => ⟨hr, n, List.mem_append_left _ hd, hn⟩
  split_ifs at hok with hpath
  · obtain rfl := Except.ok.inj hok
    have hnew := hasPath_iff.1 hpath
    refine ⟨?_, ?_, fun n hd hl => ?_, ?_, ?_⟩
    · rw [house_parent]
      exact hsub
    · rw [house_parent]
      exact h.mono
    · rw [house_parent]
      rcases List.mem_append.1 hd with hd | hd
      · exact h.reach n hd hl
      · rw [List.mem_singleton.1 hd]
        exact hnew
    · rw [house_edges]
      exact h.nodup
    · unfold Acyclic
      rw [house_parent]
      exact h.acyclic
  · rw [link_eq_ok, house_parent] at hok
    obtain ⟨-, -, -, ⟨hp, -⟩ | ⟨hp, hback, rfl⟩⟩ := hok
    · exact absurd (hasPath_iff.2 (.single hp)) hpath
    have hedge : ∀ x y, State.Parent { s.house name timestamp with sessionEdges :=
        (s.house name timestamp).sessionEdges ++ [⟨rootSessionId, accountHomeSessionId name⟩] } x y ↔
        EdgeList.Add s.Parent rootSessionId (accountHomeSessionId name) x y := by
      intro x y
      rw [← house_parent s name timestamp]
      exact mem_append_edge
    refine ⟨fun p c hpc => ?_, fun p c hpc => (hedge p c).2 (.inl (h.mono p c hpc)), fun n hd hl => ?_,
      fun hnd => ?_, fun hac => ?_⟩
    · rcases (hedge p c).1 hpc with hpc | ⟨rfl, rfl⟩
      · exact hsub p c hpc
      · exact .inr ⟨rfl, name, by simp, hn, rfl⟩
    · rcases List.mem_append.1 hd with hd | hd
      · exact ReflTransGen.mono (fun a y hp => (hedge a y).2 (.inl hp)) _ _ (h.reach n hd hl)
      · rw [List.mem_singleton.1 hd]
        exact .single ((hedge _ _).2 (.inr ⟨rfl, rfl⟩))
    · dsimp only
      rw [house_edges]
      refine List.Nodup.append (h.nodup hnd) (List.nodup_singleton _) ?_
      have hnot : (⟨rootSessionId, accountHomeSessionId name⟩ : Edge) ∉ s.sessionEdges := hp
      simpa using hnot
    · exact (EdgeList.Acyclic.add (h.acyclic hac) hback).mono fun x y => (hedge x y).1

/-- A user who cannot log in gets no home. -/
theorem userHome_skip {done : List String} (h : HousedUpTo b s done) (hn : ¬b.Login name) :
    s.ensureUserHome timestamp name = .ok s := by
  unfold ensureUserHome
  rw [h.users name]
  cases hu : b.users.lookup name with
  | none => rfl
  | some user =>
    have hact : user.status ≠ .active := fun ha => hn ⟨user, hu, ha⟩
    have hservice : user.status = .service := by
      cases hst : user.status with
      | active => exact absurd hst hact
      | service => rfl
    rw [Option.map_some]
    simp [hservice]

/-- A round for a user who can, on a state that can be housed. -/
theorem userHome_settle {done : List String} (h : HousedUpTo b s done) (hb : b.CanHouse)
    (hn : b.Login name) : s.ensureUserHome timestamp name =
      if hasPath s.sessionEdges rootSessionId (accountHomeSessionId name) then
        .ok (s.house name timestamp)
      else (s.house name timestamp).linkSessionsInState rootSessionId (accountHomeSessionId name) := by
  obtain ⟨user, hu, ha⟩ := hn
  obtain ⟨user', hu', ha', hc⟩ := h.lookup hb hu ha
  exact ensureUserHome_eq hu' ha' hc

/-- **One round.** -/
theorem Homing.round {done : List String} (h : Homing b s done) (hall : HousedUpTo b s done)
    (hb : b.CanHouse) (hok : s.ensureUserHome timestamp name = .ok s') :
    Homing b s' (done ++ [name]) := by
  by_cases hn : b.Login name
  · rw [userHome_settle hall hb hn] at hok
    exact h.settle hn hok
  · rw [userHome_skip hall hn] at hok
    cases hok
    exact h.skip hn

/-- A round raises nothing if the root Session is there and nothing is above it. -/
theorem Homing.ok {done : List String} (h : Homing b s done) (hall : HousedUpTo b s done)
    (hb : b.CanHouse) (hmem : rootSessionId ∈ b.sessions) (hroot : ∀ p, ¬b.Parent p rootSessionId)
    (timestamp name : String) : ∃ s', s.ensureUserHome timestamp name = .ok s' := by
  by_cases hn : b.Login name
  · rw [userHome_settle hall hb hn]
    split_ifs with hpath
    · exact ⟨_, rfl⟩
    have hhome := house_post s name timestamp
    have hsame := house_post_ne s name timestamp (home_ne_root name).symm
    have hrootPost : s.post rootSessionId = b.post rootSessionId :=
      (hall.other _ fun n _ _ => home_ne_root n).2
    refine ⟨_, link_eq_ok.2 ⟨?_, mem_sessions_iff.2 ⟨_, hhome⟩, (home_ne_root name).symm,
      .inr ⟨?_, ?_, rfl⟩⟩⟩
    · rw [mem_sessions_iff, hsame, hrootPost]
      exact mem_sessions_iff.1 hmem
    · rw [house_parent]
      exact fun hp => hpath (hasPath_iff.2 (.single hp))
    · rw [house_parent]
      intro hback
      rcases ReflTransGen.cases_tail hback with he | ⟨z, -, hz⟩
      · exact home_ne_root name he.symm
      · rcases h.sub z _ hz with hz | ⟨-, n, -, -, hr⟩
        · exact hroot z hz
        · exact home_ne_root n hr
  · exact ⟨s, userHome_skip hall hn⟩

/-- All rounds, in the order of the names, raise nothing. -/
theorem Homing.rounds (hb : b.CanHouse) : ∀ {rest done : List String} {s : State},
    Homing b s done → HousedUpTo b s done → (done ++ rest).Pairwise (· ≤ ·) →
      (∀ {s'}, rest.foldlM (fun s username => s.ensureUserHome timestamp username) s = .ok s' →
        Homing b s' (done ++ rest)) ∧
      (rootSessionId ∈ b.sessions → (∀ p, ¬b.Parent p rootSessionId) →
        ∃ s', rest.foldlM (fun s username => s.ensureUserHome timestamp username) s = .ok s') := by
  intro rest
  induction rest with
  | nil =>
    intro done s h _ _
    refine ⟨fun hok => ?_, fun _ _ => ⟨s, rfl⟩⟩
    cases hok
    rwa [List.append_nil]
  | cons name rest ih =>
    intro done s h hall hsorted
    have hle : ∀ n ∈ done, n ≤ name := fun n hn =>
      (List.pairwise_append.1 hsorted).2.2 n hn name List.mem_cons_self
    have hsplit : done ++ name :: rest = (done ++ [name]) ++ rest := by simp
    rw [hsplit] at hsorted ⊢
    refine ⟨fun hok => ?_, fun hmem hroot => ?_⟩
    · rw [List.foldlM_cons] at hok
      obtain ⟨s₁, h₁, hok⟩ := Except.bind_eq_ok.1 hok
      exact (ih (h.round hall hb h₁) (hall.round hb hle h₁) hsorted).1 hok
    · obtain ⟨s₁, h₁⟩ := h.ok hall hb hmem hroot timestamp name
      rw [List.foldlM_cons, h₁, Except.ok_bind]
      exact (ih (h.round hall hb h₁) (hall.round hb hle h₁) hsorted).2 hmem hroot

theorem homing_sorted (b : State) :
    ([] ++ b.users.keys.insertionSort (· ≤ ·)).Pairwise (· ≤ ·) := by
  rw [List.nil_append]
  exact List.pairwise_insertionSort (· ≤ ·) _

/-- **The edges of the homes**: only edges from the root to homes are added. -/
theorem homing_all (hb : b.CanHouse) (hok : b.ensureUserHomeSessions timestamp = .ok s') :
    Homing b s' (b.users.keys.insertionSort (· ≤ ·)) := by
  have h := (Homing.rounds hb (Homing.start b) (HousedUpTo.start b) (homing_sorted b)).1 hok
  rwa [List.nil_append] at h

theorem homing_ok (hb : b.CanHouse) (hmem : rootSessionId ∈ b.sessions)
    (hroot : ∀ p, ¬b.Parent p rootSessionId) (timestamp : String) :
    ∃ s', b.ensureUserHomeSessions timestamp = .ok s' :=
  (Homing.rounds hb (Homing.start b) (HousedUpTo.start b) (homing_sorted b)).2 hmem hroot

/-! ## A whole repair -/

/-- The first part of a repair, on a housed state: nothing moves. -/
theorem Housed.defaults_eq (hs : s.Housed) (timestamp : String) : ∃ b, SameTenants s b ∧
    b.sessionEdges = s.sessionEdges ∧ s.ensureDefaults timestamp = (do
      let s ← b.ensureUserHomeSessions timestamp
      let s ← s.ensureUnitSessionOwnerParents
      let s := (s.sessions.keys.foldl ensureRootEdge s).ensureAgentProfiles
      s.checkWorkspaces
      return s) := by
  have hlot : ∃ s₀, (if s.dispatchLotSize = 0 then { s with dispatchLotSize := 1 } else s) = s₀ ∧
      SameTenants s s₀ ∧ s₀.sessionEdges = s.sessionEdges := by
    split_ifs
    · exact ⟨_, rfl, .of_fields rfl rfl rfl, rfl⟩
    · exact ⟨_, rfl, .refl s, rfl⟩
  obtain ⟨s₀, hs₀, e₀, edges₀⟩ := hlot
  have e₁ := e₀.trans (hs.same e₀).same_rootUnit
  have edges₁ : s₀.ensureRootUnit.sessionEdges = s.sessionEdges := by
    rw [← edges₀]
    unfold ensureRootUnit
    split <;> rfl
  have hunits : ∀ (ids : List String) {t : State}, SameTenants s t → t.sessionEdges = s.sessionEdges →
      ∃ t', ids.foldlM normalizeStoredUnit t = .ok t' ∧ SameTenants s t' ∧
        t'.sessionEdges = s.sessionEdges := by
    intro ids
    induction ids with
    | nil => exact fun ht he => ⟨_, rfl, ht, he⟩
    | cons id ids ih =>
      intro t ht he
      have hok : ∃ t', t.normalizeStoredUnit id = .ok t' ∧ t'.sessionEdges = t.sessionEdges := by
        unfold normalizeStoredUnit
        cases hu : t.units.lookup id with
        | none => exact ⟨t, rfl, rfl⟩
        | some unit =>
          obtain ⟨unit', hn⟩ := ((hs.same ht).normal id unit hu).ok
          dsimp only
          rw [hn, Except.ok_bind]
          exact ⟨_, rfl, rfl⟩
      obtain ⟨t', ht', he'⟩ := hok
      rw [List.foldlM_cons, ht', Except.ok_bind]
      exact ih (ht.trans (same_storedUnit ht')) (he'.trans he)
  obtain ⟨s₁, h₁, e₂, edges₂⟩ := hunits s₀.ensureRootUnit.units.keys e₁ edges₁
  have hsession : ∃ s₂, s₁.ensureRootSession timestamp = .ok s₂ ∧ s₂.sessionEdges = s₁.sessionEdges := by
    obtain ⟨session, hsess, hp⟩ := Option.map_eq_some_iff.1 (hs.same e₂).rootPost
    unfold ensureRootSession
    rw [hsess]
    dsimp only
    rw [if_neg (by rw [show session.unitId = rootUnitId from congrArg Post.unitId hp]; simp)]
    exact ⟨_, rfl, rfl⟩
  obtain ⟨s₂, h₂, edges₃⟩ := hsession
  have e₃ := e₂.trans ((hs.same e₂).same_rootSession h₂)
  have e₄ := e₃.trans (.of_fields (hs.same e₃).same_accounts rfl rfl : SameTenants s₂ s₂.ensureAccounts)
  refine ⟨s₂.ensureAccounts, e₄, edges₃.trans edges₂, ?_⟩
  unfold ensureDefaults
  dsimp only
  rw [hs₀, h₁, Except.ok_bind, h₂, Except.ok_bind]

theorem SameTenants.ownerHome (h : SameTenants s s') : s'.ownerHome = s.ownerHome := by
  have hunitId : ∀ x, ((s'.sessions.lookup x).elim "" fun session => strip session.unitId) =
      (s.sessions.lookup x).elim "" fun session => strip session.unitId := by
    intro x
    have hpost := congrFun h.post x
    unfold State.post at hpost
    cases hx : s.sessions.lookup x <;> cases hx' : s'.sessions.lookup x <;> rw [hx, hx'] at hpost
    · cases hpost
    · cases hpost
    · have hu := congrArg Post.unitId (Option.some.inj hpost)
      exact congrArg strip hu
  have howner : ∀ x, ((s'.units.lookup x).elim "" fun unit => strip unit.ownerAccount) =
      (s.units.lookup x).elim "" fun unit => strip unit.ownerAccount := by
    intro x
    have hr := h.unit x
    cases hx : s.units.lookup x <;> cases hx' : s'.units.lookup x <;> rw [hx, hx'] at hr
    · cases hr
    · cases hr
    · cases hr with
      | some hk =>
        rw [Option.elim_some, Option.elim_some, hk.owner]
  funext x
  unfold State.ownerHome
  dsimp only
  rw [hunitId, howner, h.users]

/-- What the home of an owner is, in a housed state. -/
structure IsOwnerHome (s : State) (x y : String) : Prop where
  session : x ∈ s.sessions
  notRoot : x ≠ rootSessionId
  home : ∃ n, s.Login n ∧ accountHomeSessionId n = y

theorem Housed.isOwnerHome (hs : s.Housed) {x y : String} (h : s.ownerHome x = some y) :
    s.IsOwnerHome x y := by
  have hblank : s.users.lookup "" = none := by
    cases hu : s.users.lookup "" with
    | none => rfl
    | some user => exact absurd rfl (hs.name "" user hu).2
  have hnone : s.units.lookup "" = none := by
    cases hu : s.units.lookup "" with
    | none => rfl
    | some unit => exact absurd (by decide) (hs.unitId "" unit hu)
  refine ⟨?_, ?_, ?_⟩
  · by_contra hx
    unfold ownerHome at h
    dsimp only at h
    rw [AList.lookup_eq_none.2 hx, Option.elim_none, hnone, Option.elim_none, hblank] at h
    cases h
  · rintro rfl
    obtain ⟨session, hsess, hp⟩ := Option.map_eq_some_iff.1 hs.rootPost
    have hunit : session.unitId = rootUnitId := congrArg Post.unitId hp
    obtain ⟨unit, hu, -, -, ho⟩ := hs.rootUnit
    have hstrip : strip rootUnitId = rootUnitId := by decide
    have hempty : strip "" = "" := by decide
    unfold ownerHome at h
    dsimp only at h
    rw [hsess, Option.elim_some, hunit, hstrip, hu, Option.elim_some, ho, hempty, hblank] at h
    cases h
  · unfold ownerHome at h
    dsimp only at h
    generalize ((s.units.lookup ((s.sessions.lookup x).elim "" fun session => strip session.unitId)).elim
      "" fun unit => strip unit.ownerAccount) = owner at h
    cases hu : s.users.lookup owner with
    | none => rw [hu] at h; cases h
    | some user =>
      rw [hu, Option.map_some] at h
      obtain ⟨hhome, hne⟩ := Option.filter_eq_some_iff.1 h
      cases Option.some.inj hhome
      have hne' : strip user.homeSessionId ≠ "" := by
        have hboth : strip user.homeSessionId ≠ "" ∧ strip user.homeSessionId ≠ x := by simpa using hne
        exact hboth.1
      cases ha : user.status with
      | service =>
        rw [hs.service owner user hu ha] at hne'
        exact absurd (by decide) hne'
      | active =>
        refine ⟨owner, ⟨user, hu, ha⟩, ?_⟩
        have hset := congrArg User.homeSessionId (hs.home owner user hu ha)
        change accountHomeSessionId owner = user.homeSessionId at hset
        rw [← hset, strip_accountHomeSessionId]

theorem IsOwnerHome.ne_root {x y : String} (h : s.IsOwnerHome x y) : y ≠ rootSessionId := by
  obtain ⟨n, -, rfl⟩ := h.home
  exact home_ne_root n

theorem Housed.home_mem (hs : s.Housed) {n : String} (hn : s.Login n) :
    accountHomeSessionId n ∈ s.sessions := mem_sessions_iff.2 ⟨_, hs.homePost n hn⟩

/-- The graph of the Sessions is a DAG in which nothing is above the root. -/
structure RootedDag (s : State) : Prop where
  self : ∀ p, ¬s.Parent p p
  nodup : s.sessionEdges.Nodup
  acyclic : s.Acyclic
  mem : ∀ p c, s.Parent p c → p ∈ s.sessions ∧ c ∈ s.sessions
  root : ∀ p, ¬s.Parent p rootSessionId

theorem RootedDag.above_root (hg : s.RootedDag) (hs : s.Housed) (p : String) :
    ¬s.Above p rootSessionId := by
  rintro (hp | ho)
  · exact hg.root p hp
  · exact (hs.isOwnerHome ho).notRoot rfl

/-- What a repair makes of the graph of `s`. -/
structure Hung (s t : State) : Prop where
  same : SameTenants s t
  dag : t.RootedDag
  above : EdgeList.Acyclic s.Above
  owned : ∀ c h, s.ownerHome c = some h → t.Parent h c
  reach : ∀ c ∈ t.sessions, ReflTransGen t.Parent rootSessionId c
  sub : ∀ p c, t.Parent p c → s.Above p c ∨ p = rootSessionId
  keep : ∀ p c, s.Parent p c → p ≠ rootSessionId → t.Parent p c

theorem above_congr (ho : s'.ownerHome = s.ownerHome) (he : s'.sessionEdges = s.sessionEdges) :
    s'.Above = s.Above := by
  funext p c
  unfold Above Parent
  rw [ho, he]

theorem RootedDag.congr (hg : s.RootedDag) (hsame : SameTenants s s')
    (he : s'.sessionEdges = s.sessionEdges) : s'.RootedDag where
  self p := by
    unfold Parent
    rw [he]
    exact hg.self p
  nodup := he ▸ hg.nodup
  acyclic := by
    unfold Acyclic Parent
    rw [he]
    exact hg.acyclic
  mem p c hp := by
    unfold Parent at hp
    rw [he] at hp
    rw [hsame.mem_sessions, hsame.mem_sessions]
    exact hg.mem p c hp
  root p := by
    unfold Parent
    rw [he]
    exact hg.root p

/-- The homes keep a DAG below the root. -/
theorem Homing.dag (h : Homing b s done) (hs : s.Housed) (hg : b.RootedDag)
    (hmem : ∀ c ∈ b.sessions, c ∈ s.sessions) (hlogin : ∀ n, b.Login n → s.Login n) :
    s.RootedDag where
  self p hp := h.acyclic hg.acyclic p (.single hp)
  nodup := h.nodup hg.nodup
  acyclic := h.acyclic hg.acyclic
  mem p c hp := by
    rcases h.sub p c hp with hp | ⟨rfl, n, -, hn, rfl⟩
    · obtain ⟨h₁, h₂⟩ := hg.mem p c hp
      exact ⟨hmem p h₁, hmem c h₂⟩
    · exact ⟨mem_sessions_iff.2 ⟨_, hs.rootPost⟩, hs.home_mem (hlogin n hn)⟩
  root p hp := by
    rcases h.sub p _ hp with hp | ⟨-, n, -, -, hn⟩
    · exact hg.root p hp
    · exact home_ne_root n hn

/-- The last part of a repair: owners and root edges. -/
theorem Housed.hung_rest (hs : s.Housed) (hg : s.RootedDag)
    (hok : s.ensureUnitSessionOwnerParents = .ok s₁) :
    Hung s (s₁.sessions.keys.foldl ensureRootEdge s₁) := by
  have hre := rehung_all (fun x y h => (hs.isOwnerHome h).ne_root) hok
  have hro := rooting_all s₁ s₁.sessions.keys
  have hsame : SameTenants s (s₁.sessions.keys.foldl ensureRootEdge s₁) :=
    SameTenants.trans (.foldlM (fun _ _ _ h => same_ownerParent h) hok) (same_rootEdges _ _)
  generalize s₁.sessions.keys.foldl ensureRootEdge s₁ = t at hro hsame ⊢
  have hmem : ∀ x y, s.ownerHome x = some y → x ∈ s.sessions := fun x y h =>
    (hs.isOwnerHome h).session
  have habove := hg.above_root hs
  have hroot : ∀ p, ¬s₁.Parent p rootSessionId := fun p hp => habove p (hre.above hp)
  have hac : t.Acyclic := hro.acyclic hroot (hre.acyclic hg.acyclic)
  have hts : t.sessions = s₁.sessions := by rw [hro.eq]
  refine ⟨hsame, ⟨fun p hp => hac p (.single hp), hro.nodup (hre.nodup hg.nodup), hac, ?_, ?_⟩,
    hre.above_acyclic hmem habove hg.acyclic, ?_, fun c hc => ?_, fun p c hp => ?_, ?_⟩
  · intro p c hp
    rw [hts, hre.sessions]
    have hrootS : rootSessionId ∈ s.sessions := mem_sessions_iff.2 ⟨_, hs.rootPost⟩
    rcases hro.sub p c hp with hp | ⟨rfl, hc, -⟩
    · rcases hre.above hp with hp | ho
      · exact hg.mem p c hp
      · have hown := hs.isOwnerHome ho
        obtain ⟨n, hn, rfl⟩ := hown.home
        exact ⟨hs.home_mem hn, hown.session⟩
    · exact ⟨hrootS, hre.sessions ▸ AList.mem_keys.1 hc⟩
  · intro p hp
    rcases hro.sub p _ hp with hp | ⟨-, -, hne, -⟩
    · exact hroot p hp
    · exact hne rfl
  · intro c h hc
    exact hro.mono h c (hre.owned c (AList.mem_keys.2 (hmem c h hc)) h hc).1
  · exact hro.reach c (AList.mem_keys.2 (hts ▸ hc))
  · rcases hro.sub p c hp with hp | ⟨hr, -⟩
    · exact .inl (hre.above hp)
    · exact .inr hr
  · intro p c hp hpr
    rcases hre.keep p c hp with hp | ⟨hr, -⟩
    · exact hro.mono p c hp
    · exact absurd hr hpr

/-- **What a repair makes of the graph** of a housed state, if it raises nothing. -/
theorem Housed.hung (hs : s.Housed) (hg : s.RootedDag) (hok : s.ensureDefaults timestamp = .ok s') :
    Hung s s' := by
  obtain ⟨b, hb, hbe, heq⟩ := hs.defaults_eq timestamp
  have hsame := hs.same_defaults hok
  rw [heq] at hok
  obtain ⟨s₁, h₁, hok⟩ := Except.bind_eq_ok.1 hok
  obtain ⟨s₂, h₂, hok⟩ := Except.bind_eq_ok.1 hok
  obtain ⟨-, -, hok⟩ := Except.bind_eq_ok.1 hok
  obtain rfl := Except.ok.inj hok
  -- The homes, and then the rest.
  have hbs := hs.same hb
  have e₀ := hbs.same_homes h₁
  have hs₁ := hbs.same e₀
  have hhoming := homing_all hbs.canHouse h₁
  have hg₁ := hhoming.dag hs₁ (hg.congr hb hbe) (fun c hc => e₀.mem_sessions.2 hc)
    fun n hn => e₀.login_iff.2 hn
  have hh := hs₁.hung_rest hg₁ h₂
  have ho : s₁.ownerHome = s.ownerHome := (hb.trans e₀).ownerHome
  have hparent : ∀ p c, b.Parent p c ↔ s.Parent p c := fun p c => by
    unfold Parent
    rw [hbe]
  refine ⟨hsame, hh.dag.congr (.of_fields rfl rfl rfl) rfl, ?_, fun c h hc => ?_, hh.reach,
    fun p c hp => ?_, fun p c hp => ?_⟩
  · refine EdgeList.Acyclic.mono hh.above ?_
    rintro p c (hp | hc)
    · exact .inl (hhoming.mono p c ((hparent p c).2 hp))
    · exact .inr (ho.symm ▸ hc)
  · exact hh.owned c h (ho.symm ▸ hc)
  · rcases hh.sub p c hp with (hp | hc) | hr
    · rcases hhoming.sub p c hp with hp | ⟨hr, -⟩
      · exact .inl (.inl ((hparent p c).1 hp))
      · exact .inr hr
    · exact .inl (.inr (ho ▸ hc))
    · exact .inr hr
  · exact hh.keep p c (hhoming.mono p c ((hparent p c).2 hp))

/-- **A repair raises nothing** on a housed state in which nobody is above itself. -/
theorem Housed.defaults_ok (hs : s.Housed) (hg : s.RootedDag) (ha : EdgeList.Acyclic s.Above)
    (timestamp : String) : ∃ t, s.ensureDefaults timestamp = .ok t := by
  obtain ⟨b, hb, hbe, heq⟩ := hs.defaults_eq timestamp
  have hbs := hs.same hb
  have hbg := hg.congr hb hbe
  obtain ⟨s₁, h₁⟩ := homing_ok hbs.canHouse (mem_sessions_iff.2 ⟨_, hbs.rootPost⟩) hbg.root timestamp
  have e₁ := hb.trans (hbs.same_homes h₁)
  have hs₁ := hs.same e₁
  have hhoming := homing_all hbs.canHouse h₁
  have ho₁ : s₁.ownerHome = s.ownerHome := e₁.ownerHome
  have hac₁ : EdgeList.Acyclic s₁.Above := by
    refine EdgeList.Acyclic.of_source (a := rootSessionId) ha ?_ ?_
    · rintro p c (hp | ho)
      · rcases hhoming.sub p c hp with hp | ⟨hr, -⟩
        · refine .inl (.inl ?_)
          unfold Parent at hp ⊢
          rwa [← hbe]
        · exact .inr hr
      · exact .inl (.inr (ho₁ ▸ ho))
    · rintro p (hp | ho)
      · rcases hhoming.sub p _ hp with hp | ⟨-, n, -, -, hn⟩
        · exact hbg.root p hp
        · exact home_ne_root n hn
      · exact (hs₁.isOwnerHome ho).notRoot rfl
  obtain ⟨s₂, h₂⟩ := rehung_ok (fun x y h => (hs₁.isOwnerHome h).ne_root) (fun x y h => by
    obtain ⟨n, hn, rfl⟩ := (hs₁.isOwnerHome h).home
    exact hs₁.home_mem hn) hac₁
  have e₂ : SameTenants s₁ s₂ := .foldlM (fun _ _ _ h => same_ownerParent h) h₂
  have e₃ : SameTenants (s₂.sessions.keys.foldl ensureRootEdge s₂)
      (s₂.sessions.keys.foldl ensureRootEdge s₂).ensureAgentProfiles := .of_fields rfl rfl rfl
  have hs₃ := ((hs₁.same e₂).same (same_rootEdges s₂.sessions.keys s₂)).same e₃
  generalize ht : (s₂.sessions.keys.foldl ensureRootEdge s₂).ensureAgentProfiles = t at hs₃
  have hcheck : t.checkWorkspaces = .ok ⟨⟩ := by
    unfold checkWorkspaces
    refine Except.require_bind_eq_ok.2 ⟨fun id hid => ?_, Except.require_eq_ok.2 fun id hid => ?_⟩
    · obtain ⟨unit, hu⟩ := Dict.mem_iff_lookup.1 (AList.mem_keys.1 hid)
      exact hs₃.unitId id unit hu
    · obtain ⟨p, hp⟩ := mem_sessions_iff.1 (AList.mem_keys.1 hid)
      exact hs₃.sessionId id p hp
  refine ⟨t, ?_⟩
  rw [heq, h₁, Except.ok_bind, h₂, Except.ok_bind]
  dsimp only
  rw [ht, hcheck]
  rfl

end State
end Aize
