/-
  Which entry an acquisition leases.

  `Selectable` is what the policy asks of an entry, `Dispatchable` adds that the Unit of
  its Session is active. The policy picks the first selectable entry (`Foremost`), and
  only then the Unit is looked at: an acquisition with something to dispatch succeeds if
  and only if its first entry is dispatchable (`acquire_iff_foremost`).
-/
import Aize.Reachable

namespace Aize

/-! ## The policy -/

namespace Selection

variable (sel : Selection)

/-- `c` is ranked before `c'`: by age if it has waited for too long, and else by score. -/
def Before (c c' : Candidate) : Prop :=
  if sel.starved c then sel.starved c' → c.ageKey < c'.ageKey
  else ¬sel.starved c' ∧ c.scoreKey < c'.scoreKey

variable {sel} {entries : List Readiness} {c c' : Candidate}

theorem mem_candidates : c ∈ sel.candidates entries ↔ ∃ e i, entries[i]? = some e ∧
    sel.candidate? e i = some c := by
  unfold candidates
  rw [List.mem_filterMap]
  constructor
  · rintro ⟨⟨e, i⟩, hm, hc⟩
    exact ⟨e, i, List.mem_zipIdx_iff_getElem?.1 hm, hc⟩
  · rintro ⟨e, i, hm, hc⟩
    exact ⟨(e, i), List.mem_zipIdx_iff_getElem?.2 hm, hc⟩

/-- A candidate is known by its position. -/
theorem eq_of_index (hc : c ∈ sel.candidates entries) (hc' : c' ∈ sel.candidates entries)
    (h : c.index = c'.index) : c = c' := by
  obtain ⟨e, i, he, hcand⟩ := mem_candidates.1 hc
  obtain ⟨e', i', he', hcand'⟩ := mem_candidates.1 hc'
  have hidx : ∀ {e i c}, sel.candidate? e i = some c → c.index = i := by
    intro e i c h
    unfold candidate? at h
    split_ifs at h
    split at h
    · split_ifs at h
      cases h
      rfl
    · cases h
  rw [hidx hcand, hidx hcand'] at h
  subst h
  rw [he] at he'
  cases he'
  rw [hcand] at hcand'
  exact Option.some.inj hcand'

theorem index_of_ageKey (h : c.ageKey = c'.ageKey) : c.index = c'.index := by
  simp only [Candidate.ageKey, toLex_inj, Prod.mk.injEq] at h
  exact h.2.2.2

theorem index_of_scoreKey (h : c.scoreKey = c'.scoreKey) : c.index = c'.index := by
  simp only [Candidate.scoreKey, toLex_inj, Prod.mk.injEq] at h
  exact index_of_ageKey h.2

/-- The chosen candidate is the one that none is ranked before. -/
theorem chosen_iff : (selectRoleDispatchReadiness sel entries).chosen = some c ↔
    c ∈ sel.candidates entries ∧ ∀ c' ∈ sel.candidates entries, ¬sel.Before c' c := by
  unfold selectRoleDispatchReadiness
  dsimp only
  set l := sel.candidates entries with hl
  by_cases hne : l.filter sel.starved ≠ []
  · rw [if_pos hne]
    constructor
    · intro h
      obtain ⟨hm, hs⟩ := List.mem_filter.1 (List.argmin_mem h)
      refine ⟨hm, fun c' hc' hb => ?_⟩
      unfold Before at hb
      split_ifs at hb with hs'
      · exact (List.le_of_mem_argmin (List.mem_filter.2 ⟨hc', hs'⟩) h).not_gt (hb hs)
      · exact hb.1 hs
    · rintro ⟨hm, hfirst⟩
      obtain ⟨x, hx⟩ := List.exists_mem_of_ne_nil _ hne
      obtain ⟨hxm, hxs⟩ := List.mem_filter.1 hx
      have hs : sel.starved c := by
        by_contra hs
        refine hfirst x hxm ?_
        rw [Before, if_pos hxs]
        exact fun h => absurd h hs
      cases hm' : (l.filter sel.starved).argmin Candidate.ageKey with
      | none => exact absurd (List.argmin_eq_none.1 hm') hne
      | some m =>
        obtain ⟨hmm, hms⟩ := List.mem_filter.1 (List.argmin_mem hm')
        have h₁ := List.le_of_mem_argmin (List.mem_filter.2 ⟨hm, hs⟩) hm'
        have h₂ : ¬m.ageKey < c.ageKey := fun hlt => hfirst m hmm (by
          rw [Before, if_pos hms]
          exact fun _ => hlt)
        rw [eq_of_index hmm hm (index_of_ageKey (le_antisymm h₁ (not_lt.1 h₂)))]
  · rw [if_neg hne]
    have hnone : ∀ x ∈ l, sel.starved x = false := fun x hx => by
      by_contra hs
      exact hne (List.ne_nil_of_mem (List.mem_filter.2 ⟨hx, by simpa using hs⟩))
    constructor
    · intro h
      have hm := List.argmin_mem h
      refine ⟨hm, fun c' hc' hb => ?_⟩
      rw [Before, if_neg (by simp [hnone c' hc'])] at hb
      exact (List.le_of_mem_argmin hc' h).not_gt hb.2
    · rintro ⟨hm, hfirst⟩
      cases hm' : l.argmin Candidate.scoreKey with
      | none => exact absurd (List.argmin_eq_none.1 hm' ▸ hm) List.not_mem_nil
      | some m =>
        have hmm := List.argmin_mem hm'
        have h₁ := List.le_of_mem_argmin hm hm'
        have h₂ : ¬m.scoreKey < c.scoreKey := fun hlt => hfirst m hmm (by
          rw [Before, if_neg (by simp [hnone m hmm])]
          exact ⟨by simp [hnone c hm], hlt⟩)
        rw [eq_of_index hmm hm (index_of_scoreKey (le_antisymm h₁ (not_lt.1 h₂)))]

/-- Where there are candidates, one is chosen. -/
theorem exists_chosen (h : c ∈ sel.candidates entries) :
    ∃ m, (selectRoleDispatchReadiness sel entries).chosen = some m := by
  unfold selectRoleDispatchReadiness
  dsimp only
  split_ifs with hne
  · cases hm : ((sel.candidates entries).filter sel.starved).argmin Candidate.ageKey with
    | none => exact absurd (List.argmin_eq_none.1 hm) hne
    | some m => exact ⟨m, rfl⟩
  · cases hm : (sel.candidates entries).argmin Candidate.scoreKey with
    | none => exact absurd (List.argmin_eq_none.1 hm ▸ h) List.not_mem_nil
    | some m => exact ⟨m, rfl⟩

end Selection

namespace State

variable {s t loaded : State} {env : Env} {e : Readiness}

/-! ## Entries that can be dispatched -/

/-- The Session has no Unit, or its Unit is active. -/
def unitOpen (s : State) (session : Session) : Prop :=
  strip session.unitId = "" ∨
    ∃ unit, s.units.lookup (strip session.unitId) = some unit ∧ unit.status = .active

/-- What the policy asks of an entry. -/
structure Selectable (s : State) (env : Env) (e : Readiness) : Prop where
  mem : e ∈ s.dispatchReadiness
  ready : e.status = .ready
  available : readinessIsAvailable e env.time
  goal : ∃ goal, s.goals.lookup e.goalId = some goal ∧ goal.completionState = .incomplete
  session : ∃ session, s.sessions.lookup e.sessionId = some session ∧ session.active
  idle : ∀ r ∈ s.acquiredRuns, r.2.key ≠ e.key

instance (s : State) (env : Env) (e : Readiness) : Decidable (s.Selectable env e) :=
  decidable_of_iff
    (e ∈ s.dispatchReadiness ∧ e.status = .ready ∧ readinessIsAvailable e env.time ∧
      (∃ goal, s.goals.lookup e.goalId = some goal ∧ goal.completionState = .incomplete) ∧
      (∃ session, s.sessions.lookup e.sessionId = some session ∧ session.active) ∧
      ∀ r ∈ s.acquiredRuns, r.2.key ≠ e.key)
    ⟨fun ⟨h₁, h₂, h₃, h₄, h₅, h₆⟩ => ⟨h₁, h₂, h₃, h₄, h₅, h₆⟩,
      fun ⟨h₁, h₂, h₃, h₄, h₅, h₆⟩ => ⟨h₁, h₂, h₃, h₄, h₅, h₆⟩⟩

/-- It can be dispatched: its Session has no Unit or an active one. -/
structure Dispatchable (s : State) (env : Env) (e : Readiness) : Prop where
  selectable : s.Selectable env e
  unitOpen : ∀ session, s.sessions.lookup e.sessionId = some session → s.unitOpen session

/-- The entries that the policy ranks. -/
def ranked (s : State) (env : Env) : List Candidate :=
  (s.selection env none).candidates s.dispatchReadiness

/-- The first entry of the queue, in the order of the policy. -/
def Foremost (s : State) (env : Env) (c : Candidate) : Prop :=
  c ∈ s.ranked env ∧ ∀ c' ∈ s.ranked env, ¬(s.selection env none).Before c' c

/-- The keys of acquired runs are the busy roles. -/
theorem mem_acquiredRoles (hw : s.Wf) {key : String × Role} :
    key ∈ s.acquiredRoles ↔ ∃ r ∈ s.acquiredRuns, r.2.key = key := by
  unfold acquiredRoles
  rw [List.mem_flatMap]
  refine exists_congr fun r => and_congr_right fun hr => ?_
  obtain ⟨hl, ha⟩ := mem_acquiredRuns.1 hr
  rw [(hw.run r.1 r.2 hl).2.2 ha]
  constructor
  · intro h
    rcases List.mem_cons.1 h with rfl | h
    · rfl
    · exact (List.mem_singleton.1 h).symm
  · rintro rfl
    exact List.mem_cons_self

theorem candidate_eq_some (hw : s.Wf) {i : Nat} {c : Candidate} (he : e ∈ s.dispatchReadiness)
    (h : (s.selection env none).candidate? e i = some c) : c.entry = e ∧ s.Selectable env e := by
  unfold Selection.candidate? at h
  split_ifs at h with hopen
  rw [Bool.and_eq_true] at hopen
  cases hs : (s.selection env none).sessions.lookup e.sessionId with
  | none => simp [hs] at h
  | some session =>
    simp only [hs] at h
    split_ifs at h with hact
    cases h
    simp only [Bool.and_eq_true, decide_eq_true_eq] at hact
    obtain ⟨hcons, hgo⟩ := hopen
    unfold Selection.considered at hcons
    simp only [Bool.and_eq_true, decide_eq_true_eq] at hcons
    refine ⟨rfl, he, hcons.1.1, hcons.2, ?_, ⟨session, hs, hact.1⟩, fun r hr hk => ?_⟩
    · unfold Selection.goalOpen at hgo
      cases hg : (s.selection env none).goals.lookup e.goalId with
      | none => simp [hg] at hgo
      | some goal =>
        simp only [hg, Bool.and_eq_true, decide_eq_true_eq] at hgo
        exact ⟨goal, hg, hgo.2⟩
    · exact hact.2 ((mem_acquiredRoles hw).2 ⟨r, hr, hk⟩)

/-- **The policy ranks the selectable entries.** -/
theorem selectable_iff (hw : s.Wf) : s.Selectable env e ↔ ∃ c ∈ s.ranked env, c.entry = e := by
  constructor
  · rintro ⟨hm, hr, hav, ⟨goal, hg, hinc⟩, ⟨session, hs, hact⟩, hidle⟩
    obtain ⟨i, hi⟩ := List.mem_iff_getElem?.1 hm
    have hbusy : (e.sessionId, e.role) ∉ s.acquiredRoles := fun h => by
      obtain ⟨r, hr, hk⟩ := (mem_acquiredRoles hw).1 h
      exact hidle r hr hk
    have hcand : ∃ c, (s.selection env none).candidate? e i = some c ∧ c.entry = e := by
      have hcons : (s.selection env none).considered e = true := by
        simp [Selection.considered, hr, State.selection, hav]
      have hopen : (s.selection env none).goalOpen e = true := by
        have hgl : (s.selection env none).goals.lookup e.goalId = some goal := hg
        simp [Selection.goalOpen, hgl, (hw.goal _ _ hg).1, hinc]
      have hsl : (s.selection env none).sessions.lookup e.sessionId = some session := hs
      refine ⟨⟨i, e, schedulingScore session.schedulingPolicy e.role e.firstReadyAt env.time⟩, ?_, rfl⟩
      unfold Selection.candidate?
      rw [hcons, hopen, hsl]
      simp only [Bool.and_self, if_true]
      rw [if_pos]
      · rfl
      · rw [Bool.and_eq_true, decide_eq_true_eq]
        exact ⟨hact, hbusy⟩
    obtain ⟨c, hc, rfl⟩ := hcand
    exact ⟨c, Selection.mem_candidates.2 ⟨_, i, hi, hc⟩, rfl⟩
  · rintro ⟨c, hc, rfl⟩
    obtain ⟨e, i, he, hcand⟩ := Selection.mem_candidates.1 hc
    obtain ⟨heq, hsel⟩ := candidate_eq_some hw (List.mem_of_getElem? he) hcand
    exact heq ▸ hsel

/-! ## The acquisition -/

theorem next_of_refreshed (h : t.Refreshed env) (filter : Option String) :
    t.nextDispatchReadinessEntry env filter =
      ({ t with dispatchReadiness := t.dispatchReadiness.zipIdx.map fun e =>
          if e.2 ∈ (selectRoleDispatchReadiness (t.selection env filter)
            t.dispatchReadiness).staleIndexes then { e.1 with status := .stale } else e.1 },
        (selectRoleDispatchReadiness (t.selection env filter) t.dispatchReadiness).chosen) := by
  unfold nextDispatchReadinessEntry
  rw [h.refresh_eq]

/-- **The checks on a chosen entry** only ask for its Unit. -/
theorem checkLease_iff (hw : s.Wf) (hs : s.ledger.Sound) (he : s.Selectable env e) {q : List Readiness} :
    (∃ r, checkLease { s with dispatchReadiness := q } e = .ok r) ↔ s.Dispatchable env e := by
  obtain ⟨goal, hg, hsid, -⟩ := goal_of_entry hw hs he.mem
  obtain ⟨session, hsess, hact⟩ := he.session
  constructor
  · rintro ⟨⟨goal', session'⟩, h⟩
    obtain ⟨hg', hs', -, hunit⟩ := checkLease_spec h
    refine ⟨he, fun x hx => ?_⟩
    have hgl : goal' = goal := Option.some.inj (hg'.symm.trans hg)
    have hsl : session' = x := by
      have hs'' : s.sessions.lookup goal'.sessionId = some session' := hs'
      rw [hgl, hsid, hx] at hs''
      exact (Option.some.inj hs'').symm
    subst hsl
    rcases hunit with hu | ⟨hmem, hp⟩
    · exact .inl hu
    · obtain ⟨unit, hu⟩ := Dict.mem_iff_lookup.1 hmem
      refine .inr ⟨unit, hu, ?_⟩
      unfold unitPaused at hp
      have hu' : s.units.lookup (strip session'.unitId) = some unit := hu
      rw [show State.units { s with dispatchReadiness := q } = s.units from rfl, hu'] at hp
      simpa using hp
  · intro hd
    have hopen := hd.unitOpen session hsess
    refine ⟨(goal, session), ?_⟩
    unfold checkLease
    have hgl : State.goals { s with dispatchReadiness := q } = s.goals := rfl
    have hsl : State.sessions { s with dispatchReadiness := q } = s.sessions := rfl
    rw [hgl, hg]
    dsimp only
    rw [hsid, hsess]
    dsimp only
    refine Except.require_bind_eq_ok.2 ⟨hact, Except.require_bind_eq_ok.2 ⟨?_,
      Except.require_bind_eq_ok.2 ⟨?_, rfl⟩⟩⟩
    · rcases hopen with hu | ⟨unit, hu, -⟩
      · exact .inl hu
      · exact .inr (Dict.mem_iff_lookup.2 ⟨unit, hu⟩)
    · rcases hopen with hu | ⟨unit, hu, hact⟩
      · exact .inl hu
      · refine .inr ?_
        unfold unitPaused
        rw [show State.units { s with dispatchReadiness := q } = s.units from rfl, hu]
        simp [hact]

/-- A lease is one for the chosen entry. -/
theorem leaseEntry_readinessId (s : State) (env : Env) (c : Candidate) (goal : Goal)
    (session : Session) : (s.leaseEntry env c goal session).2.readinessId = c.entry.readinessId := by
  obtain ⟨-, -, -, -, run, -, -, hrun, -, hof, -⟩ := s.leaseEntry_spec env c goal session
  exact hof.readinessId.trans hrun.readinessId

/-- **Dispatch progress**: in a reachable store with an entry that can be dispatched, an
    acquisition without filter leases such an entry if and only if the first entry of the
    queue is one. -/
theorem acquire_iff_foremost {sys : Sys} (h : storeSystem.Reachable sys)
    (hl : sys.store.load env = .ok loaded)
    (hd : ∃ e, (loaded.reconcileDispatchLiveness env).1.Dispatchable env e) :
    (∃ s' lease e, sys.store.acquireDispatchLease env none = .ok (s', some lease) ∧
        (loaded.reconcileDispatchLiveness env).1.Dispatchable env e ∧
        e.readinessId = lease.readinessId) ↔
      ∃ c, (loaded.reconcileDispatchLiveness env).1.Foremost env c ∧
        (loaded.reconcileDispatchLiveness env).1.Dispatchable env c.entry := by
  obtain ⟨hi, hsound, -⟩ := State.Loaded.safe ⟨sys, env, h, hl⟩
  have hm := moves_reconcile (P := fun _ => True) hi trivial env
  have hi' := hm.intact hi
  have hsound' := hm.sound hsound
  have hlive := reconcile_live loaded env (coherent_of_sound hi hsound)
  have hnext : loaded.chosenEntry env none = _ := next_of_refreshed hlive.refreshed none
  generalize ht : (loaded.reconcileDispatchLiveness env).1 = t at hd hi' hsound' hlive hnext ⊢
  constructor
  · rintro ⟨s', lease, -, hacq, -, -⟩
    obtain ⟨loaded', hl', hcases⟩ := acquire_cases hacq
    rw [hl] at hl'
    cases hl'
    rcases hcases with ⟨-, hnone, -⟩ | ⟨c, goal, session, hc, hck, -, -⟩
    · cases hnone
    · rw [hnext] at hc hck
      have hfirst : t.Foremost env c := Selection.chosen_iff.1 hc
      have hsel : t.Selectable env c.entry := (selectable_iff hi'.wf).2 ⟨c, hfirst.1, rfl⟩
      exact ⟨c, hfirst, (checkLease_iff hi'.wf hsound' hsel).1 ⟨_, hck⟩⟩
  · rintro ⟨c, hfirst, hdisp⟩
    have hc := Selection.chosen_iff.2 hfirst
    have hpass := fun q => (checkLease_iff (q := q) hi'.wf hsound' hdisp.selectable).2 hdisp
    unfold chosenEntry at hnext
    rw [ht] at hnext
    generalize (t.dispatchReadiness.zipIdx.map fun e : Readiness × Nat => _) = q at hnext
    obtain ⟨⟨goal, session⟩, hck⟩ := hpass q
    clear hpass
    rw [hc] at hnext
    generalize hn : ({ t with dispatchReadiness := q } : State) = next at hnext hck
    have hacq : sys.store.acquireDispatchLease env none =
        .ok ((next.leaseEntry env c goal session).1.save,
          some (next.leaseEntry env c goal session).2) := by
      unfold acquireDispatchLease
      rw [hl, Except.ok_bind]
      refine Except.require_bind_eq_ok.2 ⟨by simp, ?_⟩
      generalize loaded.reconcileDispatchLiveness env = r at ht hnext ⊢
      obtain ⟨r₁, r₂⟩ := r
      cases ht
      dsimp only at hnext ⊢
      rw [hnext]
      dsimp only
      rw [hck, Except.ok_bind]
      rfl
    exact ⟨_, _, c.entry, hacq, hdisp, (leaseEntry_readinessId ..).symm⟩

/-! ## Blocked by a paused Unit -/

/-- A Session of a paused Unit is ahead of one without Unit. -/
def blocked : List Action :=
  [⟨clock 1, .createUnit "u" {}⟩,
    ⟨clock 2, .startGoalSession "a" "u" ["root"] "A" "build it" "root"⟩,
    ⟨clock 3, .startGoalSession "b" "" ["root"] "B" "build it" "root"⟩,
    ⟨clock 4, .setUnitActive "u" false⟩]

theorem wf_reconciledAfter {as : List Action} (h : ((newStore.nexts as).store.load env).isOk) :
    (reconciledAfter as env).Wf := by
  obtain ⟨hi, -, -⟩ := (loaded_after h).safe
  exact ((moves_reconcile (P := fun _ => True) hi trivial env).intact hi).wf

/-- A ranked entry whose Unit is open can be dispatched. -/
theorem dispatchable_of_ranked {c : Candidate} (hw : s.Wf) (hc : c ∈ s.ranked env)
    (h : ∀ session, s.sessions.lookup c.entry.sessionId = some session → s.unitOpen session) :
    s.Dispatchable env c.entry :=
  ⟨(selectable_iff hw).2 ⟨c, hc, rfl⟩, h⟩

instance (s : State) (session : Session) : Decidable (s.unitOpen session) := by
  unfold unitOpen
  infer_instance

/-- **A paused Unit blocks the others**: an entry can be dispatched, and the acquisition
    fails. -/
theorem acquire_blocked : ∃ sys, storeSystem.Reachable sys ∧ ∃ env loaded,
    sys.store.load env = .ok loaded ∧
      (∃ e, (loaded.reconcileDispatchLiveness env).1.Dispatchable env e) ∧
      ∀ r, sys.store.acquireDispatchLease env none ≠ .ok r := by
  have hok : ((newStore.nexts blocked).store.load (clock 5)).isOk := by decide +kernel
  refine ⟨_, reachable_nexts blocked, clock 5, _, ok_getD hok, ?_, fun r hr => ?_⟩
  · have hex : ∃ c ∈ (reconciledAfter blocked (clock 5)).ranked (clock 5), ∀ session ∈
        (reconciledAfter blocked (clock 5)).sessions.lookup c.entry.sessionId,
        (reconciledAfter blocked (clock 5)).unitOpen session := by
      decide +kernel
    obtain ⟨c, hc, hopen⟩ := hex
    have hd := dispatchable_of_ranked (wf_reconciledAfter hok) hc fun session h =>
      hopen session (Option.mem_def.2 h)
    exact ⟨c.entry, hd⟩
  · have herr : ((newStore.nexts blocked).store.acquireDispatchLease (clock 5) none).isOk = false := by
      decide +kernel
    rw [hr] at herr
    cases herr

/-- A Session of a paused Unit is behind one without Unit, and before another one. -/
def behind : List Action :=
  [⟨clock 1, .createUnit "u" {}⟩,
    ⟨clock 2, .startGoalSession "a" "" ["root"] "A" "build it" "root"⟩,
    ⟨clock 3, .startGoalSession "b" "u" ["root"] "B" "build it" "root"⟩,
    ⟨clock 4, .startGoalSession "c" "" ["root"] "C" "build it" "root"⟩,
    ⟨clock 5, .setUnitActive "u" false⟩]

/-- Three entries are ranked, and the one of the paused Unit cannot be dispatched; the GoalManager
    of the first one is leased. -/
theorem acquire_iff_foremost_behind :
    ((reconciledAfter behind (clock 6)).ranked (clock 6)).map (·.entry.sessionId) = ["a", "b", "c"] ∧
    (∃ session, (reconciledAfter behind (clock 6)).sessions.lookup "b" = some session ∧
      ¬(reconciledAfter behind (clock 6)).unitOpen session) ∧
    ∃ s' lease, (newStore.nexts behind).store.acquireDispatchLease (clock 6) none =
      .ok (s', some lease) := by
  have hok : ((newStore.nexts behind).store.load (clock 6)).isOk := by decide +kernel
  have hopen : ∀ c ∈ (reconciledAfter behind (clock 6)).ranked (clock 6), c.entry.sessionId = "a" →
      ∀ session ∈ (reconciledAfter behind (clock 6)).sessions.lookup c.entry.sessionId,
        (reconciledAfter behind (clock 6)).unitOpen session := by
    decide +kernel
  have hfirst : (selectRoleDispatchReadiness ((reconciledAfter behind (clock 6)).selection (clock 6)
      none) (reconciledAfter behind (clock 6)).dispatchReadiness).chosen.map
        (·.entry.sessionId) = some "a" := by decide +kernel
  refine ⟨by decide +kernel, by decide +kernel, ?_⟩
  obtain ⟨c, hc, ha⟩ := Option.map_eq_some_iff.1 hfirst
  have hbest : (reconciledAfter behind (clock 6)).Foremost (clock 6) c := Selection.chosen_iff.1 hc
  have hdisp : (reconciledAfter behind (clock 6)).Dispatchable (clock 6) c.entry :=
    dispatchable_of_ranked (wf_reconciledAfter hok) hbest.1 fun y hy => hopen c hbest.1 ha y hy
  have hl : (newStore.nexts behind).store.load (clock 6) = .ok (loadedAfter behind (clock 6)) :=
    ok_getD hok
  have hiff := acquire_iff_foremost (reachable_nexts behind) hl ⟨c.entry, hdisp⟩
  obtain ⟨s', lease, -, h, -⟩ := hiff.2 ⟨c, hbest, hdisp⟩
  exact ⟨s', lease, h⟩

end State
end Aize
