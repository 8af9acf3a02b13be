/-
  What the records refer to.

  Records name each other by plain strings and numbers, and a commit indexes the Sessions and
  Goals of its lease directly. `Referential` says that every such name refers to a record, and
  that runs and queue entries name the current Goal of their Session. It holds of every
  reachable state (`references_resolve`): the tenants and the ledger supply most of it; here
  are the one Sessions of the Units, and the edges, which stay a DAG below the root even where
  a load cannot repair it.
-/
import Aize.Rooted
import Aize.Spawning
import Aize.Intervals
import Aize.Errors

namespace Aize
namespace State

variable {s s' : State} {env : Env}

/-- **Every reference resolves.** -/
structure Referential (s : State) : Prop where
  goal : ∀ id g, s.goals.lookup id = some g → g.archivedAt = "" ∧ g.sessionId ∈ s.sessions ∧
    s.currentGoalForSession g.sessionId = some (id, g)
  run : ∀ id r, s.dispatchRuns.lookup id = some r → r.sessionId ∈ s.sessions ∧
    ∃ g, s.currentGoalForSession r.sessionId = some (r.goalId, g)
  entry : ∀ e ∈ s.dispatchReadiness, e.sessionId ∈ s.sessions ∧
    ∃ g, s.currentGoalForSession e.sessionId = some (e.goalId, g)
  session : ∀ id session, s.sessions.lookup id = some session →
    session.unitId = "" ∨ session.unitId ∈ s.units
  singleton : ∀ id unit, s.units.lookup id = some unit →
    unit.singletonSessionId = "" ∨ unit.singletonSessionId ∈ s.sessions
  owner : ∀ id unit, s.units.lookup id = some unit →
    unit.ownerAccount = "" ∨ unit.ownerAccount ∈ s.users
  home : ∀ name user, s.users.lookup name = some user → user.status = .active →
    user.homeUnitId ∈ s.units ∧ ∃ session, s.sessions.lookup user.homeSessionId = some session ∧
      session.unitId = user.homeUnitId
  edge : ∀ e ∈ s.sessionEdges, e.parent ∈ s.sessions ∧ e.child ∈ s.sessions
  log : ∀ sid, s.log sid ≠ [] → sid ∈ s.sessions

/-! ## Goals, runs and entries -/

/-- The Goal that the ledger gives to a Session. -/
theorem owned {sid : String} {goalId : Nat} (h : Ledger.Owns s.book sid goalId) :
    sid ∈ s.sessions ∧ ∃ g, s.currentGoalForSession sid = some (goalId, g) := by
  obtain ⟨v, gv, hv, hg, rfl⟩ := h
  have hview : s.view sid = some v := hv
  refine ⟨mem_of_view hview, ?_⟩
  obtain ⟨session, -, -, -, hgoal⟩ := view_eq_some_iff.1 hview
  rw [hg] at hgoal
  obtain ⟨g, hc, rfl⟩ := Option.map_eq_some_iff.1 hgoal
  exact ⟨g.2, hc⟩

/-- The commit of this result completes the Session of a Unit whose schedule is enabled: it has
    a next run time to resolve. -/
def Resolves (s : State) (lease : Lease) (agentEnd : AgentEnd) : Prop :=
  ∃ result run declared parameters session, agentEnd = .result result ∧
    s.dispatchRuns.lookup lease.runId = some run ∧ run.declaredOutcome = some declared ∧
    declared.decision = .complete parameters ∧ s.sessions.lookup lease.sessionId = some session ∧
    (s.enabledSchedule session).isSome

theorem enabledSchedule_congr (hu : s'.units = s.units) (session : Session) :
    s'.enabledSchedule session = s.enabledSchedule session := by
  unfold enabledSchedule
  rw [hu]

theorem raises_applyDecision {lease : Lease} {rid : Nat} {run : DispatchRun} {goal : Goal}
    {session : Session} {declared : Declaration} {e : Err}
    (h : s.applyDecision env lease rid run goal session declared = .error e) :
    e = .overflowError ∧ (s.enabledSchedule session).isSome ∧
      ∃ parameters, declared.decision = .complete parameters := by
  unfold applyDecision at h
  dsimp only at h
  cases hd : declared.decision with
  | waiting wait => simp only [hd] at h; cases h
  | incomplete => simp only [hd] at h; cases h
  | complete parameters =>
    simp only [hd] at h
    rcases Except.bind_eq_error.1 h with h | ⟨_, -, h⟩
    · obtain ⟨he, hs⟩ := raises_prepare _ _ _ _ _ _ _ _ h
      refine ⟨he, ?_, parameters, rfl⟩
      rwa [enabledSchedule_congr] at hs
      unfold readSessionLog
      split_ifs <;> rfl
    · cases h

/-- **A commit that finds its run, its Goal and its Session** raises nothing, unless the next run
    time that it has to resolve overflows. -/
theorem raises_commitLoaded {lease : Lease} (hr : lease.runId ∈ s.dispatchRuns)
    (hg : lease.goalId ∈ s.goals) (hs : lease.sessionId ∈ s.sessions) {agentEnd : AgentEnd} {e : Err}
    (h : s.commitLoaded env lease agentEnd = .error e) :
    e = .overflowError ∧ s.Resolves lease agentEnd := by
  obtain ⟨run, hr⟩ := Dict.mem_iff_lookup.1 hr
  obtain ⟨goal, hg⟩ := Dict.mem_iff_lookup.1 hg
  obtain ⟨session, hs⟩ := Dict.mem_iff_lookup.1 hs
  unfold commitLoaded at h
  simp only [hr, hg, hs] at h
  split at h
  · cases h
  split at h
  · rename_i result _ _
    rcases Except.bind_eq_error.1 h with h | ⟨_, -, h⟩
    · unfold applyOutcome at h
      cases hd : run.declaredOutcome with
      | none => simp only [hd] at h; cases h
      | some declared =>
        simp only [hd] at h
        obtain ⟨he, hsched, parameters, hcomplete⟩ := raises_applyDecision h
        obtain ⟨-, -, -, -, hunits, -⟩ := recordRunTurn_frame s run lease.sessionId result
        rw [enabledSchedule_congr hunits] at hsched
        exact ⟨he, result, run, declared, parameters, session, rfl, hr, hd, hcomplete, hs, hsched⟩
    · cases h
  · cases h
  · cases h

/-! ## Edges -/

/-- An operation that has loaded a DAG below the root leaves one. -/
theorem RootedDag.after (hs : s.Housed) (hg : s.RootedDag) (h : s.AfterBuilds env s') :
    s'.RootedDag := by
  rcases h with rfl | ⟨t, hl, hb⟩
  · exact hg
  · exact ((hung_of_load hs hg hl).grown.builds hb).dag

end State

open State

variable {sys : Sys}

/-- **The graph stays a DAG below the root**, whoever is created: a user whose home loops can be
    created, but no load of the result succeeds. -/
theorem dag_next (hs : sys.store.Housed) (hg : sys.store.RootedDag) (a : Action) :
    (sys.next a).store.RootedDag := by
  rcases next_cases hs a with h | ⟨loaded, ensured, -, hl, he, hr⟩ |
    ⟨username, password, groups, -, hok⟩
  · exact hg.after hs h
  · have hh := (hs.load hl).hung (hung_of_load hs hg hl).dag he
    exact hh.dag.congr hr.toSameTenants hr.edges
  · -- The creation has loaded the state, so it is grounded.
    obtain ⟨t, t', user, hl, -⟩ := enlisted_of_createUser hs hok
    exact (grounded_createUser_iff hs ⟨hg, (hung_of_load hs hg hl).above⟩ hok).1

/-! ## Units -/

theorem linked_next (hst : sys.store.Stored) (hs : sys.store.Housed) (hlinked : sys.store.Linked)
    (a : Action) : (sys.next a).store.Linked := by
  obtain ⟨env, op⟩ := a
  unfold Sys.next
  cases hexec : op.exec env sys with
  | error => exact hlinked
  | ok sys' =>
    dsimp only
    rcases exec_tenants hs hexec with happly | ⟨-, hsame⟩
    · by_cases hstart : op.starts
      · exact (guarded_apply hst hs hstart happly).links hlinked
      by_cases hcreate : ∃ username password groups, op = .createUser username password groups
      · obtain ⟨username, password, groups, rfl⟩ := hcreate
        rw [Op.apply] at happly
        exact linked_createUser hs hlinked happly
      · push Not at hcreate
        exact (tended_apply hs hstart hcreate happly).linked hlinked
    · exact hlinked.same hsame

/-! ## Runs -/

/-- **One DAG and one Session for each singleton Unit** in every reachable state. -/
theorem graph_reachable (h : storeSystem.Reachable sys) :
    sys.store.RootedDag ∧ sys.store.Linked := by
  refine (h.of_step (P := fun sys => sys.Inv ∧ sys.store.Housed ∧ sys.store.RootedDag ∧
    sys.store.Linked) ?_ ?_).2.2
  · rintro sys hinit
    obtain ⟨env, hnew, -⟩ := id hinit
    exact ⟨reachable_inv (.init hinit), housed_initNew hnew, (grounded_initNew hnew).dag,
      (sole_initNew hnew).toLinked⟩
  · rintro sys a _ - ⟨hI, hs, hg, hlinked⟩ rfl
    exact ⟨(next_stores hI a).1, housed_next hs a, dag_next hs hg a,
      linked_next hI.stored hs hlinked a⟩

theorem referential_reachable (h : storeSystem.Reachable sys) : sys.store.Referential := by
  obtain ⟨hst, hsound, -⟩ := reachable_inv h
  obtain ⟨hg, hlinked⟩ := graph_reachable h
  have hs := housed_reachable h
  refine ⟨fun id g hgoal => ?_, fun id r hr => ?_, fun e he => ?_, fun id session hlook => ?_,
    hlinked.linked, fun id unit hu => ?_, fun name user hu ha => ?_, fun e he => ?_, fun sid hlog => ?_⟩
  · obtain ⟨harchived, hsession, -⟩ := hst.wf.goal id g hgoal
    exact ⟨harchived, hsession, hst.wf.currentGoal.2 ⟨hgoal, rfl⟩⟩
  · exact owned (hsound.run id r hr).1
  · exact owned (hsound.entry e he).1
  · have hpost : sys.store.post id = some ⟨session.unitId, session.singleton⟩ := by
      rw [post, hlook]
      rfl
    exact (hs.unit id _ hpost).2.imp_right Dict.mem_iff_lookup.2
  · exact (hs.owner id unit hu).imp_right Dict.mem_iff_lookup.2
  · have hn : sys.store.Login name := ⟨user, hu, ha⟩
    obtain ⟨-, unit, -, hunit, -⟩ := hs.homeUnit name hn
    obtain ⟨session, hsession, hpost⟩ := Option.map_eq_some_iff.1 (hs.homePost name hn)
    rw [hs.homeUnitId hu ha, hs.homeSessionId hu ha]
    exact ⟨Dict.mem_iff_lookup.2 ⟨unit, hunit⟩, session, hsession, congrArg Post.unitId hpost⟩
  · exact hg.mem e.parent e.child he
  · by_contra hno
    exact hlog (hst.book.logged sid (view_eq_none.2 hno))

end Aize
