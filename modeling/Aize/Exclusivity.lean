/-
  Leases are exclusive: for a Session and role there is one acquired run or one ready
  entry, not both and not two.

  In the store this holds of every reachable state (`reachable_exclusive`). The recovery
  of a missing run is only reached when a record has vanished, so it is judged in
  `lossySystem`, where any record may vanish between two operations. There it puts an
  entry back into the queue although another run may hold the entry by now:
  `exclusive_of_undisturbed` needs that none does, `not_exclusive` is the case that one
  does.
-/
import Aize.Reachable

namespace Aize

/-- At most one acquired run and at most one ready entry for a Session and role, and never
    both. -/
structure State.LeasesExclusive (s : State) : Prop where
  runs : ∀ a ∈ s.acquiredRuns, ∀ b ∈ s.acquiredRuns, a.2.key = b.2.key → a.1 = b.1
  ready : ∀ sid role, (s.dispatchReadiness.filter (Readiness.readyFor sid role)).length ≤ 1
  mixed : ∀ e ∈ s.dispatchReadiness, e.status = .ready → ∀ r ∈ s.acquiredRuns, r.2.key ≠ e.key

theorem Ledger.Exclusive.leases {s : State} (h : s.ledger.Exclusive) : s.LeasesExclusive where
  runs a ha b hb hk := h.runs a.1 a.2 b.1 b.2 (State.mem_acquiredRuns.1 ha)
    (State.mem_acquiredRuns.1 hb) hk
  ready sid role := by
    have heq : ∀ x ∈ s.dispatchReadiness.filter (Readiness.readyFor sid role),
        ∀ y ∈ s.dispatchReadiness.filter (Readiness.readyFor sid role), x = y := by
      intro x hx y hy
      obtain ⟨hx, hrx⟩ := List.mem_filter.1 hx
      obtain ⟨hy, hry⟩ := List.mem_filter.1 hy
      obtain ⟨rx, kx⟩ := Readiness.readyFor_iff.1 hrx
      obtain ⟨ry, ky⟩ := Readiness.readyFor_iff.1 hry
      exact h.eq_of_id hx hy (h.live x hx y hy (by simp [Readiness.live, rx])
        (by simp [Readiness.live, ry]) (kx.trans ky.symm))
    have hnodup := (List.Nodup.of_map _ h.ids).filter (Readiness.readyFor sid role)
    change (s.dispatchReadiness.filter (Readiness.readyFor sid role)).Nodup at hnodup
    generalize s.dispatchReadiness.filter (Readiness.readyFor sid role) = l at heq hnodup
    cases l with
    | nil => exact Nat.zero_le _
    | cons a l =>
      rw [hnodup.eq_singleton List.mem_cons_self fun x hx => heq x hx a List.mem_cons_self]
      exact le_rfl
  mixed e he hs r hr := h.ready e he hs r.1 r.2 (State.mem_acquiredRuns.1 hr)

/-- **No loss**: every reachable state of the store has exclusive leases. -/
theorem reachable_exclusive {sys : Sys} (h : storeSystem.Reachable sys) : sys.store.LeasesExclusive :=
  (reachable_safe h).exclusive.leases

/-! ## Records that vanish -/

/-- An operation, or the loss of the record of a run. -/
inductive LossyAction where
  | op (a : Action)
  | loseRun (runId : Nat)

/-- The record of a run vanishes. -/
def State.loseRun (s : State) (runId : Nat) : State :=
  { s with dispatchRuns := s.dispatchRuns.erase runId }

def Sys.lossyNext (sys : Sys) : LossyAction → Sys
  | .op a => sys.next a
  | .loseRun runId => { sys with store := sys.store.loseRun runId }

/-- The store, where records of runs may vanish between two operations. -/
def lossySystem : TransitionSystem Sys LossyAction where
  init := storeSystem.init
  step sys a sys' := sys' = sys.lossyNext a

variable {sys sys' : Sys} {rid : Nat}

theorem lookup_loseRun (s : State) (rid x : Nat) : (s.loseRun rid).dispatchRuns.lookup x =
    if x = rid then none else s.dispatchRuns.lookup x := Dict.lookup_erase_of _ _ _

theorem ledger_loseRun (s : State) (rid : Nat) : (s.loseRun rid).ledger =
    { s.ledger with run := Function.update s.ledger.run rid none } := by
  have hrun : (s.loseRun rid).dispatchRuns.lookup = Function.update s.dispatchRuns.lookup rid none := by
    funext x
    rw [lookup_loseRun, Function.update_apply]
  unfold State.ledger
  rw [hrun]
  rfl

/-- The loss of a record is one step of the ledger. -/
theorem step_loseRun (s : State) (rid : Nat) : Ledger.Step s.ledger .lose (s.loseRun rid).ledger := by
  rw [ledger_loseRun]
  exact .lose rid

theorem Sys.Inv.loseRun (h : sys.Inv) (rid : Nat) :
    Sys.Inv { sys with store := sys.store.loseRun rid } where
  stored := by
    have hw := h.stored.wf
    refine ⟨⟨hw.blank, hw.goal, hw.unique, fun id r hr => ?_, hw.entry, hw.ids, hw.log, hw.edge,
      hw.home⟩, h.stored.pending, h.stored.fullIds, ?_⟩
    · rw [lookup_loseRun] at hr
      split_ifs at hr
      exact hw.run id r hr
    · have hc : Ledger.Consistent sys.store.ledger := h.stored.book
      exact (step_loseRun sys.store rid).consistent hc
  sound := (step_loseRun sys.store rid).sound h.sound
  forwards := (step_loseRun sys.store rid).forwards h.forwards
  issued := h.issued
  lease l hl run hr := by
    rw [lookup_loseRun] at hr
    split_ifs at hr
    exact h.lease l hl run hr

/-- The recovery of a missing run finds its entry in no other hands. -/
def Undisturbed (sys : Sys) (a : LossyAction) : Prop :=
  ∀ env lease agentEnd, a = .op ⟨env, .commit lease agentEnd⟩ → lease ∈ sys.leases →
    sys.store.dispatchRuns.lookup lease.runId = none →
    ∀ r ∈ sys.store.acquiredRuns, r.2.readinessId ≠ lease.readinessId

/-- **The step**: an undisturbed operation keeps leases exclusive. -/
theorem next_exclusive (hI : sys.Inv) (hx : sys.store.ledger.Exclusive) {a : Action}
    (hu : Undisturbed sys (.op a)) : (sys.next a).store.ledger.Exclusive := by
  obtain ⟨-, hst⟩ := next_stores hI a
  refine (hst.steps.invariant (I := fun c => Ledger.Steps (sys.Allowed a.op) sys.store.ledger c ∧
    c.Exclusive) ⟨.refl _, hx⟩ ?_).2
  rintro c lb c' ⟨hsteps, hxc⟩ hlb hstep
  refine ⟨hsteps.trans (.of_step hlb hstep), hstep.exclusive hxc ?_⟩
  rintro id rfl rid r ⟨hr, hacq⟩
  obtain ⟨lease, agentEnd, hop, hmem, rfl, hnone⟩ := hlb
  -- a commit acquires nothing: the run was acquired before it
  have hnew : ¬sys.Allowed a.op (.acquire rid) := by
    rintro ⟨-, filter, hop'⟩
    rw [hop] at hop'
    cases hop'
  obtain ⟨r₀, hr₀, hl⟩ := hsteps.run_back hnew hr
  rw [hl.readinessId]
  obtain ⟨env, op⟩ := a
  dsimp only at hop
  subst hop
  exact hu env lease agentEnd rfl hmem hnone (rid, r₀)
    (State.mem_acquiredRuns.2 ⟨hr₀, hl.acquired hacq⟩)

/-- **Lease exclusivity**: it holds in every state of every run of the lossy store whose
    recoveries of missing runs are undisturbed, and so in every reachable state of a store
    that loses no record. -/
theorem exclusive_of_undisturbed (sys : Sys) :
    ((lossySystem.restrict Undisturbed).Reachable sys → sys.store.LeasesExclusive) ∧
      (storeSystem.Reachable sys → sys.store.LeasesExclusive) := by
  refine ⟨fun h => ?_, fun h => reachable_exclusive h⟩
  refine (h.of_step (P := fun sys : Sys => sys.Inv ∧ sys.store.ledger.Exclusive) ?_ ?_).2.leases
  · intro sys hi
    have hsafe := reachable_safe (.init hi)
    exact ⟨hsafe.inv, hsafe.exclusive⟩
  · rintro sys a _ - ⟨hI, hx⟩ ⟨rfl, hu⟩
    cases a with
    | op a => exact ⟨(next_stores hI a).1, next_exclusive hI hx hu⟩
    | loseRun rid =>
      exact ⟨hI.loseRun rid, (step_loseRun sys.store rid).exclusive hx fun id h => by cases h⟩

/-! ## Two runs for one entry -/

/-- The first GoalManager has lost its lease in a recovery, and a second one holds the entry. -/
def replaced : List Action := recovered ++ [⟨clock 4, .acquire none⟩]

/-- The record of the first run is lost, and then its result comes back. -/
def Sys.lateResult (sys : Sys) : Sys :=
  (sys.lossyNext (.loseRun (newStore.nexts started).firstLease.runId)).lossyNext
    (.op ⟨clock 5, .commit (newStore.nexts started).firstLease (.failed "no answer")⟩)

def Op.isCommit : Op → Bool
  | .commit .. => true
  | _ => false

/-- Operations that bring back no result are undisturbed. -/
theorem reachable_undisturbed (h : (lossySystem.restrict Undisturbed).Reachable sys)
    {as : List Action} (has : ∀ a ∈ as, a.op.isCommit = false) :
    (lossySystem.restrict Undisturbed).Reachable (sys.nexts as) := by
  induction as generalizing sys with
  | nil => exact h
  | cons a as ih =>
    refine ih (h.step (a := .op a) ⟨rfl, ?_⟩) fun x hx => has x (List.mem_cons_of_mem _ hx)
    rintro env lease agentEnd ⟨⟩
    cases has _ List.mem_cons_self

/-- **The recovery of a missing run can take the entry of another run**: it is ready and
    acquired. -/
theorem not_exclusive : ∃ sys, lossySystem.Reachable sys ∧ ¬sys.store.LeasesExclusive := by
  have hreach : lossySystem.Reachable (newStore.nexts replaced) :=
    .of_restrict (reachable_undisturbed (.init init_newStore) (by decide))
  refine ⟨(newStore.nexts replaced).lateResult, (hreach.step rfl).step rfl, fun h => ?_⟩
  have hboth : ∃ e ∈ (newStore.nexts replaced).lateResult.store.dispatchReadiness,
      e.status = .ready ∧ ∃ r ∈ (newStore.nexts replaced).lateResult.store.acquiredRuns,
        r.2.key = e.key := by
    decide +kernel
  obtain ⟨e, he, hs, r, hr, hk⟩ := hboth
  exact h.mixed e he hs r hr hk

/-- A result whose record is lost, while nobody else holds its entry. -/
theorem exclusive_of_undisturbed_lost :
    (newStore.nexts started).lateResult.store.LeasesExclusive := by
  have h₀ : (lossySystem.restrict Undisturbed).Reachable (newStore.nexts started) :=
    reachable_undisturbed (.init init_newStore) (by decide)
  have h₁ := h₀.step (a := .loseRun (newStore.nexts started).firstLease.runId)
    ⟨rfl, by rintro _ _ _ ⟨⟩⟩
  refine (exclusive_of_undisturbed _).1 (h₁.step ⟨rfl, ?_⟩)
  rintro _ _ _ ⟨⟩ - -
  decide +kernel

end Aize
