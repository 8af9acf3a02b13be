/-
  The invariant of the store, over all its runs.

  `Sys.Inv` says that the stored state is well-formed, its ledger sound, and that each
  lease that is out agrees with the record of its run. `exec_spec` is the step: an
  operation is some steps of the ledger, none of which loses a record; an entry is
  requeued only for a lease whose record is missing.
-/
import Aize.Restarting

namespace Aize

open State

/-! ## The invariant -/

structure Sys.Inv (sys : Sys) : Prop where
  stored : sys.store.Stored
  sound : sys.store.ledger.Sound
  forwards : sys.store.ledger.Forwards
  issued : ∀ l ∈ sys.leases, l.runId < sys.store.nextId
  lease : ∀ l ∈ sys.leases, ∀ run, sys.store.dispatchRuns.lookup l.runId = some run → Lease.Of l run

/-- The operation brings back the result of a run. -/
def Op.Returns (op : Op) (rid : Nat) : Prop :=
  ∃ lease agentEnd, op = .commit lease agentEnd ∧ lease.runId = rid

/-- The operation brings back what a GoalManager run of the Session has decided, and the run
    still holds its lease. -/
def Sys.Completes (sys : Sys) (op : Op) (sid : String) (rid : Nat) : Prop :=
  ∃ lease result run, op = .commit lease (.result result) ∧ lease ∈ sys.leases ∧
    lease.sessionId = sid ∧ lease.runId = rid ∧ sys.store.dispatchRuns.lookup rid = some run ∧
    run.leaseState = .acquired ∧ run.role = .goalManager

/-- What an operation may do to the ledger. -/
def Sys.Allowed (sys : Sys) (op : Op) : Label → Prop
  | .lose => False
  | .requeue id => ∃ lease agentEnd, op = .commit lease agentEnd ∧ lease ∈ sys.leases ∧
      lease.readinessId = id ∧ sys.store.dispatchRuns.lookup lease.runId = none
  | .acquire rid => sys.store.nextId ≤ rid ∧ ∃ filter, op = .acquire filter
  | .release rid => op.Returns rid
  | .complete sid rid => sys.Completes op sid rid
  | .replay => op = .restart
  | _ => True

variable {sys sys' : Sys} {env : Env}

theorem State.Lease.Of.later {l : Lease} {r r' : DispatchRun} (h : Lease.Of l r)
    (hl : Ledger.Later r r') : Lease.Of l r' :=
  ⟨h.goalId.trans hl.goalId.symm, h.sessionId.trans (congrArg Prod.fst hl.key).symm,
    h.role.trans (congrArg Prod.snd hl.key).symm, h.readinessId.trans hl.readinessId.symm⟩

/-! ## Initial states -/

theorem intact_empty : State.Intact {} where
  wf := by
    have hlog : ∀ sid, State.log {} sid = [] := fun _ => rfl
    refine ⟨AList.notMem_empty _, fun id g h => ?_, fun id g _ _ h => ?_, fun id r h => ?_, fun e h => ?_,
      List.nodup_nil, fun sid e h => ?_, fun e h => ?_, fun name user h => ?_⟩
    · cases h
    · cases h
    · cases h
    · cases h
    · rw [hlog] at h; cases h
    · cases h
    · cases h
  book :=
    { numbered := fun _ => rfl
      logged := fun _ _ => rfl
      state := fun sid v g hv _ => by cases hv
      silent := fun _ _ h => by cases h }

/-- A new store is some plain steps away from the empty one. -/
theorem initNew_stores {s : State} (h : State.initNew env = .ok s) :
    Stores (fun l => l = .plain) {} s := by
  obtain ⟨t, ht, h⟩ := Except.bind_eq_ok.1 h
  rw [← Except.pure_eq_ok.1 h]
  have hm : Moves (fun l => l = .plain) {} t :=
    (repair_ensureDefaults (P := fun l => l = .plain) intact_empty rfl ht).effect.moves rfl
  exact hm.saved ⟨intact_empty.wf, rfl, rfl, intact_empty.book⟩

theorem initNew_inv {s : State} (h : State.initNew env = .ok s) : s.Stored ∧ s.ledger.Sound ∧
    s.ledger.Forwards := by
  have hs := initNew_stores h
  have hsound : Ledger.Sound (State.ledger {}) := by
    refine ⟨List.nodup_nil, fun e h => ?_, fun rid r h => ?_, fun e h => ?_, fun sid v role h => ?_⟩ <;>
      cases h
  refine ⟨hs.stored, hs.sound hsound, hs.steps.invariant (I := Ledger.Forwards) ?_
    fun _ _ _ hc _ hs => hs.forwards hc⟩
  intro sid e he
  cases he

/-! ## Operations -/

/-- **An operation without lease.** -/
theorem apply_stores {s s' : State} {P : Label → Prop} {op : Op} (hs : s.Stored) (hP : P .plain)
    (hR : ∀ b, P (.reactivate b)) (hU : P .unlogged) (hP' : op = .restart → P .replay)
    (h : op.apply env s = .ok s') : Stores P s s' := by
  cases op with
  | declareCompletion =>
    rw [Op.apply] at h
    obtain ⟨rid, -, hd⟩ := declaredCompletion h
    exact hd.spec hs hP
  | declareWaiting =>
    rw [Op.apply] at h
    obtain ⟨rid, -, hd⟩ := declaredWaiting h
    exact hd.spec hs hP
  | recordRuntimeRecovery => rw [Op.apply] at h; exact recovery_spec hs hP h
  | restart =>
    obtain ⟨⟨memory, s₁⟩, h₁, rfl⟩ := Except.map_eq_ok.1 h
    exact restart_spec hs hP (hP' rfl) h₁
  | acquire => cases h; exact .refl hs
  | commit => cases h; exact .refl hs
  | _ =>
    refine (Op.apply_saved ?_ hs hP hR hU h).stores hs hP
    trivial

/-- What an operation keeps of the leases that are out. -/
theorem Sys.Inv.of_stores (hI : sys.Inv) {s' : State} {op : Op}
    (h : Stores (sys.Allowed op) sys.store s')
    {leases : List Lease} (hl : ∀ l ∈ leases, l ∈ sys.leases ∨ l.runId < s'.nextId ∧
      ∃ run, s'.dispatchRuns.lookup l.runId = some run ∧ Lease.Of l run) : Sys.Inv ⟨s', leases⟩ where
  stored := h.stored
  sound := h.sound hI.sound
  forwards := h.steps.invariant (I := Ledger.Forwards) hI.forwards fun _ _ _ hc _ hs => hs.forwards hc
  issued l hm := by
    rcases hl l hm with h' | ⟨h', -⟩
    · exact (hI.issued l h').trans_le h.next
    · exact h'
  lease l hm run hr := by
    rcases hl l hm with h' | ⟨-, run', hr', hof⟩
    · have hnew : ¬sys.Allowed op (.acquire l.runId) := fun h => h.1.not_gt (hI.issued l h')
      obtain ⟨r, hr₀, hlater⟩ := Ledger.Steps.run_back h.steps hnew hr
      exact (hI.lease l h' r hr₀).later hlater
    · rw [hr] at hr'
      cases hr'
      exact hof

/-- **The step**: an operation keeps the invariant, and is some steps of the ledger. -/
theorem exec_spec (hI : sys.Inv) {op : Op} (h : op.exec env sys = .ok sys') :
    sys'.Inv ∧ Stores (sys.Allowed op) sys.store sys'.store := by
  have plain : ∀ op : Op, (do return ⟨← op.apply env sys.store, sys.leases⟩ : Except Err Sys) = .ok sys' →
      sys'.Inv ∧ Stores (sys.Allowed op) sys.store sys'.store := by
    intro op h
    obtain ⟨s', hs', h⟩ := Except.bind_eq_ok.1 h
    rw [← Except.pure_eq_ok.1 h]
    have hst : Stores (sys.Allowed op) sys.store s' :=
      apply_stores hI.stored trivial (fun _ => trivial) trivial (fun h => h) hs'
    exact ⟨hI.of_stores hst fun l hl => .inl hl, hst⟩
  cases op with
  | acquire filter =>
    obtain ⟨⟨s', lease⟩, hs', h⟩ := Except.bind_eq_ok.1 h
    rw [← Except.pure_eq_ok.1 h]
    obtain ⟨hst, hlease⟩ := acquire_spec (P := sys.Allowed (.acquire filter)) hI.stored hI.sound
      trivial (fun _ h => ⟨h, filter, rfl⟩) hs'
    refine ⟨hI.of_stores hst fun l hl => ?_, hst⟩
    rcases List.mem_append.1 hl with hl | hl
    · exact .inl hl
    · obtain ⟨-, run, e, goal, hlook, -, hof⟩ := hlease l (Option.mem_toList.1 hl)
      exact .inr ⟨(hst.stored.wf.run _ _ hlook).1, run, hlook, hof⟩
  | commit lease agentEnd =>
    obtain ⟨hmem, h⟩ := Except.require_bind_eq_ok.1 h
    obtain ⟨s', hs', h⟩ := Except.bind_eq_ok.1 h
    rw [← Except.pure_eq_ok.1 h]
    have hcomplete : sys.store.Completing lease agentEnd →
        sys.Completes (.commit lease agentEnd) lease.sessionId lease.runId := by
      rintro ⟨run, result, rfl, hr, ha, hrole⟩
      exact ⟨lease, result, run, rfl, hmem, rfl, rfl, hr, ha, hrole⟩
    have hst := commit_spec (P := sys.Allowed (.commit lease agentEnd)) hI.stored hI.sound hI.forwards
      (hI.lease lease hmem) trivial ⟨lease, agentEnd, rfl, rfl⟩ hcomplete
      (fun hnone => ⟨lease, agentEnd, rfl, hmem, rfl, hnone⟩) hs'
    exact ⟨hI.of_stores hst fun l hl => .inl (List.mem_of_mem_erase hl), hst⟩
  | _ => exact plain _ h

/-- The same, where an operation that raises changes nothing. -/
theorem next_stores (hI : sys.Inv) (a : Action) : (sys.next a).Inv ∧
    Stores (sys.Allowed a.op) sys.store (sys.next a).store := by
  unfold Sys.next
  cases h : a.op.exec a.env sys with
  | ok sys' => exact exec_spec hI h
  | error => exact ⟨hI, .refl hI.stored⟩

/-! ## Reachable states -/

/-- **The invariant of the store.** -/
theorem reachable_inv (h : storeSystem.Reachable sys) : sys.Inv := by
  refine h.of_step (P := Sys.Inv) ?_ ?_
  · rintro ⟨s, leases⟩ ⟨env, hs, rfl⟩
    obtain ⟨hst, hsound, hf⟩ := initNew_inv hs
    exact ⟨hst, hsound, hf, fun l hl => absurd hl List.not_mem_nil,
      fun l hl => absurd hl List.not_mem_nil⟩
  · rintro sys a _ - hI rfl
    exact (next_stores hI a).1

/-- The leases that are out have a record. -/
def Sys.Leased (sys : Sys) : Prop := ∀ l ∈ sys.leases, ∃ run,
  sys.store.dispatchRuns.lookup l.runId = some run

theorem exec_leases {op : Op} (h : op.exec env sys = .ok sys') : ∀ l ∈ sys'.leases,
    l ∈ sys.leases ∨ ∃ filter, sys.store.acquireDispatchLease env filter = .ok (sys'.store, some l) := by
  intro l hl
  have plain : ∀ op : Op, (do return ⟨← op.apply env sys.store, sys.leases⟩ : Except Err Sys) = .ok sys' →
      l ∈ sys.leases := by
    intro op h
    obtain ⟨s', -, h⟩ := Except.bind_eq_ok.1 h
    rw [← Except.pure_eq_ok.1 h] at hl
    exact hl
  cases op with
  | acquire filter =>
    obtain ⟨⟨s', lease⟩, hs', h⟩ := Except.bind_eq_ok.1 h
    rw [← Except.pure_eq_ok.1 h] at hl ⊢
    rcases List.mem_append.1 hl with hl | hl
    · exact .inl hl
    · rw [Option.mem_toList.1 hl] at hs'
      exact .inr ⟨filter, hs'⟩
  | commit lease agentEnd =>
    obtain ⟨-, h⟩ := Except.require_bind_eq_ok.1 h
    obtain ⟨s', -, h⟩ := Except.bind_eq_ok.1 h
    rw [← Except.pure_eq_ok.1 h] at hl
    exact .inl (List.mem_of_mem_erase hl)
  | _ => exact .inl (plain _ h)

/-- No record is ever lost. -/
theorem next_leased (hI : sys.Inv) (hl : sys.Leased) (a : Action) : (sys.next a).Leased := by
  unfold Sys.next
  cases h : a.op.exec a.env sys with
  | error => exact hl
  | ok sys' =>
    obtain ⟨-, hst⟩ := exec_spec hI h
    intro l hmem
    rcases exec_leases h l hmem with hold | ⟨filter, hacq⟩
    · obtain ⟨run, hr⟩ := hl l hold
      obtain ⟨run', hr', -⟩ := Ledger.Steps.run_forth hst.steps id hr
      exact ⟨run', hr'⟩
    · obtain ⟨-, run, -, -, hr, -⟩ := (acquire_spec (P := fun _ => True) hI.stored hI.sound trivial
        (fun _ _ => trivial) hacq).2 l rfl
      exact ⟨run, hr⟩

/-- What an operation does while every lease has its record: nothing is lost or requeued. -/
def Label.Orderly : Label → Prop
  | .lose => False
  | .requeue _ => False
  | _ => True

theorem Sys.Leased.orderly (hl : sys.Leased) {op : Op} : ∀ l, sys.Allowed op l → l.Orderly := by
  rintro l hal
  cases l with
  | lose => exact hal
  | requeue id =>
    obtain ⟨l, -, -, hm, -, hnone⟩ := hal
    obtain ⟨run, hr⟩ := hl l hm
    rw [hnone] at hr
    cases hr
  | _ => trivial

/-- **Leases are exclusive and windows fit**, whatever the operations do. -/
structure Sys.Safe (sys : Sys) : Prop where
  inv : sys.Inv
  leased : sys.Leased
  exclusive : sys.store.ledger.Exclusive
  windowed : sys.store.ledger.Windowed

theorem steps_safe {P : Label → Prop} {c c' : Ledger} (h : Ledger.Steps P c c')
    (hP : ∀ l, P l → l.Orderly) (hx : c.Exclusive) (hw : c.Windowed) :
    c'.Exclusive ∧ c'.Windowed :=
  h.invariant (I := fun c => c.Exclusive ∧ c.Windowed) ⟨hx, hw⟩ fun _ l _ hc hl hstep =>
    ⟨hstep.exclusive hc.1 fun id hid => (hid ▸ hP l hl : Label.Orderly (.requeue id)).elim,
      hstep.windowed hc.1 hc.2 (fun hid => (hid ▸ hP l hl : Label.Orderly .lose).elim)
        fun id hid => (hid ▸ hP l hl : Label.Orderly (.requeue id)).elim⟩

theorem Sys.Safe.next (h : sys.Safe) (a : Action) : (sys.next a).Safe := by
  obtain ⟨hI, hst⟩ := next_stores h.inv a
  obtain ⟨hx, hw⟩ := steps_safe hst.steps h.leased.orderly h.exclusive h.windowed
  exact ⟨hI, next_leased h.inv h.leased a, hx, hw⟩

theorem ledger_empty : Ledger.Exclusive (State.ledger {}) ∧ Ledger.Windowed (State.ledger {}) := by
  constructor
  · refine ⟨List.nodup_nil, ?_, ?_, ?_, ?_⟩
    · intro a ha; cases ha
    · intro a ha; cases ha
    · intro rid r rid' r' hr; cases hr.1
    · intro a ha; cases ha
  · refine ⟨fun rid r hr => ?_, fun e he => ?_, fun e he => ?_, fun e he => ?_, fun sid v role h => ?_⟩
    · cases hr.1
    · cases he
    · cases he
    · cases he
    · cases h

theorem initNew_safe {s : State} (h : State.initNew env = .ok s) : s.ledger.Exclusive ∧
    s.ledger.Windowed :=
  steps_safe (initNew_stores h).steps (fun _ hl => hl ▸ trivial) ledger_empty.1 ledger_empty.2

/-- **Every reachable state of the store is safe.** -/
theorem reachable_safe (h : storeSystem.Reachable sys) : sys.Safe := by
  refine h.of_step (P := Sys.Safe) ?_ ?_
  · rintro ⟨s, leases⟩ ⟨env, hs, rfl⟩
    obtain ⟨hst, hsound, hf⟩ := initNew_inv hs
    obtain ⟨hx, hw⟩ := initNew_safe hs
    exact ⟨⟨hst, hsound, hf, fun l hl => absurd hl List.not_mem_nil,
      fun l hl => absurd hl List.not_mem_nil⟩, fun l hl => absurd hl List.not_mem_nil, hx, hw⟩
  · rintro sys a _ - hS rfl
    exact hS.next a

/-! ## Loaded states -/

/-- A state that an operation works on: a reachable store has been loaded. -/
def State.Loaded (s : State) : Prop :=
  ∃ sys env, storeSystem.Reachable sys ∧ sys.store.load env = .ok s

theorem Sys.Safe.load {s : State} (h : sys.Safe) (hl : sys.store.load env = .ok s) :
    s.Intact ∧ s.ledger.Sound ∧ s.ledger.Exclusive ∧ s.ledger.Windowed := by
  have hm : Moves Label.Orderly sys.store s :=
    ((h.inv.stored.load trivial hl).effect).moves trivial
  obtain ⟨hx, hw⟩ := steps_safe hm.steps (fun _ h => h) h.exclusive h.windowed
  exact ⟨hm.intact h.inv.stored.good, hm.sound h.inv.sound, hx, hw⟩

/-- **What holds of every loaded state.** -/
theorem State.Loaded.safe {s : State} (h : s.Loaded) :
    s.Intact ∧ s.ledger.Sound ∧ s.ledger.Exclusive ∧ s.ledger.Windowed := by
  obtain ⟨sys, env, hr, hl⟩ := h
  exact (reachable_safe hr).load hl

/-! ## Runs of a new store -/

/-- The time `n` seconds into 2026, with every provider available. -/
def clock (n : Nat) : Env where
  time := seconds (1767225600 + (n % 86400 : Nat))
  providerIsAvailable _ := true
  from_min := by unfold minInstant seconds; omega
  to_max := by
    unfold maxInstant seconds dispatchLeaseRecoverySeconds agentExecutionTimeoutSeconds
    omega

def newStore : Sys := ⟨(State.initNew (clock 0)).toOption.getD {}, []⟩

/-- A value that is known to be there. -/
theorem ok_getD {x : Except Err State} (h : x.isOk) : x = .ok (x.toOption.getD {}) := by
  cases x with
  | error => cases h
  | ok s => rfl

theorem init_newStore : storeSystem.init newStore := ⟨clock 0, ok_getD (by decide +kernel), rfl⟩

theorem reachable_nexts (as : List Action) : storeSystem.Reachable (newStore.nexts as) := by
  obtain ⟨tr, hr⟩ := run_nexts newStore as
  exact ⟨newStore, tr, init_newStore, hr⟩

theorem reachable_restrict {C : Sys → Action → Prop} {as : List Action}
    (h : (storeSystem.restrict C).Reachable sys) (has : TransitionSystem.Meets Sys.next C sys as) :
    (storeSystem.restrict C).Reachable (sys.nexts as) := h.foldl_restrict (fun _ _ => rfl) has

/-- The lease that has been out for the longest time. -/
def Sys.firstLease (sys : Sys) : Lease :=
  sys.leases.headD ⟨0, "", 0, 0, .goalManager, "", "", 0, [], [], []⟩

/-- These operations, and then the end of the run of the first lease. -/
def thenCommit (as : List Action) (env : Env) (agentEnd : State.AgentEnd) : List Action :=
  as ++ [⟨env, .commit (newStore.nexts as).firstLease agentEnd⟩]

/-- The state that an operation works on after these. -/
def loadedAfter (as : List Action) (env : Env) : State :=
  ((newStore.nexts as).store.load env).toOption.getD {}

/-- The state after the reconciliation that an acquisition begins with. -/
def reconciledAfter (as : List Action) (env : Env) : State :=
  ((loadedAfter as env).reconcileDispatchLiveness env).1

theorem loaded_after {as : List Action} (h : ((newStore.nexts as).store.load env).isOk) :
    (loadedAfter as env).Loaded := ⟨newStore.nexts as, env, reachable_nexts as, ok_getD h⟩

/-- A Session with a Goal, and its GoalManager at work. -/
def started : List Action :=
  [⟨clock 1, .startGoalSession "a" "" ["root"] "A" "build it" "root"⟩, ⟨clock 2, .acquire none⟩]

/-- The runtime has restarted under its GoalManager. -/
def recovered : List Action := started ++ [⟨clock 3, .recordRuntimeRecovery ""⟩]

/-- What its GoalManager declares. -/
def declared (completionState : CompletionState) : List Action :=
  started ++ [⟨clock 3, .declareCompletion "a" completionState "done" "GoalManager"
    (some (newStore.nexts started).firstLease.runId) {}⟩]

/-- The GoalManager has finished its turn. -/
def finished (completionState : CompletionState) : List Action :=
  thenCommit (declared completionState) (clock 4) (.result ⟨"prompt", "output", "codex", ""⟩)

end Aize
