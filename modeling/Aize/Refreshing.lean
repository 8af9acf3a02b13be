/-
  The queue on the ledger: refreshing it, and the liveness reconciliation.

  `Moves` is some steps of the ledger between two states, of any kind. `moves_refresh`
  and `moves_reconcile` are the two operations; `coherent_of_sound` says that a sound
  ledger is what the reconciliation asks for.
-/
import Aize.Operations
import Aize.Liveness
import Aize.Sound

namespace Aize

/-! ## Unread entries -/

/-- The entries of a numbered log after a cursor. -/
theorem filter_seq_eq_drop {l : List LogEntry} : ∀ {n : Nat} (c : Nat), Numbered n l →
    (l.filter fun e => n + c < e.seq) = l.drop c := by
  induction l with
  | nil => simp
  | cons e l ih =>
    intro n c h
    obtain ⟨h₁, h₂⟩ := State.Numbered.of_append (l := [e]) h
    have he : e.seq = n + 1 := by simpa [Numbered] using h₁
    cases c with
    | zero =>
      rw [List.drop_zero]
      refine List.filter_eq_self.2 fun x hx => ?_
      have : x.seq ∈ List.range' (n + 1) (e :: l).length := h ▸ List.mem_map_of_mem hx
      have := (List.mem_range'_1.1 this).1
      simp only [Nat.add_zero, decide_eq_true_eq]
      omega
    | succ c =>
      rw [List.drop_succ_cons, List.filter_cons_of_neg (by simp [he]), ← ih (n := n + 1) c h₂]
      refine List.filter_congr fun x _ => ?_
      rw [show n + 1 + c = n + (c + 1) by omega]

namespace State

variable {run : Nat → Option DispatchRun} {P : Label → Prop} {s s' s₁ : State} {sid : String}
  {env : Env}

theorem sessionLogAfterCursor_eq (h : Numbered 0 (s.log sid)) (c : Nat) :
    s.sessionLogAfterCursor sid c = (s.log sid).drop c := by
  unfold sessionLogAfterCursor
  simpa using filter_seq_eq_drop c h

/-- **The window of a role**: everything after its cursor. -/
theorem window_of_fields (h : Numbered 0 (s.log sid)) {role : Role} {session : Session}
    (hs : s.sessions.lookup sid = some session) {f : RoleDispatchReadiness}
    (hf : s.readinessFieldsFromSessionLog sid role = some f) :
    f.fromLogSeq = session.roleCursors.get role + 1 ∧ f.fromLogSeq ≤ f.observedToSeq ∧
      f.observedToSeq = (s.log sid).length := by
  unfold readinessFieldsFromSessionLog at hf
  simp only [hs, Option.elim_some] at hf
  rw [sessionLogAfterCursor_eq h] at hf
  generalize hc : session.roleCursors.get role = c at hf ⊢
  unfold deriveRoleDispatchReadiness at hf
  dsimp only at hf
  by_cases hnil : ((s.log sid).drop c).filterMap (wakeReason role sid
      (s.activeWorkerRunForSession sid).isSome) = []
  · rw [if_pos hnil] at hf; cases hf
  rw [if_neg hnil] at hf
  cases hf
  have hlen : c < (s.log sid).length := by
    by_contra hle
    rw [List.drop_eq_nil_of_le (by omega)] at hnil
    exact hnil rfl
  have hseqs : ((s.log sid).drop c).map LogEntry.seq =
      List.range' (c + 1) ((s.log sid).length - c) := by
    rw [List.map_drop, h, List.drop_range']
    congr 1
    omega
  have hmin : (List.range' (c + 1) ((s.log sid).length - c)).min? = some (c + 1) := by
    rw [List.min?_eq_some_iff]
    refine ⟨List.mem_range'_1.2 (by omega), fun b hb => ?_⟩
    exact (List.mem_range'_1.1 hb).1
  have hmax : (List.range' (c + 1) ((s.log sid).length - c)).max? = some (s.log sid).length := by
    rw [List.max?_eq_some_iff]
    refine ⟨List.mem_range'_1.2 (by omega), fun b hb => ?_⟩
    have := (List.mem_range'_1.1 hb).2
    omega
  refine ⟨?_, ?_, ?_⟩ <;> simp only [hseqs, hmin, hmax, Option.getD_some]
  exact hlen

/-! ## Moves -/

/-- A well-formed state with a consistent book. -/
def Intact (s : State) : Prop := s.Good s.dispatchRuns.lookup

/-- Some steps of the ledger. -/
structure Moves (P : Label → Prop) (s s' : State) : Prop where
  steps : Ledger.Steps P s.ledger s'.ledger
  wf : s'.Wf
  next : s.nextId ≤ s'.nextId

namespace Moves

theorem refl (hw : s.Wf) : Moves P s s := ⟨.refl _, hw, le_rfl⟩

theorem trans (h₁ : Moves P s s₁) (h₂ : Moves P s₁ s') : Moves P s s' :=
  ⟨h₁.steps.trans h₂.steps, h₂.wf, h₁.next.trans h₂.next⟩

theorem intact (h : Moves P s s') (hi : s.Intact) : s'.Intact :=
  ⟨h.wf, Ledger.Steps.invariant (I := Ledger.Consistent) h.steps hi.book
    fun _ _ _ hc _ hs => hs.consistent hc⟩

theorem sound (h : Moves P s s') (hs : s.ledger.Sound) : s'.ledger.Sound :=
  Ledger.Steps.invariant (I := Ledger.Sound) h.steps hs fun _ _ _ hc _ hs => hs.sound hc

/-- What holds of each round of a loop holds of the loop. -/
theorem foldl {α : Type} {f : State → α → State} {l : List α}
    (hf : ∀ s, ∀ a ∈ l, s.Intact → Moves P s (f s a)) (hi : s.Intact) : Moves P s (l.foldl f s) :=
  List.foldlRecOn l f (motive := Moves P s) (.refl hi.wf) fun s₁ h₁ a ha =>
    h₁.trans (hf s₁ a ha (h₁.intact hi))

end Moves

theorem Effect.moves (h : Effect s.dispatchRuns.lookup P s s') (hP : P .plain) : Moves P s s' :=
  ⟨h.ledger hP, h.wf, h.next⟩

/-- One step of the ledger. -/
theorem Moves.of_step {l : Label} (hl : P l) (hs : Ledger.Step s.ledger l s'.ledger) (hw : s'.Wf)
    (hn : s.nextId ≤ s'.nextId) : Moves P s s' := ⟨.of_step hl hs, hw, hn⟩

/-! ## Waits that end -/

theorem view_modifyGoal_same {goalId : Nat} {goal : Goal} {f : Goal → Goal} (hw : s.Wf)
    (hc : s.currentGoalForSession sid = some (goalId, goal))
    (hf : ∀ g, (f g).archivedAt = g.archivedAt ∧ (f g).sessionId = g.sessionId ∧
      (f g).createdAt = g.createdAt)
    (hsame : (f goal).completionState = goal.completionState ∧
      (f goal).completionReason = goal.completionReason ∧ (f goal).body = goal.body) :
    (s.modifyGoal goalId f).view = s.view := by
  funext x
  rw [view_modifyGoal hw hc hf]
  split_ifs with hx
  · subst hx
    cases hv : s.view x with
    | none => rfl
    | some v =>
      obtain ⟨session, -, -, -, hcur⟩ := view_eq_some_iff.1 hv
      rw [hc] at hcur
      obtain ⟨active, cursors, g⟩ := v
      simp only at hcur
      simp only [Option.map_some, Option.some.injEq, SessionView.mk.injEq, true_and, hsame]
      exact hcur
  · rfl

/-- A wait ends: the Goal is told, and the log notes it. -/
theorem effect_endWait (hg : s.Good run) (hP : P .plain) {goalId : Nat} {goal : Goal}
    (hc : s.currentGoalForSession sid = some (goalId, goal)) (signalType body : String)
    (targetRoles : List Role) (actor createdAt : String) :
    Effect run P s ((s.modifyGoal goalId fun g => { g with waiting := none }).logSystemSignal sid
      signalType body targetRoles actor createdAt) := by
  obtain ⟨hgl, hgs⟩ := hg.wf.currentGoal.1 hc
  have hs : sid ∈ s.sessions := hgs ▸ (hg.wf.goal _ _ hgl).2.1
  have h₁ := (Work.start run hg.wf hs).modifyGoal hc (f := fun g => { g with waiting := none })
    fun _ => ⟨rfl, rfl, rfl⟩
  obtain ⟨es, h₂, hes⟩ := h₁.logSystemSignal (hg.book.numbered sid) signalType body targetRoles actor
    createdAt none .absent
  refine h₂.notes hP ?_ fun e he => LogEntry.isQuiet_of_signal (hes e (by simpa using he))
  have hview := view_modifyGoal_same (f := fun g => { g with waiting := none }) hg.wf hc
    (fun _ => ⟨rfl, rfl, rfl⟩) ⟨rfl, rfl, rfl⟩
  rw [← hview]
  exact view_congr sessions_append goals_append sid

theorem effect_expireGoalWaitingOf (hg : s.Good run) (hP : P .plain) (env : Env) (goalId : Nat) :
    Effect run P s (s.expireGoalWaitingOf env goalId) := by
  unfold expireGoalWaitingOf
  cases hgl : s.goals.lookup goalId with
  | none => exact .refl hg.wf
  | some goal =>
    have hc : s.currentGoalForSession goal.sessionId = some (goalId, goal) :=
      hg.wf.currentGoal.2 ⟨hgl, rfl⟩
    dsimp only
    split
    · split_ifs
      · split
        · exact effect_endWait hg hP hc _ _ _ _ _
        · exact .refl hg.wf
      · exact .refl hg.wf
    · exact .refl hg.wf

theorem effect_expireGoalWaiting (hg : s.Good run) (hP : P .plain) (env : Env) :
    Effect run P s (s.expireGoalWaiting env).1 := by
  unfold expireGoalWaiting
  refine List.foldlRecOn (s.currentGoals.map Prod.fst) _
    (motive := fun r : State × Bool => Effect run P s r.1) (.refl hg.wf) fun r hr goalId _ => ?_
  exact hr.trans (effect_expireGoalWaitingOf (hr.good hg) hP env goalId)

/-! ## Rebuilding the queue -/

theorem mem_queueBefore_of_acquired {e : Readiness} (he : e ∈ s.dispatchReadiness)
    (ha : e.status = .acquired) : e ∈ s.queueBefore.1 :=
  deduplicate_keeps (List.mem_filter.2 ⟨he, by simp [ha]⟩) (by simp [Readiness.isReady, ha])

theorem idsBelow_queueBefore (hw : s.Wf) : IdsBelow s.queueBefore := by
  have hsub : ∀ e ∈ s.queueBefore.1, e ∈ s.dispatchReadiness := fun e he =>
    (List.mem_filter.1 (mem_queueBefore he)).1
  refine ⟨?_, fun e he => hw.entry e (hsub e he)⟩
  obtain ⟨l, hperm, hsub'⟩ := deduplicate_subperm s.liveEntries
  refine (hperm.map Readiness.readinessId).nodup_iff.1 ?_
  exact ((hsub'.trans List.filter_sublist).map _).nodup hw.ids

/-- **A rebuilt queue is a refreshed queue of the ledger.** -/
theorem refreshed_queueAfter (hi : s.Intact) (env : Env) : s.ledger.Refreshed (s.queueAfter env).1 := by
  have hspec := rebuild_spec s env
  refine ⟨(hspec.ids (idsBelow_queueBefore hi.wf)).1, fun e he => ⟨?_, ?_⟩, fun e he ha => ?_,
    fun x hx y hy rx ry hk => ?_⟩
  · simpa [Readiness.live] using live_queueAfter e he
  · rcases hspec.mem e he with he | ⟨p, hp, hw⟩
    · exact .inl (List.mem_filter.1 (mem_queueBefore he)).1
    · obtain ⟨hready, hkey'⟩ := Readiness.readyFor_iff.1 hw.ready
      obtain ⟨f, hf, hfe⟩ := hw.fields
      obtain ⟨g, hg, hrefr, hgoal, hgs⟩ := mem_turns.1 hp
      obtain ⟨hne, hcur⟩ := mem_currentGoals.1 hg
      have hkey : e.key = p.key := hkey'
      refine .inr ⟨hready, ?_, fun rid r hr hk => ?_, fun e' he' ha hk => ?_, ?_⟩
      · -- the window
        obtain ⟨session, hsess, -⟩ : ∃ session, s.sessions.lookup g.2.sessionId = some session ∧
            session.active := by
          have := hrefr
          simp only [refreshable, Bool.and_eq_true] at this
          obtain ⟨-, h⟩ := this
          rw [Option.any_eq_true] at h
          exact h
        rw [← hgs] at hsess hcur
        have hn : Numbered 0 (s.log p.sessionId) := hi.book.numbered p.sessionId
        obtain ⟨h₁, h₂, h₃⟩ := window_of_fields hn hsess hf
        have hview : s.view p.sessionId = some ⟨session.active, session.roleCursors,
            some ⟨g.1, g.2.completionState, g.2.completionReason, g.2.body⟩⟩ := by
          rw [view, hsess, hcur]; rfl
        refine ⟨_, _, by rw [hkey]; exact hview, rfl, ?_, ?_, ?_, ?_⟩
        · rw [← hfe, ← hgoal]; rfl
        · rw [hkey, ← hfe]; exact h₁
        · rw [← hfe]; exact h₂
        · rw [hkey, ← hfe]; exact h₃.le
      · refine hw.idle (.inl (hasAcquiredRoleRun_iff.2 ⟨(rid, r), ?_, ?_, .inl ?_⟩))
        · exact mem_acquiredRuns.2 hr
        · exact (congrArg Prod.fst (hk.trans hkey) : r.sessionId = p.sessionId)
        · exact (congrArg Prod.snd (hk.trans hkey) : r.role = p.role)
      · refine hw.idle (.inr ⟨e', mem_queueBefore_of_acquired he' ha, by simp [Readiness.isAcquired, ha],
          hk.trans hkey⟩)
      · rcases hw.id with ⟨e', he', hr', hid⟩ | hid
        · exact .inl ⟨e', (List.mem_filter.1 (mem_queueBefore he')).1, (Readiness.readyFor_iff.1 hr').1,
            hid, (key_of_readyFor hr').trans hkey.symm⟩
        · exact .inr fun rid r hr hrid => absurd (hi.wf.run rid r hr).2.1
            (by rw [hrid]; exact not_lt_of_ge hid)
  · refine hspec.kept e (mem_queueBefore_of_acquired he ha) fun p _ hr => ?_
    have := (Readiness.readyFor_iff.1 hr).1
    rw [ha] at this
    cases this
  · rw [hspec.unique.eq hx hy (by simp [Readiness.isReady, rx]) (by simp [Readiness.isReady, ry]) hk]

theorem wf_withQueue (hw : s.Wf) {q : List Readiness × Nat} (h : IdsBelow q) (hq : s.nextId ≤ q.2) :
    (s.withQueue q).Wf where
  blank := hw.blank
  goal id g hg := by
    obtain ⟨h₁, h₂, h₃⟩ := hw.goal id g hg
    exact ⟨h₁, h₂, h₃.trans_le hq⟩
  unique := hw.unique
  run id r hr := by
    obtain ⟨h₁, h₂, h₃⟩ := hw.run id r hr
    exact ⟨h₁.trans_le hq, h₂.trans_le hq, h₃⟩
  entry := h.2
  ids := h.1
  log sid e he := (hw.log sid e he).mono hq
  edge := hw.edge
  home := hw.home

theorem moves_rebuild (hi : s.Intact) (hP : P .plain) (env : Env) :
    Moves P s (s.rebuildReadiness env) := by
  have hspec := rebuild_spec s env
  rw [rebuild_eq]
  exact .of_step hP (.refresh (refreshed_queueAfter hi env))
    (wf_withQueue hi.wf (hspec.ids (idsBelow_queueBefore hi.wf)) hspec.le) hspec.le

/-- **A refresh.** -/
theorem moves_refresh (hi : s.Intact) (hP : P .plain) (env : Env) :
    Moves P s (s.refreshDispatchReadiness env).1 := by
  rw [refresh_fst]
  have h₁ := (effect_expireGoalWaiting (P := P) hi hP env).moves hP
  exact h₁.trans (moves_rebuild (h₁.intact hi) hP env)

/-! ## Runs that lose their leases -/

theorem ledger_modifyRun {rid : Nat} {r : DispatchRun} {f : DispatchRun → DispatchRun}
    (h : s.dispatchRuns.lookup rid = some r) : (s.modifyRun rid f).ledger = s.ledger.setRun rid (f r) := by
  have hrun : (s.modifyRun rid f).dispatchRuns.lookup =
      Function.update s.dispatchRuns.lookup rid (some (f r)) := by
    funext x
    change (Dict.modify rid f s.dispatchRuns).lookup x = _
    rw [Dict.lookup_modify, Function.update_apply, h]
    rfl
  unfold ledger Ledger.setRun
  rw [hrun]
  rfl

theorem Wf.modifyRun (hw : s.Wf) (rid : Nat) {f : DispatchRun → DispatchRun}
    (hf : ∀ r, (f r).readinessId = r.readinessId ∧ ((f r).leaseState = .acquired →
      r.leaseState = .acquired ∧ (f r).role = r.role ∧ (f r).currentPhase = r.currentPhase)) :
    (s.modifyRun rid f).Wf where
  blank := hw.blank
  goal := hw.goal
  unique := hw.unique
  run := by
    refine Dict.forall_lookup_modify hw.run fun r hr => ?_
    obtain ⟨h₁, h₂, h₃⟩ := hw.run rid r hr
    refine ⟨h₁, by rw [(hf r).1]; exact h₂, fun ha => ?_⟩
    obtain ⟨hacq, hrole, hphase⟩ := (hf r).2 ha
    rw [hrole, hphase]
    exact h₃ hacq
  entry := hw.entry
  ids := hw.ids
  log := hw.log
  edge := hw.edge
  home := hw.home

theorem moves_interruptRun (hw : s.Wf) (hP : P .plain) {rid : Nat} {r : DispatchRun}
    (h : Holding s.dispatchRuns.lookup rid r) : Moves P s (s.interruptRun rid) := by
  refine .of_step hP ?_ (hw.modifyRun rid fun r => ⟨rfl, fun ha => by cases ha⟩) le_rfl
  unfold interruptRun
  rw [ledger_modifyRun h.1]
  exact .interrupt h

/-- Distinct acquired runs are interrupted, one after the other. -/
theorem moves_interruptRuns (hw : s.Wf) (hP : P .plain) {l : List (Nat × DispatchRun)}
    (hl : (l.map Prod.fst).Nodup) (hacq : ∀ r ∈ l, r ∈ s.acquiredRuns) :
    Moves P s (l.foldl (fun s r => s.interruptRun r.1) s) := by
  induction l generalizing s with
  | nil => exact .refl hw
  | cons r l ih =>
    rw [List.map_cons, List.nodup_cons] at hl
    have h₁ := moves_interruptRun hw hP (mem_acquiredRuns.1 (hacq r List.mem_cons_self))
    refine h₁.trans (ih h₁.wf hl.2 fun x hx => ?_)
    have := (mem_acquiredRuns_interrupt (l := [r]) (s := s) (r := x)).2
      ⟨hacq x (List.mem_cons_of_mem _ hx), fun hm => hl.1 ?_⟩
    · exact this
    · rw [List.map_singleton, List.mem_singleton] at hm
      rw [← hm]
      exact List.mem_map_of_mem hx

theorem nodup_acquiredRuns (s : State) : (s.acquiredRuns.map Prod.fst).Nodup := by
  have hsub : (s.acquiredRuns.map Prod.fst).Sublist s.dispatchRuns.keys := by
    have : s.dispatchRuns.keys = (s.dispatchRuns.entries.map fun e => (e.1, e.2)).map Prod.fst := by
      simp [AList.keys, List.keys]
    rw [this]
    exact List.filter_sublist.map _
  exact hsub.nodup s.dispatchRuns.keys_nodup

theorem moves_interruptAcquired (hw : s.Wf) (hP : P .plain) (p : Nat × DispatchRun → Bool) :
    Moves P s ((s.acquiredRuns.filter p).foldl (fun s r => s.interruptRun r.1) s) :=
  moves_interruptRuns hw hP ((List.filter_sublist.map _).nodup s.nodup_acquiredRuns)
    fun _ hr => (List.mem_filter.1 hr).1

/-- Entries that leave the queue. -/
theorem moves_retire (hw : s.Wf) (hP : P .plain) (p : Readiness → Bool) {st : ReadinessStatus}
    (hst : st.dead) : Moves P s (s.modifyReadiness p fun e => { e with status := st }) :=
  .of_step hP (.retire (.of_modify _ p hst)) (hw.modifyReadiness p fun _ => rfl) le_rfl

/-! ## The reconciliation -/

theorem Moves.of_foldl_effect {α : Type} {f : State → α → State} (hi : s.Intact) (hP : P .plain)
    {l : List α} (hf : ∀ s, ∀ a ∈ l, s.Intact → Effect s.dispatchRuns.lookup P s (f s a)) :
    Moves P s (l.foldl f s) := .foldl (fun s a ha hi => (hf s a ha hi).moves hP) hi

theorem moves_signalRepaired (hi : s.Intact) (hP : P .plain) (repaired : List String) :
    Moves P s (s.signalRepaired env repaired) := by
  refine .of_foldl_effect hi hP fun s sid _ hi => ?_
  split_ifs with hs
  · exact effect_logSystemSignal hi hs hP _ _ _ _ _ _ _
  · exact .refl hi.wf

theorem moves_signalGaps (hi : s.Intact) (hP : P .plain) {gaps : List (Nat × Goal)}
    (hgaps : ∀ g ∈ gaps, g.2.sessionId ∈ s.sessions) : Moves P s (s.signalGaps env gaps) := by
  unfold signalGaps
  -- the signals leave the Sessions alone
  induction gaps generalizing s with
  | nil => exact .refl hi.wf
  | cons g gaps ih =>
    have h₁ := (effect_logSystemSignal (P := P) hi (hgaps g List.mem_cons_self) hP
      "SessionLivenessRecovery" sessionLivenessRecoveryBody [.goalManager] "dispatcher"
      env.utcNow.text none .absent).moves hP
    refine h₁.trans (ih (h₁.intact hi) fun x hx => ?_)
    unfold logSystemSignal
    rw [sessions_append]
    exact hgaps x (List.mem_cons_of_mem _ hx)

theorem moves_repair (hi : s.Intact) (hP : P .plain) (env : Env) :
    Moves P s (s.repairOwnership env) := by
  unfold repairOwnership
  have h₁ : Moves P s (s.interruptExpired env.now) := moves_interruptAcquired hi.wf hP _
  have h₂ := h₁.trans (@moves_retire P _ h₁.wf hP
    ((s.interruptExpired env.now).orphaned s.acquiredRuns) .stale rfl)
  exact h₂.trans (moves_signalRepaired (h₂.intact hi) hP _)

/-- **The reconciliation.** -/
theorem moves_reconcile (hi : s.Intact) (hP : P .plain) (env : Env) :
    Moves P s (s.reconcileDispatchLiveness env).1 := by
  rw [reconcile_fst]
  have h₁ := moves_repair hi hP env
  have h₂ := h₁.trans (moves_refresh (h₁.intact hi) hP env)
  have hi₂ := h₂.intact hi
  dsimp only
  split_ifs
  · exact h₂
  · have hgaps : ∀ g ∈ ((s.repairOwnership env).refreshDispatchReadiness env).1.livenessGaps,
        g.2.sessionId ∈ ((s.repairOwnership env).refreshDispatchReadiness env).1.sessions := by
      intro g hg
      obtain ⟨-, hcur⟩ := mem_currentGoals.1 (List.mem_filter.1 hg).1
      obtain ⟨hgl, -⟩ := hi₂.wf.currentGoal.1 hcur
      exact (hi₂.wf.goal _ _ hgl).2.1
    have h₃ := h₂.trans (@moves_signalGaps _ _ env hi₂ hP _ hgaps)
    exact h₃.trans (moves_refresh (h₃.intact hi) hP env)

/-- A sound ledger is what the reconciliation asks for. -/
theorem coherent_of_sound (hi : s.Intact) (hs : s.ledger.Sound) : s.Coherent where
  blank := hi.wf.blank
  run_goal r hr := by
    obtain ⟨hl, -⟩ := mem_acquiredRuns.1 hr
    obtain ⟨⟨v, g, hv, hg, hid⟩, -⟩ := hs.run r.1 r.2 hl
    obtain ⟨session, -, -, -, hcur⟩ := view_eq_some_iff.1 hv
    rw [hg] at hcur
    obtain ⟨⟨goalId, goal⟩, hc, rfl⟩ := Option.map_eq_some_iff.1 hcur
    exact ⟨goal, by rw [hc, ← hid]⟩
  run_entry r hr e he _ hid := by
    obtain ⟨hl, -⟩ := mem_acquiredRuns.1 hr
    have hk := hs.held e he r.1 r.2 hl hid
    have hsid : r.2.sessionId = e.sessionId := congrArg Prod.fst hk
    refine ⟨hsid, ?_⟩
    have h₁ := (hs.run r.1 r.2 hl).1
    rw [hsid] at h₁
    exact h₁.unique (hs.entry e he).1
  cursor sid session hsess := by
    obtain ⟨v, hv⟩ := exists_view (Dict.mem_iff_lookup.2 ⟨session, hsess⟩ : sid ∈ s.sessions)
    have hcur : v.cursors = session.roleCursors := by
      rw [view, hsess] at hv
      cases hv
      rfl
    have := hs.cursor sid v .goalManager hv
    rw [hcur] at this
    rw [latestSessionLogSeq_eq (hi.book.numbered sid)]
    exact this
  signals := hi.wf.signalsFresh

end State
end Aize
