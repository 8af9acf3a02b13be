/-
  The dispatch queue as a projection of the logs.

  `forgetReady` drops every entry that no run holds, and `items` is the work that the policy
  may choose. A refresh brings back the items of every Goal that it rebuilds, and nothing
  else: the queue can be rebuilt if and only if no entry of a waiting Goal is left over in
  it (`items_refresh_eq_iff`).
-/
import Aize.Waits
import Aize.Choosing

namespace Aize

/-! ## Items -/

/-- What an entry offers to the dispatcher: its role, its window, and why. -/
structure Item where
  sessionId : String
  role : Role
  fromLogSeq : Nat
  observedToSeq : Nat
  wakeReasons : List WakeReason
  availableAfter : Stamp

def Readiness.item (e : Readiness) : Item :=
  ⟨e.sessionId, e.role, e.fromLogSeq, e.observedToSeq, e.wakeReasons, e.availableAfter⟩

namespace State

variable {s u : State} {env : Env} {p : Turn} {e : Readiness}

/-- The items that the policy may choose. -/
def items (s : State) (env : Env) : Set Item := {i | ∃ e, s.Selectable env e ∧ e.item = i}

/-- The queue without the entries that no run holds. -/
def forgetReady (s : State) : State :=
  { s with dispatchReadiness := s.dispatchReadiness.filter Readiness.isAcquired }

theorem available_congr {e' : Readiness} {now : Int} (h : e'.item = e.item) :
    readinessIsAvailable e' now = readinessIsAvailable e now := by
  unfold readinessIsAvailable
  rw [show e'.availableAfter = e.availableAfter from congrArg Item.availableAfter h]

theorem key_of_item {e' : Readiness} (h : e'.item = e.item) : e'.key = e.key :=
  Prod.ext (congrArg Item.sessionId h) (congrArg Item.role h)

/-! ## Ending waits under another queue -/

/-- The state with other entries in the queue. -/
def withEntries (s : State) (q : List Readiness) : State := { s with dispatchReadiness := q }

theorem append_withEntries (s : State) (q : List Readiness) (sid : String) (body : LogBody)
    (createdAt : String) (key : Option EventKey) :
    (s.withEntries q).appendSessionLogEntry sid body createdAt key =
      (s.appendSessionLogEntry sid body createdAt key).withEntries q := by
  unfold appendSessionLogEntry
  split_ifs with h₁ h₂ h₂
  · rfl
  · exact absurd h₁ h₂
  · exact absurd h₂ h₁
  · rfl

theorem expireGoalWaitingOf_withEntries (s : State) (q : List Readiness) (goalId : Nat) :
    (s.withEntries q).expireGoalWaitingOf env goalId = (s.expireGoalWaitingOf env goalId).withEntries q := by
  have hreason : ∀ sid waiting, (s.withEntries q).goalWaitingWakeReason env sid waiting =
      s.goalWaitingWakeReason env sid waiting := fun _ _ => rfl
  unfold expireGoalWaitingOf
  rw [show (s.withEntries q).goals = s.goals from rfl,
    show (s.withEntries q).sessions = s.sessions from rfl]
  cases s.goals.lookup goalId with
  | none => rfl
  | some goal =>
    dsimp only
    cases goal.waiting with
    | none => rfl
    | some waiting =>
      cases s.sessions.lookup goal.sessionId with
      | none => rfl
      | some session =>
        dsimp only
        rw [hreason]
        split_ifs
        · cases s.goalWaitingWakeReason env goal.sessionId waiting with
          | none => rfl
          | some reason => exact append_withEntries (s.modifyGoal goalId endWait).newId.2 q _ _ _ _
        · rfl

theorem expireGoalWaiting_withEntries (s : State) (q : List Readiness) :
    ((s.withEntries q).expireGoalWaiting env).1 = ((s.expireGoalWaiting env).1).withEntries q := by
  unfold expireGoalWaiting
  have hcur : (s.withEntries q).currentGoals = s.currentGoals := rfl
  rw [hcur]
  suffices ∀ (l : List Nat) (s : State) (b b' : Bool),
      (l.foldl (fun r goalId => (r.1.expireGoalWaitingOf env goalId,
        r.2 || r.1.wakesWaiting env goalId)) (s.withEntries q, b)).1 =
      (l.foldl (fun r goalId => (r.1.expireGoalWaitingOf env goalId,
        r.2 || r.1.wakesWaiting env goalId)) (s, b')).1.withEntries q from this _ s false false
  intro l
  induction l with
  | nil => exact fun _ _ _ => rfl
  | cons x l ih =>
    intro s b b'
    rw [List.foldl_cons, List.foldl_cons]
    dsimp only
    rw [expireGoalWaitingOf_withEntries]
    exact ih _ _ _

/-! ## What a refresh writes -/

/-- No key is both ready and acquired, and no two entries are ready for one key. -/
structure Tidy (s : State) : Prop where
  unique : KeyUnique s.dispatchReadiness
  apart : ∀ a ∈ s.dispatchReadiness, ∀ b ∈ s.dispatchReadiness, a.isReady → b.isAcquired → a.key ≠ b.key

theorem Tidy.queueBefore (h : s.Tidy) : s.queueBefore.1 = s.liveEntries :=
  deduplicate_eq (h.unique.sublist List.filter_sublist)

theorem mem_liveEntries : e ∈ s.liveEntries ↔ e ∈ s.dispatchReadiness ∧ (e.isReady ∨ e.isAcquired) := by
  simp [liveEntries, Readiness.isReady, Readiness.isAcquired]

/-- The role of a turn is busy in a tidy queue if a run or an entry is acquired for it. -/
theorem busy_iff (h : s.Tidy) : roleBusy s s.queueBefore.1 p ↔
    s.hasAcquiredRoleRun p.sessionId p.role ∨ ∃ e ∈ s.dispatchReadiness, e.isAcquired ∧ e.key = p.key := by
  unfold roleBusy
  rw [h.queueBefore]
  refine or_congr_right (exists_congr fun e => ?_)
  rw [mem_liveEntries]
  tauto

theorem selectable_rebuild : (u.rebuildReadiness env).Selectable env e ↔
    e ∈ (u.queueAfter env).1 ∧ e.status = .ready ∧ readinessIsAvailable e env.time ∧
      (∃ goal, u.goals.lookup e.goalId = some goal ∧ goal.completionState = .incomplete) ∧
      (∃ session, u.sessions.lookup e.sessionId = some session ∧ session.active) ∧
      ∀ r ∈ u.acquiredRuns, r.2.key ≠ e.key := by
  rw [rebuild_eq]
  exact ⟨fun ⟨h₁, h₂, h₃, h₄, h₅, h₆⟩ => ⟨h₁, h₂, h₃, h₄, h₅, h₆⟩,
    fun ⟨h₁, h₂, h₃, h₄, h₅, h₆⟩ => ⟨h₁, h₂, h₃, h₄, h₅, h₆⟩⟩

/-- An acquired run of a role keeps it from being chosen. -/
theorem hasRun_iff (hw : s.Wf) {sid : String} {role : Role} :
    s.hasAcquiredRoleRun sid role ↔ ∃ r ∈ s.acquiredRuns, r.2.key = (sid, role) := by
  rw [hasAcquiredRoleRun_iff]
  refine exists_congr fun r => and_congr_right fun hr => ?_
  obtain ⟨hl, ha⟩ := mem_acquiredRuns.1 hr
  rw [(hw.run r.1 r.2 hl).2.2 ha]
  simp [DispatchRun.key]

/-- **A selectable entry of a turn** is the one that the turn writes. -/
theorem selectable_turn (hw : u.Wf) (ht : u.Tidy) (hp : p ∈ u.turns)
    (h : (u.rebuildReadiness env).Selectable env e) (hk : e.key = p.key) :
    ¬roleBusy u u.queueBefore.1 p ∧ ∃ f, u.readinessFieldsFromSessionLog p.sessionId p.role = some f ∧
      e.item = (newReadiness env 0 p.goalId p.sessionId p.role f).item := by
  obtain ⟨hm, hr, -, -, -, hidle⟩ := selectable_rebuild.1 h
  have hspec := rebuild_spec u env
  have hfor : e.readyFor p.sessionId p.role := Readiness.readyFor_iff.2 ⟨hr, hk⟩
  have hnb : ¬roleBusy u u.queueBefore.1 p := by
    intro hb
    rcases (busy_iff ht).1 hb with hrun | ⟨x, hx, hacq, hxk⟩
    · obtain ⟨r, hr, hrk⟩ := (hasRun_iff hw).1 hrun
      exact hidle r hr (hrk.trans hk.symm)
    · rcases hspec.mem e hm with hq | ⟨p', -, hwr⟩
      · have hq' := (List.mem_filter.1 (mem_queueBefore hq)).1
        exact ht.apart e hq' x hx (readyFor_isReady hfor) hacq (hk.trans hxk.symm)
      · have hpk : p'.key = p.key := (key_of_readyFor hwr.ready).symm.trans hk
        refine hwr.idle ((busy_iff ht).2 (.inr ⟨x, hx, hacq, hxk.trans hpk.symm⟩))
  refine ⟨hnb, ?_⟩
  have hset := (hspec.settled p hp).resolve_left fun hb => hnb (hb.congr
    (hspec.filter _ fun _ _ x hx => isAcquired_of_readyFor hx))
  cases hf : u.readinessFieldsFromSessionLog p.sessionId p.role with
  | none =>
    rw [hf] at hset
    exact absurd hfor (hset e hm)
  | some f =>
    rw [hf] at hset
    refine ⟨f, rfl, ?_⟩
    rw [← hset.2 e hm hfor]
    unfold Readiness.item newReadiness refreshedEntry
    rw [show e.sessionId = p.sessionId from congrArg Prod.fst hk,
      show e.role = p.role from congrArg Prod.snd hk]

/-- **What a turn writes is selectable**, once it is available. -/
theorem turn_selectable (hw : u.Wf) (hp : p ∈ u.turns) (hnb : ¬roleBusy u u.queueBefore.1 p)
    {f : RoleDispatchReadiness} (hf : u.readinessFieldsFromSessionLog p.sessionId p.role = some f)
    (hav : readinessIsAvailable (newReadiness env 0 p.goalId p.sessionId p.role f) env.time) :
    ∃ e, (u.rebuildReadiness env).Selectable env e ∧
      e.item = (newReadiness env 0 p.goalId p.sessionId p.role f).item := by
  have hspec := rebuild_spec u env
  have hset := (hspec.settled p hp).resolve_left fun hb => hnb (hb.congr
    (hspec.filter _ fun _ _ x hx => isAcquired_of_readyFor hx))
  rw [hf] at hset
  obtain ⟨⟨e, he, hfor⟩, hall⟩ := hset
  obtain ⟨hr, hk⟩ := Readiness.readyFor_iff.1 hfor
  have hfe := hall e he hfor
  have hitem : e.item = (newReadiness env 0 p.goalId p.sessionId p.role f).item := by
    rw [← hfe]
    unfold Readiness.item newReadiness refreshedEntry
    rw [show e.sessionId = p.sessionId from congrArg Prod.fst hk,
      show e.role = p.role from congrArg Prod.snd hk]
  obtain ⟨g, hg, hrefr, hgoal, hsid⟩ := mem_turns.1 hp
  simp only [refreshable, Bool.and_eq_true, decide_eq_true_eq] at hrefr
  obtain ⟨⟨⟨-, hinc⟩, -⟩, hact⟩ := hrefr
  obtain ⟨session, hs, hact⟩ := Option.any_eq_true _ _ |>.1 hact
  refine ⟨e, selectable_rebuild.2 ⟨he, hr, (available_congr hitem).trans hav, ?_, ?_, ?_⟩, hitem⟩
  · have hgid : e.goalId = g.1 := by rw [← hfe, ← hgoal]; rfl
    rw [hgid]
    exact ⟨g.2, (currentGoalForSession_eq_some (mem_currentGoals.1 hg).2).1, hinc⟩
  · have hes : e.sessionId = g.2.sessionId := (congrArg Prod.fst hk).trans hsid
    rw [hes]
    exact ⟨session, hs, hact⟩
  · exact fun r hr' hrk => hnb (.inl ((hasRun_iff hw).2 ⟨r, hr', hrk.trans hk⟩))

/-! ## The projection -/

theorem key_of_turn_item {f : RoleDispatchReadiness} {id : Nat}
    (h : e.item = (newReadiness env id p.goalId p.sessionId p.role f).item) : e.key = p.key :=
  key_of_item h

/-- **Two tidy states that differ in their ready entries only** have the same items for each
    turn. -/
theorem items_of_turn {q : List Readiness} (hw : u.Wf) (ht : u.Tidy) (hw' : (u.withEntries q).Wf)
    (hb : roleBusy u u.queueBefore.1 p ↔ roleBusy (u.withEntries q) (u.withEntries q).queueBefore.1 p)
    (hp : p ∈ u.turns) (h : (u.rebuildReadiness env).Selectable env e) (hk : e.key = p.key) :
    ∃ e', ((u.withEntries q).rebuildReadiness env).Selectable env e' ∧ e'.item = e.item := by
  obtain ⟨hnb, f, hf, hitem⟩ := selectable_turn hw ht hp h hk
  have hav : readinessIsAvailable (newReadiness env 0 p.goalId p.sessionId p.role f) env.time := by
    rw [← available_congr hitem]
    exact h.available
  obtain ⟨e', he', hitem'⟩ := turn_selectable (u := u.withEntries q) hw' hp (fun hb' => hnb (hb.2 hb'))
    hf hav
  exact ⟨e', he', hitem'.trans hitem.symm⟩

/-- An entry that a refresh leaves in the queue though it would not put it there: its Goal
    waits. -/
structure Leftover (s : State) (env : Env) (e : Readiness) : Prop where
  mem : e ∈ s.dispatchReadiness
  ready : e.status = .ready
  available : readinessIsAvailable e env.time
  goal : ∃ goal, s.goals.lookup e.goalId = some goal ∧ goal.completionState = .incomplete ∧
    goal.waiting.isSome
  asleep : s.wakesWaiting env e.goalId = false
  session : ∃ session, s.sessions.lookup e.sessionId = some session ∧ session.active
  idle : ∀ r ∈ s.acquiredRuns, r.2.key ≠ e.key

/-- **A selectable entry that no turn writes** was there, and its Goal still waits. -/
theorem leftover_of_selectable (hi : s.Intact) (hs : s.ledger.Sound)
    (h : (s.refreshDispatchReadiness env).1.Selectable env e)
    (hk : ∀ p ∈ (s.expireGoalWaiting env).1.turns, e.key ≠ p.key) : s.Leftover env e := by
  obtain ⟨hwoken, hasleep⟩ := woken_expireGoalWaiting s env
  rw [refresh_fst] at h
  obtain ⟨hm, hr, hav, ⟨goal, hg, hinc⟩, ⟨session, hsess, hact⟩, hidle⟩ := selectable_rebuild.1 h
  have hmem : e ∈ s.dispatchReadiness := by
    rcases (rebuild_spec _ env).mem e hm with hq | ⟨p, hp, hwr⟩
    · rw [← hwoken.dispatchReadiness]
      exact (List.mem_filter.1 (mem_queueBefore hq)).1
    · exact absurd (key_of_readyFor hwr.ready) (hk p hp)
  obtain ⟨g, hl, hsid, hcur⟩ := goal_of_entry hi.wf hs hmem
  have hne : g.sessionId ≠ "" := fun hb => hi.wf.blank (hb ▸ (hi.wf.goal _ _ hl).2.1)
  have hlist : e.goalId ∈ s.currentGoals.map Prod.fst :=
    List.mem_map.2 ⟨(e.goalId, g), mem_currentGoals.2 ⟨hne, hsid ▸ hcur⟩, rfl⟩
  have hlook := @lookup_expireGoalWaiting _ env _ hlist
  rw [hg, hl] at hlook
  -- the Goal is not rebuilt, though it is incomplete and its Session active: it waits
  have hwait : goal.waiting ≠ none := by
    intro hnone
    obtain ⟨F, hcur', hcases⟩ := hwoken.currentGoal e.sessionId
    rw [hcur, Option.map_some] at hcur'
    have hgoal : F e.goalId g = goal := by
      have := (currentGoalForSession_eq_some hcur').1
      rw [hg] at this
      exact (Option.some.inj this).symm
    rw [hgoal] at hcur'
    obtain ⟨-, harch, hsid'⟩ := currentGoalForSession_eq_some hcur'
    dsimp only at harch hsid'
    refine hk ⟨e.goalId, e.sessionId, e.role⟩ (mem_turns.2 ⟨(e.goalId, goal), ?_, ?_, rfl, ?_⟩) rfl
    · refine mem_currentGoals.2 ⟨fun hb => hne ?_, hsid' ▸ hcur'⟩
      rw [hsid, ← hsid', hb]
    · have hany : ((s.expireGoalWaiting env).1.sessions.lookup goal.sessionId).any Session.active := by
        rw [hsid', hsess]
        exact hact
      simp [refreshable, harch, hinc, hnone, hany]
    · exact hsid'.symm
  cases hwake : s.wakesWaiting env e.goalId with
  | true =>
    rw [if_pos hwake] at hlook
    rw [Option.some.inj hlook] at hwait
    exact absurd rfl hwait
  | false =>
    rw [if_neg (by simp [hwake])] at hlook
    cases hlook
    exact ⟨hmem, hr, hav, ⟨goal, hl, hinc, Option.isSome_iff_ne_none.2 hwait⟩, hwake,
      ⟨session, hwoken.sessions ▸ hsess, hact⟩, hwoken.acquiredRuns ▸ hidle⟩

/-- **An entry that is left over** stays, and no turn writes one for its key. -/
theorem Leftover.selectable (hi : s.Intact) (hs : s.ledger.Sound) (h : s.Leftover env e)
    (ht : s.Tidy) : (s.refreshDispatchReadiness env).1.Selectable env e ∧
      ∀ p ∈ (s.expireGoalWaiting env).1.turns, e.key ≠ p.key := by
  obtain ⟨hwoken, -⟩ := woken_expireGoalWaiting s env
  obtain ⟨g, hl, hsid, hcur⟩ := goal_of_entry hi.wf hs h.mem
  obtain ⟨goal, hl', hinc, hwait⟩ := h.goal
  rw [hl] at hl'
  cases hl'
  have hne : g.sessionId ≠ "" := fun hb => hi.wf.blank (hb ▸ (hi.wf.goal _ _ hl).2.1)
  have hlist : e.goalId ∈ s.currentGoals.map Prod.fst :=
    List.mem_map.2 ⟨(e.goalId, g), mem_currentGoals.2 ⟨hne, hsid ▸ hcur⟩, rfl⟩
  have hlook := @lookup_expireGoalWaiting _ env _ hlist
  rw [if_neg (by simp [h.asleep]), hl] at hlook
  have hkeys : ∀ p ∈ (s.expireGoalWaiting env).1.turns, e.key ≠ p.key := by
    intro p hp hk
    obtain ⟨g', hg', hrefr, -, hsid'⟩ := mem_turns.1 hp
    obtain ⟨F, hcur', -⟩ := hwoken.currentGoal e.sessionId
    rw [hcur, Option.map_some] at hcur'
    have hg'cur := (mem_currentGoals.1 hg').2
    rw [← hsid', ← show e.sessionId = p.sessionId from congrArg Prod.fst hk, hcur'] at hg'cur
    have hl' := (currentGoalForSession_eq_some hcur').1
    rw [hlook] at hl'
    cases hg'cur
    simp only [refreshable, Bool.and_eq_true, Option.isNone_iff_eq_none] at hrefr
    have hnone := hrefr.1.2
    have hsame : F e.goalId g = g := (Option.some.inj hl').symm
    rw [hsame] at hnone
    simp [hnone] at hwait
  refine ⟨?_, hkeys⟩
  rw [refresh_fst]
  refine selectable_rebuild.2 ⟨?_, h.ready, h.available, ⟨g, hlook, hinc⟩, hwoken.sessions ▸ h.session,
    hwoken.acquiredRuns ▸ h.idle⟩
  have ht' : (s.expireGoalWaiting env).1.Tidy := ⟨hwoken.dispatchReadiness ▸ ht.unique,
    hwoken.dispatchReadiness ▸ ht.apart⟩
  refine (rebuild_spec _ env).kept e ?_ fun p hp hfor => absurd (key_of_readyFor hfor) (hkeys p hp)
  rw [ht'.queueBefore, mem_liveEntries, hwoken.dispatchReadiness]
  exact ⟨h.mem, .inl (by simp [Readiness.isReady, h.ready])⟩

/-- An exclusive queue is tidy. -/
theorem tidy_of_exclusive (h : s.ledger.Exclusive) : s.Tidy := by
  refine ⟨h.keyUnique, fun a ha b hb hra hab hk => ?_⟩
  have hra' : a.status = .ready := by simpa [Readiness.isReady] using hra
  have hab' : b.status = .acquired := by simpa [Readiness.isAcquired] using hab
  have hid := h.live a ha b hb (by simp [Readiness.live, hra']) (by simp [Readiness.live, hab']) hk
  rw [h.eq_of_id ha hb hid, hab'] at hra'
  cases hra'

/-- **The queue is a projection of the logs, but for what waiting Goals have left over**: if
    the entries that no run holds are forgotten, a refresh brings back the same work, if and
    only if nothing is left over. -/
theorem items_refresh_eq_iff (h : s.Loaded) (env : Env) :
    (s.forgetReady.refreshDispatchReadiness env).1.items env =
        (s.refreshDispatchReadiness env).1.items env ↔
      ¬∃ e, s.Leftover env e := by
  obtain ⟨hi, hs, hx, -⟩ := h.safe
  have ht := tidy_of_exclusive hx
  have hwoken := (woken_expireGoalWaiting s env).1
  set q := s.dispatchReadiness.filter Readiness.isAcquired with hq
  have hforget : s.forgetReady = s.withEntries q := rfl
  have hw : (s.expireGoalWaiting env).1.Wf := (effect_expireGoalWaiting (P := fun _ => True) hi trivial env).wf
  have hqueue := hwoken.dispatchReadiness
  rw [hforget, refresh_fst, expireGoalWaiting_withEntries]
  have hleft := fun e => @leftover_of_selectable _ env e hi hs
  have hkept := fun e (he : s.Leftover env e) => he.selectable hi hs ht
  rw [refresh_fst] at hleft hkept ⊢
  generalize (s.expireGoalWaiting env).1 = u at hw hqueue hleft hkept ⊢
  have htu : u.Tidy := ⟨hqueue ▸ ht.unique, hqueue ▸ ht.apart⟩
  have hacq : ∀ e ∈ q, e.isAcquired := fun e he => (List.mem_filter.1 he).2
  have htq : (u.withEntries q).Tidy := by
    refine ⟨?_, fun a ha b hb hra => ?_⟩
    · unfold KeyUnique
      rw [show (u.withEntries q).dispatchReadiness.filter Readiness.isReady = [] from
        List.filter_eq_nil_iff.2 fun e he hr => ?_]
      · exact List.nodup_nil
      · have := hacq e he
        simp only [Readiness.isReady, Readiness.isAcquired, decide_eq_true_eq] at hr this
        rw [hr] at this
        cases this
    · have := hacq a ha
      simp only [Readiness.isReady, Readiness.isAcquired, decide_eq_true_eq] at hra this
      rw [hra] at this
      cases this
  have hwq : (u.withEntries q).Wf := by
    refine wf_withQueue hw (q := (q, u.nextId)) ⟨?_, fun e he => ?_⟩ le_rfl
    · exact (List.filter_sublist.map _).nodup hi.wf.ids
    · exact hw.entry e (hqueue ▸ (List.mem_filter.1 he).1)
  have hbusy : ∀ p, roleBusy u u.queueBefore.1 p ↔
      roleBusy (u.withEntries q) (u.withEntries q).queueBefore.1 p := by
    intro p
    rw [busy_iff htu, busy_iff htq, hqueue]
    refine or_congr_right (exists_congr fun e => ?_)
    rw [show (u.withEntries q).dispatchReadiness = q from rfl, hq, List.mem_filter]
    tauto
  have hturns : (u.withEntries q).turns = u.turns := turns_congr rfl rfl
  -- without ready entries, every selectable entry is one that a turn has written
  have hwritten : ∀ e, ((u.withEntries q).rebuildReadiness env).Selectable env e →
      ∃ p ∈ u.turns, e.key = p.key := by
    intro e he
    obtain ⟨hm, hr, -⟩ := selectable_rebuild.1 he
    rcases (rebuild_spec _ env).mem e hm with hq' | ⟨p, hp, hwr⟩
    · have := hacq e (List.mem_filter.1 (mem_queueBefore hq')).1
      simp only [Readiness.isAcquired, decide_eq_true_eq] at this
      rw [hr] at this
      cases this
    · exact ⟨p, hturns ▸ hp, key_of_readyFor hwr.ready⟩
  constructor
  · rintro heq ⟨e, he⟩
    obtain ⟨hsel, hkeys⟩ := hkept e he
    have hitem : e.item ∈ (u.rebuildReadiness env).items env := ⟨e, hsel, rfl⟩
    rw [← heq] at hitem
    obtain ⟨e', he', hitem'⟩ := hitem
    obtain ⟨p, hp, hk⟩ := hwritten e' he'
    exact hkeys p hp ((key_of_item hitem').symm.trans hk)
  · intro hnone
    ext i
    constructor
    · rintro ⟨e, he, rfl⟩
      obtain ⟨p, hp, hk⟩ := hwritten e he
      exact items_of_turn (u := u.withEntries q) (q := u.dispatchReadiness) hwq htq hw (hbusy p).symm
        (hturns ▸ hp) he hk
    · rintro ⟨e, he, rfl⟩
      by_cases hk : ∃ p ∈ u.turns, e.key = p.key
      · obtain ⟨p, hp, hk⟩ := hk
        exact items_of_turn hw htu hwq (hbusy p) hp he hk
      · push Not at hk
        exact absurd ⟨e, hleft e he hk⟩ hnone

/-! ## An entry that is left over -/

/-- Another Lot refreshes the queue between a Worker request and the wait that follows it. -/
def queuedThenWaits : List Action :=
  thenCommit (requested ++ [⟨clock 4, .acquire (some "root")⟩,
    ⟨clock 5, .declareWaiting "a" { kind := "event", eventName := "done" } "GoalManager"
      (some (newStore.nexts started).firstLease.runId) "wait for the Worker"⟩])
    (clock 6) (.result ⟨"prompt", "output", "codex", ""⟩)

/-- **The queue is not rebuilt**: the entry of a waiting Goal is work that a refresh does
    not bring back. -/
theorem items_refresh_ne : ∃ s : State, s.Loaded ∧ ∃ env,
    (s.forgetReady.refreshDispatchReadiness env).1.items env ≠
      (s.refreshDispatchReadiness env).1.items env := by
  have hall : ((newStore.nexts queuedThenWaits).store.load (clock 7)).isOk ∧
      (∃ e ∈ ((loadedAfter queuedThenWaits (clock 7)).refreshDispatchReadiness
          (clock 7)).1.dispatchReadiness, e.role = .workerAgent ∧
        ((loadedAfter queuedThenWaits (clock 7)).refreshDispatchReadiness (clock 7)).1.Selectable
          (clock 7) e) ∧
      ∀ e ∈ ((loadedAfter queuedThenWaits (clock 7)).forgetReady.refreshDispatchReadiness
        (clock 7)).1.dispatchReadiness, e.role ≠ .workerAgent := by
    decide +kernel
  obtain ⟨hok, ⟨e, -, hrole, hsel⟩, hnone⟩ := hall
  refine ⟨_, loaded_after hok, clock 7, fun heq => ?_⟩
  have hitem : e.item ∈ ((loadedAfter queuedThenWaits (clock 7)).refreshDispatchReadiness
      (clock 7)).1.items (clock 7) := ⟨e, hsel, rfl⟩
  rw [← heq] at hitem
  obtain ⟨e', he', hi⟩ := hitem
  exact hnone e' he'.mem ((congrArg Item.role hi).trans hrole)

/-- A ready GoalManager whose entry is forgotten and comes back. -/
theorem items_refresh_eq_iff_ready :
    let s := loadedAfter (started.take 1 ++ [⟨clock 2, .acquire (some "root")⟩]) (clock 3)
    s.dispatchReadiness ≠ [] ∧ (s.forgetReady.refreshDispatchReadiness (clock 3)).1.items (clock 3) =
      (s.refreshDispatchReadiness (clock 3)).1.items (clock 3) := by
  intro s
  have hall : ((newStore.nexts (started.take 1 ++ [⟨clock 2, .acquire (some "root")⟩])).store.load
      (clock 3)).isOk ∧ s.dispatchReadiness ≠ [] ∧
      ∀ e ∈ s.dispatchReadiness, ∀ goal ∈ s.goals.lookup e.goalId, goal.waiting.isNone := by
    decide +kernel
  obtain ⟨hok, hne, hwait⟩ := hall
  refine ⟨hne, (items_refresh_eq_iff (loaded_after hok) (clock 3)).2 ?_⟩
  rintro ⟨e, he⟩
  obtain ⟨goal, hg, -, hw⟩ := he.goal
  have hnone := hwait e he.mem goal (Option.mem_def.2 hg)
  rw [Option.isNone_iff_eq_none.1 hnone] at hw
  cases hw

end State
end Aize
