/-
  Who a Session is started for.

  `Guarded acts b s` says of a transaction that began in `b`: each Session of a Unit that it
  has made, and each Session that it has touched, is there on behalf of a user who may start
  Sessions of that Unit. `guarded_start` is one launch, whether it succeeds or raises;
  `guarded_batch` a batch, whose rounds share one state.
-/
import Aize.Building

namespace Aize

/-- What a launch reads of a Unit, besides its Session. -/
def UnitRecord.gate (unit : UnitRecord) : String × List String :=
  (unit.ownerAccount, unit.spawnGroups)

namespace State

variable {acts : String → String → Prop} {b t s s₁ s' : State} {env : Env}
  {sid unitId createdAt x : String}

/-! ## What is touched -/

/-- Whether a Session is active. -/
def activeFlag (s : State) (sid : String) : Option Bool :=
  (s.sessions.lookup sid).map Session.active

/-- The log of a Session has grown, or it has been activated. -/
def Touched (s s' : State) (sid : String) : Prop :=
  s'.log sid ≠ s.log sid ∨ s'.activeFlag sid ≠ s.activeFlag sid

/-- Only the Session `sid` is touched. -/
structure TouchesOnly (sid : String) (s s' : State) : Prop where
  only : ∀ x, s.Touched s' x → x = sid

/-- No Session is touched. -/
structure TouchesNone (s s' : State) : Prop where
  none : ∀ x, ¬s.Touched s' x

theorem Touched.trans (h : s.Touched s' x) (s₁ : State) : s.Touched s₁ x ∨ s₁.Touched s' x := by
  by_contra hno
  simp only [Touched, not_or, not_not] at h hno
  rcases h with h | h
  · exact h (hno.2.1.trans hno.1.1)
  · exact h (hno.2.2.trans hno.1.2)

namespace TouchesOnly

theorem trans (h₁ : TouchesOnly sid s s₁) (h₂ : TouchesOnly sid s₁ s') : TouchesOnly sid s s' :=
  ⟨fun x h => (h.trans s₁).elim (h₁.only x) (h₂.only x)⟩

theorem of_none (h : TouchesNone s s') : TouchesOnly sid s s' :=
  ⟨fun x hx => absurd hx (h.none x)⟩

theorem modifySession (s : State) (sid : String) (f : Session → Session) :
    TouchesOnly sid s (s.modifySession sid f) := by
  refine ⟨?_⟩
  rintro x (h | h)
  · exact absurd rfl h
  · by_contra hx
    refine h ?_
    unfold activeFlag State.modifySession
    dsimp only
    rw [Dict.lookup_modify_ne _ _ hx]

theorem append (s : State) (sid : String) (body : LogBody) (createdAt : String)
    (eventKey : Option EventKey) :
    TouchesOnly sid s (s.appendSessionLogEntry sid body createdAt eventKey) := by
  refine ⟨?_⟩
  rintro x (h | h)
  · by_contra hx
    rw [log_append, if_neg hx, List.append_nil] at h
    exact h rfl
  · unfold activeFlag at h
    rw [sessions_append] at h
    exact absurd rfl h

end TouchesOnly

theorem TouchesNone.of_fields (hs : s'.sessions = s.sessions) (hp : s'.persisted = s.persisted)
    (hq : s'.pending = s.pending) : TouchesNone s s' := by
  refine ⟨?_⟩
  rintro x (h | h)
  · refine h ?_
    unfold State.log persistedLog pendingLog
    rw [hp, hq]
  · refine h ?_
    unfold activeFlag
    rw [hs]

theorem touches_newId (s : State) : TouchesNone s s.newId.2 := .of_fields rfl rfl rfl

theorem touches_signal (s : State) (sid signalType body : String) (targetRoles : List Role)
    (actor createdAt : String) : TouchesOnly sid s
      (s.logSystemSignal sid signalType body targetRoles actor createdAt) :=
  .trans (.of_none (touches_newId s)) (.append ..)

theorem touches_createGoal (s : State) (sid body createdBy createdAt : String) :
    TouchesNone s (s.createGoal sid body createdBy createdAt).1 := .of_fields rfl rfl rfl

/-- A Goal is made incomplete: its Session is touched. -/
theorem touches_incomplete {goal : Goal} (hg : goal.sessionId = sid) (s : State) (goalId : Nat)
    (reason actor : String) (runId : Option Nat) (now : String) : TouchesOnly sid s
      (s.setGoalCompletionState goalId goal .incomplete reason actor runId now) := by
  subst hg
  unfold setGoalCompletionState applyGoalCompletionState logGoalStateTransition
  dsimp only
  rw [if_neg (by simp)]
  have hgoal : TouchesNone s (s.modifyGoal goalId fun g =>
      { g with completionState := .incomplete, completionReason := reason }) :=
    .of_fields rfl rfl rfl
  split_ifs
  · exact .trans (.of_none hgoal) (.modifySession ..)
  · exact .trans (.trans (.of_none hgoal) (.modifySession ..)) (.append ..)

theorem touches_message {fromEndpoint toEndpoint createdAt : String} {payload : Payload}
    {r : State × Message}
    (h : s.appendSessionMessage sid fromEndpoint toEndpoint payload createdAt = .ok r) :
    TouchesOnly sid s r.1 := by
  unfold appendSessionMessage at h
  split_ifs at h
  cases h
  exact .trans (.trans (.of_none (touches_newId s)) (.append ..)) (.modifySession ..)

theorem touches_link {p c : String} (h : s.linkSessionsInState p c = .ok s') : TouchesNone s s' := by
  obtain ⟨-, -, -, rfl | rfl⟩ := linkSessions_cases h <;> exact .of_fields rfl rfl rfl

theorem touches_save (s : State) : TouchesNone s s.save := by
  refine ⟨?_⟩
  rintro x (h | h)
  · rw [log_save] at h
    exact h rfl
  · exact h rfl

/-! ## On whose behalf -/

/-- The user is in one of the groups. -/
def Member (s : State) (user : String) (groups : List String) : Prop :=
  ∃ g ∈ (s.users.lookup user).elim [] User.groups, g ∈ groups

/-- Somebody acts for the Unit who may start its Sessions. -/
def Passes (acts : String → String → Prop) (b : State) (unitId : String) : Prop :=
  ∃ user, acts unitId user ∧ ∀ unit, b.units.lookup unitId = some unit →
    unit.spawnGroups = [] ∨ b.Member user unit.spawnGroups

/-- The Session of a Unit that may be started. -/
def Startable (acts : String → String → Prop) (b : State) (sid : String) : Prop :=
  ∃ unitId unit, b.units.lookup unitId = some unit ∧ unit.singletonSessionId = sid ∧
    Passes acts b unitId

/-- The one Session of a Unit exists. -/
structure Linked (s : State) : Prop where
  linked : ∀ id unit, s.units.lookup id = some unit →
    unit.singletonSessionId = "" ∨ unit.singletonSessionId ∈ s.sessions

/-- Every Session is the one Session of at most one Unit. -/
structure Sole (s : State) : Prop extends Linked s where
  unique : ∀ id id' unit unit', s.units.lookup id = some unit → s.units.lookup id' = some unit' →
    unit.singletonSessionId = unit'.singletonSessionId → unit.singletonSessionId ≠ "" → id = id'

theorem Linked.same (h : s.Linked) (hs : SameTenants s s') : s'.Linked where
  linked id unit hu := by
    obtain ⟨unit₀, hu₀, hk⟩ := hs.unit_before hu
    rw [hk.singleton, hs.mem_sessions]
    exact h.linked id unit₀ hu₀

theorem Sole.same (h : s.Sole) (hs : SameTenants s s') : s'.Sole where
  toLinked := h.toLinked.same hs
  unique id id' unit unit' hu hu' he hne := by
    obtain ⟨unit₀, hu₀, hk⟩ := hs.unit_before hu
    obtain ⟨unit₁, hu₁, hk'⟩ := hs.unit_before hu'
    rw [hk.singleton] at he hne
    rw [hk'.singleton] at he
    exact h.unique id id' unit₀ unit₁ hu₀ hu₁ he hne

theorem mem_start (h : x ∈ s.sessions ∨ x = sid) :
    x ∈ ((s.insertSession sid unitId createdAt).recordSingletonSession sid unitId).sessions := by
  rw [mem_sessions_iff, post_start]
  split_ifs with hx
  · exact ⟨_, rfl⟩
  · exact mem_sessions_iff.1 (h.resolve_right hx)

/-- The Session of the Unit that a new Session is started for is the new one. -/
theorem Linked.start (h : s.Linked) :
    ((s.insertSession sid unitId createdAt).recordSingletonSession sid unitId).Linked where
  linked id unit hu := by
    rw [units_start] at hu
    obtain ⟨unit₀, hu₀, rfl⟩ := Option.map_eq_some_iff.1 hu
    split_ifs
    · exact .inr (mem_start (.inr rfl))
    · exact (h.linked id unit₀ hu₀).imp_right fun hmem => mem_start (.inl hmem)

/-- A new Session is the Session of the Unit that it is started for, and of no other. -/
theorem Sole.start (h : s.Sole) (hnew : sid ∉ s.sessions) (hne : strip sid ≠ "") :
    ((s.insertSession sid unitId createdAt).recordSingletonSession sid unitId).Sole where
  toLinked := h.toLinked.start
  unique id id' unit unit' hu hu' he hsing := by
    have hold : ∀ {id unit}, s.units.lookup id = some unit → unit.singletonSessionId ≠ sid := by
      rintro x u hx rfl
      rcases h.linked x u hx with hblank | hmem
      · exact hne (by rw [hblank]; decide)
      · exact hnew hmem
    rw [units_start] at hu hu'
    obtain ⟨unit₀, hu₀, rfl⟩ := Option.map_eq_some_iff.1 hu
    obtain ⟨unit₁, hu₁, rfl⟩ := Option.map_eq_some_iff.1 hu'
    split_ifs at he hsing with h₁ h₂ h₂
    · exact h₁.1.trans h₂.1.symm
    · exact absurd he.symm (hold hu₁)
    · exact absurd he (hold hu₀)
    · exact h.unique id id' unit₀ unit₁ hu₀ hu₁ he hsing

/-- **A transaction that starts Sessions on behalf of users who may do so.** -/
structure Guarded (acts : String → String → Prop) (b s : State) : Prop where
  users : ∀ n, s.users.lookup n = b.users.lookup n
  gate : ∀ id, (s.units.lookup id).map UnitRecord.gate = (b.units.lookup id).map UnitRecord.gate
  singleton : ∀ id unit, s.units.lookup id = some unit → unit.singletonSessionId ∈ b.sessions →
    ∃ unit₀, b.units.lookup id = some unit₀ ∧
      unit₀.singletonSessionId = unit.singletonSessionId
  links : b.Linked → s.Linked
  sole : b.Sole → s.Sole
  kept : ∀ id ∈ b.sessions, id ∈ s.sessions
  post : ∀ id p, id ∉ b.sessions → s.post id = some p → p.unitId = "" ∨ Passes acts b p.unitId
  touched : ∀ id ∈ b.sessions, b.Touched s id → Startable acts b id

namespace Guarded

theorem refl (acts : String → String → Prop) (b : State) : Guarded acts b b where
  users _ := rfl
  gate _ := rfl
  singleton _ unit hu _ := ⟨unit, hu, rfl⟩
  links h := h
  sole h := h
  kept _ hid := hid
  post _ p hid hp := absurd (mem_sessions_iff.2 ⟨p, hp⟩) hid
  touched _ _ h := h.elim (absurd rfl) (absurd rfl)

/-- The tenants are the same, and what is touched may be started. -/
theorem same (h : Guarded acts b s) (hs : SameTenants s s')
    (ht : ∀ id ∈ b.sessions, s.Touched s' id → Startable acts b id) : Guarded acts b s' where
  users n := (hs.users n).trans (h.users n)
  gate id := by
    rw [← h.gate id]
    have hu := hs.unit id
    cases hl : s.units.lookup id with
    | none =>
      rw [hl] at hu
      cases hu' : s'.units.lookup id with
      | none => rfl
      | some unit' => rw [hu'] at hu; cases hu
    | some unit =>
      obtain ⟨unit', hu', hk⟩ := hs.unit_after hl
      rw [hu', Option.map_some, Option.map_some, UnitRecord.gate, UnitRecord.gate, hk.owner,
        hk.groups]
  singleton id unit' hu' hmem := by
    obtain ⟨unit, hu, hk⟩ := hs.unit_before hu'
    rw [hk.singleton] at hmem ⊢
    exact h.singleton id unit hu hmem
  links hb := (h.links hb).same hs
  sole hb := (h.sole hb).same hs
  kept id hid := by
    rw [hs.mem_sessions]
    exact h.kept id hid
  post id p hid hp := h.post id p hid (by rw [← hs.post]; exact hp)
  touched id hid hto := (hto.trans s).elim (h.touched id hid) (ht id hid)

theorem same_none (h : Guarded acts b s) (hs : SameTenants s s') (ht : TouchesNone s s') :
    Guarded acts b s' := h.same hs fun id _ hto => absurd hto (ht.none id)

/-- One Session is touched, which may be started or is new. -/
theorem routine (h : Guarded acts b s) (hs : Routine s s') (ht : TouchesOnly sid s s')
    (hsid : sid ∈ b.sessions → Startable acts b sid) : Guarded acts b s' :=
  h.same hs.toSameTenants fun id hid hto => by
    obtain rfl := ht.only id hto
    exact hsid hid

theorem save (h : Guarded acts b s) : Guarded acts b s.save :=
  h.same_none (routine_save s).toSameTenants (touches_save s)

/-- Who passes the checks of a launch may start Sessions of the Unit. -/
theorem passes (h : Guarded acts b s) {trigger : Trigger} {createdBy : String} {y : PUnit.{1}}
    (hacts : acts unitId createdBy)
    (hcheck : s.checkUnitActivation unitId trigger createdBy = .ok y) :
    unitId = "" ∨ Passes acts b unitId := by
  unfold checkUnitActivation at hcheck
  split_ifs at hcheck with hblank
  · exact .inl hblank
  · refine .inr ⟨createdBy, hacts, fun unit hunit => ?_⟩
    have hgate := h.gate unitId
    rw [hunit] at hgate
    obtain ⟨unit', hunit', hg⟩ := Option.map_eq_some_iff.1 hgate
    rw [hunit'] at hcheck
    dsimp only at hcheck
    obtain ⟨-, hcheck⟩ := Except.require_bind_eq_ok.1 hcheck
    obtain ⟨-, hcheck⟩ := Except.require_bind_eq_ok.1 hcheck
    have hmember := Except.require_eq_ok.1 hcheck
    rw [show unit'.spawnGroups = unit.spawnGroups from congrArg Prod.snd hg, h.users] at hmember
    exact hmember

/-- The existing Session of a singleton Unit. -/
theorem startable (h : Guarded acts b s) (hpass : unitId = "" ∨ Passes acts b unitId)
    (hblank : "" ∉ b.units)
    (hsing : (s.units.lookup unitId).bind s.singletonSession? = some sid) (hsid : sid ∈ b.sessions) :
    Startable acts b sid := by
  obtain ⟨unit, hunit, hs⟩ := Option.bind_eq_some_iff.1 hsing
  unfold singletonSession? at hs
  split_ifs at hs
  obtain rfl := Option.some.inj hs
  obtain ⟨unit₀, hunit₀, hs₀⟩ := h.singleton unitId unit hunit hsid
  refine ⟨unitId, unit₀, hunit₀, hs₀, hpass.resolve_left ?_⟩
  rintro rfl
  exact hblank (Dict.mem_iff_lookup.2 ⟨unit₀, hunit₀⟩)

/-- A new Session. -/
theorem start (h : Guarded acts b s) (hnew : sid ∉ s.sessions) (hne : strip sid ≠ "")
    (hpass : unitId = "" ∨ Passes acts b unitId) : Guarded acts b
      ((s.insertSession sid unitId createdAt).recordSingletonSession sid unitId) where
  users n := by rw [users_start]; exact h.users n
  gate id := by
    rw [units_start, ← h.gate id, Option.map_map]
    congr 1
    funext unit
    dsimp only [Function.comp_apply]
    split_ifs <;> rfl
  singleton id unit hu hmem := by
    rw [units_start] at hu
    obtain ⟨unit₀, hu₀, rfl⟩ := Option.map_eq_some_iff.1 hu
    split_ifs at hmem ⊢
    · exact absurd (h.kept _ hmem) hnew
    · exact h.singleton id unit₀ hu₀ hmem
  links hb := (h.links hb).start
  sole hb := (h.sole hb).start hnew hne
  kept id hid := mem_start (.inl (h.kept id hid))
  post id p hid hp := by
    rw [post_start] at hp
    split_ifs at hp
    · cases hp
      exact hpass
    · exact h.post id p hid hp
  touched id hid hto := by
    have hne : id ≠ sid := fun he => hnew (he ▸ h.kept id hid)
    refine (hto.trans s).elim (h.touched id hid) fun hto => absurd hto ?_
    unfold recordSingletonSession
    split_ifs <;> rintro (ht | ht)
    · exact ht rfl
    · refine ht ?_
      unfold activeFlag State.modifySession insertSession modifyUnit
      dsimp only
      rw [Dict.lookup_modify_ne _ _ hne, AList.lookup_insert_ne hne]
    · exact ht rfl
    · refine ht ?_
      unfold activeFlag insertSession
      dsimp only
      rw [AList.lookup_insert_ne hne]

end Guarded

/-! ## Launches -/

section
variable {parents : List String} {label body createdBy : String} {trigger : Trigger}

/-- The existing Session of a singleton Unit is activated, or an error stops this on the
    way. -/
theorem guarded_activate (h : Guarded acts b s)
    (hsid : sid ∈ b.sessions → Startable acts b sid) : Guarded acts b (leftBy
      (s.activateSingletonUnitSession env unitId sid parents body createdBy createdAt trigger)) := by
  unfold activateSingletonUnitSession
  dsimp only
  have hactive : Guarded acts b (s.modifySession sid fun session =>
      { session with active := true, updatedAt := createdAt }) :=
    h.routine (routine_modifySession s sid fun _ => ⟨rfl, rfl⟩) (.modifySession ..) hsid
  refine leftBy_linkParents (P := Guarded acts b) (fun p _ s₁ s₂ hl h =>
    h.same_none (same_link hl) (touches_link hl)) hactive fun s₂ h₂ => ?_
  cases hc : s₂.currentGoalForSession sid with
  | none =>
    dsimp only [leftBy, pure, Except.pure]
    refine h₂.routine ?_ ?_ hsid
    · exact ((routine_createGoal ..).trans (routine_signal ..)).trans (routine_setState ..)
    · have hgoal : (s₂.createGoal sid body createdBy createdAt).2.2.sessionId = sid := rfl
      exact .trans (.trans (.of_none (touches_createGoal ..)) (touches_signal ..))
        (touches_incomplete hgoal ..)
  | some g =>
    obtain ⟨goalId, goal⟩ := g
    obtain ⟨-, -, hgoal⟩ := currentGoalForSession_eq_some hc
    dsimp only [leftBy, pure, Except.pure]
    refine h₂.routine ?_ ?_ hsid
    · exact ((routine_modifyGoal ..).trans (routine_signal ..)).trans (routine_setState ..)
    · have hmod : TouchesNone s₂ (s₂.modifyGoal goalId fun g => { g with body := body }) :=
        .of_fields rfl rfl rfl
      exact .trans (.trans (.of_none hmod) (touches_signal ..)) (touches_incomplete hgoal ..)

/-- **`_start_goal_session`**: what it leaves behind, whether it succeeds or raises. -/
theorem guarded_start (h : Guarded acts b s) (hblank : "" ∉ b.units)
    (hacts : acts (strip unitId) createdBy)
    (hname : strip sid ≠ "" ∨ ∃ r, s.startGoalSessionInState env sid unitId parents label body
      createdBy createdAt trigger = .ok r) : Guarded acts b (leftBy
      (s.startGoalSessionInState env sid unitId parents label body createdBy createdAt trigger)) := by
  unfold startGoalSessionInState at hname ⊢
  dsimp only at hname ⊢
  generalize (if strip body = "" then strip label else strip body) = body at hname ⊢
  cases hsing : (s.units.lookup (strip unitId)).bind s.singletonSession? with
  | some existing =>
    exact leftBy_check (P := Guarded acts b) h fun _ _ => leftBy_check h fun _ hact =>
      leftBy_check h fun _ _ => guarded_activate h (h.startable (h.passes hacts hact) hblank hsing)
  | none =>
    rw [hsing] at hname
    have hne : strip sid ≠ "" := by
      rcases hname with hne | ⟨r, hr⟩
      · exact hne
      obtain ⟨-, -, hr⟩ := check_bind_ok.1 hr
      obtain ⟨-, -, hr⟩ := check_bind_ok.1 hr
      obtain ⟨-, -, hr⟩ := check_bind_ok.1 hr
      obtain ⟨-, -, hr⟩ := check_bind_ok.1 hr
      obtain ⟨⟨⟩, hstrip, -⟩ := check_bind_ok.1 hr
      exact Except.require_eq_ok.1 hstrip
    refine leftBy_check (P := Guarded acts b) h fun _ _ => leftBy_check h fun _ hact =>
      leftBy_check h fun ⟨⟩ hnew => leftBy_check h fun _ _ => ?_
    have hpass := h.passes hacts hact
    have hnew := Except.require_eq_ok.1 hnew
    have hnamed : ∀ s : State, check s (Except.require (strip sid ≠ "")
        (.storeError "session_id is required for workspace creation")) = .ok ⟨⟩ := by
      intro s
      rw [Except.require, if_pos hne]
      rfl
    rw [hnamed, Except.ok_bind]
    refine leftBy_linkParents (P := Guarded acts b) (fun p _ s₁ s₂ hl h =>
      h.same_none (same_link hl) (touches_link hl)) (h.start hnew hne hpass) fun s₂ h₂ => ?_
    dsimp only [leftBy, pure, Except.pure]
    refine h₂.routine ?_ ?_ fun hsid =>
      absurd (h.kept sid hsid) hnew
    · exact (routine_createGoal ..).trans (routine_setState ..)
    · have hgoal : (s₂.createGoal sid body createdBy createdAt).2.2.sessionId = sid := rfl
      exact .trans (.of_none (touches_createGoal ..)) (touches_incomplete hgoal ..)

/-- A Goal that is made incomplete stays with its Session. -/
theorem goal_incomplete {goalId : Nat}
    (h : ∃ g, s.goals.lookup goalId = some g ∧ g.sessionId = x) (goal : Goal)
    (reason actor : String) (runId : Option Nat) (now : String) : ∃ g',
      (s.setGoalCompletionState goalId goal .incomplete reason actor runId now).goals.lookup goalId =
        some g' ∧ g'.sessionId = x := by
  obtain ⟨g, hg, hx⟩ := h
  unfold setGoalCompletionState
  dsimp only
  rw [if_neg (by simp), goals_applyGoalCompletionState, State.modifyGoal, Dict.lookup_modify_self, hg]
  exact ⟨_, rfl, hx⟩

/-- **What a launch returns**: the Session that it has made, or the one that the Unit had, and
    a Goal of it. -/
theorem started_cases {started : Started}
    (h : s.startGoalSessionInState env sid unitId parents label body createdBy createdAt trigger =
      .ok (s', started)) :
    sid ∉ s.sessions ∧ (started.sessionId = sid ∨
      (s.units.lookup (strip unitId)).bind s.singletonSession? = some started.sessionId ∧
        s.checkUnitActivation (strip unitId) trigger createdBy = .ok PUnit.unit.{1}) ∧
    ∃ goal, s'.goals.lookup started.goalId = some goal ∧ goal.sessionId = started.sessionId := by
  unfold startGoalSessionInState at h
  dsimp only at h
  generalize (if strip body = "" then strip label else strip body) = body at h
  obtain ⟨-, -, h⟩ := check_bind_ok.1 h
  obtain ⟨⟨⟩, hact, h⟩ := check_bind_ok.1 h
  obtain ⟨⟨⟩, hnew, h⟩ := check_bind_ok.1 h
  refine ⟨Except.require_eq_ok.1 hnew, ?_⟩
  cases hsing : (s.units.lookup (strip unitId)).bind s.singletonSession? with
  | some existing =>
    rw [hsing] at h
    unfold activateSingletonUnitSession at h
    obtain ⟨s₂, -, h⟩ := Except.bind_eq_ok.1 h
    cases hc : s₂.currentGoalForSession existing with
    | none =>
      rw [hc] at h
      cases h
      refine ⟨.inr ⟨rfl, hact⟩, goal_incomplete ?_ ..⟩
      rw [goals_logSystemSignal]
      exact ⟨_, AList.lookup_insert _, rfl⟩
    | some g =>
      obtain ⟨goalId, goal⟩ := g
      rw [hc] at h
      cases h
      obtain ⟨hlook, -, hgoal⟩ := currentGoalForSession_eq_some hc
      refine ⟨.inr ⟨rfl, hact⟩, goal_incomplete ?_ ..⟩
      rw [goals_logSystemSignal]
      refine ⟨{ goal with body := body }, ?_, hgoal⟩
      rw [State.modifyGoal, Dict.lookup_modify_self, hlook]
      rfl
  | none =>
    rw [hsing] at h
    obtain ⟨-, -, h⟩ := check_bind_ok.1 h
    obtain ⟨-, -, h⟩ := check_bind_ok.1 h
    obtain ⟨s₂, -, h⟩ := Except.bind_eq_ok.1 h
    cases h
    refine ⟨.inl rfl, goal_incomplete ?_ ..⟩
    exact ⟨_, AList.lookup_insert _, rfl⟩

end

/-! ## Batches -/

/-- Who a batch acts for when it starts a Session of the Unit: the owner, if there is one. -/
def LaunchesFor (b : State) (createdBy unitId user : String) : Prop :=
  ∃ key unit, b.units.lookup key = some unit ∧ strip key = unitId ∧
    user = if strip unit.ownerAccount ∈ b.users then strip unit.ownerAccount else createdBy

section
variable {unit : UnitRecord} {parent createdBy launchParent launchUser : String} {nowText : Stamp}
  {started : Started} {trigger : Trigger}

theorem Guarded.launchesFor (h : Guarded acts b s) (hu : s.units.lookup unitId = some unit)
    (hid : s.unitLaunchIdentity unit parent createdBy = .ok (launchParent, launchUser)) :
    LaunchesFor b createdBy (strip unitId) launchUser := by
  have hgate := h.gate unitId
  rw [hu] at hgate
  obtain ⟨unit₀, hu₀, hg⟩ := Option.map_eq_some_iff.1 hgate.symm
  have howner : unit₀.ownerAccount = unit.ownerAccount := congrArg Prod.fst hg
  refine ⟨unitId, unit₀, hu₀, rfl, ?_⟩
  rw [howner]
  unfold unitLaunchIdentity at hid
  dsimp only at hid
  rw [h.users] at hid
  cases hl : b.users.lookup (strip unit.ownerAccount) with
  | none =>
    rw [hl] at hid
    cases hid
    rw [if_neg (AList.lookup_eq_none.1 hl)]
  | some user =>
    rw [hl] at hid
    dsimp only at hid
    split_ifs at hid
    cases hid
    rw [if_pos (Dict.mem_iff_lookup.2 ⟨user, hl⟩)]

theorem guarded_prompt {goalId : Nat} {prompt kind : String} (h : Guarded acts b s)
    (hsid : sid ∈ b.sessions → Startable acts b sid) {g : Goal}
    (hg : s.goals.lookup goalId = some g) (hx : g.sessionId ∈ b.sessions → Startable acts b g.sessionId)
    (hok : s.sendInitialPrompt env prompt sid goalId createdBy kind nowText = .ok s') :
    Guarded acts b s' := by
  unfold sendInitialPrompt at hok
  obtain ⟨r, hr, hok⟩ := Except.bind_eq_ok.1 hok
  have hgoals : r.1.goals = s.goals := by
    unfold appendSessionMessage at hr
    split_ifs at hr
    cases hr
    exact goals_putSessionMessage
  have h₁ := h.routine (routine_message hr) (touches_message hr) hsid
  dsimp only at hok
  rw [hgoals, hg] at hok
  rw [← Except.pure_eq_ok.1 hok]
  exact h₁.routine (routine_setState ..) (touches_incomplete rfl ..) hx

/-- What a round does with a Session that it has started. -/
theorem guarded_finishStartup (h : Guarded acts b s)
    (hstarted : started.sessionId ∈ b.sessions → Startable acts b started.sessionId)
    (hgoal : ∃ g, s.goals.lookup started.goalId = some g ∧ g.sessionId = started.sessionId)
    (hok : s.finishStartupUnit env unit createdBy nowText started = .ok s') :
    Guarded acts b s' := by
  obtain ⟨g, hg, hx⟩ := hgoal
  unfold finishStartupUnit at hok
  dsimp only at hok
  split_ifs at hok
  · cases hok
    exact h
  · exact guarded_prompt h hstarted hg (hx ▸ hstarted) hok

theorem guarded_finishScheduled (h : Guarded acts b s)
    (hsid : sid ∈ b.sessions → Startable acts b sid)
    (hstarted : started.sessionId ∈ b.sessions → Startable acts b started.sessionId)
    (hgoal : ∃ g, s.goals.lookup started.goalId = some g ∧ g.sessionId = started.sessionId)
    (hok : s.finishScheduledUnit env unitId unit sid createdBy nowText started = .ok s') :
    Guarded acts b s' := by
  obtain ⟨g, hg, hx⟩ := hgoal
  unfold finishScheduledUnit at hok
  obtain ⟨-, hok⟩ := Except.require_bind_eq_ok.1 hok
  dsimp only at hok
  generalize hs : s.modifySession sid _ = s₁ at hok
  have hgoals : s₁.goals = s.goals := hs ▸ rfl
  have h₁ : Guarded acts b s₁ :=
    hs ▸ h.routine (routine_modifySession _ _ fun _ => ⟨rfl, rfl⟩) (.modifySession ..) hsid
  have marked : ∀ {s₂ : State}, Guarded acts b s₂ →
      Guarded acts b (s₂.markScheduledRun unitId sid nowText) := fun {s₂} h₂ =>
    h₂.same_none (routine_markScheduledRun ..).toSameTenants (.of_fields rfl rfl rfl)
  split_ifs at hok
  · rw [Except.ok_bind] at hok
    rw [← Except.pure_eq_ok.1 hok]
    exact marked h₁
  · obtain ⟨s₂, h₂, hok⟩ := Except.bind_eq_ok.1 hok
    rw [← Except.pure_eq_ok.1 hok]
    exact marked (guarded_prompt h₁ hsid (hgoals ▸ hg) (hx ▸ hstarted) h₂)

/-- **One round of a batch.** -/
theorem guarded_round {now : Int} {r r' : State × List UnitResult}
    (h : Guarded (LaunchesFor b createdBy) b r.1) (hblank : "" ∉ b.units)
    (hok : runUnit env trigger parent createdBy nowText now r unitId = .ok r') :
    Guarded (LaunchesFor b createdBy) b r'.1 := by
  obtain ⟨s, results⟩ := r
  unfold runUnit at hok
  dsimp only at hok h
  cases hunit : s.units.lookup unitId with
  | none => rw [hunit] at hok; cases hok; exact h
  | some unit =>
    rw [hunit] at hok
    obtain ⟨selected, -, hok⟩ := Except.bind_eq_ok.1 hok
    cases selected with
    | false => cases hok; exact h
    | true =>
      obtain ⟨⟨launchParent, launchUser⟩, hid, hok⟩ := Except.bind_eq_ok.1 hok
      dsimp only at hok
      have hacts := h.launchesFor hunit hid
      have hname := s.strip_triggeredSessionId unitId trigger nowText.text
      generalize s.triggeredSessionId unitId trigger nowText.text = sid at hok hname
      unfold launchUnit at hok
      dsimp only at hok
      generalize strip (if unit.displayName = "" then unitId else unit.displayName) = label at hok
      generalize strip (if unit.goalText = "" then label else unit.goalText) = body at hok
      have hstart : Guarded (LaunchesFor b createdBy) b (leftBy (s.startGoalSessionInState env sid
          unitId [launchParent] label body launchUser nowText.text trigger)) :=
        guarded_start h hblank hacts (.inl hname)
      cases hout : s.startGoalSessionInState env sid unitId [launchParent] label body launchUser
        nowText.text trigger with
      | error raised =>
        rw [hout] at hok hstart
        obtain ⟨err | key | -, s₁⟩ := raised
        · cases hok
          exact hstart
        · cases hok
        · cases hok
      | ok r =>
        obtain ⟨s₁, started⟩ := r
        rw [hout] at hok hstart
        obtain ⟨hnew, hwhich, hgoal⟩ := started_cases hout
        have hsid : sid ∈ b.sessions → Startable (LaunchesFor b createdBy) b sid :=
          fun hmem => absurd (h.kept sid hmem) hnew
        have hstarted : started.sessionId ∈ b.sessions →
            Startable (LaunchesFor b createdBy) b started.sessionId := by
          rcases hwhich with he | ⟨hsing, hact⟩
          · rw [he]
            exact hsid
          · exact h.startable (h.passes hacts hact) hblank hsing
        cases trigger with
        | scheduled =>
          obtain ⟨s₂, h₂, hok⟩ := Except.bind_eq_ok.1 hok
          rw [← Except.pure_eq_ok.1 hok]
          exact guarded_finishScheduled hstart hsid hstarted hgoal h₂
        | startup =>
          obtain ⟨s₂, h₂, hok⟩ := Except.bind_eq_ok.1 hok
          rw [← Except.pure_eq_ok.1 hok]
          exact guarded_finishStartup hstart hstarted hgoal h₂
        | manual =>
          obtain ⟨s₂, h₂, hok⟩ := Except.bind_eq_ok.1 hok
          rw [← Except.pure_eq_ok.1 hok]
          exact guarded_finishStartup hstart hstarted hgoal h₂

/-- **A batch.** -/
theorem guarded_batch {now : Int} {l : List String} {results : List UnitResult}
    {r' : State × List UnitResult} (h : Guarded (LaunchesFor b createdBy) b s)
    (hblank : "" ∉ b.units)
    (hok : l.foldlM (runUnit env trigger parent createdBy nowText now) (s, results) = .ok r') :
    Guarded (LaunchesFor b createdBy) b r'.1 :=
  Except.foldlM_invariant (P := fun r => Guarded (LaunchesFor b createdBy) b r.1) hok h
    fun _ _ _ _ h hok => guarded_round h hblank hok

end

end State
end Aize
