/-
  Loading, saving and repairing the state (`goal/store.py`, and the replay of
  `goal/log.py`).

  `load` repairs the defaults of a stored state: the root and home Sessions, the
  service accounts, normalized schedules, and the graph edges that hang every
  Session below the root. `initExisting` is what a restart does: load, replay
  every SessionLog over the metadata, and refresh the dispatch queue.
-/
import Aize.Readiness
import Aize.Schedules

namespace Aize
namespace State

/-! ## Home Sessions -/

/-- The moves of `_rename_session_id`, for a Session that exists under `old` and not
    under `new`. The persisted log stays where it is. -/
def moveSession (s : State) (old new : String) (session : Session) : State :=
  let rename := fun id => if id = old then new else id
  { s with
    sessions := (s.sessions.erase old).insert new session
    sessionEdges := s.sessionEdges.map fun e => ⟨rename e.parent, rename e.child⟩
    goals := s.goals.mapVals fun _ g => { g with sessionId := rename g.sessionId }
    dispatchReadiness := s.dispatchReadiness.map fun e =>
      { e with sessionId := rename e.sessionId }
    dispatchRuns := s.dispatchRuns.mapVals fun _ r => { r with sessionId := rename r.sessionId }
    endpointCursors := match s.endpointCursors.lookup (sessionEndpoint old) with
      | some id => (s.endpointCursors.erase (sessionEndpoint old)).insert (sessionEndpoint new) id
      | none => s.endpointCursors
    pending := match s.pending.lookup old with
      | some entries => (s.pending.erase old).insert new entries
      | none => s.pending
    agentThreads := (s.agentThreads.entries.filter fun e => e.2.sessionId = old).foldl
      (fun threads e => (threads.erase e.1).insert (new ++ ":" ++ e.2.role.token)
        { e.2 with sessionId := new }) s.agentThreads
    units := s.units.mapVals fun _ u =>
      { u with
        singletonSessionId := rename u.singletonSessionId
        schedule := u.schedule.map fun schedule =>
          { schedule with
            nextRunRequiredBySessionId := schedule.nextRunRequiredBySessionId.map rename
            nextRunSetBySessionId := rename schedule.nextRunSetBySessionId } } }

/-- `_rename_session_id`. -/
def renameSessionId (s : State) (old new : String) : Except Err State :=
  match s.sessions.lookup old with
  | none => .ok s
  | some session =>
    if old = new then .ok s
    else if new ∈ s.sessions then
      .error (.storeError s!"account home session already exists: {new}")
    else .ok (s.moveSession old new session)

/-- Give a user its home ids, moving a home Session or home Unit kept under an older
    id. -/
def assignHome (s : State) (username : String) (user : User) : Except Err State := do
  let homeSessionId := accountHomeSessionId username
  let homeUnitId := accountHomeUnitId username
  let previousSession := strip user.homeSessionId
  let s ← if previousSession ≠ "" ∧ previousSession ≠ homeSessionId then
      s.renameSessionId previousSession homeSessionId
    else .ok s
  let previousUnit := strip user.homeUnitId
  let s ← if previousUnit ≠ "" ∧ previousUnit ≠ homeUnitId then
      match s.units.lookup previousUnit with
      | some unit =>
        let units := s.units.erase previousUnit
        if homeUnitId ∈ units then
          .error (.storeError s!"account home unit already exists: {homeUnitId}")
        else .ok { s with units := units.insert homeUnitId unit }
      | none => .ok s
    else .ok s
  return { s with users := s.users.modify username fun u =>
    { u with homeSessionId := homeSessionId, homeUnitId := homeUnitId } }

/-- The home Unit of a user: a singleton Unit that the user owns. -/
def ensureHomeUnit (s : State) (username : String) : State :=
  let homeSessionId := accountHomeSessionId username
  let homeUnitId := accountHomeUnitId username
  match s.units.lookup homeUnitId with
  | none =>
    let unit : UnitRecord :=
      { instancePolicy := .singleton
        singletonSessionId := homeSessionId
        displayName := s!"{username} account root"
        activationTriggers := some ⟨true, false, false⟩
        ownerAccount := username }
    { s with units := s.units.insert homeUnitId unit }
  | some _ => s.modifyUnit homeUnitId fun unit =>
    { unit with
      instancePolicy := .singleton
      singletonSessionId := homeSessionId
      ownerAccount := username }

/-- The home Session of a user. A Session that already has its id is taken over by
    the home Unit. -/
def ensureHomeSession (s : State) (username timestamp : String) : State :=
  let homeSessionId := accountHomeSessionId username
  let homeUnitId := accountHomeUnitId username
  if homeSessionId ∈ s.sessions then
    s.modifySession homeSessionId fun session =>
      { session with unitId := homeUnitId, singleton := true }
  else
    let session : Session := { unitId := homeUnitId, singleton := true, updatedAt := timestamp }
    { s with sessions := s.sessions.insert homeSessionId session }

/-- One round of `_ensure_user_home_sessions`. -/
def ensureUserHome (s : State) (timestamp username : String) : Except Err State := do
  match s.users.lookup username with
  | none => .ok s
  | some user =>
    if user.status = .service then .ok s
    else
      let s ← s.assignHome username user
      let homeSessionId := accountHomeSessionId username
      Except.require (homeSessionId ≠ rootSessionId)
        (.storeError "account home session cannot be the system root session")
      let s := (s.ensureHomeUnit username).ensureHomeSession username timestamp
      if hasPath s.sessionEdges rootSessionId homeSessionId then .ok s
      else s.linkSessionsInState rootSessionId homeSessionId

/-- `_ensure_user_home_sessions`. -/
def ensureUserHomeSessions (s : State) (timestamp : String) : Except Err State :=
  (s.users.keys.insertionSort (· ≤ ·)).foldlM (fun s username => s.ensureUserHome timestamp username) s

/-- One round of `_ensure_unit_session_owner_parents`: a Session of an owned Unit
    hangs below the home Session of the owner, and no longer below the root. -/
def ensureOwnerParent (s : State) (sessionId : String) : Except Err State :=
  let unitId := (s.sessions.lookup sessionId).elim "" fun session => strip session.unitId
  let owner := (s.units.lookup unitId).elim "" fun unit => strip unit.ownerAccount
  match s.users.lookup owner with
  | none => .ok s
  | some user => do
    let home := strip user.homeSessionId
    if home = "" ∨ home = sessionId then .ok s
    else
      Except.require (home ∈ s.sessions) (.storeError s!"owner user has no home session: {owner}")
      let s ← if (⟨home, sessionId⟩ : Edge) ∈ s.sessionEdges then .ok s
        else s.linkSessionsInState home sessionId
      return { s with sessionEdges := s.sessionEdges.filter (· ≠ ⟨rootSessionId, sessionId⟩) }

/-- `_ensure_unit_session_owner_parents`. -/
def ensureUnitSessionOwnerParents (s : State) : Except Err State :=
  s.sessions.keys.foldlM ensureOwnerParent s

/-! ## Defaults -/

/-- The root Unit. -/
def ensureRootUnit (s : State) : State :=
  match s.units.lookup rootUnitId with
  | none =>
    let unit : UnitRecord := { instancePolicy := .singleton, singletonSessionId := rootSessionId }
    { s with units := s.units.insert rootUnitId unit }
  | some _ => s.modifyUnit rootUnitId fun unit =>
    { unit with instancePolicy := .singleton, singletonSessionId := rootSessionId }

/-- The normal form of a stored Unit. -/
def normalizeUnit (unit : UnitRecord) : Except Err UnitRecord := do
  let schedule ← normalizeUnitSchedule unit.schedule
  let triggers ← normalizeUnitActivationTriggers
    (unit.activationTriggers.elim {} Triggers.args) schedule
  return { unit with schedule := schedule, activationTriggers := some triggers }

/-- One round of the Unit loop of `ensure_defaults`. -/
def normalizeStoredUnit (s : State) (unitId : String) : Except Err State :=
  match s.units.lookup unitId with
  | none => .ok s
  | some unit => do
    let unit ← normalizeUnit unit
    return s.modifyUnit unitId fun _ => unit

/-- The root Session. -/
def ensureRootSession (s : State) (timestamp : String) : Except Err State :=
  match s.sessions.lookup rootSessionId with
  | none =>
    let session : Session := { unitId := rootUnitId, singleton := true, updatedAt := timestamp }
    .ok { s with sessions := s.sessions.insert rootSessionId session }
  | some session =>
    if session.unitId ≠ rootUnitId then
      .error (.storeError "root session exists but is not owned by root unit")
    else .ok (s.modifySession rootSessionId fun session => { session with singleton := true })

/-- The root user and the service accounts of the providers. -/
def ensureAccounts (s : State) : State :=
  let users := if rootUsername ∈ s.users then s.users
    else s.users.insert rootUsername { groups := ["root", "admin"] }
  { s with users := providerServiceAccounts.foldl (fun users spec =>
      if spec.account ∈ users then users
      else users.insert spec.account
        { groups := spec.groups, status := .service, provider := spec.provider }) users }

/-- Hang a Session without a path from the root below the root. -/
def ensureRootEdge (s : State) (sessionId : String) : State :=
  if sessionId = rootSessionId ∨ hasPath s.sessionEdges rootSessionId sessionId then s
  else { s with sessionEdges := s.sessionEdges ++ [⟨rootSessionId, sessionId⟩] }

/-- `_default_profile_account` of the default provider. -/
def defaultProfile : AgentProfile := ⟨defaultAgentProvider, ["svc-codex"]⟩

/-- The agent profiles of the two roles. -/
def ensureAgentProfiles (s : State) : State :=
  { s with agentProfiles := Role.all.foldl (fun profiles role =>
      if role ∈ profiles then profiles else profiles.insert role defaultProfile) s.agentProfiles }

/-- The workspace checks of `_ensure_session_metadata`. -/
def checkWorkspaces (s : State) : Except Err PUnit := do
  Except.require (∀ id ∈ s.units.keys, strip id ≠ "")
    (.storeError "unit_id is required for workspace creation")
  Except.require (∀ id ∈ s.sessions.keys, strip id ≠ "")
    (.storeError "session_id is required for workspace creation")

/-- `ensure_defaults`. -/
def ensureDefaults (s : State) (timestamp : String) : Except Err State := do
  let s := if s.dispatchLotSize = 0 then { s with dispatchLotSize := 1 } else s
  let s := s.ensureRootUnit
  let s ← s.units.keys.foldlM normalizeStoredUnit s
  let s ← s.ensureRootSession timestamp
  let s := s.ensureAccounts
  let s ← s.ensureUserHomeSessions timestamp
  let s ← s.ensureUnitSessionOwnerParents
  let s := s.sessions.keys.foldl ensureRootEdge s
  let s := s.ensureAgentProfiles
  s.checkWorkspaces
  return s

/-! ## Load, save and restart -/

/-- What `storage.load` reads: the collections, and no cached log. -/
def stored (s : State) : State := { s with pending := ∅, fullIds := [] }

/-- `load`. -/
def load (s : State) (env : Env) : Except Err State := s.stored.ensureDefaults env.utcNow.text

/-- `save`, uninterrupted, of a state that storage takes: what was pending is persisted. No
    record of it is over `MAX_FRAME_BYTES`, and no write fails; a save that fails may leave the
    logs that it has appended to. -/
def save (s : State) : State :=
  { s with
    persisted := s.pending.keys.foldl (fun p sessionId => p.insert sessionId (s.log sessionId))
      s.persisted
    pending := ∅
    fullIds := [] }

/-- The state of a new store (`init` where nothing is stored). -/
def initNew (env : Env) : Except Err State := do
  return (← (({} : State).ensureDefaults env.utcNow.text)).save

/-- The metadata of a Session that its log can override. -/
structure Replayed where
  session : Session
  goal : Option Goal
  changed : Bool := false

/-- The `updated_at` of a Session is not before its last entry. -/
def Replayed.touch (r : Replayed) (createdAt : String) : Replayed :=
  if createdAt ≠ "" ∧ r.session.updatedAt < createdAt then
    { r with session := { r.session with updatedAt := createdAt }, changed := true }
  else r

/-- The replayed Goal takes a completion state. -/
def Replayed.setGoal (r : Replayed) (goal : Goal) (completionState : CompletionState)
    (reason : String) : Replayed :=
  { r with
    goal := some { goal with completionState := completionState, completionReason := reason }
    changed := r.changed || goal.completionState ≠ completionState ||
      goal.completionReason ≠ reason }

/-- The reason a user input gives for reopening a Goal. -/
def userInputReason (messageId : Nat) : String :=
  s!"UserInput message msg-{messageId} requires Session processing."

/-- One entry of the replay in `_reconcile_state_from_session_logs`. -/
def replayEntry (r : Replayed) (e : LogEntry) : Replayed :=
  match e.body, r.goal with
  | .sessionActiveChanged _ active _, _ =>
    Replayed.touch
      { r with
        session := { r.session with active := active }
        changed := r.changed || r.session.active != active } e.createdAt
  | .goalStateChanged t, some goal =>
    match t.completionState with
    | .waiting => r
    | .complete => (r.setGoal goal .complete t.reason).touch e.createdAt
    | .incomplete => (r.setGoal goal .incomplete t.reason).touch e.createdAt
  | .message m, some goal =>
    if !m.payload.userInput then r
    else if goal.completionState = .complete then
      (r.setGoal goal .incomplete (userInputReason m.messageId)).touch e.createdAt
    else r.touch e.createdAt
  | _, _ => r.touch e.createdAt

/-- A role cursor is not beyond the log. -/
def clampCursors (c : RoleCursors) (latestSeq : Nat) : RoleCursors :=
  ⟨min c.goalManager latestSeq, min c.workerAgent latestSeq⟩

/-- One Session of `_reconcile_state_from_session_logs`. -/
def replaySession (r : State × Bool) (sessionId : String) : State × Bool :=
  match r.1.sessions.lookup sessionId with
  | none => r
  | some session =>
    let s := r.1.readSessionLog sessionId
    let entries := s.log sessionId
    let cursors := clampCursors session.roleCursors (lastSeq entries)
    let start : Replayed :=
      { session := { session with roleCursors := cursors }
        goal := (s.currentGoalForSession sessionId).map Prod.snd
        changed := r.2 || cursors ≠ session.roleCursors }
    let result := entries.foldl replayEntry start
    let s := s.modifySession sessionId fun _ => result.session
    match s.currentGoalForSession sessionId, result.goal with
    | some (goalId, _), some goal => (s.modifyGoal goalId fun _ => goal, result.changed)
    | _, _ => (s, result.changed)

/-- `_all_session_log_ids`. -/
def allSessionLogIds (s : State) : List String :=
  (s.persisted.keys ++ s.pending.keys).dedup.insertionSort (· ≤ ·)

/-- `_reconcile_state_from_session_logs`: the new state, and whether it changed. -/
def reconcileStateFromSessionLogs (s : State) : State × Bool :=
  s.allSessionLogIds.foldl replaySession (s, false)

/-- `init` on an existing store: the state in memory afterwards, and what is stored. -/
def initExisting (s : State) (env : Env) : Except Err (State × State) := do
  let loaded ← s.load env
  let ensured ← loaded.ensureDefaults env.utcNow.text
  let (replayed, replayChanged) := ensured.reconcileStateFromSessionLogs
  let (refreshed, refreshChanged) := replayed.refreshDispatchReadiness env
  if ensured ≠ loaded ∨ replayChanged ∨ refreshChanged then
    return (refreshed.save, refreshed.save)
  else return (refreshed.save, s)

end State
end Aize
