/-
  Messages, users and agent profiles (`kernel/messages.py`, `goal/messages.py`,
  `kernel/auth.py` and the provider part of `goal/sessions.py`).
-/
import Aize.Activation

namespace Aize
namespace State

/-! ## Users and agents -/

/-- `create_user`. -/
def createUser (s : State) (env : Env) (username password : String) (groups : List String) :
    Except Err State := do
  let username := strip username
  Except.require (username ≠ "") (.storeError "username is required")
  Except.require (!startsWith "svc-" username)
    (.storeError "usernames starting with svc- are reserved for service users")
  Except.require (password ≠ "") (.storeError "password is required")
  let s ← s.load env
  Except.require (username ∉ s.users) (.storeError s!"user already exists: {username}")
  let user : User := { groups := if groups = [] then ["user"] else groups }
  let s := { s with users := s.users.insert username user }
  return (← s.ensureUserHomeSessions env.utcNow.text).save

/-- `create_service_user`. -/
def createServiceUser (s : State) (env : Env) (username : String) (groups : List String)
    (provider : String) : Except Err State := do
  let username := strip username
  Except.require (username ≠ "") (.storeError "username is required")
  Except.require (startsWith "svc-" username)
    (.storeError "service usernames must start with svc-")
  let s ← s.load env
  Except.require (username ∉ s.users) (.storeError s!"user already exists: {username}")
  let user : User :=
    { groups := (groups.map strip).filter (· ≠ "")
      status := .service
      provider := lower (strip provider) }
  return { s with users := s.users.insert username user }.save

/-- `_ensure_provider_service_account`. -/
def ensureProviderServiceAccount (s : State) (provider : String) :
    Except Err (State × String × User) :=
  match providerServiceAccounts.find? fun spec => spec.provider = lower (strip provider) with
  | none => .error (.storeError s!"provider has no service account: {provider}")
  | some spec =>
    match s.users.lookup spec.account with
    | some user => .ok (s, spec.account, user)
    | none =>
      let user : User :=
        { groups := spec.groups, status := .service, provider := lower (strip provider) }
      .ok ({ s with users := s.users.insert spec.account user }, spec.account, user)

/-- `set_agent_provider`. -/
def setAgentProvider (s : State) (env : Env) (role provider : String) : Except Err State := do
  match normalizeAgentRole role with
  | none => .error (.storeError s!"unsupported agent role: {role}")
  | some role =>
    let normalized := lower (strip provider)
    Except.require (normalized ∈ ["local", "codex", "claude", "remote-aize"])
      (.storeError s!"unsupported agent provider: {provider}")
    let s ← s.load env
    if normalized = "local" then
      return { s with agentProfiles := s.agentProfiles.insert role ⟨normalized, []⟩ }.save
    else
      let (s, account, user) ← s.ensureProviderServiceAccount normalized
      Except.require (role.slotGroup ∈ user.groups)
        (.storeError (s!"provider {normalized} cannot serve {role.token}: " ++
          s!"account {account} is not {role.slotGroup}-capable"))
      return { s with agentProfiles := s.agentProfiles.insert role ⟨normalized, [account]⟩ }.save

/-- The checks of `set_agent_accounts` on one account. -/
def checkServiceAccount (s : State) (role : Role) (username : String) : Except Err PUnit :=
  match s.users.lookup username with
  | none => .error (.storeError s!"unknown service account: {username}")
  | some user => do
    Except.require (user.status = .service)
      (.storeError s!"account is not a non-login service user: {username}")
    Except.require (role.slotGroup ∈ user.groups)
      (.storeError (s!"service account {username} is not eligible for {role.token}: " ++
        s!"missing group {role.slotGroup}"))

/-- `set_agent_accounts`. -/
def setAgentAccounts (s : State) (env : Env) (role : String) (accounts : List String) :
    Except Err State := do
  match normalizeAgentRole role with
  | none => .error (.storeError s!"unsupported agent role: {role}")
  | some role =>
    let s ← s.load env
    let accounts := normalizeSpawnGroups accounts
    accounts.forM (s.checkServiceAccount role)
    let profile := (s.agentProfiles.lookup role).elim ⟨"", accounts⟩ fun profile =>
      { profile with accounts := accounts }
    return { s with agentProfiles := s.agentProfiles.insert role profile }.save

/-- `set_dispatch_lot_size`. -/
def setDispatchLotSize (s : State) (env : Env) (lotSize : Int) : Except Err State := do
  Except.require (1 ≤ lotSize) (.storeError "dispatch lot size must be positive")
  let s ← s.load env
  return { s with dispatchLotSize := lotSize.toNat }.save

/-! ## Messages -/

/-- `_is_service_identity`. -/
def isServiceIdentity (s : State) (username : String) : Bool :=
  (s.users.lookup username).any fun user => user.status = .service

/-- `append_message`. -/
def appendMessage (s : State) (env : Env) (sessionId sender recipient body : String) :
    Except Err State := do
  let s ← s.load env
  Except.require (sessionId ∈ s.sessions) (.storeError s!"unknown session: {sessionId}")
  let fromEndpoint := normalizeEndpoint sender sessionId
  let toEndpoint := normalizeEndpoint recipient sessionId
  Except.require (!startsWith "agent:" fromEndpoint && !startsWith "agent:" toEndpoint)
    (.storeError "generic messages may not use agent endpoints")
  Except.require ([fromEndpoint, toEndpoint].all fun endpoint =>
      !(startsWith "user:" endpoint && s.isServiceIdentity (afterColon endpoint)))
    (.storeError "generic messages may not use service identities as endpoints")
  let (s, _) ← s.appendSessionMessage sessionId fromEndpoint toEndpoint { body } env.utcNow.text
  return s.save

/-- `SLOT_ROLE_BY_GROUP`. -/
def slotRoleByGroup (group : String) : Option Role :=
  Role.all.find? fun role => role.slotGroup = group

/-- `_resolve_runtime_sender`: the slot role and the endpoint of a sending agent. -/
def resolveRuntimeSender (s : State) (sender group : String) : Except Err (Role × String) := do
  let raw := strip sender
  Except.require (raw ≠ "") (.storeError "agent runtime sender is required")
  match normalizeAgentRole raw with
  | some role => return (role, agentEndpoint role)
  | none =>
    match s.users.lookup raw with
    | none => .error (.storeError s!"agent runtime sender is not allowed: {raw}")
    | some user =>
      let claimed := strip group
      if claimed ≠ "" then
        match slotRoleByGroup claimed with
        | none => .error (.storeError
            s!"unknown slot group for agent runtime sender: {claimed}")
        | some role =>
          Except.require (claimed ∈ user.groups) (.storeError
            s!"agent runtime sender {raw} is not a member of group: {claimed}")
          return (role, userEndpoint raw)
      else
        match user.groups.filterMap slotRoleByGroup with
        | [role] => return (role, userEndpoint raw)
        | _ => .error (.storeError
            s!"agent runtime sender {raw} must claim a slot group: manage, work")

/-- `_check_runtime_run_binding`. -/
def checkRuntimeRunBinding (s : State) (sender : String) (runId : Option Nat) : Except Err PUnit :=
  match runId.bind s.dispatchRuns.lookup with
  | none => .ok ⟨⟩
  | some run =>
    let runUser := strip run.agentUser
    Except.require (runUser = "" ∨ runUser = strip sender)
      (.storeError "dispatch run belongs to a different service identity")

/-- `_latest_reply_endpoint_for_session`. -/
def latestReplyEndpointForSession (s : State) (sessionId : String) : String :=
  let replies := (s.sessionMessages sessionId).filter fun m =>
    m.toEndpoint = sessionEndpoint sessionId && m.payload.userInput &&
      strip m.payload.replyTo ≠ ""
  (replies.getLast?.map fun m => strip m.payload.replyTo).getD ""

/-- The arguments of `append_runtime_message`. -/
structure RuntimeMessage where
  sender : String
  recipient : String
  body : String
  group : String := ""
  provider : String := ""
  runId : Option Nat := none
  recipientEndpointId : String := ""
  workerRequest : Bool := false
  wakeEvent : String := ""

/-- The endpoint a runtime message goes to. -/
def runtimeRecipient (s : State) (sessionId : String) (msg : RuntimeMessage) :
    Except Err String :=
  let recipient := strip msg.recipient
  if recipient = userConsoleRecipient then
    let endpoint := strip msg.recipientEndpointId
    let endpoint := if endpoint = "" then s.latestReplyEndpointForSession sessionId else endpoint
    if endpoint = "" then .error (.storeError "UserConsole messages require a reply endpoint")
    else .ok (consoleEndpoint endpoint)
  else .ok (normalizeEndpoint recipient sessionId)

/-- `append_runtime_message`. -/
def appendRuntimeMessage (s : State) (env : Env) (sessionId : String) (msg : RuntimeMessage) :
    Except Err State := do
  let s ← s.load env
  Except.require (sessionId ∈ s.sessions) (.storeError s!"unknown session: {sessionId}")
  let recipient := strip msg.recipient
  let (role, fromEndpoint) ← s.resolveRuntimeSender msg.sender msg.group
  s.checkRuntimeRunBinding msg.sender msg.runId
  Except.require (recipient = sessionRecipient ∨
      recipient = userConsoleRecipient ∧ role = .goalManager)
    (.storeError s!"agent runtime recipient is not allowed: {role.token} -> {recipient}")
  Except.require (!msg.workerRequest || role = .goalManager && recipient = sessionRecipient)
    (.storeError "worker requests must be GoalManager Messages to Session")
  Except.require (msg.wakeEvent = "" ∨ strip msg.wakeEvent ≠ "")
    (.storeError "wake_event must be a non-empty name")
  let toEndpoint ← s.runtimeRecipient sessionId msg
  let payload : Payload :=
    { body := msg.body
      agentRole := some role
      agentUser := if startsWith "agent:" fromEndpoint then "" else strip msg.sender
      workerRequest := msg.workerRequest
      wakeEvents := if msg.wakeEvent = "" then [] else [strip msg.wakeEvent]
      provider := msg.provider
      runId := msg.runId }
  let s := if recipient = userConsoleRecipient ∧ strip msg.recipientEndpointId = "" then
      s.readSessionLog sessionId
    else s
  let (s, _) ← s.appendSessionMessage sessionId fromEndpoint toEndpoint payload env.utcNow.text
  return s.save

/-- `append_user_input`. While a Worker runs, the input is also forwarded to it. -/
def appendUserInput (s : State) (env : Env) (sessionId sender body replyTo : String) :
    Except Err State := do
  let s ← s.load env
  Except.require (sessionId ∈ s.sessions) (.storeError s!"unknown session: {sessionId}")
  Except.require (sender ∈ s.users) (.storeError s!"unknown user: {sender}")
  let replyTo := strip replyTo
  let now := env.utcNow.text
  let worker := s.activeWorkerRunForSession sessionId
  let payload : Payload :=
    { body, userInput := true, workerFollowup := worker.isSome, deferGoalManager := worker.isSome,
      replyTo }
  let (s, message) ← s.appendSessionMessage sessionId (userEndpoint sender)
    (sessionEndpoint sessionId) payload now
  let s := s.markSessionReprocessNeeded env sessionId sender (userInputReason message.messageId) now
    worker.isSome
  match worker with
  | none => return s.save
  | some (runId, _) =>
    let forwarded : Payload :=
      { body, userInput := true, forwardedFrom := some message.messageId, workerFollowup := true
        runId := some runId, workerRequest := true, replyTo }
    let (s, _) ← s.appendSessionMessage sessionId (userEndpoint sender)
      (sessionEndpoint sessionId) forwarded now
    return s.save

/-- `_all_messages`: each message once, by creation text, Session and number. -/
def allMessages (s : State) : List Message :=
  let indexed := s.allSessionLogIds.flatMap fun sessionId =>
    (s.log sessionId).filterMap fun e => e.message?.map fun m => (sessionId, e.seq, m)
  let first := indexed.foldl (fun seen item =>
    if seen.any fun other => other.2.2.messageId = item.2.2.messageId then seen
    else seen ++ [item]) []
  (first.insertionSort fun a b =>
    a.2.2.createdAt < b.2.2.createdAt ∨ a.2.2.createdAt = b.2.2.createdAt ∧
      (a.1 < b.1 ∨ a.1 = b.1 ∧ a.2.1 ≤ b.2.1)).map fun item => item.2.2

/-- `_messages_after_cursor`. -/
def messagesAfterCursor (s : State) (endpoint : String) : List Message :=
  let messages := s.allMessages
  let endpoint := canonicalEndpoint endpoint
  let cursor := (s.endpointCursors.lookup endpoint).or
    (s.endpointCursors.lookup (legacyEndpointAlias endpoint))
  let start := match cursor with
    | some id => ((messages.findIdx? fun m => m.messageId = id).map (· + 1)).getD 0
    | none => 0
  (messages.drop start).filter fun m => canonicalEndpoint m.toEndpoint = endpoint

/-- `_advance_endpoint_cursor`. -/
def advanceEndpointCursor (s : State) (endpoint : String) (messages : List Message) : State :=
  let endpoint := canonicalEndpoint endpoint
  match messages.reverse.find? fun m => canonicalEndpoint m.toEndpoint = endpoint with
  | some m => { s with endpointCursors := s.endpointCursors.insert endpoint m.messageId }
  | none => s

/-- `receive_message`. -/
def receiveMessage (s : State) (env : Env) (recipient : String) (sessionId : Option String) :
    Except Err (State × Option Message) := do
  let loaded ← s.load env
  Except.require (strip recipient ≠ "") (.storeError "recipient is required")
  let sessionId := sessionId.filter (· ≠ "")
  Except.require (strip recipient ≠ sessionRecipient ∨ sessionId.isSome)
    (.storeError "Session endpoint requires session_id")
  let endpoint := normalizeEndpoint recipient (sessionId.getD "")
  let wanted := (loaded.messagesAfterCursor endpoint).find? fun m =>
    sessionId.all fun id => m.toEndpoint = sessionEndpoint id
  match wanted with
  | some m => return ((loaded.advanceEndpointCursor endpoint [m]).save, some m)
  | none => return (s, none)

end State
end Aize
