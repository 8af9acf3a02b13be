/-
  Appending to a SessionLog (`kernel/session_log.py`, the appending half of
  `goal/log.py` and the core of `kernel/messages.py`).

  Every writer goes through `appendSessionLogEntry`, which numbers the entry and
  drops it when an entry with the same key is already in the transaction's
  cache. `log_append` says what an append does to the log; the other fields of
  the state do not change, but for `pending` and `nextId`.
-/
import Mathlib.Data.List.Sort
import Aize.Model

namespace Aize

/-- The number of the last entry; 0 for an empty log. -/
def lastSeq (entries : List LogEntry) : Nat := (entries.getLast?.map LogEntry.seq).getD 0

/-- The message of an entry (`_message_for_log_entry`). -/
def LogEntry.message? (e : LogEntry) : Option Message :=
  match e.body with
  | .message m => some m
  | _ => none

/-- The entry is a `SystemSignal`. -/
def LogEntry.isSignal (e : LogEntry) : Bool :=
  match e.body with
  | .systemSignal _ => true
  | _ => false

/-- Whether an append with this message or key is dropped. -/
def isDuplicate (cached : List LogEntry) (body : LogBody) (eventKey : Option EventKey) : Bool :=
  (match body with
    | .message m => cached.any fun e => e.message?.map Message.messageId == some m.messageId
    | _ => false) ||
  (eventKey.isSome && cached.any fun e => e.eventKey == eventKey)

namespace State

/-- `_latest_session_log_seq`. -/
def latestSessionLogSeq (s : State) (sessionId : String) : Nat :=
  max (lastSeq (s.persistedLog sessionId)) (lastSeq (s.cachedLog sessionId))

/-- The entry that an append writes. -/
def newEntry (s : State) (sessionId : String) (body : LogBody) (createdAt : String)
    (eventKey : Option EventKey) : LogEntry :=
  { logId := s.nextId, seq := s.latestSessionLogSeq sessionId + 1, createdAt, body, eventKey }

/-- `_append_session_log_entry`. -/
def appendSessionLogEntry (s : State) (sessionId : String) (body : LogBody) (createdAt : String)
    (eventKey : Option EventKey) : State :=
  if isDuplicate (s.cachedLog sessionId) body eventKey then s
  else
    { s with
      pending := s.pending.insert sessionId
        (s.pendingLog sessionId ++ [s.newEntry sessionId body createdAt eventKey])
      nextId := s.nextId + 1 }

/-- `_session_log_entries`: the whole log, which from now on is in the cache. -/
def readSessionLog (s : State) (sessionId : String) : State :=
  if sessionId ∈ s.fullIds then s else { s with fullIds := s.fullIds ++ [sessionId] }

/-! ## What an append does -/

section
variable {s : State} {sessionId sid : String} {body : LogBody} {createdAt : String}
  {eventKey : Option EventKey}

/-- An append changes `pending` and `nextId` only. -/
theorem appendSessionLogEntry_frame (s : State) (sessionId : String) (body : LogBody)
    (createdAt : String) (eventKey : Option EventKey) :
    ∃ p n, s.appendSessionLogEntry sessionId body createdAt eventKey =
      { s with pending := p, nextId := n } ∧ s.nextId ≤ n := by
  unfold appendSessionLogEntry
  split_ifs
  · exact ⟨s.pending, s.nextId, rfl, le_rfl⟩
  · exact ⟨_, _, rfl, Nat.le_succ _⟩

/-- The entry that an append adds, unless it is dropped. -/
def appended (s : State) (sessionId : String) (body : LogBody) (createdAt : String)
    (eventKey : Option EventKey) : List LogEntry :=
  if isDuplicate (s.cachedLog sessionId) body eventKey then []
  else [s.newEntry sessionId body createdAt eventKey]

theorem mem_appended {e : LogEntry} (h : e ∈ s.appended sessionId body createdAt eventKey) :
    e = s.newEntry sessionId body createdAt eventKey := by
  unfold appended at h
  split_ifs at h
  · exact absurd h List.not_mem_nil
  · exact List.mem_singleton.1 h

theorem pendingLog_append : (s.appendSessionLogEntry sessionId body createdAt eventKey).pendingLog sid =
    s.pendingLog sid ++ if sid = sessionId then s.appended sessionId body createdAt eventKey else [] := by
  unfold appendSessionLogEntry appended
  by_cases hd : isDuplicate (s.cachedLog sessionId) body eventKey
  · simp [hd]
  · rw [if_neg hd, if_neg hd]
    unfold pendingLog
    rw [Dict.lookup_insert_of]
    by_cases h : sid = sessionId
    · subst h; simp
    · simp [h]

/-- **What an append does to the logs.** -/
theorem log_append : (s.appendSessionLogEntry sessionId body createdAt eventKey).log sid =
    s.log sid ++ if sid = sessionId then s.appended sessionId body createdAt eventKey else [] := by
  have hp : (s.appendSessionLogEntry sessionId body createdAt eventKey).persistedLog sid =
      s.persistedLog sid := by
    obtain ⟨p, n, h, -⟩ := s.appendSessionLogEntry_frame sessionId body createdAt eventKey
    rw [h]; rfl
  unfold log
  rw [hp, pendingLog_append, List.append_assoc]

/-! The fields that an append leaves alone. -/

@[simp] theorem units_append :
    (s.appendSessionLogEntry sessionId body createdAt eventKey).units = s.units := by
  unfold appendSessionLogEntry; split_ifs <;> rfl

@[simp] theorem sessions_append :
    (s.appendSessionLogEntry sessionId body createdAt eventKey).sessions = s.sessions := by
  unfold appendSessionLogEntry; split_ifs <;> rfl

@[simp] theorem sessionEdges_append :
    (s.appendSessionLogEntry sessionId body createdAt eventKey).sessionEdges = s.sessionEdges := by
  unfold appendSessionLogEntry; split_ifs <;> rfl

@[simp] theorem goals_append :
    (s.appendSessionLogEntry sessionId body createdAt eventKey).goals = s.goals := by
  unfold appendSessionLogEntry; split_ifs <;> rfl

@[simp] theorem dispatchRuns_append :
    (s.appendSessionLogEntry sessionId body createdAt eventKey).dispatchRuns = s.dispatchRuns := by
  unfold appendSessionLogEntry; split_ifs <;> rfl

@[simp] theorem dispatchReadiness_append :
    (s.appendSessionLogEntry sessionId body createdAt eventKey).dispatchReadiness =
      s.dispatchReadiness := by
  unfold appendSessionLogEntry; split_ifs <;> rfl

@[simp] theorem persisted_append :
    (s.appendSessionLogEntry sessionId body createdAt eventKey).persisted = s.persisted := by
  unfold appendSessionLogEntry; split_ifs <;> rfl

@[simp] theorem fullIds_append :
    (s.appendSessionLogEntry sessionId body createdAt eventKey).fullIds = s.fullIds := by
  unfold appendSessionLogEntry; split_ifs <;> rfl

/-- What an append does to the cache. -/
theorem cachedLog_append : (s.appendSessionLogEntry sessionId body createdAt eventKey).cachedLog sid =
    s.cachedLog sid ++ if sid = sessionId then s.appended sessionId body createdAt eventKey else [] := by
  unfold cachedLog
  rw [fullIds_append, log_append, pendingLog_append]
  split_ifs <;> rfl

end

/-- `_session_log_after_cursor`. -/
def sessionLogAfterCursor (s : State) (sessionId : String) (cursor : Nat) : List LogEntry :=
  (s.log sessionId).filter fun e => cursor < e.seq

/-- The messages of a Session's log (`_session_messages`). -/
def sessionMessages (s : State) (sessionId : String) : List Message :=
  (s.log sessionId).filterMap LogEntry.message?

/-! ## Messages -/

/-- `_append_session_message_locked`, for a Session that exists: the message and
    the state in which it has been logged. -/
def putSessionMessage (s : State) (sessionId fromEndpoint toEndpoint : String)
    (payload : Payload) (createdAt : String) : State × Message :=
  let (messageId, s) := s.newId
  let message : Message := { messageId, fromEndpoint, toEndpoint, payload, createdAt }
  let s := s.appendSessionLogEntry sessionId (.message message) createdAt none
  (s.modifySession sessionId fun session => { session with updatedAt := createdAt }, message)

/-- `_append_session_message_locked`. -/
def appendSessionMessage (s : State) (sessionId fromEndpoint toEndpoint : String)
    (payload : Payload) (createdAt : String) : Except Err (State × Message) :=
  if sessionId ∈ s.sessions then
    .ok (s.putSessionMessage sessionId fromEndpoint toEndpoint payload createdAt)
  else .error (.storeError s!"unknown session: {sessionId}")

/-! ## Signals and Session events -/

/-- The signal that `_log_system_signal` logs. -/
def signalOf (s : State) (sessionId signalType body : String) (targetRoles : List Role)
    (actor : String) (runId : Option Nat) (availableAfter : Stamp) : Signal :=
  { signalId := s.nextId
    signalType
    body := strip body
    targetRoles := if targetRoles = [] then [.goalManager] else targetRoles
    actor := normalizeEndpoint actor sessionId
    runId
    availableAfter }

/-- `_log_system_signal`. -/
def logSystemSignal (s : State) (sessionId signalType body : String) (targetRoles : List Role)
    (actor : String) (createdAt : String) (runId : Option Nat := none)
    (availableAfter : Stamp := .absent) : State :=
  s.newId.2.appendSessionLogEntry sessionId
    (.systemSignal (s.signalOf sessionId signalType body targetRoles actor runId availableAfter))
    createdAt (some (.systemSignal s.nextId))

/-- `_log_session_active_change`. -/
def logSessionActiveChange (s : State) (sessionId : String) (previousActive active : Bool)
    (actor createdAt : String) : State :=
  s.appendSessionLogEntry sessionId
    (.sessionActiveChanged previousActive active (normalizeEndpoint actor sessionId)) createdAt
    (some (.sessionActive sessionId createdAt previousActive active))

/-- `_log_goal_body_update`. -/
def logGoalBodyUpdate (s : State) (sessionId : String) (goalId : Nat)
    (previousBody body actor createdAt : String) : State :=
  let (revision, s) := s.newId
  s.appendSessionLogEntry sessionId
    (.goalBodyUpdated goalId previousBody body (normalizeEndpoint actor sessionId)) createdAt
    (some (.goalBody goalId createdAt revision))

/-! ## Signals only -/

/-- No entry has the key of a signal that is still to come. -/
def SignalsFresh (s : State) : Prop :=
  ∀ sid, ∀ e ∈ s.log sid, ∀ id, e.eventKey = some (.systemSignal id) → id < s.nextId

/-- `s'` is `s` with some signals appended to its logs. -/
structure Signalled (s s' : State) : Prop where
  frame : ∃ p n, s' = { s with pending := p, nextId := n } ∧ s.nextId ≤ n
  log : ∀ sid, ∃ es, s'.log sid = s.log sid ++ es ∧ ∀ e ∈ es, e.isSignal
  latest : ∀ sid, s.latestSessionLogSeq sid ≤ s'.latestSessionLogSeq sid
  fresh : s.SignalsFresh → s'.SignalsFresh

namespace Signalled

variable {s s₁ s₂ : State}

theorem refl (s : State) : Signalled s s :=
  ⟨⟨s.pending, s.nextId, rfl, le_rfl⟩, fun sid => ⟨[], by simp, by simp⟩, fun _ => le_rfl, id⟩

theorem trans (h₁ : Signalled s s₁) (h₂ : Signalled s₁ s₂) : Signalled s s₂ where
  frame := by
    obtain ⟨p₁, n₁, rfl, hn₁⟩ := h₁.frame
    obtain ⟨p₂, n₂, rfl, hn₂⟩ := h₂.frame
    exact ⟨p₂, n₂, rfl, hn₁.trans hn₂⟩
  log sid := by
    obtain ⟨es₁, he₁, hs₁⟩ := h₁.log sid
    obtain ⟨es₂, he₂, hs₂⟩ := h₂.log sid
    refine ⟨es₁ ++ es₂, by rw [he₂, he₁, List.append_assoc], fun e he => ?_⟩
    exact (List.mem_append.1 he).elim (hs₁ e) (hs₂ e)
  latest sid := (h₁.latest sid).trans (h₂.latest sid)
  fresh h := h₂.fresh (h₁.fresh h)

theorem foldl {α : Type} {f : State → α → State} (hf : ∀ s a, Signalled s (f s a)) (l : List α)
    (s : State) : Signalled s (l.foldl f s) :=
  List.foldlRecOn l f (motive := Signalled s) (refl s) fun s' h a _ => h.trans (hf s' a)

end Signalled

section
variable {s : State} {sessionId sid signalType body actor createdAt : String}
  {targetRoles : List Role} {runId : Option Nat} {availableAfter : Stamp}

theorem latestSessionLogSeq_append {b : LogBody} {t : String} {k : Option EventKey} :
    s.latestSessionLogSeq sid ≤ (s.appendSessionLogEntry sessionId b t k).latestSessionLogSeq sid := by
  unfold appendSessionLogEntry
  split_ifs with hd
  · exact le_rfl
  · unfold latestSessionLogSeq
    refine max_le (le_max_left _ _) ?_
    by_cases hs : sid = sessionId
    · subst hs
      refine le_trans ?_ (le_max_right _ _)
      have hp : State.cachedLog { s with
            pending := s.pending.insert sid (s.pendingLog sid ++ [s.newEntry sid b t k])
            nextId := s.nextId + 1 } sid = s.cachedLog sid ++ [s.newEntry sid b t k] := by
        simp only [cachedLog, log, pendingLog, persistedLog, AList.lookup_insert, Option.getD_some]
        split_ifs
        · rw [List.append_assoc]
        · rfl
      rw [hp]
      simp [lastSeq, newEntry, latestSessionLogSeq]
      omega
    · refine le_trans (le_of_eq ?_) (le_max_right _ _)
      simp only [cachedLog, log, pendingLog, persistedLog, Dict.lookup_insert_of, hs, if_false]

theorem mem_ite_appended {b : LogBody} {t : String} {k : Option EventKey} {e : LogEntry}
    (h : e ∈ if sid = sessionId then s.appended sessionId b t k else []) :
    e = s.newEntry sessionId b t k := by
  split_ifs at h
  · exact mem_appended h
  · exact absurd h List.not_mem_nil

theorem signalled_logSystemSignal (s : State) (sessionId signalType body : String)
    (targetRoles : List Role) (actor createdAt : String) (runId : Option Nat)
    (availableAfter : Stamp) : Signalled s (s.logSystemSignal sessionId signalType body
      targetRoles actor createdAt runId availableAfter) := by
  obtain ⟨p, n, hf, hn⟩ := s.newId.2.appendSessionLogEntry_frame sessionId
    (.systemSignal (s.signalOf sessionId signalType body targetRoles actor runId availableAfter))
    createdAt (some (.systemSignal s.nextId))
  refine ⟨⟨p, n, hf, (Nat.le_succ _).trans hn⟩, fun sid => ⟨_, log_append, fun e he => ?_⟩,
    fun sid => latestSessionLogSeq_append (s := s.newId.2), fun h sid e he id hid => ?_⟩
  · rw [mem_ite_appended he]; rfl
  · have hnext : (s.logSystemSignal sessionId signalType body targetRoles actor createdAt runId
        availableAfter).nextId = n := congrArg nextId hf
    rw [hnext]
    refine lt_of_lt_of_le ?_ hn
    unfold logSystemSignal at he
    rw [log_append] at he
    rcases List.mem_append.1 he with he | he
    · exact Nat.lt_succ_of_lt (h sid e he id hid)
    · rw [mem_ite_appended he] at hid
      cases hid
      exact Nat.lt_succ_self _

/-- With a fresh id, a signal is not dropped. -/
theorem log_logSystemSignal (h : s.SignalsFresh) (sessionId signalType body : String)
    (targetRoles : List Role) (actor createdAt : String) (runId : Option Nat)
    (availableAfter : Stamp) : ∃ e : LogEntry, ∀ sid,
    (s.logSystemSignal sessionId signalType body targetRoles actor createdAt runId
      availableAfter).log sid = s.log sid ++ (if sid = sessionId then [e] else []) ∧
    e.body = .systemSignal (s.signalOf sessionId signalType body targetRoles actor runId
      availableAfter) ∧
    e.seq = s.latestSessionLogSeq sessionId + 1 := by
  have hd : isDuplicate (s.newId.2.cachedLog sessionId) (.systemSignal (s.signalOf sessionId
      signalType body targetRoles actor runId availableAfter))
      (some (.systemSignal s.nextId)) = false := by
    simp only [isDuplicate, Bool.false_or, Option.isSome_some, Bool.true_and, List.any_eq_false,
      beq_iff_eq]
    intro e he hk
    have he' : e ∈ s.log sessionId := by
      unfold cachedLog at he
      split_ifs at he
      · exact he
      · exact List.mem_append_right _ he
    exact lt_irrefl _ (h sessionId e he' s.nextId hk)
  refine ⟨s.newId.2.newEntry sessionId (.systemSignal (s.signalOf sessionId signalType body
    targetRoles actor runId availableAfter)) createdAt (some (.systemSignal s.nextId)),
    fun sid => ⟨log_append.trans ?_, rfl, rfl⟩⟩
  unfold appended
  rw [hd]
  rfl

end

/-! ## The Session graph -/

/-- `_parent_session_ids`. -/
def parentSessionIds (s : State) (childSessionId : String) : List String :=
  (((s.sessionEdges.filter fun e => e.child = childSessionId).map Edge.parent).filter
    (· ≠ "")).dedup.insertionSort (· ≤ ·)

/-- The Sessions below one in the edge list. -/
def childrenOf (edges : List Edge) (parent : String) : List String :=
  (edges.filter fun e => e.parent = parent).map Edge.child

/-- The search of `_has_path`: `stack` is popped at its end. Each round but the
    last marks a new Session or drops a stack item, which bounds the number of
    rounds by `fuel`. -/
def searchPath (edges : List Edge) (target : String) :
    Nat → List String → List String → Bool
  | 0, _, _ => false
  | _ + 1, [], _ => false
  | fuel + 1, sessionId :: stack, seen =>
    if sessionId = target then true
    else if sessionId ∈ seen then searchPath edges target fuel stack seen
    else searchPath edges target fuel ((childrenOf edges sessionId).reverse ++ stack)
      (sessionId :: seen)

/-- `_has_path`. -/
def hasPath (edges : List Edge) (start target : String) : Bool :=
  searchPath edges target (edges.length + 2) [start] []

/-- `_link_sessions_in_state`. -/
def linkSessionsInState (s : State) (parent child : String) : Except Err State :=
  if parent ∉ s.sessions then .error (.storeError s!"unknown parent session: {parent}")
  else if child ∉ s.sessions then .error (.storeError s!"unknown child session: {child}")
  else if parent = child then .error (.storeError "session graph cannot contain self edges")
  else if (⟨parent, child⟩ : Edge) ∈ s.sessionEdges then .ok s
  else if hasPath s.sessionEdges child parent then
    .error (.storeError s!"link would create a cycle: {parent} -> {child}")
  else .ok { s with sessionEdges := s.sessionEdges ++ [⟨parent, child⟩] }

end State

end Aize
