/-
  Renaming a home Session (`_rename_session_id`).

  A load gives every login user the home id that is computed from the name, and renames
  a home Session that is stored under another id. `Refers` is what the renaming is for:
  whatever referred to the old id refers to the new one (`tracked_load`). The segment
  files of the SessionLog are not moved, though, a wait for the Session keeps its old id,
  and the threads of the Session are filed under its new id by role alone. The history is
  kept only for a Session without log and without account threads, that nobody waits for;
  and a Session that is in use goes where the renames of all users lead (`history_kept_iff`).
-/
import Aize.Housing

namespace Aize

/-- The key of a thread in `agent_threads`. -/
def threadKey (sessionId : String) (role : Role) (account : String) : String :=
  sessionId ++ ":" ++ role.token ++ if account = "" then "" else ":" ++ account

/-- An id after `old` has been renamed to `new`. -/
def renamed (old new id : String) : String := if id = old then new else id

@[simp] theorem renamed_self (old new : String) : renamed old new old = new := if_pos rfl

theorem renamed_ne {old new id : String} (h : id ≠ old) : renamed old new id = id := if_neg h

/-- The next run of the Unit is set by the same Sessions. -/
def UnitRecord.SamePlan (unit unit' : UnitRecord) : Prop :=
  ∀ plan, unit.schedule = some plan → ∃ plan', unit'.schedule = some plan' ∧
    plan'.nextRunRequiredBySessionId = plan.nextRunRequiredBySessionId ∧
    plan'.nextRunSetBySessionId = plan.nextRunSetBySessionId

theorem UnitRecord.SamePlan.of_eq {unit unit' : UnitRecord} (h : unit'.schedule = unit.schedule) :
    unit.SamePlan unit' := fun plan hp => ⟨plan, h.trans hp, rfl, rfl⟩

/-- A wait for the Session `id`. -/
def Waiting.For (w : Waiting) (id : String) : Prop := w.kind = .child id

/-! ## Home ids and thread keys -/

theorem not_colon_of_isAlnum {c : Char} (h : isAlnum c) : c ≠ ':' := by
  rintro rfl
  revert h
  decide

theorem not_colon_safeIdPart (v : String) : ':' ∉ (safeIdPart v "user").toList := by
  intro hc
  unfold safeIdPart at hc
  dsimp only at hc
  split_ifs at hc with h
  · revert hc
    decide
  · unfold stripChars at hc
    rw [String.toList_ofList] at hc
    have hc := List.dropWhile_suffix _ |>.subset ((List.rdropWhile_prefix _ _).subset hc)
    rw [String.toList_ofList, List.mem_map] at hc
    obtain ⟨d, -, hd⟩ := hc
    split_ifs at hd with halnum
    · subst hd
      simp only [Bool.or_eq_true, beq_iff_eq] at halnum
      rcases halnum with (h | h) | h
      · exact not_colon_of_isAlnum h rfl
      · exact absurd h (by decide)
      · exact absurd h (by decide)
    · exact absurd hd (by decide)

theorem not_colon_home (n : String) : ':' ∉ (accountHomeSessionId n).toList := by
  unfold accountHomeSessionId
  rw [String.toList_append, List.mem_append]
  rintro (h | h)
  · revert h
    decide
  · exact not_colon_safeIdPart _ h

/-- **A key with the role alone** is the key of the Session's thread without account. -/
theorem threadKey_eq_home {id y account : String} {role role' : Role} (hy : ':' ∉ y.toList)
    (h : threadKey id role account = y ++ ":" ++ role'.token) : account = "" ∧ id = y := by
  have hlist := congrArg String.toList h
  have htoken : ∀ r : Role, r.token.toList.count ':' = 0 := by
    intro r
    cases r <;> decide
  have hcount := congrArg (List.count ':') hlist
  simp only [threadKey, String.toList_append, List.count_append, htoken,
    List.count_eq_zero_of_not_mem hy] at hcount
  have haccount : account = "" := by
    by_contra hne
    rw [if_neg hne, String.toList_append, List.count_append] at hcount
    have : List.count ':' ":".toList = 1 := by decide
    omega
  subst haccount
  refine ⟨rfl, ?_⟩
  have hid : ':' ∉ id.toList := by
    rw [if_pos rfl] at hcount
    have : List.count ':' ":".toList = 1 := by decide
    have : List.count ':' "".toList = 0 := by decide
    exact List.count_eq_zero.1 (by omega)
  have htake := congrArg (List.takeWhile (· ≠ ':')) hlist
  have htakes : ∀ (x : String) (r : Role), ':' ∉ x.toList →
      List.takeWhile (· ≠ ':') (x ++ ":" ++ r.token).toList = x.toList := by
    intro x r hx
    rw [String.toList_append, String.toList_append, List.append_assoc,
      List.takeWhile_append_of_pos fun c hc => by simpa using fun he : c = ':' => hx (he ▸ hc)]
    simp
  rw [htakes y role' hy, threadKey, if_pos rfl, String.append_empty, htakes id role hid] at htake
  exact String.toList_injective htake

theorem threadKey_none (id : String) (role : Role) :
    threadKey id role "" = id ++ ":" ++ role.token := by
  rw [threadKey, if_pos rfl, String.append_empty]

namespace State

variable {b s s₁ s' : State} {n username timestamp old cur x y : String} {session : Session}

/-! ## What refers to a Session -/

/-- The accounts that a load finds or makes. -/
def accounts (s : State) : Dict String User := s.ensureAccounts.users

/-- A home Session: the one that is stored with a user, or the one it is going to have. -/
def IsHome (s : State) (id : String) : Prop :=
  ∃ n user, s.accounts.lookup n = some user ∧
    (id = accountHomeSessionId n ∨ id = strip user.homeSessionId)

/-- The other end of an edge: the same Session, but for a home that is renamed too, and
    for the root, below which a Session is no longer linked when its Unit has an owner. -/
def StandsFor (s : State) (id id' : String) : Prop :=
  id' = id ∨ (id = rootSessionId ∨ s.IsHome id) ∧ s.IsHome id'

/-- The id of a Unit: the same, unless it is the home Unit of a user. -/
def UnitStandsFor (s : State) (id id' : String) : Prop :=
  id' = id ∨ ∃ n, n ∈ s.accounts ∧ id' = accountHomeUnitId n

/-- The Goals, runs, queue entries and the cursor of `old` in `b` are those of `cur` in `s`. -/
structure Follows (b s : State) (old cur : String) : Prop where
  goals : ∀ id g, b.goals.lookup id = some g → g.sessionId = old →
    s.goals.lookup id = some { g with sessionId := cur }
  runs : ∀ id r, b.dispatchRuns.lookup id = some r → r.sessionId = old →
    s.dispatchRuns.lookup id = some { r with sessionId := cur }
  readiness : ∀ (i : Nat) (e : Readiness), b.dispatchReadiness[i]? = some e → e.sessionId = old →
    s.dispatchReadiness[i]? = some { e with sessionId := cur }
  cursor : ∀ id, b.endpointCursors.lookup (sessionEndpoint old) = some id →
    s.endpointCursors.lookup (sessionEndpoint cur) = some id

/-- What refers to `old` in `b` refers to `cur` in `s`. -/
structure Refers (b s : State) (old cur : String) : Prop extends Follows b s old cur where
  children : ∀ c, ⟨old, c⟩ ∈ b.sessionEdges → ∃ c', ⟨cur, c'⟩ ∈ s.sessionEdges ∧ b.StandsFor c c'
  parents : ∀ p, ⟨p, old⟩ ∈ b.sessionEdges → ∃ p', ⟨p', cur⟩ ∈ s.sessionEdges ∧ b.StandsFor p p'

/-- What waits for `old` in `b` waits for `cur` in `s`: Goals, and runs that have declared a
    wait. -/
structure WaitsRefer (b s : State) (old cur : String) : Prop where
  goals : ∀ id g w, b.goals.lookup id = some g → g.waiting = some w → w.For old →
    ∃ g' w', s.goals.lookup id = some g' ∧ g'.waiting = some w' ∧ w'.For cur
  runs : ∀ id r d w, b.dispatchRuns.lookup id = some r → r.declaredOutcome = some d →
    d.decision = .waiting w → w.For old → ∃ r' d' w', s.dispatchRuns.lookup id = some r' ∧
      r'.declaredOutcome = some d' ∧ d'.decision = .waiting w' ∧ w'.For cur

/-- The home Unit that is stored with the user. -/
def StoredHomeUnit (s : State) (username id : String) : Prop :=
  ∃ user, s.accounts.lookup username = some user ∧ strip user.homeUnitId = id

/-- The Units that refer to `old` in `b` refer to `cur` in `s`. -/
structure UnitsRefer (b s : State) (username old cur : String) : Prop where
  singleton : ∀ id unit, b.units.lookup id = some unit → unit.singletonSessionId = old →
    ∃ id' unit', s.units.lookup id' = some unit' ∧
      (id' = id ∨ b.StoredHomeUnit username id ∧ id' = accountHomeUnitId username) ∧
      unit'.singletonSessionId = cur
  schedule : ∀ id unit plan, b.units.lookup id = some unit → unit.schedule = some plan →
    ∃ id' unit' plan', s.units.lookup id' = some unit' ∧ b.UnitStandsFor id id' ∧
      unit'.schedule = some plan' ∧
      (plan.nextRunRequiredBySessionId = some old → plan'.nextRunRequiredBySessionId = some cur) ∧
      (plan.nextRunSetBySessionId = old → plan'.nextRunSetBySessionId = cur)

/-- **The history of a Session is kept** under its new id. -/
structure HistoryKept (s t : State) (username old new : String) : Prop where
  log : t.log new = s.log old
  cursors : ∃ session, t.sessions.lookup new = some session ∧
    ∀ role, session.roleCursors.get role ≤ lastSeq (t.log new)
  threads : ∀ key thread, s.agentThreads.lookup key = some thread → thread.sessionId = old →
    t.agentThreads.lookup (threadKey new thread.role thread.account) =
      some { thread with sessionId := new }
  refers : Refers s t old new
  waits : WaitsRefer s t old new
  units : UnitsRefer s t username old new

/-- A login user has its turn before this one, and gets the same home. -/
def TakenBefore (s : State) (username : String) : Prop :=
  ∃ n user, s.accounts.lookup n = some user ∧ user.status = .active ∧ n < username ∧
    accountHomeSessionId n = accountHomeSessionId username

/-- Nobody else has a claim on the home Session `old` of the user that comes first, nor one on
    its new id. -/
structure Undisputed (s : State) (username old : String) : Prop where
  /-- it is not the home Session of a login user whose turn is before, and the new id is not
      the one of another user, but for one whose turn is before and finds it free -/
  session : ∀ n user, s.accounts.lookup n = some user → user.status = .active → n ≠ username →
    (n < username → strip user.homeSessionId ≠ old) ∧
      (strip user.homeSessionId = accountHomeSessionId username →
        accountHomeSessionId n = accountHomeSessionId username ∨
          n < username ∧ ¬s.TakenBefore username)
  /-- nor is it the home Unit, if a Unit with this one Session is going to have it -/
  unit : ∀ id unit, s.units.lookup id = some unit → unit.singletonSessionId = old →
    s.StoredHomeUnit username id → ∀ n user, s.accounts.lookup n = some user →
      user.status = .active → n ≠ username → strip user.homeUnitId = accountHomeUnitId username →
        accountHomeUnitId n = accountHomeUnitId username
  /-- a Unit with this one Session is not the root Unit, nor the home Unit of another user -/
  singleton : ∀ id unit, s.units.lookup id = some unit → unit.singletonSessionId = old →
    id ≠ rootUnitId ∧ ∀ n user, s.accounts.lookup n = some user → user.status = .active →
      n ≠ username → strip user.homeUnitId ≠ id ∧
        (accountHomeUnitId n = id → id = accountHomeUnitId username)
  /-- no service account has the root Session as its home -/
  root : ∀ n user, s.accounts.lookup n = some user → user.status = .service →
    strip user.homeSessionId ≠ rootSessionId
  /-- its threads are filed under their keys -/
  filed : ∀ key thread, s.agentThreads.lookup key = some thread → thread.sessionId = old →
    key = threadKey old thread.role thread.account
  /-- no thread is filed for the new id -/
  free : ∀ key thread, s.agentThreads.lookup key = some thread →
    thread.sessionId ≠ accountHomeSessionId username

/-- A Goal waits for the Session, or a run has declared a wait for it. -/
def Awaited (s : State) (id : String) : Prop :=
  (∃ goalId g w, s.goals.lookup goalId = some g ∧ g.waiting = some w ∧ w.For id) ∨
    ∃ rid r d w, s.dispatchRuns.lookup rid = some r ∧ r.declaredOutcome = some d ∧
      d.decision = .waiting w ∧ w.For id

/-- A Goal, a run or a queue entry belongs to the Session. -/
def InUse (s : State) (id : String) : Prop :=
  (∃ goalId g, s.goals.lookup goalId = some g ∧ g.sessionId = id) ∨
    (∃ rid r, s.dispatchRuns.lookup rid = some r ∧ r.sessionId = id) ∨
    (∃ e ∈ s.dispatchReadiness, e.sessionId = id)

/-- Where the user's rename leads an id. -/
def homeRename (s : State) (id n : String) : String :=
  match s.accounts.lookup n with
  | none => id
  | some user =>
    if user.status = .active then
      renamed (strip user.homeSessionId) (accountHomeSessionId n) id
    else id

/-- Where the renames of all login users lead an id, in the order of their names. -/
def goesTo (s : State) (id : String) : String :=
  (s.accounts.keys.insertionSort (· ≤ ·)).foldl s.homeRename id

/-- There is nothing of the Session that the renaming leaves behind. -/
structure Portable (s : State) (username old : String) : Prop where
  log : s.log (accountHomeSessionId username) = s.log old
  waits : ¬s.Awaited old
  cursors : ∀ session, s.sessions.lookup old = some session →
    ∀ role, session.roleCursors.get role ≤ lastSeq (s.log old)
  threads : ∀ key thread, s.agentThreads.lookup key = some thread → thread.sessionId = old →
    thread.account = ""

/-- There is nothing of the Session that a renaming to the new id leaves behind, whoever else
    has a claim on the two ids. -/
structure PortableTo (s : State) (username old : String) : Prop where
  log : s.log (accountHomeSessionId username) = s.log old
  waits : ¬s.Awaited old
  goesTo : s.InUse old → s.goesTo old = accountHomeSessionId username
  cursors : s.goesTo old = accountHomeSessionId username →
    ∀ session, s.sessions.lookup old = some session →
      ∀ role, session.roleCursors.get role ≤ lastSeq (s.log old)
  threads : ∀ key thread, s.agentThreads.lookup key = some thread → thread.sessionId = old →
    thread.account = "" ∨
      s.agentThreads.lookup (threadKey (accountHomeSessionId username) thread.role
        thread.account) = some { thread with sessionId := accountHomeSessionId username }

/-! ## Threads -/

/-- One thread moved to the Session `y`. -/
def refile (y : String) (threads : Dict String AgentThread)
    (e : Sigma fun _ : String => AgentThread) : Dict String AgentThread :=
  (threads.erase e.1).insert (y ++ ":" ++ e.2.role.token) { e.2 with sessionId := y }

theorem moveSession_agentThreads (s : State) (x y : String) (session : Session) :
    (s.moveSession x y session).agentThreads =
      (s.agentThreads.entries.filter fun e => e.2.sessionId = x).foldl (refile y)
        s.agentThreads := rfl

section Refiling

variable {threads : Dict String AgentThread} {l : List (Sigma fun _ : String => AgentThread)}
  {k : String} {t : AgentThread}

theorem lookup_refile (y : String) (threads : Dict String AgentThread)
    (e : Sigma fun _ : String => AgentThread) (k : String) :
    (refile y threads e).lookup k =
      if k = y ++ ":" ++ e.2.role.token then some { e.2 with sessionId := y }
      else if k = e.1 then none else threads.lookup k := by
  rw [refile, Dict.lookup_insert_of, Dict.lookup_erase_of]

/-- A thread that is neither moved nor overwritten stays. -/
theorem lookup_refiled_other (h : threads.lookup k = some t)
    (hl : ∀ e ∈ l, e.1 ≠ k ∧ y ++ ":" ++ e.2.role.token ≠ k) :
    (l.foldl (refile y) threads).lookup k = some t := by
  induction l generalizing threads with
  | nil => exact h
  | cons e l ih =>
    have he := hl e List.mem_cons_self
    refine ih ?_ fun e' he' => hl e' (List.mem_cons_of_mem e he')
    rw [lookup_refile, if_neg fun hk => he.2 hk.symm, if_neg fun hk => he.1 hk.symm, h]

/-- A thread is there because it was moved, or it was there before. -/
theorem lookup_refiled_cases (h : (l.foldl (refile y) threads).lookup k = some t) :
    (∃ e ∈ l, k = y ++ ":" ++ e.2.role.token ∧ t = { e.2 with sessionId := y }) ∨
      threads.lookup k = some t := by
  induction l generalizing threads with
  | nil => exact .inr h
  | cons e l ih =>
    rcases ih h with ⟨e', he', hk⟩ | h
    · exact .inl ⟨e', List.mem_cons_of_mem e he', hk⟩
    · rw [lookup_refile] at h
      split_ifs at h with h₁ h₂
      · exact .inl ⟨e, List.mem_cons_self, h₁, (Option.some.inj h).symm⟩
      · exact .inr h

/-- A thread that is moved is there afterwards, unless another one gets its key. -/
theorem lookup_refiled {e : Sigma fun _ : String => AgentThread} (he : e ∈ l)
    (hkey : ∀ e' ∈ l, e'.1 ≠ y ++ ":" ++ e.2.role.token)
    (hrole : ∀ e' ∈ l, e'.2.role = e.2.role → e'.2 = e.2) :
    (l.foldl (refile y) threads).lookup (y ++ ":" ++ e.2.role.token) =
      some { e.2 with sessionId := y } := by
  induction l generalizing threads e with
  | nil => cases he
  | cons a l ih =>
    have hkey' := fun e' he' => hkey e' (List.mem_cons_of_mem a he')
    have hrole' := fun e' he' => hrole e' (List.mem_cons_of_mem a he')
    by_cases hl : ∃ e' ∈ l, e'.2 = e.2
    · obtain ⟨e', he', heq⟩ := hl
      rw [← heq]
      exact ih he' (heq ▸ hkey') (heq ▸ hrole')
    · have ha : a.2 = e.2 := by
        rcases List.mem_cons.1 he with rfl | he
        · rfl
        · exact absurd ⟨e, he, rfl⟩ hl
      rw [List.foldl_cons]
      refine lookup_refiled_other ?_ fun e' he' => ⟨hkey' e' he', fun hk => hl ⟨e', he', ?_⟩⟩
      · rw [lookup_refile, ha, if_pos rfl]
      · refine hrole' e' he' ?_
        have htoken := (String.append_right_inj _).1 hk
        cases h₁ : e'.2.role <;> cases h₂ : e.2.role <;> rw [h₁, h₂] at htoken <;>
          first | rfl | exact absurd htoken (by decide)

end Refiling

/-- The threads of another Session stay as they are. -/
theorem thread_of_other (hcur : cur ≠ x) (hy : cur ≠ y) (hcolon : ':' ∉ y.toList)
    (hfiled : ∀ key thread, s.agentThreads.lookup key = some thread → thread.sessionId = cur →
      ∃ role account, key = threadKey cur role account) (session : Session) (key : String)
    (thread : AgentThread) :
    ((s.moveSession x y session).agentThreads.lookup key = some thread ∧ thread.sessionId = cur) ↔
      (s.agentThreads.lookup key = some thread ∧ thread.sessionId = cur) := by
  rw [moveSession_agentThreads]
  constructor
  · rintro ⟨h, hc⟩
    rcases lookup_refiled_cases h with ⟨e, -, -, rfl⟩ | h
    · exact absurd hc.symm hy
    · exact ⟨h, hc⟩
  · rintro ⟨h, hc⟩
    refine ⟨lookup_refiled_other h fun e he => ⟨?_, ?_⟩, hc⟩
    · rintro rfl
      obtain ⟨hmem, hx⟩ := List.mem_filter.1 he
      rw [AList.mem_lookup_iff.2 hmem] at h
      obtain rfl := Option.some.inj h
      exact hcur (hc.symm.trans (of_decide_eq_true hx))
    · intro hk
      obtain ⟨role, account, hkey⟩ := hfiled key thread h hc
      exact hy (threadKey_eq_home hcolon (hkey.symm.trans hk.symm)).2

/-! ## What a move does -/

theorem StandsFor.move {id id' : String} (h : b.StandsFor id id') (hx : b.IsHome x)
    (hy : b.IsHome y) : b.StandsFor id (renamed x y id') := by
  by_cases hid : id' = x
  · subst hid
    rw [renamed_self]
    rcases h with rfl | ⟨h, -⟩
    · exact .inr ⟨.inr hx, hy⟩
    · exact .inr ⟨h, hy⟩
  · rwa [renamed_ne hid]

theorem sessionEndpoint_injective {id id' : String} (h : sessionEndpoint id = sessionEndpoint id') :
    id = id' := (String.append_right_inj _).1 h

theorem Follows.move (h : Follows b s old cur) (hne : cur ≠ y) (session : Session) :
    Follows b (s.moveSession x y session) old (renamed x y cur) where
  goals id g hg hold := by
    change (Dict.mapVals _ s.goals).lookup id = _
    rw [Dict.lookup_mapVals, h.goals id g hg hold]
    rfl
  runs id r hr hold := by
    change (Dict.mapVals _ s.dispatchRuns).lookup id = _
    rw [Dict.lookup_mapVals, h.runs id r hr hold]
    rfl
  readiness i e he hold := by
    change (s.dispatchReadiness.map _)[i]? = _
    rw [List.getElem?_map, h.readiness i e he hold]
    rfl
  cursor id hid := by
    have hcur := h.cursor id hid
    unfold moveSession
    dsimp only
    by_cases hx : cur = x
    · subst hx
      rw [renamed_self, hcur, Dict.lookup_insert_of, if_pos rfl]
    · rw [renamed_ne hx]
      have hne' : ∀ z, cur ≠ z → sessionEndpoint cur ≠ sessionEndpoint z := fun z hz he =>
        hz (sessionEndpoint_injective he)
      cases s.endpointCursors.lookup (sessionEndpoint x) with
      | none => exact hcur
      | some id' =>
        rw [Dict.lookup_insert_of, Dict.lookup_erase_of, if_neg (hne' y hne), if_neg (hne' x hx),
          hcur]

/-- **A move renames** what refers to the Session. -/
theorem Refers.move (h : Refers b s old cur) (hx : b.IsHome x) (hy : b.IsHome y) (hne : cur ≠ y)
    (session : Session) : Refers b (s.moveSession x y session) old (renamed x y cur) where
  toFollows := h.toFollows.move hne session
  children c hc := by
    obtain ⟨c', hc', hs⟩ := h.children c hc
    exact ⟨renamed x y c', List.mem_map.2 ⟨_, hc', rfl⟩, hs.move hx hy⟩
  parents p hp := by
    obtain ⟨p', hp', hs⟩ := h.parents p hp
    exact ⟨renamed x y p', List.mem_map.2 ⟨_, hp', rfl⟩, hs.move hx hy⟩

/-- The record goes with the id. -/
theorem lookup_moveSession {session' : Session} (hx : s.sessions.lookup x = some session)
    (hcur : s.sessions.lookup cur = some session') (hne : cur ≠ y) :
    (s.moveSession x y session).sessions.lookup (renamed x y cur) = some session' := by
  change ((s.sessions.erase x).insert y session).lookup _ = _
  by_cases hcx : cur = x
  · subst hcx
    rw [renamed_self, AList.lookup_insert]
    exact hx.symm.trans hcur
  · rw [renamed_ne hcx, AList.lookup_insert_ne hne, Dict.lookup_erase_of, if_neg hcx, hcur]

/-- What a load leaves alone: the waits, and the logs. -/
structure KeepsWaits (b s : State) : Prop where
  waits : ∀ id, (s.goals.lookup id).map Goal.waiting = (b.goals.lookup id).map Goal.waiting
  declared : ∀ id, (s.dispatchRuns.lookup id).map DispatchRun.declaredOutcome =
    (b.dispatchRuns.lookup id).map DispatchRun.declaredOutcome
  persisted : s.persisted = b.persisted
  pending : s.pending = ∅

theorem KeepsWaits.move (h : KeepsWaits b s) (x y : String) (session : Session) :
    KeepsWaits b (s.moveSession x y session) where
  waits id := by
    rw [← h.waits id]
    change ((Dict.mapVals _ s.goals).lookup id).map _ = _
    rw [Dict.lookup_mapVals, Option.map_map]
    rfl
  declared id := by
    rw [← h.declared id]
    change ((Dict.mapVals _ s.dispatchRuns).lookup id).map _ = _
    rw [Dict.lookup_mapVals, Option.map_map]
    rfl
  persisted := h.persisted
  pending := by
    unfold moveSession
    rw [h.pending]
    rfl

theorem UnitsRefer.move (h : UnitsRefer b s username old cur) (x y : String) (session : Session) :
    UnitsRefer b (s.moveSession x y session) username old (renamed x y cur) := by
  have hlook : ∀ id unit, s.units.lookup id = some unit →
      (s.moveSession x y session).units.lookup id = some
        { unit with
          singletonSessionId := renamed x y unit.singletonSessionId
          schedule := unit.schedule.map fun schedule =>
            { schedule with
              nextRunRequiredBySessionId := schedule.nextRunRequiredBySessionId.map (renamed x y)
              nextRunSetBySessionId := renamed x y schedule.nextRunSetBySessionId } } := by
    intro id unit hid
    change (Dict.mapVals _ s.units).lookup id = _
    rw [Dict.lookup_mapVals, hid]
    rfl
  constructor
  · intro id unit hid hold
    obtain ⟨id', unit', hid', hor, hs⟩ := h.singleton id unit hid hold
    exact ⟨id', _, hlook id' unit' hid', hor, by rw [hs]⟩
  · intro id unit plan hid hplan
    obtain ⟨id', unit', plan', hid', hor, hplan', hrequired, hset⟩ := h.schedule id unit plan hid hplan
    refine ⟨id', _, { plan' with
      nextRunRequiredBySessionId := plan'.nextRunRequiredBySessionId.map (renamed x y)
      nextRunSetBySessionId := renamed x y plan'.nextRunSetBySessionId }, hlook id' unit' hid', hor,
      ?_, fun ho => ?_, fun ho => ?_⟩
    · rw [hplan']
      rfl
    · rw [hrequired ho]
      rfl
    · rw [hset ho]

/-! ## What the other steps do -/

theorem Follows.of_fields (h : Follows b s old cur) (hgoals : s'.goals = s.goals)
    (hruns : s'.dispatchRuns = s.dispatchRuns)
    (hready : s'.dispatchReadiness = s.dispatchReadiness)
    (hcursors : s'.endpointCursors = s.endpointCursors) : Follows b s' old cur where
  goals := hgoals ▸ h.goals
  runs := hruns ▸ h.runs
  readiness := hready ▸ h.readiness
  cursor := hcursors ▸ h.cursor

theorem Refers.of_fields (h : Refers b s old cur) (hgoals : s'.goals = s.goals)
    (hruns : s'.dispatchRuns = s.dispatchRuns)
    (hready : s'.dispatchReadiness = s.dispatchReadiness)
    (hcursors : s'.endpointCursors = s.endpointCursors)
    (hedges : ∀ e ∈ s.sessionEdges, e ∈ s'.sessionEdges) : Refers b s' old cur where
  toFollows := h.toFollows.of_fields hgoals hruns hready hcursors
  children c hc := by
    obtain ⟨c', hc', hs⟩ := h.children c hc
    exact ⟨c', hedges _ hc', hs⟩
  parents p hp := by
    obtain ⟨p', hp', hs⟩ := h.parents p hp
    exact ⟨p', hedges _ hp', hs⟩

theorem KeepsWaits.of_fields (h : KeepsWaits b s) (hgoals : s'.goals = s.goals)
    (hruns : s'.dispatchRuns = s.dispatchRuns) (hpersisted : s'.persisted = s.persisted)
    (hpending : s'.pending = s.pending) : KeepsWaits b s' where
  waits := hgoals ▸ h.waits
  declared := hruns ▸ h.declared
  persisted := hpersisted.trans h.persisted
  pending := hpending.trans h.pending

theorem UnitsRefer.step (h : UnitsRefer b s username old cur)
    (hplan : ∀ id unit, s.units.lookup id = some unit → ∃ id' unit',
      s'.units.lookup id' = some unit' ∧ (id' = id ∨ ∃ n, n ∈ b.accounts ∧ id' = accountHomeUnitId n) ∧
      unit.SamePlan unit')
    (hsingle : ∀ id unit id₁ unit₁, b.units.lookup id = some unit → unit.singletonSessionId = old →
      (id₁ = id ∨ b.StoredHomeUnit username id ∧ id₁ = accountHomeUnitId username) →
      s.units.lookup id₁ = some unit₁ → unit₁.singletonSessionId = cur →
      ∃ id' unit', s'.units.lookup id' = some unit' ∧
        (id' = id ∨ b.StoredHomeUnit username id ∧ id' = accountHomeUnitId username) ∧
        unit'.singletonSessionId = cur) :
    UnitsRefer b s' username old cur := by
  constructor
  · intro id unit hid hold
    obtain ⟨id₁, unit₁, hid₁, hor, hs⟩ := h.singleton id unit hid hold
    exact hsingle id unit id₁ unit₁ hid hold hor hid₁ hs
  · intro id unit plan hid hp
    obtain ⟨id₁, unit₁, plan₁, hid₁, hor, hp₁, hrequired, hset⟩ := h.schedule id unit plan hid hp
    obtain ⟨id', unit', hid', hor', hsame⟩ := hplan id₁ unit₁ hid₁
    obtain ⟨plan', hp', hrequired', hset'⟩ := hsame plan₁ hp₁
    refine ⟨id', unit', plan', hid', ?_, hp', fun ho => hrequired'.trans (hrequired ho),
      fun ho => hset'.trans (hset ho)⟩
    rcases hor' with rfl | hhome
    · exact hor
    · exact .inr hhome

/-- The home Session of a user is renamed, or there is nothing to rename. -/
def Renames (s : State) (x y : String) (s' : State) : Prop :=
  s' = s ∧ (x = "" ∨ x = y ∨ x ∉ s.sessions) ∨
    x ≠ y ∧ y ∉ s.sessions ∧
      ∃ session, s.sessions.lookup x = some session ∧ s' = s.moveSession x y session

/-- The home Unit of a user is moved, or there is nothing to move. -/
def MovesUnit (units : Dict String UnitRecord) (x y : String) (units' : Dict String UnitRecord) :
    Prop :=
  units' = units ∨ x ≠ y ∧ y ∉ units.erase x ∧
    ∃ unit, units.lookup x = some unit ∧ units' = (units.erase x).insert y unit

theorem renameSessionId_cases (h : s.renameSessionId x y = .ok s') : s.Renames x y s' := by
  unfold renameSessionId at h
  cases hs : s.sessions.lookup x with
  | none =>
    rw [hs] at h
    exact .inl ⟨(Except.ok.inj h).symm, .inr (.inr (AList.lookup_eq_none.1 hs))⟩
  | some session =>
    rw [hs] at h
    dsimp only at h
    split_ifs at h with hxy hfree
    · exact .inl ⟨(Except.ok.inj h).symm, .inr (.inl hxy)⟩
    · exact .inr ⟨hxy, hfree, session, hs, (Except.ok.inj h).symm⟩

/-- What `assignHome` does. -/
theorem assignHome_moves {user : User} (h : s.assignHome n user = .ok s') :
    ∃ s₁ units, s.Renames (strip user.homeSessionId) (accountHomeSessionId n) s₁ ∧
      MovesUnit s₁.units (strip user.homeUnitId) (accountHomeUnitId n) units ∧
      s' = { s₁ with
        units := units
        users := s₁.users.modify n fun u => u.settle n } := by
  unfold assignHome at h
  dsimp only at h
  rw [ite_bind] at h
  obtain ⟨s₁, hrename, h⟩ := Except.bind_eq_ok.1 h
  have hrenames : s.Renames (strip user.homeSessionId) (accountHomeSessionId n) s₁ := by
    split_ifs at hrename with hc
    · exact renameSessionId_cases hrename
    · refine .inl ⟨(Except.ok.inj hrename).symm, ?_⟩
      by_cases hx : strip user.homeSessionId = ""
      · exact .inl hx
      · exact .inr (.inl (by_contra fun hne => hc ⟨hx, hne⟩))
  split_ifs at h with hc hfree
  · cases hs : s₁.units.lookup (strip user.homeUnitId) with
    | none =>
      rw [hs] at h
      exact ⟨s₁, s₁.units, hrenames, .inl rfl, (Except.ok.inj h).symm⟩
    | some unit =>
      rw [hs] at h
      cases h
  · cases hs : s₁.units.lookup (strip user.homeUnitId) with
    | none =>
      rw [hs] at h
      exact ⟨s₁, s₁.units, hrenames, .inl rfl, (Except.ok.inj h).symm⟩
    | some unit =>
      rw [hs] at h
      exact ⟨s₁, _, hrenames, .inr ⟨hc.2, hfree, unit, hs, rfl⟩, (Except.ok.inj h).symm⟩
  · exact ⟨s₁, s₁.units, hrenames, .inl rfl, (Except.ok.inj h).symm⟩

/-- **What `ensureUserHome` does** for a login user. -/
theorem ensureUserHome_moves {user : User} (hl : s.users.lookup n = some user)
    (ha : user.status = .active) (h : s.ensureUserHome timestamp n = .ok s') :
    ∃ s₁ units edges, s.Renames (strip user.homeSessionId) (accountHomeSessionId n) s₁ ∧
      MovesUnit s₁.units (strip user.homeUnitId) (accountHomeUnitId n) units ∧
      s' = { State.house { s₁ with units := units } n timestamp with sessionEdges := edges } ∧
      ∀ e ∈ s₁.sessionEdges, e ∈ edges := by
  unfold ensureUserHome at h
  rw [hl] at h
  dsimp only at h
  rw [if_neg (by rw [ha]; decide)] at h
  obtain ⟨s₃, hassign, h⟩ := Except.bind_eq_ok.1 h
  obtain ⟨-, h⟩ := Except.require_bind_eq_ok.1 h
  obtain ⟨s₁, units, hrenames, hmoves, hs₃⟩ := assignHome_moves hassign
  have hedges := house_edges { s₁ with units := units } n timestamp
  have hhouse : (s₃.ensureHomeUnit n).ensureHomeSession n timestamp =
      State.house { s₁ with units := units } n timestamp := by
    rw [hs₃]
    rfl
  rw [hhouse] at h
  refine ⟨s₁, units, s'.sessionEdges, hrenames, hmoves, ?_⟩
  generalize State.house { s₁ with units := units } n timestamp = t at h hedges ⊢
  split_ifs at h
  · obtain rfl := Except.ok.inj h
    exact ⟨rfl, fun e he => hedges ▸ he⟩
  · obtain ⟨-, -, -, rfl | rfl⟩ := linkSessions_cases h
    · exact ⟨rfl, fun e he => hedges ▸ he⟩
    · exact ⟨rfl, fun e he => List.mem_append_left _ (hedges ▸ he)⟩

/-! ## The house of a user -/

theorem house_frame (s : State) (n timestamp : String) :
    (s.house n timestamp).goals = s.goals ∧
    (s.house n timestamp).dispatchRuns = s.dispatchRuns ∧
    (s.house n timestamp).dispatchReadiness = s.dispatchReadiness ∧
    (s.house n timestamp).endpointCursors = s.endpointCursors ∧
    (s.house n timestamp).agentThreads = s.agentThreads ∧
    (s.house n timestamp).persisted = s.persisted ∧
    (s.house n timestamp).pending = s.pending := by
  unfold house ensureHomeSession ensureHomeUnit
  dsimp only
  split_ifs <;> split <;> exact ⟨rfl, rfl, rfl, rfl, rfl, rfl, rfl⟩

/-- A Session keeps its cursors. -/
theorem house_session (n timestamp : String) {id : String} (h : s.sessions.lookup id = some session) :
    ∃ session', (s.house n timestamp).sessions.lookup id = some session' ∧
      session'.roleCursors = session.roleCursors := by
  have hsame : (State.ensureHomeUnit
      { s with users := s.users.modify n fun u => u.settle n } n).sessions = s.sessions := by
    unfold ensureHomeUnit
    dsimp only
    split <;> rfl
  unfold house ensureHomeSession
  dsimp only
  rw [hsame]
  split_ifs with hin
  · rw [modifySession, Dict.lookup_modify, hsame]
    split_ifs with hid
    · subst hid
      rw [h]
      exact ⟨_, rfl, rfl⟩
    · exact ⟨session, h, rfl⟩
  · dsimp only
    have hne : id ≠ accountHomeSessionId n := fun he =>
      hin (he ▸ Dict.mem_iff_lookup.2 ⟨session, h⟩)
    rw [AList.lookup_insert_ne hne]
    exact ⟨session, h, rfl⟩

theorem house_home_mem (s : State) (n timestamp : String) :
    accountHomeSessionId n ∈ (s.house n timestamp).sessions :=
  mem_sessions_iff.2 ⟨_, house_post s n timestamp⟩

/-- The home Unit keeps the plan of its next run. -/
theorem house_unit_plan (n timestamp : String) {unit : UnitRecord}
    (h : s.units.lookup (accountHomeUnitId n) = some unit) :
    ∃ unit', (s.house n timestamp).units.lookup (accountHomeUnitId n) = some unit' ∧
      unit'.singletonSessionId = accountHomeSessionId n ∧ unit.SamePlan unit' := by
  rw [house_units]
  unfold ensureHomeUnit
  dsimp only
  rw [h]
  refine ⟨{ unit with
    instancePolicy := .singleton
    singletonSessionId := accountHomeSessionId n
    ownerAccount := n }, ?_, rfl, .of_eq rfl⟩
  rw [modifyUnit, Dict.lookup_modify_self, h]
  rfl

theorem UnitsRefer.house (h : UnitsRefer b s username old cur) (timestamp : String)
    (hcur : ∀ id unit, b.units.lookup id = some unit → unit.singletonSessionId = old →
      (accountHomeUnitId n = id ∨ accountHomeUnitId n = accountHomeUnitId username) →
        accountHomeSessionId n = cur) :
    UnitsRefer b (s.house n timestamp) username old cur := by
  refine h.step (fun id unit hid => ?_) fun id unit id₁ unit₁ hid hold hor hid₁ hs => ?_
  · by_cases hn : id = accountHomeUnitId n
    · subst hn
      obtain ⟨unit', hid', -, hsame⟩ := house_unit_plan n timestamp hid
      exact ⟨_, unit', hid', .inl rfl, hsame⟩
    · exact ⟨id, unit, (house_unit_ne s n timestamp hn).trans hid, .inl rfl, .of_eq rfl⟩
  · by_cases hn : id₁ = accountHomeUnitId n
    · subst hn
      obtain ⟨unit', hid', hs', -⟩ := house_unit_plan n timestamp hid₁
      exact ⟨_, unit', hid', hor, hs'.trans (hcur id unit hid hold (hor.imp_right And.right))⟩
    · exact ⟨id₁, unit₁, (house_unit_ne s n timestamp hn).trans hid₁, hor, hs⟩

/-- The home Unit of a user is moved. -/
theorem UnitsRefer.moveUnit {units : Dict String UnitRecord} (h : UnitsRefer b s username old cur)
    (hm : MovesUnit s.units x (accountHomeUnitId n) units) (hn : n ∈ b.accounts)
    (hown : n = username → b.StoredHomeUnit username x)
    (hx : n ≠ username → ∀ id unit, b.units.lookup id = some unit →
      unit.singletonSessionId = old → x ≠ id ∧ (b.StoredHomeUnit username id →
        x = accountHomeUnitId username → accountHomeUnitId n = accountHomeUnitId username)) :
    UnitsRefer b { s with units := units } username old cur := by
  rcases hm with rfl | ⟨hne, hfree, unit₀, hunit₀, rfl⟩
  · exact h
  · have hother : ∀ id unit, s.units.lookup id = some unit → id ≠ x →
        ((s.units.erase x).insert (accountHomeUnitId n) unit₀).lookup id = some unit := by
      intro id unit hid hidx
      have herase : (s.units.erase x).lookup id = some unit := by
        rw [Dict.lookup_erase_of, if_neg hidx, hid]
      rw [Dict.lookup_insert_of, if_neg fun he => ?_, herase]
      exact hfree (he ▸ Dict.mem_iff_lookup.2 ⟨unit, herase⟩)
    refine h.step (fun id unit hid => ?_) fun id unit id₁ unit₁ hid hold hor hid₁ hs => ?_
    · by_cases hidx : id = x
      · subst hidx
        obtain rfl := Option.some.inj (hunit₀.symm.trans hid)
        exact ⟨_, _, AList.lookup_insert _, .inr ⟨n, hn, rfl⟩, .of_eq rfl⟩
      · exact ⟨id, unit, hother id unit hid hidx, .inl rfl, .of_eq rfl⟩
    · by_cases hidx : id₁ = x
      · subst hidx
        obtain rfl := Option.some.inj (hunit₀.symm.trans hid₁)
        refine ⟨_, _, AList.lookup_insert _, ?_, hs⟩
        by_cases hu : n = username
        · rcases hor with rfl | ⟨-, hid₁'⟩
          · exact .inr ⟨hown hu, by rw [hu]⟩
          · exact absurd (hid₁'.trans (by rw [hu])) hne
        · obtain ⟨hne', hsame⟩ := hx hu id unit hid hold
          rcases hor with rfl | ⟨hstored, rfl⟩
          · exact absurd rfl hne'
          · exact absurd (hsame hstored rfl).symm hne
      · exact ⟨id₁, unit₁, hother id₁ unit₁ hid₁ hidx, hor, hs⟩

/-! ## One user -/

/-- What is known of a home Session while the users are given their homes. -/
structure Tracked (b s : State) (username old cur : String) : Prop where
  refers : Refers b s old cur
  units : UnitsRefer b s username old cur
  session : ∃ session session', b.sessions.lookup old = some session ∧
    s.sessions.lookup cur = some session' ∧ session'.roleCursors = session.roleCursors

namespace Tracked

theorem mem (h : Tracked b s username old cur) : cur ∈ s.sessions := by
  obtain ⟨-, session', -, hs, -⟩ := h.session
  exact Dict.mem_iff_lookup.2 ⟨session', hs⟩

/-- A home Session is renamed, this one or another. -/
theorem move (h : Tracked b s username old cur) (hx : b.IsHome x) (hy : b.IsHome y)
    (hsession : s.sessions.lookup x = some session) (hfree : y ∉ s.sessions) :
    Tracked b (s.moveSession x y session) username old (renamed x y cur) := by
  have hne : cur ≠ y := fun he => hfree (he ▸ h.mem)
  refine ⟨h.refers.move hx hy hne session, h.units.move x y session, ?_⟩
  obtain ⟨x₀, x₁, h₀, h₁, hc⟩ := h.session
  exact ⟨x₀, x₁, h₀, lookup_moveSession hsession h₁ hne, hc⟩

/-- The user is settled. -/
theorem house {units : Dict String UnitRecord} {edges : List Edge}
    (h : Tracked b s username old cur)
    (hunits : UnitsRefer b (State.house { s with units := units } n timestamp) username old cur)
    (hedges : ∀ e ∈ s.sessionEdges, e ∈ edges) :
    Tracked b { State.house { s with units := units } n timestamp with sessionEdges := edges }
      username old cur := by
  obtain ⟨hgoals, hruns, hready, hcursors, -, -, -⟩ :=
    house_frame { s with units := units } n timestamp
  refine ⟨h.refers.of_fields hgoals hruns hready hcursors hedges,
    ⟨hunits.singleton, hunits.schedule⟩, ?_⟩
  obtain ⟨x₀, x₁, h₀, h₁, hc⟩ := h.session
  obtain ⟨x₂, h₂, hc'⟩ := house_session (s := { s with units := units }) n timestamp h₁
  exact ⟨x₀, x₂, h₀, h₂, hc'.trans hc⟩

end Tracked

section Homes

variable {user : User} {Q : String → AgentThread → Prop}

/-- The threads of the Session are these. -/
def ThreadsAre (s : State) (cur : String) (Q : String → AgentThread → Prop) : Prop :=
  ∀ key thread, (s.agentThreads.lookup key = some thread ∧ thread.sessionId = cur) ↔ Q key thread

/-- **The home of somebody else** does not touch a home Session that is undisputed. -/
theorem Tracked.other (h : Tracked b s username old cur) (hu : b.Undisputed username old)
    (hn : n ≠ username) (hb : b.accounts.lookup n = some user) (ha : user.status = .active)
    (hcur : strip user.homeSessionId = cur → accountHomeSessionId n = cur)
    (hnew : accountHomeSessionId n = accountHomeSessionId username →
      cur = accountHomeSessionId username)
    (hQ : s.ThreadsAre cur Q) (hkeys : ∀ key thread, Q key thread →
      ∃ role account, key = threadKey cur role account)
    (hl : s.users.lookup n = some user) (hok : s.ensureUserHome timestamp n = .ok s') :
    Tracked b s' username old cur ∧ s'.ThreadsAre cur Q := by
  obtain ⟨s₁, units, edges, hrenames, hmoves, rfl, hedges⟩ := ensureUserHome_moves hl ha hok
  have hmem : n ∈ b.accounts := Dict.mem_iff_lookup.2 ⟨user, hb⟩
  have h₁ : Tracked b s₁ username old cur ∧ s₁.ThreadsAre cur Q := by
    rcases hrenames with ⟨rfl, -⟩ | ⟨hne, hfree, session, hsession, rfl⟩
    · exact ⟨h, hQ⟩
    · have hcx : cur ≠ strip user.homeSessionId := fun he => hne (he.symm.trans (hcur he.symm).symm)
      have hmoved := h.move ⟨n, user, hb, .inr rfl⟩ ⟨n, user, hb, .inl rfl⟩ hsession hfree
      rw [renamed_ne hcx] at hmoved
      refine ⟨hmoved, fun key thread => ?_⟩
      have hcy : cur ≠ accountHomeSessionId n := fun he => hfree (he ▸ h.mem)
      rw [thread_of_other hcx hcy (not_colon_home n) ?_, hQ]
      exact fun key thread ht hc => hkeys key thread ((hQ key thread).1 ⟨ht, hc⟩)
  have hmoved := h₁.1.units.moveUnit hmoves hmem (fun he => absurd he hn)
    fun _ id unit hid hold => ⟨((hu.singleton id unit hid hold).2 n user hb ha hn).1,
      fun hstored => hu.unit id unit hid hold hstored n user hb ha hn⟩
  refine ⟨h₁.1.house (hmoved.house timestamp fun id unit hid hold hor => ?_) hedges,
    fun key thread => ?_⟩
  · have hhome : accountHomeSessionId n = accountHomeSessionId username := by
      rcases hor with hid' | hhome
      · exact hid'.trans (((hu.singleton id unit hid hold).2 n user hb ha hn).2 hid')
      · exact hhome
    exact hhome.trans (hnew hhome).symm
  · rw [← h₁.2 key thread]
    obtain ⟨-, -, -, -, hthreads, -, -⟩ := house_frame { s₁ with units := units } n timestamp
    dsimp only
    rw [hthreads]

/-- The threads of a Session that has been renamed. -/
structure Refiles (b : State) (old new : String) (Q : String → AgentThread → Prop) : Prop where
  origin : ∀ key thread, Q key thread → ∃ role : Role, key = new ++ ":" ++ role.token
  kept : (∀ key thread, b.agentThreads.lookup key = some thread → thread.sessionId = old →
      thread.account = "") →
    ∀ key thread, b.agentThreads.lookup key = some thread → thread.sessionId = old →
      Q (new ++ ":" ++ thread.role.token) { thread with sessionId := new }

/-- The threads of the Session, renamed. -/
theorem refiles_move (hu : b.Undisputed username old) (hne : old ≠ accountHomeSessionId username)
    (hQ : s.ThreadsAre old fun key thread =>
      b.agentThreads.lookup key = some thread ∧ thread.sessionId = old)
    (hfree : ∀ key thread, s.agentThreads.lookup key = some thread →
      thread.sessionId ≠ accountHomeSessionId username) (session : Session) :
    Refiles b old (accountHomeSessionId username) fun key thread =>
      (s.moveSession old (accountHomeSessionId username) session).agentThreads.lookup key =
        some thread ∧ thread.sessionId = accountHomeSessionId username := by
  have hmem : ∀ e : Sigma fun _ : String => AgentThread,
      e ∈ s.agentThreads.entries.filter (fun e => e.2.sessionId = old) ↔
        b.agentThreads.lookup e.1 = some e.2 ∧ e.2.sessionId = old := by
    intro e
    rw [List.mem_filter, decide_eq_true_iff, ← AList.mem_lookup_iff, Option.mem_def]
    exact hQ e.1 e.2
  constructor
  · rintro key thread ⟨h, hc⟩
    rw [moveSession_agentThreads] at h
    rcases lookup_refiled_cases h with ⟨e, -, hk, -⟩ | h
    · exact ⟨e.2.role, hk⟩
    · exact absurd hc (hfree key thread h)
  · intro haccount key thread hl hold
    refine ⟨?_, rfl⟩
    rw [moveSession_agentThreads]
    refine lookup_refiled (e := ⟨key, thread⟩) ((hmem _).2 ⟨hl, hold⟩) (fun e he hk => ?_)
      fun e he hrole => ?_
    · obtain ⟨hle, hse⟩ := (hmem e).1 he
      exact hne (threadKey_eq_home (not_colon_home username)
        ((hu.filed e.1 e.2 hle hse).symm.trans hk)).2
    · obtain ⟨hle, hse⟩ := (hmem e).1 he
      have hkey := hu.filed e.1 e.2 hle hse
      rw [haccount e.1 e.2 hle hse, hrole, ← haccount key thread hl hold,
        ← hu.filed key thread hl hold] at hkey
      rw [hkey, hl] at hle
      exact (Option.some.inj hle).symm

/-- **The home of the user itself**: the Session is renamed. -/
theorem Tracked.own (h : Tracked b s username old old) (hu : b.Undisputed username old)
    (hb : b.accounts.lookup username = some user) (ha : user.status = .active)
    (hhome : strip user.homeSessionId = old) (hne : old ≠ "")
    (hne' : old ≠ accountHomeSessionId username)
    (hQ : s.ThreadsAre old fun key thread =>
      b.agentThreads.lookup key = some thread ∧ thread.sessionId = old)
    (hfree : ∀ key thread, s.agentThreads.lookup key = some thread →
      thread.sessionId ≠ accountHomeSessionId username)
    (hl : s.users.lookup username = some user) (hok : s.ensureUserHome timestamp username = .ok s') :
    accountHomeSessionId username ∉ s.sessions ∧
      Tracked b s' username old (accountHomeSessionId username) ∧
      ∃ Q, s'.ThreadsAre (accountHomeSessionId username) Q ∧
        Refiles b old (accountHomeSessionId username) Q := by
  obtain ⟨s₁, units, edges, hrenames, hmoves, rfl, hedges⟩ := ensureUserHome_moves hl ha hok
  rw [hhome] at hrenames
  obtain ⟨-, hx | hx | hx⟩ | ⟨-, hnew, session, hsession, rfl⟩ := hrenames
  · exact absurd hx hne
  · exact absurd hx hne'
  · exact absurd h.mem hx
  · have hmem : username ∈ b.accounts := Dict.mem_iff_lookup.2 ⟨user, hb⟩
    have hmoved := h.move ⟨username, user, hb, .inr hhome.symm⟩ ⟨username, user, hb, .inl rfl⟩
      hsession hnew
    rw [renamed_self] at hmoved
    have hunits := hmoved.units.moveUnit hmoves hmem (fun _ => ⟨user, hb, rfl⟩)
      fun hn => absurd rfl hn
    refine ⟨hnew, hmoved.house (hunits.house timestamp fun _ _ _ _ _ => rfl) hedges, _,
      fun key thread => ?_, refiles_move hu hne' hQ hfree session⟩
    obtain ⟨-, -, -, -, hthreads, -, -⟩ := house_frame
      { s.moveSession old (accountHomeSessionId username) session with units := units } username
        timestamp
    dsimp only
    rw [hthreads]

/-! ## All users -/

/-- A round is about a login user, or it does nothing. -/
theorem ensureUserHome_login (h : s.ensureUserHome timestamp n = .ok s') :
    s' = s ∨ ∃ user, s.users.lookup n = some user ∧ user.status = .active := by
  cases hl : s.users.lookup n with
  | none =>
    unfold ensureUserHome at h
    rw [hl] at h
    exact .inl (Except.ok.inj h).symm
  | some user =>
    cases ha : user.status with
    | service =>
      unfold ensureUserHome at h
      rw [hl] at h
      dsimp only at h
      rw [if_pos ha] at h
      exact .inl (Except.ok.inj h).symm
    | active => exact .inr ⟨user, rfl, ha⟩

/-- A round changes no other user. -/
theorem ensureUserHome_users (h : s.ensureUserHome timestamp n = .ok s') {m : String} (hm : m ≠ n) :
    s'.users.lookup m = s.users.lookup m := by
  rcases ensureUserHome_login h with rfl | ⟨user, hl, ha⟩
  · rfl
  · obtain ⟨s₁, units, edges, hrenames, -, rfl, -⟩ := ensureUserHome_moves hl ha h
    dsimp only
    rw [house_users, Dict.lookup_modify_ne _ _ hm]
    rcases hrenames with ⟨rfl, -⟩ | ⟨-, -, session, -, rfl⟩
    · rfl
    · rfl

/-- The rounds of some users change no other user. -/
theorem homes_users {names : List String}
    (hok : names.foldlM (fun s n => s.ensureUserHome timestamp n) s = .ok s') {m : String}
    (hm : m ∉ names) : s'.users.lookup m = s.users.lookup m :=
  Except.foldlM_invariant (P := fun t => t.users.lookup m = s.users.lookup m) hok rfl
    fun n hn _ _ ht hround =>
      (ensureUserHome_users hround fun he : m = n => hm (he ▸ hn)).trans ht

/-- A property that every round keeps, for a user that is as it was found, holds at the end. -/
theorem homes_keep {P : State → Prop} {names : List String}
    (hstep : ∀ n ∈ names, ∀ s s' : State, s.users.lookup n = b.accounts.lookup n →
      s.ensureUserHome timestamp n = .ok s' → P s → P s') (hnodup : names.Nodup)
    (husers : ∀ n ∈ names, s.users.lookup n = b.accounts.lookup n) (h : P s)
    (hok : names.foldlM (fun s n => s.ensureUserHome timestamp n) s = .ok s') : P s' := by
  induction names generalizing s with
  | nil =>
    obtain rfl := Except.ok.inj hok
    exact h
  | cons n names ih =>
    rw [List.foldlM_cons] at hok
    obtain ⟨s₁, h₁, hok⟩ := Except.bind_eq_ok.1 hok
    obtain ⟨hn, hnodup⟩ := List.nodup_cons.1 hnodup
    refine ih (fun m hm => hstep m (List.mem_cons_of_mem n hm)) hnodup (fun m hm => ?_)
      (hstep n List.mem_cons_self s s₁ (husers n List.mem_cons_self) h₁ h) hok
    exact (ensureUserHome_users h₁ fun he => hn (he ▸ hm)).trans
      (husers m (List.mem_cons_of_mem n hm))

/-- A Session is still there after the round of a user whose home it is not. -/
theorem ensureUserHome_mem (hl : s.users.lookup n = some user) (ha : user.status = .active)
    (h : s.ensureUserHome timestamp n = .ok s') :
    accountHomeSessionId n ∈ s'.sessions ∧ ∀ id ∈ s.sessions,
      (strip user.homeSessionId = id → accountHomeSessionId n = id) → id ∈ s'.sessions := by
  obtain ⟨s₁, units, edges, hrenames, -, rfl, -⟩ := ensureUserHome_moves hl ha h
  refine ⟨house_home_mem _ n timestamp, fun id hid hx => ?_⟩
  have h₁ : id ∈ s₁.sessions := by
    rcases hrenames with ⟨rfl, -⟩ | ⟨hne, -, session, -, rfl⟩
    · exact hid
    · have hidx : id ≠ strip user.homeSessionId := fun he => hne (he.symm.trans (hx he.symm).symm)
      change id ∈ (s.sessions.erase _).insert _ session
      rw [AList.mem_insert, AList.mem_erase]
      exact .inr ⟨hidx, hid⟩
  obtain ⟨session, hsession⟩ := Dict.mem_iff_lookup.1 h₁
  obtain ⟨session', hs', -⟩ := house_session (s := { s₁ with units := units }) n timestamp hsession
  exact Dict.mem_iff_lookup.2 ⟨session', hs'⟩

/-- No thread is filed for the Session. -/
def NoThreads (s : State) (id : String) : Prop :=
  ∀ key thread, s.agentThreads.lookup key = some thread → thread.sessionId ≠ id

theorem NoThreads.round (h : s.NoThreads x) (hl : s.users.lookup n = some user)
    (ha : user.status = .active) (hne : accountHomeSessionId n ≠ x)
    (hok : s.ensureUserHome timestamp n = .ok s') : s'.NoThreads x := by
  obtain ⟨s₁, units, edges, hrenames, -, rfl, -⟩ := ensureUserHome_moves hl ha hok
  intro key thread ht
  obtain ⟨-, -, -, -, hthreads, -, -⟩ := house_frame { s₁ with units := units } n timestamp
  dsimp only at ht
  rw [hthreads] at ht
  rcases hrenames with ⟨rfl, -⟩ | ⟨-, -, session, -, rfl⟩
  · exact h key thread ht
  · rw [moveSession_agentThreads] at ht
    rcases lookup_refiled_cases ht with ⟨e, -, -, rfl⟩ | ht
    · exact hne
    · exact h key thread ht

/-- Before the round of the user: the Session is where it was, or the round is going to
    find its new id taken. -/
def Awaits (b s : State) (username old : String) : Prop :=
  (Tracked b s username old old ∧ (s.ThreadsAre old fun key thread =>
    b.agentThreads.lookup key = some thread ∧ thread.sessionId = old) ∧
    s.NoThreads (accountHomeSessionId username)) ∨
  b.TakenBefore username ∧ old ∈ s.sessions ∧ accountHomeSessionId username ∈ s.sessions

theorem Awaits.round (h : Awaits b s username old) (hu : b.Undisputed username old)
    (hlt : n < username) (hsame : s.users.lookup n = b.accounts.lookup n)
    (hok : s.ensureUserHome timestamp n = .ok s') : Awaits b s' username old := by
  rcases ensureUserHome_login hok with rfl | ⟨user, hl, ha⟩
  · exact h
  have hb := hsame.symm.trans hl
  have hn := hlt.ne
  obtain ⟨hold, hnew⟩ := hu.session n user hb ha hn
  have hold := hold hlt
  obtain ⟨hmem, hkeep⟩ := ensureUserHome_mem hl ha hok
  by_cases hhome : accountHomeSessionId n = accountHomeSessionId username
  · refine .inr ⟨⟨n, user, hb, ha, hlt, hhome⟩, hkeep old ?_ fun he => absurd he hold,
      hhome ▸ hmem⟩
    rcases h with ⟨htracked, -⟩ | ⟨-, hin, -⟩
    · exact htracked.mem
    · exact hin
  · rcases h with ⟨htracked, hQ, hfree⟩ | ⟨htaken, hin, hin'⟩
    · obtain ⟨htracked', hQ'⟩ := htracked.other hu hn hb ha (fun he => absurd he hold)
        (fun he => absurd he hhome) hQ
        (fun key thread ⟨ht, hs⟩ => ⟨_, _, hu.filed key thread ht hs⟩) hl hok
      exact .inl ⟨htracked', hQ', hfree.round hl ha hhome hok⟩
    · exact .inr ⟨htaken, hkeep old hin fun he => absurd he hold,
        hkeep _ hin' fun he => (hnew he).resolve_right fun hno => hno.2 htaken⟩

/-- **After all users have their homes**, the Session has its new id. -/
theorem Tracked.homes (h : Tracked b s username old old) (hu : b.Undisputed username old)
    (hb : b.accounts.lookup username = some user) (ha : user.status = .active)
    (hhome : strip user.homeSessionId = old) (hne : old ≠ "")
    (hne' : old ≠ accountHomeSessionId username) (husers : s.users = b.accounts)
    (hthreads : s.agentThreads = b.agentThreads)
    (hok : s.ensureUserHomeSessions timestamp = .ok s') :
    Tracked b s' username old (accountHomeSessionId username) ∧
      ∃ Q, s'.ThreadsAre (accountHomeSessionId username) Q ∧
        Refiles b old (accountHomeSessionId username) Q := by
  have hin : username ∈ s.users.keys.insertionSort (· ≤ ·) := by
    rw [List.mem_insertionSort, ← AList.mem_keys, husers]
    exact Dict.mem_iff_lookup.2 ⟨user, hb⟩
  have hnodup : (s.users.keys.insertionSort (· ≤ ·)).Nodup :=
    (List.perm_insertionSort (· ≤ ·) _).nodup_iff.2 s.users.keys_nodup
  have hsorted := List.pairwise_insertionSort (· ≤ ·) s.users.keys
  obtain ⟨pre, post, hsplit⟩ := List.append_of_mem hin
  unfold ensureUserHomeSessions at hok
  rw [hsplit] at hnodup hok hsorted
  rw [List.foldlM_append] at hok
  obtain ⟨s₁, hpre, hok⟩ := Except.bind_eq_ok.1 hok
  rw [List.foldlM_cons] at hok
  obtain ⟨s₂, hown, hpost⟩ := Except.bind_eq_ok.1 hok
  obtain ⟨hnpre, hnpost, hdis⟩ := List.nodup_append.1 hnodup
  obtain ⟨-, hsorted, hpairs⟩ := List.pairwise_append.1 hsorted
  have hbefore : ∀ n ∈ pre, n < username := fun n hn =>
    lt_of_le_of_ne (hpairs n hn username List.mem_cons_self)
      (hdis n hn username List.mem_cons_self)
  obtain ⟨hnotin, hnpost⟩ := List.nodup_cons.1 hnpost
  have hstart : Awaits b s username old := by
    refine .inl ⟨h, fun key thread => by rw [hthreads], fun key thread ht => ?_⟩
    rw [hthreads] at ht
    exact hu.free key thread ht
  have hawaits := homes_keep (P := fun s => Awaits b s username old)
    (fun n hn s s' hsame hs hP => hP.round hu (hbefore n hn) hsame hs) hnpre
    (fun n _ => by rw [husers]) hstart hpre
  have hl : s₁.users.lookup username = some user := by
    rw [homes_users hpre fun hm => hdis username hm username List.mem_cons_self rfl, husers, hb]
  have hpast : Tracked b s₂ username old (accountHomeSessionId username) ∧
      ∃ Q, s₂.ThreadsAre (accountHomeSessionId username) Q ∧
        Refiles b old (accountHomeSessionId username) Q := by
    rcases hawaits with ⟨htracked, hQ, hfree⟩ | ⟨-, hmem, hmem'⟩
    · exact (htracked.own hu hb ha hhome hne hne' hQ hfree hl hown).2
    · -- The round raises when the new id is taken.
      obtain ⟨s₃, units, edges, hrenames, -, -, -⟩ := ensureUserHome_moves hl ha hown
      rw [hhome] at hrenames
      rcases hrenames with ⟨-, hx | hx | hx⟩ | ⟨-, hnew, -⟩
      · exact absurd hx hne
      · exact absurd hx hne'
      · exact absurd hmem hx
      · exact absurd hmem' hnew
  obtain ⟨htracked, Q, hQ, hrefiles⟩ := hpast
  have hafter := homes_keep (b := b) (P := fun s =>
    Tracked b s username old (accountHomeSessionId username) ∧
      s.ThreadsAre (accountHomeSessionId username) Q) (fun n hn s s' hsame hs hP => ?_) hnpost
    (fun n hn => ?_) ⟨htracked, hQ⟩ hpost
  · exact ⟨hafter.1, Q, hafter.2, hrefiles⟩
  · have hnu : n ≠ username := fun he => hnotin (he ▸ hn)
    rcases ensureUserHome_login hs with rfl | ⟨other, hlo, hao⟩
    · exact hP
    · have hbo := hsame.symm.trans hlo
      have hlater : ¬n < username := not_lt.2 ((List.pairwise_cons.1 hsorted).1 n hn)
      have hnew := (hu.session n other hbo hao hnu).2
      exact hP.1.other hu hnu hbo hao (fun he => (hnew he).resolve_right fun h => hlater h.1)
        (fun _ => rfl) hP.2
        (fun key thread hq => by
          obtain ⟨role, hkey⟩ := hrefiles.origin key thread hq
          exact ⟨role, "", hkey.trans (threadKey_none _ role).symm⟩) hlo hs
  · have hnu : n ≠ username := fun he => hnotin (he ▸ hn)
    rw [ensureUserHome_users hown hnu,
      homes_users hpre fun hm => hdis n hm n (List.mem_cons_of_mem username hn) rfl, husers]

/-- The home of an account after the users have their homes: a service account keeps the one
    that it is stored with. -/
def HasHome (b : State) (m : String) (user : User) : Prop :=
  m ∈ b.accounts ∧ strip user.homeSessionId = accountHomeSessionId m ∨
    user.status = .service ∧ b.accounts.lookup m = some user

theorem hasHome_round (hsame : s.users.lookup n = b.accounts.lookup n)
    (h : s.ensureUserHome timestamp n = .ok s') {user : User} (hl : s'.users.lookup n = some user) :
    HasHome b n user := by
  cases hs : s.users.lookup n with
  | none =>
    unfold ensureUserHome at h
    rw [hs] at h
    obtain rfl := Except.ok.inj h
    rw [hs] at hl
    cases hl
  | some user₀ =>
    cases ha : user₀.status with
    | service =>
      unfold ensureUserHome at h
      rw [hs] at h
      dsimp only at h
      rw [if_pos ha] at h
      obtain rfl := Except.ok.inj h
      obtain rfl := Option.some.inj (hs.symm.trans hl)
      exact .inr ⟨ha, hsame.symm.trans hs⟩
    | active =>
      obtain ⟨s₁, units, edges, hrenames, -, rfl, -⟩ := ensureUserHome_moves hs ha h
      have hl₁ : s₁.users.lookup n = some user₀ := by
        rcases hrenames with ⟨rfl, -⟩ | ⟨-, -, session, -, rfl⟩
        · exact hs
        · exact hs
      dsimp only at hl
      rw [house_users, Dict.lookup_modify_self, hl₁] at hl
      obtain rfl := Option.some.inj hl
      exact .inl ⟨Dict.mem_iff_lookup.2 ⟨user₀, hsame.symm.trans hs⟩, strip_accountHomeSessionId n⟩

theorem homes_hasHome {names : List String} (hnodup : names.Nodup)
    (husers : ∀ n ∈ names, s.users.lookup n = b.accounts.lookup n)
    (hok : names.foldlM (fun s n => s.ensureUserHome timestamp n) s = .ok s') :
    ∀ m ∈ names, ∀ user, s'.users.lookup m = some user → HasHome b m user := by
  induction names generalizing s with
  | nil => exact fun m hm => absurd hm List.not_mem_nil
  | cons n names ih =>
    rw [List.foldlM_cons] at hok
    obtain ⟨s₁, h₁, hrounds⟩ := Except.bind_eq_ok.1 hok
    obtain ⟨hn, hnames⟩ := List.nodup_cons.1 hnodup
    have hrest : ∀ m ∈ names, s₁.users.lookup m = b.accounts.lookup m := fun m hm =>
      (ensureUserHome_users h₁ fun he => hn (he ▸ hm)).trans (husers m (List.mem_cons_of_mem n hm))
    intro m hm user hl
    rcases List.mem_cons.1 hm with he | hm
    · subst he
      exact hasHome_round (husers m List.mem_cons_self) h₁ ((homes_users hrounds hn).symm.trans hl)
    · exact ih hnames hrest hrounds m hm user hl

/-- The homes that the users have. -/
theorem homes_known (husers : s.users = b.accounts)
    (hok : s.ensureUserHomeSessions timestamp = .ok s') :
    ∀ m user, s'.users.lookup m = some user → HasHome b m user := by
  have hnodup := (List.perm_insertionSort (· ≤ ·) _).nodup_iff.2 s.users.keys_nodup
  have hsame : ∀ n ∈ s.users.keys.insertionSort (· ≤ ·),
      s.users.lookup n = b.accounts.lookup n := fun n _ => by rw [husers]
  intro m user hm
  refine homes_hasHome hnodup hsame hok m (by_contra fun hno => ?_) user hm
  have hl : s.users.lookup m = some user := (homes_users hok hno).symm.trans hm
  rw [List.mem_insertionSort, ← AList.mem_keys] at hno
  exact hno (Dict.mem_iff_lookup.2 ⟨user, hl⟩)

end Homes

/-! ## The rest of a load -/

/-- A step of `ensure_defaults` that prepares the Units, the Sessions or the accounts. -/
structure Prepares (s s' : State) : Prop where
  goals : s'.goals = s.goals
  runs : s'.dispatchRuns = s.dispatchRuns
  readiness : s'.dispatchReadiness = s.dispatchReadiness
  cursors : s'.endpointCursors = s.endpointCursors
  edges : s'.sessionEdges = s.sessionEdges
  threads : s'.agentThreads = s.agentThreads
  persisted : s'.persisted = s.persisted
  pending : s'.pending = s.pending
  session : ∀ id session, s.sessions.lookup id = some session → ∃ session',
    s'.sessions.lookup id = some session' ∧ session'.roleCursors = session.roleCursors

theorem Prepares.of_sessions (h : s'.sessions = s.sessions)
    (hfields : s'.goals = s.goals ∧ s'.dispatchRuns = s.dispatchRuns ∧
      s'.dispatchReadiness = s.dispatchReadiness ∧ s'.endpointCursors = s.endpointCursors ∧
      s'.sessionEdges = s.sessionEdges ∧ s'.agentThreads = s.agentThreads ∧
      s'.persisted = s.persisted ∧ s'.pending = s.pending) : Prepares s s' := by
  obtain ⟨h₁, h₂, h₃, h₄, h₅, h₆, h₇, h₈⟩ := hfields
  exact ⟨h₁, h₂, h₃, h₄, h₅, h₆, h₇, h₈, fun id session hs => ⟨session, h ▸ hs, rfl⟩⟩

theorem Prepares.trans (h₁ : Prepares s s₁) (h₂ : Prepares s₁ s') : Prepares s s' where
  goals := h₂.goals.trans h₁.goals
  runs := h₂.runs.trans h₁.runs
  readiness := h₂.readiness.trans h₁.readiness
  cursors := h₂.cursors.trans h₁.cursors
  edges := h₂.edges.trans h₁.edges
  threads := h₂.threads.trans h₁.threads
  persisted := h₂.persisted.trans h₁.persisted
  pending := h₂.pending.trans h₁.pending
  session id session hs := by
    obtain ⟨x₁, hx₁, hc₁⟩ := h₁.session id session hs
    obtain ⟨x₂, hx₂, hc₂⟩ := h₂.session id x₁ hx₁
    exact ⟨x₂, hx₂, hc₂.trans hc₁⟩

theorem Tracked.prepares (h : Tracked b s username old cur) (hp : Prepares s s')
    (hunits : UnitsRefer b s' username old cur) : Tracked b s' username old cur := by
  refine ⟨h.refers.of_fields hp.goals hp.runs hp.readiness hp.cursors fun e he => hp.edges ▸ he,
    hunits, ?_⟩
  obtain ⟨x₀, x₁, h₀, h₁, hc⟩ := h.session
  obtain ⟨x₂, h₂, hc'⟩ := hp.session cur x₁ h₁
  exact ⟨x₀, x₂, h₀, h₂, hc'.trans hc⟩

theorem Follows.start (b : State) (old : String) : Follows b b old old where
  goals id g hg hold := by rw [hg, ← hold]
  runs id r hr hold := by rw [hr, ← hold]
  readiness i e he hold := by rw [he, ← hold]
  cursor id hid := hid

theorem UnitsRefer.start (b : State) (username old : String) :
    UnitsRefer b b username old old where
  singleton id unit hid hold := ⟨id, unit, hid, .inl rfl, hold⟩
  schedule id unit plan hid hplan :=
    ⟨id, unit, plan, hid, .inl rfl, hplan, fun ho => ho, fun ho => ho⟩

theorem Tracked.start (h : b.sessions.lookup old = some session) :
    Tracked b b username old old where
  refers := {
    toFollows := .start b old
    children := fun c hc => ⟨c, hc, .inl rfl⟩
    parents := fun p hp => ⟨p, hp, .inl rfl⟩ }
  units := .start b username old
  session := ⟨session, session, h, h, rfl⟩

/-- The root Unit is repaired. -/
theorem UnitsRefer.rootUnit (h : UnitsRefer b s username old cur) (hu : b.Undisputed username old) :
    UnitsRefer b s.ensureRootUnit username old cur := by
  have hroot : accountHomeUnitId username ≠ rootUnitId := home_ne_root username
  have hlook : ∀ id unit, s.units.lookup id = some unit → ∃ unit',
      s.ensureRootUnit.units.lookup id = some unit' ∧ unit.SamePlan unit' ∧
        (id ≠ rootUnitId → unit' = unit) := by
    intro id unit hid
    unfold ensureRootUnit
    cases hr : s.units.lookup rootUnitId with
    | none =>
      have hne : id ≠ rootUnitId := by
        rintro rfl
        rw [hr] at hid
        cases hid
      exact ⟨unit, (AList.lookup_insert_ne hne).trans hid, .of_eq rfl, fun _ => rfl⟩
    | some unit₀ =>
      dsimp only
      rw [modifyUnit, Dict.lookup_modify]
      split_ifs with hid'
      · subst hid'
        rw [hid]
        exact ⟨_, rfl, .of_eq rfl, fun hne => absurd rfl hne⟩
      · exact ⟨unit, hid, .of_eq rfl, fun _ => rfl⟩
  refine h.step (fun id unit hid => ?_) fun id unit id₁ unit₁ hid hold hor hid₁ hs => ?_
  · obtain ⟨unit', hid', hplan, -⟩ := hlook id unit hid
    exact ⟨id, unit', hid', .inl rfl, hplan⟩
  · obtain ⟨unit', hid', -, hsame⟩ := hlook id₁ unit₁ hid₁
    have hne : id₁ ≠ rootUnitId := by
      rcases hor with rfl | ⟨-, rfl⟩
      · exact (hu.singleton _ unit hid hold).1
      · exact hroot
    exact ⟨id₁, unit', hid', hor, (hsame hne) ▸ hs⟩

/-- A Unit is normalized. -/
theorem prepares_storedUnit {unitId : String} (hok : s.normalizeStoredUnit unitId = .ok s') :
    Prepares s s' ∧ s'.users = s.users := by
  unfold normalizeStoredUnit at hok
  cases hl : s.units.lookup unitId with
  | none =>
    rw [hl] at hok
    obtain rfl := Except.ok.inj hok
    exact ⟨.of_sessions rfl ⟨rfl, rfl, rfl, rfl, rfl, rfl, rfl, rfl⟩, rfl⟩
  | some unit =>
    rw [hl] at hok
    obtain ⟨unit', -, hok⟩ := Except.bind_eq_ok.1 hok
    obtain rfl := Except.pure_eq_ok.1 hok
    exact ⟨.of_sessions rfl ⟨rfl, rfl, rfl, rfl, rfl, rfl, rfl, rfl⟩, rfl⟩

theorem UnitsRefer.storedUnit (h : UnitsRefer b s username old cur) {unitId : String}
    (hok : s.normalizeStoredUnit unitId = .ok s') : UnitsRefer b s' username old cur := by
  unfold normalizeStoredUnit at hok
  cases hl : s.units.lookup unitId with
  | none =>
    rw [hl] at hok
    obtain rfl := Except.ok.inj hok
    exact h
  | some unit =>
    rw [hl] at hok
    obtain ⟨unit', hnormal, hok⟩ := Except.bind_eq_ok.1 hok
    obtain rfl := Except.pure_eq_ok.1 hok
    have hplan : unit.SamePlan unit' := by
      intro plan hp
      unfold normalizeUnit at hnormal
      obtain ⟨schedule, hs, hnormal⟩ := Except.bind_eq_ok.1 hnormal
      obtain ⟨triggers, -, hnormal⟩ := Except.bind_eq_ok.1 hnormal
      rw [hp] at hs
      obtain ⟨-, rfl⟩ := normalizeUnitSchedule_eq_ok.1 hs
      obtain rfl := Except.pure_eq_ok.1 hnormal
      exact ⟨plan.normalized, rfl, rfl, rfl⟩
    have hkept := (kept_of_normalize hnormal).1.singleton
    have hlook : ∀ id, (s.modifyUnit unitId fun _ => unit').units.lookup id =
        if id = unitId then some unit' else s.units.lookup id := by
      intro id
      rw [modifyUnit, Dict.lookup_modify]
      split_ifs with hid
      · rw [hl]
        rfl
      · rfl
    refine h.step (fun id u hid => ?_) fun id u id₁ u₁ hid hold hor hid₁ hs => ?_
    · by_cases hid' : id = unitId
      · subst hid'
        obtain rfl := Option.some.inj (hl.symm.trans hid)
        exact ⟨id, unit', by rw [hlook, if_pos rfl], .inl rfl, hplan⟩
      · exact ⟨id, u, by rw [hlook, if_neg hid', hid], .inl rfl, .of_eq rfl⟩
    · by_cases hid' : id₁ = unitId
      · subst hid'
        obtain rfl := Option.some.inj (hl.symm.trans hid₁)
        exact ⟨id₁, unit', by rw [hlook, if_pos rfl], hor, hkept.trans hs⟩
      · exact ⟨id₁, u₁, by rw [hlook, if_neg hid', hid₁], hor, hs⟩

theorem prepares_rootSession (hok : s.ensureRootSession timestamp = .ok s') :
    Prepares s s' ∧ s'.units = s.units ∧ s'.users = s.users := by
  unfold ensureRootSession at hok
  cases hl : s.sessions.lookup rootSessionId with
  | none =>
    rw [hl] at hok
    obtain rfl := Except.ok.inj hok
    refine ⟨⟨rfl, rfl, rfl, rfl, rfl, rfl, rfl, rfl, fun id session hs => ?_⟩, rfl, rfl⟩
    have hne : id ≠ rootSessionId := by
      rintro rfl
      rw [hl] at hs
      cases hs
    exact ⟨session, (AList.lookup_insert_ne hne).trans hs, rfl⟩
  | some root =>
    rw [hl] at hok
    dsimp only at hok
    split_ifs at hok
    obtain rfl := Except.ok.inj hok
    refine ⟨⟨rfl, rfl, rfl, rfl, rfl, rfl, rfl, rfl, fun id session hs => ?_⟩, rfl, rfl⟩
    rw [modifySession, Dict.lookup_modify]
    split_ifs with hid
    · subst hid
      rw [hs]
      exact ⟨_, rfl, rfl⟩
    · exact ⟨session, hs, rfl⟩

/-- A Session is hung below the home of its owner, in place of the root. -/
theorem ensureOwnerParent_cases {sid : String} (hok : s.ensureOwnerParent sid = .ok s') :
    s' = s ∨ ∃ (owner : String) (user : User) (edges : List Edge), s.users.lookup owner = some user ∧
      (∀ e ∈ s.sessionEdges, e ∈ edges) ∧ ⟨strip user.homeSessionId, sid⟩ ∈ edges ∧
      s' = { s with sessionEdges := edges.filter fun e => e ≠ ⟨rootSessionId, sid⟩ } := by
  unfold ensureOwnerParent at hok
  dsimp only at hok
  generalize (s.units.lookup _).elim "" _ = owner at hok
  cases hl : s.users.lookup owner with
  | none =>
    rw [hl] at hok
    exact .inl (Except.ok.inj hok).symm
  | some user =>
    rw [hl] at hok
    dsimp only at hok
    by_cases hskip : strip user.homeSessionId = "" ∨ strip user.homeSessionId = sid
    · rw [if_pos hskip] at hok
      exact .inl (Except.ok.inj hok).symm
    rw [if_neg hskip] at hok
    obtain ⟨-, hok⟩ := Except.require_bind_eq_ok.1 hok
    rw [ite_bind] at hok
    obtain ⟨s₁, hlink, hok⟩ := Except.bind_eq_ok.1 hok
    obtain rfl := Except.pure_eq_ok.1 hok
    refine .inr ⟨owner, user, s₁.sessionEdges, hl, ?_⟩
    split_ifs at hlink with hmem
    · obtain rfl := Except.ok.inj hlink
      exact ⟨fun _ he => he, hmem, rfl⟩
    · unfold linkSessionsInState at hlink
      split_ifs at hlink
      · obtain rfl := Except.ok.inj hlink
        exact ⟨fun e he => List.mem_append_left _ he, by simp, rfl⟩

/-- **A Session hung below its owner** keeps its edges, but for the one from the root. -/
theorem Tracked.ownerParent (h : Tracked b s username old cur) (hu : b.Undisputed username old)
    (hcur : cur ≠ rootSessionId)
    (hhomes : ∀ m user, s.users.lookup m = some user → HasHome b m user)
    {sid : String} (hok : s.ensureOwnerParent sid = .ok s') :
    Tracked b s' username old cur ∧ s'.users = s.users ∧ s'.agentThreads = s.agentThreads := by
  obtain rfl | ⟨owner, user, edges, hl, hedges, hin, rfl⟩ := ensureOwnerParent_cases hok
  · exact ⟨h, rfl, rfl⟩
  have hhome : b.IsHome (strip user.homeSessionId) := by
    rcases hhomes owner user hl with ⟨hb, he⟩ | ⟨-, hb⟩
    · obtain ⟨user', hb⟩ := Dict.mem_iff_lookup.1 hb
      exact ⟨owner, user', hb, .inl he⟩
    · exact ⟨owner, user, hb, .inr rfl⟩
  have hne : strip user.homeSessionId ≠ rootSessionId := by
    rcases hhomes owner user hl with ⟨-, he⟩ | ⟨ha, hb⟩
    · exact he ▸ home_ne_root owner
    · exact hu.root owner user hb ha
  refine ⟨⟨⟨h.refers.toFollows.of_fields rfl rfl rfl rfl, fun c hc => ?_, fun p hp => ?_⟩,
    ⟨h.units.singleton, h.units.schedule⟩, h.session⟩, rfl, rfl⟩
  · obtain ⟨c', hc', hs⟩ := h.refers.children c hc
    refine ⟨c', List.mem_filter.2 ⟨hedges _ hc', decide_eq_true fun he => ?_⟩, hs⟩
    exact hcur (congrArg Edge.parent he)
  · obtain ⟨p', hp', hs⟩ := h.refers.parents p hp
    by_cases he : (⟨p', cur⟩ : Edge) = ⟨rootSessionId, sid⟩
    · -- The edge from the root is replaced by the one from the home of the owner.
      obtain ⟨rfl, rfl⟩ := Edge.mk.inj he
      refine ⟨strip user.homeSessionId, List.mem_filter.2 ⟨hin, decide_eq_true fun he => ?_⟩, ?_⟩
      · exact hne (congrArg Edge.parent he)
      · rcases hs with hs | ⟨hs, -⟩
        · exact .inr ⟨.inl hs.symm, hhome⟩
        · exact .inr ⟨hs, hhome⟩
    · exact ⟨p', List.mem_filter.2 ⟨hedges _ hp', decide_eq_true he⟩, hs⟩

theorem lookup_accounts {user : User} (h : s.users.lookup n = some user) :
    s.accounts.lookup n = some user := by
  have hadd : ∀ (users : Dict String User) (name : String) (added : User),
      users.lookup n = some user → name ∉ users → (users.insert name added).lookup n = some user := by
    intro users name added hu hname
    rw [Dict.lookup_insert_of, if_neg fun he => ?_, hu]
    exact hname (he ▸ Dict.mem_iff_lookup.2 ⟨user, hu⟩)
  unfold accounts ensureAccounts
  dsimp only
  refine List.foldlRecOn _ _ (motive := fun users : Dict String User =>
    users.lookup n = some user) ?_ fun users hu spec _ => ?_
  · split_ifs with hroot
    · exact h
    · exact hadd _ _ _ h hroot
  · split_ifs with hspec
    · exact hu
    · exact hadd _ _ _ hu hspec

/-- The root Unit is repaired, no Session changes. -/
theorem prepares_rootUnit (s : State) :
    Prepares s s.ensureRootUnit ∧ s.ensureRootUnit.users = s.users := by
  unfold ensureRootUnit
  split
  · exact ⟨.of_sessions rfl ⟨rfl, rfl, rfl, rfl, rfl, rfl, rfl, rfl⟩, rfl⟩
  · exact ⟨.of_sessions rfl ⟨rfl, rfl, rfl, rfl, rfl, rfl, rfl, rfl⟩, rfl⟩

/-- **The stages of a load**: the accounts are there, every user gets its home, the Sessions
    are hung below their owners, and those without a parent below the root. -/
theorem load_stages {env : Env} (hs : s.stored = s) (hok : s.load env = .ok s') :
    ∃ s₁ s₂ s₃ : State, Prepares s s₁ ∧ s₁.users = s.accounts ∧
      (∀ username old, s.Undisputed username old → UnitsRefer s s₁ username old old) ∧
      s₁.ensureUserHomeSessions env.utcNow.text = .ok s₂ ∧
      s₂.sessions.keys.foldlM ensureOwnerParent s₂ = .ok s₃ ∧
      s' = (s₃.sessions.keys.foldl ensureRootEdge s₃).ensureAgentProfiles := by
  unfold load at hok
  rw [hs] at hok
  unfold ensureDefaults at hok
  dsimp only at hok
  obtain ⟨s₁, h₁, hok⟩ := Except.bind_eq_ok.1 hok
  obtain ⟨s₂, h₂, hok⟩ := Except.bind_eq_ok.1 hok
  obtain ⟨s₃, h₃, hok⟩ := Except.bind_eq_ok.1 hok
  obtain ⟨s₄, h₄, hok⟩ := Except.bind_eq_ok.1 hok
  obtain ⟨-, -, hok⟩ := Except.bind_eq_ok.1 hok
  obtain rfl := Except.pure_eq_ok.1 hok
  have hlot : Prepares s (if s.dispatchLotSize = 0 then { s with dispatchLotSize := 1 } else s) ∧
      (if s.dispatchLotSize = 0 then { s with dispatchLotSize := 1 } else s).units = s.units ∧
      (if s.dispatchLotSize = 0 then { s with dispatchLotSize := 1 } else s).users = s.users := by
    split_ifs
    · exact ⟨.of_sessions rfl ⟨rfl, rfl, rfl, rfl, rfl, rfl, rfl, rfl⟩, rfl, rfl⟩
    · exact ⟨.of_sessions rfl ⟨rfl, rfl, rfl, rfl, rfl, rfl, rfl, rfl⟩, rfl, rfl⟩
  generalize (if s.dispatchLotSize = 0 then { s with dispatchLotSize := 1 } else s) = s₀ at hlot h₁
  obtain ⟨hp₀, hunits₀, husers₀⟩ := hlot
  obtain ⟨hroot, hrootUsers⟩ := prepares_rootUnit s₀
  obtain ⟨hp₂, hunits₂, husers₂⟩ := prepares_rootSession h₂
  have hstored : Prepares s s₁ ∧ s₁.users = s.users := by
    refine Except.foldlM_invariant (P := fun t => Prepares s t ∧ t.users = s.users) h₁
      ⟨hp₀.trans hroot, hrootUsers.trans husers₀⟩ fun _ _ t t' ⟨hp, hus⟩ ht => ?_
    obtain ⟨hp', hus'⟩ := prepares_storedUnit ht
    exact ⟨hp.trans hp', hus'.trans hus⟩
  refine ⟨s₂.ensureAccounts, s₃, s₄, (hstored.1.trans hp₂).trans (.of_sessions rfl
    ⟨rfl, rfl, rfl, rfl, rfl, rfl, rfl, rfl⟩), ?_, fun username old hu => ?_, h₃, h₄, rfl⟩
  · unfold accounts ensureAccounts
    rw [husers₂, hstored.2]
  · have hstart : UnitsRefer s s₀ username old old := by
      have h := UnitsRefer.start s username old
      exact ⟨hunits₀ ▸ h.singleton, hunits₀ ▸ h.schedule⟩
    have hunits : UnitsRefer s s₁ username old old :=
      Except.foldlM_invariant (P := fun t => UnitsRefer s t username old old) h₁
        (hstart.rootUnit hu) fun _ _ t t' h ht => h.storedUnit ht
    exact ⟨hunits₂ ▸ hunits.singleton, hunits₂ ▸ hunits.schedule⟩

/-- What holds once the users have their homes, whatever the edges are, holds when the Sessions
    have been linked. -/
theorem linked_keep {P : State → Prop} {s₂ s₃ : State}
    (hedges : ∀ t edges, P t → P { t with sessionEdges := edges })
    (h₃ : s₂.sessions.keys.foldlM ensureOwnerParent s₂ = .ok s₃) (h : P s₂) :
    P (s₃.sessions.keys.foldl ensureRootEdge s₃) := by
  refine List.foldlRecOn _ _ (motive := P) ?_ fun t ht id _ => ?_
  · refine Except.foldlM_invariant (P := P) h₃ h fun _ _ t t' ht hround => ?_
    obtain rfl | ⟨-, -, edges, -, -, -, rfl⟩ := ensureOwnerParent_cases hround
    · exact ht
    · exact hedges _ _ ht
  · unfold ensureRootEdge
    split_ifs
    · exact ht
    · exact hedges _ _ ht

/-- **A load renames the home Session** of a user. -/
theorem tracked_load {env : Env} {user : User} (hs : s.stored = s) (hu : s.Undisputed username old)
    (hl : s.users.lookup username = some user) (ha : user.status = .active)
    (hhome : strip user.homeSessionId = old) (hne : old ≠ "")
    (hne' : old ≠ accountHomeSessionId username) (hin : old ∈ s.sessions)
    (hok : s.load env = .ok s') :
    Tracked s s' username old (accountHomeSessionId username) ∧
      ∃ Q, s'.ThreadsAre (accountHomeSessionId username) Q ∧
        Refiles s old (accountHomeSessionId username) Q := by
  obtain ⟨session, hsession⟩ := Dict.mem_iff_lookup.1 hin
  obtain ⟨s₁, s₂, s₃, hp, husers, hunits, h₂, h₃, rfl⟩ := load_stages hs hok
  have htracked := (Tracked.start hsession).prepares hp (hunits username old hu)
  obtain ⟨hhomed, Q, hQ, hrefiles⟩ :=
    htracked.homes hu (lookup_accounts hl) ha hhome hne hne' husers hp.threads h₂
  have hknown := homes_known husers h₂
  have howned : Tracked s s₃ username old (accountHomeSessionId username) ∧
      s₃.users = s₂.users ∧ s₃.agentThreads = s₂.agentThreads := by
    refine Except.foldlM_invariant (P := fun t =>
      Tracked s t username old (accountHomeSessionId username) ∧ t.users = s₂.users ∧
      t.agentThreads = s₂.agentThreads) h₃ ⟨hhomed, rfl, rfl⟩ fun _ _ t t' ⟨hr, hus, hth⟩ ht => ?_
    obtain ⟨hr', hus', hth'⟩ := hr.ownerParent hu (home_ne_root username) (hus ▸ hknown) ht
    exact ⟨hr', hus'.trans hus, hth'.trans hth⟩
  have hedged : Tracked s (s₃.sessions.keys.foldl ensureRootEdge s₃) username old
      (accountHomeSessionId username) ∧
      (s₃.sessions.keys.foldl ensureRootEdge s₃).agentThreads = s₂.agentThreads := by
    refine List.foldlRecOn _ _ (motive := fun t => Tracked s t username old
      (accountHomeSessionId username) ∧ t.agentThreads = s₂.agentThreads)
      ⟨howned.1, howned.2.2⟩ fun t ⟨hr, hth⟩ id _ => ?_
    unfold ensureRootEdge
    split_ifs
    · exact ⟨hr, hth⟩
    · exact ⟨⟨hr.refers.of_fields rfl rfl rfl rfl fun e he => List.mem_append_left _ he,
        ⟨hr.units.singleton, hr.units.schedule⟩, hr.session⟩, hth⟩
  refine ⟨⟨hedged.1.refers.of_fields rfl rfl rfl rfl fun e he => he,
    ⟨hedged.1.units.singleton, hedged.1.units.schedule⟩, hedged.1.session⟩, Q,
    fun key thread => ?_, hrefiles⟩
  rw [← hQ key thread, ← hedged.2]
  rfl

/-! ## Where a Session goes -/

/-- The Session `old` of `b` is `cur` in `s`, with what is in use of it. -/
structure Located (b s : State) (old cur : String) : Prop extends Follows b s old cur where
  session : ∃ session session', b.sessions.lookup old = some session ∧
    s.sessions.lookup cur = some session' ∧ session'.roleCursors = session.roleCursors
  named : cur ≠ ""

namespace Located

theorem mem (h : Located b s old cur) : cur ∈ s.sessions := by
  obtain ⟨-, session', -, hs, -⟩ := h.session
  exact Dict.mem_iff_lookup.2 ⟨session', hs⟩

/-- Nothing of it changes but for the record. -/
theorem of_fields (h : Located b s old cur) (hgoals : s'.goals = s.goals)
    (hruns : s'.dispatchRuns = s.dispatchRuns)
    (hready : s'.dispatchReadiness = s.dispatchReadiness)
    (hcursors : s'.endpointCursors = s.endpointCursors)
    (hsession : ∀ id session, s.sessions.lookup id = some session → ∃ session',
      s'.sessions.lookup id = some session' ∧ session'.roleCursors = session.roleCursors) :
    Located b s' old cur := by
  refine ⟨h.toFollows.of_fields hgoals hruns hready hcursors, ?_, h.named⟩
  obtain ⟨x₀, x₁, h₀, h₁, hc⟩ := h.session
  obtain ⟨x₂, h₂, hc'⟩ := hsession cur x₁ h₁
  exact ⟨x₀, x₂, h₀, h₂, hc'.trans hc⟩

/-- The home of a user is renamed. -/
theorem renames (h : Located b s old cur) (hr : s.Renames x (accountHomeSessionId n) s₁) :
    Located b s₁ old (renamed x (accountHomeSessionId n) cur) := by
  rcases hr with ⟨rfl, hx | hx | hx⟩ | ⟨-, hfree, session, hsession, rfl⟩
  · rwa [renamed_ne (hx ▸ h.named)]
  · have hcur : renamed x (accountHomeSessionId n) cur = cur := by
      unfold renamed
      split_ifs with hc
      · exact hx.symm.trans hc.symm
      · rfl
    rwa [hcur]
  · rwa [renamed_ne fun he : cur = x => hx (he ▸ h.mem)]
  · have hfresh : cur ≠ accountHomeSessionId n := fun he => hfree (he ▸ h.mem)
    refine ⟨h.toFollows.move hfresh session, ?_, ?_⟩
    · obtain ⟨x₀, x₁, h₀, h₁, hc⟩ := h.session
      exact ⟨x₀, x₁, h₀, lookup_moveSession hsession h₁ hfresh, hc⟩
    · unfold renamed
      split_ifs
      · exact accountHomeSessionId_ne n
      · exact h.named

/-- **The round of a user** takes the Session where the user's rename leads. -/
theorem round (h : Located b s old cur) (hsame : s.users.lookup n = b.accounts.lookup n)
    (hok : s.ensureUserHome timestamp n = .ok s') : Located b s' old (b.homeRename cur n) := by
  unfold homeRename
  rw [← hsame]
  cases hl : s.users.lookup n with
  | none =>
    unfold ensureUserHome at hok
    rw [hl] at hok
    obtain rfl := Except.ok.inj hok
    exact h
  | some user =>
    dsimp only
    cases ha : user.status with
    | active =>
      obtain ⟨s₁, units, edges, hrenames, -, rfl, -⟩ := ensureUserHome_moves hl ha hok
      obtain ⟨hgoals, hruns, hready, hcursors, -, -, -⟩ :=
        house_frame { s₁ with units := units } n timestamp
      exact (h.renames hrenames).of_fields hgoals hruns hready hcursors fun id session hs =>
        house_session (s := { s₁ with units := units }) n timestamp hs
    | service =>
      unfold ensureUserHome at hok
      rw [hl] at hok
      dsimp only at hok
      rw [if_pos ha] at hok
      obtain rfl := Except.ok.inj hok
      exact h

theorem homes {names : List String} (hnodup : names.Nodup) (h : Located b s old cur)
    (husers : ∀ n ∈ names, s.users.lookup n = b.accounts.lookup n)
    (hok : names.foldlM (fun s n => s.ensureUserHome timestamp n) s = .ok s') :
    Located b s' old (names.foldl b.homeRename cur) := by
  induction names generalizing s cur with
  | nil =>
    obtain rfl := Except.ok.inj hok
    exact h
  | cons n names ih =>
    rw [List.foldlM_cons] at hok
    obtain ⟨s₁, h₁, hok⟩ := Except.bind_eq_ok.1 hok
    obtain ⟨hn, hnodup⟩ := List.nodup_cons.1 hnodup
    exact ih hnodup (h.round (husers n List.mem_cons_self) h₁) (fun m hm =>
      (ensureUserHome_users h₁ fun he => hn (he ▸ hm)).trans
        (husers m (List.mem_cons_of_mem n hm))) hok

/-- **Where a load takes a Session** and what is in use of it. -/
theorem load {env : Env} (hs : s.stored = s) (hne : old ≠ "") (hin : old ∈ s.sessions)
    (hok : s.load env = .ok s') : Located s s' old (s.goesTo old) := by
  obtain ⟨s₁, s₂, s₃, hp, husers, -, h₂, h₃, rfl⟩ := load_stages hs hok
  obtain ⟨session, hsession⟩ := Dict.mem_iff_lookup.1 hin
  have hstart : Located s s old old := ⟨.start s old, ⟨session, session, hsession, hsession, rfl⟩, hne⟩
  have h₁ := hstart.of_fields hp.goals hp.runs hp.readiness hp.cursors hp.session
  have h₂ : Located s s₂ old (s.goesTo old) := by
    unfold goesTo
    rw [← husers]
    exact h₁.homes ((List.perm_insertionSort (· ≤ ·) _).nodup_iff.2 s₁.users.keys_nodup)
      (fun n _ => by rw [husers]) h₂
  have hsame : ∀ t t' : State, Located s t old (s.goesTo old) → t'.goals = t.goals →
      t'.dispatchRuns = t.dispatchRuns → t'.dispatchReadiness = t.dispatchReadiness →
      t'.endpointCursors = t.endpointCursors → t'.sessions = t.sessions →
      Located s t' old (s.goesTo old) := fun t t' h hg hr hq hc hsessions =>
    h.of_fields hg hr hq hc fun id session hx => ⟨session, hsessions ▸ hx, rfl⟩
  have h₃ := linked_keep (P := fun t => Located s t old (s.goesTo old))
    (fun t _ ht => hsame t _ ht rfl rfl rfl rfl rfl) h₃ h₂
  exact hsame _ _ h₃ rfl rfl rfl rfl rfl

end Located

/-- A thread is where it was, or it is filed under a home and a role. -/
def FiledFrom (b s : State) : Prop :=
  ∀ key thread, s.agentThreads.lookup key = some thread →
    b.agentThreads.lookup key = some thread ∨
      ∃ (n : String) (role : Role), key = accountHomeSessionId n ++ ":" ++ role.token

theorem FiledFrom.round (h : FiledFrom b s) (hok : s.ensureUserHome timestamp n = .ok s') :
    FiledFrom b s' := by
  rcases ensureUserHome_login hok with rfl | ⟨user, hl, ha⟩
  · exact h
  · obtain ⟨s₁, units, edges, hrenames, -, rfl, -⟩ := ensureUserHome_moves hl ha hok
    intro key thread ht
    obtain ⟨-, -, -, -, hthreads, -, -⟩ := house_frame { s₁ with units := units } n timestamp
    dsimp only at ht
    rw [hthreads] at ht
    rcases hrenames with ⟨rfl, -⟩ | ⟨-, -, session, -, rfl⟩
    · exact h key thread ht
    · rw [moveSession_agentThreads] at ht
      rcases lookup_refiled_cases ht with ⟨e, -, hk, -⟩ | ht
      · exact .inr ⟨n, e.2.role, hk⟩
      · exact h key thread ht

theorem filedFrom_load {env : Env} (hs : s.stored = s) (hok : s.load env = .ok s') :
    FiledFrom s s' := by
  obtain ⟨s₁, s₂, s₃, hp, -, -, h₂, h₃, rfl⟩ := load_stages hs hok
  have h₁ : FiledFrom s s₁ := fun key thread ht => .inl (hp.threads ▸ ht)
  have h₂ : FiledFrom s s₂ := Except.foldlM_invariant (P := FiledFrom s) h₂ h₁
    fun _ _ t t' ht hround => ht.round hround
  exact linked_keep (P := FiledFrom s) (fun _ _ ht => ht) h₃ h₂

/-- A thread of an account is kept only where it has been filed before. -/
theorem FiledFrom.account {thread : AgentThread} {role : Role} {account : String}
    (h : FiledFrom s s')
    (ht : s'.agentThreads.lookup (threadKey (accountHomeSessionId username) role account) =
      some thread) :
    account = "" ∨
      s.agentThreads.lookup (threadKey (accountHomeSessionId username) role account) =
        some thread := by
  rcases h _ _ ht with h | ⟨n, role', hkey⟩
  · exact .inr h
  · exact .inl (threadKey_eq_home (not_colon_home n) hkey).1

theorem keepsWaits_round (h : KeepsWaits b s) (hok : s.ensureUserHome timestamp n = .ok s') :
    KeepsWaits b s' := by
  rcases ensureUserHome_login hok with rfl | ⟨user, hl, ha⟩
  · exact h
  · obtain ⟨s₁, units, edges, hrenames, -, rfl, -⟩ := ensureUserHome_moves hl ha hok
    obtain ⟨hgoals, hruns, -, -, -, hpersisted, hpending⟩ :=
      house_frame { s₁ with units := units } n timestamp
    have h₁ : KeepsWaits b s₁ := by
      rcases hrenames with ⟨rfl, -⟩ | ⟨-, -, session, -, rfl⟩
      · exact h
      · exact h.move _ _ session
    exact h₁.of_fields hgoals hruns hpersisted hpending

/-- A load changes no wait and no log. -/
theorem keepsWaits_load {env : Env} (hs : s.stored = s) (hok : s.load env = .ok s') :
    KeepsWaits s s' := by
  obtain ⟨s₁, s₂, s₃, hp, -, -, h₂, h₃, rfl⟩ := load_stages hs hok
  have hstart : KeepsWaits s s :=
    ⟨fun _ => rfl, fun _ => rfl, rfl, by rw [← hs]; rfl⟩
  have h₁ := hstart.of_fields hp.goals hp.runs hp.persisted hp.pending
  have h₂ : KeepsWaits s s₂ := Except.foldlM_invariant (P := KeepsWaits s) h₂ h₁
    fun _ _ t t' ht hround => keepsWaits_round ht hround
  exact (linked_keep (P := KeepsWaits s) (fun _ _ ht => ht.of_fields rfl rfl rfl rfl) h₃
    h₂).of_fields rfl rfl rfl rfl

/-- A load and a save change no log. -/
theorem KeepsWaits.log (h : KeepsWaits s s') (hs : s.stored = s) (id : String) :
    s'.save.log id = s.log id := by
  have hpending : s.pending = ∅ := by rw [← hs]; rfl
  have hsaved : s'.save.persisted = s'.persisted := by
    unfold save
    rw [h.pending]
    rfl
  unfold State.log persistedLog pendingLog
  rw [hsaved, h.persisted, hpending]
  rfl

/-- Nobody waits for another Session than before. -/
theorem KeepsWaits.not_awaited (h : KeepsWaits s s') (hw : WaitsRefer s s' old cur) (hne : old ≠ cur) :
    ¬s.Awaited old := by
  rintro (⟨id, g, w, hg, hwait, hfor⟩ | ⟨id, r, d, w, hr, hdeclared, hdecision, hfor⟩)
  · obtain ⟨g', w', hg', hwait', hfor'⟩ := hw.goals id g w hg hwait hfor
    have hsame := h.waits id
    rw [hg, hg', Option.map_some, Option.map_some, hwait, hwait'] at hsame
    obtain rfl := Option.some.inj (Option.some.inj hsame)
    exact hne (WaitKind.child.inj (hfor.symm.trans hfor'))
  · obtain ⟨r', d', w', hr', hdeclared', hdecision', hfor'⟩ :=
      hw.runs id r d w hr hdeclared hdecision hfor
    have hsame := h.declared id
    rw [hr, hr', Option.map_some, Option.map_some, hdeclared, hdeclared'] at hsame
    obtain rfl := Option.some.inj (Option.some.inj hsame)
    obtain rfl := Decision.waiting.inj (hdecision.symm.trans hdecision')
    exact hne (WaitKind.child.inj (hfor.symm.trans hfor'))

/-- What is in use goes with the Session. -/
theorem goesTo_of_inUse (h : Follows s s' old (s.goesTo old)) (h' : Follows s s' old cur)
    (huse : s.InUse old) : s.goesTo old = cur := by
  rcases huse with ⟨id, g, hg, hold⟩ | ⟨id, r, hr, hold⟩ | ⟨e, he, hold⟩
  · exact congrArg Goal.sessionId
      (Option.some.inj ((h.goals id g hg hold).symm.trans (h'.goals id g hg hold)))
  · exact congrArg DispatchRun.sessionId
      (Option.some.inj ((h.runs id r hr hold).symm.trans (h'.runs id r hr hold)))
  · obtain ⟨i, hi⟩ := List.mem_iff_getElem?.1 he
    exact congrArg Readiness.sessionId
      (Option.some.inj ((h.readiness i e hi hold).symm.trans (h'.readiness i e hi hold)))

/-- A stored state in which the home Session of a user has an older id, with this log, these
    cursors and a thread of this account. -/
def legacyHome (entries : List LogEntry) (roleCursors : RoleCursors) (account : String) : State :=
  let session : Session := { updatedAt := "", roleCursors }
  let thread : AgentThread :=
    { sessionId := "home-bob", role := .goalManager, account, resumeToken := 0 }
  { users := AList.insert "bob" { groups := ["admin"], homeSessionId := "home-bob" } ∅
    sessions := AList.insert "home-bob" session ∅
    sessionEdges := [⟨rootSessionId, "home-bob"⟩]
    agentThreads := AList.insert (threadKey "home-bob" .goalManager account) thread ∅
    persisted := AList.insert "home-bob" entries ∅
    nextId := 1 }

/-- A message to the home Session. -/
def homeMessage : LogEntry :=
  let message : Message := ⟨0, "user:bob", "session:home-bob", { body := "hello" }, ""⟩
  { logId := 0, seq := 1, createdAt := "", body := .message message }

/-- The state after a load. -/
def loadedHome (entries : List LogEntry) (roleCursors : RoleCursors) (account : String) : State :=
  ((legacyHome entries roleCursors account).load (clock 0)).toOption.getD {}

theorem undisputed_legacyHome :
    (legacyHome [] {} "").Undisputed "bob" "home-bob" where
  session n user hl ha hn := by
    have h : ∀ e ∈ (legacyHome [] {} "").accounts.entries, e.1 ≠ "bob" →
        strip e.2.homeSessionId = "" := by decide +kernel
    rw [h ⟨n, user⟩ (AList.mem_lookup_iff.1 hl) hn]
    exact ⟨fun _ => by decide, fun he => absurd he.symm (accountHomeSessionId_ne "bob")⟩
  unit id unit hl := by cases hl
  singleton id unit hl := by cases hl
  root n user hl _ := by
    have h : ∀ e ∈ (legacyHome [] {} "").accounts.entries,
        strip e.2.homeSessionId ≠ rootSessionId := by decide +kernel
    exact h ⟨n, user⟩ (AList.mem_lookup_iff.1 hl)
  filed key thread hl := by
    have h : ∀ e ∈ (legacyHome [] {} "").agentThreads.entries,
        e.1 = threadKey "home-bob" e.2.role e.2.account := by decide +kernel
    exact fun _ => h ⟨key, thread⟩ (AList.mem_lookup_iff.1 hl)
  free key thread hl := by
    have h : ∀ e ∈ (legacyHome [] {} "").agentThreads.entries,
        e.2.sessionId ≠ accountHomeSessionId "bob" := by decide +kernel
    exact h ⟨key, thread⟩ (AList.mem_lookup_iff.1 hl)

end State

end Aize
