/-
  Agent threads (`goal/dispatch.py`, `_ensure_agent_thread`, `_record_agent_turn`).

  A thread is kept under `session:role:account`, or `session:role` when no account has been
  appointed; the first account whose provider owns all provider threads of the latter adopts
  it.  Neither Session ids nor accounts are kept from containing the separator, so that
  calls with different identities can share a key (`Overlaps`).  Without such calls, threads
  are never shared between identities (`threads_separate_iff`).
-/
import Aize.Reachable

namespace Aize

/-! ## Calls and their keys -/

/-- A call of `_ensure_agent_thread` for a Session of the store and an account that
    `create_service_user` accepts, or none. -/
structure ThreadCall where
  sessionId : String
  role : Role
  account : String
  provider : String
  session_named : strip sessionId ≠ ""
  account_named : account = "" ∨ strip account = account ∧ startsWith "svc-" account

namespace ThreadCall

/-- Who a thread is for. -/
def owner (c : ThreadCall) : String × Role × String := (c.sessionId, c.role, c.account)

/-- The account part of a key. -/
def accountPart (c : ThreadCall) : String := if c.account = "" then "" else ":" ++ c.account

/-- The thread that a call makes. -/
def newThread (c : ThreadCall) (token : Nat) : AgentThread :=
  { sessionId := c.sessionId, role := c.role, account := c.account, resumeToken := token }

/-- The key of a thread without account. -/
def legacyKey (c : ThreadCall) : String := c.sessionId ++ ":" ++ c.role.token

/-- The key of the thread. -/
def key (c : ThreadCall) : String := c.legacyKey ++ c.accountPart

/-- The account of one call goes on where the Session of the other ends: the Session of `c'`
    is `session:role:x` for the Session and role of `c`, and the account of `c` is `x` and then
    `:role` or `:role:account` of `c'`. -/
def Overlaps (c c' : ThreadCall) : Prop :=
  ∃ x, c'.sessionId = c.sessionId ++ ":" ++ c.role.token ++ ":" ++ x ∧
    c.account = x ++ ":" ++ c'.role.token ++ c'.accountPart

@[simp] theorem strip_account (c : ThreadCall) : strip c.account = c.account := by
  rcases c.account_named with h | h
  · rw [h]
    decide
  · exact h.1

theorem Overlaps.key_eq {c c' : ThreadCall} (h : c.Overlaps c') : c.key = c'.key := by
  obtain ⟨x, hs, ha⟩ := h
  have hne : c.account ≠ "" := by
    rw [ha]
    intro he
    have := congrArg (fun s : String => s.toList) he
    simp at this
  rw [key, key, accountPart, if_neg hne, legacyKey, legacyKey, hs, ha]
  simp only [String.append_assoc]

theorem Overlaps.session_ne {c c' : ThreadCall} (h : c.Overlaps c') :
    c.sessionId ≠ c'.sessionId := by
  obtain ⟨x, hs, -⟩ := h
  intro he
  have := congrArg (fun s : String => s.toList.length) (he.trans hs)
  simp at this

/-- The token of a role starts with a letter that an account does not start with, and has no
    separator. -/
theorem token_chars (r : Role) : ':' ∉ r.token.toList ∧ ∃ c cs, r.token.toList = c :: cs ∧
    c ≠ 's' ∧ ∀ r' : Role, r'.token.toList.head? = some c → r' = r := by
  cases r with
  | goalManager =>
    exact ⟨by decide, 'G', "oalManager".toList, by decide, by decide, fun r' => by
      cases r' <;> decide⟩
  | workerAgent =>
    exact ⟨by decide, 'W', "orkerAgent".toList, by decide, by decide, fun r' => by
      cases r' <;> decide⟩

/-- An account does not start like the token of a role. -/
theorem account_not_token (c : ThreadCall) (r : Role) (rest : List Char) :
    c.account.toList ≠ r.token.toList ++ rest := by
  obtain ⟨-, d, ds, hd, hne, -⟩ := token_chars r
  rw [hd]
  intro h
  rcases c.account_named with ha | ⟨-, ha⟩
  · rw [ha] at h
    cases h
  · rw [startsWith, h] at ha
    have hs : "svc-".toList = 's' :: "vc-".toList := by decide
    rw [hs, List.cons_append, List.isPrefixOf] at ha
    simp only [Bool.and_eq_true, beq_iff_eq] at ha
    exact hne ha.1.symm

/-- What follows the Session in a key. -/
theorem toList_key (c : ThreadCall) :
    c.key.toList = c.sessionId.toList ++ ':' :: (c.role.token.toList ++ c.accountPart.toList) := by
  simp [key, legacyKey]

theorem accountPart_cases (c : ThreadCall) : c.account = "" ∧ c.accountPart.toList = [] ∨
    c.accountPart.toList = ':' :: c.account.toList := by
  unfold accountPart
  split_ifs with h
  · exact .inl ⟨h, rfl⟩
  · exact .inr (by simp)

/-- After one Session, role and account are told apart. -/
theorem owner_of_rest {c c' : ThreadCall} (hs : c.sessionId = c'.sessionId)
    (h : c.role.token.toList ++ c.accountPart.toList =
      c'.role.token.toList ++ c'.accountPart.toList) : c.owner = c'.owner := by
  obtain ⟨-, d, ds, hd, -, hrole⟩ := token_chars c.role
  have hr : c'.role = c.role := by
    obtain ⟨-, d', ds', hd', -, -⟩ := token_chars c'.role
    refine hrole c'.role ?_
    rw [hd, hd', List.cons_append, List.cons_append] at h
    rw [hd', (List.cons.inj h).1]
    rfl
  rw [hr] at h
  have ha : c.account = c'.account := by
    have hpart := List.append_cancel_left h
    rcases c.accountPart_cases with ⟨h₁, e₁⟩ | e₁ <;>
      rcases c'.accountPart_cases with ⟨h₂, e₂⟩ | e₂ <;> rw [e₁, e₂] at hpart
    · rw [h₁, h₂]
    · cases hpart
    · cases hpart
    · exact String.toList_injective (List.cons.inj hpart).2
  rw [owner, owner, hs, hr, ha]

/-- A key that goes on after the Session of a shorter one. -/
theorem overlaps_of_longer {c c' : ThreadCall} {d : Char} {w : List Char}
    (hs : c'.sessionId.toList = c.sessionId.toList ++ d :: w)
    (h : ':' :: (c.role.token.toList ++ c.accountPart.toList) =
      d :: w ++ ':' :: (c'.role.token.toList ++ c'.accountPart.toList)) : c.Overlaps c' := by
  rw [List.cons_append, List.cons.injEq] at h
  obtain ⟨rfl, h⟩ := h
  have hcolon := (token_chars c.role).1
  -- where the role of `c` ends: after `w`, or within it
  rcases List.append_eq_append_iff.1 h with ⟨v, hw, hA⟩ | ⟨v, hr, hA⟩
  · rcases c.accountPart_cases with ⟨-, e⟩ | e
    · rw [e] at hA
      simp at hA
    rw [e] at hA
    cases v with
    | nil =>
      rw [List.nil_append, List.cons.injEq] at hA
      exact absurd hA.2 (c.account_not_token _ _)
    | cons x v =>
      rw [List.cons_append, List.cons.injEq] at hA
      obtain ⟨rfl, hA⟩ := hA
      refine ⟨String.ofList v, ?_, ?_⟩
      · apply String.toList_injective
        rw [hs, hw]
        simp
      · apply String.toList_injective
        rw [hA]
        simp
  · cases v with
    | nil =>
      rw [List.nil_append] at hA
      rcases c.accountPart_cases with ⟨-, e⟩ | e
      · rw [e] at hA
        cases hA
      · rw [e, List.cons.injEq] at hA
        exact absurd hA.2.symm (c.account_not_token _ _)
    | cons x v =>
      rw [List.cons_append, List.cons.injEq] at hA
      rw [hr, ← hA.1] at hcolon
      exact absurd (by simp) hcolon

/-- **Calls share a key** when they have the same identity or overlap. -/
theorem key_eq_iff {c c' : ThreadCall} :
    c.key = c'.key ↔ c.owner = c'.owner ∨ c.Overlaps c' ∨ c'.Overlaps c := by
  constructor
  · intro h
    have hlist := congrArg String.toList h
    rw [toList_key, toList_key] at hlist
    rcases List.append_eq_append_iff.1 hlist with ⟨u, hs, hrest⟩ | ⟨u, hs, hrest⟩
    · cases u with
      | nil =>
        rw [List.append_nil] at hs
        exact .inl (owner_of_rest (String.toList_injective hs.symm) (List.cons.inj hrest).2)
      | cons d w => exact .inr (.inl (overlaps_of_longer hs hrest))
    · cases u with
      | nil =>
        rw [List.append_nil] at hs
        exact .inl (owner_of_rest (String.toList_injective hs) (List.cons.inj hrest).2.symm)
      | cons d w => exact .inr (.inr (overlaps_of_longer hs hrest))
  · rintro (h | h | h)
    · simp only [owner, Prod.mk.injEq] at h
      rw [key, key, legacyKey, legacyKey, accountPart, accountPart, h.1, h.2.1, h.2.2]
    · exact h.key_eq
    · exact h.key_eq.symm

theorem legacyKey_injective {c c' : ThreadCall} (h : c.legacyKey = c'.legacyKey) :
    c.sessionId = c'.sessionId ∧ c.role = c'.role := by
  have hkey : (⟨c.sessionId, c.role, "", c.provider, c.session_named, .inl rfl⟩ : ThreadCall).key =
      (⟨c'.sessionId, c'.role, "", c'.provider, c'.session_named, .inl rfl⟩ : ThreadCall).key := by
    simpa [key, accountPart, legacyKey] using h
  rcases key_eq_iff.1 hkey with ho | ⟨x, -, ha⟩ | ⟨x, -, ha⟩
  · simp only [owner, Prod.mk.injEq] at ho
    exact ⟨ho.1, ho.2.1⟩
  · have := congrArg String.toList ha
    simp at this
  · have := congrArg String.toList ha
    simp at this

end ThreadCall

/-! ## What a call does -/

namespace State

/-- `_ensure_agent_thread` for a call. -/
def ensureThread (s : State) (c : ThreadCall) : State :=
  (s.ensureAgentThread c.sessionId c.role c.account c.provider).1

/-- **The outcomes of a call**: the thread is there, it is adopted, or it is new. -/
theorem ensureThread_cases (s : State) (c : ThreadCall) :
    (c.key ∈ s.agentThreads ∧ s.ensureThread c = s) ∨
    (c.account ≠ "" ∧ c.key ∉ s.agentThreads ∧ ∃ t, s.agentThreads.lookup c.legacyKey = some t ∧
      strip t.account = "" ∧ (∀ p ∈ t.providerThreads, p.1 = c.provider) ∧
      s.ensureThread c = { s with
        agentThreads := (s.agentThreads.erase c.legacyKey).insert c.key
          { t with account := c.account } }) ∨
    (c.key ∉ s.agentThreads ∧ s.ensureThread c = { s with
      agentThreads := s.agentThreads.insert c.key (c.newThread s.nextId)
      nextId := s.nextId + 1 }) := by
  unfold ensureThread ensureAgentThread
  simp only [c.strip_account]
  rw [show c.sessionId ++ ":" ++ c.role.token = c.legacyKey from rfl]
  by_cases ha : c.account = ""
  · have hkey : c.key = c.legacyKey := by
      rw [ThreadCall.key, ThreadCall.accountPart, if_pos ha]
      simp
    rw [if_pos ha, hkey]
    by_cases hin : c.legacyKey ∈ s.agentThreads
    · rw [if_pos hin]
      exact .inl ⟨hin, rfl⟩
    · rw [if_neg hin]
      refine .inr (.inr ⟨hin, ?_⟩)
      rw [ThreadCall.newThread, ha]
      rfl
  · have hkey : c.legacyKey ++ ":" ++ c.account = c.key := by
      rw [ThreadCall.key, ThreadCall.accountPart, if_neg ha, String.append_assoc]
    rw [if_neg ha, hkey]
    by_cases hin : c.key ∈ s.agentThreads
    · rw [if_pos hin]
      exact .inl ⟨hin, rfl⟩
    · rw [if_neg hin]
      cases hl : s.agentThreads.lookup c.legacyKey with
      | none => exact .inr (.inr ⟨hin, rfl⟩)
      | some t =>
        dsimp only
        split_ifs with hadopt
        · exact .inr (.inl ⟨ha, hin, t, rfl, hadopt.1, hadopt.2, rfl⟩)
        · exact .inr (.inr ⟨hin, rfl⟩)

/-- The thread that a call returns. -/
def handed (s : State) (c : ThreadCall) : Option AgentThread :=
  (s.ensureThread c).agentThreads.lookup c.key

end State

/-! ## Runs of calls and turns -/

/-- A call, and for a run that is committed, the result recorded on the thread. -/
structure ThreadEvent where
  call : ThreadCall
  result : Option AgentResult

/-- What a provider thread id recorded with a result is kept as. -/
def ThreadEvent.Records (e : ThreadEvent) (p : String × String) : Prop :=
  ∃ result, e.result = some result ∧ p = (result.provider, result.providerThreadId)

/-- A call, and `_record_agent_turn` on the thread that it returns. -/
def State.threadStep (s : State) (e : ThreadEvent) : State :=
  match e.result with
  | none => s.ensureThread e.call
  | some result => (s.ensureThread e.call).recordAgentTurn e.call.key result

/-- An event, with the thread that was handed out. -/
abbrev Handout : Type := ThreadEvent × Option AgentThread

/-- The threads that are handed out, one after the other. -/
def State.handouts (s : State) : List ThreadEvent → List Handout
  | [] => []
  | e :: es => (e, s.handed e.call) :: (s.threadStep e).handouts es

/-- The handout is the thread with this token. -/
def Handout.HasToken (x : Handout) (token : Nat) : Prop :=
  ∃ t, x.2 = some t ∧ t.resumeToken = token

/-- **Threads are kept apart.** -/
structure Separate (out : List Handout) : Prop where
  /-- every call gets a thread -/
  served : ∀ x ∈ out, ∃ token, x.HasToken token
  /-- one thread is for one Session and role, and one account or none -/
  shared : ∀ x ∈ out, ∀ y ∈ out, ∀ token, x.HasToken token → y.HasToken token →
    x.1.call.sessionId = y.1.call.sessionId ∧ x.1.call.role = y.1.call.role ∧
      (x.1.call.account = y.1.call.account ∨ x.1.call.account = "" ∨ y.1.call.account = "")
  /-- an account always gets the same thread back -/
  bound : ∀ x ∈ out, ∀ y ∈ out, x.1.call.owner = y.1.call.owner → x.1.call.account ≠ "" →
    ∀ token, x.HasToken token → y.HasToken token
  /-- a provider thread id that is handed out was recorded for the same account, or for none
      and then the account has had that provider -/
  kept : ∀ pre x post, out = pre ++ x :: post → ∀ t, x.2 = some t → ∀ p ∈ t.providerThreads,
    ∃ y ∈ pre, y.1.Records p ∧ y.1.call.sessionId = x.1.call.sessionId ∧
      y.1.call.role = x.1.call.role ∧ (y.1.call.account = x.1.call.account ∨
        y.1.call.account = "" ∧ ∃ z ∈ pre ++ [x], z.1.call.owner = x.1.call.owner ∧
          z.1.call.provider = p.1)

/-! ## The invariant -/

/-- The thread under a key has this token. -/
def State.Bears (s : State) (key : String) (token : Nat) : Prop :=
  ∃ t, s.agentThreads.lookup key = some t ∧ t.resumeToken = token

/-- A provider thread id has come to the thread of a call by a turn for the same account, or by
    one without account before the account adopted the thread. -/
def CameFrom (turns calls : List Handout) (c : ThreadCall) (p : String × String) : Prop :=
  ∃ y ∈ turns, y.1.Records p ∧ y.1.call.sessionId = c.sessionId ∧ y.1.call.role = c.role ∧
    (y.1.call.account = c.account ∨ y.1.call.account = "" ∧
      ∃ z ∈ calls, z.1.call.owner = c.owner ∧ z.1.call.provider = p.1)

theorem CameFrom.mono {turns turns' calls calls' : List Handout} {c : ThreadCall}
    {p : String × String} (h : CameFrom turns calls c p) (ht : turns ⊆ turns')
    (hc : calls ⊆ calls') : CameFrom turns' calls' c p := by
  obtain ⟨y, hy, hrec, hs, hr, ha⟩ := h
  refine ⟨y, ht hy, hrec, hs, hr, ha.imp_right fun ⟨ha, z, hz, hzo⟩ => ⟨ha, z, hc hz, hzo⟩⟩

theorem CameFrom.congr {turns calls : List Handout} {c c' : ThreadCall} {p : String × String}
    (h : CameFrom turns calls c p) (ho : c.owner = c'.owner) : CameFrom turns calls c' p := by
  obtain ⟨y, hy, hrec, hs, hr, ha⟩ := h
  have hown := ho
  simp only [ThreadCall.owner, Prod.mk.injEq] at ho
  refine ⟨y, hy, hrec, hs.trans ho.1, hr.trans ho.2.1, ?_⟩
  rw [← ho.2.2, ← hown]
  exact ha

/-- Calls of a history that share a key have one owner. -/
def Unambiguous (hist : List Handout) : Prop :=
  ∀ x ∈ hist, ∀ y ∈ hist, x.1.call.key = y.1.call.key → x.1.call.owner = y.1.call.owner

/-- The threads of a store after a history of handouts. -/
structure ThreadsOf (s : State) (hist : List Handout) : Prop where
  /-- a thread is under the key of a call, for its account -/
  keys : ∀ k t, s.agentThreads.lookup k = some t →
    ∃ x ∈ hist, x.1.call.key = k ∧ x.1.call.account = t.account
  /-- tokens have been drawn from the counter -/
  drawn : ∀ k t, s.agentThreads.lookup k = some t → t.resumeToken < s.nextId
  /-- a token is under one key -/
  unique : ∀ k k' token, s.Bears k token → s.Bears k' token → k = k'
  /-- a thread that was handed out is under the key of its call, or under that of the account
      that has adopted it -/
  placed : ∀ x ∈ hist, ∃ token, x.HasToken token ∧ (s.Bears x.1.call.key token ∨
    x.1.call.account = "" ∧ ∃ y ∈ hist, y.1.call.sessionId = x.1.call.sessionId ∧
      y.1.call.role = x.1.call.role ∧ y.1.call.account ≠ "" ∧ s.Bears y.1.call.key token)
  /-- provider thread ids of a thread -/
  recorded : ∀ x ∈ hist, ∀ t, s.agentThreads.lookup x.1.call.key = some t →
    ∀ p ∈ t.providerThreads, CameFrom hist hist x.1.call p
  /-- provider thread ids that were handed out -/
  kept : ∀ pre x post, hist = pre ++ x :: post → ∀ t, x.2 = some t → ∀ p ∈ t.providerThreads,
    CameFrom pre (pre ++ [x]) x.1.call p

/-- One more handout. -/
theorem kept_snoc {hist : List Handout} {h : Handout}
    (hold : ∀ pre x post, hist = pre ++ x :: post → ∀ t, x.2 = some t →
      ∀ p ∈ t.providerThreads, CameFrom pre (pre ++ [x]) x.1.call p)
    (hnew : ∀ t, h.2 = some t → ∀ p ∈ t.providerThreads,
      CameFrom hist (hist ++ [h]) h.1.call p) :
    ∀ pre x post, hist ++ [h] = pre ++ x :: post → ∀ t, x.2 = some t →
      ∀ p ∈ t.providerThreads, CameFrom pre (pre ++ [x]) x.1.call p := by
  intro pre x post heq
  rcases List.eq_nil_or_concat post with rfl | ⟨post', last, rfl⟩
  · obtain ⟨rfl, hx⟩ := List.append_inj' heq rfl
    obtain rfl := List.singleton_inj.1 hx
    exact hnew
  · rw [List.concat_eq_append, ← List.cons_append, ← List.append_assoc] at heq
    exact hold pre x post' (List.append_inj' heq rfl).1

namespace ThreadsOf

variable {s : State} {hist : List Handout}

/-- A turn that is recorded on the thread of the last call. -/
theorem recordAgentTurn (h : ThreadsOf s hist) (hno : Unambiguous hist) {x : Handout}
    (hx : x ∈ hist) {result : AgentResult} (hres : x.1.result = some result) :
    ThreadsOf (s.recordAgentTurn x.1.call.key result) hist := by
  have hlook : ∀ k t', (s.recordAgentTurn x.1.call.key result).agentThreads.lookup k = some t' →
      ∃ t, s.agentThreads.lookup k = some t ∧ t'.account = t.account ∧
        t'.resumeToken = t.resumeToken ∧ ∀ p ∈ t'.providerThreads, p ∈ t.providerThreads ∨
          k = x.1.call.key ∧ p = (result.provider, result.providerThreadId) := by
    intro k t' ht'
    unfold State.recordAgentTurn at ht'
    rw [Dict.lookup_modify] at ht'
    by_cases hk : k = x.1.call.key
    · rw [if_pos hk] at ht'
      obtain ⟨t, ht, rfl⟩ := Option.map_eq_some_iff.1 ht'
      refine ⟨t, hk ▸ ht, rfl, rfl, fun p hp => ?_⟩
      dsimp only at hp
      split_ifs at hp
      · rcases List.mem_append.1 hp with hp | hp
        · exact .inl (List.mem_filter.1 hp).1
        · exact .inr ⟨hk, List.mem_singleton.1 hp⟩
      · exact .inl hp
    · rw [if_neg hk] at ht'
      exact ⟨t', ht', rfl, rfl, fun p hp => .inl hp⟩
  have hbears : ∀ k token, (s.recordAgentTurn x.1.call.key result).Bears k token ↔
      s.Bears k token := by
    intro k token
    constructor
    · rintro ⟨t', ht', rfl⟩
      obtain ⟨t, ht, -, htok, -⟩ := hlook k t' ht'
      exact ⟨t, ht, htok.symm⟩
    · rintro ⟨t, ht, rfl⟩
      unfold State.Bears State.recordAgentTurn
      dsimp only
      rw [Dict.lookup_modify]
      by_cases hk : k = x.1.call.key
      · rw [if_pos hk, ← hk, ht]
        exact ⟨_, rfl, rfl⟩
      · rw [if_neg hk]
        exact ⟨t, ht, rfl⟩
  refine ⟨fun k t' ht' => ?_, fun k t' ht' => ?_, fun k k' token hk hk' => ?_, fun y hy => ?_,
    fun y hy t' ht' p hp => ?_, h.kept⟩
  · obtain ⟨t, ht, hacc, -, -⟩ := hlook k t' ht'
    rw [hacc]
    exact h.keys k t ht
  · obtain ⟨t, ht, -, htok, -⟩ := hlook k t' ht'
    rw [htok]
    exact h.drawn k t ht
  · exact h.unique k k' token ((hbears _ _).1 hk) ((hbears _ _).1 hk')
  · simp only [hbears]
    exact h.placed y hy
  · obtain ⟨t, ht, -, -, hids⟩ := hlook _ t' ht'
    rcases hids p hp with hp | ⟨hk, rfl⟩
    · exact h.recorded y hy t ht p hp
    · have ho := hno x hx y hy hk.symm
      simp only [ThreadCall.owner, Prod.mk.injEq] at ho
      exact ⟨x, hx, ⟨result, hres, rfl⟩, ho.1, ho.2.1, .inl ho.2.2⟩

section Step

variable {e : ThreadEvent}

/-- A call for which the thread is there. -/
theorem found (h : ThreadsOf s hist) (hno : Unambiguous (hist ++ [(e, s.handed e.call)]))
    (hin : e.call.key ∈ s.agentThreads) (hs : s.ensureThread e.call = s) :
    ThreadsOf (s.ensureThread e.call) (hist ++ [(e, s.handed e.call)]) := by
  obtain ⟨t, ht⟩ := Dict.mem_iff_lookup.1 hin
  have hhand : s.handed e.call = some t := by
    unfold State.handed
    rw [hs, ht]
  have hsub : hist ⊆ hist ++ [(e, s.handed e.call)] := List.subset_append_left _ _
  obtain ⟨x₀, hx₀, hkey₀, -⟩ := h.keys _ t ht
  have hown := hno x₀ (hsub hx₀) (e, s.handed e.call) (by simp) hkey₀
  have hids : ∀ p ∈ t.providerThreads, CameFrom hist hist e.call p := fun p hp =>
    (h.recorded x₀ hx₀ t (hkey₀ ▸ ht) p hp).congr hown
  rw [hs]
  refine ⟨fun k t' ht' => ?_, h.drawn, h.unique, fun x hx => ?_, fun x hx t' ht' p hp => ?_,
    kept_snoc h.kept fun t' ht' p hp => ?_⟩
  · obtain ⟨x, hx, hk⟩ := h.keys k t' ht'
    exact ⟨x, hsub hx, hk⟩
  · rcases List.mem_append.1 hx with hx | hx
    · obtain ⟨token, htok, hplace⟩ := h.placed x hx
      exact ⟨token, htok, hplace.imp_right fun ⟨ha, y, hy, hyo⟩ => ⟨ha, y, hsub hy, hyo⟩⟩
    · obtain rfl := List.mem_singleton.1 hx
      exact ⟨t.resumeToken, ⟨t, hhand, rfl⟩, .inl ⟨t, ht, rfl⟩⟩
  · rcases List.mem_append.1 hx with hx | hx
    · exact (h.recorded x hx t' ht' p hp).mono hsub hsub
    · obtain rfl := List.mem_singleton.1 hx
      obtain rfl := Option.some.inj (ht.symm.trans ht')
      exact (hids p hp).mono hsub hsub
  · obtain rfl := Option.some.inj (hhand.symm.trans ht')
    exact (hids p hp).mono (List.Subset.refl _) hsub

/-- A call that makes a new thread. -/
theorem fresh (h : ThreadsOf s hist) (hin : e.call.key ∉ s.agentThreads)
    (hs : s.ensureThread e.call = { s with
      agentThreads := s.agentThreads.insert e.call.key (e.call.newThread s.nextId)
      nextId := s.nextId + 1 }) :
    ThreadsOf (s.ensureThread e.call) (hist ++ [(e, s.handed e.call)]) := by
  have hacc : e.call.account = (e.call.newThread s.nextId).account := rfl
  have htok : (e.call.newThread s.nextId).resumeToken = s.nextId := rfl
  have hids : (e.call.newThread s.nextId).providerThreads = [] := rfl
  generalize e.call.newThread s.nextId = thread at hs hacc htok hids
  have hlook : ∀ k, (s.ensureThread e.call).agentThreads.lookup k =
      if k = e.call.key then some thread else s.agentThreads.lookup k := by
    intro k
    rw [hs]
    exact Dict.lookup_insert_of _ _ _ _
  have hhand : s.handed e.call = some thread := by
    unfold State.handed
    rw [hlook, if_pos rfl]
  have hnone : s.agentThreads.lookup e.call.key = none := AList.lookup_eq_none.2 hin
  have hkeep : ∀ k token, s.Bears k token → (s.ensureThread e.call).Bears k token := by
    rintro k token ⟨t, ht, htk⟩
    refine ⟨t, ?_, htk⟩
    rw [hlook, if_neg, ht]
    rintro rfl
    rw [hnone] at ht
    cases ht
  have hold : ∀ k token, (s.ensureThread e.call).Bears k token →
      s.Bears k token ∨ k = e.call.key ∧ token = s.nextId := by
    rintro k token ⟨t, ht, htk⟩
    rw [hlook] at ht
    split_ifs at ht with hk
    · exact .inr ⟨hk, by rw [← htk, ← Option.some.inj ht, htok]⟩
    · exact .inl ⟨t, ht, htk⟩
  have hlt : ∀ k token, s.Bears k token → token < s.nextId := by
    rintro k token ⟨t, ht, rfl⟩
    exact h.drawn k t ht
  have hsub : hist ⊆ hist ++ [(e, s.handed e.call)] := List.subset_append_left _ _
  refine ⟨fun k t ht => ?_, fun k t ht => ?_, fun k k' token hk hk' => ?_, fun x hx => ?_,
    fun x hx t ht p hp => ?_, kept_snoc h.kept fun t ht p hp => ?_⟩
  · rw [hlook] at ht
    split_ifs at ht with hk
    · obtain rfl := Option.some.inj ht
      exact ⟨(e, s.handed e.call), by simp, hk.symm, hacc⟩
    · obtain ⟨x, hx, hkx⟩ := h.keys k t ht
      exact ⟨x, hsub hx, hkx⟩
  · have hnext : (s.ensureThread e.call).nextId = s.nextId + 1 := by rw [hs]
    rw [hlook] at ht
    rw [hnext]
    split_ifs at ht with hk
    · obtain rfl := Option.some.inj ht
      rw [htok]
      exact Nat.lt_succ_self _
    · exact Nat.lt_succ_of_lt (h.drawn k t ht)
  · rcases hold k token hk with hk | ⟨hk, he⟩ <;>
      rcases hold k' token hk' with hk' | ⟨hk', he'⟩
    · exact h.unique k k' token hk hk'
    · exact absurd (he' ▸ hlt k token hk) (lt_irrefl _)
    · exact absurd (he ▸ hlt k' token hk') (lt_irrefl _)
    · rw [hk, hk']
  · rcases List.mem_append.1 hx with hx | hx
    · obtain ⟨token, htk, hplace⟩ := h.placed x hx
      refine ⟨token, htk, hplace.imp (hkeep _ _) fun ⟨ha, y, hy, hys, hyr, hya, hyb⟩ =>
        ⟨ha, y, hsub hy, hys, hyr, hya, hkeep _ _ hyb⟩⟩
    · obtain rfl := List.mem_singleton.1 hx
      refine ⟨s.nextId, ⟨thread, hhand, htok⟩, .inl ⟨thread, ?_, htok⟩⟩
      rw [hlook, if_pos rfl]
  · rw [hlook] at ht
    split_ifs at ht with hk
    · obtain rfl := Option.some.inj ht
      rw [hids] at hp
      cases hp
    · rcases List.mem_append.1 hx with hx | hx
      · exact (h.recorded x hx t ht p hp).mono hsub hsub
      · obtain rfl := List.mem_singleton.1 hx
        exact absurd rfl hk
  · obtain rfl := Option.some.inj (hhand.symm.trans ht)
    rw [hids] at hp
    cases hp

/-- A call that adopts the thread without account. -/
theorem adopted (h : ThreadsOf s hist) (hno : Unambiguous (hist ++ [(e, s.handed e.call)]))
    (hacc : e.call.account ≠ "") (hin : e.call.key ∉ s.agentThreads) {t : AgentThread}
    (ht : s.agentThreads.lookup e.call.legacyKey = some t) (hta : strip t.account = "")
    (hprov : ∀ p ∈ t.providerThreads, p.1 = e.call.provider)
    (hs : s.ensureThread e.call = { s with
      agentThreads := (s.agentThreads.erase e.call.legacyKey).insert e.call.key
        { t with account := e.call.account } }) :
    ThreadsOf (s.ensureThread e.call) (hist ++ [(e, s.handed e.call)]) := by
  have hlook : ∀ k, (s.ensureThread e.call).agentThreads.lookup k =
      if k = e.call.key then some { t with account := e.call.account }
      else if k = e.call.legacyKey then none else s.agentThreads.lookup k := by
    intro k
    rw [hs]
    dsimp only
    rw [Dict.lookup_insert_of, Dict.lookup_erase_of]
  have hhand : s.handed e.call = some { t with account := e.call.account } := by
    unfold State.handed
    rw [hlook, if_pos rfl]
  have hnone : s.agentThreads.lookup e.call.key = none := AList.lookup_eq_none.2 hin
  have hsub : hist ⊆ hist ++ [(e, s.handed e.call)] := List.subset_append_left _ _
  -- the calls whose thread is the one without account
  have hlegacy : ∀ x ∈ hist, x.1.call.key = e.call.legacyKey → x.1.call.account = "" ∧
      x.1.call.sessionId = e.call.sessionId ∧ x.1.call.role = e.call.role := by
    intro x hx hk
    have hxa : x.1.call.account = "" := by
      obtain ⟨x₀, hx₀, hk₀, ha₀⟩ := h.keys _ t ht
      have ho := hno x₀ (hsub hx₀) x (hsub hx) (hk₀.trans hk.symm)
      simp only [ThreadCall.owner, Prod.mk.injEq] at ho
      rw [← ho.2.2, ← x₀.1.call.strip_account, ha₀, hta]
    refine ⟨hxa, ThreadCall.legacyKey_injective ?_⟩
    rw [← hk, ThreadCall.key, ThreadCall.accountPart, if_pos hxa]
    simp
  have hmoved : ∀ k token, s.Bears k token → k ≠ e.call.legacyKey →
      (s.ensureThread e.call).Bears k token := by
    rintro k token ⟨t', ht', htk⟩ hne
    refine ⟨t', ?_, htk⟩
    rw [hlook, if_neg, if_neg hne, ht']
    rintro rfl
    rw [hnone] at ht'
    cases ht'
  have hnew : (s.ensureThread e.call).Bears e.call.key t.resumeToken :=
    ⟨{ t with account := e.call.account }, hhand, rfl⟩
  have hold : ∀ k token, (s.ensureThread e.call).Bears k token →
      k ≠ e.call.legacyKey ∧ s.Bears k token ∨ k = e.call.key ∧ token = t.resumeToken := by
    rintro k token ⟨t', ht', htk⟩
    rw [hlook] at ht'
    split_ifs at ht' with hk hl
    · exact .inr ⟨hk, by rw [← htk, ← Option.some.inj ht']⟩
    · exact .inl ⟨hl, t', ht', htk⟩
  have hids : ∀ p ∈ t.providerThreads, ∀ calls, (e, s.handed e.call) ∈ calls →
      CameFrom hist calls e.call p := by
    intro p hp calls hcalls
    obtain ⟨x₀, hx₀, hk₀, -⟩ := h.keys _ t ht
    obtain ⟨hxa, hxs, hxr⟩ := hlegacy x₀ hx₀ hk₀
    obtain ⟨y, hy, hrec, hys, hyr, hya⟩ := h.recorded x₀ hx₀ t (hk₀ ▸ ht) p hp
    refine ⟨y, hy, hrec, hys.trans hxs, hyr.trans hxr, .inr ⟨?_, _, hcalls, rfl,
      (hprov p hp).symm⟩⟩
    rcases hya with hya | ⟨hya, -⟩
    · rw [hya, hxa]
    · exact hya
  refine ⟨fun k t' ht' => ?_, fun k t' ht' => ?_, fun k k' token hk hk' => ?_, fun x hx => ?_,
    fun x hx t' ht' p hp => ?_, kept_snoc h.kept fun t' ht' p hp => ?_⟩
  · rw [hlook] at ht'
    split_ifs at ht' with hk hl
    · obtain rfl := Option.some.inj ht'
      exact ⟨(e, s.handed e.call), by simp, hk.symm, rfl⟩
    · obtain ⟨x, hx, hkx⟩ := h.keys k t' ht'
      exact ⟨x, hsub hx, hkx⟩
  · have hnext : (s.ensureThread e.call).nextId = s.nextId := by rw [hs]
    rw [hlook] at ht'
    rw [hnext]
    split_ifs at ht' with hk hl
    · obtain rfl := Option.some.inj ht'
      exact h.drawn _ t ht
    · exact h.drawn k t' ht'
  · rcases hold k token hk with ⟨hl, hk⟩ | ⟨hk, he⟩ <;>
      rcases hold k' token hk' with ⟨hl', hk'⟩ | ⟨hk', he'⟩
    · exact h.unique k k' token hk hk'
    · exact absurd (h.unique k _ token hk ⟨t, ht, he'.symm⟩) hl
    · exact absurd (h.unique k' _ token hk' ⟨t, ht, he.symm⟩) hl'
    · rw [hk, hk']
  · rcases List.mem_append.1 hx with hx | hx
    · obtain ⟨token, htk, hplace⟩ := h.placed x hx
      refine ⟨token, htk, ?_⟩
      rcases hplace with hb | ⟨hxa, y, hy, hys, hyr, hya, hyb⟩
      · by_cases hk : x.1.call.key = e.call.legacyKey
        · -- the thread of this call has been adopted
          obtain ⟨hxa, hxs, hxr⟩ := hlegacy x hx hk
          have htok : token = t.resumeToken := by
            obtain ⟨t', ht', rfl⟩ := hb
            rw [hk, ht] at ht'
            rw [Option.some.inj ht']
          exact .inr ⟨hxa, (e, s.handed e.call), by simp, hxs.symm, hxr.symm, hacc, htok ▸ hnew⟩
        · exact .inl (hmoved _ _ hb hk)
      · refine .inr ⟨hxa, y, hsub hy, hys, hyr, hya, hmoved _ _ hyb fun hk => hya ?_⟩
        exact (hlegacy y hy hk).1
    · obtain rfl := List.mem_singleton.1 hx
      exact ⟨t.resumeToken, ⟨_, hhand, rfl⟩, .inl hnew⟩
  · rw [hlook] at ht'
    split_ifs at ht' with hk hl
    · obtain rfl := Option.some.inj ht'
      have ho := hno (e, s.handed e.call) (by simp) x hx hk.symm
      exact ((hids p hp _ (by simp)).mono hsub (List.Subset.refl _)).congr ho
    · rcases List.mem_append.1 hx with hx | hx
      · exact (h.recorded x hx t' ht' p hp).mono hsub hsub
      · obtain rfl := List.mem_singleton.1 hx
        exact absurd rfl hk
  · obtain rfl := Option.some.inj (hhand.symm.trans ht')
    exact hids p hp _ (by simp)

/-- **One call, with its turn.** -/
theorem step (h : ThreadsOf s hist) (hno : Unambiguous (hist ++ [(e, s.handed e.call)])) :
    ThreadsOf (s.threadStep e) (hist ++ [(e, s.handed e.call)]) := by
  have hcall : ThreadsOf (s.ensureThread e.call) (hist ++ [(e, s.handed e.call)]) := by
    rcases s.ensureThread_cases e.call with ⟨hin, hs⟩ | ⟨ha, hin, t, ht, hta, hprov, hs⟩ |
      ⟨hin, hs⟩
    · exact h.found hno hin hs
    · exact h.adopted hno ha hin ht hta hprov hs
    · exact h.fresh hin hs
  unfold State.threadStep
  cases hres : e.result with
  | none => exact hcall
  | some result =>
    exact hcall.recordAgentTurn (x := (e, s.handed e.call)) hno (by simp) hres

end Step

/-- **A whole run.** -/
theorem run {es : List ThreadEvent} (h : ThreadsOf s hist)
    (hno : Unambiguous (hist ++ s.handouts es)) : ∃ s', ThreadsOf s' (hist ++ s.handouts es) := by
  induction es generalizing s hist with
  | nil => exact ⟨s, by simpa [State.handouts] using h⟩
  | cons e es ih =>
    rw [State.handouts, List.append_cons] at hno ⊢
    refine ih (h.step fun x hx y hy => hno x ?_ y ?_) hno
    · exact List.mem_append_left _ hx
    · exact List.mem_append_left _ hy

/-- What the invariant says about the handouts. -/
theorem separate (h : ThreadsOf s hist) (hno : Unambiguous hist) : Separate hist := by
  have htoken : ∀ {x : Handout} {a b : Nat}, x.HasToken a → x.HasToken b → a = b := by
    rintro x a b ⟨t, ht, rfl⟩ ⟨t', ht', rfl⟩
    rw [Option.some.inj (ht.symm.trans ht')]
  have howner : ∀ {c c' : ThreadCall}, c.owner = c'.owner →
      c.sessionId = c'.sessionId ∧ c.role = c'.role ∧ c.account = c'.account := by
    intro c c' ho
    simpa [ThreadCall.owner] using ho
  refine ⟨fun x hx => ?_, fun x hx y hy token hxt hyt => ?_, fun x hx y hy ho hne token hxt => ?_,
    h.kept⟩
  · obtain ⟨token, ht, -⟩ := h.placed x hx
    exact ⟨token, ht⟩
  · obtain ⟨token₁, hx₁, hpx⟩ := h.placed x hx
    obtain ⟨token₂, hy₁, hpy⟩ := h.placed y hy
    obtain rfl := htoken hx₁ hxt
    obtain rfl := htoken hy₁ hyt
    rcases hpx with hbx | ⟨hxa, x', hx', hxs, hxr, -, hbx⟩ <;>
      rcases hpy with hby | ⟨hya, y', hy', hys, hyr, -, hby⟩ <;>
      have hk := h.unique _ _ _ hbx hby
    · obtain ⟨h₁, h₂, h₃⟩ := howner (hno x hx y hy hk)
      exact ⟨h₁, h₂, .inl h₃⟩
    · obtain ⟨h₁, h₂, -⟩ := howner (hno x hx y' hy' hk)
      exact ⟨h₁.trans hys, h₂.trans hyr, .inr (.inr hya)⟩
    · obtain ⟨h₁, h₂, -⟩ := howner (hno x' hx' y hy hk)
      exact ⟨hxs.symm.trans h₁, hxr.symm.trans h₂, .inr (.inl hxa)⟩
    · obtain ⟨h₁, h₂, -⟩ := howner (hno x' hx' y' hy' hk)
      exact ⟨hxs.symm.trans (h₁.trans hys), hxr.symm.trans (h₂.trans hyr), .inr (.inl hxa)⟩
  · obtain ⟨token₁, hx₁, hpx⟩ := h.placed x hx
    obtain ⟨token₂, hy₁, hpy⟩ := h.placed y hy
    obtain rfl := htoken hx₁ hxt
    have hbx := hpx.resolve_right fun hm => hne hm.1
    have hby := hpy.resolve_right fun hm => hne ((howner ho).2.2.trans hm.1)
    have hkey : x.1.call.key = y.1.call.key := ThreadCall.key_eq_iff.2 (.inl ho)
    obtain ⟨t, ht, htt⟩ := hbx
    obtain ⟨t', ht', htt'⟩ := hby
    rw [hkey, ht'] at ht
    obtain rfl := Option.some.inj ht
    rw [← htt, htt']
    exact hy₁

end ThreadsOf

/-! ## Runs -/

theorem mem_handouts {s : State} {es : List ThreadEvent} {x : Handout} (h : x ∈ s.handouts es) :
    x.1 ∈ es := by
  induction es generalizing s with
  | nil => cases h
  | cons e es ih =>
    rcases List.mem_cons.1 h with rfl | h
    · exact List.mem_cons_self
    · exact List.mem_cons_of_mem _ (ih h)

/-- Two calls that overlap share a thread. -/
theorem shared_of_overlaps {c c' : ThreadCall} (h : c.Overlaps c') {s : State}
    (hs : s.agentThreads = ∅) : ¬ Separate (s.handouts [⟨c, none⟩, ⟨c', none⟩]) := by
  intro hsep
  have hnone : ∀ k, s.agentThreads.lookup k = none := fun k => by
    rw [hs]
    rfl
  obtain ⟨hin, -⟩ | ⟨-, -, t, ht, -⟩ | ⟨-, hnew⟩ := s.ensureThread_cases c
  · exact absurd (AList.lookup_isSome.2 hin) (by simp [hnone])
  · rw [hnone] at ht
    cases ht
  have hlook : (s.ensureThread c).agentThreads.lookup c.key = some (c.newThread s.nextId) := by
    rw [hnew]
    exact AList.lookup_insert _
  have hin' : c'.key ∈ (s.ensureThread c).agentThreads :=
    Dict.mem_iff_lookup.2 ⟨_, h.key_eq ▸ hlook⟩
  have hsame : (s.ensureThread c).ensureThread c' = s.ensureThread c := by
    obtain ⟨-, hsame⟩ | ⟨-, hnot, -⟩ | ⟨hnot, -⟩ := (s.ensureThread c).ensureThread_cases c'
    · exact hsame
    · exact absurd hin' hnot
    · exact absurd hin' hnot
  have hhand : (s.ensureThread c).handed c' = some (c.newThread s.nextId) := by
    unfold State.handed
    rw [hsame, ← h.key_eq, hlook]
  have hsession := (hsep.shared _ List.mem_cons_self _
    (List.mem_cons_of_mem _ List.mem_cons_self) s.nextId ⟨_, hlook, rfl⟩ ⟨_, hhand, rfl⟩).1
  exact h.session_ne hsession

/-- **Threads are kept apart by every run of some calls exactly when no two of the calls
    overlap.** -/
theorem threads_separate_iff (calls : Set ThreadCall) :
    (∀ (s : State) (es : List ThreadEvent), s.agentThreads = ∅ → (∀ e ∈ es, e.call ∈ calls) →
      Separate (s.handouts es)) ↔ ∀ c ∈ calls, ∀ c' ∈ calls, ¬ c.Overlaps c' := by
  constructor
  · intro h c hc c' hc' hover
    refine shared_of_overlaps (s := {}) hover rfl (h {} _ rfl fun e he => ?_)
    simp only [List.mem_cons, List.not_mem_nil, or_false] at he
    rcases he with rfl | rfl
    · exact hc
    · exact hc'
  · intro h s es hs hes
    have hno : Unambiguous (s.handouts es) := by
      intro x hx y hy hk
      have hxc := hes x.1 (mem_handouts hx)
      have hyc := hes y.1 (mem_handouts hy)
      rcases ThreadCall.key_eq_iff.1 hk with ho | ho | ho
      · exact ho
      · exact absurd ho (h _ hxc _ hyc)
      · exact absurd ho (h _ hyc _ hxc)
    have hempty : ∀ k t, s.agentThreads.lookup k ≠ some t := by
      intro k t ht
      rw [hs] at ht
      cases ht
    have hstart : ThreadsOf s [] :=
      ⟨fun k t ht => absurd ht (hempty k t), fun k t ht => absurd ht (hempty k t),
        fun k k' token ⟨t, ht, _⟩ _ => absurd ht (hempty k t), fun x hx => (by cases hx),
        fun x hx => (by cases hx), fun pre x post heq => (by simp at heq)⟩
    obtain ⟨s', hend⟩ := hstart.run hno
    exact hend.separate hno

/-- In particular, when no account has the separator in it. -/
theorem not_overlaps {c c' : ThreadCall} (h : ':' ∉ c.account.toList) : ¬ c.Overlaps c' := by
  rintro ⟨x, -, ha⟩
  apply h
  rw [ha]
  simp

/-! ## Two identities with one key -/

/-- Session "s" and a service account with separators in its name. -/
def managerOfS : ThreadCall :=
  ⟨"s", .goalManager, "svc-a:WorkerAgent:svc-b", "codex", by decide +kernel,
    .inr ⟨by decide +kernel, by decide +kernel⟩⟩

/-- Another Session, another role and another account. -/
def workerOfOther : ThreadCall :=
  ⟨"s:GoalManager:svc-a", .workerAgent, "svc-b", "claude", by decide +kernel,
    .inr ⟨by decide +kernel, by decide +kernel⟩⟩

/-- A store with both Sessions and both accounts. -/
def confusable : List Action :=
  [⟨clock 1, .createServiceUser managerOfS.account ["manage"] "codex"⟩,
    ⟨clock 2, .createServiceUser workerOfOther.account ["work"] "claude"⟩,
    ⟨clock 3, .createSession managerOfS.sessionId "" [] "root"⟩,
    ⟨clock 4, .createSession workerOfOther.sessionId "" [] "root"⟩]

/-- Two accounts of different providers share a thread. -/
theorem thread_shared : storeSystem.Reachable (newStore.nexts confusable) ∧
    (managerOfS.sessionId ∈ (newStore.nexts confusable).store.sessions ∧
      workerOfOther.sessionId ∈ (newStore.nexts confusable).store.sessions ∧
      managerOfS.account ∈ (newStore.nexts confusable).store.users ∧
      workerOfOther.account ∈ (newStore.nexts confusable).store.users) ∧
    ¬ Separate ((newStore.nexts confusable).store.handouts
      [⟨managerOfS, none⟩, ⟨workerOfOther, none⟩]) := by
  have hkeys : (newStore.nexts confusable).store.agentThreads.keys = [] := by decide +kernel
  refine ⟨reachable_nexts _, by decide +kernel, shared_of_overlaps ⟨"svc-a", ?_, ?_⟩ ?_⟩
  · decide +kernel
  · decide +kernel
  · have hentries : (newStore.nexts confusable).store.agentThreads.entries = [] :=
      List.map_eq_nil_iff.1 (show List.map Sigma.fst _ = [] from hkeys)
    exact AList.ext hentries

end Aize
