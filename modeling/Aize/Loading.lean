/-
  What `load` does, as an effect on the ledger: it opens the root and home Sessions
  that are missing, and changes nothing else that the ledger sees.

  A home Session is never renamed: the ids that a user record holds are those that
  the user's name gives (`Wf.home`).
-/
import Aize.Completion

namespace Aize

/-! ## Home ids -/

/-- White space beyond ASCII. -/
def spaceRanges : List (Nat × Nat) :=
  [(0x85, 0x85), (0xA0, 0xA0), (0x1680, 0x1680), (0x2000, 0x200A), (0x2028, 0x2029),
    (0x202F, 0x202F), (0x205F, 0x205F), (0x3000, 0x3000)]

theorem inRanges_of_isSpace {c : Char} (hc : 128 ≤ c.toNat) (h : isSpace c) :
    Unicode.inRanges c.toNat spaceRanges := by
  simp [isSpace] at h
  simp [Unicode.inRanges, spaceRanges]
  omega

theorem isSpace_of_isAlnum {c : Char} (h : isAlnum c) : isSpace c = false := by
  unfold isAlnum Unicode.isAlnum at h
  split_ifs at h with hascii
  · have hn : 48 ≤ c.toNat ∧ c.toNat ≤ 122 := by
      simp only [Char.isAlphanum, Char.isAlpha, Char.isUpper, Char.isLower, Char.isDigit,
        Bool.or_eq_true, Bool.and_eq_true, decide_eq_true_eq, ge_iff_le, UInt32.le_iff_toNat_le] at h
      have : c.toNat = c.val.toNat := rfl
      simp at h
      omega
    unfold isSpace
    simp
    omega
  · refine Bool.eq_false_iff.2 fun hs => ?_
    have hd : Unicode.disjointRanges Unicode.alnumRanges spaceRanges := by decide +kernel
    have := Unicode.inRanges_disjoint hd h
    rw [inRanges_of_isSpace (not_lt.1 hascii) hs] at this
    cases this

theorem strip_of_no_space {s : String} (h : ∀ c ∈ s.toList, isSpace c = false) : strip s = s := by
  unfold strip stripChars
  have h₁ : s.toList.dropWhile isSpace = s.toList := by
    cases hs : s.toList with
    | nil => rfl
    | cons c l => rw [List.dropWhile_cons_of_neg (by simp [h c (by simp [hs])])]
  have h₂ : s.toList.rdropWhile isSpace = s.toList := by
    unfold List.rdropWhile
    have : (s.toList.reverse).dropWhile isSpace = s.toList.reverse := by
      cases hs : s.toList.reverse with
      | nil => rfl
      | cons c l =>
        have : c ∈ s.toList := by rw [← List.mem_reverse, hs]; simp
        rw [List.dropWhile_cons_of_neg (by simp [h c this])]
    rw [this, List.reverse_reverse]
  rw [h₁, h₂, String.ofList_toList]

theorem safeIdPart_no_space (v : String) : ∀ c ∈ (safeIdPart v "user").toList, isSpace c = false := by
  intro c hc
  unfold safeIdPart at hc
  dsimp only at hc
  split_ifs at hc with h
  · simp at hc
    rcases hc with rfl | rfl | rfl | rfl <;> rfl
  · unfold stripChars at hc
    rw [String.toList_ofList] at hc
    have hc := List.dropWhile_suffix _ |>.subset ((List.rdropWhile_prefix _ _).subset hc)
    rw [String.toList_ofList, List.mem_map] at hc
    obtain ⟨d, -, rfl⟩ := hc
    split_ifs with hd
    · simp only [Bool.or_eq_true, beq_iff_eq] at hd
      rcases hd with (hd | rfl) | rfl
      · exact isSpace_of_isAlnum hd
      · rfl
      · rfl
    · rfl

theorem strip_accountHomeSessionId (n : String) :
    strip (accountHomeSessionId n) = accountHomeSessionId n := by
  refine strip_of_no_space fun c hc => ?_
  unfold accountHomeSessionId at hc
  rw [String.toList_append, List.mem_append] at hc
  rcases hc with hc | hc
  · simp at hc
    rcases hc with rfl | rfl | rfl | rfl | rfl | rfl | rfl | rfl <;> rfl
  · exact safeIdPart_no_space _ c hc

theorem accountHomeSessionId_ne (n : String) : accountHomeSessionId n ≠ "" := by
  intro h
  have := congrArg String.length h
  simp [accountHomeSessionId] at this

namespace State

variable {run : Nat → Option DispatchRun} {P : Label → Prop} {s s' s₁ : State} {sid : String}

/-! ## Repairs -/

/-- An effect of a repair: the Sessions it finds, the Goals, the queue, the logs and the ids
    stay as they are. -/
structure Repair (run : Nat → Option DispatchRun) (P : Label → Prop) (s s' : State) : Prop where
  effect : Effect run P s s'
  view : ∀ x ∈ s.sessions, s'.view x = s.view x
  goals : s'.goals = s.goals
  queue : s'.dispatchReadiness = s.dispatchReadiness
  persisted : s'.persisted = s.persisted
  pending : s'.pending = s.pending
  fullIds : s'.fullIds = s.fullIds
  nextId : s'.nextId = s.nextId

namespace Repair

theorem refl (hw : s.Wf) : Repair run P s s :=
  ⟨.refl hw, fun _ _ => rfl, rfl, rfl, rfl, rfl, rfl, rfl⟩

/-- No Session is lost. -/
theorem sessions (h : Repair run P s s') : ∀ x ∈ s.sessions, x ∈ s'.sessions := by
  intro x hx
  obtain ⟨v, hv⟩ := exists_view hx
  exact mem_of_view ((h.view x hx).trans hv)

theorem trans (h₁ : Repair run P s s₁) (h₂ : Repair run P s₁ s') : Repair run P s s' :=
  ⟨h₁.effect.trans h₂.effect,
    fun x hx => (h₂.view x (h₁.sessions x hx)).trans (h₁.view x hx), h₂.goals.trans h₁.goals,
    h₂.queue.trans h₁.queue, h₂.persisted.trans h₁.persisted, h₂.pending.trans h₁.pending,
    h₂.fullIds.trans h₁.fullIds, h₂.nextId.trans h₁.nextId⟩

/-- What holds of each round of a loop holds of the loop. -/
theorem foldlM {α : Type} {f : State → α → Except Err State} {l : List α}
    (hf : ∀ s a s', s.Good run → f s a = .ok s' → Repair run P s s') (hg : s.Good run)
    (h : l.foldlM f s = .ok s') : Repair run P s s' :=
  Except.foldlM_invariant (P := Repair run P s) h (.refl hg.wf) fun a _ s₁ s₂ h₁ h₂ =>
    h₁.trans (hf s₁ a s₂ (h₁.effect.good hg) h₂)

theorem foldl {α : Type} {f : State → α → State} {l : List α}
    (hf : ∀ s a, s.Good run → Repair run P s (f s a)) (hg : s.Good run) :
    Repair run P s (l.foldl f s) :=
  List.foldlRecOn l f (motive := Repair run P s) (.refl hg.wf) fun s₁ h₁ a _ =>
    h₁.trans (hf s₁ a (h₁.effect.good hg))

end Repair

theorem log_congr (hp : s'.persisted = s.persisted) (hq : s'.pending = s.pending) : s'.log = s.log := by
  funext x
  unfold log persistedLog pendingLog
  rw [hp, hq]

/-- A repair of what the ledger does not see. -/
theorem Repair.of_fields (hw : s.Wf) (hview : s'.view = s.view) (hgoals : s'.goals = s.goals)
    (hruns : s'.dispatchRuns = s.dispatchRuns) (hqueue : s'.dispatchReadiness = s.dispatchReadiness)
    (hpersisted : s'.persisted = s.persisted) (hpending : s'.pending = s.pending)
    (hfull : s'.fullIds = s.fullIds) (hnext : s'.nextId = s.nextId)
    (hedge : ∀ e ∈ s'.sessionEdges, e.parent ≠ e.child)
    (hhome : ∀ name user, s'.users.lookup name = some user →
      (user.homeSessionId = "" ∨ user.homeSessionId = accountHomeSessionId name) ∧
        (user.homeUnitId = "" ∨ user.homeUnitId = accountHomeUnitId name)) : Repair run P s s' := by
  have hlog := log_congr hpersisted hpending
  have hmem : ∀ x, x ∈ s'.sessions ↔ x ∈ s.sessions := fun x => mem_sessions_of_view hview
  have hbook : s'.book = s.book := by unfold book; rw [hview, hlog]
  exact ⟨.of_book hruns hqueue hnext.ge hbook
    (hw.of_fields hmem hgoals hnext.ge hruns hqueue hlog hedge hhome), fun x _ => by rw [hview],
    hgoals, hqueue, hpersisted, hpending, hfull, hnext⟩

/-- A new Session is open and has nothing yet. -/
theorem repair_insertSession (hg : s.Good run) (hP : P .plain) (hn : sid ∉ s.sessions) (hs : sid ≠ "")
    {session : Session} (ha : session.active = true) (hc : session.roleCursors = {}) :
    Repair run P s { s with sessions := s.sessions.insert sid session } := by
  have hnone : s.currentGoalForSession sid = none := by
    refine Option.eq_none_iff_forall_ne_some.2 fun g hcur => ?_
    obtain ⟨h₁, h₂⟩ := hg.wf.currentGoal.1 hcur
    exact hn (h₂ ▸ (hg.wf.goal _ _ h₁).2.1)
  have hview : State.view { s with sessions := s.sessions.insert sid session } =
      Function.update s.view sid (some ⟨true, {}, none⟩) := by
    funext x
    have hcur : State.currentGoalForSession { s with sessions := s.sessions.insert sid session } =
        s.currentGoalForSession := currentGoal_congr rfl
    unfold view
    rw [hcur, Dict.lookup_insert_of]
    by_cases hx : x = sid
    · subst hx
      rw [if_pos rfl, Function.update_self, hnone, Option.map_some, ha, hc]
      rfl
    · rw [if_neg hx, Function.update_of_ne hx]
  have hstep : BookStep run s.book .plain (s.book.setSession sid ⟨true, {}, none⟩) :=
    .openSession (view_eq_none.2 hn) (hg.book.logged sid (view_eq_none.2 hn))
  refine ⟨⟨rfl, .refl _, le_rfl, hg.wf.insertSession hs session, (BookSteps.of_step hP hstep).trans
    (.of_eq ?_)⟩, fun x hx => ?_, rfl, rfl, rfl, rfl, rfl, rfl⟩
  · unfold book Book.setSession
    rw [hview]
    rfl
  · have hne : x ≠ sid := by
      rintro rfl
      exact hn hx
    rw [hview, Function.update_of_ne hne]

/-! ## The repairs of `ensure_defaults` -/

theorem repair_units (hw : s.Wf) (units : Dict String UnitRecord) :
    Repair run P s { s with units := units } :=
  .of_fields hw rfl rfl rfl rfl rfl rfl rfl rfl hw.edge hw.home

theorem repair_edges (hw : s.Wf) {edges : List Edge} (h : ∀ e ∈ edges, e.parent ≠ e.child) :
    Repair run P s { s with sessionEdges := edges } :=
  .of_fields hw rfl rfl rfl rfl rfl rfl rfl rfl h hw.home

theorem repair_modifySession (hw : s.Wf) (x : String) {f : Session → Session}
    (hf : ∀ session, (f session).active = session.active ∧
      (f session).roleCursors = session.roleCursors) : Repair run P s (s.modifySession x f) :=
  .of_fields hw (view_modifySession x hf) rfl rfl rfl rfl rfl rfl rfl hw.edge hw.home

theorem linkSessions_cases {p c : String} (h : s.linkSessionsInState p c = .ok s') :
    p ∈ s.sessions ∧ c ∈ s.sessions ∧ p ≠ c ∧
      (s' = s ∨ s' = { s with sessionEdges := s.sessionEdges ++ [⟨p, c⟩] }) := by
  unfold linkSessionsInState at h
  split_ifs at h with h₁ h₂ h₃ h₄ h₅
  · cases h
    exact ⟨h₁, h₂, h₃, .inl rfl⟩
  · cases h
    exact ⟨h₁, h₂, h₃, .inr rfl⟩

theorem repair_link (hg : s.Good run) {p c : String} (h : s.linkSessionsInState p c = .ok s') :
    Repair run P s s' := by
  obtain ⟨-, -, hne, rfl | rfl⟩ := linkSessions_cases h
  · exact .refl hg.wf
  · refine repair_edges hg.wf fun e he => ?_
    rcases List.mem_append.1 he with he | he
    · exact hg.wf.edge e he
    · rw [List.mem_singleton.1 he]; exact hne

theorem repair_ensureRootUnit (hw : s.Wf) : Repair run P s s.ensureRootUnit := by
  unfold ensureRootUnit
  cases s.units.lookup rootUnitId with
  | none => exact repair_units hw _
  | some => exact repair_units hw _

theorem repair_normalizeStoredUnit (hg : s.Good run) {unitId : String}
    (h : s.normalizeStoredUnit unitId = .ok s') : Repair run P s s' := by
  unfold normalizeStoredUnit at h
  cases hu : s.units.lookup unitId with
  | none =>
    rw [hu] at h
    cases h
    exact .refl hg.wf
  | some unit =>
    rw [hu] at h
    obtain ⟨u, -, h⟩ := Except.bind_eq_ok.1 h
    rw [← Except.pure_eq_ok.1 h]
    exact repair_units hg.wf _

theorem repair_ensureRootSession (hg : s.Good run) (hP : P .plain) {timestamp : String}
    (h : s.ensureRootSession timestamp = .ok s') : Repair run P s s' := by
  unfold ensureRootSession at h
  cases hl : s.sessions.lookup rootSessionId with
  | none =>
    rw [hl] at h
    cases h
    refine repair_insertSession hg hP (fun hm => ?_) (by decide) rfl rfl
    rw [← AList.lookup_isSome, hl] at hm
    cases hm
  | some session =>
    rw [hl] at h
    dsimp only at h
    split_ifs at h
    cases h
    exact repair_modifySession hg.wf _ fun _ => ⟨rfl, rfl⟩

theorem repair_ensureAccounts (hw : s.Wf) : Repair run P s s.ensureAccounts := by
  refine .of_fields hw rfl rfl rfl rfl rfl rfl rfl rfl hw.edge ?_
  -- accounts are added without home
  let Home (users : Dict String User) : Prop := ∀ n u, users.lookup n = some u →
    (u.homeSessionId = "" ∨ u.homeSessionId = accountHomeSessionId n) ∧
      (u.homeUnitId = "" ∨ u.homeUnitId = accountHomeUnitId n)
  have hadd : ∀ users name user, Home users → user.homeSessionId = "" → user.homeUnitId = "" →
      Home (users.insert name user) := fun users name user h h₁ h₂ =>
    Dict.forall_lookup_insert h ⟨.inl h₁, .inl h₂⟩
  refine List.foldlRecOn _ _ (motive := Home) ?_ fun users h spec _ => ?_
  · split_ifs
    · exact hw.home
    · exact hadd _ _ _ hw.home rfl rfl
  · split_ifs
    · exact h
    · exact hadd _ _ _ h rfl rfl

theorem repair_assignHome (hg : s.Good run) {username : String} {user : User}
    (hu : s.users.lookup username = some user) (h : s.assignHome username user = .ok s') :
    Repair run P s s' := by
  obtain ⟨h₁, h₂⟩ := hg.wf.home username user hu
  have hstrip : ∀ id, id = "" ∨ id = accountHomeSessionId username →
      ¬(strip id ≠ "" ∧ strip id ≠ accountHomeSessionId username) := by
    rintro id (rfl | rfl) ⟨ha, hb⟩
    · exact ha rfl
    · exact hb (strip_accountHomeSessionId username)
  unfold assignHome at h
  dsimp only at h
  have hunit : ¬(strip user.homeUnitId ≠ "" ∧
      strip user.homeUnitId ≠ accountHomeUnitId username) := hstrip _ h₂
  rw [if_neg (hstrip _ h₁), Except.ok_bind, if_neg hunit, Except.ok_bind] at h
  rw [← Except.pure_eq_ok.1 h]
  exact .of_fields hg.wf rfl rfl rfl rfl rfl rfl rfl rfl hg.wf.edge
    (Dict.forall_lookup_modify hg.wf.home fun _ _ => ⟨.inr rfl, .inr rfl⟩)

theorem repair_ensureHomeUnit (hw : s.Wf) (username : String) :
    Repair run P s (s.ensureHomeUnit username) := by
  unfold ensureHomeUnit
  dsimp only
  cases s.units.lookup (accountHomeUnitId username) with
  | none => exact repair_units hw _
  | some => exact repair_units hw _

theorem repair_ensureHomeSession (hg : s.Good run) (hP : P .plain) (username timestamp : String) :
    Repair run P s (s.ensureHomeSession username timestamp) := by
  unfold ensureHomeSession
  dsimp only
  split_ifs with hm
  · exact repair_modifySession hg.wf _ fun _ => ⟨rfl, rfl⟩
  · exact repair_insertSession hg hP hm (accountHomeSessionId_ne username) rfl rfl

theorem repair_ensureUserHome (hg : s.Good run) (hP : P .plain) {timestamp username : String}
    (h : s.ensureUserHome timestamp username = .ok s') : Repair run P s s' := by
  unfold ensureUserHome at h
  cases hu : s.users.lookup username with
  | none =>
    rw [hu] at h
    cases h
    exact .refl hg.wf
  | some user =>
    rw [hu] at h
    dsimp only at h
    split_ifs at h with hserv
    · cases h
      exact .refl hg.wf
    · obtain ⟨s₁, h₁, h⟩ := Except.bind_eq_ok.1 h
      obtain ⟨-, h⟩ := Except.require_bind_eq_ok.1 h
      have e₁ : Repair run P s s₁ := repair_assignHome hg hu h₁
      have e₂ := e₁.trans (repair_ensureHomeUnit e₁.effect.wf username)
      have e₃ := e₂.trans (repair_ensureHomeSession (e₂.effect.good hg) hP username timestamp)
      split_ifs at h
      · cases h
        exact e₃
      · exact e₃.trans (repair_link (e₃.effect.good hg) h)

theorem repair_ensureOwnerParent (hg : s.Good run) {x : String} (h : s.ensureOwnerParent x = .ok s') :
    Repair run P s s' := by
  unfold ensureOwnerParent at h
  dsimp only at h
  split at h
  · cases h
    exact .refl hg.wf
  · split_ifs at h with hhome hedge
    · cases h
      exact .refl hg.wf
    · obtain ⟨-, h⟩ := Except.require_bind_eq_ok.1 h
      rw [Except.ok_bind] at h
      rw [← Except.pure_eq_ok.1 h]
      exact repair_edges hg.wf fun e he => hg.wf.edge e (List.mem_filter.1 he).1
    · obtain ⟨-, h⟩ := Except.require_bind_eq_ok.1 h
      obtain ⟨s₁, h₁, h⟩ := Except.bind_eq_ok.1 h
      rw [← Except.pure_eq_ok.1 h]
      have e₁ : Repair run P s s₁ := repair_link hg h₁
      exact e₁.trans (repair_edges e₁.effect.wf fun e he =>
        e₁.effect.wf.edge e (List.mem_filter.1 he).1)

theorem repair_ensureRootEdge (hg : s.Good run) (x : String) : Repair run P s (s.ensureRootEdge x) := by
  unfold ensureRootEdge
  split_ifs with h
  · exact .refl hg.wf
  · refine repair_edges hg.wf fun e he => ?_
    rcases List.mem_append.1 he with he | he
    · exact hg.wf.edge e he
    · rw [List.mem_singleton.1 he]
      exact fun heq => h (.inl heq.symm)

/-- **`ensure_defaults` is a repair.** -/
theorem repair_ensureDefaults (hg : s.Good run) (hP : P .plain) {timestamp : String}
    (h : s.ensureDefaults timestamp = .ok s') : Repair run P s s' := by
  unfold ensureDefaults at h
  dsimp only at h
  obtain ⟨s₂, h₂, h⟩ := Except.bind_eq_ok.1 h
  obtain ⟨s₃, h₃, h⟩ := Except.bind_eq_ok.1 h
  obtain ⟨s₄, h₄, h⟩ := Except.bind_eq_ok.1 h
  obtain ⟨s₅, h₅, h⟩ := Except.bind_eq_ok.1 h
  obtain ⟨-, -, h⟩ := Except.bind_eq_ok.1 h
  rw [← Except.pure_eq_ok.1 h]
  have e₀ : Repair run P s (if s.dispatchLotSize = 0 then { s with dispatchLotSize := 1 } else s) := by
    split_ifs
    · exact .of_fields hg.wf rfl rfl rfl rfl rfl rfl rfl rfl hg.wf.edge hg.wf.home
    · exact .refl hg.wf
  have e₁ := e₀.trans (repair_ensureRootUnit e₀.effect.wf)
  have e₂ := e₁.trans (.foldlM (fun _ _ _ hg h => repair_normalizeStoredUnit hg h) (e₁.effect.good hg) h₂)
  have e₃ := e₂.trans (repair_ensureRootSession (e₂.effect.good hg) hP h₃)
  have e₃' := e₃.trans (repair_ensureAccounts e₃.effect.wf)
  have e₄ := e₃'.trans (.foldlM (fun _ _ _ hg h => repair_ensureUserHome hg hP h) (e₃'.effect.good hg) h₄)
  have e₅ := e₄.trans (.foldlM (fun _ _ _ hg h => repair_ensureOwnerParent hg h)
    (e₄.effect.good hg) h₅)
  have e₆ : Repair run P s (s₅.sessions.keys.foldl ensureRootEdge s₅) :=
    e₅.trans (.foldl (fun _ a hg => repair_ensureRootEdge hg a) (e₅.effect.good hg))
  exact e₆.trans (.of_fields e₆.effect.wf rfl rfl rfl rfl rfl rfl rfl rfl e₆.effect.wf.edge
    e₆.effect.wf.home)

end State
end Aize
