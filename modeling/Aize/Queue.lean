/-
  The dispatch queue under a refresh.

  `rebuildReadiness` touches the queue and the id counter only (`rebuild_eq`): it
  is a fold of `refreshQueue` over the roles of the refreshable Goals, and each
  round concerns the ready entries of one Session and role.

  * `Settled`: the queue is as a refresh leaves it for one Session and role. A
    round settles its own key (`refreshQueue_settled`), keeps every other key
    (`filter_refreshQueue`), and changes nothing where the key is settled
    already (`refreshQueue_of_settled`);
  * `Rebuild` collects what holds of the refreshed queue;
  * hence refreshing twice is refreshing once (`rebuildReadiness_idem`).
-/
import Aize.Readiness

namespace Aize

/-! ## Ready entries and their keys -/

namespace Readiness

def isReady (e : Readiness) : Bool := e.status = .ready

def isAcquired (e : Readiness) : Bool := e.status = .acquired

theorem readyFor_iff {sessionId : String} {role : Role} {e : Readiness} :
    e.readyFor sessionId role ↔ e.status = .ready ∧ e.key = (sessionId, role) := by
  simp [readyFor, key, and_assoc]

end Readiness

/-- At most one ready entry for a Session and role. -/
def KeyUnique (l : List Readiness) : Prop := ((l.filter Readiness.isReady).map Readiness.key).Nodup

namespace KeyUnique

variable {l l' : List Readiness}

theorem sublist (h : KeyUnique l) (hs : l'.Sublist l) : KeyUnique l' :=
  ((hs.filter _).map _).nodup h

/-- A ready entry of a new key may be added, and an entry that is not ready anyway. -/
theorem append (h : KeyUnique l) {e : Readiness}
    (he : e.isReady → ∀ x ∈ l, x.isReady → x.key ≠ e.key) : KeyUnique (l ++ [e]) := by
  unfold KeyUnique at *
  rw [List.filter_append, List.map_append, List.nodup_append]
  cases hr : e.isReady with
  | false => simp [hr, h]
  | true =>
    refine ⟨h, by simp [hr], ?_⟩
    simp only [hr, List.filter_cons_of_pos, List.filter_nil, List.map_cons, List.map_nil,
      List.mem_singleton, List.mem_map, List.mem_filter]
    rintro _ ⟨x, ⟨hx, hxr⟩, rfl⟩ _ rfl
    exact he hr x hx hxr

theorem eq (h : KeyUnique l) {a b : Readiness} (ha : a ∈ l) (hb : b ∈ l) (ra : a.isReady)
    (rb : b.isReady) (hk : a.key = b.key) : a = b :=
  List.inj_on_of_nodup_map h (List.mem_filter.2 ⟨ha, ra⟩) (List.mem_filter.2 ⟨hb, rb⟩) hk

/-- Once a ready entry is taken out, none of its key is left. -/
theorem key_ne_of_erase (h : KeyUnique l) {e : Readiness} (he : e ∈ l) (hr : e.isReady) :
    ∀ x ∈ l.erase e, x.isReady → x.key ≠ e.key := by
  obtain ⟨l₁, l₂, -, hl, hl'⟩ := List.exists_erase_eq he
  intro x hx hxr hk
  unfold KeyUnique at h
  rw [hl, List.filter_append, List.filter_cons_of_pos hr, List.map_append, List.map_cons] at h
  have hnot := (List.nodup_middle.1 h).notMem
  rw [hl'] at hx
  refine hnot (hk ▸ ?_)
  rw [← List.map_append, ← List.filter_append]
  exact List.mem_map_of_mem (List.mem_filter.2 ⟨hx, hxr⟩)

end KeyUnique

namespace State

/-! ## Deduplication -/

/-- `e` takes the place of an entry of its key, or is dropped, or is added. -/
theorem retainReady_cases (retained : List Readiness) (e : Readiness) :
    retainReady retained e = retained ++ [e] ∧
        (e.isReady → ∀ x ∈ retained, x.isReady → x.key ≠ e.key) ∨
      (∃ x ∈ retained, x.isReady ∧ e.isReady ∧ x.key = e.key ∧
        (retainReady retained e = retained.erase x ++ [e] ∨ retainReady retained e = retained)) := by
  unfold retainReady
  by_cases hr : e.status = .ready
  · rw [if_neg (not_not.2 hr)]
    cases hf : retained.find? fun x =>
        x.status = .ready && x.sessionId = e.sessionId && x.role = e.role with
    | none =>
      refine .inl ⟨rfl, fun _ x hx hxr hk => ?_⟩
      have := List.find?_eq_none.1 hf x hx
      simp only [Readiness.isReady, decide_eq_true_eq, Readiness.key, Prod.mk.injEq] at hxr hk
      simp [hxr, hk] at this
    | some x =>
      have hx := List.find?_some hf
      simp only [Bool.and_eq_true, decide_eq_true_eq] at hx
      refine .inr ⟨x, List.mem_of_find?_eq_some hf, by simp [Readiness.isReady, hx],
        by simp [Readiness.isReady, hr], by simp [Readiness.key, hx], ?_⟩
      dsimp only
      split_ifs
      · exact .inl rfl
      · exact .inr rfl
  · rw [if_pos hr]
    exact .inl ⟨rfl, fun h => absurd (by simpa [Readiness.isReady] using h) hr⟩

theorem retainReady_subperm (retained : List Readiness) (e : Readiness) :
    (retainReady retained e).Subperm (retained ++ [e]) := by
  rcases retainReady_cases retained e with ⟨h, -⟩ | ⟨x, -, -, -, -, h | h⟩
  · rw [h]
  · rw [h]; exact (List.erase_sublist.append_right _).subperm
  · rw [h]; exact (List.sublist_append_left _ _).subperm

theorem retainReady_keyUnique {retained : List Readiness} (h : KeyUnique retained)
    (e : Readiness) : KeyUnique (retainReady retained e) := by
  rcases retainReady_cases retained e with ⟨he, hk⟩ | ⟨x, hx, hxr, -, hk, he | he⟩
  · rw [he]; exact h.append hk
  · rw [he]
    exact (h.sublist List.erase_sublist).append fun _ y hy hyr => hk ▸ h.key_ne_of_erase hx hxr y hy hyr
  · rw [he]; exact h

theorem retainReady_keeps {retained : List Readiness} {e x : Readiness}
    (h : x ∈ retained ∨ x = e) (hx : x.isReady = false) : x ∈ retainReady retained e := by
  rcases retainReady_cases retained e with ⟨he, -⟩ | ⟨y, -, hyr, her, -, he⟩
  · rw [he]; simpa using h
  · rcases h with h | rfl
    · have hne : x ≠ y := by rintro rfl; rw [hx] at hyr; cases hyr
      rcases he with he | he
      · rw [he]; exact List.mem_append_left _ ((List.mem_erase_of_ne hne).2 h)
      · rw [he]; exact h
    · rw [hx] at her; cases her

theorem deduplicate_subperm (l : List Readiness) : (deduplicateReadyEntries l).Subperm l := by
  unfold deduplicateReadyEntries
  suffices h : ∀ r, (l.foldl retainReady r).Subperm (r ++ l) from h []
  induction l with
  | nil => intro r; rw [List.append_nil]; exact .refl r
  | cons e l ih =>
    intro r
    refine (ih _).trans ?_
    rw [List.append_cons]
    exact (List.subperm_append_right l).2 (retainReady_subperm r e)

theorem deduplicate_keyUnique (l : List Readiness) : KeyUnique (deduplicateReadyEntries l) := by
  unfold deduplicateReadyEntries
  refine List.foldlRecOn l retainReady (motive := KeyUnique) (by simp [KeyUnique]) ?_
  exact fun r hr e _ => retainReady_keyUnique hr e

theorem deduplicate_keeps {l : List Readiness} {x : Readiness} (h : x ∈ l)
    (hx : x.isReady = false) : x ∈ deduplicateReadyEntries l := by
  unfold deduplicateReadyEntries
  suffices ∀ r, x ∈ r ∨ x ∈ l → x ∈ l.foldl retainReady r from this [] (.inr h)
  clear h
  induction l with
  | nil => intro r h; simpa using h
  | cons e l ih =>
    intro r h
    refine ih _ ?_
    rcases h with h | h
    · exact .inl (retainReady_keeps (.inl h) hx)
    · rcases List.mem_cons.1 h with h | h
      · exact .inl (retainReady_keeps (.inr h) hx)
      · exact .inr h

/-- A queue without duplicates is left alone. -/
theorem deduplicate_eq {l : List Readiness} (h : KeyUnique l) : deduplicateReadyEntries l = l := by
  unfold deduplicateReadyEntries
  suffices ∀ r, KeyUnique (r ++ l) → l.foldl retainReady r = r ++ l by simpa using this [] h
  clear h
  induction l with
  | nil => intro r _; simp
  | cons e l ih =>
    intro r hr
    have he : retainReady r e = r ++ [e] := by
      rcases retainReady_cases r e with ⟨he, -⟩ | ⟨x, hx, hxr, her, hk, -⟩
      · exact he
      · have : e ∈ (r ++ e :: l).erase x := by
          obtain ⟨r₁, r₂, -, hl, hl'⟩ := List.exists_erase_eq hx
          rw [List.erase_append_left _ hx, hl']
          simp
        exact absurd hk.symm (hr.key_ne_of_erase (by simp [hx]) hxr e this her)
    rw [List.foldl_cons, he, ih _ (by simpa using hr)]
    simp

/-! ## One round of a refresh -/

/-- The values that a refresh writes into an entry. -/
def refreshedEntry (env : Env) (goalId : Nat) (f : RoleDispatchReadiness) (e : Readiness) :
    Readiness :=
  { e with
    goalId := goalId
    fromLogSeq := f.fromLogSeq
    observedToSeq := f.observedToSeq
    wakeReasons := f.wakeReasons
    availableAfter := f.availableAfter
    refreshedAt := env.utcNow }

/-- A new ready entry. -/
def newReadiness (env : Env) (readinessId goalId : Nat) (sessionId : String) (role : Role)
    (f : RoleDispatchReadiness) : Readiness :=
  { readinessId, sessionId, goalId, role
    status := .ready
    firstReadyAt := env.utcNow
    refreshedAt := env.utcNow
    fromLogSeq := f.fromLogSeq
    observedToSeq := f.observedToSeq
    wakeReasons := f.wakeReasons
    availableAfter := f.availableAfter }

/-- A role of a Goal that a refresh goes through. -/
structure Turn where
  goalId : Nat
  sessionId : String
  role : Role

def Turn.key (p : Turn) : String × Role := (p.sessionId, p.role)

/-- The role holds a lease: a run or an acquired entry. -/
def roleBusy (s : State) (l : List Readiness) (p : Turn) : Prop :=
  s.hasAcquiredRoleRun p.sessionId p.role ∨ ∃ e ∈ l, e.isAcquired ∧ e.key = p.key

/-- One round of `rebuildReadiness` on the queue and the id counter; the rest of the
    state is `s`. -/
def refreshQueue (s : State) (env : Env) (q : List Readiness × Nat) (p : Turn) :
    List Readiness × Nat :=
  if s.hasAcquiredRoleRun p.sessionId p.role ||
      (q.1.find? fun e => e.status = .acquired && e.sessionId = p.sessionId &&
        e.role = p.role).isSome then q
  else
    match s.readinessFieldsFromSessionLog p.sessionId p.role,
        q.1.find? (Readiness.readyFor p.sessionId p.role) with
    | none, none => q
    | none, some e => (q.1.erase e, q.2)
    | some f, none => (q.1 ++ [newReadiness env q.2 p.goalId p.sessionId p.role f], q.2 + 1)
    | some f, some _ =>
      (q.1.map fun e => if e.readyFor p.sessionId p.role then refreshedEntry env p.goalId f e
        else e, q.2)

/-- The state with another queue and id counter. -/
def withQueue (s : State) (q : List Readiness × Nat) : State :=
  { s with dispatchReadiness := q.1, nextId := q.2 }

theorem refreshRole_withQueue (s : State) (env : Env) (q : List Readiness × Nat) (p : Turn) :
    (s.withQueue q).refreshRole env p.goalId p.sessionId p.role =
      s.withQueue (s.refreshQueue env q p) := by
  unfold refreshRole refreshQueue
  have h₁ : (s.withQueue q).hasAcquiredRoleRun p.sessionId p.role =
      s.hasAcquiredRoleRun p.sessionId p.role := rfl
  have h₂ : (s.withQueue q).acquiredReadinessForRole p.sessionId p.role =
      q.1.find? fun e => e.status = .acquired && e.sessionId = p.sessionId && e.role = p.role := rfl
  have h₃ : (s.withQueue q).readinessFieldsFromSessionLog p.sessionId p.role =
      s.readinessFieldsFromSessionLog p.sessionId p.role := rfl
  rw [h₁, h₂, h₃]
  by_cases hb : s.hasAcquiredRoleRun p.sessionId p.role
  · simp [hb]
  · simp only [hb, Bool.false_eq_true, if_false, Bool.false_or]
    split_ifs
    · rfl
    · unfold reconcileReadyEntry
      have h₄ : (s.withQueue q).dispatchReadiness = q.1 := rfl
      rw [h₄]
      cases s.readinessFieldsFromSessionLog p.sessionId p.role <;>
        cases q.1.find? (Readiness.readyFor p.sessionId p.role) <;> rfl

section
variable {s : State} {env : Env} {q : List Readiness × Nat} {p : Turn} {e : Readiness}

theorem find?_acquired_isSome :
    (q.1.find? fun e => e.status = .acquired && e.sessionId = p.sessionId &&
      e.role = p.role).isSome ↔ ∃ e ∈ q.1, e.isAcquired ∧ e.key = p.key := by
  simp [Readiness.isAcquired, Readiness.key, Turn.key, and_assoc]

/-- What one round does, by the fields from the log and the ready entry of the key. -/
theorem refreshQueue_cases (s : State) (env : Env) (q : List Readiness × Nat) (p : Turn) :
    (roleBusy s q.1 p ∧ s.refreshQueue env q p = q) ∨
    (¬roleBusy s q.1 p ∧
      ((s.readinessFieldsFromSessionLog p.sessionId p.role = none ∧
          (∀ e ∈ q.1, ¬e.readyFor p.sessionId p.role) ∧ s.refreshQueue env q p = q) ∨
        (s.readinessFieldsFromSessionLog p.sessionId p.role = none ∧
          ∃ e ∈ q.1, e.readyFor p.sessionId p.role ∧
            s.refreshQueue env q p = (q.1.erase e, q.2)) ∨
        (∃ f, s.readinessFieldsFromSessionLog p.sessionId p.role = some f ∧
          (∀ e ∈ q.1, ¬e.readyFor p.sessionId p.role) ∧
          s.refreshQueue env q p =
            (q.1 ++ [newReadiness env q.2 p.goalId p.sessionId p.role f], q.2 + 1)) ∨
        ∃ f, s.readinessFieldsFromSessionLog p.sessionId p.role = some f ∧
          (∃ e ∈ q.1, e.readyFor p.sessionId p.role) ∧
          s.refreshQueue env q p = (q.1.map fun e =>
            if e.readyFor p.sessionId p.role then refreshedEntry env p.goalId f e else e, q.2))) := by
  unfold refreshQueue
  by_cases hb : roleBusy s q.1 p
  · refine .inl ⟨hb, if_pos ?_⟩
    rcases hb with h | h
    · rw [h, Bool.true_or]
    · rw [find?_acquired_isSome.2 h, Bool.or_true]
  · refine .inr ⟨hb, ?_⟩
    rw [if_neg fun h => ?_]
    swap
    · rcases Bool.or_eq_true _ _ ▸ h with h | h
      · exact hb (.inl h)
      · exact hb (.inr (find?_acquired_isSome.1 h))
    cases hf : s.readinessFieldsFromSessionLog p.sessionId p.role with
    | none =>
      cases hr : q.1.find? (Readiness.readyFor p.sessionId p.role) with
      | none => exact .inl ⟨rfl, fun e he => List.find?_eq_none.1 hr e he, rfl⟩
      | some e =>
        exact .inr (.inl ⟨rfl, e, List.mem_of_find?_eq_some hr, List.find?_some hr, rfl⟩)
    | some f =>
      cases hr : q.1.find? (Readiness.readyFor p.sessionId p.role) with
      | none => exact .inr (.inr (.inl ⟨f, rfl, fun e he => List.find?_eq_none.1 hr e he, rfl⟩))
      | some e =>
        exact .inr (.inr (.inr
          ⟨f, rfl, ⟨e, List.mem_of_find?_eq_some hr, List.find?_some hr⟩, rfl⟩))

/-- The queue is as a refresh leaves it for this turn. -/
def Settled (s : State) (env : Env) (l : List Readiness) (p : Turn) : Prop :=
  roleBusy s l p ∨
    match s.readinessFieldsFromSessionLog p.sessionId p.role with
    | none => ∀ e ∈ l, ¬e.readyFor p.sessionId p.role
    | some f => (∃ e ∈ l, e.readyFor p.sessionId p.role) ∧
        ∀ e ∈ l, e.readyFor p.sessionId p.role → refreshedEntry env p.goalId f e = e

@[simp] theorem refreshedEntry_readyFor {goalId : Nat} {f : RoleDispatchReadiness} {sid : String}
    {role : Role} : (refreshedEntry env goalId f e).readyFor sid role = e.readyFor sid role := rfl

@[simp] theorem newReadiness_readyFor {id goalId : Nat} {f : RoleDispatchReadiness} {sid : String}
    {role : Role} : (newReadiness env id goalId sid role f).readyFor sid role := by
  simp [newReadiness, Readiness.readyFor]

theorem readyFor_isReady {sid : String} {role : Role} (h : e.readyFor sid role) : e.isReady := by
  simpa [Readiness.isReady] using (Readiness.readyFor_iff.1 h).1

/-- Two ready entries for one turn have one key. -/
theorem key_of_readyFor (h : e.readyFor p.sessionId p.role) : e.key = p.key :=
  (Readiness.readyFor_iff.1 h).2

/-- A turn does not touch the entries that are not ready for it. -/
theorem filter_refreshQueue (env : Env) (P : Readiness → Bool)
    (hP : ∀ e, e.readyFor p.sessionId p.role → P e = false) :
    (s.refreshQueue env q p).1.filter P = q.1.filter P := by
  rcases refreshQueue_cases s env q p with
    ⟨-, h⟩ | ⟨-, ⟨-, -, h⟩ | ⟨-, e, he, hr, h⟩ | ⟨f, -, -, h⟩ | ⟨f, -, -, h⟩⟩ <;> rw [h]
  · obtain ⟨l₁, l₂, -, hl, hl'⟩ := List.exists_erase_eq he
    simp only [hl']
    rw [hl, List.filter_append, List.filter_append, List.filter_cons_of_neg (by simp [hP e hr])]
  · simp [hP _ newReadiness_readyFor]
  · simp only
    induction q.1 with
    | nil => rfl
    | cons e l ih =>
      rw [List.map_cons]
      by_cases hr : e.readyFor p.sessionId p.role
      · rw [if_pos hr, List.filter_cons_of_neg (by simp [hP (refreshedEntry env p.goalId f e) hr]),
          List.filter_cons_of_neg (by simp [hP e hr]), ih]
      · rw [if_neg hr, List.filter_cons, List.filter_cons, ih]

theorem refreshQueue_keyUnique (h : KeyUnique q.1) : KeyUnique (s.refreshQueue env q p).1 := by
  rcases refreshQueue_cases s env q p with
    ⟨-, he⟩ | ⟨-, ⟨-, -, he⟩ | ⟨-, e, -, -, he⟩ | ⟨f, -, hn, he⟩ | ⟨f, -, -, he⟩⟩ <;> rw [he]
  · exact h
  · exact h
  · exact h.sublist List.erase_sublist
  · refine h.append fun _ x hx hxr hk => hn x hx (Readiness.readyFor_iff.2 ⟨?_, hk⟩)
    simpa [Readiness.isReady] using hxr
  · unfold KeyUnique at h ⊢
    convert h using 1
    have hmap : ∀ e : Readiness, (if e.readyFor p.sessionId p.role then
        refreshedEntry env p.goalId f e else e).isReady = e.isReady ∧
        (if e.readyFor p.sessionId p.role then refreshedEntry env p.goalId f e else e).key = e.key :=
      fun e => by split_ifs <;> exact ⟨rfl, rfl⟩
    rw [List.filter_map, List.map_map]
    have h₁ : Readiness.isReady ∘ (fun e : Readiness => if e.readyFor p.sessionId p.role then
        refreshedEntry env p.goalId f e else e) = Readiness.isReady := funext fun e => (hmap e).1
    have h₂ : Readiness.key ∘ (fun e : Readiness => if e.readyFor p.sessionId p.role then
        refreshedEntry env p.goalId f e else e) = Readiness.key := funext fun e => (hmap e).2
    rw [h₁, h₂]

/-- A turn settles its own key. -/
theorem refreshQueue_settled (h : KeyUnique q.1) :
    Settled s env (s.refreshQueue env q p).1 p := by
  unfold Settled
  rcases refreshQueue_cases s env q p with
    ⟨hb, he⟩ | ⟨-, ⟨hf, hn, he⟩ | ⟨hf, e, hm, hr, he⟩ | ⟨f, hf, hn, he⟩ | ⟨f, hf, hr, he⟩⟩ <;>
    rw [he]
  · exact .inl hb
  · exact .inr (by rw [hf]; exact hn)
  · refine .inr ?_
    rw [hf]
    intro x hx hxr
    exact h.key_ne_of_erase hm (readyFor_isReady hr) x hx (readyFor_isReady hxr)
      ((key_of_readyFor hxr).trans (key_of_readyFor hr).symm)
  · refine .inr ?_
    rw [hf]
    refine ⟨⟨_, List.mem_append_right _ (List.mem_singleton_self _), newReadiness_readyFor⟩, ?_⟩
    intro x hx hxr
    rcases List.mem_append.1 hx with hx | hx
    · exact absurd hxr (hn x hx)
    · rw [List.mem_singleton.1 hx]; rfl
  · refine .inr ?_
    rw [hf]
    obtain ⟨e, hm, hr⟩ := hr
    refine ⟨⟨_, List.mem_map_of_mem hm, by rw [if_pos hr]; exact hr⟩, ?_⟩
    intro x hx hxr
    obtain ⟨y, hy, rfl⟩ := List.mem_map.1 hx
    split_ifs at hxr ⊢ with hyr
    · rfl
    · exact absurd hxr hyr

/-- Where the key is settled, a turn changes nothing. -/
theorem refreshQueue_of_settled (h : Settled s env q.1 p) : s.refreshQueue env q p = q := by
  rcases refreshQueue_cases s env q p with
    ⟨-, he⟩ | ⟨hb, ⟨-, -, he⟩ | ⟨hf, e, hm, hr, -⟩ | ⟨f, hf, hn, -⟩ | ⟨f, hf, -, he⟩⟩
  · exact he
  · exact he
  · have := h.resolve_left hb
    rw [hf] at this
    exact absurd hr (this e hm)
  · have := h.resolve_left hb
    rw [hf] at this
    obtain ⟨⟨e, hm, hr⟩, -⟩ := this
    exact absurd hr (hn e hm)
  · have := h.resolve_left hb
    rw [hf] at this
    rw [he]
    refine Prod.ext ?_ rfl
    refine (List.map_congr_left fun e hm => ?_).trans (List.map_id _)
    dsimp only [id]
    split_ifs with hr
    · exact this.2 e hm hr
    · rfl

theorem mem_of_filter_eq {l l' : List Readiness} {P : Readiness → Bool}
    (h : l.filter P = l'.filter P) (hm : e ∈ l) (hP : P e) : e ∈ l' :=
  (List.mem_filter.1 (h ▸ List.mem_filter.2 ⟨hm, hP⟩)).1

theorem roleBusy.congr {l l' : List Readiness}
    (ha : l.filter Readiness.isAcquired = l'.filter Readiness.isAcquired) (h : roleBusy s l p) :
    roleBusy s l' p := by
  rcases h with h | ⟨e, he, hs, hk⟩
  · exact .inl h
  · exact .inr ⟨e, mem_of_filter_eq ha he hs, hs, hk⟩

/-- Being settled is a matter of the acquired entries and of the ready entries of the key. -/
theorem Settled.congr {l l' : List Readiness}
    (ha : l.filter Readiness.isAcquired = l'.filter Readiness.isAcquired)
    (hr : l.filter (Readiness.readyFor p.sessionId p.role) =
      l'.filter (Readiness.readyFor p.sessionId p.role))
    (h : Settled s env l p) : Settled s env l' p := by
  refine h.imp (roleBusy.congr ha) fun h => ?_
  cases hf : s.readinessFieldsFromSessionLog p.sessionId p.role with
  | none =>
    rw [hf] at h
    exact fun e he hre => h e (mem_of_filter_eq hr.symm he hre) hre
  | some f =>
    rw [hf] at h
    obtain ⟨⟨e, he, hre⟩, hall⟩ := h
    exact ⟨⟨e, mem_of_filter_eq hr he hre, hre⟩,
      fun x hx hxr => hall x (mem_of_filter_eq hr.symm hx hxr) hxr⟩

/-- A ready entry that a refresh has written for a turn: its window is that of the log, and
    its id is that of the ready entry of the key, or new. -/
structure Written (s : State) (env : Env) (q : List Readiness × Nat) (p : Turn) (e : Readiness) :
    Prop where
  ready : e.readyFor p.sessionId p.role
  idle : ¬roleBusy s q.1 p
  fields : ∃ f, s.readinessFieldsFromSessionLog p.sessionId p.role = some f ∧
    refreshedEntry env p.goalId f e = e
  id : (∃ e' ∈ q.1, e'.readyFor p.sessionId p.role ∧ e'.readinessId = e.readinessId) ∨
    q.2 ≤ e.readinessId

theorem mem_refreshQueue (h : e ∈ (s.refreshQueue env q p).1) : e ∈ q.1 ∨ Written s env q p e := by
  rcases refreshQueue_cases s env q p with
    ⟨-, he⟩ | ⟨hb, ⟨-, -, he⟩ | ⟨-, x, -, -, he⟩ | ⟨f, hf, -, he⟩ | ⟨f, hf, -, he⟩⟩ <;> rw [he] at h
  · exact .inl h
  · exact .inl h
  · exact .inl (List.mem_of_mem_erase h)
  · rcases List.mem_append.1 h with h | h
    · exact .inl h
    · rw [List.mem_singleton.1 h]
      exact .inr ⟨newReadiness_readyFor, hb, ⟨f, hf, rfl⟩, .inr le_rfl⟩
  · obtain ⟨y, hy, rfl⟩ := List.mem_map.1 h
    split_ifs with hyr
    · exact .inr ⟨hyr, hb, ⟨f, hf, rfl⟩, .inl ⟨y, hy, hyr, rfl⟩⟩
    · exact .inl hy

/-- A turn keeps the entries that are not ready for it, and all entries if the role is
    busy. -/
theorem kept_refreshQueue (h : e ∈ q.1) (hb : e.readyFor p.sessionId p.role → roleBusy s q.1 p) :
    e ∈ (s.refreshQueue env q p).1 := by
  by_cases hr : e.readyFor p.sessionId p.role
  · have : s.refreshQueue env q p = q := refreshQueue_of_settled (.inl (hb hr))
    rwa [this]
  · refine mem_of_filter_eq (P := fun x => !x.readyFor p.sessionId p.role)
      (filter_refreshQueue env _ fun x hx => ?_).symm h (by simp [hr])
    simp [hx]

/-- Distinct ids, all below the counter. -/
def IdsBelow (q : List Readiness × Nat) : Prop :=
  (q.1.map Readiness.readinessId).Nodup ∧ ∀ e ∈ q.1, e.readinessId < q.2

theorem refreshQueue_ids (h : IdsBelow q) :
    IdsBelow (s.refreshQueue env q p) ∧ q.2 ≤ (s.refreshQueue env q p).2 := by
  rcases refreshQueue_cases s env q p with
    ⟨-, he⟩ | ⟨-, ⟨-, -, he⟩ | ⟨-, x, -, -, he⟩ | ⟨f, -, -, he⟩ | ⟨f, -, -, he⟩⟩ <;> rw [he]
  · exact ⟨h, le_rfl⟩
  · exact ⟨h, le_rfl⟩
  · exact ⟨⟨(List.erase_sublist.map _).nodup h.1, fun e he => h.2 e (List.mem_of_mem_erase he)⟩, le_rfl⟩
  · refine ⟨⟨?_, fun e he => ?_⟩, Nat.le_succ _⟩
    · rw [List.map_append, List.nodup_append]
      refine ⟨h.1, List.nodup_singleton _, ?_⟩
      rintro a ha b hb rfl
      obtain ⟨e, hm, rfl⟩ := List.mem_map.1 ha
      have := h.2 e hm
      rw [List.mem_singleton.1 hb] at this
      exact lt_irrefl _ this
    · rcases List.mem_append.1 he with he | he
      · exact Nat.lt_succ_of_lt (h.2 e he)
      · rw [List.mem_singleton.1 he]; exact Nat.lt_succ_self _
  · have hid : Readiness.readinessId ∘ (fun e : Readiness =>
        if e.readyFor p.sessionId p.role then refreshedEntry env p.goalId f e else e) =
        Readiness.readinessId := funext fun e => by dsimp only [Function.comp]; split_ifs <;> rfl
    refine ⟨⟨by rw [List.map_map, hid]; exact h.1, fun e he => ?_⟩, le_rfl⟩
    obtain ⟨y, hy, rfl⟩ := List.mem_map.1 he
    exact lt_of_eq_of_lt (congrFun hid y) (h.2 y hy)

/-! ## A whole refresh -/

/-- What holds of a queue `q` that `q₀` has been refreshed to by the turns `ps`. -/
structure Rebuild (s : State) (env : Env) (ps : List Turn) (q₀ q : List Readiness × Nat) : Prop where
  unique : KeyUnique q.1
  settled : ∀ p ∈ ps, Settled s env q.1 p
  filter : ∀ P : Readiness → Bool,
    (∀ p ∈ ps, ∀ e, e.readyFor p.sessionId p.role → P e = false) → q.1.filter P = q₀.1.filter P
  mem : ∀ e ∈ q.1, e ∈ q₀.1 ∨ ∃ p ∈ ps, Written s env q₀ p e
  kept : ∀ e ∈ q₀.1, (∀ p ∈ ps, e.readyFor p.sessionId p.role → roleBusy s q₀.1 p) → e ∈ q.1
  ids : IdsBelow q₀ → IdsBelow q
  le : q₀.2 ≤ q.2

theorem isAcquired_of_readyFor {sid : String} {role : Role} (h : e.readyFor sid role) :
    e.isAcquired = false := by
  simp [Readiness.isAcquired, (Readiness.readyFor_iff.1 h).1]

theorem readyFor_other {p p' : Turn} (hk : p.key ≠ p'.key) (h : e.readyFor p.sessionId p.role) :
    e.readyFor p'.sessionId p'.role = false := by
  rw [Bool.eq_false_iff]
  exact fun h' => hk ((key_of_readyFor h).symm.trans (key_of_readyFor h'))

theorem foldl_refreshQueue_le (ps : List Turn) (q : List Readiness × Nat) :
    q.2 ≤ (ps.foldl (s.refreshQueue env) q).2 := by
  refine List.foldlRecOn ps (s.refreshQueue env) (motive := fun q' : List Readiness × Nat =>
    q.2 ≤ q'.2) le_rfl fun q' hq p _ => ?_
  rcases refreshQueue_cases s env q' p with
    ⟨-, he⟩ | ⟨-, ⟨-, -, he⟩ | ⟨-, x, -, -, he⟩ | ⟨f, -, -, he⟩ | ⟨f, -, -, he⟩⟩ <;> rw [he]
  · exact hq
  · exact hq
  · exact hq
  · exact hq.trans (Nat.le_succ _)
  · exact hq

/-- **A refresh that takes each key once.** -/
theorem rebuild_foldl (s : State) (env : Env) : ∀ (ps : List Turn) (q : List Readiness × Nat),
    (ps.map Turn.key).Nodup → KeyUnique q.1 →
      Rebuild s env ps q (ps.foldl (s.refreshQueue env) q)
  | [], q, _, hu =>
    ⟨hu, by simp, fun _ _ => rfl, fun _ he => .inl he, fun _ he _ => he, fun h => h, le_rfl⟩
  | p :: ps, q, hn, hu => by
    obtain ⟨hp, hn⟩ := List.nodup_cons.1 hn
    have hother : ∀ p' ∈ ps, p.key ≠ p'.key := fun p' h' hk =>
      hp (hk ▸ List.mem_map_of_mem h')
    have ih := rebuild_foldl s env ps (s.refreshQueue env q p) hn (refreshQueue_keyUnique hu)
    have hacq : (s.refreshQueue env q p).1.filter Readiness.isAcquired =
        q.1.filter Readiness.isAcquired :=
      filter_refreshQueue env _ fun e he => isAcquired_of_readyFor he
    rw [List.foldl_cons]
    refine ⟨ih.unique, ?_, ?_, ?_, ?_, fun h => ih.ids (refreshQueue_ids h).1, ?_⟩
    · intro p' hp'
      rcases List.mem_cons.1 hp' with rfl | hp'
      · -- the other turns leave the key of the first one as it is
        refine (refreshQueue_settled hu).congr ?_ ?_
        · exact (ih.filter _ fun _ _ e he => isAcquired_of_readyFor he).symm
        · exact (ih.filter _ fun x hx e he => readyFor_other (hother x hx).symm he).symm
      · exact ih.settled p' hp'
    · intro P hP
      rw [ih.filter P fun x hx => hP x (List.mem_cons_of_mem _ hx)]
      exact filter_refreshQueue env P (hP p List.mem_cons_self)
    · intro e he
      rcases ih.mem e he with he | ⟨p', hp', hw⟩
      · exact (mem_refreshQueue he).imp_right fun h => ⟨p, List.mem_cons_self, h⟩
      · refine .inr ⟨p', List.mem_cons_of_mem _ hp', hw.ready, ?_, hw.fields, ?_⟩
        · exact fun hb => hw.idle (hb.congr hacq.symm)
        · refine hw.id.imp ?_ (foldl_refreshQueue_le [p] q).trans
          rintro ⟨e', he', hr', hid⟩
          refine ⟨e', mem_of_filter_eq (filter_refreshQueue env _ fun x hx => ?_) he' hr', hr', hid⟩
          exact readyFor_other (hother p' hp') hx
    · intro e he hbusy
      refine ih.kept e (kept_refreshQueue he (hbusy p List.mem_cons_self)) fun p' hp' hr => ?_
      exact (hbusy p' (List.mem_cons_of_mem _ hp') hr).congr hacq.symm
    · exact (foldl_refreshQueue_le [p] q).trans ih.le

theorem foldl_of_settled (ps : List Turn) (q : List Readiness × Nat)
    (h : ∀ p ∈ ps, Settled s env q.1 p) : ps.foldl (s.refreshQueue env) q = q := by
  induction ps with
  | nil => rfl
  | cons p ps ih =>
    rw [List.foldl_cons, refreshQueue_of_settled (h p List.mem_cons_self)]
    exact ih fun x hx => h x (List.mem_cons_of_mem _ hx)

end

/-! ## `rebuildReadiness` -/

/-- The turns that a refresh goes through. -/
def turns (s : State) : List Turn :=
  (s.currentGoals.filter fun g => s.refreshable g.2).flatMap fun g =>
    Role.all.map fun role => ⟨g.1, g.2.sessionId, role⟩

/-- The ready and acquired entries. -/
def liveEntries (s : State) : List Readiness :=
  s.dispatchReadiness.filter fun e => e.status = .ready || e.status = .acquired

/-- The queue and id counter that a refresh starts from, and ends with. -/
def queueBefore (s : State) : List Readiness × Nat :=
  (deduplicateReadyEntries s.liveEntries, s.nextId)

def queueAfter (s : State) (env : Env) : List Readiness × Nat :=
  s.turns.foldl (s.refreshQueue env) s.queueBefore

variable {s : State} {env : Env}

theorem mem_turns {p : Turn} : p ∈ s.turns ↔ ∃ g ∈ s.currentGoals, s.refreshable g.2 ∧
    p.goalId = g.1 ∧ p.sessionId = g.2.sessionId := by
  simp only [turns, List.mem_flatMap, List.mem_filter, List.mem_map]
  constructor
  · rintro ⟨g, ⟨hg, hr⟩, role, -, rfl⟩
    exact ⟨g, hg, hr, rfl, rfl⟩
  · rintro ⟨g, hg, hr, h₁, h₂⟩
    obtain ⟨goalId, sessionId, role⟩ := p
    cases h₁; cases h₂
    exact ⟨g, ⟨hg, hr⟩, role, by cases role <;> simp [Role.all], rfl⟩

theorem nodup_turns (s : State) : (s.turns.map Turn.key).Nodup := by
  have h : s.turns.map Turn.key = ((s.currentGoals.filter fun g => s.refreshable g.2).map
      fun g => g.2.sessionId).product Role.all := by
    simp [turns, Turn.key, List.map_flatMap, List.product, List.flatMap_map, Function.comp_def]
  rw [h]
  exact ((List.filter_sublist.map _).nodup s.nodup_currentGoals).product (by decide)

/-- **A refresh changes the queue and the id counter only.** -/
theorem rebuild_eq (s : State) (env : Env) : s.rebuildReadiness env = s.withQueue (s.queueAfter env) := by
  have hrole : ∀ (ps : List Turn) (q : List Readiness × Nat),
      ps.foldl (fun s p => s.refreshRole env p.goalId p.sessionId p.role) (s.withQueue q) =
        s.withQueue (ps.foldl (s.refreshQueue env) q) := by
    intro ps
    induction ps with
    | nil => exact fun q => rfl
    | cons p ps ih =>
      intro q
      rw [List.foldl_cons, List.foldl_cons, refreshRole_withQueue]
      exact ih _
  have hgoals : ∀ (gs : List (Nat × Goal)) (q : List Readiness × Nat),
      gs.foldl (fun s g => s.refreshGoal env g) (s.withQueue q) =
        ((gs.filter fun g => s.refreshable g.2).flatMap fun g =>
          Role.all.map fun role => (⟨g.1, g.2.sessionId, role⟩ : Turn)).foldl
            (fun s p => s.refreshRole env p.goalId p.sessionId p.role) (s.withQueue q) := by
    intro gs
    induction gs with
    | nil => exact fun q => rfl
    | cons g gs ih =>
      intro q
      rw [List.foldl_cons]
      by_cases hg : s.refreshable g.2
      · have : (s.withQueue q).refreshGoal env g =
            (Role.all.map fun role => (⟨g.1, g.2.sessionId, role⟩ : Turn)).foldl
              (fun s p => s.refreshRole env p.goalId p.sessionId p.role) (s.withQueue q) := by
          unfold refreshGoal
          rw [if_pos (show (s.withQueue q).refreshable g.2 = true from hg), List.foldl_map]
        rw [this, List.filter_cons_of_pos (p := fun g : Nat × Goal => s.refreshable g.2) hg, List.flatMap_cons, List.foldl_append, hrole]
        exact ih _
      · have : (s.withQueue q).refreshGoal env g = s.withQueue q := by
          unfold refreshGoal
          rw [if_neg (show ¬(s.withQueue q).refreshable g.2 = true from hg)]
        rw [this, List.filter_cons_of_neg (p := fun g : Nat × Goal => s.refreshable g.2) hg]
        exact ih _
  exact (hgoals s.currentGoals s.queueBefore).trans (hrole s.turns _)

theorem rebuild_spec (s : State) (env : Env) :
    Rebuild s env s.turns s.queueBefore (s.queueAfter env) :=
  rebuild_foldl s env s.turns _ s.nodup_turns (deduplicate_keyUnique _)

theorem mem_queueBefore {e : Readiness} (h : e ∈ s.queueBefore.1) : e ∈ s.liveEntries :=
  (deduplicate_subperm _).subset h

/-- Every entry of a refreshed queue is ready or acquired. -/
theorem live_queueAfter : ∀ e ∈ (s.queueAfter env).1, e.status = .ready ∨ e.status = .acquired := by
  intro e he
  rcases (rebuild_spec s env).mem e he with he | ⟨p, -, hw⟩
  · simpa using (List.mem_filter.1 (mem_queueBefore he)).2
  · exact .inl (Readiness.readyFor_iff.1 hw.ready).1

/-- **Refreshing twice is refreshing once**, but for the ids that are used up. -/
theorem rebuildReadiness_idem (s : State) (env : Env) :
    (s.rebuildReadiness env).rebuildReadiness env = s.rebuildReadiness env := by
  have hspec := rebuild_spec s env
  rw [rebuild_eq s env]
  set q := s.queueAfter env with hq
  have hlive : (s.withQueue q).liveEntries = q.1 :=
    List.filter_eq_self.2 fun e he => by simpa using live_queueAfter e (hq ▸ he)
  have hbefore : (s.withQueue q).queueBefore = q := by
    unfold queueBefore
    rw [hlive, deduplicate_eq hspec.unique]
    rfl
  rw [rebuild_eq]
  have hafter : (s.withQueue q).queueAfter env = q := by
    unfold queueAfter
    rw [hbefore]
    exact foldl_of_settled _ _ fun p hp => hspec.settled p hp
  rw [hafter]
  rfl

end State
end Aize
