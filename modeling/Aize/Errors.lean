/-
  What the operations may raise.

  A load raises a `StoreError` or, for a date out of range, an `OverflowError`, and so does a
  change of the next run time (`raises_load`, `raises_schedule`). On the way to a completion
  the `StoreError`s are caught: only the `OverflowError`s of the resolver are left
  (`raises_prepare`).
-/
import Aize.System

namespace Aize

open Except (Raises)

/-- The error is a `StoreError`. -/
def Err.IsStoreError (e : Err) : Prop := ∃ text, e = .storeError text

theorem Err.isStoreError (text : String) : (Err.storeError text).IsStoreError := ⟨text, rfl⟩

/-- No dictionary access has failed. -/
def Err.NoKeyError (e : Err) : Prop := ∀ key, e ≠ .keyError key

theorem Err.IsStoreError.noKeyError : ∀ e : Err, e.IsStoreError → e.NoKeyError := by
  rintro _ ⟨text, rfl⟩ key ⟨⟩

theorem Err.noKeyError (text : String) : (Err.storeError text).NoKeyError :=
  (Err.isStoreError text).noKeyError

namespace State

/-! ## Loading -/

theorem raises_link (s : State) (p c : String) :
    Raises Err.IsStoreError (s.linkSessionsInState p c) := by
  unfold linkSessionsInState
  split_ifs <;> first | exact .ok _ | exact .error (Err.isStoreError _)

theorem raises_rename (s : State) (old new : String) :
    Raises Err.IsStoreError (s.renameSessionId old new) := by
  unfold renameSessionId
  split
  · exact .ok _
  · split_ifs
    · exact .ok _
    · exact .error (Err.isStoreError _)
    · exact .ok _

theorem ite_bind {c : Prop} [Decidable c] {α β : Type} (x y : Except Err α) (f : α → Except Err β) :
    (if c then x >>= f else y >>= f) = (if c then x else y) >>= f := by
  split_ifs <;> rfl

theorem raises_assignHome (s : State) (username : String) (user : User) :
    Raises Err.IsStoreError (s.assignHome username user) := by
  unfold assignHome
  dsimp only
  rw [ite_bind]
  refine .bind ?_ fun s₁ _ => ?_
  · split_ifs
    · exact raises_rename s _ _
    · exact .ok _
  · split_ifs
    · cases s₁.units.lookup (strip user.homeUnitId) with
      | none => exact .ok _
      | some unit => exact .error (Err.isStoreError _)
    · cases s₁.units.lookup (strip user.homeUnitId) with
      | none => exact .ok _
      | some unit => exact .ok _
    · exact .ok _

theorem raises_userHome (timestamp : String) (s : State) (username : String) :
    Raises Err.IsStoreError (s.ensureUserHome timestamp username) := by
  unfold ensureUserHome
  split
  · exact .ok _
  · split_ifs
    · exact .ok _
    · refine .bind (raises_assignHome s _ _) fun s₁ _ => .bind ?_ fun _ _ => ?_
      · exact .require fun _ => Err.isStoreError _
      · dsimp only
        split_ifs
        · exact .ok _
        · exact raises_link _ _ _

theorem raises_ownerParent (s : State) (sid : String) :
    Raises Err.IsStoreError (s.ensureOwnerParent sid) := by
  unfold ensureOwnerParent
  dsimp only
  split
  · exact .ok _
  · split_ifs
    · exact .ok _
    · exact .bind (.require fun _ => Err.isStoreError _) fun _ _ => .ok _
    · refine .bind (.require fun _ => Err.isStoreError _) fun _ _ => ?_
      exact .bind (raises_link _ _ _) fun _ _ => .ok _

theorem raises_toDatetime (t : Int) : Raises Err.NoKeyError (toDatetime t) := by
  unfold toDatetime
  split_ifs
  · exact .ok _
  · exact .error (by rintro key ⟨⟩)

theorem raises_parseUtc (t : Stamp) : Raises Err.NoKeyError t.parseUtc := by
  unfold Stamp.parseUtc
  split
  · exact raises_toDatetime _
  · exact .error (Err.noKeyError _)

theorem raises_unitSchedule (schedule : Option Schedule) :
    Raises Err.NoKeyError (normalizeUnitSchedule schedule) := by
  unfold normalizeUnitSchedule
  split
  · exact .ok _
  · dsimp only
    split_ifs
    all_goals first
      | exact .bind (.bind (raises_parseUtc _) fun _ _ => .ok _) fun _ _ =>
          .bind (.require fun _ => Err.noKeyError _) fun _ _ => .ok _
      | exact .bind (.require fun _ => Err.noKeyError _) fun _ _ => .ok _

theorem raises_storedUnit (s : State) (unitId : String) :
    Raises Err.NoKeyError (s.normalizeStoredUnit unitId) := by
  unfold normalizeStoredUnit
  split
  · exact .ok _
  · refine .bind ?_ fun _ _ => .ok _
    unfold normalizeUnit normalizeUnitActivationTriggers
    refine .bind (raises_unitSchedule _) fun _ _ => .bind ?_ fun _ _ => .ok _
    exact .bind (.require fun _ => Err.noKeyError _) fun _ _ => .ok _

theorem raises_ensureDefaults (s : State) (timestamp : String) :
    Raises Err.NoKeyError (s.ensureDefaults timestamp) := by
  unfold ensureDefaults
  dsimp only
  refine .bind (.foldlM raises_storedUnit _ _) fun s₁ _ => .bind ?_ fun s₂ _ => ?_
  · unfold ensureRootSession
    split
    · exact .ok _
    · split_ifs
      · exact .error (Err.noKeyError _)
      · exact .ok _
  · refine .bind (Raises.foldlM (raises_userHome timestamp) _ _ |>.mono Err.IsStoreError.noKeyError)
      fun s₃ _ => ?_
    refine .bind (Raises.foldlM raises_ownerParent _ _ |>.mono Err.IsStoreError.noKeyError)
      fun s₄ _ => .bind ?_ fun _ _ => .ok _
    exact .bind (.require fun _ => Err.noKeyError _) fun _ _ => .require fun _ => Err.noKeyError _

theorem raises_load (s : State) (env : Env) : Raises Err.NoKeyError (s.load env) :=
  raises_ensureDefaults _ _

/-! ## The next run time -/

theorem raises_advancePast (completed interval : Int) : ∀ (rounds : ℕ) (candidate : Int),
    Raises Err.NoKeyError (advancePast completed interval rounds candidate)
  | 0, _ => .ok _
  | rounds + 1, candidate => by
    unfold advancePast
    split_ifs
    · exact .bind (raises_toDatetime _) fun _ _ => raises_advancePast completed interval rounds _
    · exact .ok _

theorem raises_resolve (resolver : String) (p : FixedParameters) (q : RuntimeParameters) :
    Raises Err.NoKeyError (resolveNextRunAt resolver p q) := by
  unfold resolveNextRunAt
  dsimp only
  split_ifs
  · refine .bind ?_ fun _ _ => .bind (raises_parseUtc _) fun _ _ => .ok _
    unfold explicitNextRunAt
    dsimp only
    split_ifs
    · exact .error (Err.noKeyError _)
    · exact .ok _
  · refine .bind ?_ fun _ _ => .bind (raises_parseUtc _) fun _ _ => .ok _
    unfold nextIntervalBoundary timedelta
    refine .bind (.require fun _ => Err.noKeyError _) fun _ _ => ?_
    refine .bind (.require fun _ => Err.noKeyError _) fun _ _ => ?_
    refine .bind (.require fun _ => Err.noKeyError _) fun _ _ => ?_
    refine .bind (raises_parseUtc _) fun _ _ => .bind (raises_parseUtc _) fun _ _ => .bind ?_
      fun _ _ => .bind (raises_advancePast _ _ _ _) fun _ _ => .ok _
    split_ifs
    · exact .ok _
    · exact .error (by rintro key ⟨⟩)
  · exact .error (Err.noKeyError _)

theorem raises_append (s : State) (sid fromEndpoint toEndpoint : String) (payload : Payload)
    (createdAt : String) : Raises Err.IsStoreError
      (s.appendSessionMessage sid fromEndpoint toEndpoint payload createdAt) := by
  unfold appendSessionMessage
  split_ifs
  · exact .ok _
  · exact .error (Err.isStoreError _)

theorem raises_schedule (s : State) (env : Env) (sid : String) (callParameters : CallParameters)
    (actor : String) (runId : Option Nat) (completedAt : Stamp) (provisional : Bool) :
    Raises Err.NoKeyError
      (s.scheduleNextUnitRun env sid callParameters actor runId completedAt provisional) := by
  unfold scheduleNextUnitRun
  cases s.sessions.lookup sid with
  | none => exact .error (Err.noKeyError _)
  | some session =>
    refine .bind (.require fun _ => Err.noKeyError _) fun _ _ => ?_
    refine .bind (.require fun _ => Err.noKeyError _) fun _ _ => ?_
    cases s.units.lookup session.unitId with
    | none => exact .error (Err.noKeyError _)
    | some unit =>
      dsimp only
      cases unit.schedule.filter Schedule.enabled with
      | none => exact .error (Err.noKeyError _)
      | some schedule =>
        refine .bind (raises_resolve _ _ _) fun _ _ => .bind (raises_parseUtc _) fun _ _ => ?_
        refine .bind (raises_parseUtc _) fun _ _ => .bind (.require fun _ => Err.noKeyError _)
          fun _ _ => ?_
        exact .bind ((raises_append _ _ _ _ _ _).mono Err.IsStoreError.noKeyError) fun _ _ => .ok _

/-! ## Completions -/

theorem raises_exceptStoreError {α : Type} {x : Except Err α} {handler : String → α}
    (h : Raises Err.NoKeyError x) : Raises (· = .overflowError) (exceptStoreError x handler) := by
  unfold exceptStoreError
  rcases x with (_ | key | _) | _
  · exact .ok _
  · exact absurd rfl (h _ rfl key)
  · exact .error rfl
  · exact .ok _

theorem raises_mustResolveNext (schedule : Schedule) (completedAt : Stamp) :
    Raises (· = .overflowError) (mustResolveNext schedule completedAt) := by
  unfold mustResolveNext
  dsimp only
  generalize (if schedule.resolver = "" then "explicit" else schedule.resolver) = resolver
  split_ifs
  · exact .ok _
  · exact raises_exceptStoreError
      (.bind (raises_parseUtc _) fun _ _ => .bind (raises_parseUtc _) fun _ _ => .ok _)

theorem raises_blocker (s : State) (session : Session) (completedAt : Stamp) :
    Raises (· = .overflowError) (s.scheduledUnitCompletionBlocker session completedAt) := by
  unfold scheduledUnitCompletionBlocker
  dsimp only
  split
  · exact .ok _
  · split_ifs
    · exact .ok _
    · exact raises_exceptStoreError
        (.bind (raises_parseUtc _) fun _ _ => .bind (raises_parseUtc _) fun _ _ => .ok _)

/-- **A completion raises nothing but an `OverflowError`**, for a Session whose Unit is
    scheduled. -/
theorem raises_prepare (s : State) (env : Env) (sid : String) (session : Session) (rid : Nat)
    (parameters : CallParameters) (completedAt : Stamp) :
    Raises (fun e => e = .overflowError ∧ (s.enabledSchedule session).isSome)
      (s.prepareScheduledUnitCompletion env sid session rid parameters completedAt) := by
  unfold prepareScheduledUnitCompletion
  cases hs : s.enabledSchedule session with
  | none => exact .ok _
  | some schedule =>
    refine Raises.mono ?_ fun e he => ⟨he, rfl⟩
    refine .bind (raises_mustResolveNext _ _) fun must _ => ?_
    split_ifs
    · have hraises := raises_schedule s env sid parameters Role.goalManager.token (some rid)
        completedAt false
      cases hx : s.scheduleNextUnitRun env sid parameters Role.goalManager.token (some rid)
        completedAt false with
      | ok s₁ => exact .bind (raises_blocker _ _ _) fun _ _ => .ok _
      | error e =>
        cases e with
        | storeError text => exact .ok _
        | keyError key => exact absurd rfl (hraises _ hx key)
        | overflowError => exact .error rfl
    · exact .bind (raises_blocker _ _ _) fun _ _ => .ok _

end State
end Aize
