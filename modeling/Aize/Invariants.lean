/-
  The invariants of a ledger, and that each step keeps them.

  * `Consistent`: logs are numbered 1, 2, 3, ..., replaying a log gives the
    completion state of the Goal, and no acquired run has changed a Goal's state.
    Kept by every step.
  * `Exclusive`: at most one live entry and one acquired run for a Session and
    role, and never a ready entry beside an acquired run. Kept by every step but a
    requeue whose entry a run still holds.
  * `Windowed`: the window of a ready entry or acquired run starts right after the
    role's cursor. Kept while no run record is lost.
  * `Faithful`: replaying a log changes nothing at all. Kept by steps that log
    what they change.
-/
import Mathlib.Data.List.Range
import Aize.Ledger

namespace Aize

/-! ## Numbered logs and replays -/

theorem Numbered.append {n : Nat} {log es : List LogEntry} (h : Numbered n log)
    (h' : Numbered (n + log.length) es) : Numbered n (log ++ es) := by
  unfold Numbered at *
  rw [List.map_append, h, h', List.length_append, ← List.range'_append_1]
  congr 2; omega

/-- The completion state that a replay gives does not depend on the reason. -/
theorem replayGoal_state (es : List LogEntry) (st : CompletionState) (r r' : String) :
    (es.foldl replayGoal (st, r)).1 = (es.foldl replayGoal (st, r')).1 := by
  suffices h : ∀ g g' : CompletionState × String, g.1 = g'.1 →
      (es.foldl replayGoal g).1 = (es.foldl replayGoal g').1 from h _ _ rfl
  induction es with
  | nil => exact fun g g' h => h
  | cons e es ih =>
    intro g g' h
    refine ih _ _ ?_
    unfold replayGoal
    cases e.body with
    | goalStateChanged t => cases ht : t.completionState <;> simp only [ht, h]
    | message m => simp only [h]; split_ifs <;> simp [h]
    | _ => exact h

namespace LogEntry

theorem replayGoal_quiet {e : LogEntry} (h : e.isQuiet) (g : CompletionState × String) :
    replayGoal g e = g := by
  unfold isQuiet at h
  unfold Aize.replayGoal
  cases hb : e.body with
  | message m => simp [hb] at h; simp [h]
  | goalStateChanged t => simp [hb] at h; simp [h]
  | _ => rfl

theorem not_requirement_of_quiet {e : LogEntry} (h : e.isQuiet) : e.isRequirement = false := by
  unfold isQuiet at h
  unfold isRequirement
  cases hb : e.body <;> simp_all

/-- A requirement does not change a Goal that is incomplete. -/
theorem replayGoal_requirement {e : LogEntry} (h : e.isRequirement) (r : String) :
    replayGoal (.incomplete, r) e = (.incomplete, r) := by
  unfold isRequirement at h
  unfold Aize.replayGoal
  cases hb : e.body with
  | goalStateChanged t => simp [hb] at h
  | message m => simp
  | _ => rfl

end LogEntry

theorem Numbered.nil (n : Nat) : Numbered n [] := rfl

theorem Fits.nil (run : Nat → Option DispatchRun) (n : Nat) : Fits run n [] :=
  ⟨.nil n, fun _ h => absurd h List.not_mem_nil, fun _ h => absurd h List.not_mem_nil⟩

/-! ## Updates of a book -/

namespace Book

variable {b : Book} {sid sid' : String} {v : SessionView} {es : List LogEntry} {role : Role} {n : Nat}

theorem setSession_session : (b.setSession sid v).session sid' =
    if sid' = sid then some v else b.session sid' := by simp [setSession, Function.update_apply]

theorem addEntries_log : (b.addEntries sid es).log sid' =
    if sid' = sid then b.log sid ++ es else b.log sid' := by
  simp [addEntries, Function.update_apply]

@[simp] theorem setSession_log : (b.setSession sid v).log = b.log := rfl
@[simp] theorem addEntries_session : (b.addEntries sid es).session = b.session := rfl
@[simp] theorem advance_log : (b.advance sid role n).log = b.log := rfl

theorem advance_session : (b.advance sid role n).session sid' =
    if sid' = sid then (b.session sid').map fun v =>
      { v with cursors := v.cursors.set role (max (v.cursors.get role) n) }
    else b.session sid' := rfl

end Book

/-! ## What a step on the book does -/

namespace BookStep

variable {run : Nat → Option DispatchRun} {b b' : Book} {l : Label}

/-- Logs grow, and only those of Sessions. -/
theorem log_grows (h : BookStep run b l b') (sid : String) : ∃ es, b'.log sid = b.log sid ++ es ∧
    Fits run (b.log sid).length es ∧ (b.session sid = none → es = []) := by
  have same : ∃ es, b.log sid = b.log sid ++ es ∧ Fits run (b.log sid).length es ∧
      (b.session sid = none → es = []) := ⟨[], by simp, .nil _ _, fun _ => rfl⟩
  have add : ∀ {sid' v es}, b.session sid' = some v → Fits run (b.log sid').length es →
      ∃ es', (b.addEntries sid' es).log sid = b.log sid ++ es' ∧ Fits run (b.log sid).length es' ∧
        (b.session sid = none → es' = []) := by
    intro sid' v es hv hf
    rw [Book.addEntries_log]
    split_ifs with hk
    · subst hk; exact ⟨es, rfl, hf, fun hn => by rw [hn] at hv; cases hv⟩
    · exact same
  cases h with
  | note hv hf _ => exact add hv hf
  | arrive hall =>
    rcases hall sid with ⟨-, hl⟩ | ⟨v, es, goal, hv, -, hl, hf, -⟩
    · rw [hl]; exact same
    · exact ⟨es, hl, hf, fun hn => by rw [hn] at hv; cases hv⟩
  | openSession => exact same
  | setActive hv hf _ => exact add hv hf
  | reactivate => exact same
  | unlogged => exact same
  | complete hv _ _ _ _ _ hf => exact add hv hf
  | replay => exact same

/-- Sessions stay, with their cursors and Goals; a new one has nothing. -/
theorem session_grows (h : BookStep run b l b') (sid : String) :
    (b.session sid = none → b'.session sid = none ∨ b'.session sid = some ⟨true, {}, none⟩) ∧
    ∀ v, b.session sid = some v → ∃ v', b'.session sid = some v' ∧ v'.cursors = v.cursors ∧
      ∀ g, v.goal = some g → ∃ g', v'.goal = some g' ∧ g'.goalId = g.goalId := by
  have same : (b.session sid = none → b.session sid = none ∨ b.session sid = some ⟨true, {}, none⟩) ∧
      ∀ v, b.session sid = some v → ∃ v', b.session sid = some v' ∧ v'.cursors = v.cursors ∧
        ∀ g, v.goal = some g → ∃ g', v'.goal = some g' ∧ g'.goalId = g.goalId :=
    ⟨.inl, fun v hv => ⟨v, hv, rfl, fun g hg => ⟨g, hg, rfl⟩⟩⟩
  have set : ∀ {b₁ : Book} {sid' v v'}, b₁.session = b.session → b.session sid' = some v →
      v'.cursors = v.cursors →
      (∀ g, v.goal = some g → ∃ g', v'.goal = some g' ∧ g'.goalId = g.goalId) →
      (b.session sid = none → (b₁.setSession sid' v').session sid = none ∨
        (b₁.setSession sid' v').session sid = some ⟨true, {}, none⟩) ∧
      ∀ w, b.session sid = some w → ∃ w', (b₁.setSession sid' v').session sid = some w' ∧
        w'.cursors = w.cursors ∧
        ∀ g, w.goal = some g → ∃ g', w'.goal = some g' ∧ g'.goalId = g.goalId := by
    intro b₁ sid' v v' hb hv hc hg
    rw [Book.setSession_session, hb]
    split_ifs with hk
    · subst hk
      refine ⟨fun hn => (by rw [hn] at hv; cases hv), fun w hw => ⟨v', rfl, ?_⟩⟩
      rw [hv] at hw
      cases hw
      exact ⟨hc, hg⟩
    · exact same
  cases h with
  | note => exact same
  | arrive hall =>
    rcases hall sid with ⟨hs, -⟩ | ⟨v, es, goal, hv, hv', -, -, hw⟩
    · rw [hs]; exact same
    · refine ⟨fun hn => (by rw [hn] at hv; cases hv), fun w hw' => ⟨_, hv', ?_⟩⟩
      rw [hv] at hw'
      cases hw'
      refine ⟨rfl, fun g hg => ?_⟩
      cases hw with
      | keep => exact ⟨g, hg, rfl⟩
      | reopen hid _ _ => exact ⟨_, rfl, (hid g hg).symm⟩
  | @openSession sid' hn _ =>
    rw [Book.setSession_session]
    split_ifs with hk
    · subst hk
      exact ⟨fun _ => .inr rfl, fun v hv => by rw [hn] at hv; cases hv⟩
    · exact same
  | setActive hv => exact set rfl hv rfl fun g hg => ⟨g, hg, rfl⟩
  | reactivate hv => exact set rfl hv rfl fun g hg => ⟨g, hg, rfl⟩
  | @unlogged _ v g₀ g hv hg₀ hid _ _ =>
    refine set rfl hv rfl fun x hx => ⟨g, rfl, ?_⟩
    rw [hg₀] at hx
    cases hx
    exact hid.symm
  | @complete _ v g _ _ _ _ hv hg =>
    refine set rfl hv rfl fun x hx => ⟨_, rfl, ?_⟩
    rw [hg] at hx
    cases hx
    rfl
  | @replay sid' v hv =>
    refine set rfl hv rfl fun g hg => ?_
    simp only [SessionView.replay, hg, Option.map_some]
    exact ⟨_, rfl, rfl⟩

end BookStep

/-! ## Consistency -/

/-- Numbered logs, owned by Sessions, that give the completion states when replayed;
    and no acquired run has changed a Goal's state. -/
structure Book.Consistent (run : Nat → Option DispatchRun) (b : Book) : Prop where
  numbered : ∀ sid, Numbered 0 (b.log sid)
  logged : ∀ sid, b.session sid = none → b.log sid = []
  state : ∀ sid v g, b.session sid = some v → v.goal = some g →
    ((b.log sid).foldl replayGoal (g.completionState, g.reason)).1 = g.completionState
  silent : ∀ sid, Silent run (b.log sid)

theorem Silent.append {run : Nat → Option DispatchRun} {es es' : List LogEntry} (h : Silent run es)
    (h' : Silent run es') : Silent run (es ++ es') := fun e he =>
  (List.mem_append.1 he).elim (h e) (h' e)

theorem Forwarded.append {run : Nat → Option DispatchRun} {es es' : List LogEntry}
    (h : Forwarded run es) (h' : Forwarded run es') : Forwarded run (es ++ es') := fun e he =>
  (List.mem_append.1 he).elim (h e) (h' e)

/-- Requirements and quiet entries leave an incomplete Goal alone. -/
theorem replayGoal_requirements {es : List LogEntry}
    (h : ∀ e ∈ es, e.isRequirement ∨ e.isQuiet) (g : CompletionState × String) (hg : g.1 = .incomplete) : es.foldl replayGoal g = g := by
  obtain ⟨st, r⟩ := g
  cases hg
  induction es with
  | nil => rfl
  | cons e es ih =>
    have he : replayGoal (.incomplete, r) e = (.incomplete, r) :=
      (h e List.mem_cons_self).elim (LogEntry.replayGoal_requirement · r)
        (LogEntry.replayGoal_quiet · _)
    rw [List.foldl_cons, he]
    exact ih fun x hx => h x (List.mem_cons_of_mem _ hx)

/-- What the replay gives after a step. -/
theorem BookStep.state {run : Nat → Option DispatchRun} {b b' : Book} {l : Label}
    (h : BookStep run b l b') (hb : b.Consistent run) (sid : String) (v' : SessionView)
    (g' : GoalView) (hv' : b'.session sid = some v') (hg' : v'.goal = some g') :
    ((b'.log sid).foldl replayGoal (g'.completionState, g'.reason)).1 = g'.completionState := by
  have old := hb.state sid
  cases h with
  | @note sid' v e hv hf hq =>
    rw [Book.addEntries_session] at hv'
    rw [Book.addEntries_log]
    split_ifs with hk
    · subst hk
      rw [List.foldl_append, List.foldl_cons, List.foldl_nil, LogEntry.replayGoal_quiet hq]
      exact old v' g' hv' hg'
    · exact old v' g' hv' hg'
  | arrive hall =>
    rcases hall sid with ⟨hs, hl⟩ | ⟨v, es, goal, hv, hs, hl, -, hw⟩
    · rw [hl]; exact old v' g' (hs ▸ hv') hg'
    · rw [hs] at hv'
      cases hv'
      rw [hl, List.foldl_append]
      cases hw with
      | keep hinc hreq =>
        have := old v g' hv hg'
        rw [replayGoal_requirements hreq]
        · exact this
        · rw [this]; exact hinc g' hg'
      | reopen _ hinc hset =>
        cases hg'
        rw [hset.goal, hinc]
  | @openSession sid' hn hl =>
    rw [Book.setSession_session] at hv'
    split_ifs at hv' with hk
    · cases hv'; cases hg'
    · exact old v' g' hv' hg'
  | @setActive sid' v e a a' actor hv hf hbody =>
    rw [Book.setSession_session] at hv'
    rw [Book.setSession_log, Book.addEntries_log]
    split_ifs at hv' ⊢ with hk
    · subst hk
      cases hv'
      rw [List.foldl_append, List.foldl_cons, List.foldl_nil]
      simp only [replayGoal, hbody]
      exact old v g' hv hg'
    · exact old v' g' hv' hg'
  | @reactivate sid' v hv =>
    rw [Book.setSession_session] at hv'
    split_ifs at hv' with hk
    · subst hk; cases hv'; exact old v g' hv hg'
    · exact old v' g' hv' hg'
  | @unlogged sid' v g₀ g hv hg₀ hid hinc₀ hinc =>
    rw [Book.setSession_session] at hv'
    split_ifs at hv' with hk
    · subst hk
      cases hv'
      cases hg'
      have := old v g₀ hv hg₀
      rw [hinc₀] at this
      rw [Book.setSession_log, hinc, replayGoal_state _ _ _ g₀.reason]
      exact this
    · exact old v' g' hv' hg'
  | @complete sid' v g rid r e t hv hg hr hrole hsid hreq hf hbody ht =>
    rw [Book.setSession_session] at hv'
    rw [Book.setSession_log, Book.addEntries_log]
    split_ifs at hv' ⊢ with hk
    · subst hk
      cases hv'
      cases hg'
      rw [List.foldl_append, List.foldl_cons, List.foldl_nil]
      simp [replayGoal, hbody, ht]
    · exact old v' g' hv' hg'
  | @replay sid' v hv =>
    rw [Book.setSession_session] at hv'
    split_ifs at hv' with hk
    · subst hk
      cases hv'
      obtain ⟨g, hg, rfl⟩ := Option.map_eq_some_iff.1 hg'
      have := old v g hv hg
      dsimp only
      rw [Book.setSession_log, replayGoal_state _ _ _ g.reason, this, this]
    · exact old v' g' hv' hg'

/-- **Consistency is kept by every step on the book.** -/
theorem BookStep.consistent {run : Nat → Option DispatchRun} {b b' : Book} {l : Label}
    (h : BookStep run b l b') (hb : b.Consistent run) : b'.Consistent run where
  numbered sid := by
    obtain ⟨es, hes, hf, -⟩ := h.log_grows sid
    rw [hes]
    exact (hb.numbered sid).append (by simpa using hf.numbered)
  logged sid hn := by
    have hn₀ : b.session sid = none := by
      by_contra hne
      obtain ⟨v, hv⟩ := Option.ne_none_iff_exists'.1 hne
      obtain ⟨v', hv', -⟩ := (h.session_grows sid).2 v hv
      rw [hn] at hv'
      cases hv'
    obtain ⟨es, hes, -, hnil⟩ := h.log_grows sid
    rw [hes, hnil hn₀, hb.logged sid hn₀]
    rfl
  state sid v g hv hg := h.state hb sid v g hv hg
  silent sid := by
    obtain ⟨es, hes, hf, -⟩ := h.log_grows sid
    rw [hes]
    exact (hb.silent sid).append hf.silent

/-! ## Releasing a lease first -/

/-- **A step on the book commutes with the release of a lease.** -/
theorem BookStep.advance {run : Nat → Option DispatchRun} {b b' : Book} {l : Label}
    (h : BookStep run b l b') {sid : String} {v₀ : SessionView} (hs : b.session sid = some v₀)
    (role : Role) (n : Nat) :
    BookStep run (b.advance sid role n) l (b'.advance sid role n) := by
  -- the same change of cursors, made to one Session or to another one
  let adv : String → SessionView → SessionView := fun x v => if x = sid then
    { v with cursors := v.cursors.set role (max (v.cursors.get role) n) } else v
  have hadv : ∀ (b : Book) x, (b.advance sid role n).session x = (b.session x).map (adv x) := by
    intro b x
    rw [Book.advance_session]
    by_cases hx : x = sid
    · simp [adv, hx]
    · simp only [hx, if_false, adv]
      cases b.session x <;> rfl
  have hset : ∀ (b : Book) x v, (b.setSession x v).advance sid role n =
      (b.advance sid role n).setSession x (adv x v) := by
    intro b x v
    have : ((b.setSession x v).advance sid role n).session =
        ((b.advance sid role n).setSession x (adv x v)).session := by
      funext y
      rw [hadv, Book.setSession_session, Book.setSession_session, hadv]
      by_cases hy : y = x
      · subst hy; simp
      · simp [hy]
    exact congrArg (fun f => (⟨f, b.log⟩ : Book)) this
  have hsome : ∀ {b : Book} {x v}, b.session x = some v →
      (b.advance sid role n).session x = some (adv x v) := by
    intro b x v hv
    rw [hadv, hv]
    rfl
  have hgoal : ∀ x v, (adv x v).goal = v.goal := fun x v => by dsimp only [adv]; split_ifs <;> rfl
  have hactive : ∀ x v, (adv x v).active = v.active := fun x v => by
    dsimp only [adv]; split_ifs <;> rfl
  have hwith : ∀ x v (a : Bool) (g : Option GoalView), adv x { v with active := a, goal := g } =
      { adv x v with active := a, goal := g } := fun x v a g => by
    dsimp only [adv]; split_ifs <;> rfl
  cases h with
  | note hv hf hq => exact .note (hsome hv) hf hq
  | arrive hall =>
    refine .arrive fun x => ?_
    rcases hall x with ⟨hs', hl⟩ | ⟨v, es, goal, hv, hv', hl, hf, hw⟩
    · exact .inl ⟨by rw [hadv, hadv, hs'], hl⟩
    · refine .inr ⟨adv x v, es, goal, hsome hv, ?_, hl, hf, ?_⟩
      · rw [hsome hv']
        exact congrArg some ((hwith x v v.active goal).trans (by rw [← hactive x v]))
      · rw [hgoal]; exact hw
  | @openSession x hn hl =>
    have hx : x ≠ sid := by rintro rfl; rw [hn] at hs; cases hs
    rw [hset]
    have : adv x ⟨true, {}, none⟩ = ⟨true, {}, none⟩ := by simp [adv, hx]
    rw [this]
    exact .openSession (by rw [hadv, hn]; rfl) hl
  | @setActive x v e a a' actor hv hf hb =>
    rw [hset]
    have := hwith x v a v.goal
    rw [this, ← hgoal x v]
    exact .setActive (hsome hv) hf hb
  | @reactivate x v hv =>
    rw [hset]
    have := hwith x v true v.goal
    rw [this, ← hgoal x v, ← hactive x v]
    exact .reactivate (hsome hv)
  | @unlogged x v g₀ g hv hg₀ hid h₁ h₂ =>
    rw [hset]
    have := hwith x v v.active (some g)
    rw [this, ← hactive x v]
    exact .unlogged (hsome hv) ((hgoal x v).trans hg₀) hid h₁ h₂
  | @complete x v g rid r e t hv hg hr hrole hsid hreq hf hb ht =>
    rw [hset]
    have := hwith x v v.active (some { g with completionState := .complete, reason := t.reason })
    rw [this, ← hactive x v]
    exact .complete (hsome hv) ((hgoal x v).trans hg) hr hrole hsid hreq hf hb ht
  | @replay x v hv =>
    rw [hset]
    have : adv x (v.replay (b.log x)) = (adv x v).replay (b.log x) := by
      unfold SessionView.replay
      rw [hwith, hgoal, hactive]
    rw [this]
    exact .replay (hsome hv)

theorem BookSteps.advance {run : Nat → Option DispatchRun} {P : Label → Prop} {b b' : Book}
    (h : BookSteps run P b b') {sid : String} {v₀ : SessionView} (hs : b.session sid = some v₀)
    (role : Role) (n : Nat) : BookSteps run P (b.advance sid role n) (b'.advance sid role n) := by
  induction h with
  | refl => exact .refl _
  | @tail b₁ b₂ hsteps hstep ih =>
    obtain ⟨l, hl, hstep⟩ := hstep
    have : ∃ v₁, b₁.session sid = some v₁ := by
      refine BookSteps.invariant (I := fun b => ∃ v, b.session sid = some v) hsteps ⟨v₀, hs⟩ ?_
      rintro x l' y ⟨v, hv⟩ - hxy
      obtain ⟨v', hv', -⟩ := (hxy.session_grows sid).2 v hv
      exact ⟨v', hv'⟩
    obtain ⟨v₁, hv₁⟩ := this
    exact ih.trans (.of_step hl (hstep.advance hv₁ role n))

end Aize
