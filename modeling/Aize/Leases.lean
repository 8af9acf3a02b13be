/-
  The invariants of a ledger that concern leases, and that each step keeps them.

  * `Exclusive`: at most one live entry and one acquired run for a Session and
    role, and never a ready entry beside an acquired run. Kept by every step but a
    requeue whose entry a run still holds;
  * `Windowed`: the window of a ready entry or acquired run starts right after the
    role's cursor. Kept while no run record is lost.
-/
import Aize.Invariants

namespace Aize
namespace Ledger

variable {c c' : Ledger} {sid : String} {rid : Nat} {r : DispatchRun} {l : List Readiness}

/-! ## Updates of a ledger -/

theorem setRun_run {rid' : Nat} : (c.setRun rid r).run rid' =
    if rid' = rid then some r else c.run rid' := by simp [setRun, Function.update_apply]

@[simp] theorem setBook_toBook {b : Book} : (c.setBook b).toBook = b := rfl
@[simp] theorem setBook_run {b : Book} : (c.setBook b).run = c.run := rfl
@[simp] theorem setBook_readiness {b : Book} : (c.setBook b).readiness = c.readiness := rfl
@[simp] theorem setRun_toBook : (c.setRun rid r).toBook = c.toBook := rfl
@[simp] theorem setRun_readiness : (c.setRun rid r).readiness = c.readiness := rfl
@[simp] theorem setReadiness_toBook : (c.setReadiness l).toBook = c.toBook := rfl
@[simp] theorem setReadiness_run : (c.setReadiness l).run = c.run := rfl
@[simp] theorem setReadiness_readiness : (c.setReadiness l).readiness = l := rfl

/-- A run that is acquired afterwards was acquired before, with the same lease. -/
def RunsShrink (c c' : Ledger) : Prop :=
  ∀ rid r', Holding c'.run rid r' → ∃ r, Holding c.run rid r ∧ r'.key = r.key ∧ r'.goalId = r.goalId ∧
    r'.readinessId = r.readinessId ∧ r'.fromLogSeq = r.fromLogSeq ∧
    r'.observedToSeq = r.observedToSeq

theorem RunsShrink.of_run_eq (h : c'.run = c.run) : RunsShrink c c' := by
  intro rid r' hr'
  exact ⟨r', ⟨h ▸ hr'.1, hr'.2⟩, rfl, rfl, rfl, rfl, rfl⟩

theorem runsShrink_setRun {r' : DispatchRun} (h : c.run rid = some r)
    (hr : r'.leaseState = .acquired → r.leaseState = .acquired ∧ r'.key = r.key ∧
      r'.goalId = r.goalId ∧ r'.readinessId = r.readinessId ∧ r'.fromLogSeq = r.fromLogSeq ∧
      r'.observedToSeq = r.observedToSeq) : RunsShrink c (c.setRun rid r') := by
  rintro rid' x ⟨hx, ha⟩
  rw [setRun_run] at hx
  split_ifs at hx with hk
  · cases hx
    obtain ⟨h₁, h₂⟩ := hr ha
    exact ⟨r, ⟨hk ▸ h, h₁⟩, h₂⟩
  · exact ⟨x, ⟨hx, ha⟩, rfl, rfl, rfl, rfl, rfl⟩

/-! ## Consistency -/

/-- The book is consistent with the runs. -/
def Consistent (c : Ledger) : Prop := c.toBook.Consistent c.run

theorem RunsShrink.silent (h : RunsShrink c c') {es : List LogEntry} (hs : Silent c.run es) :
    Silent c'.run es := by
  intro e he rid hrid r' hr'
  obtain ⟨r, hr, -⟩ := h rid r' hr'
  exact hs e he rid hrid r hr

theorem Consistent.of_runs (hc : c.Consistent) (hb : c'.toBook = c.toBook) (hr : RunsShrink c c') :
    c'.Consistent where
  numbered sid := by rw [hb]; exact hc.numbered sid
  logged sid := by rw [hb]; exact hc.logged sid
  state sid := by rw [hb]; exact hc.state sid
  silent sid := by rw [hb]; exact hr.silent (hc.silent sid)

/-- The books differ in some cursors only. -/
def Recursored (b b' : Book) : Prop :=
  b'.log = b.log ∧ ∃ C : String → RoleCursors → RoleCursors, ∀ sid,
    b'.session sid = (b.session sid).map fun v => { v with cursors := C sid v.cursors }

theorem recursored_advance (b : Book) (sid : String) (role : Role) (n : Nat) :
    Recursored b (b.advance sid role n) := by
  refine ⟨rfl, fun x cs => if x = sid then cs.set role (max (cs.get role) n) else cs, fun x => ?_⟩
  rw [Book.advance_session]
  by_cases hx : x = sid
  · simp [hx]
  · simp [hx]

theorem recursored_setSession {b : Book} {v : SessionView} (hv : b.session sid = some v)
    (cs : RoleCursors) : Recursored b (b.setSession sid { v with cursors := cs }) := by
  refine ⟨rfl, fun x cs' => if x = sid then cs else cs', fun x => ?_⟩
  rw [Book.setSession_session]
  by_cases hx : x = sid
  · subst hx; simp [hv]
  · simp [hx]

theorem Consistent.of_recursored (hc : c.Consistent) (hb : Recursored c.toBook c'.toBook)
    (hr : RunsShrink c c') : c'.Consistent := by
  obtain ⟨hlog, C, hC⟩ := hb
  refine ⟨fun sid => hlog ▸ hc.numbered sid, fun sid hn => ?_, fun sid v' g hv hg => ?_,
    fun sid => hlog ▸ hr.silent (hc.silent sid)⟩
  · rw [hlog]
    rw [hC, Option.map_eq_none_iff] at hn
    exact hc.logged sid hn
  · rw [hlog]
    rw [hC] at hv
    obtain ⟨v, hv₀, rfl⟩ := Option.map_eq_some_iff.1 hv
    exact hc.state sid v g hv₀ hg

theorem runsShrink_recover (c c' : Ledger) (sid : String)
    (h : c'.run = fun rid => (c.run rid).map fun r =>
      if r.sessionId = sid ∧ r.leaseState = .acquired then r.interrupted else r) :
    RunsShrink c c' ∧ ∀ rid r, Holding c'.run rid r → Holding c.run rid r ∧ r.sessionId ≠ sid := by
  have key : ∀ rid r', Holding c'.run rid r' → Holding c.run rid r' ∧ r'.sessionId ≠ sid := by
    rintro rid r' ⟨h₁, h₂⟩
    rw [h] at h₁
    obtain ⟨r, hr, rfl⟩ := Option.map_eq_some_iff.1 h₁
    split_ifs at h₂ ⊢ with hs
    · simp [DispatchRun.interrupted] at h₂
    · exact ⟨⟨hr, h₂⟩, fun h => hs ⟨h, h₂⟩⟩
  exact ⟨fun rid r' hr' => ⟨r', (key rid r' hr').1, rfl, rfl, rfl, rfl, rfl⟩, key⟩

theorem runsShrink_lose : RunsShrink c { c with run := Function.update c.run rid none } := by
  rintro rid' r' ⟨h₁, h₂⟩
  simp only [Function.update_apply] at h₁
  split_ifs at h₁
  exact ⟨r', ⟨h₁, h₂⟩, rfl, rfl, rfl, rfl, rfl⟩

theorem runsShrink_interrupt (hr : Holding c.run rid r) : RunsShrink c (c.setRun rid r.interrupted) :=
  runsShrink_setRun hr.1 (by simp [DispatchRun.interrupted])

theorem runsShrink_release (hr : Holding c.run rid r) : RunsShrink c (c.setRun rid r.released) :=
  runsShrink_setRun hr.1 (by simp [DispatchRun.released])

theorem runsShrink_amend {d : Option Declaration} {st : List StaleResult} (hr : c.run rid = some r) :
    RunsShrink c (c.setRun rid { r with declaredOutcome := d, staleResults := st }) :=
  runsShrink_setRun hr fun ha => ⟨ha, rfl, rfl, rfl, rfl, rfl⟩

/-- **Consistency is kept by every step.** -/
theorem Step.consistent {lb : Label} (h : Step c lb c') (hc : c.Consistent) : c'.Consistent := by
  cases h with
  | book hb => exact hb.consistent hc
  | clamp hv => exact hc.of_recursored (recursored_setSession hv _) (.of_run_eq rfl)
  | interrupt hr => exact hc.of_runs rfl (runsShrink_interrupt hr)
  | amend d st hr => exact hc.of_runs rfl (runsShrink_amend hr)
  | retire => exact hc.of_runs rfl (.of_run_eq rfl)
  | refresh => exact hc.of_runs rfl (.of_run_eq rfl)
  | @acquire rid r e hnone hfresh =>
    refine ⟨hc.numbered, hc.logged, hc.state, fun sid e he rid' h r' hr' => ?_⟩
    obtain ⟨h₁, h₂⟩ := hr'
    rw [setReadiness_run, setRun_run] at h₁
    split_ifs at h₁ with hk
    · exact (hfresh sid e he).1 (hk ▸ h)
    · exact hc.silent sid e he rid' h r' ⟨h₁, h₂⟩
  | @release rid r hr =>
    exact hc.of_recursored (recursored_advance _ _ _ _) (runsShrink_release hr)
  | recoverSession held _ => exact hc.of_runs rfl (runsShrink_recover _ _ _ rfl).1
  | requeue => exact hc.of_runs rfl (.of_run_eq rfl)
  | lose => exact hc.of_runs rfl runsShrink_lose

/-! ## Exclusive leases -/

/-- At most one live entry and one acquired run for a key; a ready entry excludes an
    acquired run; and an acquired run beside an acquired entry holds that entry. -/
structure Exclusive (c : Ledger) : Prop where
  ids : (c.readiness.map Readiness.readinessId).Nodup
  live : ∀ a ∈ c.readiness, ∀ b ∈ c.readiness, a.live → b.live → a.key = b.key →
    a.readinessId = b.readinessId
  ready : ∀ e ∈ c.readiness, e.status = .ready → ∀ rid r, Holding c.run rid r → r.key ≠ e.key
  runs : ∀ rid r rid' r', Holding c.run rid r → Holding c.run rid' r' → r.key = r'.key → rid = rid'
  held : ∀ e ∈ c.readiness, e.status = .acquired → ∀ rid r, Holding c.run rid r → r.key = e.key →
    r.readinessId = e.readinessId

theorem Exclusive.eq_of_id (hx : c.Exclusive) {a b : Readiness} (ha : a ∈ c.readiness)
    (hb : b ∈ c.readiness) (h : a.readinessId = b.readinessId) : a = b :=
  List.inj_on_of_nodup_map hx.ids ha hb h

/-- Steps that change the status of some entries, and take leases away. -/
theorem Exclusive.of_map (hx : c.Exclusive) {f : Readiness → Readiness}
    (hmap : c'.readiness = c.readiness.map f) (hr : RunsShrink c c')
    (hf : ∀ e, (f e).readinessId = e.readinessId ∧ (f e).key = e.key)
    (hlive : ∀ e, (f e).live → e.live)
    (hready : ∀ e ∈ c.readiness, (f e).status = .ready →
      e.status = .ready ∨ ∀ rid r, Holding c'.run rid r → r.key ≠ e.key)
    (hacq : ∀ e, (f e).status = .acquired → e.status = .acquired) : c'.Exclusive where
  ids := by
    rw [hmap, List.map_map]
    have : Readiness.readinessId ∘ f = Readiness.readinessId := funext fun e => (hf e).1
    rw [this]; exact hx.ids
  live a ha b hb la lb hk := by
    rw [hmap] at ha hb
    obtain ⟨a₀, ha₀, rfl⟩ := List.mem_map.1 ha
    obtain ⟨b₀, hb₀, rfl⟩ := List.mem_map.1 hb
    rw [(hf a₀).2, (hf b₀).2] at hk
    rw [(hf a₀).1, (hf b₀).1]
    exact hx.live a₀ ha₀ b₀ hb₀ (hlive a₀ la) (hlive b₀ lb) hk
  ready e he hs rid r hh := by
    rw [hmap] at he
    obtain ⟨e₀, he₀, rfl⟩ := List.mem_map.1 he
    rw [(hf e₀).2]
    rcases hready e₀ he₀ hs with h | h
    · obtain ⟨r₀, h₀, hk, -⟩ := hr rid r hh
      rw [hk]; exact hx.ready e₀ he₀ h rid r₀ h₀
    · exact h rid r hh
  runs rid r rid' r' h h' hk := by
    obtain ⟨r₀, h₀, hk₀, -⟩ := hr rid r h
    obtain ⟨r₁, h₁, hk₁, -⟩ := hr rid' r' h'
    exact hx.runs rid r₀ rid' r₁ h₀ h₁ (hk₀ ▸ hk₁ ▸ hk)
  held e he hs rid r hh hk := by
    rw [hmap] at he
    obtain ⟨e₀, he₀, rfl⟩ := List.mem_map.1 he
    obtain ⟨r₀, h₀, hk₀, -, hid, -⟩ := hr rid r hh
    rw [(hf e₀).1, hid]
    exact hx.held e₀ he₀ (hacq e₀ hs) rid r₀ h₀ (hk₀.symm.trans (hk.trans (hf e₀).2))

theorem Exclusive.of_frame (hx : c.Exclusive) (hq : c'.readiness = c.readiness)
    (hr : RunsShrink c c') : c'.Exclusive :=
  hx.of_map (f := id) (by rw [hq, List.map_id]) hr (fun _ => ⟨rfl, rfl⟩) (fun _ h => h)
    (fun _ _ h => .inl h) fun _ h => h

theorem not_live_of_dead {e : Readiness} (h : e.status.dead) : e.live = false := by
  unfold ReadinessStatus.dead at h
  unfold Readiness.live
  cases hs : e.status <;> simp_all

theorem ite_status {p : Prop} [Decidable p] (e : Readiness) (st : ReadinessStatus) :
    (if p then { e with status := st } else e).readinessId = e.readinessId ∧
      (if p then { e with status := st } else e).key = e.key := by
  split_ifs <;> exact ⟨rfl, rfl⟩

/-- **A refreshed queue is exclusive.** -/
theorem Refreshed.exclusive (hl : c.Refreshed l) (hx : c.Exclusive) :
    (c.setReadiness l).Exclusive where
  ids := hl.ids
  live a ha b hb la lb hk := by
    -- two ready entries: one for a key; two acquired ones: both were there before
    have old : ∀ x ∈ l, x.status = .acquired → x ∈ c.readiness := fun x hx' hs =>
      (hl.mem x hx').2.resolve_right fun h => by simp [hs] at h
    have mixed : ∀ x ∈ l, ∀ y ∈ l, x.status = .ready → y.status = .acquired → x.key = y.key →
        x.readinessId = y.readinessId := by
      intro x hx' y hy sx sy hxy
      rcases (hl.mem x hx').2 with h | ⟨-, h⟩
      · exact hx.live x h y (old y hy sy) (by simp [Readiness.live, sx])
          (by simp [Readiness.live, sy]) hxy
      · exact absurd hxy.symm (h.no_acquired y (old y hy sy) sy)
    have cases_live : ∀ x : Readiness, x.live → x.status = .ready ∨ x.status = .acquired := by
      intro x hx'; simpa [Readiness.live] using hx'
    rcases cases_live a la with sa | sa <;> rcases cases_live b lb with sb | sb
    · exact hl.ready a ha b hb sa sb hk
    · exact mixed a ha b hb sa sb hk
    · exact (mixed b hb a ha sb sa hk.symm).symm
    · exact hx.live a (old a ha sa) b (old b hb sb) la lb hk
  ready e he hs rid r hh := by
    rcases (hl.mem e he).2 with h | ⟨-, h⟩
    · exact hx.ready e h hs rid r hh
    · exact h.no_run rid r hh
  runs := hx.runs
  held e he hs rid r hh hk :=
    hx.held e ((hl.mem e he).2.resolve_right fun h => by simp [hs] at h) hs rid r hh hk

theorem Retired.mem {l l' : List Readiness} (h : Retired l l') {e' : Readiness} (he : e' ∈ l') :
    (e' ∈ l) ∨ e'.live = false := by
  obtain ⟨F, rfl, hF⟩ := h
  obtain ⟨e, he₀, rfl⟩ := List.mem_map.1 he
  rcases hF e with h | ⟨st, hst, h⟩ <;> rw [h]
  · exact .inl he₀
  · exact .inr (not_live_of_dead (e := { e with status := st }) hst)

/-- Acquiring an entry: the new run and its entry take the place of the ready entry. -/
theorem Exclusive.acquire (hx : c.Exclusive) {e : Readiness} (he : e ∈ c.readiness)
    (hready : e.status = .ready) (hkeys : ∀ rid r, Holding c.run rid r → r.key ≠ e.key)
    (hkey : r.key = e.key) (hid : r.readinessId = e.readinessId) :
    ((c.setRun rid r).setReadiness (c.readiness.map fun x =>
      if x.readinessId = e.readinessId then { x with status := .acquired } else x)).Exclusive := by
  have elive : e.live := by simp [Readiness.live, hready]
  -- an entry afterwards is the acquired one, or another one that was there
  have hmem : ∀ x ∈ (c.readiness.map fun x =>
      if x.readinessId = e.readinessId then { x with status := .acquired } else x),
      (x = { e with status := .acquired }) ∨ x ∈ c.readiness ∧ x.readinessId ≠ e.readinessId := by
    intro x hx'
    obtain ⟨y, hy, rfl⟩ := List.mem_map.1 hx'
    split_ifs with hk
    · rw [hx.eq_of_id hy he hk]; exact .inl rfl
    · exact .inr ⟨hy, hk⟩
  have hholds : ∀ rid' r', (Holding (c.setRun rid r).run rid' r') →
      rid' = rid ∧ r' = r ∨ Holding c.run rid' r' := by
    rintro rid' r' ⟨h₁, h₂⟩
    rw [setRun_run] at h₁
    split_ifs at h₁ with hk
    · cases h₁; exact .inl ⟨hk, rfl⟩
    · exact .inr ⟨h₁, h₂⟩
  have other : ∀ a ∈ c.readiness, a.status = .ready ∨ a.status = .acquired →
      a.key = e.key → a.readinessId = e.readinessId := fun a ha hs hk =>
    hx.live a ha e he (by simpa [Readiness.live] using hs) elive hk
  refine ⟨?_, ?_, ?_, ?_, ?_⟩
  · rw [setReadiness_readiness, List.map_map]
    have : (Readiness.readinessId ∘ fun x : Readiness =>
        if x.readinessId = e.readinessId then { x with status := .acquired } else x) =
        Readiness.readinessId := funext fun x => (ite_status x _).1
    rw [this]; exact hx.ids
  · intro a ha b hb la lb hk
    rcases hmem a ha with rfl | ⟨ha₀, na⟩ <;> rcases hmem b hb with rfl | ⟨hb₀, nb⟩
    · rfl
    · exact hx.live e he b hb₀ elive lb hk
    · exact hx.live a ha₀ e he la elive hk
    · exact hx.live a ha₀ b hb₀ la lb hk
  · intro a ha hs rid' r' hr'
    rcases hmem a ha with rfl | ⟨ha₀, na⟩
    · cases hs
    · rcases hholds rid' r' hr' with ⟨rfl, rfl⟩ | h'
      · exact fun hk => na (other a ha₀ (.inl hs) (hk.symm.trans hkey))
      · exact hx.ready a ha₀ hs rid' r' h'
  · intro rid₁ r₁ rid₂ r₂ h₁ h₂ hk
    rcases hholds rid₁ r₁ h₁ with ⟨rfl, rfl⟩ | h₁' <;>
      rcases hholds rid₂ r₂ h₂ with ⟨rfl, rfl⟩ | h₂'
    · rfl
    · exact absurd (hk.symm.trans hkey) (hkeys rid₂ r₂ h₂')
    · exact absurd (hk.trans hkey) (hkeys rid₁ r₁ h₁')
    · exact hx.runs rid₁ r₁ rid₂ r₂ h₁' h₂' hk
  · intro a ha hs rid' r' hr' hk
    rcases hholds rid' r' hr' with ⟨rfl, rfl⟩ | h'
    · rcases hmem a ha with rfl | ⟨ha₀, na⟩
      · exact hid
      · exact absurd (other a ha₀ (.inr hs) (hk.symm.trans hkey)) na
    · rcases hmem a ha with rfl | ⟨ha₀, na⟩
      · exact absurd hk (hkeys rid' r' h')
      · exact hx.held a ha₀ hs rid' r' h' hk

/-- Recovering a Session: its runs lose their leases, and the entries they held are ready
    again. -/
theorem Exclusive.recoverSession (hx : c.Exclusive) (sid : String) (held : Nat → Bool) :
    Ledger.Exclusive
      { c with
        run := fun rid => (c.run rid).map fun r =>
          if r.sessionId = sid ∧ r.leaseState = .acquired then r.interrupted else r
        readiness := c.readiness.map fun e =>
          if e.sessionId = sid ∧ e.status = .acquired then
            { e with status := if held e.readinessId then .ready else .stale }
          else e } := by
  obtain ⟨hshrink, hgone⟩ := runsShrink_recover c { c with
    run := fun rid => (c.run rid).map fun r =>
      if r.sessionId = sid ∧ r.leaseState = .acquired then r.interrupted else r
    readiness := c.readiness.map fun e =>
      if e.sessionId = sid ∧ e.status = .acquired then
        { e with status := if held e.readinessId then .ready else .stale }
      else e } sid rfl
  refine hx.of_map rfl hshrink (fun e => ite_status e _) ?_ ?_ ?_
  · intro e he
    by_cases h : e.sessionId = sid ∧ e.status = .acquired
    · simp [Readiness.live, h.2]
    · rwa [if_neg h] at he
  · intro e _ he
    by_cases h : e.sessionId = sid ∧ e.status = .acquired
    · exact .inr fun rid r hr hk => (hgone rid r hr).2 ((congrArg Prod.fst hk).trans h.1)
    · rw [if_neg h] at he; exact .inl he
  · intro e he
    by_cases h : e.sessionId = sid ∧ e.status = .acquired
    · exact h.2
    · rwa [if_neg h] at he

/-- **Exclusivity is kept by every step**, but for a requeue of an entry that a run
    still holds. -/
theorem Step.exclusive {lb : Label} (h : Step c lb c') (hx : c.Exclusive)
    (hq : ∀ id, lb = .requeue id → ∀ rid r, Holding c.run rid r → r.readinessId ≠ id) :
    c'.Exclusive := by
  cases h with
  | book => exact hx.of_frame rfl (.of_run_eq rfl)
  | clamp => exact hx.of_frame rfl (.of_run_eq rfl)
  | interrupt hr => exact hx.of_frame rfl (runsShrink_interrupt hr)
  | amend d st hr => exact hx.of_frame rfl (runsShrink_amend hr)
  | retire hl =>
    obtain ⟨F, hF, hcases⟩ := hl
    have hdead : ∀ e, (F e).live → F e = e := fun e he => by
      refine (hcases e).resolve_right ?_
      rintro ⟨st, hst, h⟩
      rw [h, not_live_of_dead (e := { e with status := st }) hst] at he
      cases he
    refine hx.of_map hF (.of_run_eq rfl) (fun e => ?_) (fun e he => hdead e he ▸ he)
      (fun e _ he => .inl ?_) (fun e he => ?_)
    · rcases hcases e with h | ⟨st, -, h⟩ <;> rw [h] <;> exact ⟨rfl, rfl⟩
    · rwa [hdead e (by simp [Readiness.live, he])] at he
    · rwa [hdead e (by simp [Readiness.live, he])] at he
  | refresh hl => exact hl.exclusive hx
  | acquire _ _ he hready hkeys _ hkey _ hid => exact hx.acquire he hready hkeys hkey hid
  | release hr => exact hx.of_frame rfl (runsShrink_release hr)
  | @recoverSession sid held _ => exact hx.recoverSession sid held
  | requeue id =>
    refine hx.of_map rfl (.of_run_eq rfl) (fun e => ite_status e _) ?_ ?_ ?_
    · intro e he
      by_cases h₁ : e.readinessId = id ∧ e.status = .acquired
      · simp [Readiness.live, h₁.2]
      · rwa [if_neg h₁] at he
    · intro e he hs
      by_cases h₁ : e.readinessId = id ∧ e.status = .acquired
      · refine .inr fun rid r hr hk => ?_
        exact hq id rfl rid r hr ((hx.held e he h₁.2 rid r hr hk).trans h₁.1)
      · rw [if_neg h₁] at hs; exact .inl hs
    · intro e he
      by_cases h₁ : e.readinessId = id ∧ e.status = .acquired
      · exact h₁.2
      · rwa [if_neg h₁] at he
  | lose rid => exact hx.of_frame rfl runsShrink_lose

/-! ## Windows -/

/-- The windows of ready entries and acquired runs start after the cursors of their roles;
    an acquired entry and its run have one window; and cursors do not pass the logs. -/
structure Windowed (c : Ledger) : Prop where
  run : ∀ rid r, Holding c.run rid r → c.Window r.key r.goalId r.fromLogSeq r.observedToSeq
  ready : ∀ e ∈ c.readiness, e.status = .ready →
    c.Window e.key e.goalId e.fromLogSeq e.observedToSeq
  held : ∀ e ∈ c.readiness, e.status = .acquired → ∀ rid r, Holding c.run rid r →
    r.readinessId = e.readinessId → r.key = e.key ∧ r.goalId = e.goalId ∧
      r.fromLogSeq = e.fromLogSeq ∧ r.observedToSeq = e.observedToSeq
  free : ∀ e ∈ c.readiness, e.status = .ready → ∀ rid r, Holding c.run rid r →
    r.readinessId ≠ e.readinessId
  cursor : ∀ sid v role, c.session sid = some v → v.cursors.get role ≤ (c.log sid).length

/-- Sessions and Goals stay, with their cursors, and logs only grow. -/
def Grows (b b' : Book) : Prop :=
  ∀ sid, (b.log sid).length ≤ (b'.log sid).length ∧
    (b.session sid = none → b'.session sid = none ∨ b'.session sid = some ⟨true, {}, none⟩) ∧
    ∀ v, b.session sid = some v → ∃ v', b'.session sid = some v' ∧ v'.cursors = v.cursors ∧
      ∀ g, v.goal = some g → ∃ g', v'.goal = some g' ∧ g'.goalId = g.goalId

theorem grows_of_bookStep {b b' : Book} {lb : Label} (h : BookStep c.run b lb b') : Grows b b' := by
  intro sid
  obtain ⟨es, hes, -, -⟩ := h.log_grows sid
  refine ⟨by rw [hes]; simp, h.session_grows sid⟩

theorem Grows.refl (b : Book) : Grows b b := fun _ =>
  ⟨le_rfl, .inl, fun v hv => ⟨v, hv, rfl, fun g hg => ⟨g, hg, rfl⟩⟩⟩

theorem Window.grows (hg : Grows c.toBook c'.toBook) {key : String × Role} {goalId m n : Nat}
    (h : c.Window key goalId m n) : c'.Window key goalId m n := by
  obtain ⟨v, g, hv, hgo, hid, hm, hmn, hn⟩ := h
  obtain ⟨hlen, -, hs⟩ := hg key.1
  obtain ⟨v', hv', hcur, hgoal⟩ := hs v hv
  obtain ⟨g', hg', hid'⟩ := hgoal g hgo
  exact ⟨v', g', hv', hg', hid'.trans hid, by rw [hcur]; exact hm, hmn, hn.trans hlen⟩

/-- Steps that take leases away and change no ready entry. -/
theorem Windowed.of_shrink (hw : c.Windowed) (hg : Grows c.toBook c'.toBook)
    (hr : RunsShrink c c')
    (hready : ∀ e ∈ c'.readiness, e.status = .ready → e ∈ c.readiness)
    (hheld : ∀ e ∈ c'.readiness, e.status = .acquired → e ∈ c.readiness) : c'.Windowed where
  run rid r' hr' := by
    obtain ⟨r, h, hk, hgo, -, hf, ht⟩ := hr rid r' hr'
    rw [hk, hgo, hf, ht]
    exact (hw.run rid r h).grows hg
  ready e he hs := (hw.ready e (hready e he hs) hs).grows hg
  held e he hs rid r' hr' hid := by
    obtain ⟨r, h, hk, hgo, hi, hf, ht⟩ := hr rid r' hr'
    rw [hk, hgo, hf, ht]
    exact hw.held e (hheld e he hs) hs rid r h (hi.symm.trans hid)
  free e he hs rid r' hr' := by
    obtain ⟨r, h, -, -, hi, -⟩ := hr rid r' hr'
    rw [hi]
    exact hw.free e (hready e he hs) hs rid r h
  cursor sid v' role hv' := by
    obtain ⟨hlen, hnone, hs⟩ := hg sid
    cases hv : c.session sid with
    | none =>
      rcases hnone hv with h | h
      · rw [h] at hv'; cases hv'
      · rw [h] at hv'; cases hv'; cases role <;> exact Nat.zero_le _
    | some v =>
      obtain ⟨w, hw', hcur, -⟩ := hs v hv
      rw [hw'] at hv'
      cases hv'
      rw [hcur]
      exact (hw.cursor sid v role hv).trans hlen

/-- A refreshed queue has windows. -/
theorem Refreshed.windowed (hl : c.Refreshed l) (hw : c.Windowed) : (c.setReadiness l).Windowed where
  run := hw.run
  ready e he hs := by
    rcases (hl.mem e he).2 with h | ⟨-, h⟩
    · exact hw.ready e h hs
    · exact h.window
  held e he hs := hw.held e ((hl.mem e he).2.resolve_right fun h => by simp [hs] at h) hs
  free e he hs rid r hr := by
    rcases (hl.mem e he).2 with h | ⟨-, h⟩
    · exact hw.free e h hs rid r hr
    · rcases h.id with ⟨e', he', hs', hid, -⟩ | h
      · rw [← hid]; exact hw.free e' he' hs' rid r hr
      · exact h rid r hr.1
  cursor := hw.cursor

/-- Acquiring an entry: the run takes over its window. -/
theorem Windowed.acquire (hw : c.Windowed) (hx : c.Exclusive) {e : Readiness}
    (he : e ∈ c.readiness) (hready : e.status = .ready) (hkey : r.key = e.key)
    (hgoal : r.goalId = e.goalId) (hid : r.readinessId = e.readinessId)
    (hfrom : r.fromLogSeq = e.fromLogSeq) (hto : r.observedToSeq = e.observedToSeq) :
    ((c.setRun rid r).setReadiness (c.readiness.map fun x =>
      if x.readinessId = e.readinessId then { x with status := .acquired } else x)).Windowed := by
  have hmem : ∀ x ∈ (c.readiness.map fun x =>
      if x.readinessId = e.readinessId then { x with status := .acquired } else x),
      (x = { e with status := .acquired }) ∨ x ∈ c.readiness ∧ x.readinessId ≠ e.readinessId := by
    intro x hx'
    obtain ⟨y, hy, rfl⟩ := List.mem_map.1 hx'
    split_ifs with hk
    · rw [hx.eq_of_id hy he hk]; exact .inl rfl
    · exact .inr ⟨hy, hk⟩
  have hholds : ∀ rid' r', Holding (c.setRun rid r).run rid' r' →
      rid' = rid ∧ r' = r ∨ Holding c.run rid' r' := by
    rintro rid' r' ⟨h₁, h₂⟩
    rw [setRun_run] at h₁
    split_ifs at h₁ with hk
    · cases h₁; exact .inl ⟨hk, rfl⟩
    · exact .inr ⟨h₁, h₂⟩
  refine ⟨fun rid' r' hr' => ?_, fun x hx' hs => ?_, fun x hx' hs rid' r' hr' hxid => ?_,
    fun x hx' hs rid' r' hr' => ?_, hw.cursor⟩
  · rcases hholds rid' r' hr' with ⟨rfl, rfl⟩ | h
    · rw [hkey, hgoal, hfrom, hto]; exact hw.ready e he hready
    · exact hw.run rid' r' h
  · rcases hmem x hx' with rfl | ⟨h, -⟩
    · cases hs
    · exact hw.ready x h hs
  · rcases hholds rid' r' hr' with ⟨rfl, rfl⟩ | h <;> rcases hmem x hx' with rfl | ⟨hx₀, hne⟩
    · exact ⟨hkey, hgoal, hfrom, hto⟩
    · exact absurd (hxid.symm.trans hid) hne
    · exact absurd hxid (hw.free e he hready rid' r' h)
    · exact hw.held x hx₀ hs rid' r' h hxid
  · rcases hmem x hx' with rfl | ⟨hx₀, hne⟩
    · cases hs
    · rcases hholds rid' r' hr' with ⟨rfl, rfl⟩ | h
      · exact fun h' => hne (h'.symm.trans hid)
      · exact hw.free x hx₀ hs rid' r' h

/-- Releasing a run: its role has consumed its window, and no one else has a window for that
    role. -/
theorem Windowed.release (hw : c.Windowed) (hx : c.Exclusive) (hr : Holding c.run rid r) :
    ((c.setRun rid r.released).setBook
      (c.toBook.advance r.sessionId r.role r.observedToSeq)).Windowed := by
  have hshrink := runsShrink_release hr
  have hother : ∀ {key : String × Role} {goalId m n : Nat}, key ≠ r.key →
      c.Window key goalId m n → ((c.setRun rid r.released).setBook
        (c.toBook.advance r.sessionId r.role r.observedToSeq)).Window key goalId m n := by
    rintro ⟨s, role⟩ goalId m n hne ⟨v, g, hv, hg, hid, hm, hmn, hn⟩
    by_cases hs : s = r.sessionId
    · have hrole : role ≠ r.role := fun h => hne (by rw [DispatchRun.key, hs, h])
      refine ⟨{ v with cursors := v.cursors.set r.role (max (v.cursors.get r.role) r.observedToSeq) },
        g, ?_, hg, hid, ?_, hmn, hn⟩
      · rw [setBook_toBook, Book.advance_session, if_pos hs]
        exact congrArg (Option.map _) hv
      · rw [RoleCursors.get_set, if_neg hrole]; exact hm
    · exact ⟨v, g, by rw [setBook_toBook, Book.advance_session, if_neg hs]; exact hv, hg, hid, hm,
        hmn, hn⟩
  have hdrop : ∀ rid' r', Holding (c.setRun rid r.released).run rid' r' →
      Holding c.run rid' r' ∧ r'.key ≠ r.key := by
    rintro rid' r' ⟨h₁, h₂⟩
    rw [setRun_run] at h₁
    split_ifs at h₁ with hk
    · cases h₁; simp [DispatchRun.released] at h₂
    · exact ⟨⟨h₁, h₂⟩, fun h => hk (hx.runs rid' r' rid r ⟨h₁, h₂⟩ hr h)⟩
  refine ⟨fun rid' r' hr' => ?_, fun e he hs => ?_, fun e he hs rid' r' hr' => ?_,
    fun e he hs rid' r' hr' => ?_, fun s v' role hv' => ?_⟩
  · exact hother (hdrop rid' r' hr').2 (hw.run rid' r' (hdrop rid' r' hr').1)
  · exact hother (fun h => hx.ready e he hs rid r hr h.symm) (hw.ready e he hs)
  · exact hw.held e he hs rid' r' (hdrop rid' r' hr').1
  · exact hw.free e he hs rid' r' (hdrop rid' r' hr').1
  · rw [setBook_toBook, Book.advance_session] at hv'
    split_ifs at hv' with hs
    · obtain ⟨v, hv, rfl⟩ := Option.map_eq_some_iff.1 hv'
      simp only [RoleCursors.get_set]
      have hlen := hw.cursor s v role hv
      obtain ⟨-, -, -, -, -, -, -, hto⟩ := hw.run rid r hr
      split_ifs with hrole
      · subst hrole
        refine max_le hlen (hto.trans_eq ?_)
        rw [hs]
        rfl
      · exact hlen
    · exact hw.cursor s v' role hv'

/-- Recovering a Session: an entry that is ready again has the window of the run that
    held it. -/
theorem Windowed.recoverSession (hw : c.Windowed) {held : Nat → Bool}
    (hheld : ∀ id, held id ↔
      ∃ rid r, Holding c.run rid r ∧ r.sessionId = sid ∧ r.readinessId = id) :
    Windowed { c with
      run := fun rid => (c.run rid).map fun r =>
        if r.sessionId = sid ∧ r.leaseState = .acquired then r.interrupted else r
      readiness := c.readiness.map fun e =>
        if e.sessionId = sid ∧ e.status = .acquired then
          { e with status := if held e.readinessId then .ready else .stale }
        else e } := by
  obtain ⟨-, hgone⟩ := runsShrink_recover c { c with
    run := fun rid => (c.run rid).map fun r =>
      if r.sessionId = sid ∧ r.leaseState = .acquired then r.interrupted else r } sid rfl
  -- a ready entry was ready, or it was held by a run of the Session
  have hready : ∀ x ∈ (c.readiness.map fun e =>
      if e.sessionId = sid ∧ e.status = .acquired then
        { e with status := if held e.readinessId then .ready else .stale }
      else e), x.status = .ready → (x ∈ c.readiness) ∨ ∃ e ∈ c.readiness, e.status = .acquired ∧
        e.sessionId = sid ∧ held e.readinessId ∧ x = { e with status := .ready } := by
    intro x hx hs
    obtain ⟨e, he, rfl⟩ := List.mem_map.1 hx
    split_ifs at hs ⊢ with h₁ h₂
    · exact .inr ⟨e, he, h₁.2, h₁.1, h₂, rfl⟩
    · exact .inl he
  have hacq : ∀ x ∈ (c.readiness.map fun e =>
      if e.sessionId = sid ∧ e.status = .acquired then
        { e with status := if held e.readinessId then .ready else .stale }
      else e), x.status = .acquired → x ∈ c.readiness := by
    intro x hx hs
    obtain ⟨e, he, rfl⟩ := List.mem_map.1 hx
    split_ifs at hs ⊢ with h₁ h₂
    exact he
  refine ⟨fun rid r hr => hw.run rid r (hgone rid r hr).1, fun x hx hs => ?_, fun x hx hs rid r hr =>
    hw.held x (hacq x hx hs) hs rid r (hgone rid r hr).1, fun x hx hs rid r hr => ?_, hw.cursor⟩
  · rcases hready x hx hs with h | ⟨e, he, ha, -, hh, rfl⟩
    · exact hw.ready x h hs
    · obtain ⟨rid, r, hr, -, hid⟩ := (hheld _).1 hh
      obtain ⟨hk, hg, hf, ht⟩ := hw.held e he ha rid r hr hid
      have := hw.run rid r hr
      rw [hk, hg, hf, ht] at this
      exact this
  · rcases hready x hx hs with h | ⟨e, he, ha, hsid, -, rfl⟩
    · exact hw.free x h hs rid r (hgone rid r hr).1
    · intro hid
      obtain ⟨hk, -⟩ := hw.held e he ha rid r (hgone rid r hr).1 hid
      exact (hgone rid r hr).2 ((congrArg Prod.fst hk).trans hsid)

/-- Cursors that do not pass the log are not moved by clamping. -/
theorem clamp_eq (hw : c.Windowed) {v : SessionView} (hv : c.session sid = some v) :
    c.setBook (c.toBook.setSession sid
      { v with cursors := State.clampCursors v.cursors (c.log sid).length }) = c := by
  have hc : State.clampCursors v.cursors (c.log sid).length = v.cursors := by
    unfold State.clampCursors
    have h₁ : v.cursors.goalManager ≤ (c.log sid).length := hw.cursor sid v .goalManager hv
    have h₂ : v.cursors.workerAgent ≤ (c.log sid).length := hw.cursor sid v .workerAgent hv
    rw [min_eq_left h₁, min_eq_left h₂]
  rw [hc]
  unfold Book.setSession
  rw [Function.update_eq_self_iff.2 hv.symm]
  rfl

/-- **Windows are kept by every step that neither loses nor requeues a run.** -/
theorem Step.windowed {lb : Label} (h : Step c lb c') (hx : c.Exclusive) (hw : c.Windowed)
    (hlose : lb ≠ .lose) (hq : ∀ id, lb ≠ .requeue id) : c'.Windowed := by
  cases h with
  | book hb =>
    exact hw.of_shrink (grows_of_bookStep hb) (.of_run_eq rfl) (fun _ h _ => h) fun _ h _ => h
  | clamp hv => rw [clamp_eq hw hv]; exact hw
  | interrupt hr =>
    exact hw.of_shrink (.refl _) (runsShrink_interrupt hr) (fun _ h _ => h) fun _ h _ => h
  | amend d st hr =>
    exact hw.of_shrink (.refl _) (runsShrink_amend hr) (fun _ h _ => h) fun _ h _ => h
  | retire hl =>
    refine hw.of_shrink (.refl _) (.of_run_eq rfl) (fun e he hs => ?_) fun e he hs => ?_
    · exact (Retired.mem hl he).resolve_right (by simp [Readiness.live, hs])
    · exact (Retired.mem hl he).resolve_right (by simp [Readiness.live, hs])
  | refresh hl => exact hl.windowed hw
  | acquire _ _ he hready _ _ hkey hgoal hid hfrom hto =>
    exact hw.acquire hx he hready hkey hgoal hid hfrom hto
  | release hr => exact hw.release hx hr
  | recoverSession held hheld => exact hw.recoverSession hheld
  | requeue id => exact absurd rfl (hq id)
  | lose => exact absurd rfl hlose

end Ledger
end Aize
