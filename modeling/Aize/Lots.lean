/-
  What becomes of the leases that a daemon acquires.

  In every run of the daemon among other processes each lease that a Lot has acquired is held by
  one Lot, or its result has come back, or the Lot has raised; the results that the daemon
  reports are those that have come back, each once, and their runs are over. There are never
  more Lots than the cap, and two of them never work for the same Session and role with runs
  that both hold their lease. A daemon that has returned has no Lot left.

  `Change` is what a step can do; the balance of the leases follows from it, case by case.
-/
import Aize.Daemon
import Aize.Exclusivity
import Aize.Inert
import Aize.Lib.Tally
import Aize.Restarts

namespace Aize

/-! ## Collecting -/

theorem Lot.result_of_not_done {lot : Lot} (h : lot.done = false) : lot.result? = none := by
  cases lot with
  | finished => cases h
  | _ => rfl

theorem Lot.lease_of_done {lot : Lot} (h : lot.done) : lot.lease? = none := by
  cases lot with
  | leased => cases h
  | _ => rfl

section
variable (lots : Dict Nat Lot) (dispatched : List Lease)

theorem collect_lookup (id : Nat) : (collectCompletedLots lots dispatched).1.lookup id =
    (lots.lookup id).filter fun lot => !lot.done := by
  have hfold : ∀ (es : List (Sigma fun _ : Nat => Lot)) (r : Dict Nat Lot × List Lease),
      (es.foldl (fun r e => if e.2.done then (r.1.erase e.1, r.2 ++ e.2.result?.toList) else r) r).1.lookup
        id = if es.any fun e => e.1 = id && e.2.done then none else r.1.lookup id := by
    intro es
    induction es with
    | nil => exact fun r => rfl
    | cons e es ih =>
      intro r
      rw [List.foldl_cons, ih, List.any_cons]
      cases hd : e.2.done with
      | false => rw [if_neg Bool.false_ne_true, Bool.and_false, Bool.false_or]
      | true =>
        rw [if_pos rfl, Bool.and_true, Dict.lookup_erase_of]
        by_cases hid : e.1 = id
        · rw [decide_eq_true hid, Bool.true_or, if_pos rfl, if_pos hid.symm, ite_self]
        · rw [decide_eq_false hid, Bool.false_or, if_neg (show ¬id = e.1 from fun h => hid h.symm)]
  unfold collectCompletedLots
  rw [hfold]
  cases h : lots.lookup id with
  | none => simp
  | some lot =>
    have hany : (lots.entries.any fun e => e.1 = id && e.2.done) = lot.done := by
      rw [Bool.eq_iff_iff, List.any_eq_true]
      constructor
      · rintro ⟨e, he, hcond⟩
        obtain ⟨hid, hd⟩ := Bool.and_eq_true_iff.1 hcond
        rw [Dict.mem_entries_iff, of_decide_eq_true hid, h] at he
        exact Option.some.inj he ▸ hd
      · intro hd
        exact ⟨⟨id, lot⟩, Dict.mem_entries_iff.2 h, by simpa using hd⟩
    rw [hany, Option.filter_some]
    cases lot.done <;> rfl

theorem collect_dispatched : (collectCompletedLots lots dispatched).2 =
    dispatched ++ (Dict.vals lots).filterMap Lot.result? := by
  have hfold : ∀ (es : List (Sigma fun _ : Nat => Lot)) (r : Dict Nat Lot × List Lease),
      (es.foldl (fun r e => if e.2.done then (r.1.erase e.1, r.2 ++ e.2.result?.toList) else r) r).2 =
        r.2 ++ (es.map Sigma.snd).filterMap Lot.result? := by
    intro es
    induction es with
    | nil => simp
    | cons e es ih =>
      intro r
      rw [List.foldl_cons, ih, List.map_cons]
      cases hd : e.2.done with
      | false => rw [if_neg Bool.false_ne_true, List.filterMap_cons_none (Lot.result_of_not_done hd)]
      | true =>
        rw [if_pos rfl]
        cases hr : e.2.result? with
        | none => rw [List.filterMap_cons_none hr, Option.toList_none, List.append_nil]
        | some lease =>
          rw [List.filterMap_cons_some hr, Option.toList_some, List.append_assoc]
          rfl
  exact hfold lots.entries (lots, dispatched)

/-- The Lots that stay. -/
theorem collect_vals : (Dict.vals (collectCompletedLots lots dispatched).1).Perm
    ((Dict.vals lots).filter fun lot => !lot.done) :=
  Dict.vals_perm_filter fun id => collect_lookup lots dispatched id

end

/-! ## Submitting -/

/-- What is there after the first ids have been tried. -/
structure Submitted (target n : Nat) (lots lots' : Dict Nat Lot) : Prop where
  lookup : ∀ id, lots'.lookup id = lots.lookup id ∨
    lots.lookup id = none ∧ lots'.lookup id = some .submitted ∧ 1 ≤ id ∧ id ≤ n
  size : lots.keys.length ≤ lots'.keys.length ∧
    lots'.keys.length ≤ max lots.keys.length target
  full : target ≤ lots'.keys.length ∨ ∀ i < n, i + 1 ∈ lots'
  vals : ∀ {β : Type} (F : Lot → Option β), F .submitted = none →
    (Dict.vals lots').filterMap F = (Dict.vals lots).filterMap F

theorem submitted_range (target n : Nat) (lots : Dict Nat Lot) : Submitted target n lots
    ((List.range n).foldl (fun lots i =>
      if target ≤ lots.keys.length then lots
      else if i + 1 ∈ lots then lots
      else lots.insert (i + 1) .submitted) lots) := by
  induction n with
  | zero => exact ⟨fun id => .inl rfl, ⟨le_rfl, le_max_left _ _⟩, .inr nofun, fun F _ => rfl⟩
  | succ n ih =>
    rw [List.range_succ, List.foldl_append, List.foldl_cons, List.foldl_nil]
    generalize (List.range n).foldl _ lots = mid at ih ⊢
    have hlook : ∀ id, mid.lookup id = lots.lookup id ∨
        lots.lookup id = none ∧ mid.lookup id = some .submitted ∧ 1 ≤ id ∧ id ≤ n + 1 := fun id =>
      (ih.lookup id).imp_right fun ⟨h₁, h₂, h₃, h₄⟩ => ⟨h₁, h₂, h₃, by omega⟩
    split_ifs with hfull hmem
    · exact ⟨hlook, ih.size, .inl hfull, ih.vals⟩
    · refine ⟨hlook, ih.size, .inr fun i hi => ?_, ih.vals⟩
      rcases Nat.lt_succ_iff_lt_or_eq.1 hi with hi | rfl
      · exact (ih.full.resolve_left hfull) i hi
      · exact hmem
    · have hnone : lots.lookup (n + 1) = none := by
        rcases ih.lookup (n + 1) with h | ⟨h, -⟩
        · exact h.symm.trans (AList.lookup_eq_none.2 hmem)
        · exact h
      have hkeys : (mid.insert (n + 1) Lot.submitted).keys.length = mid.keys.length + 1 := by
        rw [AList.keys_insert, List.length_cons, List.erase_of_not_mem hmem]
      refine ⟨fun id => ?_, ⟨?_, ?_⟩, .inr fun i hi => ?_, fun F hF => ?_⟩
      · rw [Dict.lookup_insert_of]
        split_ifs with hid
        · exact .inr ⟨hid ▸ hnone, rfl, by omega, by omega⟩
        · exact hlook id
      · have := ih.size.1
        omega
      · rw [hkeys]
        omega
      · rw [AList.mem_insert]
        rcases Nat.lt_succ_iff_lt_or_eq.1 hi with hi | rfl
        · exact .inr ((ih.full.resolve_left hfull) i hi)
        · exact .inl rfl
      · rw [Dict.vals_insert hmem, List.filterMap_cons_none hF]
        exact ih.vals F hF

/-- **As many Lots as wanted**: new ones get the first free ids. -/
theorem submit_spec (target : Nat) (lots : Dict Nat Lot) :
    Submitted target target lots (submitAvailableLots target lots) ∧
      (submitAvailableLots target lots).keys.length = max lots.keys.length target := by
  have h : Submitted target target lots (submitAvailableLots target lots) :=
    submitted_range target target lots
  refine ⟨h, ?_⟩
  have htarget : target ≤ (submitAvailableLots target lots).keys.length := by
    rcases h.full with hfull | hall
    · exact hfull
    · -- all the ids from 1 to the target are there
      have hsub : (List.range target).map (· + 1) ⊆ (submitAvailableLots target lots).keys := by
        intro id hid
        obtain ⟨i, hi, rfl⟩ := List.mem_map.1 hid
        exact hall i (List.mem_range.1 hi)
      have hnodup : ((List.range target).map (· + 1)).Nodup :=
        List.nodup_range.map fun a b h => Nat.succ.inj h
      simpa using (List.subperm_of_subset hnodup hsub).length_le
  exact le_antisymm h.size.2 (max_le h.size.1 htarget)

/-! ## What a step can do -/

namespace Daemon

variable {o : DaemonOptions} {d d' : Daemon}

/-- In the loop, or after it. -/
def Looping (d : Daemon) : Prop :=
  d.stage ≠ .init ∧ d.stage ≠ .recovery ∧ d.stage ≠ .startup ∧ d.stage ≠ .sizing ∧ d.stage ≠ .failed

/-- What the stage tells of the options and the Lots. -/
structure Staged (o : DaemonOptions) (d : Daemon) : Prop where
  checked : d.stage ≠ .init → d.stage ≠ .failed → o.check = .ok ()
  sized : d.Looping → o.dispatchLots ≤ o.lotCap ∧ d.lotCap = o.lotCap.toNat
  drained : d.stage = .returned → d.activeLots = ∅

theorem exec_cases (env : Env) (d : Daemon) (op : Op) (stage : Stage) :
    d.exec env op stage = { d with sys := d.sys.next ⟨env, op⟩, stage := stage } ∨
      d.exec env op stage = { d with stage := .failed } := by
  unfold exec Sys.next
  cases op.exec env d.sys with
  | ok sys => exact .inl rfl
  | error => exact .inr rfl

theorem staged_failed : Staged o { d with stage := .failed } :=
  ⟨fun _ h => absurd rfl h, fun h => absurd rfl h.2.2.2.2, nofun⟩

/-- A step within the loop that changes no option. -/
theorem Staged.loop (h : Staged o d) (hd : d.Looping) (hcap : d'.lotCap = d.lotCap)
    (hret : d'.stage ≠ .returned) : Staged o d' :=
  ⟨fun _ _ => h.checked hd.1 hd.2.2.2.2, fun _ => hcap ▸ h.sized hd, fun h => absurd h hret⟩

theorem staged_main (h : Staged o d) (env : Env) (now : Int) (seen : State) :
    Staged o (d.main o env now seen) := by
  have before : ∀ (d' : Daemon) (stage : Stage), o.check = .ok () → d'.stage = stage →
      (stage = .recovery ∨ stage = .startup ∨ stage = .sizing) → Staged o d' := by
    intro d' stage hok hs hstage
    refine ⟨fun _ _ => hok, fun hl => ?_, fun hr => ?_⟩
    · rcases hstage with rfl | rfl | rfl
      · exact absurd hs hl.2.1
      · exact absurd hs hl.2.2.1
      · exact absurd hs hl.2.2.2.1
    · rcases hstage with rfl | rfl | rfl <;> cases hs.symm.trans hr
  unfold main
  cases hs : d.stage with
  | init =>
    dsimp only
    cases hc : o.check with
    | error => exact staged_failed
    | ok =>
      dsimp only
      rcases exec_cases env d .restart .recovery with h' | h' <;> rw [h']
      · exact before _ .recovery hc rfl (.inl rfl)
      · exact staged_failed
  | recovery =>
    have hok := h.checked (by simp [hs]) (by simp [hs])
    dsimp only
    rcases exec_cases env d (.recordRuntimeRecovery o.recoveryText) .startup with h' | h' <;> rw [h']
    · exact before _ .startup hok rfl (.inr (.inl rfl))
    · exact staged_failed
  | startup =>
    have hok := h.checked (by simp [hs]) (by simp [hs])
    dsimp only
    split
    · exact before _ .sizing hok rfl (.inr (.inr rfl))
    · exact staged_failed
  | sizing =>
    have hok := h.checked (by simp [hs]) (by simp [hs])
    dsimp only
    split_ifs with hcap
    · exact staged_failed
    · rcases exec_cases env d (.setDispatchLotSize o.dispatchLots) .collect with h' | h' <;> rw [h']
      · exact ⟨fun _ _ => hok, fun _ => ⟨not_lt.1 hcap, rfl⟩, nofun⟩
      · exact ⟨fun _ h => absurd rfl h, fun h => absurd rfl h.2.2.2.2, nofun⟩
  | collect =>
    have hl : d.Looping := by simp [Looping, hs]
    dsimp only
    split
    · exact h.loop hl rfl nofun
    · exact h.loop hl rfl nofun
  | schedule completed =>
    have hl : d.Looping := by simp [Looping, hs]
    dsimp only
    split_ifs
    · split
      · exact h.loop hl rfl nofun
      · exact staged_failed
    · exact h.loop hl rfl nofun
  | submit completed =>
    have hl : d.Looping := by simp [Looping, hs]
    dsimp only
    split
    · refine h.loop hl rfl ?_
      dsimp only
      split_ifs <;> nofun
    · exact staged_failed
  | drain =>
    have hl : d.Looping := by simp [Looping, hs]
    dsimp only
    split
    · -- every Lot has finished, and is collected
      rename_i hnone
      refine ⟨fun _ _ => h.checked hl.1 hl.2.2.2.2, fun _ => h.sized hl, fun _ => ?_⟩
      refine AList.ext (List.eq_nil_iff_forall_not_mem.2 fun e he => ?_)
      rw [Dict.mem_entries_iff, collect_lookup, Option.filter_eq_some_iff] at he
      obtain ⟨hlook, hnot⟩ := he
      have hfin := List.find?_eq_none.1 hnone e.2 (Dict.mem_vals.2 ⟨e.1, hlook⟩)
      cases hlot : e.2 with
      | finished => simp [hlot, Lot.done] at hnot
      | _ => simp [hlot] at hfin
    · exact staged_failed
    · exact h
  | returned => exact h
  | failed => exact h

theorem runLot_fields (env : Env) (d : Daemon) (id : Nat) (turn : LotTurn) :
    (d.runLot env id turn).stage = d.stage ∧ (d.runLot env id turn).lotCap = d.lotCap ∧
      (d.runLot env id turn).dispatched = d.dispatched ∧
      (d.activeLots = ∅ → (d.runLot env id turn).activeLots = ∅) := by
  unfold runLot
  split
  · split <;> exact ⟨rfl, rfl, rfl, fun h => by rw [setLot, h]; rfl⟩
  · split <;> exact ⟨rfl, rfl, rfl, fun h => by rw [setLot, h]; rfl⟩
  · exact ⟨rfl, rfl, rfl, fun h => by rw [setLot, h]; rfl⟩
  · exact ⟨rfl, rfl, rfl, fun h => h⟩

theorem staged_next (h : Staged o d) (turn : Turn) : Staged o (d.next o turn) := by
  cases turn with
  | main env now seen => exact staged_main h env now seen
  | other action => exact ⟨h.checked, h.sized, h.drained⟩
  | lot env id turn =>
    obtain ⟨hstage, hcap, -, hlots⟩ := runLot_fields env d id turn
    refine ⟨fun hi hf => h.checked (hstage ▸ hi) (hstage ▸ hf), fun hl => ?_, fun hr => ?_⟩
    · have hl' : d.Looping := by
        unfold Looping
        rw [← hstage]
        exact hl
      exact ⟨(h.sized hl').1, hcap.trans (h.sized hl').2⟩
    · exact hlots (h.drained (hstage ▸ hr))

/-- What a step can do to the store, the Lots and the results: `acquired`, `committed` and
    `lost` are the leases that a Lot acquires, commits under, or loses by raising. -/
inductive Change (o : DaemonOptions) (d d' : Daemon) :
    (acquired committed lost : Option Lease) → Prop where
  | keeps (lots : d'.activeLots = d.activeLots) (dispatched : d'.dispatched = d.dispatched)
      (sys : d'.sys = d.sys ∨ ∃ a : Action, d'.sys = d.sys.next a ∧
        ∀ lease agentEnd, a.op = .commit lease agentEnd → lease ∉ d.held) : Change o d d' none none none
  | collects (lots : d'.activeLots = (collectCompletedLots d.activeLots d.dispatched).1)
      (dispatched : d'.dispatched = (collectCompletedLots d.activeLots d.dispatched).2)
      (sys : d'.sys = d.sys) : Change o d d' none none none
  | submits (target : Nat) (cap : target ≤ o.lotCap)
      (lots : d'.activeLots = submitAvailableLots target d.activeLots)
      (dispatched : d'.dispatched = d.dispatched) (sys : d'.sys = d.sys) : Change o d d' none none none
  | acquires (env : Env) (id : Nat) (lease : Lease) (store : State)
      (lot : d.activeLots.lookup id = some .submitted)
      (ok : d.sys.store.acquireDispatchLease env none = .ok (store, some lease))
      (lots : d'.activeLots = d.activeLots.modify id fun _ => .leased lease)
      (dispatched : d'.dispatched = d.dispatched)
      (sys : d'.sys = ⟨store, d.sys.leases ++ [lease]⟩) : Change o d d' (some lease) none none
  | idles (env : Env) (id : Nat) (lot : d.activeLots.lookup id = some .submitted)
      (lots : d'.activeLots = d.activeLots.modify id fun _ => .finished none)
      (dispatched : d'.dispatched = d.dispatched)
      (sys : d'.sys = d.sys.next ⟨env, .acquire none⟩) : Change o d d' none none none
  | commits (env : Env) (id : Nat) (lease : Lease) (agentEnd : State.AgentEnd)
      (lot : d.activeLots.lookup id = some (.leased lease))
      (ok : (Op.commit lease agentEnd).exec env d.sys = .ok d'.sys)
      (lots : d'.activeLots = d.activeLots.modify id fun _ => .finished (some lease))
      (dispatched : d'.dispatched = d.dispatched) : Change o d d' none (some lease) none
  | raises (id : Nat) (lot : Lot) (look : d.activeLots.lookup id = some lot) (running : lot.done = false)
      (lots : d'.activeLots = d.activeLots.modify id fun _ => .raised)
      (dispatched : d'.dispatched = d.dispatched) (sys : d'.sys = d.sys) : Change o d d' none none lot.lease?

theorem next_of_apply {sys : Sys} {env : Env} {op : Op} {s : State}
    (hop : op.exec env sys = do return ⟨← op.apply env sys.store, sys.leases⟩)
    (h : op.apply env sys.store = .ok s) : sys.next ⟨env, op⟩ = ⟨s, sys.leases⟩ := by
  unfold Sys.next
  rw [hop, h]
  rfl

theorem lots_pos (h : o.check = .ok ()) : 1 ≤ o.dispatchLots := by
  unfold DaemonOptions.check at h
  obtain ⟨-, h⟩ := Except.require_bind_eq_ok.1 h
  obtain ⟨-, h⟩ := Except.require_bind_eq_ok.1 h
  exact (Except.require_bind_eq_ok.1 h).1

/-- The steps of the main thread. -/
theorem change_main (h : Staged o d) (env : Env) (now : Int) (seen : State) :
    Change o d (d.main o env now seen) none none none := by
  have plain : ∀ (op : Op) (stage : Stage) (cap : Nat) (now : Int), (∀ lease agentEnd, op ≠ .commit lease agentEnd) →
      Change o d { d.exec env op stage with lotCap := cap, lastActivity := now } none none none := by
    intro op stage cap now hop
    rcases exec_cases env d op stage with h' | h' <;> rw [h']
    · exact .keeps rfl rfl (.inr ⟨⟨env, op⟩, rfl, fun lease agentEnd h => absurd h (hop lease agentEnd)⟩)
    · exact .keeps rfl rfl (.inl rfl)
  have unchanged : ∀ d' : Daemon, d'.activeLots = d.activeLots → d'.dispatched = d.dispatched →
      d'.sys = d.sys → Change o d d' none none none := fun d' h₁ h₂ h₃ => .keeps h₁ h₂ (.inl h₃)
  unfold main
  cases hs : d.stage with
  | init =>
    dsimp only
    split
    · exact plain .restart .recovery _ _ nofun
    · exact unchanged _ rfl rfl rfl
  | recovery => exact plain (.recordRuntimeRecovery o.recoveryText) .startup _ _ nofun
  | startup =>
    dsimp only
    split
    · rename_i store startup hok
      refine .keeps rfl rfl (.inr ⟨⟨env, .runStartupUnits o.parentSessionId o.createdBy none⟩, ?_, nofun⟩)
      exact (next_of_apply rfl (Except.map_eq_ok.2 ⟨_, hok, rfl⟩)).symm
    · exact unchanged _ rfl rfl rfl
  | sizing =>
    dsimp only
    split
    · exact unchanged _ rfl rfl rfl
    · exact plain (.setDispatchLotSize o.dispatchLots) .collect _ _ nofun
  | collect =>
    dsimp only
    split
    · exact .collects rfl rfl rfl
    · exact unchanged _ rfl rfl rfl
  | schedule completed =>
    dsimp only
    split
    · split
      · rename_i store started hok
        refine .keeps rfl rfl
          (.inr ⟨⟨env, .runScheduledUnits o.parentSessionId o.createdBy none⟩, ?_, nofun⟩)
        exact (next_of_apply rfl (Except.map_eq_ok.2 ⟨_, hok, rfl⟩)).symm
      · exact unchanged _ rfl rfl rfl
    · exact unchanged _ rfl rfl rfl
  | submit completed =>
    have hl : d.Looping := by simp [Looping, hs]
    dsimp only
    split
    · refine .submits _ ?_ rfl rfl rfl
      obtain ⟨hlots, hcap⟩ := h.sized hl
      have hone := lots_pos (h.checked hl.1 hl.2.2.2.2)
      split_ifs <;> omega
    · exact unchanged _ rfl rfl rfl
  | drain =>
    dsimp only
    split
    · exact .collects rfl rfl rfl
    · exact unchanged _ rfl rfl rfl
    · exact unchanged _ rfl rfl rfl
  | returned => exact unchanged _ rfl rfl rfl
  | failed => exact unchanged _ rfl rfl rfl

/-! ## The leases of a run -/

/-- The Lot of a step, before and after it. -/
def lotBy (e : TransitionSystem.Event Daemon Turn) : Option Lot × Option Lot :=
  match e.act with
  | .lot _ id _ => (e.pre.activeLots.lookup id, e.post.activeLots.lookup id)
  | _ => (none, none)

/-- The lease that a Lot acquires in this step. -/
def acquiredBy (e : TransitionSystem.Event Daemon Turn) : Option Lease :=
  match lotBy e with
  | (some .submitted, some (.leased lease)) => some lease
  | _ => none

/-- The lease under which a Lot commits in this step. -/
def committedBy (e : TransitionSystem.Event Daemon Turn) : Option Lease :=
  match lotBy e with
  | (some (.leased lease), some (.finished _)) => some lease
  | _ => none

/-- The lease of a Lot that raises in this step. -/
def lostBy (e : TransitionSystem.Event Daemon Turn) : Option Lease :=
  match lotBy e with
  | (some (.leased lease), some .raised) => some lease
  | _ => none

theorem change_runLot (env : Env) (d : Daemon) (id : Nat) (turn : LotTurn) :
    let e := ⟨d, .lot env id turn, d.runLot env id turn⟩
    Change o d (d.runLot env id turn) (acquiredBy e) (committedBy e) (lostBy e) := by
  have hset : ∀ (d' : Daemon) {lot lot' : Lot}, d.activeLots.lookup id = some lot →
      d'.activeLots = (d.activeLots.modify id fun _ => lot') →
      lotBy ⟨d, .lot env id turn, d'⟩ = (some lot, some lot') := by
    intro d' lot lot' hlot hd'
    unfold lotBy
    dsimp only
    rw [hd', hlot, Dict.lookup_modify_self, hlot]
    rfl
  have hstay : d.runLot env id turn = d → Change o d (d.runLot env id turn)
      (acquiredBy ⟨d, .lot env id turn, d.runLot env id turn⟩)
      (committedBy ⟨d, .lot env id turn, d.runLot env id turn⟩)
      (lostBy ⟨d, .lot env id turn, d.runLot env id turn⟩) := by
    intro hrun
    rw [hrun]
    have hsame : lotBy ⟨d, .lot env id turn, d⟩ = (d.activeLots.lookup id, d.activeLots.lookup id) := rfl
    unfold acquiredBy committedBy lostBy
    rw [hsame]
    rcases d.activeLots.lookup id with _ | _ | _ | _ | _ <;> exact .keeps rfl rfl (.inl rfl)
  intro e
  cases hlot : d.activeLots.lookup id with
  | none => exact hstay (by unfold runLot; rw [hlot])
  | some lot =>
    cases lot with
    | submitted =>
      cases turn with
      | acquire =>
        cases hok : d.sys.store.acquireDispatchLease env none with
        | error err =>
          have hrun : d.runLot env id .acquire = d.setLot id .raised := by
            unfold runLot
            rw [hlot]
            dsimp only
            rw [hok]
          have hby := hset (d.setLot id .raised) hlot rfl
          subst e
          rw [hrun]
          simp only [acquiredBy, committedBy, lostBy, hby]
          exact .raises id .submitted hlot rfl rfl rfl rfl
        | ok r =>
          obtain ⟨store, lease⟩ := r
          cases lease with
          | none =>
            have hrun : d.runLot env id .acquire =
                { d with sys := ⟨store, d.sys.leases⟩ }.setLot id (.finished none) := by
              unfold runLot
              rw [hlot]
              dsimp only
              rw [hok]
            have hby := hset ({ d with sys := ⟨store, d.sys.leases⟩ }.setLot id (.finished none)) hlot rfl
            have hsys : (⟨store, d.sys.leases⟩ : Sys) = d.sys.next ⟨env, .acquire none⟩ := by
              unfold Sys.next Op.exec
              dsimp only
              rw [hok]
              exact congrArg (Sys.mk store) (List.append_nil d.sys.leases).symm
            subst e
            rw [hrun]
            simp only [acquiredBy, committedBy, lostBy, hby]
            exact .idles env id hlot rfl rfl hsys
          | some lease =>
            have hrun : d.runLot env id .acquire =
                { d with sys := ⟨store, d.sys.leases ++ [lease]⟩ }.setLot id (.leased lease) := by
              unfold runLot
              rw [hlot]
              dsimp only
              rw [hok]
            have hby := hset
              ({ d with sys := ⟨store, d.sys.leases ++ [lease]⟩ }.setLot id (.leased lease)) hlot rfl
            subst e
            rw [hrun]
            simp only [acquiredBy, committedBy, lostBy, hby]
            exact .acquires env id lease store hlot hok rfl rfl rfl
      | _ => exact hstay (by unfold runLot; rw [hlot])
    | leased lease =>
      cases turn with
      | acquire => exact hstay (by unfold runLot; rw [hlot])
      | commit agentEnd =>
        cases hok : (Op.commit lease agentEnd).exec env d.sys with
        | error err =>
          have hrun : d.runLot env id (.commit agentEnd) = d.setLot id .raised := by
            unfold runLot
            rw [hlot]
            dsimp only
            rw [hok]
          have hby := hset (d.setLot id .raised) hlot rfl
          subst e
          rw [hrun]
          simp only [acquiredBy, committedBy, lostBy, hby]
          exact .raises id (.leased lease) hlot rfl rfl rfl rfl
        | ok sys =>
          have hrun : d.runLot env id (.commit agentEnd) =
              { d with sys := sys }.setLot id (.finished (some lease)) := by
            unfold runLot
            rw [hlot]
            dsimp only
            rw [hok]
          have hby := hset ({ d with sys := sys }.setLot id (.finished (some lease))) hlot rfl
          subst e
          rw [hrun]
          simp only [acquiredBy, committedBy, lostBy, hby]
          exact .commits env id lease agentEnd hlot hok rfl rfl
      | crash =>
        have hrun : d.runLot env id .crash = d.setLot id .raised := by
          unfold runLot
          rw [hlot]
        have hby := hset (d.setLot id .raised) hlot rfl
        subst e
        rw [hrun]
        simp only [acquiredBy, committedBy, lostBy, hby]
        exact .raises id (.leased lease) hlot rfl rfl rfl rfl
    | _ => exact hstay (by unfold runLot; rw [hlot])

theorem change_next (h : Staged o d) {turn : Turn} (hallowed : d.Allowed turn) :
    let e := ⟨d, turn, d.next o turn⟩
    Change o d (d.next o turn) (acquiredBy e) (committedBy e) (lostBy e) := by
  cases turn with
  | main env now seen => exact change_main h env now seen
  | lot env id turn => exact change_runLot env d id turn
  | other action => exact .keeps rfl rfl (.inr ⟨action, rfl, hallowed⟩)

/-- The results of Lots that have finished, and have not been collected. -/
def results (d : Daemon) : List Lease := (Dict.vals d.activeLots).filterMap Lot.result?

/-- **The balance of a step**: what is held, and what has come back. -/
theorem Change.balance {acquired committed lost : Option Lease}
    (h : Change o d d' acquired committed lost) :
    (d'.held ++ (committed.toList ++ lost.toList)).Perm (acquired.toList ++ d.held) ∧
      (d'.dispatched ++ d'.results).Perm (committed.toList ++ (d.dispatched ++ d.results)) := by
  have modified : ∀ {id : Nat} {lot lot' : Lot}, d.activeLots.lookup id = some lot →
      d'.activeLots = (d.activeLots.modify id fun _ => lot') →
      (lot.lease?.toList ++ d'.held).Perm (lot'.lease?.toList ++ d.held) ∧
        (lot.result?.toList ++ d'.results).Perm (lot'.result?.toList ++ d.results) := by
    intro id lot lot' hlot hlots
    unfold held results
    rw [hlots]
    exact ⟨Dict.filterMap_modify_perm Lot.lease? lot' hlot,
      Dict.filterMap_modify_perm Lot.result? lot' hlot⟩
  cases h with
  | keeps lots dispatched sys =>
    unfold held results
    rw [lots, dispatched]
    exact ⟨by simp, .refl _⟩
  | collects lots dispatched sys =>
    unfold held results
    rw [lots, dispatched, collect_dispatched]
    have hvals := collect_vals d.activeLots d.dispatched
    have hlease : ((Dict.vals d.activeLots).filter fun lot => !lot.done).filterMap Lot.lease? =
        (Dict.vals d.activeLots).filterMap Lot.lease? := by
      rw [List.filterMap_filter]
      refine List.filterMap_congr fun lot _ => ?_
      cases hd : lot.done with
      | false => rfl
      | true => exact (Lot.lease_of_done hd).symm
    have hresult : ((Dict.vals d.activeLots).filter fun lot => !lot.done).filterMap Lot.result? = [] := by
      refine List.filterMap_eq_nil_iff.2 fun lot hlot => Lot.result_of_not_done ?_
      simpa using (List.mem_filter.1 hlot).2
    refine ⟨?_, ?_⟩
    · have := hvals.filterMap Lot.lease?
      rw [hlease] at this
      simpa using this
    · have := hvals.filterMap Lot.result?
      rw [hresult] at this
      rw [List.perm_nil.1 this, List.append_nil]
      rfl
  | submits target cap lots dispatched sys =>
    have hvals := (submit_spec target d.activeLots).1
    unfold held results
    rw [lots, dispatched, hvals.vals _ rfl, hvals.vals _ rfl]
    exact ⟨by simp, .refl _⟩
  | acquires env id lease store lot ok lots dispatched sys =>
    obtain ⟨hheld, hresults⟩ := modified lot lots
    rw [dispatched]
    exact ⟨by simpa [Lot.lease?] using hheld,
      by simpa [Lot.result?] using hresults.append_left d.dispatched⟩
  | idles env id lot lots dispatched sys =>
    obtain ⟨hheld, hresults⟩ := modified lot lots
    rw [dispatched]
    exact ⟨by simpa [Lot.lease?] using hheld,
      by simpa [Lot.result?] using hresults.append_left d.dispatched⟩
  | commits env id lease agentEnd lot ok lots dispatched =>
    obtain ⟨hheld, hresults⟩ := modified lot lots
    rw [dispatched]
    refine ⟨?_, ?_⟩
    · have : (lease :: d'.held).Perm d.held := by simpa [Lot.lease?] using hheld
      exact List.perm_append_comm.trans this
    · have : d'.results.Perm (lease :: d.results) := by simpa [Lot.result?] using hresults
      exact (this.append_left d.dispatched).trans List.perm_middle
  | raises id lot look running lots dispatched sys =>
    obtain ⟨hheld, hresults⟩ := modified look lots
    rw [dispatched]
    rw [Lot.result_of_not_done running] at hresults
    exact ⟨List.perm_append_comm.trans (by simpa [Lot.lease?] using hheld),
      by simpa [Lot.result?] using hresults.append_left d.dispatched⟩

end Daemon

/-! ## The store under the daemon -/

open State

section
variable {sys sys' : Sys} {env : Env} {lease : Lease}

/-- Only its commit takes a lease away. -/
theorem leases_next (a : Action) (hl : lease ∈ sys.leases)
    (hc : ∀ agentEnd, a.op ≠ .commit lease agentEnd) : lease ∈ (sys.next a).leases := by
  unfold Sys.next
  cases h : a.op.exec a.env sys with
  | error => exact hl
  | ok sys' =>
    have plain : ∀ op : Op, (do return ⟨← op.apply a.env sys.store, sys.leases⟩ : Except Err Sys) =
        .ok sys' → lease ∈ sys'.leases := by
      intro op h
      obtain ⟨s', -, h⟩ := Except.bind_eq_ok.1 h
      rw [← Except.pure_eq_ok.1 h]
      exact hl
    obtain ⟨env, op⟩ := a
    cases op with
    | acquire filter =>
      obtain ⟨r, -, h⟩ := Except.bind_eq_ok.1 h
      rw [← Except.pure_eq_ok.1 h]
      exact List.mem_append_left _ hl
    | commit lease' agentEnd =>
      obtain ⟨-, h⟩ := Except.require_bind_eq_ok.1 h
      obtain ⟨s', -, h⟩ := Except.bind_eq_ok.1 h
      rw [← Except.pure_eq_ok.1 h]
      refine (List.mem_erase_of_ne ?_).2 hl
      rintro rfl
      exact hc agentEnd rfl
    | _ => exact plain _ h

/-- **A commit ends the run**, whatever it makes of the result. -/
theorem ended_commit (hS : sys.Safe) {agentEnd : AgentEnd}
    (h : (Op.commit lease agentEnd).exec env sys = .ok sys') : ∃ run,
      sys'.store.dispatchRuns.lookup lease.runId = some run ∧ run.leaseState ≠ .acquired := by
  have hnext : sys.next ⟨env, .commit lease agentEnd⟩ = sys' := by
    unfold Sys.next
    dsimp only
    rw [h]
  obtain ⟨hmem, h⟩ := Except.require_bind_eq_ok.1 h
  obtain ⟨s', hs', h⟩ := Except.bind_eq_ok.1 h
  obtain ⟨run, hr⟩ := hS.leased lease hmem
  obtain ⟨run', hr', -⟩ := (onward_next hS ⟨env, .commit lease agentEnd⟩).run lease.runId run hr
  rw [hnext] at hr'
  refine ⟨run', hr', ?_⟩
  rw [← Except.pure_eq_ok.1 h] at hr'
  obtain ⟨loaded, hl, h⟩ := Except.bind_eq_ok.1 hs'
  obtain ⟨t, ht, h⟩ := Except.bind_eq_ok.1 h
  obtain rfl := Except.pure_eq_ok.1 h
  have hrep := hS.inv.stored.load (P := fun _ => True) trivial hl
  obtain ⟨hi, hsound, -⟩ := hS.load hl
  have hrl : loaded.dispatchRuns.lookup lease.runId = some run := by
    rw [hrep.effect.runs]
    exact hr
  have hrt : t.dispatchRuns.lookup lease.runId = some run' := hr'
  have hfenced := commit_fenced (coherent_of_sound hi hsound).signals hrl ht
  by_cases ha : run.leaseState = .acquired
  · by_cases hfence : loaded.staleDispatchFence lease.runId run (commitRole lease run agentEnd) = none
    · obtain ⟨hnone, -⟩ | ⟨run₁, goal, session, hr₁, -, -, hcases⟩ := commitLoaded_cases ht
      · cases hnone.symm.trans hrl
      · obtain rfl := Option.some.inj (hr₁.symm.trans hrl)
        rcases hcases with ⟨reason, hstale, -⟩ | ⟨-, happly⟩
        · cases hfence.symm.trans hstale
        · rw [released_applyEnd happly hrt]
          nofun
    · obtain ⟨evidence, hrun⟩ := ((hfenced hfence).2 ha).run
      obtain rfl := Option.some.inj (hrt.symm.trans hrun)
      nofun
  · obtain ⟨evidence, hrun⟩ := ((hfenced (fenced_of_released ha _)).1 ha).run
    obtain rfl := Option.some.inj (hrt.symm.trans hrun)
    exact ha

end

namespace Daemon

variable {o : DaemonOptions} {d d' : Daemon} {tr : List (TransitionSystem.Event Daemon Turn)}

/-! ## The account of a run -/

/-- **Where the leases of a run are**: `tr` are the steps that have led to `d`. -/
structure Accounts (o : DaemonOptions) (tr : List (TransitionSystem.Event Daemon Turn)) (d : Daemon) :
    Prop where
  store : storeSystem.Reachable d.sys
  ids : ∀ id ∈ d.activeLots, 1 ≤ id ∧ id ≤ o.lotCap
  held : ∀ lease ∈ d.held, lease ∈ d.sys.leases
  leases : (d.held ++ (tr.filterMap committedBy ++ tr.filterMap lostBy)).Perm (tr.filterMap acquiredBy)
  distinct : ((tr.filterMap acquiredBy).map Lease.runId).Nodup
  issued : ∀ lease ∈ tr.filterMap acquiredBy, lease.runId < d.sys.store.nextId
  results : (d.dispatched ++ d.results).Perm (tr.filterMap committedBy)
  ended : ∀ lease ∈ tr.filterMap committedBy, ∃ run,
    d.sys.store.dispatchRuns.lookup lease.runId = some run ∧ run.leaseState ≠ .acquired

/-- The store takes a step of its own, or none. -/
theorem Change.sys {acquired committed lost : Option Lease} (h : Change o d d' acquired committed lost) :
    d'.sys = d.sys ∨ ∃ a, d'.sys = d.sys.next a := by
  cases h with
  | keeps lots dispatched sys => exact sys.imp_right fun ⟨a, h, _⟩ => ⟨a, h⟩
  | collects lots dispatched sys => exact .inl sys
  | submits target cap lots dispatched sys => exact .inl sys
  | acquires env id lease store lot ok lots dispatched sys =>
    refine .inr ⟨⟨env, .acquire none⟩, sys.trans ?_⟩
    unfold Sys.next Op.exec
    dsimp only
    rw [ok]
    rfl
  | idles env id lot lots dispatched sys => exact .inr ⟨_, sys⟩
  | commits env id lease agentEnd lot ok lots dispatched =>
    refine .inr ⟨⟨env, .commit lease agentEnd⟩, ?_⟩
    unfold Sys.next
    dsimp only
    rw [ok]
  | raises id lot look running lots dispatched sys => exact .inl sys

/-- Ids stay within the cap. -/
theorem Change.ids {acquired committed lost : Option Lease} (h : Change o d d' acquired committed lost)
    (hids : ∀ id ∈ d.activeLots, 1 ≤ id ∧ (id : Int) ≤ o.lotCap) :
    ∀ id ∈ d'.activeLots, 1 ≤ id ∧ (id : Int) ≤ o.lotCap := by
  have modified : ∀ {id : Nat} {f : Lot → Lot}, d'.activeLots = d.activeLots.modify id f →
      ∀ id ∈ d'.activeLots, 1 ≤ id ∧ (id : Int) ≤ o.lotCap := by
    intro id f hlots id' hid
    rw [hlots, Dict.mem_modify] at hid
    exact hids id' hid
  cases h with
  | keeps lots dispatched sys => exact lots ▸ hids
  | collects lots dispatched sys =>
    intro id hid
    rw [lots, Dict.mem_iff_lookup] at hid
    obtain ⟨lot, hlot⟩ := hid
    rw [collect_lookup, Option.filter_eq_some_iff] at hlot
    exact hids id (Dict.mem_iff_lookup.2 ⟨lot, hlot.1⟩)
  | submits target cap lots dispatched sys =>
    intro id hid
    rw [lots, Dict.mem_iff_lookup] at hid
    obtain ⟨lot, hlot⟩ := hid
    rcases (submit_spec target d.activeLots).1.lookup id with h | ⟨-, -, h₁, h₂⟩
    · exact hids id (Dict.mem_iff_lookup.2 ⟨lot, h.symm.trans hlot⟩)
    · exact ⟨h₁, le_trans (by exact_mod_cast h₂) cap⟩
  | acquires env id lease store lot ok lots dispatched sys => exact modified lots
  | idles env id lot lots dispatched sys => exact modified lots
  | commits env id lease agentEnd lot ok lots dispatched => exact modified lots
  | raises id lot look running lots dispatched sys => exact modified lots

/-- A Lot's lease is out. -/
theorem Change.held {acquired committed lost : Option Lease} (h : Change o d d' acquired committed lost)
    (hnodup : d.held.Nodup) (hheld : ∀ lease ∈ d.held, lease ∈ d.sys.leases) :
    ∀ lease ∈ d'.held, lease ∈ d'.sys.leases := by
  have hperm := h.balance.1
  intro lease hl
  have hmem : lease ∈ acquired.toList ++ d.held := hperm.subset (List.mem_append_left _ hl)
  cases h with
  | keeps lots dispatched sys =>
    have hl' := hheld lease (by simpa using hmem)
    rcases sys with h | ⟨a, h, hc⟩
    · exact h ▸ hl'
    · exact h ▸ leases_next a hl' fun agentEnd hop => hc lease agentEnd hop (by simpa using hmem)
  | collects lots dispatched sys => exact sys ▸ hheld lease (by simpa using hmem)
  | submits target cap lots dispatched sys => exact sys ▸ hheld lease (by simpa using hmem)
  | acquires env id lease' store lot ok lots dispatched sys =>
    rw [sys]
    rcases List.mem_append.1 hmem with hnew | hold
    · exact List.mem_append_right _ (by simpa using hnew)
    · exact List.mem_append_left _ (hheld lease hold)
  | idles env id lot lots dispatched sys =>
    rw [sys]
    exact leases_next _ (hheld lease (by simpa using hmem)) nofun
  | commits env id lease' agentEnd lot ok lots dispatched =>
    have hne : lease ≠ lease' := by
      rintro rfl
      have := hperm.nodup_iff.2 (by simpa using hnodup)
      exact List.disjoint_of_nodup_append this hl (by simp)
    obtain ⟨-, h⟩ := Except.require_bind_eq_ok.1 ok
    obtain ⟨s', -, h⟩ := Except.bind_eq_ok.1 h
    rw [← Except.pure_eq_ok.1 h]
    exact (List.mem_erase_of_ne hne).2 (hheld lease (by simpa using hmem))
  | raises id lot look running lots dispatched sys => exact sys ▸ hheld lease (by simpa using hmem)

theorem filterMap_snoc {α β : Type} (f : α → Option β) (l : List α) (a : α) :
    (l ++ [a]).filterMap f = l.filterMap f ++ (f a).toList := by
  rw [List.filterMap_append]
  cases h : f a with
  | none => rw [List.filterMap_cons_none h]; rfl
  | some b => rw [List.filterMap_cons_some h]; rfl

/-- A lease that is new names a run that is new. -/
theorem Change.issues {acquired committed lost : Option Lease} (h : Change o d d' acquired committed lost)
    (hS : d.sys.Safe) : ∀ lease ∈ acquired, d.sys.store.nextId ≤ lease.runId ∧
      lease.runId < d'.sys.store.nextId := by
  intro lease hl
  cases h with
  | acquires env id lease' store lot ok lots dispatched sys =>
    obtain rfl := Option.some.inj hl
    obtain ⟨hst, hlease⟩ := acquire_spec (P := fun _ => True) hS.inv.stored hS.inv.sound trivial
      (fun _ _ => trivial) ok
    obtain ⟨hnew, run, -, -, hr, -⟩ := hlease lease' rfl
    rw [sys]
    exact ⟨hnew, (hst.stored.wf.run _ _ hr).1⟩
  | _ => cases hl

/-- **One step of the account.** -/
theorem Accounts.snoc (h : Accounts o tr d) (hstaged : Staged o d) {turn : Turn}
    (hallowed : d.Allowed turn) : Accounts o (tr ++ [⟨d, turn, d.next o turn⟩]) (d.next o turn) := by
  have hc := change_next hstaged hallowed
  dsimp only at hc
  generalize he : (⟨d, turn, d.next o turn⟩ : TransitionSystem.Event Daemon Turn) = e at hc ⊢
  have hS := reachable_safe h.store
  have hnodup : (tr.filterMap acquiredBy).Nodup := .of_map _ h.distinct
  have hheld : d.held.Nodup := by
    have := h.leases.nodup_iff.2 hnodup
    exact (List.nodup_append.1 this).1
  obtain ⟨hbalance, hback⟩ := hc.balance
  have hnew := hc.issues hS
  have hsys : storeSystem.Reachable (d.next o turn).sys ∧
      d.sys.store.nextId ≤ (d.next o turn).sys.store.nextId ∧
      ∀ rid run, d.sys.store.dispatchRuns.lookup rid = some run → run.leaseState ≠ .acquired →
        ∃ run', (d.next o turn).sys.store.dispatchRuns.lookup rid = some run' ∧
          run'.leaseState ≠ .acquired := by
    rcases hc.sys with hs | ⟨a, hs⟩ <;> rw [hs]
    · exact ⟨h.store, le_rfl, fun rid run hr hend => ⟨run, hr, hend⟩⟩
    · refine ⟨h.store.step rfl, (next_stores hS.inv a).2.next, fun rid run hr hend => ?_⟩
      obtain ⟨run', hr', hlater⟩ := (onward_next hS a).run rid run hr
      exact ⟨run', hr', fun ha => hend (hlater.acquired ha)⟩
  obtain ⟨hreach, hnext, hended⟩ := hsys
  constructor
  case store => exact hreach
  case ids => exact hc.ids h.ids
  case held => exact hc.held hheld h.held
  case leases =>
    rw [filterMap_snoc, filterMap_snoc, filterMap_snoc]
    refine List.perm_iff_count.2 fun lease => ?_
    have h₁ := h.leases.count_eq lease
    have h₂ := hbalance.count_eq lease
    simp only [List.count_append] at h₁ h₂ ⊢
    omega
  case distinct =>
    rw [filterMap_snoc, List.map_append]
    refine List.nodup_append.2 ⟨h.distinct, ?_, ?_⟩
    · cases acquiredBy e with
      | none => exact List.nodup_nil
      | some lease => exact List.nodup_singleton _
    · intro a ha b hb
      obtain ⟨lease, hl, rfl⟩ := List.mem_map.1 ha
      obtain ⟨lease', hl', rfl⟩ := List.mem_map.1 hb
      have h₁ := h.issued lease hl
      have h₂ := (hnew lease' (Option.mem_toList.1 hl')).1
      omega
  case issued =>
    rw [filterMap_snoc]
    intro lease hl
    rcases List.mem_append.1 hl with hl | hl
    · exact (h.issued lease hl).trans_le hnext
    · exact (hnew lease (Option.mem_toList.1 hl)).2
  case results =>
    rw [filterMap_snoc]
    exact (hback.trans (h.results.append_left _)).trans List.perm_append_comm
  case ended =>
    rw [filterMap_snoc]
    intro lease hl
    rcases List.mem_append.1 hl with hl | hl
    · obtain ⟨run, hr, hend⟩ := h.ended lease hl
      exact hended lease.runId run hr hend
    · have hl' := Option.mem_toList.1 hl
      generalize acquiredBy e = a at hc
      generalize committedBy e = c at hc hl'
      generalize lostBy e = l at hc
      cases hc with
      | commits env id lease' agentEnd lot ok lots dispatched =>
        obtain rfl := Option.some.inj hl'
        exact ended_commit hS ok
      | _ => cases hl'

end Daemon

open Daemon

/-- **The daemon accounts for its leases.** In every run among other processes, each lease that
    its Lots have acquired is held by one Lot, has come back, or was lost to an exception; the
    reported results are those that have come back, each once, and their runs are over. There
    are at most as many Lots as the cap; two of them whose runs both have their leases do not
    work for one Session and role. After the end no Lot is left. -/
theorem daemon_accounts_for_leases {o : DaemonOptions} {d₀ d : Daemon}
    {tr : List (TransitionSystem.Event Daemon Daemon.Turn)} (h₀ : (daemonSystem o).init d₀)
    (h : (daemonSystem o).Run d₀ tr d) :
    Accounts o tr d ∧ (d.activeLots.keys.length : Int) ≤ max 0 o.lotCap ∧
      (∀ l ∈ d.held, ∀ l' ∈ d.held, ∀ r r', d.sys.store.dispatchRuns.lookup l.runId = some r →
        d.sys.store.dispatchRuns.lookup l'.runId = some r' → r.leaseState = .acquired →
          r'.leaseState = .acquired → r.key = r'.key → l = l') ∧
      (d.stage = .returned → d.activeLots = ∅ ∧
        d.dispatched.Perm (tr.filterMap committedBy) ∧
        (d.dispatched ++ tr.filterMap lostBy).Perm (tr.filterMap acquiredBy)) := by
  have hall : Staged o d ∧ Accounts o tr d := by
    refine h.invariant (P := fun tr d => Staged o d ∧ Accounts o tr d) ?_ ?_
    · obtain ⟨sys, hsys, rfl⟩ := h₀
      refine ⟨⟨fun h => absurd rfl h, fun h => absurd rfl h.1, nofun⟩, ?_⟩
      exact ⟨hsys, fun id hid => absurd hid (AList.notMem_empty id), nofun, .refl _, List.nodup_nil,
        nofun, .refl _, nofun⟩
    · rintro tr d₁ turn _ - ⟨hstaged, hacc⟩ ⟨hallowed, rfl⟩
      exact ⟨staged_next hstaged turn, hacc.snoc hstaged hallowed⟩
  obtain ⟨hstaged, hacc⟩ := hall
  have hheld : (d.held.map Lease.runId).Nodup := by
    have := (hacc.leases.map Lease.runId).nodup_iff.2 hacc.distinct
    rw [List.map_append] at this
    exact (List.nodup_append.1 this).1
  refine ⟨hacc, ?_, ?_, fun hret => ?_⟩
  · -- the ids are different numbers from 1 to the cap
    have hsub : d.activeLots.keys ⊆ (List.range o.lotCap.toNat).map (· + 1) := by
      intro id hid
      obtain ⟨h₁, h₂⟩ := hacc.ids id hid
      exact List.mem_map.2 ⟨id - 1, List.mem_range.2 (by omega), by omega⟩
    have hle := (List.subperm_of_subset d.activeLots.keys_nodup hsub).length_le
    rw [List.length_map, List.length_range] at hle
    omega
  · intro l hl l' hl' r r' hr hr' ha ha' hkey
    have hruns := (reachable_exclusive hacc.store).runs (l.runId, r)
      (mem_acquiredRuns.2 ⟨hr, ha⟩) (l'.runId, r') (mem_acquiredRuns.2 ⟨hr', ha'⟩) hkey
    exact List.inj_on_of_nodup_map hheld hl hl' hruns
  · have hempty := hstaged.drained hret
    have hres : d.results = [] := by
      unfold Daemon.results
      rw [hempty]
      rfl
    have hnone : d.held = [] := by
      unfold held
      rw [hempty]
      rfl
    have hback := hacc.results
    have hleases := hacc.leases
    rw [hres, List.append_nil] at hback
    rw [hnone, List.nil_append] at hleases
    exact ⟨hempty, hback, (hback.append_right _).trans hleases⟩

/-! ## One cycle -/

theorem run_turns (o : DaemonOptions) (d : Daemon) (turns : List Daemon.Turn)
    (h : ∀ turn ∈ turns, ∀ action, turn ≠ .other action) :
    ∃ tr, (daemonSystem o).Run d tr (turns.foldl (Daemon.next o) d) := by
  induction turns using List.reverseRecOn with
  | nil => exact ⟨[], .nil d⟩
  | append_singleton turns turn ih =>
    obtain ⟨tr, hrun⟩ := ih fun turn ht => h turn (List.mem_append_left _ ht)
    rw [List.foldl_append, List.foldl_cons, List.foldl_nil]
    refine ⟨_, hrun.snoc ⟨?_, rfl⟩⟩
    cases turn with
    | other action => exact absurd rfl (h (.other action) (by simp) action)
    | _ => trivial

/-- A daemon that goes through its loop once. -/
def oneCycle : DaemonOptions where
  parentSessionId := "root"
  createdBy := "root"
  scheduleInterval := 1
  dispatchInterval := 0
  maxCycles := some 1

/-- Its turns after `init`, on a store with one Session; its Lot works in the middle. -/
def cycleTurns : List Daemon.Turn :=
  ([4, 5, 6, 7, 8, 9].map fun n : Nat => .main (clock n) n newStore.store) ++
    [.lot (clock 10) 1 .acquire, .lot (clock 11) 1 (.commit (.failed "no answer"))] ++
    [12, 13].map fun n : Nat => .main (clock n) n newStore.store

/-- The GoalManager of the Session has been at work; the daemon reports this and has no Lot left. -/
theorem daemon_accounts_for_leases_cycle : ∃ tr d,
    (daemonSystem oneCycle).Run { sys := newStore.nexts (started.take 1) } tr d ∧
      d.stage = .returned ∧ d.activeLots = ∅ ∧ d.dispatched.length = 1 ∧
      d.dispatched.Perm (tr.filterMap committedBy) := by
  have hinit : (daemonSystem oneCycle).init { sys := newStore.nexts (started.take 1) } :=
    ⟨_, reachable_nexts (started.take 1), rfl⟩
  have hload : ((newStore.nexts (started.take 1)).store.load (clock 3)).isOk ∧
      ((loadedAfter (started.take 1) (clock 3)).ensureDefaults (clock 3).utcNow.text).isOk := by
    decide +kernel
  obtain ⟨memory, s', hok⟩ := initExisting_ok (ok_getD hload.1) (ok_getD hload.2)
  -- the restart has saved the replayed state, or left the store as it was
  have hend : ∀ s', s' = (newStore.nexts (started.take 1)).store ∨
      s' = ((((loadedAfter (started.take 1) (clock 3)).ensureDefaults
        (clock 3).utcNow.text).toOption.getD {}).reconcileStateFromSessionLogs.1.refreshDispatchReadiness
          (clock 3)).1.save →
      (cycleTurns.foldl (Daemon.next oneCycle) { sys := ⟨s', []⟩, stage := .recovery }).stage = .returned ∧
      (cycleTurns.foldl (Daemon.next oneCycle)
        { sys := ⟨s', []⟩, stage := .recovery }).dispatched.length = 1 := by
    rintro s' (rfl | rfl) <;> decide +kernel
  obtain ⟨loaded, ensured, hl, he, hs'⟩ := initExisting_cases hok
  obtain rfl := Except.ok.inj ((ok_getD hload.1).symm.trans hl)
  obtain rfl := Except.ok.inj ((ok_getD hload.2).symm.trans he)
  obtain ⟨hstage, hlength⟩ := hend s' hs'.symm
  obtain ⟨tr, hrun⟩ := run_turns oneCycle { sys := newStore.nexts (started.take 1) }
    (.main (clock 3) 3 newStore.store :: cycleTurns) (by simp [cycleTurns])
  have hfirst : Daemon.next oneCycle { sys := newStore.nexts (started.take 1) }
      (.main (clock 3) 3 newStore.store) = { sys := ⟨s', []⟩, stage := .recovery } := by
    have hexec : Op.restart.exec (clock 3) (newStore.nexts (started.take 1)) = .ok ⟨s', []⟩ := by
      change (do return ⟨← Prod.snd <$> (newStore.nexts (started.take 1)).store.initExisting (clock 3),
        (newStore.nexts (started.take 1)).leases⟩ : Except Err Sys) = _
      rw [hok]
      rfl
    change Daemon.exec (clock 3) { sys := newStore.nexts (started.take 1) } .restart .recovery = _
    unfold Daemon.exec
    rw [hexec]
  rw [List.foldl_cons, hfirst] at hrun
  obtain ⟨-, -, -, hreturned⟩ := daemon_accounts_for_leases hinit hrun
  obtain ⟨hempty, hback, -⟩ := hreturned hstage
  exact ⟨tr, _, hrun, hstage, hempty, hlength, hback⟩

end Aize
