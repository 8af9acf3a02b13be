/-
  Shortest path lengths by a search with a queue.

  `explore` takes a vertex off the front of the queue and puts each of its successors at
  the end whose distance is new or has become shorter. On a queue that begins with one
  vertex no distance ever becomes shorter (`Frontier`), so every vertex is queued at most
  once, and the search ends (`explore_isSome`). What it has found is then exact
  (`explore_iff`).
-/
import Mathlib.Data.Finset.Card
import Mathlib.Data.Nat.Find
import Mathlib.Logic.Relation
import Mathlib.Tactic.Common
import Aize.Lib.Dict

namespace Distances

open Relation

variable {V : Type} {r : V → V → Prop} {x y z : V} {m n : ℕ}

/-! ## Path lengths -/

/-- There is a path of `n` steps from `x` to `y`. -/
inductive Path (r : V → V → Prop) (x : V) : ℕ → V → Prop
  | nil : Path r x 0 x
  | snoc {n : ℕ} {y z : V} (h : Path r x n y) (hstep : r y z) : Path r x (n + 1) z

/-- The length of a shortest path. -/
structure Shortest (r : V → V → Prop) (x : V) (n : ℕ) (y : V) : Prop where
  path : Path r x n y
  least : ∀ m, Path r x m y → n ≤ m

theorem Path.reaches (h : Path r x n y) : ReflTransGen r x y := by
  induction h with
  | nil => exact .refl
  | snoc _ hstep ih => exact ih.tail hstep

theorem exists_path (h : ReflTransGen r x y) : ∃ n, Path r x n y := by
  induction h with
  | refl => exact ⟨0, .nil⟩
  | tail _ hstep ih =>
    obtain ⟨n, hn⟩ := ih
    exact ⟨n + 1, hn.snoc hstep⟩

theorem Shortest.unique (h : Shortest r x m y) (h' : Shortest r x n y) : m = n :=
  le_antisymm (h.least n h'.path) (h'.least m h.path)

/-- A vertex that can be reached has a distance. -/
theorem exists_shortest (h : ReflTransGen r x y) : ∃ n, Shortest r x n y := by
  classical
  have hex := exists_path h
  exact ⟨Nat.find hex, Nat.find_spec hex, fun m hm => Nat.find_min' hex hm⟩

theorem Shortest.refl (r : V → V → Prop) (x : V) : Shortest r x 0 x :=
  ⟨.nil, fun _ _ => Nat.zero_le _⟩

/-- A first step and then a path. -/
theorem Path.cons (hstep : r x y) (h : Path r y n z) : Path r x (n + 1) z := by
  induction h with
  | nil => exact .snoc .nil hstep
  | snoc _ hlast ih => exact ih.snoc hlast

/-- The same path, backwards. -/
theorem Path.reverse (h : Path (fun a b => r b a) x n y) : Path r y n x := by
  induction h with
  | nil => exact .nil
  | snoc _ hstep ih => exact .cons hstep ih

theorem shortest_reverse : Shortest (fun a b => r b a) x n y ↔ Shortest r y n x := by
  constructor
  · rintro ⟨hp, hl⟩
    exact ⟨hp.reverse, fun m hm => hl m (Path.reverse (r := fun a b => r b a) hm)⟩
  · rintro ⟨hp, hl⟩
    exact ⟨Path.reverse (r := fun a b => r b a) hp, fun m hm => hl m hm.reverse⟩

/-! ## The search -/

variable [DecidableEq V]

/-- Look at one successor of a vertex, at distance `d` from the start. -/
def visit (d : ℕ) (s : Dict V ℕ × List V) (v : V) : Dict V ℕ × List V :=
  if ∃ n ∈ s.1.lookup v, n ≤ d then s else (s.1.insert v d, s.2 ++ [v])

/-- The search, for at most `fuel` rounds; `none` if it has not ended by then. -/
def explore (next : V → List V) : ℕ → Dict V ℕ → List V → Option (Dict V ℕ)
  | 0, _, _ => none
  | _ + 1, dist, [] => some dist
  | fuel + 1, dist, v :: queue =>
    let s := (next v).foldl (visit ((dist.lookup v).getD 0 + 1)) (dist, queue)
    explore next fuel s.1 s.2

variable {next : V → List V} {dist : Dict V ℕ} {queue : List V} {start v : V} {d : ℕ}

/-- The vertices that are new when the successors of a vertex are looked at. -/
structure Grows (d : ℕ) (dist : Dict V ℕ) (succs : List V) (dist' : Dict V ℕ) (new : List V) :
    Prop where
  lookup : ∀ v, dist'.lookup v = if v ∈ new then some d else dist.lookup v
  nodup : new.Nodup
  new : ∀ v ∈ new, v ∈ succs ∧ v ∉ dist
  seen : ∀ v ∈ succs, v ∈ dist'

variable (queue) in
/-- When no distance can become shorter, exactly the new successors are queued. -/
theorem foldl_visit (hle : ∀ v n, dist.lookup v = some n → n ≤ d) (succs : List V) :
    ∃ new, (succs.foldl (visit d) (dist, queue)).2 = queue ++ new ∧
      Grows d dist succs (succs.foldl (visit d) (dist, queue)).1 new := by
  induction succs using List.reverseRecOn with
  | nil =>
    refine ⟨[], by simp, ⟨fun v => by simp, List.nodup_nil, ?_, ?_⟩⟩
    · rintro v ⟨⟩
    · rintro v ⟨⟩
  | append_singleton succs w ih =>
    obtain ⟨new, hqueue, hgrows⟩ := ih
    rw [List.foldl_append, List.foldl_cons, List.foldl_nil]
    generalize succs.foldl (visit d) (dist, queue) = s at hqueue hgrows ⊢
    obtain ⟨dist', queue'⟩ := s
    dsimp only at hqueue hgrows
    subst hqueue
    have hle' : ∀ v n, dist'.lookup v = some n → n ≤ d := by
      intro v n hv
      rw [hgrows.lookup] at hv
      split_ifs at hv
      · cases hv
        exact le_rfl
      · exact hle v n hv
    by_cases hw : w ∈ dist'
    · obtain ⟨n, hn⟩ := Dict.mem_iff_lookup.1 hw
      have hvisit : visit d (dist', queue ++ new) w = (dist', queue ++ new) :=
        if_pos ⟨n, hn, hle' w n hn⟩
      rw [hvisit]
      refine ⟨new, rfl, hgrows.lookup, hgrows.nodup, fun v hv => ?_, fun v hv => ?_⟩
      · exact ⟨List.mem_append_left _ (hgrows.new v hv).1, (hgrows.new v hv).2⟩
      · rcases List.mem_append.1 hv with hv | hv
        · exact hgrows.seen v hv
        · rw [List.mem_singleton.1 hv]
          exact hw
    · have hnone : dist'.lookup w = none := AList.lookup_eq_none.2 hw
      have hvisit : visit d (dist', queue ++ new) w =
          (dist'.insert w d, queue ++ new ++ [w]) := by
        refine if_neg ?_
        rintro ⟨n, hn, -⟩
        rw [hnone] at hn
        cases hn
      have hwnew : w ∉ new := by
        intro hmem
        have hlook := hgrows.lookup w
        rw [if_pos hmem, hnone] at hlook
        cases hlook
      have hwdist : w ∉ dist := by
        intro hmem
        obtain ⟨n, hn⟩ := Dict.mem_iff_lookup.1 hmem
        have hlook := hgrows.lookup w
        rw [if_neg hwnew, hnone, hn] at hlook
        cases hlook
      rw [hvisit]
      refine ⟨new ++ [w], by simp, fun v => ?_, ?_, fun v hv => ?_, fun v hv => ?_⟩
      · dsimp only
        rw [Dict.lookup_insert_of, hgrows.lookup]
        by_cases hvw : v = w
        · simp [hvw]
        · simp [hvw]
      · rw [List.nodup_append]
        refine ⟨hgrows.nodup, List.nodup_singleton w, fun a ha b hb => ?_⟩
        rw [List.mem_singleton.1 hb]
        rintro rfl
        exact hwnew ha
      · rcases List.mem_append.1 hv with hv | hv
        · exact ⟨List.mem_append_left _ (hgrows.new v hv).1, (hgrows.new v hv).2⟩
        · rw [List.mem_singleton.1 hv]
          exact ⟨by simp, hwdist⟩
      · dsimp only
        rw [AList.mem_insert]
        rcases List.mem_append.1 hv with hv | hv
        · exact .inr (hgrows.seen v hv)
        · exact .inl (List.mem_singleton.1 hv)

/-- What holds after every round. The queue is in the order of the distances, and no
    vertex is more than one step farther than a vertex of the queue. -/
structure Frontier (next : V → List V) (start : V) (dist : Dict V ℕ) (queue : List V) : Prop where
  origin : dist.lookup start = some 0
  path : ∀ v n, dist.lookup v = some n → Path (fun x y => y ∈ next x) start n v
  mem : ∀ v ∈ queue, v ∈ dist
  sorted : queue.Pairwise fun u v => ∀ m n, dist.lookup u = some m → dist.lookup v = some n → m ≤ n
  near : ∀ v ∈ queue, ∀ n, dist.lookup v = some n → ∀ u m, dist.lookup u = some m → m ≤ n + 1
  done : ∀ v n, dist.lookup v = some n → v ∉ queue → ∀ w ∈ next v, ∃ k,
    dist.lookup w = some k ∧ k ≤ n + 1

theorem Frontier.init (next : V → List V) (start : V) :
    Frontier next start ((∅ : Dict V ℕ).insert start 0) [start] := by
  have hlook : ∀ v n, ((∅ : Dict V ℕ).insert start 0).lookup v = some n → v = start ∧ n = 0 := by
    intro v n hv
    rw [Dict.lookup_insert_of] at hv
    split_ifs at hv with h
    · cases hv
      exact ⟨h, rfl⟩
    · cases hv
  refine ⟨AList.lookup_insert _, fun v n hv => ?_, fun v hv => ?_, List.pairwise_singleton _ _,
    fun v _ n hv u m hu => ?_, fun v n hv hq => ?_⟩
  · obtain ⟨rfl, rfl⟩ := hlook v n hv
    exact .nil
  · rw [List.mem_singleton.1 hv]
    exact (AList.mem_insert _).2 (.inl rfl)
  · rw [(hlook u m hu).2]
    exact Nat.zero_le _
  · exact absurd (List.mem_singleton.2 (hlook v n hv).1) hq

/-- **One round.** -/
theorem Frontier.round (h : Frontier next start dist (v :: queue)) :
    ∃ new, Frontier next start
        ((next v).foldl (visit ((dist.lookup v).getD 0 + 1)) (dist, queue)).1 (queue ++ new) ∧
      ((next v).foldl (visit ((dist.lookup v).getD 0 + 1)) (dist, queue)).2 = queue ++ new ∧
      Grows ((dist.lookup v).getD 0 + 1) dist (next v)
        ((next v).foldl (visit ((dist.lookup v).getD 0 + 1)) (dist, queue)).1 new := by
  obtain ⟨d, hd⟩ := Dict.mem_iff_lookup.1 (h.mem v List.mem_cons_self)
  rw [hd, Option.getD_some]
  obtain ⟨new, hqueue, hgrows⟩ := foldl_visit queue
    (fun u m hu => h.near v List.mem_cons_self d hd u m hu) (next v)
  refine ⟨new, ?_, hqueue, hgrows⟩
  generalize ((next v).foldl (visit (d + 1)) (dist, queue)).1 = dist' at hgrows
  obtain ⟨hfirst, hsorted⟩ := List.pairwise_cons.1 h.sorted
  -- The old vertices keep their distances, and the new ones are at the end.
  have hold : ∀ u m, dist.lookup u = some m → dist'.lookup u = some m := by
    intro u m hu
    rw [hgrows.lookup, if_neg]
    · exact hu
    · intro hnew
      exact (hgrows.new u hnew).2 (Dict.mem_iff_lookup.2 ⟨m, hu⟩)
  have hnew : ∀ u ∈ new, dist'.lookup u = some (d + 1) := fun u hu => by
    rw [hgrows.lookup, if_pos hu]
  have hcases : ∀ u m, dist'.lookup u = some m →
      u ∈ new ∧ m = d + 1 ∨ u ∉ new ∧ dist.lookup u = some m := by
    intro u m hu
    rw [hgrows.lookup] at hu
    split_ifs at hu with hmem
    · cases hu
      exact .inl ⟨hmem, rfl⟩
    · exact .inr ⟨hmem, hu⟩
  have hnear : ∀ u m, dist'.lookup u = some m → m ≤ d + 1 := by
    intro u m hu
    rcases hcases u m hu with ⟨-, rfl⟩ | ⟨-, hu⟩
    · exact le_rfl
    · exact h.near v List.mem_cons_self d hd u m hu
  have hqueued : ∀ u ∈ queue, ∀ m, dist.lookup u = some m → d ≤ m := fun u hu m hm =>
    hfirst u hu d m hd hm
  have hmem : ∀ u ∈ queue, ∃ m, dist.lookup u = some m := fun u hu =>
    Dict.mem_iff_lookup.1 (h.mem u (List.mem_cons_of_mem v hu))
  refine ⟨hold _ _ h.origin, fun u m hu => ?_, fun u hu => ?_, ?_, fun u hu n hn w m hw => ?_,
    fun u n hu hq w hw => ?_⟩
  · rcases hcases u m hu with ⟨hun, rfl⟩ | ⟨-, hu⟩
    · exact (h.path v d hd).snoc (hgrows.new u hun).1
    · exact h.path u m hu
  · rcases List.mem_append.1 hu with hu | hu
    · obtain ⟨m, hm⟩ := hmem u hu
      exact Dict.mem_iff_lookup.2 ⟨m, hold u m hm⟩
    · exact Dict.mem_iff_lookup.2 ⟨_, hnew u hu⟩
  · refine List.pairwise_append.2 ⟨?_, ?_, fun u hu w hw m n hm hn => ?_⟩
    · refine hsorted.imp_of_mem fun hu hw hle m n hm hn => ?_
      obtain ⟨m', hm'⟩ := hmem _ hu
      obtain ⟨n', hn'⟩ := hmem _ hw
      rw [hold _ _ hm'] at hm
      rw [hold _ _ hn'] at hn
      cases hm
      cases hn
      exact hle _ _ hm' hn'
    · refine List.pairwise_of_forall_mem_list fun u hu w hw m n hm hn => ?_
      rw [hnew u hu] at hm
      rw [hnew w hw] at hn
      cases hm
      cases hn
      exact le_rfl
    · rw [hnew w hw] at hn
      cases hn
      exact hnear u m hm
  · rcases List.mem_append.1 hu with hu | hu
    · obtain ⟨n', hn'⟩ := hmem u hu
      rw [hold u n' hn'] at hn
      cases hn
      have := hqueued u hu n hn'
      have := hnear w m hw
      omega
    · rw [hnew u hu] at hn
      cases hn
      have := hnear w m hw
      omega
  · rw [List.mem_append, not_or] at hq
    rcases hcases u n hu with ⟨hu, -⟩ | ⟨-, hu⟩
    · exact absurd hu hq.2
    · by_cases huv : u = v
      · subst huv
        rw [hd] at hu
        cases hu
        obtain ⟨k, hk⟩ := Dict.mem_iff_lookup.1 (hgrows.seen w hw)
        exact ⟨k, hk, hnear w k hk⟩
      · have hnot : u ∉ v :: queue := by
          rw [List.mem_cons, not_or]
          exact ⟨huv, hq.1⟩
        obtain ⟨k, hk, hle⟩ := h.done u n hu hnot w hw
        exact ⟨k, hold w k hk, hle⟩

/-- **The search ends**, and the invariant holds at its end: every round takes a vertex off
    the queue, and every vertex is put there at most once. -/
theorem explore_ends {T : Finset V} (hT : ∀ x, ∀ y ∈ next x, y ∈ T) : ∀ {fuel : ℕ}
    {dist : Dict V ℕ} {queue : List V}, Frontier next start dist queue →
      queue.length + (T \ dist.keys.toFinset).card < fuel →
        ∃ dist', explore next fuel dist queue = some dist' ∧ Frontier next start dist' [] := by
  intro fuel
  induction fuel with
  | zero => intro _ _ _ h; omega
  | succ fuel ih =>
    intro dist queue h hfuel
    cases queue with
    | nil => exact ⟨dist, rfl, h⟩
    | cons v queue =>
      obtain ⟨new, hround, hqueue, hgrows⟩ := h.round
      unfold explore
      dsimp only
      rw [hqueue]
      refine ih hround ?_
      generalize ((next v).foldl (visit ((dist.lookup v).getD 0 + 1)) (dist, queue)).1 = dist'
        at hgrows
      have hmem : ∀ u, u ∈ dist' ↔ u ∈ new ∨ u ∈ dist := by
        intro u
        rw [Dict.mem_iff_lookup, hgrows.lookup, Dict.mem_iff_lookup]
        by_cases hu : u ∈ new
        · simp [hu]
        · simp [hu]
      have hsub : new.toFinset ⊆ T \ dist.keys.toFinset := by
        intro u hu
        rw [List.mem_toFinset] at hu
        rw [Finset.mem_sdiff, List.mem_toFinset, ← AList.mem_keys]
        exact ⟨hT v u (hgrows.new u hu).1, (hgrows.new u hu).2⟩
      have hdiff : T \ dist'.keys.toFinset = (T \ dist.keys.toFinset) \ new.toFinset := by
        ext u
        have := hmem u
        simp only [Finset.mem_sdiff, List.mem_toFinset, ← AList.mem_keys]
        tauto
      have hcard : (T \ dist'.keys.toFinset).card + new.length =
          (T \ dist.keys.toFinset).card := by
        rw [hdiff, ← List.toFinset_card_of_nodup hgrows.nodup]
        exact Finset.card_sdiff_add_card_eq_card hsub
      rw [List.length_append]
      rw [List.length_cons] at hfuel
      omega

/-- **What the search has found** at its end are the shortest path lengths. -/
theorem Frontier.exact (h : Frontier next start dist []) :
    dist.lookup v = some n ↔ Shortest (fun x y => y ∈ next x) start n v := by
  have hbound : ∀ {m : ℕ} {u : V}, Path (fun x y => y ∈ next x) start m u →
      ∃ k, dist.lookup u = some k ∧ k ≤ m := by
    intro m u hp
    induction hp with
    | nil => exact ⟨0, h.origin, le_rfl⟩
    | snoc _ hstep ih =>
      obtain ⟨k, hk, hle⟩ := ih
      obtain ⟨k', hk', hle'⟩ := h.done _ k hk List.not_mem_nil _ hstep
      exact ⟨k', hk', by omega⟩
  constructor
  · intro hv
    refine ⟨h.path v n hv, fun m hm => ?_⟩
    obtain ⟨k, hk, hle⟩ := hbound hm
    rw [hv] at hk
    cases hk
    exact hle
  · intro hs
    obtain ⟨k, hk, hle⟩ := hbound hs.path
    rw [hk, le_antisymm hle (hs.least k (h.path v k hk))]

/-- More rounds do not change the result. -/
theorem explore_le : ∀ {fuel more : ℕ} {dist : Dict V ℕ} {queue : List V} {dist' : Dict V ℕ},
    explore next fuel dist queue = some dist' → fuel ≤ more →
      explore next more dist queue = some dist' := by
  intro fuel
  induction fuel with
  | zero => intro more dist queue dist' h; cases h
  | succ fuel ih =>
    intro more dist queue dist' h hle
    obtain ⟨more, rfl⟩ := Nat.exists_eq_add_of_le' (Nat.le_of_lt_succ (by omega : 1 < more + 1))
    cases queue with
    | nil => exact h
    | cons v queue =>
      unfold explore at h ⊢
      exact ih h (by omega)

/-- **The search is exact.** With more rounds than there are targets it ends, and assigns to
    the vertices that can be reached, and to no others, the length of a shortest path. -/
theorem explore_exact {T : Finset V} (hT : ∀ x, ∀ y ∈ next x, y ∈ T) (start : V) :
    ∃ dist, (∀ fuel, T.card + 1 < fuel →
        explore next fuel ((∅ : Dict V ℕ).insert start 0) [start] = some dist) ∧
      ∀ v n, dist.lookup v = some n ↔ Shortest (fun x y => y ∈ next x) start n v := by
  have hends : ∀ fuel, T.card + 1 < fuel → ∃ dist,
      explore next fuel ((∅ : Dict V ℕ).insert start 0) [start] = some dist ∧
        Frontier next start dist [] := by
    intro fuel hfuel
    refine explore_ends hT (.init next start) ?_
    have := Finset.card_le_card (Finset.sdiff_subset (s := T)
      (t := ((∅ : Dict V ℕ).insert start 0).keys.toFinset))
    rw [List.length_singleton]
    omega
  obtain ⟨dist, hdist, hfrontier⟩ := hends (T.card + 2) (by omega)
  refine ⟨dist, fun fuel hfuel => ?_, fun v n => hfrontier.exact⟩
  exact explore_le hdist (by omega)

end Distances
