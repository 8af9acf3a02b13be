/-
  Dictionaries: association lists with unique keys (Mathlib's `AList`), with
  the operations of a mutable dictionary: `modify` one value, list the `vals`.

  A key is looked up with `lookup`; membership `k ∈ d` means that `k` is a key.
  Every statement about a dictionary below is about `lookup`, so that the
  order in which the items are kept never enters a proof.
-/
import Mathlib.Data.List.AList

/-- A dictionary from `K` to `V`. -/
abbrev Dict (K V : Type) : Type := AList fun _ : K => V

namespace Dict

variable {K V : Type}

/-- The values, in the order of the items. -/
def vals (d : Dict K V) : List V := d.entries.map Sigma.snd

/-- Apply `f` to every value. -/
def mapVals (f : K → V → V) (d : Dict K V) : Dict K V :=
  ⟨d.entries.map fun e => ⟨e.1, f e.1 e.2⟩, by
    have h : (d.entries.map fun e => (⟨e.1, f e.1 e.2⟩ : Sigma fun _ : K => V)).keys =
        d.entries.keys := by simp [List.keys]
    rw [List.NodupKeys, h]; exact d.nodupKeys⟩

@[simp] theorem keys_mapVals (d : Dict K V) (f : K → V → V) : (mapVals f d).keys = d.keys := by
  simp [mapVals, AList.keys, List.keys]

section
variable [DecidableEq K]

/-- Replace the value at `k`, if there is one; every item keeps its place. -/
def modify (k : K) (f : V → V) (d : Dict K V) : Dict K V :=
  mapVals (fun k' v => if k' = k then f v else v) d

theorem mem_vals {d : Dict K V} {v : V} : v ∈ vals d ↔ ∃ k, d.lookup k = some v := by
  simp only [vals, List.mem_map]
  constructor
  · rintro ⟨⟨k, w⟩, h, rfl⟩
    exact ⟨k, by simpa [← AList.mem_lookup_iff] using h⟩
  · rintro ⟨k, h⟩
    exact ⟨⟨k, v⟩, by simpa [← AList.mem_lookup_iff] using h, rfl⟩

theorem lookup_insert_of (d : Dict K V) (k k' : K) (v : V) :
    (d.insert k v).lookup k' = if k' = k then some v else d.lookup k' := by
  split_ifs with h
  · subst h; exact AList.lookup_insert d
  · exact AList.lookup_insert_ne h

theorem lookup_mapVals (d : Dict K V) (f : K → V → V) (k : K) :
    (mapVals f d).lookup k = (d.lookup k).map (f k) := by
  change List.dlookup k (d.entries.map fun e => (⟨e.1, f e.1 e.2⟩ : Sigma fun _ : K => V)) =
    (List.dlookup k d.entries).map (f k)
  induction d.entries with
  | nil => rfl
  | cons e l ih =>
    obtain ⟨a, v⟩ := e
    by_cases hk : k = a
    · subst hk; simp [List.dlookup_cons_eq]
    · rw [List.map_cons, List.dlookup_cons_ne _ _ hk, List.dlookup_cons_ne _ _ hk]
      exact ih

theorem lookup_erase_of (d : Dict K V) (k k' : K) :
    (d.erase k).lookup k' = if k' = k then none else d.lookup k' := by
  split_ifs with h
  · subst h; exact AList.lookup_erase _ d
  · exact AList.lookup_erase_ne h

theorem lookup_modify (d : Dict K V) (k k' : K) (f : V → V) :
    (modify k f d).lookup k' = if k' = k then (d.lookup k).map f else d.lookup k' := by
  rw [modify, lookup_mapVals]
  split_ifs with h
  · subst h; rfl
  · exact Option.map_id'

@[simp] theorem lookup_modify_self (d : Dict K V) (k : K) (f : V → V) :
    (modify k f d).lookup k = (d.lookup k).map f := by simp [lookup_modify]

theorem lookup_modify_ne (d : Dict K V) {k k' : K} (f : V → V) (h : k' ≠ k) :
    (modify k f d).lookup k' = d.lookup k' := by simp [lookup_modify, h]

theorem mem_iff_lookup {d : Dict K V} {k : K} : k ∈ d ↔ ∃ v, d.lookup k = some v := by
  rw [← AList.lookup_isSome, Option.isSome_iff_exists]

@[simp] theorem keys_modify (d : Dict K V) (k : K) (f : V → V) : (modify k f d).keys = d.keys :=
  keys_mapVals d _

@[simp] theorem mem_modify {d : Dict K V} {k k' : K} {f : V → V} : k' ∈ modify k f d ↔ k' ∈ d := by
  simp only [mem_iff_lookup, lookup_modify]
  split_ifs with h
  · subst h; cases d.lookup k' <;> simp
  · rfl

/-- Only what `f` does to the value at `k` matters. -/
theorem modify_congr {d : Dict K V} {k : K} {v : V} {f g : V → V} (h : d.lookup k = some v)
    (hfg : f v = g v) : modify k f d = modify k g d := by
  refine AList.ext (List.map_congr_left fun e he => ?_)
  obtain ⟨k', w⟩ := e
  by_cases hk : k' = k
  · subst hk
    have hw : d.lookup k' = some w := AList.mem_lookup_iff.2 he
    rw [h] at hw
    cases hw
    simp [hfg]
  · simp [hk]

/-- Modifying some keys, one after the other, by a function that need not be applied
    twice. -/
theorem lookup_foldl_modify {A : Type} {f : V → V} (hf : ∀ v, f (f v) = f v) (key : A → K)
    (l : List A) (d : Dict K V) (k : K) :
    (l.foldl (fun d a => modify (key a) f d) d).lookup k =
      if k ∈ l.map key then (d.lookup k).map f else d.lookup k := by
  induction l generalizing d with
  | nil => simp
  | cons a l ih =>
    rw [List.foldl_cons, ih, lookup_modify]
    by_cases hk : k = key a
    · subst hk
      cases d.lookup (key a) <;> simp [hf]
    · simp [hk]

/-- A property of every value survives `modify`, if it survives `f`. -/
theorem forall_lookup_modify {d : Dict K V} {P : K → V → Prop} {k : K} {f : V → V}
    (h : ∀ k v, d.lookup k = some v → P k v) (hf : ∀ v, d.lookup k = some v → P k (f v)) :
    ∀ k' v, (modify k f d).lookup k' = some v → P k' v := by
  intro k' v hv
  rw [lookup_modify] at hv
  split_ifs at hv with hk
  · subst hk
    obtain ⟨w, hw, rfl⟩ := Option.map_eq_some_iff.1 hv
    exact hf w hw
  · exact h k' v hv

/-- A property of every value survives `insert`, if the new value has it. -/
theorem forall_lookup_insert {d : Dict K V} {P : K → V → Prop} {k : K} {v : V}
    (h : ∀ k v, d.lookup k = some v → P k v) (hv : P k v) :
    ∀ k' w, (d.insert k v).lookup k' = some w → P k' w := by
  intro k' w hw
  rw [lookup_insert_of] at hw
  split_ifs at hw with hk
  · subst hk; cases hw; exact hv
  · exact h k' w hw

end

/-- The keys, with their values, have no repetition. -/
theorem entries_nodup (d : Dict K V) : d.entries.Nodup :=
  List.NodupKeys.nodup d.nodupKeys

/-- The items, each with its key. -/
def items (d : Dict K V) : List (K × V) := d.entries.map fun e => (e.1, e.2)

theorem mem_items [DecidableEq K] {d : Dict K V} {x : K × V} :
    x ∈ d.items ↔ d.lookup x.1 = some x.2 := by
  obtain ⟨k, v⟩ := x
  simp only [items, List.mem_map]
  constructor
  · rintro ⟨⟨k', v'⟩, h, heq⟩
    cases heq
    simpa [← AList.mem_lookup_iff] using h
  · intro h
    exact ⟨⟨k, v⟩, by simpa [← AList.mem_lookup_iff] using h, rfl⟩

theorem nodup_items (d : Dict K V) : d.items.Nodup := by
  refine List.Nodup.map ?_ d.entries_nodup
  rintro ⟨a, b⟩ ⟨a', b'⟩ h
  cases h
  rfl

end Dict

/-- A list without repetition whose elements are all `a` has just that one. -/
theorem List.Nodup.eq_singleton {α : Type} {l : List α} {a : α} (h : l.Nodup) (ha : a ∈ l)
    (hall : ∀ x ∈ l, x = a) : l = [a] := by
  cases l with
  | nil => cases ha
  | cons b tl =>
    have hb : b = a := hall b List.mem_cons_self
    subst hb
    cases tl with
    | nil => rfl
    | cons c tl =>
      have hc : c = b := hall c (by simp)
      exact absurd (hc ▸ List.mem_cons_self) (List.nodup_cons.1 h).1
