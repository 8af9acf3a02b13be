/-
  What the values of a dictionary come to, up to their order.

  A change of one key changes the list of the values in one place: `vals_insert`,
  `vals_perm_erase` and `vals_modify_perm` say where, so that what the values contribute to a
  balance can be followed through any change.
-/
import Mathlib.Data.List.Perm.Basic
import Aize.Lib.Dict

namespace Dict

variable {K V : Type} [DecidableEq K]

theorem mem_entries_iff {d : Dict K V} {e : Sigma fun _ : K => V} :
    e ∈ d.entries ↔ d.lookup e.1 = some e.2 := by
  obtain ⟨k, v⟩ := e
  rw [← AList.mem_lookup_iff, Option.mem_def]

/-- Dictionaries with the same items have the same values. -/
theorem vals_perm {d d' : Dict K V} (h : ∀ k, d'.lookup k = d.lookup k) :
    (vals d').Perm (vals d) := by
  refine List.Perm.map _ ((List.perm_ext_iff_of_nodup (entries_nodup d') (entries_nodup d)).2 ?_)
  intro e
  rw [mem_entries_iff, mem_entries_iff, h]

theorem vals_insert {d : Dict K V} {k : K} (h : k ∉ d) (v : V) : vals (d.insert k v) = v :: vals d := by
  unfold vals
  rw [AList.entries_insert_of_notMem h]
  rfl

/-- The value at `k`, and the others. -/
theorem vals_perm_erase {d : Dict K V} {k : K} {v : V} (h : d.lookup k = some v) :
    (vals d).Perm (v :: vals (d.erase k)) := by
  have hk : k ∉ d.erase k := fun hk => (AList.mem_erase.1 hk).1 rfl
  rw [← vals_insert hk]
  refine vals_perm fun k' => ?_
  rw [lookup_insert_of, lookup_erase_of]
  split_ifs with hk'
  · rw [hk', h]
  · rfl

theorem vals_modify_perm {d : Dict K V} {k : K} {v : V} (f : V → V) (h : d.lookup k = some v) :
    (vals (modify k f d)).Perm (f v :: vals (d.erase k)) := by
  have hf : (modify k f d).lookup k = some (f v) := by rw [lookup_modify_self, h, Option.map_some]
  refine (vals_perm_erase hf).trans (.cons _ (vals_perm fun k' => ?_))
  rw [lookup_erase_of, lookup_erase_of]
  split_ifs with hk
  · rfl
  · exact lookup_modify_ne d f hk

/-- The items whose value passes a test. -/
theorem vals_perm_filter {d d' : Dict K V} {p : V → Bool}
    (h : ∀ k, d'.lookup k = (d.lookup k).filter p) : (vals d').Perm ((vals d).filter p) := by
  unfold vals
  rw [List.filter_map]
  refine List.Perm.map _ ((List.perm_ext_iff_of_nodup (entries_nodup d')
    ((entries_nodup d).filter _)).2 fun e => ?_)
  rw [mem_entries_iff, List.mem_filter, mem_entries_iff, h, Option.filter_eq_some_iff]
  rfl

/-- What one value contributes before and after its change. -/
theorem filterMap_modify_perm {β : Type} (F : V → Option β) {d : Dict K V} {k : K} {v : V} (w : V)
    (h : d.lookup k = some v) :
    ((F v).toList ++ (vals (modify k (fun _ => w) d)).filterMap F).Perm
      ((F w).toList ++ (vals d).filterMap F) := by
  have hcons : ∀ (x : V) (l : List V), (x :: l).filterMap F = (F x).toList ++ l.filterMap F := by
    intro x l
    cases hx : F x with
    | none => rw [List.filterMap_cons_none hx]; rfl
    | some b => rw [List.filterMap_cons_some hx]; rfl
  have h₁ := (vals_modify_perm (fun _ => w) h).filterMap F
  have h₂ := (vals_perm_erase h).filterMap F
  rw [hcons] at h₁ h₂
  refine (h₁.append_left _).trans (.trans ?_ (h₂.symm.append_left _))
  rw [← List.append_assoc, ← List.append_assoc]
  exact List.perm_append_comm.append_right _

end Dict
