/-
  Reading a part of a SessionLog (`kernel/storage.py`: `read_session_log`;
  `kernel/session_log.py`: the readers that merge what is on disk with the
  entries that are pending in memory).

  A range read opens only the segments that the index gives for the range
  (`Clean.read_range`). A reader takes the entries from a range read and the
  pending entries, or, once `_session_log_entries` has been called in the same
  operation, from the cached whole log: both give the same
  (`reads_agree`).
-/
import Aize.Appends

namespace Aize

open LogFile

/-- What the readers use of an entry, apart from its `seq` and `kind`: `event` if it is an
    object, its `target_roles` if they are a list, and `log_id`. -/
structure Events (E V : Type) where
  event : E → Option V
  targetRoles : V → Option (List String)
  logId : E → String

/-- What an operation keeps of one SessionLog: `session_logs[session_id]`, and whether
    the Session is one of `_session_log_full_ids`. -/
structure LogCache (E : Type) where
  entries : List E
  full : Bool

/-- A signal as `_system_signals_for_log_range` returns it: the event with `log_id` and
    `seq`. -/
structure ReadSignal (V : Type) where
  event : V
  logId : String
  seq : ℤ

namespace Json

variable {E V : Type} (J : Json E) (X : Events E V) (sessionId : String)

/-- `by_seq` in the order of its keys: of entries with one number, the last one. -/
def mergeBySeq (entries : List E) : List E :=
  let bySeq : Dict ℤ E := entries.foldl (fun d e => d.insert (J.seq e) e) ∅
  (bySeq.keys.mergeSort (· ≤ ·)).filterMap bySeq.lookup

/-- `_session_log_entries`: the cache after it. -/
def sessionLogEntries (d : SessionDir) (c : LogCache E) : Except Err (LogCache E) :=
  if c.full then .ok c
  else do
    let persisted ← J.readSessionLog sessionId none none d
    return { entries := J.mergeBySeq (persisted ++ c.entries), full := true }

/-- `_session_log_after_cursor` -/
def sessionLogAfterCursor (d : SessionDir) (c : LogCache E) (cursor : ℤ) : Except Err (List E) := do
  let entries ← if c.full then .ok c.entries else
    (· ++ c.entries.filter fun e => decide (cursor < J.seq e)) <$>
      J.readSessionLog sessionId (some (cursor + 1)) none d
  return entries.filter fun e => decide (cursor < J.seq e)

/-- `_latest_session_log_seq` -/
def latestLogSeq (d : SessionDir) (c : LogCache E) : ℤ :=
  max d.latestSessionLogSeq ((c.entries.getLast?.map J.seq).getD 0)

/-- `_system_signals_for_log_range`; no filter is an empty `target_filter`. -/
def systemSignalsForLogRange (d : SessionDir) (c : LogCache E) (fromSeq toSeq : ℤ)
    (targetFilter : Option String) : Except Err (List (ReadSignal V)) := do
  let entries ← if c.full then .ok c.entries else
    (· ++ c.entries) <$> J.readSessionLog sessionId (some fromSeq) (some toSeq) d
  return entries.filterMap fun e =>
    if J.seq e < fromSeq ∨ J.seq e > toSeq ∨ J.kind e ≠ "SystemSignal" then none
    else do
      let event ← X.event e
      if targetFilter.all fun role => (X.targetRoles event).all (role ∈ ·) then
        some ⟨event, X.logId e, J.seq e⟩
      else none

variable {J X sessionId} {d : SessionDir} {fs : List (LogFile E)}

/-! ## Ranges of numbered records -/

theorem Numbered.le_seq {k : ℤ} {es : List E} (h : J.Numbered sessionId k es) :
    ∀ e ∈ es, k ≤ J.seq e ∧ J.seq e ≤ k + es.length - 1 := by
  intro e he
  obtain ⟨i, hi, rfl⟩ := List.getElem_of_mem he
  rw [h.seq_getElem hi]
  omega

/-- Cutting off the end leaves the records numbered. -/
theorem Numbered.filter_from {k : ℤ} {es : List E} {fromSeq toSeq : Option ℤ}
    (h : J.Numbered sessionId k es) (hk : ∀ n ∈ fromSeq, n ≤ k) :
    J.Numbered sessionId k (es.filter (J.inRange fromSeq toSeq)) := by
  induction es generalizing k with
  | nil => trivial
  | cons e es ih =>
    have hrest := ih h.2.2 fun n hn => (hk n hn).trans (by omega)
    by_cases hin : J.inRange fromSeq toSeq e = true
    · rw [List.filter_cons_of_pos hin]
      exact ⟨h.1, h.2.1, hrest⟩
    · -- the record is beyond the range, and so are those after it
      have hnone : es.filter (J.inRange fromSeq toSeq) = [] := by
        rw [List.filter_eq_nil_iff]
        intro e' he' hin'
        have hseq := h.2.1
        have hle := (h.2.2.le_seq e' he').1
        simp only [inRange, Bool.and_eq_true, Option.all_eq_true, decide_eq_true_eq] at hin hin'
        exact hin ⟨fun n hn => hseq ▸ hk n hn,
          fun n hn => (by omega : J.seq e ≤ J.seq e').trans (hin'.2 n hn)⟩
      rw [List.filter_cons_of_neg hin, hnone]
      trivial

/-- **A range of numbered records is numbered.** -/
theorem Numbered.filter_range {k : ℤ} {es : List E} (h : J.Numbered sessionId k es)
    (fromSeq toSeq : Option ℤ) :
    ∃ j, J.Numbered sessionId j (es.filter (J.inRange fromSeq toSeq)) := by
  induction es generalizing k with
  | nil => exact ⟨0, trivial⟩
  | cons e es ih =>
    by_cases hin : J.inRange fromSeq toSeq e = true
    · refine ⟨k, h.filter_from fun n hn => ?_⟩
      simp only [inRange, Bool.and_eq_true, Option.all_eq_true, decide_eq_true_eq] at hin
      exact h.2.1 ▸ hin.1 n hn
    · rw [List.filter_cons_of_neg hin]
      exact ih h.2.2

/-! ## Range reads -/

/-- The segments that the index gives for a range hold all its records. -/
theorem flatMap_range (fromSeq toSeq : Option ℤ) {k : ℤ} (h : J.Numbered sessionId k (log fs))
    (file : String → List E) (hfile : ∀ f ∈ fs, file f.path = f.entries) :
    (((J.segmentsFrom k fs).filter (SegmentIndex.selected fromSeq toSeq)).map
      SegmentIndex.path).flatMap (fun path => (file path).filter (J.inRange fromSeq toSeq)) =
    (log fs).filter (J.inRange fromSeq toSeq) := by
  induction fs generalizing k with
  | nil => rfl
  | cons f fs ih =>
    rw [log_cons, numbered_append] at h
    have hrest := ih h.2 fun g hg => hfile g (List.mem_cons_of_mem _ hg)
    rw [segmentsFrom, log_cons, List.filter_append]
    by_cases hin : SegmentIndex.selected fromSeq toSeq ⟨f.path, k, k + f.entries.length - 1,
        f.entries.length, (J.frames f.entries).length⟩ = true
    · rw [List.filter_cons_of_pos hin, List.map_cons, List.flatMap_cons, hrest,
        hfile f List.mem_cons_self]
    · have hnone : f.entries.filter (J.inRange fromSeq toSeq) = [] := by
        rw [List.filter_eq_nil_iff]
        intro e he hin'
        have hbound := h.1.le_seq e he
        simp only [SegmentIndex.selected, inRange, Bool.and_eq_true, Option.all_eq_true, decide_eq_true_eq] at hin hin'
        exact hin ⟨fun n hn => (hin'.1 n hn).trans hbound.2,
          fun n hn => hbound.1.trans (hin'.2 n hn)⟩
      rw [List.filter_cons_of_neg hin, hnone, List.nil_append, hrest]

/-- A range read through the index. -/
theorem Clean.read_selected (h : J.Clean sessionId d fs) {fromSeq toSeq : Option ℤ}
    (hindex : d.index = some (J.indexOf sessionId fs)) (hrange : ¬(fromSeq = none ∧ toSeq = none)) :
    J.readSessionLog sessionId fromSeq toSeq d = .ok ((log fs).filter (J.inRange fromSeq toSeq)) := by
  unfold readSessionLog SessionDir.segmentPathsForRange
  rw [hindex]
  simp only
  rw [if_neg hrange]
  have hscan := flatMap_range fromSeq toSeq h.laid.numbered
    (fun path => (J.scanSegment (d.file path)).1) fun f hf => h.laid.scan_file hf
  unfold indexOf
  rw [hscan]
  obtain ⟨j, hj⟩ := h.laid.numbered.filter_range fromSeq toSeq
  exact validated_numbered hj

/-- **A range read is the range of the log.** -/
theorem Clean.read_range (h : J.Clean sessionId d fs) (hs : InOrder fs) (fromSeq toSeq : Option ℤ) :
    J.readSessionLog sessionId fromSeq toSeq d = .ok ((log fs).filter (J.inRange fromSeq toSeq)) := by
  by_cases hrange : fromSeq = none ∧ toSeq = none
  · obtain ⟨rfl, rfl⟩ := hrange
    rw [h.laid.read hs, List.filter_eq_self.2 fun e _ => J.inRange_none e]
  · rcases h.index with hindex | ⟨hindex, rfl⟩
    · exact h.read_selected hindex hrange
    · have hpaths : d.segmentPaths = [] := h.laid.segmentPaths hs
      unfold readSessionLog SessionDir.segmentPathsForRange
      rw [hindex]
      simp only
      rw [hpaths]
      rfl

theorem Clean.latest (h : J.Clean sessionId d fs) : d.latestSessionLogSeq = (log fs).length := by
  unfold SessionDir.latestSessionLogSeq
  rcases h.index with hindex | ⟨hindex, rfl⟩
  · rw [hindex]; rfl
  · rw [hindex]; rfl

/-! ## Merging by number -/

theorem lookup_foldl_insert {es : List E} (h : (es.map J.seq).Nodup) (d : Dict ℤ E) (n : ℤ) :
    (es.foldl (fun d e => d.insert (J.seq e) e) d).lookup n =
      ((es.find? fun e => J.seq e = n).map some).getD (d.lookup n) := by
  induction es generalizing d with
  | nil => rfl
  | cons e es ih =>
    rw [List.map_cons, List.nodup_cons] at h
    rw [List.foldl_cons, ih h.2, Dict.lookup_insert_of]
    by_cases hn : n = J.seq e
    · have hrest : (es.find? fun e => J.seq e = n) = none := by
        rw [List.find?_eq_none]
        intro e' he' heq
        exact h.1 (hn ▸ of_decide_eq_true heq ▸ List.mem_map_of_mem he')
      rw [hrest, if_pos hn, List.find?_cons_of_pos (by simpa using hn.symm)]
      rfl
    · rw [if_neg hn, List.find?_cons_of_neg (by simpa using fun h' => hn h'.symm)]

theorem keys_foldl_insert {es : List E} (h : (es.map J.seq).Nodup) :
    ∀ {d : Dict ℤ E}, (∀ e ∈ es, J.seq e ∉ d.keys) →
      (es.foldl (fun d e => d.insert (J.seq e) e) d).keys.Perm (es.map J.seq ++ d.keys) := by
  induction es with
  | nil => exact fun _ => List.Perm.refl _
  | cons e es ih =>
    intro d hd
    rw [List.map_cons, List.nodup_cons] at h
    have hkeys : (d.insert (J.seq e) e).keys = J.seq e :: d.keys := by
      rw [AList.keys_insert, List.erase_of_not_mem (hd e List.mem_cons_self)]
    refine (ih h.2 fun e' he' => ?_).trans ?_
    · rw [hkeys, List.mem_cons, not_or]
      exact ⟨fun heq => h.1 (heq ▸ List.mem_map_of_mem he'),
        hd e' (List.mem_cons_of_mem _ he')⟩
    · rw [hkeys, List.map_cons, List.cons_append]
      exact List.perm_middle

/-- **Entries in the order of their numbers stay as they are.** -/
theorem mergeBySeq_sorted {es : List E} (h : es.Pairwise fun a b => J.seq a < J.seq b) :
    J.mergeBySeq es = es := by
  have hmap : (es.map J.seq).Pairwise (· < ·) := List.pairwise_map.2 h
  have hnodup : (es.map J.seq).Nodup := hmap.imp fun hlt => ne_of_lt hlt
  have hkeys := keys_foldl_insert hnodup (d := ∅) (by simp)
  rw [AList.keys_empty, List.append_nil] at hkeys
  have hsorted : (es.foldl (fun d e => d.insert (J.seq e) e) (∅ : Dict ℤ E)).keys.mergeSort (· ≤ ·) =
      es.map J.seq := by
    have hle := @List.pairwise_mergeSort _ (fun a b : ℤ => decide (a ≤ b))
      (fun a b c hab hbc => decide_eq_true ((of_decide_eq_true hab).trans (of_decide_eq_true hbc)))
      (fun a b => by simpa using le_total a b)
      (es.foldl (fun d e => d.insert (J.seq e) e) (∅ : Dict ℤ E)).keys
    exact ((List.mergeSort_perm _ _).trans hkeys).eq_of_pairwise (fun a b _ _ => le_antisymm)
      (hle.imp fun hab => of_decide_eq_true hab) (hmap.imp le_of_lt)
  unfold mergeBySeq
  simp only
  rw [hsorted, List.filterMap_map]
  have hlook : ∀ e ∈ es, (es.foldl (fun d e => d.insert (J.seq e) e) (∅ : Dict ℤ E)).lookup
      (J.seq e) = some e := by
    intro e he
    rw [lookup_foldl_insert hnodup]
    cases hfind : es.find? fun e' => J.seq e' = J.seq e with
    | none =>
      have := List.find?_eq_none.1 hfind e he
      simp at this
    | some e' =>
      have heq : J.seq e' = J.seq e := by simpa using List.find?_some hfind
      have : e' = e := List.inj_on_of_nodup_map hnodup (List.mem_of_find?_eq_some hfind) he heq
      rw [this]
      rfl
  calc es.filterMap ((es.foldl (fun d e => d.insert (J.seq e) e) (∅ : Dict ℤ E)).lookup ∘ J.seq)
      = es.filterMap some := List.filterMap_congr fun e he => hlook e he
    _ = es := List.filterMap_some

/-! ## The readers -/

/-- The whole log and the pending entries after it are in the order of their numbers. -/
theorem Clean.pairwise_append (h : J.Clean sessionId d fs) {pending : List E}
    (hseq : pending.Pairwise fun a b => J.seq a < J.seq b)
    (hafter : ∀ e ∈ pending, d.latestSessionLogSeq < J.seq e) :
    (log fs ++ pending).Pairwise fun a b => J.seq a < J.seq b := by
  have hn := h.laid.numbered
  refine List.pairwise_append.2 ⟨?_, hseq, fun a ha b hb => ?_⟩
  · refine List.pairwise_iff_getElem.2 fun i j hi hj hij => ?_
    rw [hn.seq_getElem hi, hn.seq_getElem hj]
    omega
  · have hle := (hn.le_seq a ha).2
    have hlt := hafter b hb
    rw [h.latest] at hlt
    omega

/-- The last number of the whole log with the pending entries. -/
theorem Clean.latest_append (h : J.Clean sessionId d fs) (pending : List E) (full : Bool) :
    J.latestLogSeq d ⟨log fs ++ pending, full⟩ = J.latestLogSeq d ⟨pending, false⟩ := by
  unfold latestLogSeq
  rw [h.latest]
  simp only
  rcases pending.eq_nil_or_concat with rfl | ⟨init, last, rfl⟩
  · rw [List.append_nil]
    cases hlog : (log fs).getLast? with
    | none => rfl
    | some e =>
      have hne : log fs ≠ [] := fun h₀ => by rw [h₀] at hlog; cases hlog
      have hlast := h.laid.numbered.seq_getLast hne
      rw [List.getLast?_eq_some_getLast hne] at hlog
      rw [← Option.some.inj hlog, Option.map_some, Option.getD_some, hlast]
      simp only [List.getLast?_nil, Option.map_none, Option.getD_none]
      omega
  · rw [List.concat_eq_append, ← List.append_assoc, List.getLast?_concat, List.getLast?_concat]

/-- **Range reads agree with full reads**, for a log as crash-free appends leave it (with
    file names of at most 20 digits) and any pending entries numbered after it: a range read
    is the range of the full read, and each reader gives the same from the cached whole log
    as without it. -/
theorem reads_agree {batches : List (List E)} (h : J.Appends sessionId batches d)
    (hfit : NamesFit d) {pending : List E}
    (hseq : pending.Pairwise fun a b => J.seq a < J.seq b)
    (hafter : ∀ e ∈ pending, d.latestSessionLogSeq < J.seq e) (X : Events E V) :
    (∀ fromSeq toSeq, J.readSessionLog sessionId fromSeq toSeq d =
      (J.readSessionLog sessionId none none d).map (·.filter (J.inRange fromSeq toSeq))) ∧
    ∃ c, J.sessionLogEntries sessionId d ⟨pending, false⟩ = .ok c ∧ c.full = true ∧
      (∀ cursor, J.sessionLogAfterCursor sessionId d c cursor =
        J.sessionLogAfterCursor sessionId d ⟨pending, false⟩ cursor) ∧
      (∀ fromSeq toSeq targetFilter,
        J.systemSignalsForLogRange X sessionId d c fromSeq toSeq targetFilter =
          J.systemSignalsForLogRange X sessionId d ⟨pending, false⟩ fromSeq toSeq targetFilter) ∧
      J.latestLogSeq d c = J.latestLogSeq d ⟨pending, false⟩ := by
  obtain ⟨fs, hclean, -⟩ := h.clean
  have hs := hclean.inOrder hfit
  have hread := hclean.laid.read hs
  refine ⟨fun fromSeq toSeq => ?_, ⟨log fs ++ pending, true⟩, ?_, rfl, fun cursor => ?_,
    fun fromSeq toSeq targetFilter => ?_, hclean.latest_append pending true⟩
  · rw [hread, hclean.read_range hs]
    rfl
  · unfold sessionLogEntries
    rw [if_neg Bool.false_ne_true, hread]
    simp only [Except.ok_bind, mergeBySeq_sorted (hclean.pairwise_append hseq hafter)]
    rfl
  · unfold sessionLogAfterCursor
    simp only [if_true, Bool.false_eq_true, if_false, hclean.read_range hs, Except.ok_bind]
    have hfilter : (log fs).filter (J.inRange (some (cursor + 1)) none) =
        (log fs).filter fun e => decide (cursor < J.seq e) := by
      refine List.filter_congr fun e _ => ?_
      simp only [inRange, Option.all_some, Option.all_none, Bool.and_true, Int.add_one_le_iff]
    change Except.ok _ = Except.ok _
    rw [hfilter, List.filter_append, List.filter_append, List.filter_filter, List.filter_filter]
    simp only [Bool.and_self]
  · unfold systemSignalsForLogRange
    simp only [if_true, Bool.false_eq_true, if_false, hclean.read_range hs, Except.ok_bind]
    change Except.ok _ = Except.ok _
    rw [List.filterMap_append, List.filterMap_append, List.filterMap_filter]
    congr 2
    refine List.filterMap_congr fun e _ => ?_
    by_cases hin : J.inRange (some fromSeq) (some toSeq) e = true
    · rw [if_pos hin]
    · have hout : J.seq e < fromSeq ∨ J.seq e > toSeq ∨ J.kind e ≠ "SystemSignal" := by
        simp only [inRange, Option.all_some, Bool.and_eq_true, decide_eq_true_eq] at hin
        omega
      rw [if_neg hin, if_pos hout]

theorem reads_agree_two : ∃ d, sampleJson.Appends "a" [Sample.run 0 2 0] d ∧
    ∀ fromSeq toSeq, sampleJson.readSessionLog "a" fromSeq toSeq d =
      (sampleJson.readSessionLog "a" none none d).map
        (·.filter (sampleJson.inRange fromSeq toSeq)) := by
  obtain ⟨d, happ, hfit, hlatest⟩ := appends_two
  have hafter : ∀ e ∈ [Sample.mk 2 0, Sample.mk 3 5],
      d.latestSessionLogSeq < sampleJson.seq e := by
    rw [hlatest]
    decide
  have hpending : [Sample.mk 2 0, Sample.mk 3 5].Pairwise fun a b =>
      sampleJson.seq a < sampleJson.seq b := by decide
  exact ⟨d, happ, (reads_agree (V := Unit) happ hfit hpending hafter
    ⟨fun _ => none, fun _ => none, fun _ => ""⟩).1⟩

/-- With a segment that starts at `10 ^ 20`, the whole log cannot be read, and its ranges
    can. -/
theorem not_reads_agree : ¬ ∀ (batches : List (List Sample)) (d : SessionDir),
    sampleJson.Appends "a" batches d → ∀ fromSeq toSeq,
    sampleJson.readSessionLog "a" fromSeq toSeq d =
      (sampleJson.readSessionLog "a" none none d).map
        (·.filter (sampleJson.inRange fromSeq toSeq)) := by
  intro h
  obtain ⟨batches, d, happ, hclean⟩ := Sample.appends_longFiles
  have hindex : d.index = some (sampleJson.indexOf "a" Sample.longFiles) :=
    hclean.index.resolve_right (by rintro ⟨-, ⟨⟩⟩)
  have hrange := h batches d happ (some 1) none
  rw [hclean.read_selected hindex (by simp)] at hrange
  -- the whole read puts the record `10 ^ 20` after the first file
  have hfull : sampleJson.readSessionLog "a" none none d = sampleJson.validated "a"
      (Sample.run 0 (2 * 10 ^ 19 - 1) 0 ++ (Sample.run (10 ^ 20 - 1) 1 0 ++
        Sample.run (2 * 10 ^ 19 - 1) (8 * 10 ^ 19) 0)) := by
    have hfile : ∀ f ∈ Sample.longFiles, (sampleJson.scanSegment (d.file f.path)).1.filter
        (sampleJson.inRange none none) = f.entries := fun f hf => by
      rw [hclean.laid.scan_file hf, List.filter_eq_self.2 fun e _ => sampleJson.inRange_none e]
    have hpaths : d.segmentPathsForRange none none = d.segmentPaths := by
      unfold SessionDir.segmentPathsForRange
      rw [hindex]
      rfl
    unfold readSessionLog
    rw [hpaths, Sample.segmentPaths_longFiles hclean, List.flatMap_cons, List.flatMap_cons,
      List.flatMap_cons, List.flatMap_nil, List.append_nil]
    have h₁ := hfile _ (List.mem_cons_self)
    have h₂ := hfile _ (List.mem_cons_of_mem _ List.mem_cons_self)
    have h₃ := hfile _ (List.mem_cons_of_mem _ (List.mem_cons_of_mem _ List.mem_cons_self))
    exact congrArg _ (congrArg₂ _ h₁ (congrArg₂ _ h₃ h₂))
  rw [hfull] at hrange
  cases hval : sampleJson.validated "a" (Sample.run 0 (2 * 10 ^ 19 - 1) 0 ++
      (Sample.run (10 ^ 20 - 1) 1 0 ++ Sample.run (2 * 10 ^ 19 - 1) (8 * 10 ^ 19) 0)) with
  | error e => rw [hval] at hrange; cases hrange
  | ok es =>
    have hnum := numbered_of_validated (k := 1) hval (by
      rw [Sample.run_pos (by decide)]
      simp [sampleJson])
    have hnext := (numbered_append.1 hnum).2
    rw [Sample.length_run, Sample.run_succ (10 ^ 20 - 1) 0] at hnext
    have hseq : ((10 ^ 20 - 1 : ℕ) : ℤ) + 1 = 1 + ((2 * 10 ^ 19 - 1 : ℕ) : ℤ) := hnext.2.1
    exact absurd hseq (by decide)

end Json

end Aize
