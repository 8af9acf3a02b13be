/-
  Appending to a SessionLog: the files before and after.

  The files of a log are named by their first record, and only the last one can
  be without records (`Named`). An append that is planned on recovered files
  extends the last one or adds one (`grown`), and the index that it is going to
  write is the index of the files it leaves (`planWrite_laid`).

  * `append_clean`: without a crash, an append adds its new records to the log
    and the index stays that of the files;
  * `appends_indexed`: so after any successful appends the index is the one that
    a rebuild computes, and the log is what has been appended.
-/
import Mathlib.Data.Nat.Digits.Lemmas
import Aize.Layout

namespace Aize

open LogFile

namespace LogFile

variable {E : Type}

/-- The files are named by the numbers of their first records, from `k` on, and only the
    last one may be without records. -/
def Named : ℕ → List (LogFile E) → Prop
  | _, [] => True
  | k, f :: fs => f.name = k ∧ (fs ≠ [] → f.entries ≠ []) ∧ Named (k + f.entries.length) fs

theorem named_concat {k : ℕ} {fs : List (LogFile E)} {f : LogFile E} :
    Named k (fs ++ [f]) ↔
      Named k fs ∧ (∀ g ∈ fs, g.entries ≠ []) ∧ f.name = k + (log fs).length := by
  induction fs generalizing k with
  | nil => simp [Named]
  | cons g fs ih =>
    rw [List.cons_append, Named, ih, Named, log_cons, List.length_append, List.forall_mem_cons,
      Nat.add_assoc]
    have hne : fs ++ [f] ≠ [] := List.append_ne_nil_of_right_ne_nil _ (List.cons_ne_nil _ _)
    constructor
    · rintro ⟨h₁, h₂, h₃, h₄, h₅⟩
      exact ⟨⟨h₁, fun _ => h₂ hne, h₃⟩, ⟨h₂ hne, h₄⟩, h₅⟩
    · rintro ⟨⟨h₁, -, h₃⟩, ⟨h₂, h₄⟩, h₅⟩
      exact ⟨h₁, fun _ => h₂, h₃, h₄, h₅⟩

theorem named_clean {k : ℕ} {fs : List (LogFile E)} : Named k (fs.map clean) ↔ Named k fs := by
  induction fs generalizing k with
  | nil => rfl
  | cons f fs ih =>
    rw [List.map_cons, Named, Named, entries_clean, ih, Ne, List.map_eq_nil_iff]
    rfl

/-- The names go up, and stay within the numbers of the log. -/
theorem Named.names {k : ℕ} {fs : List (LogFile E)} (h : Named k fs) :
    (fs.map name).Pairwise (· < ·) ∧ ∀ f ∈ fs, k ≤ f.name ∧ f.name ≤ k + (log fs).length := by
  induction fs generalizing k with
  | nil => exact ⟨.nil, by simp⟩
  | cons f fs ih =>
    obtain ⟨rfl, hne, hfs⟩ := h
    obtain ⟨hpw, hbound⟩ := ih hfs
    rw [log_cons, List.length_append]
    refine ⟨List.pairwise_cons.2 ⟨fun m hm => ?_, hpw⟩, List.forall_mem_cons.2 ⟨by omega, ?_⟩⟩
    · obtain ⟨g, hg, rfl⟩ := List.mem_map.1 hm
      have hpos := List.length_pos_iff.2 (hne (List.ne_nil_of_mem hg))
      have := (hbound g hg).1
      omega
    · intro g hg
      have := hbound g hg
      omega

theorem Named.nodup {k : ℕ} {fs : List (LogFile E)} (h : Named k fs) :
    (fs.map LogFile.path).Nodup := by
  have hnames : (fs.map name).Nodup := h.names.1.imp fun hlt => ne_of_lt hlt
  have := hnames.map (f := fun n : ℕ => segmentPath n) fun m n hmn => segmentPath_injective hmn
  rwa [List.map_map] at this

/-- **Names of at most 20 digits are in order.** -/
theorem Named.inOrder {k : ℕ} {fs : List (LogFile E)} (h : Named k fs)
    (hfit : ∀ f ∈ fs, f.name < 10 ^ 20) : InOrder fs := by
  have hpw := List.pairwise_map.1 h.names.1
  refine List.pairwise_map.2 (hpw.imp_of_mem fun {f g} hf hg hlt => ?_)
  exact segmentPath_lt hlt (hfit g hg)

/-- The files after an append: the last one is extended, or a new one is added. -/
def grown (fs : List (LogFile E)) (rollover : Bool) (es : List E) (t : List UInt8) :
    List (LogFile E) :=
  match if rollover then none else fs.getLast? with
  | some f => fs.dropLast ++ [{ f with entries := f.entries ++ es, torn := t }]
  | none => fs ++ [{ name := (log fs).length + 1, entries := es, torn := t }]

theorem grown_last (fs : List (LogFile E)) (f : LogFile E) (es : List E) (t : List UInt8) :
    grown (fs ++ [f]) false es t = fs ++ [{ f with entries := f.entries ++ es, torn := t }] := by
  simp [grown]

theorem grown_nil (rollover : Bool) (es : List E) (t : List UInt8) :
    grown [] rollover es t = [{ name := 1, entries := es, torn := t }] := by
  cases rollover <;> rfl

theorem grown_new (fs : List (LogFile E)) (es : List E) (t : List UInt8) :
    grown fs true es t = fs ++ [{ name := (log fs).length + 1, entries := es, torn := t }] := rfl

/-- A list of files is empty or ends with one. -/
theorem files_cases (fs : List (LogFile E)) : fs = [] ∨ ∃ xs f, fs = xs ++ [f] := by
  rcases fs.eq_nil_or_concat with rfl | ⟨xs, f, rfl⟩
  · exact .inl rfl
  · exact .inr ⟨xs, f, by rw [List.concat_eq_append]⟩

@[simp] theorem log_grown (fs : List (LogFile E)) (rollover : Bool) (es : List E)
    (t : List UInt8) : log (grown fs rollover es t) = log fs ++ es := by
  rcases files_cases fs with rfl | ⟨xs, f, rfl⟩
  · rw [grown_nil]; simp
  · cases rollover with
    | true => rw [grown_new]; simp
    | false => rw [grown_last]; simp

/-- A file after an append is one of before, the extended last one, or the new one. -/
theorem forall_grown {P : LogFile E → Prop} {fs : List (LogFile E)} {rollover : Bool} {es : List E}
    {t : List UInt8} (h : ∀ f ∈ fs, P f)
    (hlast : ∀ f ∈ fs, P { f with entries := f.entries ++ es, torn := t })
    (hnew : P { name := (log fs).length + 1, entries := es, torn := t }) :
    ∀ f ∈ grown fs rollover es t, P f := by
  rcases files_cases fs with rfl | ⟨xs, f, rfl⟩
  · rw [grown_nil]
    intro g hg
    rw [List.mem_singleton.1 hg]
    exact hnew
  · cases rollover with
    | true =>
      rw [grown_new]
      intro g hg
      rcases List.mem_append.1 hg with hg | hg
      · exact h g hg
      · rw [List.mem_singleton.1 hg]
        exact hnew
    | false =>
      rw [grown_last]
      intro g hg
      rcases List.mem_append.1 hg with hg | hg
      · exact h g (List.mem_append_left _ hg)
      · rw [List.mem_singleton.1 hg]
        exact hlast f (by simp)

theorem torn_grown {fs : List (LogFile E)} {rollover : Bool} {es : List E}
    (h : ∀ f ∈ fs, f.torn = []) : ∀ f ∈ grown fs rollover es [], f.torn = [] :=
  forall_grown h (fun _ _ => rfl) rfl

theorem named_grown {fs : List (LogFile E)} {rollover : Bool} {es : List E} {t : List UInt8}
    (h : Named 1 fs) (hroll : rollover = true → ∀ f ∈ fs, f.entries ≠ []) :
    Named 1 (grown fs rollover es t) := by
  rcases files_cases fs with rfl | ⟨xs, f, rfl⟩
  · rw [grown_nil]; simp [Named]
  · cases rollover with
    | true =>
      rw [grown_new, named_concat]
      exact ⟨h, hroll rfl, Nat.add_comm _ _⟩
    | false =>
      rw [grown_last, named_concat]
      obtain ⟨h₁, h₂, h₃⟩ := named_concat.1 h
      exact ⟨h₁, h₂, h₃⟩

end LogFile

namespace Json

variable {E : Type} {J : Json E} {sessionId : String} {d : SessionDir} {fs : List (LogFile E)}

theorem getLast?_segmentsFrom (k : ℤ) (fs : List (LogFile E)) (f : LogFile E) :
    (J.segmentsFrom k (fs ++ [f])).getLast? = some ⟨f.path, k + (log fs).length,
      k + (log fs).length + f.entries.length - 1, f.entries.length,
      (J.frames f.entries).length⟩ := by
  rw [segmentsFrom_append, List.getLast?_append]
  rfl

/-- The active segment of recovered files is the last one. -/
theorem activeSegmentPath_concat (fs : List (LogFile E)) (f : LogFile E) (n : ℤ) :
    activeSegmentPath (J.indexOf sessionId (fs ++ [f])) n = f.path := by
  rw [activeSegmentPath, indexOf, getLast?_segmentsFrom]

/-- An append of these records starts a new file: the last one would grow too long. -/
def rolls (J : Json E) (fs : List (LogFile E)) (pending : List E) : Bool :=
  match fs.getLast? with
  | some f => decide (0 < (J.frames f.entries).length ∧
      maxSegmentBytes < (J.frames f.entries).length + (J.frames pending).length)
  | none => false

theorem rolls_concat (fs : List (LogFile E)) (f : LogFile E) (pending : List E) :
    J.rolls (fs ++ [f]) pending = decide (0 < (J.frames f.entries).length ∧
      maxSegmentBytes < (J.frames f.entries).length + (J.frames pending).length) := by
  rw [rolls, List.getLast?_concat]

/-- Where a new file is started, all the files have records. -/
theorem rolls_ne_nil {pending : List E} (h : Named 1 fs) (hr : J.rolls fs pending = true) :
    fs ≠ [] ∧ ∀ f ∈ fs, f.entries ≠ [] := by
  rcases files_cases fs with rfl | ⟨xs, f, rfl⟩
  · cases hr
  · rw [rolls_concat, decide_eq_true_eq] at hr
    refine ⟨by simp, fun g hg => ?_⟩
    rcases List.mem_append.1 hg with hg | hg
    · exact (named_concat.1 h).2.1 g hg
    · rw [List.mem_singleton.1 hg]
      intro h₀
      rw [h₀, frames_nil] at hr
      exact absurd hr.1 (lt_irrefl _)

/-- **An append that is planned on recovered files** extends the last of them or adds one,
    and is going to write the index of the files it leaves. After some of its bytes the
    directory holds the files with the records, whole or torn, that these bytes make. -/
theorem planWrite_laid {entries : List E} {w : Write} (h : J.Laid sessionId d fs)
    (hname : Named 1 fs) (hclean : ∀ f ∈ fs, f.torn = [])
    (hw : J.planWrite sessionId entries (J.indexOf sessionId fs) d = .ok (some w)) :
    ∃ pending, J.pendingOf (J.indexOf sessionId fs) entries = pending ∧ pending ≠ [] ∧
      (∀ e ∈ pending, J.Encodable e) ∧
      (J.rolls fs pending = true → w.path = segmentPath ((log fs).length + 1)) ∧
      w.payload = J.frames pending ∧
      w.index = J.indexOf sessionId (grown fs (J.rolls fs pending) pending []) ∧
      ∀ {n : ℕ} {p t}, w.payload.take n = J.frames p ++ t → p <+: pending →
        J.reader.read t = none →
        J.Laid sessionId (w.writeBytes n d) (grown fs (J.rolls fs pending) p t) := by
  obtain ⟨pending, hp, hne, hnum, he, hpay, hcase⟩ := planWrite_some hw
  have hseq : (J.indexOf sessionId fs).latestSeq = ((log fs).length : ℤ) := rfl
  rw [hseq] at hnum hcase
  have hnum' : ∀ {p : List E}, p <+: pending →
      J.Numbered sessionId ((log fs).length + 1) p ∧ ∀ e ∈ p, J.Encodable e := by
    rintro p ⟨q, rfl⟩
    exact ⟨(numbered_append.1 hnum).1, fun e hmem => he e (List.mem_append_left _ hmem)⟩
  -- a new file, named after the log, can be added
  have hnew : (∀ g ∈ fs, g.path ≠ segmentPath ((log fs).length + 1)) →
      w.path = segmentPath ((log fs).length + 1) → ∀ {n : ℕ} {p t},
      w.payload.take n = J.frames p ++ t → p <+: pending → J.reader.read t = none →
      J.Laid sessionId (w.writeBytes n d)
        (fs ++ [{ name := (log fs).length + 1, entries := p, torn := t }]) := by
    intro hfresh hpath n p t htake hpre ht
    have := h.extend_new (f := { name := (log fs).length + 1, entries := p, torn := t })
      (by intro g hg; exact_mod_cast hfresh g hg) (hnum' hpre).1 (hnum' hpre).2 ht
    unfold Write.writeBytes
    rw [htake, hpath]
    simpa [LogFile.path, bytes] using this
  rcases files_cases fs with rfl | ⟨xs, f, rfl⟩
  · -- no file yet: the active segment is a new one
    have hactive : activeSegmentPath (J.indexOf sessionId []) ((log ([] : List (LogFile E))).length + 1) =
      segmentPath ((log ([] : List (LogFile E))).length + 1) := rfl
    have hempty := (h.file_new (segmentPath ((log ([] : List (LogFile E))).length + 1)) (by simp)).2
    rw [hactive] at hcase
    rcases hcase with ⟨hpath, -, hindex⟩ | ⟨-, hpos, -⟩
    · refine ⟨pending, hp, hne, he, fun hf => absurd hf Bool.false_ne_true, hpay, ?_, ?_⟩
      · rw [hindex, hpath, hempty, grown_nil]
        exact indexAppended_new sessionId { name := 1, entries := pending, torn := [] } (by simp)
      · intro n p t
        rw [grown_nil]
        exact hnew (by simp) hpath
    · rw [hempty] at hpos
      exact absurd hpos (lt_irrefl _)
  · have hmem : f ∈ xs ++ [f] := by simp
    have hftorn := hclean f hmem
    have hfile : d.file f.path = J.frames f.entries := by
      rw [h.file hmem, bytes, hftorn, List.append_nil]
    have hnd := hname.nodup
    have hxs : ∀ g ∈ xs, g.path ≠ f.path := by
      intro g hg heq
      rw [List.map_append, List.map_cons, List.nodup_append] at hnd
      exact hnd.2.2 _ (List.mem_map_of_mem hg) _ List.mem_cons_self heq
    rw [activeSegmentPath_concat] at hcase
    rcases hcase with ⟨hpath, hstay, hindex⟩ | ⟨hpath, hpos, hlong, hindex⟩
    · rw [hpath, hfile] at hstay
      have hroll : J.rolls (xs ++ [f]) pending = false := by
        rw [rolls_concat]; exact decide_eq_false hstay
      refine ⟨pending, hp, hne, he, fun hf => (Bool.false_ne_true (hroll ▸ hf)).elim, hpay, ?_, ?_⟩
        <;> rw [hroll]
      · rw [hindex, hpath, hfile, indexAppended_last hxs, grown_last, hftorn]
      · intro n p t htake hpre ht
        rw [grown_last]
        unfold Write.writeBytes
        rw [htake, hpath]
        exact h.extend xs [] hnd rfl hftorn (hnum' hpre).1 (hnum' hpre).2 ht
    · -- the last file is too long for the batch
      rw [hfile] at hpos hlong
      have hroll : J.rolls (xs ++ [f]) pending = true := by
        rw [rolls_concat]; exact decide_eq_true ⟨hpos, hlong⟩
      have hent := (rolls_ne_nil hname hroll).2
      have hfresh : ∀ g ∈ xs ++ [f], g.path ≠ segmentPath ((log (xs ++ [f])).length + 1) := by
        intro g hg heq
        have hg' : g.name = (log (xs ++ [f])).length + 1 := by
          refine segmentPath_injective ?_
          exact_mod_cast heq
        have hgrown : Named 1 ((xs ++ [f]) ++
            [{ name := (log (xs ++ [f])).length + 1, entries := [], torn := [] }]) :=
          named_concat.2 ⟨hname, hent, Nat.add_comm _ _⟩
        have hdis := hgrown.names.1
        rw [List.map_append, List.pairwise_append] at hdis
        exact absurd (hdis.2.2 g.name (List.mem_map_of_mem hg) _ List.mem_cons_self)
          (by rw [hg']; exact lt_irrefl _)
      refine ⟨pending, hp, hne, he, fun _ => hpath, hpay, ?_, ?_⟩ <;> rw [hroll]
      · rw [hindex, hpath, grown_new]
        have := indexAppended_new (J := J) sessionId
          { name := (log (xs ++ [f])).length + 1, entries := pending, torn := [] }
          (by intro g hg; exact_mod_cast hfresh g hg)
        rw [← this]
        simp [LogFile.path]
      · intro n p t
        rw [grown_new]
        exact hnew hfresh hpath

/-! ## Crash-free logs -/

/-- **A log as crash-free appends leave it**: whole files that all have records, and the
    index of these files. -/
structure Clean (J : Json E) (sessionId : String) (d : SessionDir) (fs : List (LogFile E)) :
    Prop where
  laid : J.Laid sessionId d fs
  named : Named 1 fs
  whole : ∀ f ∈ fs, f.torn = [] ∧ f.entries ≠ []
  index : d.index = some (J.indexOf sessionId fs) ∨ (d.index = none ∧ fs = [])

theorem clean_empty : J.Clean sessionId .empty [] where
  laid := ⟨by simp [SessionDir.empty], by simp, trivial, by simp, by simp⟩
  named := trivial
  whole := by simp
  index := .inr ⟨rfl, rfl⟩

/-- The index is trusted when the last file has the size that it says. -/
theorem trustedIndex_concat (xs : List (LogFile E)) (f : LogFile E)
    (hindex : d.index = some (J.indexOf sessionId (xs ++ [f]))) {b : List UInt8}
    (hfile : d.files.lookup f.path = some b) :
    trustedIndex d = if b.length = (J.frames f.entries).length then
      some (J.indexOf sessionId (xs ++ [f])) else none := by
  unfold trustedIndex
  rw [hindex]
  simp only [Option.bind_eq_bind, Option.bind_some, indexOf, getLast?_segmentsFrom, hfile]

theorem trustedIndex_nil (J : Json E) (sessionId : String)
    (hindex : d.index = none ∨ d.index = some (J.indexOf sessionId [])) :
    trustedIndex d = none := by
  unfold trustedIndex
  rcases hindex with h | h
  · rw [h]; rfl
  · rw [h]; rfl

/-- Recovery of a crash-free log reads the index, or writes that of an empty log. -/
theorem Clean.recover (h : J.Clean sessionId d fs) :
    J.recoverSessionLog sessionId false d =
      ({ d with index := some (J.indexOf sessionId fs) }, .ok (J.indexOf sessionId fs)) := by
  rcases files_cases fs with rfl | ⟨xs, f, rfl⟩
  · have htrust : trustedIndex d = none :=
      trustedIndex_nil J sessionId (h.index.symm.imp And.left id)
    have hbuild := h.laid.build .nil true (fun h => by cases h)
    have hpaths : d.segmentPaths = [] := h.laid.segmentPaths .nil
    unfold recoverSessionLog
    rw [if_neg Bool.false_ne_true, htrust, hbuild, hpaths]
    rfl
  · obtain ⟨hindex⟩ | ⟨-, hnil⟩ := h.index
    · have hmem : f ∈ xs ++ [f] := by simp
      have htrust := trustedIndex_concat xs f hindex (h.laid.files f hmem)
      rw [bytes, (h.whole f hmem).1, List.append_nil, if_pos rfl] at htrust
      unfold recoverSessionLog
      rw [if_neg Bool.false_ne_true, htrust]
      simp only
      rw [← hindex]
    · simp at hnil

/-- The files that an append leaves all have records. -/
theorem Clean.grown (h : J.Clean sessionId d fs) {rollover : Bool} {pending : List E}
    (hne : pending ≠ []) :
    ∀ f ∈ grown fs rollover pending [], f.torn = [] ∧ f.entries ≠ [] :=
  forall_grown h.whole (fun _ _ => ⟨rfl, List.append_ne_nil_of_right_ne_nil _ hne⟩) ⟨rfl, hne⟩

/-- The index of a crash-free log, as recovery leaves it. -/
theorem Clean.indexed (h : J.Clean sessionId d fs) :
    J.Clean sessionId { d with index := some (J.indexOf sessionId fs) } fs :=
  ⟨h.laid.reindex _, h.named, h.whole, .inl rfl⟩

/-- **A planned append**, carried out on a crash-free log. -/
theorem Clean.commit (h : J.Clean sessionId d fs) {entries : List E} {w : Write}
    (hw : J.planWrite sessionId entries (J.indexOf sessionId fs) d = .ok (some w)) :
    J.Clean sessionId (w.commit d) (LogFile.grown fs
      (J.rolls fs (J.pendingOf (J.indexOf sessionId fs) entries))
      (J.pendingOf (J.indexOf sessionId fs) entries) []) := by
  obtain ⟨pending, rfl, hne, -, -, hpay, hindex, hlaid⟩ :=
    planWrite_laid h.laid h.named (fun f hf => (h.whole f hf).1) hw
  have htake : w.payload.take w.payload.length =
      J.frames (J.pendingOf (J.indexOf sessionId fs) entries) ++ [] := by
    rw [List.take_length, List.append_nil, hpay]
  exact ⟨(hlaid htake (List.prefix_refl _) J.reader.read_nil).reindex _,
    named_grown h.named fun hr => (rolls_ne_nil h.named hr).2, h.grown hne,
    .inl (congrArg some hindex)⟩

/-- An append of new records that are numbered on and encodable. -/
theorem Clean.append_ok (h : J.Clean sessionId d fs) {entries pending : List E}
    (hp : J.pendingOf (J.indexOf sessionId fs) entries = pending) (hne : pending ≠ [])
    (hn : J.Numbered sessionId ((log fs).length + 1) pending) (he : ∀ e ∈ pending, J.Encodable e) :
    (J.appendSessionLogEntries sessionId entries d).2 = .ok () ∧
      J.Clean sessionId (J.appendSessionLogEntries sessionId entries d).1
        (LogFile.grown fs (J.rolls fs pending) pending []) := by
  obtain ⟨w, hw⟩ := planWrite_ok
    (d := { d with index := some (J.indexOf sessionId fs) }) hp hne hn he
  have hcommit := h.indexed.commit hw
  rw [hp] at hcommit
  have hnil : ¬entries.isEmpty = true := by
    intro h₀
    rw [List.isEmpty_iff.1 h₀] at hp
    exact hne hp.symm
  unfold appendSessionLogEntries prepareAppend
  rw [if_neg hnil, h.recover]
  simp only [hw]
  exact ⟨trivial, hcommit⟩

/-- **What an append does to a crash-free log**: if it succeeds, the records beyond the log
    are added; if it fails, the log is as before. -/
theorem Clean.append (h : J.Clean sessionId d fs) (entries : List E) :
    ∃ fs', J.Clean sessionId (J.appendSessionLogEntries sessionId entries d).1 fs' ∧
      ((J.appendSessionLogEntries sessionId entries d).2 = .ok () →
        log fs' = log fs ++ entries.filter fun e => decide (((log fs).length : ℤ) < J.seq e)) ∧
      ((J.appendSessionLogEntries sessionId entries d).2 ≠ .ok () → log fs' = log fs) := by
  unfold appendSessionLogEntries prepareAppend
  by_cases hnil : entries.isEmpty = true
  · rw [if_pos hnil]
    obtain rfl := List.isEmpty_iff.1 hnil
    exact ⟨fs, h, fun _ => by simp, fun _ => rfl⟩
  · rw [if_neg hnil, h.recover]
    simp only
    cases hw : J.planWrite sessionId entries (J.indexOf sessionId fs)
        { d with index := some (J.indexOf sessionId fs) } with
    | error e => exact ⟨fs, h.indexed, (by rintro ⟨⟩), fun _ => rfl⟩
    | ok o =>
      cases o with
      | none =>
        have hpend := planWrite_none.1 hw
        refine ⟨fs, h.indexed, fun _ => ?_, fun h' => absurd rfl h'⟩
        exact (hpend ▸ (List.append_nil _).symm : log fs = log fs ++ J.pendingOf _ entries)
      | some w =>
        refine ⟨_, h.indexed.commit hw, fun _ => ?_, fun h' => absurd rfl h'⟩
        rw [log_grown]
        rfl

/-! ## Reading -/

/-- The records of files whose names are in order, read file by file. -/
theorem Laid.scan_file (h : J.Laid sessionId d fs) {f : LogFile E} (hf : f ∈ fs) :
    (J.scanSegment (d.file f.path)).1 = f.entries := by
  rw [h.file hf, scanSegment_bytes (h.encodable f hf) (h.torn f hf)]

theorem inRange_none (e : E) : J.inRange none none e = true := rfl

/-- **Reading the whole log.** -/
theorem Laid.read (h : J.Laid sessionId d fs) (hs : InOrder fs) :
    J.readSessionLog sessionId none none d = .ok (log fs) := by
  have hpaths : d.segmentPathsForRange none none = fs.map LogFile.path := by
    rw [← h.segmentPaths hs]
    unfold SessionDir.segmentPathsForRange
    cases d.index with
    | none => rfl
    | some index => rfl
  have hscan : (fs.map LogFile.path).flatMap (fun path =>
      (J.scanSegment (d.file path)).1.filter (J.inRange none none)) = log fs := by
    rw [List.flatMap_map, log]
    refine List.flatMap_congr fun f hf => ?_
    rw [h.scan_file hf]
    exact List.filter_eq_self.2 fun e _ => J.inRange_none e
  unfold readSessionLog
  rw [hpaths, hscan]
  exact validated_numbered h.numbered

/-! ## Sequences of appends -/

/-- `d` is reached from an empty directory by these successful appends. -/
inductive Appends (J : Json E) (sessionId : String) : List (List E) → SessionDir → Prop
  | nil : Appends J sessionId [] .empty
  | snoc {batches : List (List E)} {batch : List E} {d : SessionDir} :
      Appends J sessionId batches d →
      (J.appendSessionLogEntries sessionId batch d).2 = .ok () →
      Appends J sessionId (batches ++ [batch]) (J.appendSessionLogEntries sessionId batch d).1

/-- The batches one after the other, each without the records whose numbers the log has
    already. -/
def appendedLog (J : Json E) (batches : List (List E)) : List E :=
  batches.foldl (fun log batch => log ++ batch.filter fun e =>
    decide ((log.length : ℤ) < J.seq e)) []

theorem appendedLog_snoc (batches : List (List E)) (batch : List E) :
    J.appendedLog (batches ++ [batch]) = J.appendedLog batches ++
      batch.filter fun e => decide (((J.appendedLog batches).length : ℤ) < J.seq e) := by
  rw [appendedLog, List.foldl_append]
  rfl

/-- Batches that are numbered on are appended whole. -/
theorem appendedLog_numbered {batches : List (List E)}
    (h : J.Numbered sessionId 1 batches.flatten) : J.appendedLog batches = batches.flatten := by
  induction batches using List.reverseRecOn with
  | nil => rfl
  | append_singleton batches batch ih =>
    rw [List.flatten_append, List.flatten_singleton] at h ⊢
    obtain ⟨h₁, h₂⟩ := numbered_append.1 h
    rw [appendedLog_snoc, ih h₁, List.filter_eq_self.2]
    intro e he
    obtain ⟨i, hi, rfl⟩ := List.getElem_of_mem he
    rw [h₂.seq_getElem hi, decide_eq_true_eq]
    omega

theorem Appends.clean {batches : List (List E)} (h : J.Appends sessionId batches d) :
    ∃ fs, J.Clean sessionId d fs ∧ log fs = J.appendedLog batches := by
  induction h with
  | nil => exact ⟨[], clean_empty, rfl⟩
  | @snoc batches batch d _ hok ih =>
    obtain ⟨fs, hfs, hlog⟩ := ih
    obtain ⟨fs', hfs', hadd, -⟩ := hfs.append batch
    refine ⟨fs', hfs', ?_⟩
    rw [hadd hok, appendedLog_snoc, hlog]

/-! ## The index after any appends -/

/-- The segments of an index begin with the names of the files. -/
theorem startSeq_segmentsFrom {k : ℕ} (h : Named k fs) :
    (J.segmentsFrom k fs).map SegmentIndex.startSeq = fs.map fun f => (f.name : ℤ) := by
  induction fs generalizing k with
  | nil => rfl
  | cons f fs ih =>
    obtain ⟨rfl, -, hfs⟩ := h
    have := ih hfs
    push_cast at this
    rw [segmentsFrom, List.map_cons, List.map_cons, this]

/-- The segments of an index follow each other. -/
theorem pairwise_segmentsFrom (k : ℤ) (fs : List (LogFile E)) :
    (J.segmentsFrom k fs).Pairwise (fun a b => a.endSeq < b.startSeq) ∧
      ∀ s ∈ J.segmentsFrom k fs, k ≤ s.startSeq := by
  induction fs generalizing k with
  | nil => exact ⟨.nil, by simp [segmentsFrom]⟩
  | cons f fs ih =>
    obtain ⟨hpw, hge⟩ := ih (k + f.entries.length)
    rw [segmentsFrom]
    refine ⟨List.pairwise_cons.2 ⟨fun s hs => ?_, hpw⟩, List.forall_mem_cons.2 ⟨le_rfl, ?_⟩⟩
    · have := hge s hs
      simp only
      omega
    · intro s hs
      have := hge s hs
      omega

/-- Every segment of the index starts at a number of at most 20 digits, the width of the
    file names. -/
def NamesFit (d : SessionDir) : Prop :=
  ∀ index, d.index = some index → ∀ s ∈ index.segments, s.startSeq < 10 ^ 20

theorem Clean.inOrder (h : J.Clean sessionId d fs) (hfit : NamesFit d) : InOrder fs := by
  rcases h.index with hindex | ⟨-, rfl⟩
  · refine h.named.inOrder fun f hf => ?_
    have hmem : ((f.name : ℕ) : ℤ) ∈ (J.segmentsFrom 1 fs).map SegmentIndex.startSeq := by
      have := startSeq_segmentsFrom (J := J) h.named
      push_cast at this
      rw [this]
      exact List.mem_map_of_mem (f := fun f : LogFile E => (f.name : ℤ)) hf
    obtain ⟨s, hs, hstart⟩ := List.mem_map.1 hmem
    have := hfit _ hindex s hs
    rw [hstart] at this
    exact_mod_cast this
  · exact .nil

/-- **The patched index is the rebuilt one, and the log is what has been appended**, after
    any successful appends, as long as the file names have at most 20 digits: the stored
    index is the one that is built from the segment files, its segments are the files
    sorted by name and follow each other, and the log is made of the batches. -/
theorem appends_indexed {batches : List (List E)} (h : J.Appends sessionId batches d)
    (hfit : NamesFit d) :
    (∀ index, d.index = some index →
      J.buildSessionLogIndex sessionId false d = (d, .ok index) ∧
      index.segments.map SegmentIndex.path = d.segmentPaths ∧
      index.segments.Pairwise (fun a b => a.endSeq < b.startSeq)) ∧
    (d.index = none → d.segmentPaths = [] ∧ J.appendedLog batches = []) ∧
    J.readSessionLog sessionId none none d = .ok (J.appendedLog batches) ∧
    (J.Numbered sessionId 1 batches.flatten → J.appendedLog batches = batches.flatten) := by
  obtain ⟨fs, hclean, hlog⟩ := h.clean
  have hs := hclean.inOrder hfit
  have hpaths := hclean.laid.segmentPaths hs
  refine ⟨fun index hindex => ?_, fun hnone => ?_, ?_, appendedLog_numbered⟩
  · obtain hsome | ⟨hnone, -⟩ := hclean.index
    · obtain rfl : J.indexOf sessionId fs = index := Option.some.inj (hsome.symm.trans hindex)
      have hbuild := hclean.laid.build hs false fun _ f hf => (hclean.whole f hf).1
      refine ⟨hbuild, ?_, (pairwise_segmentsFrom 1 fs).1⟩
      rw [hpaths]
      exact path_segmentsFrom _ _ _
    · rw [hnone] at hindex
      cases hindex
  · obtain hsome | ⟨-, rfl⟩ := hclean.index
    · rw [hsome] at hnone
      cases hnone
    · exact ⟨hpaths, hlog.symm⟩
  · rw [← hlog]
    exact hclean.laid.read hs

end Json

/-! ## Names of more than 20 digits -/

namespace Sample

/-- Records `start + 1` to `start + count`, with bodies of this length. -/
def run (start count body : ℕ) : List Sample := (List.range' start count).map fun i => ⟨i, body⟩

@[simp] theorem length_run (start count body : ℕ) : (run start count body).length = count := by
  rw [run, List.length_map, List.length_range']

theorem run_succ (start count body : ℕ) :
    run start (count + 1) body = ⟨start, body⟩ :: run (start + 1) count body := by
  rw [run, List.range'_succ]
  rfl

theorem run_pos {start count body : ℕ} (h : 0 < count) :
    run start count body = ⟨start, body⟩ :: run (start + 1) (count - 1) body := by
  obtain ⟨n, rfl⟩ := Nat.exists_eq_succ_of_ne_zero h.ne'
  exact run_succ start n body

theorem numbered_run (start count body : ℕ) :
    sampleJson.Numbered "a" (start + 1) (run start count body) := by
  induction count generalizing start with
  | zero => trivial
  | succ count ih =>
    rw [run_succ]
    refine ⟨rfl, rfl, ?_⟩
    have := ih (start + 1)
    push_cast at this
    exact this

theorem length_dumps (e : Sample) :
    e.dumps.length = 52 + e.body + (decimal (e.index + 1)).length := by
  have hconst : beforeBody.length = 9 ∧ beforeSeq.length = 25 ∧ afterSeq.length = 18 := by
    decide +kernel
  simp only [dumps, List.length_append, List.length_replicate, hconst]
  omega

theorem length_decimal_le {n k : ℕ} (h : n < 10 ^ k) : (decimal n).length ≤ k := by
  rw [decimal, List.length_reverse, List.length_map]
  exact (Nat.digits_length_le_iff (by decide) n).2 h

/-- The records with bodies of at most 16777000 bytes are encodable. -/
theorem encodable_run {start count body : ℕ} (hn : start + count < 10 ^ 21)
    (hb : body ≤ 16777000) : ∀ e ∈ run start count body, sampleJson.Encodable e := by
  intro e he
  obtain ⟨i, hi, rfl⟩ := List.mem_map.1 he
  have hi' := List.mem_range'_1.1 hi
  have hdigits : (decimal (i + 1)).length ≤ 21 := length_decimal_le (by omega)
  have hlen := length_dumps ⟨i, body⟩
  unfold Json.Encodable
  change (dumps ⟨i, body⟩).length ≤ maxFrameBytes
  rw [hlen, maxFrameBytes]
  simp only
  omega

/-- The bytes of these records. -/
theorem length_frames_run_ge (start count body : ℕ) :
    (20 + body) * count ≤ (sampleJson.frames (run start count body)).length := by
  induction count generalizing start with
  | zero => exact Nat.zero_le _
  | succ count ih =>
    have hframe := sampleJson.length_frame ⟨start, body⟩
    have hlen := length_dumps ⟨start, body⟩
    have hframes : sampleJson.frames (run start (count + 1) body) =
        sampleJson.frame ⟨start, body⟩ ++ sampleJson.frames (run (start + 1) count body) := by
      rw [run_succ]; rfl
    have hdumps : sampleJson.dumps ⟨start, body⟩ = dumps ⟨start, body⟩ := rfl
    rw [hdumps, hlen, headerSize] at hframe
    simp only at hframe
    rw [hframes, List.length_append, hframe, Nat.mul_succ]
    have := ih (start + 1)
    omega

/-- The records are all beyond a log that ends before them. -/
theorem pendingOf_run {fs : List (LogFile Sample)} {start count body : ℕ}
    (h : (log fs).length = start) :
    sampleJson.pendingOf (sampleJson.indexOf "a" fs) (run start count body) =
      run start count body := by
  refine List.filter_eq_self.2 fun e he => ?_
  obtain ⟨i, hi, rfl⟩ := List.mem_map.1 he
  have hi' := (List.mem_range'_1.1 hi).1
  rw [decide_eq_true_eq]
  change ((log fs).length : ℤ) < (i : ℤ) + 1
  omega

/-- Appending the next records to a log of these records. -/
theorem append_run {batches : List (List Sample)} {d : SessionDir} {fs : List (LogFile Sample)}
    (start count body : ℕ) (h : sampleJson.Appends "a" batches d) (hc : sampleJson.Clean "a" d fs)
    (hstart : (log fs).length = start) (hpos : 0 < count) (hn : start + count < 10 ^ 21)
    (hb : body ≤ 16777000) :
    ∃ d', sampleJson.Appends "a" (batches ++ [run start count body]) d' ∧
      sampleJson.Clean "a" d' (grown fs (sampleJson.rolls fs (run start count body))
        (run start count body) []) := by
  have hne : run start count body ≠ [] := List.ne_nil_of_length_pos (by rwa [length_run])
  have hnum := numbered_run start count body
  obtain ⟨hok, hclean⟩ := hc.append_ok (pendingOf_run hstart) hne (hstart.symm ▸ hnum)
    (encodable_run hn hb)
  exact ⟨_, h.snoc hok, hclean⟩

end Sample

namespace Sample

/-- Three segments, the last of them starting at `10 ^ 20`. -/
def longFiles : List (LogFile Sample) :=
  [{ name := 1, entries := run 0 (2 * 10 ^ 19 - 1) 0 },
    { name := 2 * 10 ^ 19, entries := run (2 * 10 ^ 19 - 1) (8 * 10 ^ 19) 0 },
    { name := 10 ^ 20, entries := run (10 ^ 20 - 1) 1 0 }]

theorem rolls_run (fs : List (LogFile Sample)) (f : LogFile Sample) (es : List Sample)
    {start count : ℕ} (hf : f.entries = run start count 0) (hc : maxSegmentBytes < 20 * count) :
    sampleJson.rolls (fs ++ [f]) es = true := by
  have hlen := length_frames_run_ge start count 0
  rw [Json.rolls_concat, hf, decide_eq_true_eq]
  omega

/-- They are reached by three appends. -/
theorem appends_longFiles :
    ∃ batches d, sampleJson.Appends "a" batches d ∧ sampleJson.Clean "a" d longFiles := by
  obtain ⟨d₁, h₁, hc₁⟩ := append_run 0 (2 * 10 ^ 19 - 1) 0 .nil Json.clean_empty rfl (by decide)
    (by decide) (by decide)
  rw [grown_nil] at hc₁
  obtain ⟨d₂, h₂, hc₂⟩ := append_run (2 * 10 ^ 19 - 1) (8 * 10 ^ 19) 0 h₁ hc₁ (by simp) (by decide)
    (by decide) (by decide)
  have hroll := rolls_run [] { name := 1, entries := run 0 (2 * 10 ^ 19 - 1) 0 }
    (run (2 * 10 ^ 19 - 1) (8 * 10 ^ 19) 0) rfl (by decide)
  rw [List.nil_append] at hroll
  rw [hroll, grown_new] at hc₂
  obtain ⟨d₃, h₃, hc₃⟩ := append_run (10 ^ 20 - 1) 1 0 h₂ hc₂ (by simp) (by decide) (by decide)
    (by decide)
  rw [rolls_run _ _ _ rfl (by decide), grown_new] at hc₃
  refine ⟨_, d₃, h₃, ?_⟩
  unfold longFiles
  simpa using hc₃

/-- The third one comes second in the order of the names. -/
theorem segmentPaths_longFiles {d : SessionDir} (h : sampleJson.Clean "a" d longFiles) :
    d.segmentPaths = [segmentPath 1, segmentPath (10 ^ 20 : ℕ), segmentPath (2 * 10 ^ 19 : ℕ)] := by
  refine SessionDir.segmentPaths_eq (h.laid.keys.trans ?_) ?_
  · exact (List.Perm.swap _ _ []).cons _
  · decide +kernel

end Sample

namespace Json

/-- A segment is only accepted when its first record is the expected one. -/
theorem seq_of_indexSegment {E : Type} {J : Json E} {sessionId : String} {f : LogFile E}
    {b r : Building} {e : E} {rest : List E} {recover : Bool}
    (h : J.indexSegment sessionId recover f.path (J.bytes f) b = .ok r)
    (hf : f.entries = e :: rest) (he : ∀ e ∈ f.entries, J.Encodable e) (ht : f.torn = []) :
    J.seq e = b.expectedSeq := by
  unfold indexSegment at h
  rw [scanSegment_bytes he (ht ▸ J.reader.read_nil), ht, hf] at h
  simp only at h
  rw [Except.require_bind_eq_ok] at h
  obtain ⟨-, h⟩ := h
  rw [Except.require_bind_eq_ok] at h
  exact h.1

/-- With a segment that starts at `10 ^ 20`, the rebuild fails. -/
theorem not_appends_indexed : ¬ ∀ (batches : List (List Sample)) (d : SessionDir) (index : LogIndex),
    sampleJson.Appends "a" batches d → d.index = some index →
    (sampleJson.buildSessionLogIndex "a" false d).2 = .ok index := by
  intro h
  obtain ⟨batches, d, happ, hclean⟩ := Sample.appends_longFiles
  have hindex : d.index = some (sampleJson.indexOf "a" Sample.longFiles) :=
    hclean.index.resolve_right (by rintro ⟨-, ⟨⟩⟩)
  have hbuild := h batches d _ happ hindex
  -- the second file in the order of the names starts at `10 ^ 20`
  unfold buildSessionLogIndex at hbuild
  rw [Sample.segmentPaths_longFiles hclean, indexSegments] at hbuild
  simp only [Bool.false_eq_true, if_false] at hbuild
  obtain ⟨f₁, hf₁, h₁⟩ : ∃ f ∈ Sample.longFiles, f.path = segmentPath 1 ∧
      f.entries = Sample.run 0 (2 * 10 ^ 19 - 1) 0 := ⟨_, List.mem_cons_self, rfl, rfl⟩
  obtain ⟨f₃, hf₃, h₃⟩ : ∃ f ∈ Sample.longFiles, f.path = segmentPath (10 ^ 20 : ℕ) ∧
      f.entries = Sample.run (10 ^ 20 - 1) 1 0 :=
    ⟨_, List.mem_cons_of_mem _ (List.mem_cons_of_mem _ List.mem_cons_self), rfl, rfl⟩
  have htorn₁ := (hclean.whole f₁ hf₁).1
  have hnum : sampleJson.Numbered "a" 1 f₁.entries := h₁.2 ▸ Sample.numbered_run 0 _ 0
  rw [← h₁.1, hclean.laid.file hf₁, indexSegment_bytes (b := {}) (hclean.laid.encodable f₁ hf₁)
    (hclean.laid.torn f₁ hf₁) (fun _ => htorn₁) hnum] at hbuild
  simp only at hbuild
  rw [indexSegments] at hbuild
  simp only [Bool.false_eq_true, if_false] at hbuild
  rw [← h₃.1, hclean.laid.file hf₃] at hbuild
  generalize hseg : sampleJson.indexSegment "a" false f₃.path (sampleJson.bytes f₃) _ = r at hbuild
  cases r with
  | error e => cases hbuild
  | ok b =>
    have hseq := seq_of_indexSegment hseg h₃.2 (hclean.laid.encodable f₃ hf₃)
      (hclean.whole f₃ hf₃).1
    rw [h₁.2, Sample.length_run] at hseq
    change ((10 ^ 20 - 1 : ℕ) : ℤ) + 1 = 1 + ((2 * 10 ^ 19 - 1 : ℕ) : ℤ) at hseq
    exact absurd hseq (by decide)

/-- A log of two records. -/
theorem appends_two : ∃ d, sampleJson.Appends "a" [Sample.run 0 2 0] d ∧ NamesFit d ∧
    d.latestSessionLogSeq = 2 := by
  obtain ⟨d, happ, hclean⟩ := Sample.append_run 0 2 0 .nil clean_empty rfl (by decide) (by decide)
    (by decide)
  rw [grown_nil] at hclean
  have hsome := hclean.index.resolve_right (by rintro ⟨-, ⟨⟩⟩)
  refine ⟨d, happ, fun index hindex s hs => ?_, ?_⟩
  · obtain rfl := Option.some.inj (hsome.symm.trans hindex)
    rw [List.mem_singleton.1 hs]
    exact (by decide : (1 : ℤ) < 10 ^ 20)
  · rw [SessionDir.latestSessionLogSeq, hsome]
    rfl

theorem appends_indexed_two : ∃ d, sampleJson.Appends "a" [Sample.run 0 2 0] d ∧
    sampleJson.readSessionLog "a" none none d =
      .ok (sampleJson.appendedLog [Sample.run 0 2 0]) := by
  obtain ⟨d, happ, hfit, -⟩ := appends_two
  exact ⟨d, happ, (appends_indexed happ hfit).2.2.1⟩

end Json

end Aize
