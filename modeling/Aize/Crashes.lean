/-
  SessionLog files under crashes: fast and full recovery.

  A process that appends or recovers can be killed between any two of its
  writes, also in the middle of the bytes of a batch. `StorageAct` lists what can
  happen to the files of one Session, and `storageLog` is the transition system
  of all such histories.

  Fast recovery trusts the index when the last segment that it lists has the
  indexed size. It does not see a segment that a killed append has started after
  that one (`not_recovery_agrees`); as long as no append is killed there, fast
  and full recovery agree, and the log stays recoverable
  (`recovery_agrees`).
-/
import Aize.Lib.Transition
import Aize.RangeReads

namespace Aize

open LogFile

/-- What happens to the files of a Session: a whole call, or one that is killed. -/
inductive StorageAct (E : Type) where
  | append (entries : List E)
  /-- an append, killed after its recovery -/
  | prepared (entries : List E)
  /-- an append, killed after it has created the segment and written `n` bytes to it -/
  | writing (entries : List E) (n : ℕ)
  | recover (full : Bool)
  /-- a rebuild, killed after it has gone through `k` segments -/
  | truncating (k : ℕ)

namespace Json

variable {E : Type} (J : Json E) (sessionId : String)

/-- The directory after an action. -/
def runAct (d : SessionDir) : StorageAct E → SessionDir
  | .append entries => (J.appendSessionLogEntries sessionId entries d).1
  | .prepared entries => (J.prepareAppend sessionId entries d).1
  | .writing entries n =>
    match J.prepareAppend sessionId entries d with
    | (d, .ok (some w)) => w.writeBytes n d
    | (d, _) => d
  | .recover full => (J.recoverSessionLog sessionId full d).1
  | .truncating k => (J.indexSegments sessionId true (d.segmentPaths.take k) d {}).1

/-- The histories of the files of a Session. -/
def storageLog : TransitionSystem SessionDir (StorageAct E) where
  init d := d = .empty
  step d a d' := d' = J.runAct sessionId d a

/-- The write that an append of these entries is going to do, with the index it has
    recovered. -/
def planned (entries : List E) (d : SessionDir) : Option (LogIndex × Write) :=
  match J.prepareAppend sessionId entries d with
  | (d, .ok (some w)) => d.index.map fun index => (index, w)
  | _ => none

/-- The write stays within file names of 20 digits. -/
def Write.Fits (w : Write) : Prop := ∀ s ∈ w.index.segments, s.startSeq < 10 ^ 20

/-- The condition for recovery: names keep to 20 digits, and an append is not killed while
    it writes a segment that is new although the index lists one. -/
def Careful (d : SessionDir) : StorageAct E → Prop
  | .append entries => ∀ index w, J.planned sessionId entries d = some (index, w) → Write.Fits w
  | .writing entries _ => ∀ index w, J.planned sessionId entries d = some (index, w) →
      Write.Fits w ∧ (index.segments = [] ∨ w.path ∈ index.segments.map SegmentIndex.path)
  | _ => True

variable {J sessionId} {d : SessionDir} {fs fs₀ : List (LogFile E)}

/-! ## The invariant -/

/-- The files `fs₀` that the index knows are the files on disk, except that records, whole or
    torn, may have been added to the last of them; or the index is empty and there is at
    most one file. -/
def Behind (fs₀ fs : List (LogFile E)) : Prop :=
  (fs₀ = [] ∧ ∀ f ∈ fs, fs = [f]) ∨
  ∃ xs f es t, (∀ x ∈ xs, x.torn = []) ∧ fs₀ = xs ++ [f] ∧
    fs = xs ++ [{ f with entries := f.entries ++ es, torn := t }]

/-- **What kills leave**: a log whose index is behind in its last file at most. -/
structure Recoverable (J : Json E) (sessionId : String) (d : SessionDir) (fs : List (LogFile E)) :
    Prop where
  laid : J.Laid sessionId d fs
  named : Named 1 fs
  fits : ∀ f ∈ fs, f.name < 10 ^ 20
  index : (d.index = none ∧ fs = []) ∨
    ∃ fs₀, d.index = some (J.indexOf sessionId fs₀) ∧ Behind fs₀ fs

theorem Recoverable.inOrder (h : J.Recoverable sessionId d fs) : InOrder fs := h.named.inOrder h.fits

/-- Files without torn bytes are behind nothing. -/
theorem behind_refl (h : ∀ f ∈ fs, f.torn = []) : Behind fs fs := by
  rcases files_cases fs with rfl | ⟨xs, f, rfl⟩
  · exact .inl ⟨rfl, by simp⟩
  · refine .inr ⟨xs, f, [], [], fun x hx => h x (List.mem_append_left _ hx), rfl, ?_⟩
    have hf := h f (by simp)
    rw [List.append_nil, ← hf]

theorem torn_clean : ∀ f ∈ fs.map clean, f.torn = [] := by
  intro f hf
  obtain ⟨g, -, rfl⟩ := List.mem_map.1 hf
  rfl

theorem map_clean_of_torn (h : ∀ f ∈ fs, f.torn = []) : fs.map clean = fs := by
  conv_rhs => rw [← List.map_id fs]
  refine List.map_congr_left fun f hf => ?_
  rw [clean, ← h f hf]
  rfl

/-- **An index that is trusted is the index of the files.** -/
theorem Recoverable.trusted (h : J.Recoverable sessionId d fs) {index : LogIndex}
    (ht : trustedIndex d = some index) :
    index = J.indexOf sessionId fs ∧ d.index = some index ∧ ∀ f ∈ fs, f.torn = [] := by
  rcases h.index with ⟨hnone, -⟩ | ⟨fs₀, hindex, ⟨rfl, -⟩ | ⟨xs, f, es, t, hxs, rfl, rfl⟩⟩
  · rw [trustedIndex_nil J sessionId (.inl hnone)] at ht
    cases ht
  · rw [trustedIndex_nil J sessionId (.inr hindex)] at ht
    cases ht
  · -- the size says that nothing has been added to the last file
    have hfile := h.laid.files { f with entries := f.entries ++ es, torn := t } (by simp)
    have htrust := trustedIndex_concat xs f hindex hfile
    rw [ht] at htrust
    split_ifs at htrust with hlen
    obtain rfl := Option.some.inj htrust
    simp only [bytes, frames_append, List.length_append] at hlen
    have hes : es = [] := J.frames_eq_nil.1 (List.eq_nil_of_length_eq_zero (by omega))
    have ht₀ : t = [] := List.eq_nil_of_length_eq_zero (by omega)
    subst hes ht₀
    refine ⟨?_, hindex, fun g hg => ?_⟩
    · have hsame := J.indexOf_clean sessionId (xs ++ [f])
      rw [← hsame, ← J.indexOf_clean sessionId (xs ++ [_]), List.map_append, List.map_append,
        List.append_nil]
      rfl
    · rcases List.mem_append.1 hg with hg | hg
      · exact hxs g hg
      · rw [List.mem_singleton.1 hg]

/-- **Recovery, fast or full**, gives the index of the files, and leaves them without torn
    bytes and with this index. -/
theorem Recoverable.recover (h : J.Recoverable sessionId d fs) (full : Bool) :
    (J.recoverSessionLog sessionId full d).2 = .ok (J.indexOf sessionId fs) ∧
      J.Recoverable sessionId (J.recoverSessionLog sessionId full d).1 (fs.map clean) ∧
      (J.recoverSessionLog sessionId full d).1.index = some (J.indexOf sessionId fs) := by
  have hs := h.inOrder
  have hfits : ∀ f ∈ fs.map clean, f.name < 10 ^ 20 := by
    intro f hf
    obtain ⟨g, hg, rfl⟩ := List.mem_map.1 hf
    exact h.fits g hg
  unfold recoverSessionLog
  cases ht : (if full = true then none else trustedIndex d) with
  | some index =>
    have htrust : trustedIndex d = some index := by
      cases full with
      | true => cases ht
      | false => exact ht
    obtain ⟨rfl, hindex, hclean⟩ := h.trusted htrust
    refine ⟨rfl, ?_, hindex⟩
    rw [map_clean_of_torn hclean]
    exact h
  | none =>
    rw [h.laid.build hs true (fun h => by cases h)]
    refine ⟨rfl, ⟨(h.laid.truncate_all hs).reindex _, named_clean.2 h.named, hfits, .inr ?_⟩, rfl⟩
    exact ⟨fs.map clean, by rw [J.indexOf_clean], behind_refl torn_clean⟩

/-! ## One step -/

/-- What a planned append finds and is going to write. -/
theorem Recoverable.planned (h : J.Recoverable sessionId d fs) {entries : List E}
    {index : LogIndex} {w : Write} (hw : J.planned sessionId entries d = some (index, w)) :
    index = J.indexOf sessionId fs ∧ ∃ d₁, J.prepareAppend sessionId entries d = (d₁, .ok (some w)) ∧
      J.Recoverable sessionId d₁ (fs.map clean) ∧ d₁.index = some (J.indexOf sessionId fs) ∧
      J.planWrite sessionId entries (J.indexOf sessionId (fs.map clean)) d₁ = .ok (some w) := by
  obtain ⟨hok, hrec, hindex⟩ := h.recover false
  unfold Json.planned at hw
  cases hprep : J.prepareAppend sessionId entries d with
  | mk d₁ r =>
    rw [hprep] at hw
    rcases r with e | _ | w'
    · cases hw
    · cases hw
    simp only [Option.map_eq_some_iff] at hw
    obtain ⟨index', hindex', heq⟩ := hw
    obtain ⟨rfl, rfl⟩ := Prod.mk.inj heq
    unfold prepareAppend at hprep
    by_cases hnil : entries.isEmpty = true
    · rw [if_pos hnil] at hprep
      cases hprep
    rw [if_neg hnil] at hprep
    generalize J.recoverSessionLog sessionId false d = r at hok hrec hindex hprep
    obtain ⟨d₂, o⟩ := r
    simp only at hok hrec hindex
    subst hok
    simp only [Prod.mk.injEq] at hprep
    obtain ⟨rfl, hplan⟩ := hprep
    refine ⟨Option.some.inj (hindex'.symm.trans hindex), d₂, rfl, hrec, hindex, ?_⟩
    rw [J.indexOf_clean]
    exact hplan

/-- The directory that an append finds after its recovery. -/
theorem Recoverable.prepared (h : J.Recoverable sessionId d fs) (entries : List E) :
    (∃ fs', J.Recoverable sessionId (J.prepareAppend sessionId entries d).1 fs') ∧
      ∀ d₁ w, J.prepareAppend sessionId entries d = (d₁, .ok (some w)) →
        J.planned sessionId entries d = some (J.indexOf sessionId fs, w) := by
  obtain ⟨hok, hrec, hindex⟩ := h.recover false
  unfold Json.planned
  unfold prepareAppend
  by_cases hnil : entries.isEmpty = true
  · rw [if_pos hnil]
    exact ⟨⟨fs, h⟩, by rintro d₁ w ⟨⟩⟩
  · rw [if_neg hnil]
    generalize J.recoverSessionLog sessionId false d = r at hok hrec hindex
    obtain ⟨d₂, o⟩ := r
    simp only at hok hrec hindex
    subst hok
    refine ⟨⟨_, hrec⟩, fun d₁ w heq => ?_⟩
    simp only [Prod.mk.injEq] at heq
    obtain ⟨rfl, hplan⟩ := heq
    simp only [hplan, hindex]
    rfl

/-- The names after an append fit when the index that it writes does. -/
theorem fits_grown {r : Bool} {es es' : List E} {t : List UInt8} {w : Write}
    (hname : Named 1 (grown fs r es []))
    (hw : w.index = J.indexOf sessionId (grown fs r es [])) (hfit : Write.Fits w) :
    ∀ f ∈ grown fs r es' t, f.name < 10 ^ 20 := by
  have hnames : (grown fs r es' t).map LogFile.name = (grown fs r es []).map LogFile.name := by
    rcases files_cases fs with rfl | ⟨xs, f, rfl⟩
    · rw [grown_nil, grown_nil]; rfl
    · cases r with
      | true => rw [grown_new, grown_new]; simp
      | false => rw [grown_last, grown_last]; simp
  intro f hf
  have hmem : f.name ∈ (grown fs r es []).map LogFile.name := hnames ▸ List.mem_map_of_mem hf
  obtain ⟨g, hg, hgf⟩ := List.mem_map.1 hmem
  have hstart : ((g.name : ℕ) : ℤ) ∈ (J.segmentsFrom 1 (grown fs r es [])).map
      SegmentIndex.startSeq := by
    have := startSeq_segmentsFrom (J := J) hname
    push_cast at this
    rw [this]
    exact List.mem_map_of_mem (f := fun f : LogFile E => (f.name : ℤ)) hg
  obtain ⟨s, hs, hsg⟩ := List.mem_map.1 hstart
  unfold Write.Fits at hfit
  rw [hw] at hfit
  have := hfit s hs
  rw [hsg, hgf] at this
  exact_mod_cast this

/-- The first `n` bytes of a payload are whole frames and a torn one, also beyond its end. -/
theorem payload_take {pending : List E} (he : ∀ e ∈ pending, J.Encodable e) (n : ℕ) :
    ∃ p t, (J.frames pending).take n = J.frames p ++ t ∧ p <+: pending ∧ J.reader.read t = none := by
  rcases le_total n (J.frames pending).length with hn | hn
  · obtain ⟨k, -, t, htake, ht, -⟩ := frames_take he hn
    exact ⟨pending.take k, t, htake, List.take_prefix _ _, ht⟩
  · exact ⟨pending, [], by rw [List.take_of_length_le hn, List.append_nil], List.prefix_refl _,
      J.reader.read_nil⟩

/-- **Bytes of a planned append**, on disk with the index still to be replaced. -/
theorem Recoverable.wrote (h : J.Recoverable sessionId d fs) {entries : List E}
    {index : LogIndex} {w : Write} (hw : J.planned sessionId entries d = some (index, w))
    (hfit : Write.Fits w) (n : ℕ)
    (hlisted : index.segments = [] ∨ w.path ∈ index.segments.map SegmentIndex.path) :
    ∃ fs', J.Recoverable sessionId (J.runAct sessionId d (.writing entries n)) fs' := by
  obtain ⟨rfl, d₁, hprep, hrec, hindex, hplan⟩ := h.planned hw
  obtain ⟨pending, -, -, he, hpath, hpay, hwindex, hlaid⟩ :=
    planWrite_laid hrec.laid hrec.named torn_clean hplan
  have hroll : J.rolls (fs.map clean) pending = false := by
    cases hr : J.rolls (fs.map clean) pending with
    | false => rfl
    | true =>
      -- a new file is not one that the index lists
      exfalso
      obtain ⟨hne, hent⟩ := rolls_ne_nil hrec.named hr
      rcases hlisted with hnil | hmem
      · have := congrArg (List.map SegmentIndex.path) hnil
        rw [indexOf, J.path_segmentsFrom] at this
        exact hne (by rw [List.map_eq_nil_iff.1 this]; rfl)
      · rw [indexOf, J.path_segmentsFrom, hpath hr] at hmem
        obtain ⟨f, hf, hfp⟩ := List.mem_map.1 hmem
        have hgrown : Named 1 (fs.map clean ++
            [{ name := (log (fs.map clean)).length + 1, entries := [], torn := [] }]) :=
          named_concat.2 ⟨hrec.named, hent, Nat.add_comm _ _⟩
        have hnd := hgrown.nodup
        rw [List.map_append, List.nodup_append] at hnd
        refine hnd.2.2 f.path ?_ _ List.mem_cons_self ?_
        · rw [paths_clean]
          exact List.mem_map_of_mem hf
        · rw [hfp]
          rfl
  rw [hroll] at hwindex hlaid
  obtain ⟨p, t, htake, hpre, ht⟩ := payload_take he n
  refine ⟨grown (fs.map clean) false p t, ?_⟩
  have hrun : J.runAct sessionId d (.writing entries n) = w.writeBytes n d₁ := by
    rw [runAct, hprep]
  rw [hrun]
  have hn₀ : ∀ es u, Named 1 (grown (fs.map clean) false es u) := fun es u =>
    named_grown hrec.named fun hf => absurd hf Bool.false_ne_true
  refine ⟨hlaid (hpay ▸ htake) hpre ht, hn₀ p t, fits_grown (hn₀ pending []) hwindex hfit, .inr ?_⟩
  refine ⟨fs.map clean, by rw [J.indexOf_clean]; exact hindex, ?_⟩
  rcases files_cases (fs.map clean) with hnil | ⟨xs, f, hxs⟩
  · rw [hnil, grown_nil]
    exact .inl ⟨rfl, by simp⟩
  · rw [hxs, grown_last]
    exact .inr ⟨xs, f, p, t, fun x hx => torn_clean x (hxs ▸ List.mem_append_left _ hx), rfl, rfl⟩

/-- **A whole append.** -/
theorem Recoverable.append (h : J.Recoverable sessionId d fs) {entries : List E}
    (hc : J.Careful sessionId d (.append entries)) :
    ∃ fs', J.Recoverable sessionId (J.appendSessionLogEntries sessionId entries d).1 fs' := by
  obtain ⟨⟨fs', hprep⟩, hplanned⟩ := h.prepared entries
  unfold appendSessionLogEntries
  cases hp : J.prepareAppend sessionId entries d with
  | mk d₁ r =>
    rw [hp] at hprep
    rcases r with e | _ | w
    · exact ⟨fs', hprep⟩
    · exact ⟨fs', hprep⟩
    obtain ⟨-, d₂, hprep₂, hrec, -, hplan⟩ := h.planned (hplanned d₁ w hp)
    obtain rfl : d₁ = d₂ := (Prod.mk.inj (hp.symm.trans hprep₂)).1
    obtain ⟨pending, -, -, -, -, hpay, hwindex, hlaid⟩ :=
      planWrite_laid hrec.laid hrec.named torn_clean hplan
    have htake : w.payload.take w.payload.length = J.frames pending ++ [] := by
      rw [List.take_length, List.append_nil, hpay]
    have hn₀ : Named 1 (grown (fs.map clean) (J.rolls (fs.map clean) pending) pending []) :=
      named_grown hrec.named fun hr => (rolls_ne_nil hrec.named hr).2
    exact ⟨_, (hlaid htake (List.prefix_refl _) J.reader.read_nil).reindex _, hn₀,
      fits_grown hn₀ hwindex (hc _ w (hplanned d₁ w hp)),
      .inr ⟨_, congrArg some hwindex, behind_refl (torn_grown torn_clean)⟩⟩

/-- A rebuild that is killed on its way. -/
theorem Recoverable.truncating (h : J.Recoverable sessionId d fs) (k : ℕ) :
    ∃ fs', J.Recoverable sessionId (J.runAct sessionId d (.truncating k)) fs' := by
  have hs := h.inOrder
  have hrun : J.runAct sessionId d (.truncating k) =
      J.truncateSegments (d.segmentPaths.take k) d := by
    have htake : (log (fs.take k)) <+: log fs := by
      conv_rhs => rw [← List.take_append_drop k fs, log_append]
      exact List.prefix_append _ _
    obtain ⟨rest, hrest⟩ := htake
    have hnum := h.laid.numbered
    rw [← hrest] at hnum
    have hseg := indexSegments_files true (b := {}) (fun f hf => h.laid.files f (List.mem_of_mem_take hf))
      ((List.Sublist.map _ (List.take_sublist k fs)).nodup (InOrder.nodup hs))
      (fun f hf => h.laid.encodable f (List.mem_of_mem_take hf))
      (fun f hf => h.laid.torn f (List.mem_of_mem_take hf)) (fun h => by cases h)
      (numbered_append.1 hnum).1
    rw [runAct, h.laid.segmentPaths hs, ← List.map_take, hseg]
    rfl
  have hlaid := h.laid.truncate hs k
  have hnames : ∀ f ∈ (fs.take k).map clean ++ fs.drop k, ∃ g ∈ fs, f.name = g.name := by
    intro f hf
    rcases List.mem_append.1 hf with hf | hf
    · obtain ⟨g, hg, rfl⟩ := List.mem_map.1 hf
      exact ⟨g, List.mem_of_mem_take hg, rfl⟩
    · exact ⟨f, List.mem_of_mem_drop hf, rfl⟩
  have hnamed : Named 1 ((fs.take k).map clean ++ fs.drop k) := by
    rw [← named_clean, List.map_append, List.map_map]
    have : (fs.take k).map (clean ∘ clean) ++ (fs.drop k).map clean = fs.map clean := by
      rw [show (clean ∘ clean : LogFile E → LogFile E) = clean from rfl, ← List.map_append,
        List.take_append_drop]
    rw [this]
    exact named_clean.2 h.named
  have hindex : (J.truncateSegments (d.segmentPaths.take k) d).index = d.index := rfl
  rw [hrun]
  refine ⟨_, hlaid, hnamed, fun f hf => ?_, ?_⟩
  · obtain ⟨g, hg, hfg⟩ := hnames f hf
    rw [hfg]
    exact h.fits g hg
  · rw [hindex]
    rcases h.index with ⟨hnone, rfl⟩ | ⟨fs₀, hsome, ⟨rfl, hone⟩ | ⟨xs, f, es, t, hxs, rfl, rfl⟩⟩
    · exact .inl ⟨hnone, by simp⟩
    · refine .inr ⟨[], hsome, .inl ⟨rfl, ?_⟩⟩
      rcases fs with _ | ⟨f, fs⟩
      · simp
      · obtain rfl : fs = [] := by simpa using hone f List.mem_cons_self
        cases k <;> simp
    · -- only the last file has torn bytes
      refine .inr ⟨xs ++ [f], hsome, ?_⟩
      have hclean := map_clean_of_torn hxs
      by_cases hk : k ≤ xs.length
      · refine .inr ⟨xs, f, es, t, hxs, rfl, ?_⟩
        have htake : ((xs ++ [{ f with entries := f.entries ++ es, torn := t }]).take k).map clean =
            (xs ++ [{ f with entries := f.entries ++ es, torn := t }]).take k := by
          rw [List.take_append_of_le_length hk]
          exact map_clean_of_torn fun x hx => hxs x (List.mem_of_mem_take hx)
        rw [htake, List.take_append_drop]
      · refine .inr ⟨xs, f, es, [], hxs, rfl, ?_⟩
        rw [List.take_of_length_le (by simp; omega), List.drop_of_length_le (by simp; omega),
          List.append_nil, List.map_append, hclean]
        rfl

/-- **Every careful step keeps the log recoverable.** -/
theorem Recoverable.step (h : J.Recoverable sessionId d fs) {a : StorageAct E}
    (hc : J.Careful sessionId d a) : ∃ fs', J.Recoverable sessionId (J.runAct sessionId d a) fs' := by
  cases a with
  | append entries => exact h.append hc
  | prepared entries => exact (h.prepared entries).1
  | writing entries n =>
    cases hw : J.planned sessionId entries d with
    | some x =>
      obtain ⟨index, w⟩ := x
      obtain ⟨hfit, hlisted⟩ := hc index w hw
      exact h.wrote hw hfit n hlisted
    | none =>
      -- nothing is written
      obtain ⟨⟨fs', hprep⟩, hplanned⟩ := h.prepared entries
      refine ⟨fs', ?_⟩
      cases hp : J.prepareAppend sessionId entries d with
      | mk d₁ r =>
        rw [hp] at hprep
        rcases r with e | _ | w
        · rw [runAct, hp]
          exact hprep
        · rw [runAct, hp]
          exact hprep
        · have := hplanned d₁ w hp
          rw [hw] at this
          cases this
  | recover full => exact ⟨_, (h.recover full).2.1⟩
  | truncating k => exact h.truncating k

theorem recoverable_empty : J.Recoverable sessionId .empty [] where
  laid := clean_empty.laid
  named := trivial
  fits := by simp
  index := .inl ⟨rfl, rfl⟩

/-- Every state of a careful history is recoverable. -/
theorem recoverable_of_reachable
    (h : ((J.storageLog sessionId).restrict (J.Careful sessionId)).Reachable d) :
    ∃ fs, J.Recoverable sessionId d fs := by
  refine h.of_step (P := fun d => ∃ fs, J.Recoverable sessionId d fs) (fun d hd => ?_)
    fun d a d' _ hd hstep => ?_
  · obtain rfl : d = .empty := hd
    exact ⟨[], recoverable_empty⟩
  · obtain ⟨fs, hfs⟩ := hd
    obtain ⟨rfl, hc⟩ := hstep
    exact hfs.step hc

/-! ## Fast and full recovery -/

/-- The next records of a recovered log can be appended. -/
theorem Recoverable.append_ok (h : J.Recoverable sessionId d fs) {entries : List E}
    (hn : J.Numbered sessionId ((log fs).length + 1) entries) (he : ∀ e ∈ entries, J.Encodable e) :
    (J.appendSessionLogEntries sessionId entries d).2 = .ok () := by
  obtain ⟨hok, hrec, -⟩ := h.recover false
  unfold appendSessionLogEntries prepareAppend
  by_cases hnil : entries.isEmpty = true
  · rw [if_pos hnil]
  · rw [if_neg hnil]
    generalize J.recoverSessionLog sessionId false d = r at hok hrec
    obtain ⟨d₁, o⟩ := r
    simp only at hok hrec
    subst hok
    have hpend : J.pendingOf (J.indexOf sessionId fs) entries = entries := by
      refine List.filter_eq_self.2 fun e hmem => ?_
      have := (hn.le_seq e hmem).1
      rw [decide_eq_true_eq]
      change ((log fs).length : ℤ) < J.seq e
      omega
    obtain ⟨w, hw⟩ := planWrite_ok (d := d₁) hpend (fun h₀ => hnil (h₀ ▸ rfl)) hn he
    simp only [hw]

/-- **Fast recovery agrees with full recovery** in every history in which no append is
    killed while it writes a segment that is new although the index lists one (and names
    keep to 20 digits): both give the same index, and after the next records have been
    appended the log recovers again. -/
theorem recovery_agrees
    (h : ((J.storageLog sessionId).restrict (J.Careful sessionId)).Reachable d) :
    ∃ index, (J.recoverSessionLog sessionId false d).2 = .ok index ∧
      (J.recoverSessionLog sessionId true d).2 = .ok index ∧
      ∀ entries, J.Numbered sessionId (index.latestSeq + 1) entries →
        (∀ e ∈ entries, J.Encodable e) → J.Careful sessionId d (.append entries) →
        (J.appendSessionLogEntries sessionId entries d).2 = .ok () ∧
        ∃ index', (J.recoverSessionLog sessionId true
          (J.appendSessionLogEntries sessionId entries d).1).2 = .ok index' := by
  obtain ⟨fs, hfs⟩ := recoverable_of_reachable h
  refine ⟨J.indexOf sessionId fs, (hfs.recover false).1, (hfs.recover true).1,
    fun entries hn he hc => ⟨hfs.append_ok hn he, ?_⟩⟩
  obtain ⟨fs', hfs'⟩ := hfs.append hc
  exact ⟨_, (hfs'.recover true).1⟩

theorem recovery_agrees_torn : ∃ d index,
    d = sampleJson.runAct "a" .empty (.writing (Sample.run 0 2 0) 30) ∧
    (sampleJson.recoverSessionLog "a" false d).2 = .ok index ∧
    (sampleJson.recoverSessionLog "a" true d).2 = .ok index := by
  have hcareful : sampleJson.Careful "a" .empty (.writing (Sample.run 0 2 0) 30) := by
    intro index w hw
    obtain ⟨rfl, d₁, -, hrec, -, hplan⟩ := recoverable_empty.planned hw
    obtain ⟨pending, -, -, -, -, -, hindex, -⟩ :=
      planWrite_laid hrec.laid hrec.named torn_clean hplan
    refine ⟨fun s hs => ?_, .inl rfl⟩
    rw [hindex, List.map_nil, grown_nil] at hs
    rw [List.mem_singleton.1 hs]
    exact (by decide : (1 : ℤ) < 10 ^ 20)
  have hreach : ((sampleJson.storageLog "a").restrict (sampleJson.Careful "a")).Reachable
      (sampleJson.runAct "a" .empty (.writing (Sample.run 0 2 0) 30)) :=
    TransitionSystem.Reachable.step (.init rfl) ⟨rfl, hcareful⟩
  obtain ⟨index, hfast, hfull, -⟩ := recovery_agrees hreach
  exact ⟨_, index, rfl, hfast, hfull⟩

/-- An append that is killed after it has written a whole batch to a new segment. -/
theorem Clean.writing_new (h : J.Clean sessionId d fs) {entries : List E} (hne : entries ≠ [])
    (hp : J.pendingOf (J.indexOf sessionId fs) entries = entries)
    (hn : J.Numbered sessionId ((log fs).length + 1) entries) (he : ∀ e ∈ entries, J.Encodable e)
    (hr : J.rolls fs entries = true) :
    ∃ d', d' = J.runAct sessionId d (.writing entries (J.frames entries).length) ∧
      J.Laid sessionId d' (fs ++ [{ name := (log fs).length + 1, entries := entries, torn := [] }]) ∧
      d'.index = some (J.indexOf sessionId fs) := by
  obtain ⟨w, hw⟩ := planWrite_ok (d := { d with index := some (J.indexOf sessionId fs) }) hp hne hn he
  obtain ⟨pending, rfl, -, -, -, hpay, -, hlaid⟩ :=
    planWrite_laid h.indexed.laid h.named (fun f hf => (h.whole f hf).1) hw
  rw [hp] at hpay hlaid
  have hnil : ¬entries.isEmpty = true := fun h₀ => hne (List.isEmpty_iff.1 h₀)
  have htake : w.payload.take (J.frames entries).length = J.frames entries ++ [] := by
    rw [hpay, List.take_length, List.append_nil]
  have hafter := hlaid htake (List.prefix_refl _) J.reader.read_nil
  rw [hr, grown_new] at hafter
  refine ⟨_, rfl, ?_, ?_⟩ <;>
    simp only [runAct, prepareAppend, if_neg hnil, h.recover, hw]
  · exact hafter
  · rfl

/-- A killed append that has started a new segment is not seen by fast recovery. -/
theorem not_recovery_agrees : ¬ ∀ d, (sampleJson.storageLog "a").Reachable d →
    (sampleJson.recoverSessionLog "a" false d).2 = (sampleJson.recoverSessionLog "a" true d).2 := by
  intro h
  -- five records of 16 MiB, and then one more in a new segment, without the index
  obtain ⟨b, hb⟩ : ∃ b, b = 16777000 := ⟨_, rfl⟩
  have hpend : sampleJson.pendingOf (sampleJson.indexOf "a" []) (Sample.run 0 5 b) =
      Sample.run 0 5 b := Sample.pendingOf_run rfl
  obtain ⟨hok, hclean⟩ := clean_empty.append_ok hpend (by rw [Sample.run_pos (by decide)]; simp)
    (Sample.numbered_run 0 5 b) (Sample.encodable_run (by decide) hb.le)
  rw [grown_nil] at hclean
  have hreach : (sampleJson.storageLog "a").Reachable
      (sampleJson.appendSessionLogEntries "a" (Sample.run 0 5 b) .empty).1 :=
    TransitionSystem.Reachable.step (.init rfl) (a := .append (Sample.run 0 5 b)) rfl
  generalize (sampleJson.appendSessionLogEntries "a" (Sample.run 0 5 b) .empty).1 = d at *
  have hlong := Sample.length_frames_run_ge 0 5 b
  have hroll : sampleJson.rolls [{ name := 1, entries := Sample.run 0 5 b }] (Sample.run 5 1 0) =
      true := by
    have := rolls_concat (J := sampleJson) [] { name := 1, entries := Sample.run 0 5 b }
      (Sample.run 5 1 0)
    rw [List.nil_append] at this
    rw [this, decide_eq_true_eq, maxSegmentBytes]
    simp only
    omega
  have hpend' : sampleJson.pendingOf (sampleJson.indexOf "a"
      [{ name := 1, entries := Sample.run 0 5 b }]) (Sample.run 5 1 0) = Sample.run 5 1 0 :=
    Sample.pendingOf_run (by simp)
  obtain ⟨d', hd', hlaid, hindex⟩ := hclean.writing_new (by rw [Sample.run_pos (by decide)]; simp)
    hpend' (by simpa using Sample.numbered_run 5 1 0)
    (Sample.encodable_run (by decide) (by decide)) hroll
  have hreach' : (sampleJson.storageLog "a").Reachable d' := hreach.step hd'
  have hfile := hlaid.files { name := 1, entries := Sample.run 0 5 b } (by simp)
  have htrust := trustedIndex_concat [] _ hindex hfile
  rw [bytes, List.append_nil, if_pos rfl] at htrust
  have hs : InOrder ([{ name := 1, entries := Sample.run 0 5 b }] ++
      [{ name := (log [{ name := 1, entries := Sample.run 0 5 b : LogFile Sample }]).length + 1,
         entries := Sample.run 5 1 0, torn := [] }] : List (LogFile Sample)) := by
    have hne : Sample.run 0 5 b ≠ [] := by rw [Sample.run_pos (by decide)]; simp
    refine Named.inOrder (k := 1) (named_concat.2 ⟨by simp [Named], by simpa using hne, ?_⟩) ?_
    · exact Nat.add_comm _ _
    · intro f hf
      rcases List.mem_append.1 hf with hf | hf
      · rw [List.mem_singleton.1 hf]
        exact (by decide : 1 < 10 ^ 20)
      · rw [List.mem_singleton.1 hf]
        simp
  have hsame := h d' hreach'
  unfold recoverSessionLog at hsame
  rw [if_neg Bool.false_ne_true, htrust, if_pos rfl, hlaid.build hs true (fun h => by cases h)] at hsame
  have hlatest := congrArg LogIndex.latestSeq (Except.ok.inj hsame)
  simp [indexOf] at hlatest

end Json

end Aize
