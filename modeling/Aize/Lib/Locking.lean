/-
  Processes that share a disk and a lock.

  A `Scan` reads the disk, one read at a time; `alone` is its result when nothing
  writes in between, `Under` says what it comes to when others write as `R` allows.
  A transaction is a scan that ends in a `Durable` computation, and holds the lock
  from its first read to its last write. A query is a scan that holds no lock.

  In `locking`, every read and every write is a step of its own, the processes take
  their steps in any order, and any of them can be killed at any time.
  `Run.serial`: the transactions do to the disk what they do one after the other,
  in the order in which they get the lock. `Run.answers`: what the queries come to.
-/
import Mathlib.Data.List.Chain
import Mathlib.Logic.Function.Basic
import Aize.Lib.Durable
import Aize.Lib.Transition

/-! ## Scans -/

/-- A computation that reads the disk `σ`, one read at a time. -/
inductive Scan (ε σ α : Type) where
  | done (result : Except ε α)
  | read (next : σ → Scan ε σ α)

namespace Scan

variable {ε σ α β : Type}

protected def bind : Scan ε σ α → (α → Scan ε σ β) → Scan ε σ β
  | done (.ok a), f => f a
  | done (.error e), _ => done (.error e)
  | read next, f => read fun s => (next s).bind f

instance : Monad (Scan ε σ) where
  pure a := done (.ok a)
  bind := Scan.bind

/-- One read. -/
def look (f : σ → Except ε α) : Scan ε σ α := read fun s => done (f s)

/-- The result on a disk that does not change. -/
def alone : Scan ε σ α → σ → Except ε α
  | done r, _ => r
  | read next, s => (next s).alone s

@[simp] theorem alone_pure (a : α) (s : σ) : (pure a : Scan ε σ α).alone s = .ok a := rfl

@[simp] theorem alone_look (f : σ → Except ε α) (s : σ) : (look f).alone s = f s := rfl

theorem alone_bind (m : Scan ε σ α) (f : α → Scan ε σ β) (s : σ) :
    (m >>= f).alone s = m.alone s >>= fun a => (f a).alone s := by
  induction m with
  | done r => cases r <;> rfl
  | read next ih => exact ih s

theorem alone_foldlM {γ : Type} {f : β → γ → Scan ε σ β} {g : β → γ → Except ε β} {s : σ}
    {l : List γ} (h : ∀ b, ∀ c ∈ l, (f b c).alone s = g b c) (b : β) :
    (l.foldlM f b).alone s = l.foldlM g b := by
  induction l generalizing b with
  | nil => rfl
  | cons c l ih =>
    rw [List.foldlM_cons, List.foldlM_cons, alone_bind, h b c List.mem_cons_self]
    congr 1
    funext b'
    exact ih (fun b c hc => h b c (List.mem_cons_of_mem _ hc)) b'

section
variable (I : σ → Prop) (R : σ → σ → Prop)

/-- From a disk on that changes only as `R` allows, and keeps `I`, the scan ends without
    an error, in what `Q` allows. -/
def Under (Q : α → Prop) : Scan ε σ α → σ → Prop
  | done r, _ => ∃ a, r = .ok a ∧ Q a
  | read next, s => ∀ s', R s s' → I s' → (next s').Under Q s'

variable {I R} {P : α → Prop} {Q : β → Prop} {m : Scan ε σ α} {f : α → Scan ε σ β} {s s' : σ}

theorem Under.mono {P' : α → Prop} (h : m.Under I R P s) (hP : ∀ a, P a → P' a) :
    m.Under I R P' s := by
  induction m generalizing s with
  | done r => exact h.imp fun a => And.imp_right (hP a)
  | read next ih => exact fun s' hs hi => ih s' (h s' hs hi)

theorem under_look {g : σ → Except ε α} :
    (look g).Under I R P s ↔ ∀ s', R s s' → I s' → ∃ a, g s' = .ok a ∧ P a := Iff.rfl

/-- One read, and then the rest. -/
theorem under_look_bind {g : σ → Except ε α} : (look g >>= f).Under I R Q s ↔
    ∀ s', R s s' → I s' → ((done (g s') : Scan ε σ α) >>= f).Under I R Q s' := Iff.rfl

theorem Under.later (htrans : ∀ s₁ s₂ s₃, R s₁ s₂ → R s₂ s₃ → R s₁ s₃) (h : m.Under I R P s)
    (hs : R s s') : m.Under I R P s' := by
  cases m with
  | done r => exact h
  | read next => exact fun s₁ hs₁ => h s₁ (htrans _ _ _ hs hs₁)

/-- When nobody writes. -/
theorem Under.alone (hrefl : ∀ s, R s s) (hs : I s) (h : m.Under I R P s) :
    ∃ a, m.alone s = .ok a ∧ P a := by
  induction m with
  | done r => exact h
  | read next ih => exact ih s (h s (hrefl s) hs)

theorem Under.bind (htrans : ∀ s₁ s₂ s₃, R s₁ s₂ → R s₂ s₃ → R s₁ s₃) (hrefl : ∀ s, R s s)
    (hm : m.Under I R P s) (hf : ∀ a s', R s s' → P a → (f a).Under I R Q s') :
    (m >>= f).Under I R Q s := by
  induction m generalizing s with
  | done r =>
    obtain ⟨a, rfl, ha⟩ := hm
    exact hf a s (hrefl s) ha
  | read next ih =>
    intro s₁ h₁ hi
    exact ih s₁ (hm s₁ h₁ hi) fun a s₂ h₂ => hf a s₂ (htrans _ _ _ h₁ h₂)

/-- A loop keeps what each round keeps, of the elements that it has come through. -/
theorem Under.foldlM {γ : Type} {f : β → γ → Scan ε σ β} {P : List γ → β → Prop}
    (htrans : ∀ s₁ s₂ s₃, R s₁ s₂ → R s₂ s₃ → R s₁ s₃) (hrefl : ∀ s, R s s) {l : List γ}
    (hf : ∀ done c rest b s', l = done ++ c :: rest → R s s' → P done b →
      (f b c).Under I R (P (done ++ [c])) s') {b : β} (hb : P [] b) :
    (l.foldlM f b).Under I R (P l) s := by
  suffices h : ∀ rest done b s', l = done ++ rest → R s s' → P done b →
      (rest.foldlM f b).Under I R (P l) s' from h l [] b s rfl (hrefl s) hb
  intro rest
  induction rest with
  | nil =>
    intro done b s' hl _ hP
    rw [List.append_nil] at hl
    exact ⟨b, rfl, hl ▸ hP⟩
  | cons c rest ih =>
    intro done b s' hl hs hP
    rw [List.foldlM_cons]
    refine (hf done c rest b s' hl hs hP).bind htrans hrefl fun b' s'' hs' hP' => ?_
    exact ih (done ++ [c]) b' s'' (by rw [hl, List.append_assoc]; rfl) (htrans _ _ _ hs hs') hP'

end

end Scan

/-! ## Writes that others read -/

namespace Durable

variable {ε σ τ α β : Type}

/-- Each write of `m` changes the disk as `R` allows, and keeps `I`. -/
def Steps (I : σ → Prop) (R : σ → σ → Prop) (m : Durable ε σ α) : Prop :=
  ∀ s, I s → (s :: (m s).1).IsChain R ∧ ∀ s' ∈ (m s).1, I s'

variable {I : σ → Prop} {R : σ → σ → Prop} {m : Durable ε σ α}

theorem Steps.after (h : m.Steps I R) {s : σ} (hs : I s) : I (m.after s) := by
  rcases m.leaves_after s with heq | hmem
  · rwa [heq]
  · exact (h s hs).2 _ hmem

theorem Steps.of_nil (h : ∀ s, I s → (m s).1 = []) : m.Steps I R := fun s hs => by
  rw [h s hs]
  exact ⟨List.isChain_singleton s, fun _ h => absurd h List.not_mem_nil⟩

theorem Steps.write {f : σ → σ} (hf : ∀ s, I s → R s (f s) ∧ I (f s)) :
    (Durable.write f : Durable ε σ Unit).Steps I R := fun s hs =>
  ⟨List.isChain_pair.2 (hf s hs).1, fun _ h => List.mem_singleton.1 h ▸ (hf s hs).2⟩

theorem Steps.bind {f : α → Durable ε σ β} (hm : m.Steps I R)
    (hf : ∀ s a, I s → m.result s = .ok a → (f a).Steps I R) : (m >>= f).Steps I R := by
  intro s hs
  obtain ⟨hchain, hall⟩ := hm s hs
  cases hr : m.result s with
  | error e =>
    rw [bind_apply_error hr]
    exact ⟨hchain, hall⟩
  | ok a =>
    obtain ⟨hchain', hall'⟩ := hf s a hs hr _ (hm.after hs)
    have htrace : ((m >>= f) s).1 = (m s).1 ++ (f a (m.after s)).1 := by rw [bind_apply_ok hr]
    rw [htrace]
    refine ⟨?_, fun s' h => (List.mem_append.1 h).elim (hall s') (hall' s')⟩
    rw [← List.cons_append, List.isChain_append]
    refine ⟨hchain, hchain'.tail, fun x hx y hy => ?_⟩
    obtain rfl : m.after s = x := by
      unfold Durable.after lastOf
      rw [List.getLast?_cons] at hx
      exact Option.some.inj hx
    exact hchain'.rel_head? hy

theorem Steps.forEach {f : β → Durable ε σ Unit} {l : List β} (hf : ∀ b ∈ l, (f b).Steps I R) :
    (Durable.forEach f l).Steps I R := by
  induction l with
  | nil => exact .of_nil fun _ _ => rfl
  | cons b l ih =>
    exact (hf b List.mem_cons_self).bind fun _ _ _ _ =>
      ih fun c hc => hf c (List.mem_cons_of_mem _ hc)

/-- Writes to a part of the disk that neither `I` nor `R` looks at. -/
theorem Steps.of_spares {ν : Type} (view : σ → ν) (hm : Spares (fun s s' => view s' = view s) m)
    (hI : ∀ s s', view s' = view s → I s → I s') (hR : ∀ s s', view s' = view s → R s s') :
    m.Steps I R := by
  intro s hs
  have hview : ∀ s' ∈ (m s).1, view s' = view s := fun s' h => hm s s' (.inr h)
  refine ⟨?_, fun s' h => hI s s' (hview s' h) hs⟩
  refine List.isChain_iff_getElem.2 fun i hi => hR _ _ ?_
  have hall : ∀ s' ∈ s :: (m s).1, view s' = view s := fun s' h => by
    rcases List.mem_cons.1 h with rfl | h
    · rfl
    · exact hview s' h
  rw [hall _ (List.getElem_mem _), hall _ (List.getElem_mem _)]

/-- Writes to the part of the disk that they look at. -/
theorem Steps.zoom {get : σ → τ} {set : τ → σ → σ} {n : Durable ε τ α} {I' : τ → Prop}
    {R' : τ → τ → Prop} (hn : n.Steps I' R') (hget : ∀ s, I s → I' (get s))
    (hset : ∀ s t, I s → I' t → I (set t s)) (hR : ∀ s t, R' (get s) t → R s (set t s))
    (hR' : ∀ s t t', R' t t' → R (set t s) (set t' s)) :
    (Durable.zoom get set n).Steps I R := by
  intro s hs
  obtain ⟨hchain, hall⟩ := hn (get s) (hget s hs)
  change (s :: (n (get s)).1.map fun t => set t s).IsChain R ∧
    ∀ s' ∈ (n (get s)).1.map fun t => set t s, I s'
  refine ⟨List.isChain_cons.2 ⟨fun s' h => ?_, ?_⟩, fun s' h => ?_⟩
  · rw [List.head?_map] at h
    obtain ⟨t, ht, rfl⟩ := Option.map_eq_some_iff.1 h
    exact hR s t (hchain.rel_head? ht)
  · exact List.isChain_map_of_isChain _ (hR' s) hchain.tail
  · obtain ⟨t, ht, rfl⟩ := List.mem_map.1 h
    exact hset s t hs (hall t ht)

end Durable

/-! ## Processes -/

/-- What a process does to the disk under the lock: it reads, then it writes. -/
abbrev Transaction (ε σ : Type) : Type := Scan ε σ (Durable ε σ Unit)

/-- The writes of a transaction that runs alone. One that fails to read writes nothing. -/
def Transaction.run {ε σ : Type} (t : Transaction ε σ) : Durable ε σ Unit := fun s =>
  match Scan.alone t s with
  | .ok m => m s
  | .error e => ([], .error e)

/-- What a process is doing; `τ` names the transactions. -/
inductive Process (ε σ α τ : Type) where
  | idle
  /-- it reads without the lock, since the disk was `since` -/
  | asking (since : σ) (scan : Scan ε σ α)
  /-- it waits for the lock -/
  | blocked (t : τ)
  /-- it has the lock, and reads -/
  | reading (t : τ) (scan : Transaction ε σ)
  /-- it has the lock, and goes on to the disks `rest` -/
  | writing (t : τ) (rest : List σ)

namespace Process

variable {ε σ α τ : Type}

/-- The transaction for which the process has the lock. -/
def locked : Process ε σ α τ → Option τ
  | reading t _ | writing t _ => some t
  | _ => none

end Process

/-- A disk, the owner of the lock, and the processes. -/
structure Shared (ι ε σ α τ : Type) where
  disk : σ
  holder : Option ι
  process : ι → Process ε σ α τ

/-- A step of a process. -/
inductive Move (ι ε σ α τ : Type) where
  | ask (p : ι)
  | call (p : ι) (t : τ)
  | lock (p : ι) (t : τ)
  | read (p : ι)
  | write (p : ι)
  | release (p : ι) (t : τ)
  | answer (p : ι) (since : σ) (result : Except ε α)
  | kill (p : ι) (locked : Option τ)

namespace Shared

variable {ι ε σ α τ : Type} [DecidableEq ι]

def set (L : Shared ι ε σ α τ) (p : ι) (process : Process ε σ α τ) : Shared ι ε σ α τ :=
  { L with process := Function.update L.process p process }

/-- One step of one process, when all queries are `query` and the transactions are as `program`
    says. -/
inductive Step (query : Scan ε σ α) (program : τ → Transaction ε σ) :
    Shared ι ε σ α τ → Move ι ε σ α τ → Shared ι ε σ α τ → Prop
  | ask {L p} : L.process p = .idle → Step query program L (.ask p) (L.set p (.asking L.disk query))
  | look {L p since next} : L.process p = .asking since (.read next) →
      Step query program L (.read p) (L.set p (.asking since (next L.disk)))
  | answer {L p since r} : L.process p = .asking since (.done r) →
      Step query program L (.answer p since r) (L.set p .idle)
  | call {L p t} : L.process p = .idle → Step query program L (.call p t) (L.set p (.blocked t))
  | lock {L p t} : L.process p = .blocked t → L.holder = none →
      Step query program L (.lock p t) ({ L with holder := some p }.set p (.reading t (program t)))
  | read {L p t next} : L.process p = .reading t (.read next) →
      Step query program L (.read p) (L.set p (.reading t (next L.disk)))
  | fail {L p t e} : L.process p = .reading t (.done (.error e)) →
      Step query program L (.release p t) ({ L with holder := none }.set p .idle)
  | begin {L p t m} : L.process p = .reading t (.done (.ok m)) →
      Step query program L (.read p) (L.set p (.writing t (m L.disk).1))
  | write {L p t s rest} : L.process p = .writing t (s :: rest) →
      Step query program L (.write p) ({ L with disk := s }.set p (.writing t rest))
  | release {L p t} : L.process p = .writing t [] →
      Step query program L (.release p t) ({ L with holder := none }.set p .idle)
  | kill {L p} : Step query program L (.kill p (L.process p).locked)
      ({ L with holder := if L.holder = some p then none else L.holder }.set p .idle)

end Shared

/-- The processes start idle, and nobody has the lock. -/
def locking (ι : Type) {ε σ α τ : Type} [DecidableEq ι] (query : Scan ε σ α)
    (program : τ → Transaction ε σ) :
    TransitionSystem (Shared ι ε σ α τ) (Move ι ε σ α τ) where
  init L := L.holder = none ∧ ∀ p, L.process p = .idle
  step := Shared.Step query program

/-! ## The lock -/

namespace Shared

variable {ι ε σ α τ : Type} [DecidableEq ι] {query : Scan ε σ α} {program : τ → Transaction ε σ}
  {L L' : Shared ι ε σ α τ} {a : Move ι ε σ α τ}

/-- The transaction that has the lock. -/
def locked (L : Shared ι ε σ α τ) : Option τ := L.holder.bind fun p => (L.process p).locked

theorem process_set (L : Shared ι ε σ α τ) (p q : ι) (x : Process ε σ α τ) :
    (L.set p x).process q = if q = p then x else L.process q := Function.update_apply ..

/-- Only the owner of the lock is inside of a transaction. -/
def Exclusive (L : Shared ι ε σ α τ) : Prop :=
  ∀ p, (L.process p).locked.isSome ↔ L.holder = some p

/-- A step of a process that stays inside of its transaction, or outside. -/
theorem Exclusive.stay {p : ι} {x : Process ε σ α τ} (h : L.Exclusive)
    (hp : (L.process p).locked = x.locked) : (L.set p x).Exclusive := by
  intro q
  rw [process_set]
  split_ifs with hq
  · rw [hq, ← hp]
    exact h p
  · exact h q

theorem Exclusive.leave {p : ι} (h : L.Exclusive) (hp : L.holder = some p) :
    ({ L with holder := none }.set p .idle).Exclusive := by
  intro q
  rw [process_set]
  split_ifs with hq
  · simp [set, Process.locked]
  · have := h q
    rw [hp] at this
    simp [set, this, Ne.symm hq]

theorem Exclusive.step (h : L.Exclusive) (hs : Step query program L a L') : L'.Exclusive := by
  have hholds {p : ι} {t : τ} (hp : (L.process p).locked = some t) : L.holder = some p :=
    (h p).1 (by rw [hp]; rfl)
  cases hs with
  | ask hp => exact h.stay (by rw [hp]; rfl)
  | look hp => exact h.stay (by rw [hp]; rfl)
  | answer hp => exact h.stay (by rw [hp]; rfl)
  | call hp => exact h.stay (by rw [hp]; rfl)
  | read hp => exact h.stay (by rw [hp]; rfl)
  | begin hp => exact h.stay (by rw [hp]; rfl)
  | write hp => exact Exclusive.stay (L := { L with disk := _ }) h (by rw [hp]; rfl)
  | @fail p t e hp => exact h.leave (hholds (t := t) (by rw [hp]; rfl))
  | @release p t hp => exact h.leave (hholds (t := t) (by rw [hp]; rfl))
  | @lock p t hp hfree =>
    intro q
    rw [process_set]
    split_ifs with hq
    · simp [hq, set, Process.locked]
    · have := h q
      rw [hfree] at this
      simp [set, Ne.symm hq, this]
  | @kill p =>
    split_ifs with hp
    · exact h.leave hp
    · exact h.stay (Option.not_isSome_iff_eq_none.1 (mt (h p).1 hp))

end Shared

/-! ## One after the other -/

/-- A transaction of a serial run; of one that is killed, only some writes may be there. -/
structure Turn (τ : Type) where
  transaction : τ
  killed : Bool

/-- The transactions on a disk, one after the other. -/
def serial {ε σ τ : Type} (run : τ → Durable ε σ Unit) : TransitionSystem σ (Turn τ) where
  init _ := True
  step s turn s' := match turn with
    | ⟨t, true⟩ => (run t).Leaves s s'
    | ⟨t, false⟩ => s' = (run t).after s

namespace Move

variable {ι ε σ α τ : Type}

/-- The transaction that gets the lock. -/
def locks : Move ι ε σ α τ → Option τ
  | lock _ t => some t
  | _ => none

/-- The transaction that ends. -/
def turn : Move ι ε σ α τ → Option (Turn τ)
  | release _ t => some ⟨t, false⟩
  | kill _ (some t) => some ⟨t, true⟩
  | _ => none

end Move

namespace Shared

variable {ι ε σ α τ : Type} [DecidableEq ι]

/-- The transactions that have ended. -/
def turns (tr : List (TransitionSystem.Event (Shared ι ε σ α τ) (Move ι ε σ α τ))) :
    List (Turn τ) :=
  tr.filterMap fun e => e.act.turn

/-- The transactions that have got the lock. -/
def locks (tr : List (TransitionSystem.Event (Shared ι ε σ α τ) (Move ι ε σ α τ))) : List τ :=
  tr.filterMap fun e => e.act.locks

variable {query : Scan ε σ α} {program : τ → Transaction ε σ} {L₀ L L' : Shared ι ε σ α τ}
  {a : Move ι ε σ α τ} {tr : List (TransitionSystem.Event (Shared ι ε σ α τ) (Move ι ε σ α τ))}

/-- The transactions that have ended have left the disk `s`, and the one that has the lock has
    come as far as it does alone on `s`. -/
structure Follows (program : τ → Transaction ε σ) (L : Shared ι ε σ α τ) (s : σ) : Prop where
  exclusive : L.Exclusive
  free : L.holder = none → L.disk = s
  reading : ∀ p t scan, L.process p = .reading t scan →
    L.disk = s ∧ Scan.alone scan s = Scan.alone (program t) s
  writing : ∀ p t rest, L.process p = .writing t rest →
    ∃ done, ((program t).run s).1 = done ++ rest ∧ L.disk = Durable.lastOf s done

namespace Follows

variable {s : σ}

/-- A step that gives nobody the lock, and takes it from nobody. -/
theorem stay {p : ι} {x : Process ε σ α τ} (h : L.Follows program s)
    (hp : (L.process p).locked = none) (hx : x.locked = none) : (L.set p x).Follows program s where
  exclusive := h.exclusive.stay (hp.trans hx.symm)
  free := h.free
  reading q t scan hq := by
    rw [process_set] at hq
    split_ifs at hq with h'
    · rw [hq] at hx
      cases hx
    · exact h.reading q t scan hq
  writing q t rest hq := by
    rw [process_set] at hq
    split_ifs at hq with h'
    · rw [hq] at hx
      cases hx
    · exact h.writing q t rest hq

omit [DecidableEq ι] in
/-- What a transaction has done to the disk so far. -/
theorem leaves {p : ι} {t : τ} (h : L.Follows program s) (hp : (L.process p).locked = some t) :
    (program t).run.Leaves s L.disk := by
  cases hx : L.process p with
  | reading t' scan =>
    exact .inl (h.reading p t' scan hx).1
  | writing t' rest =>
    rw [hx] at hp
    obtain rfl := Option.some.inj hp
    obtain ⟨done, hdone, hdisk⟩ := h.writing p t' rest hx
    rw [hdisk]
    refine (Durable.lastOf_mem s done).imp_right fun hmem => ?_
    rw [hdone]
    exact List.mem_append_left _ hmem
  | idle => rw [hx] at hp; cases hp
  | asking => rw [hx] at hp; cases hp
  | blocked => rw [hx] at hp; cases hp

/-- The owner of the lock ends its transaction. -/
theorem leave {p : ι} (h : L.Follows program s) (hp : L.holder = some p) :
    ({ L with holder := none }.set p .idle).Follows program L.disk where
  exclusive := h.exclusive.leave hp
  free _ := rfl
  reading q t scan hq := by
    have := (h.exclusive.leave hp q).1 (by rw [hq]; rfl)
    cases this
  writing q t rest hq := by
    have := (h.exclusive.leave hp q).1 (by rw [hq]; rfl)
    cases this

omit [DecidableEq ι] in
/-- Only the owner of the lock has come any way. -/
theorem of_holder {p : ι} (hex : L.Exclusive) (hp : L.holder = some p)
    (hr : ∀ t scan, L.process p = .reading t scan →
      L.disk = s ∧ Scan.alone scan s = Scan.alone (program t) s)
    (hw : ∀ t rest, L.process p = .writing t rest →
      ∃ done, ((program t).run s).1 = done ++ rest ∧ L.disk = Durable.lastOf s done) :
    L.Follows program s := by
  have halone {q : ι} (hq : (L.process q).locked.isSome) : q = p :=
    Option.some.inj (((hex q).1 hq).symm.trans hp)
  refine ⟨hex, fun hfree => ?_, fun q t scan hq => ?_, fun q t rest hq => ?_⟩
  · rw [hp] at hfree
    cases hfree
  · obtain rfl := halone (by rw [hq]; rfl)
    exact hr t scan hq
  · obtain rfl := halone (by rw [hq]; rfl)
    exact hw t rest hq

/-- **Step lemma**: a transaction that ends has been one turn. -/
theorem step (h : L.Follows program s) (hs : Step query program L a L') :
    ∃ s', L'.Follows program s' ∧ (a.turn = none → s' = s) ∧
      ∀ turn, a.turn = some turn → (serial fun t => (program t).run).step s turn s' := by
  have hholds {p : ι} {t : τ} (hp : (L.process p).locked = some t) : L.holder = some p :=
    (h.exclusive p).1 (by rw [hp]; rfl)
  have hex := h.exclusive.step hs
  cases hs with
  | ask hp => exact ⟨s, h.stay (by rw [hp]; rfl) rfl, fun _ => rfl, by rintro turn ⟨⟩⟩
  | look hp => exact ⟨s, h.stay (by rw [hp]; rfl) rfl, fun _ => rfl, by rintro turn ⟨⟩⟩
  | answer hp => exact ⟨s, h.stay (by rw [hp]; rfl) rfl, fun _ => rfl, by rintro turn ⟨⟩⟩
  | call hp => exact ⟨s, h.stay (by rw [hp]; rfl) rfl, fun _ => rfl, by rintro turn ⟨⟩⟩
  | @lock p t hp hfree =>
    refine ⟨s, of_holder hex rfl (fun t' scan hq => ?_) fun t' rest hq => ?_, fun _ => rfl,
      by rintro turn ⟨⟩⟩
    · rw [process_set, if_pos rfl] at hq
      obtain ⟨rfl, rfl⟩ := Process.reading.inj hq
      exact ⟨h.free hfree, rfl⟩
    · rw [process_set, if_pos rfl] at hq
      cases hq
  | @read p t next hp =>
    obtain ⟨hdisk, halone⟩ := h.reading p t _ hp
    refine ⟨s, of_holder hex (hholds (t := t) (by rw [hp]; rfl)) (fun t' scan hq => ?_)
      fun t' rest hq => ?_, fun _ => rfl, by rintro turn ⟨⟩⟩
    · rw [process_set, if_pos rfl] at hq
      obtain ⟨rfl, rfl⟩ := Process.reading.inj hq
      exact ⟨hdisk, hdisk ▸ halone⟩
    · rw [process_set, if_pos rfl] at hq
      cases hq
  | @fail p t e hp =>
    obtain ⟨hdisk, halone⟩ := h.reading p t _ hp
    refine ⟨L.disk, h.leave (hholds (t := t) (by rw [hp]; rfl)), by rintro ⟨⟩, ?_⟩
    rintro turn ⟨⟩
    -- the transaction has written nothing
    have hrun : (program t).run s = ([], .error e) := by
      unfold Transaction.run
      rw [← halone]
      rfl
    change L.disk = Durable.lastOf s ((program t).run s).1
    rw [hrun]
    exact hdisk
  | @begin p t m hp =>
    obtain ⟨hdisk, halone⟩ := h.reading p t _ hp
    refine ⟨s, of_holder hex (hholds (t := t) (by rw [hp]; rfl)) (fun t' scan hq => ?_)
      fun t' rest hq => ?_, fun _ => rfl, by rintro turn ⟨⟩⟩
    · rw [process_set, if_pos rfl] at hq
      cases hq
    · rw [process_set, if_pos rfl] at hq
      obtain ⟨rfl, rfl⟩ := Process.writing.inj hq
      refine ⟨[], ?_, hdisk⟩
      unfold Transaction.run
      rw [← halone, hdisk]
      rfl
  | @write p t s₁ rest hp =>
    obtain ⟨done, hdone, -⟩ := h.writing p t _ hp
    refine ⟨s, of_holder hex (hholds (t := t) (by rw [hp]; rfl)) (fun t' scan hq => ?_)
      fun t' rest hq => ?_, fun _ => rfl, by rintro turn ⟨⟩⟩
    · rw [process_set, if_pos rfl] at hq
      cases hq
    · rw [process_set, if_pos rfl] at hq
      obtain ⟨rfl, rfl⟩ := Process.writing.inj hq
      refine ⟨done ++ [s₁], by rw [hdone, List.append_assoc]; rfl, ?_⟩
      simp [set, Durable.lastOf]
  | @release p t hp =>
    obtain ⟨done, hdone, hdisk⟩ := h.writing p t _ hp
    refine ⟨L.disk, h.leave (hholds (t := t) (by rw [hp]; rfl)), by rintro ⟨⟩, ?_⟩
    rintro turn ⟨⟩
    change L.disk = Durable.lastOf s ((program t).run s).1
    rw [hdone, List.append_nil]
    exact hdisk
  | @kill p =>
    split_ifs with hp
    · obtain ⟨t, ht⟩ := Option.isSome_iff_exists.1 ((h.exclusive p).2 hp)
      refine ⟨L.disk, h.leave hp, fun hnone => ?_, fun turn hturn => ?_⟩
      · rw [ht] at hnone
        cases hnone
      · rw [ht] at hturn
        obtain rfl := Option.some.inj hturn
        exact h.leaves ht
    · have hout := Option.not_isSome_iff_eq_none.1 (mt (h.exclusive p).1 hp)
      refine ⟨s, h.stay hout rfl, fun _ => rfl, fun turn hturn => ?_⟩
      rw [hout] at hturn
      cases hturn

end Follows

theorem locked_set {p : ι} {x : Process ε σ α τ} (hp : (L.process p).locked = x.locked) :
    (L.set p x).locked = L.locked := by
  unfold locked
  congr 1
  funext q
  rw [process_set]
  split_ifs with hq
  · rw [hq, hp]
  · rfl

/-- A transaction ends that has got the lock. -/
theorem locked_step (h : L.Exclusive) (hs : Step query program L a L') :
    L.locked.toList ++ a.locks.toList =
      (a.turn.map Turn.transaction).toList ++ L'.locked.toList := by
  have hin {p : ι} {t : τ} (hp : (L.process p).locked = some t) : L.locked = some t := by
    unfold locked
    rw [(h p).1 (by rw [hp]; rfl)]
    exact hp
  cases hs with
  | ask hp => rw [locked_set (by rw [hp]; rfl)]; simp [Move.locks, Move.turn]
  | look hp => rw [locked_set (by rw [hp]; rfl)]; simp [Move.locks, Move.turn]
  | answer hp => rw [locked_set (by rw [hp]; rfl)]; simp [Move.locks, Move.turn]
  | call hp => rw [locked_set (by rw [hp]; rfl)]; simp [Move.locks, Move.turn]
  | read hp => rw [locked_set (by rw [hp]; rfl)]; simp [Move.locks, Move.turn]
  | begin hp => rw [locked_set (by rw [hp]; rfl)]; simp [Move.locks, Move.turn]
  | @write p t s rest hp =>
    rw [locked_set (L := { L with disk := s }) (by rw [hp]; rfl)]
    simp [Move.locks, Move.turn, locked]
  | @lock p t hp hfree => simp [Move.locks, Move.turn, locked, hfree, set, Process.locked]
  | @fail p t e hp =>
    rw [hin (t := t) (by rw [hp]; rfl)]
    simp [Move.locks, Move.turn, locked, set]
  | @release p t hp =>
    rw [hin (t := t) (by rw [hp]; rfl)]
    simp [Move.locks, Move.turn, locked, set]
  | @kill p =>
    split_ifs with hp
    · obtain ⟨t, ht⟩ := Option.isSome_iff_exists.1 ((h p).2 hp)
      rw [hin ht, ht]
      simp [Move.locks, Move.turn, locked, set]
    · have hout := Option.not_isSome_iff_eq_none.1 (mt (h p).1 hp)
      change L.locked.toList ++ _ = _ ++ (L.set p .idle).locked.toList
      rw [locked_set hout, hout]
      simp [Move.locks, Move.turn]

/-- **The lock serializes the transactions**: when nobody has it, the disk is what they leave
    when they run alone, one after the other, as they got the lock. -/
theorem serialized (h : (locking ι query program).Run L₀ tr L)
    (h₀ : (locking ι query program).init L₀) : ∃ s evs,
      (serial fun t => (program t).run).Run L₀.disk evs s ∧ evs.map (·.act) = turns tr ∧
        locks tr = (turns tr).map (·.transaction) ++ L.locked.toList ∧ L.Follows program s := by
  refine h.invariant (P := fun tr L => ∃ s evs,
    (serial fun t => (program t).run).Run L₀.disk evs s ∧ evs.map (·.act) = turns tr ∧
    locks tr = (turns tr).map (·.transaction) ++ L.locked.toList ∧ L.Follows program s) ?_ ?_
  · obtain ⟨hfree, hidle⟩ := h₀
    refine ⟨L₀.disk, [], .nil _, rfl, ?_, ⟨fun p => ?_, fun _ => rfl, fun p t scan hp => ?_,
      fun p t rest hp => ?_⟩⟩
    · simp [locks, turns, locked, hfree]
    · simp [hidle p, hfree, Process.locked]
    · rw [hidle p] at hp
      cases hp
    · rw [hidle p] at hp
      cases hp
  · rintro tr L₁ a L₂ - ⟨s, evs, hrun, hturns, hlocks, hfollows⟩ hs
    obtain ⟨s', hfollows', hstay, hturn⟩ := hfollows.step hs
    have hlocked := locked_step hfollows.exclusive hs
    have hlocks' : locks (tr ++ [⟨L₁, a, L₂⟩]) = locks tr ++ a.locks.toList := by
      cases h : a.locks <;> simp [locks, h]
    have hturns' : turns (tr ++ [⟨L₁, a, L₂⟩]) = turns tr ++ a.turn.toList := by
      cases h : a.turn <;> simp [turns, h]
    have hmap : locks (tr ++ [⟨L₁, a, L₂⟩]) =
        (turns (tr ++ [⟨L₁, a, L₂⟩])).map (·.transaction) ++ L₂.locked.toList := by
      rw [hlocks', hlocks, List.append_assoc, hlocked, hturns', List.map_append, List.append_assoc]
      cases a.turn <;> rfl
    cases ha : a.turn with
    | none =>
      obtain rfl := hstay ha
      exact ⟨s', evs, hrun, by rw [hturns', ha, hturns]; simp, hmap, hfollows'⟩
    | some turn =>
      exact ⟨s', _, hrun.snoc (hturn turn ha), by rw [hturns', ha, List.map_append, hturns]; rfl,
        hmap, hfollows'⟩

/-! ## Queries -/

/-- The transaction `t` has read the disk, and begins to write what `m` writes. -/
def Begins (e : TransitionSystem.Event (Shared ι ε σ α τ) (Move ι ε σ α τ)) (t : τ)
    (m : Durable ε σ Unit) : Prop :=
  ∃ p, e.act = .read p ∧ e.pre.process p = .reading t (.done (.ok m))

/-- The disk keeps `I`, also when the transaction that writes goes on, and each query comes to
    what `Q` allows. -/
structure Answers (I : σ → Prop) (R : σ → σ → Prop) (Q : σ → α → Prop)
    (L : Shared ι ε σ α τ) : Prop where
  disk : I L.disk
  asking : ∀ p since scan, L.process p = .asking since scan → scan.Under I R (Q since) L.disk
  writing : ∀ p t rest, L.process p = .writing t rest →
    (L.disk :: rest).IsChain R ∧ ∀ s ∈ rest, I s

namespace Answers

variable {I : σ → Prop} {R : σ → σ → Prop} {Q : σ → α → Prop} {s : σ}

/-- A step of a process that leaves the disk alone. -/
theorem set {p : ι} {x : Process ε σ α τ} (h : L.Answers I R Q)
    (hasking : ∀ since scan, x = .asking since scan → scan.Under I R (Q since) L.disk)
    (hwriting : ∀ t rest, x = .writing t rest →
      (L.disk :: rest).IsChain R ∧ ∀ s ∈ rest, I s) :
    (L.set p x).Answers I R Q where
  disk := h.disk
  asking q since scan hq := by
    rw [process_set] at hq
    split_ifs at hq
    · exact hasking since scan hq
    · exact h.asking q since scan hq
  writing q t rest hq := by
    rw [process_set] at hq
    split_ifs at hq
    · exact hwriting t rest hq
    · exact h.writing q t rest hq

/-- A process that neither asks nor writes. -/
theorem quiet {p : ι} {x : Process ε σ α τ} {holder : Option ι} (h : L.Answers I R Q)
    (hasking : ∀ since scan, x ≠ .asking since scan) (hwriting : ∀ t rest, x ≠ .writing t rest) :
    ({ L with holder := holder }.set p x).Answers I R Q := by
  have h' : ({ L with holder := holder } : Shared ι ε σ α τ).Answers I R Q :=
    ⟨h.disk, h.asking, h.writing⟩
  exact h'.set (fun since scan hx => absurd hx (hasking since scan))
    fun t rest hx => absurd hx (hwriting t rest)

/-- **Step lemma**: a transaction that goes on does what the queries expect of it. -/
theorem step (htrans : ∀ s₁ s₂ s₃, R s₁ s₂ → R s₂ s₃ → R s₁ s₃) (hrefl : ∀ s, R s s)
    (hquery : ∀ s, I s → query.Under I R (Q s) s) (h : L.Answers I R Q)
    (hfollows : L.Follows program s) (hs : Step query program L a L')
    (hbegin : ∀ t m, Begins ⟨L, a, L'⟩ t m → (program t).alone L.disk = .ok m → I L.disk →
      (L.disk :: (m L.disk).1).IsChain R ∧ ∀ s ∈ (m L.disk).1, I s) : L'.Answers I R Q := by
  cases hs with
  | @ask p hp =>
    refine h.set ?_ (by rintro t rest ⟨⟩)
    rintro since scan ⟨⟩
    exact hquery L.disk h.disk
  | @look p since next hp =>
    refine h.set ?_ (by rintro t rest ⟨⟩)
    rintro _ _ ⟨⟩
    exact h.asking p since _ hp L.disk (hrefl _) h.disk
  | answer hp => exact h.quiet (by rintro _ _ ⟨⟩) (by rintro _ _ ⟨⟩)
  | call hp => exact h.quiet (by rintro _ _ ⟨⟩) (by rintro _ _ ⟨⟩)
  | lock hp hfree => exact h.quiet (by rintro _ _ ⟨⟩) (by rintro _ _ ⟨⟩)
  | read hp => exact h.quiet (by rintro _ _ ⟨⟩) (by rintro _ _ ⟨⟩)
  | fail hp => exact h.quiet (by rintro _ _ ⟨⟩) (by rintro _ _ ⟨⟩)
  | @begin p t m hp =>
    refine h.set (by rintro since scan ⟨⟩) ?_
    rintro _ _ ⟨⟩
    -- what it has read is what is on the disk
    obtain ⟨hdisk, halone⟩ := hfollows.reading p t _ hp
    exact hbegin t m ⟨p, rfl, hp⟩ (by rw [hdisk, ← halone]; rfl) h.disk
  | @write p t s₁ rest hp =>
    obtain ⟨hchain, hrest⟩ := h.writing p t _ hp
    have hR : R L.disk s₁ := (List.isChain_cons_cons.1 hchain).1
    have hlocked : (L.process p).locked = some t := by rw [hp]; rfl
    refine ⟨hrest s₁ List.mem_cons_self, fun q since scan hq => ?_, fun q t' rest' hq => ?_⟩
    · rw [process_set] at hq
      split_ifs at hq
      exact (h.asking q since scan hq).later htrans hR
    · rw [process_set] at hq
      split_ifs at hq with hqp
      · obtain ⟨rfl, rfl⟩ := Process.writing.inj hq
        exact ⟨(List.isChain_cons_cons.1 hchain).2, fun s hs => hrest s (List.mem_cons_of_mem _ hs)⟩
      · -- nobody else writes
        have hp' := (hfollows.exclusive p).1 (by rw [hlocked]; rfl)
        have hq' := (hfollows.exclusive q).1 (by
          change L.process q = _ at hq
          rw [hq]
          rfl)
        exact absurd (Option.some.inj (hq'.symm.trans hp')) hqp
  | release hp => exact h.quiet (by rintro _ _ ⟨⟩) (by rintro _ _ ⟨⟩)
  | kill => exact h.quiet (by rintro _ _ ⟨⟩) (by rintro _ _ ⟨⟩)

end Answers

/-- **What queries come to**: if the transactions of the run change the disk only as the query
    allows, every query is answered, without an error, as `Q` says. -/
theorem answered {I : σ → Prop} {R : σ → σ → Prop} {Q : σ → α → Prop}
    (htrans : ∀ s₁ s₂ s₃, R s₁ s₂ → R s₂ s₃ → R s₁ s₃) (hrefl : ∀ s, R s s)
    (hquery : ∀ s, I s → query.Under I R (Q s) s)
    (h : (locking ι query program).Run L₀ tr L) (h₀ : (locking ι query program).init L₀)
    (hI : I L₀.disk) (hbegin : ∀ e ∈ tr, ∀ t m, Begins e t m →
      (program t).alone e.pre.disk = .ok m → I e.pre.disk →
      (e.pre.disk :: (m e.pre.disk).1).IsChain R ∧ ∀ s ∈ (m e.pre.disk).1, I s) :
    I L.disk ∧ ∀ e ∈ tr, ∀ p since r, e.act = .answer p since r → ∃ a, r = .ok a ∧ Q since a := by
  have hidle : L₀.Answers I R Q := by
    refine ⟨hI, fun p since scan hp => ?_, fun p t rest hp => ?_⟩
    · rw [h₀.2 p] at hp
      cases hp
    · rw [h₀.2 p] at hp
      cases hp
  suffices hall : L.Answers I R Q ∧
      ∀ e ∈ tr, ∀ p since r, e.act = .answer p since r → ∃ a, r = .ok a ∧ Q since a from
    ⟨hall.1.disk, hall.2⟩
  induction h with
  | nil => exact ⟨hidle, fun e he => absurd he List.not_mem_nil⟩
  | @snoc L₁ L₂ tr a hr hs ih =>
    obtain ⟨hanswers, hall⟩ := ih fun e he => hbegin e (List.mem_append_left _ he)
    obtain ⟨s, -, -, -, -, hfollows⟩ := serialized hr h₀
    refine ⟨hanswers.step htrans hrefl hquery hfollows hs
      (hbegin ⟨L₁, a, L₂⟩ (List.mem_append_right _ (List.mem_singleton_self _))), ?_⟩
    rintro e he p since r hact
    rcases List.mem_append.1 he with he | he
    · exact hall e he p since r hact
    · rw [List.mem_singleton.1 he] at hact
      obtain rfl : a = .answer p since r := hact
      cases hs with
      | answer hp => exact hanswers.asking p since _ hp

/-! ## A process that nobody disturbs -/

/-- A query needs nobody else to come to its answer. -/
theorem look_alone {p : ι} {since : σ} {scan : Scan ε σ α}
    (h : (locking ι query program).Run L₀ tr L) (hp : L.process p = .asking since scan) :
    ∃ tr' L', (locking ι query program).Run L₀ (tr ++ tr') L' ∧
      L'.process p = .asking since (.done (scan.alone L.disk)) ∧ turns tr' = [] ∧
      L'.disk = L.disk ∧ L'.holder = L.holder ∧ ∀ e ∈ tr', ∀ t m, ¬Begins e t m := by
  induction scan generalizing tr L with
  | done r =>
    refine ⟨[], L, ?_, hp, rfl, rfl, rfl, fun e he => absurd he List.not_mem_nil⟩
    rwa [List.append_nil]
  | read next ih =>
    obtain ⟨tr', L', hrun, hp', hturns, hdisk, hholder, hbegin⟩ :=
      ih L.disk (h.snoc (.look hp)) (by rw [process_set, if_pos rfl])
    rw [List.append_assoc] at hrun
    refine ⟨_, L', hrun, hp', hturns, hdisk, hholder, fun e he => ?_⟩
    rcases List.mem_append.1 he with he | he
    · rw [List.mem_singleton.1 he]
      rintro t m ⟨q, hact, hq⟩
      obtain rfl := Move.read.inj hact
      exact absurd (hp.symm.trans hq) (by simp)
    · exact hbegin e he

/-- Nor does a transaction that has begun to write. -/
theorem write_alone {p : ι} {t : τ} {rest : List σ}
    (h : (locking ι query program).Run L₀ tr L) (hp : L.process p = .writing t rest) :
    ∃ tr' L', (locking ι query program).Run L₀ (tr ++ tr') L' ∧ turns tr' = [⟨t, false⟩] ∧
      L'.disk = Durable.lastOf L.disk rest ∧ L'.holder = none ∧
      (∀ q, q ≠ p → L'.process q = L.process q) ∧ ∀ e ∈ tr', ∀ t m, ¬Begins e t m := by
  induction rest generalizing tr L with
  | nil =>
    refine ⟨[_], _, h.snoc (.release hp), rfl, rfl, rfl, fun q hq => ?_, fun e he => ?_⟩
    · rw [process_set, if_neg hq]
    · rw [List.mem_singleton.1 he]
      rintro t m ⟨q, ⟨⟩, _⟩
  | cons s rest ih =>
    obtain ⟨tr', L', hrun, hturns, hdisk, hholder, hother, hbegin⟩ :=
      ih (h.snoc (.write hp)) (by rw [process_set, if_pos rfl])
    rw [List.append_assoc] at hrun
    refine ⟨_, L', hrun, hturns, ?_, hholder, fun q hq => ?_, fun e he => ?_⟩
    · rw [hdisk]
      simp [set, Durable.lastOf, List.getLast?_cons]
    · rw [hother q hq, process_set, if_neg hq]
    · rcases List.mem_append.1 he with he | he
      · rw [List.mem_singleton.1 he]
        rintro t m ⟨q, ⟨⟩, _⟩
      · exact hbegin e he

/-- **A transaction that nobody disturbs** ends, and has written what it writes alone. -/
theorem finish_alone {p : ι} {t : τ} {scan : Transaction ε σ} {m : Durable ε σ Unit}
    (h : (locking ι query program).Run L₀ tr L) (hp : L.process p = .reading t scan)
    (hm : Scan.alone scan L.disk = .ok m) :
    ∃ tr' L', (locking ι query program).Run L₀ (tr ++ tr') L' ∧ turns tr' = [⟨t, false⟩] ∧
      L'.disk = m.after L.disk ∧ L'.holder = none ∧ (∀ q, q ≠ p → L'.process q = L.process q) ∧
      (∃ e ∈ tr', Begins e t m ∧ e.pre.disk = L.disk) ∧
      ∀ e ∈ tr', ∀ t' m', Begins e t' m' → t' = t ∧ e.pre.disk = L.disk := by
  induction scan generalizing tr L with
  | done r =>
    obtain rfl : r = .ok m := hm
    obtain ⟨tr', L', hrun, hturns, hdisk, hholder, hother, hbegin⟩ :=
      write_alone (h.snoc (.begin hp)) (by rw [process_set, if_pos rfl])
    rw [List.append_assoc] at hrun
    refine ⟨_, L', hrun, hturns, hdisk, hholder, fun q hq => ?_,
      ⟨_, List.mem_append_left _ (List.mem_singleton_self _), ⟨p, rfl, hp⟩, rfl⟩, fun e he => ?_⟩
    · rw [hother q hq, process_set, if_neg hq]
    · rcases List.mem_append.1 he with he | he
      · rw [List.mem_singleton.1 he]
        rintro t' m' ⟨q, hact, hq⟩
        obtain rfl := Move.read.inj hact
        exact ⟨(Process.reading.inj (hq.symm.trans hp)).1, rfl⟩
      · exact fun t' m' hb => absurd hb (hbegin e he t' m')
  | read next ih =>
    obtain ⟨tr', L', hrun, hturns, hdisk, hholder, hother, ⟨e, he, hbegins⟩, hbegin⟩ :=
      ih L.disk (h.snoc (.read hp)) (by rw [process_set, if_pos rfl]) hm
    rw [List.append_assoc] at hrun
    refine ⟨_, L', hrun, hturns, hdisk, hholder, fun q hq => ?_,
      ⟨e, List.mem_append_right _ he, hbegins⟩, fun e he => ?_⟩
    · rw [hother q hq, process_set, if_neg hq]
    · rcases List.mem_append.1 he with he | he
      · rw [List.mem_singleton.1 he]
        rintro t' m' ⟨q, hact, hq⟩
        obtain rfl := Move.read.inj hact
        exact absurd (hp.symm.trans hq) (by simp)
      · exact hbegin e he

end Shared
