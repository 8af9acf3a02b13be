/-
  Computations that write to a disk, step by step.

  A `Durable` computation goes from one disk to the disks after each of its
  writes, in order, and to its result. The last of these disks is what the
  computation leaves when it ends (`after`), also when it ends in an error;
  all of them are what it leaves when it is killed (`Leaves`).

  `zoom` runs a computation on a part of the disk. The rules below say what
  composition, loops and `zoom` do to `result`, `after` and `Leaves`; nothing
  else about `bind` is needed to reason about a computation.
-/
import Mathlib.Tactic.Common

/-- A computation over the disk `σ`: the disk after each of its writes, and its result. -/
def Durable (ε σ α : Type) : Type := σ → List σ × Except ε α

namespace Durable

variable {ε σ τ α β : Type}

/-- The disk after the writes `t`. -/
def lastOf (s : σ) (t : List σ) : σ := t.getLast?.getD s

/-- The disk when the computation has ended. -/
def after (m : Durable ε σ α) (s : σ) : σ := lastOf s (m s).1

def result (m : Durable ε σ α) (s : σ) : Except ε α := (m s).2

/-- A kill can leave the disk `s'`. -/
def Leaves (m : Durable ε σ α) (s s' : σ) : Prop := s' = s ∨ s' ∈ (m s).1

protected def pure (a : α) : Durable ε σ α := fun _ => ([], .ok a)

protected def bind (m : Durable ε σ α) (f : α → Durable ε σ β) : Durable ε σ β := fun s =>
  match m s with
  | (t, .error e) => (t, .error e)
  | (t, .ok a) => (t ++ (f a (lastOf s t)).1, (f a (lastOf s t)).2)

instance : Monad (Durable ε σ) where
  pure := Durable.pure
  bind := Durable.bind

/-- Read from the disk. -/
def read (f : σ → α) : Durable ε σ α := fun s => ([], .ok (f s))

/-- Change the disk, in one step. -/
def write (f : σ → σ) : Durable ε σ Unit := fun s => ([f s], .ok ())

/-- Change the disk in several steps. -/
def steps (f : σ → List σ) : Durable ε σ Unit := fun s => (f s, .ok ())

/-- A result that needs no disk. -/
def ofExcept (x : Except ε α) : Durable ε σ α := fun _ => ([], x)

def throw (e : ε) : Durable ε σ α := ofExcept (.error e)

def require (p : Prop) [Decidable p] (e : ε) : Durable ε σ Unit :=
  if p then pure () else throw e

/-- Run `m` on a part of the disk. -/
def zoom (get : σ → τ) (set : τ → σ → σ) (m : Durable ε τ α) : Durable ε σ α := fun s =>
  ((m (get s)).1.map fun t => set t s, (m (get s)).2)

def forEach (f : α → Durable ε σ Unit) : List α → Durable ε σ Unit
  | [] => pure ()
  | a :: l => do
    f a
    forEach f l

def traverse (f : α → Durable ε σ β) : List α → Durable ε σ (List β)
  | [] => pure []
  | a :: l => do
    let b ← f a
    let bs ← traverse f l
    return b :: bs

/-! ## Single steps -/

section
variable (s : σ)

theorem lastOf_append (t t' : List σ) : lastOf s (t ++ t') = lastOf (lastOf s t) t' := by
  rcases List.eq_nil_or_concat t' with rfl | ⟨t', a, rfl⟩
  · rw [List.append_nil]; rfl
  · simp [lastOf]

theorem lastOf_mem (t : List σ) : lastOf s t = s ∨ lastOf s t ∈ t := by
  rcases List.eq_nil_or_concat t with rfl | ⟨t, a, rfl⟩
  · exact .inl rfl
  · exact .inr (by simp [lastOf])

@[simp] theorem after_pure (a : α) : (pure a : Durable ε σ α).after s = s := rfl
@[simp] theorem result_pure (a : α) : (pure a : Durable ε σ α).result s = .ok a := rfl
@[simp] theorem after_read (f : σ → α) : (read f : Durable ε σ α).after s = s := rfl
@[simp] theorem result_read (f : σ → α) : (read f : Durable ε σ α).result s = .ok (f s) := rfl
@[simp] theorem after_write (f : σ → σ) : (write f : Durable ε σ Unit).after s = f s := rfl
@[simp] theorem result_write (f : σ → σ) : (write f : Durable ε σ Unit).result s = .ok () := rfl
@[simp] theorem result_steps (f : σ → List σ) : (steps f : Durable ε σ Unit).result s = .ok () := rfl
@[simp] theorem after_ofExcept (x : Except ε α) : (ofExcept x : Durable ε σ α).after s = s := rfl
@[simp] theorem result_ofExcept (x : Except ε α) : (ofExcept x : Durable ε σ α).result s = x := rfl
@[simp] theorem after_throw (e : ε) : (throw e : Durable ε σ α).after s = s := rfl
@[simp] theorem result_throw (e : ε) : (throw e : Durable ε σ α).result s = .error e := rfl

@[simp] theorem after_require (p : Prop) [Decidable p] (e : ε) :
    (require p e : Durable ε σ Unit).after s = s := by
  unfold require
  split_ifs <;> rfl

theorem result_require_pos {p : Prop} [Decidable p] (hp : p) (e : ε) :
    (require p e : Durable ε σ Unit).result s = .ok () := by
  unfold require
  rw [if_pos hp]
  rfl

theorem result_require_neg {p : Prop} [Decidable p] (hp : ¬p) (e : ε) :
    (require p e : Durable ε σ Unit).result s = .error e := by
  unfold require
  rw [if_neg hp]
  rfl

theorem after_steps {f : σ → List σ} {t : List σ} {a : σ} (h : f s = t ++ [a]) :
    (steps f : Durable ε σ Unit).after s = a := by
  unfold after steps
  simp [h, lastOf]

variable {s' : σ}

@[simp] theorem leaves_pure (a : α) : (pure a : Durable ε σ α).Leaves s s' ↔ s' = s :=
  or_iff_left List.not_mem_nil

@[simp] theorem leaves_read (f : σ → α) : (read f : Durable ε σ α).Leaves s s' ↔ s' = s :=
  or_iff_left List.not_mem_nil

@[simp] theorem leaves_ofExcept (x : Except ε α) :
    (ofExcept x : Durable ε σ α).Leaves s s' ↔ s' = s := or_iff_left List.not_mem_nil

@[simp] theorem leaves_require (p : Prop) [Decidable p] (e : ε) :
    (require p e : Durable ε σ Unit).Leaves s s' ↔ s' = s := by
  unfold require
  split_ifs
  · exact leaves_pure s ()
  · exact leaves_ofExcept s _

@[simp] theorem leaves_throw (e : ε) : (throw e : Durable ε σ α).Leaves s s' ↔ s' = s :=
  or_iff_left List.not_mem_nil

@[simp] theorem leaves_write (f : σ → σ) :
    (write f : Durable ε σ Unit).Leaves s s' ↔ s' = s ∨ s' = f s :=
  or_congr_right List.mem_singleton

end

theorem leaves_self (m : Durable ε σ α) (s : σ) : m.Leaves s s := .inl rfl

/-- A computation that has ended can be killed, too. -/
theorem leaves_after (m : Durable ε σ α) (s : σ) : m.Leaves s (m.after s) := lastOf_mem s _

/-! ## Composition -/

section
variable {m : Durable ε σ α} {f : α → Durable ε σ β} {s s' : σ} {a : α} {b : β} {e : ε}

theorem bind_apply_ok (h : m.result s = .ok a) :
    (m >>= f) s = ((m s).1 ++ (f a (m.after s)).1, (f a (m.after s)).2) := by
  change Durable.bind m f s = _
  unfold Durable.bind
  unfold result at h
  rw [show m s = ((m s).1, .ok a) from Prod.ext rfl h]
  simp only
  rw [show m.after s = lastOf s (m s).1 from rfl]

theorem bind_apply_error (h : m.result s = .error e) : (m >>= f) s = ((m s).1, .error e) := by
  change Durable.bind m f s = _
  unfold Durable.bind
  unfold result at h
  rw [show m s = ((m s).1, .error e) from Prod.ext rfl h]

theorem after_bind_ok (h : m.result s = .ok a) : (m >>= f).after s = (f a).after (m.after s) := by
  unfold after
  rw [bind_apply_ok h, lastOf_append]
  rfl

theorem result_bind_ok (h : m.result s = .ok a) : (m >>= f).result s = (f a).result (m.after s) := by
  unfold result
  rw [bind_apply_ok h]

theorem after_bind_error (h : m.result s = .error e) : (m >>= f).after s = m.after s := by
  unfold after
  rw [bind_apply_error h]

theorem result_bind_error (h : m.result s = .error e) : (m >>= f).result s = .error e := by
  unfold result
  rw [bind_apply_error h]

theorem after_result_bind_ok (h : m.result s = .ok a) :
    ((m >>= f).after s, (m >>= f).result s) = ((f a).after (m.after s), (f a).result (m.after s)) := by
  rw [after_bind_ok h, result_bind_ok h]

/-- A composition succeeds when both parts do. -/
theorem bind_eq_ok : (m >>= f).result s = .ok b ↔
    ∃ a, m.result s = .ok a ∧ (f a).result (m.after s) = .ok b := by
  cases h : m.result s with
  | error e => simp [result_bind_error h]
  | ok a => simp [result_bind_ok h]

/-- A composition fails when a part does. -/
theorem bind_eq_error : (m >>= f).result s = .error e ↔ m.result s = .error e ∨
    ∃ a, m.result s = .ok a ∧ (f a).result (m.after s) = .error e := by
  cases h : m.result s with
  | error e' => simp [result_bind_error h]
  | ok a => simp [result_bind_ok h]

/-- A kill hits one of the two parts. -/
theorem leaves_bind : (m >>= f).Leaves s s' ↔ m.Leaves s s' ∨
    ∃ a, m.result s = .ok a ∧ (f a).Leaves (m.after s) s' := by
  cases h : m.result s with
  | error e =>
    unfold Leaves
    rw [bind_apply_error h]
    simp
  | ok a =>
    have hlast := m.leaves_after s
    unfold Leaves at hlast ⊢
    rw [bind_apply_ok h]
    simp only [List.mem_append, Except.ok.injEq, exists_eq_left']
    constructor
    · rintro (h | h | h)
      · exact .inl (.inl h)
      · exact .inl (.inr h)
      · exact .inr (.inr h)
    · rintro ((h | h) | rfl | h)
      · exact .inl h
      · exact .inr (.inl h)
      · exact hlast.imp_right .inl
      · exact .inr (.inr h)

theorem bind_assoc {γ : Type} (m : Durable ε σ α) (f : α → Durable ε σ β) (g : β → Durable ε σ γ) :
    (m >>= f) >>= g = m >>= fun a => f a >>= g := by
  funext s
  cases hm : m.result s with
  | error e => rw [bind_apply_error (result_bind_error hm), bind_apply_error hm, bind_apply_error hm]
  | ok a =>
    rw [bind_apply_ok hm]
    cases hf : (f a).result (m.after s) with
    | error e =>
      rw [bind_apply_error ((result_bind_ok hm).trans hf), bind_apply_error hf, bind_apply_ok hm]
    | ok b =>
      rw [bind_apply_ok ((result_bind_ok hm).trans hf), bind_apply_ok hf, bind_apply_ok hm,
        after_bind_ok hm, List.append_assoc]

@[simp] theorem read_bind (g : σ → α) : (read g >>= f) s = f (g s) s := by
  rw [bind_apply_ok rfl]
  rfl

@[simp] theorem result_read_bind (g : σ → α) : (read g >>= f).result s = (f (g s)).result s := by
  unfold result
  rw [read_bind]

@[simp] theorem after_read_bind (g : σ → α) : (read g >>= f).after s = (f (g s)).after s := by
  unfold after
  rw [read_bind]

@[simp] theorem leaves_read_bind (g : σ → α) :
    (read g >>= f).Leaves s s' ↔ (f (g s)).Leaves s s' := by
  unfold Leaves
  rw [read_bind]

end

/-! ## Loops -/

section
variable {f : α → Durable ε σ Unit} {s s' : σ} {a : α} {l : List α} {e : ε}

theorem forEach_nil : forEach f [] = pure () := rfl

theorem forEach_cons : forEach f (a :: l) = (do f a; forEach f l) := rfl

/-- What every round keeps, the loop keeps, on the way as well as in the end. -/
theorem forEach_leaves {P : σ → Prop} (hf : ∀ a ∈ l, ∀ s s', P s → (f a).Leaves s s' → P s')
    (hs : P s) (h : (forEach f l).Leaves s s') : P s' := by
  induction l generalizing s with
  | nil =>
    rw [forEach_nil, leaves_pure] at h
    exact h ▸ hs
  | cons a l ih =>
    rw [forEach_cons, leaves_bind] at h
    rcases h with h | ⟨-, -, h⟩
    · exact hf a List.mem_cons_self s s' hs h
    · exact ih (fun b hb => hf b (List.mem_cons_of_mem _ hb))
        (hf a List.mem_cons_self _ _ hs ((f a).leaves_after s)) h

end

theorem forEach_ok {f : α → Durable ε σ Unit} {l : List α}
    (hf : ∀ a ∈ l, ∀ s, (f a).result s = .ok ()) (s : σ) : (forEach f l).result s = .ok () := by
  induction l generalizing s with
  | nil => rfl
  | cons a l ih =>
    rw [forEach_cons, result_bind_ok (hf a List.mem_cons_self s)]
    exact ih (fun b hb => hf b (List.mem_cons_of_mem _ hb)) _

/-! ## Rounds that do not meet

Rounds that each work on a part of the disk of their own: `view a` is the part of round `a`,
`ok a` tells from this part whether the round succeeds, `upd a` what it makes of it. -/

/-- The rounds that a loop gets to: up to the first that fails. -/
def reached (ok : α → Bool) : List α → List α
  | [] => []
  | a :: l => a :: if ok a then reached ok l else []

theorem reached_subset {ok : α → Bool} {l : List α} : reached ok l ⊆ l := by
  induction l with
  | nil => exact List.Subset.refl _
  | cons a l ih =>
    unfold reached
    refine List.cons_subset_cons a ?_
    split_ifs
    · exact ih
    · exact List.nil_subset _

theorem reached_congr {ok ok' : α → Bool} {l : List α} (h : ∀ a ∈ l, ok a = ok' a) :
    reached ok l = reached ok' l := by
  induction l with
  | nil => rfl
  | cons a l ih =>
    unfold reached
    rw [h a List.mem_cons_self, ih fun b hb => h b (List.mem_cons_of_mem _ hb)]

theorem reached_of_all {ok : α → Bool} {l : List α} (h : ∀ a ∈ l, ok a) : reached ok l = l := by
  induction l with
  | nil => rfl
  | cons a l ih =>
    unfold reached
    rw [if_pos (h a List.mem_cons_self), ih fun b hb => h b (List.mem_cons_of_mem _ hb)]

structure Independent {ρ : Type} (f : α → Durable ε σ Unit) (l : List α) (view : α → σ → ρ)
    (ok : α → ρ → Bool) (upd : α → ρ → ρ) : Prop where
  result : ∀ a ∈ l, ∀ s, ((f a).result s).isOk = ok a (view a s)
  own : ∀ a ∈ l, ∀ s, view a ((f a).after s) = upd a (view a s)
  frame : l.Pairwise fun a b =>
    (∀ s, view b ((f a).after s) = view b s) ∧ ∀ s, view a ((f b).after s) = view a s

section
variable {ρ : Type} {f : α → Durable ε σ Unit} {l : List α} {view : α → σ → ρ}
  {ok : α → ρ → Bool} {upd : α → ρ → ρ} {s : σ} {a : α}

/-- A reading that every round keeps. -/
theorem forEach_read {γ : Type} {g : σ → γ} (hf : ∀ a ∈ l, ∀ s, g ((f a).after s) = g s) :
    g ((forEach f l).after s) = g s := by
  induction l generalizing s with
  | nil => rfl
  | cons a l ih =>
    rw [forEach_cons]
    cases h : (f a).result s with
    | error e => rw [after_bind_error h, hf a List.mem_cons_self]
    | ok u =>
      rw [after_bind_ok h, ih fun b hb => hf b (List.mem_cons_of_mem _ hb),
        hf a List.mem_cons_self]

theorem Independent.tail (h : Independent f (a :: l) view ok upd) :
    Independent f l view ok upd where
  result b hb := h.result b (List.mem_cons_of_mem _ hb)
  own b hb := h.own b (List.mem_cons_of_mem _ hb)
  frame := (List.pairwise_cons.1 h.frame).2

/-- What a first round leaves of the later rounds. -/
theorem Independent.reached_after (h : Independent f (a :: l) view ok upd) :
    reached (fun b => ok b (view b ((f a).after s))) l =
      reached (fun b => ok b (view b s)) l :=
  reached_congr fun b hb => by rw [((List.pairwise_cons.1 h.frame).1 b hb).1 s]

/-- A loop succeeds when each of its rounds does, on the part that it finds. -/
theorem Independent.ok_iff (h : Independent f l view ok upd) :
    (forEach f l).result s = .ok () ↔ ∀ a ∈ l, ok a (view a s) := by
  induction l generalizing s with
  | nil => simp [forEach_nil]
  | cons a l ih =>
    rw [forEach_cons, bind_eq_ok, List.forall_mem_cons, ← h.result a List.mem_cons_self s]
    have hview : ∀ b ∈ l, view b ((f a).after s) = view b s := fun b hb =>
      ((List.pairwise_cons.1 h.frame).1 b hb).1 s
    constructor
    · rintro ⟨u, hu, hl⟩
      refine ⟨by rw [hu]; rfl, fun b hb => ?_⟩
      rw [← hview b hb]
      exact (ih h.tail).1 hl b hb
    · rintro ⟨ha, hl⟩
      cases hu : (f a).result s with
      | error e => rw [hu] at ha; cases ha
      | ok u => exact ⟨u, rfl, (ih h.tail).2 fun b hb => by rw [hview b hb]; exact hl b hb⟩

/-- **The part of a round after the loop**: updated when the loop gets to the round. -/
theorem Independent.view_after (h : Independent f l view ok upd) :
    (∀ a ∈ reached (fun a => ok a (view a s)) l,
      view a ((forEach f l).after s) = upd a (view a s)) ∧
    ∀ a ∈ l, a ∉ reached (fun a => ok a (view a s)) l →
      view a ((forEach f l).after s) = view a s := by
  induction l generalizing s with
  | nil => exact ⟨fun a ha => (by cases ha), fun a ha => (by cases ha)⟩
  | cons a l ih =>
    have hframe := (List.pairwise_cons.1 h.frame).1
    have hres := h.result a List.mem_cons_self s
    obtain ⟨hin, hout⟩ := ih (s := (f a).after s) h.tail
    rw [h.reached_after] at hin hout
    unfold reached
    rw [forEach_cons]
    cases hu : (f a).result s with
    | error e =>
      rw [hu] at hres
      rw [← hres, after_bind_error hu, if_neg (by rintro ⟨⟩)]
      constructor
      · intro b hb
        rw [List.mem_singleton.1 hb]
        exact h.own a List.mem_cons_self s
      · intro b hb hba
        rcases List.mem_cons.1 hb with rfl | hb
        · exact absurd List.mem_cons_self hba
        · exact (hframe b hb).1 s
    | ok u =>
      rw [hu] at hres
      rw [← hres, if_pos (by rfl), after_bind_ok hu]
      constructor
      · intro b hb
        rcases List.mem_cons.1 hb with rfl | hb
        · rw [forEach_read fun c hc => (hframe c hc).2, h.own b List.mem_cons_self]
        · rw [hin b hb, (hframe b (reached_subset hb)).1]
      · intro b hb hba
        rcases List.mem_cons.1 hb with rfl | hb
        · exact absurd List.mem_cons_self hba
        · rw [hout b hb fun hb' => hba (List.mem_cons_of_mem _ hb'), (hframe b hb).1]

end

/-! ## Computations with a known result -/

/-- `m` computes `a` on every disk, and changes the disk as `R` allows, also when it is
    killed. -/
def Computes (R : σ → σ → Prop) (m : Durable ε σ α) (a : α) : Prop :=
  ∀ s, m.result s = .ok a ∧ ∀ s', m.Leaves s s' → R s s'

section
variable {R : σ → σ → Prop} {m : Durable ε σ α} {a : α} {b : β}

theorem Computes.pure (hrefl : ∀ s, R s s) (a : α) :
    Computes R (pure a : Durable ε σ α) a := fun s =>
  ⟨rfl, fun s' h => by rw [leaves_pure] at h; exact h ▸ hrefl s⟩

theorem Computes.bind {f : α → Durable ε σ β} (htrans : ∀ s₁ s₂ s₃, R s₁ s₂ → R s₂ s₃ → R s₁ s₃)
    (hm : Computes R m a) (hf : Computes R (f a) b) : Computes R (m >>= f) b := by
  intro s
  refine ⟨bind_eq_ok.2 ⟨a, (hm s).1, (hf _).1⟩, fun s' h => ?_⟩
  rcases leaves_bind.1 h with h | ⟨a', ha, h⟩
  · exact (hm s).2 s' h
  · obtain rfl := Except.ok.inj ((hm s).1.symm.trans ha)
    exact htrans _ _ _ ((hm s).2 _ (m.leaves_after s)) ((hf _).2 s' h)

theorem Computes.traverse {f : α → Durable ε σ β} {g : α → β} (hrefl : ∀ s, R s s)
    (htrans : ∀ s₁ s₂ s₃, R s₁ s₂ → R s₂ s₃ → R s₁ s₃) {l : List α}
    (hf : ∀ a ∈ l, Computes R (f a) (g a)) : Computes R (Durable.traverse f l) (l.map g) := by
  induction l with
  | nil => exact .pure hrefl _
  | cons a l ih =>
    exact (hf a List.mem_cons_self).bind htrans
      ((ih fun b hb => hf b (List.mem_cons_of_mem _ hb)).bind htrans (.pure hrefl _))

theorem Computes.after (h : Computes R m a) (s : σ) : R s (m.after s) :=
  (h s).2 _ (m.leaves_after s)

end

/-! ## Computations that establish something -/

/-- `m` changes the disk as `R` allows, also when it is killed. -/
def Spares (R : σ → σ → Prop) (m : Durable ε σ α) : Prop := ∀ s s', m.Leaves s s' → R s s'

/-- `m` changes the disk as `R` allows, and when it succeeds it leaves `P`. -/
structure Establishes (R : σ → σ → Prop) (P : σ → Prop) (m : Durable ε σ α) : Prop where
  spares : Spares R m
  holds : ∀ s a, m.result s = .ok a → P (m.after s)

section
variable {R : σ → σ → Prop} {P : σ → Prop} {m : Durable ε σ α} {a : α}

theorem Computes.spares (h : Computes R m a) : Spares R m := fun s => (h s).2

theorem Spares.pure (hrefl : ∀ s, R s s) (a : α) : Spares R (pure a : Durable ε σ α) :=
  fun s s' h => by
    rw [leaves_pure] at h
    exact h ▸ hrefl s

theorem Spares.throw (hrefl : ∀ s, R s s) (e : ε) : Spares R (throw e : Durable ε σ α) :=
  fun s s' h => by
    rw [leaves_throw] at h
    exact h ▸ hrefl s

theorem Spares.write {f : σ → σ} (hrefl : ∀ s, R s s) (hf : ∀ s, R s (f s)) :
    Spares R (write f : Durable ε σ Unit) := by
  intro s s' h
  rcases (leaves_write _ _).1 h with rfl | rfl
  · exact hrefl s'
  · exact hf s

theorem Spares.bind {f : α → Durable ε σ β} (htrans : ∀ s₁ s₂ s₃, R s₁ s₂ → R s₂ s₃ → R s₁ s₃)
    (hm : Spares R m) (hf : ∀ a, Spares R (f a)) : Spares R (m >>= f) := by
  intro s s' h
  rcases leaves_bind.1 h with h | ⟨a, -, h⟩
  · exact hm s s' h
  · exact htrans _ _ _ (hm _ _ (m.leaves_after s)) (hf a _ _ h)

theorem Spares.read_bind {g : σ → α} {f : α → Durable ε σ β} (hf : ∀ a, Spares R (f a)) :
    Spares R (read g >>= f) := fun s s' h => hf _ s s' ((leaves_read_bind g).1 h)

theorem Spares.forEach {f : α → Durable ε σ Unit} (hrefl : ∀ s, R s s)
    (htrans : ∀ s₁ s₂ s₃, R s₁ s₂ → R s₂ s₃ → R s₁ s₃) {l : List α}
    (hf : ∀ a ∈ l, Spares R (f a)) : Spares R (Durable.forEach f l) := fun s _ h =>
  forEach_leaves (P := R s) (fun a ha s₁ s₂ h₁ h₂ => htrans s s₁ s₂ h₁ (hf a ha s₁ s₂ h₂))
    (hrefl s) h

/-- What the first part leaves stands when the second part keeps it. -/
theorem Establishes.before {f : α → Durable ε σ β}
    (htrans : ∀ s₁ s₂ s₃, R s₁ s₂ → R s₂ s₃ → R s₁ s₃) (hkeep : ∀ s s', R s s' → P s → P s')
    (hm : Establishes R P m) (hf : ∀ a, Spares R (f a)) : Establishes R P (m >>= f) := by
  refine ⟨hm.spares.bind htrans hf, fun s b h => ?_⟩
  obtain ⟨a, ha, h⟩ := bind_eq_ok.1 h
  rw [after_bind_ok ha]
  exact hkeep _ _ (hf a _ _ (leaves_after _ _)) (hm.holds s a ha)

/-- What the second part leaves. -/
theorem Establishes.after {f : α → Durable ε σ β}
    (htrans : ∀ s₁ s₂ s₃, R s₁ s₂ → R s₂ s₃ → R s₁ s₃) (hm : Spares R m)
    (hs : ∀ a, Spares R (f a)) (hf : ∀ s a, m.result s = .ok a → Establishes R P (f a)) :
    Establishes R P (m >>= f) := by
  refine ⟨hm.bind htrans hs, fun s b h => ?_⟩
  obtain ⟨a, ha, h⟩ := bind_eq_ok.1 h
  rw [after_bind_ok ha]
  exact (hf s a ha).holds _ b h

/-- What one round of a loop leaves, the loop leaves. -/
theorem Establishes.forEach {f : α → Durable ε σ Unit} (hrefl : ∀ s, R s s)
    (htrans : ∀ s₁ s₂ s₃, R s₁ s₂ → R s₂ s₃ → R s₁ s₃) (hkeep : ∀ s s', R s s' → P s → P s')
    {l : List α} (hf : ∀ a ∈ l, Spares R (f a)) (ha : a ∈ l) (h : Establishes R P (f a)) :
    Establishes R P (Durable.forEach f l) := by
  induction l with
  | nil => cases ha
  | cons b l ih =>
    have hrest : Spares R (Durable.forEach f l) :=
      .forEach hrefl htrans fun c hc => hf c (List.mem_cons_of_mem _ hc)
    rw [forEach_cons]
    rcases List.mem_cons.1 ha with rfl | ha
    · exact h.before htrans hkeep fun _ => hrest
    · exact .after htrans (hf b List.mem_cons_self) (fun _ => hrest) fun _ _ _ =>
        ih (fun c hc => hf c (List.mem_cons_of_mem _ hc)) ha

theorem Spares.traverse {f : α → Durable ε σ β} (hrefl : ∀ s, R s s)
    (htrans : ∀ s₁ s₂ s₃, R s₁ s₂ → R s₂ s₃ → R s₁ s₃) {l : List α}
    (hf : ∀ a ∈ l, Spares R (f a)) : Spares R (Durable.traverse f l) := by
  induction l with
  | nil => exact .pure hrefl _
  | cons a l ih =>
    exact (hf a List.mem_cons_self).bind htrans fun b =>
      (ih fun c hc => hf c (List.mem_cons_of_mem _ hc)).bind htrans fun _ => .pure hrefl _

/-- What one round of a traversal leaves, the traversal leaves. -/
theorem Establishes.traverse {f : α → Durable ε σ β} (hrefl : ∀ s, R s s)
    (htrans : ∀ s₁ s₂ s₃, R s₁ s₂ → R s₂ s₃ → R s₁ s₃) (hkeep : ∀ s s', R s s' → P s → P s')
    {l : List α} (hf : ∀ a ∈ l, Spares R (f a)) (ha : a ∈ l) (h : Establishes R P (f a)) :
    Establishes R P (Durable.traverse f l) := by
  induction l with
  | nil => cases ha
  | cons b l ih =>
    have hfl : ∀ c ∈ l, Spares R (f c) := fun c hc => hf c (List.mem_cons_of_mem _ hc)
    have hrest : Spares R (Durable.traverse f l) := .traverse hrefl htrans hfl
    have hend (c : β) : Spares R (Durable.traverse f l >>= fun bs => pure (c :: bs)) :=
      hrest.bind htrans fun _ => .pure hrefl _
    rcases List.mem_cons.1 ha with rfl | ha
    · exact h.before htrans hkeep hend
    · exact .after htrans (hf b List.mem_cons_self) hend fun _ c _ =>
        (ih hfl ha).before htrans hkeep fun _ => .pure hrefl _

end

/-! ## Parts of the disk -/

section
variable {get : σ → τ} {set : τ → σ → σ} {m : Durable ε τ α} {s s' : σ}

@[simp] theorem result_zoom : (zoom get set m).result s = m.result (get s) := rfl

/-- A kill leaves the rest of the disk as it was. -/
theorem leaves_zoom : (zoom get set m).Leaves s s' ↔ s' = s ∨ ∃ t ∈ (m (get s)).1, s' = set t s := by
  unfold Leaves zoom
  simp only [List.mem_map]
  exact or_congr_right ⟨fun ⟨t, ht, h⟩ => ⟨t, ht, h.symm⟩, fun ⟨t, ht, h⟩ => ⟨t, ht, h.symm⟩⟩

theorem after_zoom : (zoom get set m).after s = s ∧ (m (get s)).1 = [] ∨
    (zoom get set m).after s = set (m.after (get s)) s := by
  unfold after zoom
  simp only
  rcases List.eq_nil_or_concat (m (get s)).1 with h | ⟨t, a, h⟩
  · exact .inl ⟨by rw [h]; rfl, h⟩
  · exact .inr (by rw [h]; simp [lastOf])

/-- The part that `m` has worked on. -/
theorem get_after_zoom (hget : ∀ t s, get (set t s) = t) :
    get ((zoom get set m).after s) = m.after (get s) := by
  rcases after_zoom (m := m) (s := s) with ⟨h, hnil⟩ | h
  · rw [h, after, hnil]; rfl
  · rw [h, hget]

end

end Durable
