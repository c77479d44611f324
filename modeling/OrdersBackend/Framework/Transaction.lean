import Mathlib.Tactic.Lemma
import Mathlib.Tactic.TypeStar

/-!
# Computations over a store that outlives an exception

`Tx σ ε α` is a computation that reads and writes a store `σ` and either returns an `α` or
raises an `ε`.  A write is kept when a later step raises: this is the meaning of a program
whose every database write is its own transaction.  Two operators change that.  `tryCatch`
hands an exception to a handler together with the store as the failing code left it, and
`atomic` restores the store of its start when its body raises.

`forEach` is the loop of such a program: it stops at the first element that raises.
-/

namespace Framework

/-- A computation over the store `σ`: it ends with a value or an exception, and with a store
in both cases. -/
def Tx (σ ε α : Type) : Type := σ → Except ε α × σ

/-! ## Exceptions without a store -/

section

variable {ε α β : Type}

lemma except_ok_bind (a : α) (f : α → Except ε β) : (Except.ok a >>= f) = f a := rfl

lemma except_error_bind (e : ε) (f : α → Except ε β) :
    ((Except.error e : Except ε α) >>= f) = .error e := rfl

/-- A computation in two parts returns when both do. -/
lemma except_bind_eq_ok {r : Except ε α} {f : α → Except ε β} {b : β} :
    (r >>= f) = .ok b ↔ ∃ a, r = .ok a ∧ f a = .ok b := by
  cases r with
  | error e => simp [except_error_bind]
  | ok a => simp [except_ok_bind]

/-- A computation on every element of a list returns when each of them does. -/
lemma except_mapM_ok_iff {f : α → Except ε β} {as : List α} :
    (∃ bs, as.mapM f = .ok bs) ↔ ∀ a ∈ as, ∃ b, f a = .ok b := by
  induction as with
  | nil => exact ⟨fun _ => by simp, fun _ => ⟨[], rfl⟩⟩
  | cons a as ih =>
      simp only [List.mapM_cons, except_bind_eq_ok, List.forall_mem_cons, ← ih]
      constructor
      · rintro ⟨_, b, hb, bs, hbs, -⟩
        exact ⟨⟨b, hb⟩, bs, hbs⟩
      · rintro ⟨⟨b, hb⟩, bs, hbs⟩
        exact ⟨_, b, hb, bs, hbs, rfl⟩

end

namespace Tx

variable {σ ε α β ω : Type}

protected def pure (a : α) : Tx σ ε α := fun s => (.ok a, s)

protected def bind (m : Tx σ ε α) (f : α → Tx σ ε β) : Tx σ ε β := fun s =>
  match m s with
  | (.ok a, s') => f a s'
  | (.error e, s') => (.error e, s')

instance : Monad (Tx σ ε) where
  pure := Tx.pure
  bind := Tx.bind

/-- Raise `e`; the store stays as it is. -/
def throw (e : ε) : Tx σ ε α := fun s => (.error e, s)

/-- A computation that does not touch the store. -/
def lift (r : Except ε α) : Tx σ ε α := fun s => (r, s)

def get : Tx σ ε σ := fun s => (.ok s, s)

/-- A write, committed at once. -/
def modify (f : σ → σ) : Tx σ ε Unit := fun s => (.ok (), f s)

/-- `try`/`except`: the handler starts from the store the failing code left. -/
def tryCatch (m : Tx σ ε α) (handler : ε → Tx σ ε α) : Tx σ ε α := fun s =>
  match m s with
  | (.ok a, s') => (.ok a, s')
  | (.error e, s') => handler e s'

/-- A transaction: an exception that leaves the body takes all its writes back. -/
def atomic (m : Tx σ ε α) : Tx σ ε α := fun s =>
  match m s with
  | (.ok a, s') => (.ok a, s')
  | (.error e, _) => (.error e, s)

/-- Run a computation on a part of the store. -/
def zoom {τ : Type} (view : σ → τ) (update : τ → σ → σ) (m : Tx τ ε α) : Tx σ ε α := fun s =>
  ((m (view s)).1, update (m (view s)).2 s)

/-- The loop `for x in xs: f(x)`. -/
def forEach (f : ω → Tx σ ε Unit) : List ω → Tx σ ε Unit
  | [] => pure ()
  | x :: xs => f x >>= fun _ => forEach f xs

/-! ## Running the operators -/

@[simp] lemma pure_apply (a : α) (s : σ) : (pure a : Tx σ ε α) s = (.ok a, s) := rfl

@[simp] lemma get_apply (s : σ) : (get : Tx σ ε σ) s = (.ok s, s) := rfl

@[simp] lemma zoom_apply {τ : Type} (view : σ → τ) (update : τ → σ → σ) (m : Tx τ ε α)
    (s : σ) : zoom view update m s = ((m (view s)).1, update (m (view s)).2 s) := rfl

@[simp] lemma modify_apply (f : σ → σ) (s : σ) :
    (modify f : Tx σ ε Unit) s = (.ok (), f s) := rfl

lemma bind_apply (m : Tx σ ε α) (f : α → Tx σ ε β) (s : σ) :
    (m >>= f) s =
      match m s with
      | (.ok a, s') => f a s'
      | (.error e, s') => (.error e, s') := rfl

lemma bind_of_ok {m : Tx σ ε α} {f : α → Tx σ ε β} {s s' : σ} {a : α}
    (h : m s = (.ok a, s')) : (m >>= f) s = f a s' := by
  rw [bind_apply, h]

lemma bind_of_error {m : Tx σ ε α} {f : α → Tx σ ε β} {s s' : σ} {e : ε}
    (h : m s = (.error e, s')) : (m >>= f) s = (.error e, s') := by
  rw [bind_apply, h]

lemma tryCatch_of_ok {m : Tx σ ε α} {handler : ε → Tx σ ε α} {s s' : σ} {a : α}
    (h : m s = (.ok a, s')) : tryCatch m handler s = (.ok a, s') := by
  simp [tryCatch, h]

lemma tryCatch_of_error {m : Tx σ ε α} {handler : ε → Tx σ ε α} {s s' : σ} {e : ε}
    (h : m s = (.error e, s')) : tryCatch m handler s = handler e s' := by
  simp [tryCatch, h]

lemma atomic_of_ok {m : Tx σ ε α} {s s' : σ} {a : α}
    (h : m s = (.ok a, s')) : atomic m s = (.ok a, s') := by
  simp [atomic, h]

lemma atomic_of_error {m : Tx σ ε α} {s s' : σ} {e : ε}
    (h : m s = (.error e, s')) : atomic m s = (.error e, s) := by
  simp [atomic, h]

/-- What is returned at the end does not touch the store. -/
lemma snd_bind_pure {β : Type} (m : Tx σ ε α) (f : α → β) (s : σ) :
    ((m >>= fun a => pure (f a) : Tx σ ε β) s).2 = (m s).2 := by
  rw [bind_apply]
  rcases m s with ⟨e | a, s'⟩ <;> rfl

lemma bind_pure_id (m : Tx σ ε α) : (m >>= fun a => pure a) = m := by
  funext s
  rcases hm : m s with ⟨e | a, s'⟩
  · rw [bind_of_error hm]
  · rw [bind_of_ok hm, pure_apply]

lemma bind_assoc_apply {γ : Type} (m : Tx σ ε α) (f : α → Tx σ ε β) (g : β → Tx σ ε γ) :
    m >>= f >>= g = m >>= fun a => f a >>= g := by
  funext s
  rcases hm : m s with ⟨e | a, s'⟩
  · rw [bind_of_error (bind_of_error hm), bind_of_error hm]
  · rw [bind_apply (m >>= f), bind_of_ok hm, bind_of_ok hm]
    rfl

instance : LawfulMonad (Tx σ ε) :=
  LawfulMonad.mk' _ bind_pure_id (fun _ _ => rfl) bind_assoc_apply

@[simp] lemma lift_ok (a : α) : (lift (.ok a) : Tx σ ε α) = pure a := rfl

@[simp] lemma lift_error (e : ε) : (lift (.error e) : Tx σ ε α) = throw e := rfl

@[simp] lemma throw_bind (e : ε) (f : α → Tx σ ε β) :
    (throw e : Tx σ ε α) >>= f = throw e := rfl

/-! ## Loops -/

@[simp] lemma forEach_cons (f : ω → Tx σ ε Unit) (x : ω) (xs : List ω) :
    forEach f (x :: xs) = f x >>= fun _ => forEach f xs := rfl

/-- A loop whose steps all return ends in the state its steps lead to, one after the other. -/
lemma forEach_of_ok {f : ω → Tx σ ε Unit} {next : σ → ω → σ} {I : σ → Prop}
    (hstep : ∀ s x, I s → f x s = (.ok (), next s x)) (hkeep : ∀ s x, I s → I (next s x))
    {s : σ} (hs : I s) (xs : List ω) : forEach f xs s = (.ok (), xs.foldl next s) := by
  induction xs generalizing s with
  | nil => rfl
  | cons x xs ih =>
      rw [forEach_cons, bind_of_ok (hstep s x hs), List.foldl_cons]
      exact ih (hkeep s x hs)

/-! ## Invariants

A computation keeps a property of the store when every store that has it leads to one that has
it, whether the computation returns or raises. -/

def Keeps (I : σ → Prop) (m : Tx σ ε α) : Prop := ∀ s, I s → I (m s).2

section

variable {I : σ → Prop}

lemma keeps_pure (a : α) : Keeps I (pure a : Tx σ ε α) := fun _ hs => hs

lemma keeps_lift (r : Except ε α) : Keeps I (lift r : Tx σ ε α) := fun _ hs => hs

/-- A write that is made in the states that allow it. -/
lemma keeps_dite {fits : σ → Prop} [DecidablePred fits] {a : σ → α} {set : ∀ s, fits s → σ}
    {e : ε} (h : ∀ s hfits, I s → I (set s hfits)) :
    Keeps I (fun s => if hfits : fits s then (.ok (a s), set s hfits) else (.error e, s) :
      Tx σ ε α) := by
  intro s hs
  by_cases hfits : fits s
  · simp only [dif_pos hfits]
    exact h s hfits hs
  · simp only [dif_neg hfits]
    exact hs

lemma Keeps.bind {m : Tx σ ε α} {f : α → Tx σ ε β} (hm : Keeps I m) (hf : ∀ a, Keeps I (f a)) :
    Keeps I (m >>= f) := by
  intro s hs
  have hnext := hm s hs
  rw [bind_apply]
  rcases hresult : m s with ⟨e | a, s'⟩ <;> rw [hresult] at hnext
  · exact hnext
  · exact hf a s' hnext

lemma keeps_forEach {f : ω → Tx σ ε Unit} (hf : ∀ x, Keeps I (f x)) (xs : List ω) :
    Keeps I (forEach f xs) := by
  induction xs with
  | nil => exact keeps_pure ()
  | cons x xs ih => exact (hf x).bind fun _ => ih

end

end Tx

end Framework
