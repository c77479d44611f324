import Mathlib.Data.Finmap
import Mathlib.Tactic.Lemma
import Mathlib.Tactic.TypeStar

/-!
# Logs of upserts on keyed tables

A keyed table is a `Finmap`: at most one row a key, and two tables are equal when every
lookup is.  A `Patch` says what one write does to the row under its key, whether a row is
there or not, and how two writes to the same key combine into one.  A log is a list of
(key, patch) pairs; `replay` applies it in order.

The two laws of `Patch` are what makes a log a last-writer-wins merge: `lookup_replay` reads
a row of the result off the patches the log holds for its key, and `replay_replay` says that
replaying a log a second time changes nothing.
-/

namespace Framework

open Finmap

/-- What one write does to the row under its key: `apply p none` is the row it creates,
`apply p (some r)` the row it makes of `r`.  `merge p q` is `p` followed by `q`. -/
class Patch (π : Type*) (ρ : outParam (Type*)) where
  apply : π → Option ρ → ρ
  merge : π → π → π
  apply_merge : ∀ p q o, apply (merge p q) o = apply q (some (apply p o))
  apply_self : ∀ p o, apply p (some (apply p o)) = apply p o

section

variable {κ π ρ : Type*} [DecidableEq κ] [Patch π ρ]

/-- Write `p` under the key `k`. -/
def upsert (t : Finmap (fun _ : κ => ρ)) (k : κ) (p : π) : Finmap (fun _ : κ => ρ) :=
  t.insert k (Patch.apply p (t.lookup k))

lemma lookup_upsert_self (t : Finmap (fun _ : κ => ρ)) (k : κ) (p : π) :
    (upsert t k p).lookup k = some (Patch.apply p (t.lookup k)) :=
  lookup_insert t

lemma lookup_upsert_of_ne (t : Finmap (fun _ : κ => ρ)) {k k' : κ} (p : π) (h : k' ≠ k) :
    (upsert t k p).lookup k' = t.lookup k' :=
  lookup_insert_of_ne t h

/-- Apply a log of writes in order. -/
def replay (t : Finmap (fun _ : κ => ρ)) (log : List (κ × π)) : Finmap (fun _ : κ => ρ) :=
  log.foldl (fun t w => upsert t w.1 w.2) t

@[simp] lemma replay_nil (t : Finmap (fun _ : κ => ρ)) :
    replay t ([] : List (κ × π)) = t := rfl

@[simp] lemma replay_cons (t : Finmap (fun _ : κ => ρ)) (w : κ × π) (log : List (κ × π)) :
    replay t (w :: log) = replay (upsert t w.1 w.2) log := rfl

/-- The patches a log holds for the key `k`, in order. -/
def patchesAt (k : κ) (log : List (κ × π)) : List π :=
  log.filterMap fun w => if w.1 = k then some w.2 else none

@[simp] lemma patchesAt_nil (k : κ) : patchesAt k ([] : List (κ × π)) = [] := rfl

lemma patchesAt_cons (k : κ) (w : κ × π) (log : List (κ × π)) :
    patchesAt k (w :: log) = if w.1 = k then w.2 :: patchesAt k log else patchesAt k log := by
  by_cases h : w.1 = k <;> simp [patchesAt, h]

lemma patchesAt_append (k : κ) (log log' : List (κ × π)) :
    patchesAt k (log ++ log') = patchesAt k log ++ patchesAt k log' :=
  List.filterMap_append

lemma mem_patchesAt {k : κ} {p : π} {log : List (κ × π)} :
    p ∈ patchesAt k log ↔ (k, p) ∈ log := by
  simp only [patchesAt, List.mem_filterMap]
  constructor
  · rintro ⟨⟨k', p'⟩, hmem, hif⟩
    split at hif <;> simp_all
  · exact fun h => ⟨(k, p), h, if_pos rfl⟩

end

section

variable {π ρ : Type*} [Patch π ρ]

/-- What a list of patches makes of a row, one after the other. -/
def applyAll (ps : List π) (o : Option ρ) : Option ρ :=
  ps.foldl (fun o p => some (Patch.apply p o)) o

@[simp] lemma applyAll_nil (o : Option ρ) : applyAll ([] : List π) o = o := rfl

@[simp] lemma applyAll_cons (p : π) (ps : List π) (o : Option ρ) :
    applyAll (p :: ps) o = applyAll ps (some (Patch.apply p o)) := rfl

lemma applyAll_append (ps qs : List π) (o : Option ρ) :
    applyAll (ps ++ qs) o = applyAll qs (applyAll ps o) :=
  List.foldl_append

lemma applyAll_concat (ps : List π) (p : π) (o : Option ρ) :
    applyAll (ps ++ [p]) o = some (Patch.apply p (applyAll ps o)) := by
  rw [applyAll_append, applyAll_cons, applyAll_nil]

/-- A list of patches is one patch. -/
lemma exists_merged (p : π) (ps : List π) :
    ∃ q : π, ∀ o : Option ρ, applyAll (p :: ps) o = some (Patch.apply q o) := by
  induction ps generalizing p with
  | nil => exact ⟨p, fun o => rfl⟩
  | cons p' ps ih =>
      obtain ⟨q, hq⟩ := ih (Patch.merge p p')
      refine ⟨q, fun o => ?_⟩
      rw [← hq o]
      simp only [applyAll_cons, Patch.apply_merge]

/-- Applying a list of patches twice is applying it once. -/
lemma applyAll_applyAll (ps : List π) (o : Option ρ) :
    applyAll ps (applyAll ps o) = applyAll ps o := by
  cases ps with
  | nil => rfl
  | cons p ps =>
      obtain ⟨q, hq⟩ := exists_merged p ps
      rw [hq, hq, Patch.apply_self]

end

section

variable {κ π ρ : Type*} [DecidableEq κ] [Patch π ρ]

/-- A row of the replayed table is what the log's patches for its key make of the row that
was there. -/
theorem lookup_replay (t : Finmap (fun _ : κ => ρ)) (log : List (κ × π)) (k : κ) :
    (replay t log).lookup k = applyAll (patchesAt k log) (t.lookup k) := by
  induction log generalizing t with
  | nil => rfl
  | cons w log ih =>
      rw [replay_cons, ih, patchesAt_cons]
      by_cases h : w.1 = k
      · subst h
        rw [if_pos rfl, applyAll_cons, lookup_upsert_self]
      · rw [if_neg h, lookup_upsert_of_ne t w.2 (Ne.symm h)]

/-- A key the log does not name keeps its row. -/
lemma lookup_replay_of_notMem {t : Finmap (fun _ : κ => ρ)} {log : List (κ × π)} {k : κ}
    (h : ∀ w ∈ log, w.1 ≠ k) : (replay t log).lookup k = t.lookup k := by
  have hnil : patchesAt k log = [] := by
    rw [List.eq_nil_iff_forall_not_mem]
    exact fun p hp => h _ (mem_patchesAt.mp hp) rfl
  rw [lookup_replay, hnil, applyAll_nil]

/-- Rows are never removed. -/
lemma lookup_replay_isSome {t : Finmap (fun _ : κ => ρ)} {log : List (κ × π)} {k : κ}
    (h : (t.lookup k).isSome) : ((replay t log).lookup k).isSome := by
  induction log generalizing t with
  | nil => exact h
  | cons w log ih =>
      rw [replay_cons]
      apply ih
      by_cases hk : k = w.1
      · rw [hk, lookup_upsert_self]
        rfl
      · rw [lookup_upsert_of_ne t w.2 hk]
        exact h

/-- Replaying a log a second time changes nothing. -/
theorem replay_replay (t : Finmap (fun _ : κ => ρ)) (log : List (κ × π)) :
    replay (replay t log) log = replay t log :=
  ext_lookup fun k => by rw [lookup_replay, lookup_replay, applyAll_applyAll]

/-- A log changes nothing exactly when it changes no row. -/
lemma replay_eq_self_iff (t : Finmap (fun _ : κ => ρ)) (log : List (κ × π)) :
    replay t log = t ↔ ∀ k, applyAll (patchesAt k log) (t.lookup k) = t.lookup k := by
  constructor
  · intro h k
    rw [← lookup_replay, h]
  · intro h
    refine ext_lookup fun k => ?_
    rw [lookup_replay, h]

lemma replay_append (t : Finmap (fun _ : κ => ρ)) (log log' : List (κ × π)) :
    replay t (log ++ log') = replay (replay t log) log' :=
  List.foldl_append

/-! ### Writes in any order

Two writes commute when they go to different keys, or when their patches make the same row in
either order.  Blocks of commuting writes may be replayed in any order. -/

def WritesCommute (w w' : κ × π) : Prop :=
  w.1 = w'.1 → ∀ o : Option ρ,
    Patch.apply w'.2 (some (Patch.apply w.2 o)) = Patch.apply w.2 (some (Patch.apply w'.2 o))

omit [DecidableEq κ] in
lemma WritesCommute.symm {w w' : κ × π} (h : WritesCommute w w') : WritesCommute w' w :=
  fun hkey o => (h hkey.symm o).symm

lemma upsert_comm {w w' : κ × π} (h : WritesCommute w w') (t : Finmap (fun _ : κ => ρ)) :
    upsert (upsert t w.1 w.2) w'.1 w'.2 = upsert (upsert t w'.1 w'.2) w.1 w.2 := by
  obtain ⟨k, p⟩ := w
  obtain ⟨k', p'⟩ := w'
  refine ext_lookup fun j => ?_
  by_cases hkey : k = k'
  · subst hkey
    by_cases hj : j = k
    · subst hj
      simp only [lookup_upsert_self]
      rw [h rfl]
    · simp only [lookup_upsert_of_ne _ _ hj]
  · by_cases hj : j = k
    · subst hj
      rw [lookup_upsert_of_ne _ _ hkey, lookup_upsert_self, lookup_upsert_self,
        lookup_upsert_of_ne _ _ hkey]
    · rw [lookup_upsert_of_ne (upsert t k' p') p hj]
      by_cases hj' : j = k'
      · subst hj'
        rw [lookup_upsert_self, lookup_upsert_self, lookup_upsert_of_ne _ _ hj]
      · rw [lookup_upsert_of_ne _ _ hj', lookup_upsert_of_ne _ _ hj', lookup_upsert_of_ne _ _ hj]

/-- One write moves past a log it commutes with. -/
lemma replay_upsert {w : κ × π} {log : List (κ × π)} (h : ∀ w' ∈ log, WritesCommute w w')
    (t : Finmap (fun _ : κ => ρ)) :
    replay (upsert t w.1 w.2) log = upsert (replay t log) w.1 w.2 := by
  induction log generalizing t with
  | nil => rfl
  | cons w' log ih =>
      rw [replay_cons, upsert_comm (h w' List.mem_cons_self) t,
        ih fun w'' hw => h w'' (List.mem_cons_of_mem _ hw), replay_cons]

/-- Two blocks of writes that commute may be exchanged. -/
lemma replay_append_comm {log log' : List (κ × π)}
    (h : ∀ w ∈ log, ∀ w' ∈ log', WritesCommute w w') (t : Finmap (fun _ : κ => ρ)) :
    replay t (log ++ log') = replay t (log' ++ log) := by
  induction log generalizing t with
  | nil => rw [List.nil_append, List.append_nil]
  | cons w log ih =>
      have hlog : ∀ w' ∈ log, ∀ w'' ∈ log', WritesCommute w' w'' :=
        fun w' hw' => h w' (List.mem_cons_of_mem _ hw')
      calc replay t (w :: log ++ log')
          = replay (upsert t w.1 w.2) (log ++ log') := rfl
        _ = replay (upsert t w.1 w.2) (log' ++ log) := ih hlog _
        _ = replay (upsert (replay t log') w.1 w.2) log := by
            rw [replay_append, replay_upsert (h w List.mem_cons_self)]
        _ = replay t (log' ++ w :: log) := by rw [replay_append, replay_cons]

/-- Blocks of writes, any two of which commute, may be replayed in any order. -/
theorem replay_flatMap_perm {α : Type*} {f : α → List (κ × π)} {l l' : List α}
    (hperm : l.Perm l')
    (h : l.Pairwise fun a b => ∀ w ∈ f a, ∀ w' ∈ f b, WritesCommute w w')
    (t : Finmap (fun _ : κ => ρ)) : replay t (l.flatMap f) = replay t (l'.flatMap f) := by
  induction hperm generalizing t with
  | nil => rfl
  | cons a _ ih =>
      rw [List.flatMap_cons, List.flatMap_cons, replay_append, replay_append]
      exact ih (List.pairwise_cons.mp h).2 _
  | swap a b l =>
      have hcomm := (List.pairwise_cons.mp h).1 a List.mem_cons_self
      simp only [List.flatMap_cons]
      rw [← List.append_assoc, ← List.append_assoc, replay_append, replay_append_comm hcomm,
        ← replay_append]
  | trans hperm _ ih ih' =>
      rw [ih h t]
      refine ih' ((hperm.pairwise_iff ?_).mp h) t
      exact fun hab w hw w' hw' => (hab w' hw' w hw).symm

end

/-! ## Two patches every table can use -/

/-- The write that replaces the row, whatever it was. -/
structure Overwrite (ρ : Type*) where
  row : ρ
  deriving DecidableEq, Repr

instance {ρ : Type*} : Patch (Overwrite ρ) ρ where
  apply p _ := p.row
  merge _ q := q
  apply_merge _ _ _ := rfl
  apply_self _ _ := rfl

/-- The write that creates the row when there is none and keeps it otherwise. -/
structure CreateIfAbsent (ρ : Type*) where
  row : ρ
  deriving DecidableEq, Repr

instance {ρ : Type*} : Patch (CreateIfAbsent ρ) ρ where
  apply p o := o.getD p.row
  merge p _ := p
  apply_merge _ _ _ := rfl
  apply_self _ _ := rfl

section

variable {ρ : Type*}

/-- A list of overwrites leaves its last row, or what was there when it is empty. -/
lemma applyAll_overwrite (ps : List (Overwrite ρ)) (o : Option ρ) :
    applyAll ps o = (ps.getLast?.map Overwrite.row).or o := by
  induction ps using List.reverseRecOn with
  | nil => rfl
  | append_singleton ps p ih =>
      rw [applyAll_concat, List.getLast?_concat]
      rfl

/-- What is written last leaves a row as it is when it is there already. -/
lemma or_eq_self_iff {last row : Option ρ} :
    last.or row = row ↔ ∀ v, last = some v → row = some v := by
  cases last with
  | none => exact iff_of_true rfl fun v h => nomatch h
  | some v =>
      rw [Option.some_or]
      simp only [Option.some.injEq, forall_eq']
      exact eq_comm

end

section

variable {κ ρ : Type*} [DecidableEq κ]

/-- Rows that are created alike commute, whatever their keys. -/
lemma createIfAbsent_commute {κ : Type*} {w w' : κ × CreateIfAbsent ρ} (h : w.2 = w'.2) :
    WritesCommute w w' := by
  intro _ o
  rw [h]

/-- A row that is there is not created. -/
lemma applyAll_createIfAbsent_some (ps : List (CreateIfAbsent ρ)) (r : ρ) :
    applyAll ps (some r) = some r := by
  induction ps with
  | nil => rfl
  | cons p ps ih => exact ih

/-- A log of rows to create changes nothing exactly when all of them are there. -/
lemma replay_createIfAbsent_eq_self_iff (t : Finmap (fun _ : κ => ρ))
    (log : List (κ × CreateIfAbsent ρ)) :
    replay t log = t ↔ ∀ w ∈ log, (t.lookup w.1).isSome := by
  rw [replay_eq_self_iff]
  constructor
  · intro h w hw
    have hmem : w.2 ∈ patchesAt w.1 log := mem_patchesAt.mpr hw
    obtain ⟨p, ps, hps⟩ := List.exists_cons_of_ne_nil (List.ne_nil_of_mem hmem)
    have hkey := h w.1
    rw [hps, applyAll_cons, applyAll_createIfAbsent_some] at hkey
    rw [← hkey, Option.isSome_some]
  · intro h k
    cases hps : patchesAt k log with
    | nil => rfl
    | cons p ps =>
        have hmem : p ∈ patchesAt k log := by
          rw [hps]
          exact List.mem_cons_self
        obtain ⟨r, hr⟩ := Option.isSome_iff_exists.mp (h _ (mem_patchesAt.mp hmem))
        rw [hr, applyAll_createIfAbsent_some]

/-- Look the row up by its key and create it when there is none. -/
def getOrCreate (t : Finmap (fun _ : κ => ρ)) (k : κ) (row : ρ) : Finmap (fun _ : κ => ρ) :=
  match t.lookup k with
  | some _ => t
  | none => t.insert k row

lemma getOrCreate_eq_upsert (t : Finmap (fun _ : κ => ρ)) (k : κ) (row : ρ) :
    getOrCreate t k row = upsert t k (⟨row⟩ : CreateIfAbsent ρ) := by
  unfold getOrCreate
  cases h : t.lookup k with
  | none =>
      rw [upsert, h]
      rfl
  | some r =>
      refine ext_lookup fun k' => ?_
      by_cases hk : k' = k
      · rw [hk, lookup_upsert_self, h]
        rfl
      · rw [lookup_upsert_of_ne _ _ hk]

end

end Framework
