import Mathlib.Algebra.BigOperators.Group.List.Basic
import Mathlib.Algebra.GroupWithZero.Nat
import Mathlib.Algebra.Ring.Int.Defs
import Mathlib.Data.List.Dedup
import Mathlib.Tactic.Lemma

/-!
# Querysets

A queryset is a query: the rows it selects and whether equal ones are merged.  A filter through
a relation joins the related rows, and repeats a row once for each of them that matches; merged
rows are then counted and summed once.

A join that is merged has exactly the rows with a match (`merged_filterThrough`), and counting
by a value that every row has adds up to counting all of them (`sum_countP_choices`).
-/

namespace Framework

structure QuerySet (ρ : Type) where
  rows : List ρ
  isDistinct : Bool

namespace QuerySet

variable {ρ ι : Type}

/-- `objects.all()`. -/
def all (rows : List ρ) : QuerySet ρ := ⟨rows, false⟩

/-- `filter` on a column. -/
def filter (q : QuerySet ρ) (test : ρ → Bool) : QuerySet ρ := { q with rows := q.rows.filter test }

/-- `filter` through a relation: a row for each related one that passes. -/
def filterThrough (q : QuerySet ρ) (related : ρ → List ι) (test : ι → Bool) : QuerySet ρ :=
  { q with rows := q.rows.flatMap fun r => ((related r).filter test).map fun _ => r }

def distinct (q : QuerySet ρ) : QuerySet ρ := { q with isDistinct := true }

variable [DecidableEq ρ]

/-- The rows that are selected. -/
def merged (q : QuerySet ρ) : List ρ := if q.isDistinct then q.rows.dedup else q.rows

def count (q : QuerySet ρ) : ℕ := q.merged.length

/-- `aggregate(Sum(…))`, which is null when there are no rows, in a database that sums exactly:
one that keeps fifteen digits rounds larger sums. -/
def aggregateSum (q : QuerySet ρ) (value : ρ → ℤ) : Option ℤ :=
  if q.merged = [] then none else some (q.merged.map value).sum

/-! ## Rows that are merged -/

/-- Copies of a row in front of others are merged into one. -/
lemma dedup_replicate_append {r : ρ} {l : List ρ} (h : r ∉ l) (n : ℕ) :
    (List.replicate (n + 1) r ++ l).dedup = r :: l.dedup := by
  induction n with
  | zero => exact List.dedup_cons_of_notMem h
  | succ n ih =>
      rw [List.replicate_succ, List.cons_append, List.dedup_cons_of_mem, ih]
      simp

/-- A merged join has each row with a match once. -/
lemma dedup_join {rows : List ρ} (hrows : rows.Nodup) (related : ρ → List ι) (test : ι → Bool) :
    (rows.flatMap fun r => ((related r).filter test).map fun _ => r).dedup =
      rows.filter fun r => (related r).any test := by
  induction rows with
  | nil => rfl
  | cons r rows ih =>
      obtain ⟨hr, hrows⟩ := List.nodup_cons.mp hrows
      -- the copies of a row stand together, as the rows have different ids
      have hjoined : r ∉ rows.flatMap fun r => ((related r).filter test).map fun _ => r := by
        simp only [List.mem_flatMap, List.mem_map, not_exists, not_and]
        rintro r' hr' _ _ rfl
        exact hr hr'
      rw [List.flatMap_cons, List.map_const']
      rcases hmatch : (related r).filter test with _ | ⟨match₁, matches'⟩
      · have hnone : ¬ (related r).any test := by
          rw [List.any_eq_true]
          rintro ⟨i, hi, htest⟩
          exact List.filter_eq_nil_iff.mp hmatch i hi htest
        rw [List.filter_cons, if_neg hnone]
        exact ih hrows
      · have hsome : (related r).any test := by
          have hmem : match₁ ∈ (related r).filter test := by
            rw [hmatch]
            exact List.mem_cons_self
          exact List.any_eq_true.mpr ⟨match₁, List.mem_filter.mp hmem⟩
        rw [List.filter_cons, if_pos hsome, List.length_cons, dedup_replicate_append hjoined,
          ih hrows]

lemma merged_filterThrough {rows : List ρ} (hrows : rows.Nodup) (related : ρ → List ι)
    (test : ι → Bool) :
    ((all rows).filterThrough related test).distinct.merged =
      rows.filter fun r => (related r).any test :=
  dedup_join hrows related test

lemma dedup_filter (rows : List ρ) (test : ρ → Bool) :
    (rows.filter test).dedup = rows.dedup.filter test := by
  induction rows with
  | nil => rfl
  | cons r rows ih =>
      by_cases hmem : r ∈ rows <;> by_cases htest : test r = true <;>
        simp [hmem, htest, ih]

/-- A filter on a column commutes with the merging. -/
lemma merged_filter (q : QuerySet ρ) (test : ρ → Bool) :
    (q.filter test).merged = q.merged.filter test := by
  unfold merged filter
  split
  · exact dedup_filter q.rows test
  · rfl

lemma count_filter (q : QuerySet ρ) (test : ρ → Bool) :
    (q.filter test).count = q.merged.countP test := by
  rw [count, merged_filter, List.countP_eq_length_filter]

/-- The sum, or zero when there are no rows. -/
lemma aggregateSum_getD (q : QuerySet ρ) (value : ρ → ℤ) :
    (q.aggregateSum value).getD 0 = (q.merged.map value).sum := by
  unfold aggregateSum
  split
  next hnone =>
    rw [hnone]
    rfl
  next => rfl

omit [DecidableEq ρ] in
/-- One of the choices is the value of a row. -/
lemma sum_indicator {κ : Type} [DecidableEq κ] {choices : List κ} (hchoices : choices.Nodup)
    {k : κ} (h : k ∈ choices) :
    (choices.map fun choice => if k = choice then 1 else 0).sum = 1 := by
  induction choices with
  | nil => cases h
  | cons choice choices ih =>
      obtain ⟨hnot, hchoices⟩ := List.nodup_cons.mp hchoices
      rw [List.map_cons, List.sum_cons]
      by_cases hk : k = choice
      · have hrest : (choices.map fun choice => if k = choice then 1 else 0).sum = 0 := by
          refine List.sum_eq_zero fun n hn => ?_
          obtain ⟨other, hother, rfl⟩ := List.mem_map.mp hn
          refine if_neg ?_
          rintro rfl
          exact hnot (hk ▸ hother)
        rw [if_pos hk, hrest]
      · rw [if_neg hk, ih hchoices ((List.mem_cons.mp h).resolve_left hk)]

omit [DecidableEq ρ] in
/-- The counts by a value that every row has add up to the number of the rows. -/
lemma sum_countP_choices {κ : Type} [DecidableEq κ] {choices : List κ} (hchoices : choices.Nodup)
    (value : ρ → κ) {rows : List ρ} (h : ∀ r ∈ rows, value r ∈ choices) :
    (choices.map fun choice => rows.countP (value · = choice)).sum = rows.length := by
  induction rows with
  | nil => simp
  | cons r rows ih =>
      have hone := sum_indicator hchoices (h r List.mem_cons_self)
      simp only [List.countP_cons, decide_eq_true_eq, List.sum_map_add, List.length_cons]
      rw [ih fun r' hr' => h r' (List.mem_cons_of_mem _ hr'), hone]

end QuerySet

end Framework
