import Mathlib.Data.List.Nodup
import Mathlib.Tactic.Lemma
import Mathlib.Tactic.TypeStar

/-!
# Tables with an automatic key

A table gives each new row the next id, counted from one.  The ids of a table are distinct and
smaller than the next one, which the structure `Table` carries as fields, so that a new id is
never taken.  Rows keep the order of their creation.

The operations are the insertion of a row, the lookup by id, the replacement of the row under
an id, the deletion of rows and a view of the rows; the lemmas read `lookup` and `rows` of the
results.  A unique column is a partial
key of the rows (`Unique`): rows without the key do not clash, as with a null value.  A row
that is `Free` of clashes can be written under its id.
-/

namespace Framework

structure Table (ρ : Type*) where
  rows : List (ℕ × ρ)
  nextId : ℕ
  nextId_pos : 0 < nextId
  nodup : (rows.map Prod.fst).Nodup
  ids : ∀ row ∈ rows, 0 < row.1 ∧ row.1 < nextId
  deriving DecidableEq

namespace Table

variable {ρ : Type*}

def empty : Table ρ := ⟨[], 1, Nat.one_pos, List.nodup_nil, by simp⟩

/-- Add a row under the next id. -/
def insert (t : Table ρ) (row : ρ) : Table ρ where
  rows := t.rows ++ [(t.nextId, row)]
  nextId := t.nextId + 1
  nextId_pos := Nat.succ_pos _
  nodup := by
    rw [List.map_append, List.nodup_append]
    refine ⟨t.nodup, List.nodup_singleton _, ?_⟩
    intro id hid id' hid' heq
    obtain ⟨r, hr, rfl⟩ := List.mem_map.mp hid
    have hlt := (t.ids r hr).2
    simp only [List.map_cons, List.map_nil, List.mem_singleton] at hid'
    omega
  ids := by
    intro r hr
    rcases List.mem_append.mp hr with hr | hr
    · have hold := t.ids r hr
      omega
    · have hpos := t.nextId_pos
      rw [List.mem_singleton.mp hr]
      exact ⟨hpos, Nat.lt_succ_self _⟩

/-- The row under an id. -/
def lookup (t : Table ρ) (id : ℕ) : Option ρ := t.rows.lookup id

lemma map_fst_replace (rows : List (ℕ × ρ)) (id : ℕ) (row : ρ) :
    (rows.map fun r => if r.1 = id then (r.1, row) else r).map Prod.fst = rows.map Prod.fst := by
  rw [List.map_map]
  refine List.map_congr_left fun r _ => ?_
  by_cases h : r.1 = id <;> simp [h]

/-- Replace the row under an id; a table without that id stays as it is. -/
def update (t : Table ρ) (id : ℕ) (row : ρ) : Table ρ where
  rows := t.rows.map fun r => if r.1 = id then (r.1, row) else r
  nextId := t.nextId
  nextId_pos := t.nextId_pos
  nodup := by
    rw [map_fst_replace]
    exact t.nodup
  ids := by
    intro r hr
    obtain ⟨r', hr', rfl⟩ := List.mem_map.mp hr
    have hold := t.ids r' hr'
    by_cases h : r'.1 = id
    · rw [if_pos h]
      exact hold
    · rw [if_neg h]
      exact hold

variable {t : Table ρ} {id : ℕ} {row : ρ}

@[simp] lemma rows_insert (t : Table ρ) (row : ρ) :
    (t.insert row).rows = t.rows ++ [(t.nextId, row)] := rfl

lemma rows_update (t : Table ρ) (id : ℕ) (row : ρ) :
    (t.update id row).rows = t.rows.map fun r => if r.1 = id then (r.1, row) else r := rfl

lemma lookup_list_of_mem {rows : List (ℕ × ρ)} (hnodup : (rows.map Prod.fst).Nodup)
    (hmem : (id, row) ∈ rows) : rows.lookup id = some row := by
  induction rows with
  | nil => cases hmem
  | cons r rows ih =>
      rw [List.map_cons, List.nodup_cons] at hnodup
      rcases List.mem_cons.mp hmem with heq | hmem
      · rw [← heq, List.lookup_cons_self]
      · have hne : id ≠ r.1 := by
          rintro rfl
          exact hnodup.1 (List.mem_map.mpr ⟨_, hmem, rfl⟩)
        rw [List.lookup_cons, beq_eq_false_iff_ne.mpr hne]
        exact ih hnodup.2 hmem

/-- The lookup finds exactly the rows of the table. -/
theorem mem_rows_iff : (id, row) ∈ t.rows ↔ t.lookup id = some row := by
  constructor
  · exact lookup_list_of_mem t.nodup
  · intro h
    obtain ⟨l₁, l₂, hrows, -⟩ := List.lookup_eq_some_iff.mp h
    rw [hrows]
    simp

/-- The id of a row is positive and has been given out. -/
lemma id_bounds (h : t.lookup id = some row) : 0 < id ∧ id < t.nextId :=
  t.ids _ (mem_rows_iff.mpr h)

lemma lookup_nextId (t : Table ρ) : t.lookup t.nextId = none := by
  by_contra h
  obtain ⟨row, hrow⟩ := Option.ne_none_iff_exists'.mp h
  have hlt := (id_bounds hrow).2
  omega

lemma lookup_insert_self (t : Table ρ) (row : ρ) : (t.insert row).lookup t.nextId = some row :=
  mem_rows_iff.mp (by simp)

lemma lookup_insert_of_ne (t : Table ρ) (row : ρ) (h : id ≠ t.nextId) :
    (t.insert row).lookup id = t.lookup id := by
  unfold lookup
  have hne : (id == t.nextId) = false := beq_eq_false_iff_ne.mpr h
  rw [rows_insert, List.lookup_append, List.lookup_cons, hne]
  exact Option.or_none

/-- A row that is there stays when another one is added. -/
lemma lookup_insert_of_some {r : ρ} (h : t.lookup id = some r) (row : ρ) :
    (t.insert row).lookup id = some r := by
  have hlt := (id_bounds h).2
  rw [lookup_insert_of_ne t row (by omega), h]

lemma lookup_update_self {r : ρ} (h : t.lookup id = some r) (row : ρ) :
    (t.update id row).lookup id = some row := by
  rw [← mem_rows_iff, rows_update, List.mem_map]
  exact ⟨(id, r), mem_rows_iff.mpr h, by simp⟩

lemma lookup_update_of_ne (t : Table ρ) {id' : ℕ} (row : ρ) (h : id' ≠ id) :
    (t.update id row).lookup id' = t.lookup id' := by
  unfold lookup
  rw [rows_update]
  induction t.rows with
  | nil => rfl
  | cons r rows ih =>
      rw [List.map_cons, List.lookup_cons, List.lookup_cons, ih]
      by_cases hr : r.1 = id
      · have hne : (id' == r.1) = false := beq_eq_false_iff_ne.mpr (by omega)
        rw [if_pos hr, hne]
      · rw [if_neg hr]

lemma isSome_lookup_iff : (t.lookup id).isSome ↔ id ∈ t.rows.map Prod.fst := by
  constructor
  · intro h
    obtain ⟨row, hrow⟩ := Option.isSome_iff_exists.mp h
    exact List.mem_map.mpr ⟨_, mem_rows_iff.mpr hrow, rfl⟩
  · intro h
    obtain ⟨r, hr, rfl⟩ := List.mem_map.mp h
    exact Option.isSome_of_eq_some (mem_rows_iff.mp hr)

/-- A replacement takes no id away and adds none. -/
lemma isSome_lookup_update (t : Table ρ) (id id' : ℕ) (row : ρ) :
    ((t.update id row).lookup id').isSome ↔ (t.lookup id').isSome := by
  rw [isSome_lookup_iff, isSome_lookup_iff, rows_update, map_fst_replace]

/-- A row replaced right after its insertion is the row inserted. -/
lemma update_insert (t : Table ρ) (row row' : ρ) :
    (t.insert row).update t.nextId row' = t.insert row' := by
  have hrows : ((t.insert row).update t.nextId row').rows = (t.insert row').rows := by
    have hold : t.rows.map (fun r => if r.1 = t.nextId then (r.1, row') else r) = t.rows := by
      conv_rhs => rw [← List.map_id t.rows]
      refine List.map_congr_left fun r hr => if_neg ?_
      have hlt := (t.ids r hr).2
      omega
    rw [rows_update, rows_insert, rows_insert, List.map_append, hold]
    simp
  unfold update insert at hrows ⊢
  simp only [mk.injEq, and_true]
  exact hrows

/-! ## Deletion and views -/

/-- The rows whose id passes a test. -/
def filter (t : Table ρ) (keep : ℕ → Bool) : Table ρ where
  rows := t.rows.filter fun r => keep r.1
  nextId := t.nextId
  nextId_pos := t.nextId_pos
  nodup := t.nodup.sublist (List.filter_sublist.map Prod.fst)
  ids := fun r hr => t.ids r (List.mem_of_mem_filter hr)

lemma rows_filter (t : Table ρ) (keep : ℕ → Bool) :
    (t.filter keep).rows = t.rows.filter fun r => keep r.1 := rfl

/-- What is left is the same row as before. -/
lemma lookup_filter_eq_some {keep : ℕ → Bool} :
    (t.filter keep).lookup id = some row ↔ t.lookup id = some row ∧ keep id := by
  rw [← mem_rows_iff, rows_filter, List.mem_filter, mem_rows_iff]

/-- Every row of a table, seen through a function. -/
def map {τ : Type*} (t : Table ρ) (f : ρ → τ) : Table τ where
  rows := t.rows.map fun r => (r.1, f r.2)
  nextId := t.nextId
  nextId_pos := t.nextId_pos
  nodup := by
    rw [List.map_map]
    exact t.nodup
  ids := by
    intro r hr
    obtain ⟨r', hr', rfl⟩ := List.mem_map.mp hr
    exact t.ids r' hr'

lemma rows_map {τ : Type*} (t : Table ρ) (f : ρ → τ) :
    (t.map f).rows = t.rows.map fun r => (r.1, f r.2) := rfl

lemma lookup_map {τ : Type*} (t : Table ρ) (f : ρ → τ) (id : ℕ) :
    (t.map f).lookup id = (t.lookup id).map f := by
  unfold lookup
  rw [rows_map]
  induction t.rows with
  | nil => rfl
  | cons r rows ih =>
      rw [List.map_cons, List.lookup_cons, List.lookup_cons, ih]
      cases id == r.1 <;> rfl

/-! ## Unique columns -/

section

variable {κ : Type*}

/-- Rows with the same key are the same row. -/
def Unique (t : Table ρ) (key : ρ → Option κ) : Prop :=
  ∀ id id' row row', t.lookup id = some row → t.lookup id' = some row' →
    (key row).isSome → key row = key row' → id = id'

/-- No row but the one under `id` has the key of `row`. -/
def Free (t : Table ρ) (key : ρ → Option κ) (id : ℕ) (row : ρ) : Prop :=
  ∀ r ∈ t.rows, r.1 ≠ id → (key row).isSome → key r.2 ≠ key row

instance [DecidableEq κ] (t : Table ρ) (key : ρ → Option κ) (id : ℕ) (row : ρ) :
    Decidable (t.Free key id row) :=
  inferInstanceAs (Decidable (∀ r ∈ t.rows, _))

lemma unique_empty (key : ρ → Option κ) : (empty : Table ρ).Unique key := by
  intro id id' row row' h
  cases h

lemma eq_of_free {key : ρ → Option κ} (h : t.Free key id row) {id' : ℕ} {row' : ρ}
    (hrow' : t.lookup id' = some row') (hsome : (key row).isSome) (heq : key row' = key row) :
    id' = id := by
  by_contra hne
  exact h _ (mem_rows_iff.mpr hrow') hne hsome heq

/-- A row may keep the key it has. -/
lemma free_of_key_eq {key : ρ → Option κ} {old : ρ} (h : t.Unique key)
    (hold : t.lookup id = some old) (hkey : key row = key old) : t.Free key id row := by
  intro r hr hne hsome heq
  rw [hkey] at hsome heq
  exact hne (h id r.1 old r.2 hold (mem_rows_iff.mp hr) hsome heq.symm).symm

/-- Another row than the one under `id` has the value in the column. -/
def taken [DecidableEq κ] (t : Table ρ) (column : ρ → κ) (id : ℕ) (value : κ) : Bool :=
  t.rows.any fun r => r.1 ≠ id ∧ column r.2 = value

lemma free_of_not_taken [DecidableEq κ] {column : ρ → κ}
    (h : t.taken column id (column row) = false) :
    t.Free (fun r => some (column r)) id row := by
  intro r hr hne _ heq
  have htaken : t.taken column id (column row) = true :=
    List.any_eq_true.mpr ⟨r, hr, decide_eq_true ⟨hne, Option.some.inj heq⟩⟩
  rw [h] at htaken
  cases htaken

lemma unique_insert {key : ρ → Option κ} (h : t.Unique key) (hfree : t.Free key t.nextId row) :
    (t.insert row).Unique key := by
  intro id id' r r' hr hr' hsome heq
  rcases eq_or_ne id t.nextId with rfl | hid
  · rw [lookup_insert_self] at hr
    cases hr
    rcases eq_or_ne id' t.nextId with rfl | hid'
    · rfl
    · rw [lookup_insert_of_ne t row hid'] at hr'
      exact (eq_of_free hfree hr' hsome heq.symm).symm
  · rw [lookup_insert_of_ne t row hid] at hr
    rcases eq_or_ne id' t.nextId with rfl | hid'
    · rw [lookup_insert_self] at hr'
      cases hr'
      rw [heq] at hsome
      exact eq_of_free hfree hr hsome heq
    · rw [lookup_insert_of_ne t row hid'] at hr'
      exact h id id' r r' hr hr' hsome heq

/-- A column stays unique exactly when the new row does not clash. -/
lemma unique_insert_iff {key : ρ → Option κ} (h : t.Unique key) :
    (t.insert row).Unique key ↔ t.Free key t.nextId row := by
  refine ⟨fun hunique r hr hne hsome heq => ?_, unique_insert h⟩
  have hold := lookup_insert_of_some (mem_rows_iff.mp hr) row
  rw [← heq] at hsome
  exact hne (hunique _ _ _ _ hold (lookup_insert_self t row) hsome heq)

/-- The row of an updated table under an id. -/
lemma lookup_update_cases {id' : ℕ} {r : ρ} (h : (t.update id row).lookup id' = some r) :
    (id' = id ∧ r = row) ∨ (id' ≠ id ∧ t.lookup id' = some r) := by
  rcases eq_or_ne id' id with rfl | hid
  · have hsome := (isSome_lookup_update t id' id' row).mp (Option.isSome_of_eq_some h)
    obtain ⟨old, hold⟩ := Option.isSome_iff_exists.mp hsome
    rw [lookup_update_self hold] at h
    exact .inl ⟨rfl, (Option.some.inj h).symm⟩
  · rw [lookup_update_of_ne t row hid] at h
    exact .inr ⟨hid, h⟩

/-- The row of a table with one more row under an id. -/
lemma lookup_insert_cases {id' : ℕ} {r : ρ} (h : (t.insert row).lookup id' = some r) :
    (id' = t.nextId ∧ r = row) ∨ (id' ≠ t.nextId ∧ t.lookup id' = some r) := by
  rcases eq_or_ne id' t.nextId with rfl | hid
  · rw [lookup_insert_self] at h
    exact .inl ⟨rfl, (Option.some.inj h).symm⟩
  · rw [lookup_insert_of_ne t row hid] at h
    exact .inr ⟨hid, h⟩

/-- A row stays when another one is replaced, or when it is replaced by itself. -/
lemma lookup_update_kept {id' : ℕ} {r : ρ} (h : t.lookup id' = some r)
    (hsame : id' = id → row = r) : (t.update id row).lookup id' = some r := by
  rcases eq_or_ne id' id with rfl | hid
  · rw [lookup_update_self h, hsame rfl]
  · rw [lookup_update_of_ne t row hid, h]

/-- Fewer rows do not clash either. -/
lemma unique_filter {key : ρ → Option κ} (h : t.Unique key) (keep : ℕ → Bool) :
    (t.filter keep).Unique key := by
  intro id id' r r' hr hr' hsome heq
  have hold := (lookup_filter_eq_some.mp hr).1
  have hold' := (lookup_filter_eq_some.mp hr').1
  exact h id id' r r' hold hold' hsome heq

lemma unique_update {key : ρ → Option κ} (h : t.Unique key) (hfree : t.Free key id row) :
    (t.update id row).Unique key := by
  intro id₁ id₂ r₁ r₂ h₁ h₂ hsome heq
  rcases lookup_update_cases h₁ with ⟨rfl, rfl⟩ | ⟨-, hold₁⟩
  · rcases lookup_update_cases h₂ with ⟨rfl, rfl⟩ | ⟨-, hold₂⟩
    · rfl
    · exact (eq_of_free hfree hold₂ hsome heq.symm).symm
  · rcases lookup_update_cases h₂ with ⟨rfl, rfl⟩ | ⟨-, hold₂⟩
    · rw [heq] at hsome
      exact eq_of_free hfree hold₁ hsome heq
    · exact h id₁ id₂ r₁ r₂ hold₁ hold₂ hsome heq

/-! ## Properties of all rows -/

/-- Every row has the property. -/
def All (t : Table ρ) (p : ρ → Prop) : Prop := ∀ id row, t.lookup id = some row → p row

lemma all_iff_mem {p : ρ → Prop} : t.All p ↔ ∀ r ∈ t.rows, p r.2 :=
  ⟨fun h r hr => h r.1 r.2 (mem_rows_iff.mp hr),
    fun h id row hrow => h (id, row) (mem_rows_iff.mpr hrow)⟩

instance (t : Table ρ) (p : ρ → Prop) [DecidablePred p] : Decidable (t.All p) :=
  decidable_of_iff _ all_iff_mem.symm

lemma all_insert {p : ρ → Prop} (h : t.All p) (hrow : p row) : (t.insert row).All p := by
  intro id r hr
  rcases eq_or_ne id t.nextId with rfl | hid
  · rw [lookup_insert_self] at hr
    exact Option.some.inj hr ▸ hrow
  · rw [lookup_insert_of_ne t row hid] at hr
    exact h id r hr

lemma all_update {p : ρ → Prop} (h : t.All p) (hrow : p row) : (t.update id row).All p := by
  intro id' r hr
  rcases lookup_update_cases hr with ⟨-, rfl⟩ | ⟨-, hkept⟩
  · exact hrow
  · exact h id' r hkept

/-- What all rows have is left to the row that is added. -/
lemma all_insert_iff {p : ρ → Prop} (h : t.All p) : (t.insert row).All p ↔ p row :=
  ⟨fun hall => hall t.nextId row (lookup_insert_self t row), all_insert h⟩

/-- What all rows have is left to the row that replaces one. -/
lemma all_update_iff {p : ρ → Prop} (h : t.All p) {old : ρ} (hold : t.lookup id = some old) :
    (t.update id row).All p ↔ p row :=
  ⟨fun hall => hall id row (lookup_update_self hold row), all_update h⟩

/-! ## Unique columns of a view -/

variable {τ : Type*} {f : ρ → τ} {keyOfView : τ → Option κ}

lemma unique_map (h : t.Unique fun row => keyOfView (f row)) : (t.map f).Unique keyOfView := by
  intro id id' r r' hr hr' hsome heq
  rw [lookup_map] at hr hr'
  obtain ⟨row, hrow, rfl⟩ := Option.map_eq_some_iff.mp hr
  obtain ⟨row', hrow', rfl⟩ := Option.map_eq_some_iff.mp hr'
  exact h id id' row row' hrow hrow' hsome heq

lemma free_map_iff :
    (t.map f).Free keyOfView id (f row) ↔ t.Free (fun row => keyOfView (f row)) id row := by
  constructor
  · intro h r hr
    exact h (r.1, f r.2) (List.mem_map.mpr ⟨r, hr, rfl⟩)
  · intro h r hr
    obtain ⟨r', hr', rfl⟩ := List.mem_map.mp hr
    exact h r' hr'

lemma map_update (t : Table ρ) (f : ρ → τ) (id : ℕ) (row : ρ) :
    (t.update id row).map f = (t.map f).update id (f row) := by
  have hrows : ((t.update id row).map f).rows = ((t.map f).update id (f row)).rows := by
    rw [rows_map, rows_update, rows_update, rows_map, List.map_map, List.map_map]
    refine List.map_congr_left fun r _ => ?_
    by_cases h : r.1 = id <;> simp [h]
  unfold map update at hrows ⊢
  simp only [mk.injEq, and_true]
  exact hrows

lemma unique_of_map (h : (t.map f).Unique keyOfView) : t.Unique fun row => keyOfView (f row) := by
  intro id id' row row' hr hr'
  refine h id id' (f row) (f row') ?_ ?_
  · rw [lookup_map, hr, Option.map_some]
  · rw [lookup_map, hr', Option.map_some]

/-! ## A view put back -/

/-- The rows of a view, with the columns that it does not show: `fill` takes them from the row
that was there, if there was one. -/
def overlay (t : Table ρ) (view : Table τ) (fill : Option ρ → τ → ρ) : Table ρ where
  rows := view.rows.map fun r => (r.1, fill (t.lookup r.1) r.2)
  nextId := view.nextId
  nextId_pos := view.nextId_pos
  nodup := by
    rw [List.map_map]
    exact view.nodup
  ids := by
    intro r hr
    obtain ⟨r', hr', rfl⟩ := List.mem_map.mp hr
    exact view.ids r' hr'

variable {view : Table τ} {fill : Option ρ → τ → ρ}

lemma lookup_overlay (t : Table ρ) (view : Table τ) (fill : Option ρ → τ → ρ) (id : ℕ) :
    (t.overlay view fill).lookup id = (view.lookup id).map (fill (t.lookup id)) := by
  rcases hview : view.lookup id with _ | row
  · rw [Option.map_none]
    by_contra hsome
    obtain ⟨row, hrow⟩ := Option.ne_none_iff_exists'.mp hsome
    obtain ⟨r, hr, heq⟩ := List.mem_map.mp (mem_rows_iff.mpr hrow)
    obtain ⟨rfl, -⟩ := Prod.mk.inj heq
    rw [mem_rows_iff.mp hr] at hview
    cases hview
  · rw [Option.map_some]
    refine mem_rows_iff.mp (List.mem_map.mpr ⟨(id, row), mem_rows_iff.mpr hview, rfl⟩)

/-- What has been put back is what the view shows. -/
lemma map_overlay (t : Table ρ) (view : Table τ) (hfill : ∀ old r, f (fill old r) = r) :
    (t.overlay view fill).map f = view := by
  obtain ⟨rows, nextId, nextId_pos, nodup, ids⟩ := view
  simp only [map, overlay, List.map_map, mk.injEq, and_true]
  conv_rhs => rw [← List.map_id rows]
  exact List.map_congr_left fun r _ => Prod.ext rfl (hfill _ _)

lemma overlay_map (t : Table ρ) (f : ρ → τ) (hself : ∀ row, fill (some row) (f row) = row) :
    t.overlay (t.map f) fill = t := by
  have hrows : (t.overlay (t.map f) fill).rows = t.rows := by
    simp only [overlay, map, List.map_map]
    conv_rhs => rw [← List.map_id t.rows]
    refine List.map_congr_left fun r hr => ?_
    simp only [Function.comp_apply, mem_rows_iff.mp hr, hself, id_eq]
  obtain ⟨rows, nextId, nextId_pos, nodup, ids⟩ := t
  simp only [overlay, map, mk.injEq, and_true] at hrows ⊢
  exact hrows

/-- A row that is new in the view is new below it. -/
lemma overlay_insert (t : Table ρ) (f : ρ → τ) (hself : ∀ row, fill (some row) (f row) = row)
    (r : τ) : t.overlay ((t.map f).insert r) fill = t.insert (fill none r) := by
  have hrows : (t.overlay ((t.map f).insert r) fill).rows = (t.insert (fill none r)).rows := by
    have hold := congrArg rows (overlay_map t f hself)
    simp only [overlay] at hold
    simp only [overlay, rows_insert, List.map_append, hold, List.map_cons, List.map_nil]
    rw [show (t.map f).nextId = t.nextId from rfl, lookup_nextId]
  unfold overlay insert at hrows ⊢
  simp only [mk.injEq]
  exact ⟨hrows, rfl⟩

lemma unique_overlay (hview : view.Unique keyOfView) (hfill : ∀ old r, f (fill old r) = r) :
    (t.overlay view fill).Unique fun row => keyOfView (f row) := by
  refine unique_of_map ?_
  rw [map_overlay t view hfill]
  exact hview

/-! ## Saving an instance -/

/-- The id under which `save` stores a row: its own, or the next one when it has none. -/
def savedId (t : Table ρ) (id : Option ℕ) : ℕ := id.getD t.nextId

def save (t : Table ρ) (id : Option ℕ) (row : ρ) : Table ρ :=
  match id with
  | some id => t.update id row
  | none => t.insert row

lemma unique_save {key : ρ → Option κ} {id : Option ℕ} (h : t.Unique key)
    (hfree : t.Free key (t.savedId id) row) : (t.save id row).Unique key := by
  rcases id with _ | id
  · exact unique_insert h hfree
  · exact unique_update h hfree

/-- A save takes no row away. -/
lemma isSome_lookup_save {id' : ℕ} (h : (t.lookup id').isSome) (id : Option ℕ) (row : ρ) :
    ((t.save id row).lookup id').isSome := by
  rcases id with _ | id
  · obtain ⟨r, hr⟩ := Option.isSome_iff_exists.mp h
    exact Option.isSome_of_eq_some (lookup_insert_of_some hr row)
  · exact (isSome_lookup_update t id id' row).mpr h

/-- Write a row under an id that has been given out: the row under it is replaced, and a row
that has been deleted is there again. -/
def put (t : Table ρ) (id : ℕ) (row : ρ) (h : 0 < id ∧ id < t.nextId) : Table ρ :=
  if hthere : (t.lookup id).isSome then t.update id row
  else
    { rows := t.rows ++ [(id, row)]
      nextId := t.nextId
      nextId_pos := t.nextId_pos
      nodup := by
        rw [List.map_append, List.nodup_append]
        refine ⟨t.nodup, List.nodup_singleton _, fun id₁ h₁ id₂ h₂ heq => ?_⟩
        rw [isSome_lookup_iff] at hthere
        rw [List.mem_singleton.mp h₂] at heq
        rw [heq] at h₁
        exact hthere h₁
      ids := by
        intro r hr
        rcases List.mem_append.mp hr with hr | hr
        · exact t.ids r hr
        · rw [List.mem_singleton.mp hr]
          exact h }

variable {h : 0 < id ∧ id < t.nextId}

@[simp] lemma nextId_put : (t.put id row h).nextId = t.nextId := by
  unfold put
  split <;> rfl

lemma lookup_put_self : (t.put id row h).lookup id = some row := by
  unfold put
  split
  · next hthere =>
      obtain ⟨old, hold⟩ := Option.isSome_iff_exists.mp hthere
      exact lookup_update_self hold row
  · exact mem_rows_iff.mp (List.mem_append_right _ (List.mem_singleton_self _))

lemma lookup_put_of_ne {id' : ℕ} (hne : id' ≠ id) : (t.put id row h).lookup id' = t.lookup id' := by
  unfold put
  split
  · exact lookup_update_of_ne t row hne
  · unfold lookup
    rw [List.lookup_append, List.lookup_cons, beq_eq_false_iff_ne.mpr hne]
    exact Option.or_none

lemma lookup_put_cases {id' : ℕ} {r : ρ} (hr : (t.put id row h).lookup id' = some r) :
    (id' = id ∧ r = row) ∨ (id' ≠ id ∧ t.lookup id' = some r) := by
  rcases eq_or_ne id' id with rfl | hne
  · rw [lookup_put_self] at hr
    exact .inl ⟨rfl, (Option.some.inj hr).symm⟩
  · rw [lookup_put_of_ne hne] at hr
    exact .inr ⟨hne, hr⟩

/-- No row goes. -/
lemma isSome_lookup_put {id' : ℕ} (hthere : (t.lookup id').isSome) :
    ((t.put id row h).lookup id').isSome := by
  rcases eq_or_ne id' id with rfl | hne
  · rw [lookup_put_self]
    rfl
  · rw [lookup_put_of_ne hne]
    exact hthere

lemma unique_put {key : ρ → Option κ} (hunique : t.Unique key) (hfree : t.Free key id row) :
    (t.put id row h).Unique key := by
  intro id₁ id₂ r₁ r₂ h₁ h₂ hsome heq
  rcases lookup_put_cases h₁ with ⟨rfl, rfl⟩ | ⟨-, hold₁⟩
  · rcases lookup_put_cases h₂ with ⟨rfl, rfl⟩ | ⟨-, hold₂⟩
    · rfl
    · exact (eq_of_free hfree hold₂ hsome heq.symm).symm
  · rcases lookup_put_cases h₂ with ⟨rfl, rfl⟩ | ⟨-, hold₂⟩
    · rw [heq] at hsome
      exact eq_of_free hfree hold₁ hsome heq
    · exact hunique id₁ id₂ r₁ r₂ hold₁ hold₂ hsome heq

lemma all_put {p : ρ → Prop} (hall : t.All p) (hrow : p row) : (t.put id row h).All p := by
  intro id' r hr
  rcases lookup_put_cases hr with ⟨-, rfl⟩ | ⟨-, hold⟩
  · exact hrow
  · exact hall id' r hold

/-! ## Rows that are gone -/

/-- The id has been given out, and its row has been deleted. -/
def Gone (t : Table ρ) (id : ℕ) : Prop := t.lookup id = none ∧ id < t.nextId

instance [DecidableEq ρ] (t : Table ρ) (id : ℕ) : Decidable (t.Gone id) :=
  inferInstanceAs (Decidable (_ ∧ _))

lemma Gone.insert {id : ℕ} (hgone : t.Gone id) (row : ρ) : (t.insert row).Gone id := by
  refine ⟨?_, Nat.lt_succ_of_lt hgone.2⟩
  rw [lookup_insert_of_ne t row (Nat.ne_of_lt hgone.2)]
  exact hgone.1

lemma Gone.update {id : ℕ} (hgone : t.Gone id) (id' : ℕ) (row : ρ) :
    (t.update id' row).Gone id := by
  refine ⟨?_, hgone.2⟩
  have hthere := (isSome_lookup_update t id' id row).not
  rw [Option.not_isSome_iff_eq_none, Option.not_isSome_iff_eq_none] at hthere
  exact hthere.mpr hgone.1

lemma Gone.filter {id : ℕ} (hgone : t.Gone id) (keep : ℕ → Bool) : (t.filter keep).Gone id := by
  refine ⟨?_, hgone.2⟩
  by_contra hthere
  obtain ⟨row, hrow⟩ := Option.ne_none_iff_exists'.mp hthere
  have hold := hgone.1
  rw [(lookup_filter_eq_some.mp hrow).1] at hold
  cases hold

lemma Gone.put {id' : ℕ} (hgone : t.Gone id') (hne : id' ≠ id) : (t.put id row h).Gone id' := by
  refine ⟨?_, ?_⟩
  · rw [lookup_put_of_ne hne]
    exact hgone.1
  · rw [nextId_put]
    exact hgone.2

lemma not_gone_put : ¬ (t.put id row h).Gone id := by
  rintro ⟨hnone, -⟩
  rw [lookup_put_self] at hnone
  cases hnone

end

end Table

end Framework
