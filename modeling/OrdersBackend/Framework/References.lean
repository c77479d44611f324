import OrdersBackend.Framework.Table

/-!
# Foreign keys

A column of one table may hold the ids of another one.  `References` says that the rows it
names are there.  A row that is added or replaced needs the row it refers to; on the side of
the targets a replacement takes nothing away, and a deletion has to take the rows that refer
to what it deletes as well.  `restrict` deletes rows by what they contain, which is how such
rows go.
-/

namespace Framework

namespace Table

variable {ρ τ : Type*} {t : Table ρ} {targets : Table τ} {key : ρ → ℕ} {id : ℕ} {row : ρ}

/-- The column `key` names rows of `targets`. -/
def References (t : Table ρ) (key : ρ → ℕ) (targets : Table τ) : Prop :=
  ∀ id row, t.lookup id = some row → (targets.lookup (key row)).isSome

lemma references_empty (key : ρ → ℕ) (targets : Table τ) :
    (empty : Table ρ).References key targets := by
  intro id row h
  cases h

lemma references_insert (h : t.References key targets)
    (hrow : (targets.lookup (key row)).isSome) : (t.insert row).References key targets := by
  intro id r hr
  rcases eq_or_ne id t.nextId with rfl | hid
  · rw [lookup_insert_self] at hr
    rw [← Option.some.inj hr]
    exact hrow
  · rw [lookup_insert_of_ne t row hid] at hr
    exact h id r hr

lemma references_update (h : t.References key targets)
    (hrow : (targets.lookup (key row)).isSome) : (t.update id row).References key targets := by
  intro id' r hr
  rcases lookup_update_cases hr with ⟨-, rfl⟩ | ⟨-, hold⟩
  · exact hrow
  · exact h id' r hold

/-- The rows that are referred to may be replaced. -/
lemma references_update_target (h : t.References key targets) (id : ℕ) (target : τ) :
    t.References key (targets.update id target) :=
  fun id' r hr => (isSome_lookup_update targets id (key r) target).mpr (h id' r hr)

/-- A target that is added takes nothing away either. -/
lemma references_insert_target (h : t.References key targets) (target : τ) :
    t.References key (targets.insert target) := by
  intro id r hr
  obtain ⟨found, hfound⟩ := Option.isSome_iff_exists.mp (h id r hr)
  exact Option.isSome_of_eq_some (lookup_insert_of_some hfound target)

/-- The rows that are referred to may become more. -/
lemma references_grow {υ : Type*} {targets' : Table υ} (h : t.References key targets)
    (hgrow : ∀ id, (targets.lookup id).isSome → (targets'.lookup id).isSome) :
    t.References key targets' :=
  fun id row hrow => hgrow _ (h id row hrow)

lemma references_put {h : 0 < id ∧ id < t.nextId} (href : t.References key targets)
    (hrow : (targets.lookup (key row)).isSome) : (t.put id row h).References key targets := by
  intro id' r hr
  rcases lookup_put_cases hr with ⟨-, rfl⟩ | ⟨-, hold⟩
  · exact hrow
  · exact href id' r hold

/-- A view of the targets has their ids. -/
lemma references_map_target {υ : Type*} (f : τ → υ) :
    t.References key (targets.map f) ↔ t.References key targets := by
  unfold References
  simp only [lookup_map, Option.isSome_map]

/-- The rows of a view refer to what the rows refer to. -/
lemma references_map {υ : Type*} {f : ρ → υ} {keyOfView : υ → ℕ}
    (h : t.References (fun row => keyOfView (f row)) targets) :
    (t.map f).References keyOfView targets := by
  intro id r hr
  rw [lookup_map] at hr
  obtain ⟨row, hrow, rfl⟩ := Option.map_eq_some_iff.mp hr
  exact h id row hrow

lemma references_of_map {υ : Type*} {f : ρ → υ} {keyOfView : υ → ℕ}
    (h : (t.map f).References keyOfView targets) :
    t.References (fun row => keyOfView (f row)) targets := by
  intro id r hr
  refine h id (f r) ?_
  rw [lookup_map, hr, Option.map_some]

/-- Rows that are kept need rows that are kept. -/
lemma references_filter (h : t.References key targets) {keep keepTarget : ℕ → Bool}
    (hkeep : ∀ id row, t.lookup id = some row → keep id → keepTarget (key row)) :
    (t.filter keep).References key (targets.filter keepTarget) := by
  intro id r hr
  obtain ⟨hold, hkept⟩ := lookup_filter_eq_some.mp hr
  obtain ⟨target, htarget⟩ := Option.isSome_iff_exists.mp (h id r hold)
  exact Option.isSome_of_eq_some
    (lookup_filter_eq_some.mpr ⟨htarget, hkeep id r hold hkept⟩)

/-! ## Deletion by content -/

/-- The rows that pass a test. -/
def restrict (t : Table ρ) (keep : ρ → Bool) : Table ρ :=
  t.filter fun id => (t.lookup id).any keep

lemma lookup_restrict_eq_some {keep : ρ → Bool} :
    (t.restrict keep).lookup id = some row ↔ t.lookup id = some row ∧ keep row := by
  unfold restrict
  rw [lookup_filter_eq_some]
  constructor
  · rintro ⟨hrow, hkeep⟩
    rw [hrow] at hkeep
    exact ⟨hrow, hkeep⟩
  · rintro ⟨hrow, hkeep⟩
    rw [hrow]
    exact ⟨rfl, hkeep⟩

/-- The rows that pass a stronger test are all there. -/
lemma filter_restrict {keep p : ρ → Bool} (h : ∀ row, p row → keep row) :
    ((t.restrict keep).rows.map Prod.snd).filter p = (t.rows.map Prod.snd).filter p := by
  unfold restrict
  rw [rows_filter, List.filter_map, List.filter_map, List.filter_filter]
  refine congrArg (List.map Prod.snd) (List.filter_congr fun r hr => ?_)
  rw [mem_rows_iff.mp hr, Option.any_some, Function.comp_apply]
  rcases hp : p r.2 with _ | _
  · rfl
  · rw [h r.2 hp]
    rfl

/-- Rows of a restricted table refer to rows that are kept. -/
lemma references_restrict (h : t.References key targets) {keep : ρ → Bool}
    {keepTarget : ℕ → Bool}
    (hkeep : ∀ id row, t.lookup id = some row → keep row → keepTarget (key row)) :
    (t.restrict keep).References key (targets.filter keepTarget) := by
  refine references_filter h fun id row hrow hkept => ?_
  rw [hrow] at hkept
  exact hkeep id row hrow hkept

end Table

end Framework
