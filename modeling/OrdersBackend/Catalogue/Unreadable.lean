import OrdersBackend.Catalogue.Effects

/-!
# Rows that cannot be read

A column may store a price that it cannot read back.  A record that stores such a price spoils
the row of its product: `update_or_create` and `get_or_create` both read the row first, so no
later record changes it, and every later record that names it fails.

`rowLoads_afterRecords_iff` says when a row that could be read before a file can still be read
after it: exactly when no record of the file that stores the product spoils it (`Spoiled`).
-/

namespace OrdersBackend

open Framework

/-- The two prices of the columns can be read back. -/
def ProductColumns.Loads {κ : Type} (column : DecimalColumn κ) (columns : ProductColumns κ) :
    Prop :=
  column.Reads columns.price ∧ ∀ cost, columns.costPrice = some cost → column.Reads cost

namespace ProductViewSet

variable {κ : Type}

/-- The row is absent or can be read. -/
def RowLoads (column : DecimalColumn κ) (row : Option (Product κ)) : Prop :=
  ∀ p, row = some p → Loads column p

/-- The record stores a row that cannot be read under the SKU. -/
def Spoils (column : DecimalColumn κ) (supplier : ℕ) (sku : String) (productData : PyValue) :
    Prop :=
  ∃ columns, stored column productData supplier = some (sku, columns) ∧ ¬ columns.Loads column

/-- The file spoils the row: by any of its records when it updates, and otherwise by the record
that creates the product. -/
def Spoiled (column : DecimalColumn κ) (supplier : ℕ) (updateExisting : Bool)
    (row : Option (Product κ)) (productsData : List PyValue) (sku : String) : Prop :=
  ∃ before productData after, productsData = before ++ productData :: after ∧
    Spoils column supplier sku productData ∧
    (updateExisting = false → row = none ∧ ∀ d ∈ before, ∀ columns,
      stored column d supplier ≠ some (sku, columns))

variable {column : DecimalColumn κ} {supplier : ℕ} {updateExisting : Bool} {sku : String}

/-- On top of a row that can be read, the columns alone decide. -/
lemma loads_apply_iff {columns : ProductColumns κ} {row : Option (Product κ)}
    (h : RowLoads column row) :
    Loads column (Patch.apply columns row) ↔ columns.Loads column := by
  rw [loads_iff, apply_productColumns, ProductColumns.Loads]
  refine and_congr_right fun _ => ?_
  rcases columns.costPrice with _ | cost
  · refine iff_of_true (fun cost hcost => ?_) fun cost hcost => nomatch hcost
    rw [Option.none_or] at hcost
    obtain ⟨p, hp, hcost⟩ := Option.bind_eq_some_iff.mp hcost
    exact (loads_iff.mp (h p hp)).2 cost hcost
  · rw [Option.some_or]

lemma not_rowLoads_some {p : Product κ} (h : ¬ Loads column p) : ¬ RowLoads column (some p) :=
  fun hrow => h (hrow p rfl)

/-- The product is stored at its turn when the row is absent, or when the import updates and
can read it. -/
lemma rowTurn_eq_store_iff_rowLoads (row : Option (Product κ)) :
    rowTurn column updateExisting row = .store ↔
      RowLoads column row ∧ (updateExisting = true ∨ row = none) := by
  rw [rowTurn_eq_store_iff]
  rcases row with _ | p
  · exact iff_of_true (fun p hp => nomatch hp) ⟨fun p hp => (nomatch hp), .inr rfl⟩
  · simp [RowLoads]

/-- A row that can be read, or is absent, raises nothing. -/
lemma rowTurn_ne_raise_iff (updateExisting : Bool) (row : Option (Product κ)) :
    (∀ e, rowTurn column updateExisting row ≠ .raise e) ↔ RowLoads column row := by
  rcases row with _ | p
  · exact iff_of_true (fun e h => nomatch h) fun p hp => nomatch hp
  · by_cases hload : Loads column p
    · rw [rowTurn_some_of_loads hload]
      refine iff_of_true (fun e h => ?_) fun q hq => Option.some.inj hq ▸ hload
      cases updateExisting <;> cases h
    · obtain ⟨e, he⟩ := rowTurn_some_of_not_loads hload updateExisting
      exact iff_of_false (fun h => h e he) (not_rowLoads_some hload)

/-! ## One record -/

section

variable {row : Option (Product κ)} {productData : PyValue} {productsData : List PyValue}

/-- A record that does not store the product is of no account. -/
lemma spoiled_cons_of_not_stored
    (h : ∀ columns, stored column productData supplier ≠ some (sku, columns)) :
    Spoiled column supplier updateExisting row (productData :: productsData) sku ↔
      Spoiled column supplier updateExisting row productsData sku := by
  constructor
  · rintro ⟨before, d, after, heq, hspoils, hfirst⟩
    rcases before with _ | ⟨d', before⟩
    · obtain ⟨rfl, rfl⟩ := List.cons.inj heq
      obtain ⟨columns, hstored, -⟩ := hspoils
      exact absurd hstored (h columns)
    · obtain ⟨rfl, rfl⟩ := List.cons.inj heq
      refine ⟨before, d, after, rfl, hspoils, fun hkeep => ?_⟩
      exact ⟨(hfirst hkeep).1, fun d hd => (hfirst hkeep).2 d (List.mem_cons_of_mem _ hd)⟩
  · rintro ⟨before, d, after, rfl, hspoils, hfirst⟩
    refine ⟨productData :: before, d, after, rfl, hspoils, fun hkeep => ?_⟩
    exact ⟨(hfirst hkeep).1, List.forall_mem_cons.mpr ⟨h, (hfirst hkeep).2⟩⟩

/-- A record that stores the product spoils it itself or leaves that to the rest of the file. -/
lemma spoiled_cons_of_stored {columns : ProductColumns κ}
    (h : stored column productData supplier = some (sku, columns))
    (hturn : updateExisting = true ∨ row = none) :
    Spoiled column supplier updateExisting row (productData :: productsData) sku ↔
      ¬ columns.Loads column ∨ Spoiled column supplier updateExisting
        (some (Patch.apply columns row)) productsData sku := by
  have hspoils : Spoils column supplier sku productData ↔ ¬ columns.Loads column := by
    unfold Spoils
    rw [h]
    simp
  constructor
  · rintro ⟨before, d, after, heq, hd, hfirst⟩
    rcases before with _ | ⟨d', before⟩
    · obtain ⟨rfl, rfl⟩ := List.cons.inj heq
      exact .inl (hspoils.mp hd)
    · obtain ⟨rfl, rfl⟩ := List.cons.inj heq
      refine .inr ⟨before, d, after, rfl, hd, fun hkeep => ?_⟩
      exact absurd h ((hfirst hkeep).2 productData List.mem_cons_self columns)
  · rintro (hcolumns | ⟨before, d, after, rfl, hd, hfirst⟩)
    · refine ⟨[], productData, productsData, rfl, hspoils.mpr hcolumns, fun hkeep => ?_⟩
      rw [hkeep] at hturn
      exact ⟨hturn.resolve_left Bool.false_ne_true, fun d hd => nomatch hd⟩
    · refine ⟨productData :: before, d, after, rfl, hd, fun hkeep => ?_⟩
      have hnone := (hfirst hkeep).1
      cases hnone

end

/-! ## A whole file -/

/-- A row that cannot be read is never changed, and nothing is written for it. -/
lemma afterRecords_of_not_loads {c : Catalogue κ} {p : Product κ}
    (hp : c.products.lookup sku = some p) (hload : ¬ Loads column p) (supplier : ℕ)
    (updateExisting : Bool) (productsData : List PyValue) :
    (afterRecords column supplier updateExisting c productsData).products.lookup sku = some p ∧
      ∀ name, (afterRecords column supplier updateExisting c productsData).values.lookup
        (sku, name) = c.values.lookup (sku, name) := by
  obtain ⟨e, hturn⟩ := rowTurn_some_of_not_loads hload updateExisting
  have hkept : rowTurn column updateExisting (some p) = .store → ∀ d ∈ productsData, ∀ columns,
      stored column d supplier ≠ some (sku, columns) := by
    rw [hturn]
    exact fun hstore => nomatch hstore
  obtain ⟨hproduct, hvalues⟩ := afterRecords_of_row_kept hp hkept
  refine ⟨hproduct, fun name => ?_⟩
  rw [hvalues name, hturn]
  simp [reachedSku]

/-- **When a row stays readable.**  A row that is absent or can be read is still so after a file
exactly when the file does not spoil it. -/
theorem rowLoads_afterRecords_iff {c : Catalogue κ}
    (h : RowLoads column (c.products.lookup sku)) (productsData : List PyValue) :
    RowLoads column
        ((afterRecords column supplier updateExisting c productsData).products.lookup sku) ↔
      ¬ Spoiled column supplier updateExisting (c.products.lookup sku) productsData sku := by
  induction productsData generalizing c with
  | nil =>
      refine iff_of_true h ?_
      rintro ⟨before, d, after, heq, -⟩
      simp at heq
  | cons productData productsData ih =>
      rw [afterRecords_cons]
      by_cases hstored : ∃ columns, stored column productData supplier = some (sku, columns)
      · obtain ⟨columns, hstored⟩ := hstored
        have hsku := recordSku_of_stored hstored
        by_cases hturn : updateExisting = true ∨ c.products.lookup sku = none
        · -- the product is stored
          have hrow := lookup_products_afterRecord hstored
            ((rowTurn_eq_store_iff_rowLoads _).mpr ⟨h, hturn⟩)
          rw [spoiled_cons_of_stored hstored hturn]
          by_cases hcolumns : columns.Loads column
          · -- the new row can be read, and the other records decide
            have hnext : RowLoads column
                ((afterRecord column supplier updateExisting c productData).products.lookup
                  sku) := by
              rw [hrow]
              exact fun p hp => Option.some.inj hp ▸ (loads_apply_iff h).mpr hcolumns
            rw [ih hnext, hrow]
            simp [hcolumns]
          · -- it cannot, and no later record gets past it
            have hload : ¬ Loads column (Patch.apply columns (c.products.lookup sku)) :=
              fun hl => hcolumns ((loads_apply_iff h).mp hl)
            have hstay := (afterRecords_of_not_loads hrow hload supplier updateExisting
              productsData).1
            rw [hstay]
            exact iff_of_false (not_rowLoads_some hload) fun hnot => hnot (.inl hcolumns)
        · -- the import does not update, and the product is there
          obtain ⟨hkeep, hsome⟩ := not_or.mp hturn
          obtain ⟨p, hp⟩ := Option.ne_none_iff_exists'.mp hsome
          have hfalse := Bool.eq_false_of_not_eq_true hkeep
          subst hfalse
          have hstay := lookup_products_afterRecords_keep hp column supplier
            (productData :: productsData)
          rw [afterRecords_cons] at hstay
          rw [hstay, ← hp]
          refine iff_of_true h ?_
          rintro ⟨before, d, after, -, -, hfirst⟩
          exact hsome (hfirst rfl).1
      · -- the record stores nothing under this SKU
        have hother : ∀ columns, stored column productData supplier ≠ some (sku, columns) :=
          fun columns heq => hstored ⟨columns, heq⟩
        have hrow : (afterRecord column supplier updateExisting c productData).products.lookup
            sku = c.products.lookup sku := lookup_products_afterRecord_of_ne hother c
        rw [ih (by rw [hrow]; exact h), hrow, spoiled_cons_of_not_stored hother]

/-- A row that can be read after some records could be read before them. -/
lemma rowLoads_of_afterRecords {c : Catalogue κ}
    {productsData : List PyValue}
    (h : RowLoads column
      ((afterRecords column supplier updateExisting c productsData).products.lookup sku)) :
    RowLoads column (c.products.lookup sku) := by
  intro p hp
  by_contra hload
  rw [(afterRecords_of_not_loads hp hload supplier updateExisting productsData).1] at h
  exact hload (h p rfl)

/-- The columns a record stores under the SKU. -/
def storedAt (column : DecimalColumn κ) (supplier : ℕ) (sku : String) (productData : PyValue) :
    Option (ProductColumns κ) :=
  (stored column productData supplier).bind fun w => if w.1 = sku then some w.2 else none

/-- Where the row can be read to the end, every record of the file has written what it gives. -/
lemma afterRecords_of_rowLoads {c : Catalogue κ} {productsData : List PyValue}
    (h : RowLoads column
      ((afterRecords column supplier true c productsData).products.lookup sku)) :
    (afterRecords column supplier true c productsData).products.lookup sku =
        applyAll (productsData.filterMap (storedAt column supplier sku))
          (c.products.lookup sku) ∧
      ∀ name, (afterRecords column supplier true c productsData).values.lookup (sku, name) =
        ((productsData.filter fun d => reachedSku column d supplier .store = some sku).flatMap
          (writtenValues name)).getLast?.or (c.values.lookup (sku, name)) := by
  induction productsData generalizing c with
  | nil => exact ⟨rfl, fun name => rfl⟩
  | cons productData productsData ih =>
      -- a record with the SKU is stored at its turn
      have hstore : rowTurn column true (c.products.lookup sku) = .store :=
        (rowTurn_eq_store_iff_rowLoads _).mpr ⟨rowLoads_of_afterRecords h, .inl rfl⟩
      have hturn : recordSku productData = some sku →
          recordTurn column true c productData = .store := fun hsku =>
        (recordTurn_of_sku c hsku column true).trans hstore
      obtain ⟨hproduct, hvalues⟩ := ih h
      rw [afterRecords_cons, hproduct]
      constructor
      · -- the columns of the row: the record adds its own where it is stored
        rw [List.filterMap_cons]
        by_cases hstored : ∃ columns, stored column productData supplier = some (sku, columns)
        · obtain ⟨columns, hstored⟩ := hstored
          have hcolumns : storedAt column supplier sku productData = some columns := by
            simp [storedAt, hstored]
          rw [hcolumns, applyAll_cons, lookup_products_afterRecord hstored hstore]
        · have hnone : storedAt column supplier sku productData = none := by
            unfold storedAt
            rcases hs : stored column productData supplier with _ | ⟨sku', columns⟩
            · rfl
            · refine if_neg fun heq => hstored ⟨columns, ?_⟩
              rw [hs, show sku' = sku from heq]
          push Not at hstored
          rw [hnone, lookup_products_afterRecord_of_ne hstored]
      · -- its attributes: of all values that are written the last one stays
        intro name
        rw [hvalues name, lookup_values_afterRecord hturn, getLast_flatMap_filter_cons]
        simp only [decide_eq_true_eq]

end ProductViewSet

end OrdersBackend
