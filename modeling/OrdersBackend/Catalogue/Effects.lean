import OrdersBackend.Catalogue.File

/-!
# The effect of a file on one product

Two questions about the catalogue a file leaves behind, for a SKU and an attribute name: which
of its records change the product, and which of them change the value.  A record changes the
product it stores, at a turn that stores it (`lookup_products_recordWrites`), and the values
of the product it names (`lookup_values_recordWrites`).  The lemmas about `afterRecords` carry
this over a whole file: what no later record changes stays.
-/

namespace OrdersBackend

open Framework Tx

namespace ProductViewSet

variable {κ : Type} {column : DecimalColumn κ}

/-- The values a record leaves in the attribute `name`, in order. -/
def writtenValues (name : String) (productData : PyValue) : List String :=
  (assignments productData).filterMap fun nv => if nv.1 = name then some nv.2 else none

/-! ## One record -/

section

variable (c : Catalogue κ) {productData : PyValue} {supplier : ℕ} {sku : String} {turn : Turn}

/-- A product that is not stored stays as it is. -/
lemma products_recordWrites_of_ne_store (productData : PyValue) (supplier : ℕ)
    (h : turn ≠ .store) :
    (c.writeAll (recordWrites column productData supplier turn)).products = c.products := by
  rw [Catalogue.products_writeAll]
  show replay c.products (productLog _) = _
  rw [productLog_recordWrites, if_neg h, replay_nil]

/-- A record that stores another product, or none, leaves the product alone. -/
lemma lookup_products_recordWrites_of_ne
    (h : ∀ columns, stored column productData supplier ≠ some (sku, columns)) (turn : Turn) :
    (c.writeAll (recordWrites column productData supplier turn)).products.lookup sku =
      c.products.lookup sku := by
  by_cases hturn : turn = .store
  · rw [Catalogue.products_writeAll]
    refine lookup_replay_of_notMem fun w hw heq => ?_
    have hmem : w ∈ productLog (recordWrites column productData supplier turn) := hw
    rw [productLog_recordWrites, if_pos hturn] at hmem
    obtain ⟨sku', columns⟩ := w
    cases heq
    exact h columns (Option.mem_toList.mp hmem)
  · rw [products_recordWrites_of_ne_store c productData supplier hturn]

/-- A record stores its columns on top of the product that is there. -/
lemma lookup_products_recordWrites {columns : ProductColumns κ}
    (h : stored column productData supplier = some (sku, columns)) :
    (c.writeAll (recordWrites column productData supplier .store)).products.lookup sku =
      some (Patch.apply columns (c.products.lookup sku)) := by
  rw [Catalogue.products_writeAll]
  show (replay c.products (productLog _)).lookup sku = _
  rw [productLog_recordWrites, if_pos rfl, h]
  exact lookup_upsert_self _ _ _

/-- The last assignment of a record to an attribute of the product it reaches decides the
value; any other value stays. -/
lemma lookup_values_recordWrites (column : DecimalColumn κ) (productData : PyValue) (supplier : ℕ)
    (turn : Turn) (sku name : String) :
    (c.writeAll (recordWrites column productData supplier turn)).values.lookup (sku, name) =
      (if reachedSku column productData supplier turn = some sku then
        writtenValues name productData else []).getLast?.or (c.values.lookup (sku, name)) := by
  rw [Catalogue.values_writeAll, lookup_replay]
  show applyAll (patchesAt (sku, name) (valueLog _)) _ = _
  rw [(logs_recordWrites column productData supplier turn).1, applyAll_overwrite]
  cases hreached : reachedSku column productData supplier turn with
  | none => rfl
  | some sku' =>
      rw [Option.toList_some, List.flatMap_singleton, patchesAt_assigned]
      by_cases hsku : sku' = sku
      · rw [if_pos hsku, if_pos (congrArg some hsku), List.getLast?_map, Option.map_map]
        exact congrArg (Option.or · _) Option.map_id'
      · rw [if_neg hsku, if_neg fun h => hsku (Option.some.inj h)]
        rfl

/-- A record that names another product, or assigns nothing to the attribute, leaves its
value alone. -/
lemma lookup_values_recordWrites_of_nil {name : String}
    (h : recordSku productData = some sku → writtenValues name productData = []) (turn : Turn) :
    (c.writeAll (recordWrites column productData supplier turn)).values.lookup (sku, name) =
      c.values.lookup (sku, name) := by
  rw [lookup_values_recordWrites]
  by_cases hreached : reachedSku column productData supplier turn = some sku
  · rw [if_pos hreached, h (recordSku_of_reachedSku hreached)]
    rfl
  · rw [if_neg hreached]
    rfl

/-- The turn of a record is that of the row under its SKU. -/
lemma recordTurn_of_sku (h : recordSku productData = some sku) (column : DecimalColumn κ)
    (updateExisting : Bool) :
    recordTurn column updateExisting c productData =
      rowTurn column updateExisting (c.products.lookup sku) := by
  unfold recordTurn
  rw [h, Option.bind_some]

/-- A product is stored when it is not there, and when an import that updates can read it. -/
lemma rowTurn_eq_store_iff (column : DecimalColumn κ) (updateExisting : Bool)
    (o : Option (Product κ)) :
    rowTurn column updateExisting o = .store ↔
      ∀ p, o = some p → Loads column p ∧ updateExisting = true := by
  rcases o with _ | p
  · exact iff_of_true rfl fun p h => nomatch h
  · simp only [Option.some.injEq, forall_eq']
    by_cases hload : Loads column p
    · rw [rowTurn_some_of_loads hload]
      cases updateExisting <;> simp [hload]
    · obtain ⟨e, hturn⟩ := rowTurn_some_of_not_loads hload updateExisting
      rw [hturn]
      exact iff_of_false (fun h => nomatch h) fun h => hload h.1

end

/-! ## A whole file -/

section

variable {supplier : ℕ} {updateExisting : Bool} {sku : String} {productsData : List PyValue}

/-- Products are never removed. -/
lemma isSome_afterRecords {c : Catalogue κ} (h : (c.products.lookup sku).isSome)
    (column : DecimalColumn κ) (supplier : ℕ) (updateExisting : Bool)
    (productsData : List PyValue) :
    ((afterRecords column supplier updateExisting c productsData).products.lookup sku).isSome := by
  induction productsData generalizing c with
  | nil => exact h
  | cons productData productsData ih => exact ih (Catalogue.products_writeAll_isSome h)

/-- A record that stores the product puts its columns on top of the row. -/
lemma lookup_products_afterRecord {c : Catalogue κ} {productData : PyValue}
    {columns : ProductColumns κ}
    (hstored : stored column productData supplier = some (sku, columns))
    (hturn : rowTurn column updateExisting (c.products.lookup sku) = .store) :
    (afterRecord column supplier updateExisting c productData).products.lookup sku =
      some (Patch.apply columns (c.products.lookup sku)) := by
  unfold afterRecord
  rw [recordTurn_of_sku c (recordSku_of_stored hstored), hturn]
  exact lookup_products_recordWrites c hstored

/-- A record that stores another product, or none, leaves the row. -/
lemma lookup_products_afterRecord_of_ne {productData : PyValue}
    (h : ∀ columns, stored column productData supplier ≠ some (sku, columns)) (c : Catalogue κ) :
    (afterRecord column supplier updateExisting c productData).products.lookup sku =
      c.products.lookup sku := lookup_products_recordWrites_of_ne c h _

/-- A product no record stores stays as it is. -/
lemma lookup_products_afterRecords_of_ne
    (h : ∀ productData ∈ productsData, ∀ columns,
      stored column productData supplier ≠ some (sku, columns)) (c : Catalogue κ) :
    (afterRecords column supplier updateExisting c productsData).products.lookup sku =
      c.products.lookup sku := by
  induction productsData generalizing c with
  | nil => rfl
  | cons productData productsData ih =>
      rw [afterRecords_cons, ih fun d hd => h d (List.mem_cons_of_mem _ hd)]
      exact lookup_products_afterRecord_of_ne (h productData List.mem_cons_self) c

/-- At a turn that does not store it a product stays as it is. -/
lemma lookup_products_afterRecord_of_turn {c : Catalogue κ} {p : Product κ}
    (hp : c.products.lookup sku = some p)
    (hturn : rowTurn column updateExisting (some p) ≠ .store) (supplier : ℕ)
    (productData : PyValue) :
    (afterRecord column supplier updateExisting c productData).products.lookup sku = some p := by
  by_cases hsku : recordSku productData = some sku
  · unfold afterRecord
    rw [products_recordWrites_of_ne_store, hp]
    rw [recordTurn_of_sku c hsku, hp]
    exact hturn
  · rw [lookup_products_afterRecord_of_ne, hp]
    exact fun columns hstored => hsku (recordSku_of_stored hstored)

/-- What a record does to a value, by the turn of the row under the SKU. -/
lemma lookup_values_afterRecord {c : Catalogue κ} {productData : PyValue} {turn : Turn}
    (hturn : recordSku productData = some sku →
      recordTurn column updateExisting c productData = turn) (supplier : ℕ) (name : String) :
    (afterRecord column supplier updateExisting c productData).values.lookup (sku, name) =
      (if reachedSku column productData supplier turn = some sku then
        writtenValues name productData else []).getLast?.or (c.values.lookup (sku, name)) := by
  unfold afterRecord
  rw [lookup_values_recordWrites]
  by_cases hsku : recordSku productData = some sku
  · rw [hturn hsku]
  · have hreach : ∀ turn, reachedSku column productData supplier turn ≠ some sku :=
      fun turn h => hsku (recordSku_of_reachedSku h)
    rw [if_neg (hreach _), if_neg (hreach _)]

/-- The last of several texts, the first of them taken apart. -/
lemma getLast_flatMap_filter_cons {α : Type} (reached : α → Bool) (values : α → List String)
    (a : α) (l : List α) (o : Option String) :
    (((a :: l).filter reached).flatMap values).getLast?.or o =
      ((l.filter reached).flatMap values).getLast?.or
        ((if reached a then values a else []).getLast?.or o) := by
  rw [List.filter_cons]
  by_cases ha : reached a
  · simp only [ha, if_true, List.flatMap_cons, List.getLast?_append, Option.or_assoc]
  · simp only [ha, Bool.false_eq_true, if_false, List.getLast?_nil, Option.none_or]

/-- A product that the file does not store: it stays as it is, every record that names it has
the same turn, and the last assignment of those that reach it decides a value. -/
theorem afterRecords_of_row_kept {c : Catalogue κ} {p : Product κ}
    (hp : c.products.lookup sku = some p)
    (hkept : rowTurn column updateExisting (some p) = .store → ∀ productData ∈ productsData,
      ∀ columns, stored column productData supplier ≠ some (sku, columns)) :
    (afterRecords column supplier updateExisting c productsData).products.lookup sku = some p ∧
      ∀ name, (afterRecords column supplier updateExisting c productsData).values.lookup
          (sku, name) =
        ((productsData.filter fun d => reachedSku column d supplier
          (rowTurn column updateExisting (some p)) = some sku).flatMap
            (writtenValues name)).getLast?.or (c.values.lookup (sku, name)) := by
  induction productsData generalizing c with
  | nil => exact ⟨hp, fun name => rfl⟩
  | cons productData productsData ih =>
      have hnext : (afterRecord column supplier updateExisting c productData).products.lookup sku =
          some p := by
        by_cases hturn : rowTurn column updateExisting (some p) = .store
        · rw [lookup_products_afterRecord_of_ne (hkept hturn productData List.mem_cons_self), hp]
        · exact lookup_products_afterRecord_of_turn hp hturn supplier productData
      obtain ⟨hproduct, hvalues⟩ :=
        ih hnext fun hturn d hd => hkept hturn d (List.mem_cons_of_mem _ hd)
      refine ⟨hproduct, fun name => ?_⟩
      -- the turn of a record that reaches the product is that of its row
      have hturn : recordSku productData = some sku →
          recordTurn column updateExisting c productData =
            rowTurn column updateExisting (some p) := fun hsku => by
        rw [recordTurn_of_sku c hsku, hp]
      rw [afterRecords_cons, hvalues name, lookup_values_afterRecord hturn,
        getLast_flatMap_filter_cons]
      simp only [decide_eq_true_eq]

/-- An import that does not update keeps the products that are there. -/
lemma lookup_products_afterRecords_keep {c : Catalogue κ} {p : Product κ}
    (hp : c.products.lookup sku = some p) (column : DecimalColumn κ) (supplier : ℕ)
    (productsData : List PyValue) :
    (afterRecords column supplier false c productsData).products.lookup sku = some p := by
  refine (afterRecords_of_row_kept hp fun hturn => ?_).1
  have hupdates := ((rowTurn_eq_store_iff column false (some p)).mp hturn p rfl).2
  cases hupdates

/-- A value no record assigns stays as it is. -/
lemma lookup_values_afterRecords_of_nil {name : String}
    (h : ∀ productData ∈ productsData, recordSku productData = some sku →
      writtenValues name productData = []) (c : Catalogue κ) :
    (afterRecords column supplier updateExisting c productsData).values.lookup (sku, name) =
      c.values.lookup (sku, name) := by
  induction productsData generalizing c with
  | nil => rfl
  | cons productData productsData ih =>
      rw [afterRecords_cons, ih fun d hd => h d (List.mem_cons_of_mem _ hd)]
      exact lookup_values_recordWrites_of_nil c (h productData List.mem_cons_self) _

end

end ProductViewSet

end OrdersBackend
