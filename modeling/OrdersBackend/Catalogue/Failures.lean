import OrdersBackend.Catalogue.Effects

/-!
# Records that fail

`_process_product_record` answers a failed record with `False` and a message.  The `atomic`
block of the import stands around the whole file, so the writes a record made before its
exception stay: the category before a number that cannot be converted or a product that cannot
be read, the product before an attribute without a name.  Such a record leaves the catalogue
alone exactly when the rows it had reached were there already (`RowsThere`).
-/

namespace OrdersBackend

open Framework Tx

namespace ProductViewSet

variable {κ : Type}

/-! ## What the writes of an element change -/

/-- Every row the record writes, up to where it stops, is in the catalogue as the record would
leave it. -/
structure RowsThere (column : DecimalColumn κ) (c : Catalogue κ) (productData : PyValue)
    (supplier : ℕ) (turn : Turn) : Prop where
  category : ∀ name, recordCategory productData = some name → (c.categories.lookup name).isSome
  product : turn = .store → ∀ sku columns, stored column productData supplier =
    some (sku, columns) → ∃ p, c.products.lookup sku = some p ∧ Patch.apply columns (some p) = p
  attributes : (reachedSku column productData supplier turn).isSome →
    ∀ name ∈ attributeNames productData, (c.attributes.lookup name).isSome
  values : ∀ sku, reachedSku column productData supplier turn = some sku →
    ∀ name v, (writtenValues name productData).getLast? = some v →
      c.values.lookup (sku, name) = some v

section

variable (column : DecimalColumn κ) (c : Catalogue κ) (productData : PyValue) (supplier : ℕ)
  (turn : Turn)

lemma categories_recordWrites_iff (hvalid : recordErrors productData = .ok []) :
    (c.writeAll (recordWrites column productData supplier turn)).categories = c.categories ↔
      ∀ name, recordCategory productData = some name → (c.categories.lookup name).isSome := by
  have hlog := categoryLog_recordWrites column productData supplier turn
  rw [writtenCategory, if_pos hvalid] at hlog
  rw [Catalogue.categories_writeAll, replay_createIfAbsent_eq_self_iff]
  show (∀ w ∈ categoryLog _, _) ↔ _
  rw [hlog]
  simp

lemma attributes_recordWrites_iff :
    (c.writeAll (recordWrites column productData supplier turn)).attributes = c.attributes ↔
      ((reachedSku column productData supplier turn).isSome →
        ∀ name ∈ attributeNames productData, (c.attributes.lookup name).isSome) := by
  rw [Catalogue.attributes_writeAll, replay_createIfAbsent_eq_self_iff]
  show (∀ w ∈ attributeLog _, _) ↔ _
  rw [(logs_recordWrites column productData supplier turn).2]
  cases reachedSku column productData supplier turn with
  | none => simp
  | some sku =>
      rw [Option.toList_some, List.flatMap_singleton]
      simp only [List.forall_mem_map, Option.isSome_some, forall_const]

lemma products_recordWrites_iff :
    (c.writeAll (recordWrites column productData supplier turn)).products = c.products ↔
      (turn = .store → ∀ sku columns, stored column productData supplier = some (sku, columns) →
        ∃ p, c.products.lookup sku = some p ∧ Patch.apply columns (some p) = p) := by
  by_cases hturn : turn = .store
  · subst hturn
    constructor
    · intro h _ sku columns hstored
      have hlookup := lookup_products_recordWrites c hstored
      rw [h] at hlookup
      exact ⟨_, hlookup, Patch.apply_self columns _⟩
    · intro h
      refine Finmap.ext_lookup fun sku => ?_
      by_cases hstored : ∃ columns, stored column productData supplier = some (sku, columns)
      · obtain ⟨columns, hstored⟩ := hstored
        obtain ⟨p, hp, happly⟩ := h rfl sku columns hstored
        rw [lookup_products_recordWrites c hstored, hp, happly]
      · exact lookup_products_recordWrites_of_ne c
          (fun columns hcolumns => hstored ⟨columns, hcolumns⟩) .store
  · refine iff_of_true ?_ fun h => absurd h hturn
    exact products_recordWrites_of_ne_store c productData supplier hturn

lemma values_recordWrites_iff :
    (c.writeAll (recordWrites column productData supplier turn)).values = c.values ↔
      ∀ sku, reachedSku column productData supplier turn = some sku →
        ∀ name v, (writtenValues name productData).getLast? = some v →
          c.values.lookup (sku, name) = some v := by
  constructor
  · intro h sku hreached name v hv
    have hlookup := lookup_values_recordWrites c column productData supplier turn sku name
    rw [h, if_pos hreached, hv] at hlookup
    exact hlookup
  · intro h
    refine Finmap.ext_lookup fun ⟨sku, name⟩ => ?_
    rw [lookup_values_recordWrites]
    by_cases hreached : reachedSku column productData supplier turn = some sku
    · rw [if_pos hreached]
      exact or_eq_self_iff.mpr (h sku hreached name)
    · rw [if_neg hreached]
      rfl

/-- The writes of an element that passed the validation change nothing exactly when their rows
are there. -/
lemma writeAll_recordWrites_eq_self_iff (hvalid : recordErrors productData = .ok []) :
    c.writeAll (recordWrites column productData supplier turn) = c ↔
      RowsThere column c productData supplier turn := by
  have htables : c.writeAll (recordWrites column productData supplier turn) = c ↔
      (c.writeAll (recordWrites column productData supplier turn)).categories = c.categories ∧
      (c.writeAll (recordWrites column productData supplier turn)).products = c.products ∧
      (c.writeAll (recordWrites column productData supplier turn)).attributes = c.attributes ∧
      (c.writeAll (recordWrites column productData supplier turn)).values = c.values :=
    ⟨fun h => by simp only [h, and_self], fun h => Catalogue.ext h.1 h.2.2.1 h.2.1 h.2.2.2⟩
  rw [htables, categories_recordWrites_iff column c productData supplier turn hvalid,
    attributes_recordWrites_iff, products_recordWrites_iff, values_recordWrites_iff]
  exact ⟨fun ⟨hcategory, hproduct, hattributes, hvalues⟩ =>
      ⟨hcategory, hproduct, hattributes, hvalues⟩,
    fun h => ⟨h.category, h.product, h.attributes, h.values⟩⟩

end

/-! ## Failed records -/

/-- A record the validation refuses writes nothing. -/
lemma recordWrites_of_refused {productData : PyValue} (h : recordErrors productData ≠ .ok [])
    (column : DecimalColumn κ) (supplier : ℕ) (turn : Turn) :
    recordWrites column productData supplier turn = [] :=
  if_neg h

/-- A record reported as failed leaves the catalogue as it was exactly when the validation
refused it, or the rows it wrote before its exception were there already. -/
theorem processProductRecord_failed_unchanged_iff (column : DecimalColumn κ)
    (productData : PyValue) (supplier : ℕ) (updateExisting : Bool) (rowNum : Option ℕ)
    (c : Catalogue κ) (errors : List RecordMessage) :
    (processProductRecord column productData supplier updateExisting rowNum c).1 =
        .ok (false, errors) →
      ((processProductRecord column productData supplier updateExisting rowNum c).2 = c ↔
        recordErrors productData ≠ .ok [] ∨
          RowsThere column c productData supplier
            (recordTurn column updateExisting c productData)) := by
  intro _
  rw [processProductRecord_apply]
  by_cases hvalid : recordErrors productData = .ok []
  · rw [writeAll_recordWrites_eq_self_iff column c productData supplier _ hvalid]
    simp [hvalid]
  · rw [recordWrites_of_refused hvalid]
    simp [hvalid]

/-- A record whose second attribute has no name. -/
def namelessAttribute : PyValue :=
  .mapping
    [("sku", .str "A-1"), ("name", .str "Клавиатура"), ("price", .int 100),
     ("stock_quantity", .int 5),
     ("attributes", .list
       [.mapping [("name", .str "цвет"), ("value", .str "красный")] "",
        .mapping [("name", .none), ("value", .str "42")] ""] (.ok ""))]
    ""

/-- On a catalogue that holds these rows already the same record changes nothing. -/
theorem processProductRecord_failed_unchanged_nameless :
    let column := DecimalColumn.late 10
    let c := (processProductRecord column namelessAttribute 1 false none .empty).2
    (processProductRecord column namelessAttribute 1 false none c).1 =
        .ok (false, [⟨none, .processing (.plain "A-1") .integrityError⟩]) ∧
      ((processProductRecord column namelessAttribute 1 false none c).2 = c ↔
        recordErrors namelessAttribute ≠ .ok [] ∨
          RowsThere column c namelessAttribute 1 (recordTurn column false c namelessAttribute)) :=
  have hfailed : (processProductRecord (DecimalColumn.late 10) namelessAttribute 1 false none
      (processProductRecord (DecimalColumn.late 10) namelessAttribute 1 false none .empty).2).1 =
        .ok (false, [⟨none, .processing (.plain "A-1") .integrityError⟩]) := by decide +kernel
  ⟨hfailed, processProductRecord_failed_unchanged_iff _ _ _ _ _ _ _ hfailed⟩

/-- The record is reported as failed, and its category, its product and its first attribute
are there. -/
theorem processProductRecord_failed_changes :
    ¬ ∀ (c : Catalogue PyDecimal) (productData : PyValue) (supplier : ℕ) (updateExisting : Bool)
        (rowNum : Option ℕ) (errors : List RecordMessage),
      (processProductRecord (.late 10) productData supplier updateExisting rowNum c).1 =
          .ok (false, errors) →
        (processProductRecord (.late 10) productData supplier updateExisting rowNum c).2 = c := by
  intro h
  have hunchanged := h .empty namelessAttribute 1 false none
    [⟨none, .processing (.plain "A-1") .integrityError⟩] (by decide +kernel)
  have hproduct : ((processProductRecord (.late 10) namelessAttribute 1 false none
      .empty).2.products.lookup "A-1").isSome := by decide +kernel
  rw [hunchanged] at hproduct
  exact absurd hproduct (by decide +kernel)

end ProductViewSet

end OrdersBackend
