import OrdersBackend.Catalogue.Effects

/-!
# An import is the merge of its file

What an import with `update_existing` is for: the catalogue it leaves is the last-writer-wins
merge of the records, column by column.  `IsMerge` states this without the program, over the
records that name a SKU (`recordsOf`).  Most columns come from the last of them, the cost
price from the last one that carries a cost, and the values of the attributes from the last
assignment any of them makes.

`importProducts_isMerge` says that the program computes this merge when every record
succeeds.
-/

namespace OrdersBackend

open Framework Tx

namespace ProductViewSet

variable {κ : Type}

/-! ## The merge of a file -/

/-- The records that name the SKU `sku`, in file order. -/
def recordsOf (sku : String) (productsData : List PyValue) : List PyValue :=
  productsData.filter fun productData => recordSku productData = some sku

/-- The record has a cost price that is not empty. -/
def carriesCost (productData : PyValue) : Bool :=
  match givenCost productData with
  | .ok (some _) => true
  | _ => false

/-- The values a record assigns to the attribute `name`, in order. -/
def assignedValues (name : String) (productData : PyValue) : List String :=
  match attributesData productData with
  | .ok attributes =>
    (attributePairs attributes).filterMap fun pair =>
      if textColumn pair.1 = .ok name then (storedText pair.2).toOption else none
  | .error _ => []

/-- The columns of a product are those the record gives, converted and stored. -/
structure Describes (column : DecimalColumn κ) (productData : PyValue) (fields : ProductFields κ) :
    Prop where
  name : ∃ v, productData.item "name" = .ok v ∧ textColumn v = .ok fields.name
  description : ∃ v, productData.get "description" (.str "") = .ok v ∧
    textColumn v = .ok fields.description
  category : ∃ v, productData.get "category" (.str "Без категории") = .ok v ∧
    textColumn v = .ok fields.category
  price : ∃ v price, productData.item "price" = .ok v ∧ v.toDecimal = .ok price ∧
    column.save price = .ok fields.price
  stockQuantity : ∃ v, productData.item "stock_quantity" = .ok v ∧
    v.toInt = .ok fields.stockQuantity
  minOrderQuantity : ∃ v, productData.get "min_order_quantity" (.int 1) = .ok v ∧
    v.toInt = .ok fields.minOrderQuantity
  unit : ∃ v, productData.get "unit" (.str "шт") = .ok v ∧ textColumn v = .ok fields.unit
  isActive : ∃ v, productData.get "is_active" (.str "true") = .ok v ∧
    isTrueText v = .ok fields.isActive

/-- `c'` is the merge of a file of the supplier `supplier` into `c`. -/
structure IsMerge (column : DecimalColumn κ) (supplier : ℕ) (productsData : List PyValue)
    (c c' : Catalogue κ) : Prop where
  /-- Every record's product is there. -/
  isSome : ∀ productData ∈ productsData, ∃ sku, recordSku productData = some sku ∧
    (c'.products.lookup sku).isSome
  /-- The last record with a SKU owns and describes the product. -/
  fields : ∀ sku productData, (recordsOf sku productsData).getLast? = some productData →
    ∃ p, c'.products.lookup sku = some p ∧ p.supplier = supplier ∧
      Describes column productData p.toProductFields
  /-- The last record with a SKU and a cost gives the cost price. -/
  cost : ∀ sku productData,
    ((recordsOf sku productsData).filter carriesCost).getLast? = some productData →
    ∃ p v cost cents, c'.products.lookup sku = some p ∧ givenCost productData = .ok (some v) ∧
      v.toDecimal = .ok cost ∧ column.save cost = .ok cents ∧ p.costPrice = some cents
  /-- Without such a record the cost price is what it was, or null. -/
  cost_kept : ∀ sku p, (recordsOf sku productsData).filter carriesCost = [] →
    c'.products.lookup sku = some p →
    p.costPrice = (c.products.lookup sku).bind Product.costPrice
  /-- The last assignment decides the value of an attribute; without one it stays. -/
  values : ∀ sku name, c'.values.lookup (sku, name) =
    ((recordsOf sku productsData).flatMap (assignedValues name)).getLast?.or
      (c.values.lookup (sku, name))
  /-- The products the file does not name stay. -/
  others : ∀ sku, recordsOf sku productsData = [] →
    c'.products.lookup sku = c.products.lookup sku

/-! ## A record that succeeds -/

variable {column : DecimalColumn κ}

/-- Stored columns are described by the record that gave them. -/
lemma describes_of_columns {productData : PyValue} {supplier : ℕ} {category : String}
    {defaults : ProductDefaults} {columns : ProductColumns κ}
    (hcategory : (productData.get "category" (.str "Без категории") >>= textColumn) =
      .ok category)
    (hdefaults : productDefaults productData supplier category = .ok defaults)
    (hcolumns : defaults.columns column = .ok columns) :
    columns.supplier = supplier ∧ Describes column productData columns.toProductFields ∧
      ∃ cost, costDefault productData = .ok cost ∧
        costColumn column cost = .ok columns.costPrice := by
  -- what the record gives, in the order of the defaults
  obtain ⟨categoryValue, hcategoryValue, hcategoryText⟩ := except_bind_eq_ok.mp hcategory
  obtain ⟨name, hname, h⟩ := except_bind_eq_ok.mp hdefaults
  obtain ⟨description, hdescription, h⟩ := except_bind_eq_ok.mp h
  obtain ⟨priceValue, hpriceValue, h⟩ := except_bind_eq_ok.mp h
  obtain ⟨price, hprice, h⟩ := except_bind_eq_ok.mp h
  obtain ⟨stockValue, hstockValue, h⟩ := except_bind_eq_ok.mp h
  obtain ⟨stock, hstock, h⟩ := except_bind_eq_ok.mp h
  obtain ⟨minValue, hminValue, h⟩ := except_bind_eq_ok.mp h
  obtain ⟨minimum, hminimum, h⟩ := except_bind_eq_ok.mp h
  obtain ⟨unit, hunit, h⟩ := except_bind_eq_ok.mp h
  obtain ⟨activeValue, hactiveValue, h⟩ := except_bind_eq_ok.mp h
  obtain ⟨active, hactive, h⟩ := except_bind_eq_ok.mp h
  obtain ⟨cost, hcost, h⟩ := except_bind_eq_ok.mp h
  cases Except.ok.inj h
  -- and what the columns make of it
  obtain ⟨nameText, hnameText, h⟩ := except_bind_eq_ok.mp hcolumns
  obtain ⟨descriptionText, hdescriptionText, h⟩ := except_bind_eq_ok.mp h
  obtain ⟨priceCents, hpriceCents, h⟩ := except_bind_eq_ok.mp h
  obtain ⟨stockNatural, hstockNatural, h⟩ := except_bind_eq_ok.mp h
  obtain ⟨minNatural, hminNatural, h⟩ := except_bind_eq_ok.mp h
  obtain ⟨unitText, hunitText, h⟩ := except_bind_eq_ok.mp h
  obtain ⟨costCents, hcostCents, h⟩ := except_bind_eq_ok.mp h
  cases Except.ok.inj h
  refine ⟨rfl, ?_, cost, hcost, hcostCents⟩
  exact {
    name := ⟨name, hname, hnameText⟩
    description := ⟨description, hdescription, hdescriptionText⟩
    category := ⟨categoryValue, hcategoryValue, hcategoryText⟩
    price := ⟨priceValue, price, hpriceValue, hprice, hpriceCents⟩
    stockQuantity := ⟨stockValue, hstockValue,
      hstock.trans (congrArg _ (eq_of_naturalColumn hstockNatural))⟩
    minOrderQuantity := ⟨minValue, hminValue,
      hminimum.trans (congrArg _ (eq_of_naturalColumn hminNatural))⟩
    unit := ⟨unit, hunit, hunitText⟩
    isActive := ⟨activeValue, hactiveValue, hactive⟩ }

/-- A stored cost price is the one the record carries; without one the column is not named. -/
lemma costPrice_of_columns {productData : PyValue} {cost : Option PyDecimal}
    {cents : Option κ} (hcost : costDefault productData = .ok cost)
    (hcents : costColumn column cost = .ok cents) :
    (carriesCost productData = false ∧ cents = none) ∨
      carriesCost productData = true ∧ ∃ v cost cents', givenCost productData = .ok (some v) ∧
        v.toDecimal = .ok cost ∧ column.save cost = .ok cents' ∧ cents = some cents' := by
  unfold carriesCost
  obtain ⟨given, hgiven, hcost⟩ := except_bind_eq_ok.mp hcost
  rw [hgiven]
  cases given with
  | none =>
      cases Except.ok.inj hcost
      exact .inl ⟨rfl, (Except.ok.inj hcents).symm⟩
  | some v =>
      obtain ⟨decimal, hdecimal, hcost⟩ := except_bind_eq_ok.mp hcost
      cases Except.ok.inj hcost
      obtain ⟨cents', hcents', hcents⟩ := except_bind_eq_ok.mp hcents
      exact .inr ⟨rfl, v, decimal, cents', rfl, hdecimal, hcents', (Except.ok.inj hcents).symm⟩

/-- What a record that succeeds leaves in the logs of the tables. -/
structure Merges (column : DecimalColumn κ) (supplier : ℕ) (productData : PyValue) (sku : String)
    (columns : ProductColumns κ) : Prop where
  stored : stored column productData supplier = some (sku, columns)
  sku : recordSku productData = some sku
  supplier : columns.supplier = supplier
  describes : Describes column productData columns.toProductFields
  cost : (carriesCost productData = false ∧ columns.costPrice = none) ∨
    carriesCost productData = true ∧ ∃ v cost cents, givenCost productData = .ok (some v) ∧
      v.toDecimal = .ok cost ∧ column.save cost = .ok cents ∧ columns.costPrice = some cents
  assigned : ∀ name, writtenValues name productData = assignedValues name productData

/-- A record that succeeds writes every value it assigns. -/
lemma writtenValues_of_succeeds {productData : PyValue} {supplier : ℕ} {turn : Turn}
    (h : RecordSucceeds column productData supplier turn) (name : String) :
    writtenValues name productData = assignedValues name productData := by
  obtain ⟨sku, defaults, -, -, hvalues⟩ := recordSucceeds_iff.mp h
  unfold valueSteps at hvalues
  unfold writtenValues assignments assignedValues
  cases hattributes : attributesData productData with
  | error e => rfl
  | ok attributes =>
      rw [hattributes] at hvalues
      exact namedPairs_of_ok hvalues name

/-- What a record stores, taken apart. -/
lemma describes_of_stored {productData : PyValue} {supplier : ℕ} {sku : String}
    {columns : ProductColumns κ} (h : stored column productData supplier = some (sku, columns)) :
    columns.supplier = supplier ∧ Describes column productData columns.toProductFields ∧
      ∃ cost, costDefault productData = .ok cost ∧
        costColumn column cost = .ok columns.costPrice := by
  obtain ⟨defaults, hprepared, hcolumns⟩ := stored_eq_some.mp h
  obtain ⟨-, category, hcategory, hdefaults⟩ := prepared_eq_some hprepared
  exact describes_of_columns hcategory hdefaults hcolumns

lemma exists_merges {productData : PyValue} {supplier : ℕ}
    (h : RecordSucceeds column productData supplier .store) :
    ∃ sku columns, Merges column supplier productData sku columns := by
  obtain ⟨sku, hsku⟩ := Option.isSome_iff_exists.mp (recordSku_isSome_of_succeeds h)
  obtain ⟨columns, hstored⟩ := h.exists_stored hsku
  obtain ⟨hsupplier, hdescribes, cost, hcost, hcents⟩ := describes_of_stored hstored
  exact ⟨sku, columns, {
    stored := hstored
    sku := hsku
    supplier := hsupplier
    describes := hdescribes
    cost := costPrice_of_columns hcost hcents
    assigned := writtenValues_of_succeeds h }⟩

/-! ## The logs of a file -/

/-- A list of product writes leaves the last cost price any of them names. -/
lemma costPrice_applyAll (ps : List (ProductColumns κ)) (o : Option (Product κ)) :
    (applyAll ps o).bind Product.costPrice =
      (ps.filterMap ProductColumns.costPrice).getLast?.or (o.bind Product.costPrice) := by
  induction ps using List.reverseRecOn with
  | nil => rfl
  | append_singleton ps p ih =>
      rw [applyAll_concat, apply_productColumns, Option.bind_some, ih, List.filterMap_append]
      cases hcost : p.costPrice with
      | none => simp [hcost]
      | some cost => simp [hcost]

section

variable {supplier : ℕ} {productsData : List PyValue}
  (h : ∀ productData ∈ productsData, RecordSucceeds column productData supplier .store)

include h

/-- The product writes of a file for one SKU are those of the records that name it. -/
lemma patchesAt_productLog (sku : String) :
    patchesAt sku (productLog (fileWrites column supplier productsData)) =
      (recordsOf sku productsData).filterMap fun productData =>
        (stored column productData supplier).map Prod.snd := by
  induction productsData with
  | nil => rfl
  | cons productData productsData ih =>
      obtain ⟨sku', columns, hmerges⟩ := exists_merges (h productData List.mem_cons_self)
      have hlog : productLog (fileWrites column supplier (productData :: productsData)) =
          (sku', columns) :: productLog (fileWrites column supplier productsData) := by
        rw [fileWrites, List.flatMap_cons, productLog, List.filterMap_append]
        rw [show List.filterMap _ (recordWrites column productData supplier .store) = _ from
          productLog_recordWrites column productData supplier .store, if_pos rfl, hmerges.stored]
        rfl
      have htail := ih fun d hd => h d (List.mem_cons_of_mem _ hd)
      rw [hlog, patchesAt_cons, htail]
      unfold recordsOf
      rw [List.filter_cons, hmerges.sku]
      by_cases hsku : sku' = sku
      · simp [hsku, hmerges.stored]
      · simp [hsku]

/-- The assignments of a file to one attribute of one SKU are those of the records that name
the SKU. -/
lemma patchesAt_valueLog (sku name : String) :
    patchesAt (sku, name) (valueLog (fileWrites column supplier productsData)) =
      ((recordsOf sku productsData).flatMap (assignedValues name)).map Overwrite.mk := by
  induction productsData with
  | nil => rfl
  | cons productData productsData ih =>
      obtain ⟨sku', columns, hmerges⟩ := exists_merges (h productData List.mem_cons_self)
      -- the head writes the attributes of its own SKU
      have hlog : valueLog (fileWrites column supplier (productData :: productsData)) =
          ((assignments productData).map fun nv => ((sku', nv.1), ⟨nv.2⟩)) ++
            valueLog (fileWrites column supplier productsData) := by
        rw [fileWrites, List.flatMap_cons, valueLog, List.filterMap_append]
        rw [show List.filterMap _ (recordWrites column productData supplier .store) = _ from
          (logs_recordWrites column productData supplier .store).1, reachedSku, hmerges.stored]
        simp [valueLog, fileWrites]
      have htail := ih fun d hd => h d (List.mem_cons_of_mem _ hd)
      have hassigned := hmerges.assigned name
      unfold writtenValues at hassigned
      rw [hlog, patchesAt_append, htail, patchesAt_assigned, hassigned]
      unfold recordsOf
      rw [List.filter_cons, hmerges.sku]
      by_cases hsku : sku' = sku
      · simp [hsku]
      · simp [hsku]

/-! ## The import computes the merge -/

/-- The columns the records with one SKU write, last to first. -/
lemma lookup_products_fileWrites (c : Catalogue κ) (sku : String) :
    (c.writeAll (fileWrites column supplier productsData)).products.lookup sku =
      applyAll ((recordsOf sku productsData).filterMap fun productData =>
        (stored column productData supplier).map Prod.snd) (c.products.lookup sku) := by
  rw [Catalogue.products_writeAll, lookup_replay]
  exact congrArg (applyAll · _) (patchesAt_productLog h sku)

lemma succeeds_of_mem_recordsOf {sku : String} {productData : PyValue}
    (hmem : productData ∈ recordsOf sku productsData) :
    ∃ columns, Merges column supplier productData sku columns := by
  obtain ⟨hmem, hsku⟩ := List.mem_filter.mp hmem
  obtain ⟨sku', columns, hmerges⟩ := exists_merges (h productData hmem)
  have heq : sku' = sku := Option.some.inj (hmerges.sku.symm.trans (of_decide_eq_true hsku))
  exact ⟨columns, heq ▸ hmerges⟩

/-- The cost price of a product after the file. -/
lemma costPrice_fileWrites (c : Catalogue κ) (sku : String) :
    ((c.writeAll (fileWrites column supplier productsData)).products.lookup sku).bind
        Product.costPrice =
      (((recordsOf sku productsData).filter carriesCost).filterMap fun productData =>
        (stored column productData supplier).bind fun p => p.2.costPrice).getLast?.or
        ((c.products.lookup sku).bind Product.costPrice) := by
  have hmerges : ∀ d ∈ recordsOf sku productsData,
      ∃ columns, Merges column supplier d sku columns := fun _ hd => succeeds_of_mem_recordsOf h hd
  rw [lookup_products_fileWrites h, costPrice_applyAll]
  congr 2
  generalize recordsOf sku productsData = ds at hmerges
  induction ds with
  | nil => rfl
  | cons d ds ih =>
      obtain ⟨columns, hd⟩ := hmerges d List.mem_cons_self
      have htail := ih fun e he => hmerges e (List.mem_cons_of_mem _ he)
      rcases hd.cost with ⟨hcarries, hcost⟩ | ⟨hcarries, v, cost, cents, -, -, -, hcost⟩
      · simp [hd.stored, hcarries, hcost, htail]
      · simp [hd.stored, hcarries, hcost, htail]

/-- The last record with a SKU describes the product. -/
lemma describes_fileWrites (c : Catalogue κ) {sku : String} {productData : PyValue}
    (hlast : (recordsOf sku productsData).getLast? = some productData) :
    ∃ p, (c.writeAll (fileWrites column supplier productsData)).products.lookup sku = some p ∧
      p.supplier = supplier ∧ Describes column productData p.toProductFields := by
  obtain ⟨columns, hmerges⟩ := succeeds_of_mem_recordsOf h (List.mem_of_getLast? hlast)
  obtain ⟨earlier, hrecords⟩ := List.getLast?_eq_some_iff.mp hlast
  rw [lookup_products_fileWrites h, hrecords, List.filterMap_append]
  simp only [List.filterMap_cons, hmerges.stored, Option.map_some, List.filterMap_nil]
  rw [applyAll_concat]
  exact ⟨_, rfl, hmerges.supplier, hmerges.describes⟩

/-- A SKU that a record names has a product after the file. -/
lemma exists_product_fileWrites (c : Catalogue κ) {sku : String} {productData : PyValue}
    (hmem : productData ∈ recordsOf sku productsData) :
    ∃ p, (c.writeAll (fileWrites column supplier productsData)).products.lookup sku =
      some p := by
  obtain ⟨last, hlast⟩ := Option.isSome_iff_exists.mp
    (List.getLast?_isSome.mpr (List.ne_nil_of_mem hmem))
  obtain ⟨p, hp, -⟩ := describes_fileWrites h c hlast
  exact ⟨p, hp⟩

/-- The last record with a SKU and a cost gives the cost price. -/
lemma cost_fileWrites (c : Catalogue κ) {sku : String} {productData : PyValue}
    (hlast : ((recordsOf sku productsData).filter carriesCost).getLast? = some productData) :
    ∃ p v cost cents,
      (c.writeAll (fileWrites column supplier productsData)).products.lookup sku = some p ∧
      givenCost productData = .ok (some v) ∧ v.toDecimal = .ok cost ∧
      column.save cost = .ok cents ∧ p.costPrice = some cents := by
  have hrecord := List.mem_filter.mp (List.mem_of_getLast? hlast)
  obtain ⟨columns, hmerges⟩ := succeeds_of_mem_recordsOf h hrecord.1
  obtain ⟨p, hp⟩ := exists_product_fileWrites h c hrecord.1
  rcases hmerges.cost with ⟨hcarries, -⟩ | ⟨-, v, cost, cents, hgiven, hdecimal, hcents, hcost⟩
  · rw [hcarries] at hrecord
    cases hrecord.2
  · have hprice := costPrice_fileWrites h c sku
    obtain ⟨earlier, hrecords⟩ := List.getLast?_eq_some_iff.mp hlast
    rw [hp, hrecords, List.filterMap_append] at hprice
    simp only [List.filterMap_cons, hmerges.stored, Option.bind_some, hcost,
      List.filterMap_nil, List.getLast?_concat, Option.some_or] at hprice
    exact ⟨p, v, cost, cents, hp, hgiven, hdecimal, hcents, hprice⟩

theorem isMerge_fileWrites (c : Catalogue κ) :
    IsMerge column supplier productsData c
      (c.writeAll (fileWrites column supplier productsData)) where
  isSome := by
    intro productData hmem
    obtain ⟨sku, columns, hmerges⟩ := exists_merges (h productData hmem)
    obtain ⟨p, hp⟩ := exists_product_fileWrites h c
      (List.mem_filter.mpr ⟨hmem, decide_eq_true hmerges.sku⟩)
    exact ⟨sku, hmerges.sku, by rw [hp]; rfl⟩
  fields := fun _ _ hlast => describes_fileWrites h c hlast
  cost := fun _ _ hlast => cost_fileWrites h c hlast
  cost_kept := by
    intro sku p hnone hp
    have hprice := costPrice_fileWrites h c sku
    rw [hp, hnone] at hprice
    exact hprice
  values := by
    intro sku name
    rw [Catalogue.values_writeAll, lookup_replay]
    show applyAll (patchesAt (sku, name) (valueLog (fileWrites column supplier productsData))) _ = _
    rw [patchesAt_valueLog h, applyAll_overwrite, List.getLast?_map, Option.map_map]
    exact congrArg (Option.or · _) Option.map_id'
  others := by
    intro sku hnone
    rw [lookup_products_fileWrites h, hnone]
    rfl

end

/-- An import that reports no failure had only records that succeed. -/
lemma recordSucceeds_of_failedCount_eq_zero (hreads : ∀ cell, column.Reads cell) {supplier : ℕ}
    {fileFormat : FileFormat} {strExc : PyErr → String} {fileName : String}
    {productsData : List PyValue} {db : ImportDb κ} {response : ImportResponse}
    (hok : (importProducts column strExc supplier fileName fileFormat true productsData db).1 =
      .ok response) (hfailed : response.failedCount = 0) :
    ∀ productData ∈ productsData, RecordSucceeds column productData supplier .store := by
  have hends := importProducts_ok_iff.mp ⟨response, hok⟩
  obtain ⟨response', log, himport, hsuccess, htotal, -⟩ := importProducts_of_reportable column
    supplier true fileFormat strExc fileName (fun d hd => (hends d hd).1)
    (fun d hd => (hends d hd).2) db
  rw [himport] at hok
  cases Except.ok.inj hok
  rw [successes_update hreads] at hsuccess
  have hall : productsData.countP (fun d => RecordSucceeds column d supplier .store) =
      productsData.length := by omega
  intro d hd
  exact of_decide_eq_true (List.countP_eq_length.mp hall d hd)

/-- **What an import leaves behind.**  When every record succeeds, the catalogue is the merge
of the file into the catalogue before.  The columns of the prices round to two places and raise
when there are too many digits. -/
theorem importProducts_isMerge (strExc : PyErr → String) (supplier : ℕ) (fileName : String)
    (fileFormat : FileFormat) (productsData : List PyValue) (db : ImportDb Price)
    (response : ImportResponse)
    (hok : (importProducts (.strict 10) strExc supplier fileName fileFormat true productsData
      db).1 = .ok response) (hfailed : response.failedCount = 0) :
    IsMerge (.strict 10) supplier productsData db.catalogue
      (importProducts (.strict 10) strExc supplier fileName fileFormat true productsData
        db).2.catalogue := by
  have hreads := fun cell : Price => DecimalColumn.strict_reads cell
  have hsucceeds := recordSucceeds_of_failedCount_eq_zero hreads hok hfailed
  have hends := importProducts_ok_iff.mp ⟨response, hok⟩
  rw [catalogue_importProducts (fun d hd => (hends d hd).1), afterRecords_update hreads]
  exact isMerge_fileWrites hsucceeds db.catalogue

/-- A file with one SKU twice, a cost in its first record and attributes in both. -/
theorem importProducts_isMerge_repeated :
    let productsData : List PyValue :=
      [.mapping [("sku", .str "A"), ("name", .str "Cup"), ("price", .str "5.005"),
          ("stock_quantity", .str "3"), ("cost_price", .int 2),
          ("attributes", .str "color:red; size:L")] "",
        .mapping [("sku", .str "A"), ("name", .str "Mug"), ("price", .int 7),
          ("stock_quantity", .int 4), ("attributes", .str "color:blue")] ""]
    let db : ImportDb Price := ⟨Catalogue.empty, []⟩
    IsMerge (.strict 10) 7 productsData db.catalogue
      (importProducts (.strict 10) (fun _ => "") 7 "prices.json" .json true productsData
        db).2.catalogue :=
  importProducts_isMerge _ 7 "prices.json" .json _ _
    ⟨"Импорт из JSON завершен", "json", 2, 0, 2, [], none⟩ (by decide +kernel) rfl

end ProductViewSet

end OrdersBackend
