import OrdersBackend.Catalogue.Robustness

/-!
# Imports and the goods that are there already

SKUs are unique over all suppliers, and a record finds its product by the SKU alone.  When it
is that of another supplier's product, an import that updates hands the product over, and in
either mode the record sets the values of the product's attributes.  So does an import that was
told not to update, with whatever product has the SKU.  A row that cannot be read is out of
reach in both modes.

`othersUntouched_iff` says exactly when the goods of other suppliers are left alone, and
`existingUntouched_iff` when all those are that were there before.
-/

namespace OrdersBackend

open Framework Tx

namespace ProductViewSet

variable {κ : Type}

/-- The product is what it was, and so are the values of its attributes. -/
def ProductUntouched (c c' : Catalogue κ) (sku : String) (p : Product κ) : Prop :=
  c'.products.lookup sku = some p ∧
    ∀ name, c'.values.lookup (sku, name) = c.values.lookup (sku, name)

/-- Every product that was there is what it was, values included, and what is there now has been
there or has a new SKU. -/
def ExistingUntouched (c c' : Catalogue κ) : Prop :=
  (∀ sku p, c.products.lookup sku = some p → ProductUntouched c c' sku p) ∧
    ∀ sku p, c'.products.lookup sku = some p →
      c.products.lookup sku = some p ∨ c.products.lookup sku = none

/-- Every product of another supplier is what it was, and so are the values of its
attributes. -/
def OthersUntouched (supplier : ℕ) (c c' : Catalogue κ) : Prop :=
  ∀ sku p, c.products.lookup sku = some p → p.supplier ≠ supplier →
    c'.products.lookup sku = some p ∧
      ∀ name, c'.values.lookup (sku, name) = c.values.lookup (sku, name)

/-- No record of the file reaches for the product `sku`: its row cannot be read; or none of them
stores it, when the import updates; or the last value they assign to each of its attributes is
the one it has. -/
def LeavesAlone (column : DecimalColumn κ) (supplier : ℕ) (updateExisting : Bool)
    (productsData : List PyValue) (c : Catalogue κ) (sku : String) : Prop :=
  match rowTurn column updateExisting (c.products.lookup sku) with
  | .raise _ => True
  | .store =>
    ∀ productData ∈ productsData, ∀ columns,
      stored column productData supplier ≠ some (sku, columns)
  | .keep =>
    ∀ name v, ((productsData.filter fun d => reachedSku column d supplier .keep = some sku).flatMap
      (writtenValues name)).getLast? = some v → c.values.lookup (sku, name) = some v

/-- What is there afterwards follows from what becomes of the products that were there. -/
lemma existingUntouched_iff_forall {c c' : Catalogue κ} :
    ExistingUntouched c c' ↔
      ∀ sku p, c.products.lookup sku = some p → ProductUntouched c c' sku p := by
  refine and_iff_left_of_imp fun h sku p hp => ?_
  rcases hlookup : c.products.lookup sku with _ | q
  · exact .inr rfl
  · rw [(h sku q hlookup).1] at hp
    exact .inl hp

/-! ## Taking a product over -/

section

variable {column : DecimalColumn κ} {supplier : ℕ} {updateExisting : Bool} {sku : String}
  {productsData : List PyValue} {c : Catalogue κ}

/-- A product of the supplier stays his own. -/
lemma supplier_afterRecords
    (h : ∃ p, c.products.lookup sku = some p ∧ p.supplier = supplier) :
    ∃ p, (afterRecords column supplier updateExisting c productsData).products.lookup sku =
        some p ∧ p.supplier = supplier := by
  induction productsData generalizing c with
  | nil => exact h
  | cons productData productsData ih =>
      apply ih
      by_cases hturn : recordTurn column updateExisting c productData = .store
      · unfold afterRecord
        rw [hturn]
        by_cases hstored : ∃ columns, stored column productData supplier = some (sku, columns)
        · obtain ⟨columns, hstored⟩ := hstored
          rw [lookup_products_recordWrites c hstored]
          exact ⟨_, rfl, (describes_of_stored hstored).1⟩
        · push Not at hstored
          rw [lookup_products_recordWrites_of_ne c hstored]
          exact h
      · unfold afterRecord
        rw [products_recordWrites_of_ne_store c productData supplier hturn]
        exact h

/-- The first record that stores a product makes it the supplier's. -/
lemma supplier_afterRecords_of_stored
    (hturn : rowTurn column updateExisting (c.products.lookup sku) = .store)
    (h : ∃ productData ∈ productsData, ∃ columns,
      stored column productData supplier = some (sku, columns)) :
    ∃ p, (afterRecords column supplier updateExisting c productsData).products.lookup sku =
        some p ∧ p.supplier = supplier := by
  induction productsData generalizing c with
  | nil =>
      obtain ⟨_, hmem, -⟩ := h
      cases hmem
  | cons productData productsData ih =>
      rw [afterRecords_cons]
      by_cases hstored : ∃ columns, stored column productData supplier = some (sku, columns)
      · obtain ⟨columns, hstored⟩ := hstored
        apply supplier_afterRecords
        exact ⟨_, lookup_products_afterRecord hstored hturn, (describes_of_stored hstored).1⟩
      · have htail : ∃ d ∈ productsData, ∃ columns,
            stored column d supplier = some (sku, columns) := by
          obtain ⟨d, hmem, hd⟩ := h
          rcases List.mem_cons.mp hmem with rfl | hmem
          · exact absurd hd hstored
          · exact ⟨d, hmem, hd⟩
        push Not at hstored
        -- a record that does not store the product leaves its row
        exact ih (by rw [lookup_products_afterRecord_of_ne hstored, hturn]) htail

/-- A file that does not store the product assigns it no values where it is to be stored. -/
lemma filter_reachedSku_eq_nil
    (h : ∀ d ∈ productsData, ∀ columns, stored column d supplier ≠ some (sku, columns)) :
    (productsData.filter fun d => reachedSku column d supplier .store = some sku) = [] := by
  rw [List.filter_eq_nil_iff]
  intro d hd hreached
  obtain ⟨⟨sku', columns⟩, hstored, heq⟩ := Option.map_eq_some_iff.mp (of_decide_eq_true hreached)
  cases heq
  exact h d hd columns hstored

/-- What becomes of a product that is another supplier's, or that the import does not update:
it is left alone exactly when no record reaches for it. -/
lemma productUntouched_afterRecords_iff {p : Product κ} (hp : c.products.lookup sku = some p)
    (hmode : updateExisting = true → p.supplier ≠ supplier) :
    ProductUntouched c (afterRecords column supplier updateExisting c productsData) sku p ↔
      LeavesAlone column supplier updateExisting productsData c sku := by
  unfold LeavesAlone
  rw [hp]
  have hkept : rowTurn column updateExisting (some p) ≠ .store →
      rowTurn column updateExisting (some p) = .store → ∀ d ∈ productsData, ∀ columns,
        stored column d supplier ≠ some (sku, columns) := fun hne heq => absurd heq hne
  cases hturn : rowTurn column updateExisting (some p) with
  | raise e =>
      -- no record gets past the row
      obtain ⟨hproduct, hvalues⟩ := afterRecords_of_row_kept hp (hkept (by simp [hturn]))
      refine iff_of_true ⟨hproduct, fun name => ?_⟩ trivial
      rw [hvalues name, hturn]
      simp [reachedSku]
  | keep =>
      -- the row stays, and the last assignments decide the values
      obtain ⟨hproduct, hvalues⟩ := afterRecords_of_row_kept hp (hkept (by simp [hturn]))
      refine (and_iff_right hproduct).trans (forall_congr' fun name => ?_)
      rw [hvalues name, hturn, or_eq_self_iff]
  | store =>
      constructor
      · -- a record that stores the product would take it over
        rintro ⟨hproduct, -⟩ productData hmem columns hstored
        obtain ⟨p', hp', hsupplier⟩ := supplier_afterRecords_of_stored (c := c)
          (by rw [hp, hturn]) ⟨productData, hmem, columns, hstored⟩
        rw [hproduct] at hp'
        cases hp'
        have hupdates := ((rowTurn_eq_store_iff column updateExisting (some p)).mp hturn p rfl).2
        exact hmode hupdates hsupplier
      · intro h
        obtain ⟨hproduct, hvalues⟩ := afterRecords_of_row_kept hp fun _ => h
        refine ⟨hproduct, fun name => ?_⟩
        rw [hvalues name, hturn, filter_reachedSku_eq_nil h]
        rfl

end

/-! ## The whole import -/

/-- What an import does to one product that is another supplier's, or that it was told not to
update. -/
lemma productUntouched_importProducts_iff (column : DecimalColumn κ) (strExc : PyErr → String)
    {supplier : ℕ} (fileName : String) (fileFormat : FileFormat) {updateExisting : Bool}
    (productsData : List PyValue) (db : ImportDb κ) {sku : String} {p : Product κ}
    (hp : db.catalogue.products.lookup sku = some p)
    (hmode : updateExisting = true → p.supplier ≠ supplier) :
    ProductUntouched db.catalogue (importProducts column strExc supplier fileName fileFormat
        updateExisting productsData db).2.catalogue sku p ↔
      (∃ productData ∈ productsData, ¬ (Checkable productData ∧ SkuPrints productData)) ∨
        LeavesAlone column supplier updateExisting productsData db.catalogue sku := by
  simp only [← processable_iff_checkable]
  by_cases hraises : ∃ productData ∈ productsData, ¬ Processable productData
  · obtain ⟨e, himport⟩ := importProducts_of_not_processable column supplier updateExisting
      fileFormat strExc fileName hraises db
    rw [himport]
    exact ⟨fun _ => .inl hraises, fun _ => ⟨hp, fun name => rfl⟩⟩
  · have hends : ∀ productData ∈ productsData, Processable productData := by
      push Not at hraises
      exact hraises
    rw [catalogue_importProducts hends, or_iff_right hraises]
    exact productUntouched_afterRecords_iff hp hmode

/-- **When an import touches other suppliers' goods.**  It leaves them all alone exactly when
its transaction raises, and so is rolled back, or its records reach for none of them. -/
theorem othersUntouched_iff (column : DecimalColumn κ) (strExc : PyErr → String) (supplier : ℕ)
    (fileName : String) (fileFormat : FileFormat) (updateExisting : Bool)
    (productsData : List PyValue) (db : ImportDb κ) :
    OthersUntouched supplier db.catalogue
        (importProducts column strExc supplier fileName fileFormat updateExisting productsData
          db).2.catalogue ↔
      (∃ productData ∈ productsData, ¬ (Checkable productData ∧ SkuPrints productData)) ∨
        ∀ sku p, db.catalogue.products.lookup sku = some p → p.supplier ≠ supplier →
          LeavesAlone column supplier updateExisting productsData db.catalogue sku := by
  simp only [← forall_or_left]
  exact forall₄_congr fun sku p hp hother => productUntouched_importProducts_iff column strExc
    fileName fileFormat productsData db hp fun _ => hother

/-- The supplier `2` imports a record with the SKU of a product of the supplier `1`. -/
theorem not_othersUntouched_of_same_sku :
    let cup : Product PyDecimal :=
      { supplier := 1, category := "Dishes", name := "Cup", description := "",
        price := .finite false 5 0, stockQuantity := 3, minOrderQuantity := 1, unit := "шт",
        isActive := true, costPrice := none }
    let c : Catalogue PyDecimal :=
      { categories := ∅, attributes := ∅, products := Finmap.singleton "A" cup, values := ∅ }
    let productsData : List PyValue :=
      [.mapping [("sku", .str "A"), ("name", .str "Mug"), ("price", .int 7),
        ("stock_quantity", .int 4)] ""]
    ¬ OthersUntouched 2 c
      (importProducts (.late 10) (fun _ => "") 2 "prices.json" .json true productsData
        ⟨c, []⟩).2.catalogue := by
  intro cup c productsData huntouched
  have hcup : c.products.lookup "A" = some cup := by decide +kernel
  have hmoved : ((importProducts (.late 10) (fun _ => "") 2 "prices.json" .json true productsData
      ⟨c, []⟩).2.catalogue.products.lookup "A").map (·.supplier) = some 2 := by decide +kernel
  obtain ⟨hkept, -⟩ := huntouched "A" cup hcup (by decide)
  rw [hkept] at hmoved
  exact absurd hmoved (by decide)

/-- **When an import that was told not to update updates.**  It leaves the products that were
there alone exactly when its transaction raises, or when every value that it assigns last to an
attribute of one of them is the value that the attribute has. -/
theorem existingUntouched_iff (column : DecimalColumn κ) (strExc : PyErr → String) (supplier : ℕ)
    (fileName : String) (fileFormat : FileFormat) (productsData : List PyValue)
    (db : ImportDb κ) :
    ExistingUntouched db.catalogue
        (importProducts column strExc supplier fileName fileFormat false productsData
          db).2.catalogue ↔
      (∃ productData ∈ productsData, ¬ (Checkable productData ∧ SkuPrints productData)) ∨
        ∀ sku p, db.catalogue.products.lookup sku = some p →
          LeavesAlone column supplier false productsData db.catalogue sku := by
  simp only [← forall_or_left]
  rw [existingUntouched_iff_forall]
  exact forall₃_congr fun sku p hp => productUntouched_importProducts_iff column strExc fileName
    fileFormat productsData db hp fun h => absurd h Bool.false_ne_true

/-- A record with the SKU of a product writes the attribute that it names, although the import
does not update. -/
theorem not_existingUntouched_of_attribute :
    let cup : Product PyDecimal :=
      { supplier := 1, category := "Dishes", name := "Cup", description := "",
        price := .finite false 5 0, stockQuantity := 3, minOrderQuantity := 1, unit := "шт",
        isActive := true, costPrice := none }
    let c : Catalogue PyDecimal :=
      { categories := Finmap.singleton "Dishes" { description := "", parent := none }
        attributes := Finmap.singleton "size" { description := "" }
        products := Finmap.singleton "A" cup
        values := Finmap.singleton ("A", "size") "42" }
    let productsData : List PyValue :=
      [.mapping [("sku", .str "A"), ("name", .str "Cup"), ("price", .int 5),
        ("stock_quantity", .int 3), ("attributes", .mapping [("size", .str "43")] "")] ""]
    ¬ ExistingUntouched c
      (importProducts (.late 10) (fun _ => "") 1 "prices.json" .json false productsData
        ⟨c, []⟩).2.catalogue := by
  intro cup c productsData huntouched
  have hcup : c.products.lookup "A" = some cup := by decide +kernel
  have hsize : c.values.lookup ("A", "size") = some "42" := by decide +kernel
  -- the import has written the size of a product that it keeps
  have hwritten : (importProducts (.late 10) (fun _ => "") 1 "prices.json" .json false productsData
      ⟨c, []⟩).2.catalogue.values.lookup ("A", "size") = some "43" := by decide +kernel
  have hkept := (huntouched.1 "A" cup hcup).2 "size"
  rw [hsize, hwritten] at hkept
  exact absurd hkept (by decide)

end ProductViewSet

end OrdersBackend
