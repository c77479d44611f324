import OrdersBackend.Catalogue.Failures
import OrdersBackend.Catalogue.Robustness
import OrdersBackend.Catalogue.ScalarRecords

/-!
# The same record in two formats

A record of scalars can be written into a JSON or YAML file, where its values keep their types,
or into a CSV file, where they are texts.  `ImportsAgree` compares the import of a file in the
format its request selects with that of the CSV file.

The two differ in the fields that the program tests for truth or hands to `int`: a quantity of
zero is a missing field in one of them and a number in the other, a truth value or a fraction
is a quantity in one of them only, a cost of zero is no cost or the cost zero.  And a request
that names the format `yml` is refused, although the extension selects the YAML parser.
`importsAgree_iff` says exactly when the two imports agree.
-/

namespace OrdersBackend

open Framework Tx

namespace ProductViewSet

variable {κ : Type}

/-! ## The format of a file -/

/-- The choices of `ProductImportSerializer.format`. -/
inductive FormatChoice
  | auto
  | csv
  | json
  | yaml
  | yml
  deriving DecidableEq, Repr

def FormatChoice.name : FormatChoice → String
  | auto => "auto"
  | csv => "csv"
  | json => "json"
  | yaml => "yaml"
  | yml => "yml"

/-- `format_mapping`. -/
def formatMapping : List (List Char × String) :=
  [("csv".toList, "csv"), ("json".toList, "json"), ("yaml".toList, "yaml"),
   ("yml".toList, "yaml")]

/-- `_detect_format`. -/
def detectFormat (fileName : String) (specifiedFormat : FormatChoice) : String :=
  if specifiedFormat.name ≠ "auto" then specifiedFormat.name
  else
    let ext := ((Python.lower fileName.toList).splitOn '.').getLast?.getD []
    (formatMapping.lookup ext).getD "csv"

/-- The parser of a detected format. -/
def parserOf (fileFormat : String) : Option FileFormat :=
  [FileFormat.csv, .json, .yaml].find? fun f => f.name = fileFormat

/-- The answers of `import_products`. -/
inductive ImportAnswer
  | badRequest (error : String)
  | imported (response : ImportResponse)
  deriving DecidableEq, Repr

/-- `import_products` of a supplier; `parsed` is what the parser of a format returns. -/
def importFile (column : DecimalColumn κ) (strExc : PyErr → String) (supplier : ℕ)
    (fileName : String) (specifiedFormat : FormatChoice) (updateExisting : Bool)
    (parsed : FileFormat → List PyValue) : Tx (ImportDb κ) PyErr ImportAnswer := do
  let fileFormat := detectFormat fileName specifiedFormat
  match parserOf fileFormat with
  | none => return .badRequest ("Неподдерживаемый формат файла: " ++ fileFormat ++
      ". Поддерживаются: csv, json, yaml")
  | some parser => do
    let response ← importProducts column strExc supplier fileName parser updateExisting
      (parsed parser)
    return .imported response

/-! ## The two imports -/

/-- What the parser of a format makes of the file with the record. -/
def writtenRecord (fields : List (String × Scalar)) : FileFormat → List PyValue
  | .csv => [csvRow fields]
  | .json | .yaml => [nativeRecord fields]

/-- The success flag of the one record of a file; an import that is refused or raises has
none. -/
def successFlag : Except PyErr ImportAnswer → Option Bool
  | .ok (.imported response) => some (response.successCount = 1)
  | .ok (.badRequest _) | .error _ => none

/-- The success flag and the catalogue after the import of a record in a format. -/
def importEffect (column : DecimalColumn κ) (strExc : PyErr → String) (supplier : ℕ)
    (fileName : String) (specifiedFormat : FormatChoice) (updateExisting : Bool)
    (fields : List (String × Scalar)) (db : ImportDb κ) : Option Bool × Catalogue κ :=
  let result := importFile column strExc supplier fileName specifiedFormat updateExisting
    (writtenRecord fields) db
  (successFlag result.1, result.2.catalogue)

/-- The import of the file in the selected format and that of the CSV file give the same
success flag and leave the same catalogue. -/
def ImportsAgree (column : DecimalColumn κ) (strExc : PyErr → String) (supplier : ℕ)
    (fileName : String) (specifiedFormat : FormatChoice) (updateExisting : Bool)
    (fields : List (String × Scalar)) (db : ImportDb κ) : Prop :=
  importEffect column strExc supplier fileName specifiedFormat updateExisting fields db =
    importEffect column strExc supplier fileName .csv updateExisting fields db

/-! ## When they agree -/

/-- What the two spellings of a record must have in common: both stop the import or none does,
and when the validation accepts one of them, both leave the same rows. -/
structure RecordsAgree (column : DecimalColumn κ) (fields : List (String × Scalar))
    (supplier : ℕ) (updateExisting : Bool) (c : Catalogue κ) : Prop where
  checkable : Checkable (nativeRecord fields) ↔ Checkable (csvRow fields)
  /-- Both are accepted: the least quantity converts in both spellings, or the product is not
  reached anyway; a cost of zero is not stored, or what the column makes of it is stored
  already. -/
  both : recordErrors (nativeRecord fields) = .ok [] → recordErrors (csvRow fields) = .ok [] →
    (OnlyNativeMinimum fields → reachedSku column (nativeRecord fields) supplier
      (recordTurn column updateExisting c (nativeRecord fields)) = none) ∧
    (ZeroCost fields → recordTurn column updateExisting c (nativeRecord fields) = .store →
      ∀ sku columns, stored column (nativeRecord fields) supplier = some (sku, columns) →
        ∃ cell, costColumn column (costOf Scalar.cell fields) = .ok (some cell) ∧
          (c.products.lookup sku).bind Product.costPrice = some cell)
  /-- One of them is accepted: it does not reach its product, and its category is there. -/
  native : recordErrors (nativeRecord fields) = .ok [] → recordErrors (csvRow fields) ≠ .ok [] →
    reachedSku column (nativeRecord fields) supplier
        (recordTurn column updateExisting c (nativeRecord fields)) = none ∧
      (c.categories.lookup (categoryName fields)).isSome
  row : recordErrors (csvRow fields) = .ok [] → recordErrors (nativeRecord fields) ≠ .ok [] →
    reachedSku column (csvRow fields) supplier
        (recordTurn column updateExisting c (csvRow fields)) = none ∧
      (c.categories.lookup (categoryName fields)).isSome

section

variable (column : DecimalColumn κ) (strExc : PyErr → String) (supplier : ℕ) {fileName : String}
  {specifiedFormat : FormatChoice} (updateExisting : Bool) {fields : List (String × Scalar)}
  (db : ImportDb κ)

/-- The import of a file with one element that stops no import. -/
lemma importEffect_of_checkable {parser : FileFormat} {productData : PyValue}
    (hparser : parserOf (detectFormat fileName specifiedFormat) = some parser)
    (hwritten : writtenRecord fields parser = [productData]) (h : Checkable productData)
    (hreported : Reportable productData) :
    importEffect column strExc supplier fileName specifiedFormat updateExisting fields db =
      (some (decide (RecordSucceeds column productData supplier
          (recordTurn column updateExisting db.catalogue productData))),
        afterRecord column supplier updateExisting db.catalogue productData) := by
  have hprocessed : ∀ d ∈ [productData], Processable d := by
    intro d hd
    rw [List.mem_singleton.mp hd]
    exact processable_of_reportable ((validatable_iff_checkable productData).mpr h) hreported
  have hreports : ∀ d ∈ [productData], Reportable d := by
    intro d hd
    rw [List.mem_singleton.mp hd]
    exact hreported
  obtain ⟨response, log, himport, hsuccess, -⟩ := importProducts_of_reportable column supplier
    updateExisting parser strExc fileName hprocessed hreports db
  -- one record, so the count is one or zero
  have hcount : (decide (response.successCount = 1)) = decide (RecordSucceeds column productData
      supplier (recordTurn column updateExisting db.catalogue productData)) := by
    rw [hsuccess, successes_cons, successes]
    by_cases hsucceeds : RecordSucceeds column productData supplier
        (recordTurn column updateExisting db.catalogue productData)
    · simp [hsucceeds]
    · simp [hsucceeds]
  unfold importEffect importFile
  simp only [hparser, hwritten]
  rw [bind_of_ok himport, ← hcount]
  rfl

/-- One element that stops the import takes everything back. -/
lemma importEffect_of_not_checkable {parser : FileFormat} {productData : PyValue}
    (hparser : parserOf (detectFormat fileName specifiedFormat) = some parser)
    (hwritten : writtenRecord fields parser = [productData]) (h : ¬ Checkable productData) :
    importEffect column strExc supplier fileName specifiedFormat updateExisting fields db =
      (none, db.catalogue) := by
  have hraises : ∃ d ∈ [productData], ¬ Processable d :=
    ⟨productData, List.mem_singleton_self _, fun hp =>
      h ((validatable_iff_checkable productData).mp hp.1)⟩
  obtain ⟨e, himport⟩ := importProducts_of_not_processable column supplier updateExisting parser
    strExc fileName hraises db
  unfold importEffect importFile
  simp only [hparser, hwritten]
  rw [bind_of_error himport]
  rfl

/-- A format without a parser is refused. -/
lemma importEffect_unparsed
    (hparser : parserOf (detectFormat fileName specifiedFormat) = none) :
    importEffect column strExc supplier fileName specifiedFormat updateExisting fields db =
      (none, db.catalogue) := by
  unfold importEffect importFile
  simp only [hparser]
  rfl

end

/-- The effect of an element: whether it succeeds, and the catalogue after it. -/
def SameEffect (column : DecimalColumn κ) (productData productData' : PyValue) (supplier : ℕ)
    (updateExisting : Bool) (c : Catalogue κ) : Prop :=
  (RecordSucceeds column productData supplier (recordTurn column updateExisting c productData) ↔
    RecordSucceeds column productData' supplier
      (recordTurn column updateExisting c productData')) ∧
  afterRecord column supplier updateExisting c productData =
    afterRecord column supplier updateExisting c productData'

section

variable {column : DecimalColumn κ} {fields : List (String × Scalar)} {supplier : ℕ}
  {updateExisting : Bool} {c : Catalogue κ}

/-- The tables that two accepted elements leave alike. -/
lemma tables_recordWrites_congr {productData productData' : PyValue} {turn : Turn}
    (c : Catalogue κ) (hvalid : recordErrors productData = .ok [])
    (hvalid' : recordErrors productData' = .ok [])
    (hcategory : recordCategory productData' = recordCategory productData)
    (hassignments : assignments productData' = assignments productData)
    (hnames : attributeNames productData' = attributeNames productData)
    (hreached : reachedSku column productData' supplier turn =
      reachedSku column productData supplier turn) :
    (c.writeAll (recordWrites column productData' supplier turn)).categories =
        (c.writeAll (recordWrites column productData supplier turn)).categories ∧
      (c.writeAll (recordWrites column productData' supplier turn)).attributes =
        (c.writeAll (recordWrites column productData supplier turn)).attributes ∧
      (c.writeAll (recordWrites column productData' supplier turn)).values =
        (c.writeAll (recordWrites column productData supplier turn)).values := by
  have hcategories : categoryLog (recordWrites column productData' supplier turn) =
      categoryLog (recordWrites column productData supplier turn) := by
    rw [categoryLog_recordWrites, categoryLog_recordWrites, writtenCategory, writtenCategory,
      if_pos hvalid, if_pos hvalid', hcategory]
  have hattributes : attributeLog (recordWrites column productData' supplier turn) =
      attributeLog (recordWrites column productData supplier turn) := by
    rw [(logs_recordWrites column productData' supplier turn).2,
      (logs_recordWrites column productData supplier turn).2, hreached, hnames]
  have hvalues : valueLog (recordWrites column productData' supplier turn) =
      valueLog (recordWrites column productData supplier turn) := by
    rw [(logs_recordWrites column productData' supplier turn).1,
      (logs_recordWrites column productData supplier turn).1, hreached, hassignments]
  rw [Catalogue.categories_writeAll, Catalogue.categories_writeAll, Catalogue.attributes_writeAll,
    Catalogue.attributes_writeAll, Catalogue.values_writeAll, Catalogue.values_writeAll]
  exact ⟨congrArg (replay c.categories) hcategories, congrArg (replay c.attributes) hattributes,
    congrArg (replay c.values) hvalues⟩

lemma products_recordWrites_congr {productData productData' : PyValue} (c : Catalogue κ)
    (hstored : stored column productData' supplier = stored column productData supplier) :
    (c.writeAll (recordWrites column productData' supplier .store)).products =
      (c.writeAll (recordWrites column productData supplier .store)).products := by
  have hlog : productLog (recordWrites column productData' supplier .store) =
      productLog (recordWrites column productData supplier .store) := by
    rw [productLog_recordWrites, productLog_recordWrites, hstored]
  rw [Catalogue.products_writeAll, Catalogue.products_writeAll]
  exact congrArg (replay c.products) hlog

/-- Two accepted spellings that reach the same product have the same effect when the product is
not stored, or is stored alike. -/
lemma sameEffect_iff_products (hnative : recordErrors (nativeRecord fields) = .ok [])
    (hrow : recordErrors (csvRow fields) = .ok [])
    (hreached : reachedSku column (csvRow fields) supplier
        (recordTurn column updateExisting c (nativeRecord fields)) =
      reachedSku column (nativeRecord fields) supplier
        (recordTurn column updateExisting c (nativeRecord fields))) :
    SameEffect column (nativeRecord fields) (csvRow fields) supplier updateExisting c ↔
      (recordTurn column updateExisting c (nativeRecord fields) = .store →
        (c.writeAll (recordWrites column (nativeRecord fields) supplier .store)).products =
          (c.writeAll (recordWrites column (csvRow fields) supplier .store)).products) := by
  have htyped := recordSucceeds_recordOf column keepsText_native fields supplier
  have hcell := recordSucceeds_recordOf column keepsText_cell fields supplier
  unfold SameEffect afterRecord
  rw [recordTurn_csvRow, nativeRecord, csvRow, htyped, hcell]
  rw [← nativeRecord, ← csvRow, hreached, and_iff_right Iff.rfl]
  generalize recordTurn column updateExisting c (nativeRecord fields) = turn at hreached ⊢
  -- the other tables are written alike
  have hcategory : recordCategory (csvRow fields) = recordCategory (nativeRecord fields) :=
    (recordCategory_recordOf keepsText_cell fields).trans
      (recordCategory_recordOf keepsText_native fields).symm
  obtain ⟨hcategories, hattributes, hvalues⟩ := tables_recordWrites_congr c hnative hrow hcategory
    (assignments_recordOf keepsText_cell fields) (attributeNames_recordOf keepsText_cell fields)
    hreached
  constructor
  · rintro h rfl
    rw [h]
  · intro hproducts
    refine Catalogue.ext hcategories.symm hattributes.symm ?_ hvalues.symm
    by_cases hturn : turn = .store
    · subst hturn
      exact hproducts rfl
    · rw [products_recordWrites_of_ne_store c _ _ hturn,
        products_recordWrites_of_ne_store c _ _ hturn]

/-- A row that reaches no product differs from a native record that reaches one. -/
lemma not_sameEffect_of_isSome (hnative : (reachedSku column (nativeRecord fields) supplier
      (recordTurn column updateExisting c (nativeRecord fields))).isSome)
    (hrow : reachedSku column (csvRow fields) supplier
      (recordTurn column updateExisting c (nativeRecord fields)) = none) :
    ¬ SameEffect column (nativeRecord fields) (csvRow fields) supplier updateExisting c := by
  rintro ⟨hflags, -⟩
  rw [recordTurn_csvRow, csvRow, recordSucceeds_recordOf column keepsText_cell, ← csvRow, hrow,
    nativeRecord, recordSucceeds_recordOf column keepsText_native, ← nativeRecord] at hflags
  cases hflags.mp hnative

lemma reachedSku_eq_none {productData : PyValue}
    (h : prepared productData supplier = none) (column : DecimalColumn κ) (turn : Turn) :
    reachedSku column productData supplier turn = none := by
  unfold reachedSku stored
  rw [h]
  cases turn <;> rfl

lemma stored_eq_none {productData : PyValue}
    (h : reachedSku column productData supplier .store = none) :
    stored column productData supplier = none :=
  Option.map_eq_none_iff.mp h

/-- The text of the least quantity does not convert, so that the row reaches no product. -/
lemma sameEffect_of_onlyNativeMinimum (hnative : recordErrors (nativeRecord fields) = .ok [])
    (hrow : recordErrors (csvRow fields) = .ok []) (hmin : OnlyNativeMinimum fields) :
    SameEffect column (nativeRecord fields) (csvRow fields) supplier updateExisting c ↔
      reachedSku column (nativeRecord fields) supplier
        (recordTurn column updateExisting c (nativeRecord fields)) = none := by
  have hcell : ∀ turn, reachedSku column (csvRow fields) supplier turn = none :=
    reachedSku_eq_none (prepared_csvRow_eq_none hnative hrow supplier hmin) column
  constructor
  · intro hsame
    by_contra hreached
    exact not_sameEffect_of_isSome (Option.isSome_iff_ne_none.mpr hreached) (hcell _) hsame
  · intro htyped
    rw [sameEffect_iff_products hnative hrow ((hcell _).trans htyped.symm)]
    intro hstore
    rw [hstore] at htyped
    exact (products_recordWrites_congr c
      ((stored_eq_none (hcell .store)).trans (stored_eq_none htyped).symm)).symm

/-- A cost of zero leaves the products alike when it is stored already. -/
lemma products_csvRow_eq_iff {sku : String} {columns : ProductColumns κ} {cell : κ}
    (htyped : stored column (nativeRecord fields) supplier = some (sku, columns))
    (hnone : columns.costPrice = none)
    (hstored : stored column (csvRow fields) supplier =
      some (sku, { columns with costPrice := some cell })) :
    (c.writeAll (recordWrites column (nativeRecord fields) supplier .store)).products =
        (c.writeAll (recordWrites column (csvRow fields) supplier .store)).products ↔
      (c.products.lookup sku).bind Product.costPrice = some cell := by
  constructor
  · -- the rows of the SKU differ in the cost price at most
    intro h
    have hlookup := congrArg (fun products => products.lookup sku) h
    simp only [lookup_products_recordWrites c htyped, lookup_products_recordWrites c hstored,
      apply_productColumns, hnone, Option.none_or, Option.some.injEq, Product.mk.injEq,
      Option.some_or, true_and] at hlookup
    exact hlookup
  · intro hcost
    refine Finmap.ext_lookup fun sku' => ?_
    by_cases hsku : sku = sku'
    · subst hsku
      rw [lookup_products_recordWrites c htyped, lookup_products_recordWrites c hstored,
        apply_productColumns, apply_productColumns, hnone, Option.none_or, hcost]
      rfl
    · have hother : ∀ {productData : PyValue} {columns : ProductColumns κ},
          stored column productData supplier = some (sku, columns) → ∀ columns',
            stored column productData supplier ≠ some (sku', columns') := by
        intro productData columns h columns' h'
        rw [h] at h'
        exact hsku (Prod.mk.inj (Option.some.inj h')).1
      rw [lookup_products_recordWrites_of_ne c (hother htyped),
        lookup_products_recordWrites_of_ne c (hother hstored)]

/-- Where the product is not stored, both spellings get equally far. -/
lemma reachedSku_csvRow (hnative : recordErrors (nativeRecord fields) = .ok [])
    (hrow : recordErrors (csvRow fields) = .ok []) (hmin : ¬ OnlyNativeMinimum fields)
    {turn : Turn} (hturn : turn ≠ .store) :
    reachedSku column (csvRow fields) supplier turn =
      reachedSku column (nativeRecord fields) supplier turn := by
  cases turn with
  | keep => exact prepared_csvRow hnative hrow supplier hmin
  | raise e => rfl
  | store => exact absurd rfl hturn

/-- What is stored alike has the same effect. -/
lemma sameEffect_of_stored_eq (hnative : recordErrors (nativeRecord fields) = .ok [])
    (hrow : recordErrors (csvRow fields) = .ok [])
    (hturn : recordTurn column updateExisting c (nativeRecord fields) = .store)
    (hstored : stored column (csvRow fields) supplier =
      stored column (nativeRecord fields) supplier) :
    SameEffect column (nativeRecord fields) (csvRow fields) supplier updateExisting c := by
  refine (sameEffect_iff_products hnative hrow ?_).mpr fun _ =>
    (products_recordWrites_congr c hstored).symm
  rw [hturn]
  exact congrArg (Option.map Prod.fst) hstored

/-- The row of the file names a cost of zero, which the native record leaves out. -/
lemma sameEffect_iff_of_zeroCost (hnative : recordErrors (nativeRecord fields) = .ok [])
    (hrow : recordErrors (csvRow fields) = .ok []) (hmin : ¬ OnlyNativeMinimum fields)
    (hzero : ZeroCost fields)
    (hturn : recordTurn column updateExisting c (nativeRecord fields) = .store) {sku : String}
    {columns : ProductColumns κ}
    (htyped : stored column (nativeRecord fields) supplier = some (sku, columns)) :
    SameEffect column (nativeRecord fields) (csvRow fields) supplier updateExisting c ↔
      ∃ cell, costColumn column (costOf Scalar.cell fields) = .ok (some cell) ∧
        (c.products.lookup sku).bind Product.costPrice = some cell := by
  obtain ⟨hnone, hstored⟩ := stored_csvRow_of_zeroCost column hnative hrow supplier hmin hzero
  obtain ⟨cost, hcost⟩ := exists_costOf_of_zeroCost hzero hrow
  rw [htyped, Option.bind_some, hcost] at hstored
  rw [hcost]
  have htypedReached : reachedSku column (nativeRecord fields) supplier .store = some sku := by
    unfold reachedSku
    rw [htyped]
    rfl
  rcases hsaved : costColumn column (some cost) with e | cell
  · -- the zero is refused, and the row with it
    rw [hsaved] at hstored
    refine iff_of_false (not_sameEffect_of_isSome ?_ ?_) fun ⟨_, h, _⟩ => nomatch h
    · rw [hturn, htypedReached]
      rfl
    · rw [hturn, reachedSku, hstored]
      rfl
  · -- both are stored, and differ in the cell of the zero
    obtain ⟨zero, -, hzeroCell⟩ := except_bind_eq_ok.mp hsaved
    cases Except.ok.inj hzeroCell
    rw [hsaved] at hstored
    have hreached : reachedSku column (csvRow fields) supplier .store =
        reachedSku column (nativeRecord fields) supplier .store := by
      rw [htypedReached, reachedSku, hstored]
      rfl
    rw [sameEffect_iff_products hnative hrow (by rw [hturn, hreached]),
      forall_prop_of_true hturn, products_csvRow_eq_iff htyped (hnone sku columns htyped) hstored]
    simp only [Except.ok.injEq, Option.some.injEq, exists_eq_left']

/-- Both spellings get equally far, and differ in a cost of zero at most. -/
lemma sameEffect_of_sameMinimum (hnative : recordErrors (nativeRecord fields) = .ok [])
    (hrow : recordErrors (csvRow fields) = .ok []) (hmin : ¬ OnlyNativeMinimum fields) :
    SameEffect column (nativeRecord fields) (csvRow fields) supplier updateExisting c ↔
      (ZeroCost fields → recordTurn column updateExisting c (nativeRecord fields) = .store →
        ∀ sku columns, stored column (nativeRecord fields) supplier = some (sku, columns) →
          ∃ cell, costColumn column (costOf Scalar.cell fields) = .ok (some cell) ∧
            (c.products.lookup sku).bind Product.costPrice = some cell) := by
  by_cases hturn : recordTurn column updateExisting c (nativeRecord fields) = .store
  swap
  · -- the product is not stored
    rw [sameEffect_iff_products hnative hrow (reachedSku_csvRow hnative hrow hmin hturn)]
    exact iff_of_true (fun h => absurd h hturn) fun _ h => absurd h hturn
  by_cases hzero : ZeroCost fields
  swap
  · -- both spellings are stored alike
    have hstored := stored_csvRow column hnative hrow supplier hmin hzero
    exact iff_of_true (sameEffect_of_stored_eq hnative hrow hturn hstored) fun h =>
      absurd h hzero
  rw [forall_prop_of_true hzero, forall_prop_of_true hturn]
  rcases htyped : stored column (nativeRecord fields) supplier with _ | ⟨sku, columns⟩
  · -- neither is stored
    have hnone := (stored_csvRow_of_zeroCost column hnative hrow supplier hmin hzero).2
    rw [htyped, Option.bind_none, ← htyped] at hnone
    exact iff_of_true (sameEffect_of_stored_eq hnative hrow hturn hnone) fun _ _ h => nomatch h
  · rw [sameEffect_iff_of_zeroCost hnative hrow hmin hzero hturn htyped]
    constructor
    · rintro h sku' columns' heq
      cases heq
      exact h
    · exact fun h => h sku columns rfl

/-- Both spellings are accepted. -/
lemma sameEffect_of_both (hnative : recordErrors (nativeRecord fields) = .ok [])
    (hrow : recordErrors (csvRow fields) = .ok []) :
    SameEffect column (nativeRecord fields) (csvRow fields) supplier updateExisting c ↔
      (OnlyNativeMinimum fields → reachedSku column (nativeRecord fields) supplier
        (recordTurn column updateExisting c (nativeRecord fields)) = none) ∧
      (ZeroCost fields → recordTurn column updateExisting c (nativeRecord fields) = .store →
        ∀ sku columns, stored column (nativeRecord fields) supplier = some (sku, columns) →
          ∃ cell, costColumn column (costOf Scalar.cell fields) = .ok (some cell) ∧
            (c.products.lookup sku).bind Product.costPrice = some cell) := by
  by_cases hmin : OnlyNativeMinimum fields
  · rw [sameEffect_of_onlyNativeMinimum hnative hrow hmin]
    constructor
    · intro htyped
      refine ⟨fun _ => htyped, fun _ hstore sku columns hstored => ?_⟩
      rw [hstore] at htyped
      rw [stored_eq_none htyped] at hstored
      cases hstored
    · exact fun h => h.1 hmin
  · rw [sameEffect_of_sameMinimum hnative hrow hmin]
    exact ⟨fun h => ⟨fun hmin' => absurd hmin' hmin, h⟩, fun h => h.2⟩

/-- Only one spelling is accepted: the other one fails and writes nothing. -/
lemma sameEffect_of_one {g : Scalar → PyValue} (hg : KeepsText g) {refused : PyValue}
    (h : recordErrors (recordOf g fields) = .ok []) (hrefused : recordErrors refused ≠ .ok []) :
    SameEffect column (recordOf g fields) refused supplier updateExisting c ↔
      reachedSku column (recordOf g fields) supplier
          (recordTurn column updateExisting c (recordOf g fields)) = none ∧
        (c.categories.lookup (categoryName fields)).isSome := by
  have hfails : ∀ turn, ¬ RecordSucceeds column refused supplier turn :=
    fun turn hs => hrefused hs.1
  -- the refused spelling leaves the catalogue, so the other one must leave it too
  have hunchanged : afterRecord column supplier updateExisting c refused = c := by
    unfold afterRecord
    rw [recordWrites_of_refused hrefused, Catalogue.writeAll_nil]
  unfold SameEffect
  rw [hunchanged, recordSucceeds_recordOf column hg, iff_false_intro (hfails _), iff_false,
    Option.not_isSome_iff_eq_none]
  refine and_congr_right fun hreached => ?_
  unfold afterRecord
  rw [writeAll_recordWrites_eq_self_iff column c _ supplier _ h]
  constructor
  · intro hthere
    exact hthere.category _ (recordCategory_recordOf hg fields)
  · intro hcategory
    refine ⟨fun name hname => ?_, fun hstore sku columns hstored => ?_, fun hsome => ?_,
      fun sku hsku => ?_⟩
    · rw [recordCategory_recordOf hg] at hname
      rw [← Option.some.inj hname]
      exact hcategory
    · rw [hstore] at hreached
      rw [stored_eq_none hreached] at hstored
      cases hstored
    · rw [hreached] at hsome
      cases hsome
    · rw [hreached] at hsku
      cases hsku

end

/-! ## Formats that select a parser -/

/-- The format selects the JSON or the YAML parser. -/
def SelectsTyped (fileName : String) (specifiedFormat : FormatChoice) : Prop :=
  parserOf (detectFormat fileName specifiedFormat) = some .json ∨
    parserOf (detectFormat fileName specifiedFormat) = some .yaml

lemma parserOf_detectFormat (fileName : String) (specifiedFormat : FormatChoice) :
    (specifiedFormat = .yml ∧ parserOf (detectFormat fileName specifiedFormat) = none) ∨
      specifiedFormat ≠ .yml ∧
        ∃ parser, parserOf (detectFormat fileName specifiedFormat) = some parser := by
  -- an extension that is not in the mapping is read as CSV
  have hmapping : ∀ ext : List Char,
      ∃ parser, parserOf ((formatMapping.lookup ext).getD "csv") = some parser := by
    intro ext
    have hcases : (formatMapping.lookup ext).getD "csv" ∈ ["csv", "json", "yaml"] := by
      unfold formatMapping
      simp only [List.lookup_cons]
      repeat' split
      all_goals simp
    simp only [List.mem_cons, List.not_mem_nil, or_false] at hcases
    rcases hcases with h | h | h
    · exact ⟨.csv, by rw [h]; decide⟩
    · exact ⟨.json, by rw [h]; decide⟩
    · exact ⟨.yaml, by rw [h]; decide⟩
  have hnamed : ∀ f : FormatChoice, f.name ≠ "auto" → detectFormat fileName f = f.name :=
    fun f hf => if_pos hf
  rcases specifiedFormat with _ | _ | _ | _ | _
  · exact .inr ⟨by decide, hmapping _⟩
  · exact .inr ⟨by decide, .csv, by rw [hnamed _ (by decide)]; decide⟩
  · exact .inr ⟨by decide, .json, by rw [hnamed _ (by decide)]; decide⟩
  · exact .inr ⟨by decide, .yaml, by rw [hnamed _ (by decide)]; decide⟩
  · exact .inl ⟨rfl, by rw [hnamed _ (by decide)]; decide⟩

lemma checkable_of_accepted {productData : PyValue} (h : recordErrors productData = .ok []) :
    Checkable productData := (validatable_iff_checkable productData).mp ⟨[], h⟩

lemma SameEffect.symm {column : DecimalColumn κ} {productData productData' : PyValue}
    {supplier : ℕ} {updateExisting : Bool} {c : Catalogue κ}
    (h : SameEffect column productData productData' supplier updateExisting c) :
    SameEffect column productData' productData supplier updateExisting c :=
  ⟨h.1.symm, h.2.symm⟩

/-- Elements that the validation refuses have no effect. -/
lemma sameEffect_of_refused {productData productData' : PyValue} (column : DecimalColumn κ)
    (supplier : ℕ) (updateExisting : Bool) (c : Catalogue κ)
    (h : recordErrors productData ≠ .ok []) (h' : recordErrors productData' ≠ .ok []) :
    SameEffect column productData productData' supplier updateExisting c := by
  refine ⟨iff_of_false (fun hs => h hs.1) fun hs => h' hs.1, ?_⟩
  unfold afterRecord
  rw [recordWrites_of_refused h, recordWrites_of_refused h']

/-- What the two spellings must have in common is that both stop the import, or none does and
their effects are the same. -/
lemma recordsAgree_iff (column : DecimalColumn κ) (fields : List (String × Scalar))
    (supplier : ℕ) (updateExisting : Bool) (c : Catalogue κ) :
    RecordsAgree column fields supplier updateExisting c ↔
      (Checkable (nativeRecord fields) ↔ Checkable (csvRow fields)) ∧
        (Checkable (nativeRecord fields) →
          SameEffect column (nativeRecord fields) (csvRow fields) supplier updateExisting c) := by
  constructor
  · rintro ⟨hcheckable, hboth, honlyNative, honlyRow⟩
    refine ⟨hcheckable, fun _ => ?_⟩
    by_cases hnative : recordErrors (nativeRecord fields) = .ok [] <;>
      by_cases hrow : recordErrors (csvRow fields) = .ok []
    · exact (sameEffect_of_both hnative hrow).mpr (hboth hnative hrow)
    · exact (sameEffect_of_one keepsText_native hnative hrow).mpr (honlyNative hnative hrow)
    · exact ((sameEffect_of_one keepsText_cell hrow hnative).mpr (honlyRow hrow hnative)).symm
    · exact sameEffect_of_refused column supplier updateExisting c hnative hrow
  · rintro ⟨hcheckable, hsame⟩
    refine ⟨hcheckable, fun hnative hrow => ?_, fun hnative hrow => ?_, fun hrow hnative => ?_⟩
    · exact (sameEffect_of_both hnative hrow).mp (hsame (checkable_of_accepted hnative))
    · exact (sameEffect_of_one keepsText_native hnative hrow).mp
        (hsame (checkable_of_accepted hnative))
    · have heffect := hsame (hcheckable.mpr (checkable_of_accepted hrow))
      exact (sameEffect_of_one keepsText_cell hrow hnative).mp heffect.symm

lemma parserOf_detectFormat_csv (fileName : String) :
    parserOf (detectFormat fileName .csv) = some .csv := by
  have hname : detectFormat fileName .csv = "csv" := if_pos (by decide)
  rw [hname]
  decide

section

variable (column : DecimalColumn κ) (strExc : PyErr → String) (supplier : ℕ) {fileName : String}
  {specifiedFormat : FormatChoice} (updateExisting : Bool) {fields : List (String × Scalar)}
  (db : ImportDb κ)

/-- The file with the typed record and the CSV file. -/
lemma importsAgree_iff_of_typed {parser : FileFormat}
    (hparser : parserOf (detectFormat fileName specifiedFormat) = some parser)
    (hwritten : writtenRecord fields parser = [nativeRecord fields]) :
    ImportsAgree column strExc supplier fileName specifiedFormat updateExisting fields db ↔
      RecordsAgree column fields supplier updateExisting db.catalogue := by
  have hcsv := parserOf_detectFormat_csv fileName
  unfold ImportsAgree
  rw [recordsAgree_iff]
  by_cases hnative : Checkable (nativeRecord fields)
  · rw [importEffect_of_checkable column strExc supplier updateExisting db hparser hwritten hnative
      (reportable_recordOf keepsText_native fields)]
    by_cases hrow : Checkable (csvRow fields)
    · rw [importEffect_of_checkable column strExc supplier updateExisting db hcsv rfl hrow
        (reportable_recordOf keepsText_cell fields), Prod.mk.injEq, Option.some.injEq,
      decide_eq_decide]
      exact ⟨fun h => ⟨iff_of_true hnative hrow, fun _ => h⟩, fun h => h.2 hnative⟩
    · rw [importEffect_of_not_checkable column strExc supplier updateExisting db hcsv rfl hrow]
      exact iff_of_false (fun h => nomatch congrArg Prod.fst h) fun h => hrow (h.1.mp hnative)
  · rw [importEffect_of_not_checkable column strExc supplier updateExisting db hparser hwritten
      hnative]
    by_cases hrow : Checkable (csvRow fields)
    · rw [importEffect_of_checkable column strExc supplier updateExisting db hcsv rfl hrow
      (reportable_recordOf keepsText_cell fields)]
      exact iff_of_false (fun h => nomatch congrArg Prod.fst h) fun h => hnative (h.1.mpr hrow)
    · rw [importEffect_of_not_checkable column strExc supplier updateExisting db hcsv rfl hrow]
      exact iff_of_true rfl ⟨iff_of_false hnative hrow, fun h => absurd h hnative⟩

/-- A request that names `yml` and the CSV file. -/
lemma importsAgree_iff_unparsed
    (hparser : parserOf (detectFormat fileName specifiedFormat) = none) :
    ImportsAgree column strExc supplier fileName specifiedFormat updateExisting fields db ↔
      ¬ Checkable (csvRow fields) := by
  have hcsv := parserOf_detectFormat_csv fileName
  unfold ImportsAgree
  rw [importEffect_unparsed column strExc supplier updateExisting db hparser]
  by_cases hrow : Checkable (csvRow fields)
  · rw [importEffect_of_checkable column strExc supplier updateExisting db hcsv rfl hrow
      (reportable_recordOf keepsText_cell fields)]
    exact iff_of_false (fun h => nomatch congrArg Prod.fst h) (not_not_intro hrow)
  · rw [importEffect_of_not_checkable column strExc supplier updateExisting db hcsv rfl hrow]
    exact iff_of_true rfl hrow

/-- Two requests that select the CSV parser. -/
lemma importsAgree_of_csv (hparser : parserOf (detectFormat fileName specifiedFormat) = some .csv) :
    ImportsAgree column strExc supplier fileName specifiedFormat updateExisting fields db := by
  have hcsv := parserOf_detectFormat_csv fileName
  unfold ImportsAgree importEffect importFile
  simp only [hparser, hcsv]

end

/-- **When the formats agree.**  The import in the format of the request and the import of the
CSV file have the same success flag and leave the same catalogue exactly when the request does
not name `yml`, unless the CSV file stops the import, and the spellings of the record agree
when the format selects the JSON or the YAML parser. -/
theorem importsAgree_iff (column : DecimalColumn κ) (strExc : PyErr → String) (supplier : ℕ)
    (fileName : String) (specifiedFormat : FormatChoice) (updateExisting : Bool)
    (fields : List (String × Scalar)) (db : ImportDb κ) :
    ImportsAgree column strExc supplier fileName specifiedFormat updateExisting fields db ↔
      (specifiedFormat = .yml → ¬ Checkable (csvRow fields)) ∧
        (SelectsTyped fileName specifiedFormat →
          RecordsAgree column fields supplier updateExisting db.catalogue) := by
  unfold SelectsTyped
  rcases parserOf_detectFormat fileName specifiedFormat with
    ⟨hyml, hparser⟩ | ⟨hyml, parser, hparser⟩
  · rw [importsAgree_iff_unparsed column strExc supplier updateExisting db hparser, hparser]
    simp [hyml]
  · rw [hparser]
    rcases parser with _ | _ | _
    · exact iff_of_true (importsAgree_of_csv column strExc supplier updateExisting db hparser)
        ⟨fun h => absurd h hyml, fun h => by simp at h⟩
    · rw [importsAgree_iff_of_typed column strExc supplier updateExisting db hparser rfl]
      simp [hyml]
    · rw [importsAgree_iff_of_typed column strExc supplier updateExisting db hparser rfl]
      simp [hyml]

/-- A cup that is sold out, in JSON. -/
def soldOutCup : List (String × Scalar) :=
  [("sku", .str "C-1"), ("name", .str "Cup"), ("price", .str "5.00"),
   ("stock_quantity", .int 0 (by decide))]

/-- The quantity zero is a missing field in JSON and a number in CSV. -/
theorem not_importsAgree_soldOutCup :
    ¬ ImportsAgree (.late 10) (fun _ => "") 1 "prices.json" .auto true soldOutCup
      ⟨.empty, []⟩ := by
  intro h
  have htyped : (importEffect (.late 10) (fun _ => "") 1 "prices.json" .auto true soldOutCup
      ⟨.empty, []⟩).1 = some false := by decide +kernel
  have hcsv : (importEffect (.late 10) (fun _ => "") 1 "prices.json" .csv true soldOutCup
      ⟨.empty, []⟩).1 = some true := by decide +kernel
  rw [h, hcsv] at htyped
  cases htyped

/-! ## Records without zeros and fractions -/

lemma truthy_cell_of_nonzero {v : Scalar} (h : ¬ v.IsZero) : v.cell.truthy = v.native.truthy := by
  rw [Bool.eq_iff_iff, v.isZero_or_truthy]
  exact or_iff_left h

lemma hasField_csvRow {fields : List (String × Scalar)} {field : String}
    (hzero : ∀ v, fields.lookup field = some v → ¬ v.IsZero) :
    hasField (csvRow fields) field = hasField (nativeRecord fields) field := by
  unfold hasField csvRow nativeRecord
  rw [contains_recordOf, contains_recordOf]
  rcases hlookup : fields.lookup field with _ | v
  · rfl
  · rw [item_recordOf hlookup, item_recordOf hlookup]
    simp only [except_ok_bind, truthy_cell_of_nonzero (hzero v hlookup)]

lemma missingFields_csvRow {fields : List (String × Scalar)} {names : List String}
    (hzero : ∀ field ∈ names, ∀ v, fields.lookup field = some v → ¬ v.IsZero) :
    missingFields (csvRow fields) names = missingFields (nativeRecord fields) names := by
  induction names with
  | nil => rfl
  | cons field names ih =>
      have htail := ih fun field hfield => hzero field (List.mem_cons_of_mem _ hfield)
      unfold missingFields
      rw [hasField_csvRow (hzero field List.mem_cons_self), htail]

lemma priceErrors_csvRow (fields : List (String × Scalar)) :
    priceErrors (csvRow fields) = priceErrors (nativeRecord fields) := by
  unfold priceErrors csvRow nativeRecord
  rw [contains_recordOf, contains_recordOf]
  rcases hlookup : fields.lookup "price" with _ | v
  · rfl
  · rw [item_recordOf hlookup, item_recordOf hlookup]
    simp only [except_ok_bind, Scalar.toDecimal_cell]

lemma quantityErrors_csvRow {fields : List (String × Scalar)}
    (hwhole : ∀ v, fields.lookup "stock_quantity" = some v → v.IsWhole) :
    quantityErrors (csvRow fields) = quantityErrors (nativeRecord fields) := by
  unfold quantityErrors csvRow nativeRecord
  rw [contains_recordOf, contains_recordOf]
  rcases hlookup : fields.lookup "stock_quantity" with _ | v
  · rfl
  · rw [item_recordOf hlookup, item_recordOf hlookup]
    simp only [except_ok_bind, Scalar.toInt_of_isWhole (hwhole v hlookup)]

lemma costErrors_csvRow {fields : List (String × Scalar)}
    (hzero : ∀ v, fields.lookup "cost_price" = some v → ¬ v.IsZero) :
    costErrors (csvRow fields) = costErrors (nativeRecord fields) := by
  have hgiven : givenCostOf Scalar.cell fields = givenCostOf Scalar.native fields := by
    unfold givenCostOf
    rcases hlookup : fields.lookup "cost_price" with _ | v
    · rfl
    · rw [Option.filter_some, Option.filter_some, truthy_cell_of_nonzero (hzero v hlookup)]
  unfold costErrors csvRow nativeRecord
  rw [givenCost_recordOf, givenCost_recordOf, hgiven]
  rcases givenCostOf Scalar.native fields with _ | v
  · rfl
  · simp only [except_ok_bind, Option.map_some, Scalar.toDecimal_cell]

/-- The validation says the same of both spellings when no field that it tests for truth is
zero and the quantity is a whole number or a text. -/
lemma recordErrors_csvRow {fields : List (String × Scalar)}
    (hzero : ∀ field ∈ "cost_price" :: requiredFields, ∀ v, fields.lookup field = some v →
      ¬ v.IsZero)
    (hwhole : ∀ v, fields.lookup "stock_quantity" = some v → v.IsWhole) :
    recordErrors (csvRow fields) = recordErrors (nativeRecord fields) := by
  have hrequired : ∀ field ∈ requiredFields, ∀ v, fields.lookup field = some v → ¬ v.IsZero :=
    fun field hfield => hzero field (List.mem_cons_of_mem _ hfield)
  unfold recordErrors
  rw [missingFields_csvRow hrequired, priceErrors_csvRow, quantityErrors_csvRow hwhole,
    costErrors_csvRow (hzero "cost_price" List.mem_cons_self)]

/-- The formats agree on every record without zeros whose quantities are whole numbers or
texts, on every catalogue, unless the request names `yml`. -/
theorem importsAgree_of_whole (column : DecimalColumn κ) (strExc : PyErr → String)
    (supplier : ℕ) (fileName : String) {specifiedFormat : FormatChoice}
    (hformat : specifiedFormat ≠ .yml) (updateExisting : Bool)
    {fields : List (String × Scalar)}
    (hzero : ∀ field ∈ "cost_price" :: requiredFields, ∀ v, fields.lookup field = some v →
      ¬ v.IsZero)
    (hwhole : ∀ field ∈ ["stock_quantity", "min_order_quantity"], ∀ v,
      fields.lookup field = some v → v.IsWhole) (db : ImportDb κ) :
    ImportsAgree column strExc supplier fileName specifiedFormat updateExisting fields db := by
  have herrors : recordErrors (csvRow fields) = recordErrors (nativeRecord fields) :=
    recordErrors_csvRow hzero (hwhole "stock_quantity" (by simp))
  have hcheckable : Checkable (nativeRecord fields) ↔ Checkable (csvRow fields) := by
    rw [← validatable_iff_checkable, ← validatable_iff_checkable, Validatable, Validatable, herrors]
  have hmin : ¬ OnlyNativeMinimum fields := by
    rintro ⟨v, hv, honly⟩
    exact Scalar.not_onlyNative_of_isWhole (hwhole "min_order_quantity" (by simp) v hv) honly
  have hcost : ¬ ZeroCost fields := by
    rintro ⟨v, hv, hz⟩
    exact hzero "cost_price" List.mem_cons_self v hv hz
  have hagree : RecordsAgree column fields supplier updateExisting db.catalogue := by
    refine ⟨hcheckable, fun _ _ => ⟨fun h => absurd h hmin, fun h => absurd h hcost⟩,
      fun hnative hrow => ?_, fun hrow hnative => ?_⟩
    · exact absurd (herrors.trans hnative) hrow
    · exact absurd (herrors.symm.trans hrow) hnative
  exact (importsAgree_iff column strExc supplier fileName specifiedFormat updateExisting fields
    db).mpr
    ⟨fun h => absurd h hformat, fun _ => hagree⟩

end ProductViewSet

end OrdersBackend
