import OrdersBackend.Catalogue.File
import OrdersBackend.Python.Scalar

/-!
# Records of scalars

A record whose values are scalars, written with their types (`nativeRecord`) or as texts
(`csvRow`).  Both spellings name the same category, the same SKU and the same values of the
attributes.  When the validation accepts both, they also convert to the same columns, except
for two fields: a cost of zero is given by one and not by the other, and `int` may refuse the
text of the least quantity (`stored_csvRow`).
-/

namespace OrdersBackend

open Framework Tx

namespace ProductViewSet

variable {κ : Type}

/-! ## The two spellings -/

/-- A record, with its values written by `g`. -/
def recordOf (g : Scalar → PyValue) (fields : List (String × Scalar)) : PyValue :=
  .mapping (fields.map fun f => (f.1, g f.2)) ""

/-- The record as JSON and YAML give it. -/
def nativeRecord (fields : List (String × Scalar)) : PyValue := recordOf Scalar.native fields

/-- The row of a CSV file. -/
def csvRow (fields : List (String × Scalar)) : PyValue := recordOf Scalar.cell fields

lemma find_recordOf (g : Scalar → PyValue) (fields : List (String × Scalar)) (k : String) :
    PyValue.find k ((fields.map fun f => (f.1, g f.2)).map fun f => (PyValue.str f.1, f.2)) =
      (fields.lookup k).map g := by
  induction fields with
  | nil => rfl
  | cons f fields ih =>
      rw [List.map_cons, List.map_cons, PyValue.find, List.lookup_cons, ih]
      have hkey : (PyValue.str f.1).isStr k = (k == f.1) := Bool.beq_comm
      rw [hkey]
      cases k == f.1 <;> rfl

lemma item_recordOf {g : Scalar → PyValue} {fields : List (String × Scalar)} {k : String}
    {v : Scalar} (h : fields.lookup k = some v) : (recordOf g fields).item k = .ok (g v) := by
  refine PyValue.item_dict_of_find ?_
  rw [find_recordOf, h]
  rfl

lemma contains_recordOf (g : Scalar → PyValue) (fields : List (String × Scalar)) (k : String) :
    (recordOf g fields).contains k = .ok (fields.lookup k).isSome := by
  have hfind := congrArg Option.isSome (find_recordOf g fields k)
  rw [Option.isSome_map] at hfind
  exact congrArg Except.ok hfind

/-- Only a field that is there can be read. -/
lemma item_recordOf_none {g : Scalar → PyValue} {fields : List (String × Scalar)} {k : String}
    (h : fields.lookup k = none) : (recordOf g fields).item k = .error .keyError := by
  have hfind := find_recordOf g fields k
  rw [h] at hfind
  unfold recordOf PyValue.mapping PyValue.item
  simp only [hfind]
  rfl

lemma lookup_of_item {g : Scalar → PyValue} {fields : List (String × Scalar)} {k : String}
    {w : PyValue} (h : (recordOf g fields).item k = .ok w) : ∃ v, fields.lookup k = some v := by
  rcases hlookup : fields.lookup k with _ | v
  · rw [item_recordOf_none hlookup] at h
    cases h
  · exact ⟨v, rfl⟩

lemma get_recordOf (g : Scalar → PyValue) (fields : List (String × Scalar)) (k : String)
    (default : PyValue) :
    (recordOf g fields).get k default = .ok (((fields.lookup k).map g).getD default) := by
  rw [← find_recordOf]
  rfl

/-! ## What both spellings say -/

/-- A way to write scalars that keeps their texts. -/
structure KeepsText (g : Scalar → PyValue) : Prop where
  toStr : ∀ v, (g v).toStr = .ok (.plain v.text)
  textColumn : ∀ v, textColumn (g v) = .ok v.text
  attributePairs : ∀ v, attributePairs (g v) = attributePairs v.native

lemma KeepsText.toDecimal {g : Scalar → PyValue} (hg : KeepsText g) (v : Scalar) :
    (g v).toDecimal = v.native.toDecimal := by
  unfold PyValue.toDecimal
  rw [hg.toStr, v.toStr_native]

/-- The text of a number names no attribute. -/
lemma filterMap_textPair_eq_nil {s : String} (h : ':' ∉ s.toList) :
    (s.toList.splitOn ';').filterMap textPair = [] := by
  rw [List.filterMap_eq_nil_iff]
  intro part hpart
  have hcolon : ':' ∉ part := fun hmem => h (Python.mem_of_mem_splitOn hpart hmem)
  unfold textPair splitPair
  rw [if_neg hcolon]
  rfl

/-- The text notation names texts. -/
lemma exists_texts_of_textPair {part : List Char} {pair : PyValue × PyValue}
    (h : textPair part = some pair) : ∃ name value, pair = (.str name, .str value) := by
  obtain ⟨texts, -, rfl⟩ := Option.map_eq_some_iff.mp h
  exact ⟨_, _, rfl⟩

lemma keepsText_native : KeepsText Scalar.native where
  toStr v := v.toStr_native
  textColumn v := by
    have hstored : storedText v.native = .ok v.text := by
      unfold storedText
      rw [v.toStr_native]
      rfl
    cases v <;> exact hstored
  attributePairs _ := rfl

lemma keepsText_cell : KeepsText Scalar.cell where
  toStr _ := rfl
  textColumn _ := rfl
  attributePairs v := by
    rcases v with b | ⟨n, hn⟩ | x | s
    · exact filterMap_textPair_eq_nil (by cases b <;> decide)
    · exact filterMap_textPair_eq_nil (Python.colon_notMem_toString n)
    · exact filterMap_textPair_eq_nil x.colon_notMem_str
    · rfl

/-- The category of a record of scalars. -/
def categoryName (fields : List (String × Scalar)) : String :=
  ((fields.lookup "category").map Scalar.text).getD "Без категории"

section

variable {g : Scalar → PyValue} (hg : KeepsText g) (fields : List (String × Scalar))

include hg

lemma category_recordOf :
    ((recordOf g fields).get "category" (.str "Без категории") >>= textColumn) =
      .ok (categoryName fields) := by
  unfold categoryName
  rw [get_recordOf, except_ok_bind]
  rcases fields.lookup "category" with _ | v
  · rfl
  · exact hg.textColumn v

lemma recordCategory_recordOf :
    recordCategory (recordOf g fields) = some (categoryName fields) := by
  unfold recordCategory
  rw [category_recordOf hg]
  rfl

lemma recordSku_recordOf :
    recordSku (recordOf g fields) = (fields.lookup "sku").map Scalar.text := by
  unfold recordSku
  rcases hsku : fields.lookup "sku" with _ | v
  · rw [item_recordOf_none hsku]
    rfl
  · rw [item_recordOf hsku, except_ok_bind, hg.textColumn]
    rfl

lemma assignments_recordOf :
    assignments (recordOf g fields) = assignments (nativeRecord fields) := by
  unfold assignments attributesData nativeRecord
  rw [get_recordOf, get_recordOf]
  rcases fields.lookup "attributes" with _ | v
  · rfl
  · exact congrArg namedPairs (hg.attributePairs v)

lemma attributeNames_recordOf :
    attributeNames (recordOf g fields) = attributeNames (nativeRecord fields) := by
  have hunvalued : unvalued (recordOf g fields) = unvalued (nativeRecord fields) := by
    unfold unvalued attributesData nativeRecord
    rw [get_recordOf, get_recordOf]
    rcases fields.lookup "attributes" with _ | v
    · rfl
    · exact congrArg unvaluedName (hg.attributePairs v)
  unfold attributeNames
  rw [assignments_recordOf hg, hunvalued]

/-- Naming the attributes of a record of scalars raises nothing. -/
lemma outcome_valueSteps_recordOf (turn : Turn) (sku : String) :
    (runSteps turn (valueSteps (recordOf g fields) sku) : RecordRun κ).outcome = .ok () := by
  -- names and values are texts, and texts are stored
  have hsteps : ∀ pairs : List (PyValue × PyValue),
      (∀ pair ∈ pairs, ∃ name value, pair = (.str name, .str value)) →
      (runSteps turn (attributeSteps sku pairs) : RecordRun κ).outcome = .ok () := by
    intro pairs hpairs
    induction pairs with
    | nil => rfl
    | cons pair pairs ih =>
        obtain ⟨name, value, rfl⟩ := hpairs pair List.mem_cons_self
        rw [attributeSteps_of_ok (show textColumn (.str name) = .ok name from rfl)
          (show storedText (.str value) = .ok value from rfl)]
        exact ih fun p hp => hpairs p (List.mem_cons_of_mem _ hp)
  unfold valueSteps attributesData
  rw [get_recordOf]
  rcases fields.lookup "attributes" with _ | v
  · rfl
  · refine hsteps _ fun pair hpair => ?_
    simp only [Option.map_some, Option.getD_some, hg.attributePairs] at hpair
    rcases v with b | ⟨n, hn⟩ | x | s
    · cases hpair
    · cases hpair
    · cases hpair
    · obtain ⟨part, -, hpart⟩ := List.mem_filterMap.mp hpair
      exact exists_texts_of_textPair hpart

end

/-- Both spellings name the same product. -/
lemma recordTurn_csvRow (column : DecimalColumn κ) (updateExisting : Bool) (c : Catalogue κ)
    (fields : List (String × Scalar)) :
    recordTurn column updateExisting c (csvRow fields) =
      recordTurn column updateExisting c (nativeRecord fields) := by
  unfold recordTurn csvRow nativeRecord
  rw [recordSku_recordOf keepsText_cell, recordSku_recordOf keepsText_native]

/-! ## Records the validation accepts -/

lemma orFormatError_eq_nil {error : RecordError} {check : Except PyErr (List RecordError)}
    (h : orFormatError error check = .ok []) : check = .ok [] := by
  unfold orFormatError at h
  rcases check with e | errors
  · dsimp only at h
    split at h
    · cases Except.ok.inj h
    · cases h
  · exact h

/-- An accepted record passes each of the checks. -/
lemma checks_of_recordErrors {productData : PyValue} (h : recordErrors productData = .ok []) :
    priceErrors productData = .ok [] ∧ quantityErrors productData = .ok [] ∧
      costErrors productData = .ok [] := by
  obtain ⟨missing, -, h⟩ := except_bind_eq_ok.mp h
  obtain ⟨price, hprice, h⟩ := except_bind_eq_ok.mp h
  obtain ⟨quantity, hquantity, h⟩ := except_bind_eq_ok.mp h
  obtain ⟨cost, hcost, h⟩ := except_bind_eq_ok.mp h
  have happend : missing ++ price ++ quantity ++ cost = [] := Except.ok.inj h
  simp only [List.append_eq_nil_iff] at happend
  rw [hprice, hquantity, hcost, happend.1.1.2, happend.1.2, happend.2]
  exact ⟨rfl, rfl, rfl⟩

/-- The cost a record gives: one that is true. -/
def givenCostOf (g : Scalar → PyValue) (fields : List (String × Scalar)) : Option Scalar :=
  (fields.lookup "cost_price").filter fun v => (g v).truthy

lemma givenCost_recordOf (g : Scalar → PyValue) (fields : List (String × Scalar)) :
    givenCost (recordOf g fields) = .ok ((givenCostOf g fields).map g) := by
  unfold givenCost givenCostOf
  rw [contains_recordOf]
  rcases hcost : fields.lookup "cost_price" with _ | v
  · rfl
  · rw [item_recordOf hcost, Option.filter_some]
    simp only [except_ok_bind, Option.isSome_some, if_true]
    rcases (g v).truthy with _ | _ <;> rfl

/-- The cost as a decimal. -/
def costOf (g : Scalar → PyValue) (fields : List (String × Scalar)) : Option PyDecimal :=
  (givenCostOf g fields).bind fun v => v.native.toDecimal.toOption

section

variable {g : Scalar → PyValue} {fields : List (String × Scalar)}
  (h : recordErrors (recordOf g fields) = .ok [])

include h

/-- The required fields of an accepted record are there. -/
lemma exists_lookup_of_accepted {field : String} (hfield : field ∈ requiredFields) :
    ∃ v, fields.lookup field = some v := by
  obtain ⟨w, hw, -⟩ := exists_item_of_missingFields (missingFields_of_recordErrors h) field hfield
  exact lookup_of_item hw

lemma exists_price_of_accepted :
    ∃ price v, fields.lookup "price" = some v ∧ (g v).toDecimal = .ok price := by
  obtain ⟨v, hv⟩ : ∃ v, fields.lookup "price" = some v :=
    exists_lookup_of_accepted h (by simp [requiredFields])
  have hcheck := orFormatError_eq_nil (checks_of_recordErrors h).1
  rw [contains_recordOf, hv, item_recordOf hv] at hcheck
  simp only [except_ok_bind, Option.isSome_some, if_true] at hcheck
  obtain ⟨price, hprice, -⟩ := except_bind_eq_ok.mp hcheck
  exact ⟨price, v, hv, hprice⟩

lemma exists_quantity_of_accepted :
    ∃ quantity v, fields.lookup "stock_quantity" = some v ∧ (g v).toInt = .ok quantity := by
  obtain ⟨v, hv⟩ : ∃ v, fields.lookup "stock_quantity" = some v :=
    exists_lookup_of_accepted h (by simp [requiredFields])
  have hcheck := orFormatError_eq_nil (checks_of_recordErrors h).2.1
  rw [contains_recordOf, hv, item_recordOf hv] at hcheck
  simp only [except_ok_bind, Option.isSome_some, if_true] at hcheck
  obtain ⟨quantity, hquantity, -⟩ := except_bind_eq_ok.mp hcheck
  exact ⟨quantity, v, hv, hquantity⟩

lemma exists_cost_of_accepted (hg : KeepsText g) {v : Scalar}
    (hgiven : givenCostOf g fields = some v) : ∃ cost, v.native.toDecimal = .ok cost := by
  have hcheck := (checks_of_recordErrors h).2.2
  unfold costErrors at hcheck
  rw [givenCost_recordOf, except_ok_bind, hgiven] at hcheck
  simp only [Option.map_some] at hcheck
  have hcompare := orFormatError_eq_nil hcheck
  rw [hg.toDecimal] at hcompare
  rcases hcost : v.native.toDecimal with e | cost
  · rw [hcost, except_error_bind] at hcompare
    cases hcompare
  · exact ⟨cost, rfl⟩

lemma costDefault_of_accepted (hg : KeepsText g) :
    costDefault (recordOf g fields) = .ok (costOf g fields) := by
  unfold costDefault costOf
  rw [givenCost_recordOf, except_ok_bind]
  rcases hgiven : givenCostOf g fields with _ | v
  · rfl
  · obtain ⟨cost, hcost⟩ := exists_cost_of_accepted h hg hgiven
    simp only [Option.map_some, Option.bind_some]
    rw [hg.toDecimal, hcost]
    rfl

end

/-- The value of `min_order_quantity`. -/
def minOf (g : Scalar → PyValue) (fields : List (String × Scalar)) : PyValue :=
  ((fields.lookup "min_order_quantity").map g).getD (.int 1)

/-- The flag `is_active`. -/
def activeOf (fields : List (String × Scalar)) : Bool :=
  ((fields.lookup "is_active").map fun v => (PyText.plain v.text).isTrue).getD true

lemma isTrueText_recordOf {g : Scalar → PyValue} (hg : KeepsText g)
    (fields : List (String × Scalar)) :
    isTrueText (((fields.lookup "is_active").map g).getD (.str "true")) =
      .ok (activeOf fields) := by
  unfold activeOf
  rcases fields.lookup "is_active" with _ | v
  · show isTrueText (.str "true") = .ok true
    decide
  · unfold isTrueText
    rw [Option.map_some, Option.getD_some, hg.toStr]
    rfl

/-- The defaults of an accepted record, whose least quantity is `minimum`. -/
def defaultsOf (g : Scalar → PyValue) (fields : List (String × Scalar)) (supplier : ℕ)
    (name : Scalar) (price : PyDecimal) (quantity minimum : ℤ) : ProductDefaults where
  supplier := supplier
  category := categoryName fields
  name := g name
  description := ((fields.lookup "description").map g).getD (.str "")
  price := price
  stockQuantity := quantity
  minOrderQuantity := minimum
  unit := ((fields.lookup "unit").map g).getD (.str "шт")
  isActive := activeOf fields
  costPrice := costOf g fields

/-- Only the least quantity of an accepted record may still be refused. -/
lemma productDefaults_of_accepted {g : Scalar → PyValue} (hg : KeepsText g)
    {fields : List (String × Scalar)} (h : recordErrors (recordOf g fields) = .ok [])
    (supplier : ℕ) {name price stock : Scalar} {decimal : PyDecimal} {quantity : ℤ}
    (hname : fields.lookup "name" = some name) (hprice : fields.lookup "price" = some price)
    (hdecimal : (g price).toDecimal = .ok decimal)
    (hstock : fields.lookup "stock_quantity" = some stock)
    (hquantity : (g stock).toInt = .ok quantity) :
    productDefaults (recordOf g fields) supplier (categoryName fields) =
      (minOf g fields).toInt.map (defaultsOf g fields supplier name decimal quantity) := by
  unfold productDefaults
  rw [item_recordOf hname, item_recordOf hprice, item_recordOf hstock]
  simp only [get_recordOf, except_ok_bind, hdecimal, hquantity, costDefault_of_accepted h hg,
    isTrueText_recordOf hg]
  rcases hmin : (minOf g fields).toInt with e | minimum
  · unfold minOf at hmin
    rw [hmin]
    rfl
  · unfold minOf at hmin
    rw [hmin]
    rfl

lemma prepared_of_accepted {g : Scalar → PyValue} (hg : KeepsText g)
    {fields : List (String × Scalar)} (h : recordErrors (recordOf g fields) = .ok [])
    (supplier : ℕ) {name price stock : Scalar} {decimal : PyDecimal} {quantity : ℤ}
    (hname : fields.lookup "name" = some name) (hprice : fields.lookup "price" = some price)
    (hdecimal : (g price).toDecimal = .ok decimal)
    (hstock : fields.lookup "stock_quantity" = some stock)
    (hquantity : (g stock).toInt = .ok quantity) :
    prepared (recordOf g fields) supplier =
      (minOf g fields).toInt.toOption.bind fun minimum =>
        (recordSku (recordOf g fields)).map fun sku =>
          (sku, defaultsOf g fields supplier name decimal quantity minimum) := by
  unfold prepared
  rw [if_pos h, category_recordOf hg]
  dsimp only
  rw [productDefaults_of_accepted hg h supplier hname hprice hdecimal hstock hquantity]
  rcases (minOf g fields).toInt with e | minimum
  · rfl
  · rcases recordSku (recordOf g fields) with _ | sku <;> rfl

/-! ## The columns of both spellings -/

variable (column : DecimalColumn κ)

/-- The cost price is converted last. -/
lemma columns_withCost (defaults : ProductDefaults) (cost : Option PyDecimal) :
    ({ defaults with costPrice := cost } : ProductDefaults).columns column = (do
      let columns ← ({ defaults with costPrice := none } : ProductDefaults).columns column
      let costPrice ← costColumn column cost
      return { columns with costPrice }) := by
  unfold ProductDefaults.columns
  simp only [bind_assoc, pure_bind, costColumn]

/-- Texts and typed values are stored alike. -/
lemma columns_defaultsOf_cell (fields : List (String × Scalar)) (supplier : ℕ) (name : Scalar)
    (price : PyDecimal) (quantity minimum : ℤ) :
    (defaultsOf Scalar.cell fields supplier name price quantity minimum).columns column =
      ({ defaultsOf Scalar.native fields supplier name price quantity minimum with
          costPrice := costOf Scalar.cell fields } : ProductDefaults).columns column := by
  have htext : ∀ (o : Option Scalar) (default : PyValue),
      textColumn ((o.map Scalar.cell).getD default) =
        textColumn ((o.map Scalar.native).getD default) := by
    intro o default
    rcases o with _ | v
    · rfl
    · exact (keepsText_cell.textColumn v).trans (keepsText_native.textColumn v).symm
  have hname : textColumn name.cell = textColumn name.native := htext (some name) .none
  unfold ProductDefaults.columns defaultsOf
  simp only [htext, hname]

/-- The record has a cost price of zero, which is given as a text and not as a number. -/
def ZeroCost (fields : List (String × Scalar)) : Prop :=
  ∃ v, fields.lookup "cost_price" = some v ∧ v.IsZero

/-- The record has a least quantity that `int` converts, and whose text it refuses. -/
def OnlyNativeMinimum (fields : List (String × Scalar)) : Prop :=
  ∃ v, fields.lookup "min_order_quantity" = some v ∧ v.OnlyNative

section

variable {fields : List (String × Scalar)}

lemma costOf_cell (h : ¬ ZeroCost fields) :
    costOf Scalar.cell fields = costOf Scalar.native fields := by
  unfold costOf givenCostOf
  rcases hcost : fields.lookup "cost_price" with _ | v
  · rfl
  · have hzero : ¬ v.IsZero := fun hzero => h ⟨v, hcost, hzero⟩
    have htruthy : v.cell.truthy = v.native.truthy := by
      have hiff := v.isZero_or_truthy
      rw [Bool.eq_iff_iff, hiff]
      exact or_iff_left hzero
    rw [Option.filter_some, Option.filter_some, htruthy]

lemma costOf_native_of_zeroCost (h : ZeroCost fields) : costOf Scalar.native fields = none := by
  obtain ⟨v, hcost, hzero⟩ := h
  unfold costOf givenCostOf
  rw [hcost, Option.filter_some, Scalar.truthy_of_isZero hzero]
  rfl

/-- The text of a zero is a cost. -/
lemma exists_costOf_of_zeroCost (h : ZeroCost fields)
    (hrow : recordErrors (csvRow fields) = .ok []) :
    ∃ cost, costOf Scalar.cell fields = some cost := by
  obtain ⟨v, hcost, hzero⟩ := h
  have hgiven : givenCostOf Scalar.cell fields = some v := by
    unfold givenCostOf
    rw [hcost, Option.filter_some, v.isZero_or_truthy.mpr (.inr hzero), if_pos rfl]
  obtain ⟨cost, hdecimal⟩ := exists_cost_of_accepted hrow keepsText_cell hgiven
  refine ⟨cost, ?_⟩
  unfold costOf
  rw [hgiven, Option.bind_some, hdecimal]
  rfl

lemma toInt_minOf (h : ¬ OnlyNativeMinimum fields) :
    (minOf Scalar.cell fields).toInt.toOption = (minOf Scalar.native fields).toInt.toOption := by
  unfold minOf
  rcases hmin : fields.lookup "min_order_quantity" with _ | v
  · rfl
  · exact Scalar.toInt_of_not_onlyNative fun honly => h ⟨v, hmin, honly⟩

lemma toInt_minOf_cell (h : OnlyNativeMinimum fields) :
    (minOf Scalar.cell fields).toInt = .error .valueError := by
  obtain ⟨v, hmin, honly⟩ := h
  unfold minOf
  rw [hmin]
  exact (Scalar.toInt_of_onlyNative honly).1

/-- A scalar that converts to a number in both spellings converts to the same one. -/
lemma toInt_unique {v : Scalar} {n m : ℤ} (hcell : v.cell.toInt = .ok n)
    (hnative : v.native.toInt = .ok m) : n = m := by
  by_cases honly : v.OnlyNative
  · rw [(Scalar.toInt_of_onlyNative honly).1] at hcell
    cases hcell
  · have hsame := Scalar.toInt_of_not_onlyNative honly
    rw [hcell, hnative] at hsame
    exact Option.some.inj hsame

variable (hnative : recordErrors (nativeRecord fields) = .ok [])
  (hrow : recordErrors (csvRow fields) = .ok []) (supplier : ℕ)

include hnative hrow

/-- A record accepted in both spellings is prepared from the same values. -/
lemma exists_prepared : ∃ name decimal quantity,
    (prepared (nativeRecord fields) supplier =
      (minOf Scalar.native fields).toInt.toOption.bind fun minimum =>
        ((fields.lookup "sku").map Scalar.text).map fun sku =>
          (sku, defaultsOf Scalar.native fields supplier name decimal quantity minimum)) ∧
    prepared (csvRow fields) supplier =
      (minOf Scalar.cell fields).toInt.toOption.bind fun minimum =>
        ((fields.lookup "sku").map Scalar.text).map fun sku =>
          (sku, defaultsOf Scalar.cell fields supplier name decimal quantity minimum) := by
  obtain ⟨name, hname⟩ : ∃ v, fields.lookup "name" = some v :=
    exists_lookup_of_accepted hnative (by simp [requiredFields])
  obtain ⟨decimal, price, hprice, hdecimal⟩ := exists_price_of_accepted hnative
  obtain ⟨quantity, stock, hstock, hquantity⟩ := exists_quantity_of_accepted hnative
  obtain ⟨quantity', stock', hstock', hquantity'⟩ := exists_quantity_of_accepted hrow
  obtain rfl : stock = stock' := Option.some.inj (hstock.symm.trans hstock')
  obtain rfl : quantity' = quantity := toInt_unique hquantity' hquantity
  refine ⟨name, decimal, quantity', ?_, ?_⟩
  · rw [← recordSku_recordOf keepsText_native]
    exact prepared_of_accepted keepsText_native hnative supplier hname hprice hdecimal hstock
      hquantity
  · rw [← recordSku_recordOf keepsText_cell]
    exact prepared_of_accepted keepsText_cell hrow supplier hname hprice
      (price.toDecimal_cell.trans hdecimal) hstock hquantity'

/-- The text of the least quantity is refused. -/
lemma prepared_csvRow_eq_none (hmin : OnlyNativeMinimum fields) :
    prepared (csvRow fields) supplier = none := by
  obtain ⟨name, decimal, quantity, -, hcell⟩ := exists_prepared hnative hrow supplier
  rw [hcell, toInt_minOf_cell hmin]
  rfl

/-- Otherwise both spellings get as far as the same product. -/
lemma prepared_csvRow (hmin : ¬ OnlyNativeMinimum fields) :
    (prepared (csvRow fields) supplier).map Prod.fst =
      (prepared (nativeRecord fields) supplier).map Prod.fst := by
  obtain ⟨name, decimal, quantity, htyped, hcell⟩ := exists_prepared hnative hrow supplier
  rw [hcell, htyped, toInt_minOf hmin]
  rcases (minOf Scalar.native fields).toInt.toOption with _ | minimum
  · rfl
  · rcases fields.lookup "sku" with _ | sku <;> rfl

/-- The columns are the same when no cost is zero. -/
theorem stored_csvRow (hmin : ¬ OnlyNativeMinimum fields) (hzero : ¬ ZeroCost fields) :
    stored column (csvRow fields) supplier = stored column (nativeRecord fields) supplier := by
  obtain ⟨name, decimal, quantity, htyped, hcell⟩ := exists_prepared hnative hrow supplier
  unfold stored
  rw [hcell, htyped, toInt_minOf hmin]
  rcases (minOf Scalar.native fields).toInt.toOption with _ | minimum
  · rfl
  · rcases fields.lookup "sku" with _ | sku
    · rfl
    · have hcolumns := columns_defaultsOf_cell column fields supplier name decimal quantity
        minimum
      rw [costOf_cell hzero] at hcolumns
      simp only [Option.map_some, Option.bind_some, hcolumns]
      rfl

/-- A cost of zero is no cost in one spelling, and in the other the zero that the column makes
of it. -/
theorem stored_csvRow_of_zeroCost (hmin : ¬ OnlyNativeMinimum fields) (hzero : ZeroCost fields) :
    (∀ sku columns, stored column (nativeRecord fields) supplier = some (sku, columns) →
      columns.costPrice = none) ∧
    stored column (csvRow fields) supplier =
      (stored column (nativeRecord fields) supplier).bind fun p =>
        (costColumn column (costOf Scalar.cell fields)).toOption.map fun cost =>
          (p.1, { p.2 with costPrice := cost }) := by
  obtain ⟨name, decimal, quantity, htyped, hcell⟩ := exists_prepared hnative hrow supplier
  unfold stored
  rw [hcell, htyped, toInt_minOf hmin]
  rcases (minOf Scalar.native fields).toInt.toOption with _ | minimum
  · exact ⟨fun _ _ h => (nomatch h), rfl⟩
  · rcases fields.lookup "sku" with _ | sku
    · exact ⟨fun _ _ h => (nomatch h), rfl⟩
    · set typed := defaultsOf Scalar.native fields supplier name decimal quantity minimum
      have hcolumns := (columns_defaultsOf_cell column fields supplier name decimal quantity
        minimum).trans (columns_withCost column typed (costOf Scalar.cell fields))
      -- the typed record gives no cost, so the two differ by the cost of the cell
      have hnone : ({ typed with costPrice := none } : ProductDefaults) = typed := by
        have hcost : typed.costPrice = none := costOf_native_of_zeroCost hzero
        rw [← hcost]
      rw [hnone] at hcolumns
      have htypedColumns := columns_withCost column typed none
      rw [hnone] at htypedColumns
      simp only [Option.map_some, Option.bind_some, hcolumns]
      rcases htypedOk : typed.columns column with e | columns
      · exact ⟨fun _ _ h => (nomatch h), rfl⟩
      · refine ⟨?_, ?_⟩
        · rintro sku' columns' h
          rw [htypedOk] at htypedColumns
          obtain ⟨-, rfl⟩ := Prod.mk.inj (Option.some.inj h)
          exact congrArg ProductColumns.costPrice (Except.ok.inj htypedColumns)
        · rcases costColumn column (costOf Scalar.cell fields) with e | cost <;> rfl

end

/-- A record of scalars succeeds when it gets as far as its product. -/
lemma recordSucceeds_recordOf {g : Scalar → PyValue} (hg : KeepsText g)
    (fields : List (String × Scalar)) (supplier : ℕ) (turn : Turn) :
    RecordSucceeds column (recordOf g fields) supplier turn ↔
      (reachedSku column (recordOf g fields) supplier turn).isSome := by
  constructor
  · intro hsucceeds
    obtain ⟨sku, hsku⟩ := Option.isSome_iff_exists.mp (recordSku_isSome_of_succeeds hsucceeds)
    rw [hsucceeds.reachedSku hsku]
    rfl
  · intro hreached
    obtain ⟨sku, hsku⟩ := Option.isSome_iff_exists.mp hreached
    rw [recordSucceeds_iff]
    cases turn with
    | raise e => cases hsku
    | keep =>
        obtain ⟨⟨sku', defaults⟩, hprepared, rfl⟩ := Option.map_eq_some_iff.mp hsku
        exact ⟨sku', defaults, hprepared, .inl rfl, outcome_valueSteps_recordOf hg fields _ _⟩
    | store =>
        obtain ⟨⟨sku', columns⟩, hstored, rfl⟩ := Option.map_eq_some_iff.mp hsku
        obtain ⟨defaults, hprepared, hcolumns⟩ := stored_eq_some.mp hstored
        exact ⟨sku', defaults, hprepared, .inr ⟨rfl, columns, hcolumns⟩,
          outcome_valueSteps_recordOf hg fields _ _⟩

/-- The messages about a record of scalars can be stored. -/
lemma reportable_recordOf {g : Scalar → PyValue} (hg : KeepsText g)
    (fields : List (String × Scalar)) : Reportable (recordOf g fields) := by
  intro h
  obtain ⟨v, hv⟩ : ∃ v, fields.lookup "sku" = some v :=
    exists_lookup_of_accepted h (by simp [requiredFields])
  rw [recordSku_recordOf hg, hv]
  rfl

end ProductViewSet

end OrdersBackend
