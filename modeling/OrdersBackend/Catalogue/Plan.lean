import OrdersBackend.Catalogue.Import

/-!
# The writes of a record

The processing of a record reads the catalogue at one point only, the row under its SKU.  What
becomes of the product there is its `Turn`: it is stored; it is kept, when it is there and
`update_existing` is switched off; or reading the row raises.  Everything else is settled by the
record.  `recordSteps` lists what that is, without a store: the writes in their order, the
product write with the columns or the exception that storing it raises, and the exceptions of
the conversions in between.  `runSteps` stops at the first exception and keeps the writes
before it.

`storeProductRecord_apply` connects the two: running the program on a catalogue ends as the
steps end and leaves the catalogue with their writes applied.  The theorems about imports are
proved on the writes.
-/

namespace OrdersBackend

open Framework Tx

/-! ## Writes -/

variable {κ : Type}

/-- A row written to one of the four tables. -/
inductive Write (κ : Type)
  | category (name : String)
  | attribute (name : String)
  | product (sku : String) (columns : ProductColumns κ)
  | value (sku name value : String)
  deriving DecidableEq, Repr

namespace Write

def categoryLog? : Write κ → Option (String × CreateIfAbsent Category)
  | category name => some (name, ⟨⟨"", none⟩⟩)
  | _ => none

def attributeLog? : Write κ → Option (String × CreateIfAbsent Attribute)
  | .attribute name => some (name, ⟨⟨""⟩⟩)
  | _ => none

def productLog? : Write κ → Option (String × ProductColumns κ)
  | product sku columns => some (sku, columns)
  | _ => none

def valueLog? : Write κ → Option ((String × String) × Overwrite String)
  | .value sku name v => some ((sku, name), ⟨v⟩)
  | _ => none

end Write

namespace Catalogue

/-- Apply one write. -/
def write (c : Catalogue κ) : Write κ → Catalogue κ
  | .category name =>
    { c with categories := upsert c.categories name (⟨⟨"", none⟩⟩ : CreateIfAbsent Category) }
  | .attribute name =>
    { c with attributes := upsert c.attributes name (⟨⟨""⟩⟩ : CreateIfAbsent Attribute) }
  | .product sku columns => { c with products := upsert c.products sku columns }
  | .value sku name v =>
    { c with values := upsert c.values (sku, name) (⟨v⟩ : Overwrite String) }

/-- Apply writes in order. -/
def writeAll (c : Catalogue κ) (ws : List (Write κ)) : Catalogue κ := ws.foldl write c

@[simp] lemma writeAll_nil (c : Catalogue κ) : c.writeAll [] = c := rfl

@[simp] lemma writeAll_cons (c : Catalogue κ) (w : Write κ) (ws : List (Write κ)) :
    c.writeAll (w :: ws) = (c.write w).writeAll ws := rfl

lemma writeAll_append (c : Catalogue κ) (ws ws' : List (Write κ)) :
    c.writeAll (ws ++ ws') = (c.writeAll ws).writeAll ws' :=
  List.foldl_append

/-! Each table of the result is the replay of the writes that concern it. -/

lemma categories_writeAll (c : Catalogue κ) (ws : List (Write κ)) :
    (c.writeAll ws).categories = replay c.categories (ws.filterMap Write.categoryLog?) := by
  induction ws generalizing c with
  | nil => rfl
  | cons w ws ih =>
      rw [writeAll_cons, ih]
      cases w <;> rfl

lemma attributes_writeAll (c : Catalogue κ) (ws : List (Write κ)) :
    (c.writeAll ws).attributes = replay c.attributes (ws.filterMap Write.attributeLog?) := by
  induction ws generalizing c with
  | nil => rfl
  | cons w ws ih =>
      rw [writeAll_cons, ih]
      cases w <;> rfl

lemma products_writeAll (c : Catalogue κ) (ws : List (Write κ)) :
    (c.writeAll ws).products = replay c.products (ws.filterMap Write.productLog?) := by
  induction ws generalizing c with
  | nil => rfl
  | cons w ws ih =>
      rw [writeAll_cons, ih]
      cases w <;> rfl

lemma values_writeAll (c : Catalogue κ) (ws : List (Write κ)) :
    (c.writeAll ws).values = replay c.values (ws.filterMap Write.valueLog?) := by
  induction ws generalizing c with
  | nil => rfl
  | cons w ws ih =>
      rw [writeAll_cons, ih]
      cases w <;> rfl

/-- Products are never removed. -/
lemma products_writeAll_isSome {c : Catalogue κ} {ws : List (Write κ)} {sku : String}
    (h : (c.products.lookup sku).isSome) : ((c.writeAll ws).products.lookup sku).isSome := by
  rw [products_writeAll]
  exact lookup_replay_isSome h

end Catalogue

namespace ProductViewSet

/-! ## Steps -/

/-- What a record does next: write a row, store its product, or raise. -/
inductive RecordStep (κ : Type)
  | write (w : Write κ)
  | product (sku : String) (columns : Except PyErr (ProductColumns κ))
  | raise (e : PyErr)

/-- The writes of a record up to its end or its first exception, and which of the two it was. -/
structure RecordRun (κ : Type) where
  writes : List (Write κ)
  outcome : Except PyErr Unit

def RecordRun.cons (w : Write κ) (r : RecordRun κ) : RecordRun κ :=
  { r with writes := w :: r.writes }

/-- What becomes of the product of a record. -/
inductive Turn
  | store
  | keep
  | raise (e : PyErr)
  deriving DecidableEq, Repr

/-- Run the steps.  The columns of a product that is kept are not even prepared. -/
def runSteps (turn : Turn) : List (RecordStep κ) → RecordRun κ
  | [] => ⟨[], .ok ()⟩
  | .write w :: steps => (runSteps turn steps).cons w
  | .product sku columns :: steps =>
    match turn with
    | .keep => runSteps turn steps
    | .raise e => ⟨[], .error e⟩
    | .store =>
      match columns with
      | .ok cols => (runSteps turn steps).cons (.product sku cols)
      | .error e => ⟨[], .error e⟩
  | .raise e :: _ => ⟨[], .error e⟩

/-- The steps for one attribute of a product. -/
def pairSteps (sku : String) (pair : PyValue × PyValue) : List (RecordStep κ) :=
  match textColumn pair.1 with
  | .error e => [.raise e]
  | .ok name =>
    .write (.attribute name) ::
      match storedText pair.2 with
      | .error e => [.raise e]
      | .ok value => [.write (.value sku name value)]

/-- The steps for the attributes of a product. -/
def attributeSteps (sku : String) (pairs : List (PyValue × PyValue)) : List (RecordStep κ) :=
  pairs.flatMap (pairSteps sku)

section

variable {pair : PyValue × PyValue} {name value : String} {e : PyErr}

lemma attributeSteps_of_ok (hname : textColumn pair.1 = .ok name)
    (hvalue : storedText pair.2 = .ok value) (sku : String) (pairs : List (PyValue × PyValue)) :
    (attributeSteps sku (pair :: pairs) : List (RecordStep κ)) =
      .write (.attribute name) :: .write (.value sku name value) :: attributeSteps sku pairs := by
  unfold attributeSteps
  rw [List.flatMap_cons, pairSteps, hname]
  dsimp only
  rw [hvalue]
  rfl

lemma attributeSteps_of_value_error (hname : textColumn pair.1 = .ok name)
    (hvalue : storedText pair.2 = .error e) (sku : String) (pairs : List (PyValue × PyValue)) :
    (attributeSteps sku (pair :: pairs) : List (RecordStep κ)) =
      .write (.attribute name) :: .raise e :: attributeSteps sku pairs := by
  unfold attributeSteps
  rw [List.flatMap_cons, pairSteps, hname]
  dsimp only
  rw [hvalue]
  rfl

lemma attributeSteps_of_error (hname : textColumn pair.1 = .error e) (sku : String)
    (pairs : List (PyValue × PyValue)) :
    (attributeSteps sku (pair :: pairs) : List (RecordStep κ)) =
      .raise e :: attributeSteps sku pairs := by
  unfold attributeSteps
  rw [List.flatMap_cons, pairSteps, hname]
  rfl

end

/-- The steps after the product `sku` is stored. -/
def valueSteps (productData : PyValue) (sku : String) : List (RecordStep κ) :=
  match attributesData productData with
  | .ok attributes => attributeSteps sku (attributePairs attributes)
  | .error e => [.raise e]

/-- The SKU a record names, as it is stored. -/
def recordSku (productData : PyValue) : Option String :=
  (productData.item "sku" >>= textColumn).toOption

section

variable (column : DecimalColumn κ)

/-- The steps from the product on. -/
def productSteps (productData : PyValue) (defaults : ProductDefaults) : List (RecordStep κ) :=
  match productData.item "sku" >>= textColumn with
  | .ok sku => .product sku (defaults.columns column) :: valueSteps productData sku
  | .error e => [.raise e]

/-- The steps of a record of the supplier `supplier`. -/
def recordSteps (productData : PyValue) (supplier : ℕ) : List (RecordStep κ) :=
  match productData.get "category" (.str "Без категории") >>= textColumn with
  | .error e => [.raise e]
  | .ok category =>
    .write (.category category) ::
      match productDefaults productData supplier category with
      | .error e => [.raise e]
      | .ok defaults => productSteps column productData defaults

/-- What becomes of a product, by the row that is there. -/
def rowTurn (updateExisting : Bool) : Option (Product κ) → Turn
  | none => .store
  | some p =>
    match p.load column with
    | .error e => .raise e
    | .ok _ => if updateExisting then .store else .keep

/-- What becomes of the product of a record. -/
def recordTurn (updateExisting : Bool) (c : Catalogue κ) (productData : PyValue) : Turn :=
  rowTurn column updateExisting ((recordSku productData).bind c.products.lookup)

def recordRun (productData : PyValue) (supplier : ℕ) (turn : Turn) : RecordRun κ :=
  runSteps turn (recordSteps column productData supplier)

end

/-! ## The program runs the steps -/

/-- What the run of a record does to a catalogue. -/
def RecordRun.onto (r : RecordRun κ) (c : Catalogue κ) : Except PyErr Unit × Catalogue κ :=
  (r.outcome, c.writeAll r.writes)

lemma getOrCreateCategory_apply (name : PyValue) (c : Catalogue κ) :
    Catalogue.getOrCreateCategory name c =
      match textColumn name with
      | .ok name => (.ok name, c.write (.category name))
      | .error e => (.error e, c) := by
  unfold Catalogue.getOrCreateCategory
  cases textColumn name with
  | error e => rfl
  | ok name =>
      simp only [getOrCreate_eq_upsert]
      rfl

lemma setAttribute_apply (sku : String) (pair : PyValue × PyValue) (c : Catalogue κ) :
    setAttribute sku pair c =
      match textColumn pair.1 with
      | .error e => (.error e, c)
      | .ok name =>
        match storedText pair.2 with
        | .error e => (.error e, c.write (.attribute name))
        | .ok value => (.ok (), (c.write (.attribute name)).write (.value sku name value)) := by
  unfold setAttribute Catalogue.getOrCreateAttribute Catalogue.updateOrCreateValue
  cases textColumn pair.1 with
  | error e => rfl
  | ok name =>
      simp only [getOrCreate_eq_upsert]
      cases storedText pair.2 <;> rfl

lemma forEach_setAttribute_apply (sku : String) (turn : Turn) (pairs : List (PyValue × PyValue))
    (c : Catalogue κ) :
    forEach (setAttribute sku) pairs c = (runSteps turn (attributeSteps sku pairs)).onto c := by
  induction pairs generalizing c with
  | nil => rfl
  | cons pair pairs ih =>
      rw [forEach_cons, bind_apply, setAttribute_apply]
      cases hname : textColumn pair.1 with
      | error e =>
          rw [attributeSteps_of_error hname]
          rfl
      | ok name =>
          cases hvalue : storedText pair.2 with
          | error e =>
              rw [attributeSteps_of_value_error hname hvalue]
              rfl
          | ok value =>
              rw [attributeSteps_of_ok hname hvalue]
              exact ih _

lemma setValues_apply (productData : PyValue) (sku : String) (turn : Turn) (c : Catalogue κ) :
    (lift (attributesData productData) >>= fun attributes =>
      forEach (setAttribute sku) (attributePairs attributes)) c =
      (runSteps turn (valueSteps productData sku)).onto c := by
  unfold valueSteps
  cases attributesData productData with
  | error e => rfl
  | ok attributes =>
      rw [lift_ok, pure_bind]
      exact forEach_setAttribute_apply sku turn _ c

variable (column : DecimalColumn κ)

lemma getProduct_apply (sku : String) (c : Catalogue κ) :
    Catalogue.getProduct column sku c =
      match c.products.lookup sku with
      | some p => ((p.load column).map fun _ => some p, c)
      | none => (.ok none, c) := by
  unfold Catalogue.getProduct
  rw [bind_of_ok (get_apply c)]
  cases c.products.lookup sku with
  | none => rfl
  | some p =>
      dsimp only
      cases p.load column <;> rfl

lemma storeProduct_apply (updateExisting : Bool) (sku : PyValue) (defaults : ProductDefaults)
    (c : Catalogue κ) :
    storeProduct column updateExisting sku defaults c =
      match textColumn sku with
      | .error e => (.error e, c)
      | .ok sku =>
        match rowTurn column updateExisting (c.products.lookup sku) with
        | .raise e => (.error e, c)
        | .keep => (.ok sku, c)
        | .store =>
          match defaults.columns column with
          | .error e => (.error e, c)
          | .ok cols => (.ok sku, c.write (.product sku cols)) := by
  cases htext : textColumn sku with
  | error e =>
      unfold storeProduct Catalogue.updateOrCreateProduct Catalogue.getOrCreateProduct
      rw [htext]
      cases updateExisting <;> rfl
  | ok key =>
      have hget := getProduct_apply column key c
      unfold storeProduct Catalogue.updateOrCreateProduct Catalogue.getOrCreateProduct
      rw [htext, lift_ok, pure_bind, pure_bind]
      dsimp only
      rcases hrow : c.products.lookup key with _ | p <;> rw [hrow] at hget
      · -- there is no such row, and both calls create it
        have hturn : rowTurn column updateExisting none = .store := rfl
        rw [hturn]
        cases updateExisting with
        | true =>
            rw [if_pos rfl, bind_of_ok hget]
            cases defaults.columns column <;> rfl
        | false =>
            rw [if_neg Bool.false_ne_true, bind_of_ok hget]
            cases defaults.columns column <;> rfl
      · -- both calls read the row first
        dsimp only at hget
        unfold rowTurn
        dsimp only
        rcases hload : p.load column with e | u <;> rw [hload] at hget
        · cases updateExisting with
          | true => rw [if_pos rfl, bind_of_error hget]
          | false => rw [if_neg Bool.false_ne_true, bind_of_error hget]
        · cases updateExisting with
          | true =>
              rw [if_pos rfl, bind_of_ok hget]
              cases defaults.columns column <;> rfl
          | false =>
              rw [if_neg Bool.false_ne_true, bind_of_ok hget]
              rfl

/-- The processing of a record does to the catalogue what the record's steps say. -/
theorem storeProductRecord_apply (productData : PyValue) (supplier : ℕ) (updateExisting : Bool)
    (c : Catalogue κ) :
    storeProductRecord column productData supplier updateExisting c =
      (recordRun column productData supplier
        (recordTurn column updateExisting c productData)).onto c := by
  unfold storeProductRecord recordRun recordSteps
  cases productData.get "category" (.str "Без категории") with
  | error e => rfl
  | ok name =>
    rw [lift_ok, pure_bind, bind_apply, getOrCreateCategory_apply, except_ok_bind]
    cases textColumn name with
    | error e => rfl
    | ok category =>
      dsimp only
      cases productDefaults productData supplier category with
      | error e => rfl
      | ok defaults =>
        rw [lift_ok, pure_bind]
        unfold productSteps recordTurn recordSku
        cases productData.item "sku" with
        | error e => rfl
        | ok skuValue =>
          rw [lift_ok, pure_bind, bind_apply, storeProduct_apply, except_ok_bind]
          cases textColumn skuValue with
          | error e => rfl
          | ok sku =>
            simp only [Except.toOption, Option.bind_some]
            -- the category does not change what becomes of the product
            have hproducts : (c.write (.category category)).products = c.products := rfl
            rw [hproducts]
            cases hturn : rowTurn column updateExisting (c.products.lookup sku) with
            | raise e => rfl
            | keep => exact setValues_apply productData sku .keep _
            | store =>
              cases hcolumns : defaults.columns column with
              | error e => rfl
              | ok columns => exact setValues_apply productData sku .store _

/-! ## What the steps write -/

/-- The writes for the values of a product. -/
def valueWrites (sku : String) (assigned : List (String × String)) : List (Write κ) :=
  assigned.flatMap fun nv => [.attribute nv.1, .value sku nv.1 nv.2]

/-- The assignments among the pairs up to the first one that raises. -/
def namedPairs : List (PyValue × PyValue) → List (String × String)
  | [] => []
  | (name, v) :: pairs =>
    match textColumn name, storedText v with
    | .ok name, .ok v => (name, v) :: namedPairs pairs
    | _, _ => []

/-- The name of the first pair that raises, when it is the value that does. -/
def unvaluedName : List (PyValue × PyValue) → Option String
  | [] => none
  | (name, v) :: pairs =>
    match textColumn name, storedText v with
    | .ok _, .ok _ => unvaluedName pairs
    | name, _ => name.toOption

/-- The attribute values a record assigns. -/
def assignments (productData : PyValue) : List (String × String) :=
  match attributesData productData with
  | .ok attributes => namedPairs (attributePairs attributes)
  | .error _ => []

/-- The attribute a record creates last, without a value. -/
def unvalued (productData : PyValue) : Option String :=
  match attributesData productData with
  | .ok attributes => unvaluedName (attributePairs attributes)
  | .error _ => none

/-- The attributes a record names, up to where it stops. -/
def attributeNames (productData : PyValue) : List String :=
  (assignments productData).map Prod.fst ++ (unvalued productData).toList

/-- What a record writes after its product. -/
def attributeWrites (productData : PyValue) (sku : String) : List (Write κ) :=
  valueWrites sku (assignments productData) ++ (unvalued productData).toList.map .attribute

lemma writes_attributeSteps (turn : Turn) (sku : String) (pairs : List (PyValue × PyValue)) :
    (runSteps turn (attributeSteps sku pairs) : RecordRun κ).writes =
      valueWrites sku (namedPairs pairs) ++ (unvaluedName pairs).toList.map .attribute := by
  induction pairs with
  | nil => rfl
  | cons pair pairs ih =>
      unfold namedPairs unvaluedName
      cases hname : textColumn pair.1 with
      | error e =>
          rw [attributeSteps_of_error hname]
          rfl
      | ok name =>
          cases hvalue : storedText pair.2 with
          | error e =>
              rw [attributeSteps_of_value_error hname hvalue]
              rfl
          | ok value =>
              rw [attributeSteps_of_ok hname hvalue]
              unfold runSteps runSteps
              simp only [RecordRun.cons, ih, valueWrites, List.flatMap_cons]
              rfl

lemma writes_valueSteps (turn : Turn) (productData : PyValue) (sku : String) :
    (runSteps turn (valueSteps productData sku) : RecordRun κ).writes =
      attributeWrites productData sku := by
  unfold valueSteps attributeWrites assignments unvalued
  cases attributesData productData with
  | error e => rfl
  | ok attributes => exact writes_attributeSteps turn sku _

/-- What becomes of the product makes no difference to its attributes. -/
lemma runSteps_attributeSteps (turn turn' : Turn) (sku : String)
    (pairs : List (PyValue × PyValue)) :
    (runSteps turn (attributeSteps sku pairs) : RecordRun κ) =
      runSteps turn' (attributeSteps sku pairs) := by
  induction pairs with
  | nil => rfl
  | cons pair pairs ih =>
      cases hname : textColumn pair.1 with
      | error e =>
          rw [attributeSteps_of_error hname]
          rfl
      | ok name =>
          cases hvalue : storedText pair.2 with
          | error e =>
              rw [attributeSteps_of_value_error hname hvalue]
              rfl
          | ok value =>
              rw [attributeSteps_of_ok hname hvalue]
              exact congrArg (fun r : RecordRun κ => (r.cons _).cons _) ih

lemma runSteps_valueSteps (turn turn' : Turn) (productData : PyValue) (sku : String) :
    (runSteps turn (valueSteps productData sku) : RecordRun κ) =
      runSteps turn' (valueSteps productData sku) := by
  unfold valueSteps
  cases attributesData productData with
  | error e => rfl
  | ok attributes => exact runSteps_attributeSteps turn turn' sku _

/-- Attribute steps that end normally had a name and a value in every pair. -/
lemma namedPairs_of_ok {turn : Turn} {sku : String} {pairs : List (PyValue × PyValue)}
    (h : (runSteps turn (attributeSteps sku pairs) : RecordRun κ).outcome = .ok ())
    (name : String) :
    (namedPairs pairs).filterMap (fun nv => if nv.1 = name then some nv.2 else none) =
      pairs.filterMap fun pair =>
        if textColumn pair.1 = .ok name then (storedText pair.2).toOption else none := by
  induction pairs with
  | nil => rfl
  | cons pair pairs ih =>
      unfold namedPairs
      cases hname : textColumn pair.1 with
      | error e =>
          rw [attributeSteps_of_error hname] at h
          cases h
      | ok name' =>
          cases hvalue : storedText pair.2 with
          | error e =>
              rw [attributeSteps_of_value_error hname hvalue] at h
              cases h
          | ok value =>
              rw [attributeSteps_of_ok hname hvalue] at h
              simp only [List.filterMap_cons, hname, hvalue, ih h, Except.ok.injEq,
                Except.toOption]

end ProductViewSet

end OrdersBackend
