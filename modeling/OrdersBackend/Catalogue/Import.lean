import OrdersBackend.Catalogue.State

/-!
# The price list import

`ProductViewSet.import_products` from the parsed elements on: the validation of one element,
the processing of one element, and the loop over the file inside one transaction, followed by
the row of the import log.

`validateProductData` runs outside every `try`, and the clauses inside it catch `ValueError`
and `TypeError` only; an exception that passes them leaves `processProductRecord` and, in the
loop, the transaction.  Everything after the validation stands under `except Exception`; its
handler prints the SKU, and leaves `processProductRecord` as well when that raises.

The messages of the records are kept as `RecordMessage`s; `RecordMessage.text` is the text the
program makes of one, as the log stores it.  The text of an exception, `str(e)`, belongs to
Python and Django and is a parameter there.
-/

namespace OrdersBackend

open Framework Tx

/-! ## Messages -/

inductive RecordError
  | missingField (field : String)
  | priceNotPositive
  | priceFormat
  | quantityNegative
  | quantityFormat
  | costNegative
  | costFormat
  | processing (sku : PyText) (e : PyErr)
  deriving DecidableEq, Repr

/-- An error of a record, with the row number of a CSV file. -/
structure RecordMessage where
  rowNum : Option ℕ
  error : RecordError
  deriving DecidableEq, Repr

/-- The text of an error, as the log stores it: a SKU with a surrogate is refused. -/
def RecordError.text (strExc : PyErr → String) : RecordError → Except PyErr String
  | missingField field => .ok s!"Отсутствует обязательное поле: {field}"
  | priceNotPositive => .ok "Цена должна быть положительной"
  | priceFormat => .ok "Некорректный формат цены"
  | quantityNegative => .ok "Количество не может быть отрицательным"
  | quantityFormat => .ok "Некорректный формат количества"
  | costNegative => .ok "Себестоимость не может быть отрицательной"
  | costFormat => .ok "Некорректный формат себестоимости"
  | processing sku e => do
    return "Ошибка обработки товара " ++ (← sku.encode) ++ ": " ++ strExc e

def RecordMessage.text (strExc : PyErr → String) (m : RecordMessage) : Except PyErr String :=
  match m.rowNum with
  | some n => do return "Строка " ++ toString n ++ ": " ++ (← m.error.text strExc)
  | none => m.error.text strExc

namespace ProductViewSet

/-! ## Validation -/

def requiredFields : List String := ["sku", "name", "price", "stock_quantity"]

/-- `field in product_data and product_data[field]`. -/
def hasField (productData : PyValue) (field : String) : Except PyErr Bool := do
  if ← productData.contains field then return (← productData.item field).truthy
  else return false

/-- The loop over the required fields. -/
def missingFields (productData : PyValue) : List String → Except PyErr (List RecordError)
  | [] => return []
  | field :: fields => do
    let filled ← hasField productData field
    let rest ← missingFields productData fields
    return if filled then rest else .missingField field :: rest

/-- `except (ValueError, TypeError)` around one check. -/
def orFormatError (error : RecordError) (check : Except PyErr (List RecordError)) :
    Except PyErr (List RecordError) :=
  match check with
  | .ok errors => .ok errors
  | .error e => if e.isValueOrTypeError then .ok [error] else .error e

def priceErrors (productData : PyValue) : Except PyErr (List RecordError) :=
  orFormatError .priceFormat do
    if ← productData.contains "price" then
      let price ← (← productData.item "price").toDecimal
      return if ← price.leZero then [.priceNotPositive] else []
    else return []

def quantityErrors (productData : PyValue) : Except PyErr (List RecordError) :=
  orFormatError .quantityFormat do
    if ← productData.contains "stock_quantity" then
      let qty ← (← productData.item "stock_quantity").toInt
      return if qty < 0 then [.quantityNegative] else []
    else return []

/-- `'cost_price' in product_data and product_data['cost_price']`. -/
def givenCost (productData : PyValue) : Except PyErr (Option PyValue) := do
  if ← productData.contains "cost_price" then
    let cost ← productData.item "cost_price"
    return if cost.truthy then some cost else none
  else return none

/-- The test whether a cost price is given stands before the `try` here. -/
def costErrors (productData : PyValue) : Except PyErr (List RecordError) := do
  match ← givenCost productData with
  | some cost =>
    orFormatError .costFormat do
      return if ← (← cost.toDecimal).ltZero then [.costNegative] else []
  | none => return []

/-- The errors of a record, before the row number is put in front of them. -/
def recordErrors (productData : PyValue) : Except PyErr (List RecordError) := do
  let missing ← missingFields productData requiredFields
  let price ← priceErrors productData
  let quantity ← quantityErrors productData
  let cost ← costErrors productData
  return missing ++ price ++ quantity ++ cost

def validateProductData (productData : PyValue) (rowNum : Option ℕ) :
    Except PyErr (List RecordMessage) := do
  let errors ← recordErrors productData
  return errors.map (RecordMessage.mk rowNum)

/-! ## One record -/

/-- `str(v).lower() == 'true'`. -/
def isTrueText (v : PyValue) : Except PyErr Bool := do
  return (← v.toStr).isTrue

/-- The entry `cost_price` of the defaults, made when the record gives a cost. -/
def costDefault (productData : PyValue) : Except PyErr (Option PyDecimal) := do
  match ← givenCost productData with
  | some cost => return some (← cost.toDecimal)
  | none => return none

/-- The dictionary `product_defaults`. -/
def productDefaults (productData : PyValue) (supplier : ℕ) (category : String) :
    Except PyErr ProductDefaults := do
  let name ← productData.item "name"
  let description ← productData.get "description" (.str "")
  let price ← (← productData.item "price").toDecimal
  let stockQuantity ← (← productData.item "stock_quantity").toInt
  let minOrderQuantity ← (← productData.get "min_order_quantity" (.int 1)).toInt
  let unit ← productData.get "unit" (.str "шт")
  let isActive ← isTrueText (← productData.get "is_active" (.str "true"))
  let costPrice ← costDefault productData
  return { supplier, category, name, description, price, stockQuantity, minOrderQuantity, unit,
           isActive, costPrice }

/-- The name and the value of one part of the notation `name:value;name:value`. -/
def splitPair {α : Type} [DecidableEq α] (colon : α) (space : α → Bool) (part : List α) :
    Option (List α × List α) :=
  if colon ∈ part then
    let name := Python.trim space (Python.splitFirst colon part).1
    let value := Python.trim space (Python.splitFirst colon part).2
    if name ≠ [] ∧ value ≠ [] then some (name, value) else none
  else none

/-- The pair of one part of a text. -/
def textPair (part : List Char) : Option (PyValue × PyValue) :=
  (splitPair ':' Python.isSpace part).map fun pair =>
    (.str (String.ofList pair.1), .str (String.ofList pair.2))

/-- The same for a text with surrogates. -/
def pointsPair (part : List PyChar) : Option (PyValue × PyValue) :=
  (splitPair (.char ':') PyChar.isSpace part).map fun pair =>
    (.ofText (.ofPoints pair.1), .ofText (.ofPoints pair.2))

/-- One entry of the notation `{name: value}`. -/
def entryPair (entry : PyValue × PyValue) : Option (PyValue × PyValue) :=
  if entry.1.truthy && entry.2.truthy then some entry else none

/-- One element of the notation `[{'name': name, 'value': value}]`. -/
def objectPair : PyValue → Option (PyValue × PyValue)
  | .dict items _ =>
    match PyValue.find "name" items, PyValue.find "value" items with
    | some name, some value => some (name, value)
    | _, _ => none
  | _ => none

/-- The attribute names and values a record gives, in the order in which they are written. -/
def attributePairs : PyValue → List (PyValue × PyValue)
  | .str s => (s.toList.splitOn ';').filterMap textPair
  | .surrogates s => (s.points.splitOn (.char ';')).filterMap pointsPair
  | .dict items _ => items.filterMap entryPair
  | .list items _ => items.filterMap objectPair
  | _ => []

/-- The value of `attributes`; the default is the empty dictionary. -/
def attributesData (productData : PyValue) : Except PyErr PyValue :=
  productData.get "attributes" (.dict [] (.ok "{}"))

section

variable {κ : Type} (column : DecimalColumn κ)

/-- The writes for one attribute of a product: the name first, then `str` of the value. -/
def setAttribute (sku : String) (pair : PyValue × PyValue) : Tx (Catalogue κ) PyErr Unit := do
  let name ← Catalogue.getOrCreateAttribute pair.1
  let value ← lift (storedText pair.2)
  Catalogue.updateOrCreateValue sku name value

/-- Find or create the product of a record. -/
def storeProduct (updateExisting : Bool) (sku : PyValue) (defaults : ProductDefaults) :
    Tx (Catalogue κ) PyErr String :=
  if updateExisting then Catalogue.updateOrCreateProduct column sku defaults
  else Catalogue.getOrCreateProduct column sku defaults

/-- The body of the `try` of `_process_product_record`. -/
def storeProductRecord (productData : PyValue) (supplier : ℕ) (updateExisting : Bool) :
    Tx (Catalogue κ) PyErr Unit := do
  let categoryName ← lift (productData.get "category" (.str "Без категории"))
  let category ← Catalogue.getOrCreateCategory categoryName
  let defaults ← lift (productDefaults productData supplier category)
  let sku ← lift (productData.item "sku")
  let product ← storeProduct column updateExisting sku defaults
  let attributes ← lift (attributesData productData)
  forEach (setAttribute product) (attributePairs attributes)

def processProductRecord (productData : PyValue) (supplier : ℕ) (updateExisting : Bool)
    (rowNum : Option ℕ) : Tx (Catalogue κ) PyErr (Bool × List RecordMessage) := do
  let errors ← lift (validateProductData productData rowNum)
  if errors ≠ [] then return (false, errors)
  -- `except Exception`, with no savepoint: what the record has written before stays
  tryCatch
    (do storeProductRecord column productData supplier updateExisting
        return (true, []))
    (fun e => do
      let sku ← lift (productData.get "sku" (.str "N/A"))
      let sku ← lift sku.toStr
      return (false, [⟨rowNum, .processing sku e⟩]))

end

/-! ## The file -/

inductive FileFormat
  | csv
  | json
  | yaml
  deriving DecidableEq, Repr

def FileFormat.name : FileFormat → String
  | csv => "csv"
  | json => "json"
  | yaml => "yaml"

def FileFormat.upperName : FileFormat → String
  | csv => "CSV"
  | json => "JSON"
  | yaml => "YAML"

/-- The counters of the loop. -/
structure ImportTotals where
  successCount : ℕ
  failedCount : ℕ
  errors : List RecordMessage
  deriving DecidableEq, Repr

/-- Count one processed record. -/
def ImportTotals.count (t : ImportTotals) (result : Bool × List RecordMessage) : ImportTotals :=
  if result.1 then { t with successCount := t.successCount + 1 }
  else { t with failedCount := t.failedCount + 1, errors := t.errors ++ result.2 }

/-- The loop `for idx, product_data in enumerate(products_data, start=idx)`. -/
def importLoop {κ : Type} (column : DecimalColumn κ) (supplier : ℕ) (updateExisting : Bool)
    (fileFormat : FileFormat) :
    ℕ → List PyValue → ImportTotals → Tx (Catalogue κ) PyErr ImportTotals
  | _, [], totals => return totals
  | idx, productData :: productsData, totals => do
    let rowNum := if fileFormat = .csv then some idx else none
    let result ← processProductRecord column productData supplier updateExisting rowNum
    importLoop column supplier updateExisting fileFormat (idx + 1) productsData
      (totals.count result)

/-- A row of `price_update_logs`. -/
structure PriceUpdateLog where
  supplier : ℕ
  fileName : String
  recordsCount : ℕ
  successCount : ℕ
  failedCount : ℕ
  notes : String
  deriving DecidableEq, Repr

/-- The tables an import reads and writes. -/
structure ImportDb (κ : Type) where
  catalogue : Catalogue κ
  logs : List PriceUpdateLog
  deriving DecidableEq

/-- The body of the answer.  `errors` holds the first ten messages, `totalErrors` the number of
all of them when there are more. -/
structure ImportResponse where
  message : String
  format : String
  successCount : ℕ
  failedCount : ℕ
  totalCount : ℕ
  errors : List String
  totalErrors : Option ℕ
  deriving DecidableEq, Repr

section

variable {κ : Type} (column : DecimalColumn κ)

/-- The `with transaction.atomic()` block of `import_products`. -/
def importRecords (supplier : ℕ) (updateExisting : Bool) (fileFormat : FileFormat)
    (productsData : List PyValue) : Tx (Catalogue κ) PyErr ImportTotals :=
  atomic (importLoop column supplier updateExisting fileFormat 1 productsData ⟨0, 0, []⟩)

/-- `import_products`, run by the supplier `supplier`, from the parsed elements on.  The log is
created after the transaction.  It raises on a message that its column cannot take; nothing else
about its write fails in the model. -/
def importProducts (strExc : PyErr → String) (supplier : ℕ) (fileName : String)
    (fileFormat : FileFormat) (updateExisting : Bool) (productsData : List PyValue) :
    Tx (ImportDb κ) PyErr ImportResponse := do
  let totals ← zoom ImportDb.catalogue (fun c db => { db with catalogue := c })
    (importRecords column supplier updateExisting fileFormat productsData)
  -- `PriceUpdateLog.objects.create`, when the records are committed already
  let texts ← lift (totals.errors.mapM (RecordMessage.text strExc))
  modify fun db =>
    { db with
      logs := db.logs ++
        [{ supplier, fileName,
           recordsCount := totals.successCount + totals.failedCount,
           successCount := totals.successCount,
           failedCount := totals.failedCount,
           notes := "\n".intercalate texts }] }
  return { message := "Импорт из " ++ fileFormat.upperName ++ " завершен",
           format := fileFormat.name,
           successCount := totals.successCount,
           failedCount := totals.failedCount,
           totalCount := totals.successCount + totals.failedCount,
           errors := texts.take 10,
           totalErrors := if 10 < texts.length then some texts.length else none }

end

end ProductViewSet

end OrdersBackend
