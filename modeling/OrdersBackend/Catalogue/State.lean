import OrdersBackend.Framework.Transaction
import OrdersBackend.Framework.Upsert
import OrdersBackend.Python.Value

/-!
# The catalogue tables

The four tables an import writes: categories, attributes, products and the values of the
products' attributes.  Each is keyed by its unique column (the name, the name, the SKU, the
pair of product and attribute), so that two catalogues are equal when they differ in ids and
timestamps only; a foreign key is the key of the row it points to.

The functions below are the calls the program makes.  `get_or_create` and `update_or_create`
look a row up by its keyword, which reads the row that is there, and apply the defaults, which
reach the columns through `textColumn`, `naturalColumn` and the decimal column.  Both calls run
in a transaction of their own, so a value that a column refuses, or a row that cannot be read,
raises and leaves no trace.

The cells of the two price columns are a parameter `κ`, and what the columns do is a
`DecimalColumn`; `Price` is the type of the cells of ten digits.
-/

namespace OrdersBackend

open Framework

/-! ## Rows -/

/-- A row of `categories`, under its name. -/
structure Category where
  description : String
  parent : Option String
  deriving DecidableEq, Repr

/-- A row of `attributes`, under its name. -/
structure Attribute where
  description : String
  deriving DecidableEq, Repr

/-- The columns of `products` that every import record sets.  The supplier is its id, the
category its name. -/
structure ProductFields (κ : Type) where
  supplier : ℕ
  category : String
  name : String
  description : String
  price : κ
  stockQuantity : ℕ
  minOrderQuantity : ℕ
  unit : String
  isActive : Bool
  deriving DecidableEq, Repr

/-- A row of `products`, under its SKU. -/
structure Product (κ : Type) extends ProductFields κ where
  costPrice : Option κ
  deriving DecidableEq, Repr

/-- A price of ten digits. -/
abbrev Price := DecimalField 10

structure Catalogue (κ : Type) where
  categories : Finmap (fun _ : String => Category)
  attributes : Finmap (fun _ : String => Attribute)
  products : Finmap (fun _ : String => Product κ)
  values : Finmap (fun _ : String × String => String)
  deriving DecidableEq

variable {κ : Type}

@[ext] lemma Catalogue.ext {c c' : Catalogue κ} (h₁ : c.categories = c'.categories)
    (h₂ : c.attributes = c'.attributes) (h₃ : c.products = c'.products)
    (h₄ : c.values = c'.values) : c = c' := by
  cases c
  cases c'
  simp_all

def Catalogue.empty : Catalogue κ := ⟨∅, ∅, ∅, ∅⟩

/-! ## Columns -/

/-- `str(value)` as a text column stores it. -/
def storedText (v : PyValue) : Except PyErr String := do
  (← v.toStr).encode

/-- A text column that is not null. -/
def textColumn : PyValue → Except PyErr String
  | .none => .error .integrityError
  | v => storedText v

/-- A `PositiveIntegerField`: a check constraint refuses a negative number, the 64 bits of
the database a large one. -/
def naturalColumn (n : ℤ) : Except PyErr ℕ :=
  if n < 0 then .error .integrityError
  else if 2 ^ 63 ≤ n then .error .overflowError
  else .ok n.toNat

lemma eq_of_naturalColumn {n : ℤ} {m : ℕ} (h : naturalColumn n = .ok m) : n = m := by
  unfold naturalColumn at h
  split at h
  · cases h
  · split at h
    · cases h
    · have hm := Except.ok.inj h
      omega

/-- The dictionary `product_defaults`: the values a record gives, before they are stored. -/
structure ProductDefaults where
  supplier : ℕ
  category : String
  name : PyValue
  description : PyValue
  price : PyDecimal
  stockQuantity : ℤ
  minOrderQuantity : ℤ
  unit : PyValue
  isActive : Bool
  costPrice : Option PyDecimal

/-- The same values as the columns store them.  `costPrice` is `none` when the defaults do
not name that column. -/
structure ProductColumns (κ : Type) extends ProductFields κ where
  costPrice : Option κ
  deriving DecidableEq, Repr

section

variable (column : DecimalColumn κ)

/-- Prepare the cost price; a column the defaults do not name is left alone. -/
def costColumn : Option PyDecimal → Except PyErr (Option κ)
  | some cost => do return some (← column.save cost)
  | none => return none

/-- Prepare the defaults for the columns. -/
def ProductDefaults.columns (d : ProductDefaults) : Except PyErr (ProductColumns κ) := do
  let name ← textColumn d.name
  let description ← textColumn d.description
  let price ← column.save d.price
  let stockQuantity ← naturalColumn d.stockQuantity
  let minOrderQuantity ← naturalColumn d.minOrderQuantity
  let unit ← textColumn d.unit
  let costPrice ← costColumn column d.costPrice
  return { supplier := d.supplier, category := d.category, name, description, price,
           stockQuantity, minOrderQuantity, unit, isActive := d.isActive, costPrice }

/-- Read the row of a product: both prices are converted. -/
def Product.load (p : Product κ) : Except PyErr Unit := do
  let _ ← column.read p.price
  match p.costPrice with
  | some cost => do
    let _ ← column.read cost
    return ()
  | none => return ()

end

/-- A write sets every column its defaults name; the cost price may keep its value, which is
null in a new row. -/
instance : Patch (ProductColumns κ) (Product κ) where
  apply d o := { d.toProductFields with costPrice := d.costPrice.or (o.bind Product.costPrice) }
  merge d d' := { d' with costPrice := d'.costPrice.or d.costPrice }
  apply_merge d d' o := by simp [Option.or_assoc]
  apply_self d o := by cases d.costPrice <;> simp

lemma apply_productColumns (d : ProductColumns κ) (o : Option (Product κ)) :
    Patch.apply d o =
      { d.toProductFields with costPrice := d.costPrice.or (o.bind Product.costPrice) } := rfl

/-! ## `get_or_create` and `update_or_create` -/

namespace Catalogue

open Tx

/-- `Category.objects.get_or_create(name=name)`; the row is known by its name. -/
def getOrCreateCategory (name : PyValue) : Tx (Catalogue κ) PyErr String := do
  let name ← lift (textColumn name)
  modify fun c => { c with categories := getOrCreate c.categories name ⟨"", none⟩ }
  return name

/-- `Attribute.objects.get_or_create(name=name)`. -/
def getOrCreateAttribute (name : PyValue) : Tx (Catalogue κ) PyErr String := do
  let name ← lift (textColumn name)
  modify fun c => { c with attributes := getOrCreate c.attributes name ⟨""⟩ }
  return name

/-- `Product.objects.get(sku=sku)`, with `none` for `DoesNotExist`. -/
def getProduct (column : DecimalColumn κ) (sku : String) :
    Tx (Catalogue κ) PyErr (Option (Product κ)) := do
  match (← get).products.lookup sku with
  | some p => do
    lift (p.load column)
    return some p
  | none => return none

/-- `Product.objects.update_or_create(sku=sku, defaults=defaults)`. -/
def updateOrCreateProduct (column : DecimalColumn κ) (sku : PyValue) (defaults : ProductDefaults) :
    Tx (Catalogue κ) PyErr String := do
  let sku ← lift (textColumn sku)
  let _ ← getProduct column sku
  let columns ← lift (defaults.columns column)
  modify fun c => { c with products := upsert c.products sku columns }
  return sku

/-- `Product.objects.get_or_create(sku=sku, defaults=defaults)`: the defaults are looked at
only when there is no such product. -/
def getOrCreateProduct (column : DecimalColumn κ) (sku : PyValue) (defaults : ProductDefaults) :
    Tx (Catalogue κ) PyErr String := do
  let sku ← lift (textColumn sku)
  if (← getProduct column sku).isSome then return sku
  let columns ← lift (defaults.columns column)
  modify fun c => { c with products := upsert c.products sku columns }
  return sku

/-- `ProductAttribute.objects.update_or_create(product=sku, attribute=name,
defaults={'value': value})`. -/
def updateOrCreateValue (sku name value : String) : Tx (Catalogue κ) PyErr Unit :=
  modify fun c => { c with values := upsert c.values (sku, name) (⟨value⟩ : Overwrite String) }

end Catalogue

end OrdersBackend
