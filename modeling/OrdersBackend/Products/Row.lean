import OrdersBackend.Catalogue.Effects

/-!
# A product with its images

A row of `products` with all its columns: those the import sets, the SKU, the main image and
its thumbnails.  A file column holds the name under which the file is stored.  Three writers
set columns of a row: the import, the serializer on `PUT` and `PATCH`, and the upload of an
image.  `lookup_afterRecord_row` connects the first with the import of the catalogue.

`save()` writes back what was read, prices too: `ProductRow.resaved` is what it makes of the
cells.  It changes nothing in a column that rounds on saving (`resaved_strict`), and nothing
that a read shows in any column that reads back what it gave out (`Resaves`).
-/

namespace OrdersBackend

open Framework

/-- The columns `image_thumbnail`, `image_small`, `image_medium` and `image_large`. -/
structure Thumbnails where
  thumbnail : Option String
  small : Option String
  medium : Option String
  large : Option String
  deriving DecidableEq, Repr

structure ProductRow (κ : Type) extends Product κ where
  sku : String
  image : Option String
  thumbnails : Thumbnails
  deriving DecidableEq, Repr

/-- The validated data of `PUT` and `PATCH`, the prices as the column stores them; a key that is
not there is `none`.  All columns of the model but the times are writable, those of the
thumbnails too. -/
structure ProductData (κ : Type) where
  supplier : Option ℕ
  category : Option String
  name : Option String
  sku : Option String
  description : Option String
  price : Option κ
  costPrice : Option (Option κ)
  stockQuantity : Option ℕ
  minOrderQuantity : Option ℕ
  unit : Option String
  isActive : Option Bool
  image : Option (Option String)
  thumbnail : Option (Option String)
  small : Option (Option String)
  medium : Option (Option String)
  large : Option (Option String)
  deriving DecidableEq, Repr

def ProductData.empty {κ : Type} : ProductData κ :=
  ⟨none, none, none, none, none, none, none, none, none, none, none, none, none, none, none, none⟩

variable {κ : Type}

/-- A product with its prices converted. -/
def Product.map {κ' : Type} (f : κ → κ') (p : Product κ) : Product κ' where
  supplier := p.supplier
  category := p.category
  name := p.name
  description := p.description
  price := f p.price
  stockQuantity := p.stockQuantity
  minOrderQuantity := p.minOrderQuantity
  unit := p.unit
  isActive := p.isActive
  costPrice := p.costPrice.map f

namespace DecimalColumn

variable (column : DecimalColumn κ)

/-- Save a cell as it was read. -/
def resave (cell : κ) : κ :=
  match column.read cell >>= column.save with
  | .ok cell => cell
  | .error _ => cell

/-- What a cell was read as can be saved, and is read again. -/
def Resaves : Prop :=
  ∀ cell d, column.read cell = .ok d → ∃ cell', column.save d = .ok cell' ∧
    column.read cell' = .ok d

lemma read_resave {column : DecimalColumn κ} (h : column.Resaves) (cell : κ) :
    column.read (column.resave cell) = column.read cell := by
  unfold resave
  rcases hread : column.read cell with e | d
  · exact hread
  · obtain ⟨cell', hsave, hagain⟩ := h cell d hread
    rw [except_ok_bind, hsave]
    exact hagain

/-- What is saved depends on what was read. -/
lemma read_resave_congr {cell cell' : κ} (h : column.read cell = column.read cell') :
    column.read (column.resave cell) = column.read (column.resave cell') := by
  unfold resave
  rw [h]
  rcases column.read cell' with e | d
  · exact h
  · rw [except_ok_bind]
    rcases column.save d with e | saved
    · exact h
    · rfl

/-- The decimal of a cell in hundredths is saved as that cell. -/
lemma toColumn_of_cents {maxDigits : ℕ} (cell : DecimalField maxDigits) :
    PyDecimal.toColumn maxDigits (.finite (cell.cents < 0) cell.cents.natAbs (-2)) = .ok cell := by
  have hsign : (if cell.cents < 0 then -(cell.cents.natAbs : ℤ) else (cell.cents.natAbs : ℤ)) =
      cell.cents := by
    split <;> omega
  have hcents : hundredths cell.cents.natAbs (-2) = cell.cents.natAbs := by simp [hundredths]
  unfold PyDecimal.toColumn
  simp only [hcents, decide_eq_true_eq]
  rw [hsign, DecimalField.ofCents_cents]

lemma resave_strict {maxDigits : ℕ} (cell : DecimalField maxDigits) :
    (strict maxDigits).resave cell = cell := by
  unfold resave
  simp only [strict, except_ok_bind, toColumn_of_cents]

lemma resaves_strict (maxDigits : ℕ) : (strict maxDigits).Resaves := by
  rintro cell d ⟨⟩
  exact ⟨cell, toColumn_of_cents cell, rfl⟩

lemma resaves_late (maxDigits : ℕ) : (late maxDigits).Resaves := by
  intro d d' hread
  obtain ⟨cell, -, hcell⟩ := except_bind_eq_ok.mp hread
  cases hcell
  refine ⟨_, rfl, ?_⟩
  simp only [late, toColumn_of_cents, except_ok_bind]
  rfl

end DecimalColumn

namespace ProductRow

/-- The loop of `ProductSerializer.update` over the validated fields. -/
def withData (row : ProductRow κ) (data : ProductData κ) : ProductRow κ where
  supplier := data.supplier.getD row.supplier
  category := data.category.getD row.category
  name := data.name.getD row.name
  description := data.description.getD row.description
  price := data.price.getD row.price
  stockQuantity := data.stockQuantity.getD row.stockQuantity
  minOrderQuantity := data.minOrderQuantity.getD row.minOrderQuantity
  unit := data.unit.getD row.unit
  isActive := data.isActive.getD row.isActive
  costPrice := data.costPrice.getD row.costPrice
  sku := data.sku.getD row.sku
  image := data.image.getD row.image
  thumbnails :=
    { thumbnail := data.thumbnail.getD row.thumbnails.thumbnail
      small := data.small.getD row.thumbnails.small
      medium := data.medium.getD row.thumbnails.medium
      large := data.large.getD row.thumbnails.large }

/-- `product.image = file` in `upload_image`. -/
def withImage (row : ProductRow κ) (image : String) : ProductRow κ :=
  { row with image := some image }

/-- What a record of an import by `supplier` makes of the row: it stores its columns on the
product of its SKU, unless the row cannot be read or the import keeps the products that are
there. -/
def withRecord (column : DecimalColumn κ) (row : ProductRow κ) (supplier : ℕ)
    (updateExisting : Bool) (productData : PyValue) : ProductRow κ :=
  match ProductViewSet.stored column productData supplier with
  | some (sku, columns) =>
    if sku = row.sku ∧
        ProductViewSet.rowTurn column updateExisting (some row.toProduct) = .store then
      { row with toProduct := Patch.apply columns (some row.toProduct) }
    else row
  | none => row

/-- The thumbnails a task has made, set on its copy; a size it could not make stays. -/
def withThumbnails (row : ProductRow κ) (made : Thumbnails) : ProductRow κ :=
  { row with
    thumbnails :=
      { thumbnail := made.thumbnail.or row.thumbnails.thumbnail
        small := made.small.or row.thumbnails.small
        medium := made.medium.or row.thumbnails.medium
        large := made.large.or row.thumbnails.large } }

/-- `save()` of a row that was read writes its prices back. -/
def resaved (column : DecimalColumn κ) (row : ProductRow κ) : ProductRow κ :=
  { row with toProduct := row.toProduct.map column.resave }

lemma resaved_strict (row : ProductRow Price) : row.resaved (.strict 10) = row := by
  have hresave : (DecimalColumn.strict 10).resave = id := funext DecimalColumn.resave_strict
  unfold resaved Product.map
  rw [hresave, Option.map_id]
  rfl

end ProductRow

namespace ProductViewSet

/-- The import of a record does to the columns of a product in the catalogue what `withRecord`
does to its row. -/
lemma lookup_afterRecord_row {c : Catalogue κ} {row : ProductRow κ}
    (h : c.products.lookup row.sku = some row.toProduct) (column : DecimalColumn κ)
    (supplier : ℕ) (updateExisting : Bool) (productData : PyValue) :
    (afterRecord column supplier updateExisting c productData).products.lookup row.sku =
      some (row.withRecord column supplier updateExisting productData).toProduct := by
  unfold ProductRow.withRecord
  by_cases hother : ∀ columns, stored column productData supplier ≠ some (row.sku, columns)
  · rw [lookup_products_afterRecord_of_ne hother, h]
    rcases hstored : stored column productData supplier with _ | ⟨sku, columns⟩
    · rfl
    · have hne : sku ≠ row.sku := by
        rintro rfl
        exact hother columns hstored
      dsimp only
      rw [if_neg fun hstores => hne hstores.1]
  · push Not at hother
    obtain ⟨columns, hstored⟩ := hother
    rw [hstored]
    dsimp only
    by_cases hturn : rowTurn column updateExisting (some row.toProduct) = .store
    · rw [if_pos ⟨rfl, hturn⟩, lookup_products_afterRecord hstored (h ▸ hturn), h]
    · rw [if_neg fun hstores => hturn hstores.2,
        lookup_products_afterRecord_of_turn h hturn]

end ProductViewSet

end OrdersBackend
