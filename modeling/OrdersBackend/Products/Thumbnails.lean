import OrdersBackend.Framework.Copies
import OrdersBackend.Products.Row

/-!
# Thumbnails made in the background

`process_product_image` reads a product, makes its thumbnails, which takes a while, and saves
the row it has read: `product.save()` writes every column, and whatever other requests have
written to the product in the meantime is gone.

The columns of a product other than its thumbnails are those of its own writers exactly when no
task saves a copy that differs from the row in one of them (`updatesStay_iff`).  A price is
what a read of the row shows: all that is used of the price columns is that a price which has
been read can be saved again (`DecimalColumn.Resaves`).
-/

namespace OrdersBackend

open Framework

variable {κ : Type}

/-- The columns that are not thumbnails, as they are read. -/
def ProductRow.columns (column : DecimalColumn κ) (row : ProductRow κ) :
    Product (Except PyErr PyDecimal) × String × Option String :=
  (row.toProduct.map column.read, row.sku, row.image)

/-- A write to the product, or a step of a task.  `taskSave` carries the names of the files the
task has made, and `taskEnds` is a task that raised, or whose save the database refused. -/
inductive ProductStep (κ : Type)
  | importRecord (supplier : ℕ) (updateExisting : Bool) (productData : PyValue)
  | update (data : ProductData κ)
  | uploadImage (name : String)
  | taskRead
  | taskSave (task : ℕ) (made : Thumbnails)
  | taskEnds (task : ℕ)

namespace ProductStep

open ProductViewSet

section

variable (column : DecimalColumn κ)

/-- The writes are updates of the row.  A request that cannot read the row ends there, and so
does a task; a task keeps a copy of a row that has an image. -/
def copyStep : ProductStep κ → CopyStep (ProductRow κ)
  | importRecord supplier updateExisting productData =>
    .update fun row => row.withRecord column supplier updateExisting productData
  | update data =>
    .update fun row =>
      if Loads column row.toProduct then (row.resaved column).withData data else row
  | uploadImage name =>
    .update fun row =>
      if Loads column row.toProduct then (row.resaved column).withImage name else row
  | taskRead => .read fun row => Loads column row.toProduct ∧ row.image.isSome
  | taskSave task made => .save task fun copy => (copy.resaved column).withThumbnails made
  | taskEnds task => .drop task

def exec (step : ProductStep κ) (s : WithCopies (ProductRow κ)) : WithCopies (ProductRow κ) :=
  (step.copyStep column).exec s

end

/-- A step of a writer, which is no step of a task. -/
def isWrite : ProductStep κ → Bool
  | importRecord _ _ _ | update _ | uploadImage _ => true
  | taskRead | taskSave _ _ | taskEnds _ => false

variable {column : DecimalColumn κ}

lemma loads_congr {p p' : Product κ} (h : p.map column.read = p'.map column.read) :
    p.load column = p'.load column := by
  obtain ⟨hprice, hcost⟩ : column.read p.price = column.read p'.price ∧
      p.costPrice.map column.read = p'.costPrice.map column.read :=
    ⟨congrArg (fun q => q.price) h, congrArg Product.costPrice h⟩
  unfold Product.load
  rw [hprice]
  generalize p.costPrice = o at hcost ⊢
  generalize p'.costPrice = o' at hcost ⊢
  match o, o', hcost with
  | none, none, _ => rfl
  | some cost, some cost', hcost =>
    simp only [show column.read cost = column.read cost' from Option.some.inj hcost]

lemma rowTurn_congr {p p' : Product κ} (h : p.map column.read = p'.map column.read)
    (updateExisting : Bool) :
    rowTurn column updateExisting (some p) = rowTurn column updateExisting (some p') := by
  simp only [rowTurn, loads_congr h]

lemma columns_resaved_congr {row row' : ProductRow κ}
    (h : row.columns column = row'.columns column) :
    (row.resaved column).columns column = (row'.resaved column).columns column := by
  simp only [ProductRow.columns, ProductRow.resaved, Product.map, Prod.mk.injEq, Product.mk.injEq,
    ProductFields.mk.injEq, Option.map_map] at h ⊢
  obtain ⟨⟨⟨hsupplier, hcategory, hname, hdescription, hprice, hstock⟩, hcost⟩, hrest⟩ := h
  refine ⟨⟨⟨hsupplier, hcategory, hname, hdescription, column.read_resave_congr hprice, hstock⟩,
    ?_⟩, hrest⟩
  generalize row.costPrice = o at hcost ⊢
  generalize row'.costPrice = o' at hcost ⊢
  match o, o', hcost with
  | none, none, _ => rfl
  | some cost, some cost', hcost =>
    exact congrArg some (column.read_resave_congr (Option.some.inj hcost))

lemma columns_resaved (h : column.Resaves) (row : ProductRow κ) :
    (row.resaved column).columns column = row.columns column := by
  have hread : column.read ∘ column.resave = column.read := funext (DecimalColumn.read_resave h)
  simp only [ProductRow.columns, ProductRow.resaved, Product.map, Option.map_map, hread,
    DecimalColumn.read_resave h]

lemma columns_withData_congr {row row' : ProductRow κ}
    (h : row.columns column = row'.columns column) (data : ProductData κ) :
    (row.withData data).columns column = (row'.withData data).columns column := by
  simp only [ProductRow.columns, ProductRow.withData, Product.map, Prod.mk.injEq,
    Product.mk.injEq, ProductFields.mk.injEq] at h ⊢
  obtain ⟨⟨⟨hsupplier, hcategory, hname, hdescription, hprice, hstock, hmin, hunit, hactive⟩,
    hcost⟩, hsku, himage⟩ := h
  rw [hsupplier, hcategory, hname, hdescription, hstock, hmin, hunit, hactive, hsku, himage]
  refine ⟨⟨⟨rfl, rfl, rfl, rfl, ?_, rfl, rfl, rfl, rfl⟩, ?_⟩, rfl, rfl⟩
  · cases data.price with
    | none => exact hprice
    | some price => rfl
  · cases data.costPrice with
    | none => exact hcost
    | some cost => rfl

/-- Two rows with the same columns differ in the thumbnails only. -/
lemma eq_of_columns {row row' : ProductRow κ} (h : row.columns column = row'.columns column) :
    row.toProduct.map column.read = row'.toProduct.map column.read ∧ row.sku = row'.sku ∧
      row.image = row'.image := by
  simpa [ProductRow.columns] using h

lemma columns_withImage_congr {row row' : ProductRow κ}
    (h : row.columns column = row'.columns column) (name : String) :
    (row.withImage name).columns column = (row'.withImage name).columns column := by
  obtain ⟨hproduct, hsku, -⟩ := eq_of_columns h
  simp [ProductRow.columns, ProductRow.withImage, hproduct, hsku]

lemma columns_withRecord_congr {row row' : ProductRow κ}
    (h : row.columns column = row'.columns column) (supplier : ℕ) (updateExisting : Bool)
    (productData : PyValue) :
    (row.withRecord column supplier updateExisting productData).columns column =
      (row'.withRecord column supplier updateExisting productData).columns column := by
  obtain ⟨hproduct, hsku, himage⟩ := eq_of_columns h
  unfold ProductRow.withRecord
  rw [hsku, rowTurn_congr hproduct]
  rcases stored column productData supplier with _ | ⟨sku, columns⟩
  · exact h
  dsimp only
  split
  · -- only the cost price may be that of the row
    have hcost : row.costPrice.map column.read = row'.costPrice.map column.read :=
      congrArg Product.costPrice hproduct
    simp only [ProductRow.columns, apply_productColumns, Product.map, Option.bind_some,
      Option.map_or, hcost, himage]
  · exact h

/-- A request writes the row that it has read, and nothing when it could not read it. -/
lemma columns_reloaded_congr {write : ProductRow κ → ProductRow κ}
    (hwrite : ∀ {row row' : ProductRow κ}, row.columns column = row'.columns column →
      (write row).columns column = (write row').columns column)
    {row row' : ProductRow κ} (h : row.columns column = row'.columns column) :
    (if Loads column row.toProduct then write (row.resaved column) else row).columns column =
      (if Loads column row'.toProduct then write (row'.resaved column) else row').columns
        column := by
  have hloads : Loads column row.toProduct ↔ Loads column row'.toProduct := by
    unfold Loads
    rw [loads_congr (eq_of_columns h).1]
  by_cases hreads : Loads column row.toProduct
  · rw [if_pos hreads, if_pos (hloads.mp hreads)]
    exact hwrite (columns_resaved_congr h)
  · rw [if_neg hreads, if_neg (hloads.not.mp hreads)]
    exact h

/-- The columns a writer leaves depend on the columns it finds, and a task sets none of them. -/
lemma respects_columns (hresaves : column.Resaves) (step : ProductStep κ) :
    CopyStep.Respects (ProductRow.columns column) (step.copyStep column) := by
  rcases step with ⟨supplier, updateExisting, productData⟩ | data | name | _ | ⟨task, made⟩ | task
  · exact fun row row' h => columns_withRecord_congr h supplier updateExisting productData
  · exact fun row row' h =>
      columns_reloaded_congr (fun hcolumns => columns_withData_congr hcolumns data) h
  · exact fun row row' h =>
      columns_reloaded_congr (fun hcolumns => columns_withImage_congr hcolumns name) h
  · trivial
  · exact fun row => columns_resaved hresaves row
  · trivial

end ProductStep

open ProductStep

/-- After every part of the run the columns are those the writers alone have left. -/
def UpdatesStay (column : DecimalColumn κ) (row : ProductRow κ) (steps : List (ProductStep κ)) :
    Prop :=
  ∀ earlier later, steps = earlier ++ later →
    (run (exec column) ⟨row, []⟩ earlier).row.columns column =
      (run (exec column) ⟨row, []⟩ (earlier.filter isWrite)).row.columns column

/-- A copy that a task saves has the columns of the row it replaces. -/
def SavesCurrentCopy (column : DecimalColumn κ) (s : WithCopies (ProductRow κ)) :
    ProductStep κ → Prop
  | taskSave task _ =>
    ∀ copy, s.copies[task]? = some copy → copy.columns column = s.row.columns column
  | importRecord _ _ _ | update _ | uploadImage _ | taskRead | taskEnds _ => True

variable (column : DecimalColumn κ)

lemma run_copyStep (steps : List (ProductStep κ)) (s : WithCopies (ProductRow κ)) :
    run CopyStep.exec s (steps.map (copyStep column)) = run (exec column) s steps := by
  induction steps generalizing s with
  | nil => rfl
  | cons step steps ih => exact ih _

lemma guarded_copyStep (steps : List (ProductStep κ)) (s : WithCopies (ProductRow κ)) :
    Guarded CopyStep.exec (CopyStep.Current (ProductRow.columns column)) s
        (steps.map (copyStep column)) ↔
      Guarded (exec column) (SavesCurrentCopy column) s steps := by
  induction steps generalizing s with
  | nil => exact Iff.rfl
  | cons step steps ih =>
      have hhead : CopyStep.Current (ProductRow.columns column) s (step.copyStep column) ↔
          SavesCurrentCopy column s step := by
        rcases step with _ | _ | _ | _ | _ | _ <;> exact Iff.rfl
      exact and_congr hhead (ih _)

/-- The writers alone, with and without the steps of the tasks in between. -/
lemma run_alone (steps : List (ProductStep κ)) (s : WithCopies (ProductRow κ)) :
    run CopyStep.alone s.row (steps.map (copyStep column)) =
      (run (exec column) s (steps.filter isWrite)).row := by
  induction steps generalizing s with
  | nil => rfl
  | cons step steps ih =>
      rcases step with
        ⟨supplier, updateExisting, productData⟩ | data | name | _ | ⟨task, made⟩ | task
      · exact ih (exec column (.importRecord supplier updateExisting productData) s)
      · exact ih (exec column (.update data) s)
      · exact ih (exec column (.uploadImage name) s)
      · exact ih s
      · exact ih s
      · exact ih s

/-- **When thumbnails do not undo updates.**  However the steps of the writers and of any number
of tasks are ordered, the columns other than the thumbnails are those the writers alone would
leave, exactly when every copy that a task saves still has the columns of the row. -/
theorem updatesStay_iff (hresaves : column.Resaves) (row : ProductRow κ)
    (steps : List (ProductStep κ)) :
    UpdatesStay column row steps ↔
      Guarded (exec column) (SavesCurrentCopy column) ⟨row, []⟩ steps := by
  have hrespects : ∀ step ∈ steps.map (copyStep column),
      CopyStep.Respects (ProductRow.columns column) step := by
    intro step hmem
    obtain ⟨step, -, rfl⟩ := List.mem_map.mp hmem
    exact respects_columns hresaves step
  rw [← guarded_copyStep, CopyStep.guarded_current_iff hrespects rfl]
  constructor
  · intro h earlier later hsplit
    obtain ⟨first, second, rfl, rfl, rfl⟩ := List.map_eq_append_iff.mp hsplit
    rw [run_copyStep, run_alone]
    exact h first second rfl
  · intro h earlier later hsplit
    have hcopies := h (earlier.map (copyStep column)) (later.map (copyStep column))
      (by rw [hsplit, List.map_append])
    rw [run_copyStep, run_alone] at hcopies
    exact hcopies

/-- A cup with a photograph. -/
def photographedCup : ProductRow Price where
  supplier := 1
  category := "Dishes"
  name := "Cup"
  description := ""
  price := ⟨490, by decide⟩
  stockQuantity := 3
  minOrderQuantity := 1
  unit := "шт"
  isActive := true
  costPrice := none
  sku := "C-1"
  image := some "products/cup.jpg"
  thumbnails := ⟨none, none, none, none⟩

/-- The price is raised while a task makes the thumbnails of the cup. -/
def raisedMeanwhile : List (ProductStep Price) :=
  [.taskRead, .update { ProductData.empty with price := some ⟨700, by decide⟩ },
   .taskSave 0 ⟨some "products/thumbnails/cup.jpg", none, none, none⟩]

theorem updatesStay_iff_cup :
    UpdatesStay (.strict 10) photographedCup raisedMeanwhile ↔
      Guarded (exec (.strict 10)) (SavesCurrentCopy (.strict 10)) ⟨photographedCup, []⟩
        raisedMeanwhile :=
  updatesStay_iff (.strict 10) (DecimalColumn.resaves_strict 10) photographedCup raisedMeanwhile

/-- The task saves the old price. -/
theorem not_updatesStay_cup : ¬ UpdatesStay (.strict 10) photographedCup raisedMeanwhile := by
  intro h
  have hcolumns := h raisedMeanwhile [] (List.append_nil _).symm
  have hold : (run (exec (.strict 10)) ⟨photographedCup, []⟩ raisedMeanwhile).row.price.cents =
      490 := by decide +kernel
  have hnew : (run (exec (.strict 10)) ⟨photographedCup, []⟩
      (raisedMeanwhile.filter isWrite)).row.price.cents = 700 := by decide +kernel
  have hread : (DecimalColumn.strict 10).read
        (run (exec (.strict 10)) ⟨photographedCup, []⟩ raisedMeanwhile).row.price =
      (DecimalColumn.strict 10).read (run (exec (.strict 10)) ⟨photographedCup, []⟩
        (raisedMeanwhile.filter isWrite)).row.price :=
    congrArg (fun columns => columns.1.price) hcolumns
  have hcents := (PyDecimal.finite.inj (Except.ok.inj hread)).2.1
  rw [hold, hnew] at hcents
  exact absurd hcents (by decide)

end OrdersBackend
