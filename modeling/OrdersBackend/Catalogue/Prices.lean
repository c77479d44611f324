import OrdersBackend.Catalogue.Robustness
import Mathlib.Algebra.Order.Field.Rat
import Mathlib.Tactic.FieldSimp
import Mathlib.Tactic.Positivity

/-!
# Imports and the rules of the product model

The model wants a price of a cent at least, and the same of a cost price when there is one.  Its
validators do not run in an import, which compares the price of a record with zero before the
column rounds it to cents, and lets a cost of zero pass when it is given as a text.

`obeysRules_importProducts_iff` says when the rules survive an import: the prices that are stored
last have to be more than half a cent, which is what is rounded to one.  The columns are those
that round when a price is saved, and raise when it has more than ten digits.
-/

namespace OrdersBackend

open Framework Tx

/-! ## Half a cent -/

/-- The number a decimal stands for; an infinity and a NaN stand for none. -/
def PyDecimal.value : PyDecimal → ℚ
  | finite neg coeff exp => (if neg then -1 else 1) * (coeff * 10 ^ exp)
  | infinity _ | nan => 0

lemma one_le_roundHalfEven_iff {n d : ℕ} (hd : 0 < d) : 1 ≤ roundHalfEven n d ↔ d < 2 * n := by
  have hsplit := Nat.div_add_mod n d
  have hrest := Nat.mod_lt n hd
  unfold roundHalfEven
  rcases Nat.eq_zero_or_pos (n / d) with hzero | hpos
  · rw [hzero, Nat.mul_zero, Nat.zero_add] at hsplit
    simp only [hzero, hsplit, Nat.zero_mod, and_true]
    split_ifs <;> omega
  · have hle : d ≤ d * (n / d) := Nat.le_mul_of_pos_right d hpos
    dsimp only
    split_ifs <;> omega

/-- More than half a cent is rounded to a cent or more. -/
lemma one_le_hundredths_iff (coeff : ℕ) (exp : ℤ) :
    1 ≤ hundredths coeff exp ↔ (1 / 200 : ℚ) < coeff * 10 ^ exp := by
  unfold hundredths
  by_cases hexp : 0 ≤ exp + 2
  · -- no place is rounded away, and the least number is a cent
    rw [if_pos hexp]
    obtain ⟨k, hk⟩ := Int.eq_ofNat_of_zero_le hexp
    obtain rfl : exp = k - 2 := by omega
    rw [hk, Int.toNat_natCast, zpow_sub₀ (by norm_num), zpow_natCast, ← mul_div_assoc]
    rcases Nat.eq_zero_or_pos coeff with rfl | hpos
    · norm_num
    · have hnat : 1 ≤ coeff * 10 ^ k := Nat.mul_pos hpos (by positivity)
      have hrat : (1 : ℚ) ≤ coeff * 10 ^ k := by exact_mod_cast hnat
      refine iff_of_true hnat ?_
      rw [lt_div_iff₀ (by norm_num)]
      norm_num
      linarith
  · -- half a cent itself is rounded to even, which is zero
    rw [if_neg hexp, one_le_roundHalfEven_iff (by positivity)]
    obtain ⟨k, hk⟩ := Int.eq_ofNat_of_zero_le (show 0 ≤ -(exp + 2) by omega)
    obtain rfl : exp = -(k + 2) := by omega
    rw [hk, Int.toNat_natCast, zpow_neg, zpow_add₀ (by norm_num), zpow_natCast,
      ← div_eq_mul_inv, lt_div_iff₀ (by positivity), ← Nat.cast_lt (α := ℚ)]
    push_cast
    norm_num
    constructor
    · intro h
      linarith
    · intro h
      linarith

/-- What a price column stores is a cent at least when the value is more than half a cent. -/
lemma one_le_cents_iff {n : ℕ} {d : PyDecimal} {column : DecimalField n}
    (h : d.toColumn n = .ok column) : 1 ≤ column.cents ↔ 1 / 200 < d.value := by
  have hcents : ∀ c : ℤ, DecimalField.ofCents n c = .ok column → column.cents = c := by
    intro c hc
    unfold DecimalField.ofCents at hc
    split at hc
    · rw [← Except.ok.inj hc]
    · cases hc
  rcases d with ⟨neg, coeff, exp⟩ | _ | _
  · rw [hcents _ h, PyDecimal.value]
    cases neg with
    | true =>
        -- a negative price is stored as no more than zero cents
        have hnonneg : (0 : ℚ) ≤ coeff * 10 ^ exp :=
          mul_nonneg (Nat.cast_nonneg coeff) (zpow_nonneg (by norm_num) exp)
        simp only [if_true]
        refine iff_of_false (by omega) ?_
        linarith
    | false =>
        simp only [Bool.false_eq_true, if_false, one_mul]
        rw [← one_le_hundredths_iff]
        exact Nat.one_le_cast
  · cases h
  · cases h

/-! ## The product a file leaves behind -/

namespace ProductViewSet

/-- What a record stores of a product: the values that it gives, and the columns that take
them. -/
structure ProductWrite where
  defaults : ProductDefaults
  columns : ProductColumns Price
  accepted : defaults.columns (.strict 10) = .ok columns

/-- The columns, when they take the values. -/
def ProductWrite.of? (defaults : ProductDefaults) : Option ProductWrite :=
  match h : defaults.columns (.strict 10) with
  | .ok columns => some ⟨defaults, columns, h⟩
  | .error _ => none

/-- What a record stores under a SKU. -/
def storing (supplier : ℕ) (sku : String) (productData : PyValue) : Option ProductWrite :=
  (prepared productData supplier).bind fun p =>
    if p.1 = sku then ProductWrite.of? p.2 else none

/-- What the records of a file store under a SKU.  Without an update that is nothing for a
product that is there, and the first one for another. -/
def storesOf (supplier : ℕ) (updateExisting : Bool) (productsData : List PyValue)
    (c : Catalogue Price) (sku : String) : List ProductWrite :=
  let stores := productsData.filterMap (storing supplier sku)
  if updateExisting then stores
  else if (c.products.lookup sku).isSome then [] else stores.take 1

lemma columns_of? (defaults : ProductDefaults) :
    (ProductWrite.of? defaults).map ProductWrite.columns =
      (defaults.columns (.strict 10)).toOption := by
  unfold ProductWrite.of?
  split
  · next columns hcolumns =>
    have htaken : (defaults.columns (.strict 10)).toOption = some columns :=
      congrArg Except.toOption hcolumns
    rw [htaken]
    rfl
  · next e hcolumns =>
    have hrefused : (defaults.columns (.strict 10)).toOption = none :=
      congrArg Except.toOption hcolumns
    rw [hrefused]
    rfl

lemma columns_storing (supplier : ℕ) (sku : String) (productData : PyValue) :
    (storing supplier sku productData).map ProductWrite.columns =
      storedAt (.strict 10) supplier sku productData := by
  unfold storing storedAt stored
  rcases prepared productData supplier with _ | ⟨sku', defaults⟩
  · rfl
  · simp only [Option.bind_some]
    by_cases hsku : sku' = sku
    · rw [if_pos hsku, columns_of?]
      cases defaults.columns (.strict 10) with
      | error e => rfl
      | ok columns => exact (if_pos hsku).symm
    · rw [if_neg hsku]
      cases defaults.columns (.strict 10) with
      | error e => rfl
      | ok columns => exact (if_neg hsku).symm

lemma stored_of_storing {supplier : ℕ} {sku : String} {productData : PyValue}
    {d : ProductWrite} (h : storing supplier sku productData = some d) :
    stored (.strict 10) productData supplier = some (sku, d.columns) := by
  have hcolumns := columns_storing supplier sku productData
  rw [h] at hcolumns
  obtain ⟨⟨sku', columns⟩, hstored, hsame⟩ := Option.bind_eq_some_iff.mp hcolumns.symm
  by_cases hsku : sku' = sku
  · obtain rfl : columns = d.columns := Option.some.inj ((if_pos hsku).symm.trans hsame)
    rw [hstored, hsku]
  · cases (if_neg hsku).symm.trans hsame

/-- A record stores nothing under another SKU than its own. -/
lemma storing_of_ne (supplier : ℕ) {sku : String} {productData : PyValue}
    (h : recordSku productData ≠ some sku) : storing supplier sku productData = none := by
  rcases hstoring : storing supplier sku productData with _ | d
  · rfl
  · exact absurd (recordSku_of_stored (stored_of_storing hstoring)) h

lemma stored_ne_of_storing {supplier : ℕ} {sku : String} {productData : PyValue}
    (h : storing supplier sku productData = none) (columns : ProductColumns Price) :
    stored (.strict 10) productData supplier ≠ some (sku, columns) := by
  intro hstored
  have hcolumns := columns_storing supplier sku productData
  rw [h, storedAt, hstored, Option.bind_some, if_pos rfl] at hcolumns
  cases hcolumns

/-- **The product that a file leaves behind.**  The records that store it are applied to the
product that was there. -/
theorem lookup_products_afterRecords (supplier : ℕ) (updateExisting : Bool) (c : Catalogue Price)
    (productsData : List PyValue) (sku : String) :
    (afterRecords (.strict 10) supplier updateExisting c productsData).products.lookup sku =
      applyAll ((storesOf supplier updateExisting productsData c sku).map ProductWrite.columns)
        (c.products.lookup sku) := by
  cases updateExisting with
  | true =>
      -- every row can be read, so all records that store the product count
      have hreads : RowLoads (.strict 10)
          ((afterRecords (.strict 10) supplier true c productsData).products.lookup sku) :=
        fun p _ => loads_iff.mpr ⟨DecimalColumn.strict_reads _, fun cost _ =>
          DecimalColumn.strict_reads cost⟩
      unfold storesOf
      rw [if_pos rfl, (afterRecords_of_rowLoads hreads).1, List.map_filterMap]
      simp only [columns_storing]
  | false =>
      unfold storesOf
      rw [if_neg Bool.false_ne_true]
      rcases hp : c.products.lookup sku with _ | p
      · rw [Option.isSome_none, if_neg Bool.false_ne_true]
        induction productsData generalizing c with
        | nil => exact hp
        | cons productData productsData ih =>
            rw [afterRecords_cons, List.filterMap_cons]
            rcases hstoring : storing supplier sku productData with _ | d
            · refine ih _ ?_
              rw [lookup_products_afterRecord_of_ne (stored_ne_of_storing hstoring), hp]
            · -- there is no such product to keep, and from now on there is
              have hturn : rowTurn (DecimalColumn.strict 10) false (c.products.lookup sku) =
                  .store := by
                rw [hp]
                rfl
              refine lookup_products_afterRecords_keep ?_ _ supplier productsData
              rw [lookup_products_afterRecord (stored_of_storing hstoring) hturn, hp]
      · exact lookup_products_afterRecords_keep hp _ supplier productsData

end ProductViewSet

/-! ## The rules -/

/-- The validators of the four columns.  The last two hold of every row, as the columns refuse
negative numbers. -/
structure Product.ObeysRules (p : Product Price) : Prop where
  price : 1 ≤ p.price.cents
  cost : ∀ cost, p.costPrice = some cost → 1 ≤ cost.cents
  stock : 0 ≤ p.stockQuantity
  minOrder : 0 ≤ p.minOrderQuantity

/-- Every product obeys the rules. -/
def Catalogue.ObeysRules (c : Catalogue Price) : Prop :=
  ∀ sku p, c.products.lookup sku = some p → p.ObeysRules

/-- The rules are about the two prices. -/
lemma obeysRules_row_iff (o : Option (Product Price)) :
    (∀ p, o = some p → p.ObeysRules) ↔
      (∀ price, o.map (·.price) = some price → 1 ≤ price.cents) ∧
        ∀ cost, o.bind Product.costPrice = some cost → 1 ≤ cost.cents := by
  rcases o with _ | p
  · exact ⟨fun _ => ⟨fun _ h => (nomatch h), fun _ h => (nomatch h)⟩, fun _ _ h => (nomatch h)⟩
  · simp only [Option.map_some, Option.bind_some, Option.some_inj, forall_eq']
    exact ⟨fun h => ⟨h.price, h.cost⟩, fun h => ⟨h.1, h.2, Nat.zero_le _, Nat.zero_le _⟩⟩

namespace ProductViewSet

/-- The price that is stored last, and the cost price that is given last, are more than half a
cent. -/
def PricesCount (stores : List ProductWrite) : Prop :=
  (∀ d ∈ stores.getLast?, 1 / 200 < d.defaults.price.value) ∧
    ∀ cost ∈ (stores.filterMap (·.defaults.costPrice)).getLast?, 1 / 200 < cost.value

instance (stores : List ProductWrite) : Decidable (PricesCount stores) :=
  inferInstanceAs (Decidable (_ ∧ _))

/-- What the columns store of the two prices. -/
lemma ProductWrite.prices (d : ProductWrite) :
    d.defaults.price.toColumn 10 = .ok d.columns.price ∧
      costColumn (.strict 10) d.defaults.costPrice = .ok d.columns.costPrice := by
  obtain ⟨defaults, columns, h⟩ := d
  obtain ⟨name, -, h⟩ := except_bind_eq_ok.mp h
  obtain ⟨description, -, h⟩ := except_bind_eq_ok.mp h
  obtain ⟨price, hprice, h⟩ := except_bind_eq_ok.mp h
  obtain ⟨stock, -, h⟩ := except_bind_eq_ok.mp h
  obtain ⟨minimum, -, h⟩ := except_bind_eq_ok.mp h
  obtain ⟨unit, -, h⟩ := except_bind_eq_ok.mp h
  obtain ⟨cost, hcost, h⟩ := except_bind_eq_ok.mp h
  cases Except.ok.inj h
  exact ⟨hprice, hcost⟩

/-- The price of a product is the one stored last. -/
lemma price_applyAll (ps : List (ProductColumns Price)) (o : Option (Product Price)) :
    (applyAll ps o).map (·.price) = (ps.getLast?.map (·.price)).or (o.map (·.price)) := by
  induction ps using List.reverseRecOn with
  | nil => rfl
  | append_singleton ps p _ =>
      rw [applyAll_concat, List.getLast?_concat]
      rfl

lemma lastPrice_iff (stores : List ProductWrite) :
    (∀ price, (stores.map ProductWrite.columns).getLast?.map (·.price) = some price →
      1 ≤ price.cents) ↔
    ∀ d ∈ stores.getLast?, 1 / 200 < d.defaults.price.value := by
  rw [List.getLast?_map]
  rcases stores.getLast? with _ | d
  · exact ⟨fun _ d h => (nomatch h), fun _ price h => (nomatch h)⟩
  · simp only [Option.map_some, Option.some_inj, Option.mem_some_iff, forall_eq']
    exact one_le_cents_iff d.prices.1

lemma lastCost_iff (stores : List ProductWrite) :
    (∀ cost, ((stores.map ProductWrite.columns).filterMap ProductColumns.costPrice).getLast? =
      some cost → 1 ≤ cost.cents) ↔
    ∀ cost ∈ (stores.filterMap (·.defaults.costPrice)).getLast?, 1 / 200 < cost.value := by
  induction stores using List.reverseRecOn with
  | nil => exact ⟨fun _ cost h => (nomatch h), fun _ cost h => (nomatch h)⟩
  | append_singleton stores d ih =>
      have hcost := d.prices.2
      rw [List.map_append, List.filterMap_append, List.filterMap_append, List.map_singleton]
      rcases hgiven : d.defaults.costPrice with _ | cost
      · rw [hgiven] at hcost
        have hnone : d.columns.costPrice = none := (Except.ok.inj hcost).symm
        simpa [hgiven, hnone] using ih
      · rw [hgiven] at hcost
        obtain ⟨column, hcolumn, hsome⟩ := except_bind_eq_ok.mp hcost
        have hsome : d.columns.costPrice = some column := (Except.ok.inj hsome).symm
        simpa [hgiven, hsome] using one_le_cents_iff hcolumn

/-- The rules survive what is stored when the prices count. -/
lemma obeysRules_applyAll_iff (stores : List ProductWrite) {o : Option (Product Price)}
    (h : ∀ p, o = some p → p.ObeysRules) :
    (∀ p, applyAll (stores.map ProductWrite.columns) o = some p → p.ObeysRules) ↔
      PricesCount stores := by
  have hor : ∀ {α : Type} {a b : Option α} {P : α → Prop}, (∀ x, b = some x → P x) →
      ((∀ x, a.or b = some x → P x) ↔ ∀ x, a = some x → P x) := by
    intro α a b P hb
    rcases a with _ | y
    · exact iff_of_true hb fun x hx => (nomatch hx)
    · rfl
  obtain ⟨hprice, hcost⟩ := (obeysRules_row_iff o).mp h
  unfold PricesCount
  rw [obeysRules_row_iff, price_applyAll, costPrice_applyAll, hor hprice, hor hcost,
    lastPrice_iff, lastCost_iff]

/-- **When an import breaks the rules of the model.**  Where every product obeys them, every
product does so afterwards exactly when the transaction of the import raises, or when the prices
that it stores last are more than half a cent. -/
theorem obeysRules_importProducts_iff (strExc : PyErr → String) (supplier : ℕ)
    (fileName : String) (fileFormat : FileFormat) (updateExisting : Bool)
    (productsData : List PyValue) {db : ImportDb Price} (h : db.catalogue.ObeysRules) :
    (importProducts (.strict 10) strExc supplier fileName fileFormat updateExisting productsData
        db).2.catalogue.ObeysRules ↔
      (∃ productData ∈ productsData, ¬ (Checkable productData ∧ SkuPrints productData)) ∨
        ∀ sku, PricesCount (storesOf supplier updateExisting productsData db.catalogue sku) := by
  simp only [← processable_iff_checkable]
  by_cases hraises : ∃ productData ∈ productsData, ¬ Processable productData
  · obtain ⟨e, himport⟩ := importProducts_of_not_processable (.strict 10) supplier updateExisting
      fileFormat strExc fileName hraises db
    rw [himport]
    exact ⟨fun _ => .inl hraises, fun _ => h⟩
  · have hends : ∀ productData ∈ productsData, Processable productData := by
      push Not at hraises
      exact hraises
    rw [catalogue_importProducts hends, or_iff_right hraises]
    refine forall_congr' fun sku => ?_
    rw [lookup_products_afterRecords]
    exact obeysRules_applyAll_iff _ (h sku)

/-- A price of a cent is stored as it is. -/
theorem obeysRules_importProducts_cent :
    (importProducts (.strict 10) (fun _ => "") 1 "prices.csv" .csv true
      [.mapping [("sku", .str "A"), ("name", .str "Cup"), ("price", .str "0.01"),
        ("stock_quantity", .str "3")] ""] ⟨Catalogue.empty, []⟩).2.catalogue.ObeysRules := by
  refine (obeysRules_importProducts_iff _ _ _ _ _ _ (fun sku p h => ?_)).mpr
    (.inr fun sku => ?_)
  · cases (Finmap.lookup_empty sku).symm.trans h
  · by_cases hsku : sku = "A"
    · rw [hsku]
      decide +kernel
    · have hnames : recordSku (.mapping [("sku", .str "A"), ("name", .str "Cup"),
          ("price", .str "0.01"), ("stock_quantity", .str "3")] "") = some "A" := by decide +kernel
      have hother := storing_of_ne 1 fun h => hsku (Option.some.inj (h.symm.trans hnames))
      unfold storesOf
      rw [if_pos rfl, List.filterMap_cons_none hother]
      exact ⟨fun _ h => (nomatch h), fun _ h => (nomatch h)⟩

/-- A price of a tenth of a cent is stored as zero. -/
theorem not_obeysRules_of_tenth :
    Catalogue.empty.ObeysRules ∧
      ¬ (importProducts (.strict 10) (fun _ => "") 1 "prices.csv" .csv true
        [.mapping [("sku", .str "A"), ("name", .str "Cup"), ("price", .str "0.001"),
          ("stock_quantity", .str "3")] ""] ⟨Catalogue.empty, []⟩).2.catalogue.ObeysRules := by
  refine ⟨fun sku p h => ?_, fun h => ?_⟩
  · cases (Finmap.lookup_empty sku).symm.trans h
  · have hprice : ((importProducts (.strict 10) (fun _ => "") 1 "prices.csv" .csv true
        [.mapping [("sku", .str "A"), ("name", .str "Cup"), ("price", .str "0.001"),
          ("stock_quantity", .str "3")] ""] ⟨Catalogue.empty, []⟩).2.catalogue.products.lookup
        "A").map (·.price.cents) = some 0 := by decide +kernel
    obtain ⟨p, hp, hzero⟩ := Option.map_eq_some_iff.mp hprice
    have hrule := (h "A" p hp).price
    omega

end ProductViewSet

end OrdersBackend
