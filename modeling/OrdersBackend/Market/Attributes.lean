import OrdersBackend.Market.Uploads

/-!
# The attributes of a saved product

`ProductSerializer.update` saves the row of the product and, when attributes are given, deletes
the ones there are and inserts the given ones, one after the other; `create` inserts the row and
then its attributes.  Every write is committed at once.

Only the table knows that a product has an attribute once: a list that names one twice fails at
the second, after the row has been saved, the old attributes have been deleted and the first of
the new ones have been inserted.  `save_atomic_iff` says that nothing else goes wrong.
-/

namespace OrdersBackend

open Framework Tx

/-! ## Tables -/

/-- A row of `product_attributes`. -/
structure ProductAttribute where
  product : ℕ
  attributeId : ℕ
  value : String
  deriving DecidableEq, Repr

/-- The validated data of `ProductAttributeSerializer`. -/
structure AttributeData where
  attributeId : ℕ
  value : String
  deriving DecidableEq, Repr

/-- `unique_together`. -/
def ProductAttribute.pairKey (a : ProductAttribute) : Option (ℕ × ℕ) :=
  some (a.product, a.attributeId)

def ProductAttribute.data (a : ProductAttribute) : AttributeData := ⟨a.attributeId, a.value⟩

/-- The products with the values of their attributes.  The table of the attributes and the foreign
key to it are left out: a value whose attribute is not there is refused before it is saved. -/
structure AttributeDb where
  market : MarketDb
  attributes : Table ProductAttribute
  pairs : attributes.Unique ProductAttribute.pairKey
  attributeProducts : attributes.References (fun a => a.product) market.products

namespace AttributeDb

/-- `product.attributes.all()`. -/
def attributesOf (db : AttributeDb) (product : ℕ) : List (ℕ × ProductAttribute) :=
  db.attributes.rows.filter fun r => r.2.product = product

def dataOf (db : AttributeDb) (product : ℕ) : List AttributeData :=
  (db.attributesOf product).map fun r => r.2.data

def AttributeFits (db : AttributeDb) (row : ProductAttribute) : Prop :=
  db.attributes.Free ProductAttribute.pairKey db.attributes.nextId row ∧
    (db.market.products.lookup row.product).isSome

instance (db : AttributeDb) (row : ProductAttribute) : Decidable (db.AttributeFits row) :=
  inferInstanceAs (Decidable (_ ∧ _))

def setProduct (db : AttributeDb) (id : ℕ) (row : StoredProduct)
    (h : db.market.ProductFits id row) : AttributeDb :=
  { db with
    market := db.market.setProduct id row h
    attributeProducts := Table.references_update_target db.attributeProducts id row }

def addProduct (db : AttributeDb) (row : StoredProduct)
    (h : db.market.ProductFits db.market.products.nextId row) : AttributeDb :=
  { db with
    market := db.market.addProduct row h
    attributeProducts := Table.references_insert_target db.attributeProducts row }

def addAttribute (db : AttributeDb) (row : ProductAttribute) (h : db.AttributeFits row) :
    AttributeDb :=
  { db with
    attributes := db.attributes.insert row
    pairs := Table.unique_insert db.pairs h.1
    attributeProducts := Table.references_insert db.attributeProducts h.2 }

def withoutAttributes (db : AttributeDb) (product : ℕ) : AttributeDb :=
  { db with
    attributes := db.attributes.restrict fun a => a.product ≠ product
    pairs := Table.unique_filter db.pairs _
    attributeProducts := fun id row hrow =>
      db.attributeProducts id row (Table.lookup_restrict_eq_some.mp hrow).1 }

/-- `instance.save()`. -/
def saveProduct (id : ℕ) (row : StoredProduct) : Tx AttributeDb PyErr Unit := fun db =>
  if h : db.market.ProductFits id row then (.ok (), db.setProduct id row h)
  else (.error .integrityError, db)

/-- `Product.objects.create`; the answer is the id. -/
def insertProduct (row : StoredProduct) : Tx AttributeDb PyErr ℕ := fun db =>
  if h : db.market.ProductFits db.market.products.nextId row then
    (.ok db.market.products.nextId, db.addProduct row h)
  else (.error .integrityError, db)

/-- `instance.attributes.all().delete()`. -/
def deleteAttributes (product : ℕ) : Tx AttributeDb PyErr Unit :=
  modify fun db => db.withoutAttributes product

/-- `ProductAttribute.objects.create(product=product, **attr_data)`. -/
def insertAttribute (product : ℕ) (attrData : AttributeData) : Tx AttributeDb PyErr Unit :=
  fun db =>
    if h : db.AttributeFits ⟨product, attrData.attributeId, attrData.value⟩ then
      (.ok (), db.addAttribute _ h)
    else (.error .integrityError, db)

/-! The product is saved and inserted as in the tables without attributes. -/

lemma saveProduct_market (db : AttributeDb) (id : ℕ) (row : StoredProduct) :
    MarketDb.saveProduct id row db.market =
      ((saveProduct id row db).1, (saveProduct id row db).2.market) := by
  by_cases h : db.market.ProductFits id row
  · rw [saveProduct, MarketDb.saveProduct, dif_pos h, dif_pos h]
    rfl
  · rw [saveProduct, MarketDb.saveProduct, dif_neg h, dif_neg h]

lemma insertProduct_market (db : AttributeDb) (row : StoredProduct) :
    MarketDb.insertProduct row db.market =
      ((insertProduct row db).1, (insertProduct row db).2.market) := by
  by_cases h : db.market.ProductFits db.market.products.nextId row
  · rw [insertProduct, MarketDb.insertProduct, dif_pos h, dif_pos h]
    rfl
  · rw [insertProduct, MarketDb.insertProduct, dif_neg h, dif_neg h]

end AttributeDb

/-! ## The serializer -/

open AttributeDb
open Market (firmCup)

namespace ProductSerializer

/-- `ProductSerializer.create`; the answer is the id of the product. -/
def create (data : NewProduct) (attributesData : Option (List AttributeData)) (now : ℕ) :
    Tx AttributeDb PyErr ℕ := do
  let product ← insertProduct (data.row now)
  forEach (insertAttribute product) (attributesData.getD [])
  return product

/-- `ProductSerializer.update` of the product `pk`, read as `row`. -/
def update (pk : ℕ) (row : StoredProduct) (data : ProductData Price)
    (attributesData : Option (List AttributeData)) (now : ℕ) : Tx AttributeDb PyErr Unit := do
  saveProduct pk (row.withData data now)
  match attributesData with
  | none => return ()
  | some attributesData => do
    deleteAttributes pk
    forEach (insertAttribute pk) attributesData

/-- The update returns with the fields updated and the attributes given, or raises and leaves
both as they are. -/
def UpdateAtomic (db : AttributeDb) (pk : ℕ) (row : StoredProduct) (data : ProductData Price)
    (attributesData : Option (List AttributeData)) (now : ℕ) : Prop :=
  match update pk row data attributesData now db with
  | (.ok _, db') => db'.market.products.lookup pk = some (row.withData data now) ∧
      match attributesData with
      | none => db'.attributesOf pk = db.attributesOf pk
      | some attributesData => db'.dataOf pk = attributesData
  | (.error _, db') => db'.market.products.lookup pk = db.market.products.lookup pk ∧
      db'.attributesOf pk = db.attributesOf pk

/-- The creation stores the product with the attributes given, or raises and stores nothing. -/
def CreateAtomic (db : AttributeDb) (data : NewProduct)
    (attributesData : Option (List AttributeData)) (now : ℕ) : Prop :=
  match create data attributesData now db with
  | (.ok product, db') => db'.market.products.lookup product = some (data.row now) ∧
      db'.dataOf product = attributesData.getD []
  | (.error _, db') => db'.market.products.rows = db.market.products.rows ∧
      db'.attributes.rows = db.attributes.rows

/-- No attribute is named twice. -/
def Distinct (attributesData : List AttributeData) : Prop :=
  (attributesData.map AttributeData.attributeId).Nodup

instance (attributesData : List AttributeData) : Decidable (Distinct attributesData) :=
  inferInstanceAs (Decidable (List.Nodup _))

/-! ## The insertion of the attributes -/

section

variable {db : AttributeDb} {product : ℕ} {attrData : AttributeData}
  {attributesData : List AttributeData}

/-- An attribute of a product can be inserted when the product does not have it. -/
lemma attributeFits_iff (hproduct : (db.market.products.lookup product).isSome) :
    db.AttributeFits ⟨product, attrData.attributeId, attrData.value⟩ ↔
      attrData.attributeId ∉ (db.dataOf product).map AttributeData.attributeId := by
  rw [AttributeFits, and_iff_left hproduct, dataOf, List.map_map]
  constructor
  · intro hfree hmem
    obtain ⟨r, hr, hid⟩ := List.mem_map.mp hmem
    obtain ⟨hr, hof⟩ := List.mem_filter.mp hr
    have hlt := (db.attributes.ids r hr).2
    refine hfree r hr (by omega) rfl (congrArg some (Prod.ext ?_ hid))
    exact of_decide_eq_true hof
  · intro hnew r hr _ _ hkey
    obtain ⟨hof, hid⟩ := Prod.mk.inj (Option.some.inj hkey)
    exact hnew (List.mem_map.mpr ⟨r, List.mem_filter.mpr ⟨hr, decide_eq_true hof⟩, hid⟩)

lemma insertAttribute_of_fits
    (h : db.AttributeFits ⟨product, attrData.attributeId, attrData.value⟩) :
    insertAttribute product attrData db = (.ok (), db.addAttribute _ h) := dif_pos h

lemma insertAttribute_of_not_fits
    (h : ¬ db.AttributeFits ⟨product, attrData.attributeId, attrData.value⟩) :
    insertAttribute product attrData db = (.error .integrityError, db) := dif_neg h

lemma dataOf_addAttribute
    (h : db.AttributeFits ⟨product, attrData.attributeId, attrData.value⟩) :
    (db.addAttribute _ h).dataOf product = db.dataOf product ++ [attrData] := by
  rw [dataOf, attributesOf, addAttribute, Table.rows_insert, List.filter_append, List.map_append,
    List.filter_singleton]
  simp [dataOf, attributesOf, ProductAttribute.data]

/-- The loop inserts all attributes when the product has each of them once in the end. -/
lemma forEach_insertAttribute (hproduct : (db.market.products.lookup product).isSome)
    (h : Distinct (db.dataOf product ++ attributesData)) :
    ∃ db', forEach (insertAttribute product) attributesData db = (.ok (), db') ∧
      db'.market = db.market ∧ db'.dataOf product = db.dataOf product ++ attributesData := by
  induction attributesData generalizing db with
  | nil => exact ⟨db, rfl, rfl, (List.append_nil _).symm⟩
  | cons attrData attributesData ih =>
      have hnew : attrData.attributeId ∉ (db.dataOf product).map AttributeData.attributeId := by
        rw [Distinct, List.map_append, List.map_cons, List.nodup_append] at h
        exact fun hmem => h.2.2 _ hmem _ List.mem_cons_self rfl
      have hfits := (attributeFits_iff hproduct).mpr hnew
      have hdata := dataOf_addAttribute hfits
      have hstill : ((db.addAttribute _ hfits).market.products.lookup product).isSome := hproduct
      rw [List.append_cons, ← hdata] at h
      obtain ⟨db', hrun, hmarket, hresult⟩ := ih hstill h
      refine ⟨db', ?_, hmarket, ?_⟩
      · rw [forEach_cons, bind_of_ok (insertAttribute_of_fits hfits), hrun]
      · rw [hresult, hdata, ← List.append_cons]

/-- Otherwise it raises. -/
lemma forEach_insertAttribute_error (hproduct : (db.market.products.lookup product).isSome)
    (hdb : Distinct (db.dataOf product)) (h : ¬ Distinct (db.dataOf product ++ attributesData)) :
    ∃ db', forEach (insertAttribute product) attributesData db = (.error .integrityError, db') := by
  induction attributesData generalizing db with
  | nil =>
      rw [List.append_nil] at h
      exact absurd hdb h
  | cons attrData attributesData ih =>
      by_cases hfits : db.AttributeFits ⟨product, attrData.attributeId, attrData.value⟩
      · have hdata := dataOf_addAttribute hfits
        have hnew := (attributeFits_iff hproduct).mp hfits
        rw [List.append_cons, ← hdata] at h
        -- the row has been inserted, and the doubled attribute is among the others
        have hdistinct : Distinct ((db.addAttribute _ hfits).dataOf product) := by
          rw [hdata, Distinct, List.map_append, List.nodup_append]
          refine ⟨hdb, List.nodup_singleton _, fun id hid id' hid' heq => hnew ?_⟩
          rw [List.mem_singleton.mp hid'] at heq
          exact heq ▸ hid
        have hstill : ((db.addAttribute _ hfits).market.products.lookup product).isSome :=
          hproduct
        rw [forEach_cons, bind_of_ok (insertAttribute_of_fits hfits)]
        exact ih hstill hdistinct h
      · rw [forEach_cons, bind_of_error (insertAttribute_of_not_fits hfits)]
        exact ⟨db, rfl⟩

/-- A product that has no attributes gets those given when they are distinct. -/
lemma forEach_insertAttribute_of_empty (hproduct : (db.market.products.lookup product).isSome)
    (hempty : db.dataOf product = []) (h : Distinct attributesData) :
    ∃ db', forEach (insertAttribute product) attributesData db = (.ok (), db') ∧
      db'.market = db.market ∧ db'.dataOf product = attributesData := by
  have hall : Distinct (db.dataOf product ++ attributesData) := by
    rw [hempty]
    exact h
  obtain ⟨db', hrun, hmarket, hdata⟩ := forEach_insertAttribute hproduct hall
  rw [hempty, List.nil_append] at hdata
  exact ⟨db', hrun, hmarket, hdata⟩

lemma forEach_insertAttribute_error_of_empty
    (hproduct : (db.market.products.lookup product).isSome) (hempty : db.dataOf product = [])
    (h : ¬ Distinct attributesData) :
    ∃ db', forEach (insertAttribute product) attributesData db = (.error .integrityError, db') := by
  have hnone : Distinct (db.dataOf product) := by
    rw [hempty]
    exact List.nodup_nil
  have hall : ¬ Distinct (db.dataOf product ++ attributesData) := by
    rw [hempty]
    exact h
  exact forEach_insertAttribute_error hproduct hnone hall

/-- What an insertion keeps, the loop keeps. -/
lemma keeps_insertAttribute {I : AttributeDb → Prop}
    (h : ∀ db row hfits, I db → I (db.addAttribute row hfits)) (product : ℕ)
    (attributesData : List AttributeData) :
    Keeps I (forEach (insertAttribute product) attributesData) :=
  keeps_forEach (fun _ => keeps_dite fun _ hfits hkept => h _ _ hfits hkept) attributesData

/-- A product without attributes has the first one given after the loop, whether the loop has
returned or raised. -/
lemma lookup_forEach_insertAttribute (attrData : AttributeData)
    (attributesData : List AttributeData)
    (hproduct : (db.market.products.lookup product).isSome) (hempty : db.dataOf product = []) :
    (forEach (insertAttribute product) (attrData :: attributesData) db).2.attributes.lookup
        db.attributes.nextId = some ⟨product, attrData.attributeId, attrData.value⟩ := by
  have hnew : attrData.attributeId ∉ (db.dataOf product).map AttributeData.attributeId := by
    rw [hempty]
    exact List.not_mem_nil
  have hfits := (attributeFits_iff hproduct).mpr hnew
  rw [forEach_cons, bind_of_ok (insertAttribute_of_fits hfits)]
  refine keeps_insertAttribute (I := fun db' => db'.attributes.lookup db.attributes.nextId = _)
    (fun _ _ _ hkept => Table.lookup_insert_of_some hkept _) product attributesData
    (db.addAttribute _ hfits) (Table.lookup_insert_self db.attributes _)

end

/-! ## Update -/

section

variable {db : AttributeDb} {pk : ℕ} {row : StoredProduct} {data : ProductData Price} {now : ℕ}

lemma dataOf_withoutAttributes (db : AttributeDb) (product : ℕ) :
    (db.withoutAttributes product).dataOf product = [] := by
  rw [dataOf, List.map_eq_nil_iff, attributesOf, List.filter_eq_nil_iff]
  intro r hr hof
  obtain ⟨-, hother⟩ := Table.lookup_restrict_eq_some.mp (Table.mem_rows_iff.mp hr)
  exact of_decide_eq_true hother (of_decide_eq_true hof)

lemma update_of_not_fits (h : ¬ db.market.ProductFits pk (row.withData data now))
    (attributesData : Option (List AttributeData)) :
    update pk row data attributesData now db = (.error .integrityError, db) :=
  bind_of_error (dif_neg h)

lemma update_of_fits (h : db.market.ProductFits pk (row.withData data now))
    (attributesData : List AttributeData) :
    update pk row data (some attributesData) now db =
      forEach (insertAttribute pk) attributesData
        ((db.setProduct pk (row.withData data now) h).withoutAttributes pk) := by
  have hsave : saveProduct pk (row.withData data now) db = (.ok (), db.setProduct pk _ h) :=
    dif_pos h
  exact bind_of_ok hsave

lemma isSome_lookup_saved (hrow : db.market.products.lookup pk = some row)
    (h : db.market.ProductFits pk (row.withData data now)) :
    (((db.setProduct pk (row.withData data now) h).withoutAttributes pk).market.products.lookup
      pk).isSome :=
  Option.isSome_of_eq_some (Table.lookup_update_self hrow _)

lemma updateAtomic_of_distinct {attributesData : List AttributeData}
    (hrow : db.market.products.lookup pk = some row)
    (hfits : db.market.ProductFits pk (row.withData data now)) (h : Distinct attributesData) :
    UpdateAtomic db pk row data (some attributesData) now := by
  have hempty := dataOf_withoutAttributes (db.setProduct pk (row.withData data now) hfits) pk
  obtain ⟨db', hrun, hmarket, hdata⟩ :=
    forEach_insertAttribute_of_empty (isSome_lookup_saved hrow hfits) hempty h
  rw [UpdateAtomic, update_of_fits hfits, hrun]
  refine ⟨?_, hdata⟩
  rw [hmarket]
  exact Table.lookup_update_self hrow _

/-- The rows of an update that has failed at a repeated attribute are not the ones before. -/
lemma not_updateAtomic_of_repeated {attributesData : List AttributeData}
    (hrow : db.market.products.lookup pk = some row)
    (hfits : db.market.ProductFits pk (row.withData data now)) (h : ¬ Distinct attributesData) :
    ¬ UpdateAtomic db pk row data (some attributesData) now := by
  have hempty := dataOf_withoutAttributes (db.setProduct pk (row.withData data now) hfits) pk
  obtain ⟨db', hrun⟩ :=
    forEach_insertAttribute_error_of_empty (isSome_lookup_saved hrow hfits) hempty h
  rcases attributesData with _ | ⟨attrData, attributesData⟩
  · exact absurd List.nodup_nil h
  · have hfirst := lookup_forEach_insertAttribute attrData attributesData
      (isSome_lookup_saved hrow hfits) hempty
    rw [hrun] at hfirst
    rw [UpdateAtomic, update_of_fits hfits, hrun]
    rintro ⟨-, hsame⟩
    have hmem : (db.attributes.nextId, _) ∈ db'.attributesOf pk :=
      List.mem_filter.mpr ⟨Table.mem_rows_iff.mpr hfirst, decide_eq_true rfl⟩
    rw [hsame] at hmem
    have hlt := (db.attributes.ids _ (List.mem_filter.mp hmem).1).2
    exact Nat.lt_irrefl _ hlt

lemma updateAtomic_iff (hrow : db.market.products.lookup pk = some row) (data : ProductData Price)
    (attributesData : Option (List AttributeData)) (now : ℕ) :
    UpdateAtomic db pk row data attributesData now ↔
      ¬ db.market.ProductFits pk (row.withData data now) ∨
        ∀ given ∈ attributesData, Distinct given := by
  by_cases hfits : db.market.ProductFits pk (row.withData data now)
  · rw [or_iff_right (not_not_intro hfits)]
    rcases attributesData with _ | attributesData
    · have hsave : update pk row data none now db = (.ok (), db.setProduct pk _ hfits) :=
        bind_of_ok (dif_pos hfits)
      refine iff_of_true ?_ (fun _ hgiven => nomatch hgiven)
      rw [UpdateAtomic, hsave]
      exact ⟨Table.lookup_update_self hrow _, rfl⟩
    · simp only [Option.mem_some_iff, forall_eq']
      exact ⟨fun hatomic => by_contra fun h => not_updateAtomic_of_repeated hrow hfits h hatomic,
        updateAtomic_of_distinct hrow hfits⟩
  · refine iff_of_true ?_ (.inl hfits)
    rw [UpdateAtomic, update_of_not_fits hfits]
    exact ⟨rfl, rfl⟩

end

/-! ## Creation -/

section

variable {db : AttributeDb} {data : NewProduct} {attributesData : Option (List AttributeData)}
  {now : ℕ}

lemma create_of_not_fits
    (h : ¬ db.market.ProductFits db.market.products.nextId (data.row now)) :
    create data attributesData now db = (.error .integrityError, db) :=
  bind_of_error (dif_neg h)

lemma create_of_ok (h : db.market.ProductFits db.market.products.nextId (data.row now))
    {db' : AttributeDb} (hrun : forEach (insertAttribute db.market.products.nextId)
      (attributesData.getD []) (db.addProduct (data.row now) h) = (.ok (), db')) :
    create data attributesData now db = (.ok db.market.products.nextId, db') := by
  have hinsert : insertProduct (data.row now) db =
      (.ok db.market.products.nextId, db.addProduct (data.row now) h) := dif_pos h
  exact (bind_of_ok hinsert).trans (bind_of_ok hrun)

lemma create_of_error (h : db.market.ProductFits db.market.products.nextId (data.row now))
    {db' : AttributeDb} {e : PyErr} (hrun : forEach (insertAttribute db.market.products.nextId)
      (attributesData.getD []) (db.addProduct (data.row now) h) = (.error e, db')) :
    create data attributesData now db = (.error e, db') := by
  have hinsert : insertProduct (data.row now) db =
      (.ok db.market.products.nextId, db.addProduct (data.row now) h) := dif_pos h
  exact (bind_of_ok hinsert).trans (bind_of_error hrun)

/-- No attribute waits for a product that is not there yet. -/
lemma dataOf_nextId (db : AttributeDb) : db.dataOf db.market.products.nextId = [] := by
  rw [dataOf, List.map_eq_nil_iff, attributesOf, List.filter_eq_nil_iff]
  intro r hr hof
  have hthere : (db.market.products.lookup r.2.product).isSome :=
    db.attributeProducts r.1 r.2 (Table.mem_rows_iff.mp hr)
  rw [of_decide_eq_true hof, Table.lookup_nextId] at hthere
  cases hthere

lemma createAtomic_iff (db : AttributeDb) (data : NewProduct)
    (attributesData : Option (List AttributeData)) (now : ℕ) :
    CreateAtomic db data attributesData now ↔
      ¬ db.market.ProductFits db.market.products.nextId (data.row now) ∨
        Distinct (attributesData.getD []) := by
  by_cases hfits : db.market.ProductFits db.market.products.nextId (data.row now)
  · -- the new product has no attributes yet
    have hstored : (db.market.products.insert (data.row now)).lookup db.market.products.nextId =
        some (data.row now) := Table.lookup_insert_self _ _
    have hthere := Option.isSome_of_eq_some hstored
    have hempty : (db.addProduct (data.row now) hfits).dataOf db.market.products.nextId = [] :=
      dataOf_nextId db
    rw [or_iff_right (not_not_intro hfits), CreateAtomic]
    by_cases hdistinct : Distinct (attributesData.getD [])
    · obtain ⟨db', hrun, hmarket, hdata⟩ :=
        forEach_insertAttribute_of_empty hthere hempty hdistinct
      refine iff_of_true ?_ hdistinct
      rw [create_of_ok hfits hrun]
      refine ⟨?_, hdata⟩
      rw [hmarket]
      exact hstored
    · obtain ⟨db', hrun⟩ := forEach_insertAttribute_error_of_empty hthere hempty hdistinct
      have hmarket := keeps_insertAttribute (I := fun db' => db'.market = _)
        (fun _ _ _ hkept => hkept) db.market.products.nextId (attributesData.getD [])
        (db.addProduct (data.row now) hfits) rfl
      rw [hrun] at hmarket
      refine iff_of_false ?_ hdistinct
      rw [create_of_error hfits hrun]
      rintro ⟨hproducts, -⟩
      -- the product is stored although the request has raised
      have hmem := Table.mem_rows_iff.mpr hstored
      have hrows : db'.market.products.rows = (db.market.products.insert (data.row now)).rows :=
        congrArg (fun market => market.products.rows) hmarket
      rw [← hrows, hproducts] at hmem
      exact Nat.lt_irrefl _ (db.market.products.ids _ hmem).2
  · refine iff_of_true ?_ (.inl hfits)
    rw [CreateAtomic, create_of_not_fits hfits]
    exact ⟨rfl, rfl⟩

end

/-! ## Both -/

/-- **When a product is saved all or nothing**, from any state: its row cannot be saved, or no
attribute is given twice. -/
theorem save_atomic_iff (db : AttributeDb) (pk : ℕ) (row : StoredProduct)
    (hrow : db.market.products.lookup pk = some row) (data : ProductData Price)
    (attributesData : Option (List AttributeData)) (newData : NewProduct)
    (newAttributesData : Option (List AttributeData)) (now : ℕ) :
    (UpdateAtomic db pk row data attributesData now ↔
      ¬ db.market.ProductFits pk (row.withData data now) ∨
        ∀ given ∈ attributesData, Distinct given) ∧
    (CreateAtomic db newData newAttributesData now ↔
      ¬ db.market.ProductFits db.market.products.nextId (newData.row now) ∨
        Distinct (newAttributesData.getD [])) :=
  ⟨updateAtomic_iff hrow data attributesData now, createAtomic_iff db newData newAttributesData now⟩

/-- The cup has a colour, the attribute `1`, and a volume, the attribute `2`. -/
def painted : AttributeDb where
  market := Market.market
  attributes := (Table.empty.insert ⟨1, 1, "red"⟩).insert ⟨1, 2, "200"⟩
  pairs := Table.unique_insert (Table.unique_insert (Table.unique_empty _) (by decide)) (by decide)
  attributeProducts :=
    Table.references_insert (Table.references_insert (Table.references_empty _ _) (by decide))
      (by decide)

/-- A saucer of the same supplier. -/
def saucer : NewProduct where
  supplier := 1
  category := "Dishes"
  name := "Saucer"
  sku := "S-1"
  price := ⟨310, by decide⟩
  description := none
  costPrice := none
  stockQuantity := none
  minOrderQuantity := none
  unit := none
  isActive := none
  image := none
  thumbnail := none
  small := none
  medium := none
  large := none

/-- One colour. -/
theorem save_atomic_iff_blue :
    (UpdateAtomic painted 1 firmCup ProductData.empty (some [⟨1, "blue"⟩]) 5 ↔
      ¬ painted.market.ProductFits 1 (firmCup.withData ProductData.empty 5) ∨
        ∀ given ∈ some [⟨1, "blue"⟩], Distinct given) ∧
    (CreateAtomic painted saucer none 5 ↔
      ¬ painted.market.ProductFits painted.market.products.nextId (saucer.row 5) ∨
        Distinct ((none : Option (List AttributeData)).getD [])) :=
  save_atomic_iff painted 1 firmCup (by decide) ProductData.empty _ saucer none 5

/-- Two colours: the update raises when the cup has its new name, the first colour and no volume
any more, the creation when there is a saucer. -/
theorem not_save_atomic_twoColours :
    (∃ db', update 1 firmCup { ProductData.empty with name := some "Mug" }
        (some [⟨1, "blue"⟩, ⟨1, "green"⟩]) 5 painted = (.error .integrityError, db') ∧
      (db'.market.products.lookup 1).map (fun row => row.name) = some "Mug" ∧
      painted.dataOf 1 = [⟨1, "red"⟩, ⟨2, "200"⟩] ∧ db'.dataOf 1 = [⟨1, "blue"⟩]) ∧
    ¬ UpdateAtomic painted 1 firmCup { ProductData.empty with name := some "Mug" }
      (some [⟨1, "blue"⟩, ⟨1, "green"⟩]) 5 ∧
    ¬ CreateAtomic painted saucer (some [⟨1, "blue"⟩, ⟨1, "green"⟩]) 5 := by
  refine ⟨⟨_, rfl, by decide +kernel, by decide +kernel, by decide +kernel⟩, ?_, ?_⟩
  · exact not_updateAtomic_of_repeated (by decide) (by decide) (by decide)
  · exact (createAtomic_iff painted saucer _ 5).not.mpr (by decide)

end ProductSerializer

end OrdersBackend
