import OrdersBackend.Catalogue.Robustness

/-!
# Importing a file twice

A second import with `update_existing` finds the rows that the first has left.  Where the rows
can be read it writes what the first wrote, and replaying the same writes changes nothing; a
row that cannot be read it does not touch.  So the tables are those of one import, whatever the
columns of the prices do (`afterRecords_afterRecords`).

The counts are another matter.  A record that stores a price which the column cannot read back
is a success the first time and a failure the second.  `importProducts_sameTwice_iff` says for
which files the counts agree.
-/

namespace OrdersBackend

open Framework Tx

namespace ProductViewSet

variable {κ : Type} {column : DecimalColumn κ} {supplier : ℕ} {sku : String}

/-! ## The rows that can be read -/

/-- An import that updates spoils a row by any of its records. -/
lemma spoiled_update_iff {row : Option (Product κ)} {productsData : List PyValue} :
    Spoiled column supplier true row productsData sku ↔
      ∃ productData ∈ productsData, Spoils column supplier sku productData := by
  constructor
  · rintro ⟨before, d, after, rfl, hspoils, -⟩
    exact ⟨d, by simp, hspoils⟩
  · rintro ⟨d, hmem, hspoils⟩
    obtain ⟨before, after, rfl⟩ := List.append_of_mem hmem
    exact ⟨before, d, after, rfl, hspoils, fun h => nomatch h⟩

/-- In an import that updates a row can be read when it could be before and no record spoils
it. -/
lemma rowLoads_afterRecords_update_iff (c : Catalogue κ) (productsData : List PyValue) :
    RowLoads column
        ((afterRecords column supplier true c productsData).products.lookup sku) ↔
      RowLoads column (c.products.lookup sku) ∧
        ∀ productData ∈ productsData, ¬ Spoils column supplier sku productData := by
  have hiff : ∀ h : RowLoads column (c.products.lookup sku), RowLoads column
        ((afterRecords column supplier true c productsData).products.lookup sku) ↔
      ∀ productData ∈ productsData, ¬ Spoils column supplier sku productData := by
    intro h
    rw [rowLoads_afterRecords_iff h, spoiled_update_iff]
    push Not
    rfl
  exact ⟨fun h => ⟨rowLoads_of_afterRecords h, (hiff (rowLoads_of_afterRecords h)).mp h⟩,
    fun h => (hiff h.1).mpr h.2⟩

/-! ## Categories and attributes -/

/-- What becomes of the products makes no difference to the categories. -/
lemma categories_afterRecords (c : Catalogue κ) (productsData : List PyValue) :
    (afterRecords column supplier true c productsData).categories =
      replay c.categories (productsData.flatMap fun d =>
        (writtenCategory d).toList.map fun name =>
          (name, (⟨⟨"", none⟩⟩ : CreateIfAbsent Category))) := by
  induction productsData generalizing c with
  | nil => rfl
  | cons productData productsData ih =>
      rw [afterRecords_cons, ih, List.flatMap_cons, replay_append, afterRecord,
        Catalogue.categories_writeAll]
      rw [show List.filterMap _ (recordWrites column productData supplier _) = _ from
        categoryLog_recordWrites column productData supplier _]

lemma attributes_afterRecord (c : Catalogue κ) (productData : PyValue) :
    (afterRecord column supplier true c productData).attributes =
      replay c.attributes (attributeLog (recordWrites column productData supplier
        (recordTurn column true c productData))) :=
  Catalogue.attributes_writeAll _ _

/-- Attributes are never removed. -/
lemma attributes_isSome_afterRecords {c : Catalogue κ} {name : String}
    (h : (c.attributes.lookup name).isSome) (productsData : List PyValue) :
    ((afterRecords column supplier true c productsData).attributes.lookup name).isSome := by
  induction productsData generalizing c with
  | nil => exact h
  | cons productData productsData ih =>
      apply ih
      rw [attributes_afterRecord]
      exact lookup_replay_isSome h

/-- The attributes that a record names at its turn are there afterwards. -/
lemma attributes_isSome_of_reached {c : Catalogue κ} {earlier later : List PyValue}
    {productData : PyValue} {name : String}
    (hreached : reachedSku column productData supplier
      (recordTurn column true (afterRecords column supplier true c earlier) productData) =
        some sku) (hname : name ∈ attributeNames productData) :
    ((afterRecords column supplier true c (earlier ++ productData :: later)).attributes.lookup
      name).isSome := by
  rw [afterRecords_append, afterRecords_cons]
  apply attributes_isSome_afterRecords
  rw [attributes_afterRecord, (logs_recordWrites column productData supplier _).2, hreached,
    Option.toList_some, List.flatMap_singleton, lookup_replay]
  have hmem : (⟨⟨""⟩⟩ : CreateIfAbsent Attribute) ∈ patchesAt name
      ((attributeNames productData).map fun name => (name, ⟨⟨""⟩⟩)) :=
    mem_patchesAt.mpr (List.mem_map.mpr ⟨name, hname, rfl⟩)
  obtain ⟨p, ps, hps⟩ := List.exists_cons_of_ne_nil (List.ne_nil_of_mem hmem)
  rw [hps, applyAll_cons, applyAll_createIfAbsent_some]
  rfl

/-! ## The catalogue -/

/-- A record that reaches its product in the second import has reached it in the first. -/
lemma reachedSku_of_second {c : Catalogue κ} {earlier later : List PyValue}
    {productData : PyValue} (h : reachedSku column productData supplier
      (recordTurn column true (afterRecords column supplier true (afterRecords column supplier true
        c (earlier ++ productData :: later)) earlier) productData) = some sku) :
    reachedSku column productData supplier
      (recordTurn column true (afterRecords column supplier true c earlier) productData) =
        some sku := by
  have hsku := recordSku_of_reachedSku h
  rw [recordTurn_of_sku _ hsku] at h ⊢
  have hrow : RowLoads column ((afterRecords column supplier true (afterRecords column supplier
      true c (earlier ++ productData :: later)) earlier).products.lookup sku) := by
    rw [← rowTurn_ne_raise_iff true]
    intro e he
    rw [he] at h
    cases h
  have hfirst := rowLoads_of_afterRecords hrow
  rw [afterRecords_append] at hfirst
  have hturn : ∀ row, RowLoads column row → rowTurn column true row = .store := fun row hload =>
    (rowTurn_eq_store_iff_rowLoads row).mpr ⟨hload, .inl rfl⟩
  rw [hturn _ (rowLoads_of_afterRecords hfirst)]
  rwa [hturn _ hrow] at h

/-- Records that name attributes which are there create none. -/
lemma attributes_afterRecords_of_there {c : Catalogue κ} {productsData : List PyValue}
    (h : ∀ earlier productData later, productsData = earlier ++ productData :: later →
      ∀ sku, reachedSku column productData supplier
        (recordTurn column true (afterRecords column supplier true c earlier) productData) =
          some sku →
      ∀ name ∈ attributeNames productData, (c.attributes.lookup name).isSome) :
    (afterRecords column supplier true c productsData).attributes = c.attributes := by
  induction productsData generalizing c with
  | nil => rfl
  | cons productData productsData ih =>
      have hhead : (afterRecord column supplier true c productData).attributes =
          c.attributes := by
        rw [attributes_afterRecord, replay_createIfAbsent_eq_self_iff]
        intro w hw
        rw [(logs_recordWrites column productData supplier _).2] at hw
        obtain ⟨sku, hsku, hw⟩ := List.mem_flatMap.mp hw
        obtain ⟨name, hname, rfl⟩ := List.mem_map.mp hw
        exact h [] productData productsData rfl sku (Option.mem_toList.mp hsku) name hname
      rw [afterRecords_cons, ih, hhead]
      rintro earlier d later rfl sku hsku name hname
      rw [hhead]
      exact h (productData :: earlier) d later rfl sku hsku name hname

/-- **A second import of the same file leaves the tables as they are.** -/
theorem afterRecords_afterRecords (c : Catalogue κ) (productsData : List PyValue) :
    afterRecords column supplier true (afterRecords column supplier true c productsData)
        productsData =
      afterRecords column supplier true c productsData := by
  set once := afterRecords column supplier true c productsData with honce
  -- a product and its values
  have hrows : ∀ sku,
      (afterRecords column supplier true once productsData).products.lookup sku =
          once.products.lookup sku ∧
        ∀ name, (afterRecords column supplier true once productsData).values.lookup (sku, name) =
          once.values.lookup (sku, name) := by
    intro sku
    by_cases hrow : RowLoads column (once.products.lookup sku)
    · -- no record has spoiled the row, so both imports write the same
      have hunspoiled := ((rowLoads_afterRecords_update_iff c productsData).mp hrow).2
      have hrow' : RowLoads column
          ((afterRecords column supplier true once productsData).products.lookup sku) :=
        (rowLoads_afterRecords_update_iff once productsData).mpr ⟨hrow, hunspoiled⟩
      obtain ⟨hproduct, hvalues⟩ := afterRecords_of_rowLoads hrow
      obtain ⟨hproduct', hvalues'⟩ := afterRecords_of_rowLoads hrow'
      refine ⟨?_, fun name => ?_⟩
      · rw [hproduct', hproduct, applyAll_applyAll]
      · rw [hvalues' name, hvalues name, ← Option.or_assoc, Option.or_self]
    · -- the row cannot be read any more
      unfold RowLoads at hrow
      push Not at hrow
      obtain ⟨p, hp, hload⟩ := hrow
      obtain ⟨hproduct, hvalues⟩ := afterRecords_of_not_loads hp hload supplier true productsData
      exact ⟨hproduct.trans hp.symm, hvalues⟩
  refine Catalogue.ext ?_ ?_ ?_ ?_
  · rw [categories_afterRecords, honce, categories_afterRecords, replay_replay]
  · refine attributes_afterRecords_of_there fun earlier d later heq sku hreached name hname => ?_
    rw [honce, heq] at hreached ⊢
    exact attributes_isSome_of_reached (reachedSku_of_second hreached) hname
  · exact Finmap.ext_lookup fun sku => (hrows sku).1
  · exact Finmap.ext_lookup fun ⟨sku, name⟩ => (hrows sku).2 name

/-! ## The counts -/

/-- Of two runs of which one succeeds wherever the other does, the counts agree when the other
succeeds wherever the one does. -/
lemma successes_eq_iff {c c' : Catalogue κ} {productsData : List PyValue}
    (h : ∀ earlier productData later, productsData = earlier ++ productData :: later →
      Good column supplier true (afterRecords column supplier true c' earlier) productData →
        Good column supplier true (afterRecords column supplier true c earlier) productData) :
    successes column supplier true c' productsData ≤ successes column supplier true c productsData ∧
      (successes column supplier true c' productsData =
          successes column supplier true c productsData ↔
        ∀ earlier productData later, productsData = earlier ++ productData :: later →
          Good column supplier true (afterRecords column supplier true c earlier) productData →
            Good column supplier true (afterRecords column supplier true c' earlier)
              productData) := by
  induction productsData generalizing c c' with
  | nil => exact ⟨le_rfl, iff_of_true rfl fun earlier d later heq => by simp at heq⟩
  | cons productData productsData ih =>
      obtain ⟨hle, heq⟩ := ih fun earlier d later hsplit =>
        h (productData :: earlier) d later (by rw [hsplit]; rfl)
      have hhead : Good column supplier true c' productData →
          Good column supplier true c productData := h [] productData productsData rfl
      -- the first record apart from the others
      have hcases : (∀ earlier d later, productData :: productsData = earlier ++ d :: later →
            Good column supplier true (afterRecords column supplier true c earlier) d →
              Good column supplier true (afterRecords column supplier true c' earlier) d) ↔
          (Good column supplier true c productData → Good column supplier true c' productData) ∧
            successes column supplier true (afterRecord column supplier true c' productData)
                productsData =
              successes column supplier true (afterRecord column supplier true c productData)
                productsData := by
        rw [heq]
        constructor
        · intro hall
          refine ⟨hall [] productData productsData rfl, fun earlier d later hsplit => ?_⟩
          exact hall (productData :: earlier) d later (by rw [hsplit]; rfl)
        · rintro ⟨hfirst, hrest⟩ earlier d later hsplit
          rcases earlier with _ | ⟨d', earlier⟩
          · obtain ⟨rfl, rfl⟩ := List.cons.inj hsplit
            exact hfirst
          · obtain ⟨rfl, rfl⟩ := List.cons.inj hsplit
            exact hrest earlier d later rfl
      rw [hcases, successes_cons, successes_cons]
      unfold Good at hhead ⊢
      -- the first record adds to one count only where the runs part
      by_cases hgood : RecordSucceeds column productData supplier
          (recordTurn column true c productData)
      · by_cases hgood' : RecordSucceeds column productData supplier
            (recordTurn column true c' productData)
        · simp only [hgood, hgood', if_true, forall_const, true_and]
          omega
        · simp only [hgood, hgood', if_true, if_false, forall_const, false_and, iff_false]
          omega
      · have hgood' := mt hhead hgood
        simp only [hgood, hgood', if_false, false_imp_iff, true_and]
        omega

/-- A record succeeds at its turn when it is good and no record before it spoils its product. -/
lemma good_afterRecords_update_iff {c : Catalogue κ} {productData : PyValue}
    (hsku : recordSku productData = some sku) (earlier : List PyValue) :
    Good column supplier true (afterRecords column supplier true c earlier) productData ↔
      Good column supplier true c productData ∧
        ∀ d ∈ earlier, ¬ Spoils column supplier sku d := by
  have hgood : ∀ c : Catalogue κ, Good column supplier true c productData ↔
      RecordSucceeds column productData supplier .store ∧
        RowLoads column (c.products.lookup sku) := by
    intro c
    constructor
    · intro h
      have hrow := rowLoads_of_good h hsku
      unfold Good at h
      rw [recordTurn_of_sku c hsku, (rowTurn_eq_store_iff_rowLoads _).mpr ⟨hrow, .inl rfl⟩] at h
      exact ⟨h, hrow⟩
    · rintro ⟨h, hrow⟩
      unfold Good
      rwa [recordTurn_of_sku c hsku, (rowTurn_eq_store_iff_rowLoads _).mpr ⟨hrow, .inl rfl⟩]
  rw [hgood, hgood, rowLoads_afterRecords_update_iff, and_assoc]

/-- Nothing that a record of the file has stored is spoiled: where a record succeeds the first
time, neither it nor a later one spoils its product. -/
def KeepsReadable (column : DecimalColumn κ) (supplier : ℕ) (productsData : List PyValue)
    (c : Catalogue κ) : Prop :=
  ∀ earlier productData later, productsData = earlier ++ productData :: later →
    Good column supplier true c productData → ∀ sku, recordSku productData = some sku →
      (∀ d ∈ earlier, ¬ Spoils column supplier sku d) →
        ∀ d ∈ productData :: later, ¬ Spoils column supplier sku d

/-- The second import counts what the first has counted. -/
lemma successes_twice_iff (c : Catalogue κ) (productsData : List PyValue) :
    successes column supplier true (afterRecords column supplier true c productsData)
        productsData =
        successes column supplier true c productsData ↔
      KeepsReadable column supplier productsData c := by
  -- in the second import a record meets the rows of the whole file and of what is before it
  have hsecond : ∀ {earlier : List PyValue} {d : PyValue} {sku : String},
      recordSku d = some sku →
      (Good column supplier true (afterRecords column supplier true
          (afterRecords column supplier true c productsData) earlier) d ↔
        Good column supplier true c d ∧ (∀ d' ∈ productsData, ¬ Spoils column supplier sku d') ∧
          ∀ d' ∈ earlier, ¬ Spoils column supplier sku d') := fun hsku => by
    rw [good_afterRecords_update_iff hsku, good_afterRecords_update_iff hsku, and_assoc]
  have hnamed : ∀ {c' : Catalogue κ} {d : PyValue}, Good column supplier true c' d →
      ∃ sku, recordSku d = some sku := fun h =>
    Option.isSome_iff_exists.mp (recordSku_isSome_of_succeeds h)
  rw [(successes_eq_iff _).2]
  · constructor
    · -- a record that is counted again has met no row that a later record spoils
      rintro h earlier d later rfl hgood sku hsku hearlier d' hmem
      have hfirst := (good_afterRecords_update_iff hsku earlier).mpr ⟨hgood, hearlier⟩
      have hboth := (hsecond hsku).mp (h earlier d later rfl hfirst)
      exact hboth.2.1 d' (List.mem_append_right _ hmem)
    · rintro h earlier d later rfl hfirst
      obtain ⟨sku, hsku⟩ := hnamed hfirst
      obtain ⟨hgood, hearlier⟩ := (good_afterRecords_update_iff hsku earlier).mp hfirst
      refine (hsecond hsku).mpr ⟨hgood, fun d' hmem => ?_, hearlier⟩
      rcases List.mem_append.mp hmem with hmem | hmem
      · exact hearlier d' hmem
      · exact h earlier d later rfl hgood sku hsku hearlier d' hmem
  · -- nothing is counted in the second import alone
    rintro earlier d later rfl hboth
    obtain ⟨sku, hsku⟩ := hnamed hboth
    obtain ⟨hgood, -, hearlier⟩ := (hsecond hsku).mp hboth
    exact (good_afterRecords_update_iff hsku earlier).mpr ⟨hgood, hearlier⟩

/-! ## The import -/

/-- The second of two imports leaves the tables as the first did, and reports the same counts
when the first ends normally. -/
def SameTwice (import_ : Tx (ImportDb κ) PyErr ImportResponse) (db : ImportDb κ) : Prop :=
  (import_ (import_ db).2).2.catalogue = (import_ db).2.catalogue ∧
    ∀ response, (import_ db).1 = .ok response →
      ∃ response', (import_ (import_ db).2).1 = .ok response' ∧
        response'.successCount = response.successCount ∧
        response'.failedCount = response.failedCount

/-- **When re-importing is harmless.**  The tables are always those of one import.  The counts
are, too, exactly when the import raises or nothing that it has stored is spoiled. -/
theorem importProducts_sameTwice_iff (column : DecimalColumn κ) (strExc : PyErr → String)
    (supplier : ℕ) (fileName : String) (fileFormat : FileFormat) (productsData : List PyValue)
    (db : ImportDb κ) :
    SameTwice (importProducts column strExc supplier fileName fileFormat true productsData) db ↔
      (∃ productData ∈ productsData, ¬ (Checkable productData ∧ Reportable productData)) ∨
        KeepsReadable column supplier productsData db.catalogue := by
  set import_ := importProducts column strExc supplier fileName fileFormat true productsData
    with himport
  -- the tables are the same in every case: an import that raises leaves them alone
  have htables : (import_ (import_ db).2).2.catalogue = (import_ db).2.catalogue := by
    by_cases hends : ∀ productData ∈ productsData, Processable productData
    · rw [himport, catalogue_importProducts hends, catalogue_importProducts hends,
        afterRecords_afterRecords]
    · push Not at hends
      obtain ⟨e, hraise⟩ := importProducts_of_not_processable column supplier true fileFormat
        strExc fileName hends db
      rw [himport, hraise, hraise]
  by_cases hends : ∀ productData ∈ productsData, Checkable productData ∧ Reportable productData
  · have hprocessed : ∀ productData ∈ productsData, Processable productData := fun d hd =>
      processable_of_reportable ((validatable_iff_checkable d).mpr (hends d hd).1) (hends d hd).2
    have hreported : ∀ productData ∈ productsData, Reportable productData := fun d hd =>
      (hends d hd).2
    obtain ⟨response, log, hfirst, hsuccess, htotal, -⟩ := importProducts_of_reportable column
      supplier true fileFormat strExc fileName hprocessed hreported db
    obtain ⟨response', log', hsecond, hsuccess', htotal', -⟩ := importProducts_of_reportable
      column supplier true fileFormat strExc fileName hprocessed hreported (import_ db).2
    rw [← himport] at hfirst hsecond
    rw [show (import_ db).2.catalogue = _ from catalogue_importProducts hprocessed db] at hsuccess'
    -- both imports answer, and the counts of the first are met again
    have hcounts : response'.successCount = response.successCount ↔
        KeepsReadable column supplier productsData db.catalogue := by
      rw [hsuccess', hsuccess, successes_twice_iff]
    have hnone : ¬ ∃ d ∈ productsData, ¬ (Checkable d ∧ Reportable d) := by
      push Not
      exact hends
    rw [or_iff_right hnone, ← hcounts]
    unfold SameTwice
    rw [and_iff_right htables, hsecond, hfirst]
    constructor
    · intro h
      obtain ⟨r, hr, heq, -⟩ := h response rfl
      cases Except.ok.inj hr
      exact heq
    · intro heq r hr
      cases Except.ok.inj hr
      exact ⟨response', rfl, heq, by omega⟩
  · refine iff_of_true ⟨htables, fun r hr => ?_⟩ (.inl ?_)
    · exact absurd (importProducts_ok_iff_checkable.mp ⟨r, hr⟩) hends
    · simpa only [not_forall, exists_prop] using hends

/-- A price of eleven digits is stored by the first import, and cannot be read by the second:
one success the first time, one failure the second. -/
theorem not_importProducts_sameTwice :
    let productsData : List PyValue :=
      [.mapping [("sku", .str "A"), ("name", .str "Cup"), ("price", .str "123456789.99"),
        ("stock_quantity", .str "3")] ""]
    ¬ SameTwice (importProducts (.late 10) (fun _ => "") 7 "prices.csv" .csv true productsData)
      ⟨Catalogue.empty, []⟩ := by
  intro productsData
  set import_ := importProducts (.late 10) (fun _ => "") 7 "prices.csv" .csv true productsData
  rintro ⟨-, hcounts⟩
  have hone : (import_ ⟨Catalogue.empty, []⟩).1.toOption.map (·.successCount) = some 1 := by
    decide +kernel
  have hzero : (import_ (import_ ⟨Catalogue.empty, []⟩).2).1.toOption.map (·.successCount) =
      some 0 := by
    decide +kernel
  rcases hfirst : (import_ ⟨Catalogue.empty, []⟩).1 with e | response
  · rw [hfirst] at hone
    cases hone
  · obtain ⟨response', hsecond, hsame, -⟩ := hcounts response hfirst
    rw [hfirst] at hone
    rw [hsecond] at hzero
    have hcount : response.successCount = 1 := Option.some.inj hone
    have hcount' : response'.successCount = 0 := Option.some.inj hzero
    omega

end ProductViewSet

end OrdersBackend
