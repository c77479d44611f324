import OrdersBackend.Catalogue.Effects

/-!
# Importing a file in another order

Records with different SKUs meet in the shared tables only.  None of them changes what becomes
of another one's product, so the writes of a file are settled by the catalogue before it
(`afterRecords_distinct`).  The writes of two of its records commute: their products and
values stand under different SKUs, and a category or an attribute is created with the same
row whoever names it first.
-/

namespace OrdersBackend

open Framework Tx

namespace ProductViewSet

/-- No two records of the file name the same product. -/
def DistinctSkus (productsData : List PyValue) : Prop :=
  productsData.Pairwise fun d d' => ∀ sku, recordSku d = some sku → recordSku d' ≠ some sku

lemma DistinctSkus.perm {productsData productsData' : List PyValue}
    (h : DistinctSkus productsData) (hperm : productsData.Perm productsData') :
    DistinctSkus productsData' :=
  (hperm.pairwise_iff fun hdd' sku hd' hd => hdd' sku hd hd').mp h

section

variable {κ : Type} (column : DecimalColumn κ) (supplier : ℕ) (updateExisting : Bool)

/-! ## The writes of the file -/

/-- A record does not change the turn of another one. -/
lemma recordTurn_afterRecord {d d' : PyValue}
    (h : ∀ sku, recordSku d = some sku → recordSku d' ≠ some sku) (c : Catalogue κ) :
    recordTurn column updateExisting (afterRecord column supplier updateExisting c d) d' =
      recordTurn column updateExisting c d' := by
  rcases hsku : recordSku d' with _ | sku
  · unfold recordTurn
    rw [hsku]
    rfl
  · have hne : ∀ columns, stored column d supplier ≠ some (sku, columns) := by
      intro columns hstored
      exact h sku (recordSku_of_stored hstored) hsku
    rw [recordTurn_of_sku _ hsku, recordTurn_of_sku _ hsku,
      lookup_products_afterRecord_of_ne hne]

/-- The writes an element would leave in the catalogue `c`. -/
def writesOn (c : Catalogue κ) (productData : PyValue) : List (Write κ) :=
  recordWrites column productData supplier (recordTurn column updateExisting c productData)

/-- The turns of the records of the file in `c'` are those in `c`. -/
def SameTurns (c c' : Catalogue κ) (productsData : List PyValue) : Prop :=
  ∀ d ∈ productsData, recordTurn column updateExisting c' d = recordTurn column updateExisting c d

lemma SameTurns.afterRecord {d : PyValue} {productsData : List PyValue}
    (h : DistinctSkus (d :: productsData)) {c c' : Catalogue κ}
    (hturns : SameTurns column updateExisting c c' (d :: productsData)) :
    SameTurns column updateExisting c (afterRecord column supplier updateExisting c' d)
      productsData := by
  intro d' hd'
  rw [recordTurn_afterRecord column supplier updateExisting ((List.pairwise_cons.mp h).1 d' hd')]
  exact hturns d' (List.mem_cons_of_mem _ hd')

/-- The catalogue before a file of different products settles what each of them writes. -/
lemma afterRecords_of_sameTurns {productsData : List PyValue} (h : DistinctSkus productsData)
    {c c' : Catalogue κ} (hturns : SameTurns column updateExisting c c' productsData) :
    afterRecords column supplier updateExisting c' productsData =
      c'.writeAll (productsData.flatMap (writesOn column supplier updateExisting c)) := by
  induction productsData generalizing c' with
  | nil => rfl
  | cons d productsData ih =>
      have hnext := hturns.afterRecord column supplier updateExisting h
      rw [afterRecords_cons, ih (List.pairwise_cons.mp h).2 hnext, List.flatMap_cons,
        Catalogue.writeAll_append, ProductViewSet.afterRecord, writesOn,
        hturns d List.mem_cons_self]

lemma afterRecords_distinct {productsData : List PyValue} (h : DistinctSkus productsData)
    (c : Catalogue κ) :
    afterRecords column supplier updateExisting c productsData =
      c.writeAll (productsData.flatMap (writesOn column supplier updateExisting c)) :=
  afterRecords_of_sameTurns column supplier updateExisting h fun _ _ => rfl

/-- It settles, too, which of them succeed. -/
lemma successes_of_sameTurns {productsData : List PyValue} (h : DistinctSkus productsData)
    {c c' : Catalogue κ} (hturns : SameTurns column updateExisting c c' productsData) :
    successes column supplier updateExisting c' productsData =
      productsData.countP fun d =>
        RecordSucceeds column d supplier (recordTurn column updateExisting c d) := by
  induction productsData generalizing c' with
  | nil => rfl
  | cons d productsData ih =>
      have hnext := hturns.afterRecord column supplier updateExisting h
      rw [successes, ih (List.pairwise_cons.mp h).2 hnext, hturns d List.mem_cons_self,
        List.countP_cons]
      simp only [decide_eq_true_eq]
      omega

lemma successes_distinct {productsData : List PyValue} (h : DistinctSkus productsData)
    (c : Catalogue κ) :
    successes column supplier updateExisting c productsData =
      productsData.countP fun d =>
        RecordSucceeds column d supplier (recordTurn column updateExisting c d) :=
  successes_of_sameTurns column supplier updateExisting h fun _ _ => rfl

/-! ## Two records commute -/

lemma categoryLog_commute (d d' : PyValue) (turn turn' : Turn) :
    ∀ w ∈ categoryLog (recordWrites column d supplier turn),
      ∀ w' ∈ categoryLog (recordWrites column d' supplier turn'), WritesCommute w w' := by
  simp only [categoryLog_recordWrites, List.mem_map]
  rintro _ ⟨name, -, rfl⟩ _ ⟨name', -, rfl⟩
  exact createIfAbsent_commute rfl

lemma attributeLog_commute (d d' : PyValue) (turn turn' : Turn) :
    ∀ w ∈ attributeLog (recordWrites column d supplier turn),
      ∀ w' ∈ attributeLog (recordWrites column d' supplier turn'), WritesCommute w w' := by
  rw [(logs_recordWrites column d supplier turn).2, (logs_recordWrites column d' supplier turn').2]
  simp only [List.mem_flatMap, List.mem_map]
  rintro _ ⟨_, -, name, -, rfl⟩ _ ⟨_, -, name', -, rfl⟩
  exact createIfAbsent_commute rfl

lemma recordSku_of_mem_productLog {d : PyValue} {turn : Turn} {w : String × ProductColumns κ}
    (h : w ∈ productLog (recordWrites column d supplier turn)) : recordSku d = some w.1 := by
  rw [productLog_recordWrites] at h
  split at h
  · have hstored : stored column d supplier = some (w.1, w.2) := Option.mem_toList.mp h
    exact recordSku_of_stored hstored
  · exact absurd h List.not_mem_nil

lemma recordSku_of_mem_valueLog {d : PyValue} {turn : Turn}
    {w : (String × String) × Overwrite String}
    (h : w ∈ valueLog (recordWrites column d supplier turn)) : recordSku d = some w.1.1 := by
  rw [(logs_recordWrites column d supplier turn).1] at h
  simp only [List.mem_flatMap, Option.mem_toList, List.mem_map] at h
  obtain ⟨sku, hreached, nv, -, rfl⟩ := h
  exact recordSku_of_reachedSku hreached

lemma productLog_commute {d d' : PyValue}
    (h : ∀ sku, recordSku d = some sku → recordSku d' ≠ some sku) (turn turn' : Turn) :
    ∀ w ∈ productLog (recordWrites column d supplier turn),
      ∀ w' ∈ productLog (recordWrites column d' supplier turn'), WritesCommute w w' := by
  intro w hw w' hw' hkey
  have hd' := recordSku_of_mem_productLog column supplier hw'
  rw [← hkey] at hd'
  exact absurd hd' (h _ (recordSku_of_mem_productLog column supplier hw))

lemma valueLog_commute {d d' : PyValue}
    (h : ∀ sku, recordSku d = some sku → recordSku d' ≠ some sku) (turn turn' : Turn) :
    ∀ w ∈ valueLog (recordWrites column d supplier turn),
      ∀ w' ∈ valueLog (recordWrites column d' supplier turn'), WritesCommute w w' := by
  intro w hw w' hw' hkey
  have hd' := recordSku_of_mem_valueLog column supplier hw'
  rw [← hkey] at hd'
  exact absurd hd' (h _ (recordSku_of_mem_valueLog column supplier hw))

/-- The files of different products that are permutations of each other leave the same
catalogue. -/
theorem afterRecords_perm {productsData productsData' : List PyValue}
    (hperm : productsData.Perm productsData') (hdistinct : DistinctSkus productsData)
    (c : Catalogue κ) :
    afterRecords column supplier updateExisting c productsData =
      afterRecords column supplier updateExisting c productsData' := by
  rw [afterRecords_distinct column supplier updateExisting hdistinct,
    afterRecords_distinct column supplier updateExisting (hdistinct.perm hperm)]
  apply Catalogue.ext
  · simp only [Catalogue.categories_writeAll, List.filterMap_flatMap]
    refine replay_flatMap_perm hperm (hdistinct.imp fun _ => ?_) _
    exact categoryLog_commute column supplier _ _ _ _
  · simp only [Catalogue.attributes_writeAll, List.filterMap_flatMap]
    refine replay_flatMap_perm hperm (hdistinct.imp fun _ => ?_) _
    exact attributeLog_commute column supplier _ _ _ _
  · simp only [Catalogue.products_writeAll, List.filterMap_flatMap]
    refine replay_flatMap_perm hperm (hdistinct.imp fun hne => ?_) _
    exact productLog_commute column supplier hne _ _
  · simp only [Catalogue.values_writeAll, List.filterMap_flatMap]
    refine replay_flatMap_perm hperm (hdistinct.imp fun hne => ?_) _
    exact valueLog_commute column supplier hne _ _

/-- The same number of their records succeed. -/
lemma successes_perm {productsData productsData' : List PyValue}
    (hperm : productsData.Perm productsData') (hdistinct : DistinctSkus productsData)
    (c : Catalogue κ) :
    successes column supplier updateExisting c productsData =
      successes column supplier updateExisting c productsData' := by
  rw [successes_distinct column supplier updateExisting hdistinct,
    successes_distinct column supplier updateExisting (hdistinct.perm hperm)]
  exact hperm.countP_eq _

end

/-! ## The import -/

section

variable {κ : Type} (column : DecimalColumn κ) (supplier : ℕ) (fileFormat : FileFormat)
  (updateExisting : Bool) {productsData productsData' : List PyValue}
  (hperm : productsData.Perm productsData') (hdistinct : DistinctSkus productsData)

include hperm hdistinct

/-- The transactions count alike and leave the same catalogue, when no record raises. -/
lemma importRecords_perm (h : ∀ productData ∈ productsData, Processable productData)
    (c : Catalogue κ) : ∃ totals totals',
    (importRecords column supplier updateExisting fileFormat productsData c).1 = .ok totals ∧
      (importRecords column supplier updateExisting fileFormat productsData' c).1 = .ok totals' ∧
      totals.successCount = totals'.successCount ∧ totals.failedCount = totals'.failedCount := by
  have h' : ∀ productData ∈ productsData', Processable productData :=
    fun d hd => h d (hperm.mem_iff.mpr hd)
  obtain ⟨totals, hfirst, hsuccess, htotal, -⟩ := importRecords_of_processable column supplier
    updateExisting fileFormat h c
  obtain ⟨totals', hsecond, hsuccess', htotal', -⟩ := importRecords_of_processable column supplier
    updateExisting fileFormat h' c
  have hcounts : totals.successCount = totals'.successCount := by
    rw [hsuccess, hsuccess', successes_perm column supplier updateExisting hperm hdistinct]
  have hlength : productsData.length = productsData'.length := hperm.length_eq
  exact ⟨totals, totals', congrArg Prod.fst hfirst, congrArg Prod.fst hsecond, hcounts, by omega⟩

end

/-- **The order of a file does not matter** when no two of its records name the same product.
Two such imports leave the same catalogue and count the same successes and failures: both are
answered, or the log refuses a message of both.  Or both raise and leave everything as it
was. -/
theorem importProducts_perm {κ : Type} (column : DecimalColumn κ) (strExc : PyErr → String)
    (supplier : ℕ) (fileName : String) (fileFormat : FileFormat) (updateExisting : Bool)
    (db : ImportDb κ) {productsData productsData' : List PyValue}
    (hperm : productsData.Perm productsData') (hdistinct : DistinctSkus productsData) :
    let run := importProducts column strExc supplier fileName fileFormat updateExisting
    let records := importRecords column supplier updateExisting fileFormat
    (∃ response response', (run productsData db).1 = .ok response ∧
        (run productsData' db).1 = .ok response' ∧
        response.successCount = response'.successCount ∧
        response.failedCount = response'.failedCount ∧
        (run productsData db).2.catalogue = (run productsData' db).2.catalogue) ∨
      (∃ e e' totals totals', (run productsData db).1 = .error e ∧
        (run productsData' db).1 = .error e' ∧
        (records productsData db.catalogue).1 = .ok totals ∧
        (records productsData' db.catalogue).1 = .ok totals' ∧
        totals.successCount = totals'.successCount ∧ totals.failedCount = totals'.failedCount ∧
        (run productsData db).2.catalogue = (run productsData' db).2.catalogue) ∨
      (∃ e e', (run productsData db).1 = .error e ∧ (run productsData' db).1 = .error e' ∧
        (run productsData db).2.catalogue = db.catalogue ∧
        (run productsData' db).2.catalogue = db.catalogue) := by
  intro run records
  by_cases h : ∀ productData ∈ productsData, Processable productData
  · have h' : ∀ productData ∈ productsData', Processable productData :=
      fun d hd => h d (hperm.mem_iff.mpr hd)
    -- every element is processed in either order, and the catalogues agree
    have hcatalogue : (run productsData db).2.catalogue = (run productsData' db).2.catalogue :=
      (catalogue_importProducts h db).trans
        ((afterRecords_perm column supplier updateExisting hperm hdistinct db.catalogue).trans
          (catalogue_importProducts h' db).symm)
    by_cases hreported : ∀ productData ∈ productsData, Reportable productData
    · -- both are answered
      obtain ⟨response, log, hfirst, hsuccess, htotal, -⟩ := importProducts_of_reportable column
        supplier updateExisting fileFormat strExc fileName h hreported db
      obtain ⟨response', log', hsecond, hsuccess', htotal', -⟩ := importProducts_of_reportable
        column supplier updateExisting fileFormat strExc fileName h'
        (fun d hd => hreported d (hperm.mem_iff.mpr hd)) db
      have hcounts : response.successCount = response'.successCount := by
        rw [hsuccess, hsuccess', successes_perm column supplier updateExisting hperm hdistinct]
      have hlength : productsData.length = productsData'.length := hperm.length_eq
      exact .inl ⟨response, response', congrArg Prod.fst hfirst, congrArg Prod.fst hsecond,
        hcounts, by omega, hcatalogue⟩
    · -- both logs are refused
      push Not at hreported
      have hreported' : ∃ productData ∈ productsData', ¬ Reportable productData := by
        obtain ⟨d, hd, hrefused⟩ := hreported
        exact ⟨d, hperm.mem_iff.mp hd, hrefused⟩
      obtain ⟨e, hfirst⟩ := importProducts_of_not_reportable column supplier updateExisting
        fileFormat strExc fileName h hreported db
      obtain ⟨e', hsecond⟩ := importProducts_of_not_reportable column supplier updateExisting
        fileFormat strExc fileName h' hreported' db
      obtain ⟨totals, totals', htotals, htotals', hsuccess, hfailed⟩ := importRecords_perm column
        supplier fileFormat updateExisting hperm hdistinct h db.catalogue
      exact .inr (.inl ⟨e, e', totals, totals', congrArg Prod.fst hfirst,
        congrArg Prod.fst hsecond, htotals, htotals', hsuccess, hfailed, hcatalogue⟩)
  · -- both are rolled back
    push Not at h
    have h' : ∃ productData ∈ productsData', ¬ Processable productData := by
      obtain ⟨d, hd, hraises⟩ := h
      exact ⟨d, hperm.mem_iff.mp hd, hraises⟩
    obtain ⟨e, hfirst⟩ := importProducts_of_not_processable column supplier updateExisting
      fileFormat strExc fileName h db
    obtain ⟨e', hsecond⟩ := importProducts_of_not_processable column supplier updateExisting
      fileFormat strExc fileName h' db
    exact .inr (.inr ⟨e, e', congrArg Prod.fst hfirst, congrArg Prod.fst hsecond,
      congrArg (fun r => r.2.catalogue) hfirst, congrArg (fun r => r.2.catalogue) hsecond⟩)

/-- Two products of one category, the second with a price that its column refuses, in both
orders. -/
theorem importProducts_perm_two :
    let keyboard := PyValue.mapping
      [("sku", .str "A-1"), ("name", .str "Клавиатура"), ("price", .int 100),
       ("stock_quantity", .int 5), ("category", .str "Периферия")] ""
    let mouse := PyValue.mapping
      [("sku", .int 7), ("name", .str "Мышь"), ("price", .str "123456789012"),
       ("stock_quantity", .int 1), ("category", .str "Периферия")] ""
    let db : ImportDb Price := ⟨.empty, []⟩
    let run := importProducts (.strict 10) (fun _ => "") 1 "price.json" .json false
    let records := importRecords (.strict 10) 1 false .json
    (∃ response response', (run [keyboard, mouse] db).1 = .ok response ∧
        (run [mouse, keyboard] db).1 = .ok response' ∧
        response.successCount = response'.successCount ∧
        response.failedCount = response'.failedCount ∧
        (run [keyboard, mouse] db).2.catalogue = (run [mouse, keyboard] db).2.catalogue) ∨
      (∃ e e' totals totals', (run [keyboard, mouse] db).1 = .error e ∧
        (run [mouse, keyboard] db).1 = .error e' ∧
        (records [keyboard, mouse] db.catalogue).1 = .ok totals ∧
        (records [mouse, keyboard] db.catalogue).1 = .ok totals' ∧
        totals.successCount = totals'.successCount ∧ totals.failedCount = totals'.failedCount ∧
        (run [keyboard, mouse] db).2.catalogue = (run [mouse, keyboard] db).2.catalogue) ∨
      (∃ e e', (run [keyboard, mouse] db).1 = .error e ∧
        (run [mouse, keyboard] db).1 = .error e' ∧
        (run [keyboard, mouse] db).2.catalogue = db.catalogue ∧
        (run [mouse, keyboard] db).2.catalogue = db.catalogue) := by
  intro keyboard mouse db run records
  have hdistinct : DistinctSkus [keyboard, mouse] := by
    have hkeyboard : recordSku keyboard = some "A-1" := by decide +kernel
    have hmouse : recordSku mouse = some "7" := by decide +kernel
    refine List.pairwise_pair.mpr fun sku hsku heq => ?_
    rw [hkeyboard] at hsku
    rw [hmouse, ← hsku] at heq
    exact absurd heq (by decide)
  exact importProducts_perm _ _ _ _ _ _ _ (List.Perm.swap _ _ []) hdistinct

end ProductViewSet

end OrdersBackend
