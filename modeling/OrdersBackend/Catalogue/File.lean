import OrdersBackend.Catalogue.Record

/-!
# Runs of the import

The loop of `import_products` in terms of the writes of its elements.  An element whose
processing raises ends the loop with that exception, the transaction is rolled back, and
nothing of the file stays.  The writes of any other element are applied at its turn, and it is
counted once.

After the transaction the log is created, which raises when a message holds a surrogate.
`importProducts_of_reportable`, `importProducts_of_not_reportable` and
`importProducts_of_not_processable` are the three cases; the theorems about imports start from
them.
-/

namespace OrdersBackend

open Framework Tx

namespace ProductViewSet

variable {κ : Type} (column : DecimalColumn κ)

/-! ## The catalogue and the counts -/

section

variable (supplier : ℕ) (updateExisting : Bool)

/-- The catalogue after one more element. -/
def afterRecord (c : Catalogue κ) (productData : PyValue) : Catalogue κ :=
  c.writeAll (recordWrites column productData supplier
    (recordTurn column updateExisting c productData))

/-- The catalogue after the elements of a file none of which stops the import. -/
def afterRecords (c : Catalogue κ) (productsData : List PyValue) : Catalogue κ :=
  productsData.foldl (afterRecord column supplier updateExisting) c

/-- The number of elements that succeed. -/
def successes : Catalogue κ → List PyValue → ℕ
  | _, [] => 0
  | c, productData :: productsData =>
    (if RecordSucceeds column productData supplier (recordTurn column updateExisting c productData)
      then 1 else 0) +
      successes (afterRecord column supplier updateExisting c productData) productsData

@[simp] lemma afterRecords_cons (c : Catalogue κ) (productData : PyValue)
    (productsData : List PyValue) :
    afterRecords column supplier updateExisting c (productData :: productsData) =
      afterRecords column supplier updateExisting
        (afterRecord column supplier updateExisting c productData) productsData := rfl

lemma successes_cons (c : Catalogue κ) (productData : PyValue) (productsData : List PyValue) :
    successes column supplier updateExisting c (productData :: productsData) =
      (if RecordSucceeds column productData supplier
          (recordTurn column updateExisting c productData) then 1 else 0) +
        successes column supplier updateExisting
          (afterRecord column supplier updateExisting c productData) productsData := rfl

lemma afterRecords_append (c : Catalogue κ) (productsData productsData' : List PyValue) :
    afterRecords column supplier updateExisting c (productsData ++ productsData') =
      afterRecords column supplier updateExisting
        (afterRecords column supplier updateExisting c productsData) productsData' :=
  List.foldl_append

end

variable {column}

/-! ## The loop -/

section

variable (column : DecimalColumn κ) (supplier : ℕ) (updateExisting : Bool)

/-- One turn of the loop on an element whose processing ends. -/
lemma processProductRecord_of_processable {productData : PyValue} (h : Processable productData)
    (rowNum : Option ℕ) (c : Catalogue κ) :
    ∃ result, processProductRecord column productData supplier updateExisting rowNum c =
        (.ok result, afterRecord column supplier updateExisting c productData) ∧
      Answered column productData supplier (recordTurn column updateExisting c productData)
        result := by
  obtain ⟨result, hresult, hanswered⟩ := recordResult_of_processable column h supplier
    (recordTurn column updateExisting c productData) rowNum
  exact ⟨result, by rw [processProductRecord_apply, hresult]; rfl, hanswered⟩

lemma processProductRecord_of_not_processable {productData : PyValue}
    (h : ¬ Processable productData) (rowNum : Option ℕ) (c : Catalogue κ) :
    ∃ e c', processProductRecord column productData supplier updateExisting rowNum c =
      (.error e, c') := by
  obtain ⟨e, hresult⟩ := recordResult_of_not_processable column h supplier
    (recordTurn column updateExisting c productData) rowNum
  exact ⟨e, _, by rw [processProductRecord_apply, hresult]⟩

/-- A counted element adds one to one of the two counters, and its messages to the others. -/
lemma count_answered {productData : PyValue} {turn : Turn} {result : Bool × List RecordMessage}
    (h : Answered column productData supplier turn result) (t : ImportTotals) :
    (t.count result).successCount = t.successCount +
        (if RecordSucceeds column productData supplier turn then 1 else 0) ∧
      (t.count result).successCount + (t.count result).failedCount =
        t.successCount + t.failedCount + 1 ∧
      ((∀ m ∈ (t.count result).errors, m.Plain) ↔
        (∀ m ∈ t.errors, m.Plain) ∧ Reportable productData) := by
  obtain ⟨flag, messages⟩ := result
  obtain ⟨hflag, hsilent, hplain⟩ := h
  dsimp only at hflag hsilent hplain
  unfold ImportTotals.count
  rw [← hplain]
  cases flag with
  | true =>
      have hsucceeds := of_decide_eq_true hflag.symm
      rw [if_pos rfl, if_pos hsucceeds, hsilent rfl]
      exact ⟨rfl, by dsimp only; omega, by simp⟩
  | false =>
      have hfails := of_decide_eq_false hflag.symm
      rw [if_neg Bool.false_ne_true, if_neg hfails]
      refine ⟨rfl, by dsimp only; omega, ?_⟩
      simp only [List.mem_append, or_imp, forall_and]

variable (fileFormat : FileFormat)

/-- The loop over elements whose processing ends counts every element once and leaves the
writes of all of them. -/
theorem importLoop_of_processable {productsData : List PyValue}
    (h : ∀ productData ∈ productsData, Processable productData) (idx : ℕ) (t : ImportTotals)
    (c : Catalogue κ) :
    ∃ t', importLoop column supplier updateExisting fileFormat idx productsData t c =
        (.ok t', afterRecords column supplier updateExisting c productsData) ∧
      t'.successCount = t.successCount + successes column supplier updateExisting c productsData ∧
      t'.successCount + t'.failedCount =
        t.successCount + t.failedCount + productsData.length ∧
      ((∀ m ∈ t'.errors, m.Plain) ↔
        (∀ m ∈ t.errors, m.Plain) ∧ ∀ productData ∈ productsData, Reportable productData) := by
  induction productsData generalizing idx t c with
  | nil => exact ⟨t, rfl, rfl, rfl, by simp⟩
  | cons productData productsData ih =>
      obtain ⟨result, hturn, hanswered⟩ := processProductRecord_of_processable column supplier
        updateExisting (h productData List.mem_cons_self)
        (if fileFormat = .csv then some idx else none) c
      obtain ⟨hcount, hsum, hplain⟩ := count_answered column supplier hanswered t
      obtain ⟨t', hloop, hsuccess, htotal, hmessages⟩ :=
        ih (fun d hd => h d (List.mem_cons_of_mem _ hd)) (idx + 1) (t.count result)
          (afterRecord column supplier updateExisting c productData)
      refine ⟨t', ?_, ?_, ?_, ?_⟩
      · unfold importLoop
        rw [bind_of_ok hturn, hloop]
        rfl
      · rw [hsuccess, hcount, successes_cons]
        omega
      · rw [htotal, hsum, List.length_cons]
        omega
      · rw [hmessages, hplain, List.forall_mem_cons, and_assoc]

/-- An element whose processing raises ends the loop with that exception. -/
theorem importLoop_of_not_processable {productsData : List PyValue}
    (h : ∃ productData ∈ productsData, ¬ Processable productData) (idx : ℕ) (t : ImportTotals)
    (c : Catalogue κ) :
    ∃ e c', importLoop column supplier updateExisting fileFormat idx productsData t c =
      (.error e, c') := by
  induction productsData generalizing idx t c with
  | nil =>
      obtain ⟨_, hmem, _⟩ := h
      cases hmem
  | cons productData productsData ih =>
      unfold importLoop
      by_cases hhead : Processable productData
      · obtain ⟨result, hturn, -⟩ := processProductRecord_of_processable column supplier
          updateExisting hhead (if fileFormat = .csv then some idx else none) c
        have htail : ∃ d ∈ productsData, ¬ Processable d := by
          obtain ⟨d, hmem, hd⟩ := h
          rcases List.mem_cons.mp hmem with rfl | hmem
          · exact absurd hhead hd
          · exact ⟨d, hmem, hd⟩
        rw [bind_of_ok hturn]
        exact ih htail _ _ _
      · obtain ⟨e, c', hturn⟩ := processProductRecord_of_not_processable column supplier
          updateExisting hhead (if fileFormat = .csv then some idx else none) c
        exact ⟨e, c', bind_of_error hturn⟩

/-! ## The import -/

/-- The transaction of an import none of whose elements raises. -/
lemma importRecords_of_processable {productsData : List PyValue}
    (h : ∀ productData ∈ productsData, Processable productData) (c : Catalogue κ) :
    ∃ totals, importRecords column supplier updateExisting fileFormat productsData c =
        (.ok totals, afterRecords column supplier updateExisting c productsData) ∧
      totals.successCount = successes column supplier updateExisting c productsData ∧
      totals.successCount + totals.failedCount = productsData.length ∧
      ((∀ m ∈ totals.errors, m.Plain) ↔
        ∀ productData ∈ productsData, Reportable productData) := by
  obtain ⟨totals, hloop, hsuccess, htotal, hplain⟩ := importLoop_of_processable column supplier
    updateExisting fileFormat h 1 ⟨0, 0, []⟩ c
  simp only [Nat.zero_add] at hsuccess htotal
  simp only [List.not_mem_nil, false_imp_iff, implies_true, true_and] at hplain
  exact ⟨totals, atomic_of_ok hloop, hsuccess, htotal, hplain⟩

/-- The transaction of an import with an element that raises. -/
lemma importRecords_of_not_processable {productsData : List PyValue}
    (h : ∃ productData ∈ productsData, ¬ Processable productData) (c : Catalogue κ) :
    ∃ e, importRecords column supplier updateExisting fileFormat productsData c =
      (.error e, c) := by
  obtain ⟨e, c', hloop⟩ := importLoop_of_not_processable column supplier updateExisting fileFormat
    h 1 ⟨0, 0, []⟩ c
  exact ⟨e, atomic_of_error hloop⟩

variable (strExc : PyErr → String) (fileName : String)

/-- An import all of whose elements can be processed and reported ends normally, leaves their
writes, and adds one row to the log. -/
theorem importProducts_of_reportable {productsData : List PyValue}
    (h : ∀ productData ∈ productsData, Processable productData)
    (hreported : ∀ productData ∈ productsData, Reportable productData) (db : ImportDb κ) :
    ∃ response log,
      importProducts column strExc supplier fileName fileFormat updateExisting productsData db =
        (.ok response,
          ⟨afterRecords column supplier updateExisting db.catalogue productsData,
            db.logs ++ [log]⟩) ∧
      response.successCount =
        successes column supplier updateExisting db.catalogue productsData ∧
      response.successCount + response.failedCount = productsData.length ∧
      response.totalCount = productsData.length ∧
      log.supplier = supplier ∧ log.fileName = fileName ∧
      log.recordsCount = productsData.length ∧
      log.successCount = response.successCount ∧ log.failedCount = response.failedCount := by
  obtain ⟨totals, htotals, hsuccess, htotal, hplain⟩ := importRecords_of_processable column
    supplier updateExisting fileFormat h db.catalogue
  obtain ⟨texts, htexts⟩ : ∃ texts, totals.errors.mapM (RecordMessage.text strExc) = .ok texts :=
    except_mapM_ok_iff.mpr fun m hm => (m.text_ok_iff strExc).mpr (hplain.mpr hreported m hm)
  unfold importProducts
  rw [bind_apply, zoom_apply, htotals]
  dsimp only
  rw [htexts]
  exact ⟨_, _, rfl, hsuccess, htotal, htotal, rfl, rfl, htotal, rfl, rfl⟩

/-- A message that cannot be stored stops the import after its transaction: the writes stay,
and there is no log. -/
theorem importProducts_of_not_reportable {productsData : List PyValue}
    (h : ∀ productData ∈ productsData, Processable productData)
    (hreported : ∃ productData ∈ productsData, ¬ Reportable productData) (db : ImportDb κ) :
    ∃ e,
      importProducts column strExc supplier fileName fileFormat updateExisting productsData db =
        (.error e,
          ⟨afterRecords column supplier updateExisting db.catalogue productsData, db.logs⟩) := by
  obtain ⟨totals, htotals, -, -, hplain⟩ := importRecords_of_processable column supplier
    updateExisting fileFormat h db.catalogue
  have hrefused : ∀ texts, totals.errors.mapM (RecordMessage.text strExc) ≠ .ok texts := by
    intro texts htexts
    obtain ⟨d, hmem, hd⟩ := hreported
    refine hd (hplain.mp (fun m hm => ?_) d hmem)
    exact (m.text_ok_iff strExc).mp (except_mapM_ok_iff.mp ⟨texts, htexts⟩ m hm)
  unfold importProducts
  rw [bind_apply, zoom_apply, htotals]
  dsimp only
  rcases htexts : totals.errors.mapM (RecordMessage.text strExc) with e | texts
  · exact ⟨e, rfl⟩
  · exact absurd htexts (hrefused texts)

/-- An import with an element that cannot be processed raises, and leaves everything as it
was. -/
theorem importProducts_of_not_processable {productsData : List PyValue}
    (h : ∃ productData ∈ productsData, ¬ Processable productData) (db : ImportDb κ) :
    ∃ e,
      importProducts column strExc supplier fileName fileFormat updateExisting productsData db =
        (.error e, db) := by
  obtain ⟨e, hrecords⟩ := importRecords_of_not_processable column supplier updateExisting
    fileFormat h db.catalogue
  unfold importProducts
  rw [bind_apply, zoom_apply, hrecords]
  exact ⟨e, rfl⟩

variable {column supplier updateExisting fileFormat strExc fileName}

/-- The catalogue after an import none of whose elements raises, logged or not. -/
lemma catalogue_importProducts {productsData : List PyValue}
    (h : ∀ productData ∈ productsData, Processable productData) (db : ImportDb κ) :
    (importProducts column strExc supplier fileName fileFormat updateExisting productsData
        db).2.catalogue =
      afterRecords column supplier updateExisting db.catalogue productsData := by
  by_cases hreported : ∀ productData ∈ productsData, Reportable productData
  · obtain ⟨response, log, himport, -⟩ := importProducts_of_reportable column supplier
      updateExisting fileFormat strExc fileName h hreported db
    rw [himport]
  · push Not at hreported
    obtain ⟨e, himport⟩ := importProducts_of_not_reportable column supplier updateExisting
      fileFormat strExc fileName h hreported db
    rw [himport]

/-- An import returns exactly when all its elements can be processed and reported. -/
lemma importProducts_ok_iff {productsData : List PyValue} {db : ImportDb κ} :
    (∃ response, (importProducts column strExc supplier fileName fileFormat updateExisting
        productsData db).1 = .ok response) ↔
      ∀ productData ∈ productsData, Processable productData ∧ Reportable productData := by
  constructor
  · rintro ⟨response, hok⟩ d hd
    by_cases h : ∀ productData ∈ productsData, Processable productData
    · refine ⟨h d hd, ?_⟩
      by_contra hrefused
      obtain ⟨e, himport⟩ := importProducts_of_not_reportable column supplier updateExisting
        fileFormat strExc fileName h ⟨d, hd, hrefused⟩ db
      rw [himport] at hok
      cases hok
    · push Not at h
      obtain ⟨e, himport⟩ := importProducts_of_not_processable column supplier updateExisting
        fileFormat strExc fileName h db
      rw [himport] at hok
      cases hok
  · intro h
    obtain ⟨response, log, himport, -⟩ := importProducts_of_reportable column supplier
      updateExisting fileFormat strExc fileName (fun d hd => (h d hd).1) (fun d hd => (h d hd).2) db
    exact ⟨response, congrArg Prod.fst himport⟩

end

/-! ## Imports that update

Where every cell can be read, an import with `update_existing` switched on never asks the
catalogue, and the writes of a file and its counts are settled by the file. -/

section

variable {column : DecimalColumn κ}

/-- The row can be read. -/
def Loads (column : DecimalColumn κ) (p : Product κ) : Prop := p.load column = .ok ()

instance (p : Product κ) : Decidable (Loads column p) := inferInstanceAs (Decidable (_ = _))

/-- A row is read when the cells of its prices are. -/
lemma loads_iff {p : Product κ} :
    Loads column p ↔
      column.Reads p.price ∧ ∀ cost, p.costPrice = some cost → column.Reads cost := by
  unfold Loads Product.load DecimalColumn.Reads
  rcases hprice : column.read p.price with e | price
  · exact iff_of_false (fun h => nomatch h) fun ⟨⟨_, h⟩, _⟩ => nomatch h
  · rw [except_ok_bind]
    rcases p.costPrice with _ | cost
    · exact iff_of_true rfl ⟨⟨_, rfl⟩, fun cost h => nomatch h⟩
    · simp only [Option.some.injEq, forall_eq']
      rcases hcost : column.read cost with e | d
      · exact iff_of_false (fun h => nomatch h) fun ⟨_, _, h⟩ => nomatch h
      · exact iff_of_true rfl ⟨⟨_, rfl⟩, _, rfl⟩

lemma rowTurn_some_of_loads {p : Product κ} (h : Loads column p) (updateExisting : Bool) :
    rowTurn column updateExisting (some p) = if updateExisting then .store else .keep := by
  unfold rowTurn
  dsimp only
  rw [show p.load column = .ok () from h]

lemma rowTurn_some_of_not_loads {p : Product κ} (h : ¬ Loads column p) (updateExisting : Bool) :
    ∃ e, rowTurn column updateExisting (some p) = .raise e := by
  unfold rowTurn
  dsimp only
  rcases hload : p.load column with e | u
  · exact ⟨e, rfl⟩
  · exact absurd hload h

variable (hreads : ∀ cell, column.Reads cell)

include hreads

lemma recordTurn_update (c : Catalogue κ) (productData : PyValue) :
    recordTurn column true c productData = .store := by
  unfold recordTurn
  rcases (recordSku productData).bind c.products.lookup with _ | p
  · rfl
  · exact rowTurn_some_of_loads (loads_iff.mpr ⟨hreads _, fun cost _ => hreads cost⟩) true

omit hreads in
/-- The writes of a file. -/
def fileWrites (column : DecimalColumn κ) (supplier : ℕ) (productsData : List PyValue) :
    List (Write κ) :=
  productsData.flatMap fun productData => recordWrites column productData supplier .store

lemma afterRecords_update (supplier : ℕ) (c : Catalogue κ) (productsData : List PyValue) :
    afterRecords column supplier true c productsData =
      c.writeAll (fileWrites column supplier productsData) := by
  induction productsData generalizing c with
  | nil => rfl
  | cons productData productsData ih =>
      rw [afterRecords_cons, ih, afterRecord, recordTurn_update hreads, ← Catalogue.writeAll_append]
      rfl

lemma successes_update (supplier : ℕ) (c : Catalogue κ) (productsData : List PyValue) :
    successes column supplier true c productsData =
      productsData.countP fun productData => RecordSucceeds column productData supplier .store := by
  induction productsData generalizing c with
  | nil => rfl
  | cons productData productsData ih =>
      rw [successes_cons, ih, recordTurn_update hreads, List.countP_cons]
      simp only [decide_eq_true_eq]
      omega

end

end ProductViewSet

end OrdersBackend