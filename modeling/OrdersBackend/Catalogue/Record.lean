import OrdersBackend.Catalogue.RecordWrites

/-!
# One element of a file

The answer about an element and its writes are settled by the element and its turn.  When the
validation raises (the element is not `Validatable`), or a record passes the validation and
`str` refuses its SKU, so that the handler of the exceptions raises, the exception leaves
`_process_product_record`; any other element is `Processable`, and the answer says whether it
succeeds.

The log stores the messages about the elements.  It refuses one that holds a surrogate, which
is that of a record whose SKU does (the record is not `Reportable`).
-/

namespace OrdersBackend

open Framework Tx

namespace ProductViewSet

variable {κ : Type}

/-! ## One element -/

/-- The validation of an element ends, with messages or without. -/
def Validatable (productData : PyValue) : Prop := ∃ errors, recordErrors productData = .ok errors

/-- The SKU of a record that passes the validation can be printed. -/
def SkuPrints (productData : PyValue) : Prop :=
  recordErrors productData = .ok [] →
    ∃ text, (productData.item "sku" >>= PyValue.toStr) = .ok text

/-- The processing of an element ends: its validation does, and a SKU can be printed. -/
def Processable (productData : PyValue) : Prop := Validatable productData ∧ SkuPrints productData

/-- The messages about an element can be stored: the SKU of a record that passes the validation
has a text without surrogates. -/
def Reportable (productData : PyValue) : Prop :=
  recordErrors productData = .ok [] → (recordSku productData).isSome

instance (productData : PyValue) : Decidable (Reportable productData) :=
  inferInstanceAs (Decidable (_ → _))

/-- What `_process_product_record` answers. -/
def recordResult (column : DecimalColumn κ) (productData : PyValue) (supplier : ℕ) (turn : Turn)
    (rowNum : Option ℕ) : Except PyErr (Bool × List RecordMessage) :=
  match recordErrors productData with
  | .error e => .error e
  | .ok [] =>
    match (recordRun column productData supplier turn).outcome with
    | .ok _ => .ok (true, [])
    | .error e => do
      let sku ← productData.get "sku" (.str "N/A")
      let sku ← sku.toStr
      return (false, [⟨rowNum, .processing sku e⟩])
  | .ok errors => .ok (false, errors.map (RecordMessage.mk rowNum))

lemma exists_item_of_hasField {productData : PyValue} {field : String}
    (h : hasField productData field = .ok true) :
    ∃ v, productData.item field = .ok v ∧ v.truthy = true := by
  obtain ⟨present, -, h⟩ := except_bind_eq_ok.mp h
  cases present with
  | false => cases h
  | true =>
      obtain ⟨v, hv, h⟩ := except_bind_eq_ok.mp h
      exact ⟨v, hv, Except.ok.inj h⟩

/-- The fields the validation does not miss are there. -/
lemma exists_item_of_missingFields {productData : PyValue} {fields : List String}
    (h : missingFields productData fields = .ok []) :
    ∀ field ∈ fields, ∃ v, productData.item field = .ok v ∧ v.truthy = true := by
  induction fields with
  | nil => simp
  | cons field fields ih =>
      obtain ⟨filled, hfilled, h⟩ := except_bind_eq_ok.mp h
      obtain ⟨rest, hrest, h⟩ := except_bind_eq_ok.mp h
      have hif : (if filled then rest else .missingField field :: rest) = [] := Except.ok.inj h
      cases filled with
      | false => cases hif
      | true =>
          rw [if_pos rfl] at hif
          rw [hif] at hrest
          intro field' hmem
          rcases List.mem_cons.mp hmem with rfl | hmem
          · exact exists_item_of_hasField hfilled
          · exact ih hrest field' hmem

lemma missingFields_of_recordErrors {productData : PyValue}
    (h : recordErrors productData = .ok []) :
    missingFields productData requiredFields = .ok [] := by
  obtain ⟨missing, hmissing, h⟩ := except_bind_eq_ok.mp h
  obtain ⟨price, -, h⟩ := except_bind_eq_ok.mp h
  obtain ⟨quantity, -, h⟩ := except_bind_eq_ok.mp h
  obtain ⟨cost, -, h⟩ := except_bind_eq_ok.mp h
  have happend : missing ++ price ++ quantity ++ cost = [] := Except.ok.inj h
  simp only [List.append_eq_nil_iff] at happend
  rw [hmissing, happend.1.1.1]

/-- An element the validation has nothing against has a SKU. -/
lemma exists_sku_of_recordErrors {productData : PyValue} (h : recordErrors productData = .ok []) :
    ∃ sku, productData.item "sku" = .ok sku ∧ sku.truthy = true ∧
      ∀ default, productData.get "sku" default = .ok sku := by
  obtain ⟨sku, hsku, hfilled⟩ := exists_item_of_missingFields (missingFields_of_recordErrors h)
    "sku" (by simp [requiredFields])
  obtain ⟨items, text, rfl, hfind⟩ := PyValue.exists_dict_of_item hsku
  exact ⟨sku, hsku, hfilled, fun default => by rw [PyValue.get, hfind]; rfl⟩

variable (column : DecimalColumn κ)

/-- One element of the file: the answer is settled by the element and the turn, and so are the
writes. -/
theorem processProductRecord_apply (productData : PyValue) (supplier : ℕ) (updateExisting : Bool)
    (rowNum : Option ℕ) (c : Catalogue κ) :
    processProductRecord column productData supplier updateExisting rowNum c =
      (recordResult column productData supplier (recordTurn column updateExisting c productData)
          rowNum,
        c.writeAll (recordWrites column productData supplier
          (recordTurn column updateExisting c productData))) := by
  unfold processProductRecord recordResult recordWrites validateProductData
  cases herrors : recordErrors productData with
  | error e => rfl
  | ok errors =>
    cases errors with
    | cons error errors => rfl
    | nil =>
      obtain ⟨sku, -, -, hsku⟩ := exists_sku_of_recordErrors herrors
      rw [except_ok_bind]
      simp only [List.map_nil, pure, Except.pure, ne_eq, if_true, hsku]
      set turn := recordTurn column updateExisting c productData
      -- the element passes the validation, and the handler sees what the steps raise
      have hstore := storeProductRecord_apply column productData supplier updateExisting c
      rw [show recordTurn column updateExisting c productData = turn from rfl] at hstore
      cases hrun : (recordRun column productData supplier turn).outcome with
      | ok u =>
        simp only [RecordRun.onto, hrun] at hstore
        exact tryCatch_of_ok (bind_of_ok hstore)
      | error e =>
        simp only [RecordRun.onto, hrun] at hstore
        refine (tryCatch_of_error (bind_of_error hstore)).trans ?_
        rw [lift_ok, pure_bind]
        simp only [except_ok_bind]
        cases sku.toStr <;> rfl

/-! ## Records that succeed -/

/-- The element passes the validation, and storing it raises nothing. -/
def RecordSucceeds (productData : PyValue) (supplier : ℕ) (turn : Turn) : Prop :=
  recordErrors productData = .ok [] ∧ (recordRun column productData supplier turn).outcome = .ok ()

instance (productData : PyValue) (supplier : ℕ) (turn : Turn) :
    Decidable (RecordSucceeds column productData supplier turn) :=
  inferInstanceAs (Decidable (_ ∧ _))

variable {column}

/-- A record succeeds when it gets as far as its product, the product is kept or stored, and
every attribute has a name and a value. -/
theorem recordSucceeds_iff {productData : PyValue} {supplier : ℕ} {turn : Turn} :
    RecordSucceeds column productData supplier turn ↔
      ∃ sku defaults, prepared productData supplier = some (sku, defaults) ∧
        (turn = .keep ∨ turn = .store ∧ ∃ columns, defaults.columns column = .ok columns) ∧
        (runSteps .keep (valueSteps productData sku) : RecordRun κ).outcome = .ok () := by
  constructor
  · rintro ⟨hvalid, hok⟩
    rcases hprepared : prepared productData supplier with _ | ⟨sku, defaults⟩
    · obtain ⟨e, he⟩ := (recordRun_of_not_prepared column hvalid hprepared turn).1
      rw [hok] at he
      cases he
    · obtain ⟨category, hrun⟩ := recordRun_of_prepared column hprepared turn
      rw [hrun] at hok
      refine ⟨sku, defaults, rfl, ?_⟩
      -- of the three turns only `raise` fails, and `store` where the columns do
      cases turn with
      | keep => exact ⟨.inl rfl, hok⟩
      | raise e => cases hok
      | store =>
          rcases hcolumns : defaults.columns column with e | columns
          · rw [hcolumns] at hok
            cases hok
          · rw [hcolumns] at hok
            rw [runSteps_valueSteps .keep .store]
            exact ⟨.inr ⟨rfl, columns, rfl⟩, hok⟩
  · rintro ⟨sku, defaults, hprepared, hturn, hvalues⟩
    obtain ⟨category, hrun⟩ := recordRun_of_prepared column hprepared turn
    refine ⟨recordErrors_of_prepared hprepared, ?_⟩
    rw [hrun]
    rcases hturn with rfl | ⟨rfl, columns, hcolumns⟩
    · exact hvalues
    · rw [hcolumns]
      rw [runSteps_valueSteps .keep .store] at hvalues
      exact hvalues

/-- A record that succeeds is printed in the log under its SKU. -/
lemma recordSku_isSome_of_succeeds {productData : PyValue} {supplier : ℕ} {turn : Turn}
    (h : RecordSucceeds column productData supplier turn) : (recordSku productData).isSome := by
  obtain ⟨sku, defaults, hprepared, -⟩ := recordSucceeds_iff.mp h
  rw [(prepared_eq_some hprepared).1]
  rfl

/-- A record whose product cannot be read fails. -/
lemma not_succeeds_of_raise {productData : PyValue} {supplier : ℕ} (e : PyErr) :
    ¬ RecordSucceeds column productData supplier (.raise e) := by
  rw [recordSucceeds_iff]
  rintro ⟨sku, defaults, -, hturn | ⟨hturn, -⟩, -⟩ <;> cases hturn

/-- What would have been stored does no harm where it is kept. -/
lemma RecordSucceeds.keep {productData : PyValue} {supplier : ℕ} {turn : Turn}
    (h : RecordSucceeds column productData supplier turn) :
    RecordSucceeds column productData supplier .keep := by
  obtain ⟨sku, defaults, hprepared, -, hvalues⟩ := recordSucceeds_iff.mp h
  exact recordSucceeds_iff.mpr ⟨sku, defaults, hprepared, .inl rfl, hvalues⟩

/-- A record that succeeds writes to the product it names. -/
lemma RecordSucceeds.reachedSku {productData : PyValue} {supplier : ℕ} {turn : Turn}
    {sku : String} (h : RecordSucceeds column productData supplier turn)
    (hsku : recordSku productData = some sku) :
    reachedSku column productData supplier turn = some sku := by
  obtain ⟨sku', defaults, hprepared, hturn, -⟩ := recordSucceeds_iff.mp h
  rw [(prepared_eq_some hprepared).1] at hsku
  cases hsku
  unfold ProductViewSet.reachedSku
  rcases hturn with rfl | ⟨rfl, columns, hcolumns⟩
  · rw [hprepared]
    rfl
  · rw [stored_eq_some.mpr ⟨defaults, hprepared, hcolumns⟩]
    rfl

/-- A record that succeeds where its product is stored has columns to store. -/
lemma RecordSucceeds.exists_stored {productData : PyValue} {supplier : ℕ} {sku : String}
    (h : RecordSucceeds column productData supplier .store)
    (hsku : recordSku productData = some sku) :
    ∃ columns, stored column productData supplier = some (sku, columns) := by
  obtain ⟨⟨sku', columns⟩, hstored, hsku'⟩ := Option.map_eq_some_iff.mp (h.reachedSku hsku)
  cases hsku'
  exact ⟨columns, hstored⟩

/-! ## Messages -/

/-- An error of the checks: it names no SKU. -/
def IsCheck (error : RecordError) : Prop := ∀ sku e, error ≠ .processing sku e

lemma orFormatError_eq_ok {error : RecordError} {check : Except PyErr (List RecordError)}
    {errors : List RecordError} (h : orFormatError error check = .ok errors) :
    check = .ok errors ∨ errors = [error] := by
  unfold orFormatError at h
  rcases check with e | errors'
  · dsimp only at h
    split at h
    · exact .inr (Except.ok.inj h).symm
    · cases h
  · exact .inl h

lemma isCheck_of_orFormatError {error : RecordError} {check : Except PyErr (List RecordError)}
    {errors : List RecordError} (h : orFormatError error check = .ok errors)
    (herror : IsCheck error)
    (hcheck : ∀ errors, check = .ok errors → ∀ error ∈ errors, IsCheck error) :
    ∀ error ∈ errors, IsCheck error := by
  rcases orFormatError_eq_ok h with hok | rfl
  · exact hcheck errors hok
  · intro error' hmem
    rw [List.mem_singleton.mp hmem]
    exact herror

lemma isCheck_of_missingFields {productData : PyValue} {fields : List String}
    {errors : List RecordError} (h : missingFields productData fields = .ok errors) :
    ∀ error ∈ errors, IsCheck error := by
  induction fields generalizing errors with
  | nil =>
      cases Except.ok.inj h
      simp
  | cons field fields ih =>
      obtain ⟨filled, -, h⟩ := except_bind_eq_ok.mp h
      obtain ⟨rest, hrest, h⟩ := except_bind_eq_ok.mp h
      cases Except.ok.inj h
      cases filled with
      | true => exact ih hrest
      | false => exact List.forall_mem_cons.mpr ⟨fun _ _ heq => (nomatch heq), ih hrest⟩

/-- One error or none. -/
lemma isCheck_ite {b : Prop} [Decidable b] {error error' : RecordError} (herror : IsCheck error)
    (hmem : error' ∈ if b then [error] else []) : IsCheck error' := by
  split at hmem
  · rw [List.mem_singleton.mp hmem]
    exact herror
  · cases hmem

lemma isCheck_of_priceErrors {productData : PyValue} {errors : List RecordError}
    (h : priceErrors productData = .ok errors) : ∀ error ∈ errors, IsCheck error := by
  refine isCheck_of_orFormatError h (by simp [IsCheck]) fun errors hok error hmem => ?_
  obtain ⟨present, -, hok⟩ := except_bind_eq_ok.mp hok
  cases present with
  | false =>
      cases Except.ok.inj hok
      cases hmem
  | true =>
      obtain ⟨value, -, hok⟩ := except_bind_eq_ok.mp hok
      obtain ⟨decimal, -, hok⟩ := except_bind_eq_ok.mp hok
      obtain ⟨low, -, hok⟩ := except_bind_eq_ok.mp hok
      cases Except.ok.inj hok
      exact isCheck_ite (by simp [IsCheck]) hmem

lemma isCheck_of_quantityErrors {productData : PyValue} {errors : List RecordError}
    (h : quantityErrors productData = .ok errors) : ∀ error ∈ errors, IsCheck error := by
  refine isCheck_of_orFormatError h (by simp [IsCheck]) fun errors hok error hmem => ?_
  obtain ⟨present, -, hok⟩ := except_bind_eq_ok.mp hok
  cases present with
  | false =>
      cases Except.ok.inj hok
      cases hmem
  | true =>
      obtain ⟨value, -, hok⟩ := except_bind_eq_ok.mp hok
      obtain ⟨number, -, hok⟩ := except_bind_eq_ok.mp hok
      cases Except.ok.inj hok
      exact isCheck_ite (by simp [IsCheck]) hmem

lemma isCheck_of_costErrors {productData : PyValue} {errors : List RecordError}
    (h : costErrors productData = .ok errors) : ∀ error ∈ errors, IsCheck error := by
  obtain ⟨given, -, h⟩ := except_bind_eq_ok.mp h
  cases given with
  | none =>
      cases Except.ok.inj h
      simp
  | some value =>
      refine isCheck_of_orFormatError h (by simp [IsCheck]) fun errors hok error hmem => ?_
      obtain ⟨decimal, -, hok⟩ := except_bind_eq_ok.mp hok
      obtain ⟨low, -, hok⟩ := except_bind_eq_ok.mp hok
      cases Except.ok.inj hok
      exact isCheck_ite (by simp [IsCheck]) hmem

/-- The validation finds errors of its checks only. -/
lemma isCheck_of_recordErrors {productData : PyValue} {errors : List RecordError}
    (h : recordErrors productData = .ok errors) : ∀ error ∈ errors, IsCheck error := by
  -- the four lists that the validation appends
  obtain ⟨missing, hmissing, h⟩ := except_bind_eq_ok.mp h
  obtain ⟨price, hprice, h⟩ := except_bind_eq_ok.mp h
  obtain ⟨quantity, hquantity, h⟩ := except_bind_eq_ok.mp h
  obtain ⟨cost, hcost, h⟩ := except_bind_eq_ok.mp h
  cases Except.ok.inj h
  -- an error is in one of them
  intro error hmem
  simp only [List.mem_append] at hmem
  rcases hmem with ((hmem | hmem) | hmem) | hmem
  · exact isCheck_of_missingFields hmissing error hmem
  · exact isCheck_of_priceErrors hprice error hmem
  · exact isCheck_of_quantityErrors hquantity error hmem
  · exact isCheck_of_costErrors hcost error hmem

end ProductViewSet

/-- The message names no SKU with a surrogate. -/
def RecordMessage.Plain (m : RecordMessage) : Prop :=
  ∀ sku e, m.error = .processing sku e → ∃ s, sku = .plain s

/-- The log can store such a message, and no other one. -/
lemma RecordMessage.text_ok_iff (strExc : PyErr → String) (m : RecordMessage) :
    (∃ s, m.text strExc = .ok s) ↔ m.Plain := by
  have herror : (∃ s, m.error.text strExc = .ok s) ↔ m.Plain := by
    unfold Plain
    rcases m.error with _ | _ | _ | _ | _ | _ | _ | ⟨sku, e⟩
    case processing =>
      -- only the message of the handler prints the SKU of the record
      rcases sku with s | s
      · refine iff_of_true ⟨_, rfl⟩ fun sku' e' h => ⟨s, ?_⟩
        cases h
        rfl
      · refine iff_of_false (fun ⟨s', hs'⟩ => nomatch hs') fun h => ?_
        obtain ⟨s', hs'⟩ := h _ _ rfl
        cases hs'
    all_goals exact iff_of_true ⟨_, rfl⟩ fun sku e h => nomatch h
  unfold text
  rcases m.rowNum with _ | n
  · exact herror
  · rw [← herror]
    simp only [except_bind_eq_ok]
    constructor
    · rintro ⟨_, s, hs, -⟩
      exact ⟨s, hs⟩
    · rintro ⟨s, hs⟩
      exact ⟨_, s, hs, rfl⟩

namespace ProductViewSet

/-- What is answered about an element whose processing ends. -/
structure Answered (column : DecimalColumn κ) (productData : PyValue) (supplier : ℕ) (turn : Turn)
    (result : Bool × List RecordMessage) : Prop where
  flag : result.1 = decide (RecordSucceeds column productData supplier turn)
  silent : result.1 = true → result.2 = []
  plain : (∀ m ∈ result.2, m.Plain) ↔ Reportable productData

/-- The text of the SKU is stored when it has no surrogate. -/
lemma recordSku_isSome_iff {productData sku : PyValue} {text : PyText}
    (hitem : productData.item "sku" = .ok sku) (hfilled : sku.truthy = true)
    (htext : sku.toStr = .ok text) : (recordSku productData).isSome ↔ ∃ s, text = .plain s := by
  have hcolumn : textColumn sku = text.encode := by
    have hstored : textColumn sku = storedText sku := by
      cases sku <;> first | rfl | cases hfilled
    rw [hstored, storedText, htext]
    rfl
  unfold recordSku
  rw [hitem, except_ok_bind, hcolumn]
  rcases text with s | s
  · exact iff_of_true rfl ⟨s, rfl⟩
  · exact iff_of_false (fun h => nomatch h) fun ⟨s', h⟩ => nomatch h

/-- The validation has found errors, which name no SKU. -/
lemma answered_of_errors (column : DecimalColumn κ) {productData : PyValue}
    {error : RecordError} {errors : List RecordError}
    (herrors : recordErrors productData = .ok (error :: errors)) (supplier : ℕ) (turn : Turn)
    (rowNum : Option ℕ) :
    Answered column productData supplier turn
      (false, (error :: errors).map (RecordMessage.mk rowNum)) where
  flag := by
    refine (decide_eq_false fun hsucceeds => ?_).symm
    rw [hsucceeds.1] at herrors
    cases herrors
  silent := fun hflag => (nomatch hflag)
  plain := by
    have hrefused : recordErrors productData ≠ .ok [] := by
      rw [herrors]
      simp
    refine iff_of_true (fun m hm sku e hsku => ?_) fun hvalid => absurd hvalid hrefused
    obtain ⟨error', herror', rfl⟩ := List.mem_map.mp hm
    exact absurd hsku (isCheck_of_recordErrors herrors error' herror' sku e)

/-- The record is stored, and there is no message. -/
lemma answered_of_succeeds {productData : PyValue} {supplier : ℕ} {turn : Turn}
    (h : RecordSucceeds column productData supplier turn) :
    Answered column productData supplier turn (true, []) where
  flag := (decide_eq_true h).symm
  silent := fun _ => rfl
  plain := iff_of_true (by simp) fun _ => recordSku_isSome_of_succeeds h

/-- The handler of the exceptions writes one message, with the SKU in it. -/
lemma answered_of_processing {productData : PyValue} {supplier : ℕ} {turn : Turn}
    {text : PyText} (herrors : recordErrors productData = .ok [])
    (hreported : (recordSku productData).isSome ↔ ∃ s, text = .plain s)
    (hfails : ¬ RecordSucceeds column productData supplier turn) (rowNum : Option ℕ)
    (e : PyErr) :
    Answered column productData supplier turn (false, [⟨rowNum, .processing text e⟩]) where
  flag := (decide_eq_false hfails).symm
  silent := fun hflag => (nomatch hflag)
  plain := by
    unfold Reportable
    rw [forall_prop_of_true herrors, hreported]
    constructor
    · intro h
      exact h _ (List.mem_singleton_self _) text e rfl
    · rintro ⟨s, rfl⟩ m hm sku' e' heq
      rw [List.mem_singleton.mp hm] at heq
      cases heq
      exact ⟨s, rfl⟩

lemma recordResult_of_processable (column : DecimalColumn κ) {productData : PyValue}
    (h : Processable productData) (supplier : ℕ) (turn : Turn) (rowNum : Option ℕ) :
    ∃ result, recordResult column productData supplier turn rowNum = .ok result ∧
      Answered column productData supplier turn result := by
  obtain ⟨⟨errors, herrors⟩, hprinted⟩ := h
  unfold recordResult
  cases errors with
  | cons error errors =>
      rw [herrors]
      exact ⟨_, rfl, answered_of_errors column herrors supplier turn rowNum⟩
  | nil =>
      obtain ⟨sku, hitem, hfilled, hget⟩ := exists_sku_of_recordErrors herrors
      obtain ⟨text, htext⟩ := hprinted herrors
      rw [hitem, except_ok_bind] at htext
      have hreported := recordSku_isSome_iff hitem hfilled htext
      rw [herrors]
      cases hrun : (recordRun column productData supplier turn).outcome with
      | ok u => exact ⟨_, rfl, answered_of_succeeds ⟨herrors, hrun⟩⟩
      | error e =>
          have hfails : ¬ RecordSucceeds column productData supplier turn := by
            rintro ⟨-, hok⟩
            rw [hrun] at hok
            cases hok
          have hanswer : (do
              let sku ← productData.get "sku" (.str "N/A")
              let sku ← sku.toStr
              return (false, [⟨rowNum, .processing sku e⟩])) =
              (.ok (false, [⟨rowNum, .processing text e⟩]) :
                Except PyErr (Bool × List RecordMessage)) := by
            rw [hget, except_ok_bind, htext]
            rfl
          exact ⟨_, hanswer, answered_of_processing herrors hreported hfails rowNum e⟩

lemma recordResult_of_not_processable (column : DecimalColumn κ) {productData : PyValue}
    (h : ¬ Processable productData) (supplier : ℕ) (turn : Turn) (rowNum : Option ℕ) :
    ∃ e, recordResult column productData supplier turn rowNum = .error e := by
  unfold recordResult
  rcases herrors : recordErrors productData with e | _ | ⟨error, errors⟩
  · exact ⟨e, rfl⟩
  · obtain ⟨sku, hitem, hfilled, hget⟩ := exists_sku_of_recordErrors herrors
    have hnotext : ∀ text, sku.toStr ≠ .ok text := by
      intro text htext
      refine h ⟨⟨[], herrors⟩, fun _ => ⟨text, ?_⟩⟩
      rw [hitem, except_ok_bind, htext]
    -- without a text of its SKU the record does not get as far as its product
    have hsku : recordSku productData = none := by
      have hstored : ∀ sku', textColumn sku ≠ .ok sku' := by
        intro sku' htext
        have hstored : textColumn sku = storedText sku := by
          cases sku <;> first | rfl | cases hfilled
        rw [hstored] at htext
        obtain ⟨text, htext, -⟩ := except_bind_eq_ok.mp htext
        exact hnotext text htext
      unfold recordSku
      rw [hitem, except_ok_bind]
      rcases hcolumn : textColumn sku with e | sku'
      · rfl
      · exact absurd hcolumn (hstored sku')
    have hprepared : prepared productData supplier = none := by
      rcases hp : prepared productData supplier with _ | ⟨sku', defaults⟩
      · rfl
      · rw [(prepared_eq_some hp).1] at hsku
        cases hsku
    -- so it raises, and the handler raises when it prints the SKU
    obtain ⟨e, he⟩ := (recordRun_of_not_prepared column herrors hprepared turn).1
    rcases htext : sku.toStr with e' | text
    · refine ⟨e', ?_⟩
      simp only [he, hget, except_ok_bind, htext, except_error_bind]
    · exact absurd htext (hnotext text)
  · exact absurd ⟨⟨_, herrors⟩, fun hvalid => by rw [herrors] at hvalid; cases hvalid⟩ h

end ProductViewSet

end OrdersBackend
