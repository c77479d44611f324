import OrdersBackend.Catalogue.Merge
import OrdersBackend.Catalogue.Unreadable

/-!
# Which elements stop an import

An exception of the validation leaves the loop, so an import ends normally only when the
validation of every element of its file does.  `Checkable` says what such an element looks
like.  The `except` clauses of the validation name `ValueError` and `TypeError`, and a text
that is not a number, a NaN and an infinite quantity raise something else; a value that is
not a mapping may raise in the loop over the required fields, which stands under no `try`.
After the loop the log refuses a SKU that has no text, or one with a surrogate in it.

A good record is one that succeeds when it is all the file holds.  Where the columns of the
prices store what they cannot read back, another record can make it fail, by spoiling the row
of its product.

`importEnds_iff` states it for a whole file: the import ends, counts every element once,
writes its log and applies the good records exactly when every element is checkable and
reportable and no good record comes after one that spoils its product.
-/

namespace OrdersBackend

open Framework Tx

/-- `Decimal(str(v))` is a number that can be compared. -/
def PyValue.IsNumber (v : PyValue) : Prop := ∃ d, v.toDecimal = .ok d ∧ d ≠ .nan

/-- `str(v)` raises what the validation catches, as it does on a number of too many digits. -/
def PyValue.IsUnprintable (v : PyValue) : Prop :=
  ∃ e, v.toStr = .error e ∧ e.isValueOrTypeError = true

namespace ProductViewSet

variable {κ : Type}

/-- The elements the validation gets through. -/
def Checkable : PyValue → Prop
  | .dict items _ =>
    (∀ v, PyValue.find "price" items = some v → v.IsNumber ∨ v.IsUnprintable) ∧
      (∀ v, PyValue.find "stock_quantity" items = some v → ∀ neg, v ≠ .float (.infinity neg)) ∧
      ∀ v, PyValue.find "cost_price" items = some v → v.truthy → v.IsNumber ∨ v.IsUnprintable
  | .str s => ∀ field ∈ requiredFields, Python.contains s field = false
  | .surrogates s => ∀ field ∈ requiredFields, (PyText.broken s).contains field = false
  | .list items _ | .set items _ =>
    ∀ field ∈ "cost_price" :: requiredFields, items.any (PyValue.isStr field) = false
  | .none | .bool _ | .int _ | .float _ | .bytes _ _ | .date _ => False

/-! ## The four checks -/

/-- The validation ends when each of its checks does. -/
lemma validatable_iff_checks (productData : PyValue) :
    Validatable productData ↔
      (∃ es, missingFields productData requiredFields = .ok es) ∧
        (∃ es, priceErrors productData = .ok es) ∧
        (∃ es, quantityErrors productData = .ok es) ∧ ∃ es, costErrors productData = .ok es := by
  unfold Validatable recordErrors
  simp only [except_bind_eq_ok]
  constructor
  · rintro ⟨_, missing, hmissing, price, hprice, quantity, hquantity, cost, hcost, -⟩
    exact ⟨⟨missing, hmissing⟩, ⟨price, hprice⟩, ⟨quantity, hquantity⟩, ⟨cost, hcost⟩⟩
  · rintro ⟨⟨missing, hmissing⟩, ⟨price, hprice⟩, ⟨quantity, hquantity⟩, ⟨cost, hcost⟩⟩
    exact ⟨_, missing, hmissing, price, hprice, quantity, hquantity, cost, hcost, rfl⟩

/-- A check under the `except` clause ends unless an exception of another class leaves it. -/
lemma orFormatError_ok_iff (error : RecordError) (check : Except PyErr (List RecordError)) :
    (∃ es, orFormatError error check = .ok es) ↔
      ∀ e, check = .error e → e.isValueOrTypeError = true := by
  cases check with
  | ok errors => exact ⟨fun _ e he => (nomatch he), fun _ => ⟨errors, rfl⟩⟩
  | error e =>
      unfold orFormatError
      constructor
      · rintro ⟨es, h⟩ e' he'
        cases he'
        by_contra hclass
        simp only [hclass] at h
        cases h
      · intro h
        exact ⟨[error], by simp only [h e rfl]; rfl⟩

lemma ofText_error {s : String} {e : PyErr} (h : PyDecimal.ofText s = .error e) :
    e = .invalidOperation := by
  unfold PyDecimal.ofText at h
  split at h
  rename_i neg cs _
  dsimp only at h
  split at h
  · cases h
  · split at h
    · cases h
    · split at h
      · cases h
      · exact (Except.error.inj h).symm

/-- Parsing a number raises `InvalidOperation`, or what printing the value does. -/
lemma toDecimal_error {v : PyValue} {e : PyErr} (h : v.toDecimal = .error e) :
    e = .invalidOperation ∨ v.toStr = .error e := by
  unfold PyValue.toDecimal at h
  rcases htext : v.toStr with e' | text
  · rw [htext, except_error_bind] at h
    exact .inr (congrArg _ (Except.error.inj h))
  · left
    rw [htext, except_ok_bind] at h
    rcases text with s | s
    · exact ofText_error h
    · exact (Except.error.inj h).symm

/-- The check of a number ends when the text is a number, and when there is none: what `Decimal`
and the comparison raise passes the `except` clause. -/
lemma numberCheck_ok_iff (error : RecordError) (v : PyValue)
    (compare : PyDecimal → Except PyErr Bool)
    (hcompare : ∀ d, d ≠ .nan → ∃ b, compare d = .ok b)
    (hnan : compare .nan = .error .invalidOperation) (answer : Bool → List RecordError) :
    (∃ es, orFormatError error (do return answer (← compare (← v.toDecimal))) = .ok es) ↔
      v.IsNumber ∨ v.IsUnprintable := by
  rw [orFormatError_ok_iff]
  unfold PyValue.IsNumber PyValue.IsUnprintable
  cases hd : v.toDecimal with
  | error e =>
      -- the text cannot be printed, or is no number
      constructor
      · intro h
        have hclass := h e rfl
        rcases toDecimal_error hd with rfl | htext
        · cases hclass
        · exact .inr ⟨e, htext, hclass⟩
      · rintro (⟨d, h, -⟩ | ⟨e', htext, hclass⟩) e'' he
        · cases h
        · cases he
          rw [PyValue.toDecimal, htext] at hd
          cases hd
          exact hclass
  | ok d =>
      -- only `NaN` raises in the comparison, and that exception passes the clause
      constructor
      · intro h
        refine .inl ⟨d, rfl, ?_⟩
        rintro rfl
        have hclass := h .invalidOperation (by rw [except_ok_bind, hnan]; rfl)
        cases hclass
      · rintro (⟨d', h, hd'⟩ | ⟨e', htext, -⟩) e he
        · cases h
          obtain ⟨b, hb⟩ := hcompare d hd'
          rw [except_ok_bind, hb] at he
          cases he
        · rw [PyValue.toDecimal, htext] at hd
          cases hd

lemma intOfText_error {s : String} {e : PyErr} (h : Python.intOfText s = .error e) :
    e.isValueOrTypeError = true := by
  unfold Python.intOfText at h
  dsimp only at h
  split at h
  · cases Except.error.inj h
    rfl
  · split at h
    · cases h
    · cases Except.error.inj h
      rfl

/-- Of the exceptions `int` raises only that of an infinite number passes the `except`
clause. -/
lemma toInt_error {v : PyValue} {e : PyErr} (h : v.toInt = .error e) :
    e.isValueOrTypeError = true ↔ ∀ neg, v ≠ .float (.infinity neg) := by
  cases v with
  | float x =>
      cases x with
      | finite neg digits exp => cases h
      | infinity neg =>
          cases Except.error.inj h
          exact ⟨fun hclass => (nomatch hclass), fun hne => absurd rfl (hne neg)⟩
      | nan =>
          cases Except.error.inj h
          exact ⟨fun _ neg heq => (nomatch heq), fun _ => rfl⟩
  | str s =>
      refine ⟨fun _ neg heq => (nomatch heq), fun _ => ?_⟩
      exact intOfText_error h
  | surrogates s =>
      cases Except.error.inj h
      exact ⟨fun _ neg heq => (nomatch heq), fun _ => rfl⟩
  | bytes latin1 text =>
      refine ⟨fun _ neg heq => (nomatch heq), fun _ => ?_⟩
      simp only [PyValue.toInt] at h
      split at h
      · exact intOfText_error h
      · cases Except.error.inj h
        rfl
  | bool b => cases h
  | int n => cases h
  | none | date _ | list _ _ | set _ _ | dict _ _ =>
      cases Except.error.inj h
      exact ⟨fun _ neg heq => (nomatch heq), fun _ => rfl⟩

lemma exists_leZero {d : PyDecimal} (h : d ≠ .nan) : ∃ b, d.leZero = .ok b := by
  cases d with
  | nan => exact absurd rfl h
  | _ => exact ⟨_, rfl⟩

lemma exists_ltZero {d : PyDecimal} (h : d ≠ .nan) : ∃ b, d.ltZero = .ok b := by
  cases d with
  | nan => exact absurd rfl h
  | _ => exact ⟨_, rfl⟩

/-! ## Mappings -/

section

variable (items : List (PyValue × PyValue)) (text : Except PyErr String)

lemma missingFields_dict (fields : List String) :
    ∃ es, missingFields (.dict items text) fields = .ok es := by
  induction fields with
  | nil => exact ⟨[], rfl⟩
  | cons field fields ih =>
      obtain ⟨es, hes⟩ := ih
      unfold missingFields hasField
      rw [hes]
      cases hfind : PyValue.find field items with
      | none =>
          rw [PyValue.contains_dict, hfind]
          exact ⟨_, rfl⟩
      | some v =>
          rw [PyValue.contains_dict, hfind, PyValue.item_dict_of_find hfind]
          exact ⟨_, rfl⟩

lemma priceErrors_dict_ok_iff :
    (∃ es, priceErrors (.dict items text) = .ok es) ↔
      ∀ v, PyValue.find "price" items = some v → v.IsNumber ∨ v.IsUnprintable := by
  unfold priceErrors
  cases hfind : PyValue.find "price" items with
  | none =>
      rw [PyValue.contains_dict, hfind]
      exact ⟨fun _ v hv => (nomatch hv), fun _ => ⟨[], rfl⟩⟩
  | some v =>
      rw [PyValue.contains_dict, hfind, PyValue.item_dict_of_find hfind]
      simp only [except_ok_bind, Option.isSome_some, if_true]
      have hcheck := numberCheck_ok_iff .priceFormat v PyDecimal.leZero (fun _ => exists_leZero)
        rfl fun b => if b then [.priceNotPositive] else []
      constructor
      · rintro h w hw
        cases hw
        exact hcheck.mp h
      · intro h
        exact hcheck.mpr (h v rfl)

lemma quantityErrors_dict_ok_iff :
    (∃ es, quantityErrors (.dict items text) = .ok es) ↔
      ∀ v, PyValue.find "stock_quantity" items = some v → ∀ neg, v ≠ .float (.infinity neg) := by
  unfold quantityErrors
  cases hfind : PyValue.find "stock_quantity" items with
  | none =>
      rw [PyValue.contains_dict, hfind]
      exact ⟨fun _ v hv => (nomatch hv), fun _ => ⟨[], rfl⟩⟩
  | some v =>
      rw [PyValue.contains_dict, hfind, PyValue.item_dict_of_find hfind, orFormatError_ok_iff]
      simp only [except_ok_bind, Option.isSome_some, if_true]
      cases hint : v.toInt with
      | ok n =>
          -- `int` returns, so the quantity is no infinite float
          refine ⟨fun _ w hw neg heq => ?_, fun _ e he => (nomatch he)⟩
          cases hw
          rw [heq] at hint
          cases hint
      | error e =>
          constructor
          · intro h w hw
            cases hw
            exact (toInt_error hint).mp (h e rfl)
          · intro h e' he'
            cases he'
            exact (toInt_error hint).mpr (h v rfl)

lemma costErrors_dict_ok_iff :
    (∃ es, costErrors (.dict items text) = .ok es) ↔
      ∀ v, PyValue.find "cost_price" items = some v → v.truthy →
        v.IsNumber ∨ v.IsUnprintable := by
  unfold costErrors givenCost
  cases hfind : PyValue.find "cost_price" items with
  | none =>
      rw [PyValue.contains_dict, hfind]
      exact ⟨fun _ v hv => (nomatch hv), fun _ => ⟨[], rfl⟩⟩
  | some v =>
      rw [PyValue.contains_dict, hfind, PyValue.item_dict_of_find hfind]
      cases htruthy : v.truthy with
      | false =>
          -- a cost that is empty or zero is not looked at
          simp only [except_ok_bind, Option.isSome_some, if_true, htruthy]
          refine ⟨fun _ w hw h => ?_, fun _ => ⟨[], rfl⟩⟩
          cases hw
          rw [htruthy] at h
          cases h
      | true =>
          simp only [except_ok_bind, Option.isSome_some, if_true, htruthy]
          have hcheck := numberCheck_ok_iff .costFormat v PyDecimal.ltZero
            (fun _ => exists_ltZero) rfl fun b => if b then [.costNegative] else []
          rw [show (pure (some v) : Except PyErr (Option PyValue)) = .ok (some v) from rfl,
            except_ok_bind]
          constructor
          · rintro h w hw -
            cases hw
            exact hcheck.mp h
          · intro h
            exact hcheck.mpr (h v rfl htruthy)

lemma validatable_dict_iff : Validatable (.dict items text) ↔ Checkable (.dict items text) := by
  rw [validatable_iff_checks, priceErrors_dict_ok_iff, quantityErrors_dict_ok_iff,
    costErrors_dict_ok_iff]
  exact ⟨fun h => h.2, fun h => ⟨missingFields_dict items text _, h⟩⟩

end

/-! ## Texts and sequences -/

section

variable {v : PyValue} {holds : String → Bool} (hcontains : ∀ k, v.contains k = .ok (holds k))
  (hitem : ∀ k, v.item k = .error .typeError)

include hcontains hitem

/-- The loop over the required fields raises at the first field that seems to be there. -/
lemma missingFields_ok_iff (fields : List String) :
    (∃ es, missingFields v fields = .ok es) ↔ ∀ field ∈ fields, holds field = false := by
  induction fields with
  | nil => exact ⟨fun _ => by simp, fun _ => ⟨[], rfl⟩⟩
  | cons field fields ih =>
      unfold missingFields hasField
      rw [hcontains, hitem, except_ok_bind, List.forall_mem_cons, ← ih]
      cases hholds : holds field with
      | true =>
          refine ⟨fun ⟨es, hes⟩ => (nomatch hes), fun h => (nomatch h.1)⟩
      | false =>
          constructor
          · rintro ⟨es, hes⟩
            obtain ⟨filled, -, hes⟩ := except_bind_eq_ok.mp hes
            obtain ⟨rest, hrest, -⟩ := except_bind_eq_ok.mp hes
            exact ⟨rfl, rest, hrest⟩
          · rintro ⟨-, rest, hrest⟩
            rw [hrest]
            exact ⟨_, rfl⟩

/-- A value that can be searched but not indexed gets through when it seems to have no
field. -/
lemma validatable_iff_holds :
    Validatable v ↔ ∀ field ∈ "cost_price" :: requiredFields, holds field = false := by
  have hprice : ∃ es, priceErrors v = .ok es := by
    unfold priceErrors
    rw [hcontains, hitem]
    cases holds "price" <;> exact ⟨_, rfl⟩
  have hquantity : ∃ es, quantityErrors v = .ok es := by
    unfold quantityErrors
    rw [hcontains, hitem]
    cases holds "stock_quantity" <;> exact ⟨_, rfl⟩
  have hcost : (∃ es, costErrors v = .ok es) ↔ holds "cost_price" = false := by
    unfold costErrors givenCost
    rw [hcontains, hitem]
    cases holds "cost_price" with
    | true => exact ⟨fun ⟨es, hes⟩ => (nomatch hes), fun h => (nomatch h)⟩
    | false => exact ⟨fun _ => rfl, fun _ => ⟨[], rfl⟩⟩
  rw [validatable_iff_checks, missingFields_ok_iff hcontains hitem, hcost,
    List.forall_mem_cons]
  exact ⟨fun h => ⟨h.2.2.2, h.1⟩, fun h => ⟨h.2, hprice, hquantity, h.1⟩⟩

end

/-- A value that cannot be searched stops the validation at its first field. -/
lemma not_validatable_of_contains {v : PyValue} {e : PyErr}
    (h : ∀ k, v.contains k = .error e) : ¬ Validatable v := by
  rw [validatable_iff_checks]
  rintro ⟨⟨es, hes⟩, -⟩
  unfold requiredFields missingFields hasField at hes
  rw [h] at hes
  cases hes

/-- A text with `cost_price` in it has `price` in it. -/
lemma validatable_text_iff {v : PyValue} {t : PyText}
    (hcontains : ∀ k, v.contains k = .ok (t.contains k))
    (hitem : ∀ k, v.item k = .error .typeError) :
    Validatable v ↔ ∀ field ∈ requiredFields, t.contains field = false := by
  rw [validatable_iff_holds hcontains hitem, List.forall_mem_cons]
  refine ⟨fun h => h.2, fun h => ⟨?_, h⟩⟩
  by_contra hcost
  have hprice : t.contains "price" = true :=
    PyText.contains_trans (Bool.of_not_eq_false hcost) (by decide)
  rw [h "price" (by decide)] at hprice
  cases hprice

/-- **The elements that stop no import** are those the validation gets through. -/
theorem validatable_iff_checkable (productData : PyValue) :
    Validatable productData ↔ Checkable productData := by
  cases productData with
  | dict items text => exact validatable_dict_iff items text
  | str s => exact validatable_text_iff (t := .plain s) (fun _ => rfl) fun _ => rfl
  | surrogates s => exact validatable_text_iff (t := .broken s) (fun _ => rfl) fun _ => rfl
  | list items text => exact validatable_iff_holds (fun _ => rfl) fun _ => rfl
  | set items text => exact validatable_iff_holds (fun _ => rfl) fun _ => rfl
  | none | bool _ | int _ | float _ | bytes _ _ | date _ =>
      exact ⟨fun h => absurd h (not_validatable_of_contains fun _ => rfl), False.elim⟩

lemma processable_iff_checkable (productData : PyValue) :
    Processable productData ↔ Checkable productData ∧ SkuPrints productData :=
  and_congr_left fun _ => validatable_iff_checkable productData

/-- A SKU that the log can store can be printed. -/
lemma processable_of_reportable {productData : PyValue} (h : Validatable productData)
    (hreported : Reportable productData) : Processable productData := by
  refine ⟨h, fun hvalid => ?_⟩
  obtain ⟨sku, hsku⟩ := Option.isSome_iff_exists.mp (hreported hvalid)
  obtain ⟨v, hv, htext⟩ := except_bind_eq_ok.mp (recordSku_eq_some.mp hsku)
  have hstored : storedText v = .ok sku := by
    cases v <;> first | exact htext | cases htext
  obtain ⟨text, htext, -⟩ := except_bind_eq_ok.mp hstored
  exact ⟨text, by rw [hv, except_ok_bind, htext]⟩

/-- An import returns exactly when every element is checkable and reportable. -/
lemma importProducts_ok_iff_checkable {column : DecimalColumn κ} {supplier : ℕ}
    {fileName : String} {fileFormat : FileFormat} {updateExisting : Bool}
    {strExc : PyErr → String} {productsData : List PyValue} {db : ImportDb κ} :
    (∃ response, (importProducts column strExc supplier fileName fileFormat updateExisting
        productsData db).1 = .ok response) ↔
      ∀ productData ∈ productsData, Checkable productData ∧ Reportable productData := by
  rw [importProducts_ok_iff]
  refine forall₂_congr fun d _ => ?_
  rw [← validatable_iff_checkable]
  exact and_congr_left fun h => ⟨fun hp => hp.1, fun hv => processable_of_reportable hv h⟩

/-! ## Good records -/

/-- The record succeeds when it is all the file holds. -/
def Good (column : DecimalColumn κ) (supplier : ℕ) (updateExisting : Bool) (c : Catalogue κ)
    (productData : PyValue) : Prop :=
  RecordSucceeds column productData supplier (recordTurn column updateExisting c productData)

/-- The good records of a file succeed at their turn and are in the catalogue it leaves: each
one's product is there, with the columns of the record when no other record stores it later (a
product that was there before stays as it was when the import does not update), and so are the
values it assigns and no later record does. -/
def GoodRecordsApplied (column : DecimalColumn κ) (supplier : ℕ) (updateExisting : Bool)
    (productsData : List PyValue) (c c' : Catalogue κ) : Prop :=
  ∀ earlier productData later, productsData = earlier ++ productData :: later →
    Good column supplier updateExisting c productData →
    Good column supplier updateExisting (afterRecords column supplier updateExisting c earlier)
        productData ∧
      ∃ sku, recordSku productData = some sku ∧
        (∃ p, c'.products.lookup sku = some p ∧
          ((∀ d ∈ later, ∀ columns, stored column d supplier ≠ some (sku, columns)) →
            (updateExisting = true ∨ c.products.lookup sku = none ∧
              ∀ d ∈ earlier, ∀ columns, stored column d supplier ≠ some (sku, columns)) →
            p.supplier = supplier ∧ Describes column productData p.toProductFields)) ∧
        ∀ name v, (assignedValues name productData).getLast? = some v →
          (∀ d ∈ later, recordSku d = some sku → writtenValues name d = []) →
          c'.values.lookup (sku, name) = some v

/-- No good record comes after one that spoils its product. -/
def Unspoiled (column : DecimalColumn κ) (supplier : ℕ) (updateExisting : Bool)
    (productsData : List PyValue) (c : Catalogue κ) : Prop :=
  ∀ earlier productData later, productsData = earlier ++ productData :: later →
    Good column supplier updateExisting c productData → ∀ sku, recordSku productData = some sku →
      ¬ Spoiled column supplier updateExisting (c.products.lookup sku) earlier sku

section

variable {column : DecimalColumn κ} {supplier : ℕ} {updateExisting : Bool} {c : Catalogue κ}
  {productData : PyValue} {sku : String}

/-- A good record reads no row, or one that can be read. -/
lemma rowLoads_of_good (h : Good column supplier updateExisting c productData)
    (hsku : recordSku productData = some sku) :
    RowLoads column (c.products.lookup sku) := by
  unfold Good at h
  rw [recordTurn_of_sku c hsku] at h
  rw [← rowTurn_ne_raise_iff updateExisting]
  intro e he
  rw [he] at h
  exact not_succeeds_of_raise e h

/-- What was good before the file is good at its turn when its row can still be read. -/
lemma good_afterRecords (h : Good column supplier updateExisting c productData)
    (hsku : recordSku productData = some sku) {earlier : List PyValue}
    (hrow : RowLoads column
      ((afterRecords column supplier updateExisting c earlier).products.lookup sku)) :
    Good column supplier updateExisting (afterRecords column supplier updateExisting c earlier)
      productData := by
  have hbefore := rowLoads_of_good h hsku
  unfold Good at h ⊢
  rw [recordTurn_of_sku _ hsku] at h ⊢
  by_cases hturn : updateExisting = true ∨
      (afterRecords column supplier updateExisting c earlier).products.lookup sku = none
  · -- the product is stored at its turn, and would have been before the file
    have hfirst : updateExisting = true ∨ c.products.lookup sku = none := by
      refine hturn.imp_right fun hnone => ?_
      by_contra hsome
      have hstays := isSome_afterRecords (Option.isSome_iff_ne_none.mpr hsome) column supplier
        updateExisting earlier
      rw [hnone] at hstays
      cases hstays
    rw [(rowTurn_eq_store_iff_rowLoads _).mpr ⟨hrow, hturn⟩]
    rwa [(rowTurn_eq_store_iff_rowLoads _).mpr ⟨hbefore, hfirst⟩] at h
  · -- the product is there and stays
    obtain ⟨hupdate, hsome⟩ := not_or.mp hturn
    obtain ⟨p, hp⟩ := Option.ne_none_iff_exists'.mp hsome
    rw [hp, rowTurn_some_of_loads (hrow p hp), if_neg hupdate]
    exact h.keep

/-- Whether a good record succeeds is settled by the records before it. -/
lemma good_afterRecords_iff (h : Good column supplier updateExisting c productData)
    (hsku : recordSku productData = some sku) (earlier : List PyValue) :
    Good column supplier updateExisting (afterRecords column supplier updateExisting c earlier)
        productData ↔
      ¬ Spoiled column supplier updateExisting (c.products.lookup sku) earlier sku := by
  rw [← rowLoads_afterRecords_iff (rowLoads_of_good h hsku)]
  exact ⟨fun hgood => rowLoads_of_good hgood hsku, good_afterRecords h hsku⟩

/-- A good record at its turn. -/
lemma afterRecord_of_good (h : Good column supplier updateExisting c productData)
    (hsku : recordSku productData = some sku) :
    (∃ p, (afterRecord column supplier updateExisting c productData).products.lookup sku = some p ∧
      (updateExisting = true ∨ c.products.lookup sku = none →
        p.supplier = supplier ∧ Describes column productData p.toProductFields)) ∧
      ∀ name v, (assignedValues name productData).getLast? = some v →
        (afterRecord column supplier updateExisting c productData).values.lookup (sku, name) =
          some v := by
  have hrow := rowLoads_of_good h hsku
  have hturn := recordTurn_of_sku c hsku column updateExisting
  unfold Good at h
  refine ⟨?_, fun name v hv => ?_⟩
  · by_cases hstore : updateExisting = true ∨ c.products.lookup sku = none
    · have hrowTurn := (rowTurn_eq_store_iff_rowLoads _).mpr ⟨hrow, hstore⟩
      rw [hturn, hrowTurn] at h
      obtain ⟨columns, hstored⟩ := h.exists_stored hsku
      obtain ⟨hsupplier, hdescribes, -⟩ := describes_of_stored hstored
      exact ⟨_, lookup_products_afterRecord hstored hrowTurn, fun _ => ⟨hsupplier, hdescribes⟩⟩
    · obtain ⟨p, hp⟩ := Option.ne_none_iff_exists'.mp (not_or.mp hstore).2
      refine ⟨p, lookup_products_afterRecord_of_turn hp ?_ supplier productData,
        fun hfirst => absurd hfirst hstore⟩
      exact fun heq => hstore ((rowTurn_eq_store_iff_rowLoads _).mp (hp ▸ heq)).2
  · unfold afterRecord
    rw [lookup_values_recordWrites, if_pos (h.reachedSku hsku), writtenValues_of_succeeds h, hv]
    rfl

end

/-- **The good records of a file** are applied exactly when none of them is spoiled. -/
theorem goodRecordsApplied_iff (column : DecimalColumn κ) (supplier : ℕ) (updateExisting : Bool)
    (productsData : List PyValue) (c : Catalogue κ) :
    GoodRecordsApplied column supplier updateExisting productsData c
        (afterRecords column supplier updateExisting c productsData) ↔
      Unspoiled column supplier updateExisting productsData c := by
  constructor
  · intro happlied earlier productData later heq hgood sku hsku
    exact (good_afterRecords_iff hgood hsku earlier).mp
      (happlied earlier productData later heq hgood).1
  · rintro hunspoiled earlier productData later rfl hgood
    obtain ⟨sku, hsku⟩ := Option.isSome_iff_exists.mp (recordSku_isSome_of_succeeds hgood)
    have hturn := (good_afterRecords_iff hgood hsku earlier).mpr
      (hunspoiled earlier productData later rfl hgood sku hsku)
    refine ⟨hturn, sku, hsku, ?_⟩
    obtain ⟨⟨p, hp, hdescribes⟩, hvalues⟩ := afterRecord_of_good hturn hsku
    rw [afterRecords_append, afterRecords_cons]
    refine ⟨?_, fun name v hv hlater => ?_⟩
    · -- the product stays, with its columns when no later record stores it
      have hsome := isSome_afterRecords (Option.isSome_of_eq_some hp) column supplier
        updateExisting later
      obtain ⟨p', hp'⟩ := Option.isSome_iff_exists.mp hsome
      refine ⟨p', hp', fun hlater hfirst => ?_⟩
      rw [lookup_products_afterRecords_of_ne hlater, hp] at hp'
      cases hp'
      refine hdescribes (hfirst.imp_right fun ⟨hnone, hearlier⟩ => ?_)
      rw [lookup_products_afterRecords_of_ne hearlier]
      exact hnone
    · -- its values stay where no later record writes them
      rw [lookup_values_afterRecords_of_nil hlater]
      exact hvalues name v hv

/-! ## A file -/

/-- The import ends normally: every element is counted once, the log is written, and the good
records are applied. -/
def ImportEnds (column : DecimalColumn κ) (supplier : ℕ) (fileName : String)
    (updateExisting : Bool) (productsData : List PyValue) (db : ImportDb κ)
    (result : Except PyErr ImportResponse × ImportDb κ) : Prop :=
  ∃ response log, result.1 = .ok response ∧ result.2.logs = db.logs ++ [log] ∧
    response.successCount =
      successes column supplier updateExisting db.catalogue productsData ∧
    response.successCount + response.failedCount = productsData.length ∧
    response.totalCount = productsData.length ∧
    log.supplier = supplier ∧ log.fileName = fileName ∧
    log.recordsCount = productsData.length ∧
    log.successCount = response.successCount ∧ log.failedCount = response.failedCount ∧
    GoodRecordsApplied column supplier updateExisting productsData db.catalogue
      result.2.catalogue

/-- **When a bad record stops the import.**  An import ends normally, with its good records
applied, exactly when every element of its file is checkable and reportable and no good record
comes after one that spoils its product. -/
theorem importEnds_iff (column : DecimalColumn κ) (strExc : PyErr → String) (supplier : ℕ)
    (fileName : String) (fileFormat : FileFormat) (updateExisting : Bool)
    (productsData : List PyValue) (db : ImportDb κ) :
    ImportEnds column supplier fileName updateExisting productsData db
        (importProducts column strExc supplier fileName fileFormat updateExisting productsData
          db) ↔
      (∀ productData ∈ productsData, Checkable productData ∧ Reportable productData) ∧
        Unspoiled column supplier updateExisting productsData db.catalogue := by
  constructor
  · rintro ⟨response, log, hok, -, -, -, -, -, -, -, -, -, happlied⟩
    have hends := importProducts_ok_iff.mp ⟨response, hok⟩
    rw [catalogue_importProducts fun d hd => (hends d hd).1] at happlied
    exact ⟨importProducts_ok_iff_checkable.mp ⟨response, hok⟩,
      (goodRecordsApplied_iff _ _ _ _ _).mp happlied⟩
  · rintro ⟨hends, hunspoiled⟩
    obtain ⟨response, log, himport, hsuccess, htotal, hcount, hsupplier, hname, hrecords,
      hlogSuccess, hlogFailed⟩ := importProducts_of_reportable column supplier updateExisting
        fileFormat strExc fileName
        (fun d hd => processable_of_reportable ((validatable_iff_checkable d).mpr (hends d hd).1)
          (hends d hd).2) (fun d hd => (hends d hd).2) db
    rw [himport]
    exact ⟨response, log, rfl, rfl, hsuccess, htotal, hcount, hsupplier, hname, hrecords,
      hlogSuccess, hlogFailed, (goodRecordsApplied_iff _ _ _ _ _).mpr hunspoiled⟩

/-- One record with a price that is no number stops the import of a good one. -/
theorem not_importEnds_of_text_price :
    let productsData : List PyValue :=
      [.mapping [("sku", .str "A"), ("name", .str "Cup"), ("price", .str "5"),
          ("stock_quantity", .str "3")] "",
        .mapping [("sku", .str "B"), ("name", .str "Mug"), ("price", .str "abc"),
          ("stock_quantity", .str "4")] ""]
    let db : ImportDb PyDecimal := ⟨Catalogue.empty, []⟩
    ¬ ImportEnds (.late 10) 7 "prices.csv" true productsData db
      (importProducts (.late 10) (fun _ => "") 7 "prices.csv" .csv true productsData db) := by
  intro productsData db
  rintro ⟨response, log, hok, -⟩
  have hraises : (importProducts (.late 10) (fun _ => "") 7 "prices.csv" .csv true productsData
      db).1 = .error .invalidOperation := by decide +kernel
  rw [hraises] at hok
  cases hok

end ProductViewSet

end OrdersBackend
