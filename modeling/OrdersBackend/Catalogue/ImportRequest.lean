import OrdersBackend.Accounts.State
import OrdersBackend.Catalogue.CsvFile
import OrdersBackend.Catalogue.Formats
import OrdersBackend.Framework.Runs

/-!
# Import requests

`import_products` from the form on: `ProductImportSerializer`, the format, the decoding and the
parser, the type of the user, and then the import of `Import.lean`.  Everything before that only
reads, so a request that is refused leaves the tables alone (`importRequest_cases`).  The CSV
parser is that of `CsvFile.lean`; those of JSON and YAML are parameters.

Over runs of requests by any users: what a list of logs shows (`getQueryset_run`), and
that products stay as they are while every form switches `update_existing` off
(`products_stay_of_switchedOff`).  For a CSV file: when its import ends
(`importProducts_csv_iff`), and what a byte order mark does to it (`importProducts_of_mark`).
-/

namespace OrdersBackend

open Framework Tx

namespace ProductViewSet

variable {κ : Type}

/-! ## The form -/

/-- The form of an import; `none` stands for a field that is left out. -/
structure ImportForm where
  file : Option (String × ByteArray)
  updateExisting : Option String
  format : Option String

/-- `serializer.validated_data`. -/
structure ImportData where
  fileName : String
  content : ByteArray
  updateExisting : Bool
  format : FormatChoice

/-- The user of a request, with its supplier profile. -/
structure ImportUser where
  userType : UserType
  profile : Option ℕ
  deriving DecidableEq, Repr

inductive ImportReply
  | invalid (fields : List String)
  | badRequest (error : String)
  | forbidden (error : String)
  | imported (response : ImportResponse)
  deriving DecidableEq, Repr

/-- What the program calls outside of it: `str` of an exception, `BooleanField` on a text, the
parsers of JSON and YAML, and the texts of the errors of the module `csv`. -/
structure ImportEnv where
  strExc : PyErr → String
  booleanField : String → Option Bool
  loads : String → Except String PyValue
  safeLoad : String → Except String PyValue
  csvErrorText : Csv.Error → String

/-- `FileField`: the file must have a name and must not be empty. -/
def fileField : Option (String × ByteArray) → Option (String × ByteArray)
  | some (name, content) => if name = "" ∨ content.size = 0 then none else some (name, content)
  | none => none

def formatField : Option String → Option FormatChoice
  | some s =>
    if s = "" then some .auto
    else [FormatChoice.auto, .csv, .json, .yaml, .yml].find? fun choice => choice.name = s
  | none => some .auto

variable (env : ImportEnv)

/-- `BooleanField(default=True)` in a form: the default stands for an empty text and for a field
that is left out. -/
def updateExistingField : Option String → Option Bool
  | some s => if s = "" then some true else env.booleanField s
  | none => some true

/-- `serializer.is_valid()`, with the fields that have errors. -/
def validateForm (form : ImportForm) : Except (List String) ImportData :=
  match fileField form.file, updateExistingField env form.updateExisting,
    formatField form.format with
  | some (fileName, content), some updateExisting, some format =>
    .ok { fileName, content, updateExisting, format }
  | file, updateExisting, format =>
    .error ((if file.isNone then ["file"] else []) ++
      (if updateExisting.isNone then ["update_existing"] else []) ++
      (if format.isNone then ["format"] else []))

/-! ## The request -/

/-- The three parsers; `str(e)` is the text of what they raise. -/
def parseFile (fileContent : String) : FileFormat → Except String PyValue
  | .csv =>
    match parseCsv fileContent with
    | .ok productsData => .ok (.list productsData (.ok ""))
    | .error e => .error (env.csvErrorText e)
  | .json => env.loads fileContent
  | .yaml => env.safeLoad fileContent

section

variable (column : DecimalColumn κ)

/-- From the list of the elements on.  A supplier without a profile raises. -/
def importElements (user : ImportUser) (data : ImportData) (fileFormat : FileFormat)
    (productsData : List PyValue) : Tx (ImportDb κ) PyErr ImportReply :=
  if user.userType ≠ .supplier then
    return .forbidden "Импорт товаров доступен только для поставщиков"
  else
    match user.profile with
    | none => throw .attributeError
    | some supplier => do
      let response ← importProducts column env.strExc supplier data.fileName fileFormat
        data.updateExisting productsData
      return .imported response

/-- `isinstance(products_data, list)`. -/
def importParsed (user : ImportUser) (data : ImportData) (fileFormat : FileFormat) :
    PyValue → Tx (ImportDb κ) PyErr ImportReply
  | .list productsData _ => importElements env column user data fileFormat productsData
  | _ => return .badRequest (fileFormat.upperName ++ " файл должен содержать массив объектов")

def importRequest (user : ImportUser) (form : ImportForm) :
    Tx (ImportDb κ) PyErr ImportReply :=
  match validateForm env form with
  | .error fields => return .invalid fields
  | .ok data =>
    let fileFormat := detectFormat data.fileName data.format
    match parserOf fileFormat with
    | none => return .badRequest ("Неподдерживаемый формат файла: " ++ fileFormat ++
        ". Поддерживаются: csv, json, yaml")
    | some parser =>
      match String.fromUTF8? data.content with
      | none =>
        return .badRequest "Ошибка декодирования файла. Убедитесь, что файл в кодировке UTF-8"
      | some fileContent =>
        match parseFile env fileContent parser with
        | .error text =>
          return .badRequest ("Ошибка парсинга " ++ parser.upperName ++ " файла: " ++ text)
        | .ok productsData => importParsed env column user data parser productsData

/-! ## What a request does -/

/-- An answered import: who sent it, what it imported, and the row of the log. -/
structure Answers (user : ImportUser) (form : ImportForm) (db : ImportDb κ)
    (result : Except PyErr ImportReply × ImportDb κ) (supplier : ℕ) (data : ImportData)
    (response : ImportResponse) : Prop where
  user : user = ⟨.supplier, some supplier⟩
  form : validateForm env form = .ok data
  reply : result.1 = .ok (.imported response)
  catalogue : ∃ productsData, result.2.catalogue =
    afterRecords column supplier data.updateExisting db.catalogue productsData
  logs : ∃ notes, result.2.logs = db.logs ++
    [{ supplier, fileName := data.fileName, recordsCount := response.totalCount,
       successCount := response.successCount, failedCount := response.failedCount, notes }]
  counts : response.successCount + response.failedCount = response.totalCount

/-- A request that is refused, or raises, adds no row to the logs.  The elements of its file
stay only when the row of the log itself is what raises. -/
structure Refuses (form : ImportForm) (db : ImportDb κ)
    (result : Except PyErr ImportReply × ImportDb κ) : Prop where
  reply : ∀ response, result.1 ≠ .ok (.imported response)
  logs : result.2.logs = db.logs
  catalogue : result.2.catalogue = db.catalogue ∨ ∃ supplier data productsData,
    validateForm env form = .ok data ∧ result.2.catalogue =
      afterRecords column supplier data.updateExisting db.catalogue productsData

variable {env column}

lemma refuses_return {reply : ImportReply} (h : ∀ response, reply ≠ .imported response)
    (form : ImportForm) (db : ImportDb κ) :
    Refuses env column form db ((pure reply : Tx (ImportDb κ) PyErr ImportReply) db) :=
  ⟨fun response heq => h response (Except.ok.inj heq), rfl, .inl rfl⟩

lemma refuses_error (e : PyErr) (form : ImportForm) (db : ImportDb κ) :
    Refuses env column form db (.error e, db) := ⟨by simp, rfl, .inl rfl⟩

lemma importElements_cases {user : ImportUser} {form : ImportForm} {data : ImportData}
    (hform : validateForm env form = .ok data) (fileFormat : FileFormat)
    (productsData : List PyValue) (db : ImportDb κ) :
    Refuses env column form db
        (importElements env column user data fileFormat productsData db) ∨
      ∃ supplier response, Answers env column user form db
        (importElements env column user data fileFormat productsData db) supplier data
          response := by
  rcases user with ⟨userType, profile⟩
  unfold importElements
  by_cases htype : userType = .supplier
  · rw [if_neg (not_not_intro htype), htype]
    rcases profile with _ | supplier
    · exact .inl (refuses_error .attributeError form db)
    dsimp only
    by_cases hends : ∀ productData ∈ productsData, Processable productData
    · by_cases hreported : ∀ productData ∈ productsData, Reportable productData
      · obtain ⟨response, log, himport, -, hsum, htotal, hsupplier, hname, hrecords, hsuccess,
          hfailed⟩ := importProducts_of_reportable column supplier data.updateExisting fileFormat
            env.strExc data.fileName hends hreported db
        rw [bind_of_ok himport]
        refine .inr ⟨supplier, response, rfl, hform, rfl, ⟨productsData, rfl⟩, ⟨log.notes, ?_⟩,
          hsum.trans htotal.symm⟩
        rw [← hsupplier, ← hname, htotal, ← hrecords, ← hsuccess, ← hfailed]
        rfl
      · -- the row of the log raises
        push Not at hreported
        obtain ⟨e, himport⟩ := importProducts_of_not_reportable column supplier
          data.updateExisting fileFormat env.strExc data.fileName hends hreported db
        rw [bind_of_error himport]
        exact .inl ⟨by simp, rfl, .inr ⟨supplier, data, productsData, hform, rfl⟩⟩
    · -- an element without a SKU in reach raises inside the handler
      push Not at hends
      obtain ⟨e, himport⟩ := importProducts_of_not_processable column supplier
        data.updateExisting fileFormat env.strExc data.fileName hends db
      rw [bind_of_error himport]
      exact .inl (refuses_error e form db)
  · rw [if_pos htype]
    exact .inl (refuses_return (by simp) form db)

/-- What a request does: it is refused, or it is answered with an import. -/
theorem importRequest_cases (env : ImportEnv) (column : DecimalColumn κ) (user : ImportUser)
    (form : ImportForm) (db : ImportDb κ) :
    Refuses env column form db (importRequest env column user form db) ∨
      ∃ supplier data response, Answers env column user form db
        (importRequest env column user form db) supplier data response := by
  unfold importRequest
  rcases hform : validateForm env form with fields | data
  · exact .inl (refuses_return (by simp) form db)
  dsimp only
  rcases parserOf (detectFormat data.fileName data.format) with _ | parser
  · exact .inl (refuses_return (by simp) form db)
  rcases String.fromUTF8? data.content with _ | fileContent
  · exact .inl (refuses_return (by simp) form db)
  dsimp only
  rcases parseFile env fileContent parser with text | parsed
  · exact .inl (refuses_return (by simp) form db)
  dsimp only
  cases parsed with
  | list productsData text =>
      rcases importElements_cases hform parser productsData db with hrefuses | ⟨supplier, hanswers⟩
      · exact .inl hrefuses
      · exact .inr ⟨supplier, data, hanswers⟩
  | none | bool _ | int _ | float _ | str _ | surrogates _ | bytes _ _ | date _ | set _ _
  | dict _ _ => exact .inl (refuses_return (by simp) form db)

end

/-! ## Runs of requests -/

section

variable (column : DecimalColumn κ)

/-- A request, with its user and its form. -/
abbrev ImportCall := ImportUser × ImportForm

def importStep (call : ImportCall) (db : ImportDb κ) : ImportDb κ :=
  (importRequest env column call.1 call.2 db).2

/-- The row of the log that an answer stands for, without its notes. -/
def answeredLog (call : ImportCall) : Except PyErr ImportReply → Option PriceUpdateLog
  | .ok (.imported response) =>
    match validateForm env call.2, call.1.profile with
    | .ok data, some supplier =>
      some { supplier, fileName := data.fileName, recordsCount := response.totalCount,
             successCount := response.successCount, failedCount := response.failedCount,
             notes := "" }
    | _, _ => none
  | _ => none

/-- The rows of the answers of a run, newest first. -/
def answeredLogs : ImportDb κ → List ImportCall → List PriceUpdateLog
  | _, [] => []
  | db, call :: calls =>
    answeredLogs (importStep env column call db) calls ++
      (answeredLog env call (importRequest env column call.1 call.2 db).1).toList

def withoutNotes (log : PriceUpdateLog) : PriceUpdateLog := { log with notes := "" }

variable {env column}

lemma answeredLog_of_refuses {call : ImportCall} {db : ImportDb κ}
    {result : Except PyErr ImportReply × ImportDb κ}
    (h : Refuses env column call.2 db result) :
    answeredLog env call result.1 = none := by
  unfold answeredLog
  split
  · next response heq => exact absurd heq (h.reply response)
  · rfl

/-- One request adds the row of its answer. -/
lemma logs_importStep (call : ImportCall) (db : ImportDb κ) :
    (importStep env column call db).logs.map withoutNotes = db.logs.map withoutNotes ++
      (answeredLog env call (importRequest env column call.1 call.2 db).1).toList := by
  unfold importStep
  rcases importRequest_cases env column call.1 call.2 db with hrefuses |
    ⟨supplier, data, response, hanswers⟩
  · rw [answeredLog_of_refuses hrefuses, hrefuses.logs, Option.toList_none, List.append_nil]
  · obtain ⟨notes, hlogs⟩ := hanswers.logs
    rw [hlogs, hanswers.reply, List.map_append]
    unfold answeredLog
    rw [hanswers.form, hanswers.user]
    rfl

lemma logs_run (calls : List ImportCall) (db : ImportDb κ) :
    (run (importStep env column) db calls).logs.map withoutNotes =
      db.logs.map withoutNotes ++ (answeredLogs env column db calls).reverse := by
  induction calls generalizing db with
  | nil => exact (List.append_nil _).symm
  | cons call calls ih =>
      rw [run_cons, ih, logs_importStep, answeredLogs, List.reverse_append, List.append_assoc]
      congr 2
      rcases answeredLog env call (importRequest env column call.1 call.2 db).1 with _ | log <;>
        rfl

end

end ProductViewSet

namespace PriceUpdateLogViewSet

open ProductViewSet

/-- The logs that `PriceUpdateLogViewSet.get_queryset` selects for a user: suppliers see only
their own. -/
def Sees (user : ImportUser) (log : PriceUpdateLog) : Prop :=
  user.userType = .supplier → some log.supplier = user.profile

instance (user : ImportUser) (log : PriceUpdateLog) : Decidable (Sees user log) :=
  inferInstanceAs (Decidable (_ → _))

/-- `get_queryset`, newest first. -/
def getQueryset (user : ImportUser) (logs : List PriceUpdateLog) : List PriceUpdateLog :=
  logs.reverse.filter fun log => Sees user log

/-- **What the list of logs shows**: after any run of imports by any users it holds, newest
first, one row for each answered import, with the counts of the answer; a supplier gets the
rows of its own imports, every other user gets all of them. -/
theorem getQueryset_run {κ : Type} (env : ImportEnv) (column : DecimalColumn κ)
    (user : ImportUser) (calls : List ImportCall) (db : ImportDb κ) :
    (getQueryset user (run (importStep env column) db calls).logs).map withoutNotes =
      (answeredLogs env column db calls).filter (fun log => Sees user log) ++
        (getQueryset user db.logs).map withoutNotes := by
  have hmap : ∀ logs : List PriceUpdateLog, (getQueryset user logs).map withoutNotes =
      (logs.map withoutNotes).reverse.filter fun log => Sees user log := by
    intro logs
    rw [getQueryset, ← List.map_reverse, List.filter_map]
    rfl
  rw [hmap, hmap, logs_run, List.reverse_append, List.reverse_reverse, List.filter_append]

end PriceUpdateLogViewSet

namespace ProductViewSet

section

variable {env : ImportEnv} {column : DecimalColumn κ}

/-! ## Forms that switch `update_existing` off -/

/-- The form does not ask for an update, nor does it leave that to the default. -/
def SwitchesOff (env : ImportEnv) (form : ImportForm) : Prop :=
  updateExistingField env form.updateExisting ≠ some true

lemma updateExisting_of_validateForm {form : ImportForm} {data : ImportData}
    (h : validateForm env form = .ok data) (hform : SwitchesOff env form) :
    data.updateExisting = false := by
  unfold SwitchesOff at hform
  unfold validateForm at h
  split at h
  · next updateExisting _ _ hfield _ =>
    rw [hfield, ne_eq, Option.some.injEq] at hform
    rw [← Except.ok.inj h]
    exact Bool.eq_false_of_not_eq_true hform
  · cases h

lemma lookup_products_importStep {call : ImportCall} (hcall : SwitchesOff env call.2)
    {db : ImportDb κ} {sku : String} {p : Product κ}
    (hp : db.catalogue.products.lookup sku = some p) :
    (importStep env column call db).catalogue.products.lookup sku = some p := by
  unfold importStep
  rcases importRequest_cases env column call.1 call.2 db with hrefuses |
    ⟨supplier, data, response, hanswers⟩
  · rcases hrefuses.catalogue with hsame | ⟨supplier, data, productsData, hform, hcatalogue⟩
    · rw [hsame]
      exact hp
    · rw [hcatalogue, updateExisting_of_validateForm hform hcall]
      exact lookup_products_afterRecords_keep hp column supplier productsData
  · obtain ⟨productsData, hcatalogue⟩ := hanswers.catalogue
    rw [hcatalogue, updateExisting_of_validateForm hanswers.form hcall]
    exact lookup_products_afterRecords_keep hp column supplier productsData

/-- **What switching the update off is good for**: a run of imports by any users keeps every
product as it is while every form switches `update_existing` off.  To leave the field out is
not enough, as the default of the field is `True`. -/
theorem products_stay_of_switchedOff {calls : List ImportCall}
    (hcalls : ∀ call ∈ calls, SwitchesOff env call.2) {db : ImportDb κ} {sku : String}
    {p : Product κ} (hp : db.catalogue.products.lookup sku = some p) :
    (run (importStep env column) db calls).catalogue.products.lookup sku = some p := by
  induction calls generalizing db with
  | nil => exact hp
  | cons call calls ih =>
      have hnext : (importStep env column call db).catalogue.products.lookup sku = some p :=
        lookup_products_importStep (hcalls call List.mem_cons_self) hp
      exact ih (fun c hc => hcalls c (List.mem_cons_of_mem _ hc)) hnext

end

theorem products_stay_of_switchedOff_cup :
    let p : Product PyDecimal :=
      ⟨⟨1, "Cups", "Cup", "", .finite false 5 0, 3, 1, "шт", true⟩, none⟩
    let db : ImportDb PyDecimal :=
      ⟨{ categories := ∅, attributes := ∅, products := Finmap.singleton "A" p, values := ∅ }, []⟩
    let form : ImportForm :=
      ⟨some ("prices.csv", "sku,name,price,stock_quantity\nA,Mug,7,1\n".toUTF8), some "false",
        none⟩
    let env : ImportEnv := ⟨fun _ => "", fun s => if s = "false" then some false else none,
      fun _ => .error "", fun _ => .error "", fun _ => ""⟩
    (run (importStep env (.late 10)) db [(⟨.supplier, some 1⟩, form)]).catalogue.products.lookup
      "A" = some p := by
  intro p db form env
  have hoff : ∀ call ∈ [((⟨.supplier, some 1⟩ : ImportUser), form)], SwitchesOff env call.2 := by
    simp [SwitchesOff, updateExistingField, form, env]
  exact products_stay_of_switchedOff hoff Finmap.lookup_singleton_eq

/-! ## CSV files -/

/-- The cells of a record that stop no import: under the name of the price a number, and under
that of the cost a number, an empty text, or nothing. -/
def ReadableRow (fieldnames row : List String) : Prop :=
  (∀ cell, lastCell fieldnames row "price" = some cell →
    ∃ s, cell = some s ∧ (PyValue.str s).IsNumber) ∧
  ∀ s, lastCell fieldnames row "cost_price" = some (some s) → s ≠ "" → (PyValue.str s).IsNumber

/-- The null of a cell that is missing has a text, and that is no number. -/
lemma not_priceable_none : ¬ (PyValue.none.IsNumber ∨ PyValue.none.IsUnprintable) := by
  rintro (⟨d, hd, -⟩ | ⟨e, he, -⟩)
  · have herror : PyValue.none.toDecimal = .error .invalidOperation := by decide +kernel
    rw [herror] at hd
    cases hd
  · cases he

lemma priceable_str_iff (s : String) :
    ((PyValue.str s).IsNumber ∨ (PyValue.str s).IsUnprintable) ↔ (PyValue.str s).IsNumber := by
  refine or_iff_left ?_
  rintro ⟨e, he, -⟩
  cases he

lemma checkable_dictRow_iff (fieldnames row : List String) :
    Checkable (dictRow fieldnames row) ↔ ReadableRow fieldnames row := by
  obtain ⟨items, hitems, hfind⟩ := exists_dictRow fieldnames row
  rw [hitems]
  unfold Checkable ReadableRow
  simp only [hfind, Option.map_eq_some_iff]
  constructor
  · rintro ⟨hprice, -, hcost⟩
    refine ⟨fun cell hcell => ?_, fun s hcell hs => ?_⟩
    · rcases cell with _ | s
      · exact absurd (hprice _ ⟨none, hcell, rfl⟩) not_priceable_none
      · exact ⟨s, rfl, (priceable_str_iff s).mp (hprice _ ⟨some s, hcell, rfl⟩)⟩
    · have htruthy : (cellValue (some s)).truthy = true := by
        simpa [PyValue.truthy, cellValue] using hs
      exact (priceable_str_iff s).mp (hcost _ ⟨some s, hcell, rfl⟩ htruthy)
  · rintro ⟨hprice, hcost⟩
    refine ⟨?_, ?_, ?_⟩
    · rintro v ⟨cell, hcell, rfl⟩
      obtain ⟨s, rfl, hs⟩ := hprice cell hcell
      exact .inl hs
    · rintro v ⟨cell, hcell, rfl⟩ neg
      -- a cell is a text or missing, never an infinite float
      intro hinfinity
      rcases cell with _ | s <;> cases hinfinity
    · rintro v ⟨cell, hcell, rfl⟩ htruthy
      rcases cell with _ | s
      · cases htruthy
      · exact .inl (hcost s hcell (by simpa [PyValue.truthy, cellValue] using htruthy))

/-- The cells of a CSV file hold no surrogates. -/
lemma reportable_dictRow (fieldnames row : List String) :
    Reportable (dictRow fieldnames row) := by
  intro h
  obtain ⟨sku, hsku, hfilled, -⟩ := exists_sku_of_recordErrors h
  obtain ⟨items, hitems, hfind⟩ := exists_dictRow fieldnames row
  obtain ⟨items', text, heq, hsome⟩ := PyValue.exists_dict_of_item hsku
  rw [hitems] at heq
  cases heq
  rw [hfind] at hsome
  obtain ⟨cell, -, rfl⟩ := Option.map_eq_some_iff.mp hsome
  rcases cell with _ | s
  · cases hfilled
  · unfold recordSku
    rw [hsku]
    rfl

lemma processable_dictRow_iff (fieldnames row : List String) :
    Processable (dictRow fieldnames row) ↔ ReadableRow fieldnames row := by
  rw [← checkable_dictRow_iff, ← validatable_iff_checkable]
  exact ⟨fun h => h.1, fun h => processable_of_reportable h (reportable_dictRow fieldnames row)⟩

/-- **When a CSV file can be imported**: the import ends, and counts every record that is not
blank, exactly when each of them has readable cells.  Otherwise it raises and changes nothing:
a record that is too short for the price, or a line with a blank in it, is enough. -/
theorem importProducts_csv_iff (column : DecimalColumn κ) (strExc : PyErr → String)
    (supplier : ℕ) (fileName : String) (updateExisting : Bool) (table : CsvTable)
    (db : ImportDb κ) :
    ((∃ response, (importProducts column strExc supplier fileName .csv updateExisting
        table.records db).1 = .ok response ∧ response.totalCount = table.rows.length) ↔
      ∀ row ∈ table.rows, ReadableRow table.fieldnames row) ∧
    ((∃ row ∈ table.rows, ¬ ReadableRow table.fieldnames row) →
      ∃ e, importProducts column strExc supplier fileName .csv updateExisting table.records db =
        (.error e, db)) := by
  refine ⟨⟨?_, fun hreadable => ?_⟩, ?_⟩
  · rintro ⟨response, hok, -⟩ row hrow
    refine (processable_dictRow_iff _ _).mp (importProducts_ok_iff.mp ⟨response, hok⟩ _ ?_).1
    exact List.mem_map_of_mem hrow
  · have hall : ∀ productData ∈ table.records, Processable productData := by
      rw [CsvTable.records, List.forall_mem_map]
      exact fun row hrow => (processable_dictRow_iff _ _).mpr (hreadable row hrow)
    have hreported : ∀ productData ∈ table.records, Reportable productData := by
      rw [CsvTable.records, List.forall_mem_map]
      exact fun row _ => reportable_dictRow _ row
    obtain ⟨response, log, himport, -, -, htotal, -⟩ := importProducts_of_reportable column
      supplier updateExisting .csv strExc fileName hall hreported db
    refine ⟨response, by rw [himport], ?_⟩
    rw [htotal, CsvTable.records, List.length_map]
  · rintro ⟨row, hrow, hunreadable⟩
    exact importProducts_of_not_processable column supplier updateExisting .csv strExc fileName
      ⟨dictRow table.fieldnames row, List.mem_map_of_mem hrow,
        (processable_dictRow_iff _ _).not.mpr hunreadable⟩ db

/-- Where no record passes the validation, no record is stored. -/
lemma importProducts_of_rejected (column : DecimalColumn κ) (strExc : PyErr → String)
    (supplier : ℕ) (fileName : String) (fileFormat : FileFormat) (updateExisting : Bool)
    {productsData : List PyValue}
    (h : ∀ productData ∈ productsData, recordErrors productData ≠ .ok []) (db : ImportDb κ) :
    (importProducts column strExc supplier fileName fileFormat updateExisting productsData
        db).2.catalogue = db.catalogue ∧
      ∀ response, (importProducts column strExc supplier fileName fileFormat updateExisting
        productsData db).1 = .ok response →
          response.successCount = 0 ∧ response.failedCount = productsData.length := by
  -- by induction on the records: each one is refused and leaves the catalogue
  have hkept : ∀ c, afterRecords column supplier updateExisting c productsData = c ∧
      successes column supplier updateExisting c productsData = 0 := by
    clear db
    induction productsData with
    | nil => exact fun c => ⟨rfl, rfl⟩
    | cons productData productsData ih =>
        intro c
        obtain ⟨hrest, hcount⟩ := ih (fun d hd => h d (List.mem_cons_of_mem _ hd)) c
        have hhead : afterRecord column supplier updateExisting c productData = c := by
          unfold afterRecord
          rw [recordWrites_of_refused (h productData List.mem_cons_self)]
          rfl
        rw [afterRecords_cons, successes_cons, hhead, if_neg fun hs => h productData
          List.mem_cons_self hs.1]
        exact ⟨hrest, by rw [hcount]⟩
  have hreported : ∀ productData ∈ productsData, Reportable productData :=
    fun d hd hvalid => absurd hvalid (h d hd)
  by_cases hends : ∀ productData ∈ productsData, Processable productData
  · obtain ⟨response, log, himport, hsuccess, hsum, -⟩ := importProducts_of_reportable column
      supplier updateExisting fileFormat strExc fileName hends hreported db
    obtain ⟨hcatalogue, hcount⟩ := hkept db.catalogue
    rw [himport]
    refine ⟨hcatalogue, fun response' hok => ?_⟩
    cases hok
    rw [hcount] at hsuccess
    omega
  · push Not at hends
    obtain ⟨e, himport⟩ := importProducts_of_not_processable column supplier updateExisting
      fileFormat strExc fileName hends db
    rw [himport]
    refine ⟨rfl, fun response hok => ?_⟩
    cases hok

/-- An element without a required field does not pass. -/
lemma recordErrors_of_missing {items : List (PyValue × PyValue)} {text : Except PyErr String}
    {field : String} (hfield : field ∈ requiredFields)
    (hmissing : PyValue.find field items = none) :
    recordErrors (.dict items text) ≠ .ok [] := by
  intro herrors
  have hfields := missingFields_of_recordErrors herrors
  obtain ⟨v, hv, -⟩ := exists_item_of_missingFields hfields field hfield
  obtain ⟨items', text', heq, hfind⟩ := PyValue.exists_dict_of_item hv
  cases heq
  rw [hmissing] at hfind
  cases hfind

/-- The byte order mark, as `utf-8` decodes it. -/
def byteOrderMark : Char := Char.ofNat 0xFEFF

/-- The first name of the header takes in the mark. -/
lemma fieldnames_of_mark {fileContent : String} {table : CsvTable}
    (h : readTable (.ofList (byteOrderMark :: fileContent.toList)) = .ok table) :
    ∃ name names, table.fieldnames = String.ofList (byteOrderMark :: name) :: names := by
  obtain ⟨records, hread, h⟩ := except_bind_eq_ok.mp h
  rw [String.toList_ofList] at hread
  obtain ⟨field, fields, rest, rfl⟩ := Csv.Dialect.read_cons (by decide) hread
  rw [← Except.ok.inj h]
  exact ⟨field, fields.map .ofList, rfl⟩

/-- **What a byte order mark does**: a file that begins with one loses its first column, so
that no record of it is stored when a required field has no other column. -/
theorem importProducts_of_mark (column : DecimalColumn κ) (strExc : PyErr → String)
    (supplier : ℕ) (fileName : String) (updateExisting : Bool) {fileContent : String}
    {table : CsvTable}
    (htable : readTable (.ofList (byteOrderMark :: fileContent.toList)) = .ok table)
    {field : String} (hfield : field ∈ requiredFields) (hother : field ∉ table.fieldnames.tail)
    (db : ImportDb κ) :
    (importProducts column strExc supplier fileName .csv updateExisting table.records
        db).2.catalogue = db.catalogue ∧
      ∀ response, (importProducts column strExc supplier fileName .csv updateExisting
        table.records db).1 = .ok response →
          response.successCount = 0 ∧ response.failedCount = table.rows.length := by
  obtain ⟨name, names, hnames⟩ := fieldnames_of_mark htable
  -- the mark hides the first column, and the field has no other one
  have hhidden : field ∉ table.fieldnames := by
    rw [hnames] at hother ⊢
    refine List.not_mem_cons_of_ne_of_not_mem ?_ hother
    rintro rfl
    simp [requiredFields, String.ext_iff, byteOrderMark] at hfield
  have hrejected : ∀ productData ∈ table.records, recordErrors productData ≠ .ok [] := by
    unfold CsvTable.records
    rw [List.forall_mem_map]
    intro row _
    obtain ⟨items, hitems, hfind⟩ := exists_dictRow table.fieldnames row
    rw [hitems]
    refine recordErrors_of_missing hfield ?_
    have hnone : lastCell table.fieldnames row field = none :=
      Option.not_isSome_iff_eq_none.mp (mt (lastCell_isSome_iff _ _ _).mp hhidden)
    rw [hfind, hnone]
    rfl
  have hresult := importProducts_of_rejected column strExc supplier fileName .csv updateExisting
    hrejected db
  rwa [CsvTable.records, List.length_map] at hresult

theorem importProducts_of_mark_cup :
    let table : CsvTable := ⟨[String.ofList (byteOrderMark :: "sku".toList), "name", "price",
      "stock_quantity"], [["A", "Cup", "5", "3"]]⟩
    (importProducts (.late 10) (fun _ => "") 1 "prices.csv" .csv true table.records
        ⟨Catalogue.empty, []⟩).2.catalogue = Catalogue.empty := by
  intro table
  have htable : readTable (.ofList (byteOrderMark ::
      "sku,name,price,stock_quantity\nA,Cup,5,3\n".toList)) = .ok table := by decide +kernel
  have hsku : "sku" ∈ requiredFields := by decide
  exact (importProducts_of_mark (.late 10) (fun _ => "") 1 "prices.csv" true htable hsku (by decide)
    ⟨Catalogue.empty, []⟩).1

end ProductViewSet

end OrdersBackend
