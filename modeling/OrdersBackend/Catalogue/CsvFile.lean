import OrdersBackend.Catalogue.Notations
import OrdersBackend.Catalogue.ScalarRecords
import OrdersBackend.Framework.Csv

/-!
# CSV files

`_parse_csv` hands the text of a file to `csv.DictReader`: the first record names the columns,
and every further record that is not blank is a mapping from those names to its cells.  A cell
that is missing is `None`, cells beyond the last name are listed under the key `None`, and of
two columns of one name the later one counts.

`export_template` writes with `csv.DictWriter`, which is the way back: a file of records that
have the same names is read as these records, each value as its text (`parseCsv_writeDicts`).
What the reader accepts is a table of texts (`parseCsv_wellFormed`).
-/

namespace OrdersBackend

open Framework

/-- The dialect `excel` with the field limit of the module `csv`. -/
def excel : Csv.Dialect where
  delimiter := ','
  quote := '"'
  limit := 131072
  delimiter_ne_quote := by decide
  delimiter_no_end := by decide
  quote_no_end := by decide

namespace ProductViewSet

/-! ## `csv.DictReader` -/

/-- The names of the columns and the records under them; blank records are dropped. -/
structure CsvTable where
  fieldnames : List String
  rows : List (List String)
  deriving DecidableEq, Repr

/-- A record with its columns; a cell that is missing is `none`. -/
def columns : List String → List String → List (String × Option String)
  | [], _ => []
  | name :: names, [] => (name, none) :: columns names []
  | name :: names, cell :: cells => (name, some cell) :: columns names cells

def cellValue : Option String → PyValue
  | some s => .str s
  | none => .none

/-- A row of `csv.DictReader`.  Nobody prints the row or the list of its surplus cells. -/
def dictRow (fieldnames row : List String) : PyValue :=
  let d := dictOf (columns fieldnames row)
  let rest := row.drop fieldnames.length
  .dict (d.map (fun entry => (.str entry.1, cellValue entry.2)) ++
    if rest = [] then [] else [(.none, .list (rest.map .str) (.ok ""))]) (.ok "")

def readTable (fileContent : String) : Except Csv.Error CsvTable := do
  match ← excel.read fileContent.toList with
  | [] => return ⟨[], []⟩
  | fieldnames :: rows =>
    return ⟨fieldnames.map .ofList, (rows.filter (· ≠ [])).map (·.map .ofList)⟩

/-- The elements of the file. -/
def CsvTable.records (table : CsvTable) : List PyValue :=
  table.rows.map (dictRow table.fieldnames)

def parseCsv (fileContent : String) : Except Csv.Error (List PyValue) := do
  return (← readTable fileContent).records

/-! ## `csv.DictWriter` -/

/-- `_dict_to_list`: a key without a column raises, a column without a key is empty. -/
def dictToList (fieldnames : List String) (rowdict : List (String × Scalar)) :
    Except PyErr (List String) :=
  if rowdict.all (fun entry => entry.1 ∈ fieldnames) then
    .ok (fieldnames.map fun k => ((rowdict.lookup k).map Scalar.text).getD "")
  else .error .valueError

/-- `writeheader` and a `writerow` for each record. -/
def writeDicts (fieldnames : List String) (rowdicts : List (List (String × Scalar))) :
    Except PyErr String := do
  let rows ← rowdicts.mapM (dictToList fieldnames)
  return .ofList (excel.write ((fieldnames :: rows).map (·.map String.toList)))

/-! ## Looking into a row -/

section

variable {α : Type} {d items : List (String × α)} {item : String × α} {k : String}

lemma lookup_cons_if (entry : String × α) (d : List (String × α)) (k : String) :
    (entry :: d).lookup k = if k = entry.1 then some entry.2 else d.lookup k := by
  rw [List.lookup_cons]
  by_cases hk : k = entry.1
  · rw [if_pos hk, beq_iff_eq.mpr hk]
  · rw [if_neg hk, beq_false_of_ne hk]

lemma lookup_put (d : List (String × α)) (item : String × α) (k : String) :
    (put d item).lookup k = if k = item.1 then some item.2 else d.lookup k := by
  induction d with
  | nil => exact lookup_cons_if item [] k
  | cons entry d ih =>
      unfold put
      by_cases hkey : entry.1 = item.1
      · rw [if_pos hkey, lookup_cons_if, lookup_cons_if, hkey]
        split <;> rfl
      · rw [if_neg hkey, lookup_cons_if, lookup_cons_if, ih]
        by_cases hk : k = item.1
        · have hne : k ≠ entry.1 := fun h => hkey (h.symm.trans hk)
          rw [if_neg hne, if_pos hk, if_pos hk]
        · rw [if_neg hk, if_neg hk]

/-- Of several entries for a key the last one stays. -/
lemma lookup_foldl_put (items d : List (String × α)) (k : String) :
    (items.foldl put d).lookup k = (items.reverse.lookup k).or (d.lookup k) := by
  induction items generalizing d with
  | nil => rfl
  | cons item items ih =>
      rw [List.foldl_cons, ih, lookup_put, List.reverse_cons, List.lookup_append,
        Option.or_assoc, lookup_cons_if]
      congr 1
      by_cases hk : k = item.1
      · rw [if_pos hk, if_pos hk, Option.some_or]
      · rw [if_neg hk, if_neg hk, List.lookup_nil, Option.none_or]

/-- Entries for different keys are all kept. -/
lemma foldl_put_of_nodup (h : (d ++ items).map Prod.fst |>.Nodup) :
    items.foldl put d = d ++ items := by
  have hset : ∀ (d : List (String × α)) (item : String × α), item.1 ∉ d.map Prod.fst →
      put d item = d ++ [item] := by
    intro d item hnew
    induction d with
    | nil => rfl
    | cons entry d ih =>
        rw [List.map_cons, List.mem_cons, not_or] at hnew
        rw [put, if_neg (Ne.symm hnew.1), ih hnew.2, List.cons_append]
  induction items generalizing d with
  | nil => rw [List.foldl_nil, List.append_nil]
  | cons item items ih =>
      have hassoc : d ++ item :: items = (d ++ [item]) ++ items := by
        rw [List.append_assoc, List.singleton_append]
      have hnew : item.1 ∉ d.map Prod.fst := by
        rw [List.map_append, List.nodup_append] at h
        exact fun hmem => h.2.2 _ hmem _ (by simp) rfl
      rw [List.foldl_cons, hset d item hnew, ih (hassoc ▸ h), ← hassoc]

end

/-- The last cell under a name; `some none` when the record is too short for it. -/
def lastCell (fieldnames row : List String) (k : String) : Option (Option String) :=
  (columns fieldnames row).reverse.lookup k

lemma find_texts (d : List (String × Option String)) (k : String) :
    PyValue.find k (d.map fun entry => (.str entry.1, cellValue entry.2)) =
      (d.lookup k).map cellValue := by
  induction d with
  | nil => rfl
  | cons entry d ih =>
      rw [List.map_cons, PyValue.find, List.lookup_cons, ih]
      have hkey : (PyValue.str entry.1).isStr k = (k == entry.1) := Bool.beq_comm
      rw [hkey]
      cases k == entry.1 <;> rfl

/-- A row holds the last cell of each of its columns. -/
lemma exists_dictRow (fieldnames row : List String) :
    ∃ items, dictRow fieldnames row = .dict items (.ok "") ∧
      ∀ k, PyValue.find k items = (lastCell fieldnames row k).map cellValue := by
  refine ⟨_, rfl, fun k => ?_⟩
  have hsurplus : ∀ items : List PyValue, PyValue.find k [(.none, .list items (.ok ""))] = none :=
    fun _ => rfl
  rw [find_append, find_texts, dictOf, lookup_foldl_put, List.lookup_nil, Option.or_none, lastCell]
  split
  · exact Option.or_none
  · rw [hsurplus]
    exact Option.or_none

lemma columns_fst (fieldnames row : List String) :
    (columns fieldnames row).map Prod.fst = fieldnames := by
  induction fieldnames generalizing row with
  | nil => rfl
  | cons name names ih => cases row <;> rw [columns, List.map_cons, ih]

lemma mem_of_mem_columns {fieldnames row : List String} {name s : String}
    (h : (name, some s) ∈ columns fieldnames row) : s ∈ row := by
  induction fieldnames generalizing row with
  | nil => cases h
  | cons name' names ih =>
      cases row with
      | nil =>
          rcases List.mem_cons.mp h with heq | hmem
          · cases heq
          · exact List.mem_of_mem_tail (ih hmem)
      | cons cell cells =>
          rcases List.mem_cons.mp h with heq | hmem
          · cases heq
            exact List.mem_cons_self
          · exact List.mem_cons_of_mem _ (ih hmem)

/-! ## What the reader accepts -/

/-- A row of a table: it has the columns of the header, and their values are texts within the
limit, or missing. -/
def RowOf (fieldnames : List String) (productData : PyValue) : Prop :=
  ∃ items, productData = .dict items (.ok "") ∧
    (∀ k, (PyValue.find k items).isSome ↔ k ∈ fieldnames) ∧
    ∀ k v, PyValue.find k items = some v →
      v = .none ∨ ∃ s, v = .str s ∧ s.length ≤ excel.limit

lemma lastCell_isSome_iff (fieldnames row : List String) (k : String) :
    (lastCell fieldnames row k).isSome ↔ k ∈ fieldnames := by
  have hcolumns : k ∈ fieldnames ↔ ∃ column ∈ columns fieldnames row, column.1 = k := by
    rw [← List.mem_map, columns_fst]
  simp only [lastCell, List.lookup_isSome_iff, List.mem_reverse, hcolumns, beq_iff_eq,
    eq_comm (a := k)]

lemma mem_of_lastCell {fieldnames row : List String} {k s : String}
    (h : lastCell fieldnames row k = some (some s)) : s ∈ row := by
  obtain ⟨entries, entries', heq, -⟩ := List.lookup_eq_some_iff.mp h
  have hmem : (k, some s) ∈ (columns fieldnames row).reverse := by simp [heq]
  exact mem_of_mem_columns (List.mem_reverse.mp hmem)

/-- The cells of a table come from a record that was read. -/
lemma fits_of_readTable {fileContent : String} {table : CsvTable}
    (h : readTable fileContent = .ok table) :
    ∀ row ∈ table.rows, row ≠ [] ∧ ∀ s ∈ row, s.length ≤ excel.limit := by
  obtain ⟨records, hread, h⟩ := except_bind_eq_ok.mp h
  have hfits := Csv.Dialect.rowFits_of_read hread
  rcases records with _ | ⟨fieldnames, rows⟩
  · rw [← Except.ok.inj h]
    simp
  · rw [← Except.ok.inj h]
    intro row hrow
    obtain ⟨record, hrecord, rfl⟩ := List.mem_map.mp hrow
    obtain ⟨hmem, hne⟩ := List.mem_filter.mp hrecord
    refine ⟨fun hnil => of_decide_eq_true hne (List.map_eq_nil_iff.mp hnil), fun s hs => ?_⟩
    obtain ⟨field, hfield, rfl⟩ := List.mem_map.mp hs
    rw [String.length_ofList]
    exact hfits record (List.mem_cons_of_mem _ hmem) field hfield

/-- **What the reader accepts is a table**: every element has the columns of the header, with a
text within the limit or nothing under each of them. -/
theorem parseCsv_wellFormed {fileContent : String} {productsData : List PyValue}
    (h : parseCsv fileContent = .ok productsData) :
    ∃ table, readTable fileContent = .ok table ∧ productsData.length = table.rows.length ∧
      ∀ productData ∈ productsData, RowOf table.fieldnames productData := by
  obtain ⟨table, htable, h⟩ := except_bind_eq_ok.mp h
  refine ⟨table, htable, by rw [← Except.ok.inj h]; exact List.length_map _, ?_⟩
  rw [← Except.ok.inj h]
  intro productData hmem
  obtain ⟨row, hrow, rfl⟩ := List.mem_map.mp hmem
  obtain ⟨items, hitems, hfind⟩ := exists_dictRow table.fieldnames row
  refine ⟨items, hitems, fun k => ?_, fun k v hv => ?_⟩
  · rw [hfind, Option.isSome_map, lastCell_isSome_iff]
  · rw [hfind] at hv
    obtain ⟨cell, hcell, rfl⟩ := Option.map_eq_some_iff.mp hv
    rcases cell with _ | s
    · exact .inl rfl
    · exact .inr ⟨s, rfl, (fits_of_readTable htable row hrow).2 s (mem_of_lastCell hcell)⟩

theorem parseCsv_wellFormed_short :
    ∃ table, readTable "sku,price\nA,5,6\n\nB\n" = .ok table ∧ 2 = table.rows.length ∧
      ∀ productData ∈ [dictRow ["sku", "price"] ["A", "5", "6"], dictRow ["sku", "price"] ["B"]],
        RowOf table.fieldnames productData :=
  parseCsv_wellFormed (show parseCsv "sku,price\nA,5,6\n\nB\n" = .ok _ from rfl)

/-! ## The way back -/

/-- A record under the columns of a file: what it leaves out is an empty text. -/
def filled (fieldnames : List String) (rowdict : List (String × Scalar)) :
    List (String × Scalar) :=
  fieldnames.map fun k => (k, (rowdict.lookup k).getD (.str ""))

/-- No name and no text of the file is beyond the limit. -/
def TextsFit (fieldnames : List String) (rowdicts : List (List (String × Scalar))) : Prop :=
  (∀ k ∈ fieldnames, k.length ≤ excel.limit) ∧
    ∀ rowdict ∈ rowdicts, ∀ entry ∈ filled fieldnames rowdict,
      entry.2.text.length ≤ excel.limit

/-- The cells of a record. -/
def cellsOf (fieldnames : List String) (rowdict : List (String × Scalar)) : List String :=
  (filled fieldnames rowdict).map fun entry => entry.2.text

lemma dictToList_ok {fieldnames row : List String} {rowdict : List (String × Scalar)}
    (h : dictToList fieldnames rowdict = .ok row) : row = cellsOf fieldnames rowdict := by
  unfold dictToList at h
  split at h
  · rw [← Except.ok.inj h, cellsOf, filled, List.map_map]
    refine List.map_congr_left fun k _ => ?_
    simp only [Function.comp]
    cases rowdict.lookup k <;> rfl
  · cases h

lemma mapM_dictToList_ok {fieldnames : List String} {rowdicts : List (List (String × Scalar))}
    {rows : List (List String)} (h : rowdicts.mapM (dictToList fieldnames) = .ok rows) :
    rows = rowdicts.map (cellsOf fieldnames) := by
  induction rowdicts generalizing rows with
  | nil => exact (Except.ok.inj h).symm
  | cons rowdict rowdicts ih =>
      rw [List.mapM_cons] at h
      obtain ⟨row, hrow, h⟩ := except_bind_eq_ok.mp h
      obtain ⟨rows', hrows, h⟩ := except_bind_eq_ok.mp h
      rw [← Except.ok.inj h, List.map_cons, ← dictToList_ok hrow, ← ih hrows]

lemma columns_map (fieldnames : List String) (cell : String → String) :
    columns fieldnames (fieldnames.map cell) = fieldnames.map fun k => (k, some (cell k)) := by
  induction fieldnames with
  | nil => rfl
  | cons name names ih => rw [List.map_cons, columns, ih, List.map_cons]

/-- A row with a cell for each of its names is the record it was made of. -/
lemma dictRow_cellsOf {fieldnames : List String} (hnodup : fieldnames.Nodup)
    (rowdict : List (String × Scalar)) :
    dictRow fieldnames (cellsOf fieldnames rowdict) = csvRow (filled fieldnames rowdict) := by
  have hcells : cellsOf fieldnames rowdict =
      fieldnames.map fun k => ((rowdict.lookup k).getD (.str "")).text := by
    rw [cellsOf, filled, List.map_map]
    rfl
  have hdrop : (cellsOf fieldnames rowdict).drop fieldnames.length = [] :=
    List.drop_eq_nil_of_le (by rw [hcells, List.length_map])
  have hcolumns := columns_map fieldnames fun k =>
    ((rowdict.lookup k).getD (.str "")).text
  rw [← hcells] at hcolumns
  have hkeys : (([] ++ columns fieldnames (cellsOf fieldnames rowdict)).map Prod.fst).Nodup := by
    rwa [List.nil_append, columns_fst]
  unfold dictRow
  rw [hdrop, dictOf, foldl_put_of_nodup hkeys, List.nil_append, hcolumns]
  simp only [if_true, List.append_nil, List.map_map]
  unfold csvRow recordOf PyValue.mapping filled
  simp only [List.map_map]
  rfl

lemma map_ofList_toList (texts : List String) :
    (texts.map String.toList).map String.ofList = texts := by
  rw [List.map_map]
  exact (List.map_congr_left fun s _ => String.ofList_toList).trans (List.map_id _)

/-- **The way back**: a file of records is read as those records, each value as its text,
unless a text is beyond the limit. -/
theorem parseCsv_writeDicts {fieldnames : List String} {rowdicts : List (List (String × Scalar))}
    {fileContent : String} (hne : fieldnames ≠ []) (hnodup : fieldnames.Nodup)
    (h : writeDicts fieldnames rowdicts = .ok fileContent) :
    (TextsFit fieldnames rowdicts →
      parseCsv fileContent = .ok (rowdicts.map fun d => csvRow (filled fieldnames d))) ∧
    (¬ TextsFit fieldnames rowdicts → parseCsv fileContent = .error .fieldTooLarge) := by
  obtain ⟨rows, hrows, h⟩ := except_bind_eq_ok.mp h
  have hcells := mapM_dictToList_ok hrows
  -- the rows of the table come back cell by cell
  have hread := Csv.Dialect.read_write (d := excel) ((fieldnames :: rows).map (·.map String.toList))
  have hcontent : fileContent.toList =
      excel.write ((fieldnames :: rows).map (·.map String.toList)) := by
    rw [← Except.ok.inj h, String.toList_ofList]
  have hfits : (∀ row ∈ (fieldnames :: rows).map (·.map String.toList), excel.RowFits row) ↔
      TextsFit fieldnames rowdicts := by
    simp only [hcells, TextsFit, Csv.Dialect.RowFits, List.map_cons, List.forall_mem_cons,
      List.forall_mem_map, cellsOf, String.length_toList]
  rw [← hcontent] at hread
  -- no record is blank, as it has a cell for each name
  have hfilter : (rows.map (·.map String.toList)).filter (· ≠ []) =
      rows.map (·.map String.toList) := by
    refine List.filter_eq_self.mpr fun row hrow => decide_eq_true fun hnil => hne ?_
    obtain ⟨cells, hmem, rfl⟩ := List.mem_map.mp hrow
    rw [hcells] at hmem
    obtain ⟨rowdict, -, rfl⟩ := List.mem_map.mp hmem
    exact List.map_eq_nil_iff.mp (List.map_eq_nil_iff.mp (List.map_eq_nil_iff.mp hnil))
  unfold parseCsv readTable
  constructor
  · intro hfit
    rw [hread, if_pos (hfits.mpr hfit), except_ok_bind, List.map_cons]
    dsimp only
    rw [hfilter, map_ofList_toList]
    refine congrArg Except.ok ?_
    simp only [CsvTable.records, List.map_map, hcells]
    exact List.map_congr_left fun rowdict _ => by
      simp only [Function.comp, map_ofList_toList, dictRow_cellsOf hnodup]
  · intro hfit
    rw [hread, if_neg (mt hfits.mp hfit)]
    rfl

theorem parseCsv_writeDicts_cup :
    parseCsv "sku,name\r\n\"A,1\",\"the \"\"Cup\"\"\"\r\nB,\r\n" =
      .ok [csvRow [("sku", .str "A,1"), ("name", .str "the \"Cup\"")],
        csvRow [("sku", .str "B"), ("name", .str "")]] := by
  have hwritten : writeDicts ["sku", "name"]
      [[("name", .str "the \"Cup\""), ("sku", .str "A,1")], [("sku", .str "B")]] =
        .ok "sku,name\r\n\"A,1\",\"the \"\"Cup\"\"\"\r\nB,\r\n" := by decide +kernel
  exact (parseCsv_writeDicts (by decide) (by decide) hwritten).1 (by
    unfold TextsFit
    decide)

end ProductViewSet

end OrdersBackend
