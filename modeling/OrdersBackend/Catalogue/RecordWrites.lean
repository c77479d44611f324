import OrdersBackend.Catalogue.Plan

/-!
# The rows a record leaves behind

`recordWrites` are the writes of one element of a file: those of its steps when the validation
has nothing against it, and none otherwise.  This file reads the tables off them.  A record
that gets as far as its product (`prepared`) writes that product unless it is kept, and then
the values it assigns; when reading or storing the product raises, no value is written.  Any
other element writes a category at most.
-/

namespace OrdersBackend

open Framework Tx

namespace ProductViewSet

/-! ## Records that reach their product -/

variable {κ : Type}

/-- The writes an element leaves behind. -/
def recordWrites (column : DecimalColumn κ) (productData : PyValue) (supplier : ℕ) (turn : Turn) :
    List (Write κ) :=
  if recordErrors productData = .ok [] then (recordRun column productData supplier turn).writes
  else []

/-- The SKU and the defaults of a record that gets as far as storing its product. -/
def prepared (productData : PyValue) (supplier : ℕ) : Option (String × ProductDefaults) :=
  if recordErrors productData = .ok [] then
    match productData.get "category" (.str "Без категории") >>= textColumn with
    | .error _ => none
    | .ok category =>
      match productDefaults productData supplier category, recordSku productData with
      | .ok defaults, some sku => some (sku, defaults)
      | _, _ => none
  else none

lemma recordSku_eq_some {productData : PyValue} {sku : String} :
    recordSku productData = some sku ↔ (productData.item "sku" >>= textColumn) = .ok sku := by
  unfold recordSku
  cases productData.item "sku" >>= textColumn <;> simp [Except.toOption]

lemma recordErrors_of_prepared {productData : PyValue} {supplier : ℕ}
    {sku : String} {defaults : ProductDefaults}
    (h : prepared productData supplier = some (sku, defaults)) :
    recordErrors productData = .ok [] := by
  unfold prepared at h
  split at h
  · assumption
  · cases h

/-- What `prepared` says, taken apart. -/
lemma prepared_eq_some {productData : PyValue} {supplier : ℕ} {sku : String}
    {defaults : ProductDefaults} (h : prepared productData supplier = some (sku, defaults)) :
    recordSku productData = some sku ∧ ∃ category,
      (productData.get "category" (.str "Без категории") >>= textColumn) = .ok category ∧
      productDefaults productData supplier category = .ok defaults := by
  unfold prepared at h
  rw [if_pos (recordErrors_of_prepared h)] at h
  cases hcategory : productData.get "category" (.str "Без категории") >>= textColumn with
  | error e =>
      rw [hcategory] at h
      cases h
  | ok category =>
      rw [hcategory] at h
      dsimp only at h
      split at h
      · next hdefaults hsku =>
          cases h
          exact ⟨hsku, category, rfl, hdefaults⟩
      · cases h

variable (column : DecimalColumn κ)

/-- A record that gets as far as its product writes its category first. -/
lemma recordRun_of_prepared {productData : PyValue} {supplier : ℕ} {sku : String}
    {defaults : ProductDefaults} (h : prepared productData supplier = some (sku, defaults))
    (turn : Turn) :
    ∃ category, recordRun column productData supplier turn =
      (runSteps turn (.product sku (defaults.columns column) :: valueSteps productData sku)).cons
        (.category category) := by
  obtain ⟨hsku, category, hcategory, hdefaults⟩ := prepared_eq_some h
  refine ⟨category, ?_⟩
  unfold recordRun recordSteps productSteps
  rw [hcategory]
  simp only [hdefaults]
  rw [recordSku_eq_some.mp hsku]
  rfl

/-- A record that does not get there writes at most its category, and raises. -/
lemma recordRun_of_not_prepared {productData : PyValue} {supplier : ℕ}
    (hvalid : recordErrors productData = .ok []) (h : prepared productData supplier = none)
    (turn : Turn) :
    (∃ e, (recordRun column productData supplier turn).outcome = .error e) ∧
      ∀ w ∈ (recordRun column productData supplier turn).writes, ∃ name, w = .category name := by
  unfold prepared at h
  unfold recordRun recordSteps productSteps
  rw [if_pos hvalid] at h
  cases hcategory : productData.get "category" (.str "Без категории") >>= textColumn with
  | error e => exact ⟨⟨e, rfl⟩, by simp [runSteps]⟩
  | ok category =>
    rw [hcategory] at h
    dsimp only at h ⊢
    cases hdefaults : productDefaults productData supplier category with
    | error e => exact ⟨⟨e, rfl⟩, by simp [runSteps, RecordRun.cons]⟩
    | ok defaults =>
      cases hsku : productData.item "sku" >>= textColumn with
      | error e => exact ⟨⟨e, rfl⟩, by simp [runSteps, RecordRun.cons]⟩
      | ok sku =>
        rw [hdefaults, recordSku_eq_some.mpr hsku] at h
        cases h

/-- The SKU and the columns of a record whose product is written when it is stored. -/
def stored (productData : PyValue) (supplier : ℕ) :
    Option (String × ProductColumns κ) :=
  (prepared productData supplier).bind fun p => (p.2.columns column).toOption.map (Prod.mk p.1)

lemma stored_eq_some {column : DecimalColumn κ} {productData : PyValue} {supplier : ℕ}
    {sku : String}
    {columns : ProductColumns κ} :
    stored column productData supplier = some (sku, columns) ↔
      ∃ defaults, prepared productData supplier = some (sku, defaults) ∧
        defaults.columns column = .ok columns := by
  unfold stored
  constructor
  · intro h
    obtain ⟨⟨sku', defaults⟩, hprepared, h⟩ := Option.bind_eq_some_iff.mp h
    obtain ⟨columns', hcolumns, h⟩ := Option.map_eq_some_iff.mp h
    cases h
    refine ⟨defaults, hprepared, ?_⟩
    cases hc : defaults.columns column with
    | error e =>
        rw [hc] at hcolumns
        cases hcolumns
    | ok columns'' =>
        rw [hc] at hcolumns
        exact congrArg Except.ok (Option.some.inj hcolumns)
  · rintro ⟨defaults, hprepared, hcolumns⟩
    rw [hprepared, Option.bind_some, hcolumns]
    rfl

/-! ## The logs of the tables -/

/-- The rows of products a list of writes holds, under their SKUs. -/
abbrev productLog (ws : List (Write κ)) : List (String × ProductColumns κ) :=
  ws.filterMap Write.productLog?

/-- The attribute values a list of writes holds, under SKU and name. -/
abbrev valueLog (ws : List (Write κ)) : List ((String × String) × Overwrite String) :=
  ws.filterMap Write.valueLog?

/-- The categories a list of writes names. -/
abbrev categoryLog (ws : List (Write κ)) : List (String × CreateIfAbsent Category) :=
  ws.filterMap Write.categoryLog?

/-- The attributes a list of writes names. -/
abbrev attributeLog (ws : List (Write κ)) : List (String × CreateIfAbsent Attribute) :=
  ws.filterMap Write.attributeLog?

lemma productLog_valueWrites (sku : String) (assigned : List (String × String)) :
    productLog (valueWrites sku assigned : List (Write κ)) = [] := by
  induction assigned with
  | nil => rfl
  | cons nv assigned ih => exact ih

lemma categoryLog_valueWrites (sku : String) (assigned : List (String × String)) :
    categoryLog (valueWrites sku assigned : List (Write κ)) = [] := by
  induction assigned with
  | nil => rfl
  | cons nv assigned ih => exact ih

lemma valueLog_valueWrites (sku : String) (assigned : List (String × String)) :
    valueLog (valueWrites sku assigned : List (Write κ)) =
      assigned.map fun nv => ((sku, nv.1), ⟨nv.2⟩) := by
  induction assigned with
  | nil => rfl
  | cons nv assigned ih =>
      rw [List.map_cons, ← ih]
      rfl

lemma attributeLog_valueWrites (sku : String) (assigned : List (String × String)) :
    attributeLog (valueWrites sku assigned : List (Write κ)) =
      assigned.map fun nv => (nv.1, ⟨⟨""⟩⟩) := by
  induction assigned with
  | nil => rfl
  | cons nv assigned ih =>
      rw [List.map_cons, ← ih]
      rfl

section

variable (productData : PyValue) (sku : String)

lemma productLog_attributeWrites :
    productLog (attributeWrites productData sku : List (Write κ)) = [] := by
  unfold attributeWrites productLog
  rw [List.filterMap_append, show List.filterMap _ (valueWrites _ _) = _ from
    productLog_valueWrites sku _]
  cases unvalued productData <;> rfl

lemma categoryLog_attributeWrites :
    categoryLog (attributeWrites productData sku : List (Write κ)) = [] := by
  unfold attributeWrites categoryLog
  rw [List.filterMap_append, show List.filterMap _ (valueWrites _ _) = _ from
    categoryLog_valueWrites sku _]
  cases unvalued productData <;> rfl

lemma valueLog_attributeWrites :
    valueLog (attributeWrites productData sku : List (Write κ)) =
      (assignments productData).map fun nv => ((sku, nv.1), ⟨nv.2⟩) := by
  unfold attributeWrites valueLog
  rw [List.filterMap_append, show List.filterMap _ (valueWrites _ _) = _ from
    valueLog_valueWrites sku _]
  cases unvalued productData <;> exact List.append_nil _

lemma attributeLog_attributeWrites :
    attributeLog (attributeWrites productData sku : List (Write κ)) =
      (attributeNames productData).map fun name => (name, ⟨⟨""⟩⟩) := by
  unfold attributeWrites attributeLog attributeNames
  rw [List.filterMap_append, show List.filterMap _ (valueWrites _ _) = _ from
    attributeLog_valueWrites sku _, List.map_append, List.map_map]
  cases unvalued productData <;> rfl

end

/-- The assignments to one attribute among those of one product. -/
lemma patchesAt_assigned (sku name sku' : String) (assigned : List (String × String)) :
    patchesAt (sku, name) (assigned.map fun nv => ((sku', nv.1), (⟨nv.2⟩ : Overwrite String))) =
      if sku' = sku then
        (assigned.filterMap fun nv => if nv.1 = name then some nv.2 else none).map Overwrite.mk
      else [] := by
  induction assigned with
  | nil => simp
  | cons nv assigned ih =>
      rw [List.map_cons, patchesAt_cons, ih]
      by_cases hsku : sku' = sku
      · by_cases hname : nv.1 = name <;> simp [hsku, hname]
      · simp [hsku]

lemma logs_of_categories {ws : List (Write κ)} (h : ∀ w ∈ ws, ∃ name, w = .category name) :
    productLog ws = [] ∧ valueLog ws = [] ∧ attributeLog ws = [] := by
  have hnone : ∀ {β : Type} (log? : Write κ → Option β), (∀ name, log? (.category name) = none) →
      ws.filterMap log? = [] := by
    intro β log? hlog
    rw [List.filterMap_eq_nil_iff]
    intro w hw
    obtain ⟨name, rfl⟩ := h w hw
    exact hlog name
  exact ⟨hnone _ fun _ => rfl, hnone _ fun _ => rfl, hnone _ fun _ => rfl⟩

/-! ## The writes of an element -/

/-- What a record that gets as far as its product writes from there on. -/
def writesFrom (productData : PyValue) (sku : String) (defaults : ProductDefaults) :
    Turn → List (Write κ)
  | .keep => attributeWrites productData sku
  | .raise _ => []
  | .store =>
    match defaults.columns column with
    | .ok columns => .product sku columns :: attributeWrites productData sku
    | .error _ => []

/-- The writes of a record that gets as far as its product. -/
lemma recordWrites_of_prepared {productData : PyValue} {supplier : ℕ} {sku : String}
    {defaults : ProductDefaults} (h : prepared productData supplier = some (sku, defaults))
    (turn : Turn) :
    ∃ category, recordWrites column productData supplier turn =
      .category category :: writesFrom column productData sku defaults turn := by
  obtain ⟨category, hrun⟩ := recordRun_of_prepared column h turn
  refine ⟨category, ?_⟩
  unfold recordWrites writesFrom
  rw [if_pos (recordErrors_of_prepared h), hrun, ← writes_valueSteps turn productData sku]
  cases turn with
  | keep => rfl
  | raise e => rfl
  | store => cases defaults.columns column <;> rfl

/-- The writes of any other element. -/
lemma recordWrites_of_not_prepared {productData : PyValue} {supplier : ℕ}
    (h : prepared productData supplier = none) (turn : Turn) :
    ∀ w ∈ recordWrites column productData supplier turn, ∃ name, w = .category name := by
  unfold recordWrites
  by_cases hvalid : recordErrors productData = .ok []
  · rw [if_pos hvalid]
    exact (recordRun_of_not_prepared column hvalid h turn).2
  · rw [if_neg hvalid]
    simp

/-- A record writes its product when it is stored. -/
lemma productLog_recordWrites (productData : PyValue) (supplier : ℕ) (turn : Turn) :
    productLog (recordWrites column productData supplier turn) =
      if turn = .store then (stored column productData supplier).toList else [] := by
  unfold stored
  cases h : prepared productData supplier with
  | none =>
      rw [(logs_of_categories (recordWrites_of_not_prepared column h turn)).1]
      exact (ite_self _).symm
  | some p =>
      obtain ⟨category, hwrites⟩ := recordWrites_of_prepared column h turn
      have hnone := productLog_attributeWrites (κ := κ) productData p.1
      rw [hwrites, Option.bind_some]
      cases turn with
      | keep => exact hnone
      | raise e => rfl
      | store =>
          unfold writesFrom
          cases p.2.columns column with
          | error e => rfl
          | ok columns => exact congrArg (List.cons (p.1, columns)) hnone

/-- The product under which a record writes values: the one it keeps, or the one it has
stored. -/
def reachedSku (productData : PyValue) (supplier : ℕ) :
    Turn → Option String
  | .keep => (prepared productData supplier).map Prod.fst
  | .store => (stored column productData supplier).map Prod.fst
  | .raise _ => none

lemma recordSku_of_stored {column : DecimalColumn κ} {productData : PyValue} {supplier : ℕ}
    {sku : String}
    {columns : ProductColumns κ} (h : stored column productData supplier = some (sku, columns)) :
    recordSku productData = some sku := by
  obtain ⟨defaults, hprepared, -⟩ := stored_eq_some.mp h
  exact (prepared_eq_some hprepared).1

lemma recordSku_of_reachedSku {column : DecimalColumn κ} {productData : PyValue} {supplier : ℕ}
    {turn : Turn} {sku : String}
    (h : reachedSku column productData supplier turn = some sku) :
    recordSku productData = some sku := by
  cases turn with
  | keep =>
      obtain ⟨⟨sku', defaults⟩, hprepared, rfl⟩ := Option.map_eq_some_iff.mp h
      exact (prepared_eq_some hprepared).1
  | store =>
      obtain ⟨⟨sku', columns⟩, hstored, rfl⟩ := Option.map_eq_some_iff.mp h
      exact recordSku_of_stored hstored
  | raise e => cases h

/-- The values a record writes are the assignments to the product it reaches, and the
attributes it creates are those it names for it. -/
lemma logs_recordWrites (productData : PyValue) (supplier : ℕ) (turn : Turn) :
    valueLog (recordWrites column productData supplier turn) =
        (reachedSku column productData supplier turn).toList.flatMap (fun sku =>
          (assignments productData).map fun nv => ((sku, nv.1), ⟨nv.2⟩)) ∧
      attributeLog (recordWrites column productData supplier turn) =
        (reachedSku column productData supplier turn).toList.flatMap fun _ =>
          (attributeNames productData).map fun name => (name, ⟨⟨""⟩⟩) := by
  unfold reachedSku stored
  cases h : prepared productData supplier with
  | none =>
      -- a record that is not prepared writes a category at most
      have hlogs := logs_of_categories (recordWrites_of_not_prepared column h turn)
      rw [hlogs.2.1, hlogs.2.2]
      cases turn <;> exact ⟨rfl, rfl⟩
  | some p =>
      obtain ⟨category, hwrites⟩ := recordWrites_of_prepared column h turn
      have hvalues := valueLog_attributeWrites (κ := κ) productData p.1
      have hnames := attributeLog_attributeWrites (κ := κ) productData p.1
      rw [hwrites, Option.bind_some]
      cases turn with
      | keep =>
          rw [Option.map_some, Option.toList_some, List.flatMap_singleton, List.flatMap_singleton]
          exact ⟨hvalues, hnames⟩
      | raise e => exact ⟨rfl, rfl⟩
      | store =>
          unfold writesFrom
          cases p.2.columns column with
          | error e => exact ⟨rfl, rfl⟩
          | ok columns =>
              simp only [Except.toOption, Option.map_some, Option.toList_some,
                List.flatMap_singleton]
              exact ⟨hvalues, hnames⟩

/-! ## Categories

Categories and attributes are shared between the records of a file: a record only creates the
rows it does not find. -/

/-- The category a record names, as it is stored; the null of JSON is refused. -/
def recordCategory (productData : PyValue) : Option String :=
  (productData.get "category" (.str "Без категории") >>= textColumn).toOption

/-- The category an element writes: its first write, before anything else can go wrong. -/
def writtenCategory (productData : PyValue) : Option String :=
  if recordErrors productData = .ok [] then recordCategory productData else none

/-- An element without a category writes nothing; any other one starts with its category. -/
lemma recordWrites_eq_cons (productData : PyValue) (supplier : ℕ) (turn : Turn) :
    ∃ ws, categoryLog ws = [] ∧ recordWrites column productData supplier turn =
      (writtenCategory productData).toList.map Write.category ++ ws := by
  unfold recordWrites writtenCategory
  by_cases hvalid : recordErrors productData = .ok []
  · rw [if_pos hvalid, if_pos hvalid]
    unfold recordRun recordSteps recordCategory
    cases hcategory : productData.get "category" (.str "Без категории") >>= textColumn with
    | error e => exact ⟨[], rfl, rfl⟩
    | ok category =>
      dsimp only
      cases productDefaults productData supplier category with
      | error e => exact ⟨[], rfl, rfl⟩
      | ok defaults =>
        unfold productSteps
        cases productData.item "sku" >>= textColumn with
        | error e => exact ⟨[], rfl, rfl⟩
        | ok sku =>
          -- the attributes come last and write no category
          have hvalues := categoryLog_attributeWrites (κ := κ) productData sku
          rw [← writes_valueSteps turn] at hvalues
          refine ⟨(runSteps turn (.product sku (defaults.columns column) ::
            valueSteps productData sku)).writes, ?_, rfl⟩
          unfold runSteps
          cases turn with
          | keep => exact hvalues
          | raise e => rfl
          | store =>
              cases defaults.columns column with
              | error e => rfl
              | ok columns => exact hvalues
  · rw [if_neg hvalid, if_neg hvalid]
    exact ⟨[], rfl, rfl⟩

/-- What becomes of the product makes no difference to the category. -/
lemma categoryLog_recordWrites (productData : PyValue) (supplier : ℕ) (turn : Turn) :
    categoryLog (recordWrites column productData supplier turn) =
      (writtenCategory productData).toList.map fun name => (name, ⟨⟨"", none⟩⟩) := by
  obtain ⟨ws, hws, heq⟩ := recordWrites_eq_cons column productData supplier turn
  rw [heq, categoryLog, List.filterMap_append, show ws.filterMap Write.categoryLog? = [] from hws,
    List.append_nil]
  cases writtenCategory productData <;> rfl

end ProductViewSet

end OrdersBackend
