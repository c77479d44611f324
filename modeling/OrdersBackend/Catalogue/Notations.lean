import OrdersBackend.Catalogue.RecordWrites
import OrdersBackend.Python.Split

/-!
# The notations of the attributes

A record gives the attributes of its product as a text `name:value;name:value`, as a dictionary
or as a list of objects with a name and a value; each notation has a loop of its own, with
filters of its own.  A list of pairs that the text can hold (`Writable`) is read back from it
as it was, and every pair that is read from a text is of that kind.

A dictionary holds a name once, at its first place and with its last value, so that the three
loops write different rows when a name is repeated.  They leave the same tables where every pair
can be stored: of the writes to an attribute only the last one is seen.  A pair with a surrogate
stops each loop at its place, and what was written before it need not be the same.
-/

namespace OrdersBackend

open Framework Tx

namespace ProductViewSet

variable {κ : Type}

/-! ## The three notations -/

/-- A name and a value that the text can hold: trimmed and not empty, and without the characters
that end them. -/
structure Writable (pair : PyText × PyText) : Prop where
  name_filled : pair.1.points ≠ []
  name_trimmed : Python.trim PyChar.isSpace pair.1.points = pair.1.points
  name_plain : .char ':' ∉ pair.1.points ∧ .char ';' ∉ pair.1.points
  value_filled : pair.2.points ≠ []
  value_trimmed : Python.trim PyChar.isSpace pair.2.points = pair.2.points
  value_plain : .char ';' ∉ pair.2.points

instance (pair : PyText × PyText) : Decidable (Writable pair) :=
  decidable_of_iff
    (pair.1.points ≠ [] ∧ Python.trim PyChar.isSpace pair.1.points = pair.1.points ∧
      (.char ':' ∉ pair.1.points ∧ .char ';' ∉ pair.1.points) ∧ pair.2.points ≠ [] ∧
      Python.trim PyChar.isSpace pair.2.points = pair.2.points ∧ .char ';' ∉ pair.2.points)
    ⟨fun ⟨h₁, h₂, h₃, h₄, h₅, h₆⟩ => ⟨h₁, h₂, h₃, h₄, h₅, h₆⟩,
      fun ⟨h₁, h₂, h₃, h₄, h₅, h₆⟩ => ⟨h₁, h₂, h₃, h₄, h₅, h₆⟩⟩

/-- A name and a value without surrogates. -/
def Storable (pair : PyText × PyText) : Prop :=
  (∃ name, pair.1 = .plain name) ∧ ∃ value, pair.2 = .plain value

/-- `name:value`. -/
def textPart (pair : PyText × PyText) : List PyChar :=
  pair.1.points ++ .char ':' :: pair.2.points

/-- `name:value;name:value`. -/
def asText (pairs : List (PyText × PyText)) : PyValue :=
  .ofText (.ofPoints ([.char ';'].intercalate (pairs.map textPart)))

section

variable {α β : Type} [DecidableEq α]

/-- `d[name] = value`: a name that is there keeps its place. -/
def put : List (α × β) → α × β → List (α × β)
  | [], pair => [pair]
  | entry :: d, pair => if entry.1 = pair.1 then (entry.1, pair.2) :: d else entry :: put d pair

/-- `dict(pairs)`. -/
def dictOf (pairs : List (α × β)) : List (α × β) := pairs.foldl put []

end

/-- `{name: value}`, with the text `str` prints for it. -/
def asDict (text : Except PyErr String) (pairs : List (PyText × PyText)) : PyValue :=
  .dict ((dictOf pairs).map fun pair => (.ofText pair.1, .ofText pair.2)) text

/-- `[{'name': name, 'value': value}]`, with the texts `str` prints for it and its elements. -/
def asObjects (text : Except PyErr String) (objectText : PyText × PyText → Except PyErr String)
    (pairs : List (PyText × PyText)) : PyValue :=
  .list (pairs.map fun pair => .dict [(.str "name", .ofText pair.1), (.str "value",
    .ofText pair.2)] (objectText pair)) text

/-- The pairs as the loops hand them to the database. -/
def named (pairs : List (PyText × PyText)) : List (PyValue × PyValue) :=
  pairs.map fun pair => (.ofText pair.1, .ofText pair.2)

/-- A record with the attributes given. -/
def withAttributes (fields : List (PyValue × PyValue)) (text : Except PyErr String)
    (attributes : PyValue) : PyValue :=
  .dict ((fields.filter fun f => !f.1.isStr "attributes") ++ [(.str "attributes", attributes)]) text

/-! ## Reading the notations -/

section

variable {pair : PyText × PyText} {pairs : List (PyText × PyText)}

lemma char_injective : Function.Injective PyChar.char := fun _ _ h => PyChar.char.inj h

/-- A part of a text is read alike, with surrogates or without. -/
lemma pointsPair_map (part : List Char) : pointsPair (part.map .char) = textPair part := by
  unfold pointsPair textPair splitPair
  rw [Python.splitFirst_map char_injective, Python.trim_map, Python.trim_map]
  have hspace : PyChar.isSpace ∘ PyChar.char = Python.isSpace := rfl
  simp only [List.mem_map_of_injective char_injective, hspace, ne_eq, List.map_eq_nil_iff]
  split
  · split
    · simp only [Option.map_some, PyText.ofPoints_map]
      rfl
    · rfl
  · rfl

/-- Any text is read by its code points. -/
lemma attributePairs_ofText (t : PyText) :
    attributePairs (.ofText t) = (t.points.splitOn (.char ';')).filterMap pointsPair := by
  cases t with
  | broken s => rfl
  | plain s =>
      have hpairs : pointsPair ∘ List.map PyChar.char = textPair := funext pointsPair_map
      rw [PyText.points, Python.splitOn_map char_injective, List.filterMap_map, hpairs]
      rfl

lemma Writable.pointsPair_textPart (h : Writable pair) :
    pointsPair (textPart pair) = some (.ofText pair.1, .ofText pair.2) := by
  have hcolon : .char ':' ∈ textPart pair := List.mem_append_right _ List.mem_cons_self
  unfold pointsPair splitPair
  rw [if_pos hcolon]
  unfold textPart
  rw [Python.splitFirst_append h.name_plain.1]
  simp only [h.name_trimmed, h.value_trimmed]
  rw [if_pos ⟨h.name_filled, h.value_filled⟩, Option.map_some, PyText.ofPoints_points,
    PyText.ofPoints_points]

lemma Writable.notMem_textPart (h : Writable pair) : .char ';' ∉ textPart pair := by
  intro hmem
  rcases List.mem_append.mp hmem with hmem | hmem
  · exact h.name_plain.2 hmem
  · rcases List.mem_cons.mp hmem with heq | hmem
    · cases heq
    · exact h.value_plain hmem

/-- The text is read back as the list it was written from. -/
lemma attributePairs_asText (h : ∀ pair ∈ pairs, Writable pair) :
    attributePairs (asText pairs) = named pairs := by
  rcases hpairs : pairs with _ | ⟨first, rest⟩
  · rfl
  · have hparts : ([PyChar.char ';'].intercalate (pairs.map textPart)).splitOn (.char ';') =
        pairs.map textPart := by
      refine List.splitOn_intercalate (PyChar.char ';') (fun part hpart => ?_)
        (by rw [hpairs]; simp)
      obtain ⟨pair, hpair, rfl⟩ := List.mem_map.mp hpart
      exact (h pair hpair).notMem_textPart
    rw [← hpairs, asText, attributePairs_ofText, PyText.points_ofPoints, hparts,
      List.filterMap_map, named, ← List.filterMap_eq_map]
    exact List.filterMap_congr fun pair hpair => (h pair hpair).pointsPair_textPart

lemma attributePairs_asObjects (text : Except PyErr String)
    (objectText : PyText × PyText → Except PyErr String) (pairs : List (PyText × PyText)) :
    attributePairs (asObjects text objectText pairs) = named pairs := by
  rw [asObjects, attributePairs, List.filterMap_map, named, ← List.filterMap_eq_map]
  rfl

section

variable {α β : Type} [DecidableEq α] {pair : α × β} {pairs : List (α × β)}

lemma mem_of_mem_put {entry : α × β} {d : List (α × β)} (h : entry ∈ put d pair) :
    entry = pair ∨ entry ∈ d := by
  induction d with
  | nil => exact .inl (List.mem_singleton.mp h)
  | cons first d ih =>
      unfold put at h
      split at h
      · next heq =>
          rcases List.mem_cons.mp h with rfl | h
          · exact .inl (Prod.ext heq rfl)
          · exact .inr (List.mem_cons_of_mem _ h)
      · rcases List.mem_cons.mp h with rfl | h
        · exact .inr List.mem_cons_self
        · exact (ih h).imp_right (List.mem_cons_of_mem _)

lemma dictOf_concat (pairs : List (α × β)) (pair : α × β) :
    dictOf (pairs ++ [pair]) = put (dictOf pairs) pair := List.foldl_append

lemma mem_of_mem_dictOf {entry : α × β} (h : entry ∈ dictOf pairs) : entry ∈ pairs := by
  induction pairs using List.reverseRecOn with
  | nil => exact h
  | append_singleton pairs pair ih =>
      rw [dictOf_concat] at h
      rcases mem_of_mem_put h with rfl | h
      · exact List.mem_append_right _ (List.mem_singleton_self _)
      · exact List.mem_append_left _ (ih h)

end

lemma truthy_ofText {t : PyText} (h : t.points ≠ []) : (PyValue.ofText t).truthy = true := by
  cases t with
  | broken s => rfl
  | plain s =>
      rw [PyValue.ofText, PyValue.truthy, bne_iff_ne]
      rintro rfl
      exact h rfl

lemma attributePairs_asDict (text : Except PyErr String) (h : ∀ pair ∈ pairs, Writable pair) :
    attributePairs (asDict text pairs) = named (dictOf pairs) := by
  rw [asDict, attributePairs, List.filterMap_map, named, ← List.filterMap_eq_map]
  refine List.filterMap_congr fun entry hentry => ?_
  have hwritable := h entry (mem_of_mem_dictOf hentry)
  refine if_pos ?_
  rw [Bool.and_eq_true]
  exact ⟨truthy_ofText hwritable.name_filled, truthy_ofText hwritable.value_filled⟩

/-- Whatever is read from a part of a text can be written. -/
lemma exists_writable_of_pointsPair {part : List PyChar} {read : PyValue × PyValue}
    (hpart : .char ';' ∉ part) (h : pointsPair part = some read) :
    ∃ pair, Writable pair ∧ read = (.ofText pair.1, .ofText pair.2) := by
  obtain ⟨⟨name, value⟩, hsplit, rfl⟩ := Option.map_eq_some_iff.mp h
  refine ⟨(.ofPoints name, .ofPoints value), ?_, rfl⟩
  unfold splitPair at hsplit
  split at hsplit
  · dsimp only at hsplit
    split at hsplit
    · next hfilled =>
        obtain ⟨rfl, rfl⟩ := Prod.mk.inj (Option.some.inj hsplit)
        -- `split` takes the name up to the first colon, so it has none
        have hname : ∀ c ∈ Python.trim PyChar.isSpace (Python.splitFirst (.char ':') part).1,
            c ≠ .char ':' ∧ c ∈ part := by
          intro c hc
          have hmem : c ∈ part.takeWhile fun c => decide (c ≠ .char ':') :=
            Python.mem_of_mem_trim hc
          have hne := List.mem_takeWhile_imp hmem
          exact ⟨of_decide_eq_true hne, (List.takeWhile_prefix _).subset hmem⟩
        have hvalue : ∀ c ∈ Python.trim PyChar.isSpace (Python.splitFirst (.char ':') part).2,
            c ∈ part := by
          intro c hc
          have hmem := List.mem_of_mem_drop (Python.mem_of_mem_trim hc)
          exact (List.dropWhile_suffix _).subset hmem
        -- both halves are trimmed and not empty
        constructor <;> simp only [PyText.points_ofPoints]
        · exact hfilled.1
        · exact Python.trim_trim _
        · exact ⟨fun hc => (hname _ hc).1 rfl, fun hc => hpart (hname _ hc).2⟩
        · exact hfilled.2
        · exact Python.trim_trim _
        · exact fun hc => hpart (hvalue _ hc)
    · cases hsplit
  · cases hsplit

/-- Whatever is read from a text can be written. -/
lemma exists_writable_of_text (t : PyText) :
    ∃ pairs, (∀ pair ∈ pairs, Writable pair) ∧ attributePairs (.ofText t) = named pairs := by
  have hparts : ∀ part ∈ t.points.splitOn (.char ';'), .char ';' ∉ part :=
    fun _ => Python.notMem_of_mem_splitOn
  rw [attributePairs_ofText]
  revert hparts
  induction t.points.splitOn (.char ';') with
  | nil => exact fun _ => ⟨[], by simp, rfl⟩
  | cons part parts ih =>
      intro hparts
      obtain ⟨pairs, hpairs, hread⟩ := ih fun part' h => hparts part' (List.mem_cons_of_mem _ h)
      rcases hpair : pointsPair part with _ | read
      · rw [List.filterMap_cons_none hpair]
        exact ⟨pairs, hpairs, hread⟩
      · obtain ⟨pair, hwritable, rfl⟩ :=
          exists_writable_of_pointsPair (hparts part List.mem_cons_self) hpair
        refine ⟨pair :: pairs, List.forall_mem_cons.mpr ⟨hwritable, hpairs⟩, ?_⟩
        rw [List.filterMap_cons_some hpair, hread]
        rfl

end

/-! ## What the notations leave -/

variable {pairs : List (String × String)}

/-- The values that pairs give for a name. -/
def valuesFor (name : String) (pairs : List (String × String)) : List String :=
  pairs.filterMap fun nv => if nv.1 = name then some nv.2 else none

lemma valuesFor_cons (name : String) (pair : String × String) (pairs : List (String × String)) :
    valuesFor name (pair :: pairs) =
      if pair.1 = name then pair.2 :: valuesFor name pairs else valuesFor name pairs := by
  by_cases h : pair.1 = name
  · rw [if_pos h]
    exact List.filterMap_cons_some (if_pos h)
  · rw [if_neg h]
    exact List.filterMap_cons_none (if_neg h)

/-- An assignment to a dictionary replaces the first value of the name. -/
lemma valuesFor_put (name : String) (d : List (String × String)) (pair : String × String) :
    valuesFor name (put d pair) =
      if pair.1 = name then pair.2 :: (valuesFor name d).tail else valuesFor name d := by
  induction d with
  | nil => exact valuesFor_cons name pair []
  | cons entry d ih =>
      unfold put
      by_cases hentry : entry.1 = pair.1
      · rw [if_pos hentry, valuesFor_cons, valuesFor_cons, hentry]
        by_cases hname : pair.1 = name
        · rw [if_pos hname, if_pos hname, if_pos hname, List.tail_cons]
        · rw [if_neg hname, if_neg hname, if_neg hname]
      · rw [if_neg hentry, valuesFor_cons, valuesFor_cons, ih]
        by_cases hname : pair.1 = name
        · rw [if_neg (hname ▸ hentry), if_pos hname, if_pos hname, if_neg (hname ▸ hentry)]
        · rw [if_neg hname, if_neg hname]

/-- A dictionary holds a name once, with its last value. -/
lemma valuesFor_dictOf (name : String) (pairs : List (String × String)) :
    valuesFor name (dictOf pairs) = (valuesFor name pairs).getLast?.toList := by
  induction pairs using List.reverseRecOn with
  | nil => rfl
  | append_singleton pairs pair ih =>
      have hconcat : valuesFor name (pairs ++ [pair]) =
          valuesFor name pairs ++ valuesFor name [pair] := List.filterMap_append
      rw [dictOf_concat, valuesFor_put, ih, hconcat, valuesFor_cons]
      by_cases hname : pair.1 = name
      · rw [if_pos hname, if_pos hname]
        rcases (valuesFor name pairs).getLast? with _ | v <;> simp [valuesFor]
      · rw [if_neg hname, if_neg hname]
        simp [valuesFor]

/-- A pair without surrogates. -/
def plainPair (nv : String × String) : PyText × PyText := (.plain nv.1, .plain nv.2)

lemma exists_plainPairs {pairs : List (PyText × PyText)} (h : ∀ pair ∈ pairs, Storable pair) :
    ∃ strings : List (String × String), pairs = strings.map plainPair := by
  induction pairs with
  | nil => exact ⟨[], rfl⟩
  | cons pair pairs ih =>
      obtain ⟨strings, rfl⟩ := ih fun p hp => h p (List.mem_cons_of_mem _ hp)
      obtain ⟨⟨name, hname⟩, value, hvalue⟩ := h pair List.mem_cons_self
      exact ⟨(name, value) :: strings, by rw [List.map_cons, plainPair, ← hname, ← hvalue]⟩

lemma put_plainPair (d : List (String × String)) (nv : String × String) :
    put (d.map plainPair) (plainPair nv) = (put d nv).map plainPair := by
  induction d with
  | nil => rfl
  | cons entry d ih =>
      have hname : (plainPair entry).1 = (plainPair nv).1 ↔ entry.1 = nv.1 :=
        ⟨fun h => PyText.plain.inj h, fun h => congrArg PyText.plain h⟩
      rw [List.map_cons, put, put]
      by_cases hkey : entry.1 = nv.1
      · rw [if_pos hkey, if_pos (hname.mpr hkey)]
        rfl
      · rw [if_neg hkey, if_neg (mt hname.mp hkey), ih]
        rfl

lemma dictOf_plainPair (pairs : List (String × String)) :
    dictOf (pairs.map plainPair) = (dictOf pairs).map plainPair := by
  induction pairs using List.reverseRecOn with
  | nil => rfl
  | append_singleton pairs pair ih =>
      rw [List.map_append, List.map_singleton, dictOf_concat, dictOf_concat, ih, put_plainPair]

lemma forEach_setAttribute_named (sku : String) (pairs : List (String × String))
    (c : Catalogue κ) :
    forEach (setAttribute sku) (named (pairs.map plainPair)) c =
      (.ok (), c.writeAll (valueWrites sku pairs)) := by
  induction pairs generalizing c with
  | nil => rfl
  | cons pair pairs ih =>
      rw [named, List.map_cons, List.map_cons, forEach_cons, bind_apply, setAttribute_apply]
      exact ih _

lemma patchesAt_names (name : String) (pairs : List (String × String)) :
    patchesAt name (pairs.map fun nv => (nv.1, (⟨⟨""⟩⟩ : CreateIfAbsent Attribute))) =
      (valuesFor name pairs).map fun _ => ⟨⟨""⟩⟩ := by
  induction pairs with
  | nil => rfl
  | cons pair pairs ih =>
      rw [List.map_cons, patchesAt_cons, ih, valuesFor_cons]
      by_cases hname : pair.1 = name
      · rw [if_pos hname, if_pos hname, List.map_cons]
      · rw [if_neg hname, if_neg hname]

/-- An attribute is there when it was there or is named. -/
lemma lookup_attributes (sku : String) (pairs : List (String × String)) (c : Catalogue κ)
    (name : String) : (c.writeAll (valueWrites sku pairs)).attributes.lookup name =
      (c.attributes.lookup name).or ((valuesFor name pairs).getLast?.map fun _ => ⟨""⟩) := by
  have hlog : (valueWrites sku pairs : List (Write κ)).filterMap Write.attributeLog? = _ :=
    attributeLog_valueWrites sku pairs
  rw [Catalogue.attributes_writeAll, hlog, lookup_replay, patchesAt_names]
  rcases c.attributes.lookup name with _ | row
  · rcases valuesFor name pairs with _ | ⟨v, vs⟩
    · rfl
    · rw [List.map_cons, applyAll_cons, applyAll_createIfAbsent_some, List.getLast?_cons]
      rfl
  · rw [applyAll_createIfAbsent_some, Option.some_or]

/-- A value is the last one given for the attribute. -/
lemma lookup_values (sku : String) (pairs : List (String × String)) (c : Catalogue κ)
    (key : String × String) : (c.writeAll (valueWrites sku pairs)).values.lookup key =
      if sku = key.1 then (valuesFor key.2 pairs).getLast?.or (c.values.lookup key)
      else c.values.lookup key := by
  have hlog : (valueWrites sku pairs : List (Write κ)).filterMap Write.valueLog? = _ :=
    valueLog_valueWrites sku pairs
  rw [Catalogue.values_writeAll, hlog, lookup_replay, patchesAt_assigned]
  by_cases hsku : sku = key.1
  · rw [if_pos hsku, if_pos hsku, applyAll_overwrite, List.getLast?_map, Option.map_map]
    have hrow : Overwrite.row ∘ Overwrite.mk = (id : String → String) := rfl
    rw [hrow, Option.map_id]
    rfl
  · rw [if_neg hsku, if_neg hsku, applyAll_nil]

/-- Of the writes to an attribute of a product only the last one is seen. -/
lemma writeAll_valueWrites_congr {pairs' : List (String × String)}
    (h : ∀ name, (valuesFor name pairs).getLast? = (valuesFor name pairs').getLast?)
    (sku : String) (c : Catalogue κ) :
    c.writeAll (valueWrites sku pairs) = c.writeAll (valueWrites sku pairs') := by
  refine Catalogue.ext ?_ ?_ ?_ ?_
  · rw [Catalogue.categories_writeAll, Catalogue.categories_writeAll]
    exact congrArg _ ((categoryLog_valueWrites sku pairs).trans
      (categoryLog_valueWrites sku pairs').symm)
  · exact Finmap.ext_lookup fun name => by rw [lookup_attributes, lookup_attributes, h]
  · rw [Catalogue.products_writeAll, Catalogue.products_writeAll]
    exact congrArg _ ((productLog_valueWrites sku pairs).trans
      (productLog_valueWrites sku pairs').symm)
  · exact Finmap.ext_lookup fun key => by rw [lookup_values, lookup_values, h]

/-- The loop over a list and the loop over the dictionary made of it do the same. -/
lemma forEach_setAttribute_dictOf (sku : String) {pairs : List (PyText × PyText)}
    (h : ∀ pair ∈ pairs, Storable pair) :
    (forEach (setAttribute sku) (named (dictOf pairs)) : Tx (Catalogue κ) PyErr Unit) =
      forEach (setAttribute sku) (named pairs) := by
  obtain ⟨pairs, rfl⟩ := exists_plainPairs h
  funext c
  have hlast : ∀ name, (valuesFor name (dictOf pairs)).getLast? =
      (valuesFor name pairs).getLast? := by
    intro name
    rw [valuesFor_dictOf]
    rcases (valuesFor name pairs).getLast? with _ | v <;> rfl
  rw [dictOf_plainPair, forEach_setAttribute_named, forEach_setAttribute_named,
    writeAll_valueWrites_congr hlast sku c]

/-! ## Records that differ in their attributes -/

section

variable {fields : List (PyValue × PyValue)} {text text' : Except PyErr String} {v v' : PyValue}
  {k : String}

lemma find_append (k : String) (items items' : List (PyValue × PyValue)) :
    PyValue.find k (items ++ items') = (PyValue.find k items).or (PyValue.find k items') := by
  induction items with
  | nil => rfl
  | cons item items ih =>
      rw [List.cons_append, PyValue.find, PyValue.find]
      by_cases h : item.1.isStr k = true
      · rw [if_pos h, if_pos h, Option.some_or]
      · rw [if_neg h, if_neg h, ih]

lemma isStr_unique {k' : String} (h : v.isStr k = true) (h' : v.isStr k' = true) : k = k' := by
  cases v with
  | str s =>
      rw [PyValue.isStr, beq_iff_eq] at h h'
      exact h.symm.trans h'
  | _ => cases h

lemma find_filter (k : String) (fields : List (PyValue × PyValue)) :
    PyValue.find k (fields.filter fun f => !f.1.isStr "attributes") =
      if k = "attributes" then none else PyValue.find k fields := by
  induction fields with
  | nil => rw [List.filter_nil, PyValue.find, ite_self]
  | cons f fields ih =>
      rw [List.filter_cons]
      by_cases h : f.1.isStr "attributes" = true
      · rw [if_neg (by rw [h]; decide), ih]
        by_cases hk : k = "attributes"
        · rw [if_pos hk, if_pos hk]
        · have hother : ¬ f.1.isStr k = true := fun hf => hk (isStr_unique hf h)
          rw [if_neg hk, if_neg hk, PyValue.find, if_neg hother]
      · rw [if_pos (by rw [Bool.eq_false_of_not_eq_true h]; rfl), PyValue.find, ih]
        by_cases hk : k = "attributes"
        · rw [if_pos hk, if_pos hk, hk, if_neg h]
        · rw [if_neg hk, if_neg hk, PyValue.find]

/-- The other fields of a record do not depend on its attributes. -/
lemma find_withAttributes (hk : k ≠ "attributes") :
    PyValue.find k ((fields.filter fun f => !f.1.isStr "attributes") ++
      [(.str "attributes", v)]) = PyValue.find k fields := by
  have hattributes : ¬ (PyValue.str "attributes").isStr k = true := by
    rw [PyValue.isStr, beq_iff_eq]
    exact hk.symm
  rw [find_append, find_filter, if_neg hk, PyValue.find, if_neg hattributes, PyValue.find,
    Option.or_none]

lemma contains_withAttributes (hk : k ≠ "attributes") :
    (withAttributes fields text v).contains k = (PyValue.dict fields (.ok "")).contains k := by
  rw [withAttributes, PyValue.contains_dict, PyValue.contains_dict, find_withAttributes hk]

lemma item_withAttributes (hk : k ≠ "attributes") :
    (withAttributes fields text v).item k = (PyValue.dict fields (.ok "")).item k := by
  rw [withAttributes, PyValue.item, PyValue.item, find_withAttributes hk]

lemma get_withAttributes (hk : k ≠ "attributes") (default : PyValue) :
    (withAttributes fields text v).get k default =
      (PyValue.dict fields (.ok "")).get k default := by
  rw [withAttributes, PyValue.get, PyValue.get, find_withAttributes hk]

lemma get_attributes (default : PyValue) :
    (withAttributes fields text v).get "attributes" default = .ok v := by
  rw [withAttributes, PyValue.get, find_append, find_filter, if_pos rfl]
  rfl

lemma hasField_withAttributes (hk : k ≠ "attributes") :
    hasField (withAttributes fields text v) k = hasField (.dict fields (.ok "")) k := by
  rw [hasField, hasField, contains_withAttributes hk, item_withAttributes hk]

lemma missingFields_withAttributes {names : List String} (h : "attributes" ∉ names) :
    missingFields (withAttributes fields text v) names =
      missingFields (.dict fields (.ok "")) names := by
  induction names with
  | nil => rfl
  | cons k names ih =>
      have hk : k ≠ "attributes" := fun heq => h (heq ▸ List.mem_cons_self)
      rw [missingFields, missingFields, hasField_withAttributes hk,
        ih (List.not_mem_of_not_mem_cons h)]

lemma givenCost_withAttributes :
    givenCost (withAttributes fields text v) = givenCost (.dict fields (.ok "")) := by
  rw [givenCost, givenCost, contains_withAttributes (by decide), item_withAttributes (by decide)]

lemma recordErrors_withAttributes :
    recordErrors (withAttributes fields text v) = recordErrors (.dict fields (.ok "")) := by
  have hprice : priceErrors (withAttributes fields text v) =
      priceErrors (.dict fields (.ok "")) := by
    rw [priceErrors, priceErrors, contains_withAttributes (by decide),
      item_withAttributes (by decide)]
  have hquantity :
      quantityErrors (withAttributes fields text v) = quantityErrors (.dict fields (.ok "")) := by
    rw [quantityErrors, quantityErrors, contains_withAttributes (by decide),
      item_withAttributes (by decide)]
  rw [recordErrors, recordErrors, missingFields_withAttributes (by decide), hprice, hquantity,
    costErrors, costErrors, givenCost_withAttributes]

lemma productDefaults_withAttributes (supplier : ℕ) (category : String) :
    productDefaults (withAttributes fields text v) supplier category =
      productDefaults (.dict fields (.ok "")) supplier category := by
  have hcost :
      costDefault (withAttributes fields text v) = costDefault (.dict fields (.ok "")) := by
    rw [costDefault, costDefault, givenCost_withAttributes]
  simp (disch := decide) only [productDefaults, hcost, item_withAttributes, get_withAttributes]

/-- Records whose attributes are handed to the database alike are processed alike. -/
lemma processProductRecord_congr (column : DecimalColumn κ)
    (h : ∀ sku, (forEach (setAttribute sku) (attributePairs v) : Tx (Catalogue κ) PyErr Unit) =
      forEach (setAttribute sku) (attributePairs v'))
    (supplier : ℕ) (updateExisting : Bool) (rowNum : Option ℕ) :
    processProductRecord column (withAttributes fields text v) supplier updateExisting rowNum =
      processProductRecord column (withAttributes fields text' v') supplier updateExisting
        rowNum := by
  have hstore : storeProductRecord column (withAttributes fields text v) supplier updateExisting =
      storeProductRecord column (withAttributes fields text' v') supplier updateExisting := by
    simp (disch := decide) only [storeProductRecord, attributesData, get_attributes, lift_ok,
      pure_bind, h, productDefaults_withAttributes, get_withAttributes, item_withAttributes]
  simp (disch := decide) only [processProductRecord, validateProductData, hstore,
    recordErrors_withAttributes, get_withAttributes]

end

/-- **The notations of the attributes.**  Pairs that can be written leave the same answer and the
same tables as a text, as a dictionary and as a list of objects, whatever the rest of the record
and the catalogue are, when they hold no surrogates; the text is read back as the list it was
written from; and what is read from any text at all can be written, so that writing it out and
reading it again gives the same pairs. -/
theorem notations_agree (column : DecimalColumn κ) (pairs : List (PyText × PyText))
    (hpairs : ∀ pair ∈ pairs, Writable pair) (fields : List (PyValue × PyValue))
    (recordText recordText' recordText'' dictText listText : Except PyErr String)
    (objectText : PyText × PyText → Except PyErr String) (supplier : ℕ) (updateExisting : Bool)
    (rowNum : Option ℕ) (c : Catalogue κ) :
    ((∀ pair ∈ pairs, Storable pair) →
      processProductRecord column (withAttributes fields recordText (asText pairs)) supplier
          updateExisting rowNum c =
        processProductRecord column (withAttributes fields recordText' (asDict dictText pairs))
          supplier updateExisting rowNum c ∧
      processProductRecord column (withAttributes fields recordText (asText pairs)) supplier
          updateExisting rowNum c =
        processProductRecord column (withAttributes fields recordText'' (asObjects listText
          objectText pairs)) supplier updateExisting rowNum c) ∧
    attributePairs (asText pairs) = named pairs ∧
    ∀ t : PyText, ∃ parsed, attributePairs (.ofText t) = named parsed ∧
      (∀ pair ∈ parsed, Writable pair) ∧ attributePairs (asText parsed) = named parsed := by
  have htext := attributePairs_asText hpairs
  refine ⟨fun hstorable => ⟨?_, ?_⟩, htext, fun t => ?_⟩
  · refine congrFun (processProductRecord_congr column (fun sku => ?_) supplier updateExisting
      rowNum) c
    rw [htext, attributePairs_asDict dictText hpairs, forEach_setAttribute_dictOf sku hstorable]
  · refine congrFun (processProductRecord_congr column (fun sku => ?_) supplier updateExisting
      rowNum) c
    rw [htext, attributePairs_asObjects]
  · obtain ⟨parsed, hparsed, hread⟩ := exists_writable_of_text t
    exact ⟨parsed, hread, hparsed, attributePairs_asText hparsed⟩

/-- A pair of shoes, with a colour that is given twice. -/
def shoeFields : List (PyValue × PyValue) :=
  [(.str "sku", .str "SH-1"), (.str "name", .str "Туфли"), (.str "price", .int 900),
    (.str "stock_quantity", .int 5)]

def shoeAttributes : List (PyText × PyText) :=
  [(.plain "цвет", .plain "красный"), (.plain "размер", .plain "42:43"),
    (.plain "цвет", .plain "синий")]

example : dictOf shoeAttributes =
    [(.plain "цвет", .plain "синий"), (.plain "размер", .plain "42:43")] := by decide

theorem notations_agree_shoes :
    ((∀ pair ∈ shoeAttributes, Storable pair) →
      processProductRecord (.late 10) (withAttributes shoeFields (.ok "") (asText shoeAttributes))
          1 true none .empty =
        processProductRecord (.late 10) (withAttributes shoeFields (.ok "") (asDict (.ok "")
          shoeAttributes)) 1 true none .empty ∧
      processProductRecord (.late 10) (withAttributes shoeFields (.ok "") (asText shoeAttributes))
          1 true none .empty =
        processProductRecord (.late 10) (withAttributes shoeFields (.ok "") (asObjects (.ok "")
          (fun _ => .ok "") shoeAttributes)) 1 true none .empty) ∧
    attributePairs (asText shoeAttributes) = named shoeAttributes ∧
    ∀ t : PyText, ∃ parsed, attributePairs (.ofText t) = named parsed ∧
      (∀ pair ∈ parsed, Writable pair) ∧ attributePairs (asText parsed) = named parsed :=
  notations_agree (.late 10) shoeAttributes (by decide) shoeFields (.ok "") (.ok "") (.ok "")
    (.ok "") (.ok "") (fun _ => .ok "") 1 true none .empty

/-- The same shoes, with a surrogate between the two colours. -/
def smudgedAttributes : List (PyText × PyText) :=
  [(.plain "цвет", .plain "красный"), (.broken ⟨[.surrogate 0], rfl⟩, .plain "42"),
    (.plain "цвет", .plain "синий")]

/-- The text has set the first colour when it comes to the surrogate, the dictionary the last. -/
theorem notations_differ_smudged :
    (∀ pair ∈ smudgedAttributes, Writable pair) ∧
      (processProductRecord (.late 10) (withAttributes shoeFields (.ok "")
          (asText smudgedAttributes)) 1 true none .empty).2.values ≠
        (processProductRecord (.late 10) (withAttributes shoeFields (.ok "")
          (asDict (.ok "") smudgedAttributes)) 1 true none .empty).2.values := by
  refine ⟨by decide, fun h => ?_⟩
  have htext : (processProductRecord (.late 10) (withAttributes shoeFields (.ok "")
      (asText smudgedAttributes)) 1 true none .empty).2.values.lookup ("SH-1", "цвет") =
        some "красный" := by decide +kernel
  have hdict : (processProductRecord (.late 10) (withAttributes shoeFields (.ok "")
      (asDict (.ok "") smudgedAttributes)) 1 true none .empty).2.values.lookup
        ("SH-1", "цвет") = some "синий" := by decide +kernel
  rw [h, hdict] at htext
  exact absurd htext (by decide)

end ProductViewSet

end OrdersBackend
