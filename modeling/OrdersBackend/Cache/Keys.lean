import Mathlib.Data.PNat.Defs
import OrdersBackend.Cache.Manager
import OrdersBackend.Framework.Segments

/-!
# The texts of the keys

The six builders of `CacheKeyBuilder` write into one space of keys.  A text starts with the
tag of its builder, which has no colon, and every part after it starts with one; the parts that
may be absent have labels of their own.  So a text can be read from the left: the tag, then one
argument after the other (`Request.text_injective`).
-/

namespace OrdersBackend

open Framework

namespace CacheKeyBuilder

/-- A model's name, a text without a colon: the program's names are words of lower-case
letters, digits and underscores. -/
structure ModelName where
  text : String
  noColon : ':' ∉ text.toList

/-- A call of one of the builders.  The ids are positive, and `δ` are the filters that are
not empty. -/
inductive Request (δ : Type)
  | modelList (name : ModelName) (filters : Option δ)
  | modelInstance (name : ModelName) (pk : ℕ+)
  | modelCount (name : ModelName) (filters : Option δ)
  | userData (userId : ℕ+)
  | orderStatistics (userId : Option ℕ+)
  | productCatalog (supplierId categoryId : Option ℕ+) (isActive : Option Bool)

namespace Request

variable {δ : Type} (md5 : String → String) (dumps : δ → String)

/-- The key a call returns; `dumps` is `json.dumps` with sorted keys. -/
def key : Request δ → String
  | .modelList name filters => CacheKeyBuilder.modelList md5 name.text (filters.map dumps)
  | .modelInstance name pk => CacheKeyBuilder.modelInstance md5 name.text pk
  | .modelCount name filters => CacheKeyBuilder.modelCount md5 name.text (filters.map dumps)
  | .userData userId => CacheKeyBuilder.userData md5 userId
  | .orderStatistics userId => CacheKeyBuilder.orderStatistics md5 (userId.map PNat.val)
  | .productCatalog supplierId categoryId isActive =>
    CacheKeyBuilder.productCatalog md5 (supplierId.map PNat.val) (categoryId.map PNat.val) isActive

/-- The text a call passes to `_normalize_key`. -/
def text (r : Request δ) : String := r.key id dumps

/-! ## Tags -/

/-- What the text of a builder starts with. -/
def tag : Request δ → String
  | .modelList _ _ => "model_list"
  | .modelInstance _ _ => "model"
  | .modelCount _ _ => "model_count"
  | .userData _ => "user"
  | .orderStatistics _ => "order_statistics"
  | .productCatalog _ _ _ => "product_catalog"

def namePart (name : ModelName) : List Char := ':' :: name.text.toList

def filterPart (filters : Option δ) : List Char :=
  labelled [':'] (filters.map fun filters => (dumps filters).toList)

/-- An optional id with its label. -/
def labelledId (label : String) (id : Option ℕ+) : List Char :=
  labelled label.toList (id.map fun (id : ℕ+) => (id : ℕ).repr.toList)

/-- What follows the tag. -/
def arguments : Request δ → List Char
  | .modelList name filters | .modelCount name filters => namePart name ++ filterPart dumps filters
  | .modelInstance name pk => namePart name ++ (":pk:".toList ++ (pk : ℕ).repr.toList)
  | .userData userId => ':' :: (userId : ℕ).repr.toList
  | .orderStatistics userId => labelledId ":user:" userId
  | .productCatalog supplierId categoryId isActive =>
    labelledId ":supplier:" supplierId ++
      (labelledId ":category:" categoryId ++ (activePart isActive).toList)

lemma colon_notMem_tag (r : Request δ) : ':' ∉ r.tag.toList := by
  cases r <;> simp only [tag] <;> decide

lemma opens_activePart (isActive : Option Bool) : Opens ':' (activePart isActive).toList := by
  rcases isActive with _ | _ | _
  · exact opens_nil
  · exact opens_cons
  · exact opens_cons

lemma opens_arguments (r : Request δ) : Opens ':' (r.arguments dumps) := by
  cases r with
  | modelList name filters => exact opens_cons
  | modelInstance name pk => exact opens_cons
  | modelCount name filters => exact opens_cons
  | userData userId => exact opens_cons
  | orderStatistics userId => exact opens_labelled _ _
  | productCatalog supplierId categoryId isActive =>
      exact (opens_labelled _ _).append ((opens_labelled _ _).append (opens_activePart isActive))

lemma toList_idPart (label : String) (id : Option ℕ+) :
    (idPart label (id.map PNat.val)).toList = labelledId label id := by
  rcases id with _ | id
  · rfl
  · have hpos : ¬ (id : ℕ) = 0 := Nat.ne_of_gt id.pos
    calc (idPart label (some (id : ℕ))).toList
        = (label ++ (id : ℕ).repr).toList := by rw [idPart, if_neg hpos]
      _ = label.toList ++ (id : ℕ).repr.toList := String.toList_append

lemma orderStatisticsBase_eq (userId : Option ℕ+) :
    orderStatisticsBase (userId.map PNat.val) =
      "order_statistics" ++ idPart ":user:" (userId.map PNat.val) := by
  rcases userId with _ | userId
  · rfl
  · have hpos : ¬ (userId : ℕ) = 0 := Nat.ne_of_gt userId.pos
    calc orderStatisticsBase (some (userId : ℕ))
        = "order_statistics" ++ ":user:" ++ (userId : ℕ).repr := if_neg hpos
      _ = "order_statistics" ++ idPart ":user:" (some (userId : ℕ)) := by
          rw [idPart, if_neg hpos, String.append_assoc]

lemma toList_text (r : Request δ) :
    (r.text dumps).toList = r.tag.toList ++ r.arguments dumps := by
  cases r with
  | modelList name filters =>
      rcases filters with _ | filters <;>
        simp [text, key, CacheKeyBuilder.modelList, normalizeKey, tag, arguments, namePart,
          filterPart, labelled]
  | modelInstance name pk =>
      simp [text, key, CacheKeyBuilder.modelInstance, normalizeKey, tag, arguments, namePart]
  | modelCount name filters =>
      rcases filters with _ | filters <;>
        simp [text, key, CacheKeyBuilder.modelCount, normalizeKey, tag, arguments, namePart,
          filterPart, labelled]
  | userData userId =>
      simp [text, key, CacheKeyBuilder.userData, normalizeKey, tag, arguments]
  | orderStatistics userId =>
      calc (orderStatisticsBase (userId.map PNat.val)).toList
          = ("order_statistics" ++ idPart ":user:" (userId.map PNat.val)).toList := by
            rw [orderStatisticsBase_eq]
        _ = "order_statistics".toList ++ labelledId ":user:" userId := by
            rw [String.toList_append, toList_idPart]
  | productCatalog supplierId categoryId isActive =>
      simp only [text, key, CacheKeyBuilder.productCatalog, normalizeKey, id, tag, arguments,
        String.toList_append, toList_idPart, List.append_assoc]

/-! ## Reading the arguments -/

lemma colon_notMem_repr (n : ℕ) : ':' ∉ n.repr.toList := by
  rw [Nat.toList_repr]
  intro hmem
  exact absurd (Nat.isDigit_of_mem_toDigits (by decide) (by decide) hmem) (by decide)

lemma repr_toList_inj {m n : ℕ+} (h : (m : ℕ).repr.toList = (n : ℕ).repr.toList) : m = n :=
  PNat.eq (Nat.repr_inj.mp (String.toList_inj.mp h))

lemma namePart_append_inj {name name' : ModelName} {s t : List Char} (hs : Opens ':' s)
    (ht : Opens ':' t) (h : namePart name ++ s = namePart name' ++ t) : name = name' ∧ s = t := by
  obtain ⟨-, h⟩ := List.cons.inj h
  obtain ⟨hname, hrest⟩ := append_inj_opens name.noColon name'.noColon hs ht h
  obtain ⟨text, _⟩ := name
  obtain ⟨text', _⟩ := name'
  obtain rfl : text = text' := String.toList_inj.mp hname
  exact ⟨rfl, hrest⟩

variable {dumps}

lemma filterPart_injective (hdumps : Function.Injective dumps) :
    Function.Injective (filterPart dumps) := by
  intro filters filters' h
  refine Option.map_injective ?_ (labelled_injective ':' [] h)
  intro f f' htext
  exact hdumps (String.toList_inj.mp htext)

lemma map_repr_injective :
    Function.Injective (Option.map fun (id : ℕ+) => (id : ℕ).repr.toList) :=
  Option.map_injective fun _ _ h => repr_toList_inj h

lemma labelledId_append_inj {label : String} {id id' : Option ℕ+} {s t : List Char}
    (hs : Opens ':' s) (ht : Opens ':' t) (hls : ¬ label.toList <+: s) (hlt : ¬ label.toList <+: t)
    (h : labelledId label id ++ s = labelledId label id' ++ t) : id = id' ∧ s = t := by
  have hword : ∀ id : Option ℕ+, ∀ word ∈ id.map fun (id : ℕ+) => (id : ℕ).repr.toList,
      ':' ∉ word := by
    intro id word hmem
    obtain ⟨n, -, rfl⟩ := Option.map_eq_some_iff.mp hmem
    exact colon_notMem_repr n
  obtain ⟨hid, hrest⟩ := labelled_append_inj (hword id) (hword id') hs ht hls hlt h
  exact ⟨map_repr_injective hid, hrest⟩

lemma activePart_injective : Function.Injective fun a => (activePart a).toList := by
  rintro (_ | _ | _) (_ | _ | _) h <;> first | rfl | exact absurd h (by decide)

/-- Neither a category nor the switch starts with the label of a supplier. -/
lemma supplier_not_label (categoryId : Option ℕ+) (isActive : Option Bool) :
    ¬ ":supplier:".toList <+: labelledId ":category:" categoryId ++
      (activePart isActive).toList := by
  rcases categoryId with _ | categoryId
  · rcases isActive with _ | _ | _ <;> simp [labelledId, labelled, activePart]
  · simp [labelledId, labelled]

lemma category_not_label (isActive : Option Bool) :
    ¬ ":category:".toList <+: (activePart isActive).toList := by
  rcases isActive with _ | _ | _ <;> simp [activePart]

lemma named_injective (hdumps : Function.Injective dumps) {name name' : ModelName}
    {filters filters' : Option δ}
    (h : namePart name ++ filterPart dumps filters = namePart name' ++ filterPart dumps filters') :
    name = name' ∧ filters = filters' := by
  obtain ⟨hname, hrest⟩ := namePart_append_inj (opens_labelled _ _) (opens_labelled _ _) h
  exact ⟨hname, filterPart_injective hdumps hrest⟩

lemma instance_injective {name name' : ModelName} {pk pk' : ℕ+}
    (h : namePart name ++ (":pk:".toList ++ (pk : ℕ).repr.toList) =
      namePart name' ++ (":pk:".toList ++ (pk' : ℕ).repr.toList)) : name = name' ∧ pk = pk' := by
  have hopens : ∀ n : ℕ+, Opens ':' (":pk:".toList ++ (n : ℕ).repr.toList) := fun _ => opens_cons
  obtain ⟨hname, hrest⟩ := namePart_append_inj (hopens pk) (hopens pk') h
  exact ⟨hname, repr_toList_inj (List.append_cancel_left hrest)⟩

lemma catalog_injective {supplierId categoryId supplierId' categoryId' : Option ℕ+}
    {isActive isActive' : Option Bool}
    (h : labelledId ":supplier:" supplierId ++
        (labelledId ":category:" categoryId ++ (activePart isActive).toList) =
      labelledId ":supplier:" supplierId' ++
        (labelledId ":category:" categoryId' ++ (activePart isActive').toList)) :
    supplierId = supplierId' ∧ categoryId = categoryId' ∧ isActive = isActive' := by
  have hactive := opens_activePart isActive
  have hactive' := opens_activePart isActive'
  obtain ⟨hsupplier, hrest⟩ := labelledId_append_inj
    ((opens_labelled _ _).append hactive) ((opens_labelled _ _).append hactive')
    (supplier_not_label categoryId isActive) (supplier_not_label categoryId' isActive') h
  obtain ⟨hcategory, hlast⟩ := labelledId_append_inj hactive hactive'
    (category_not_label isActive) (category_not_label isActive') hrest
  exact ⟨hsupplier, hcategory, activePart_injective hlast⟩

/-- **Keys do not clash**: two calls pass the same text only when they are the same call. -/
theorem text_injective (hdumps : Function.Injective dumps) :
    Function.Injective (text dumps) := by
  intro r r' h
  have hlist : r.tag.toList ++ r.arguments dumps = r'.tag.toList ++ r'.arguments dumps := by
    rw [← toList_text, ← toList_text, h]
  -- no tag holds a colon, so the text is split after the tag
  obtain ⟨htag, hargs⟩ := append_inj_opens (colon_notMem_tag r) (colon_notMem_tag r')
    (opens_arguments dumps r) (opens_arguments dumps r') hlist
  cases r with
  | modelList name filters =>
      cases r' with
      | modelList name' filters' =>
          obtain ⟨rfl, rfl⟩ := named_injective hdumps hargs
          rfl
      | _ => exact absurd htag (by simp [tag])
  | modelInstance name pk =>
      cases r' with
      | modelInstance name' pk' =>
          obtain ⟨rfl, rfl⟩ := instance_injective hargs
          rfl
      | _ => exact absurd htag (by simp [tag])
  | modelCount name filters =>
      cases r' with
      | modelCount name' filters' =>
          obtain ⟨rfl, rfl⟩ := named_injective hdumps hargs
          rfl
      | _ => exact absurd htag (by simp [tag])
  | userData userId =>
      cases r' with
      | userData userId' =>
          obtain ⟨-, hid⟩ := List.cons.inj hargs
          rw [repr_toList_inj hid]
      | _ => exact absurd htag (by simp [tag])
  | orderStatistics userId =>
      cases r' with
      | orderStatistics userId' => rw [map_repr_injective (labelled_injective _ _ hargs)]
      | _ => exact absurd htag (by simp [tag])
  | productCatalog supplierId categoryId isActive =>
      cases r' with
      | productCatalog supplierId' categoryId' isActive' =>
          obtain ⟨rfl, rfl, rfl⟩ := catalog_injective hargs
          rfl
      | _ => exact absurd htag (by simp [tag])

/-- The filters of the category list, `parent__isnull`. -/
def parentFilter (isNull : Bool) : String :=
  if isNull then "\x7b\"parent__isnull\": true\x7d" else "\x7b\"parent__isnull\": false\x7d"

theorem text_injective_parentFilter : Function.Injective (text parentFilter) := by
  refine text_injective ?_
  rintro (_ | _) (_ | _) h <;> first | rfl | exact absurd h (by decide)

end Request

end CacheKeyBuilder

end OrdersBackend
