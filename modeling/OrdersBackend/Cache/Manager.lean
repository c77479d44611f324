import Mathlib
import OrdersBackend.Framework.Memo

/-!
# The cache

`CacheKeyBuilder` writes the parameters of a request into a text and takes its MD5 digest;
`CacheManager` reads, writes and deletes the entries.  The digest is a parameter of the
builders, so that what is proved holds of any digest.

`delete_pattern` compares the stored keys with a pattern of the store.  A stored key is a
digest, so a pattern with a letter that is no hexadecimal digit deletes nothing
(`deletePattern_eq_self`).
-/

namespace OrdersBackend

open Framework

namespace CacheKeyBuilder

variable (md5 : String → String)

/-- `_normalize_key`. -/
def normalizeKey (key : String) : String := md5 key

/-- The text under the digest of `order_statistics`.  The number zero counts as no id. -/
def orderStatisticsBase (userId : Option ℕ) : String :=
  match userId with
  | some id => if id = 0 then "order_statistics" else "order_statistics" ++ ":user:" ++ id.repr
  | none => "order_statistics"

def orderStatistics (userId : Option ℕ) : String :=
  normalizeKey md5 (orderStatisticsBase userId)

/-- `model_list`, with the text `json.dumps` makes of the filters when there are any. -/
def modelList (modelName : String) (filterStr : Option String) : String :=
  let base := "model_list:" ++ modelName
  normalizeKey md5 (match filterStr with
    | some filterStr => base ++ ":" ++ filterStr
    | none => base)

def modelInstance (modelName : String) (pk : ℕ) : String :=
  normalizeKey md5 ("model:" ++ modelName ++ ":pk:" ++ pk.repr)

/-- `model_count`. -/
def modelCount (modelName : String) (filterStr : Option String) : String :=
  let base := "model_count:" ++ modelName
  normalizeKey md5 (match filterStr with
    | some filterStr => base ++ ":" ++ filterStr
    | none => base)

def userData (userId : ℕ) : String := normalizeKey md5 ("user:" ++ userId.repr)

/-- The part of a key for an id, which the number zero does not have. -/
def idPart (label : String) (id : Option ℕ) : String :=
  match id with
  | some id => if id = 0 then "" else label ++ id.repr
  | none => ""

def activePart : Option Bool → String
  | some true => ":active:True"
  | some false => ":active:False"
  | none => ""

def productCatalog (supplierId categoryId : Option ℕ) (isActive : Option Bool) : String :=
  normalizeKey md5 ("product_catalog" ++ idPart ":supplier:" supplierId ++
    idPart ":category:" categoryId ++ activePart isActive)

/-- The texts tell the users apart, and all of them from no user. -/
lemma orderStatisticsBase_inj {id : ℕ} (hid : 0 < id) {userId : Option ℕ}
    (h : orderStatisticsBase userId = orderStatisticsBase (some id)) : userId = some id := by
  have hright : orderStatisticsBase (some id) = "order_statistics" ++ ":user:" ++ id.repr :=
    if_neg (Nat.ne_of_gt hid)
  have hplain : "order_statistics" ≠ "order_statistics" ++ ":user:" ++ id.repr := by
    intro heq
    have hlength := congrArg String.length heq
    simp only [String.length_append] at hlength
    have hbase : "order_statistics".length = 16 := by decide
    have huser : ":user:".length = 6 := by decide
    omega
  rw [hright] at h
  rcases userId with _ | other
  · exact absurd h hplain
  · unfold orderStatisticsBase at h
    dsimp only at h
    split at h
    · exact absurd h hplain
    · have hrepr : other.repr = id.repr := String.append_right_inj _ |>.mp h
      rw [Nat.repr_inj.mp hrepr]

/-- No other text of `order_statistics` has the digest of the one for the user `id`. -/
def NoCollision (id : ℕ) : Prop :=
  ∀ userId, md5 (orderStatisticsBase userId) = md5 (orderStatisticsBase (some id)) →
    orderStatisticsBase userId = orderStatisticsBase (some id)

/-- What `hexdigest` returns: 32 hexadecimal digits. -/
def IsDigest (key : String) : Prop :=
  key.length = 32 ∧ ∀ ch ∈ key.toList, ch ∈ "0123456789abcdef".toList

instance (key : String) : Decidable (IsDigest key) := inferInstanceAs (Decidable (_ ∧ _))

end CacheKeyBuilder

/-! ## Patterns -/

/-- A pattern of the store and the text it is compared with: a star stands for any letters,
every other letter for itself. -/
def globMatch : List Char → List Char → Bool
  | [], text => text.isEmpty
  | '*' :: pattern, [] => globMatch pattern []
  | '*' :: pattern, ch :: text => globMatch pattern (ch :: text) || globMatch ('*' :: pattern) text
  | _ :: _, [] => false
  | p :: pattern, ch :: text => p == ch && globMatch pattern text
termination_by pattern text => pattern.length + text.length

/-- A text has every letter of the patterns it matches. -/
lemma mem_of_globMatch {pattern text : List Char} (h : globMatch pattern text = true) {p : Char}
    (hp : p ∈ pattern) (hstar : p ≠ '*') : p ∈ text := by
  induction pattern, text using globMatch.induct with
  | case1 text => cases hp
  | case2 pattern ih =>
      rw [globMatch] at h
      have htail := (List.mem_cons.mp hp).resolve_left hstar
      exact ih h htail
  | case3 pattern ch text ihSkip ihTake =>
      rw [globMatch, Bool.or_eq_true] at h
      have htail := (List.mem_cons.mp hp).resolve_left hstar
      rcases h with h | h
      · exact ihSkip h htail
      · exact List.mem_cons_of_mem _ (ihTake h hp)
  | case4 p' pattern hp' =>
      rw [globMatch] at h
      · cases h
      · exact hp'
  | case5 p' pattern ch text hp' ih =>
      rw [globMatch, Bool.and_eq_true, beq_iff_eq] at h
      · rcases List.mem_cons.mp hp with rfl | htail
        · rw [h.1]
          exact List.mem_cons_self
        · exact List.mem_cons_of_mem _ (ih h.2 htail)
      · exact hp'

namespace CacheManager

variable {ν ε : Type}

/-- `CacheManager.get`. -/
def get (key : String) (now : ℕ) : Tx (Cache String ν) ε (Option ν) := fun c =>
  (.ok (c.get key now), c)

/-- `CacheManager.set`, with the timeout in seconds. -/
def set (key : String) (value : ν) (timeout now : ℕ) : Tx (Cache String ν) ε Unit := fun c =>
  (.ok (), c.set key value (now + timeout))

/-- `CacheManager.delete`. -/
def delete (key : String) : Tx (Cache String ν) ε Unit := Tx.modify fun c => c.delete key

/-- `CacheManager.delete_pattern`; nobody reads how many keys it has deleted. -/
def deletePattern (pattern : String) : Tx (Cache String ν) ε Unit :=
  Tx.modify fun c => c.deleteWhere fun key => globMatch pattern.toList key.toList

/-- A pattern that no digest matches leaves a cache of digests alone. -/
lemma deletePattern_eq_self {c : Cache String ν} {pattern : String} {p : Char}
    (hkeys : ∀ key entry, c key = some entry → CacheKeyBuilder.IsDigest key)
    (hp : p ∈ pattern.toList) (hstar : p ≠ '*') (hhex : p ∉ "0123456789abcdef".toList) :
    (deletePattern pattern : Tx (Cache String ν) ε Unit) c = (.ok (), c) := by
  have hkept : c.deleteWhere (fun key => globMatch pattern.toList key.toList) = c := by
    refine Cache.deleteWhere_eq_self fun key entry hentry => ?_
    by_contra hmatch
    have hmem := mem_of_globMatch (Bool.not_eq_false _ ▸ hmatch) hp hstar
    exact hhex ((hkeys key entry hentry).2 p hmem)
  unfold deletePattern
  rw [Tx.modify_apply, hkept]

end CacheManager

end OrdersBackend
