import OrdersBackend.Cache.Manager

/-!
# The handlers of the signals

After every save and every delete of a user, a product, an order or a category a handler
deletes cache entries.  It deletes some keys by name and others by a pattern.  The patterns are
texts such as `*product_catalog*`, while the keys are digests of such texts, so all that a
handler deletes is what it names (`invalidateCacheOnSave_apply`, `invalidateCacheOnDelete_apply`).
-/

namespace OrdersBackend

open Framework Tx

/-- What a handler reads of the row it is called for. -/
inductive Instance
  | user (pk : ℕ)
  | category (pk : ℕ)
  | product (pk : ℕ)
  | order (pk clientId : ℕ)
  deriving DecidableEq, Repr

namespace Instance

/-- `sender.__name__.lower()`. -/
def modelName : Instance → String
  | user _ => "user"
  | category _ => "category"
  | product _ => "product"
  | order _ _ => "order"

def pk : Instance → ℕ
  | user pk | category pk | product pk | order pk _ => pk

end Instance

namespace CacheUtils

variable {ν ε : Type} (md5 : String → String)

def invalidateCacheOnSave (instance_ : Instance) : Tx (Cache String ν) ε Unit := do
  CacheManager.delete (CacheKeyBuilder.modelInstance md5 instance_.modelName instance_.pk)
  CacheManager.deletePattern ("*model_list:" ++ instance_.modelName ++ "*")
  match instance_ with
  | .product _ => CacheManager.deletePattern "*product_catalog*"
  | .order _ clientId => do
    CacheManager.deletePattern "*order_statistics*"
    if clientId ≠ 0 then
      CacheManager.delete (CacheKeyBuilder.orderStatistics md5 (some clientId))
  | .user pk => CacheManager.delete (CacheKeyBuilder.userData md5 pk)
  | .category _ => pure ()

def invalidateCacheOnDelete (instance_ : Instance) : Tx (Cache String ν) ε Unit := do
  CacheManager.delete (CacheKeyBuilder.modelInstance md5 instance_.modelName instance_.pk)
  CacheManager.deletePattern ("*model_list:" ++ instance_.modelName ++ "*")

/-! ## What they delete -/

/-- The keys that the handler of a delete names. -/
def deleteKeys (instance_ : Instance) : List String :=
  [CacheKeyBuilder.modelInstance md5 instance_.modelName instance_.pk]

/-- The keys that the handler of a save names. -/
def saveKeys (instance_ : Instance) : List String :=
  deleteKeys md5 instance_ ++
    match instance_ with
    | .order _ clientId =>
      if clientId = 0 then [] else [CacheKeyBuilder.orderStatistics md5 (some clientId)]
    | .user pk => [CacheKeyBuilder.userData md5 pk]
    | .product _ | .category _ => []

variable {md5}

/-- The stored keys are digests. -/
def Digested (c : Cache String ν) : Prop :=
  ∀ key entry, c key = some entry → CacheKeyBuilder.IsDigest key

lemma digested_delete {c : Cache String ν} (h : Digested c) (key : String) :
    Digested (c.delete key) := by
  intro key' entry hentry
  exact h key' entry (Cache.delete_eq_some.mp hentry).2

lemma digested_deleteAll {c : Cache String ν} (h : Digested c) (keys : List String) :
    Digested (c.deleteAll keys) := by
  intro key entry hentry
  exact h key entry (Cache.deleteAll_eq_some.mp hentry).2

/-- What the two handlers share: the named key is deleted, and no key matches the pattern. -/
theorem invalidateCacheOnDelete_apply {c : Cache String ν} (h : Digested c)
    (instance_ : Instance) :
    (invalidateCacheOnDelete md5 instance_ : Tx (Cache String ν) ε Unit) c =
      (.ok (), c.deleteAll (deleteKeys md5 instance_)) := by
  have hkept := digested_delete h
    (CacheKeyBuilder.modelInstance md5 instance_.modelName instance_.pk)
  have hm : 'm' ∈ ("*model_list:" ++ instance_.modelName ++ "*").toList := by
    simp [String.toList_append]
  exact CacheManager.deletePattern_eq_self hkept hm (by decide) (by decide)

theorem invalidateCacheOnSave_apply {c : Cache String ν} (h : Digested c)
    (instance_ : Instance) :
    (invalidateCacheOnSave md5 instance_ : Tx (Cache String ν) ε Unit) c =
      (.ok (), c.deleteAll (saveKeys md5 instance_)) := by
  have hshared : (invalidateCacheOnDelete md5 instance_ : Tx (Cache String ν) ε Unit) c =
      (.ok (), c.deleteAll (deleteKeys md5 instance_)) := invalidateCacheOnDelete_apply h instance_
  have hkept := digested_deleteAll h (deleteKeys md5 instance_)
  unfold invalidateCacheOnDelete at hshared
  unfold invalidateCacheOnSave saveKeys
  rw [← bind_assoc, bind_of_ok hshared, Cache.deleteAll_append]
  rcases instance_ with pk | pk | pk | ⟨pk, clientId⟩
  · rfl
  · rfl
  · exact CacheManager.deletePattern_eq_self hkept (p := 'o') (by decide) (by decide) (by decide)
  · have hpattern : (CacheManager.deletePattern "*order_statistics*" : Tx (Cache String ν) ε Unit)
        (c.deleteAll (deleteKeys md5 (.order pk clientId))) =
          (.ok (), c.deleteAll (deleteKeys md5 (.order pk clientId))) :=
      CacheManager.deletePattern_eq_self hkept (p := 'o') (by decide) (by decide) (by decide)
    simp only [bind_of_ok hpattern]
    by_cases hclient : clientId = 0
    · simp [hclient]
    · simp only [if_neg hclient, if_pos (Ne.intro hclient)]
      rfl

end CacheUtils

end OrdersBackend
