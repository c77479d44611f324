import OrdersBackend.Cache.Readers

/-!
# The list of the products

`ProductViewSet.list` filters what `get_queryset` returns.  `QuerySetCache.get_or_set` returns
the queryset when it has computed the list, but the list itself when it finds one, and
`DjangoFilterBackend` reads the model of a queryset, which a list does not have.  So the first
request of a key is answered and the following ones fail until the entry expires: the cached
list behaves like the uncached one exactly when no entry is ever found (`sameOutcome_iff`).
-/

namespace OrdersBackend

open Framework Tx

/-- The parameters of the filter.  A malformed number names no row, as the number zero does. -/
structure FilterParams where
  supplier : Option ℕ
  category : Option ℕ
  isActive : Option Bool
  deriving DecidableEq, Repr

/-- A request for the list, by a user who is logged in. -/
structure ListRequest where
  user : ℕ
  userType : UserType
  params : FilterParams
  now : ℕ
  deriving DecidableEq, Repr

/-- What `get_or_set` returns: the queryset it was given, or the value of the cache. -/
inductive Listing
  | queryset (rows : List (ℕ × ListedProduct))
  | value (content : Content)

/-- `QuerySetCache.get_or_set` for the list of a request. -/
def QuerySetCache.getOrSet (md5 : String → String) (db : ShopDb) (request : ListRequest) :
    Tx (Cache String Filled) PyErr Listing := do
  match ← Reader.consult md5 (.productList request.user request.userType) db request.now with
  | some cached => return .value cached
  | none => return .queryset (ProductViewSet.querysetFor db request.user request.userType)

/-- The products of a listing. -/
def Listing.content (db : ShopDb) : Listing → Content
  | queryset rows => .products (ProductViewSet.listed db rows)
  | value content => content

/-- `get_queryset` has the products of the listing. -/
lemma QuerySetCache.getQueryset_eq (md5 : String → String) (db : ShopDb) (request : ListRequest) :
    ProductViewSet.getQueryset md5 db request.user request.userType request.now =
      (do let listing ← QuerySetCache.getOrSet md5 db request
          return listing.content db) := by
  funext c
  unfold ProductViewSet.getQueryset QuerySetCache.getOrSet
  rw [bind_assoc_apply]
  rcases hconsult : Reader.consult md5 (.productList request.user request.userType) db
    request.now c with ⟨e | cached, c'⟩
  · rw [bind_of_error hconsult, bind_of_error hconsult]
  · rw [bind_of_ok hconsult, bind_of_ok hconsult]
    rcases cached with _ | content <;> rfl

namespace FilterParams

/-- A supplier and a category that are named have to be there. -/
def Known (params : FilterParams) (db : ShopDb) : Prop :=
  (params.supplier.all fun id => (db.accounts.suppliers.lookup id).isSome) ∧
    params.category.all fun id => (db.categories.lookup id).isSome

instance decidableKnown (params : FilterParams) (db : ShopDb) : Decidable (params.Known db) :=
  inferInstanceAs (Decidable (_ ∧ _))

/-- The product passes the filter. -/
def selects (params : FilterParams) (row : ListedProduct) : Bool :=
  params.supplier.all (· = row.supplier) && params.category.all (· = row.category) &&
    params.isActive.all (· = row.isActive)

end FilterParams

namespace ProductViewSet

/-- `DjangoFilterBackend.filter_queryset` with the fields of the view: it needs the model of a
queryset. -/
def filterQueryset (db : ShopDb) (params : FilterParams) :
    Listing → Except PyErr (List ProductEntry)
  | .queryset rows =>
    if params.Known db then .ok (listed db (rows.filter fun r => params.selects r.2))
    else .error .validationError
  | .value _ => .error .attributeError

/-- `list`: the products a request is answered with, before they are cut into pages. -/
def list (md5 : String → String) (db : ShopDb) (request : ListRequest) :
    Tx (Cache String Filled) PyErr (List ProductEntry) := do
  let queryset ← QuerySetCache.getOrSet md5 db request
  lift (filterQueryset db request.params queryset)

end ProductViewSet

namespace ListRequest

variable (md5 : String → String) (db : ShopDb)

def key (request : ListRequest) : String :=
  Reader.key md5 (.productList request.user request.userType)

def exec (request : ListRequest) (c : Cache String Filled) : Cache String Filled :=
  (ProductViewSet.list md5 db request c).2

/-- The cache after a list of requests. -/
def afterRequests (requests : List ListRequest) : Cache String Filled :=
  run (exec md5 db) Cache.empty requests

/-- Every request that finds an entry is answered as with an empty cache. -/
def SameOutcome (requests : List ListRequest) : Prop :=
  ∀ earlier request later, requests = earlier ++ request :: later →
    ((afterRequests md5 db earlier).get (request.key md5) request.now).isSome →
      (ProductViewSet.list md5 db request (afterRequests md5 db earlier)).1 =
        (ProductViewSet.list md5 db request Cache.empty).1

/-- Two requests with the same key are ten minutes apart. -/
def Spaced (requests : List ListRequest) : Prop :=
  requests.Pairwise fun request request' =>
    request.key md5 = request'.key md5 → request.now + 60 * 10 ≤ request'.now

variable {md5 db} {request : ListRequest} {c : Cache String Filled}

/-! ## One request -/

/-- An entry makes the request fail. -/
lemma list_of_hit {cached : Filled} (h : c.get (request.key md5) request.now = some cached) :
    ProductViewSet.list md5 db request c = (.error .attributeError, c) := by
  have hlisting : QuerySetCache.getOrSet md5 db request c = (.ok (.value cached.content), c) :=
    bind_of_ok (Reader.consult_of_hit h)
  exact bind_of_ok hlisting

/-- Without an entry the request is answered from the database, and stores the list. -/
lemma list_of_miss (h : c.get (request.key md5) request.now = none) :
    ProductViewSet.list md5 db request c =
      (ProductViewSet.filterQueryset db request.params
          (.queryset (ProductViewSet.querysetFor db request.user request.userType)),
        c.set (request.key md5)
          ⟨.productList request.user request.userType, .products (ProductViewSet.listed db
            (ProductViewSet.querysetFor db request.user request.userType))⟩
          (request.now + 60 * 10)) := by
  have hlisting : QuerySetCache.getOrSet md5 db request c = (.ok (.queryset _), _) :=
    bind_of_ok (Reader.consult_of_miss h rfl)
  exact bind_of_ok hlisting

/-- A queryset does not fail as a list does. -/
lemma filterQueryset_queryset_ne (params : FilterParams) (rows : List (ℕ × ListedProduct)) :
    ProductViewSet.filterQueryset db params (.queryset rows) ≠ .error .attributeError := by
  simp only [ProductViewSet.filterQueryset]
  split <;> simp

/-- A request has the outcome of an empty cache exactly when it finds no entry. -/
lemma list_eq_fresh_iff : (ProductViewSet.list md5 db request c).1 =
      (ProductViewSet.list md5 db request Cache.empty).1 ↔
    c.get (request.key md5) request.now = none := by
  rw [list_of_miss (c := Cache.empty) rfl]
  rcases hget : c.get (request.key md5) request.now with _ | cached
  · rw [list_of_miss hget]
    exact iff_of_true rfl rfl
  · rw [list_of_hit hget]
    exact iff_of_false (fun h => filterQueryset_queryset_ne _ _ h.symm) (by simp)

/-! ## Entries -/

lemma get_exec {key : String} {now : ℕ} (h : c.get (request.key md5) request.now = none) :
    ((request.exec md5 db c).get key now).isSome ↔
      if request.key md5 = key then now < request.now + 60 * 10 else (c.get key now).isSome := by
  have hexec : request.exec md5 db c = c.set (request.key md5) _ (request.now + 60 * 10) :=
    congrArg Prod.snd (list_of_miss h)
  rw [hexec]
  by_cases hkey : request.key md5 = key
  · rw [if_pos hkey, ← hkey]
    exact c.isSome_get_set_self _ _ _ _
  · rw [if_neg hkey, Cache.get_set_of_ne _ _ _ (Ne.symm hkey)]

/-- Of requests that are ten minutes apart each one leaves an entry for ten minutes. -/
lemma get_afterRequests {requests : List ListRequest} (hspaced : Spaced md5 requests)
    (key : String) (now : ℕ) :
    ((afterRequests md5 db requests).get key now).isSome ↔
      ∃ request ∈ requests, request.key md5 = key ∧ now < request.now + 60 * 10 := by
  induction requests using List.reverseRecOn generalizing key now with
  | nil => exact iff_of_false (by simp [afterRequests, Cache.get, Cache.empty]) (by simp)
  | append_singleton requests request ih =>
      obtain ⟨hbefore, -, hlast⟩ := List.pairwise_append.mp hspaced
      have hexpired : ∀ request' ∈ requests, request'.key md5 = request.key md5 →
          request'.now + 60 * 10 ≤ request.now := fun request' h =>
        hlast request' h request List.mem_cons_self
      -- so the last request finds nothing and fills the entry again
      have hmiss : (afterRequests md5 db requests).get (request.key md5) request.now = none := by
        rw [← Option.not_isSome_iff_eq_none, ih hbefore]
        rintro ⟨request', hmem, hkey, hnow⟩
        exact absurd (hexpired request' hmem hkey) (Nat.not_le.mpr hnow)
      have hafter : afterRequests md5 db (requests ++ [request]) =
          request.exec md5 db (afterRequests md5 db requests) := run_append ..
      rw [hafter, get_exec hmiss]
      by_cases hkey : request.key md5 = key
      · rw [if_pos hkey]
        constructor
        · exact fun hnow => ⟨request, by simp, hkey, hnow⟩
        · rintro ⟨request', hmem, hkey', hnow⟩
          rcases List.mem_append.mp hmem with hmem | hmem
          · -- the entry of an earlier request had expired before this one
            have hold := hexpired request' hmem (hkey'.trans hkey.symm)
            omega
          · rw [← List.mem_singleton.mp hmem]
            exact hnow
      · rw [if_neg hkey, ih hbefore]
        simp [or_and_right, exists_or, hkey]

/-- **When the cached list behaves like the uncached one**: exactly when no two requests with
the same key are less than ten minutes apart. -/
theorem sameOutcome_iff (md5 : String → String) (db : ShopDb) (requests : List ListRequest) :
    SameOutcome md5 db requests ↔ Spaced md5 requests := by
  unfold SameOutcome
  induction requests using List.reverseRecOn with
  | nil => exact iff_of_true (fun earlier request later h => absurd h.symm (by simp)) .nil
  | append_singleton requests request ih =>
      have hspaced : Spaced md5 (requests ++ [request]) ↔ Spaced md5 requests ∧ _ :=
        List.pairwise_append
      rw [forall_split_concat, ih, hspaced]
      refine and_congr_right fun hbefore => ?_
      rw [list_eq_fresh_iff, ← Option.not_isSome_iff_eq_none, get_afterRequests hbefore]
      constructor
      · intro h
        refine ⟨List.pairwise_singleton _ _, fun request' hmem last hlast hkey => ?_⟩
        rw [List.mem_singleton.mp hlast] at hkey ⊢
        by_contra hnow
        have hfound : ∃ r ∈ requests, r.key md5 = request.key md5 ∧ request.now < r.now + 60 * 10 :=
          ⟨request', hmem, hkey, Nat.not_le.mp hnow⟩
        exact h hfound hfound
      · rintro ⟨-, hlast⟩ ⟨request', hmem, hkey, hnow⟩
        exact absurd (hlast request' hmem request List.mem_cons_self hkey) (Nat.not_le.mpr hnow)

/-! ## A client asks twice -/

def cupRow : ListedProduct :=
  { supplier := 1, category := 1, name := "Cup", sku := "CUP", description := ""
    price := OrderViewSet.cup.price, costPrice := none, stockQuantity := 200, minOrderQuantity := 1
    unit := "шт", isActive := true, image := none, thumbnails := ⟨none, none, none, none⟩
    createdAt := 0, updatedAt := 0 }

/-- A shop with one product. -/
def cupShop : ShopDb :=
  (ShopWrite.saveProduct none cupRow).after
    ((ShopWrite.saveCategory none ⟨"Dishes", "", none, 0⟩).after
      (ShopDb.ofAccounts OrderViewSet.shopAccounts))

/-- The client asks again after a minute. -/
def askedTwice : List ListRequest :=
  [⟨1, .client, ⟨none, none, none⟩, 0⟩, ⟨1, .client, ⟨none, none, none⟩, 60⟩]

/-- The second time the list fails. -/
theorem not_sameOutcome_askedTwice : ¬ SameOutcome id cupShop askedTwice := by
  intro h
  have hkept : ((afterRequests id cupShop [⟨1, .client, ⟨none, none, none⟩, 0⟩]).get
      (key id ⟨1, .client, ⟨none, none, none⟩, 60⟩) 60).isSome :=
    (get_exec rfl).mpr (by decide)
  have hsecond := h [⟨1, .client, ⟨none, none, none⟩, 0⟩] ⟨1, .client, ⟨none, none, none⟩, 60⟩ []
    rfl hkept
  rw [list_eq_fresh_iff.mp hsecond] at hkept
  cases hkept

end ListRequest

end OrdersBackend
