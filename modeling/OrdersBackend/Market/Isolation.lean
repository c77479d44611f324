import OrdersBackend.Framework.Runs
import OrdersBackend.Market.Effects
import OrdersBackend.Market.Frames

/-!
# Whose rows a request writes

The actions on avatars and images look at the owner of the row, except for the removal of an
image.  Updates, deletions and the switch of a supplier do not look: they write whatever row
`get_object` finds, and that is any user, any supplier, and for everyone who is not a supplier
any product he sees.

`SparesOthers` says which requests leave the rows of other users alone, and a run does so in
all its parts exactly when each of its requests does (`writesIsolated_iff`).
-/

namespace OrdersBackend

open Framework

namespace Market

variable {db : MarketDb} {user pk : ℕ}

/-! ## Requests that leave the others alone -/

/-- A request to the user `pk`, whose row is `row`: it is the user's own row, or nothing is
saved, or what is saved is what is there. -/
def SparesUser (user : ℕ) (db : MarketDb) (pk : ℕ) (row : Account) : UserAction → Prop
  | .update body code =>
    pk = user ∨ ∀ data, body = some data → UserSerializer.errors pk db data = [] →
      db.users.Free Account.codeKey pk ((row.withData data).saved code) →
      (row.withData data).saved code = row
  | .destroy => pk = user ∨ db.Protected (.user pk)
  | .uploadAvatar _ _ | .deleteAvatar _ => True

def SparesSupplier (user : ℕ) (db : MarketDb) (pk : ℕ) (row : SupplierRow) :
    SupplierAction → Prop
  | .update body now =>
    row.user = user ∨ ∀ data, body = some data → SupplierSerializer.errors pk db data = [] →
      row.withData data now = row
  | .destroy => row.user = user ∨ db.Protected (.supplier pk)
  | .toggleAcceptOrders _ => row.user = user

def SparesProduct (user : ℕ) (db : MarketDb) (pk : ℕ) (row : StoredProduct) :
    ProductAction → Prop
  | .update body now =>
    db.ownerOf row = some user ∨
      ∀ data, body = some data → ProductSerializer.errors pk db data = [] →
        row.withData data now = row
  | .destroy => db.ownerOf row = some user ∨ db.Protected (.product pk)
  | .uploadImage _ _ | .addAdditionalImage _ _ => True
  | .removeAdditionalImage imageId =>
    db.ownerOf row = some user ∨
      ∀ text, imageId = some text → text ≠ "" →
        ∀ image, ProductViewSet.imageOf db pk text ≠ .ok (some image)

/-- The request is refused, or finds a row it may write, or leaves the row it finds as it is. -/
def SparesOthers (user : ℕ) (db : MarketDb) (request : MarketRequest) : Prop :=
  ∀ account, authenticate db user = some account →
    match request with
    | .users query pk action =>
      ∀ row, UserViewSet.getObject query pk db = some row → SparesUser user db pk row action
    | .suppliers query pk action =>
      ∀ row, SupplierViewSet.getObject query pk db = some row →
        SparesSupplier user db pk row action
    | .products query pk action =>
      ∀ row, ProductViewSet.getObject user account query pk db = some row →
        SparesProduct user db pk row action

/-! ## One request -/

lemma lookup_of_filter {ρ : Type} {t : Table ρ} {p : ρ → Bool} {row : ρ}
    (h : (t.lookup pk).filter p = some row) : t.lookup pk = some row :=
  (Option.filter_eq_some_iff.mp h).1

section

open MarketDb

variable {account : Account}

lemma sparesUser_iff (hstaff : account.isStaff = false) (query : UserQuery) (pk : ℕ)
    (action : UserAction) :
    (∀ row, UserViewSet.getObject query pk db = some row → SparesUser user db pk row action) ↔
      OthersKept user db (handleUsers user account query pk action db).2 := by
  have hrefl : OthersKept user db db := .refl user db
  rcases action with ⟨body, code⟩ | _ | ⟨file, code⟩ | code
  · refine Iff.trans (forall₂_congr fun row hobject => ?_)
      (updateUser_iff (P := OthersKept user db) hrefl query pk body code).symm
    have hrow := lookup_of_filter hobject
    simp only [SparesUser, othersKept_setUser_iff hrow, ← forall_or_left]
    refine forall₂_congr fun data _ => forall_congr' fun hvalid => ?_
    rw [userFits_iff hrow hvalid code]
  · refine Iff.trans (forall₂_congr fun row hobject => ?_)
      (destroyUser_iff (P := OthersKept user db) hrefl query pk).symm
    have hrow := lookup_of_filter hobject
    simp only [SparesUser, othersKept_eraseUser_iff hrow]
    rw [or_comm, or_iff_not_imp_left]
  · refine iff_of_true (fun _ _ => trivial) ?_
    refine (uploadAvatar_iff (P := OthersKept user db) hrefl query pk file code).mpr ?_
    intro row hobject howner name _ hfits
    -- the two avatar actions ask for the owner themselves
    have hown : pk = user := howner.resolve_right (by simp [hstaff])
    exact (othersKept_setUser_iff (lookup_of_filter hobject) hfits).mpr (.inl hown)
  · refine iff_of_true (fun _ _ => trivial) ?_
    refine (deleteAvatar_iff (P := OthersKept user db) hrefl query pk code).mpr ?_
    intro row hobject howner _ hfits
    have hown : pk = user := howner.resolve_right (by simp [hstaff])
    exact (othersKept_setUser_iff (lookup_of_filter hobject) hfits).mpr (.inl hown)

/-- The switch never leaves a row as it is. -/
lemma toggled_ne (row : SupplierRow) (now : ℕ) : row.toggled now ≠ row := by
  intro h
  have hactive : (!row.isActive) = row.isActive := congrArg SupplierRow.isActive h
  simp at hactive

lemma sparesSupplier_iff (query : SupplierQuery) (pk : ℕ) (action : SupplierAction) :
    (∀ row, SupplierViewSet.getObject query pk db = some row →
        SparesSupplier user db pk row action) ↔
      OthersKept user db (handleSuppliers query pk action db).2 := by
  have hrefl : OthersKept user db db := .refl user db
  rcases action with ⟨body, now⟩ | _ | now
  · refine Iff.trans (forall₂_congr fun row hobject => ?_)
      (updateSupplier_iff (P := OthersKept user db) hrefl query pk body now).symm
    have hrow := lookup_of_filter hobject
    simp only [SparesSupplier, othersKept_setSupplier_iff hrow, ← forall_or_left]
    refine forall₂_congr fun data _ => forall_congr' fun hvalid => ?_
    rw [forall_prop_of_true (supplierFits_withData hrow hvalid now)]
  · refine Iff.trans (forall₂_congr fun row hobject => ?_)
      (destroySupplier_iff (P := OthersKept user db) hrefl query pk).symm
    have hrow := lookup_of_filter hobject
    simp only [SparesSupplier, othersKept_eraseSupplier_iff hrow]
    rw [or_comm, or_iff_not_imp_left]
  · refine Iff.trans (forall₂_congr fun row hobject => ?_)
      (toggleAcceptOrders_iff (P := OthersKept user db) hrefl query pk now).symm
    have hrow := lookup_of_filter hobject
    simp only [SparesSupplier, othersKept_setSupplier_iff hrow, toggled_ne, or_false]
    rw [forall_prop_of_true (supplierFits_toggled hrow now)]

/-- A row of a product is the user's exactly when it is not foreign. -/
lemma not_foreign_iff {row : StoredProduct} (hrow : db.products.lookup pk = some row) :
    ¬ db.Foreign user row ↔ db.ownerOf row = some user := by
  rw [foreign_iff hrow, not_not]

lemma sparesProduct_iff (hstaff : account.isStaff = false) (query : ProductQuery) (pk : ℕ)
    (action : ProductAction) :
    (∀ row, ProductViewSet.getObject user account query pk db = some row →
        SparesProduct user db pk row action) ↔
      OthersKept user db (handleProducts user account query pk action db).2 := by
  have hrefl : OthersKept user db db := .refl user db
  rcases action with ⟨body, now⟩ | _ | ⟨file, now⟩ | ⟨file, sortOrder⟩ | imageId
  · refine Iff.trans (forall₂_congr fun row hobject => ?_)
      (updateProduct_iff (P := OthersKept user db) hrefl query pk body now).symm
    have hrow := lookup_of_filter hobject
    simp only [SparesProduct, othersKept_setProduct_iff hrow, not_foreign_iff hrow,
      ← forall_or_left]
    refine forall₂_congr fun data _ => forall_congr' fun hvalid => ?_
    rw [forall_prop_of_true (productFits_withData hrow hvalid now)]
  · refine Iff.trans (forall₂_congr fun row hobject => ?_)
      (destroyProduct_iff (P := OthersKept user db) hrefl query pk).symm
    have hrow := lookup_of_filter hobject
    simp only [SparesProduct, othersKept_eraseProduct_iff hrow, not_foreign_iff hrow]
    rw [or_comm, or_iff_not_imp_left]
  · -- the two uploads ask for the owner themselves
    refine iff_of_true (fun _ _ => trivial) ?_
    refine (uploadImage_iff (P := OthersKept user db) hrefl query pk file now).mpr ?_
    intro row hobject howner name _ hfits
    have hrow := lookup_of_filter hobject
    have hown := (not_foreign_iff hrow).mpr (howner.resolve_right (by simp [hstaff]))
    exact (othersKept_setProduct_iff hrow hfits).mpr (.inl hown)
  · refine iff_of_true (fun _ _ => trivial) ?_
    refine (addAdditionalImage_iff (P := OthersKept user db) hrefl query pk file sortOrder).mpr ?_
    intro row hobject howner name _ n _ hthere
    have hrow := lookup_of_filter hobject
    have hown := (not_foreign_iff hrow).mpr (howner.resolve_right (by simp [hstaff]))
    exact othersKept_addImage hrow hown hthere
  · refine Iff.trans (forall₂_congr fun row hobject => ?_)
      (removeAdditionalImage_iff (P := OthersKept user db) hrefl query pk imageId).symm
    have hrow := lookup_of_filter hobject
    simp only [SparesProduct, ← forall_or_left]
    refine forall₂_congr fun text _ => forall₂_congr fun _ image => ?_
    rw [or_comm, ← imp_iff_not_or]
    refine forall_congr' fun himage => ?_
    obtain ⟨stored, hstored, rfl⟩ := image_of_imageOf himage
    rw [othersKept_deleteImage_iff hstored hrow, not_foreign_iff hrow]

end

/-! ## Runs -/

/-- The user is not staff. -/
def Ordinary (user : ℕ) (db : MarketDb) : Prop :=
  ∀ row, db.users.lookup user = some row → row.isStaff = false

/-- One request leaves the rows of others alone exactly when it is one that spares them. -/
theorem sparesOthers_iff (h : Ordinary user db) (request : MarketRequest) :
    SparesOthers user db request ↔ MarketDb.OthersKept user db (exec user request db) := by
  refine Iff.trans ?_ (asUser_iff (P := MarketDb.OthersKept user db) (.refl user db)).symm
  refine forall₂_congr fun account haccount => ?_
  have hstaff := h account (lookup_of_filter haccount)
  rcases request with ⟨query, pk, action⟩ | ⟨query, pk, action⟩ | ⟨query, pk, action⟩
  · exact sparesUser_iff hstaff query pk action
  · exact sparesSupplier_iff query pk action
  · exact sparesProduct_iff hstaff query pk action

/-- The filter of `get_queryset` is enough where it shows a user his own rows only: the
requests of a supplier to products spare the others. -/
theorem sparesOthers_of_supplier (query : ProductQuery) (pk : ℕ) (action : ProductAction)
    (h : ∀ account, authenticate db user = some account → account.userType = .supplier) :
    SparesOthers user db (.products query pk action) := by
  intro account haccount row hobject
  have hshown := (Option.filter_eq_some_iff.mp hobject).2
  simp only [ProductViewSet.shownTo, h account haccount, Bool.and_eq_true] at hshown
  have hown : db.ownerOf row = some user := of_decide_eq_true hshown.1
  rcases action with _ | _ | _ | _ | _
  · exact .inl hown
  · exact .inl hown
  · trivial
  · trivial
  · exact .inl hown

lemma ordinary_setUser (h : Ordinary user db) {old row : Account}
    (hold : db.users.lookup pk = some old) (hstaff : row.isStaff = old.isStaff)
    (hfits : db.UserFits pk row) : Ordinary user (db.setUser pk row hfits) := by
  intro r hr
  rcases Table.lookup_update_cases hr with ⟨rfl, rfl⟩ | ⟨-, hkept⟩
  · rw [hstaff]
    exact h old hold
  · exact h r hkept

lemma ordinary_erase (h : Ordinary user db) {doomed : Doomed} (hfree : ¬ db.Protected doomed) :
    Ordinary user (db.erase doomed hfree) :=
  fun row hrow => h row (Table.lookup_filter_eq_some.mp hrow).1

/-- No request makes a user staff. -/
lemma ordinary_exec (h : Ordinary user db) (request : MarketRequest) :
    Ordinary user (exec user request db) := by
  refine (asUser_iff (P := Ordinary user) h).mpr fun account _ => ?_
  rcases request with ⟨query, pk, action⟩ | ⟨query, pk, action⟩ | ⟨query, pk, action⟩
  · -- the forms of a user have no field for it
    rcases action with ⟨body, code⟩ | _ | ⟨file, code⟩ | code
    · exact (updateUser_iff (P := Ordinary user) h query pk body code).mpr
        fun row hobject _ _ _ =>
          ordinary_setUser h (lookup_of_filter hobject) (isStaff_saved _ code)
    · exact (destroyUser_iff (P := Ordinary user) h query pk).mpr fun _ _ => ordinary_erase h
    · exact (uploadAvatar_iff (P := Ordinary user) h query pk file code).mpr
        fun row hobject _ _ _ =>
          ordinary_setUser h (lookup_of_filter hobject) (isStaff_saved _ code)
    · exact (deleteAvatar_iff (P := Ordinary user) h query pk code).mpr
        fun row hobject _ _ => ordinary_setUser h (lookup_of_filter hobject) (isStaff_saved _ code)
  · rcases action with ⟨body, now⟩ | _ | now
    · exact (updateSupplier_iff (P := Ordinary user) h query pk body now).mpr
        fun _ _ _ _ _ _ => h
    · exact (destroySupplier_iff (P := Ordinary user) h query pk).mpr fun _ _ => ordinary_erase h
    · exact (toggleAcceptOrders_iff (P := Ordinary user) h query pk now).mpr fun _ _ _ => h
  · rcases action with ⟨body, now⟩ | _ | ⟨file, now⟩ | ⟨file, sortOrder⟩ | imageId
    · exact (updateProduct_iff (P := Ordinary user) h query pk body now).mpr
        fun _ _ _ _ _ _ => h
    · exact (destroyProduct_iff (P := Ordinary user) h query pk).mpr fun _ _ => ordinary_erase h
    · exact (uploadImage_iff (P := Ordinary user) h query pk file now).mpr
        fun _ _ _ _ _ _ => h
    · exact (addAdditionalImage_iff (P := Ordinary user) h query pk file sortOrder).mpr
        fun _ _ _ _ _ _ _ _ => h
    · exact (removeAdditionalImage_iff (P := Ordinary user) h query pk imageId).mpr
        fun _ _ _ _ _ _ _ => h

/-- Every part of the run leaves the rows of the other users as it finds them. -/
def WritesIsolated (user : ℕ) (db : MarketDb) (requests : List MarketRequest) : Prop :=
  ∀ earlier part later, requests = earlier ++ part ++ later →
    MarketDb.OthersKept user (run (exec user) db earlier) (run (exec user) db (earlier ++ part))

lemma WritesIsolated.single {request : MarketRequest} (h : WritesIsolated user db [request]) :
    MarketDb.OthersKept user db (exec user request db) :=
  h [] [request] [] rfl

/-- **When writes are isolated.**  A run of requests of a user who is not staff leaves every
other user, and his profile and products with their images, as they are, from any state of the
run to any later one, exactly when each request is refused, finds a row of the user himself, or
leaves the row it finds as it is. -/
theorem writesIsolated_iff (h : Ordinary user db) (requests : List MarketRequest) :
    WritesIsolated user db requests ↔ Guarded (exec user) (SparesOthers user) db requests :=
  (guarded_iff_related (MarketDb.OthersKept.refl user) (fun _ _ _ => MarketDb.OthersKept.trans)
    (fun _ request h => ordinary_exec h request) (fun _ request h => sparesOthers_iff h request)
    h requests).symm

/-! ## A client and a supplier -/

def plainAccount (username : String) (userType : UserType) : Account where
  username := username
  email := username
  firstName := ""
  lastName := ""
  userType := userType
  phone := ""
  companyName := ""
  address := ""
  supplierCode := if userType = .supplier then some "SUP1" else none
  isStaff := false
  isActive := true
  acceptsOrders := true
  avatar := none
  avatarSmall := none
  avatarMedium := none
  avatarLarge := none

def firm : SupplierRow where
  user := 2
  companyName := "Firm"
  contactPerson := ""
  phone := ""
  email := ""
  address := ""
  taxNumber := "7707083893"
  bankDetails := ""
  isActive := true
  updatedAt := 0

def firmCup : StoredProduct where
  supplier := 1
  category := "Dishes"
  name := "Cup"
  description := ""
  price := ⟨520, by decide⟩
  stockQuantity := 3
  minOrderQuantity := 1
  unit := "шт"
  isActive := true
  costPrice := none
  sku := "C-1"
  image := none
  thumbnails := ⟨none, none, none, none⟩
  updatedAt := 0

/-- The client `1` and the supplier `2`, whose profile `1` has the product `1` with the
image `1`. -/
def market : MarketDb where
  users := (Table.empty.insert (plainAccount "ann" .client)).insert (plainAccount "firm" .supplier)
  suppliers := Table.empty.insert firm
  categories := ["Dishes"]
  products := Table.empty.insert firmCup
  images := Table.empty.insert ⟨1, some "products/additional/cup.jpg", none, none, none, 0⟩
  orders := Table.empty
  items := Table.empty
  usernames :=
    Table.unique_insert (Table.unique_insert (Table.unique_empty _) (by decide)) (by decide)
  supplierCodes :=
    Table.unique_insert (Table.unique_insert (Table.unique_empty _) (by decide)) (by decide)
  profiles := Table.unique_insert (Table.unique_empty _) (by decide)
  taxNumbers := Table.unique_insert (Table.unique_empty _) (by decide)
  skus := Table.unique_insert (Table.unique_empty _) (by decide)
  supplierUsers := Table.references_insert (Table.references_empty _ _) (by decide)
  productSuppliers := Table.references_insert (Table.references_empty _ _) (by decide)
  productCategories := by
    intro id row hrow
    rcases Table.mem_rows_iff.mpr hrow with _ | ⟨_, hnil⟩
    · decide
    · cases hnil
  imageProducts := Table.references_insert (Table.references_empty _ _) (by decide)
  orderClients := Table.references_empty _ _
  itemOrders := Table.references_empty _ _
  itemProducts := Table.references_empty _ _
  itemSuppliers := Table.references_empty _ _

lemma ordinary_market : Ordinary 1 market := by
  intro row hrow
  have hann : market.users.lookup 1 = some (plainAccount "ann" .client) := by decide
  obtain rfl := Option.some.inj (hann.symm.trans hrow)
  rfl

/-- The client locks the supplier out, closes his shop and removes an image of his product. -/
theorem not_writesIsolated_client :
    Ordinary 1 market ∧
      ¬ WritesIsolated 1 market
        [.users ⟨none, none⟩ 2 (.update (some { UserData.empty with isActive := some false }) "")] ∧
      ¬ WritesIsolated 1 market [.suppliers ⟨none⟩ 1 (.toggleAcceptOrders 1)] ∧
      ¬ WritesIsolated 1 market
        [.products ⟨none, none, none⟩ 1 (.removeAdditionalImage (some "1"))] := by
  refine ⟨ordinary_market, fun h => ?_, fun h => ?_, fun h => ?_⟩
  · have hkept := h.single.users 2 (by decide)
    have hactive := congrArg (Option.map Account.isActive) hkept
    exact absurd hactive (by decide +kernel)
  · have hkept := h.single.suppliers 1 firm (by decide) (by decide)
    have hactive := congrArg (Option.map SupplierRow.isActive) hkept
    exact absurd hactive (by decide +kernel)
  · have hkept := h.single.images 1 firmCup (by decide) ⟨firm, by decide, by decide⟩ 1
      ⟨1, some "products/additional/cup.jpg", none, none, none, 0⟩ rfl
    exact absurd (hkept.mpr (by decide)) (by decide +kernel)

/-- The client changes his phone number, and tries to change an avatar that is not his. -/
theorem writesIsolated_iff_phone :
    WritesIsolated 1 market
        [.users ⟨none, none⟩ 1 (.update (some { UserData.empty with phone := some "123" }) ""),
         .users ⟨none, none⟩ 2 (.uploadAvatar (some "avatars/ann.jpg") "")] ↔
      Guarded (exec 1) (SparesOthers 1) market
        [.users ⟨none, none⟩ 1 (.update (some { UserData.empty with phone := some "123" }) ""),
         .users ⟨none, none⟩ 2 (.uploadAvatar (some "avatars/ann.jpg") "")] :=
  writesIsolated_iff ordinary_market _

end Market

end OrdersBackend
