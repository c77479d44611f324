import OrdersBackend.Market.Pictures

/-!
# Requests that leave an image

Which requests leave the image of a row where it is, by their actions: those that do not get as
far as a write, and those whose write is to another row, to other columns or of the same file.
A deletion leaves the image when its cascade does not collect the row.  `leavesImage_iff` says
that these are all.
-/

namespace OrdersBackend

open Framework Tx Market

namespace MediaTask

/-- The deletion of `doomed` takes the row along. -/
def Collected (task : MediaTask) (doomed : Doomed) (db : MarketDb) : Prop :=
  match task with
  | userAvatar user => doomed.users user
  | productImage product => db.collectsProduct doomed product
  | additionalImage image =>
    ∃ row, db.images.lookup image = some row ∧ db.collectsProduct doomed row.product

/-- A column that an update names gets the same file again. -/
def SameFile (file : Option (Option String)) (name : String) : Prop :=
  ∀ value, file = some value → value = some name

/-- What the actions on a user write. -/
def SparedByUsers (task : MediaTask) (name : String) (db : MarketDb) (user : ℕ)
    (account : Account) (pk : ℕ) (row : Account) : UserAction → Prop
  | .update body code =>
    ∀ data, body = some data → UserSerializer.errors pk db data = [] →
      db.UserFits pk ((row.withData data).saved code) →
        task = userAvatar pk → SameFile data.avatar name
  | .destroy => ¬ db.Protected (.user pk) → ¬ task.Collected (.user pk) db
  | .uploadAvatar file code =>
    pk = user ∨ account.isStaff → ∀ stored, file = some stored →
      db.UserFits pk ((row.withAvatar stored).saved code) → task = userAvatar pk → stored = name
  | .deleteAvatar code =>
    pk = user ∨ account.isStaff → row.avatar.isSome →
      db.UserFits pk (row.withoutAvatar.saved code) → task ≠ userAvatar pk

/-- Those on a supplier write no image; its deletion takes its products along. -/
def SparedBySuppliers (task : MediaTask) (db : MarketDb) (pk : ℕ) : SupplierAction → Prop
  | .update _ _ | .toggleAcceptOrders _ => True
  | .destroy => ¬ db.Protected (.supplier pk) → ¬ task.Collected (.supplier pk) db

/-- What the actions on a product write. -/
def SparedByProducts (task : MediaTask) (name : String) (db : MarketDb) (user : ℕ)
    (account : Account) (pk : ℕ) (row : StoredProduct) : ProductAction → Prop
  | .update body _ =>
    ∀ data, body = some data → ProductSerializer.errors pk db data = [] →
      task = productImage pk → SameFile data.image name
  | .destroy => ¬ db.Protected (.product pk) → ¬ task.Collected (.product pk) db
  | .uploadImage file _ =>
    db.ownerOf row = some user ∨ account.isStaff → ∀ stored, file = some stored →
      task = productImage pk → stored = name
  | .addAdditionalImage _ _ => True
  | .removeAdditionalImage imageId =>
    ∀ text, imageId = some text → text ≠ "" →
      ∀ image, ProductViewSet.imageOf db pk text = .ok (some image) → task ≠ additionalImage image

end MediaTask

/-- The request is refused, or its action leaves the image of the row. -/
def MemberEvent.SparesImage (task : MediaTask) (name : String) (db : MarketDb) :
    MemberEvent → Prop
  | .register _ _ _ | .createUser _ _ | .createProduct _ _ _ => True
  | .send user (.users query pk action) =>
    ∀ account, authenticate db user = some account →
      ∀ row, UserViewSet.getObject query pk db = some row →
        task.SparedByUsers name db user account pk row action
  | .send user (.suppliers query pk action) =>
    ∀ account, authenticate db user = some account →
      ∀ row, SupplierViewSet.getObject query pk db = some row →
        task.SparedBySuppliers db pk action
  | .send user (.products query pk action) =>
    ∀ account, authenticate db user = some account →
      ∀ row, ProductViewSet.getObject user account query pk db = some row →
        task.SparedByProducts name db user account pk row action

namespace MediaTask

variable {task : MediaTask} {name : String} {db : MarketDb}

/-! ## Single writes -/

lemma has_setUser_iff (h : task.Has name db) {pk : ℕ} {row : Account}
    (hfits : db.UserFits pk row) :
    task.Has name (db.setUser pk row hfits) ↔ (task = userAvatar pk → row.avatar = some name) := by
  rcases task with user | _ | _
  · obtain ⟨old, hold, havatar⟩ := h
    by_cases hpk : user = pk
    · subst hpk
      have hnew : (db.users.update user row).lookup user = some row :=
        Table.lookup_update_self hold row
      exact ⟨fun ⟨r, hr, himage⟩ _ => Option.some.inj (hnew.symm.trans hr) ▸ himage,
        fun himage => ⟨row, hnew, himage rfl⟩⟩
    · refine iff_of_true ⟨old, ?_, havatar⟩ fun heq => absurd (userAvatar.inj heq) hpk
      exact (Table.lookup_update_of_ne db.users row hpk).trans hold
  · exact iff_of_true h fun heq => nomatch heq
  · exact iff_of_true h fun heq => nomatch heq

lemma has_setProduct_iff (h : task.Has name db) {pk : ℕ} {row : StoredProduct}
    (hfits : db.ProductFits pk row) :
    task.Has name (db.setProduct pk row hfits) ↔
      (task = productImage pk → row.image = some name) := by
  rcases task with _ | product | _
  · exact iff_of_true h fun heq => nomatch heq
  · obtain ⟨old, hold, hcolumn⟩ := h
    by_cases hpk : product = pk
    · subst hpk
      have hnew : (db.products.update product row).lookup product = some row :=
        Table.lookup_update_self hold row
      exact ⟨fun ⟨r, hr, himage⟩ _ => Option.some.inj (hnew.symm.trans hr) ▸ himage,
        fun himage => ⟨row, hnew, himage rfl⟩⟩
    · refine iff_of_true ⟨old, ?_, hcolumn⟩ fun heq => absurd (productImage.inj heq) hpk
      exact (Table.lookup_update_of_ne db.products row hpk).trans hold
  · exact iff_of_true h fun heq => nomatch heq

lemma has_addUser (h : task.Has name db) {row : Account}
    (hfits : db.UserFits db.users.nextId row) : task.Has name (db.addUser row hfits) := by
  rcases task with user | _ | _
  · obtain ⟨old, hold, havatar⟩ := h
    exact ⟨old, Table.lookup_insert_of_some hold row, havatar⟩
  · exact h
  · exact h

lemma has_addProduct (h : task.Has name db) {row : StoredProduct}
    (hfits : db.ProductFits db.products.nextId row) :
    task.Has name (db.addProduct row hfits) := by
  rcases task with _ | product | _
  · exact h
  · obtain ⟨old, hold, hcolumn⟩ := h
    exact ⟨old, Table.lookup_insert_of_some hold row, hcolumn⟩
  · exact h

lemma has_addImage (h : task.Has name db) {row : ProductImage}
    (hthere : (db.products.lookup row.product).isSome) :
    task.Has name (db.addImage row hthere) := by
  rcases task with _ | _ | image
  · exact h
  · exact h
  · obtain ⟨old, hold, hcolumn⟩ := h
    exact ⟨old, Table.lookup_insert_of_some hold row, hcolumn⟩

/-- A row outlives a deletion that does not collect it. -/
lemma find_erase_iff {doomed : Doomed} (hfree : ¬ db.Protected doomed) (row : task.Row) :
    task.find (db.erase doomed hfree) = some row ↔
      task.find db = some row ∧ ¬ task.Collected doomed db := by
  rcases task with user | product | image
  · have hiff : ∀ row, (db.users.filter fun id => !doomed.users id).lookup user = some row ↔
        db.users.lookup user = some row ∧ (!doomed.users user) = true := fun row =>
      Table.lookup_filter_eq_some
    exact (hiff row).trans (and_congr_right fun _ => by simp [Collected])
  · have hiff : ∀ row, (db.products.filter fun id =>
        !db.collectsProduct doomed id).lookup product = some row ↔
        db.products.lookup product = some row ∧ (!db.collectsProduct doomed product) = true :=
      fun row => Table.lookup_filter_eq_some
    exact (hiff row).trans (and_congr_right fun _ => by simp [Collected])
  · have hiff : ∀ row, (db.images.restrict fun i =>
        !db.collectsProduct doomed i.product).lookup image = some row ↔
        db.images.lookup image = some row ∧ (!db.collectsProduct doomed row.product) = true :=
      fun row => Table.lookup_restrict_eq_some
    refine (hiff row).trans (and_congr_right fun hrow => ?_)
    -- the row of an additional image goes with its product
    rw [Bool.not_eq_true', ← Bool.not_eq_true]
    refine not_congr ⟨fun hcollects => ⟨row, hrow, hcollects⟩, ?_⟩
    rintro ⟨row', hrow', hcollects⟩
    rwa [Option.some.inj (hrow'.symm.trans hrow)] at hcollects

lemma has_erase_iff (h : task.Has name db) {doomed : Doomed} (hfree : ¬ db.Protected doomed) :
    task.Has name (db.erase doomed hfree) ↔ ¬ task.Collected doomed db := by
  obtain ⟨old, hold, hcolumn⟩ := h
  unfold Has
  simp only [find_erase_iff hfree]
  constructor
  · rintro ⟨row, ⟨-, hkept⟩, -⟩
    exact hkept
  · exact fun hkept => ⟨old, ⟨hold, hkept⟩, hcolumn⟩

lemma has_deleteImage_iff (h : task.Has name db) (image : ℕ) :
    task.Has name (MarketDb.deleteImage image db).2 ↔ task ≠ additionalImage image := by
  rcases task with _ | _ | image'
  · exact iff_of_true h fun heq => nomatch heq
  · exact iff_of_true h fun heq => nomatch heq
  · obtain ⟨old, hold, hcolumn⟩ := h
    have hiff : ∀ row, (db.images.filter (· ≠ image)).lookup image' = some row ↔
        db.images.lookup image' = some row ∧ decide (image' ≠ image) = true := fun row =>
      Table.lookup_filter_eq_some
    constructor
    · rintro ⟨row, hrow, -⟩ heq
      exact of_decide_eq_true ((hiff row).mp hrow).2 (additionalImage.inj heq)
    · intro hne
      have hother : image' ≠ image := fun heq => hne (congrArg additionalImage heq)
      exact ⟨old, (hiff old).mpr ⟨hold, decide_eq_true hother⟩, hcolumn⟩

/-- A column whose row had the file keeps it when the update names no other one. -/
lemma getD_eq_iff {file : Option (Option String)} {old : Option String} (h : old = some name) :
    file.getD old = some name ↔ SameFile file name := by
  unfold SameFile
  rcases file with _ | value
  · exact iff_of_true h fun value heq => nomatch heq
  · simp

/-! ## Requests -/

variable {normalizeUsername normalizeEmail : String → String} {user pk : ℕ} {account : Account}

lemma has_users_iff (h : task.Has name db) (query : UserQuery) (action : UserAction) :
    task.Has name (handleUsers user account query pk action db).2 ↔
      ∀ row, UserViewSet.getObject query pk db = some row →
        task.SparedByUsers name db user account pk row action := by
  rcases action with ⟨body, code⟩ | _ | ⟨file, code⟩ | code
  · refine (updateUser_iff (P := task.Has name) h query pk body code).trans ?_
    refine forall₂_congr fun row hrow => forall₂_congr fun data _ => forall₂_congr fun _ hfits => ?_
    rw [has_setUser_iff h hfits, avatar_saved]
    refine forall_congr' fun heq => ?_
    subst heq
    obtain ⟨old, hold, havatar⟩ := h
    have hsame : row.avatar = some name := by
      rwa [Option.some.inj ((lookup_of_filter hrow).symm.trans hold)]
    exact getD_eq_iff hsame
  · exact (destroyUser_iff (P := task.Has name) h query pk).trans
      (forall₂_congr fun _ _ => forall_congr' fun hfree => has_erase_iff h hfree)
  · refine (uploadAvatar_iff (P := task.Has name) h query pk file code).trans ?_
    refine forall₂_congr fun row _ => forall_congr' fun _ => forall₂_congr fun stored _ =>
      forall_congr' fun hfits => ?_
    rw [has_setUser_iff h hfits, avatar_saved]
    exact forall_congr' fun _ => Option.some_inj
  · refine (deleteAvatar_iff (P := task.Has name) h query pk code).trans ?_
    refine forall₂_congr fun row _ => forall_congr' fun _ => forall₂_congr fun _ hfits => ?_
    rw [has_setUser_iff h hfits, avatar_saved]
    exact forall_congr' fun _ => iff_of_false (fun hnone => nomatch hnone) id

lemma has_suppliers_iff (h : task.Has name db) (query : SupplierQuery)
    (action : SupplierAction) :
    task.Has name (handleSuppliers query pk action db).2 ↔
      ∀ row, SupplierViewSet.getObject query pk db = some row →
        task.SparedBySuppliers db pk action := by
  have hset : ∀ (row : SupplierRow) hfits, task.Has name (db.setSupplier pk row hfits) := by
    intro row hfits
    rcases task with _ | _ | _ <;> exact h
  rcases action with ⟨body, now⟩ | _ | now
  · refine iff_of_true ?_ fun _ _ => trivial
    exact (updateSupplier_iff (P := task.Has name) h query pk body now).mpr
      fun row _ data _ _ => hset _
  · exact (destroySupplier_iff (P := task.Has name) h query pk).trans
      (forall₂_congr fun _ _ => forall_congr' fun hfree => has_erase_iff h hfree)
  · refine iff_of_true ?_ fun _ _ => trivial
    exact (toggleAcceptOrders_iff (P := task.Has name) h query pk now).mpr fun row _ => hset _

lemma has_products_iff (h : task.Has name db) (query : ProductQuery) (action : ProductAction) :
    task.Has name (handleProducts user account query pk action db).2 ↔
      ∀ row, ProductViewSet.getObject user account query pk db = some row →
        task.SparedByProducts name db user account pk row action := by
  rcases action with ⟨body, now⟩ | _ | ⟨file, now⟩ | ⟨file, sortOrder⟩ | imageId
  · refine (updateProduct_iff (P := task.Has name) h query pk body now).trans ?_
    refine forall₂_congr fun row hobject => forall₂_congr fun data _ =>
      forall_congr' fun hvalid => ?_
    have hrow := lookup_of_filter hobject
    rw [forall_prop_of_true (productFits_withData hrow hvalid now), has_setProduct_iff h]
    refine forall_congr' fun heq => ?_
    -- the form of the product may bring an image of its own
    subst heq
    obtain ⟨old, hold, hcolumn⟩ := h
    have hsame : row.image = some name := by
      rwa [Option.some.inj (hrow.symm.trans hold)]
    exact getD_eq_iff hsame
  · exact (destroyProduct_iff (P := task.Has name) h query pk).trans
      (forall₂_congr fun _ _ => forall_congr' fun hfree => has_erase_iff h hfree)
  · refine (uploadImage_iff (P := task.Has name) h query pk file now).trans ?_
    refine forall₂_congr fun row hobject => forall_congr' fun _ => forall₂_congr fun stored _ => ?_
    rw [forall_prop_of_true (productFits_withImage (lookup_of_filter hobject) stored now),
      has_setProduct_iff h]
    exact forall_congr' fun _ => Option.some_inj
  · refine iff_of_true ?_ fun _ _ => trivial
    exact (addAdditionalImage_iff (P := task.Has name) h query pk file sortOrder).mpr
      fun _ _ _ _ _ _ _ hthere => has_addImage h hthere
  · refine (removeAdditionalImage_iff (P := task.Has name) h query pk imageId).trans ?_
    exact forall₂_congr fun _ _ => forall₂_congr fun _ _ => forall₂_congr fun _ image =>
      forall_congr' fun _ => has_deleteImage_iff h image

/-- **Which requests leave an image**: exactly those that are refused or whose action spares it. -/
theorem leavesImage_iff (h : task.Has name db) (event : MemberEvent) :
    event.LeavesImage normalizeUsername normalizeEmail task name db ↔
      event.SparesImage task name db := by
  rcases event with ⟨request, salt, now⟩ | ⟨user, body⟩ | ⟨user, body, now⟩ | ⟨user, request⟩
  · -- a registration adds a row, or none
    refine iff_of_true ?_ trivial
    rcases task with user | _ | _
    · obtain ⟨old, hold, havatar⟩ := h
      refine ⟨old, ?_, havatar⟩
      show (Market.register normalizeUsername normalizeEmail request.code₁ request.code₂
        request.body now db).2.users.lookup user = some old
      rcases users_register normalizeUsername normalizeEmail request.code₁ request.code₂
        request.body now db with husers | ⟨new, husers⟩ <;> rw [husers]
      · exact hold
      · exact Table.lookup_insert_of_some hold _
    · exact h
    · exact h
  · refine iff_of_true ((asUser_iff (P := task.Has name) h).mpr fun _ _ => ?_) trivial
    exact (UserViewSet.createUser_iff (P := task.Has name) h body).mpr
      fun _ _ _ hfits => has_addUser h hfits
  · refine iff_of_true ((asUser_iff (P := task.Has name) h).mpr fun _ _ => ?_) trivial
    exact (create_iff (P := task.Has name) h body now).mpr fun _ _ _ hfits => has_addProduct h hfits
  · rcases request with ⟨query, pk, action⟩ | ⟨query, pk, action⟩ | ⟨query, pk, action⟩
    · exact (asUser_iff (P := task.Has name) h).trans
        (forall₂_congr fun _ _ => has_users_iff h query action)
    · exact (asUser_iff (P := task.Has name) h).trans
        (forall₂_congr fun _ _ => has_suppliers_iff h query action)
    · exact (asUser_iff (P := task.Has name) h).trans
        (forall₂_congr fun _ _ => has_products_iff h query action)

end MediaTask

end OrdersBackend
