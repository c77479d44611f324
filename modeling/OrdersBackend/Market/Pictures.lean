import OrdersBackend.Market.Tasks

/-!
# Thumbnails that belong to their images

An upload replaces the image of a row and leaves the old thumbnails, until the task it sends for
has made new ones.  Tasks of one row may overlap, and a late one saves the image that it has
read before.  Each save still leaves an image with its own thumbnails, so that once nothing is
left to do the thumbnails of a row belong to its image (`thumbnails_shown`), provided that
files come by the uploads only: `PUT`, `PATCH` and `POST` store a file and send nothing.

The image itself may be lost: a task that read the row before an upload puts the old image back
when it saves.  `uploadStays_iff` says that tasks take an image away in this way only, and
`uploadStays_of_fresh` that none of them does where no old copy is under way.

`shows` tells of a stored thumbnail the image of which it was made; a file keeps its name.
-/

namespace OrdersBackend

open Framework Tx Market

variable (shows : String → String)

namespace MediaTask

/-- The thumbnails of the row were made of its image. -/
def Shown (task : MediaTask) (row : task.Row) : Prop :=
  ∀ image, task.image row = some image →
    ∀ column ∈ task.columns row, ∃ name, column = some name ∧ shows name = image

/-- The row of the task, if it is there, has the thumbnails of its image. -/
def InOrder (task : MediaTask) (db : MarketDb) : Prop :=
  ∀ row, task.find db = some row → task.Shown shows row

/-- `create_thumbnail` has succeeded for every size. -/
def MakesAll (task : MediaTask) (image : String) (made : Thumbnails) : Prop :=
  ∀ thumbnail ∈ task.sizes made, ∃ name, thumbnail = some name ∧ shows name = image

instance (task : MediaTask) (image : String) (made : Thumbnails) :
    Decidable (task.MakesAll shows image made) :=
  inferInstanceAs (Decidable
    (∀ thumbnail ∈ task.sizes made, ∃ name ∈ thumbnail, shows name = image))

end MediaTask

/-! ## What a task saves -/

/-- `User.save` leaves the thumbnails alone. -/
lemma Account.thumbnails_saved (row : Account) (made : Thumbnails) (code : String) :
    [((row.withThumbnails made).saved code).avatarSmall,
      ((row.withThumbnails made).saved code).avatarMedium,
      ((row.withThumbnails made).saved code).avatarLarge] =
      [made.small.or row.avatarSmall, made.medium.or row.avatarMedium,
        made.large.or row.avatarLarge] := by
  unfold saved
  split <;> rfl

namespace MediaTask

variable {shows} {task : MediaTask} {db : MarketDb}

/-- The image is the one that was read. -/
lemma image_saved (task : MediaTask) (row : task.Row) (made : Made) :
    task.image (task.saved row made) = task.image row := by
  rcases task with _ | _ | _
  · exact avatar_saved _ made.code
  · rfl
  · rfl

/-- A thumbnail that was made replaces the old one. -/
lemma columns_saved (task : MediaTask) (row : task.Row) (made : Made) :
    task.columns (task.saved row made) =
      List.zipWith Option.or (task.sizes made.thumbnails) (task.columns row) := by
  rcases task with _ | _ | _
  · exact Account.thumbnails_saved row made.thumbnails made.code
  · rfl
  · rfl

/-- A save of a task that has made all thumbnails leaves an image with its thumbnails. -/
lemma shown_saved {row : task.Row} {made : Made}
    (h : ∀ image, task.image row = some image → task.MakesAll shows image made.thumbnails) :
    task.Shown shows (task.saved row made) := by
  intro image himage column hcolumn
  rw [image_saved] at himage
  rw [columns_saved, ← List.map_uncurry_zip_eq_zipWith] at hcolumn
  obtain ⟨⟨thumbnail, old⟩, hmem, rfl⟩ := List.mem_map.mp hcolumn
  obtain ⟨name, rfl, hname⟩ := h image himage thumbnail (List.of_mem_zip hmem).1
  exact ⟨name, rfl, hname⟩

/-! ## What requests leave -/

lemma inOrder_setUser (h : task.InOrder shows db) {pk : ℕ} {row : Account}
    (hfits : db.UserFits pk row)
    (hrow : task = userAvatar pk → (userAvatar pk).Shown shows row) :
    task.InOrder shows (db.setUser pk row hfits) := by
  rcases task with user | _ | _
  · intro r hr
    rcases Table.lookup_update_cases hr with ⟨rfl, rfl⟩ | ⟨-, hr⟩
    · exact hrow rfl
    · exact h r hr
  · exact h
  · exact h

lemma inOrder_setProduct (h : task.InOrder shows db) {pk : ℕ} {row : StoredProduct}
    (hfits : db.ProductFits pk row)
    (hrow : task = productImage pk → (productImage pk).Shown shows row) :
    task.InOrder shows (db.setProduct pk row hfits) := by
  rcases task with _ | product | _
  · exact h
  · intro r hr
    rcases Table.lookup_update_cases hr with ⟨rfl, rfl⟩ | ⟨-, hr⟩
    · exact hrow rfl
    · exact h r hr
  · exact h

lemma inOrder_setSupplier (h : task.InOrder shows db) {pk : ℕ} {row : SupplierRow}
    (hfits : db.SupplierFits pk row) : task.InOrder shows (db.setSupplier pk row hfits) := by
  rcases task with _ | _ | _ <;> exact h

/-- A row without an image is in order. -/
lemma shown_of_no_image {row : task.Row} (h : task.image row = none) : task.Shown shows row := by
  intro image himage
  rw [h] at himage
  cases himage

lemma inOrder_addUser (h : task.InOrder shows db) {row : Account} (hrow : row.avatar = none)
    (hfits : db.UserFits db.users.nextId row) : task.InOrder shows (db.addUser row hfits) := by
  rcases task with user | _ | _
  · intro r hr
    rcases Table.lookup_insert_cases hr with ⟨rfl, rfl⟩ | ⟨-, hr⟩
    · exact shown_of_no_image hrow
    · exact h r hr
  · exact h
  · exact h

lemma inOrder_addProduct (h : task.InOrder shows db) {row : StoredProduct}
    (hrow : row.image = none) (hfits : db.ProductFits db.products.nextId row) :
    task.InOrder shows (db.addProduct row hfits) := by
  rcases task with _ | product | _
  · exact h
  · intro r hr
    rcases Table.lookup_insert_cases hr with ⟨rfl, rfl⟩ | ⟨-, hr⟩
    · exact shown_of_no_image hrow
    · exact h r hr
  · exact h

lemma inOrder_addImage (h : task.InOrder shows db)
    (hne : task ≠ additionalImage db.images.nextId) {row : ProductImage}
    (hthere : (db.products.lookup row.product).isSome) :
    task.InOrder shows (db.addImage row hthere) := by
  rcases task with _ | _ | image
  · exact h
  · exact h
  · intro r hr
    rcases Table.lookup_insert_cases hr with ⟨rfl, -⟩ | ⟨-, hr⟩
    · exact absurd rfl hne
    · exact h r hr

lemma inOrder_erase (h : task.InOrder shows db) {doomed : Doomed} (hfree : ¬ db.Protected doomed) :
    task.InOrder shows (db.erase doomed hfree) := by
  rcases task with _ | _ | _
  · exact fun r hr => h r (Table.lookup_filter_eq_some.mp hr).1
  · exact fun r hr => h r (Table.lookup_filter_eq_some.mp hr).1
  · exact fun r hr => h r (Table.lookup_filter_eq_some.mp hr).1

lemma inOrder_deleteImage (h : task.InOrder shows db) (image : ℕ) :
    task.InOrder shows (MarketDb.deleteImage image db).2 := by
  rcases task with _ | _ | _
  · exact h
  · exact h
  · exact fun r hr => h r (Table.lookup_filter_eq_some.mp hr).1

end MediaTask

/-! ## Uploads and their messages -/

section

variable {db : MarketDb} {user pk : ℕ} {account : Account}

/-- An action leaves the state or ends with this kind of answer. -/
def Ends (good : MarketAnswer → Prop) (m : Tx MarketDb PyErr MarketAnswer) (db : MarketDb) : Prop :=
  (m db).2 = db ∨ ∃ answer, (m db).1 = .ok answer ∧ good answer

variable {good : MarketAnswer → Prop}

lemma ends_asUser {action : Account → Tx MarketDb PyErr MarketAnswer}
    (h : ∀ account, Ends good (action account) db) : Ends good (asUser user action) db := by
  unfold Ends asUser
  rw [bind_of_ok (get_apply db)]
  rcases authenticate db user with _ | account
  · exact .inl rfl
  · exact h account

lemma ends_withObject {ρ : Type} {getObject : MarketDb → Option ρ}
    {action : ρ → Tx MarketDb PyErr MarketAnswer} (h : ∀ row, Ends good (action row) db) :
    Ends good (withObject getObject action) db := by
  unfold Ends withObject
  rw [bind_of_ok (get_apply db)]
  rcases getObject db with _ | row
  · exact .inl rfl
  · exact h row

lemma ends_ite {c : Prop} [Decidable c] {refused m : Tx MarketDb PyErr MarketAnswer}
    (hrefused : (refused db).2 = db) (h : Ends good m db) :
    Ends good (if c then refused else m) db := by
  by_cases hc : c
  · rw [if_pos hc]
    exact .inl hrefused
  · rw [if_neg hc]
    exact h

/-- A write that raises when it does not fit, and the answer after it. -/
lemma ends_write {α : Type} {fits : Prop} [Decidable fits] {set : fits → MarketDb} {a : α}
    {e : PyErr} {m : Tx MarketDb PyErr α} {answer : α → MarketAnswer}
    (hm : m db = if hfits : fits then (.ok a, set hfits) else (.error e, db))
    (hanswer : good (answer a)) : Ends good (m >>= fun a => pure (answer a)) db := by
  by_cases hfits : fits
  · rw [dif_pos hfits] at hm
    refine .inr ⟨answer a, ?_, hanswer⟩
    rw [bind_of_ok hm]
    rfl
  · rw [dif_neg hfits] at hm
    refine .inl ?_
    rw [bind_of_error hm]

lemma ends_uploadAvatar (query : UserQuery) (file : Option String) (code : String) :
    Ends (fun answer => ∃ text name, answer = .uploaded text name)
      (UserViewSet.uploadAvatar user account query pk file code) db := by
  refine ends_withObject fun row => ends_ite rfl ?_
  rcases file with _ | file
  · exact .inl rfl
  · exact ends_write rfl ⟨_, _, rfl⟩

lemma ends_uploadImage (query : ProductQuery) (file : Option String) (now : ℕ) :
    Ends (fun answer => ∃ text name, answer = .uploaded text name)
      (ProductViewSet.uploadImage user account query pk file now) db := by
  refine ends_withObject fun row => ?_
  unfold Ends
  rw [bind_of_ok (get_apply db)]
  refine ends_ite rfl ?_
  rcases file with _ | file
  · exact .inl rfl
  · exact ends_write rfl ⟨_, _, rfl⟩

lemma ends_addAdditionalImage (query : ProductQuery) (file sortOrder : Option String) :
    Ends (fun answer => answer = .created db.images.nextId)
      (ProductViewSet.addAdditionalImage user account query pk file sortOrder) db := by
  refine ends_withObject fun row => ?_
  unfold Ends
  rw [bind_of_ok (get_apply db)]
  refine ends_ite rfl ?_
  rcases file with _ | file
  · exact .inl rfl
  · rcases ProductViewSet.sortOrderColumn sortOrder with e | n
    · exact .inl rfl
    · exact ends_write rfl rfl

end

/-! ## Requests -/

/-- A body names no new file, and none of the columns of thumbnails. -/
def ProductData.BringsNoFile (data : ProductData Price) : Prop :=
  (∀ name, data.image ≠ some (some name)) ∧ data.thumbnail = none ∧ data.small = none ∧
    data.medium = none ∧ data.large = none

/-- Files come by the three uploads only. -/
def MemberEvent.BringsNoFile : MemberEvent → Prop
  | .createUser _ body => ∀ data, body = some data → data.1.avatar.getD none = none
  | .createProduct _ body _ => ∀ data, body = some data → data.image.getD none = none
  | .send _ (.users _ _ (.update body _)) =>
    ∀ data, body = some data → ∀ name, data.avatar ≠ some (some name)
  | .send _ (.products _ _ (.update body _)) => ∀ data, body = some data → data.BringsNoFile
  | .send _ _ | .register _ _ _ => True

namespace MediaTask

variable {shows} {task : MediaTask} {db : MarketDb}

lemma shown_withData {row : Account} {data : UserData} {pk : ℕ}
    (h : (userAvatar pk).Shown shows row) (hfile : ∀ name, data.avatar ≠ some (some name))
    (code : String) : (userAvatar pk).Shown shows ((row.withData data).saved code) := by
  have hthumbnails : (userAvatar pk).columns ((row.withData data).saved code) =
      (userAvatar pk).columns row := by
    show [_, _, _] = _
    unfold Account.saved
    split <;> rfl
  intro image himage
  rw [hthumbnails]
  refine h image ?_
  have havatar : ((row.withData data).saved code).avatar = some image := himage
  rw [avatar_saved] at havatar
  show row.avatar = some image
  rcases hdata : data.avatar with _ | _ | name
  · simpa only [Account.withData, hdata, Option.getD_none] using havatar
  · simp [Account.withData, hdata] at havatar
  · exact absurd hdata (hfile name)

lemma shown_withProductData {row : StoredProduct} {data : ProductData Price} {pk : ℕ}
    (h : (productImage pk).Shown shows row) (hfile : data.BringsNoFile) (now : ℕ) :
    (productImage pk).Shown shows (row.withData data now) := by
  obtain ⟨himages, hthumbnail, hsmall, hmedium, hlarge⟩ := hfile
  have hthumbnails : (productImage pk).columns (row.withData data now) =
      (productImage pk).columns row := by
    show [_, _, _, _] = _
    simp only [StoredProduct.withData, ProductRow.withData, hthumbnail, hsmall, hmedium, hlarge,
      Option.getD_none]
    rfl
  intro image himage
  rw [hthumbnails]
  refine h image ?_
  have hcolumn : (row.withData data now).image = some image := himage
  show row.image = some image
  rcases hdata : data.image with _ | _ | name
  · simpa only [StoredProduct.withData, ProductRow.withData, hdata, Option.getD_none] using hcolumn
  · simp [StoredProduct.withData, ProductRow.withData, hdata] at hcolumn
  · exact absurd hdata (himages name)

/-- A request that leaves the state or ends with an answer for which it sends. -/
lemma inOrder_or_sent (h : task.InOrder shows db) {user : ℕ} {request : MarketRequest}
    {good : MarketAnswer → Prop} (hends : Ends good (Market.handle user request) db)
    (hsent : ∀ answer, good answer → (Market.handle user request db).1 = .ok answer →
      task ∈ MemberEvent.sent (.send user request) db) :
    task.InOrder shows (Market.exec user request db) ∨
      task ∈ MemberEvent.sent (.send user request) db := by
  rcases hends with hsame | ⟨answer, hanswer, hgood⟩
  · left
    unfold Market.exec
    rw [hsame]
    exact h
  · exact .inr (hsent answer hgood hanswer)

/-- A request to the users keeps the order, or sends for the task that will restore it. -/
lemma inOrder_users (h : task.InOrder shows db) (user : ℕ) (query : UserQuery) (pk : ℕ)
    (action : UserAction)
    (hfile : MemberEvent.BringsNoFile (.send user (.users query pk action))) :
    task.InOrder shows (Market.exec user (.users query pk action) db) ∨
      task ∈ MemberEvent.sent (.send user (.users query pk action)) db := by
  rcases action with ⟨body, code⟩ | _ | ⟨file, code⟩ | code
  · refine .inl ((asUser_iff (P := task.InOrder shows) h).mpr fun account _ => ?_)
    refine (updateUser_iff (P := task.InOrder shows) h query pk body code).mpr
      fun row hrow data hdata _ hfits => inOrder_setUser h hfits ?_
    rintro rfl
    exact shown_withData (h row (lookup_of_filter hrow)) (hfile data hdata) code
  · refine .inl ((asUser_iff (P := task.InOrder shows) h).mpr fun account _ => ?_)
    exact (destroyUser_iff (P := task.InOrder shows) h query pk).mpr fun _ _ => inOrder_erase h
  · by_cases hself : task = userAvatar pk
    · refine inOrder_or_sent h (ends_asUser fun account => ends_uploadAvatar query file code) ?_
      rintro - ⟨text, name, rfl⟩ hanswer
      simp only [MemberEvent.sent, hanswer, hself, List.mem_singleton]
    · refine .inl ((asUser_iff (P := task.InOrder shows) h).mpr fun account _ => ?_)
      exact (uploadAvatar_iff (P := task.InOrder shows) h query pk file code).mpr
        fun _ _ _ _ _ hfits => inOrder_setUser h hfits fun heq => absurd heq hself
  · refine .inl ((asUser_iff (P := task.InOrder shows) h).mpr fun account _ => ?_)
    refine (deleteAvatar_iff (P := task.InOrder shows) h query pk code).mpr
      fun row _ _ _ hfits => inOrder_setUser h hfits fun _ => shown_of_no_image ?_
    exact avatar_saved _ code

lemma inOrder_suppliers (h : task.InOrder shows db) (user : ℕ) (query : SupplierQuery) (pk : ℕ)
    (action : SupplierAction) :
    task.InOrder shows (Market.exec user (.suppliers query pk action) db) := by
  refine (asUser_iff (P := task.InOrder shows) h).mpr fun account _ => ?_
  rcases action with ⟨body, now⟩ | _ | now
  · exact (updateSupplier_iff (P := task.InOrder shows) h query pk body now).mpr
      fun _ _ _ _ _ => inOrder_setSupplier h
  · exact (destroySupplier_iff (P := task.InOrder shows) h query pk).mpr
      fun _ _ => inOrder_erase h
  · exact (toggleAcceptOrders_iff (P := task.InOrder shows) h query pk now).mpr
      fun _ _ => inOrder_setSupplier h

lemma inOrder_products (h : task.InOrder shows db) (user : ℕ) (query : ProductQuery) (pk : ℕ)
    (action : ProductAction)
    (hfile : MemberEvent.BringsNoFile (.send user (.products query pk action))) :
    task.InOrder shows (Market.exec user (.products query pk action) db) ∨
      task ∈ MemberEvent.sent (.send user (.products query pk action)) db := by
  rcases action with ⟨body, now⟩ | _ | ⟨file, now⟩ | ⟨file, sortOrder⟩ | imageId
  · refine .inl ((asUser_iff (P := task.InOrder shows) h).mpr fun account _ => ?_)
    refine (updateProduct_iff (P := task.InOrder shows) h query pk body now).mpr
      fun row hrow data hdata _ hfits => inOrder_setProduct h hfits ?_
    rintro rfl
    exact shown_withProductData (h row (lookup_of_filter hrow)) (hfile data hdata) now
  · refine .inl ((asUser_iff (P := task.InOrder shows) h).mpr fun account _ => ?_)
    exact (destroyProduct_iff (P := task.InOrder shows) h query pk).mpr fun _ _ => inOrder_erase h
  · -- an upload for the row of the task sends for the task itself
    by_cases hself : task = productImage pk
    · refine inOrder_or_sent h (ends_asUser fun account => ends_uploadImage query file now) ?_
      rintro - ⟨text, name, rfl⟩ hanswer
      simp only [MemberEvent.sent, hanswer, hself, List.mem_singleton]
    · refine .inl ((asUser_iff (P := task.InOrder shows) h).mpr fun account _ => ?_)
      exact (uploadImage_iff (P := task.InOrder shows) h query pk file now).mpr
        fun _ _ _ _ _ hfits => inOrder_setProduct h hfits fun heq => absurd heq hself
  · by_cases hself : task = additionalImage db.images.nextId
    · refine inOrder_or_sent h
        (ends_asUser fun account => ends_addAdditionalImage query file sortOrder) ?_
      rintro - rfl hanswer
      simp only [MemberEvent.sent, hanswer, hself, List.mem_singleton]
    · refine .inl ((asUser_iff (P := task.InOrder shows) h).mpr fun account _ => ?_)
      exact (addAdditionalImage_iff (P := task.InOrder shows) h query pk file sortOrder).mpr
        fun _ _ _ _ _ _ _ hthere => inOrder_addImage h hself hthere
  · refine .inl ((asUser_iff (P := task.InOrder shows) h).mpr fun account _ => ?_)
    exact (removeAdditionalImage_iff (P := task.InOrder shows) h query pk imageId).mpr
      fun _ _ _ _ _ image _ => inOrder_deleteImage h image

variable {mayRetry : ℕ → Bool} {normalizeUsername normalizeEmail : String → String}

/-- A request keeps the order, or sends for the task that will restore it. -/
lemma inOrder_request (h : task.InOrder shows db) (event : MemberEvent)
    (hfile : event.BringsNoFile) :
    task.InOrder shows (event.execMarket normalizeUsername normalizeEmail db) ∨
      task ∈ event.sent db := by
  rcases event with ⟨request, salt, now⟩ | ⟨user, body⟩ | ⟨user, body, now⟩ | ⟨user, request⟩
  · left
    rcases task with user | _ | _
    · -- a user who registers has no picture
      intro row hrow
      have hlookup : (Market.register normalizeUsername normalizeEmail request.code₁ request.code₂
        request.body now db).2.users.lookup user = some row := hrow
      rcases users_register normalizeUsername normalizeEmail request.code₁ request.code₂
        request.body now db with husers | ⟨new, husers⟩ <;> rw [husers] at hlookup
      · exact h row hlookup
      · rcases Table.lookup_insert_cases hlookup with ⟨rfl, rfl⟩ | ⟨-, hlookup⟩
        · exact shown_of_no_image rfl
        · exact h row hlookup
    · exact h
    · exact h
  · refine .inl ((asUser_iff (P := task.InOrder shows) h).mpr fun _ _ => ?_)
    exact (UserViewSet.createUser_iff (P := task.InOrder shows) h body).mpr
      fun data hdata _ => inOrder_addUser h (hfile data hdata)
  · refine .inl ((asUser_iff (P := task.InOrder shows) h).mpr fun _ _ => ?_)
    exact (create_iff (P := task.InOrder shows) h body now).mpr
      fun data hdata _ => inOrder_addProduct h (hfile data hdata)
  · rcases request with ⟨query, pk, action⟩ | ⟨query, pk, action⟩ | ⟨query, pk, action⟩
    · exact inOrder_users h user query pk action hfile
    · exact .inl (inOrder_suppliers h user query pk action)
    · exact inOrder_products h user query pk action hfile

/-! ## What tasks leave -/

lemma find_of_store {row : task.Row} {db' : MarketDb} (h : task.store row db = some db') :
    task.find db' = some row := by
  rcases task with _ | _ | _ <;>
  · obtain ⟨hfits, hdb⟩ := Option.dite_none_right_eq_some.mp h
    rw [← Option.some.inj hdb]
    exact Table.lookup_put_self (h := hfits.1)

lemma find_of_store_other {other : MediaTask} (hne : other ≠ task) {row : other.Row}
    {db' : MarketDb} (h : other.store row db = some db') : task.find db' = task.find db := by
  rcases other with user | product | image
  · obtain ⟨hfits, hdb⟩ := Option.dite_none_right_eq_some.mp h
    rw [← Option.some.inj hdb]
    rcases task with user' | _ | _
    · exact Table.lookup_put_of_ne (h := hfits.1) fun heq => hne (congrArg userAvatar heq.symm)
    · rfl
    · rfl
  · obtain ⟨hfits, hdb⟩ := Option.dite_none_right_eq_some.mp h
    rw [← Option.some.inj hdb]
    rcases task with _ | product' | _
    · rfl
    · exact Table.lookup_put_of_ne (h := hfits.1) fun heq => hne (congrArg productImage heq.symm)
    · rfl
  · obtain ⟨hfits, hdb⟩ := Option.dite_none_right_eq_some.mp h
    rw [← Option.some.inj hdb]
    rcases task with _ | _ | image'
    · rfl
    · rfl
    · exact Table.lookup_put_of_ne (h := hfits.1) fun heq =>
        hne (congrArg additionalImage heq.symm)

/-- A save with all thumbnails leaves its row in order, whichever copy it saves. -/
lemma inOrder_save {row : task.Row} {made : Made} {db' : MarketDb}
    (h : task.save row made db = some db')
    (hmade : ∀ image, task.image row = some image → task.MakesAll shows image made.thumbnails) :
    task.InOrder shows db' := by
  intro r hr
  rw [find_of_store h] at hr
  rw [← Option.some.inj hr]
  exact shown_saved hmade

/-- Steps that let the tasks of a row do their work: files come by the uploads, a save has all
thumbnails of the image it has read, and what fails may be tried again. -/
def Orderly (mayRetry : ℕ → Bool) (shows : String → String) (task : MediaTask) (s : MediaBroker) :
    JobStep MemberEvent Made → Prop
  | .request event => event.BringsNoFile
  | .start _ => True
  | .save i made => ∀ job, s.underway[i]? = some job → job.message.key = task →
      (∀ image, job.message.key.image job.copy = some image →
        job.message.key.MakesAll shows image made.thumbnails) ∧
      (job.message.key.save job.copy made s.store = none → mayRetry job.message.retries)
  | .raise i => ∀ job, s.underway[i]? = some job → job.message.key = task →
      mayRetry job.message.retries

instance (s : MediaBroker) (i : ℕ) (made : Made) :
    Decidable (Orderly mayRetry shows task s (.save i made)) :=
  inferInstanceAs (Decidable (∀ job ∈ s.underway[i]?, job.message.key = task →
    (∀ image ∈ job.message.key.image job.copy,
      job.message.key.MakesAll shows image made.thumbnails) ∧
    (job.message.key.save job.copy made s.store = none → mayRetry job.message.retries)))

lemma leavesOrder_of_orderly {s : MediaBroker} {step : JobStep MemberEvent Made}
    (h : Orderly mayRetry shows task s step) :
    Jobs.LeavesOrder (tasks mayRetry normalizeUsername normalizeEmail) task (task.InOrder shows)
      s step := by
  rcases step with event | i | ⟨i, made⟩ | i
  · exact fun horder => inOrder_request horder event h
  · rintro ⟨key, retries⟩ - rfl hread row hrow
    have hnone : (key.find s.store).filter (fun row => (key.image row).isSome) = none := hread
    rw [hrow, Option.filter_eq_none_iff] at hnone
    exact shown_of_no_image (Option.not_isSome_iff_eq_none.mp (hnone row rfl))
  · rintro ⟨⟨key, retries⟩, copy⟩ hjob
    refine ⟨fun store hsave => ?_, fun hsave hkey => .inr ((h _ hjob hkey).2 hsave)⟩
    by_cases hkey : key = task
    · subst hkey
      exact fun _ => inOrder_save hsave (h _ hjob rfl).1
    · rintro (heq | horder)
      · exact absurd heq hkey
      · intro row hrow
        rw [find_of_store_other hkey hsave] at hrow
        exact horder row hrow
  · exact fun job hjob hkey => .inr (h job hjob hkey)

end MediaTask

section

variable {mayRetry : ℕ → Bool} {normalizeUsername normalizeEmail : String → String}
  {task : MediaTask} {shows}
  {db : MarketDb}

/-- The image of which each thumbnail of the two avatars was made. -/
def annShows (name : String) : String :=
  if name ∈ ["avatars/small/new_small.jpg", "avatars/medium/new_medium.jpg",
      "avatars/large/new_large.jpg"] then "avatars/new.jpg"
  else "avatars/ann.jpg"

/-- The client uploads an avatar, and another one while the first task makes thumbnails; the
second task overtakes the first. -/
def overtaken : List (JobStep MemberEvent Made) :=
  [.request (.send 1 (.users ⟨none, none⟩ 1 (.uploadAvatar (some "avatars/ann.jpg") ""))),
   .start 0,
   .request (.send 1 (.users ⟨none, none⟩ 1 (.uploadAvatar (some "avatars/new.jpg") ""))),
   .start 0,
   .save 1 ⟨⟨none, some "avatars/small/new_small.jpg", some "avatars/medium/new_medium.jpg",
     some "avatars/large/new_large.jpg"⟩, "", 2⟩,
   .save 0 annMade]

/-- The row is there, with this image. -/
def MediaTask.Has (task : MediaTask) (name : String) (db : MarketDb) : Prop :=
  ∃ row, task.find db = some row ∧ task.image row = some name

instance (task : MediaTask) (name : String) (db : MarketDb) : Decidable (task.Has name db) :=
  inferInstanceAs (Decidable (∃ row ∈ task.find db, task.image row = some name))

/-- A copy of the row with another image. -/
def MediaTask.Outdated (task : MediaTask) (name : String) (key : MediaTask) (copy : key.Row) :
    Prop :=
  key = task ∧ key.image copy ≠ some name

/-- The request leaves the row and its image; by their actions these are the requests of
`leavesImage_iff`. -/
def MemberEvent.LeavesImage (normalizeUsername normalizeEmail : String → String)
    (task : MediaTask) (name : String) (event : MemberEvent) (db : MarketDb) : Prop :=
  task.Has name (event.execMarket normalizeUsername normalizeEmail db)

/-- A task saves the image that it has read. -/
lemma MediaTask.keeps_has (task : MediaTask) (name : String) :
    Jobs.Keeps (tasks mayRetry normalizeUsername normalizeEmail)
      (MemberEvent.LeavesImage normalizeUsername normalizeEmail task name) (task.Outdated name)
      (task.Has name) where
  request := fun _ _ _ => Iff.rfl
  read := by
    rintro key db copy ⟨row, hfind, himage⟩ hread ⟨rfl, hne⟩
    have hcopy : key.find db = some copy := (Option.filter_eq_some_iff.mp hread).1
    obtain rfl := Option.some.inj (hfind.symm.trans hcopy)
    exact hne himage
  save := by
    rintro key copy made db db' hsave ⟨row, hfind, himage⟩
    -- a task of another row does not write this one
    by_cases hkey : key = task
    · subst hkey
      have hsaved := find_of_store hsave
      constructor
      · intro hfresh
        refine ⟨_, hsaved, ?_⟩
        rw [image_saved]
        exact not_not.mp fun hne => hfresh ⟨rfl, hne⟩
      · rintro ⟨row', hfind', himage'⟩ ⟨-, hne⟩
        obtain rfl := Option.some.inj (hsaved.symm.trans hfind')
        rw [image_saved] at himage'
        exact hne himage'
    · refine iff_of_true (fun houtdated => hkey houtdated.1) ⟨row, ?_, himage⟩
      rw [find_of_store_other hkey hsave]
      exact hfind

variable {name : String} {s : MediaBroker}

/-- **When an uploaded image stays.**  In every order of requests and tasks, the image of a row
stays exactly as long as the requests leave it and no task saves a copy of the row with another
image. -/
theorem uploadStays_iff (h : task.Has name s.store) (steps : List (JobStep MemberEvent Made)) :
    (∀ earlier later, steps = earlier ++ later →
      task.Has name
        (run (Jobs.exec (tasks mayRetry normalizeUsername normalizeEmail)) s earlier).store) ↔
    Guarded (Jobs.exec (tasks mayRetry normalizeUsername normalizeEmail))
      (Jobs.Leaves (tasks mayRetry normalizeUsername normalizeEmail)
        (MemberEvent.LeavesImage normalizeUsername normalizeEmail task name)
        (task.Outdated name)) s steps :=
  (Jobs.run_kept (task.keeps_has name) h steps).symm

theorem uploadStays_iff_ann :
    let s := run (Jobs.exec (tasks threeRetries id id)) (MediaBroker.idle market) (overtaken.take 4)
    (∀ earlier later, overtaken.drop 4 = earlier ++ later →
      (MediaTask.userAvatar 1).Has "avatars/new.jpg"
        (run (Jobs.exec (tasks threeRetries id id)) s earlier).store) ↔
    Guarded (Jobs.exec (tasks threeRetries id id))
      (Jobs.Leaves (tasks threeRetries id id)
        (MemberEvent.LeavesImage id id (.userAvatar 1) "avatars/new.jpg")
        ((MediaTask.userAvatar 1).Outdated "avatars/new.jpg")) s (overtaken.drop 4) :=
  uploadStays_iff (by decide +kernel) _

/-- **Where no older copy is under way** only requests take an uploaded image away. -/
theorem uploadStays_of_fresh (h : task.Has name s.store)
    (hfresh : Jobs.Fresh (task.Outdated name) s) {steps : List (JobStep MemberEvent Made)}
    (hrequests : Guarded (Jobs.exec (tasks mayRetry normalizeUsername normalizeEmail))
      (Jobs.RequestsOk (MemberEvent.LeavesImage normalizeUsername normalizeEmail task name)) s
      steps) :
    task.Has name
      (run (Jobs.exec (tasks mayRetry normalizeUsername normalizeEmail)) s steps).store :=
  Jobs.run_kept_of_fresh (task.keeps_has name) h hfresh hrequests

theorem uploadStays_of_fresh_ann :
    let s := run (Jobs.exec (tasks threeRetries id id)) (MediaBroker.idle market) (overtaken.take 1)
    (MediaTask.userAvatar 1).Has "avatars/ann.jpg"
      (run (Jobs.exec (tasks threeRetries id id)) s
        [.start 0, .raise 0, .start 0, .save 0 annMade]).store := by
  intro s
  have hfresh : Jobs.Fresh ((MediaTask.userAvatar 1).Outdated "avatars/ann.jpg") s :=
    fun job hmem => by cases hmem
  refine uploadStays_of_fresh (by decide +kernel) hfresh ?_
  exact ⟨trivial, trivial, trivial, trivial, trivial⟩

/-- The first avatar is back. -/
example :
    ((run (Jobs.exec (tasks threeRetries id id)) (MediaBroker.idle market)
        overtaken).store.users.lookup 1).map
      Account.avatar = some (some "avatars/ann.jpg") := by
  decide +kernel

end

end OrdersBackend
