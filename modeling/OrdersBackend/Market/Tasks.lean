import OrdersBackend.Framework.Jobs
import OrdersBackend.Market.Login

/-!
# Thumbnails made in the background

The three actions that take a file save it and send a message.  A worker runs the task of the
message: it reads the row, makes the thumbnails, which takes a while, and saves the row as it
has read it, with the thumbnails.  `save` writes every column; a row that has been deleted in
the meantime it inserts again, under its old id.  A task that raises asks for another try, which
the queue may grant.

`tasks` are these requests and tasks as jobs.  `staysDeleted_iff` and `staysDeleted_of_unread`
say when a deleted row stays away, and `thumbnails_shown` when the thumbnails belong to their
images, in every order of the steps.

Which thumbnails `create_thumbnail` could make of an image, and the names the storage gives
them, are inputs of the save; when the queue grants another try is a parameter, `mayRetry`.
-/

namespace OrdersBackend

open Framework Tx Market

/-! ## Saving a row that may have been deleted -/

namespace MarketDb

def putUser (db : MarketDb) (id : ℕ) (row : Account)
    (h : (0 < id ∧ id < db.users.nextId) ∧ db.UserFits id row) : MarketDb :=
  { db with
    users := db.users.put id row h.1
    usernames := Table.unique_put db.usernames h.2.1
    supplierCodes := Table.unique_put db.supplierCodes h.2.2
    supplierUsers := Table.references_grow db.supplierUsers fun _ => Table.isSome_lookup_put
    orderClients := Table.references_grow db.orderClients fun _ => Table.isSome_lookup_put }

def putProduct (db : MarketDb) (id : ℕ) (row : StoredProduct)
    (h : (0 < id ∧ id < db.products.nextId) ∧ db.ProductFits id row) : MarketDb :=
  { db with
    products := db.products.put id row h.1
    skus := Table.unique_put db.skus h.2.1
    productSuppliers := Table.references_put db.productSuppliers h.2.2.1
    productCategories := Table.all_put (p := fun p : StoredProduct => p.category ∈ db.categories)
      db.productCategories h.2.2.2
    imageProducts := Table.references_grow db.imageProducts fun _ => Table.isSome_lookup_put
    itemProducts := Table.references_grow db.itemProducts fun _ => Table.isSome_lookup_put }

def putImage (db : MarketDb) (id : ℕ) (row : ProductImage)
    (h : (0 < id ∧ id < db.images.nextId) ∧ (db.products.lookup row.product).isSome) : MarketDb :=
  { db with
    images := db.images.put id row h.1
    imageProducts := Table.references_put db.imageProducts h.2 }

end MarketDb

/-! ## The tasks -/

/-- What a message asks for. -/
inductive MediaTask
  | userAvatar (user : ℕ)
  | productImage (product : ℕ)
  | additionalImage (image : ℕ)
  deriving DecidableEq, Repr

/-- What a task has made and drawn when it saves: the stored thumbnails, by size, the code that
`User.save` may draw, and the time. -/
structure Made where
  thumbnails : Thumbnails
  code : String
  now : ℕ

namespace Account

def withThumbnails (row : Account) (made : Thumbnails) : Account :=
  { row with
    avatarSmall := made.small.or row.avatarSmall
    avatarMedium := made.medium.or row.avatarMedium
    avatarLarge := made.large.or row.avatarLarge }

end Account

namespace StoredProduct

def withThumbnails (row : StoredProduct) (made : Thumbnails) (now : ℕ) : StoredProduct where
  toProductRow := row.toProductRow.withThumbnails made
  updatedAt := now

end StoredProduct

namespace ProductImage

def withThumbnails (row : ProductImage) (made : Thumbnails) : ProductImage :=
  { row with
    thumbnail := made.thumbnail.or row.thumbnail
    small := made.small.or row.small
    medium := made.medium.or row.medium }

end ProductImage

namespace MediaTask

def Row : MediaTask → Type
  | userAvatar _ => Account
  | productImage _ => StoredProduct
  | additionalImage _ => ProductImage

/-- `objects.get(id=...)`. -/
def find : (task : MediaTask) → MarketDb → Option task.Row
  | userAvatar user, db => db.users.lookup user
  | productImage product, db => db.products.lookup product
  | additionalImage image, db => db.images.lookup image

/-- The column of the image. -/
def image : (task : MediaTask) → task.Row → Option String
  | userAvatar _ => Account.avatar
  | productImage _ => fun row : StoredProduct => row.image
  | additionalImage _ => ProductImage.image

/-- The columns that the task fills. -/
def columns : (task : MediaTask) → task.Row → List (Option String)
  | userAvatar _ => fun row : Account => [row.avatarSmall, row.avatarMedium, row.avatarLarge]
  | productImage _ => fun row : StoredProduct =>
    [row.thumbnails.thumbnail, row.thumbnails.small, row.thumbnails.medium, row.thumbnails.large]
  | additionalImage _ => fun row : ProductImage => [row.thumbnail, row.small, row.medium]

/-- The thumbnails of the sizes that the task makes. -/
def sizes : MediaTask → Thumbnails → List (Option String)
  | userAvatar _, made => [made.small, made.medium, made.large]
  | productImage _, made => [made.thumbnail, made.small, made.medium, made.large]
  | additionalImage _, made => [made.thumbnail, made.small, made.medium]

/-- The row that the task saves. -/
def saved : (task : MediaTask) → task.Row → Made → task.Row
  | userAvatar _ => fun (row : Account) made => (row.withThumbnails made.thumbnails).saved made.code
  | productImage _ => fun (row : StoredProduct) made => row.withThumbnails made.thumbnails made.now
  | additionalImage _ => fun (row : ProductImage) made => row.withThumbnails made.thumbnails

/-- `save`, which raises when the row breaks a constraint. -/
def store : (task : MediaTask) → task.Row → MarketDb → Option MarketDb
  | userAvatar user => fun (row : Account) db =>
    if h : (0 < user ∧ user < db.users.nextId) ∧ db.UserFits user row then
      some (db.putUser user row h)
    else none
  | productImage product => fun (row : StoredProduct) db =>
    if h : (0 < product ∧ product < db.products.nextId) ∧ db.ProductFits product row then
      some (db.putProduct product row h)
    else none
  | additionalImage image => fun (row : ProductImage) db =>
    if h : (0 < image ∧ image < db.images.nextId) ∧
        (db.products.lookup row.product).isSome then
      some (db.putImage image row h)
    else none

/-- The first part of the task: a row that is not there, or has no image, ends it. -/
def read (task : MediaTask) (db : MarketDb) : Option task.Row :=
  (task.find db).filter fun row => (task.image row).isSome

/-- The last part of it. -/
def save (task : MediaTask) (row : task.Row) (made : Made) (db : MarketDb) : Option MarketDb :=
  task.store (task.saved row made) db

/-- The row has been deleted. -/
def Gone : MediaTask → MarketDb → Prop
  | userAvatar user, db => db.users.Gone user
  | productImage product, db => db.products.Gone product
  | additionalImage image, db => db.images.Gone image

instance (task : MediaTask) (db : MarketDb) : Decidable (task.Gone db) :=
  match task with
  | userAvatar user => inferInstanceAs (Decidable (db.users.Gone user))
  | productImage product => inferInstanceAs (Decidable (db.products.Gone product))
  | additionalImage image => inferInstanceAs (Decidable (db.images.Gone image))

end MediaTask

/-- The messages of a request: an upload that is accepted sends for its task. -/
def MemberEvent.sent (event : MemberEvent) (db : MarketDb) : List MediaTask :=
  match event with
  | .send user request =>
    match request, (Market.handle user request db).1 with
    | .users _ pk (.uploadAvatar _ _), .ok (.uploaded _ _) => [.userAvatar pk]
    | .products _ pk (.uploadImage _ _), .ok (.uploaded _ _) => [.productImage pk]
    | .products _ _ (.addAdditionalImage _ _), .ok (.created id) => [.additionalImage id]
    | _, _ => []
  | .register _ _ _ | .createUser _ _ | .createProduct _ _ _ => []

section

variable (mayRetry : ℕ → Bool) (normalizeUsername normalizeEmail : String → String)

/-- The requests of the site and its tasks. -/
def tasks : Jobs MarketDb MemberEvent MediaTask Made MediaTask.Row where
  request event db :=
    (MemberEvent.execMarket normalizeUsername normalizeEmail event db, event.sent db)
  read := MediaTask.read
  save := MediaTask.save
  mayRetry := mayRetry

end

/-- `max_retries=3`. -/
def threeRetries (retries : ℕ) : Bool := retries < 3

/-- The market, the messages that wait, and the tasks under way. -/
abbrev MediaBroker : Type := Broker MarketDb MediaTask MediaTask.Row

/-- Nothing waits and nothing is under way. -/
def MediaBroker.idle (db : MarketDb) : MediaBroker := ⟨db, [], []⟩

/-! ## Rows that are deleted -/

namespace MediaTask

variable {task : MediaTask} {db : MarketDb}

lemma Gone.setUser (h : task.Gone db) {pk : ℕ} {row : Account} (hfits : db.UserFits pk row) :
    task.Gone (db.setUser pk row hfits) := by
  rcases task with _ | _ | _
  · exact Table.Gone.update h pk row
  · exact h
  · exact h

lemma Gone.setProduct (h : task.Gone db) {pk : ℕ} {row : StoredProduct}
    (hfits : db.ProductFits pk row) : task.Gone (db.setProduct pk row hfits) := by
  rcases task with _ | _ | _
  · exact h
  · exact Table.Gone.update h pk row
  · exact h

lemma Gone.setSupplier (h : task.Gone db) {pk : ℕ} {row : SupplierRow}
    (hfits : db.SupplierFits pk row) : task.Gone (db.setSupplier pk row hfits) := by
  rcases task with _ | _ | _ <;> exact h

lemma Gone.addUser (h : task.Gone db) {row : Account}
    (hfits : db.UserFits db.users.nextId row) : task.Gone (db.addUser row hfits) := by
  rcases task with _ | _ | _
  · exact Table.Gone.insert h row
  · exact h
  · exact h

lemma Gone.addProduct (h : task.Gone db) {row : StoredProduct}
    (hfits : db.ProductFits db.products.nextId row) : task.Gone (db.addProduct row hfits) := by
  rcases task with _ | _ | _
  · exact h
  · exact Table.Gone.insert h row
  · exact h

lemma Gone.addImage (h : task.Gone db) {row : ProductImage}
    (hthere : (db.products.lookup row.product).isSome) : task.Gone (db.addImage row hthere) := by
  rcases task with _ | _ | _
  · exact h
  · exact h
  · exact Table.Gone.insert h row

lemma Gone.erase (h : task.Gone db) {doomed : Doomed} (hfree : ¬ db.Protected doomed) :
    task.Gone (db.erase doomed hfree) := by
  rcases task with _ | _ | _
  · exact Table.Gone.filter h _
  · exact Table.Gone.filter h _
  · exact Table.Gone.filter h _

lemma Gone.deleteImage (h : task.Gone db) (image : ℕ) :
    task.Gone (MarketDb.deleteImage image db).2 := by
  rcases task with _ | _ | _
  · exact h
  · exact h
  · exact Table.Gone.filter h _

variable {mayRetry : ℕ → Bool} {normalizeUsername normalizeEmail : String → String}

/-- No request brings a row back. -/
lemma Gone.execMarket (h : task.Gone db) (event : MemberEvent) :
    task.Gone (event.execMarket normalizeUsername normalizeEmail db) := by
  rcases event with ⟨request, salt, now⟩ | ⟨user, body⟩ | ⟨user, body, now⟩ | ⟨user, request⟩
  · rcases task with user | _ | _
    · show (Market.register normalizeUsername normalizeEmail request.code₁ request.code₂
        request.body now db).2.users.Gone user
      rcases users_register normalizeUsername normalizeEmail request.code₁ request.code₂
        request.body now db with husers | ⟨new, husers⟩ <;> rw [husers]
      · exact h
      · exact Table.Gone.insert h _
    · exact h
    · exact h
  · refine (asUser_iff (P := task.Gone) h).mpr fun _ _ => ?_
    exact (UserViewSet.createUser_iff (P := task.Gone) h body).mpr fun _ _ _ => h.addUser
  · refine (asUser_iff (P := task.Gone) h).mpr fun _ _ => ?_
    exact (create_iff (P := task.Gone) h body now).mpr fun _ _ _ => h.addProduct
  · exact exec_of_writes (P := task.Gone) h (fun _ _ => h.setUser) (fun _ _ => h.setSupplier)
      (fun _ _ => h.setProduct) (fun _ => h.addImage) (fun _ => h.erase) h.deleteImage user request

/-- What a save of a row leaves: the row is written under its id. -/
lemma store_eq_some {row : task.Row} {db' : MarketDb} (h : task.store row db = some db') :
    (∀ other : MediaTask, other ≠ task → other.Gone db → other.Gone db') ∧ ¬ task.Gone db' := by
  rcases task with user | product | image
  · obtain ⟨hfits, hdb⟩ := Option.dite_none_right_eq_some.mp h
    rw [← Option.some.inj hdb]
    refine ⟨fun other hne hgone => ?_, Table.not_gone_put (h := hfits.1)⟩
    rcases other with user' | _ | _
    · exact Table.Gone.put (h := hfits.1) hgone fun heq => hne (congrArg userAvatar heq)
    · exact hgone
    · exact hgone
  · obtain ⟨hfits, hdb⟩ := Option.dite_none_right_eq_some.mp h
    rw [← Option.some.inj hdb]
    refine ⟨fun other hne hgone => ?_, Table.not_gone_put (h := hfits.1)⟩
    rcases other with _ | product' | _
    · exact hgone
    · exact Table.Gone.put (h := hfits.1) hgone fun heq => hne (congrArg productImage heq)
    · exact hgone
  · obtain ⟨hfits, hdb⟩ := Option.dite_none_right_eq_some.mp h
    rw [← Option.some.inj hdb]
    refine ⟨fun other hne hgone => ?_, Table.not_gone_put (h := hfits.1)⟩
    rcases other with _ | _ | image'
    · exact hgone
    · exact hgone
    · exact Table.Gone.put (h := hfits.1) hgone fun heq => hne (congrArg additionalImage heq)

lemma find_of_gone (h : task.Gone db) : task.find db = none := by
  rcases task with _ | _ | _ <;> exact h.1

/-- Only a task brings its row back. -/
lemma keeps_gone (task : MediaTask) :
    Jobs.Keeps (tasks mayRetry normalizeUsername normalizeEmail) (fun _ _ => True)
      (fun key _ => key = task) task.Gone where
  request := fun event _ h => iff_of_true trivial (h.execMarket event)
  read := by
    rintro key db copy h hread rfl
    have hnone : key.read db = none := by
      unfold read
      rw [find_of_gone h]
      rfl
    rw [show key.read db = some copy from hread] at hnone
    cases hnone
  save := fun key copy made db db' hsave hgone => by
    by_cases hkey : key = task
    · subst hkey
      exact iff_of_false (fun hne => hne rfl) (store_eq_some hsave).2
    · exact iff_of_true hkey ((store_eq_some hsave).1 task (Ne.symm hkey) hgone)

end MediaTask

section

variable {mayRetry : ℕ → Bool} {normalizeUsername normalizeEmail : String → String}
  {task : MediaTask} {s : MediaBroker}

/-- **When a deleted row stays away.**  In every order of requests and tasks, a user, a product or
an image that has been deleted stays away exactly as long as no task saves a copy of it. -/
theorem staysDeleted_iff (hgone : task.Gone s.store) (steps : List (JobStep MemberEvent Made)) :
    (∀ earlier later, steps = earlier ++ later →
      task.Gone
        (run (Jobs.exec (tasks mayRetry normalizeUsername normalizeEmail)) s earlier).store) ↔
    Guarded (Jobs.exec (tasks mayRetry normalizeUsername normalizeEmail))
      (Jobs.Leaves (tasks mayRetry normalizeUsername normalizeEmail) (fun _ _ => True)
        fun key _ => key = task) s steps :=
  (Jobs.run_kept task.keeps_gone hgone steps).symm

/-- The client uploads an avatar and deletes his account while the task makes thumbnails. -/
def deletedMeanwhile : MediaBroker :=
  run (Jobs.exec (tasks threeRetries id id)) (MediaBroker.idle market)
    [.request (.send 1 (.users ⟨none, none⟩ 1 (.uploadAvatar (some "avatars/ann.jpg") ""))),
     .start 0, .request (.send 1 (.users ⟨none, none⟩ 1 .destroy))]

/-- The thumbnails of the avatar. -/
def annMade : Made :=
  ⟨⟨none, some "avatars/small/ann_small.jpg", some "avatars/medium/ann_medium.jpg",
    some "avatars/large/ann_large.jpg"⟩, "", 1⟩

theorem staysDeleted_iff_ann :
    (∀ earlier later, [JobStep.save 0 annMade] = earlier ++ later →
      (MediaTask.userAvatar 1).Gone
        (run (Jobs.exec (tasks threeRetries id id)) deletedMeanwhile earlier).store) ↔
    Guarded (Jobs.exec (tasks threeRetries id id))
      (Jobs.Leaves (tasks threeRetries id id) (fun _ _ => True) fun key _ => key = .userAvatar 1)
      deletedMeanwhile [JobStep.save 0 annMade] :=
  staysDeleted_iff (by decide +kernel) _

/-- The account that the task brings back. -/
def annBack : Account :=
  { plainAccount "ann" .client with
    avatar := some "avatars/ann.jpg"
    avatarSmall := annMade.thumbnails.small
    avatarMedium := annMade.thumbnails.medium
    avatarLarge := annMade.thumbnails.large }

example :
    (run (Jobs.exec (tasks threeRetries id id)) deletedMeanwhile
        [.save 0 annMade]).store.users.lookup 1 =
      some annBack := by
  decide +kernel

/-- **A row that is deleted while no task has read it** never comes back. -/
theorem staysDeleted_of_unread (hgone : task.Gone s.store)
    (hunread : ∀ job ∈ s.underway, job.message.key ≠ task)
    (steps : List (JobStep MemberEvent Made)) :
    task.Gone (run (Jobs.exec (tasks mayRetry normalizeUsername normalizeEmail)) s steps).store :=
  Jobs.run_kept_of_fresh task.keeps_gone hgone hunread
    (Jobs.guarded_requestsOk (fun _ _ => trivial) s steps)

theorem staysDeleted_of_unread_ann :
    let s := run (Jobs.exec (tasks threeRetries id id)) (MediaBroker.idle market)
      [.request (.send 1 (.users ⟨none, none⟩ 1 .destroy))]
    (MediaTask.userAvatar 1).Gone
      (run (Jobs.exec (tasks threeRetries id id)) s
        [.start 0, .save 0 annMade, .raise 0]).store := by
  intro s
  have hunread : ∀ job ∈ s.underway, job.message.key ≠ .userAvatar 1 := fun job hmem => by
    cases hmem
  exact staysDeleted_of_unread (by decide +kernel) hunread _

end

end OrdersBackend
