import OrdersBackend.Market.Isolation

/-!
# Files that are uploaded

An image or an avatar should have at most 5 MB and the extension of an image.  The serializers
look at the file of a creation or an update, and `Product.clean` asks for the same, but no save
calls it.  The three actions that take a file save it without a look.

`withinLimits_iff` says in which runs every stored file stays within the limits.
-/

namespace OrdersBackend

open Framework Tx Market

/-! ## Names and sizes -/

namespace Python

/-- What follows the last `c`. -/
def afterLast (c : Char) (cs : List Char) : List Char := (cs.reverse.takeWhile (· ≠ c)).reverse

/-- `os.path.splitext(name)[1]`.  The dots that a file name begins with do not count. -/
def extension (name : String) : List Char :=
  let body := (afterLast '/' name.toList).dropWhile (· = '.')
  if '.' ∈ body then '.' :: afterLast '.' body else []

end Python

def maxSize : ℕ := 5 * 1024 * 1024

def validExtensions : List String := [".jpg", ".jpeg", ".png", ".webp"]

/-- `ext.lower() in valid_extensions`. -/
def ValidExtension (name : String) : Prop :=
  String.ofList (Python.lower (Python.extension name)) ∈ validExtensions

instance (name : String) : Decidable (ValidExtension name) := inferInstanceAs (Decidable (_ ∈ _))

/-- A file of a request: the name it comes with, and the name the storage gives it. -/
structure Upload where
  name : String
  stored : String
  deriving DecidableEq, Repr

section

-- the size of the file that is stored under a name
variable (size : String → ℕ)

/-- A stored file within the limits. -/
def Allowed (name : String) : Prop := size name ≤ maxSize ∧ ValidExtension name

instance (name : String) : Decidable (Allowed size name) := inferInstanceAs (Decidable (_ ∧ _))

/-- What `validate_image` and `validate_avatar` have in common. -/
def fileErrors (field tooLarge : String) (value : Option Upload) : List FieldError :=
  match value with
  | none => []
  | some file =>
    if maxSize < size file.stored then [.message field tooLarge]
    else if ¬ ValidExtension file.name then
      [.message field
        ("Разрешены только следующие форматы: " ++ String.intercalate ", " validExtensions)]
    else []

def ProductSerializer.validateImage : Option Upload → List FieldError :=
  fileErrors size "image" "Размер изображения не должен превышать 5МБ"

def UserSerializer.validateAvatar : Option Upload → List FieldError :=
  fileErrors size "avatar" "Размер аватара не должен превышать 5МБ"

/-- `Product.clean`, on the column of the image. -/
def Product.clean (image : Option String) : List FieldError :=
  match image with
  | none => []
  | some name =>
    if maxSize < size name then
      [.message "image" "Размер изображения не должен превышать 5МБ"]
    else
      let validExtensions := ["jpg", "jpeg", "png", "webp"]
      if String.ofList (Python.lower ((Python.extension name).drop 1)) ∉ validExtensions then
        [.message "image"
          ("Разрешены только следующие форматы: " ++ String.intercalate ", " validExtensions)]
      else []

variable {size}

lemma fileErrors_eq_nil_iff {field tooLarge : String} {value : Option Upload} :
    fileErrors size field tooLarge value = [] ↔
      ∀ file ∈ value, size file.stored ≤ maxSize ∧ ValidExtension file.name := by
  rcases value with _ | file
  · simp [fileErrors]
  · simp only [fileErrors, Option.mem_some_iff, forall_eq']
    by_cases hsize : maxSize < size file.stored
    · simp [hsize]
    · by_cases hvalid : ValidExtension file.name
      · simp [hsize, hvalid, not_lt.mp hsize]
      · simp [hsize, hvalid]

lemma extension_eq_nil_or_cons (name : String) :
    Python.extension name = [] ∨ ∃ rest, Python.extension name = '.' :: rest := by
  unfold Python.extension
  by_cases hdot : '.' ∈ (Python.afterLast '/' name.toList).dropWhile (· = '.')
  · exact .inr ⟨_, if_pos hdot⟩
  · exact .inl (if_neg hdot)

/-- `Product.clean` would accept exactly the files within the limits. -/
theorem Product.clean_eq_nil_iff {image : Option String} :
    Product.clean size image = [] ↔ ∀ name ∈ image, Allowed size name := by
  rcases image with _ | name
  · simp [Product.clean]
  · have hvalid : String.ofList (Python.lower ((Python.extension name).drop 1)) ∈
        ["jpg", "jpeg", "png", "webp"] ↔ ValidExtension name := by
      unfold ValidExtension validExtensions
      rcases extension_eq_nil_or_cons name with hnil | ⟨rest, hrest⟩
      · rw [hnil]
        decide
      · rw [hrest]
        simp [Python.lower, String.ext_iff]
    simp only [Product.clean, Option.mem_some_iff, forall_eq', Allowed, hvalid]
    by_cases hsize : maxSize < size name
    · simp [hsize]
    · by_cases hextension : ValidExtension name
      · simp [hsize, hextension, not_lt.mp hsize]
      · simp [hsize, hextension]

end

/-! ## Bodies with a file -/

/-- A body whose fields have accepted their values: the file is not there, or there is one, or
the field of the file is emptied. -/
structure WithFile (δ : Type) where
  data : δ
  file : Option (Option Upload)

/-- What is left of a body for the serializer when the method of the file has accepted it. -/
def WithFile.read {δ : Type} (validate : Option Upload → List FieldError)
    (setFile : δ → Option (Option String) → δ) (body : Option (WithFile δ)) : Option δ := do
  let body ← body
  if ((body.file.map validate).getD []).isEmpty then
    return setFile body.data (body.file.map (Option.map Upload.stored))
  else none

/-- The validated data of a new product: the fields without a default are there. -/
structure NewProduct where
  supplier : ℕ
  category : String
  name : String
  sku : String
  price : DecimalField 10
  description : Option String
  costPrice : Option (Option (DecimalField 10))
  stockQuantity : Option ℕ
  minOrderQuantity : Option ℕ
  unit : Option String
  isActive : Option Bool
  image : Option (Option String)
  thumbnail : Option (Option String)
  small : Option (Option String)
  medium : Option (Option String)
  large : Option (Option String)
  deriving DecidableEq, Repr

namespace NewProduct

/-- The values that the tables are asked about. -/
def keys (data : NewProduct) : ProductData Price :=
  { ProductData.empty with
    supplier := some data.supplier, category := some data.category, sku := some data.sku }

/-- `Product(**validated_data)`, with the defaults of the model. -/
def row (data : NewProduct) (now : ℕ) : StoredProduct where
  supplier := data.supplier
  category := data.category
  name := data.name
  description := data.description.getD ""
  price := data.price
  stockQuantity := data.stockQuantity.getD 0
  minOrderQuantity := data.minOrderQuantity.getD 1
  unit := data.unit.getD "шт"
  isActive := data.isActive.getD true
  costPrice := data.costPrice.getD none
  sku := data.sku
  image := data.image.getD none
  thumbnails :=
    { thumbnail := data.thumbnail.getD none
      small := data.small.getD none
      medium := data.medium.getD none
      large := data.large.getD none }
  updatedAt := now

end NewProduct

namespace ProductViewSet

def create (body : Option NewProduct) (now : ℕ) : Tx MarketDb PyErr MarketAnswer :=
  withData (fun db data => ProductSerializer.errors db.products.nextId db data.keys) body
    fun data => do
      let id ← MarketDb.insertProduct (data.row now)
      return .created id

end ProductViewSet

/-! ## Requests -/

/-- A request of `user` that may bring a file. -/
inductive UploadEvent
  | createProduct (user : ℕ) (body : Option (WithFile NewProduct)) (now : ℕ)
  | updateProduct (user : ℕ) (query : ProductQuery) (pk : ℕ)
      (body : Option (WithFile (ProductData Price))) (now : ℕ)
  | uploadImage (user : ℕ) (query : ProductQuery) (pk : ℕ) (file : Option Upload) (now : ℕ)
  | addAdditionalImage (user : ℕ) (query : ProductQuery) (pk : ℕ) (file : Option Upload)
      (sortOrder : Option String)
  | updateUser (user : ℕ) (query : UserQuery) (pk : ℕ) (body : Option (WithFile UserData))
      (code : String)
  | uploadAvatar (user : ℕ) (query : UserQuery) (pk : ℕ) (file : Option Upload) (code : String)

section

variable (size : String → ℕ)

def ProductSerializer.readNew : Option (WithFile NewProduct) → Option NewProduct :=
  WithFile.read (validateImage size) fun data image => { data with image }

def ProductSerializer.readBody :
    Option (WithFile (ProductData Price)) → Option (ProductData Price) :=
  WithFile.read (validateImage size) fun data image => { data with image }

def UserSerializer.readBody : Option (WithFile UserData) → Option UserData :=
  WithFile.read (validateAvatar size) fun data avatar => { data with avatar }

/-- The state after a request. -/
def UploadEvent.exec (event : UploadEvent) (db : MarketDb) : MarketDb :=
  match event with
  | createProduct user body now =>
    (asUser user (fun _ => ProductViewSet.create (ProductSerializer.readNew size body) now) db).2
  | updateProduct user query pk body now =>
    Market.exec user (.products query pk (.update (ProductSerializer.readBody size body) now)) db
  | uploadImage user query pk file now =>
    Market.exec user (.products query pk (.uploadImage (file.map Upload.stored) now)) db
  | addAdditionalImage user query pk file sortOrder =>
    Market.exec user
      (.products query pk (.addAdditionalImage (file.map Upload.stored) sortOrder)) db
  | updateUser user query pk body code =>
    Market.exec user (.users query pk (.update (UserSerializer.readBody size body) code)) db
  | uploadAvatar user query pk file code =>
    Market.exec user (.users query pk (.uploadAvatar (file.map Upload.stored) code)) db

/-! ## Limits -/

/-- Every stored image and avatar is within the limits. -/
structure WithinLimits (db : MarketDb) : Prop where
  images : db.products.All fun row => ∀ name ∈ row.image, Allowed size name
  additional : db.images.All fun row => ∀ name ∈ row.image, Allowed size name
  avatars : db.users.All fun row => ∀ name ∈ row.avatar, Allowed size name

/-- A file of a body that is accepted has got a name with a valid extension. -/
def NamedWell (file : Option (Option String)) : Prop :=
  ∀ name, file = some (some name) → ValidExtension name

/-- The request is refused, or brings no file, or one within the limits.  A file that a
serializer has looked at only needs a good name from the storage. -/
def Respects (db : MarketDb) : UploadEvent → Prop
  | .createProduct user body _ =>
    ∀ account, authenticate db user = some account →
      ∀ data, ProductSerializer.readNew size body = some data →
        ProductSerializer.errors db.products.nextId db data.keys = [] → NamedWell data.image
  | .updateProduct user query pk body _ =>
    ∀ account, authenticate db user = some account →
      ∀ row, ProductViewSet.getObject user account query pk db = some row →
        ∀ data, ProductSerializer.readBody size body = some data →
          ProductSerializer.errors pk db data = [] → NamedWell data.image
  | .uploadImage user query pk file _ =>
    ∀ account, authenticate db user = some account →
      ∀ row, ProductViewSet.getObject user account query pk db = some row →
        db.ownerOf row = some user ∨ account.isStaff →
          ∀ upload ∈ file, Allowed size upload.stored
  | .addAdditionalImage user query pk file sortOrder =>
    ∀ account, authenticate db user = some account →
      ∀ row, ProductViewSet.getObject user account query pk db = some row →
        db.ownerOf row = some user ∨ account.isStaff →
          ∀ upload ∈ file, ∀ n, ProductViewSet.sortOrderColumn sortOrder = .ok n →
            Allowed size upload.stored
  | .updateUser user query pk body code =>
    ∀ account, authenticate db user = some account →
      ∀ row, UserViewSet.getObject query pk db = some row →
        ∀ data, UserSerializer.readBody size body = some data →
          UserSerializer.errors pk db data = [] →
            db.UserFits pk ((row.withData data).saved code) → NamedWell data.avatar
  | .uploadAvatar user query pk file code =>
    ∀ account, authenticate db user = some account →
      ∀ row, UserViewSet.getObject query pk db = some row → pk = user ∨ account.isStaff →
        ∀ upload ∈ file, db.UserFits pk ((row.withAvatar upload.stored).saved code) →
          Allowed size upload.stored

end

variable {size : String → ℕ} {db : MarketDb}

/-! ## Files that a serializer accepts -/

section

variable {δ : Type} {setFile : δ → Option (Option String) → δ}
  {column : δ → Option (Option String)} {body : Option (WithFile δ)} {data : δ}
  {field tooLarge : String}

lemma read_eq_some {validate : Option Upload → List FieldError}
    (h : WithFile.read validate setFile body = some data) :
    ∃ b, body = some b ∧ (∀ value, b.file = some value → validate value = []) ∧
      data = setFile b.data (b.file.map (Option.map Upload.stored)) := by
  obtain ⟨b, hbody, h⟩ := Option.bind_eq_some_iff.mp h
  by_cases hvalid : ((b.file.map validate).getD []).isEmpty
  · rw [if_pos hvalid] at h
    refine ⟨b, hbody, fun value hvalue => ?_, (Option.some.inj h).symm⟩
    simpa only [hvalue, Option.map_some, Option.getD_some, List.isEmpty_iff] using hvalid
  · rw [if_neg hvalid] at h
    cases h

/-- The file of a body that is read is one that the method has accepted. -/
lemma upload_of_read (hset : ∀ data file, column (setFile data file) = file)
    (h : WithFile.read (fileErrors size field tooLarge) setFile body = some data) {name : String}
    (hname : column data = some (some name)) :
    ∃ b upload, body = some b ∧ b.file = some (some upload) ∧ upload.stored = name ∧
      size name ≤ maxSize ∧ ValidExtension upload.name := by
  obtain ⟨b, hbody, hvalid, rfl⟩ := read_eq_some h
  rw [hset] at hname
  obtain ⟨value, hvalue, hstored⟩ := Option.map_eq_some_iff.mp hname
  obtain ⟨upload, rfl, rfl⟩ := Option.map_eq_some_iff.mp hstored
  obtain ⟨hsize, hextension⟩ := fileErrors_eq_nil_iff.mp (hvalid _ hvalue) upload rfl
  exact ⟨b, upload, hbody, hvalue, rfl, hsize, hextension⟩

/-- Of the file in a column only its name is left to ask. -/
lemma namedWell_iff (hset : ∀ data file, column (setFile data file) = file)
    (h : WithFile.read (fileErrors size field tooLarge) setFile body = some data)
    {old : Option String} (hold : ∀ name ∈ old, Allowed size name) :
    NamedWell (column data) ↔ ∀ name ∈ (column data).getD old, Allowed size name := by
  rcases hcolumn : column data with _ | file
  · exact iff_of_true (fun name hname => (nomatch hname)) hold
  · constructor
    · intro hnamed name hname
      obtain rfl : file = some name := hname
      obtain ⟨-, -, -, -, -, hsize, -⟩ := upload_of_read hset h hcolumn
      exact ⟨hsize, hnamed name rfl⟩
    · intro hallowed name hname
      exact (hallowed name (Option.some.inj hname)).2

/-- The storage keeps the extension of the file. -/
def ExtensionKept (body : Option (WithFile δ)) : Prop :=
  ∀ b, body = some b → ∀ upload, b.file = some (some upload) →
    Python.extension upload.stored = Python.extension upload.name

lemma namedWell_of_extensionKept (hkept : ExtensionKept body)
    (hset : ∀ data file, column (setFile data file) = file)
    (h : WithFile.read (fileErrors size field tooLarge) setFile body = some data) :
    NamedWell (column data) := by
  intro name hname
  obtain ⟨b, upload, hbody, hfile, rfl, -, hextension⟩ := upload_of_read hset h hname
  unfold ValidExtension at hextension ⊢
  rw [hkept b hbody upload hfile]
  exact hextension

end

/-! ## Writes -/

lemma withinLimits_setProduct_iff (h : WithinLimits size db) {pk : ℕ} {old row : StoredProduct}
    (hold : db.products.lookup pk = some old) (hfits : db.ProductFits pk row) :
    WithinLimits size (db.setProduct pk row hfits) ↔ ∀ name ∈ row.image, Allowed size name :=
  ⟨fun hafter => (Table.all_update_iff h.images hold).mp hafter.images,
    fun hrow => ⟨(Table.all_update_iff h.images hold).mpr hrow, h.additional, h.avatars⟩⟩

lemma withinLimits_addProduct_iff (h : WithinLimits size db) {row : StoredProduct}
    (hfits : db.ProductFits db.products.nextId row) :
    WithinLimits size (db.addProduct row hfits) ↔ ∀ name ∈ row.image, Allowed size name :=
  ⟨fun hafter => (Table.all_insert_iff h.images).mp hafter.images,
    fun hrow => ⟨(Table.all_insert_iff h.images).mpr hrow, h.additional, h.avatars⟩⟩

lemma withinLimits_addImage_iff (h : WithinLimits size db) {row : ProductImage}
    (hthere : (db.products.lookup row.product).isSome) :
    WithinLimits size (db.addImage row hthere) ↔ ∀ name ∈ row.image, Allowed size name :=
  ⟨fun hafter => (Table.all_insert_iff h.additional).mp hafter.additional,
    fun hrow => ⟨h.images, (Table.all_insert_iff h.additional).mpr hrow, h.avatars⟩⟩

lemma withinLimits_setUser_iff (h : WithinLimits size db) {pk : ℕ} {old row : Account}
    (hold : db.users.lookup pk = some old) (hfits : db.UserFits pk row) :
    WithinLimits size (db.setUser pk row hfits) ↔ ∀ name ∈ row.avatar, Allowed size name :=
  ⟨fun hafter => (Table.all_update_iff h.avatars hold).mp hafter.avatars,
    fun hrow => ⟨h.images, h.additional, (Table.all_update_iff h.avatars hold).mpr hrow⟩⟩

@[simp] lemma avatar_saved (row : Account) (code : String) :
    (row.saved code).avatar = row.avatar := by
  unfold Account.saved
  split <;> rfl

/-- The row of a new product fits when the request is valid. -/
lemma productFits_row {data : NewProduct}
    (hvalid : ProductSerializer.errors db.products.nextId db data.keys = []) (now : ℕ) :
    db.ProductFits db.products.nextId (data.row now) := by
  obtain ⟨hfirst, hcategory⟩ := List.append_eq_nil_iff.mp hvalid
  obtain ⟨hsku, hsupplier⟩ := List.append_eq_nil_iff.mp hfirst
  exact ⟨free_of_uniqueErrors_some hsku rfl, isThere_of_relatedErrors hsupplier,
    of_decide_eq_true (isThere_of_relatedErrors hcategory)⟩

lemma create_iff {P : MarketDb → Prop} (h : P db) (body : Option NewProduct) (now : ℕ) :
    P (ProductViewSet.create body now db).2 ↔
      ∀ data, body = some data →
        ProductSerializer.errors db.products.nextId db data.keys = [] →
          ∀ hfits, P (db.addProduct (data.row now) hfits) := by
  refine (withData_iff h).trans (forall₂_congr fun data _ => forall_congr' fun _ => ?_)
  rw [snd_bind_pure]
  exact snd_dite_iff h

lemma forall_stored_iff (file : Option Upload) {p : String → Prop} :
    (∀ upload ∈ file, p upload.stored) ↔ ∀ name, file.map Upload.stored = some name → p name := by
  rcases file with _ | upload <;> simp

lemma forall_mem_some {p : String → Prop} {name : String} : p name ↔ ∀ n ∈ some name, p n := by
  simp

/-! ## One request -/

/-- The condition on a request is exact. -/
theorem respects_iff (h : WithinLimits size db) (event : UploadEvent) :
    Respects size db event ↔ WithinLimits size (event.exec size db) := by
  -- in each case the write at the end of the handler decides
  rcases event with ⟨user, body, now⟩ | ⟨user, query, pk, body, now⟩ |
    ⟨user, query, pk, file, now⟩ | ⟨user, query, pk, file, sortOrder⟩ |
    ⟨user, query, pk, body, code⟩ | ⟨user, query, pk, file, code⟩ <;>
    refine Iff.trans (forall₂_congr fun account _ => ?_)
      (asUser_iff (P := WithinLimits size) h).symm
  · refine Iff.trans (forall₂_congr fun data hdata => forall_congr' fun hvalid => ?_)
      (create_iff (P := WithinLimits size) h _ now).symm
    rw [forall_prop_of_true (productFits_row hvalid now), withinLimits_addProduct_iff h]
    have hnone : ∀ name ∈ (none : Option String), Allowed size name :=
      fun _ hname => (nomatch hname)
    exact namedWell_iff (fun _ _ => rfl) hdata hnone
  · refine Iff.trans (forall₂_congr fun row hobject => ?_)
      (updateProduct_iff (P := WithinLimits size) h query pk _ now).symm
    refine forall₂_congr fun data hdata => forall_congr' fun hvalid => ?_
    have hrow := lookup_of_filter hobject
    rw [forall_prop_of_true (productFits_withData hrow hvalid now),
      withinLimits_setProduct_iff h hrow]
    exact namedWell_iff (fun _ _ => rfl) hdata (h.images pk row hrow)
  · refine Iff.trans (forall₂_congr fun row hobject => forall_congr' fun _ => ?_)
      (uploadImage_iff (P := WithinLimits size) h query pk _ now).symm
    have hrow := lookup_of_filter hobject
    refine (forall_stored_iff file).trans (forall₂_congr fun name _ => ?_)
    rw [forall_prop_of_true (productFits_withImage hrow name now),
      withinLimits_setProduct_iff h hrow]
    exact forall_mem_some
  · refine Iff.trans (forall₂_congr fun row hobject => forall_congr' fun _ => ?_)
      (addAdditionalImage_iff (P := WithinLimits size) h query pk _ sortOrder).symm
    have hrow := lookup_of_filter hobject
    have hstored := forall_stored_iff file
      (p := fun name => ∀ n, ProductViewSet.sortOrderColumn sortOrder = .ok n → Allowed size name)
    refine hstored.trans (forall₂_congr fun name _ => forall₂_congr fun n _ => ?_)
    rw [forall_prop_of_true (Option.isSome_of_eq_some hrow), withinLimits_addImage_iff h]
    exact forall_mem_some
  · refine Iff.trans (forall₂_congr fun row hobject => ?_)
      (updateUser_iff (P := WithinLimits size) h query pk _ code).symm
    refine forall₂_congr fun data hdata => forall_congr' fun _ => forall_congr' fun hfits => ?_
    have hrow := lookup_of_filter hobject
    rw [withinLimits_setUser_iff h hrow, avatar_saved]
    exact namedWell_iff (fun _ _ => rfl) hdata (h.avatars pk row hrow)
  · refine Iff.trans (forall₂_congr fun row hobject => forall_congr' fun _ => ?_)
      (uploadAvatar_iff (P := WithinLimits size) h query pk _ code).symm
    have hrow := lookup_of_filter hobject
    have hstored := forall_stored_iff file
      (p := fun name => db.UserFits pk ((row.withAvatar name).saved code) → Allowed size name)
    refine hstored.trans (forall₂_congr fun name _ => forall_congr' fun hfits => ?_)
    rw [withinLimits_setUser_iff h hrow, avatar_saved]
    exact forall_mem_some

/-! ## Runs -/

/-- **When stored files stay within the limits.**  From a state within the limits, every state
of a run of creations, updates and uploads is within them exactly when each request is refused,
brings no file, or brings one that the storage keeps within the limits. -/
theorem withinLimits_iff (h : WithinLimits size db) (events : List UploadEvent) :
    (∀ earlier later, events = earlier ++ later →
      WithinLimits size (run (UploadEvent.exec size) db earlier)) ↔
    Guarded (UploadEvent.exec size) (Respects size) db events :=
  (guarded_iff_invariant (I := WithinLimits size)
    (fun _ event hdb => respects_iff hdb event) h events).symm

/-- The photograph of the cup has 6 MB, every other file 1 MB. -/
def cupSize (name : String) : ℕ :=
  if name = "products/cup.jpg" then 6 * 1024 * 1024 else 1024 * 1024

/-- The supplier uploads an image of the cup, and the client a picture of himself. -/
theorem withinLimits_iff_small :
    (∀ earlier later,
      [UploadEvent.uploadImage 2 ⟨none, none, none⟩ 1 (some ⟨"c.PNG", "products/c.PNG"⟩) 1,
        .uploadAvatar 1 ⟨none, none⟩ 1 (some ⟨"ann.webp", "avatars/ann.webp"⟩) ""] =
          earlier ++ later →
      WithinLimits cupSize (run (UploadEvent.exec cupSize) market earlier)) ↔
    Guarded (UploadEvent.exec cupSize) (Respects cupSize) market
      [.uploadImage 2 ⟨none, none, none⟩ 1 (some ⟨"c.PNG", "products/c.PNG"⟩) 1,
        .uploadAvatar 1 ⟨none, none⟩ 1 (some ⟨"ann.webp", "avatars/ann.webp"⟩) ""] :=
  withinLimits_iff ⟨by decide, by decide, by decide⟩ _

/-- The photograph is too large, the other two files are programs. -/
theorem not_withinLimits_uploads :
    WithinLimits cupSize market ∧
      ¬ WithinLimits cupSize (run (UploadEvent.exec cupSize) market
        [.uploadImage 2 ⟨none, none, none⟩ 1 (some ⟨"cup.jpg", "products/cup.jpg"⟩) 1]) ∧
      ¬ WithinLimits cupSize (run (UploadEvent.exec cupSize) market
        [.addAdditionalImage 2 ⟨none, none, none⟩ 1
          (some ⟨"cup.exe", "products/additional/cup.exe"⟩) none]) ∧
      ¬ WithinLimits cupSize (run (UploadEvent.exec cupSize) market
        [.uploadAvatar 1 ⟨none, none⟩ 1 (some ⟨"ann.exe", "avatars/ann.exe"⟩) ""]) := by
  refine ⟨⟨by decide, by decide, by decide⟩, fun h => ?_, fun h => ?_, fun h => ?_⟩
  · exact absurd h.images (by decide +kernel)
  · exact absurd h.additional (by decide +kernel)
  · exact absurd h.avatars (by decide +kernel)

/-! ## Without the uploads -/

/-- A request to a serializer, whose file keeps its extension in the storage. -/
def Serialized : UploadEvent → Prop
  | .createProduct _ body _ => ExtensionKept body
  | .updateProduct _ _ _ body _ => ExtensionKept body
  | .updateUser _ _ _ body _ => ExtensionKept body
  | .uploadImage _ _ _ _ _ | .addAdditionalImage _ _ _ _ _ | .uploadAvatar _ _ _ _ _ => False

lemma respects_of_serialized {event : UploadEvent} (h : Serialized event) :
    Respects size db event := by
  rcases event with ⟨user, body, now⟩ | ⟨user, query, pk, body, now⟩ | _ | _ |
    ⟨user, query, pk, body, code⟩ | _
  · exact fun _ _ data hdata _ => namedWell_of_extensionKept h (fun _ _ => rfl) hdata
  · exact fun _ _ _ _ data hdata _ => namedWell_of_extensionKept h (fun _ _ => rfl) hdata
  · exact h.elim
  · exact h.elim
  · exact fun _ _ _ _ data hdata _ _ => namedWell_of_extensionKept h (fun _ _ => rfl) hdata
  · exact h.elim

/-- The serializers alone keep the limits. -/
theorem withinLimits_of_serialized (h : WithinLimits size db) {events : List UploadEvent}
    (hserialized : ∀ event ∈ events, Serialized event) :
    WithinLimits size (run (UploadEvent.exec size) db events) := by
  have hguarded : Guarded (UploadEvent.exec size) (Respects size) db events := by
    refine guarded_iff_steps.mpr fun earlier event later hsplit => ?_
    have hevent : event ∈ events := by simp [hsplit]
    exact respects_of_serialized (hserialized event hevent)
  exact run_invariant (I := WithinLimits size)
    (fun _ event hdb => (respects_iff hdb event).mp) hguarded h

end OrdersBackend
