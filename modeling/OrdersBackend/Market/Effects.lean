import OrdersBackend.Market.Requests

/-!
# The state a request leaves

A request checks, and then writes once or not at all.  For a property `P` of states that holds
before it, each lemma here says when `P` holds after a request: when every write that the
checks let through leads to a state with `P`.  What requests keep is read off these lemmas,
without a look at the requests.

The rows that pass the validation fit into the tables: the save of a profile or of a product
does not raise, and that of a user raises only for the code it draws.
-/

namespace OrdersBackend

open Framework Tx

namespace Market

variable {db : MarketDb} {user pk : ℕ} {P : MarketDb → Prop}

/-! ## Common parts -/

lemma asUser_iff {action : Account → Tx MarketDb PyErr MarketAnswer} (h : P db) :
    P (asUser user action db).2 ↔
      ∀ account, authenticate db user = some account → P (action account db).2 := by
  unfold asUser
  rw [bind_of_ok (get_apply db)]
  rcases authenticate db user with _ | account
  · exact ⟨fun _ account haccount => (nomatch haccount), fun _ => h⟩
  · simp only [Option.some.injEq, forall_eq']

lemma withObject_iff {ρ : Type} {getObject : MarketDb → Option ρ}
    {action : ρ → Tx MarketDb PyErr MarketAnswer} (h : P db) :
    P (withObject getObject action db).2 ↔
      ∀ row, getObject db = some row → P (action row db).2 := by
  unfold withObject
  rw [bind_of_ok (get_apply db)]
  rcases getObject db with _ | row
  · exact ⟨fun _ row hrow => (nomatch hrow), fun _ => h⟩
  · simp only [Option.some.injEq, forall_eq']

lemma withData_iff {δ : Type} {errors : MarketDb → δ → List FieldError} {body : Option δ}
    {action : δ → Tx MarketDb PyErr MarketAnswer} (h : P db) :
    P (withData errors body action db).2 ↔
      ∀ data, body = some data → errors db data = [] → P (action data db).2 := by
  unfold withData
  rw [bind_of_ok (get_apply db)]
  rcases body with _ | data
  · exact ⟨fun _ data hdata => (nomatch hdata), fun _ => h⟩
  · simp only [Option.some.injEq, forall_eq', validated, List.isEmpty_iff]
    by_cases herrors : errors db data = []
    · simp only [herrors, if_true, forall_const]
    · simp only [if_neg herrors]
      exact ⟨fun _ hnil => absurd hnil herrors, fun _ => h⟩

/-- A refusal leaves the state to the requests that are not refused. -/
lemma refusal_iff {c : Prop} [Decidable c] {refused m : Tx MarketDb PyErr MarketAnswer}
    (h : P db) (hrefused : (refused db).2 = db) :
    P ((if c then refused else m) db).2 ↔ (¬ c → P (m db).2) := by
  by_cases hc : c
  · rw [if_pos hc, hrefused]
    exact iff_of_true h fun hnot => absurd hc hnot
  · rw [if_neg hc]
    exact ⟨fun hm _ => hm, fun hm => hm hc⟩

/-- A write that raises when it does not fit. -/
lemma snd_dite_iff {α : Type} {fits : Prop} [Decidable fits] {set : fits → MarketDb} {a : α}
    {e : PyErr} (h : P db) :
    P (if hfits : fits then ((.ok a : Except PyErr α), set hfits) else (.error e, db)).2 ↔
      ∀ hfits, P (set hfits) := by
  by_cases hfits : fits
  · rw [dif_pos hfits]
    exact ⟨fun hset _ => hset, fun hset => hset hfits⟩
  · rw [dif_neg hfits]
    exact iff_of_true h fun hfits' => absurd hfits' hfits

lemma destroyDoomed_iff {doomed : Doomed} (h : P db) :
    P (destroyDoomed doomed db).2 ↔
      ∀ hfree : ¬ db.Protected doomed, P (db.erase doomed hfree) := by
  unfold destroyDoomed
  rw [snd_bind_pure]
  by_cases hprotected : db.Protected doomed
  · rw [MarketDb.delete_of_protected hprotected]
    exact iff_of_true h fun hfree => absurd hprotected hfree
  · rw [MarketDb.delete_of_not_protected hprotected]
    exact ⟨fun herase _ => herase, fun herase => herase hprotected⟩

/-- An update, of whatever kind of row: the write of valid data to the row that is found. -/
lemma update_iff {ρ δ : Type} {getObject : MarketDb → Option ρ}
    {errors : MarketDb → δ → List FieldError} {body : Option δ}
    {save : ρ → δ → Tx MarketDb PyErr Unit} {answer : MarketAnswer} {fits : ρ → δ → Prop}
    [∀ row data, Decidable (fits row data)] {set : ∀ row data, fits row data → MarketDb}
    (h : P db)
    (hsave : ∀ row data, save row data db =
      if hfits : fits row data then (.ok (), set row data hfits)
      else (.error .integrityError, db)) :
    P (withObject getObject
        (fun row => withData errors body fun data => do save row data; return answer) db).2 ↔
      ∀ row, getObject db = some row → ∀ data, body = some data → errors db data = [] →
        ∀ hfits, P (set row data hfits) := by
  refine (withObject_iff h).trans (forall₂_congr fun row _ => ?_)
  refine (withData_iff h).trans (forall₂_congr fun data _ => forall_congr' fun _ => ?_)
  rw [snd_bind_pure, hsave]
  exact snd_dite_iff h

/-- A deletion, of whatever kind of row. -/
lemma destroy_iff {ρ : Type} {getObject : MarketDb → Option ρ} {doomed : Doomed} (h : P db) :
    P (withObject getObject (fun _ => destroyDoomed doomed) db).2 ↔
      ∀ row, getObject db = some row → ∀ hfree, P (db.erase doomed hfree) :=
  (withObject_iff h).trans (forall₂_congr fun _ _ => destroyDoomed_iff h)

/-! ## Valid rows fit -/

lemma free_of_uniqueErrors_some {ρ : Type} {t : Table ρ} {column : ρ → String} {field : String}
    {value : String} {row : ρ} (h : uniqueErrors field t column pk (some value) = [])
    (hrow : column row = value) : t.Free (fun r => some (column r)) pk row := by
  have hfree : t.taken column pk value = false := by
    unfold uniqueErrors at h
    simpa using h
  rw [← hrow] at hfree
  exact Table.free_of_not_taken hfree

lemma free_of_uniqueErrors {ρ : Type} {t : Table ρ} {column : ρ → String} {field : String}
    {value : Option String} {old row : ρ} (hunique : t.Unique fun r => some (column r))
    (hold : t.lookup pk = some old) (h : uniqueErrors field t column pk value = [])
    (hrow : column row = value.getD (column old)) :
    t.Free (fun r => some (column r)) pk row := by
  rcases value with _ | value
  · exact Table.free_of_key_eq hunique hold (congrArg some hrow)
  · exact free_of_uniqueErrors_some h hrow

lemma isThere_of_relatedErrors {κ : Type} {field : String} {isThere : κ → Bool} {value : κ}
    (h : relatedErrors field isThere (some value) = []) : isThere value = true := by
  unfold relatedErrors at h
  simpa using h

lemma getD_of_relatedErrors {κ : Type} {field : String} {isThere : κ → Bool} {value : Option κ}
    {old : κ} (h : relatedErrors field isThere value = []) (hold : isThere old = true) :
    isThere (value.getD old) = true := by
  rcases value with _ | value
  · exact hold
  · exact isThere_of_relatedErrors h

@[simp] lemma username_saved (row : Account) (code : String) :
    (row.saved code).username = row.username := by
  unfold Account.saved
  split <;> rfl

@[simp] lemma isStaff_saved (row : Account) (code : String) :
    (row.saved code).isStaff = row.isStaff := by
  unfold Account.saved
  split <;> rfl

/-- Only the code that is drawn may clash when a valid user is saved. -/
lemma userFits_iff {row : Account} {data : UserData} (hrow : db.users.lookup pk = some row)
    (hvalid : UserSerializer.errors pk db data = []) (code : String) :
    db.UserFits pk ((row.withData data).saved code) ↔
      db.users.Free Account.codeKey pk ((row.withData data).saved code) := by
  have hname : db.users.Free Account.usernameKey pk ((row.withData data).saved code) :=
    free_of_uniqueErrors db.usernames hrow (List.append_eq_nil_iff.mp hvalid).1
      (username_saved _ code)
  exact and_iff_right hname

lemma supplierFits_withData {row : SupplierRow} {data : SupplierData}
    (hrow : db.suppliers.lookup pk = some row)
    (hvalid : SupplierSerializer.errors pk db data = []) (now : ℕ) :
    db.SupplierFits pk (row.withData data now) :=
  ⟨Table.free_of_key_eq db.profiles hrow rfl,
    free_of_uniqueErrors db.taxNumbers hrow hvalid rfl, db.supplierUsers pk row hrow⟩

lemma supplierFits_toggled {row : SupplierRow} (hrow : db.suppliers.lookup pk = some row)
    (now : ℕ) : db.SupplierFits pk (row.toggled now) :=
  ⟨Table.free_of_key_eq db.profiles hrow rfl, Table.free_of_key_eq db.taxNumbers hrow rfl,
    db.supplierUsers pk row hrow⟩

lemma productFits_withData {row : StoredProduct} {data : ProductData Price}
    (hrow : db.products.lookup pk = some row)
    (hvalid : ProductSerializer.errors pk db data = []) (now : ℕ) :
    db.ProductFits pk (row.withData data now) := by
  obtain ⟨hfirst, hcategory⟩ := List.append_eq_nil_iff.mp hvalid
  obtain ⟨hsku, hsupplier⟩ := List.append_eq_nil_iff.mp hfirst
  refine ⟨free_of_uniqueErrors db.skus hrow hsku rfl, ?_, ?_⟩
  · exact getD_of_relatedErrors hsupplier (db.productSuppliers pk row hrow)
  · have hold : decide (row.category ∈ db.categories) = true :=
      decide_eq_true (db.productCategories pk row hrow)
    have hnew := getD_of_relatedErrors hcategory hold
    exact of_decide_eq_true hnew

lemma productFits_withImage {row : StoredProduct} (hrow : db.products.lookup pk = some row)
    (name : String) (now : ℕ) : db.ProductFits pk (row.withImage name now) :=
  ⟨Table.free_of_key_eq db.skus hrow rfl, db.productSuppliers pk row hrow,
    db.productCategories pk row hrow⟩

/-! ## Users -/

section

variable {account : Account}

lemma updateUser_iff (h : P db) (query : UserQuery) (pk : ℕ) (body : Option UserData)
    (code : String) :
    P (UserViewSet.update query pk body code db).2 ↔
      ∀ row, UserViewSet.getObject query pk db = some row →
        ∀ data, body = some data → UserSerializer.errors pk db data = [] →
          ∀ hfits, P (db.setUser pk ((row.withData data).saved code) hfits) :=
  update_iff h fun _ _ => rfl

lemma destroyUser_iff (h : P db) (query : UserQuery) (pk : ℕ) :
    P (UserViewSet.destroy query pk db).2 ↔
      ∀ row, UserViewSet.getObject query pk db = some row →
        ∀ hfree, P (db.erase (.user pk) hfree) :=
  destroy_iff h

lemma not_refused_iff {own : Prop} [Decidable own] :
    (¬ (¬ own ∧ (!account.isStaff) = true)) ↔ own ∨ account.isStaff := by
  rw [Bool.not_eq_true', Classical.not_and_iff_not_or_not, not_not, Bool.not_eq_false]

lemma uploadAvatar_iff (h : P db) (query : UserQuery) (pk : ℕ) (file : Option String)
    (code : String) :
    P (UserViewSet.uploadAvatar user account query pk file code db).2 ↔
      ∀ row, UserViewSet.getObject query pk db = some row → pk = user ∨ account.isStaff →
        ∀ name, file = some name →
          ∀ hfits, P (db.setUser pk ((row.withAvatar name).saved code) hfits) := by
  refine (withObject_iff h).trans (forall₂_congr fun row _ => ?_)
  refine (refusal_iff h rfl).trans (imp_congr not_refused_iff ?_)
  rcases file with _ | name
  · exact iff_of_true h fun _ hname => (nomatch hname)
  · simp only [Option.some.injEq, forall_eq', snd_bind_pure]
    exact snd_dite_iff h

lemma deleteAvatar_iff (h : P db) (query : UserQuery) (pk : ℕ) (code : String) :
    P (UserViewSet.deleteAvatar user account query pk code db).2 ↔
      ∀ row, UserViewSet.getObject query pk db = some row → pk = user ∨ account.isStaff →
        row.avatar.isSome → ∀ hfits, P (db.setUser pk (row.withoutAvatar.saved code) hfits) := by
  refine (withObject_iff h).trans (forall₂_congr fun row _ => ?_)
  refine (refusal_iff h rfl).trans (imp_congr not_refused_iff ?_)
  by_cases havatar : row.avatar.isSome
  · rw [if_pos havatar, snd_bind_pure, forall_prop_of_true havatar]
    exact snd_dite_iff h
  · rw [if_neg havatar]
    exact iff_of_true h fun havatar' => absurd havatar' havatar

/-! ## Suppliers -/

lemma updateSupplier_iff (h : P db) (query : SupplierQuery) (pk : ℕ)
    (body : Option SupplierData) (now : ℕ) :
    P (SupplierViewSet.update query pk body now db).2 ↔
      ∀ row, SupplierViewSet.getObject query pk db = some row →
        ∀ data, body = some data → SupplierSerializer.errors pk db data = [] →
          ∀ hfits, P (db.setSupplier pk (row.withData data now) hfits) :=
  update_iff h fun _ _ => rfl

lemma destroySupplier_iff (h : P db) (query : SupplierQuery) (pk : ℕ) :
    P (SupplierViewSet.destroy query pk db).2 ↔
      ∀ row, SupplierViewSet.getObject query pk db = some row →
        ∀ hfree, P (db.erase (.supplier pk) hfree) :=
  destroy_iff h

lemma toggleAcceptOrders_iff (h : P db) (query : SupplierQuery) (pk now : ℕ) :
    P (SupplierViewSet.toggleAcceptOrders query pk now db).2 ↔
      ∀ row, SupplierViewSet.getObject query pk db = some row →
        ∀ hfits, P (db.setSupplier pk (row.toggled now) hfits) := by
  refine (withObject_iff h).trans (forall₂_congr fun row _ => ?_)
  rw [snd_bind_pure]
  exact snd_dite_iff h

/-! ## Products -/

lemma updateProduct_iff (h : P db) (query : ProductQuery) (pk : ℕ)
    (body : Option (ProductData Price))
    (now : ℕ) :
    P (ProductViewSet.update user account query pk body now db).2 ↔
      ∀ row, ProductViewSet.getObject user account query pk db = some row →
        ∀ data, body = some data → ProductSerializer.errors pk db data = [] →
          ∀ hfits, P (db.setProduct pk (row.withData data now) hfits) :=
  update_iff h fun _ _ => rfl

lemma destroyProduct_iff (h : P db) (query : ProductQuery) (pk : ℕ) :
    P (ProductViewSet.destroy user account query pk db).2 ↔
      ∀ row, ProductViewSet.getObject user account query pk db = some row →
        ∀ hfree, P (db.erase (.product pk) hfree) :=
  destroy_iff h

lemma uploadImage_iff (h : P db) (query : ProductQuery) (pk : ℕ) (file : Option String)
    (now : ℕ) :
    P (ProductViewSet.uploadImage user account query pk file now db).2 ↔
      ∀ row, ProductViewSet.getObject user account query pk db = some row →
        db.ownerOf row = some user ∨ account.isStaff → ∀ name, file = some name →
          ∀ hfits, P (db.setProduct pk (row.withImage name now) hfits) := by
  refine (withObject_iff h).trans (forall₂_congr fun row _ => ?_)
  rw [bind_of_ok (get_apply db)]
  refine (refusal_iff h rfl).trans (imp_congr not_refused_iff ?_)
  rcases file with _ | name
  · exact iff_of_true h fun _ hname => (nomatch hname)
  · simp only [Option.some.injEq, forall_eq', snd_bind_pure]
    exact snd_dite_iff h

lemma addAdditionalImage_iff (h : P db) (query : ProductQuery) (pk : ℕ)
    (file sortOrder : Option String) :
    P (ProductViewSet.addAdditionalImage user account query pk file sortOrder db).2 ↔
      ∀ row, ProductViewSet.getObject user account query pk db = some row →
        db.ownerOf row = some user ∨ account.isStaff → ∀ name, file = some name →
          ∀ n, ProductViewSet.sortOrderColumn sortOrder = .ok n →
            ∀ hthere, P (db.addImage ⟨pk, some name, none, none, none, n⟩ hthere) := by
  refine (withObject_iff h).trans (forall₂_congr fun row _ => ?_)
  rw [bind_of_ok (get_apply db)]
  refine (refusal_iff h rfl).trans (imp_congr not_refused_iff ?_)
  rcases file with _ | name
  · exact iff_of_true h fun _ hname => (nomatch hname)
  · rcases ProductViewSet.sortOrderColumn sortOrder with e | n
    · exact iff_of_true h fun _ _ _ hn => (nomatch hn)
    · simp only [Option.some.injEq, Except.ok.injEq, forall_eq', lift_ok, pure_bind,
        snd_bind_pure]
      exact snd_dite_iff h

/-- The image that is found is one of the product. -/
lemma image_of_imageOf {text : String} {image : ℕ}
    (h : ProductViewSet.imageOf db pk text = .ok (some image)) :
    ∃ row, db.images.lookup image = some row ∧ row.product = pk := by
  obtain ⟨n, -, hn⟩ := except_bind_eq_ok.mp h
  rcases n with n | n
  · have himage := Except.ok.inj hn
    split at himage
    · next hany =>
        obtain rfl := Option.some.inj himage
        obtain ⟨row, hrow, hproduct⟩ := (Option.any_eq_true _ _).mp hany
        exact ⟨row, hrow, of_decide_eq_true hproduct⟩
    · cases himage
  · cases Except.ok.inj hn

lemma removeAdditionalImage_iff (h : P db) (query : ProductQuery) (pk : ℕ)
    (imageId : Option String) :
    P (ProductViewSet.removeAdditionalImage user account query pk imageId db).2 ↔
      ∀ row, ProductViewSet.getObject user account query pk db = some row →
        ∀ text, imageId = some text → text ≠ "" →
          ∀ image, ProductViewSet.imageOf db pk text = .ok (some image) →
            P (MarketDb.deleteImage image db).2 := by
  refine (withObject_iff h).trans (forall₂_congr fun row _ => ?_)
  rw [bind_of_ok (get_apply db)]
  rcases imageId with _ | text
  · exact iff_of_true h fun _ htext => (nomatch htext)
  · simp only [Option.some.injEq, forall_eq']
    by_cases htext : text = ""
    · subst htext
      exact iff_of_true h fun hempty => absurd rfl hempty
    · rcases himage : ProductViewSet.imageOf db pk text with e | _ | image
      · simp only [himage, lift_error, throw_bind]
        exact iff_of_true h fun _ image hfound => (nomatch hfound)
      · simp only [himage, lift_ok, pure_bind]
        exact iff_of_true h fun _ image hfound => (nomatch hfound)
      · simp only [himage, lift_ok, pure_bind, snd_bind_pure, Except.ok.injEq,
          Option.some.injEq, forall_eq', ne_eq, htext, not_false_eq_true, forall_const]

end

/-! ## Any request -/

/-- What holds after every single write holds after a request. -/
lemma exec_of_writes (h : P db) (huser : ∀ pk row hfits, P (db.setUser pk row hfits))
    (hsupplier : ∀ pk row hfits, P (db.setSupplier pk row hfits))
    (hproduct : ∀ pk row hfits, P (db.setProduct pk row hfits))
    (himage : ∀ row hthere, P (db.addImage row hthere))
    (herase : ∀ doomed hfree, P (db.erase doomed hfree))
    (hdelete : ∀ image, P (MarketDb.deleteImage image db).2) (user : ℕ)
    (request : MarketRequest) : P (exec user request db) := by
  refine (asUser_iff (P := P) h).mpr fun account _ => ?_
  rcases request with ⟨query, pk, action⟩ | ⟨query, pk, action⟩ | ⟨query, pk, action⟩
  · rcases action with ⟨body, code⟩ | _ | ⟨file, code⟩ | code
    · exact (updateUser_iff h query pk body code).mpr fun _ _ _ _ _ => huser _ _
    · exact (destroyUser_iff h query pk).mpr fun _ _ => herase _
    · exact (uploadAvatar_iff h query pk file code).mpr fun _ _ _ _ _ => huser _ _
    · exact (deleteAvatar_iff h query pk code).mpr fun _ _ _ _ => huser _ _
  · rcases action with ⟨body, now⟩ | _ | now
    · exact (updateSupplier_iff h query pk body now).mpr fun _ _ _ _ _ => hsupplier _ _
    · exact (destroySupplier_iff h query pk).mpr fun _ _ => herase _
    · exact (toggleAcceptOrders_iff h query pk now).mpr fun _ _ => hsupplier _ _
  · rcases action with ⟨body, now⟩ | _ | ⟨file, now⟩ | ⟨file, sortOrder⟩ | imageId
    · exact (updateProduct_iff h query pk body now).mpr fun _ _ _ _ _ => hproduct _ _
    · exact (destroyProduct_iff h query pk).mpr fun _ _ => herase _
    · exact (uploadImage_iff h query pk file now).mpr fun _ _ _ _ _ => hproduct _ _
    · exact (addAdditionalImage_iff h query pk file sortOrder).mpr
        fun _ _ _ _ _ _ _ => himage _
    · exact (removeAdditionalImage_iff h query pk imageId).mpr
        fun _ _ _ _ _ image _ => hdelete image

end Market

end OrdersBackend
