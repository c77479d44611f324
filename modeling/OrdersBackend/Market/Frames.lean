import OrdersBackend.Market.Requests

/-!
# Writes and the rows of other users

`OthersKept user` relates two states when the second one has every row of other users as the
first one has it: the users themselves, their profiles, and their products with the images.
It is a preorder.  For every write of a request there is a lemma that says on which rows it
keeps the others; a deletion keeps them when it starts from none of them, wherever the foreign
keys lead.

The rows that pass the validation fit into the tables, so that the save of a profile or of a
product does not raise.
-/

namespace OrdersBackend

open Framework

namespace MarketDb

/-- The product belongs to the profile of another user. -/
def Foreign (db : MarketDb) (user : ℕ) (row : StoredProduct) : Prop :=
  ∃ supplier, db.suppliers.lookup row.supplier = some supplier ∧ supplier.user ≠ user

/-- `db'` has the rows of the users other than `user` as `db` has them. -/
structure OthersKept (user : ℕ) (db db' : MarketDb) : Prop where
  users : ∀ id, id ≠ user → db'.users.lookup id = db.users.lookup id
  suppliers : ∀ id row, db.suppliers.lookup id = some row → row.user ≠ user →
    db'.suppliers.lookup id = some row
  products : ∀ id row, db.products.lookup id = some row → db.Foreign user row →
    db'.products.lookup id = some row
  images : ∀ id row, db.products.lookup id = some row → db.Foreign user row →
    ∀ i image, image.product = id →
      (db'.images.lookup i = some image ↔ db.images.lookup i = some image)

variable {db db' db'' : MarketDb} {user id : ℕ}

/-- The owner of a product is another user when `product.supplier.user` is. -/
lemma foreign_iff {row : StoredProduct} (h : db.products.lookup id = some row) :
    db.Foreign user row ↔ db.ownerOf row ≠ some user := by
  obtain ⟨supplier, hsupplier⟩ := Option.isSome_iff_exists.mp (db.productSuppliers id row h)
  unfold Foreign ownerOf
  simp [hsupplier]

namespace OthersKept

lemma refl (user : ℕ) (db : MarketDb) : OthersKept user db db :=
  ⟨fun _ _ => rfl, fun _ _ h _ => h, fun _ _ h _ => h, fun _ _ _ _ _ _ _ => Iff.rfl⟩

/-- The owner of a foreign product is kept, so that it stays foreign. -/
lemma foreign (h : OthersKept user db db') {row : StoredProduct} (hrow : db.Foreign user row) :
    db'.Foreign user row := by
  obtain ⟨supplier, hsupplier, hother⟩ := hrow
  exact ⟨supplier, h.suppliers _ _ hsupplier hother, hother⟩

lemma trans (h : OthersKept user db db') (h' : OthersKept user db' db'') :
    OthersKept user db db'' where
  users := fun id hid => (h'.users id hid).trans (h.users id hid)
  suppliers := fun id row hrow hother =>
    h'.suppliers id row (h.suppliers id row hrow hother) hother
  products := fun id row hrow hother =>
    h'.products id row (h.products id row hrow hother) (h.foreign hother)
  images := fun id row hrow hother i image himage =>
    (h'.images id row (h.products id row hrow hother) (h.foreign hother) i image himage).trans
      (h.images id row hrow hother i image himage)

end OthersKept

/-! ## Saves -/

lemma othersKept_setUser_iff {old row : Account} (hold : db.users.lookup id = some old)
    (hfits : db.UserFits id row) :
    OthersKept user db (db.setUser id row hfits) ↔ id = user ∨ row = old := by
  constructor
  · intro h
    by_cases hid : id = user
    · exact .inl hid
    · have hkept : (db.users.update id row).lookup id = db.users.lookup id := h.users id hid
      rw [Table.lookup_update_self hold, hold] at hkept
      exact .inr (Option.some.inj hkept)
  · intro h
    refine ⟨fun id' hid' => ?_, fun _ _ hrow _ => hrow, fun _ _ hrow _ => hrow,
      fun _ _ _ _ _ _ _ => Iff.rfl⟩
    show (db.users.update id row).lookup id' = db.users.lookup id'
    rcases eq_or_ne id' id with rfl | hne
    · rw [Table.lookup_update_self hold, hold, h.resolve_left hid']
    · exact Table.lookup_update_of_ne db.users row hne

lemma othersKept_setSupplier_iff {old row : SupplierRow}
    (hold : db.suppliers.lookup id = some old) (hfits : db.SupplierFits id row) :
    OthersKept user db (db.setSupplier id row hfits) ↔ old.user = user ∨ row = old := by
  constructor
  · intro h
    by_cases hown : old.user = user
    · exact .inl hown
    · have hkept : (db.suppliers.update id row).lookup id = some old :=
        h.suppliers id old hold hown
      rw [Table.lookup_update_self hold] at hkept
      exact .inr (Option.some.inj hkept)
  · intro h
    refine ⟨fun _ _ => rfl, fun id' row' hrow' hother => ?_, fun _ _ hrow _ => hrow,
      fun _ _ _ _ _ _ _ => Iff.rfl⟩
    refine Table.lookup_update_kept hrow' ?_
    rintro rfl
    obtain rfl := Option.some.inj (hold.symm.trans hrow')
    exact h.resolve_left hother

lemma othersKept_setProduct_iff {old row : StoredProduct}
    (hold : db.products.lookup id = some old) (hfits : db.ProductFits id row) :
    OthersKept user db (db.setProduct id row hfits) ↔ ¬ db.Foreign user old ∨ row = old := by
  constructor
  · intro h
    by_cases hown : db.Foreign user old
    · have hkept : (db.products.update id row).lookup id = some old :=
        h.products id old hold hown
      rw [Table.lookup_update_self hold] at hkept
      exact .inr (Option.some.inj hkept)
    · exact .inl hown
  · intro h
    refine ⟨fun _ _ => rfl, fun _ _ hrow _ => hrow, fun id' row' hrow' hother => ?_,
      fun _ _ _ _ _ _ _ => Iff.rfl⟩
    refine Table.lookup_update_kept hrow' ?_
    rintro rfl
    obtain rfl := Option.some.inj (hold.symm.trans hrow')
    exact h.resolve_left fun hown => hown hother

/-! ## Images -/

/-- An image may be added to a product that is not foreign. -/
lemma othersKept_addImage {row : StoredProduct} {image : ProductImage}
    (hrow : db.products.lookup image.product = some row) (hown : ¬ db.Foreign user row)
    (h : (db.products.lookup image.product).isSome) :
    OthersKept user db (db.addImage image h) := by
  refine ⟨fun _ _ => rfl, fun _ _ hrow _ => hrow, fun _ _ hrow _ => hrow,
    fun id row' hrow' hother i other hproduct => ?_⟩
  show (db.images.insert image).lookup i = some other ↔ db.images.lookup i = some other
  rcases eq_or_ne i db.images.nextId with rfl | hi
  · rw [Table.lookup_insert_self, Table.lookup_nextId]
    refine ⟨fun heq => ?_, fun heq => (nomatch heq)⟩
    obtain rfl := Option.some.inj heq
    rw [← hproduct, hrow] at hrow'
    obtain rfl := Option.some.inj hrow'
    exact absurd hother hown
  · rw [Table.lookup_insert_of_ne _ _ hi]

lemma othersKept_deleteImage_iff {row : StoredProduct} {image : ProductImage}
    (himage : db.images.lookup id = some image)
    (hrow : db.products.lookup image.product = some row) :
    OthersKept user db (deleteImage id db).2 ↔ ¬ db.Foreign user row := by
  have hlookup : ∀ i other, (deleteImage id db).2.images.lookup i = some other ↔
      db.images.lookup i = some other ∧ i ≠ id := by
    intro i other
    show (db.images.filter (· ≠ id)).lookup i = some other ↔ _
    rw [Table.lookup_filter_eq_some, decide_eq_true_iff]
  constructor
  · intro h hforeign
    have hkept := (h.images _ row hrow hforeign id image rfl).mpr himage
    exact ((hlookup id image).mp hkept).2 rfl
  · intro hown
    refine ⟨fun _ _ => rfl, fun _ _ hrow _ => hrow, fun _ _ hrow _ => hrow,
      fun id' row' hrow' hother i other hproduct => ?_⟩
    rw [hlookup]
    refine ⟨fun h => h.1, fun h => ⟨h, ?_⟩⟩
    rintro rfl
    obtain rfl := Option.some.inj (himage.symm.trans h)
    rw [← hproduct, hrow] at hrow'
    obtain rfl := Option.some.inj hrow'
    exact hown hother

/-! ## Deletions -/

section

variable {doomed : Doomed}

/-- A deletion that starts from no row of another user reaches none. -/
lemma othersKept_erase (h : ¬ db.Protected doomed)
    (husers : ∀ id, id ≠ user → doomed.users id = false)
    (hsuppliers : ∀ id row, db.suppliers.lookup id = some row → row.user ≠ user →
      doomed.suppliers id = false)
    (hproducts : ∀ id row, db.products.lookup id = some row → db.Foreign user row →
      doomed.products id = false) :
    OthersKept user db (db.erase doomed h) := by
  -- the cascades go from a user to his profile, and from there to its products
  have hsupplier : ∀ id row, db.suppliers.lookup id = some row → row.user ≠ user →
      db.collectsSupplier doomed id = false := by
    intro id row hrow hother
    simp [collectsSupplier, hrow, hsuppliers id row hrow hother, husers row.user hother]
  have hproduct : ∀ id row, db.products.lookup id = some row → db.Foreign user row →
      db.collectsProduct doomed id = false := by
    intro id row hrow hforeign
    obtain ⟨supplier, hlookup, hother⟩ := hforeign
    simp [collectsProduct, hrow, hproducts id row hrow ⟨supplier, hlookup, hother⟩,
      hsupplier _ supplier hlookup hother]
  refine ⟨fun id hid => ?_, fun id row hrow hother => ?_, fun id row hrow hother => ?_,
    fun id row hrow hother i image himage => ?_⟩
  · show (db.users.filter fun id => !doomed.users id).lookup id = db.users.lookup id
    refine Option.ext fun row => ?_
    rw [Table.lookup_filter_eq_some, husers id hid]
    simp
  · exact Table.lookup_filter_eq_some.mpr ⟨hrow, by rw [hsupplier id row hrow hother]; rfl⟩
  · exact Table.lookup_filter_eq_some.mpr ⟨hrow, by rw [hproduct id row hrow hother]; rfl⟩
  · show (db.images.restrict fun i => !db.collectsProduct doomed i.product).lookup i =
      some image ↔ _
    rw [Table.lookup_restrict_eq_some, himage, hproduct id row hrow hother]
    simp

end

lemma othersKept_eraseUser_iff {row : Account} (hrow : db.users.lookup id = some row)
    (h : ¬ db.Protected (.user id)) :
    OthersKept user db (db.erase (.user id) h) ↔ id = user := by
  constructor
  · intro hkept
    by_contra hid
    have hlookup := (hkept.users id hid).trans hrow
    have hgone := (Table.lookup_filter_eq_some.mp hlookup).2
    simp [Doomed.user] at hgone
  · rintro rfl
    exact othersKept_erase h (fun id' hid' => decide_eq_false hid') (fun _ _ _ _ => rfl)
      fun _ _ _ _ => rfl

lemma othersKept_eraseSupplier_iff {row : SupplierRow}
    (hrow : db.suppliers.lookup id = some row) (h : ¬ db.Protected (.supplier id)) :
    OthersKept user db (db.erase (.supplier id) h) ↔ row.user = user := by
  constructor
  · intro hkept
    by_contra hother
    have hlookup := hkept.suppliers id row hrow hother
    have hgone := (Table.lookup_filter_eq_some.mp hlookup).2
    simp [collectsSupplier, Doomed.supplier] at hgone
  · intro hown
    refine othersKept_erase h (fun _ _ => rfl) (fun id' row' hrow' hother => ?_)
      fun _ _ _ _ => rfl
    refine decide_eq_false ?_
    rintro rfl
    obtain rfl := Option.some.inj (hrow.symm.trans hrow')
    exact hother hown

lemma othersKept_eraseProduct_iff {row : StoredProduct}
    (hrow : db.products.lookup id = some row) (h : ¬ db.Protected (.product id)) :
    OthersKept user db (db.erase (.product id) h) ↔ ¬ db.Foreign user row := by
  constructor
  · intro hkept hforeign
    have hlookup := hkept.products id row hrow hforeign
    have hgone := (Table.lookup_filter_eq_some.mp hlookup).2
    simp [collectsProduct, Doomed.product] at hgone
  · intro hown
    refine othersKept_erase h (fun _ _ => rfl) (fun _ _ _ _ => rfl)
      fun id' row' hrow' hother => ?_
    refine decide_eq_false ?_
    rintro rfl
    obtain rfl := Option.some.inj (hrow.symm.trans hrow')
    exact hown hother

end MarketDb

end OrdersBackend
