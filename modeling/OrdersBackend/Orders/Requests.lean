import OrdersBackend.Orders.Creation

/-!
# What an event does to an order

An order that is there stays there, with its number, its amount and its items, whatever
happens next; `Change` lists what an event may do to the other columns, with what the request
must have met to get that far.  `exec_evolves` says that these are all the cases.  The
invariants of orders over runs are read off it.
-/

namespace OrdersBackend

open Framework Tx

namespace OrderViewSet

/-! ## Seeing an order -/

lemma mem_of_getQueryset {db : OrdersDb} {user : ℕ} {userType : UserType} {rows : List (ℕ × Order)}
    (h : getQueryset db user userType = .ok rows) {r : ℕ × Order} (hr : r ∈ rows) :
    r ∈ db.orders.rows := by
  unfold getQueryset at h
  rcases userType with _ | _ | _
  · rw [← Except.ok.inj h] at hr
    exact (List.mem_filter.mp hr).1
  · rcases hprofile : db.accounts.profile user with _ | supplier
    · simp only [hprofile] at h
      cases h
    · simp only [hprofile] at h
      rw [← Except.ok.inj h] at hr
      exact (List.mem_filter.mp hr).1
  · rw [← Except.ok.inj h] at hr
    exact hr

/-- The order a user gets is the one in the table. -/
lemma lookup_of_getObject {db : OrdersDb} {user id : ℕ} {userType : UserType} {order : Order}
    (h : getObject db user userType id = .ok (some order)) :
    db.orders.lookup id = some order := by
  obtain ⟨rows, hrows, hlookup⟩ := except_bind_eq_ok.mp h
  have hsome : rows.lookup id = some order := Except.ok.inj hlookup
  obtain ⟨l₁, l₂, hsplit, -⟩ := List.lookup_eq_some_iff.mp hsome
  have hmem : (id, order) ∈ rows := by
    rw [hsplit]
    simp
  exact Table.mem_rows_iff.mp (mem_of_getQueryset hrows hmem)

/-- The user `user` sees the order `id`, and its row is `order`. -/
def Sees (db : OrdersDb) (user id : ℕ) (u : User) (order : Order) : Prop :=
  db.accounts.users.lookup user = some u ∧ getObject db user u.userType id = .ok (some order)

/-- A request about an order the user sees goes on with it. -/
lemma withObject_of_sees {db : OrdersDb} {user id : ℕ} {u : User} {order : Order}
    (h : Sees db user id u order)
    (action : UserType → Order → Tx OrdersDb PyErr OrderAnswer) :
    withObject user id action db = action u.userType order db := by
  unfold withObject
  rw [bind_of_ok (get_apply db), h.1]
  dsimp only
  rw [bind_of_ok (show lift (getObject db user u.userType id) db = (.ok (some order), db) by
    rw [h.2]; rfl)]

/-- A request about any other order changes nothing. -/
lemma withObject_cases (user id : ℕ) (action : UserType → Order → Tx OrdersDb PyErr OrderAnswer)
    (db : OrdersDb) :
    (withObject user id action db).2 = db ∨ ∃ u order, Sees db user id u order := by
  unfold withObject
  rw [bind_of_ok (get_apply db)]
  rcases huser : db.accounts.users.lookup user with _ | u
  · exact .inl rfl
  · dsimp only
    rcases hobject : getObject db user u.userType id with e | _ | order
    · exact .inl rfl
    · exact .inl rfl
    · exact .inr ⟨u, order, huser, hobject⟩

/-! ## Changes -/

/-- The row `update` saves. -/
def updatedOrder (order : Order) (data : OrderData) : Order :=
  { order with
    client := data.client.getD order.client
    status := data.status.getD order.status
    deliveryAddress := data.deliveryAddress.getD order.deliveryAddress
    contactPhone := data.contactPhone.getD order.contactPhone
    notes := data.notes.getD order.notes }

/-- The row `confirm` saves. -/
def confirmedOrder (order : Order) (now : ℕ) : Order :=
  { order with status := .confirmed, confirmedAt := some now }

/-- What an event may make of the order `id`. -/
inductive Change (db : OrdersDb) (id : ℕ) (order : Order) : OrderEvent → Order → Prop
  | kept (event : OrderEvent) : Change db id order event order
  | updated (user : ℕ) (isPartial : Bool) (body : OrderBody) (u : User) (data : OrderData) :
    Sees db user id u order → OrderSerializer.validate db isPartial body = .ok data →
    Change db id order (.update user id isPartial body) (updatedOrder order data)
  | confirmed (user now : ℕ) (u : User) (supplier : ℕ) :
    Sees db user id u order → u.userType = .supplier → db.accounts.profile user = some supplier →
    hasItemOf db id supplier →
    Change db id order (.confirm user id now) (confirmedOrder order now)
  | cancelled (user : ℕ) (u : User) :
    Sees db user id u order → order.client = user → order.status ≠ .shipped →
    order.status ≠ .delivered →
    Change db id order (.cancel user id) { order with status := .cancelled }

/-- An event leaves the order `id` in the table, with its items, and changes it as it may. -/
def Evolves (event : OrderEvent) (db : OrdersDb) (id : ℕ) (order : Order) (db' : OrdersDb) : Prop :=
  db'.itemsOf id = db.itemsOf id ∧
    ∃ order', db'.orders.lookup id = some order' ∧ Change db id order event order'

lemma evolves_of_eq {event : OrderEvent} {db db' : OrdersDb} {id : ℕ} {order : Order}
    (h : db.orders.lookup id = some order) (horders : db'.orders.lookup id = db.orders.lookup id)
    (hitems : db'.itemsOf id = db.itemsOf id) : Evolves event db id order db' :=
  ⟨hitems, order, horders.trans h, .kept event⟩

/-- A save of the order `other` evolves the order `id` when it changes `other` as it may. -/
lemma evolves_of_save {event : OrderEvent} {db : OrdersDb} {id other : ℕ} {order saved : Order}
    (h : db.orders.lookup id = some order) (hfree : db.orders.Free Order.numberKey other saved)
    (hchange : other = id → Change db id order event saved) :
    Evolves event db id order (db.setOrder other saved hfree) := by
  rcases eq_or_ne id other with rfl | hne
  · exact ⟨rfl, saved, Table.lookup_update_self h saved, hchange rfl⟩
  · exact evolves_of_eq h (Table.lookup_update_of_ne _ _ hne) rfl

/-! ## Requests that go through -/

/-- The status of validated data is that of the request. -/
lemma status_of_validate {db : OrdersDb} {isPartial : Bool} {body : OrderBody} {data : OrderData}
    (h : OrderSerializer.validate db isPartial body = .ok data) : data.status = body.status := by
  unfold OrderSerializer.validate at h
  rcases hitems : OrderSerializer.validateItemsField db isPartial body.items with errors | items
  · simp only [hitems] at h
    cases h
  · simp only [hitems] at h
    split at h
    · cases h
    · rw [← Except.ok.inj h]

/-- A valid update of an order the user sees saves the updated row. -/
lemma updateOrder_of_sees {db : OrdersDb} {user id : ℕ} {u : User} {order : Order}
    {isPartial : Bool} {body : OrderBody} {data : OrderData} (hsees : Sees db user id u order)
    (hvalid : OrderSerializer.validate db isPartial body = .ok data) :
    ∃ hfree, updateOrder user id isPartial body db =
      (.ok (.updated id), db.setOrder id (updatedOrder order data) hfree) := by
  have hfree : db.orders.Free Order.numberKey id (updatedOrder order data) :=
    OrdersDb.free_of_same_number (lookup_of_getObject hsees.2) rfl
  have hsave : OrderSerializer.update id order data db =
      (.ok (), db.setOrder id (updatedOrder order data) hfree) :=
    OrdersDb.saveOrder_of_free hfree
  refine ⟨hfree, ?_⟩
  unfold updateOrder
  rw [withObject_of_sees hsees, bind_of_ok (get_apply db), hvalid]
  exact bind_of_ok hsave

/-- A confirmation by a supplier with an item in the order saves the confirmed row. -/
lemma confirm_of_sees {db : OrdersDb} {user id : ℕ} {u : User} {order : Order} {supplier : ℕ}
    (hsees : Sees db user id u order) (now : ℕ) (htype : u.userType = .supplier)
    (hprofile : db.accounts.profile user = some supplier) (hitem : hasItemOf db id supplier) :
    ∃ hfree, confirm user id now db =
      (.ok (.message "Заказ подтвержден"), db.setOrder id (confirmedOrder order now) hfree) := by
  have hfree : db.orders.Free Order.numberKey id (confirmedOrder order now) :=
    OrdersDb.free_of_same_number (lookup_of_getObject hsees.2) rfl
  refine ⟨hfree, ?_⟩
  unfold confirm
  rw [withObject_of_sees hsees, bind_of_ok (get_apply db), if_neg (not_not.mpr htype), hprofile]
  simp only [hitem]
  exact bind_of_ok (OrdersDb.saveOrder_of_free hfree)

/-- An update the validation refuses changes nothing. -/
lemma updateOrder_of_invalid {db : OrdersDb} {user id : ℕ} {u : User} {order : Order}
    {isPartial : Bool} {body : OrderBody} {errors : List OrderError}
    (hsees : Sees db user id u order)
    (hvalid : OrderSerializer.validate db isPartial body = .error errors) :
    (updateOrder user id isPartial body db).2 = db := by
  unfold updateOrder
  rw [withObject_of_sees hsees, bind_of_ok (get_apply db), hvalid]
  rfl

/-- What `confirm` asks for. -/
def MayConfirm (db : OrdersDb) (user id : ℕ) (u : User) : Prop :=
  u.userType = .supplier ∧
    ∃ supplier, db.accounts.profile user = some supplier ∧ hasItemOf db id supplier

instance (db : OrdersDb) (user id : ℕ) (u : User) : Decidable (MayConfirm db user id u) :=
  decidable_of_iff (u.userType = .supplier ∧ (db.accounts.profile user).any (hasItemOf db id)) <| by
    unfold MayConfirm
    rcases db.accounts.profile user with _ | supplier <;> simp

/-- A confirmation by anybody else changes nothing. -/
lemma confirm_of_refused {db : OrdersDb} {user id : ℕ} {u : User} {order : Order}
    (hsees : Sees db user id u order) (h : ¬ MayConfirm db user id u) (now : ℕ) :
    (confirm user id now db).2 = db := by
  unfold confirm
  rw [withObject_of_sees hsees, bind_of_ok (get_apply db)]
  by_cases htype : u.userType = .supplier
  · rw [if_neg (not_not.mpr htype)]
    rcases hprofile : db.accounts.profile user with _ | supplier
    · rfl
    · have hitem : hasItemOf db id supplier = false := by
        rw [Bool.eq_false_iff]
        exact fun hitem => h ⟨htype, supplier, hprofile, hitem⟩
      simp only [hitem]
      rfl
  · rw [if_pos htype]
    rfl

/-- What `cancel` asks for. -/
def MayCancel (user : ℕ) (order : Order) : Prop :=
  order.client = user ∧ order.status ≠ .shipped ∧ order.status ≠ .delivered

instance (user : ℕ) (order : Order) : Decidable (MayCancel user order) :=
  inferInstanceAs (Decidable (_ ∧ _ ∧ _))

/-- A cancellation by the client, in time, saves the cancelled row. -/
lemma cancel_of_sees {db : OrdersDb} {user id : ℕ} {u : User} {order : Order}
    (hsees : Sees db user id u order) (h : MayCancel user order) :
    ∃ hfree, cancel user id db =
      (.ok (.message "Заказ отменен"),
        db.setOrder id { order with status := .cancelled } hfree) := by
  have hfree : db.orders.Free Order.numberKey id { order with status := .cancelled } :=
    OrdersDb.free_of_same_number (lookup_of_getObject hsees.2) rfl
  obtain ⟨hclient, hshipped, hdelivered⟩ := h
  have hsent : ¬ (order.status = .shipped ∨ order.status = .delivered) := by
    push Not
    exact ⟨hshipped, hdelivered⟩
  refine ⟨hfree, ?_⟩
  unfold cancel
  rw [withObject_of_sees hsees, if_neg (not_not.mpr hclient), if_neg hsent]
  exact bind_of_ok (OrdersDb.saveOrder_of_free hfree)

/-- Any other cancellation changes nothing. -/
lemma cancel_of_refused {db : OrdersDb} {user id : ℕ} {u : User} {order : Order}
    (hsees : Sees db user id u order) (h : ¬ MayCancel user order) :
    (cancel user id db).2 = db := by
  unfold cancel
  rw [withObject_of_sees hsees]
  by_cases hclient : order.client = user
  · rw [if_neg (not_not.mpr hclient)]
    have hsent : order.status = .shipped ∨ order.status = .delivered := by
      by_contra hnot
      push Not at hnot
      exact h ⟨hclient, hnot⟩
    rw [if_pos hsent]
    rfl
  · rw [if_pos hclient]
    rfl

/-! ## The row after a request -/

/-- A valid update leaves the status of its body. -/
lemma status_updatedOrder {db : OrdersDb} {isPartial : Bool} {body : OrderBody} {data : OrderData}
    {status : OrderStatus} (order : Order)
    (hvalid : OrderSerializer.validate db isPartial body = .ok data)
    (hstatus : body.status = some status) : (updatedOrder order data).status = status := by
  show data.status.getD order.status = status
  rw [status_of_validate hvalid, hstatus, Option.getD_some]

lemma lookup_updateOrder {db : OrdersDb} {user id : ℕ} {u : User} {order : Order}
    {isPartial : Bool} {body : OrderBody} {data : OrderData} (hsees : Sees db user id u order)
    (hvalid : OrderSerializer.validate db isPartial body = .ok data) :
    (exec (.update user id isPartial body) db).orders.lookup id =
      some (updatedOrder order data) := by
  obtain ⟨hfree, hupdate⟩ := updateOrder_of_sees hsees hvalid
  show ((updateOrder user id isPartial body db).2).orders.lookup id = _
  rw [hupdate]
  exact Table.lookup_update_self (lookup_of_getObject hsees.2) _

lemma lookup_confirm {db : OrdersDb} {user id : ℕ} {u : User} {order : Order} {supplier : ℕ}
    (hsees : Sees db user id u order) (now : ℕ) (htype : u.userType = .supplier)
    (hprofile : db.accounts.profile user = some supplier) (hitem : hasItemOf db id supplier) :
    (exec (.confirm user id now) db).orders.lookup id = some (confirmedOrder order now) := by
  obtain ⟨hfree, hconfirm⟩ := confirm_of_sees hsees now htype hprofile hitem
  show ((confirm user id now db).2).orders.lookup id = _
  rw [hconfirm]
  exact Table.lookup_update_self (lookup_of_getObject hsees.2) _

/-! ## One case per event -/

/-- A creation changes the order under the next id at most. -/
lemma sameBut_createOrder (db : OrdersDb) (user : ℕ) (body : OrderBody) (orderNumber : String)
    (now : ℕ) : SameBut db.orders.nextId db (createOrder user body orderNumber now db).2 := by
  unfold createOrder
  rw [bind_of_ok (get_apply db)]
  by_cases huser : (db.accounts.users.lookup user).isNone
  · rw [if_pos huser]
    exact SameBut.refl _ db
  · rw [if_neg huser]
    rcases hvalid : OrderSerializer.validate db false body with errors | data
    · exact SameBut.refl _ db
    · have hcreate := OrderSerializer.sameBut_create db orderNumber now user data
      dsimp only
      rcases hrun : OrderSerializer.create orderNumber now user data db with ⟨e | new, db'⟩
      · rw [bind_of_error hrun]
        rw [hrun] at hcreate
        exact hcreate
      · rw [bind_of_ok hrun]
        rw [hrun] at hcreate
        exact hcreate

/-- A request about one order saves nothing, or what it may make of the row it finds. -/
def SavesChange (event : OrderEvent) (db db' : OrdersDb) : Prop :=
  db' = db ∨ ∃ id seen saved, ∃ hfree : db.orders.Free Order.numberKey id saved,
    db.orders.lookup id = some seen ∧ Change db id seen event saved ∧
      db' = db.setOrder id saved hfree

lemma update_savesChange (db : OrdersDb) (user id : ℕ) (isPartial : Bool) (body : OrderBody) :
    SavesChange (.update user id isPartial body) db (updateOrder user id isPartial body db).2 := by
  rcases withObject_cases user id _ db with hdb | ⟨u, seen, hsees⟩
  · exact .inl hdb
  · rcases hvalid : OrderSerializer.validate db isPartial body with errors | data
    · exact .inl (updateOrder_of_invalid hsees hvalid)
    · obtain ⟨hfree, hupdate⟩ := updateOrder_of_sees hsees hvalid
      exact .inr ⟨id, seen, _, hfree, lookup_of_getObject hsees.2,
        .updated user isPartial body u data hsees hvalid, congrArg Prod.snd hupdate⟩

lemma confirm_savesChange (db : OrdersDb) (user id now : ℕ) :
    SavesChange (.confirm user id now) db (confirm user id now db).2 := by
  rcases withObject_cases user id _ db with hdb | ⟨u, seen, hsees⟩
  · exact .inl hdb
  · by_cases hconfirms : MayConfirm db user id u
    · obtain ⟨htype, supplier, hprofile, hitem⟩ := hconfirms
      obtain ⟨hfree, hconfirm⟩ := confirm_of_sees hsees now htype hprofile hitem
      exact .inr ⟨id, seen, _, hfree, lookup_of_getObject hsees.2,
        .confirmed user now u supplier hsees htype hprofile hitem, congrArg Prod.snd hconfirm⟩
    · exact .inl (confirm_of_refused hsees hconfirms now)

lemma cancel_savesChange (db : OrdersDb) (user id : ℕ) :
    SavesChange (.cancel user id) db (cancel user id db).2 := by
  rcases withObject_cases user id _ db with hdb | ⟨u, seen, hsees⟩
  · exact .inl hdb
  · by_cases hcancels : MayCancel user seen
    · obtain ⟨hfree, hcancel⟩ := cancel_of_sees hsees hcancels
      exact .inr ⟨id, seen, _, hfree, lookup_of_getObject hsees.2,
        .cancelled user u hsees hcancels.1 hcancels.2.1 hcancels.2.2, congrArg Prod.snd hcancel⟩
    · exact .inl (cancel_of_refused hsees hcancels)

lemma SavesChange.evolves {event : OrderEvent} {db db' : OrdersDb} {id : ℕ} {order : Order}
    (hsaves : SavesChange event db db') (h : db.orders.lookup id = some order) :
    Evolves event db id order db' := by
  rcases hsaves with rfl | ⟨other, seen, saved, hfree, hseen, hchange, rfl⟩
  · exact evolves_of_eq h rfl rfl
  · refine evolves_of_save h hfree ?_
    rintro rfl
    obtain rfl := Option.some.inj (h.symm.trans hseen)
    exact hchange

/-- A creation stores a new order; the ones that are there stay. -/
lemma create_evolves {db : OrdersDb} {id : ℕ} {order : Order}
    (h : db.orders.lookup id = some order) (user : ℕ) (body : OrderBody) (orderNumber : String)
    (now : ℕ) :
    Evolves (.create user body orderNumber now) db id order
      (createOrder user body orderNumber now db).2 := by
  have hne : id ≠ db.orders.nextId := by
    have hlt := (Table.id_bounds h).2
    omega
  have hsame := sameBut_createOrder db user body orderNumber now
  exact evolves_of_eq h (hsame.orders id hne) (hsame.items id hne)

/-- **What an event does to an order.** -/
theorem exec_evolves {db : OrdersDb} {id : ℕ} {order : Order}
    (h : db.orders.lookup id = some order) (event : OrderEvent) :
    Evolves event db id order (exec event db) := by
  rcases event with ⟨user, body, orderNumber, now⟩ | ⟨user, other, isPartial, body⟩ |
    ⟨user, other, now⟩ | ⟨user, other⟩ | products
  · exact create_evolves h user body orderNumber now
  · exact (update_savesChange db user other isPartial body).evolves h
  · exact (confirm_savesChange db user other now).evolves h
  · exact (cancel_savesChange db user other).evolves h
  · exact evolves_of_eq h rfl rfl

/-! ## Where an order comes from -/

/-- The request is accepted and stores a row, whether its amounts fit or not. -/
def Stores (db : OrdersDb) (user : ℕ) (body : OrderBody) (orderNumber : String)
    (data : OrderData) : Prop :=
  (db.accounts.users.lookup user).isSome ∧ OrderSerializer.validate db false body = .ok data ∧
    data.items.isSome ∧ ¬ OrderSerializer.NumberTaken db orderNumber

/-- The state differs from the one before in the row of one order at most. -/
def SavesAtMost (db db' : OrdersDb) : Prop :=
  db' = db ∨ ∃ id saved, ∃ h : db.orders.Free Order.numberKey id saved, db' = db.setOrder id saved h

lemma SavesChange.savesAtMost {event : OrderEvent} {db db' : OrdersDb}
    (h : SavesChange event db db') : SavesAtMost db db' :=
  h.imp_right fun ⟨id, _, saved, hfree, _, _, hsaved⟩ => ⟨id, saved, hfree, hsaved⟩

lemma SavesAtMost.accounts {db db' : OrdersDb} (h : SavesAtMost db db') :
    db'.accounts = db.accounts := by
  rcases h with rfl | ⟨_, _, _, rfl⟩ <;> rfl

/-- The requests about orders leave the users and their profiles alone. -/
lemma accounts_exec (event : OrderEvent) (db : OrdersDb) :
    (exec event db).accounts = db.accounts := by
  rcases event with ⟨user, body, orderNumber, now⟩ | ⟨user, id, isPartial, body⟩ |
    ⟨user, id, now⟩ | ⟨user, id⟩ | products
  · exact (sameBut_createOrder db user body orderNumber now).accounts
  · exact (update_savesChange db user id isPartial body).savesAtMost.accounts
  · exact (confirm_savesChange db user id now).savesAtMost.accounts
  · exact (cancel_savesChange db user id).savesAtMost.accounts
  · rfl

lemma SavesAtMost.lookup_of_none {db db' : OrdersDb} (h : SavesAtMost db db') {id : ℕ}
    (hnone : db.orders.lookup id = none) : db'.orders.lookup id = none := by
  rcases h with rfl | ⟨other, saved, hfree, rfl⟩
  · exact hnone
  · have hsome := Table.isSome_lookup_update db.orders other id saved
    rw [hnone] at hsome
    exact Option.not_isSome_iff_eq_none.mp fun hthere => Bool.false_ne_true (hsome.mp hthere)

/-- A creation that is refused changes nothing. -/
lemma createOrder_of_not_stores {db : OrdersDb} {user : ℕ} {body : OrderBody}
    {orderNumber : String} (h : ∀ data, ¬ Stores db user body orderNumber data) (now : ℕ) :
    (createOrder user body orderNumber now db).2 = db := by
  unfold createOrder
  rw [bind_of_ok (get_apply db)]
  by_cases huser : (db.accounts.users.lookup user).isNone
  · rw [if_pos huser]
    rfl
  · rw [if_neg huser]
    rcases hvalid : OrderSerializer.validate db false body with errors | data
    · rfl
    · dsimp only
      have hthere : (db.accounts.users.lookup user).isSome := by
        rw [Option.isNone_iff_eq_none] at huser
        exact Option.isSome_iff_ne_none.mpr huser
      have hrefused : ∃ e,
          OrderSerializer.create orderNumber now user data db = (.error e, db) := by
        rcases OrderSerializer.create_cases db orderNumber now user data with
          ⟨e, hcreate, -⟩ | ⟨items, hitems, hrow, -⟩
        · exact ⟨e, hcreate⟩
        · exact absurd ⟨hthere, hvalid, by rw [hitems]; rfl,
            ((OrderSerializer.rowFits_iff db orderNumber now user data).mp hrow).1⟩ (h data)
      obtain ⟨e, hcreate⟩ := hrefused
      rw [bind_of_error hcreate]

/-- A creation that is accepted leaves its row under the next id. -/
lemma lookup_createOrder {db : OrdersDb} {user : ℕ} {body : OrderBody} {orderNumber : String}
    {data : OrderData} (h : Stores db user body orderNumber data) (now : ℕ) :
    ∃ order, (createOrder user body orderNumber now db).2.orders.lookup db.orders.nextId =
        some order ∧
      order.client = user ∧ order.status = data.status.getD .pending ∧
      order.confirmedAt = none := by
  obtain ⟨huser, hvalid, hitems, hnumber⟩ := h
  obtain ⟨items, hitems⟩ := Option.isSome_iff_exists.mp hitems
  have hfits := (OrderSerializer.rowFits_iff db orderNumber now user data).mpr ⟨hnumber, huser⟩
  have hrow := OrderSerializer.lookup_create hitems hfits
  have hstate : (createOrder user body orderNumber now db).2 =
      (OrderSerializer.create orderNumber now user data db).2 := by
    unfold createOrder
    have hknown : ¬ (db.accounts.users.lookup user).isNone := by
      rw [Option.isNone_iff_eq_none]
      exact Option.isSome_iff_ne_none.mp huser
    rw [bind_of_ok (get_apply db), if_neg hknown, hvalid]
    dsimp only
    rcases hcreate : OrderSerializer.create orderNumber now user data db with ⟨e | id, db'⟩
    · rw [bind_of_error hcreate]
    · rw [bind_of_ok hcreate]
      rfl
  rw [hstate]
  exact hrow

/-- **Where an order comes from.**  An order after an event was there before it, and the event
may have changed it, or the event is a creation that has stored it. -/
theorem exec_origin {event : OrderEvent} {db : OrdersDb} {id : ℕ} {order : Order}
    (h : (exec event db).orders.lookup id = some order) :
    (∃ before, db.orders.lookup id = some before ∧ Change db id before event order) ∨
      ∃ user body orderNumber now data, event = .create user body orderNumber now ∧
        Stores db user body orderNumber data ∧ id = db.orders.nextId ∧
        order.client = user ∧ order.status = data.status.getD .pending ∧
        order.confirmedAt = none := by
  rcases hbefore : db.orders.lookup id with _ | before
  · right
    -- an event that only saves rows adds none
    have hsaves : ¬ SavesAtMost db (exec event db) := by
      intro hsaves
      rw [hsaves.lookup_of_none hbefore] at h
      cases h
    rcases event with ⟨user, body, orderNumber, now⟩ | ⟨user, other, isPartial, body⟩ |
      ⟨user, other, now⟩ | ⟨user, other⟩ | products
    · by_cases hstores : ∃ data, Stores db user body orderNumber data
      · obtain ⟨data, hstores⟩ := hstores
        -- the new row has the next id
        have hid : id = db.orders.nextId := by
          by_contra hne
          have hevolved : (createOrder user body orderNumber now db).2.orders.lookup id =
              db.orders.lookup id :=
            (sameBut_createOrder db user body orderNumber now).orders id hne
          rw [show (createOrder user body orderNumber now db).2.orders.lookup id = some order
            from h, hbefore] at hevolved
          cases hevolved
        obtain ⟨new, hnew, hclient, hstatus, hat⟩ := lookup_createOrder hstores now
        rw [← hid, show (createOrder user body orderNumber now db).2.orders.lookup id = some order
          from h] at hnew
        obtain rfl := Option.some.inj hnew
        exact ⟨user, body, orderNumber, now, data, rfl, hstores, hid, hclient, hstatus, hat⟩
      · push Not at hstores
        exact absurd (.inl (createOrder_of_not_stores hstores now)) hsaves
    · exact absurd (update_savesChange db user other isPartial body).savesAtMost hsaves
    · exact absurd (confirm_savesChange db user other now).savesAtMost hsaves
    · exact absurd (cancel_savesChange db user other).savesAtMost hsaves
    · rw [show (exec (.products products) db).orders.lookup id = none from hbefore] at h
      cases h
  · left
    obtain ⟨-, order', hlookup, hchange⟩ := exec_evolves hbefore event
    obtain rfl : order = order' := Option.some.inj (h.symm.trans hlookup)
    exact ⟨before, rfl, hchange⟩

end OrderViewSet

end OrdersBackend
