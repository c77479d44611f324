import OrdersBackend.Orders.Requests

/-!
# Who confirms an order

The endpoint `confirm` checks that the user is a supplier with an item in the order, and sets
`confirmed_at` together with the status.  The serializer makes `confirmed_at` read-only but
takes the status from any creation or update.  So a time of confirmation always comes from an
involved supplier (`confirmedBefore_of_confirmedAt`), and a status does as long as the
requests carry it to confirmed orders only.
-/

namespace OrdersBackend

open Framework Tx

namespace OrderViewSet

/-- The user is a supplier, and an item of the order belongs to his profile. -/
def InvolvedSupplier (db : OrdersDb) (user id : ℕ) : Prop :=
  ∃ u supplier, db.accounts.users.lookup user = some u ∧ u.userType = .supplier ∧
    db.accounts.profile user = some supplier ∧ hasItemOf db id supplier

/-- Among the events is a confirmation of the order by a supplier involved at that time. -/
def ConfirmedBefore (db : OrdersDb) (events : List OrderEvent) (id : ℕ) : Prop :=
  ∃ before user now after, events = before ++ .confirm user id now :: after ∧
    InvolvedSupplier (run exec db before) user id

/-- In every state of the run a confirmed order was confirmed by an involved supplier before,
and has a time of confirmation. -/
def OnlySuppliersConfirm (db : OrdersDb) (events : List OrderEvent) : Prop :=
  ∀ earlier later, events = earlier ++ later → ∀ id order,
    (run exec db earlier).orders.lookup id = some order → order.status = .confirmed →
    ConfirmedBefore db earlier id ∧ order.confirmedAt.isSome

/-- No order is confirmed yet, nor was before. -/
def Unconfirmed (db : OrdersDb) : Prop :=
  ∀ id order, db.orders.lookup id = some order →
    order.status ≠ .confirmed ∧ order.confirmedAt = none

/-- The request carries the status `confirmed` into no order that was never confirmed: a
creation that is accepted does not carry it, and an update that carries it meets an order with
a time of confirmation. -/
def LeavesConfirmation (db : OrdersDb) : OrderEvent → Prop
  | .create user body orderNumber _ =>
    ∀ data, Stores db user body orderNumber data → body.status ≠ some .confirmed
  | .update user id isPartial body =>
    ∀ u order data, Sees db user id u order →
      OrderSerializer.validate db isPartial body = .ok data → body.status = some .confirmed →
      order.confirmedAt.isSome
  | .confirm _ _ _ | .cancel _ _ | .products _ => True

/-- A confirmed order has a time of confirmation. -/
def ConfirmedTimed (db : OrdersDb) : Prop :=
  ∀ id order, db.orders.lookup id = some order → order.status = .confirmed →
    order.confirmedAt.isSome

/-! ## The time of confirmation -/

lemma ConfirmedBefore.append {db : OrdersDb} {events : List OrderEvent} {id : ℕ}
    (h : ConfirmedBefore db events id) (event : OrderEvent) :
    ConfirmedBefore db (events ++ [event]) id := by
  obtain ⟨before, user, now, after, rfl, hinvolved⟩ := h
  exact ⟨before, user, now, after ++ [event], by simp, hinvolved⟩

/-- A change sets the time of confirmation only when an involved supplier confirms. -/
lemma confirmedAt_of_change {db : OrdersDb} {id : ℕ} {order order' : Order} {event : OrderEvent}
    (h : Change db id order event order') (hat : order'.confirmedAt.isSome) :
    order.confirmedAt.isSome ∨
      ∃ user now, event = .confirm user id now ∧ InvolvedSupplier db user id := by
  rcases h with _ | ⟨user, isPartial, body, u, data, hsees, hvalid⟩ |
    ⟨user, now, u, supplier, hsees, htype, hprofile, hitem⟩ |
    ⟨user, u, hsees, hclient, hshipped, hdelivered⟩
  · exact .inl hat
  · exact .inl hat
  · exact .inr ⟨user, now, rfl, u, supplier, hsees.1, htype, hprofile, hitem⟩
  · exact .inl hat

/-- Whatever the requests of a run, an order with a time of confirmation was confirmed by an
involved supplier. -/
theorem confirmedBefore_of_confirmedAt {db : OrdersDb} (hfresh : Unconfirmed db)
    (events : List OrderEvent) :
    ∀ id order, (run exec db events).orders.lookup id = some order → order.confirmedAt.isSome →
      ConfirmedBefore db events id := by
  let I : List OrderEvent → OrdersDb → Prop := fun past db' => ∀ id order,
    db'.orders.lookup id = some order → order.confirmedAt.isSome → ConfirmedBefore db past id
  refine run_history (I := I) ?_ ?_ events
  · intro id order hlookup hat
    rw [(hfresh id order hlookup).2] at hat
    cases hat
  · intro past event ih id order hlookup hat
    rcases exec_origin hlookup with
      ⟨before, hbefore, hchange⟩ | ⟨user, body, orderNumber, now, data, -, -, -, -, -, hnone⟩
    · rcases confirmedAt_of_change hchange hat with hold | ⟨user, now, rfl, hinvolved⟩
      · exact (ih id before hbefore hold).append event
      · exact ⟨past, user, now, [], rfl, hinvolved⟩
    · rw [hnone] at hat
      cases hat

/-! ## The status -/

lemma confirmedTimed_of_change {db : OrdersDb} {id : ℕ} {order order' : Order}
    {event : OrderEvent} (hleaves : LeavesConfirmation db event)
    (htimed : order.status = .confirmed → order.confirmedAt.isSome)
    (h : Change db id order event order') (hconfirmed : order'.status = .confirmed) :
    order'.confirmedAt.isSome := by
  rcases h with _ | ⟨user, isPartial, body, u, data, hsees, hvalid⟩ |
    ⟨user, now, u, supplier, hsees, htype, hprofile, hitem⟩ |
    ⟨user, u, hsees, hclient, hshipped, hdelivered⟩
  · exact htimed hconfirmed
  · show order.confirmedAt.isSome
    have hstatus : data.status.getD order.status = .confirmed := hconfirmed
    rw [status_of_validate hvalid] at hstatus
    rcases hbody : body.status with _ | status
    · rw [hbody] at hstatus
      exact htimed hstatus
    · rw [hbody, Option.getD_some] at hstatus
      exact hleaves u order data hsees hvalid (by rw [hbody, hstatus])
  · rfl
  · cases hconfirmed

/-- The condition is exact: a request meets it when every confirmed order has a time of
confirmation after it. -/
lemma leavesConfirmation_iff (db : OrdersDb) (event : OrderEvent) (htimed : ConfirmedTimed db) :
    LeavesConfirmation db event ↔ ConfirmedTimed (exec event db) := by
  constructor
  · -- a confirmed order is a row of before, or the new one
    intro hleaves id order hlookup hconfirmed
    rcases exec_origin hlookup with ⟨before, hbefore, hchange⟩ |
      ⟨user, body, orderNumber, now, data, rfl, hstores, -, -, hstatus, -⟩
    · exact confirmedTimed_of_change hleaves (htimed id before hbefore) hchange hconfirmed
    · rw [hconfirmed, status_of_validate hstores.2.1] at hstatus
      rcases hbody : body.status with _ | status
      · rw [hbody] at hstatus
        cases hstatus
      · rw [hbody, Option.getD_some] at hstatus
        exact absurd (by rw [hbody, hstatus]) (hleaves data hstores)
  · -- a request that breaks the condition leaves such an order
    intro h
    rcases event with ⟨user, body, orderNumber, now⟩ | ⟨user, id, isPartial, body⟩ |
      ⟨user, id, now⟩ | ⟨user, id⟩ | products
    · intro data hstores hconfirmed
      obtain ⟨order, hlookup, -, hstatus, hnone⟩ := lookup_createOrder hstores now
      rw [status_of_validate hstores.2.1, hconfirmed, Option.getD_some] at hstatus
      have hat := h _ order hlookup hstatus
      rw [hnone] at hat
      cases hat
    · intro u order data hsees hvalid hconfirmed
      have hstatus := status_updatedOrder order hvalid hconfirmed
      have hat := h id _ (lookup_updateOrder hsees hvalid) hstatus
      exact hat
    · trivial
    · trivial
    · trivial

/-- **When only involved suppliers confirm.**  From a state without confirmed orders, every
confirmed order of the run goes back to the endpoint of a supplier with an item in it exactly
when no creation or update carries the status into an order that was never confirmed. -/
theorem onlySuppliersConfirm_iff {db : OrdersDb} (hfresh : Unconfirmed db)
    (events : List OrderEvent) :
    OnlySuppliersConfirm db events ↔ Guarded exec LeavesConfirmation db events := by
  have htimed : ConfirmedTimed db := fun id order hlookup hconfirmed =>
    absurd hconfirmed (hfresh id order hlookup).1
  rw [guarded_iff_invariant leavesConfirmation_iff htimed]
  constructor
  · intro h earlier later hsplit id order hlookup hconfirmed
    exact (h earlier later hsplit id order hlookup hconfirmed).2
  · intro h earlier later hsplit id order hlookup hconfirmed
    have hat := h earlier later hsplit id order hlookup hconfirmed
    exact ⟨confirmedBefore_of_confirmedAt hfresh earlier id order hlookup hat, hat⟩

lemma unconfirmed_shop : Unconfirmed shop := by
  intro id order hlookup
  have hrows : ∀ r ∈ shop.orders.rows, r.2.status ≠ .confirmed ∧ r.2.confirmedAt = none := by
    decide +kernel
  exact hrows (id, order) (Table.mem_rows_iff.mpr hlookup)

/-- The supplier of the cups confirms the order. -/
theorem onlySuppliersConfirm_shop : OnlySuppliersConfirm shop [.confirm 2 1 7, .cancel 1 1] :=
  (onlySuppliersConfirm_iff unconfirmed_shop _).mpr ⟨trivial, trivial, trivial⟩

/-- The client confirms his own order by a partial update. -/
theorem not_onlySuppliersConfirm_shop :
    ¬ OnlySuppliersConfirm shop [.update 1 1 true (statusBody .confirmed)] := by
  intro h
  have hrow : ((run exec shop [.update 1 1 true (statusBody .confirmed)]).orders.lookup 1).map
      (fun order => (order.status, order.confirmedAt)) = some (.confirmed, none) := by
    decide +kernel
  obtain ⟨order, horder, hcolumns⟩ := Option.map_eq_some_iff.mp hrow
  obtain ⟨hstatus, hnone⟩ := Prod.mk.inj hcolumns
  have hat := (h _ [] rfl 1 order horder hstatus).2
  rw [hnone] at hat
  cases hat

end OrderViewSet

end OrdersBackend
