import OrdersBackend.Orders.Requests

/-!
# Orders that are on their way

`cancel` refuses an order that is shipped or delivered.  Two other requests write the status
without asking: an update takes it from the request, and a confirmation sets it whatever it
was.  Either may take an order out of the two states, or cancel it at once.

`KeepsSent` is the condition on a request that excludes this, and `keepsSent_iff` says that it
excludes nothing else: it holds exactly when every order on its way stays on its way.  Along a
run of such requests no order is cancelled after it was sent.
-/

namespace OrdersBackend

open Framework Tx

namespace OrderViewSet

/-- The status is `shipped` or `delivered`. -/
def Sent (status : OrderStatus) : Prop := status = .shipped ∨ status = .delivered

instance (status : OrderStatus) : Decidable (Sent status) :=
  inferInstanceAs (Decidable (_ ∨ _))

/-- The request takes no order that is on its way out of this state: an update of one that the
user sees carries no other status, and no supplier with an item in one confirms it. -/
def KeepsSent (db : OrdersDb) : OrderEvent → Prop
  | .update user id isPartial body =>
    ∀ u order data status, Sees db user id u order → Sent order.status →
      OrderSerializer.validate db isPartial body = .ok data → body.status = some status →
      Sent status
  | .confirm user id _ =>
    ∀ u order supplier, Sees db user id u order → Sent order.status → u.userType = .supplier →
      db.accounts.profile user = some supplier → ¬ hasItemOf db id supplier
  | .create _ _ _ _ | .cancel _ _ | .products _ => True

/-- In the run no order is cancelled after it was on its way. -/
def SentNeverCancelled (db : OrdersDb) (events : List OrderEvent) : Prop :=
  ∀ earlier later rest, events = earlier ++ later ++ rest → ∀ id order order',
    (run exec db earlier).orders.lookup id = some order → Sent order.status →
    (run exec db (earlier ++ later)).orders.lookup id = some order' →
    order'.status ≠ .cancelled

/-! ## One request -/

/-- A request that keeps what is on its way does so. -/
lemma sent_of_change {event : OrderEvent} {db : OrdersDb} {id : ℕ} {order order' : Order}
    (hkeeps : KeepsSent db event) (hsent : Sent order.status)
    (hchange : Change db id order event order') : Sent order'.status := by
  rcases hchange with _ | ⟨user, isPartial, body, u, data, hsees, hvalid⟩ |
    ⟨user, now, u, supplier, hsees, htype, hprofile, hitem⟩ |
    ⟨user, u, hsees, hclient, hshipped, hdelivered⟩
  · exact hsent
  · show Sent (data.status.getD order.status)
    rw [status_of_validate hvalid]
    rcases hstatus : body.status with _ | status
    · exact hsent
    · exact hkeeps u order data status hsees hsent hvalid hstatus
  · exact absurd hitem (hkeeps u order supplier hsees hsent htype hprofile)
  · rcases hsent with h | h
    · exact absurd h hshipped
    · exact absurd h hdelivered

/-- An order on its way is there after the request, and still on its way. -/
lemma sent_exec {event : OrderEvent} {db : OrdersDb} {id : ℕ}
    (h : ∃ order, db.orders.lookup id = some order ∧ Sent order.status)
    (hkeeps : KeepsSent db event) :
    ∃ order, (exec event db).orders.lookup id = some order ∧ Sent order.status := by
  obtain ⟨order, hlookup, hsent⟩ := h
  obtain ⟨-, order', hlookup', hchange⟩ := exec_evolves hlookup event
  exact ⟨order', hlookup', sent_of_change hkeeps hsent hchange⟩

/-- The condition is exact: it holds when every order on its way stays on its way. -/
theorem keepsSent_iff (db : OrdersDb) (event : OrderEvent) :
    KeepsSent db event ↔ ∀ id order, db.orders.lookup id = some order → Sent order.status →
      ∃ order', (exec event db).orders.lookup id = some order' ∧ Sent order'.status := by
  constructor
  · exact fun hkeeps id order hlookup hsent => sent_exec ⟨order, hlookup, hsent⟩ hkeeps
  · intro h
    -- what becomes of an order that is on its way
    have hkept : ∀ id order saved, db.orders.lookup id = some order → Sent order.status →
        (exec event db).orders.lookup id = some saved → Sent saved.status := by
      intro id order saved hlookup hsent hsaved
      obtain ⟨order', hlookup', hsent'⟩ := h id order hlookup hsent
      obtain rfl : saved = order' := Option.some.inj (hsaved.symm.trans hlookup')
      exact hsent'
    rcases event with ⟨user, body, orderNumber, now⟩ | ⟨user, id, isPartial, body⟩ |
      ⟨user, id, now⟩ | ⟨user, id⟩ | products
    · trivial
    · intro u order data status hsees hsent hvalid hstatus
      rw [← status_updatedOrder order hvalid hstatus]
      exact hkept id order _ (lookup_of_getObject hsees.2) hsent (lookup_updateOrder hsees hvalid)
    · -- a confirmation would take it back to `confirmed`
      intro u order supplier hsees hsent htype hprofile hitem
      have hsaved := lookup_confirm hsees now htype hprofile hitem
      have hconfirmed : Sent OrderStatus.confirmed :=
        hkept id order _ (lookup_of_getObject hsees.2) hsent hsaved
      exact absurd hconfirmed (by decide)
    · trivial
    · trivial

/-! ## Runs -/

/-- **When a shipped order cannot be cancelled**: in every run whose requests keep what is on
its way. -/
theorem sentNeverCancelled_of_guarded {db : OrdersDb} {events : List OrderEvent}
    (h : Guarded exec KeepsSent db events) : SentNeverCancelled db events := by
  rintro earlier later rest rfl id order order' hlookup hsent hlookup'
  have hguarded : Guarded exec KeepsSent db (earlier ++ later) := (guarded_append.mp h).1
  obtain ⟨last, hlast, hsentLast⟩ := run_after
    (I := fun db => ∃ order, db.orders.lookup id = some order ∧ Sent order.status)
    (fun _ _ hsent hkeeps => sent_exec hsent hkeeps) hguarded ⟨order, hlookup, hsent⟩
  rw [hlast] at hlookup'
  cases hlookup'
  intro hcancelled
  rw [hcancelled] at hsentLast
  exact absurd hsentLast (by decide)

/-- The client tries in vain to cancel an order that was shipped. -/
theorem sentNeverCancelled_of_cancel :
    SentNeverCancelled shop [.update 1 1 true (statusBody .shipped), .cancel 1 1] := by
  have hpending : ∀ u order, Sees shop 1 1 u order → ¬ Sent order.status := by
    intro u order hsees
    have hlookup := lookup_of_getObject hsees.2
    have hstatus : (shop.orders.lookup 1).map (·.status) = some .pending := by decide +kernel
    rw [hlookup] at hstatus
    have hpending : order.status = .pending := Option.some.inj hstatus
    rw [hpending]
    decide
  refine sentNeverCancelled_of_guarded ⟨?_, trivial, trivial⟩
  intro u order data status hsees hsent
  exact absurd hsent (hpending u order hsees)

/-- The client ships an order by an update, and cancels it by another one. -/
theorem not_sentNeverCancelled :
    ¬ SentNeverCancelled shop
      [.update 1 1 true (statusBody .shipped), .update 1 1 true (statusBody .cancelled)] := by
  intro h
  have hshipped : ((run exec shop [.update 1 1 true (statusBody .shipped)]).orders.lookup 1).map
      (·.status) = some .shipped := by decide +kernel
  have hcancelled : ((run exec shop [.update 1 1 true (statusBody .shipped),
      .update 1 1 true (statusBody .cancelled)]).orders.lookup 1).map (·.status) =
      some .cancelled := by decide +kernel
  obtain ⟨order, horder, hstatus⟩ := Option.map_eq_some_iff.mp hshipped
  obtain ⟨order', horder', hstatus'⟩ := Option.map_eq_some_iff.mp hcancelled
  exact h [.update 1 1 true (statusBody .shipped)] [.update 1 1 true (statusBody .cancelled)] []
    rfl 1 order order' horder (.inl hstatus) horder' hstatus'

end OrderViewSet

end OrdersBackend
