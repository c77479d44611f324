import OrdersBackend.Orders.Requests

/-!
# Requests about one order, at the same time

`update`, `confirm` and `cancel` load the order, check what they check on that copy and save
the copy with their changes; `save()` writes every column of it.  A request is a reading step
and a writing step here, and the steps of other requests may come in between.

A writing step loses nothing when it leaves the row as the changes of its request would make it
of the row that is there.  `noLostUpdate_iff` says when this is so along a run: every copy that
is saved still agrees with the row in the columns its request does not set.  `run_request`
connects the two steps with the requests of the API.
-/

namespace OrdersBackend

open Framework Tx

/-! ## Changes of columns -/

/-- The columns a request sets, with their values; `none` leaves a column alone. -/
structure OrderChange where
  client : Option ℕ
  status : Option OrderStatus
  deliveryAddress : Option String
  contactPhone : Option String
  notes : Option String
  confirmedAt : Option ℕ
  deriving DecidableEq, Repr

namespace OrderChange

/-- The validated data of an update, all but its items. -/
def ofData (data : OrderData) : OrderChange :=
  ⟨data.client, data.status, data.deliveryAddress, data.contactPhone, data.notes, none⟩

def confirm (now : ℕ) : OrderChange := ⟨none, some .confirmed, none, none, none, some now⟩

def cancel : OrderChange := ⟨none, some .cancelled, none, none, none, none⟩

/-- The row with the columns set. -/
def apply (change : OrderChange) (order : Order) : Order :=
  { order with
    client := change.client.getD order.client
    status := change.status.getD order.status
    deliveryAddress := change.deliveryAddress.getD order.deliveryAddress
    contactPhone := change.contactPhone.getD order.contactPhone
    notes := change.notes.getD order.notes
    confirmedAt := change.confirmedAt.or order.confirmedAt }

/-- The two rows agree in every column that is not set. -/
structure SameOutside (change : OrderChange) (order order' : Order) : Prop where
  client : change.client = none → order.client = order'.client
  status : change.status = none → order.status = order'.status
  deliveryAddress : change.deliveryAddress = none →
    order.deliveryAddress = order'.deliveryAddress
  contactPhone : change.contactPhone = none → order.contactPhone = order'.contactPhone
  notes : change.notes = none → order.notes = order'.notes
  confirmedAt : change.confirmedAt = none → order.confirmedAt = order'.confirmedAt
  others : order.orderNumber = order'.orderNumber ∧ order.totalAmount = order'.totalAmount ∧
    order.createdAt = order'.createdAt

lemma getD_eq_getD_iff {α : Type} (o : Option α) (a b : α) :
    o.getD a = o.getD b ↔ (o = none → a = b) := by
  rcases o with _ | c <;> simp

lemma or_eq_or_iff {α : Type} (o a b : Option α) :
    o.or a = o.or b ↔ (o = none → a = b) := by
  rcases o with _ | c <;> simp

/-- A change makes the same of two rows exactly when they agree in the other columns. -/
lemma apply_eq_apply_iff (change : OrderChange) (order order' : Order) :
    change.apply order = change.apply order' ↔ change.SameOutside order order' := by
  simp only [apply, Order.mk.injEq, getD_eq_getD_iff, or_eq_or_iff]
  constructor
  · rintro ⟨hclient, hnumber, hstatus, hamount, haddress, hphone, hnotes, hcreated, hat⟩
    exact ⟨hclient, hstatus, haddress, hphone, hnotes, hat, hnumber, hamount, hcreated⟩
  · rintro ⟨hclient, hstatus, haddress, hphone, hnotes, hat, hnumber, hamount, hcreated⟩
    exact ⟨hclient, hnumber, hstatus, hamount, haddress, hphone, hnotes, hcreated, hat⟩

end OrderChange

namespace OrderViewSet

/-! ## The two steps of a request -/

/-- A request about an order that is there. -/
inductive OrderRequest
  | update (user id : ℕ) (isPartial : Bool) (body : OrderBody)
  | confirm (user id now : ℕ)
  | cancel (user id : ℕ)

def OrderRequest.event : OrderRequest → OrderEvent
  | .update user id isPartial body => .update user id isPartial body
  | .confirm user id now => .confirm user id now
  | .cancel user id => .cancel user id

/-- A request between its steps: the order, the row it has read, and what it will set. -/
structure Held where
  id : ℕ
  copy : Order
  change : OrderChange
  deriving DecidableEq, Repr

/-- The order a request gets, with its user. -/
def seen (db : OrdersDb) (user id : ℕ) : Option (User × Order) :=
  match db.accounts.users.lookup user with
  | none => none
  | some u =>
    match getObject db user u.userType id with
    | .ok (some order) => some (u, order)
    | _ => none

/-- The reading step: the request goes through its checks, and either holds the row or has
been answered. -/
def planned (db : OrdersDb) : OrderRequest → Option Held
  | .update user id isPartial body =>
    (seen db user id).bind fun s =>
      (OrderSerializer.validate db isPartial body).toOption.map fun data =>
        ⟨id, s.2, .ofData data⟩
  | .confirm user id now =>
    (seen db user id).bind fun s =>
      if MayConfirm db user id s.1 then some ⟨id, s.2, .confirm now⟩ else none
  | .cancel user id =>
    (seen db user id).bind fun s =>
      if MayCancel user s.2 then some ⟨id, s.2, .cancel⟩ else none

/-- The writing step: every column of the changed copy is saved. -/
def Held.save (held : Held) (db : OrdersDb) : OrdersDb :=
  (OrdersDb.saveOrder held.id (held.change.apply held.copy) db).2

/-- The tables, and the requests that are between their steps. -/
structure Concurrent where
  db : OrdersDb
  held : List Held
  deriving DecidableEq

inductive OrderStep
  | read (request : OrderRequest)
  | write (i : ℕ)

def stepExec (step : OrderStep) (s : Concurrent) : Concurrent :=
  match step with
  | .read request => { s with held := s.held ++ (planned s.db request).toList }
  | .write i =>
    match s.held[i]? with
    | some held => ⟨held.save s.db, s.held.eraseIdx i⟩
    | none => s

/-! ## The steps together are the request -/

lemma seen_of_sees {db : OrdersDb} {user id : ℕ} {u : User} {order : Order}
    (h : Sees db user id u order) : seen db user id = some (u, order) := by
  unfold seen
  rw [h.1]
  simp only [h.2]

lemma sees_of_seen {db : OrdersDb} {user id : ℕ} {u : User} {order : Order}
    (h : seen db user id = some (u, order)) : Sees db user id u order := by
  unfold seen at h
  rcases huser : db.accounts.users.lookup user with _ | u'
  · simp only [huser] at h
    cases h
  · simp only [huser] at h
    rcases hobject : getObject db user u'.userType id with e | _ | order'
    · simp only [hobject] at h
      cases h
    · simp only [hobject] at h
      cases h
    · simp only [hobject] at h
      cases h
      exact ⟨huser, hobject⟩

lemma seen_of_not_sees {db : OrdersDb} {user id : ℕ} (h : ∀ u order, ¬ Sees db user id u order) :
    seen db user id = none := by
  rcases hseen : seen db user id with _ | ⟨u, order⟩
  · rfl
  · exact absurd (sees_of_seen hseen) (h u order)

/-- A row that is read keeps its number under a change, so that it can be saved. -/
lemma save_of_lookup {db : OrdersDb} {held : Held} {order : Order}
    (h : db.orders.lookup held.id = some order)
    (hnumber : held.copy.orderNumber = order.orderNumber) :
    ∃ hfree, held.save db = db.setOrder held.id (held.change.apply held.copy) hfree := by
  have hfree : db.orders.Free Order.numberKey held.id (held.change.apply held.copy) :=
    OrdersDb.free_of_same_number h hnumber
  exact ⟨hfree, congrArg Prod.snd (OrdersDb.saveOrder_of_free hfree)⟩

/-- What a request does to an order that its user sees decides what it does: otherwise it
neither writes nor holds anything. -/
lemma withObject_eq_planned {db : OrdersDb} {user id : ℕ}
    {action : UserType → Order → Tx OrdersDb PyErr OrderAnswer} {plan : User × Order → Option Held}
    (h : ∀ u order, Sees db user id u order →
      (withObject user id action db).2 = (plan (u, order)).elim db fun held => held.save db) :
    (withObject user id action db).2 =
      ((seen db user id).bind plan).elim db fun held => held.save db := by
  by_cases hseen : ∃ u order, Sees db user id u order
  · obtain ⟨u, order, hsees⟩ := hseen
    rw [seen_of_sees hsees, Option.bind_some]
    exact h u order hsees
  · push Not at hseen
    rw [seen_of_not_sees hseen]
    exact (withObject_cases user id action db).resolve_right
      fun ⟨u, order, hsees⟩ => hseen u order hsees

/-- The request of the API is its reading step, followed at once by its writing step. -/
lemma exec_eq_planned (request : OrderRequest) (db : OrdersDb) :
    exec request.event db = (planned db request).elim db fun held => held.save db := by
  -- the save of the request is the one that the writing step makes
  have hsave : ∀ {id : ℕ} {order : Order} (hfree : db.orders.Free Order.numberKey id order),
      db.setOrder id order hfree = (OrdersDb.saveOrder id order db).2 :=
    fun hfree => (congrArg Prod.snd (OrdersDb.saveOrder_of_free hfree)).symm
  rcases request with ⟨user, id, isPartial, body⟩ | ⟨user, id, now⟩ | ⟨user, id⟩
  · refine withObject_eq_planned fun u order hsees => ?_
    rcases hvalid : OrderSerializer.validate db isPartial body with errors | data
    · exact updateOrder_of_invalid hsees hvalid
    · obtain ⟨hfree, hupdate⟩ := updateOrder_of_sees hsees hvalid
      exact (congrArg Prod.snd hupdate).trans (hsave hfree)
  · refine withObject_eq_planned fun u order hsees => ?_
    by_cases hconfirms : MayConfirm db user id u
    · obtain ⟨supplier, hprofile, hitem⟩ := hconfirms.2
      obtain ⟨hfree, hconfirm⟩ := confirm_of_sees hsees now hconfirms.1 hprofile hitem
      rw [if_pos hconfirms]
      exact (congrArg Prod.snd hconfirm).trans (hsave hfree)
    · rw [if_neg hconfirms]
      exact confirm_of_refused hsees hconfirms now
  · refine withObject_eq_planned fun u order hsees => ?_
    by_cases hcancels : MayCancel user order
    · obtain ⟨hfree, hcancel⟩ := cancel_of_sees hsees hcancels
      rw [if_pos hcancels]
      exact (congrArg Prod.snd hcancel).trans (hsave hfree)
    · rw [if_neg hcancels]
      exact cancel_of_refused hsees hcancels

theorem run_request (request : OrderRequest) (db : OrdersDb) :
    run stepExec ⟨db, []⟩ [.read request, .write 0] = ⟨exec request.event db, []⟩ := by
  rw [exec_eq_planned]
  rcases hplanned : planned db request with _ | held <;>
    simp only [run_cons, run_nil, stepExec, hplanned] <;> rfl

/-! ## Lost updates -/

/-- The row a request holds is that of its order, up to the columns requests set. -/
def HeldRows (s : Concurrent) : Prop :=
  ∀ held ∈ s.held, ∃ order, s.db.orders.lookup held.id = some order ∧
    held.copy.orderNumber = order.orderNumber

lemma planned_eq_some {db : OrdersDb} {request : OrderRequest} {held : Held}
    (h : planned db request = some held) :
    db.orders.lookup held.id = some held.copy := by
  rcases request with ⟨user, id, isPartial, body⟩ | ⟨user, id, now⟩ | ⟨user, id⟩
  · obtain ⟨⟨u, order⟩, hseen, h⟩ := Option.bind_eq_some_iff.mp h
    obtain ⟨data, -, h⟩ := Option.map_eq_some_iff.mp h
    rw [← h]
    exact lookup_of_getObject (sees_of_seen hseen).2
  · obtain ⟨⟨u, order⟩, hseen, h⟩ := Option.bind_eq_some_iff.mp h
    obtain ⟨-, h⟩ := Option.ite_none_right_eq_some.mp h
    rw [← Option.some.inj h]
    exact lookup_of_getObject (sees_of_seen hseen).2
  · obtain ⟨⟨u, order⟩, hseen, h⟩ := Option.bind_eq_some_iff.mp h
    obtain ⟨-, h⟩ := Option.ite_none_right_eq_some.mp h
    rw [← Option.some.inj h]
    exact lookup_of_getObject (sees_of_seen hseen).2

lemma heldRows_stepExec (s : Concurrent) (step : OrderStep) (h : HeldRows s) :
    HeldRows (stepExec step s) := by
  rcases step with request | i
  · intro held hmem
    rcases List.mem_append.mp hmem with hold | hnew
    · exact h held hold
    · exact ⟨held.copy, planned_eq_some (Option.mem_toList.mp hnew), rfl⟩
  · rcases hheld : s.held[i]? with _ | writer
    · simp only [stepExec, hheld]
      exact h
    · simp only [stepExec, hheld]
      obtain ⟨row, hrow, hnumber⟩ := h writer (List.mem_of_getElem? hheld)
      obtain ⟨hfree, hsave⟩ := save_of_lookup hrow hnumber
      intro held hmem
      obtain ⟨order, horder, hcopy⟩ := h held (List.mem_of_mem_eraseIdx hmem)
      rw [show (⟨writer.save s.db, s.held.eraseIdx i⟩ : Concurrent).db = _ from hsave]
      -- the write of another request leaves the number of the row
      by_cases hid : held.id = writer.id
      · rw [hid] at horder ⊢
        obtain rfl : row = order := Option.some.inj (hrow.symm.trans horder)
        refine ⟨_, Table.lookup_update_self hrow _, ?_⟩
        rw [hcopy, ← hnumber]
        rfl
      · exact ⟨order, (Table.lookup_update_of_ne _ _ hid).trans horder, hcopy⟩

lemma heldRows_run (db : OrdersDb) (steps : List OrderStep) :
    HeldRows (run stepExec ⟨db, []⟩ steps) :=
  run_invariant' heldRows_stepExec steps fun _ hmem => absurd hmem List.not_mem_nil

/-- The row after a writing step. -/
lemma lookup_write {s : Concurrent} (h : HeldRows s) {i : ℕ} {held : Held}
    (hheld : s.held[i]? = some held) :
    (stepExec (.write i) s).db.orders.lookup held.id =
      some (held.change.apply held.copy) := by
  obtain ⟨row, hrow, hnumber⟩ := h held (List.mem_of_getElem? hheld)
  obtain ⟨hfree, hsave⟩ := save_of_lookup hrow hnumber
  simp only [stepExec, hheld, hsave]
  exact Table.lookup_update_self hrow _

/-- Every writing step of the run leaves the row as its request's own changes make it of the
row that is there. -/
def NoLostUpdate (db : OrdersDb) (steps : List OrderStep) : Prop :=
  ∀ earlier i later, steps = earlier ++ .write i :: later →
    ∀ held order, (run stepExec ⟨db, []⟩ earlier).held[i]? = some held →
      (run stepExec ⟨db, []⟩ earlier).db.orders.lookup held.id = some order →
      (run stepExec ⟨db, []⟩ (earlier ++ [.write i])).db.orders.lookup held.id =
        some (held.change.apply order)

/-- A copy that is saved agrees with the row in every column its request does not set. -/
def UpToDate (s : Concurrent) : OrderStep → Prop
  | .read _ => True
  | .write i => ∀ held order, s.held[i]? = some held →
      s.db.orders.lookup held.id = some order → held.change.SameOutside held.copy order

/-- **When no update of an order is lost.** -/
theorem noLostUpdate_iff (db : OrdersDb) (steps : List OrderStep) :
    NoLostUpdate db steps ↔ Guarded stepExec UpToDate ⟨db, []⟩ steps := by
  rw [guarded_iff_steps]
  constructor
  · intro h earlier step later hsplit
    rcases step with request | i
    · trivial
    · intro held order hheld horder
      have hafter := h earlier i later hsplit held order hheld horder
      rw [run_append] at hafter
      have hsaved := lookup_write (heldRows_run db earlier) hheld
      exact (OrderChange.apply_eq_apply_iff _ _ _).mp
        (Option.some.inj (hsaved.symm.trans hafter))
  · intro h earlier i later hsplit held order hheld horder
    have hsame := h earlier (.write i) later hsplit held order hheld horder
    rw [run_append, ← (OrderChange.apply_eq_apply_iff _ _ _).mpr hsame]
    exact lookup_write (heldRows_run db earlier) hheld

/-- A client edits the address of his order and cancels it at the same time.  The edit has
read the order first and is saved last: it takes the cancellation back. -/
theorem not_noLostUpdate_cancel :
    ¬ NoLostUpdate shop
      [.read (.update 1 1 true ⟨none, none, some "Kazan", none, none, none⟩),
       .read (.cancel 1 1), .write 1, .write 0] := by
  intro h
  set earlier : List OrderStep :=
    [.read (.update 1 1 true ⟨none, none, some "Kazan", none, none, none⟩),
     .read (.cancel 1 1), .write 1] with hearlier
  have hheld : ((run stepExec ⟨shop, []⟩ earlier).held[0]?).map
      (fun held => (held.id, held.change.status)) = some (1, none) := by decide +kernel
  have hcancelled : ((run stepExec ⟨shop, []⟩ earlier).db.orders.lookup 1).map (·.status) =
      some .cancelled := by decide +kernel
  have hundone : ((run stepExec ⟨shop, []⟩ (earlier ++ [.write 0])).db.orders.lookup 1).map
      (·.status) = some .pending := by decide +kernel
  obtain ⟨held, hheld, hcolumns⟩ := Option.map_eq_some_iff.mp hheld
  obtain ⟨hid, hstatus⟩ := Prod.mk.inj hcolumns
  obtain ⟨order, horder, horderStatus⟩ := Option.map_eq_some_iff.mp hcancelled
  rw [← hid] at horder hundone
  rw [h earlier 0 [] rfl held order hheld horder, Option.map_some] at hundone
  -- the edit names no status, so the cancellation had to stay
  have hkept : (held.change.apply order).status = order.status := by
    show held.change.status.getD order.status = order.status
    rw [hstatus]
    rfl
  rw [hkept, horderStatus] at hundone
  exact absurd hundone (by decide)

/-! ## What stays in a run without lost updates -/

/-- An order is there after a step, with the changes of the request that has written it. -/
lemma lookup_stepExec {s : Concurrent} {step : OrderStep} (hrows : HeldRows s)
    (hok : UpToDate s step) {id : ℕ} {order : Order} (h : s.db.orders.lookup id = some order) :
    ∃ order', (stepExec step s).db.orders.lookup id = some order' ∧
      (order' = order ∨ ∃ i held, step = .write i ∧ s.held[i]? = some held ∧ held.id = id ∧
        order' = held.change.apply order) := by
  rcases step with request | i
  · exact ⟨order, h, .inl rfl⟩
  · rcases hheld : s.held[i]? with _ | held
    · refine ⟨order, ?_, .inl rfl⟩
      simp only [stepExec, hheld]
      exact h
    · by_cases hid : held.id = id
      · subst hid
        refine ⟨held.change.apply order, ?_, .inr ⟨i, held, rfl, hheld, rfl, rfl⟩⟩
        rw [lookup_write hrows hheld, Option.some.injEq, OrderChange.apply_eq_apply_iff]
        exact hok held order hheld h
      · obtain ⟨row, hrow, hnumber⟩ := hrows held (List.mem_of_getElem? hheld)
        obtain ⟨hfree, hsave⟩ := save_of_lookup hrow hnumber
        refine ⟨order, ?_, .inl rfl⟩
        simp only [stepExec, hheld, hsave]
        exact (Table.lookup_update_of_ne _ _ (Ne.symm hid)).trans h

/-- A time of confirmation, once set, stays set. -/
theorem confirmedAt_stays {db : OrdersDb} {earlier later : List OrderStep}
    (hguarded : Guarded stepExec UpToDate ⟨db, []⟩ (earlier ++ later)) {id : ℕ}
    (h : ∃ order, (run stepExec ⟨db, []⟩ earlier).db.orders.lookup id = some order ∧
      order.confirmedAt.isSome) :
    ∃ order, (run stepExec ⟨db, []⟩ (earlier ++ later)).db.orders.lookup id = some order ∧
      order.confirmedAt.isSome := by
  let I : Concurrent → Prop := fun s => HeldRows s ∧
    ∃ order, s.db.orders.lookup id = some order ∧ order.confirmedAt.isSome
  have hstep : ∀ s step, I s → UpToDate s step → I (stepExec step s) := by
    rintro s step ⟨hrows, order, hlookup, hat⟩ hok
    refine ⟨heldRows_stepExec s step hrows, ?_⟩
    obtain ⟨order', hlookup', rfl | ⟨i, held, -, -, -, rfl⟩⟩ := lookup_stepExec hrows hok hlookup
    · exact ⟨order', hlookup', hat⟩
    · refine ⟨_, hlookup', ?_⟩
      show (held.change.confirmedAt.or order.confirmedAt).isSome
      rw [Option.isSome_or, hat, Bool.or_true]
  exact (run_after hstep hguarded ⟨heldRows_run db earlier, h⟩).2

end OrderViewSet

end OrdersBackend
