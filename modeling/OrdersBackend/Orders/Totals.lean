import Mathlib.Algebra.BigOperators.Group.Finset.Basic
import OrdersBackend.Framework.QuerySet
import OrdersBackend.Orders.Statistics

/-!
# The totals of the statistics

The statistics as the program asks the database for them: a supplier's orders are reached
through the items, once for each item of his, and merged; then the orders are counted, summed,
and counted again by status.  The queries give the statistics of the queryset
(`queriedStatistics_eq`), so that every visible order counts once in each of the totals
(`statistics_add_up`).
-/

namespace OrdersBackend

open Framework

namespace OrderViewSet

/-! ## Queries -/

/-- The query of `get_queryset`. -/
def orderQuery (db : OrdersDb) (user : Member db) : Except PyErr (QuerySet (ℕ × Order)) :=
  let queryset := QuerySet.all db.orders.rows
  match user.row.userType with
  | .client => .ok (queryset.filter fun r => r.2.client == user.id)
  | .supplier =>
    match db.accounts.profile user.id with
    | some supplier =>
      .ok (queryset.filterThrough (fun r => db.itemsOf r.1) fun item =>
        item.supplier == supplier).distinct
    | none => .error .attributeError
  | .admin => .ok queryset

/-- The dictionary `stats`, with a query for each of its numbers. -/
def statisticsOfQuery (db : OrdersDb) (queryset : QuerySet (ℕ × Order)) : Statistics where
  totalOrders := queryset.count
  totalAmount := (queryset.aggregateSum fun r => r.2.totalAmount.cents).getD 0
  byStatus := statusChoices.map fun status =>
    (status, (queryset.filter fun r => r.2.status = status).count)
  recentOrders := ((byCreation queryset.merged).take 10).map (OrderSerializer.toRepresentation db)

/-- The statistics of a user, computed by queries. -/
def queriedStatistics (db : OrdersDb) (user : Member db) : Except PyErr Statistics := do
  return statisticsOfQuery db (← orderQuery db user)

/-! ## The queryset -/

lemma orders_nodup (db : OrdersDb) : db.orders.rows.Nodup :=
  List.Nodup.of_map _ db.orders.nodup

/-- The merged rows of the query are the orders of the queryset. -/
lemma merged_orderQuery (db : OrdersDb) (user : Member db) :
    (orderQuery db user).map QuerySet.merged = getQueryset db user.id user.row.userType := by
  unfold orderQuery getQueryset
  rcases user.row.userType with _ | _ | _
  · rfl
  · dsimp only
    rcases db.accounts.profile user.id with _ | supplier
    · rfl
    · exact congrArg Except.ok (QuerySet.merged_filterThrough (orders_nodup db) _ _)
  · rfl

lemma statisticsOfQuery_eq (db : OrdersDb) (queryset : QuerySet (ℕ × Order)) :
    statisticsOfQuery db queryset = statisticsOf db queryset.merged := by
  unfold statisticsOfQuery statisticsOf
  simp only [QuerySet.count_filter, QuerySet.aggregateSum_getD]
  rfl

/-- The queries give the statistics of the queryset. -/
lemma queriedStatistics_eq (db : OrdersDb) (user : Member db) :
    queriedStatistics db user = freshStatistics db user := by
  unfold queriedStatistics freshStatistics
  rw [← merged_orderQuery]
  rcases orderQuery db user with e | queryset
  · rfl
  · exact congrArg Except.ok (statisticsOfQuery_eq db queryset)

/-! ## The totals -/

/-- The orders a user is to see. -/
def visibleOrders (db : OrdersDb) (user : Member db) : Finset (ℕ × Order) :=
  db.orders.rows.toFinset.filter (Visible db user)

lemma statusChoices_nodup : statusChoices.Nodup := by decide

lemma mem_statusChoices (status : OrderStatus) : status ∈ statusChoices := by
  cases status <;> decide

/-- Only a supplier without a profile gets no statistics. -/
lemma getQueryset_error {db : OrdersDb} {user : Member db} {e : PyErr}
    (h : getQueryset db user.id user.row.userType = .error e) :
    e = .attributeError ∧ user.row.userType = .supplier ∧ db.accounts.profile user.id = none := by
  unfold getQueryset at h
  rcases htype : user.row.userType with _ | _ | _
  · simp only [htype] at h
    cases h
  · simp only [htype] at h
    rcases hprofile : db.accounts.profile user.id with _ | supplier
    · rw [hprofile] at h
      cases h
      exact ⟨rfl, rfl, rfl⟩
    · rw [hprofile] at h
      cases h
  · simp only [htype] at h
    cases h

/-- The queryset lists the visible orders. -/
lemma toFinset_queryset {db : OrdersDb} {user : Member db} {queryset : List (ℕ × Order)}
    (h : getQueryset db user.id user.row.userType = .ok queryset) :
    queryset.Nodup ∧ queryset.toFinset = visibleOrders db user := by
  rw [getQueryset_eq_visible h]
  refine ⟨(orders_nodup db).filter _, ?_⟩
  rw [List.toFinset_filter, visibleOrders]
  simp only [decide_eq_true_eq]

/-- The number of the visible orders of a status. -/
lemma countP_status {db : OrdersDb} {user : Member db} {queryset : List (ℕ × Order)}
    (h : getQueryset db user.id user.row.userType = .ok queryset) (status : OrderStatus) :
    queryset.countP (·.2.status = status) =
      ((visibleOrders db user).filter (·.2.status = status)).card := by
  obtain ⟨hnodup, hvisible⟩ := toFinset_queryset h
  rw [List.countP_eq_length_filter, ← List.toFinset_card_of_nodup (hnodup.filter _),
    List.toFinset_filter, hvisible]
  simp only [decide_eq_true_eq]

/-- **Statistics add up**: a supplier without a profile raises; otherwise the number of orders,
the sum of their amounts and the counts by status take each visible order once, in a database
that sums the amounts exactly. -/
theorem statistics_add_up (db : OrdersDb) (user : Member db) :
    (queriedStatistics db user = .error .attributeError ∧ user.row.userType = .supplier ∧
        db.accounts.profile user.id = none) ∨
      ∃ stats, queriedStatistics db user = .ok stats ∧
        stats.totalOrders = (visibleOrders db user).card ∧
        stats.totalAmount = ∑ r ∈ visibleOrders db user, r.2.totalAmount.cents ∧
        (∀ status, (status, ((visibleOrders db user).filter (·.2.status = status)).card) ∈
          stats.byStatus) ∧
        (stats.byStatus.map Prod.snd).sum = stats.totalOrders := by
  rw [queriedStatistics_eq, freshStatistics]
  rcases hqueryset : getQueryset db user.id user.row.userType with e | queryset
  · obtain ⟨rfl, htype, hprofile⟩ := getQueryset_error hqueryset
    exact .inl ⟨rfl, htype, hprofile⟩
  · obtain ⟨hnodup, hvisible⟩ := toFinset_queryset hqueryset
    refine .inr ⟨statisticsOf db queryset, rfl, ?_, ?_, fun status => ?_, ?_⟩
    · rw [← hvisible, List.toFinset_card_of_nodup hnodup]
      rfl
    · rw [← hvisible, List.sum_toFinset _ hnodup]
      rfl
    · rw [← countP_status hqueryset]
      exact List.mem_map_of_mem (mem_statusChoices status)
    · have hcounts := QuerySet.sum_countP_choices statusChoices_nodup (fun r => r.2.status)
        fun (r : ℕ × Order) (_ : r ∈ queryset) => mem_statusChoices r.2.status
      simp only [statisticsOf, List.map_map]
      exact hcounts

end OrderViewSet

end OrdersBackend
