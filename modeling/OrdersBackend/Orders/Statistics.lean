import OrdersBackend.Cache.Manager
import OrdersBackend.Orders.ViewSet

/-!
# The order statistics

`statistics` is computed from the orders its user sees and kept in the cache for two minutes,
under a key that is meant to depend on the user.  It does for clients and administrators; all
suppliers share the key `order_statistics`, although each sees orders of his own.

`statistics` is a memoised computation (`statistics_eq_answer`), so the rules of the library
say when the answers of a run are those of the users who get them.
-/

namespace OrdersBackend

open Framework Tx

/-! ## The response -/

/-- An item as `OrderItemSerializer` writes it. -/
structure ItemView where
  id : ℕ
  item : OrderItem
  productName : Option String
  supplierName : Option String
  deriving DecidableEq

/-- An order as `OrderSerializer` writes it. -/
structure OrderView where
  id : ℕ
  order : Order
  clientName : Option String
  items : List ItemView
  totalItems : ℕ
  deriving DecidableEq

/-- The dictionary `stats`; the amount is in hundredths. -/
structure Statistics where
  totalOrders : ℕ
  totalAmount : ℤ
  byStatus : List (OrderStatus × ℕ)
  recentOrders : List OrderView
  deriving DecidableEq

namespace OrderSerializer

/-- `OrderSerializer(order).data`. -/
def toRepresentation (db : OrdersDb) (r : ℕ × Order) : OrderView where
  id := r.1
  order := r.2
  clientName := (db.accounts.users.lookup r.2.client).map (·.username)
  items := (db.items.rows.filter fun item => item.2.order = r.1).map fun item =>
    { id := item.1
      item := item.2
      productName := (db.products.lookup item.2.product).map (·.name)
      supplierName := (db.accounts.suppliers.lookup item.2.supplier).map (·.companyName) }
  totalItems := (db.itemsOf r.1).length

end OrderSerializer

/-- A user who is logged in. -/
structure Member (db : OrdersDb) where
  id : ℕ
  row : User
  known : db.accounts.users.lookup id = some row

/-- The ids of users are positive. -/
lemma Member.id_pos {db : OrdersDb} (user : Member db) : 0 < user.id :=
  (Table.id_bounds user.known).1

namespace OrderViewSet

/-! ## The request -/

/-- `STATUS_CHOICES`. -/
def statusChoices : List OrderStatus :=
  [.pending, .confirmed, .processing, .shipped, .delivered, .cancelled]

/-- `queryset.order_by('-created_at')`. -/
def byCreation (queryset : List (ℕ × Order)) : List (ℕ × Order) :=
  queryset.insertionSort fun r r' => r'.2.createdAt ≤ r.2.createdAt

/-- The statistics of the orders of a queryset. -/
def statisticsOf (db : OrdersDb) (queryset : List (ℕ × Order)) : Statistics where
  totalOrders := queryset.length
  totalAmount := (queryset.map fun r => r.2.totalAmount.cents).sum
  byStatus := statusChoices.map fun status => (status, queryset.countP (·.2.status = status))
  recentOrders := ((byCreation queryset).take 10).map (OrderSerializer.toRepresentation db)

/-- The cache key of `statistics`. -/
def statisticsKey (md5 : String → String) {db : OrdersDb} (user : Member db) : String :=
  if user.row.userType = .supplier then CacheKeyBuilder.orderStatistics md5 none
  else CacheKeyBuilder.orderStatistics md5 (some user.id)

/-- `statistics`. -/
def statistics (md5 : String → String) (db : OrdersDb) (user : Member db) (now : ℕ) :
    Tx (Cache String Statistics) PyErr Statistics := do
  let cacheKey := statisticsKey md5 user
  match ← CacheManager.get cacheKey now with
  | some cached => return cached
  | none => do
    let queryset ← lift (getQueryset db user.id user.row.userType)
    let stats := statisticsOf db queryset
    CacheManager.set cacheKey stats (60 * 2) now
    return stats

/-- What the statistics of a user are without the cache. -/
def freshStatistics (db : OrdersDb) (user : Member db) : Except PyErr Statistics := do
  return statisticsOf db (← getQueryset db user.id user.row.userType)

/-! ## Whose orders they are computed from -/

/-- The orders a user is to see: a client his own, a supplier those with an item of his. -/
def Visible (db : OrdersDb) (user : Member db) (r : ℕ × Order) : Prop :=
  match user.row.userType with
  | .client => r.2.client = user.id
  | .supplier => ∃ item ∈ db.itemsOf r.1, db.accounts.profile user.id = some item.supplier
  | .admin => True

instance (db : OrdersDb) (user : Member db) : DecidablePred (Visible db user) := fun r => by
  unfold Visible
  split <;> infer_instance

/-- A queryset has exactly the orders its user is to see. -/
lemma getQueryset_eq_visible {db : OrdersDb} {user : Member db} {queryset : List (ℕ × Order)}
    (h : getQueryset db user.id user.row.userType = .ok queryset) :
    queryset = db.orders.rows.filter fun r => Visible db user r := by
  unfold getQueryset at h
  rcases htype : user.row.userType with _ | _ | _
  · -- a buyer has the orders of its own
    have hvisible : ∀ r, Visible db user r ↔ r.2.client = user.id := fun r => by
      unfold Visible
      rw [htype]
    simp only [htype] at h
    rw [← Except.ok.inj h]
    refine List.filter_congr fun r _ => ?_
    rw [Bool.eq_iff_iff, beq_iff_eq, decide_eq_true_iff, hvisible r]
  · -- a supplier has the orders with an item of its own
    have hvisible : ∀ r, Visible db user r ↔
        ∃ item ∈ db.itemsOf r.1, db.accounts.profile user.id = some item.supplier := fun r => by
      unfold Visible
      rw [htype]
    rcases hprofile : db.accounts.profile user.id with _ | supplier
    · simp only [htype, hprofile] at h
      cases h
    · simp only [htype, hprofile] at h
      rw [← Except.ok.inj h]
      refine List.filter_congr fun r _ => ?_
      rw [Bool.eq_iff_iff, decide_eq_true_iff, hvisible r, hprofile, hasItemOf, List.any_eq_true]
      exact exists_congr fun item => and_congr_right fun _ => by
        rw [beq_iff_eq, Option.some.injEq, eq_comm]
  · -- an administrator has all of them
    have hvisible : ∀ r, Visible db user r := fun r => by
      unfold Visible
      rw [htype]
      trivial
    simp only [htype] at h
    rw [← Except.ok.inj h, List.filter_eq_self.mpr]
    exact fun r _ => decide_eq_true (hvisible r)

/-- The statistics of a user are those of the orders he is to see. -/
theorem freshStatistics_eq_visible {db : OrdersDb} {user : Member db} {stats : Statistics}
    (h : freshStatistics db user = .ok stats) :
    stats = statisticsOf db (db.orders.rows.filter fun r => Visible db user r) := by
  obtain ⟨queryset, hqueryset, hstats⟩ := except_bind_eq_ok.mp h
  rw [← getQueryset_eq_visible hqueryset]
  exact (Except.ok.inj hstats).symm

/-! ## Runs of requests -/

/-- The statistics as a memoised computation. -/
def statisticsMemo (md5 : String → String) (db : OrdersDb) :
    Memo (Member db) String Statistics PyErr where
  key := statisticsKey md5
  fresh := freshStatistics db
  timeout := 60 * 2

/-- The cache after a request. -/
def askStatistics (md5 : String → String) (db : OrdersDb) (ask : Ask (Member db))
    (c : Cache String Statistics) : Cache String Statistics :=
  (statistics md5 db ask.user ask.now c).2

/-- In the run every user gets the statistics of the orders he sees, whoever asked before. -/
def StatisticsPrivate (md5 : String → String) (db : OrdersDb) (asks : List (Ask (Member db))) :
    Prop :=
  ∀ earlier ask later, asks = earlier ++ ask :: later →
    (statistics md5 db ask.user ask.now (run (askStatistics md5 db) Cache.empty earlier)).1 =
      freshStatistics db ask.user

variable (md5 : String → String) (db : OrdersDb)

/-- The request is the memoised computation. -/
lemma statistics_eq_answer (ask : Ask (Member db)) :
    statistics md5 db ask.user ask.now = (statisticsMemo md5 db).answer ask := by
  funext c
  have hget : CacheManager.get (statisticsKey md5 ask.user) ask.now c =
      ((.ok (c.get (statisticsKey md5 ask.user) ask.now), c) :
        Except PyErr (Option Statistics) × Cache String Statistics) := rfl
  have hkey : (statisticsMemo md5 db).key ask.user = statisticsKey md5 ask.user := rfl
  have hfresh : (statisticsMemo md5 db).fresh ask.user = freshStatistics db ask.user := rfl
  unfold statistics Memo.answer
  rw [bind_of_ok hget, hkey, hfresh]
  rcases c.get (statisticsKey md5 ask.user) ask.now with _ | cached
  · unfold freshStatistics
    rcases getQueryset db ask.user.id ask.user.row.userType with e | queryset <;> rfl
  · rfl

lemma askStatistics_eq_exec : askStatistics md5 db = (statisticsMemo md5 db).exec := by
  funext ask c
  unfold askStatistics Memo.exec
  rw [statistics_eq_answer]

lemma statisticsPrivate_iff_alwaysFresh (asks : List (Ask (Member db))) :
    StatisticsPrivate md5 db asks ↔ (statisticsMemo md5 db).AlwaysFresh asks := by
  unfold StatisticsPrivate Memo.AlwaysFresh
  simp only [statistics_eq_answer, askStatistics_eq_exec]
  rfl

/-- **When statistics do not leak.**  Everyone gets his own statistics exactly when, whenever
an entry of the cache answers a user, the one it was computed for has the same statistics. -/
theorem statisticsPrivate_iff (asks : List (Ask (Member db))) :
    StatisticsPrivate md5 db asks ↔ (statisticsMemo md5 db).SharesEqual asks :=
  (statisticsPrivate_iff_alwaysFresh md5 db asks).trans (Memo.alwaysFresh_iff _ asks)

/-- The digest of the one key the next run uses. -/
def suppliersDigest (_ : String) : String := "6f4fd6394724d3f0d1c329034c9175c0"

def firm : Member shop :=
  ⟨2, ⟨"firm", "", "", "", .supplier, "", "", "", none⟩, by decide +kernel⟩

def mill : Member shop :=
  ⟨3, ⟨"mill", "", "", "", .supplier, "", "", "", none⟩, by decide +kernel⟩

/-- A supplier without orders gets the statistics of the one who has asked a minute before. -/
theorem not_statisticsPrivate :
    ¬ StatisticsPrivate suppliersDigest shop [⟨firm, 0⟩, ⟨mill, 60⟩] := by
  intro h
  have hmill := h [⟨firm, 0⟩] ⟨mill, 60⟩ [] rfl
  exact absurd hmill (by decide +kernel)

/-! ## Users with a key of their own -/

variable {md5 db}

/-- The key of a user who is no supplier is his own. -/
lemma eq_of_statisticsKey {user other : Member db} (hclient : user.row.userType ≠ .supplier)
    (hmd5 : CacheKeyBuilder.NoCollision md5 user.id)
    (h : statisticsKey md5 other = statisticsKey md5 user) : other = user := by
  have hkey : statisticsKey md5 user = md5 (CacheKeyBuilder.orderStatisticsBase (some user.id)) :=
    if_neg hclient
  rw [hkey] at h
  unfold statisticsKey at h
  by_cases htype : other.row.userType = .supplier
  · rw [if_pos htype] at h
    have hnone : (none : Option ℕ) = some user.id :=
      CacheKeyBuilder.orderStatisticsBase_inj user.id_pos (hmd5 none h)
    cases hnone
  · rw [if_neg htype] at h
    have hid : some other.id = some user.id :=
      CacheKeyBuilder.orderStatisticsBase_inj user.id_pos (hmd5 (some other.id) h)
    obtain ⟨id, row, hrow⟩ := other
    obtain ⟨id', row', hrow'⟩ := user
    obtain rfl : id = id' := Option.some.inj hid
    obtain rfl : row = row' := Option.some.inj (hrow.symm.trans hrow')
    rfl

/-- The statistics of a user who is no supplier are always his own. -/
theorem statistics_fresh_of_client {ask : Ask (Member db)}
    (hclient : ask.user.row.userType ≠ .supplier)
    (hmd5 : CacheKeyBuilder.NoCollision md5 ask.user.id) (earlier : List (Ask (Member db))) :
    (statistics md5 db ask.user ask.now (run (askStatistics md5 db) Cache.empty earlier)).1 =
      freshStatistics db ask.user := by
  rw [statistics_eq_answer, askStatistics_eq_exec]
  refine Memo.answer_fresh_of_key _ (fun user hkey => ?_) earlier
  rw [eq_of_statisticsKey hclient hmd5 hkey]

end OrderViewSet

end OrdersBackend
