import OrdersBackend.Cache.Readers

/-!
# Stale entries

Runs of saves, deletes and cached reads, each write followed by its handler, with the time in
between.  An entry is stale when it still lives and its reader would compute something else.

The handlers delete what they name: the entry of the row itself, which nobody stores, and after
the save of an order the statistics of its client.  So a run is free of stale entries exactly
when its writes change no cached answer but those (`neverStale_iff`).  The lemmas on `Affects`
say which answers a write can change at all.
-/

namespace OrdersBackend

open Framework Tx

/-- The database, the cache and the seconds since the start. -/
structure Site where
  db : ShopDb
  cache : Cache String Filled
  now : ℕ

inductive SiteEvent
  | write (write : ShopWrite)
  | read (reader : Reader)
  | wait (seconds : ℕ)

variable (md5 : String → String)

namespace ShopWrite

/-- The handlers of a write, one for each row it is called for. -/
def handlers (write : ShopWrite) (db : ShopDb) : Tx (Cache String Filled) PyErr Unit :=
  forEach (if write.isSave then CacheUtils.invalidateCacheOnSave md5
    else CacheUtils.invalidateCacheOnDelete md5) (write.signalled db)

/-- The keys the handlers name. -/
def namedKeys (write : ShopWrite) (db : ShopDb) : List String :=
  (write.signalled db).flatMap
    (if write.isSave then CacheUtils.saveKeys md5 else CacheUtils.deleteKeys md5)

/-- The write changes what a reader computes. -/
def Affects (write : ShopWrite) (db : ShopDb) (reader : Reader) : Prop :=
  reader.fresh (write.after db) ≠ reader.fresh db

end ShopWrite

namespace Site

def start (db : ShopDb) : Site := ⟨db, Cache.empty, 0⟩

def exec : SiteEvent → Site → Site
  | .write write, s =>
    { s with db := write.after s.db, cache := (write.handlers md5 s.db s.cache).2 }
  | .read reader, s => { s with cache := reader.read md5 s.db s.now s.cache }
  | .wait seconds, s => { s with now := s.now + seconds }

/-- Every entry that lives is what its reader would compute. -/
def NoStale (s : Site) : Prop :=
  ∀ key entry, s.cache key = some entry → s.now < entry.expires →
    entry.value.reader.fresh s.db = .ok entry.value.content

/-- Whenever a write changes what the reader of a live entry computes, the entry is under a key
that the handlers name. -/
def NamesAffected (s : Site) : SiteEvent → Prop
  | .write write => ∀ key entry, s.cache key = some entry → s.now < entry.expires →
      write.Affects s.db entry.value.reader → key ∈ write.namedKeys md5 s.db
  | .read _ | .wait _ => True

/-- No entry is stale at any time of the run. -/
def NeverStale (db : ShopDb) (events : List SiteEvent) : Prop :=
  ∀ earlier later, events = earlier ++ later → NoStale (run (exec md5) (start db) earlier)

end Site

variable {md5}

/-! ## The handlers in a run -/

lemma ShopWrite.handlers_apply {c : Cache String Filled} (h : CacheUtils.Digested c)
    (write : ShopWrite) (db : ShopDb) :
    write.handlers md5 db c = (.ok (), c.deleteAll (write.namedKeys md5 db)) := by
  have hfold : ∀ (keys : Instance → List String) (instances : List Instance),
      instances.foldl (fun c i => c.deleteAll (keys i)) c =
        c.deleteAll (instances.flatMap keys) := by
    intro keys instances
    unfold Cache.deleteAll
    rw [List.foldl_flatMap]
  have hkeep : ∀ (keys : Instance → List String) (c : Cache String Filled) (i : Instance),
      CacheUtils.Digested c → CacheUtils.Digested (c.deleteAll (keys i)) :=
    fun keys c i hc => CacheUtils.digested_deleteAll hc (keys i)
  unfold ShopWrite.handlers ShopWrite.namedKeys
  rcases write.isSave with _ | _
  · rw [if_neg Bool.false_ne_true, if_neg Bool.false_ne_true, ← hfold]
    exact forEach_of_ok (fun c i hc => CacheUtils.invalidateCacheOnDelete_apply hc i)
      (hkeep (CacheUtils.deleteKeys md5)) h _
  · rw [if_pos rfl, if_pos rfl, ← hfold]
    exact forEach_of_ok (fun c i hc => CacheUtils.invalidateCacheOnSave_apply hc i)
      (hkeep (CacheUtils.saveKeys md5)) h _

/-! ## Which answers a write can change -/

/-- The tables whose writes are signalled. -/
inductive Model
  | category
  | product
  | order
  deriving DecidableEq, Repr

def ShopWrite.model : ShopWrite → Model
  | saveCategory _ _ | deleteCategory _ => .category
  | saveProduct _ _ | deleteProduct _ => .product
  | saveOrder _ _ | deleteOrder _ => .order

/-- The tables a reader computes its answer from. -/
def Reader.models : Reader → List Model
  | categoryList => [.category]
  | productList _ _ => [.product, .category]
  | orderStatistics _ _ => [.order, .product]

/-- A write leaves the other tables as they are. -/
lemma ShopWrite.after_frame (write : ShopWrite) (db : ShopDb) :
    (write.after db).accounts = db.accounts ∧
    (write.model ≠ .category → (write.after db).categories = db.categories) ∧
    (write.model ≠ .product → (write.after db).products = db.products) ∧
    (write.model ≠ .order →
      (write.after db).orders = db.orders ∧ (write.after db).items = db.items) := by
  rcases write with ⟨id, row⟩ | id | ⟨id, row⟩ | id | ⟨id, row⟩ | id
  · simp only [after, store, model, ShopDb.saveCategory]
    split <;> simp
  · simp only [after, store, model, ShopDb.deleteCategory]
    split <;> simp
  · simp only [after, store, model, ShopDb.saveProduct]
    split <;> simp
  · simp only [after, store, model, ShopDb.deleteProduct]
    split <;> simp
  · simp only [after, store, model, ShopDb.saveOrder]
    split <;> simp
  · simp [after, store, model, ShopDb.deleteOrder]

/-- A write changes only answers computed from its table. -/
theorem ShopWrite.model_mem_of_affects {write : ShopWrite} {db : ShopDb} {reader : Reader}
    (h : write.Affects db reader) : write.model ∈ reader.models := by
  obtain ⟨haccounts, hcategories, hproducts, horders⟩ := write.after_frame db
  by_contra hmodel
  refine h ?_
  rcases reader with _ | ⟨user, userType⟩ | ⟨user, userType⟩
  · have hcategory : write.model ≠ .category := by simpa [Reader.models] using hmodel
    exact Reader.fresh_categoryList_congr (hcategories hcategory)
  · have hboth : write.model ≠ .product ∧ write.model ≠ .category := by
      simpa [Reader.models] using hmodel
    exact Reader.fresh_productList_congr haccounts (hproducts hboth.1) (hcategories hboth.2)
      user userType
  · have hboth : write.model ≠ .order ∧ write.model ≠ .product := by
      simpa [Reader.models] using hmodel
    obtain ⟨hrows, hitems⟩ := horders hboth.1
    exact Reader.fresh_orderStatistics_congr haccounts hrows hitems (hproducts hboth.2)
      user userType

namespace Site

/-- The keys of a run are digests. -/
lemma digested_exec (hmd5 : ∀ text, CacheKeyBuilder.IsDigest (md5 text)) {s : Site}
    (event : SiteEvent) (h : CacheUtils.Digested s.cache) :
    CacheUtils.Digested (exec md5 event s).cache := by
  rcases event with write | reader | seconds
  · have hcache : (exec md5 (.write write) s).cache =
        s.cache.deleteAll (write.namedKeys md5 s.db) :=
      congrArg Prod.snd (write.handlers_apply h s.db)
    rw [hcache]
    exact CacheUtils.digested_deleteAll h _
  · intro key entry hentry
    have hcache : (exec md5 (.read reader) s).cache = reader.read md5 s.db s.now s.cache := rfl
    rw [hcache, reader.read_eq_consult] at hentry
    rcases reader.consult_cases s.db s.now s.cache with hsame | ⟨content, -, hset⟩
    · rw [hsame] at hentry
      exact h key entry hentry
    · rw [hset] at hentry
      by_cases hkey : key = reader.key md5
      · rw [hkey]
        exact reader.isDigest_key hmd5
      · rw [Cache.set_of_ne _ _ hkey] at hentry
        exact h key entry hentry
  · exact h

/-- A write keeps the entries fresh exactly when its handlers name those it affects. -/
lemma noStale_write {s : Site} (hdigested : CacheUtils.Digested s.cache) (h : NoStale s)
    (write : ShopWrite) :
    NoStale (exec md5 (.write write) s) ↔ NamesAffected md5 s (.write write) := by
  have hcache : ∀ key entry, (exec md5 (.write write) s).cache key = some entry ↔
      key ∉ write.namedKeys md5 s.db ∧ s.cache key = some entry := by
    intro key entry
    have hafter : (exec md5 (.write write) s).cache =
        s.cache.deleteAll (write.namedKeys md5 s.db) :=
      congrArg Prod.snd (write.handlers_apply hdigested s.db)
    rw [hafter, Cache.deleteAll_eq_some]
  constructor
  · intro hafter key entry hentry hlive haffects
    by_contra hkept
    have hnew : entry.value.reader.fresh (write.after s.db) = .ok entry.value.content :=
      hafter key entry ((hcache key entry).mpr ⟨hkept, hentry⟩) hlive
    exact haffects (hnew.trans (h key entry hentry hlive).symm)
  · intro hnames key entry hentry hlive
    obtain ⟨hkept, hold⟩ := (hcache key entry).mp hentry
    have hsame : entry.value.reader.fresh (write.after s.db) = entry.value.reader.fresh s.db := by
      by_contra haffects
      exact hkept (hnames key entry hold hlive haffects)
    exact hsame.trans (h key entry hold hlive)

/-- A read stores what its reader computes, and time only makes entries expire. -/
lemma noStale_of_not_write {s : Site} (h : NoStale s) {event : SiteEvent}
    (hevent : ∀ write, event ≠ .write write) : NoStale (exec md5 event s) := by
  rcases event with write | reader | seconds
  · exact absurd rfl (hevent write)
  · intro key entry hentry hlive
    have hcache : (exec md5 (.read reader) s).cache = reader.read md5 s.db s.now s.cache := rfl
    rw [hcache, reader.read_eq_consult] at hentry
    -- a reader leaves the cache alone or stores what it has just computed
    rcases reader.consult_cases s.db s.now s.cache with hsame | ⟨content, hfresh, hset⟩
    · rw [hsame] at hentry
      exact h key entry hentry hlive
    · rw [hset] at hentry
      by_cases hkey : key = reader.key md5
      · rw [hkey, Cache.set_self] at hentry
        rw [← Option.some.inj hentry]
        exact hfresh
      · rw [Cache.set_of_ne _ _ hkey] at hentry
        exact h key entry hentry hlive
  · intro key entry hentry hlive
    have hbefore : s.now < entry.expires := by
      have hnow : (exec md5 (.wait seconds) s).now = s.now + seconds := rfl
      omega
    exact h key entry hentry hbefore

/-- **When cached reads are never stale.**  No entry is stale at any time of a run exactly when
every write of it changes, of the answers in live entries, only those under keys that its
handlers name. -/
theorem neverStale_iff (hmd5 : ∀ text, CacheKeyBuilder.IsDigest (md5 text)) (db : ShopDb)
    (events : List SiteEvent) :
    NeverStale md5 db events ↔ Guarded (exec md5) (NamesAffected md5) (start db) events := by
  have hstart : CacheUtils.Digested (start db).cache ∧ NoStale (start db) :=
    ⟨fun _ _ h => (nomatch h), fun _ _ h => (nomatch h)⟩
  have hexact : ∀ s event, CacheUtils.Digested s.cache ∧ NoStale s →
      (NamesAffected md5 s event ↔
        CacheUtils.Digested (exec md5 event s).cache ∧ NoStale (exec md5 event s)) := by
    rintro s event ⟨hdigested, hfresh⟩
    have hkeys := digested_exec hmd5 event hdigested
    rcases event with write | reader | seconds
    · exact (noStale_write hdigested hfresh write).symm.trans (iff_and_self.mpr fun _ => hkeys)
    · exact iff_of_true trivial ⟨hkeys, noStale_of_not_write hfresh (by simp)⟩
    · exact iff_of_true trivial ⟨hkeys, noStale_of_not_write hfresh (by simp)⟩
  rw [guarded_iff_invariant hexact hstart]
  refine forall_congr' fun earlier => forall_congr' fun later => imp_congr_right fun _ => ?_
  have hkeys : CacheUtils.Digested (run (exec md5) (start db) earlier).cache :=
    run_invariant' (I := fun s : Site => CacheUtils.Digested s.cache)
      (fun _ event h => digested_exec hmd5 event h) earlier hstart.1
  exact (and_iff_right hkeys).symm

/-- The digests of the two keys of the next run. -/
def categoryDigest (text : String) : String :=
  if text = "model:category:pk:1" then "526022238fabd505e201d3d5774f54ec"
  else "ec8d29f5b78768ff767abe29207137f4"

lemma isDigest_categoryDigest (text : String) :
    CacheKeyBuilder.IsDigest (categoryDigest text) := by
  unfold categoryDigest
  split
  · refine ⟨rfl, ?_⟩
    simp
  · refine ⟨rfl, ?_⟩
    simp

/-- A category is saved after the list has been read. -/
def dishesAppear : List SiteEvent :=
  [.read .categoryList, .write (.saveCategory none ⟨"Dishes", "", none, 0⟩)]

def emptyShop : ShopDb := ShopDb.ofAccounts OrderViewSet.shopAccounts

theorem neverStale_iff_dishes :
    NeverStale categoryDigest emptyShop dishesAppear ↔
      Guarded (exec categoryDigest) (NamesAffected categoryDigest) (start emptyShop) dishesAppear :=
  neverStale_iff isDigest_categoryDigest emptyShop dishesAppear

/-- The list without the category stays in the cache. -/
theorem not_neverStale_dishes : ¬ NeverStale categoryDigest emptyShop dishesAppear := by
  intro h
  have hlast := h dishesAppear [] (List.append_nil _).symm
  -- the list that is read while there is no category
  have hread : (exec categoryDigest (.read .categoryList) (start emptyShop)).cache =
      Cache.empty.set (Reader.categoryList.key categoryDigest) ⟨.categoryList, .categories []⟩
        3600 := rfl
  have hkept : Reader.categoryList.key categoryDigest ∉
      (ShopWrite.saveCategory none ⟨"Dishes", "", none, 0⟩).namedKeys categoryDigest emptyShop := by
    decide +kernel
  have hentry : (run (exec categoryDigest) (start emptyShop) dishesAppear).cache
      (Reader.categoryList.key categoryDigest) =
        some ⟨⟨.categoryList, .categories []⟩, 3600⟩ := by
    have hdigested : CacheUtils.Digested
        (exec categoryDigest (.read .categoryList) (start emptyShop)).cache :=
      digested_exec isDigest_categoryDigest _ fun _ _ h => (nomatch h)
    have hwritten : (run (exec categoryDigest) (start emptyShop) dishesAppear).cache =
        (exec categoryDigest (.read .categoryList) (start emptyShop)).cache.deleteAll
          ((ShopWrite.saveCategory none ⟨"Dishes", "", none, 0⟩).namedKeys categoryDigest
            emptyShop) :=
      congrArg Prod.snd (ShopWrite.handlers_apply hdigested _ emptyShop)
    rw [hwritten, hread]
    exact Cache.deleteAll_eq_some.mpr ⟨hkept, Cache.set_self _ _ _ _⟩
  -- the entry that stays is empty, and the list is not
  have hfresh := hlast _ _ hentry (by decide)
  have hserialized : CategoryViewSet.serialized
      (run (exec categoryDigest) (start emptyShop) dishesAppear).db = [] := by
    injection hfresh with hcontent
    injection hcontent
  have hone : (CategoryViewSet.serialized
      (run (exec categoryDigest) (start emptyShop) dishesAppear).db).length = 1 := by
    decide +kernel
  rw [hserialized] at hone
  cases hone

end Site

end OrdersBackend
