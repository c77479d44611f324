import Mathlib.Data.List.Induction
import Mathlib.Logic.Function.Basic
import OrdersBackend.Framework.Runs
import OrdersBackend.Framework.Transaction

/-!
# Memoised answers

A cache holds values under keys, each until it expires.  A memoised computation looks its key
up and computes, and stores what it has computed, only when the cache has nothing; `fresh` is
what it computes.  Several users ask it, one after the other, and those with the same key share
an entry.

An entry can also be deleted, alone or with all whose key passes a test.

Who is answered by whose result depends on the keys and the times alone: `filler` is the
request that has filled the entry of a key.  The cache is the image of `filler`
(`run_eq_filler`), so that every answer is fresh exactly when the users who share an entry while
it lives would have computed the same (`alwaysFresh_iff`).
-/

namespace Framework

variable {υ κ ν ε : Type}

/-! ## The cache -/

/-- A cached value, with the time it expires. -/
structure Entry (ν : Type) where
  value : ν
  expires : ℕ
  deriving DecidableEq

def Cache (κ ν : Type) : Type := κ → Option (Entry ν)

namespace Cache

def empty : Cache κ ν := fun _ => none

/-- The value under a key, when it has not expired. -/
def get (c : Cache κ ν) (key : κ) (now : ℕ) : Option ν :=
  (c key).bind fun entry => if now < entry.expires then some entry.value else none

def set [DecidableEq κ] (c : Cache κ ν) (key : κ) (value : ν) (expires : ℕ) : Cache κ ν :=
  Function.update c key (some ⟨value, expires⟩)

def delete [DecidableEq κ] (c : Cache κ ν) (key : κ) : Cache κ ν := Function.update c key none

/-- Delete every key that passes a test. -/
def deleteWhere (c : Cache κ ν) (test : κ → Bool) : Cache κ ν := fun key =>
  if test key then none else c key

variable [DecidableEq κ] {c : Cache κ ν} {key : κ}

lemma set_self (c : Cache κ ν) (key : κ) (value : ν) (expires : ℕ) :
    c.set key value expires key = some ⟨value, expires⟩ :=
  Function.update_self key _ c

lemma set_of_ne (value : ν) (expires : ℕ) {key' : κ} (h : key' ≠ key) :
    c.set key value expires key' = c key' :=
  Function.update_of_ne h _ c

lemma get_set_self (c : Cache κ ν) (key : κ) (value : ν) {expires now : ℕ} (h : now < expires) :
    (c.set key value expires).get key now = some value := by
  rw [get, set_self, Option.bind_some, if_pos h]

lemma isSome_get_set_self (c : Cache κ ν) (key : κ) (value : ν) (expires now : ℕ) :
    ((c.set key value expires).get key now).isSome ↔ now < expires := by
  rw [get, set_self, Option.bind_some]
  split <;> simp [*]

lemma get_set_of_ne (value : ν) (expires now : ℕ) {key' : κ} (h : key' ≠ key) :
    (c.set key value expires).get key' now = c.get key' now := by
  rw [get, set_of_ne value expires h, get]

/-- The entries that a deletion leaves. -/
lemma delete_eq_some {key' : κ} {entry : Entry ν} :
    c.delete key key' = some entry ↔ key' ≠ key ∧ c key' = some entry := by
  rcases eq_or_ne key' key with rfl | h
  · have hgone : c.delete key' key' = none := Function.update_self key' _ c
    simp [hgone]
  · have hkept : c.delete key key' = c key' := Function.update_of_ne h _ c
    simp [hkept, h]

/-- Delete every key of a list. -/
def deleteAll (c : Cache κ ν) (keys : List κ) : Cache κ ν := keys.foldl delete c

@[simp] lemma deleteAll_nil (c : Cache κ ν) : c.deleteAll [] = c := rfl

@[simp] lemma deleteAll_cons (c : Cache κ ν) (key : κ) (keys : List κ) :
    c.deleteAll (key :: keys) = (c.delete key).deleteAll keys := rfl

lemma deleteAll_append (c : Cache κ ν) (keys keys' : List κ) :
    c.deleteAll (keys ++ keys') = (c.deleteAll keys).deleteAll keys' :=
  List.foldl_append

lemma deleteAll_eq_some {keys : List κ} {key : κ} {entry : Entry ν} :
    c.deleteAll keys key = some entry ↔ key ∉ keys ∧ c key = some entry := by
  induction keys generalizing c with
  | nil => simp
  | cons first keys ih =>
      rw [deleteAll_cons, ih, delete_eq_some, List.mem_cons, not_or, and_left_comm, and_assoc]

omit [DecidableEq κ] in
/-- A test that no stored key passes deletes nothing. -/
lemma deleteWhere_eq_self {test : κ → Bool}
    (h : ∀ key entry, c key = some entry → test key = false) : c.deleteWhere test = c := by
  funext key
  unfold deleteWhere
  rcases hentry : c key with _ | entry
  · exact ite_self none
  · rw [h key entry hentry]
    rfl

end Cache

/-! ## The memoised computation -/

/-- What the users ask for: the key of each, what he would compute, how long it is kept. -/
structure Memo (υ κ ν ε : Type) where
  key : υ → κ
  fresh : υ → Except ε ν
  timeout : ℕ

/-- A user asks at a time. -/
structure Ask (υ : Type) where
  user : υ
  now : ℕ
  deriving DecidableEq, Repr

namespace Memo

variable (m : Memo υ κ ν ε)

/-- The entry a request fills. -/
def entry (ask : Ask υ) : Option (Entry ν) :=
  (m.fresh ask.user).toOption.map fun value => ⟨value, ask.now + m.timeout⟩

lemma entry_of_ok {ask : Ask υ} {value : ν} (h : m.fresh ask.user = .ok value) :
    m.entry ask = some ⟨value, ask.now + m.timeout⟩ := by
  rw [entry, h]
  rfl

variable [DecidableEq κ]

/-- The answer to a request: the cached value, or one that is computed and stored.  A
computation that fails stores nothing. -/
def answer (ask : Ask υ) : Tx (Cache κ ν) ε ν := fun c =>
  match c.get (m.key ask.user) ask.now with
  | some value => (.ok value, c)
  | none =>
    match m.fresh ask.user with
    | .ok value => (.ok value, c.set (m.key ask.user) value (ask.now + m.timeout))
    | .error e => (.error e, c)

def exec (ask : Ask υ) (c : Cache κ ν) : Cache κ ν := (m.answer ask c).2

/-- Every request of the run is answered with what its user would compute. -/
def AlwaysFresh (asks : List (Ask υ)) : Prop :=
  ∀ earlier ask later, asks = earlier ++ ask :: later →
    (m.answer ask (run m.exec Cache.empty earlier)).1 = m.fresh ask.user

/-! ## Who has filled an entry -/

/-- The entry a request has filled has not expired. -/
def Alive (last : Option (Ask υ)) (now : ℕ) : Prop :=
  ∃ ask, last = some ask ∧ now < ask.now + m.timeout

instance (last : Option (Ask υ)) (now : ℕ) : Decidable (m.Alive last now) :=
  match last with
  | none => .isFalse (by rintro ⟨_, h, _⟩; cases h)
  | some ask => decidable_of_iff (now < ask.now + m.timeout)
      ⟨fun h => ⟨ask, rfl, h⟩, by rintro ⟨_, h, hlt⟩; cases h; exact hlt⟩

/-- A request fills the entry of its key when this is not alive, and the computation succeeds. -/
def refill (key : κ) (last : Option (Ask υ)) (ask : Ask υ) : Option (Ask υ) :=
  if m.key ask.user = key ∧ ¬ m.Alive last ask.now ∧ (m.fresh ask.user).toBool then some ask
  else last

/-- The request that has filled the entry of a key. -/
def filler (key : κ) (asks : List (Ask υ)) : Option (Ask υ) := asks.foldl (m.refill key) none

/-- Whenever an entry answers a user, the one who filled it would have computed the same. -/
def SharesEqual (asks : List (Ask υ)) : Prop :=
  ∀ earlier ask later, asks = earlier ++ ask :: later →
    ∀ first, m.filler (m.key ask.user) earlier = some first → ask.now < first.now + m.timeout →
      m.fresh first.user = m.fresh ask.user

lemma filler_concat (key : κ) (asks : List (Ask υ)) (ask : Ask υ) :
    m.filler key (asks ++ [ask]) = m.refill key (m.filler key asks) ask :=
  List.foldl_append

/-- The request that has filled an entry has its key, and its computation succeeded. -/
lemma filler_spec {key : κ} {asks : List (Ask υ)} {first : Ask υ}
    (h : m.filler key asks = some first) :
    m.key first.user = key ∧ ∃ value, m.fresh first.user = .ok value := by
  induction asks using List.reverseRecOn with
  | nil => cases h
  | append_singleton asks ask ih =>
      rw [filler_concat, refill] at h
      split at h
      next hfills =>
        obtain ⟨hkey, -, hok⟩ := hfills
        obtain rfl := Option.some.inj h
        rcases hfresh : m.fresh ask.user with e | value
        · rw [hfresh] at hok
          cases hok
        · exact ⟨hkey, value, rfl⟩
      next => exact ih h

/-! ## The cache after a run -/

/-- What a cache answers in which every entry is the one its filler has filled. -/
lemma get_of_filler {c : Cache κ ν} {asks : List (Ask υ)} {key : κ}
    (hc : c key = (m.filler key asks).bind m.entry) (now : ℕ) :
    (¬ m.Alive (m.filler key asks) now ∧ c.get key now = none) ∨
      ∃ first value, m.filler key asks = some first ∧ now < first.now + m.timeout ∧
        m.fresh first.user = .ok value ∧ c.get key now = some value := by
  rcases hfiller : m.filler key asks with _ | first
  · have hdead : ¬ m.Alive none now := by
      rintro ⟨_, h, _⟩
      cases h
    refine .inl ⟨hdead, ?_⟩
    rw [Cache.get, hc, hfiller]
    rfl
  · obtain ⟨-, value, hvalue⟩ := m.filler_spec hfiller
    have hentry : c key = some ⟨value, first.now + m.timeout⟩ := by
      rw [hc, hfiller, Option.bind_some, m.entry_of_ok hvalue]
    by_cases halive : now < first.now + m.timeout
    · refine .inr ⟨first, value, rfl, halive, hvalue, ?_⟩
      rw [Cache.get, hentry, Option.bind_some, if_pos halive]
    · refine .inl ⟨?_, ?_⟩
      · rintro ⟨_, h, hlt⟩
        obtain rfl := Option.some.inj h
        exact halive hlt
      · rw [Cache.get, hentry, Option.bind_some, if_neg halive]

/-- One request keeps the cache the image of its fillers. -/
lemma exec_eq_filler {c : Cache κ ν} {asks : List (Ask υ)}
    (hc : ∀ key, c key = (m.filler key asks).bind m.entry) (ask : Ask υ) (key : κ) :
    m.exec ask c key = (m.filler key (asks ++ [ask])).bind m.entry := by
  rw [filler_concat, refill, exec, answer]
  rcases m.get_of_filler (hc (m.key ask.user)) ask.now with
    ⟨hdead, hget⟩ | ⟨first, value, hfiller, halive, -, hget⟩
  · rw [hget]
    -- the entry is dead or missing, and a request that computes a value fills it
    rcases hfresh : m.fresh ask.user with e | value
    · rw [if_neg (by rintro ⟨-, -, hok⟩; cases hok)]
      exact hc key
    · by_cases hkey : m.key ask.user = key
      · subst hkey
        rw [if_pos ⟨rfl, hdead, rfl⟩, Option.bind_some, m.entry_of_ok hfresh]
        exact c.set_self _ _ _
      · rw [if_neg (fun h => hkey h.1), ← hc key]
        exact Cache.set_of_ne _ _ (Ne.symm hkey)
  · rw [hget]
    have hkept : ¬ (m.key ask.user = key ∧ ¬ m.Alive (m.filler key asks) ask.now ∧
        (m.fresh ask.user).toBool) := by
      rintro ⟨rfl, hdead, -⟩
      exact hdead ⟨first, hfiller, halive⟩
    rw [if_neg hkept]
    exact hc key

/-- After a run every entry is the one its filler has filled. -/
theorem run_eq_filler (asks : List (Ask υ)) (key : κ) :
    run m.exec Cache.empty asks key = (m.filler key asks).bind m.entry := by
  induction asks using List.reverseRecOn generalizing key with
  | nil => rfl
  | append_singleton asks ask ih =>
      rw [run_append]
      exact m.exec_eq_filler ih ask key

/-! ## Fresh answers -/

/-- A request is answered by the live entry of its key, or computed. -/
lemma answer_cases (earlier : List (Ask υ)) (ask : Ask υ) :
    (¬ m.Alive (m.filler (m.key ask.user) earlier) ask.now ∧
      (m.answer ask (run m.exec Cache.empty earlier)).1 = m.fresh ask.user) ∨
    ∃ first, m.filler (m.key ask.user) earlier = some first ∧ ask.now < first.now + m.timeout ∧
      (m.answer ask (run m.exec Cache.empty earlier)).1 = m.fresh first.user := by
  rcases m.get_of_filler (m.run_eq_filler earlier (m.key ask.user)) ask.now with
    ⟨hdead, hget⟩ | ⟨first, value, hfiller, halive, hvalue, hget⟩
  · refine .inl ⟨hdead, ?_⟩
    rw [answer, hget]
    rcases m.fresh ask.user with e | value <;> rfl
  · refine .inr ⟨first, hfiller, halive, ?_⟩
    rw [answer, hget, hvalue]

/-- A user whose key nobody else computes something different for is always answered fresh. -/
theorem answer_fresh_of_key {ask : Ask υ}
    (h : ∀ user, m.key user = m.key ask.user → m.fresh user = m.fresh ask.user)
    (earlier : List (Ask υ)) :
    (m.answer ask (run m.exec Cache.empty earlier)).1 = m.fresh ask.user := by
  rcases m.answer_cases earlier ask with ⟨-, hanswer⟩ | ⟨first, hfiller, -, hanswer⟩
  · exact hanswer
  · have hkey := (m.filler_spec hfiller).1
    rw [hanswer, h first.user hkey]

/-- **When a memoised computation is always fresh**: when those who share an entry would have
computed the same. -/
theorem alwaysFresh_iff (asks : List (Ask υ)) : m.AlwaysFresh asks ↔ m.SharesEqual asks := by
  constructor
  · intro h earlier ask later hsplit first hfiller halive
    rcases m.answer_cases earlier ask with ⟨hdead, -⟩ | ⟨first', hfiller', -, hanswer⟩
    · exact absurd ⟨first, hfiller, halive⟩ hdead
    · obtain rfl : first = first' := Option.some.inj (hfiller.symm.trans hfiller')
      rw [← hanswer]
      exact h earlier ask later hsplit
  · intro h earlier ask later hsplit
    rcases m.answer_cases earlier ask with ⟨-, hanswer⟩ | ⟨first, hfiller, halive, hanswer⟩
    · exact hanswer
    · rw [hanswer]
      exact h earlier ask later hsplit first hfiller halive

end Memo

end Framework
