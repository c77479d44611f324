import OrdersBackend.Cache.Manager

/-!
# Cached methods

`cache_model_method` looks a call up under a key made of the class of its first argument, the
name of the function, the other arguments and the keywords.  The first argument itself is not
in the key, neither the instance of a method nor the first argument of a function, so calls on
different instances of a class share an entry (`keyText_eq_of_sameClass`).

While no entry expires, an entry holds what the first call with its key has returned that was
not `None` (`get_after_calls`), and every later call with the key is answered by it.  So the
decorated functions are transparent exactly when the calls with one key agree
(`transparent_iff`).
-/

namespace OrdersBackend

open Framework Tx

/-- What Python tells of the objects `α` that are passed to a function: `__class__.__name__`,
`bool`, and the texts of a tuple and of the keywords. -/
structure PyObjects (α : Type) where
  className : α → String
  truthy : α → Bool
  tupleText : List α → String
  dictText : List (String × α) → String

/-- A function decorated with `cache_model_method(timeout)`.  It is pure; it may return `None`
or raise. -/
structure CachedMethod (α ε ν : Type) where
  name : String
  timeout : ℕ
  func : List α → List (String × α) → Except ε (Option ν)

/-- A call, at a time in seconds. -/
structure MethodCall (α ε ν : Type) where
  method : CachedMethod α ε ν
  args : List α
  kwargs : List (String × α)
  now : ℕ

namespace MethodCall

variable {α ε ν : Type} (py : PyObjects α) (md5 : String → String)

/-- What the undecorated function returns. -/
def undecorated (call : MethodCall α ε ν) : Except ε (Option ν) :=
  call.method.func call.args call.kwargs

/-- The value of a call that returns one which is not `None`. -/
def value? (call : MethodCall α ε ν) : Option ν := call.undecorated.toOption.join

/-- `func_name`, with the class of the first argument when it is true. -/
def funcName (call : MethodCall α ε ν) : String :=
  match call.args with
  | first :: _ =>
    if py.truthy first then py.className first ++ "." ++ call.method.name else call.method.name
  | [] => call.method.name

/-- The text under the digest: `func_name`, the other arguments and the keywords. -/
def keyText (call : MethodCall α ε ν) : String :=
  call.funcName py ++ ":" ++ (py.tupleText (call.args.drop 1) ++ ":" ++ py.dictText call.kwargs)

def cacheKey (call : MethodCall α ε ν) : String :=
  CacheKeyBuilder.normalizeKey md5 (call.keyText py)

/-- The wrapper around the function. -/
def wrapper (call : MethodCall α ε ν) : Tx (Cache String (Option ν)) ε (Option ν) := do
  let cached ← CacheManager.get (call.cacheKey py md5) call.now
  match cached.join with
  | some value => return some value
  | none => do
    let result ← lift call.undecorated
    CacheManager.set (call.cacheKey py md5) result call.method.timeout call.now
    return result

def exec (call : MethodCall α ε ν) (c : Cache String (Option ν)) : Cache String (Option ν) :=
  (call.wrapper py md5 c).2

/-- The cache after a list of calls. -/
def afterCalls (calls : List (MethodCall α ε ν)) : Cache String (Option ν) :=
  run (exec py md5) Cache.empty calls

/-- Every call returns what the undecorated function does. -/
def Transparent (calls : List (MethodCall α ε ν)) : Prop :=
  ∀ earlier call later, calls = earlier ++ call :: later →
    (call.wrapper py md5 (afterCalls py md5 earlier)).1 = call.undecorated

/-- No entry expires during the calls. -/
def WithinTimeout (calls : List (MethodCall α ε ν)) : Prop :=
  ∀ first ∈ calls, ∀ call ∈ calls, call.now < first.now + first.method.timeout

/-- The digest tells the keys of the calls apart. -/
def NoCollision (calls : List (MethodCall α ε ν)) : Prop :=
  ∀ call ∈ calls, ∀ call' ∈ calls, call.cacheKey py md5 = call'.cacheKey py md5 →
    call.keyText py = call'.keyText py

/-- What an earlier call has returned, unless it was `None`, a later call with its key text
returns too. -/
def KeysAgree (calls : List (MethodCall α ε ν)) : Prop :=
  calls.Pairwise fun call call' => call.keyText py = call'.keyText py →
    ∀ value, call.undecorated = .ok (some value) → call'.undecorated = .ok (some value)

/-- The key text depends on the first argument through its class alone. -/
lemma keyText_eq_of_sameClass {method : CachedMethod α ε ν} {first first' : α}
    (htruthy : py.truthy first = py.truthy first')
    (hclass : py.className first = py.className first')
    (args : List α) (kwargs : List (String × α)) (now now' : ℕ) :
    keyText py ⟨method, first :: args, kwargs, now⟩ =
      keyText py ⟨method, first' :: args, kwargs, now'⟩ := by
  simp only [keyText, funcName, htruthy, hclass, List.drop_succ_cons, List.drop_zero]

lemma value?_eq_some {call : MethodCall α ε ν} {value : ν} :
    call.value? = some value ↔ call.undecorated = .ok (some value) := by
  unfold value?
  rcases call.undecorated with e | _ | result <;> simp [Except.toOption]

/-! ## Who has filled an entry -/

/-- The first call with a key that has returned a value. -/
def source (key : String) (calls : List (MethodCall α ε ν)) : Option (MethodCall α ε ν) :=
  calls.find? fun call => call.cacheKey py md5 = key ∧ call.value?.isSome

/-- The value of that call. -/
def stored (key : String) (calls : List (MethodCall α ε ν)) : Option ν :=
  (source py md5 key calls).bind value?

variable {py md5}

lemma source_spec {key : String} {calls : List (MethodCall α ε ν)} {first : MethodCall α ε ν}
    (h : source py md5 key calls = some first) :
    first.cacheKey py md5 = key ∧ first.value?.isSome := by
  have hfirst := List.find?_some h
  simpa using hfirst

/-- One more call fills the entry of its key when nobody has. -/
lemma stored_concat (key : String) (calls : List (MethodCall α ε ν)) (call : MethodCall α ε ν) :
    stored py md5 key (calls ++ [call]) =
      if call.cacheKey py md5 = key then (stored py md5 key calls).or call.value?
      else stored py md5 key calls := by
  have hsplit : source py md5 key (calls ++ [call]) =
      (source py md5 key calls).or (source py md5 key [call]) := List.find?_append
  rw [stored, hsplit]
  rcases hsource : source py md5 key calls with _ | first
  · rw [stored, hsource, Option.none_or, Option.bind_none, Option.none_or]
    by_cases hfills : call.cacheKey py md5 = key ∧ call.value?.isSome
    · have hcall : source py md5 key [call] = some call :=
        List.find?_cons_of_pos (decide_eq_true hfills)
      rw [hcall, if_pos hfills.1, Option.bind_some]
    · have hcall : source py md5 key [call] = none :=
        List.find?_cons_of_neg (by simpa using hfills)
      rw [hcall, Option.bind_none]
      split
      next hkey =>
        have hnone : ¬ call.value?.isSome := fun h => hfills ⟨hkey, h⟩
        rw [Option.not_isSome_iff_eq_none.mp hnone]
      next => rfl
  · obtain ⟨value, hvalue⟩ := Option.isSome_iff_exists.mp (source_spec hsource).2
    rw [stored, hsource, Option.some_or, Option.bind_some, hvalue, Option.some_or, ite_self]

/-! ## The wrapper -/

lemma wrapper_of_hit {call : MethodCall α ε ν} {c : Cache String (Option ν)} {value : ν}
    (h : (c.get (call.cacheKey py md5) call.now).join = some value) :
    call.wrapper py md5 c = (.ok (some value), c) := by
  have hcached : (CacheManager.get (call.cacheKey py md5) call.now :
      Tx (Cache String (Option ν)) ε _) c = (.ok (c.get (call.cacheKey py md5) call.now), c) := rfl
  rw [wrapper, bind_of_ok hcached, h]
  rfl

lemma wrapper_of_miss {call : MethodCall α ε ν} {c : Cache String (Option ν)}
    (h : (c.get (call.cacheKey py md5) call.now).join = none) :
    call.wrapper py md5 c =
      match call.undecorated with
      | .ok result =>
        (.ok result, c.set (call.cacheKey py md5) result (call.now + call.method.timeout))
      | .error e => (.error e, c) := by
  have hcached : (CacheManager.get (call.cacheKey py md5) call.now :
      Tx (Cache String (Option ν)) ε _) c = (.ok (c.get (call.cacheKey py md5) call.now), c) := rfl
  rw [wrapper, bind_of_ok hcached, h]
  cases call.undecorated <;> rfl

/-- What a call leaves in the cache, as long as the entry it fills has not expired. -/
lemma get_exec {call : MethodCall α ε ν} {c : Cache String (Option ν)} {key : String} {now : ℕ}
    (halive : now < call.now + call.method.timeout)
    (hsame : call.cacheKey py md5 = key →
      (c.get key now).join = (c.get key call.now).join) :
    ((call.exec py md5 c).get key now).join =
      if call.cacheKey py md5 = key then ((c.get key now).join).or call.value?
      else (c.get key now).join := by
  unfold exec
  rcases hcached : (c.get (call.cacheKey py md5) call.now).join with _ | value
  · rw [wrapper_of_miss hcached]
    rcases hresult : call.undecorated with e | result
    · have hvalue : call.value? = none := by rw [value?, hresult]; rfl
      rw [hvalue, Option.or_none, ite_self]
    · have hvalue : call.value? = result := by rw [value?, hresult]; rfl
      by_cases hkey : call.cacheKey py md5 = key
      · rw [if_pos hkey, hsame hkey, ← hkey, hcached, Option.none_or, hvalue]
        exact congrArg Option.join (c.get_set_self _ result halive)
      · rw [if_neg hkey]
        exact congrArg Option.join (Cache.get_set_of_ne result _ now (Ne.symm hkey))
  · rw [wrapper_of_hit hcached]
    by_cases hkey : call.cacheKey py md5 = key
    · rw [if_pos hkey, hsame hkey, ← hkey, hcached]
      rfl
    · rw [if_neg hkey]

/-- **What an entry holds** while none expires: the first value returned under its key. -/
lemma get_after_calls {calls : List (MethodCall α ε ν)} (hwithin : WithinTimeout calls)
    (key : String) {now : ℕ} (hnow : ∀ call ∈ calls, now < call.now + call.method.timeout) :
    ((afterCalls py md5 calls).get key now).join = stored py md5 key calls := by
  induction calls using List.reverseRecOn generalizing now with
  | nil => rfl
  | append_singleton calls call ih =>
      have hbefore : WithinTimeout calls := fun first hfirst call' hcall' =>
        hwithin first (List.mem_append_left _ hfirst) call' (List.mem_append_left _ hcall')
      have hcall : ∀ first ∈ calls, call.now < first.now + first.method.timeout :=
        fun first hfirst => hwithin first (List.mem_append_left _ hfirst) call (by simp)
      have hlater : ∀ first ∈ calls, now < first.now + first.method.timeout :=
        fun first hfirst => hnow first (List.mem_append_left _ hfirst)
      have hafter : afterCalls py md5 (calls ++ [call]) =
          call.exec py md5 (afterCalls py md5 calls) := run_append ..
      rw [hafter, stored_concat, get_exec (hnow call (by simp)), ih hbefore hlater]
      intro _
      rw [ih hbefore hlater, ih hbefore hcall]

/-- What a call returns: the first value returned under its key, or its own. -/
lemma wrapper_after_calls {calls : List (MethodCall α ε ν)} {call : MethodCall α ε ν}
    (hwithin : WithinTimeout (calls ++ [call])) :
    (call.wrapper py md5 (afterCalls py md5 calls)).1 =
      match stored py md5 (call.cacheKey py md5) calls with
      | some value => .ok (some value)
      | none => call.undecorated := by
  have hbefore : WithinTimeout calls := fun first hfirst call' hcall' =>
    hwithin first (List.mem_append_left _ hfirst) call' (List.mem_append_left _ hcall')
  have hget : ((afterCalls py md5 calls).get (call.cacheKey py md5) call.now).join =
      stored py md5 (call.cacheKey py md5) calls := get_after_calls hbefore _
    fun first hfirst => hwithin first (List.mem_append_left _ hfirst) call (by simp)
  rcases hstored : stored py md5 (call.cacheKey py md5) calls with _ | value
  · rw [wrapper_of_miss (hget.trans hstored)]
    cases call.undecorated <;> rfl
  · rw [wrapper_of_hit (hget.trans hstored)]

/-! ## Transparency -/

/-- The last call is answered as it should when the earlier calls with its key, which agree,
have returned what it would. -/
lemma answer_iff {calls : List (MethodCall α ε ν)} {call : MethodCall α ε ν}
    (hmd5 : NoCollision py md5 (calls ++ [call])) (hwithin : WithinTimeout (calls ++ [call]))
    (hagree : KeysAgree py calls) :
    (call.wrapper py md5 (afterCalls py md5 calls)).1 = call.undecorated ↔
      ∀ first ∈ calls, first.keyText py = call.keyText py →
        ∀ value, first.undecorated = .ok (some value) → call.undecorated = .ok (some value) := by
  have hkeys : ∀ first ∈ calls, first.cacheKey py md5 = call.cacheKey py md5 ↔
      first.keyText py = call.keyText py := fun first hfirst =>
    ⟨hmd5 first (List.mem_append_left _ hfirst) call (by simp), congrArg md5⟩
  rw [wrapper_after_calls hwithin, stored]
  rcases hsource : source py md5 (call.cacheKey py md5) calls with _ | filler
  · -- nobody has filled the entry: the call computes its own value
    refine iff_of_true rfl fun first hfirst htext value hvalue => ?_
    have hfills : first.cacheKey py md5 = call.cacheKey py md5 ∧ first.value?.isSome := by
      refine ⟨(hkeys first hfirst).mpr htext, ?_⟩
      rw [value?_eq_some.mpr hvalue, Option.isSome_some]
    have hnot := List.find?_eq_none.mp hsource first hfirst
    exact absurd (decide_eq_true hfills) hnot
  · obtain ⟨hkey, hsome⟩ := source_spec hsource
    obtain ⟨stored, hstored⟩ := Option.isSome_iff_exists.mp hsome
    obtain ⟨-, before, after, hsplit, hbefore⟩ := List.find?_eq_some_iff_append.mp hsource
    have hmem : filler ∈ calls := List.mem_of_find?_eq_some hsource
    rw [Option.bind_some, hstored]
    constructor
    · intro hanswer first hfirst htext value hvalue
      -- the filler is the first of the calls with the key that have returned a value
      have hsame : filler = first ∨ first ∈ after := by
        rw [hsplit, List.mem_append, List.mem_cons] at hfirst
        rcases hfirst with hfirst | hfirst | hfirst
        · have hnot := hbefore first hfirst
          simp [(hkeys first (hsplit ▸ List.mem_append_left _ hfirst)).mpr htext,
            value?_eq_some.mpr hvalue] at hnot
        · exact .inl hfirst.symm
        · exact .inr hfirst
      rcases hsame with rfl | hafter
      · rw [← hanswer, ← hstored, value?_eq_some.mpr hvalue]
      · have hagreed := (List.pairwise_cons.mp
          (List.pairwise_append.mp (hsplit ▸ hagree)).2.1).1 first hafter
        have htexts := ((hkeys filler hmem).mp hkey).trans htext.symm
        have hfirst := hagreed htexts stored (value?_eq_some.mp hstored)
        rw [← hvalue, hfirst, ← hanswer]
    · intro h
      exact (h filler hmem ((hkeys filler hmem).mp hkey) stored (value?_eq_some.mp hstored)).symm

/-- **When memoisation is transparent**: exactly when no call has a key text under which an
earlier one has returned a value that is not its own. -/
theorem transparent_iff {calls : List (MethodCall α ε ν)} (hmd5 : NoCollision py md5 calls)
    (hwithin : WithinTimeout calls) : Transparent py md5 calls ↔ KeysAgree py calls := by
  unfold Transparent
  induction calls using List.reverseRecOn with
  | nil => exact iff_of_true (fun earlier call later h => absurd h.symm (by simp)) .nil
  | append_singleton calls call ih =>
      have hmd5' : NoCollision py md5 calls := fun c hc c' hc' =>
        hmd5 c (List.mem_append_left _ hc) c' (List.mem_append_left _ hc')
      have hwithin' : WithinTimeout calls := fun c hc c' hc' =>
        hwithin c (List.mem_append_left _ hc) c' (List.mem_append_left _ hc')
      have hpairs : KeysAgree py (calls ++ [call]) ↔ KeysAgree py calls ∧ _ := List.pairwise_append
      rw [forall_split_concat, ih hmd5' hwithin', hpairs]
      constructor
      · rintro ⟨hagree, hanswer⟩
        refine ⟨hagree, List.pairwise_singleton _ _, fun first hfirst last hlast => ?_⟩
        obtain rfl := List.mem_singleton.mp hlast
        exact (answer_iff hmd5 hwithin hagree).mp hanswer first hfirst
      · rintro ⟨hagree, -, hlast⟩
        refine ⟨hagree, (answer_iff hmd5 hwithin hagree).mpr fun first hfirst => ?_⟩
        exact hlast first hfirst call List.mem_cons_self

/-! ## Two instances of a class -/

/-- Orders, known by their primary keys. -/
def orderObjects : PyObjects ℕ :=
  { className := fun _ => "Order"
    truthy := fun _ => true
    tupleText := fun args => "(" ++ String.join (args.map fun pk => pk.repr ++ ", ") ++ ")"
    dictText := fun kwargs =>
      "\x7b" ++ String.join (kwargs.map fun item => item.1 ++ ": " ++ item.2.repr ++ ", ") ++
        "\x7d" }

/-- A method that returns a number of its instance. -/
def getTotal : CachedMethod ℕ Empty ℕ :=
  { name := "get_total", timeout := 900, func := fun args _ => .ok args.head? }

/-- The method on the orders 1 and 2, a second apart. -/
def twoOrders : List (MethodCall ℕ Empty ℕ) := [⟨getTotal, [1], [], 0⟩, ⟨getTotal, [2], [], 1⟩]

lemma withinTimeout_twoOrders : WithinTimeout twoOrders := by
  unfold WithinTimeout twoOrders
  decide

theorem transparent_iff_twoOrders :
    Transparent orderObjects id twoOrders ↔ KeysAgree orderObjects twoOrders :=
  transparent_iff (fun _ _ _ _ h => h) withinTimeout_twoOrders

/-- The order 2 is answered with the number of the order 1. -/
theorem not_transparent_twoOrders : NoCollision orderObjects id twoOrders ∧
    WithinTimeout twoOrders ∧ ¬ Transparent orderObjects id twoOrders := by
  refine ⟨fun _ _ _ _ h => h, withinTimeout_twoOrders, fun h => ?_⟩
  have hsecond := h [⟨getTotal, [1], [], 0⟩] ⟨getTotal, [2], [], 1⟩ [] rfl
  exact absurd hsecond (by decide)

end MethodCall

end OrdersBackend
