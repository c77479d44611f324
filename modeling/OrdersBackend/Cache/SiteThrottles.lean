import OrdersBackend.Cache.Throttling
import OrdersBackend.Framework.SharedLimits

/-!
# The throttles of the endpoints

`register`, `login`, the products and the creation of orders have throttles of their own, all
other endpoints those of the settings.  Every throttle class has its own scope, so an endpoint
and an identity have a budget that nothing else touches (`answers_budget`), and within it the
rate of the settings is kept in every window (`rates_hold`) and a request is refused only when
its window is full (`passes_iff_room`).

The identity of a visitor who is not logged in is what `get_ident` reads from the request, by
default the header `X-Forwarded-For` as it was sent.  A visitor who sends the number of a user
there has the identity of that user, and can use up his budget (`refused_of_impostor`).
-/

namespace OrdersBackend

open Framework

/-! ## The throttle classes -/

/-- `AnonRateThrottle` with the rate of the settings, `100/hour`. -/
def anonRateThrottle : RateThrottle := { scope := "anon", rate := ⟨100, 3600⟩ }

/-- `UserRateThrottle`, `1000/hour`. -/
def userRateThrottle : RateThrottle := { scope := "user", rate := ⟨1000, 3600⟩ }

/-- `LoginRateThrottle`, `5/minute`. -/
def loginRateThrottle : RateThrottle := { scope := "login", rate := ⟨5, 60⟩ }

/-- `RegisterRateThrottle`, `10/hour`. -/
def registerRateThrottle : RateThrottle := { scope := "register", rate := ⟨10, 3600⟩ }

/-- `ProductListRateThrottle`, `60/minute`; `allow_request` sets its own numbers for a
supplier. -/
def productListRateThrottle (isSupplier : Bool) : RateThrottle :=
  { scope := "product_list", rate := if isSupplier then ⟨120, 60⟩ else ⟨60, 60⟩ }

/-- `OrderCreateRateThrottle`, `20/hour`. -/
def orderCreateRateThrottle : RateThrottle := { scope := "order_create", rate := ⟨20, 3600⟩ }

/-! ## The endpoints -/

/-- The endpoints, by their throttles and permissions.  `authenticated` and `anyone` are those
with the throttles of the settings, for users and for everybody. -/
inductive Endpoint
  | register
  | login
  | product
  | orderCreate
  | authenticated
  | anyone
  deriving DecidableEq, Repr

def Requester.isAuthenticated : Requester → Bool
  | user _ => true
  | anonymous _ => false

structure SiteRequest where
  requester : Requester
  isSupplier : Bool
  endpoint : Endpoint
  time : ℚ

namespace SiteRequest

/-- The permission classes, which are asked before the throttles. -/
def permitted (r : SiteRequest) : Bool :=
  match r.endpoint with
  | .register | .login | .anyone => true
  | .product | .orderCreate | .authenticated => r.requester.isAuthenticated

/-- `AnonRateThrottle` and its subclass make no key for a user, and let him through. -/
def ifAnonymous (r : SiteRequest) (throttle : RateThrottle) : List RateThrottle :=
  match r.requester with
  | .user _ => []
  | .anonymous _ => [throttle]

/-- The throttles that count a request. -/
def throttles (r : SiteRequest) : List RateThrottle :=
  match r.endpoint with
  | .register => r.ifAnonymous registerRateThrottle
  | .login => [loginRateThrottle]
  | .product => [productListRateThrottle r.isSupplier]
  | .orderCreate => [orderCreateRateThrottle]
  | .authenticated | .anyone => r.ifAnonymous anonRateThrottle ++ [userRateThrottle]

/-- A request that is not permitted ends before the throttles. -/
def limiters (r : SiteRequest) : List (Limiter String ℚ) :=
  if r.permitted then r.throttles.map fun throttle => throttle.limiter r.requester else []

end SiteRequest

/-- What passes here reaches its view, if it was permitted. -/
def site : Gate SiteRequest String ℚ := ⟨SiteRequest.limiters, SiteRequest.time⟩

/-! ## Budgets -/

/-- The scopes an endpoint counts in. -/
def Endpoint.scopes : Endpoint → List String
  | register => ["register"]
  | login => ["login"]
  | product => ["product_list"]
  | orderCreate => ["order_create"]
  | authenticated | anyone => ["anon", "user"]

def allScopes : List String := ["register", "login", "product_list", "order_create", "anon", "user"]

/-- No two scopes start with the same letter. -/
lemma cacheFormat_injective {scope scope' ident ident' : String} (hscope : scope ∈ allScopes)
    (hscope' : scope' ∈ allScopes) (h : cacheFormat scope ident = cacheFormat scope' ident') :
    scope = scope' ∧ ident = ident' := by
  have htext := congrArg String.toList h
  simp only [cacheFormat, String.toList_append, List.append_assoc] at htext
  replace htext := List.append_cancel_left htext
  simp only [allScopes, List.mem_cons, List.not_mem_nil, or_false] at hscope hscope'
  rcases hscope with rfl | rfl | rfl | rfl | rfl | rfl <;>
    rcases hscope' with rfl | rfl | rfl | rfl | rfl | rfl <;>
    simp_all [String.ext_iff]

lemma scopes_subset (endpoint : Endpoint) : ∀ scope ∈ endpoint.scopes, scope ∈ allScopes := by
  cases endpoint <;> decide

/-- Endpoints that have a scope in common count in the same scopes. -/
lemma scopes_eq_of_mem {endpoint endpoint' : Endpoint} {scope : String}
    (h : scope ∈ endpoint.scopes) (h' : scope ∈ endpoint'.scopes) :
    endpoint.scopes = endpoint'.scopes := by
  cases endpoint <;> cases endpoint' <;> simp_all [Endpoint.scopes]

namespace SiteRequest

variable {r : SiteRequest}

/-- Which throttle counts a request where. -/
lemma throttles_cases {throttle : RateThrottle} (h : throttle ∈ r.throttles) :
    r.endpoint = .register ∧ throttle = registerRateThrottle ∨
      r.endpoint = .login ∧ throttle = loginRateThrottle ∨
      r.endpoint = .product ∧ throttle = productListRateThrottle r.isSupplier ∨
      r.endpoint = .orderCreate ∧ throttle = orderCreateRateThrottle ∨
      (r.endpoint = .authenticated ∨ r.endpoint = .anyone) ∧
        (throttle = anonRateThrottle ∨ throttle = userRateThrottle) := by
  rcases r with ⟨requester, isSupplier, endpoint, time⟩
  cases endpoint <;> cases requester <;> simp_all [throttles, ifAnonymous]

lemma scope_mem {throttle : RateThrottle} (h : throttle ∈ r.throttles) :
    throttle.scope ∈ r.endpoint.scopes := by
  rcases throttles_cases h with ⟨he, rfl⟩ | ⟨he, rfl⟩ | ⟨he, rfl⟩ | ⟨he, rfl⟩ |
    ⟨he | he, rfl | rfl⟩ <;> rw [he] <;>
    simp [Endpoint.scopes, registerRateThrottle, loginRateThrottle, productListRateThrottle,
      orderCreateRateThrottle, anonRateThrottle, userRateThrottle]

/-- The limiters of a request, by their throttles. -/
lemma mem_limiters {l : Limiter String ℚ} (h : l ∈ r.limiters) :
    ∃ throttle ∈ r.throttles, l = throttle.limiter r.requester := by
  unfold limiters at h
  split at h
  · obtain ⟨throttle, hthrottle, rfl⟩ := List.mem_map.mp h
    exact ⟨throttle, hthrottle, rfl⟩
  · cases h

/-- The request counts in the scopes of the endpoint, under the identity. -/
def InBudget (endpoint : Endpoint) (ident : String) (r : SiteRequest) : Prop :=
  r.endpoint.scopes = endpoint.scopes ∧ r.requester.ident = ident

instance (endpoint : Endpoint) (ident : String) : DecidablePred (InBudget endpoint ident) :=
  fun _ => inferInstanceAs (Decidable (_ ∧ _))

end SiteRequest

/-- **Budgets are independent**: in any run, the answers at endpoints that share their scopes,
to requests of one identity, are those the same requests would get if nothing else came. -/
theorem answers_budget (endpoint : Endpoint) (ident : String) (requests : List SiteRequest) :
    (site.answers requests).filter (fun answer => answer.1.InBudget endpoint ident) =
      site.answers (requests.filter (SiteRequest.InBudget endpoint ident)) := by
  have hkey : ∀ (r : SiteRequest) (l : Limiter String ℚ), l ∈ r.limiters →
      ∃ scope ∈ r.endpoint.scopes, l.key = cacheFormat scope r.requester.ident := by
    intro r l hl
    obtain ⟨throttle, hthrottle, rfl⟩ := SiteRequest.mem_limiters hl
    exact ⟨throttle.scope, SiteRequest.scope_mem hthrottle, rfl⟩
  refine Gate.answers_filter (p := fun key => ∃ scope ∈ endpoint.scopes,
    key = cacheFormat scope ident) ?_ ?_
  · rintro r ⟨hscopes, rfl⟩ l hl
    rw [← hscopes]
    exact hkey r l hl
  · rintro r hother l hl ⟨scope, hscope, hformat⟩
    obtain ⟨scope', hscope', hformat'⟩ := hkey r l hl
    obtain ⟨rfl, rfl⟩ := cacheFormat_injective (scopes_subset _ scope' hscope')
      (scopes_subset _ scope hscope) (hformat'.symm.trans hformat)
    exact hother ⟨scopes_eq_of_mem hscope' hscope, rfl⟩

/-! ## Rates -/

/-- The throttles of the site.  The limit of the products is that of the suppliers. -/
def siteThrottles : List RateThrottle :=
  [registerRateThrottle, loginRateThrottle, productListRateThrottle true,
    orderCreateRateThrottle, anonRateThrottle, userRateThrottle]

/-- A throttle of a request has the window of the throttle of its scope, and no larger limit. -/
lemma rate_le {r : SiteRequest} {throttle throttle' : RateThrottle}
    (h : throttle ∈ r.throttles) (h' : throttle' ∈ siteThrottles)
    (hscope : throttle.scope = throttle'.scope) :
    throttle.rate.duration = throttle'.rate.duration ∧
      throttle.rate.numRequests ≤ throttle'.rate.numRequests := by
  simp only [siteThrottles, List.mem_cons, List.not_mem_nil, or_false] at h'
  rcases SiteRequest.throttles_cases h with ⟨-, rfl⟩ | ⟨-, rfl⟩ | ⟨-, rfl⟩ | ⟨-, rfl⟩ |
    ⟨-, rfl | rfl⟩ <;> rcases h' with rfl | rfl | rfl | rfl | rfl | rfl <;>
    simp_all [registerRateThrottle, loginRateThrottle, productListRateThrottle,
      orderCreateRateThrottle, anonRateThrottle, userRateThrottle]
  cases r.isSupplier <;> simp

/-- A limiter under the key of a scope is one of its throttles. -/
lemma throttle_of_key {r : SiteRequest} {l : Limiter String ℚ} {scope ident : String}
    (hl : l ∈ r.limiters) (hscope : scope ∈ allScopes) (hkey : l.key = cacheFormat scope ident) :
    ∃ throttle ∈ r.throttles, l = throttle.limiter r.requester ∧ throttle.scope = scope ∧
      r.requester.ident = ident := by
  obtain ⟨throttle, hthrottle, rfl⟩ := SiteRequest.mem_limiters hl
  obtain ⟨hsame, hident⟩ := cacheFormat_injective
    (scopes_subset _ _ (SiteRequest.scope_mem hthrottle)) hscope hkey
  exact ⟨throttle, hthrottle, rfl, hsame, hident⟩

lemma scope_of_mem_siteThrottles {throttle : RateThrottle} (h : throttle ∈ siteThrottles) :
    throttle.scope ∈ allScopes := by
  simp only [siteThrottles, List.mem_cons, List.not_mem_nil, or_false] at h
  rcases h with rfl | rfl | rfl | rfl | rfl | rfl <;>
    simp [allScopes, registerRateThrottle, loginRateThrottle, productListRateThrottle,
      orderCreateRateThrottle, anonRateThrottle, userRateThrottle]

/-- **The rates are kept**: whatever requests come in whatever order, in no window more requests
of one identity pass a throttle than its rate allows; the products give 60 a minute to those
who are no suppliers. -/
theorem rates_hold {requests : List SiteRequest}
    (hsorted : (requests.map SiteRequest.time).Pairwise (· ≤ ·)) (ident : String) :
    (∀ throttle ∈ siteThrottles,
      throttle.rate.Holds (site.passedUnder (cacheFormat throttle.scope ident) requests)) ∧
    ((∀ r ∈ requests, r.endpoint = .product → r.requester.ident = ident → r.isSupplier = false) →
      (productListRateThrottle false).rate.Holds
        (site.passedUnder (cacheFormat "product_list" ident) requests)) := by
  have hwindow : ∀ throttle ∈ siteThrottles, 0 < throttle.rate.duration := by
    simp [siteThrottles, registerRateThrottle, loginRateThrottle, productListRateThrottle,
      orderCreateRateThrottle, anonRateThrottle, userRateThrottle]
  constructor
  · intro throttle hthrottle
    refine Gate.holds_passedUnder (hwindow throttle hthrottle) ?_ hsorted
    -- throttles with one key have one scope, and no scope but that of the products has two rates
    intro r _ l hl hkey
    obtain ⟨throttle', hthrottle', rfl, hscope, -⟩ :=
      throttle_of_key hl (scope_of_mem_siteThrottles hthrottle) hkey
    exact rate_le hthrottle' hthrottle hscope
  · intro hclients
    have hminute : (0 : ℚ) < (productListRateThrottle false).rate.duration := by
      simp [productListRateThrottle]
    refine Gate.holds_passedUnder hminute ?_ hsorted
    intro r hr l hl hkey
    obtain ⟨throttle, hthrottle, rfl, hscope, hident⟩ := throttle_of_key hl (by decide) hkey
    rcases SiteRequest.throttles_cases hthrottle with ⟨-, rfl⟩ | ⟨-, rfl⟩ | ⟨hproduct, rfl⟩ |
      ⟨-, rfl⟩ | ⟨-, rfl | rfl⟩
    case inr.inr.inl =>
      rw [hclients r hr hproduct hident]
      exact ⟨rfl, le_rfl⟩
    all_goals exact absurd hscope (by decide)

theorem rates_hold_login :
    let requests : List SiteRequest := [⟨.anonymous "10.0.0.1", false, .login, 0⟩,
      ⟨.user 3, true, .product, 1⟩, ⟨.anonymous "10.0.0.1", false, .login, 2⟩]
    loginRateThrottle.rate.Holds (site.passedUnder (cacheFormat "login" "10.0.0.1") requests) := by
  intro requests
  have hsorted : (requests.map SiteRequest.time).Pairwise (· ≤ ·) := by
    simp [requests]
  exact (rates_hold hsorted "10.0.0.1").1 loginRateThrottle (by simp [siteThrottles])

/-- Throttles of one scope have one window. -/
lemma duration_eq {r r' : SiteRequest} {throttle throttle' : RateThrottle}
    (h : throttle ∈ r.throttles) (h' : throttle' ∈ r'.throttles)
    (hscope : throttle.scope = throttle'.scope) :
    throttle.rate.duration = throttle'.rate.duration := by
  obtain ⟨site, hsite, hsame⟩ : ∃ site ∈ siteThrottles, site.scope = throttle.scope := by
    rcases SiteRequest.throttles_cases h with ⟨-, rfl⟩ | ⟨-, rfl⟩ | ⟨-, rfl⟩ | ⟨-, rfl⟩ |
      ⟨-, rfl | rfl⟩
    · exact ⟨_, by simp [siteThrottles], rfl⟩
    · exact ⟨_, by simp [siteThrottles], rfl⟩
    · exact ⟨productListRateThrottle true, by simp [siteThrottles], rfl⟩
    · exact ⟨_, by simp [siteThrottles], rfl⟩
    · exact ⟨_, by simp [siteThrottles], rfl⟩
    · exact ⟨_, by simp [siteThrottles], rfl⟩
  rw [(rate_le h hsite hsame.symm).1, (rate_le h' hsite (hsame.trans hscope).symm).1]

/-- An endpoint with a throttle of its own asks nothing else. -/
lemma throttles_eq_singleton {r : SiteRequest} {throttle : RateThrottle}
    (h : throttle ∈ r.throttles) (hanon : throttle.scope ≠ "anon")
    (huser : throttle.scope ≠ "user") : r.throttles = [throttle] := by
  have hown : throttle ≠ anonRateThrottle ∧ throttle ≠ userRateThrottle := by
    constructor <;> rintro rfl
    · exact hanon rfl
    · exact huser rfl
  rcases r with ⟨requester, isSupplier, endpoint, time⟩
  cases endpoint <;> cases requester <;>
    simp_all [SiteRequest.throttles, SiteRequest.ifAnonymous]

/-- **A request is refused only when its window is full**: at an endpoint with a throttle of its
own a permitted request passes exactly when fewer requests than the rate allows have passed
under its identity within the window that ends at it. -/
theorem passes_iff_room {requests : List SiteRequest} {r : SiteRequest} {throttle : RateThrottle}
    (hpermitted : r.permitted = true) (hthrottle : throttle ∈ r.throttles)
    (hanon : throttle.scope ≠ "anon") (huser : throttle.scope ≠ "user")
    (hsorted : ((requests ++ [r]).map SiteRequest.time).Pairwise (· ≤ ·)) :
    site.passes requests r = true ↔
      (newer (r.time - throttle.rate.duration)
        (site.passedUnder (throttle.getCacheKey r.requester) requests)).length <
          throttle.rate.numRequests := by
  have hlimiters : ∀ {r : SiteRequest} {throttle : RateThrottle}, r.permitted = true →
      throttle ∈ r.throttles → throttle.scope ≠ "anon" → throttle.scope ≠ "user" →
        site.limiters r = [throttle.limiter r.requester] := by
    intro r throttle hpermitted hthrottle hanon huser
    have hunfold : site.limiters r =
        r.throttles.map fun throttle => throttle.limiter r.requester := if_pos hpermitted
    rw [hunfold, throttles_eq_singleton hthrottle hanon huser, List.map_singleton]
  refine Gate.passes_iff (l := throttle.limiter r.requester) ?_
    (hlimiters hpermitted hthrottle hanon huser) hsorted
  rintro r' - ⟨l, hl, hkey⟩
  obtain ⟨throttle', hthrottle', rfl, hscope, -⟩ := throttle_of_key hl
    (scopes_subset _ _ (SiteRequest.scope_mem hthrottle)) hkey
  have hpermitted' : r'.permitted = true := by
    by_contra hdenied
    have hnone : site.limiters r' = [] := if_neg hdenied
    rw [hnone] at hl
    cases hl
  exact ⟨_, hlimiters hpermitted' hthrottle' (hscope ▸ hanon) (hscope ▸ huser),
    duration_eq hthrottle' hthrottle hscope⟩

theorem passes_iff_room_order :
    let requests : List SiteRequest := [⟨.user 3, false, .orderCreate, 0⟩]
    let r : SiteRequest := ⟨.user 3, false, .orderCreate, 5⟩
    site.passes requests r = true ↔
      (newer (r.time - orderCreateRateThrottle.rate.duration)
        (site.passedUnder (orderCreateRateThrottle.getCacheKey r.requester) requests)).length <
          orderCreateRateThrottle.rate.numRequests := by
  intro requests r
  have hthrottle : orderCreateRateThrottle ∈ r.throttles := List.mem_singleton_self _
  have hsorted : ((requests ++ [r]).map SiteRequest.time).Pairwise (· ≤ ·) := by
    simp [requests, r]
  exact passes_iff_room rfl hthrottle (by decide) (by decide) hsorted

/-! ## Borrowed identities -/

/-- A request for the categories by somebody who sends the number of a user as his address. -/
def impostor (pk : ℕ) (time : ℚ) : SiteRequest := ⟨.anonymous pk.repr, false, .anyone, time⟩

/-- A request of the user to an endpoint with the throttles of the settings. -/
def ownRequest (pk : ℕ) (isSupplier : Bool) (time : ℚ) : SiteRequest :=
  ⟨.user pk, isSupplier, .authenticated, time⟩

lemma limiters_impostor (pk : ℕ) (time : ℚ) : site.limiters (impostor pk time) =
    [anonRateThrottle.limiter (.anonymous pk.repr), userRateThrottle.limiter (.user pk)] := rfl

lemma newer_eq_self {now since : ℚ} {times : List ℚ} (h : ∀ t ∈ times, now - 3600 < t)
    (hsince : since ≤ now - 3600) : newer since times = times :=
  List.filter_eq_self.mpr fun t ht => decide_eq_true (hsince.trans_lt (h t ht))

/-- The first thousand requests of an impostor are all recorded in the history of the user,
also those that `AnonRateThrottle` refuses. -/
lemma histories_impostor (pk : ℕ) {now : ℚ} {times : List ℚ}
    (hwindow : ∀ t ∈ times, now - 3600 < t ∧ t ≤ now) (hlength : times.length ≤ 1000) :
    site.histories (times.map (impostor pk)) (userRateThrottle.limiter (.user pk)).key =
      times.reverse := by
  induction times using List.reverseRecOn with
  | nil => rfl
  | append_singleton times last ih =>
      have hbefore : ∀ t ∈ times, now - 3600 < t ∧ t ≤ now := fun t ht =>
        hwindow t (List.mem_append_left _ ht)
      obtain ⟨-, hlast⟩ := hwindow last (by simp)
      rw [List.length_append, List.length_singleton] at hlength
      have hearlier := ih hbefore (by omega)
      -- the throttle of the visitors does not touch the history of the user
      have hanon : (anonRateThrottle.limiter (.anonymous pk.repr)).key ≠
          (userRateThrottle.limiter (.user pk)).key := by
        intro hkey
        exact absurd (cacheFormat_injective (by decide) (by decide) hkey).1 (by decide)
      -- a thousand entries of the last hour all stay, and there is room for one more
      have hkept : newer (last - 3600) times.reverse = times.reverse := by
        refine newer_eq_self (fun t ht => ?_) (sub_le_sub_right hlast 3600)
        exact (hbefore t (List.mem_reverse.mp ht)).1
      set middle := ((anonRateThrottle.limiter (.anonymous pk.repr)).ask last
        (site.histories (times.map (impostor pk)))).2 with hmiddle
      have hframe : middle (userRateThrottle.limiter (.user pk)).key = times.reverse :=
        (Limiter.ask_frame hanon).trans hearlier
      have hroom : (newer (last - (userRateThrottle.limiter (.user pk)).duration)
          (middle (userRateThrottle.limiter (.user pk)).key)).length <
          (userRateThrottle.limiter (.user pk)).numRequests := by
        rw [hframe]
        refine (List.length_filter_le _ _).trans_lt ?_
        rw [List.length_reverse]
        exact hlength
      rw [List.map_append, List.map_singleton, Gate.histories_concat]
      have htime : site.time (impostor pk last) = last := rfl
      rw [htime, limiters_impostor, askAll_cons, askAll_cons, ← hmiddle,
        Limiter.ask_of_room hroom]
      simp only [askAll, Function.update_self]
      rw [hframe, List.reverse_append]
      exact congrArg (last :: ·) hkept

/-- **A borrowed identity locks a user out**: after a thousand requests within an hour that
come with his number for an address, his own request is refused, even if he sent no other. -/
theorem refused_of_impostor (pk : ℕ) (isSupplier : Bool) {now : ℚ} {times : List ℚ}
    (hwindow : ∀ t ∈ times, now - 3600 < t ∧ t ≤ now) (hlength : times.length = 1000) :
    site.passes (times.map (impostor pk)) (ownRequest pk isSupplier now) = false := by
  have hhistory := histories_impostor pk hwindow hlength.le
  have hfull : (userRateThrottle.limiter (.user pk)).numRequests ≤
      (newer (now - (userRateThrottle.limiter (.user pk)).duration)
        (site.histories (times.map (impostor pk))
          (userRateThrottle.limiter (.user pk)).key)).length := by
    have hall : newer (now - 3600) times.reverse = times.reverse :=
      newer_eq_self (fun t ht => (hwindow t (List.mem_reverse.mp ht)).1) le_rfl
    have hduration : (userRateThrottle.limiter (.user pk)).duration = 3600 := rfl
    rw [hhistory, hduration, hall, List.length_reverse, hlength]
    rfl
  have hlimiters : site.limiters (ownRequest pk isSupplier now) =
    [userRateThrottle.limiter (.user pk)] := rfl
  have htime : site.time (ownRequest pk isSupplier now) = now := rfl
  unfold Gate.passes
  rw [hlimiters, htime, askAll_cons, Limiter.ask_of_full hfull]
  rfl

theorem refused_of_impostor_at_once :
    site.passes ((List.replicate 1000 0).map (impostor 5)) (ownRequest 5 false 0) = false :=
  refused_of_impostor 5 false (by
    intro t ht
    rw [List.eq_of_mem_replicate ht]
    norm_num) List.length_replicate

end OrdersBackend
