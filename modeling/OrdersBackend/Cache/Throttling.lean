import Mathlib.Data.Rat.Cast.Order
import Mathlib.Tactic.Linarith
import Mathlib.Tactic.NormNum
import OrdersBackend.Framework.RateLimit

/-!
# Throttles

`BurstRateThrottle` allows ten requests a second, `SustainedRateThrottle` a thousand an hour.
Both build the key of their history from the scope they inherit and the user, so for one user
they share a history (`getCacheKey_eq`).

The burst limit is kept, as nobody drops an entry younger than a second.  The burst throttle
itself drops what is older, so that the sustained throttle finds at most ten entries whenever
the burst throttle has let a request through (`askAll_burstFirst`): an hour may see more than a
thousand accepted requests.  It does not exactly when those of them are refused that come after
a thousand (`limits_iff`).
-/

namespace OrdersBackend

open Framework

/-- Who sends a request: a user, or somebody who is not logged in, from an address. -/
inductive Requester
  | user (pk : ℕ)
  | anonymous (address : String)
  deriving DecidableEq, Repr

def Requester.ident : Requester → String
  | user pk => pk.repr
  | anonymous address => address

/-- The attributes of a throttle class. -/
structure RateThrottle where
  scope : String
  rate : RateLimit ℚ

/-- `cache_format % {'scope': self.scope, 'ident': ident}`. -/
def cacheFormat (scope ident : String) : String := "throttle_" ++ scope ++ "_" ++ ident

/-- `get_cache_key`, which both classes define alike. -/
def RateThrottle.getCacheKey (throttle : RateThrottle) (requester : Requester) : String :=
  cacheFormat throttle.scope requester.ident

/-- `BurstRateThrottle`: `10/second`, in the scope of `UserRateThrottle`. -/
def burstRateThrottle : RateThrottle := { scope := "user", rate := ⟨10, 1⟩ }

/-- `SustainedRateThrottle`: `1000/hour`, in the scope of `UserRateThrottle`. -/
def sustainedRateThrottle : RateThrottle := { scope := "user", rate := ⟨1000, 3600⟩ }

/-- The throttle of one requester, with the history under his key. -/
def RateThrottle.limiter (throttle : RateThrottle) (requester : Requester) : Limiter String ℚ :=
  { throttle.rate with key := throttle.getCacheKey requester }

/-- The order in which a view names the two throttles. -/
inductive ThrottleOrder
  | burstFirst
  | sustainedFirst
  deriving DecidableEq, Repr

def ThrottleOrder.throttles : ThrottleOrder → List RateThrottle
  | burstFirst => [burstRateThrottle, sustainedRateThrottle]
  | sustainedFirst => [sustainedRateThrottle, burstRateThrottle]

/-- The throttles of a view, for the requests of one requester. -/
def limiters (order : ThrottleOrder) (requester : Requester) : List (Limiter String ℚ) :=
  order.throttles.map fun throttle => throttle.limiter requester

/-- The histories and the accepted requests after a sequence of requests. -/
def requestsServed (order : ThrottleOrder) (requester : Requester) (times : List ℚ) :
    Served String ℚ :=
  serveAll (limiters order requester) times

lemma requestsServed_concat (order : ThrottleOrder) (requester : Requester) (times : List ℚ)
    (now : ℚ) : requestsServed order requester (times ++ [now]) =
      serve (limiters order requester) now (requestsServed order requester times) :=
  serveAll_concat times now

/-- The history of a requester after a sequence of requests. -/
def historyOf (order : ThrottleOrder) (requester : Requester) (times : List ℚ) : List ℚ :=
  (requestsServed order requester times).histories (burstRateThrottle.getCacheKey requester)

/-- Both limits hold of the accepted requests. -/
def LimitsHold (order : ThrottleOrder) (requester : Requester) (times : List ℚ) : Prop :=
  burstRateThrottle.rate.Holds (requestsServed order requester times).accepted ∧
    sustainedRateThrottle.rate.Holds (requestsServed order requester times).accepted

/-! ## The shared history -/

/-- The two throttles have one key. -/
lemma getCacheKey_eq (requester : Requester) :
    sustainedRateThrottle.getCacheKey requester = burstRateThrottle.getCacheKey requester := rfl

section

variable {requester : Requester} {now : ℚ} {histories : String → List ℚ}

lemma limiter_key_eq : (sustainedRateThrottle.limiter requester).key =
    (burstRateThrottle.limiter requester).key := getCacheKey_eq requester

lemma burst_duration : (burstRateThrottle.limiter requester).duration = 1 := rfl

lemma sustained_duration : (sustainedRateThrottle.limiter requester).duration = 3600 := rfl

/-- After the burst throttle the sustained one finds ten entries at most, and never refuses. -/
lemma askAll_burstFirst :
    (askAll now (limiters .burstFirst requester) histories).1 = true ↔
      (newer (now - 1) (histories (burstRateThrottle.getCacheKey requester))).length < 10 := by
  have horder : limiters .burstFirst requester =
    [burstRateThrottle.limiter requester, sustainedRateThrottle.limiter requester] := rfl
  rw [horder, askAll_pair limiter_key_eq, burst_duration, sustained_duration]
  refine ⟨fun h => h.1, fun hroom => ⟨hroom, ?_⟩⟩
  have hkept := List.length_filter_le (now - 3600 < ·) (now :: newer (now - 1)
    (histories (burstRateThrottle.getCacheKey requester)))
  rw [List.length_cons] at hkept
  have hfew : 10 < 1000 := by decide
  exact (hkept.trans hroom).trans_lt hfew

/-- The sustained throttle, asked first, records the request before the burst throttle counts. -/
lemma askAll_sustainedFirst :
    (askAll now (limiters .sustainedFirst requester) histories).1 = true ↔
      (newer (now - 3600) (histories (burstRateThrottle.getCacheKey requester))).length < 1000 ∧
        (newer (now - 1) (histories (burstRateThrottle.getCacheKey requester))).length < 9 := by
  have horder : limiters .sustainedFirst requester =
    [sustainedRateThrottle.limiter requester, burstRateThrottle.limiter requester] := rfl
  rw [horder, askAll_pair limiter_key_eq.symm, burst_duration, sustained_duration]
  have hyoung : now - 1 < now := sub_lt_self now one_pos
  have hinside : now - 3600 ≤ now - 1 := by linarith
  rw [newer_cons_of_lt hyoung, newer_newer hinside, List.length_cons]
  exact and_congr_right fun _ => Nat.succ_lt_succ_iff

end

/-- What makes the next request refused.  The burst throttle finds ten entries of the last
second; nine are enough when the sustained throttle has just put the request in front of them.
Asked first, this one also refuses on a thousand entries of the last hour. -/
def Refuses (order : ThrottleOrder) (history : List ℚ) (now : ℚ) : Prop :=
  match order with
  | .burstFirst => 10 ≤ (newer (now - 1) history).length
  | .sustainedFirst =>
    1000 ≤ (newer (now - 3600) history).length ∨ 9 ≤ (newer (now - 1) history).length

lemma askAll_eq_false_iff {order : ThrottleOrder} {requester : Requester} {now : ℚ}
    {histories : String → List ℚ} :
    (askAll now (limiters order requester) histories).1 = false ↔
      Refuses order (histories (burstRateThrottle.getCacheKey requester)) now := by
  rw [← Bool.not_eq_true]
  cases order with
  | burstFirst => rw [askAll_burstFirst, Refuses, Nat.not_lt]
  | sustainedFirst => rw [askAll_sustainedFirst, Refuses, not_and_or, Nat.not_lt, Nat.not_lt]

/-! ## The limits -/

lemma burst_mem (order : ThrottleOrder) (requester : Requester) :
    burstRateThrottle.limiter requester ∈ limiters order requester := by
  cases order
  · exact List.mem_cons_self
  · exact List.mem_cons_of_mem _ List.mem_cons_self

/-- No throttle has a shorter window than the burst throttle. -/
lemma burst_shortest {order : ThrottleOrder} {requester : Requester} {l : Limiter String ℚ}
    (hl : l ∈ limiters order requester) : 1 ≤ l.duration := by
  have hthrottle : l = burstRateThrottle.limiter requester ∨
      l = sustainedRateThrottle.limiter requester := by
    cases order <;> simpa [limiters, ThrottleOrder.throttles, or_comm] using hl
  rcases hthrottle with rfl | rfl
  · exact le_rfl
  · rw [sustained_duration]
    norm_num

/-- The burst limit is kept in either order. -/
theorem burst_holds (order : ThrottleOrder) (requester : Requester) {times : List ℚ}
    (htimes : times.Pairwise (· ≤ ·)) :
    burstRateThrottle.rate.Holds (requestsServed order requester times).accepted :=
  holds_of_shortest (burst_mem order requester) one_pos (fun _ hl _ => burst_shortest hl) htimes

/-- **Both limits hold exactly when** every request that comes after a thousand accepted ones
of the last hour is refused, which the shared history has to do. -/
theorem limits_iff (order : ThrottleOrder) (requester : Requester) {times : List ℚ}
    (htimes : times.Pairwise (· ≤ ·)) :
    LimitsHold order requester times ↔
      ∀ earlier now later, times = earlier ++ now :: later →
        1000 ≤ (newer (now - 3600) (requestsServed order requester earlier).accepted).length →
          Refuses order (historyOf order requester earlier) now := by
  have hhour : (0 : ℚ) < 3600 := by norm_num
  have hrun : sustainedRateThrottle.rate.Holds (requestsServed order requester times).accepted ↔
      _ := holds_run_iff hhour htimes
  rw [LimitsHold, and_iff_right (burst_holds order requester htimes), hrun]
  refine forall₃_congr fun earlier now later => imp_congr_right fun _ => imp_congr_right fun _ => ?_
  exact askAll_eq_false_iff

/-- Twelve requests within a second.  Each that is accepted is put into the history twice, so that
it is full after five. -/
def twelveAtOnce : List ℚ := (List.range 12).map fun (i : ℕ) => (i : ℚ) / 12

theorem limits_iff_twelveAtOnce :
    (requestsServed .burstFirst (.user 1) twelveAtOnce).accepted.length = 5 ∧
      (LimitsHold .burstFirst (.user 1) twelveAtOnce ↔
        ∀ earlier now later, twelveAtOnce = earlier ++ now :: later →
          1000 ≤ (newer (now - 3600)
            (requestsServed .burstFirst (.user 1) earlier).accepted).length →
              Refuses .burstFirst (historyOf .burstFirst (.user 1) earlier) now) :=
  ⟨by decide +kernel, limits_iff .burstFirst (.user 1) (by decide +kernel)⟩

/-- Both limits hold of a user who sends no more than a thousand requests in any hour. -/
theorem limits_of_sent (order : ThrottleOrder) (requester : Requester) {times : List ℚ}
    (htimes : times.Pairwise (· ≤ ·)) (hsent : sustainedRateThrottle.rate.Holds times) :
    LimitsHold order requester times :=
  ⟨burst_holds order requester htimes, hsent.sublist (accepted_sublist _ times)⟩

/-! ## One request a second -/

/-- The first `n` of the requests that come every second. -/
def everySecond (n : ℕ) : List ℚ := (List.range n).map fun (i : ℕ) => (i : ℚ)

lemma everySecond_succ (n : ℕ) : everySecond (n + 1) = everySecond n ++ [(n : ℚ)] := by
  rw [everySecond, List.range_succ, List.map_append]
  rfl

/-- Every request finds the history a second old, and is accepted. -/
lemma served_everySecond (requester : Requester) (n : ℕ) :
    (requestsServed .burstFirst requester (everySecond n)).accepted = everySecond n ∧
      ∀ t ∈ historyOf .burstFirst requester (everySecond n), t + 1 ≤ n := by
  induction n with
  | zero => exact ⟨rfl, fun t ht => (nomatch ht)⟩
  | succ n ih =>
      obtain ⟨haccepted, hold⟩ := ih
      -- the burst throttle drops what is a second old, so its history is empty
      have hempty : newer ((n : ℚ) - 1) (historyOf .burstFirst requester (everySecond n)) = [] := by
        refine List.filter_eq_nil_iff.mpr fun t ht => ?_
        have hleft := hold t ht
        simp only [decide_eq_true_eq, not_lt]
        linarith
      have hanswer : (askAll (n : ℚ) (limiters .burstFirst requester)
          (requestsServed .burstFirst requester (everySecond n)).histories).1 = true := by
        have hfew : 0 < 10 := by decide
        exact askAll_burstFirst.mpr ((congrArg List.length hempty).trans_lt hfew)
      rw [everySecond_succ, historyOf, requestsServed_concat]
      constructor
      · rw [serve_accepted_of_accepted hanswer]
        exact congrArg (· ++ [(n : ℚ)]) haccepted
      · intro t ht
        push_cast
        rcases mem_serve ht with rfl | hbefore
        · exact le_rfl
        · exact (hold t hbefore).trans (by linarith)

/-- A thousand and one requests, one a second, are all accepted within the hour. -/
theorem limits_everySecond : ¬ LimitsHold .burstFirst (.user 1) (everySecond 1001) := by
  rintro ⟨-, hhour⟩
  rw [(served_everySecond (.user 1) 1001).1] at hhour
  have hall : sustainedRateThrottle.rate.window (-1) (everySecond 1001) = everySecond 1001 := by
    refine List.filter_eq_self.mpr fun t ht => ?_
    obtain ⟨i, hi, rfl⟩ := List.mem_map.mp ht
    have hlast : (i : ℚ) ≤ 1000 := by exact_mod_cast Nat.le_of_lt_succ (List.mem_range.mp hi)
    have hfirst : (0 : ℚ) ≤ i := Nat.cast_nonneg i
    have hduration : sustainedRateThrottle.rate.duration = 3600 := rfl
    rw [hduration, decide_eq_true_eq]
    exact ⟨by linarith, by linarith⟩
  have hcount := hhour (-1)
  rw [hall, everySecond, List.length_map, List.length_range] at hcount
  exact absurd hcount (by decide)

end OrdersBackend
