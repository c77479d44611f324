import Mathlib.Algebra.Order.Group.Defs
import Mathlib.Algebra.Order.Group.Basic
import Mathlib.Data.List.Basic
import OrdersBackend.Framework.Runs

/-!
# Sliding windows

A limiter keeps a history of request times under a key.  A request drops the entries that have
left the window of the limiter, is refused when as many as the limit are left, and is put in
front of them otherwise.  A guarded resource asks all its limiters, and accepts the request when
none of them refuses it; limiters with the same key read and write the same history.

A limiter keeps its own limit when no limiter with its key has a shorter window
(`holds_of_shortest`): whatever the others record only adds to the history, and what they drop
has left its window too.  A longer window has no such promise, since the shorter one drops what
it still counts.  For any limit `holds_run_iff` names the requests that have to be refused.
-/

namespace Framework

structure RateLimit (τ : Type) where
  numRequests : ℕ
  duration : τ
  deriving DecidableEq, Repr

/-- A limit whose history stands under a key. -/
structure Limiter (κ τ : Type) extends RateLimit τ where
  key : κ
  deriving DecidableEq, Repr

section

variable {τ : Type} [LinearOrder τ]

/-- The entries of a history after a time. -/
def newer (since : τ) (history : List τ) : List τ := history.filter (since < ·)

@[simp] lemma newer_nil (since : τ) : newer since [] = [] := rfl

lemma newer_cons_of_lt {since t : τ} (h : since < t) (history : List τ) :
    newer since (t :: history) = t :: newer since history :=
  List.filter_cons_of_pos (decide_eq_true h)

lemma newer_cons_of_not_lt {since t : τ} (h : ¬ since < t) (history : List τ) :
    newer since (t :: history) = newer since history :=
  List.filter_cons_of_neg (by simpa using h)

lemma newer_append (since : τ) (history history' : List τ) :
    newer since (history ++ history') = newer since history ++ newer since history' :=
  List.filter_append ..

/-- What is dropped first makes no difference to a later cut. -/
lemma newer_newer {since since' : τ} (h : since ≤ since') (history : List τ) :
    newer since' (newer since history) = newer since' history := by
  unfold newer
  rw [List.filter_filter]
  refine List.filter_congr fun t _ => ?_
  rcases lt_or_ge since' t with ht | ht
  · simp [ht, h.trans_lt ht]
  · simp [ht]

end

section

variable {κ τ : Type} [DecidableEq κ] [LinearOrder τ] [AddCommGroup τ]

/-- The answer of one limiter, and the histories it leaves. -/
def Limiter.ask (l : Limiter κ τ) (now : τ) (histories : κ → List τ) : Bool × (κ → List τ) :=
  let kept := newer (now - l.duration) (histories l.key)
  if l.numRequests ≤ kept.length then (false, histories)
  else (true, Function.update histories l.key (now :: kept))

/-- All limiters are asked, also after one has refused. -/
def askAll (now : τ) : List (Limiter κ τ) → (κ → List τ) → Bool × (κ → List τ)
  | [], histories => (true, histories)
  | l :: limiters, histories =>
    let first := l.ask now histories
    let rest := askAll now limiters first.2
    (first.1 && rest.1, rest.2)

/-- The histories, and the times of the requests that were accepted. -/
structure Served (κ τ : Type) where
  histories : κ → List τ
  accepted : List τ

def Served.start : Served κ τ := ⟨fun _ => [], []⟩

/-- A request to what the limiters guard. -/
def serve (limiters : List (Limiter κ τ)) (now : τ) (s : Served κ τ) : Served κ τ :=
  let answer := askAll now limiters s.histories
  ⟨answer.2, if answer.1 then s.accepted ++ [now] else s.accepted⟩

/-- The times in a window.  It is open at its older end, as a request on its edge has left it. -/
def RateLimit.window (r : RateLimit τ) (start : τ) (times : List τ) : List τ :=
  times.filter fun t => start < t ∧ t ≤ start + r.duration

/-- No window holds more accepted requests than the limit. -/
def RateLimit.Holds (r : RateLimit τ) (accepted : List τ) : Prop :=
  ∀ start, (r.window start accepted).length ≤ r.numRequests

/-! ## One limiter -/

lemma Limiter.ask_of_full {l : Limiter κ τ} {now : τ} {histories : κ → List τ}
    (h : l.numRequests ≤ (newer (now - l.duration) (histories l.key)).length) :
    l.ask now histories = (false, histories) :=
  if_pos h

lemma Limiter.ask_of_room {l : Limiter κ τ} {now : τ} {histories : κ → List τ}
    (h : (newer (now - l.duration) (histories l.key)).length < l.numRequests) :
    l.ask now histories = (true, Function.update histories l.key
      (now :: newer (now - l.duration) (histories l.key))) :=
  if_neg (Nat.not_le.mpr h)

lemma Limiter.ask_iff {l : Limiter κ τ} {now : τ} {histories : κ → List τ} :
    (l.ask now histories).1 = true ↔
      (newer (now - l.duration) (histories l.key)).length < l.numRequests := by
  rcases lt_or_ge (newer (now - l.duration) (histories l.key)).length l.numRequests with h | h
  · rw [ask_of_room h]
    exact ⟨fun _ => h, fun _ => rfl⟩
  · rw [ask_of_full h]
    exact ⟨fun hfalse => (nomatch hfalse), fun hlt => absurd hlt (Nat.not_lt.mpr h)⟩

/-- A limiter drops nothing that a limiter with its key still counts in a shorter window. -/
lemma Limiter.newer_le_ask {l : Limiter κ τ} {key : κ} {now since : τ}
    (hsince : l.key = key → now - l.duration ≤ since) (histories : κ → List τ) :
    (newer since (histories key)).length ≤ (newer since ((l.ask now histories).2 key)).length := by
  rcases lt_or_ge (newer (now - l.duration) (histories l.key)).length l.numRequests with h | h
  · rw [ask_of_room h]
    rcases eq_or_ne l.key key with rfl | hkey
    · simp only [Function.update_self]
      have hkept := newer_newer (hsince rfl) (histories l.key)
      by_cases hnow : since < now
      · rw [newer_cons_of_lt hnow, hkept]
        exact Nat.le_succ _
      · rw [newer_cons_of_not_lt hnow, hkept]
    · simp only [Function.update_of_ne hkey.symm]
      exact le_rfl
  · rw [ask_of_full h]

/-- A request that a limiter lets through is put into its history. -/
lemma Limiter.newer_lt_ask {l : Limiter κ τ} {now since : τ} (hsince : now - l.duration ≤ since)
    (hnow : since < now) {histories : κ → List τ} (h : (l.ask now histories).1 = true) :
    (newer since (histories l.key)).length <
      (newer since ((l.ask now histories).2 l.key)).length := by
  rw [ask_of_room (ask_iff.mp h)]
  simp only [Function.update_self]
  rw [newer_cons_of_lt hnow, newer_newer hsince]
  exact Nat.lt_succ_self _

/-- Nothing but the request enters a history. -/
lemma Limiter.mem_ask {l : Limiter κ τ} {key : κ} {now t : τ} {histories : κ → List τ}
    (h : t ∈ (l.ask now histories).2 key) : t = now ∨ t ∈ histories key := by
  rcases lt_or_ge (newer (now - l.duration) (histories l.key)).length l.numRequests with
    hroom | hfull
  · rw [ask_of_room hroom] at h
    rcases eq_or_ne l.key key with rfl | hkey
    · simp only [Function.update_self] at h
      exact (List.mem_cons.mp h).imp_right List.mem_of_mem_filter
    · simp only [Function.update_of_ne hkey.symm] at h
      exact .inr h
  · rw [ask_of_full hfull] at h
    exact .inr h

/-! ## All limiters -/

section

variable {key : κ} {now since : τ} {limiters : List (Limiter κ τ)}

lemma askAll_cons (l : Limiter κ τ) (limiters : List (Limiter κ τ)) (histories : κ → List τ) :
    askAll now (l :: limiters) histories =
      ((l.ask now histories).1 && (askAll now limiters (l.ask now histories).2).1,
        (askAll now limiters (l.ask now histories).2).2) := rfl

lemma newer_le_askAll (hsince : ∀ l ∈ limiters, l.key = key → now - l.duration ≤ since)
    (histories : κ → List τ) :
    (newer since (histories key)).length ≤
      (newer since ((askAll now limiters histories).2 key)).length := by
  induction limiters generalizing histories with
  | nil => exact le_rfl
  | cons l limiters ih =>
      calc (newer since (histories key)).length
          ≤ (newer since ((l.ask now histories).2 key)).length :=
            l.newer_le_ask (hsince l List.mem_cons_self) histories
        _ ≤ _ := ih (fun l' hl' => hsince l' (List.mem_cons_of_mem _ hl')) _

lemma newer_lt_askAll (hsince : ∀ l ∈ limiters, l.key = key → now - l.duration ≤ since)
    (hkey : ∃ l ∈ limiters, l.key = key) (hnow : since < now) {histories : κ → List τ}
    (h : (askAll now limiters histories).1 = true) :
    (newer since (histories key)).length <
      (newer since ((askAll now limiters histories).2 key)).length := by
  induction limiters generalizing histories with
  | nil =>
      obtain ⟨l, hl, -⟩ := hkey
      cases hl
  | cons first limiters ih =>
      have hrest : ∀ l ∈ limiters, l.key = key → now - l.duration ≤ since :=
        fun l hl => hsince l (List.mem_cons_of_mem _ hl)
      rw [askAll_cons, Bool.and_eq_true] at h
      obtain ⟨l, hl, rfl⟩ := hkey
      rcases List.mem_cons.mp hl with rfl | hl
      · exact (l.newer_lt_ask (hsince l List.mem_cons_self rfl) hnow h.1).trans_le
          (newer_le_askAll hrest _)
      · exact (first.newer_le_ask (hsince first List.mem_cons_self) histories).trans_lt
          (ih hrest ⟨l, hl, rfl⟩ h.2)

/-- A limiter that lets a request through had room, counting what stood in its history before
any limiter was asked. -/
lemma room_of_askAll {l : Limiter κ τ} (hl : l ∈ limiters)
    (hsince : ∀ l' ∈ limiters, l'.key = l.key → now - l'.duration ≤ now - l.duration)
    {histories : κ → List τ} (h : (askAll now limiters histories).1 = true) :
    (newer (now - l.duration) (histories l.key)).length < l.numRequests := by
  induction limiters generalizing histories with
  | nil => cases hl
  | cons first limiters ih =>
      rw [askAll_cons, Bool.and_eq_true] at h
      rcases List.mem_cons.mp hl with rfl | hl
      · exact Limiter.ask_iff.mp h.1
      · exact (first.newer_le_ask (hsince first List.mem_cons_self) histories).trans_lt
          (ih hl (fun l' hl' => hsince l' (List.mem_cons_of_mem _ hl')) h.2)

lemma mem_askAll {t : τ} {histories : κ → List τ}
    (h : t ∈ (askAll now limiters histories).2 key) : t = now ∨ t ∈ histories key := by
  induction limiters generalizing histories with
  | nil => exact .inr h
  | cons first limiters ih =>
      rcases ih h with hnow | hold
      · exact .inl hnow
      · exact Limiter.mem_ask hold

/-- Of two limiters with one history the second counts what the first has left, with the
request in front. -/
lemma askAll_pair {l l' : Limiter κ τ} (hkey : l'.key = l.key) {histories : κ → List τ} :
    (askAll now [l, l'] histories).1 = true ↔
      (newer (now - l.duration) (histories l.key)).length < l.numRequests ∧
        (newer (now - l'.duration)
          (now :: newer (now - l.duration) (histories l.key))).length < l'.numRequests := by
  have hsplit : (askAll now [l, l'] histories).1 = true ↔
      (l.ask now histories).1 = true ∧ (l'.ask now (l.ask now histories).2).1 = true := by
    simp [askAll]
  rw [hsplit, Limiter.ask_iff]
  refine and_congr_right fun hroom => ?_
  rw [Limiter.ask_iff, Limiter.ask_of_room hroom, hkey]
  simp only [Function.update_self]

end

/-! ## Windows -/

section

variable {r : RateLimit τ} {start now : τ} {times accepted : List τ}

lemma RateLimit.window_append (r : RateLimit τ) (start : τ) (times times' : List τ) :
    r.window start (times ++ times') = r.window start times ++ r.window start times' :=
  List.filter_append ..

lemma RateLimit.window_singleton (h : start < now ∧ now ≤ start + r.duration) :
    r.window start [now] = [now] :=
  List.filter_cons_of_pos (decide_eq_true h)

lemma RateLimit.window_singleton_of_not (h : ¬ (start < now ∧ now ≤ start + r.duration)) :
    r.window start [now] = [] :=
  List.filter_cons_of_neg (by simpa using h)

/-- A limit that holds of a run of requests holds of any choice among them. -/
lemma RateLimit.Holds.sublist {times' : List τ} (h : r.Holds times) (hsub : times'.Sublist times) :
    r.Holds times' := fun start =>
  (hsub.filter _).length_le.trans (h start)

/-- The window that ends at the last time. -/
lemma RateLimit.window_last (hle : ∀ t ∈ times, t ≤ now) :
    r.window (now - r.duration) times = newer (now - r.duration) times := by
  refine List.filter_congr fun t ht => ?_
  have hend : t ≤ now - r.duration + r.duration := by
    rw [sub_add_cancel]
    exact hle t ht
  simp only [hend, and_true]

variable [IsOrderedAddMonoid τ]

/-- A window that reaches a time holds nothing that has left the window ending there. -/
lemma RateLimit.window_length_le (h : now ≤ start + r.duration) (times : List τ) :
    (r.window start times).length ≤ (newer (now - r.duration) times).length := by
  refine List.Sublist.length_le (List.monotone_filter_right _ fun t ht => ?_)
  have hstart : now - r.duration ≤ start := sub_le_iff_le_add.mpr h
  exact decide_eq_true (hstart.trans_lt (of_decide_eq_true ht).1)

/-- One more accepted request keeps the limit when the window that ends at it has room. -/
lemma RateLimit.holds_concat (hd : 0 < r.duration) (hle : ∀ t ∈ accepted, t ≤ now) :
    r.Holds (accepted ++ [now]) ↔
      r.Holds accepted ∧ (newer (now - r.duration) accepted).length < r.numRequests := by
  constructor
  · intro h
    refine ⟨h.sublist (List.sublist_append_left _ _), ?_⟩
    have hlast : now - r.duration < now ∧ now ≤ now - r.duration + r.duration :=
      ⟨sub_lt_self now hd, (sub_add_cancel now r.duration).ge⟩
    have hcount := h (now - r.duration)
    rw [window_append, window_singleton hlast, window_last hle, List.length_append] at hcount
    exact hcount
  · rintro ⟨h, hroom⟩ start
    rw [window_append, List.length_append]
    by_cases hnow : start < now ∧ now ≤ start + r.duration
    · rw [window_singleton hnow]
      exact (window_length_le hnow.2 accepted).trans_lt hroom
    · rw [window_singleton_of_not hnow]
      exact h start

end

/-! ## Runs -/

section

variable {limiters : List (Limiter κ τ)}

/-- A run of requests, from histories that are empty. -/
def serveAll (limiters : List (Limiter κ τ)) (times : List τ) : Served κ τ :=
  run (serve limiters) Served.start times

lemma serveAll_concat (times : List τ) (now : τ) :
    serveAll limiters (times ++ [now]) = serve limiters now (serveAll limiters times) :=
  run_append ..

lemma serve_accepted_of_refused {now : τ} {s : Served κ τ}
    (h : (askAll now limiters s.histories).1 = false) :
    (serve limiters now s).accepted = s.accepted := by
  simp [serve, h]

lemma serve_accepted_of_accepted {now : τ} {s : Served κ τ}
    (h : (askAll now limiters s.histories).1 = true) :
    (serve limiters now s).accepted = s.accepted ++ [now] := by
  simp [serve, h]

lemma mem_serve {key : κ} {now t : τ} {s : Served κ τ}
    (h : t ∈ (serve limiters now s).histories key) : t = now ∨ t ∈ s.histories key :=
  mem_askAll h

/-- Only requests are accepted, each once. -/
lemma accepted_sublist (limiters : List (Limiter κ τ)) (times : List τ) :
    (serveAll limiters times).accepted.Sublist times := by
  induction times using List.reverseRecOn with
  | nil => exact List.Sublist.slnil
  | append_singleton times now ih =>
      rw [serveAll_concat]
      cases hanswer : (askAll now limiters (serveAll limiters times).histories).1 with
      | true =>
          rw [serve_accepted_of_accepted hanswer]
          exact ih.append (List.Sublist.refl _)
      | false =>
          rw [serve_accepted_of_refused hanswer]
          exact ih.trans (List.sublist_append_left _ _)

lemma accepted_le {times : List τ} {now : τ} (h : ∀ t ∈ times, t ≤ now) :
    ∀ t ∈ (serveAll limiters times).accepted, t ≤ now := fun t ht =>
  h t ((accepted_sublist limiters times).subset ht)

variable [IsOrderedAddMonoid τ]

/-- **The requests a limit wants refused**: those that come when the window ending at them is
full of accepted ones. -/
theorem holds_run_iff {r : RateLimit τ} (hd : 0 < r.duration) {times : List τ}
    (htimes : times.Pairwise (· ≤ ·)) :
    r.Holds (serveAll limiters times).accepted ↔
      ∀ earlier now later, times = earlier ++ now :: later →
        r.numRequests ≤
            (newer (now - r.duration) (serveAll limiters earlier).accepted).length →
          (askAll now limiters (serveAll limiters earlier).histories).1 = false := by
  induction times using List.reverseRecOn with
  | nil =>
      refine ⟨fun _ earlier now later hsplit => ?_, fun _ start => Nat.zero_le _⟩
      exact absurd hsplit.symm (by simp)
  | append_singleton times now ih =>
      obtain ⟨hbefore, -, hlast⟩ := List.pairwise_append.mp htimes
      have hle : ∀ t ∈ times, t ≤ now := fun t ht => hlast t ht now List.mem_cons_self
      -- the last request adds one instance of the condition, and only when it is accepted
      have hconcat : r.Holds (serveAll limiters (times ++ [now])).accepted ↔
          r.Holds (serveAll limiters times).accepted ∧
            (r.numRequests ≤ (newer (now - r.duration) (serveAll limiters times).accepted).length →
              (askAll now limiters (serveAll limiters times).histories).1 = false) := by
        rw [serveAll_concat]
        cases hanswer : (askAll now limiters (serveAll limiters times).histories).1 with
        | true =>
            rw [serve_accepted_of_accepted hanswer, r.holds_concat hd (accepted_le hle)]
            simp
        | false =>
            rw [serve_accepted_of_refused hanswer]
            simp
      rw [hconcat, ih hbefore, forall_split_concat]

/-- The history under a key has every accepted request that is younger than the windows of the
limiters with that key. -/
lemma newer_accepted_le {key : κ} {d : τ} (hkey : ∃ l ∈ limiters, l.key = key)
    (hshort : ∀ l ∈ limiters, l.key = key → d ≤ l.duration) {times : List τ}
    (htimes : times.Pairwise (· ≤ ·)) {now since : τ} (hnow : ∀ t ∈ times, t ≤ now)
    (hsince : now - d ≤ since) :
    (newer since (serveAll limiters times).accepted).length ≤
      (newer since ((serveAll limiters times).histories key)).length := by
  induction times using List.reverseRecOn generalizing now with
  | nil => exact le_rfl
  | append_singleton times last ih =>
      obtain ⟨hbefore, -, hlast⟩ := List.pairwise_append.mp htimes
      have hle : ∀ t ∈ times, t ≤ last := fun t ht => hlast t ht last List.mem_cons_self
      have hlastSince : last - d ≤ since :=
        (sub_le_sub_right (hnow last (by simp)) d).trans hsince
      -- no limiter with the key forgets a request of the window
      have hdropped : ∀ l ∈ limiters, l.key = key → last - l.duration ≤ since :=
        fun l hl hlkey => (sub_le_sub_left (hshort l hl hlkey) last).trans hlastSince
      have hearlier := ih hbefore hle hlastSince
      have hkept := newer_le_askAll hdropped (serveAll limiters times).histories
      rw [serveAll_concat]
      cases hanswer : (askAll last limiters (serveAll limiters times).histories).1 with
      | false =>
          rw [serve_accepted_of_refused hanswer]
          exact hearlier.trans hkept
      | true =>
          rw [serve_accepted_of_accepted hanswer, newer_append, List.length_append]
          by_cases hyoung : since < last
          · -- the request is counted, and one of the limiters has recorded it
            have hrecorded := newer_lt_askAll hdropped hkey hyoung hanswer
            rw [newer_cons_of_lt hyoung, newer_nil, List.length_singleton]
            exact hearlier.trans_lt hrecorded
          · rw [newer_cons_of_not_lt hyoung, newer_nil, List.length_nil, Nat.add_zero]
            exact hearlier.trans hkept

/-- **A limiter keeps its limit** when no limiter with its key has a shorter window. -/
theorem holds_of_shortest {l : Limiter κ τ} (hl : l ∈ limiters) (hd : 0 < l.duration)
    (hshort : ∀ l' ∈ limiters, l'.key = l.key → l.duration ≤ l'.duration) {times : List τ}
    (htimes : times.Pairwise (· ≤ ·)) : l.Holds (serveAll limiters times).accepted := by
  rw [holds_run_iff hd htimes]
  rintro earlier now later rfl hfull
  obtain ⟨hearlier, -, hlast⟩ := List.pairwise_append.mp htimes
  have hle : ∀ t ∈ earlier, t ≤ now := fun t ht => hlast t ht now List.mem_cons_self
  have hcovered := newer_accepted_le ⟨l, hl, rfl⟩ hshort hearlier hle le_rfl
  rw [Bool.eq_false_iff]
  intro hanswer
  have hroom := room_of_askAll hl (fun l' hl' hkey => sub_le_sub_left (hshort l' hl' hkey) now)
    hanswer
  exact Nat.not_lt.mpr (hfull.trans hcovered) hroom

end

end

end Framework
