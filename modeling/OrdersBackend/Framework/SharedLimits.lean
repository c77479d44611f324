import OrdersBackend.Framework.RateLimit

/-!
# Limits of a whole site

A site has many resources, each with limiters of its own, and its requests come from everybody
in any order.  A request asks the limiters that apply to it, and requests whose limiters have a
key in common share the history under it.

Three rules say what a request can rely on.  Requests that share no key with others are answered
as if the others had not come (`answers_filter`).  What passes under a key keeps within its limit
(`holds_passedUnder`).  Where a key has one limiter at a time, a request passes exactly when the
window that ends at it has room (`passes_iff`).
-/

namespace Framework

/-- Which limiters a request asks, and when it comes. -/
structure Gate (ω κ τ : Type) where
  limiters : ω → List (Limiter κ τ)
  time : ω → τ

/-- Two collections of histories are the same under the keys `p`. -/
def AgreeOn {κ τ : Type} (p : κ → Prop) (histories histories' : κ → List τ) : Prop :=
  ∀ key, p key → histories key = histories' key

section

variable {κ τ : Type} [DecidableEq κ] [LinearOrder τ] [AddCommGroup τ]
variable {p : κ → Prop} {now : τ} {histories histories' : κ → List τ} {key : κ}

lemma Limiter.ask_frame {l : Limiter κ τ} (h : l.key ≠ key) :
    (l.ask now histories).2 key = histories key := by
  unfold Limiter.ask
  dsimp only
  split
  · rfl
  · exact Function.update_of_ne h.symm _ _

lemma AgreeOn.ask (now : τ) {l : Limiter κ τ} (hl : p l.key)
    (h : AgreeOn p histories histories') :
    (l.ask now histories).1 = (l.ask now histories').1 ∧
      AgreeOn p (l.ask now histories).2 (l.ask now histories').2 := by
  unfold Limiter.ask
  rw [h l.key hl]
  dsimp only
  split
  · exact ⟨rfl, h⟩
  · refine ⟨rfl, fun key hkey => ?_⟩
    rcases eq_or_ne key l.key with rfl | hne
    · simp only [Function.update_self]
    · simp only [Function.update_of_ne hne]
      exact h key hkey

lemma askAll_frame {limiters : List (Limiter κ τ)} (h : ∀ l ∈ limiters, l.key ≠ key) :
    (askAll now limiters histories).2 key = histories key := by
  induction limiters generalizing histories with
  | nil => rfl
  | cons l limiters ih =>
      rw [askAll_cons, ih fun l' hl' => h l' (List.mem_cons_of_mem _ hl')]
      exact Limiter.ask_frame (h l List.mem_cons_self)

lemma AgreeOn.askAll (now : τ) {limiters : List (Limiter κ τ)} (hl : ∀ l ∈ limiters, p l.key)
    (h : AgreeOn p histories histories') :
    (Framework.askAll now limiters histories).1 = (Framework.askAll now limiters histories').1 ∧
      AgreeOn p (Framework.askAll now limiters histories).2
        (Framework.askAll now limiters histories').2 := by
  induction limiters generalizing histories histories' with
  | nil => exact ⟨rfl, h⟩
  | cons l limiters ih =>
      obtain ⟨hanswer, hnext⟩ := h.ask now (hl l List.mem_cons_self)
      obtain ⟨hrest, hlast⟩ := ih (fun l' hl' => hl l' (List.mem_cons_of_mem _ hl')) hnext
      simp only [askAll_cons]
      exact ⟨by rw [hanswer, hrest], hlast⟩

end

namespace Gate

variable {ω κ τ : Type} [DecidableEq κ] [LinearOrder τ] [AddCommGroup τ] (gate : Gate ω κ τ)

/-- The answers to the requests, and the histories they leave. -/
def serve (histories : κ → List τ) : List ω → List (ω × Bool) × (κ → List τ)
  | [] => ([], histories)
  | request :: requests =>
    let answer := askAll (gate.time request) (gate.limiters request) histories
    let rest := serve answer.2 requests
    ((request, answer.1) :: rest.1, rest.2)

/-- The answers to requests that come when nothing has been asked. -/
def answers (requests : List ω) : List (ω × Bool) := (gate.serve (fun _ => []) requests).1

def histories (requests : List ω) : κ → List τ := (gate.serve (fun _ => []) requests).2

/-- The request asks a limiter with the key. -/
def Uses (key : κ) (request : ω) : Prop := ∃ l ∈ gate.limiters request, l.key = key

instance (key : κ) : DecidablePred (gate.Uses key) := fun request =>
  inferInstanceAs (Decidable (∃ l ∈ gate.limiters request, l.key = key))

/-- The times of the requests that use a key and pass. -/
def passedUnder (key : κ) (requests : List ω) : List τ :=
  ((gate.answers requests).filter fun answer => answer.2 && gate.Uses key answer.1).map
    fun answer => gate.time answer.1

/-- The answer to a request that comes after others. -/
def passes (requests : List ω) (request : ω) : Bool :=
  (askAll (gate.time request) (gate.limiters request) (gate.histories requests)).1

variable {gate}

lemma serve_append (histories : κ → List τ) (requests requests' : List ω) :
    gate.serve histories (requests ++ requests') =
      ((gate.serve histories requests).1 ++
          (gate.serve (gate.serve histories requests).2 requests').1,
        (gate.serve (gate.serve histories requests).2 requests').2) := by
  induction requests generalizing histories with
  | nil => rfl
  | cons request requests ih => simp only [List.cons_append, serve, ih]

lemma answers_concat (requests : List ω) (request : ω) :
    gate.answers (requests ++ [request]) =
      gate.answers requests ++ [(request, gate.passes requests request)] := by
  unfold answers
  rw [serve_append]
  rfl

lemma histories_concat (requests : List ω) (request : ω) :
    gate.histories (requests ++ [request]) =
      (askAll (gate.time request) (gate.limiters request) (gate.histories requests)).2 := by
  unfold histories
  rw [serve_append]
  rfl

/-! ## Requests that share no key -/

/-- **Requests that share no key with the others** are answered as if they came alone. -/
theorem answers_filter {p : κ → Prop} {q : ω → Prop} [DecidablePred q] {requests : List ω}
    (hown : ∀ request, q request → ∀ l ∈ gate.limiters request, p l.key)
    (hother : ∀ request, ¬ q request → ∀ l ∈ gate.limiters request, ¬ p l.key) :
    (gate.answers requests).filter (fun answer => q answer.1) =
      gate.answers (requests.filter q) := by
  have hserve : ∀ (requests : List ω) (histories histories' : κ → List τ),
      AgreeOn p histories histories' →
      (gate.serve histories requests).1.filter (fun answer => q answer.1) =
        (gate.serve histories' (requests.filter q)).1 := by
    intro requests
    induction requests with
    | nil => exact fun _ _ _ => rfl
    | cons request requests ih =>
        intro histories histories' hagree
        by_cases hq : q request
        · obtain ⟨hanswer, hnext⟩ := hagree.askAll (gate.time request) (hown request hq)
          rw [List.filter_cons_of_pos (by simpa using hq), serve, serve,
            List.filter_cons_of_pos (by simpa using hq), ih _ _ hnext, hanswer]
        · have hnext : AgreeOn p (askAll (gate.time request) (gate.limiters request) histories).2
              histories' := by
            intro key hkey
            rw [askAll_frame fun l hl heq => hother request hq l hl (heq ▸ hkey)]
            exact hagree key hkey
          rw [List.filter_cons_of_neg (by simpa using hq), serve,
            List.filter_cons_of_neg (by simpa using hq), ih _ _ hnext]
  exact hserve requests _ _ fun _ _ => rfl

/-! ## What passes under a key -/

section

variable {key : κ} {requests : List ω} {request : ω} {since : τ} {r : RateLimit τ}

lemma passedUnder_concat_of_passes (huses : gate.Uses key request)
    (h : gate.passes requests request = true) :
    gate.passedUnder key (requests ++ [request]) =
      gate.passedUnder key requests ++ [gate.time request] := by
  unfold passedUnder
  rw [answers_concat, List.filter_append, List.map_append, List.filter_cons_of_pos]
  · rfl
  · simp [h, huses]

lemma passedUnder_concat_of_not
    (h : gate.passes requests request = true → ¬ gate.Uses key request) :
    gate.passedUnder key (requests ++ [request]) = gate.passedUnder key requests := by
  unfold passedUnder
  rw [answers_concat, List.filter_append, List.map_append, List.filter_cons_of_neg]
  · exact List.append_nil _
  · simpa using h

lemma answers_fst (gate : Gate ω κ τ) (requests : List ω) :
    (gate.answers requests).map Prod.fst = requests := by
  induction requests using List.reverseRecOn with
  | nil => rfl
  | append_singleton requests request ih => rw [answers_concat, List.map_append, ih]; rfl

/-- Only requests pass, each at its time. -/
lemma passedUnder_sublist (key : κ) (requests : List ω) :
    (gate.passedUnder key requests).Sublist (requests.map gate.time) := by
  have hall : (gate.answers requests).map (fun answer => gate.time answer.1) =
      requests.map gate.time := by
    have hmap := congrArg (List.map gate.time) (answers_fst gate requests)
    rwa [List.map_map] at hmap
  rw [← hall]
  exact (List.filter_sublist ..).map _

/-- The limiters with the key that the requests ask have the window of `r` and no larger
limit. -/
def LimitedBy (gate : Gate ω κ τ) (r : RateLimit τ) (key : κ) (requests : List ω) : Prop :=
  ∀ request ∈ requests, ∀ l ∈ gate.limiters request, l.key = key →
    l.duration = r.duration ∧ l.numRequests ≤ r.numRequests

variable [IsOrderedAddMonoid τ]

/-- The history under a key has every request that passed and has not left the window. -/
lemma newer_passedUnder_le (hlimited : gate.LimitedBy r key requests)
    (hsorted : (requests.map gate.time).Pairwise (· ≤ ·)) {now : τ}
    (hnow : ∀ t ∈ requests.map gate.time, t ≤ now) (hsince : now - r.duration ≤ since) :
    (newer since (gate.passedUnder key requests)).length ≤
      (newer since (gate.histories requests key)).length := by
  induction requests using List.reverseRecOn generalizing now with
  | nil => exact le_rfl
  | append_singleton requests last ih =>
      rw [List.map_append] at hsorted hnow
      obtain ⟨hbefore, -, hlast⟩ := List.pairwise_append.mp hsorted
      have hle : ∀ t ∈ requests.map gate.time, t ≤ gate.time last := fun t ht =>
        hlast t ht _ (by simp)
      have hlastSince : gate.time last - r.duration ≤ since :=
        (sub_le_sub_right (hnow (gate.time last) (by simp)) _).trans hsince
      -- no limiter with the key forgets a request of the window
      have hdropped : ∀ l ∈ gate.limiters last, l.key = key →
          gate.time last - l.duration ≤ since := by
        intro l hl hkey
        rw [(hlimited last (by simp) l hl hkey).1]
        exact hlastSince
      have hearlier := ih (fun request hr => hlimited request (List.mem_append_left _ hr))
        hbefore hle hlastSince
      have hkept := newer_le_askAll hdropped (gate.histories requests)
      rw [histories_concat]
      by_cases hpasses : gate.passes requests last = true ∧ gate.Uses key last
      · rw [passedUnder_concat_of_passes hpasses.2 hpasses.1, newer_append, List.length_append]
        by_cases hyoung : since < gate.time last
        · -- the request is counted, and the limiter with the key has recorded it
          have hrecorded := newer_lt_askAll hdropped hpasses.2 hyoung hpasses.1
          rw [newer_cons_of_lt hyoung, newer_nil, List.length_singleton]
          exact hearlier.trans_lt hrecorded
        · rw [newer_cons_of_not_lt hyoung, newer_nil, List.length_nil, Nat.add_zero]
          exact hearlier.trans hkept
      · rw [passedUnder_concat_of_not (not_and.mp hpasses)]
        exact hearlier.trans hkept

/-- **What passes under a key keeps within its limit**, whatever else is asked in between. -/
theorem holds_passedUnder (hd : 0 < r.duration) (hlimited : gate.LimitedBy r key requests)
    (hsorted : (requests.map gate.time).Pairwise (· ≤ ·)) :
    r.Holds (gate.passedUnder key requests) := by
  induction requests using List.reverseRecOn with
  | nil => exact fun start => Nat.zero_le _
  | append_singleton requests last ih =>
      rw [List.map_append] at hsorted
      obtain ⟨hbefore, -, hlast⟩ := List.pairwise_append.mp hsorted
      have hle : ∀ t ∈ requests.map gate.time, t ≤ gate.time last := fun t ht =>
        hlast t ht _ (by simp)
      have hearlier : gate.LimitedBy r key requests := fun request hr =>
        hlimited request (List.mem_append_left _ hr)
      by_cases hpasses : gate.passes requests last = true ∧ gate.Uses key last
      · rw [passedUnder_concat_of_passes hpasses.2 hpasses.1, r.holds_concat hd fun t ht =>
          hle t ((passedUnder_sublist key requests).subset ht)]
        obtain ⟨l, hl, hkey⟩ := hpasses.2
        have hlast' := hlimited last (by simp)
        -- the limiter with the key has found room in its history, which has all that passed
        have hroom := room_of_askAll hl (fun l' hl' heq => by
          rw [(hlast' l' hl' (heq.trans hkey)).1, (hlast' l hl hkey).1]) hpasses.1
        rw [hkey, (hlast' l hl hkey).1] at hroom
        exact ⟨ih hearlier hbefore, (newer_passedUnder_le hearlier hbefore hle le_rfl).trans_lt
          (hroom.trans_le (hlast' l hl hkey).2)⟩
      · rw [passedUnder_concat_of_not (not_and.mp hpasses)]
        exact ih hearlier hbefore

/-! ## One limiter at a time -/

/-- A request that uses the key asks nothing but one limiter, with the window `d`. -/
def Alone (gate : Gate ω κ τ) (d : τ) (key : κ) (request : ω) : Prop :=
  gate.Uses key request → ∃ l, gate.limiters request = [l] ∧ l.duration = d

variable {d : τ}

/-- The history under the key is what has passed and not left the window. -/
lemma newer_histories_eq (halone : ∀ request ∈ requests, gate.Alone d key request)
    (hsorted : (requests.map gate.time).Pairwise (· ≤ ·)) {now : τ}
    (hnow : ∀ t ∈ requests.map gate.time, t ≤ now) (hsince : now - d ≤ since) :
    (newer since (gate.histories requests key)).length =
      (newer since (gate.passedUnder key requests)).length := by
  induction requests using List.reverseRecOn generalizing now with
  | nil => rfl
  | append_singleton requests last ih =>
      rw [List.map_append] at hsorted hnow
      obtain ⟨hbefore, -, hlast⟩ := List.pairwise_append.mp hsorted
      have hle : ∀ t ∈ requests.map gate.time, t ≤ gate.time last := fun t ht =>
        hlast t ht _ (by simp)
      have hlastSince : gate.time last - d ≤ since :=
        (sub_le_sub_right (hnow (gate.time last) (by simp)) _).trans hsince
      have hearlier := ih (fun request hr => halone request (List.mem_append_left _ hr))
        hbefore hle hlastSince
      rw [histories_concat]
      -- the last request either asks the only limiter with this key or none
      by_cases huses : gate.Uses key last
      · obtain ⟨l, hl, hduration⟩ := halone last (by simp) huses
        obtain ⟨l', hl', hkey⟩ := huses
        rw [hl, List.mem_singleton] at hl'
        subst hl'
        have huses : gate.Uses key last := ⟨l', by rw [hl]; exact List.mem_cons_self, hkey⟩
        have hsingle : askAll (gate.time last) (gate.limiters last) (gate.histories requests) =
            l'.ask (gate.time last) (gate.histories requests) := by
          rw [hl, askAll_cons]
          exact Prod.ext (Bool.and_true _) rfl
        rw [hsingle]
        rcases lt_or_ge (newer (gate.time last - l'.duration)
          (gate.histories requests l'.key)).length l'.numRequests with hroom | hfull
        · -- it has room, so the request passes and is recorded
          have hpasses : gate.passes requests last = true := by
            unfold passes
            rw [hsingle]
            exact Limiter.ask_iff.mpr hroom
          rw [passedUnder_concat_of_passes huses hpasses, newer_append, List.length_append,
            ← hearlier, Limiter.ask_of_room hroom, hkey]
          simp only [Function.update_self]
          have hkept := newer_newer (hduration.symm ▸ hlastSince) (gate.histories requests key)
          by_cases hyoung : since < gate.time last
          · rw [newer_cons_of_lt hyoung, newer_cons_of_lt hyoung, hkept]
            rfl
          · rw [newer_cons_of_not_lt hyoung, newer_cons_of_not_lt hyoung, hkept]
            rfl
        · -- it is full, and nothing is recorded
          have hrefused : gate.passes requests last = false := by
            unfold passes
            rw [hsingle, Limiter.ask_of_full hfull]
          rw [passedUnder_concat_of_not (by simp [hrefused]), Limiter.ask_of_full hfull]
          exact hearlier
      · rw [passedUnder_concat_of_not fun _ => huses,
          askAll_frame fun l hl hkey => huses ⟨l, hl, hkey⟩]
        exact hearlier

/-- **A request passes exactly when its window has room** for it. -/
theorem passes_iff {l : Limiter κ τ}
    (halone : ∀ request ∈ requests, gate.Alone l.duration l.key request)
    (hl : gate.limiters request = [l])
    (hsorted : ((requests ++ [request]).map gate.time).Pairwise (· ≤ ·)) :
    gate.passes requests request = true ↔
      (newer (gate.time request - l.duration) (gate.passedUnder l.key requests)).length <
        l.numRequests := by
  rw [List.map_append] at hsorted
  obtain ⟨hbefore, -, hlast⟩ := List.pairwise_append.mp hsorted
  have hle : ∀ t ∈ requests.map gate.time, t ≤ gate.time request := fun t ht =>
    hlast t ht _ (by simp)
  rw [← newer_histories_eq halone hbefore hle le_rfl, ← Limiter.ask_iff]
  unfold passes
  rw [hl, askAll_cons]
  simp [askAll]

end

end Gate

end Framework
