import Mathlib.Data.List.Induction
import Mathlib.Tactic.Lemma
import Mathlib.Tactic.TypeStar

/-!
# Runs of requests

A system answers one request at a time, and each request takes its state to the next one.  A
run is a list of requests, and `run` is the state it ends in.  The states a run passes through
are those its prefixes end in.

Some properties hold only of the runs whose requests are sent under a condition on the state
they meet.  `Guarded` says that every request of a run meets it; the rule `run_invariant`
derives a property of the last state from what one guarded request preserves, and `run_after`
a property of every state after the first one that has it.
-/

namespace Framework

variable {σ ω : Type*}

/-- The state after a list of requests. -/
def run (exec : ω → σ → σ) (s : σ) (requests : List ω) : σ :=
  requests.foldl (fun s request => exec request s) s

/-- Every request meets the condition `ok` in the state it is sent to. -/
def Guarded (exec : ω → σ → σ) (ok : σ → ω → Prop) : σ → List ω → Prop
  | _, [] => True
  | s, request :: requests => ok s request ∧ Guarded exec ok (exec request s) requests

variable {exec : ω → σ → σ} {ok : σ → ω → Prop}

@[simp] lemma run_nil (s : σ) : run exec s [] = s := rfl

@[simp] lemma run_cons (s : σ) (request : ω) (requests : List ω) :
    run exec s (request :: requests) = run exec (exec request s) requests := rfl

lemma run_append (s : σ) (requests requests' : List ω) :
    run exec s (requests ++ requests') = run exec (run exec s requests) requests' :=
  List.foldl_append

lemma guarded_append {s : σ} {requests requests' : List ω} :
    Guarded exec ok s (requests ++ requests') ↔
      Guarded exec ok s requests ∧ Guarded exec ok (run exec s requests) requests' := by
  induction requests generalizing s with
  | nil => simp [Guarded]
  | cons request requests ih =>
      rw [List.cons_append, Guarded, ih, run_cons, Guarded, and_assoc]

/-- A property that every guarded request keeps holds after every guarded run. -/
theorem run_invariant {I : σ → Prop} (hstep : ∀ s request, I s → ok s request → I (exec request s))
    {s : σ} {requests : List ω} (hguarded : Guarded exec ok s requests) (hs : I s) :
    I (run exec s requests) := by
  induction requests generalizing s with
  | nil => exact hs
  | cons request requests ih =>
      have hnext : I (exec request s) := hstep s request hs hguarded.1
      exact ih hguarded.2 hnext

/-- A property that every guarded request keeps, once it holds, holds from then on. -/
theorem run_after {I : σ → Prop} (hstep : ∀ s request, I s → ok s request → I (exec request s))
    {s : σ} {earlier later : List ω} (hguarded : Guarded exec ok s (earlier ++ later))
    (hs : I (run exec s earlier)) : I (run exec s (earlier ++ later)) := by
  have hlater := (guarded_append.mp hguarded).2
  rw [run_append]
  exact run_invariant hstep hlater hs

/-- A property that every request keeps holds after every run. -/
theorem run_invariant' {I : σ → Prop} (hstep : ∀ s request, I s → I (exec request s))
    {s : σ} (requests : List ω) (hs : I s) : I (run exec s requests) := by
  induction requests generalizing s with
  | nil => exact hs
  | cons request requests ih =>
      have hnext : I (exec request s) := hstep s request hs
      exact ih hnext

/-- When the condition says exactly which requests keep a property, the property holds in
every state of a run exactly when the run is guarded. -/
theorem guarded_iff_invariant {I : σ → Prop}
    (hexact : ∀ s request, I s → (ok s request ↔ I (exec request s))) {s : σ} (hs : I s)
    (requests : List ω) :
    Guarded exec ok s requests ↔
      ∀ earlier later, requests = earlier ++ later → I (run exec s earlier) := by
  induction requests generalizing s with
  | nil =>
      refine ⟨fun _ earlier later h => ?_, fun _ => trivial⟩
      rw [(List.append_eq_nil_iff.mp h.symm).1]
      exact hs
  | cons request requests ih =>
      constructor
      · rintro ⟨hok, hguarded⟩ earlier later h
        rcases earlier with _ | ⟨first, earlier⟩
        · exact hs
        · obtain ⟨rfl, htail⟩ := List.cons.inj h
          have hnext := (hexact s request hs).mp hok
          exact (ih hnext).mp hguarded earlier later htail
      · intro h
        have hnext : I (exec request s) := h [request] requests rfl
        refine ⟨(hexact s request hs).mpr hnext, (ih hnext).mpr fun earlier later htail => ?_⟩
        exact h (request :: earlier) later (by rw [htail]; rfl)

/-- A run is guarded when every request of it meets the condition in the state it is sent to. -/
theorem guarded_iff_steps {s : σ} {requests : List ω} :
    Guarded exec ok s requests ↔
      ∀ earlier request later, requests = earlier ++ request :: later →
        ok (run exec s earlier) request := by
  constructor
  · rintro h earlier request later rfl
    exact (guarded_append.mp h).2.1
  · intro h
    induction requests generalizing s with
    | nil => trivial
    | cons request requests ih =>
        refine ⟨h [] request requests rfl, ih fun earlier request' later hsplit => ?_⟩
        exact h (request :: earlier) request' later (by rw [hsplit]; rfl)

/-- When the condition says exactly which requests relate the states before and after, every
part of a run relates the states it begins and ends in exactly when the run is guarded.  The
condition may be exact only where an invariant `I` holds. -/
theorem guarded_iff_related {I : σ → Prop} {R : σ → σ → Prop} (hrefl : ∀ s, R s s)
    (htrans : ∀ s s' s'', R s s' → R s' s'' → R s s'')
    (hkeep : ∀ s request, I s → I (exec request s))
    (hexact : ∀ s request, I s → (ok s request ↔ R s (exec request s))) {s : σ} (hs : I s)
    (requests : List ω) :
    Guarded exec ok s requests ↔
      ∀ earlier part later, requests = earlier ++ part ++ later →
        R (run exec s earlier) (run exec s (earlier ++ part)) := by
  have hrelated : ∀ part s, I s → Guarded exec ok s part → R s (run exec s part) := by
    intro part
    induction part with
    | nil => exact fun s _ _ => hrefl s
    | cons request part ih =>
        intro s hs hguarded
        have hfirst := (hexact s request hs).mp hguarded.1
        have hrest := ih (exec request s) (hkeep s request hs) hguarded.2
        exact htrans _ _ _ hfirst hrest
  constructor
  · rintro hguarded earlier part later rfl
    have hpart := (guarded_append.mp (guarded_append.mp hguarded).1).2
    rw [run_append]
    exact hrelated part _ (run_invariant' hkeep earlier hs) hpart
  · intro h
    rw [guarded_iff_steps]
    intro earlier request later hsplit
    have hinvariant : I (run exec s earlier) := run_invariant' hkeep earlier hs
    have hstep := h earlier [request] later (by rw [hsplit, List.append_assoc]; rfl)
    rw [run_append] at hstep
    exact (hexact _ request hinvariant).mpr hstep

/-- A property of the state and the requests that led to it. -/
theorem run_history {I : List ω → σ → Prop} {s : σ} (hs : I [] s)
    (hstep : ∀ past request, I past (run exec s past) →
      I (past ++ [request]) (exec request (run exec s past))) (requests : List ω) :
    I requests (run exec s requests) := by
  induction requests using List.reverseRecOn with
  | nil => exact hs
  | append_singleton past request ih =>
      rw [run_append]
      exact hstep past request ih

/-- What holds at every request of a run holds at the last one and at those before it. -/
lemma forall_split_concat {P : List ω → ω → Prop} {requests : List ω} {last : ω} :
    (∀ earlier request later, requests ++ [last] = earlier ++ request :: later →
        P earlier request) ↔
      (∀ earlier request later, requests = earlier ++ request :: later → P earlier request) ∧
        P requests last := by
  constructor
  · intro h
    refine ⟨fun earlier request later hsplit => ?_, h requests last [] rfl⟩
    refine h earlier request (later ++ [last]) ?_
    rw [hsplit, List.append_assoc, List.cons_append]
  · rintro ⟨hearlier, hlast⟩ earlier request later hsplit
    rcases List.eq_nil_or_concat later with rfl | ⟨later, final, rfl⟩
    · obtain ⟨rfl, hfinal⟩ := List.append_inj' hsplit rfl
      rw [← List.singleton_inj.mp hfinal]
      exact hlast
    · rw [List.concat_eq_append, ← List.cons_append, ← List.append_assoc] at hsplit
      exact hearlier earlier request later (List.append_inj' hsplit rfl).1

end Framework
