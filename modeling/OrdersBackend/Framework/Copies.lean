import OrdersBackend.Framework.Runs

/-!
# Copies of a row that are saved later

A row is updated in single steps, and long-running tasks read it, keep a copy, and save the
copy with changes of their own.  What a task shows of the row is a view of it: the columns the
task has no business with.  If the tasks' own changes stay out of the view and the updates go
through it, then the view of the row is what the updates alone make of it, exactly as long as
every copy that is saved shows the view of the row it replaces (`guarded_current_iff`).
-/

namespace Framework

variable {ρ υ : Type*}

/-- A row and the copies tasks have made of it. -/
structure WithCopies (ρ : Type*) where
  row : ρ
  copies : List ρ
  deriving DecidableEq

/-- An update; a task reads the row, if it wants it; a task saves its copy, changed; a task
ends without a write. -/
inductive CopyStep (ρ : Type*)
  | update (f : ρ → ρ)
  | read (wanted : ρ → Bool)
  | save (i : ℕ) (f : ρ → ρ)
  | drop (i : ℕ)

namespace CopyStep

def exec (step : CopyStep ρ) (s : WithCopies ρ) : WithCopies ρ :=
  match step with
  | update f => { s with row := f s.row }
  | read wanted => if wanted s.row then { s with copies := s.copies ++ [s.row] } else s
  | save i f =>
    match s.copies[i]? with
    | some copy => ⟨f copy, s.copies.eraseIdx i⟩
    | none => s
  | drop i => { s with copies := s.copies.eraseIdx i }

/-- The step without the tasks. -/
def alone (step : CopyStep ρ) (row : ρ) : ρ :=
  match step with
  | update f => f row
  | read _ | save _ _ | drop _ => row

/-- A copy that is saved shows what the row shows. -/
def Current (v : ρ → υ) (s : WithCopies ρ) : CopyStep ρ → Prop
  | save i _ => ∀ copy, s.copies[i]? = some copy → v copy = v s.row
  | update _ | read _ | drop _ => True

/-- Updates go through the view, and tasks change nothing of it. -/
def Respects (v : ρ → υ) : CopyStep ρ → Prop
  | update f => ∀ row row', v row = v row' → v (f row) = v (f row')
  | save _ f => ∀ row, v (f row) = v row
  | read _ | drop _ => True

variable {v : ρ → υ}

/-- One step keeps the view that of the updates alone exactly when it saves no stale copy. -/
lemma current_iff {step : CopyStep ρ} (hrespects : Respects v step) {s : WithCopies ρ} {row : ρ}
    (hview : v s.row = v row) :
    Current v s step ↔ v (exec step s).row = v (alone step row) := by
  rcases step with f | wanted | ⟨i, f⟩ | i
  · exact ⟨fun _ => hrespects _ _ hview, fun _ => trivial⟩
  · refine ⟨fun _ => ?_, fun _ => trivial⟩
    have hrow : (exec (read wanted) s).row = s.row := by
      simp only [exec]
      by_cases hwanted : wanted s.row <;> simp [hwanted]
    rw [hrow]
    exact hview
  · have hkept : ∀ row, v (f row) = v row := hrespects
    rcases hcopy : s.copies[i]? with _ | copy
    · simp only [Current, exec, alone, hcopy]
      exact ⟨fun _ => hview, fun _ copy hsome => (nomatch hsome)⟩
    · simp only [Current, exec, alone, hcopy, Option.some.injEq, forall_eq', hkept, hview]
  · exact ⟨fun _ => hview, fun _ => trivial⟩

/-- **Stale copies.**  Along a run the view of the row is what the updates alone make of it,
exactly when no copy is saved that shows something else than the row. -/
theorem guarded_current_iff {steps : List (CopyStep ρ)}
    (hrespects : ∀ step ∈ steps, Respects v step) {s : WithCopies ρ} {row : ρ}
    (hview : v s.row = v row) :
    Guarded exec (Current v) s steps ↔
      ∀ earlier later, steps = earlier ++ later →
        v (run exec s earlier).row = v (run alone row earlier) := by
  induction steps generalizing s row with
  | nil =>
      refine ⟨fun _ earlier later h => ?_, fun _ => trivial⟩
      rw [(List.append_eq_nil_iff.mp h.symm).1]
      exact hview
  | cons step steps ih =>
      have hstep := current_iff (hrespects step List.mem_cons_self) hview
      have htail : ∀ step ∈ steps, Respects v step :=
        fun step hmem => hrespects step (List.mem_cons_of_mem _ hmem)
      constructor
      · rintro ⟨hcurrent, hguarded⟩ earlier later h
        rcases earlier with _ | ⟨first, earlier⟩
        · exact hview
        · obtain ⟨rfl, hsplit⟩ := List.cons.inj h
          exact (ih htail (hstep.mp hcurrent)).mp hguarded earlier later hsplit
      · intro h
        have hnext : v (exec step s).row = v (alone step row) := h [step] steps rfl
        refine ⟨hstep.mpr hnext, (ih htail hnext).mpr fun earlier later hsplit => ?_⟩
        exact h (step :: earlier) later (by rw [hsplit]; rfl)

end CopyStep

end Framework
