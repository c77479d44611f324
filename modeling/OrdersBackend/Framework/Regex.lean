import Mathlib.Data.List.Infix
import Mathlib.Tactic.Lemma
import Mathlib.Tactic.TypeStar

/-!
# Regular expressions with anchors

Expressions of single characters, the anchors `^` and `$`, sequence and alternation; `times` is
the repetition `r{n}`.  A match runs from a position of the subject, of which it matters whether
it is the first one and what is left from there on; `ends` lists the positions where a match
can end.  `search` looks for a match from any position, as a search does that is not anchored.

`$` holds at the end, and before a newline that is the last character.
-/

namespace Framework

inductive Regex (α : Type*)
  | empty
  | one (accepts : α → Bool)
  | start
  | finish (newline : α → Bool)
  | seq (r s : Regex α)
  | alt (r s : Regex α)

namespace Regex

variable {α : Type*}

/-- `r{n}`. -/
def times (r : Regex α) : ℕ → Regex α
  | 0 => empty
  | n + 1 => seq r (times r n)

/-- Where the matches from a position end: whether that is the start, and what is left. -/
def ends : Regex α → Bool → List α → List (Bool × List α)
  | empty, atStart, cs => [(atStart, cs)]
  | one _, _, [] => []
  | one accepts, _, c :: cs => if accepts c then [(false, cs)] else []
  | start, atStart, cs => if atStart then [(atStart, cs)] else []
  | finish _, atStart, [] => [(atStart, [])]
  | finish newline, atStart, [c] => if newline c then [(atStart, [c])] else []
  | finish _, _, _ :: _ :: _ => []
  | seq r s, atStart, cs => (r.ends atStart cs).flatMap fun e => s.ends e.1 e.2
  | alt r s, atStart, cs => r.ends atStart cs ++ s.ends atStart cs

/-- A match starts at the position or at a later one. -/
def searchFrom (r : Regex α) : Bool → List α → Bool
  | atStart, [] => !(r.ends atStart []).isEmpty
  | atStart, c :: cs => !(r.ends atStart (c :: cs)).isEmpty || r.searchFrom false cs

def search (r : Regex α) (cs : List α) : Bool := r.searchFrom true cs

variable {r s : Regex α} {accepts newline : α → Bool} {atStart : Bool} {cs : List α}
  {e : Bool × List α}

/-! ## Ends of a match -/

lemma mem_ends_start : e ∈ (start : Regex α).ends atStart cs ↔ atStart ∧ e = (atStart, cs) := by
  cases atStart <;> simp [ends]

lemma mem_ends_finish : e ∈ (finish newline).ends atStart cs ↔
    (cs = [] ∨ ∃ c, cs = [c] ∧ newline c) ∧ e = (atStart, cs) := by
  rcases cs with _ | ⟨c, _ | ⟨c', cs⟩⟩
  · simp [ends]
  · simp [ends]
  · simp [ends]

lemma mem_ends_seq : e ∈ (seq r s).ends atStart cs ↔
    ∃ m ∈ r.ends atStart cs, e ∈ s.ends m.1 m.2 := by
  rw [ends, List.mem_flatMap]

lemma mem_ends_alt : e ∈ (alt r s).ends atStart cs ↔
    e ∈ r.ends atStart cs ∨ e ∈ s.ends atStart cs := by
  rw [ends, List.mem_append]

/-- A repeated character matches a run of that length. -/
lemma mem_ends_times_one {n : ℕ} : e ∈ ((one accepts).times n).ends atStart cs ↔
    n ≤ cs.length ∧ (∀ c ∈ cs.take n, accepts c) ∧ e = (atStart && n == 0, cs.drop n) := by
  induction n generalizing atStart cs with
  | zero => simp [times, ends]
  | succ n ih =>
      rw [times, mem_ends_seq]
      rcases cs with _ | ⟨c, cs⟩
      · simp [ends]
      · by_cases hc : accepts c
        · simp [ends, hc, ih]
        · simp [ends, hc]

/-! ## Searching -/

lemma isEmpty_ends_iff : (!(r.ends atStart cs).isEmpty) = true ↔ ∃ e, e ∈ r.ends atStart cs := by
  rw [Bool.not_eq_true', List.isEmpty_eq_false_iff_exists_mem]

lemma searchFrom_iff : r.searchFrom atStart cs ↔
    ∃ before after, cs = before ++ after ∧
      ∃ e, e ∈ r.ends (atStart && before.isEmpty) after := by
  induction cs generalizing atStart with
  | nil =>
      rw [searchFrom, isEmpty_ends_iff]
      constructor
      · intro h
        exact ⟨[], [], rfl, by simpa using h⟩
      · rintro ⟨before, after, hsplit, h⟩
        obtain ⟨rfl, rfl⟩ := List.append_eq_nil_iff.mp hsplit.symm
        simpa using h
  | cons c cs ih =>
      rw [searchFrom, Bool.or_eq_true, isEmpty_ends_iff, ih]
      constructor
      · rintro (h | ⟨before, after, rfl, h⟩)
        · exact ⟨[], c :: cs, rfl, by simpa using h⟩
        · exact ⟨c :: before, after, rfl, by simpa using h⟩
      · rintro ⟨_ | ⟨c', before⟩, after, hsplit, h⟩
        · rw [List.nil_append] at hsplit
          rw [← hsplit] at h
          exact .inl (by simpa using h)
        · rw [List.cons_append] at hsplit
          obtain ⟨rfl, htail⟩ := List.cons.inj hsplit
          exact .inr ⟨before, after, htail, by simpa using h⟩

/-- A search finds a match that starts after some part of the subject. -/
theorem search_iff : r.search cs ↔
    ∃ before after, cs = before ++ after ∧ ∃ e, e ∈ r.ends before.isEmpty after := by
  rw [search, searchFrom_iff]
  rfl

end Regex

end Framework
