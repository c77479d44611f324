import OrdersBackend.Python.Text
import Mathlib.Data.List.DropRight

/-!
# Trimming and splitting

The laws of `trim`, `splitFirst` and `List.splitOn` over letters of any kind: a trimmed text has
nothing to trim, no part of a split text holds the separator, and what is joined with a
separator is split again at it.  A renaming of the letters that keeps the blanks and the
separator apart commutes with all three (`trim_map`, `splitFirst_map`, `splitOn_map`).
-/

namespace OrdersBackend

namespace Python

section

variable {α : Type} {space : α → Bool}

lemma trim_eq_rdropWhile (cs : List α) :
    trim space cs = (cs.dropWhile space).rdropWhile space := rfl

lemma mem_of_mem_trim {cs : List α} {c : α} (h : c ∈ trim space cs) : c ∈ cs := by
  rw [trim_eq_rdropWhile] at h
  have hmem := (List.rdropWhile_prefix space _).subset h
  exact (List.dropWhile_suffix space).subset hmem

/-- A text that has been trimmed has no blanks to trim. -/
lemma trim_trim (cs : List α) : trim space (trim space cs) = trim space cs := by
  have hfront : (trim space cs).dropWhile space = trim space cs := by
    rw [List.dropWhile_eq_self_iff]
    intro hpos
    have hstart : trim space cs <+: cs.dropWhile space := List.rdropWhile_prefix space _
    have hrest := List.dropWhile_eq_self_iff.mp (List.dropWhile_idempotent space (l := cs))
    rw [hstart.getElem hpos]
    exact hrest _
  rw [trim_eq_rdropWhile (trim space cs), hfront, trim_eq_rdropWhile cs,
    List.rdropWhile_idempotent]

lemma trim_map {β : Type} (f : β → α) (cs : List β) :
    trim space (cs.map f) = (trim (space ∘ f) cs).map f := by
  unfold trim
  rw [List.dropWhile_map, ← List.map_reverse, List.dropWhile_map, ← List.map_reverse]

end

section

variable {α : Type} [DecidableEq α]

/-- The separator stands in no part. -/
lemma notMem_of_mem_splitOn {cs part : List α} {sep : α} (hpart : part ∈ cs.splitOn sep) :
    sep ∉ part := by
  induction cs generalizing part with
  | nil =>
      rw [List.splitOn_nil, List.mem_singleton] at hpart
      rw [hpart]
      exact List.not_mem_nil
  | cons c cs ih =>
      obtain ⟨head, tail, hsplit⟩ := List.exists_cons_of_ne_nil (List.splitOn_ne_nil sep cs)
      rw [List.splitOn_cons_eq_if_modifyHead, hsplit] at hpart
      rw [hsplit] at ih
      split at hpart
      · rcases List.mem_cons.mp hpart with rfl | hpart
        · exact List.not_mem_nil
        · exact ih hpart
      · next hne =>
          rcases List.mem_cons.mp hpart with rfl | hpart
          · refine List.not_mem_cons_of_ne_of_not_mem ?_ (ih List.mem_cons_self)
            rintro rfl
            exact hne (beq_self_eq_true sep)
          · exact ih (List.mem_cons_of_mem _ hpart)

lemma splitOn_map {β : Type} [DecidableEq β] {f : β → α} (hf : Function.Injective f) (sep : β)
    (cs : List β) : (cs.map f).splitOn (f sep) = (cs.splitOn sep).map (List.map f) := by
  induction cs with
  | nil => rw [List.map_nil, List.splitOn_nil, List.splitOn_nil, List.map_singleton, List.map_nil]
  | cons c cs ih =>
      obtain ⟨head, tail, hsplit⟩ := List.exists_cons_of_ne_nil (List.splitOn_ne_nil sep cs)
      rw [List.map_cons, List.splitOn_cons_eq_if_modifyHead, List.splitOn_cons_eq_if_modifyHead,
        ih, hsplit]
      have hsame : (f c == f sep) = (c == sep) := by
        rw [Bool.eq_iff_iff, beq_iff_eq, beq_iff_eq, hf.eq_iff]
      rw [hsame]
      cases c == sep <;> rfl

/-- What stands before the first separator and after it. -/
lemma splitFirst_append {a b : List α} {sep : α} (ha : sep ∉ a) :
    splitFirst sep (a ++ sep :: b) = (a, b) := by
  have hkeep : ∀ c ∈ a, decide (c ≠ sep) = true := by
    intro c hc
    rw [decide_eq_true_eq]
    rintro rfl
    exact ha hc
  unfold splitFirst
  rw [List.takeWhile_append_of_pos hkeep, List.dropWhile_append_of_pos hkeep]
  simp

lemma splitFirst_map {β : Type} [DecidableEq β] {f : β → α} (hf : Function.Injective f) (sep : β)
    (cs : List β) :
    splitFirst (f sep) (cs.map f) =
      ((splitFirst sep cs).1.map f, (splitFirst sep cs).2.map f) := by
  have hsame : (fun c => decide (c ≠ f sep)) ∘ f = fun c => decide (c ≠ sep) := by
    funext c
    simp [hf.eq_iff]
  unfold splitFirst
  rw [List.takeWhile_map, List.dropWhile_map, hsame, ← List.map_drop]

end

end Python

end OrdersBackend
