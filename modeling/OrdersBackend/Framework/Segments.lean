import Mathlib.Data.List.Basic
import Mathlib.Tactic.Lemma

/-!
# Texts in segments

A text that is put together of words and a separator can be taken apart again when no word
holds the separator: the first word ends where the separator stands first (`append_inj_opens`).
An optional part that starts with a label of its own can be taken off when what follows does
not start with that label (`labelled_append_inj`).
-/

namespace Framework

variable {α : Type} {c : α} {a b s t : List α}

/-- The text is empty, or the separator opens it. -/
def Opens (c : α) (s : List α) : Prop := s = [] ∨ ∃ rest, s = c :: rest

lemma opens_nil : Opens c [] := .inl rfl

lemma opens_cons : Opens c (c :: s) := .inr ⟨s, rfl⟩

lemma Opens.append (hs : Opens c s) (ht : Opens c t) : Opens c (s ++ t) := by
  rcases hs with rfl | ⟨rest, rfl⟩
  · exact ht
  · exact opens_cons

/-- A word without the separator ends where the separator stands first. -/
lemma append_inj_opens (ha : c ∉ a) (hb : c ∉ b) (hs : Opens c s) (ht : Opens c t)
    (h : a ++ s = b ++ t) : a = b ∧ s = t := by
  induction a generalizing b with
  | nil =>
      rcases b with _ | ⟨x, b⟩
      · exact ⟨rfl, h⟩
      · rcases hs with rfl | ⟨rest, rfl⟩
        · cases h
        · obtain ⟨rfl, -⟩ := List.cons.inj h
          exact absurd List.mem_cons_self hb
  | cons x a ih =>
      rcases b with _ | ⟨y, b⟩
      · rcases ht with rfl | ⟨rest, rfl⟩
        · cases h
        · obtain ⟨rfl, -⟩ := List.cons.inj h
          exact absurd List.mem_cons_self ha
      · obtain ⟨rfl, htail⟩ := List.cons.inj h
        obtain ⟨rfl, rfl⟩ :=
          ih (List.not_mem_of_not_mem_cons ha) (List.not_mem_of_not_mem_cons hb) htail
        exact ⟨rfl, rfl⟩

/-- An optional part: a label and a word. -/
def labelled (label : List α) (word : Option (List α)) : List α :=
  match word with
  | some word => label ++ word
  | none => []

lemma opens_labelled (label : List α) (word : Option (List α)) :
    Opens c (labelled (c :: label) word) := by
  rcases word with _ | word
  · exact opens_nil
  · exact opens_cons

lemma labelled_injective (x : α) (label : List α) :
    Function.Injective (labelled (x :: label)) := by
  rintro (_ | word) (_ | word') h
  · rfl
  · cases h
  · cases h
  · rw [List.append_cancel_left h]

/-- An optional part whose label opens nothing that follows can be taken off. -/
lemma labelled_append_inj {label : List α} {w w' : Option (List α)} (hw : ∀ word ∈ w, c ∉ word)
    (hw' : ∀ word ∈ w', c ∉ word) (hs : Opens c s) (ht : Opens c t) (hls : ¬ label <+: s)
    (hlt : ¬ label <+: t) (h : labelled label w ++ s = labelled label w' ++ t) :
    w = w' ∧ s = t := by
  rcases w with _ | word <;> rcases w' with _ | word'
  · exact ⟨rfl, h⟩
  · refine absurd ⟨word' ++ t, ?_⟩ hls
    rw [← List.append_assoc]
    exact h.symm
  · refine absurd ⟨word ++ s, ?_⟩ hlt
    rw [← List.append_assoc]
    exact h
  · have htail : word ++ s = word' ++ t := by
      rw [labelled, labelled, List.append_assoc, List.append_assoc] at h
      exact List.append_cancel_left h
    obtain ⟨rfl, rfl⟩ := append_inj_opens (hw word rfl) (hw' word' rfl) hs ht htail
    exact ⟨rfl, rfl⟩

end Framework
