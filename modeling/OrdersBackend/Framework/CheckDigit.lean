import Mathlib.Algebra.Field.ZMod
import Mathlib.Tactic.Ring

/-!
# Check digits

A number carries a check digit: the weighted sum of its digits modulo `m`, where the largest
residue `m - 1` is written as `0` as well, so that the check digit is a digit below `m - 1`.

Errors of typing shift the weighted sum by a multiple of the difference of two digits: one digit
replaced by another shifts it by their difference times the weight, two neighbours exchanged by
their difference times the difference of the weights.  Modulo a prime such a shift is never
zero unless its coefficient is, so that the check digit misses it only when it leads from the
residue `0` to the residue `m - 1` or back (`residues_of_shift`).  Two check digits with other
weights miss it together only when the two coefficients agree up to their sign
(`coefficients_of_shift`).
-/

namespace Framework

/-! ## Weighted sums -/

/-- The sum of the digits, each times its weight.  Digits without a weight do not count. -/
def weightedSum : List ℕ → List ℕ → ℕ
  | weight :: weights, digit :: digits => digit * weight + weightedSum weights digits
  | _, _ => 0

variable {R : Type*} [CommRing R] {digits : List ℕ} {i d e : ℕ}

/-- A replaced digit counts with its weight. -/
lemma weightedSum_set (weights : List ℕ) (hd : digits[i]? = some d) (e : ℕ) :
    (weightedSum weights (digits.set i e) : R) =
      weightedSum weights digits + weights.getD i 0 * (e - d) := by
  -- by induction on the position: the digits before it are the same
  induction i generalizing weights digits with
  | zero =>
      rcases digits with _ | ⟨digit, digits⟩
      · cases hd
      cases hd
      rcases weights with _ | ⟨weight, weights⟩
      · simp [weightedSum]
      · simp only [List.set_cons_zero, weightedSum, List.getD_cons_zero]
        push_cast
        ring
  | succ i ih =>
      rcases digits with _ | ⟨digit, digits⟩
      · cases hd
      rcases weights with _ | ⟨weight, weights⟩
      · simp [weightedSum]
      · have htail := @ih digits weights hd
        simp only [List.set_cons_succ, weightedSum, List.getD_cons_succ]
        push_cast
        rw [htail]
        ring

/-! ## Typing errors -/

/-- The lists differ in the position `i` and in no other one. -/
def DifferAt {α : Type*} (i : ℕ) (s t : List α) : Prop :=
  t.length = s.length ∧ t[i]? ≠ s[i]? ∧ ∀ j, j ≠ i → t[j]? = s[j]?

/-- The unequal neighbours of `s` in the positions `i` and `i + 1` are exchanged in `t`. -/
def ExchangedAt {α : Type*} (i : ℕ) (s t : List α) : Prop :=
  t.length = s.length ∧ i + 1 < s.length ∧ s[i]? ≠ s[i + 1]? ∧ t[i]? = s[i + 1]? ∧
    t[i + 1]? = s[i]? ∧ ∀ j, j ≠ i → j ≠ i + 1 → t[j]? = s[j]?

lemma eq_set_of_differAt {α : Type*} {s t : List α} (h : DifferAt i s t) :
    ∃ d e, s[i]? = some d ∧ d ≠ e ∧ t = s.set i e := by
  obtain ⟨hlength, hne, hothers⟩ := h
  have hi : i < s.length := by
    by_contra hi
    have hi' : ¬ i < t.length := by omega
    rw [List.getElem?_eq_none (by omega), List.getElem?_eq_none (by omega)] at hne
    exact hne rfl
  have hi' : i < t.length := by omega
  refine ⟨s[i], t[i], List.getElem?_eq_getElem hi, fun heq => hne ?_, ?_⟩
  · rw [List.getElem?_eq_getElem hi, List.getElem?_eq_getElem hi', heq]
  · refine List.ext_getElem? fun j => ?_
    rcases eq_or_ne j i with rfl | hj
    · rw [List.getElem?_set_self hi, List.getElem?_eq_getElem hi']
    · rw [List.getElem?_set_ne hj.symm, hothers j hj]

lemma eq_set_of_exchangedAt {α : Type*} {s t : List α} (h : ExchangedAt i s t) :
    ∃ d e, s[i]? = some d ∧ s[i + 1]? = some e ∧ d ≠ e ∧ t = (s.set i e).set (i + 1) d := by
  obtain ⟨hlength, hi, hne, hfirst, hsecond, hothers⟩ := h
  have hi' : i < s.length := by omega
  rw [List.getElem?_eq_getElem hi, List.getElem?_eq_getElem hi'] at hne
  refine ⟨s[i], s[i + 1], List.getElem?_eq_getElem hi', List.getElem?_eq_getElem hi,
    fun heq => hne (congrArg some heq), List.ext_getElem? fun j => ?_⟩
  rcases eq_or_ne j (i + 1) with rfl | hj
  · rw [List.getElem?_set_self (by rw [List.length_set]; exact hi), hsecond,
      List.getElem?_eq_getElem hi']
  · rw [List.getElem?_set_ne hj.symm]
    rcases eq_or_ne j i with rfl | hj'
    · rw [List.getElem?_set_self hi', hfirst, List.getElem?_eq_getElem hi]
    · rw [List.getElem?_set_ne hj'.symm, hothers j hj' hj]

lemma differAt_set {α : Type*} {s : List α} {d e : α} (hd : s[i]? = some d) (hne : d ≠ e) :
    DifferAt i s (s.set i e) := by
  have hi := (List.getElem?_eq_some_iff.mp hd).1
  refine ⟨List.length_set, fun heq => hne ?_, fun j hj => List.getElem?_set_ne hj.symm⟩
  rw [List.getElem?_set_self hi, hd] at heq
  exact (Option.some.inj heq).symm

/-- An error that changes one digit, or two neighbours. -/
inductive TypingError
  | replaced (i : ℕ)
  | exchanged (i : ℕ)

/-- The error makes `t` of `s`. -/
def TypingError.Makes {α : Type*} (s t : List α) : TypingError → Prop
  | replaced i => DifferAt i s t
  | exchanged i => ExchangedAt i s t

/-- By what a weighted sum multiplies the difference of the two digits. -/
def TypingError.coefficient (weights : List ℕ) : TypingError → R
  | replaced i => weights.getD i 0
  | exchanged i => weights.getD i 0 - weights.getD (i + 1) 0

variable (R) in
/-- The two digits that an error confuses shift every weighted sum. -/
theorem weightedSum_of_makes {α : Type*} {s t : List α} {error : TypingError}
    (h : error.Makes s t) (value : α → ℕ) :
    ∃ d e, d ∈ s ∧ e ∈ t ∧ d ≠ e ∧ ∀ weights : List ℕ,
      (weightedSum weights (t.map value) : R) = weightedSum weights (s.map value) +
        error.coefficient weights * (value e - value d) := by
  rcases error with i | i
  · obtain ⟨d, e, hd, hne, rfl⟩ := eq_set_of_differAt h
    have hi := (List.getElem?_eq_some_iff.mp hd).1
    refine ⟨d, e, List.mem_of_getElem? hd, List.mem_set hi e, hne, fun weights => ?_⟩
    rw [List.map_set]
    exact weightedSum_set weights (by rw [List.getElem?_map, hd]; rfl) (value e)
  · obtain ⟨d, e, hd, he, hne, rfl⟩ := eq_set_of_exchangedAt h
    have hi := (List.getElem?_eq_some_iff.mp hd).1
    have hd' : (s.map value)[i]? = some (value d) := by rw [List.getElem?_map, hd]; rfl
    have he' : ((s.map value).set i (value e))[i + 1]? = some (value e) := by
      rw [List.getElem?_set_ne (Nat.succ_ne_self i).symm, List.getElem?_map, he]
      rfl
    have hmem : e ∈ (s.set i e).set (i + 1) d := by
      refine List.mem_of_getElem? (i := i) ?_
      rw [List.getElem?_set_ne (Nat.succ_ne_self i), List.getElem?_set_self hi]
    refine ⟨d, e, List.mem_of_getElem? hd, hmem, hne, fun weights => ?_⟩
    rw [List.map_set, List.map_set, weightedSum_set weights he',
      weightedSum_set weights hd' (value e), TypingError.coefficient]
    ring

/-! ## Check digits -/

/-- The check digit of a weighted sum. -/
def checkDigit (m sum : ℕ) : ℕ := sum % m % (m - 1)

/-- The check digit depends on the residue only. -/
lemma checkDigit_congr {m a b : ℕ} (h : (a : ZMod m) = b) : checkDigit m a = checkDigit m b := by
  unfold checkDigit
  rw [(ZMod.natCast_eq_natCast_iff' a b m).mp h]

/-- One of the two sums has the residue `0`, the other one the residue `m - 1`. -/
def Confused (m a b : ℕ) : Prop :=
  (a % m = 0 ∧ b % m = m - 1) ∨ (a % m = m - 1 ∧ b % m = 0)

lemma Confused.symm {m a b : ℕ} (h : Confused m a b) : Confused m b a := by
  rcases h with ⟨ha, hb⟩ | ⟨ha, hb⟩
  · exact .inr ⟨hb, ha⟩
  · exact .inl ⟨hb, ha⟩

lemma checkDigit_of_confused {m a b : ℕ} (h : Confused m a b) :
    checkDigit m a = 0 ∧ checkDigit m b = 0 := by
  unfold checkDigit
  rcases h with ⟨ha, hb⟩ | ⟨ha, hb⟩ <;> rw [ha, hb] <;> simp

/-- Sums with the same check digit have the same residue, or their residues are `0` and
`m - 1`. -/
lemma confused_of_checkDigit_eq {m a b : ℕ} (hm : 1 < m) (h : checkDigit m a = checkDigit m b) :
    a % m = b % m ∨ Confused m a b := by
  have ha := Nat.mod_lt a (Nat.zero_lt_of_lt hm)
  have hb := Nat.mod_lt b (Nat.zero_lt_of_lt hm)
  have hreduce : ∀ r, r < m → r % (m - 1) = if r = m - 1 then 0 else r := by
    intro r hr
    by_cases hlast : r = m - 1
    · rw [if_pos hlast, hlast, Nat.mod_self]
    · rw [if_neg hlast, Nat.mod_eq_of_lt (by omega)]
  unfold checkDigit at h
  unfold Confused
  rw [hreduce _ ha, hreduce _ hb] at h
  split at h <;> split at h <;> omega

/-! ## Errors modulo a prime -/

section

variable {p : ℕ} [Fact p.Prime] {a b a' b' : ℕ} {u u' δ : ZMod p}

/-- The residues of confused sums differ by one, up to the sign. -/
lemma sub_of_confused (h : Confused p a b) : (b : ZMod p) - a = 1 ∨ (b : ZMod p) - a = -1 := by
  have hlast : ((p - 1 : ℕ) : ZMod p) = -1 := by
    rw [Nat.cast_sub (Fact.out : p.Prime).one_le, ZMod.natCast_self]
    simp
  rw [← ZMod.natCast_mod a, ← ZMod.natCast_mod b]
  rcases h with ⟨ha, hb⟩ | ⟨ha, hb⟩
  · right
    rw [ha, hb, hlast]
    simp
  · left
    rw [ha, hb, hlast]
    simp

/-- A check digit misses a shift only between the residues `0` and `p - 1`. -/
theorem residues_of_shift (hu : u ≠ 0) (hδ : δ ≠ 0) (hshift : (b : ZMod p) = a + u * δ)
    (h : checkDigit p a = checkDigit p b) : Confused p a b := by
  rcases confused_of_checkDigit_eq (Fact.out : p.Prime).one_lt h with hsame | hconfused
  · have hcast : (a : ZMod p) = b := (ZMod.natCast_eq_natCast_iff' a b p).mpr hsame
    rw [hcast, left_eq_add] at hshift
    exact absurd hshift (mul_ne_zero hu hδ)
  · exact hconfused

/-- Two check digits miss the same shift only when their coefficients agree up to the sign. -/
theorem coefficients_of_shift (hu : u ≠ 0) (hu' : u' ≠ 0) (hδ : δ ≠ 0)
    (hshift : (b : ZMod p) = a + u * δ) (hshift' : (b' : ZMod p) = a' + u' * δ)
    (h : checkDigit p a = checkDigit p b) (h' : checkDigit p a' = checkDigit p b') :
    u = u' ∨ u = -u' := by
  have hone : u * δ = 1 ∨ u * δ = -1 := by
    simpa [hshift] using sub_of_confused (residues_of_shift hu hδ hshift h)
  have hone' : u' * δ = 1 ∨ u' * δ = -1 := by
    simpa [hshift'] using sub_of_confused (residues_of_shift hu' hδ hshift' h')
  rcases hone with hone | hone <;> rcases hone' with hone' | hone'
  · exact .inl (mul_right_cancel₀ hδ (hone.trans hone'.symm))
  · exact .inr (mul_right_cancel₀ hδ (by rw [neg_mul, hone', neg_neg, hone]))
  · exact .inr (mul_right_cancel₀ hδ (by rw [neg_mul, hone', hone]))
  · exact .inl (mul_right_cancel₀ hδ (hone.trans hone'.symm))

/-- Digits below the modulus that differ have different residues. -/
lemma sub_ne_zero_of_lt {d e : ℕ} (hd : d < p) (he : e < p) (hne : d ≠ e) :
    (e : ZMod p) - d ≠ 0 := by
  intro h
  have hmod := (ZMod.natCast_eq_natCast_iff' e d p).mp (sub_eq_zero.mp h)
  rw [Nat.mod_eq_of_lt hd, Nat.mod_eq_of_lt he] at hmod
  exact hne hmod.symm

end

end Framework
