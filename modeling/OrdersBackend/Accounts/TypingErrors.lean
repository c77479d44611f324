import OrdersBackend.Accounts.CheckDigits
import OrdersBackend.Python.Scalar
import Mathlib.Tactic.NormNum.Prime

/-!
# Typing errors in a tax number

The reduction modulo 11 and then 10 writes the residues 0 and 10 alike, so that one check digit
may miss an error: a digit that is replaced, or two unequal neighbours that are exchanged.
`validateInn10_misses` says which errors those are.  The two check digits of twelve digits miss
none (`validateInn12_detects`), since no position and no pair of neighbours among the first nine
has weights in the two sums that agree up to the sign.
-/

namespace OrdersBackend

open Framework Python

namespace TaxNumber

/-! ## Texts of digits -/

/-- A text of `n` digits from `0` to `9`. -/
def OfDigits (n : ℕ) (cs : List Char) : Prop := cs.length = n ∧ ∀ c ∈ cs, c.isDigit

instance (n : ℕ) (cs : List Char) : Decidable (OfDigits n cs) :=
  decidable_of_iff (cs.length = n ∧ cs.all Char.isDigit) (and_congr_right' List.all_eq_true)

def digitValue (c : Char) : ℕ := c.toNat - '0'.toNat

def digits (cs : List Char) : List ℕ := cs.map digitValue

/-- `t` is `s` with one digit replaced, or with unequal neighbours exchanged among the first
nine digits. -/
def Mistyped (s t : List Char) : Prop :=
  (∃ i, DifferAt i s t) ∨ ∃ i, i + 1 < 9 ∧ ExchangedAt i s t

lemma bounds_of_isDigit {c : Char} (h : c.isDigit) : 48 ≤ c.toNat ∧ c.toNat ≤ 57 := by
  simpa [Char.isDigit, UInt32.le_iff_toNat_le] using h

lemma digitValue_lt {c : Char} (h : c.isDigit) : digitValue c < 11 := by
  have hbounds := bounds_of_isDigit h
  have hzero : '0'.toNat = 48 := rfl
  unfold digitValue
  omega

lemma digitValue_inj {c d : Char} (hc : c.isDigit) (hd : d.isDigit)
    (h : digitValue c = digitValue d) : c = d := by
  have hc' := bounds_of_isDigit hc
  have hd' := bounds_of_isDigit hd
  have hzero : '0'.toNat = 48 := rfl
  unfold digitValue at h
  exact Char.toNat_inj.mp (by omega)

lemma writes_digits {n : ℕ} {cs : List Char} (h : OfDigits n cs) : Writes cs (digits cs) := by
  unfold Writes digits
  rw [List.map_map]
  exact List.map_congr_left fun c hc => decimalDigit?_of_isDigit (h.2 c hc)

lemma length_digits {n : ℕ} {cs : List Char} (h : OfDigits n cs) : (digits cs).length = n := by
  rw [digits, List.length_map, h.1]

lemma validateInn10_of_digits {s : List Char} (h : OfDigits 10 s) :
    validateInn10 s = .ok (decide (Checks10 (digits s))) :=
  validateInn10_of_writes (writes_digits h) (length_digits h)

lemma validateInn12_of_digits {s : List Char} (h : OfDigits 12 s) :
    validateInn12 s = .ok (decide (Checks12 (digits s))) :=
  validateInn12_of_writes (writes_digits h) (length_digits h)

instance fact_prime_eleven : Fact (Nat.Prime 11) := ⟨by norm_num⟩

/-- An error in a text of digits shifts the weighted sums by a multiple of a number that is not
zero modulo 11. -/
lemma shift_of_makes {n : ℕ} {s t : List Char} (hs : OfDigits n s) (ht : OfDigits n t)
    {error : TypingError} (h : error.Makes s t) :
    ∃ δ : ZMod 11, δ ≠ 0 ∧ ∀ weights : List ℕ, (weightedSum weights (digits t) : ZMod 11) =
      weightedSum weights (digits s) + error.coefficient weights * δ := by
  obtain ⟨d, e, hd, he, hne, hshift⟩ := weightedSum_of_makes (ZMod 11) h digitValue
  have hvalues : digitValue d ≠ digitValue e := fun heq =>
    hne (digitValue_inj (hs.2 d hd) (ht.2 e he) heq)
  exact ⟨_, sub_ne_zero_of_lt (digitValue_lt (hs.2 d hd)) (digitValue_lt (ht.2 e he)) hvalues,
    hshift⟩

/-- A digit in a position an error leaves alone. -/
lemma digits_getElem? {s t : List Char} {j : ℕ} (h : t[j]? = s[j]?) :
    (digits t)[j]? = (digits s)[j]? := by
  rw [digits, digits, List.getElem?_map, List.getElem?_map, h]

lemma getElem?_of_digits {n : ℕ} {s t : List Char} (hs : OfDigits n s) (ht : OfDigits n t)
    {j : ℕ} (h : (digits t)[j]? = (digits s)[j]?) : t[j]? = s[j]? := by
  rw [digits, digits, List.getElem?_map, List.getElem?_map] at h
  rcases hsj : s[j]? with _ | c <;> rcases htj : t[j]? with _ | d <;> rw [hsj, htj] at h
  · cases h
  · cases h
  · have hvalue : digitValue d = digitValue c := Option.some.inj h
    rw [digitValue_inj (ht.2 d (List.mem_of_getElem? htj)) (hs.2 c (List.mem_of_getElem? hsj))
      hvalue]

/-- A replaced check digit is wrong, as the digits it is made of have not changed. -/
lemma not_check_of_replaced {n i : ℕ} {s t : List Char} (hs : OfDigits n s) (ht : OfDigits n t)
    (h : DifferAt i s t) {weights : List ℕ} (hweight : weights.getD i 0 = 0)
    (hvalid : (digits s)[i]? = some (checkDigit 11 (weightedSum weights (digits s)))) :
    (digits t)[i]? ≠ some (checkDigit 11 (weightedSum weights (digits t))) := by
  intro hcheck
  have hmakes : (TypingError.replaced i).Makes s t := h
  obtain ⟨δ, -, hshift⟩ := shift_of_makes hs ht hmakes
  have hsame : (weightedSum weights (digits t) : ZMod 11) = weightedSum weights (digits s) := by
    rw [hshift, TypingError.coefficient, hweight]
    simp
  rw [checkDigit_congr hsame, ← hvalid] at hcheck
  exact h.2.1 (getElem?_of_digits hs ht hcheck)

/-! ## Twelve digits -/

/-- The two sums multiply by numbers that do not agree up to the sign. -/
def Independent (error : TypingError) : Prop :=
  (error.coefficient weights11 : ZMod 11) ≠ 0 ∧ (error.coefficient weights12 : ZMod 11) ≠ 0 ∧
    (error.coefficient weights11 : ZMod 11) ≠ error.coefficient weights12 ∧
    (error.coefficient weights11 : ZMod 11) ≠ -error.coefficient weights12

lemma independent_replaced : ∀ i < 10, Independent (.replaced i) := by
  unfold Independent TypingError.coefficient
  decide

lemma independent_exchanged : ∀ i < 8, Independent (.exchanged i) := by
  unfold Independent TypingError.coefficient
  decide

/-- An error in the digits that the check digits are made of breaks one of them. -/
lemma not_checks12_of_independent {s t : List Char} (hs : OfDigits 12 s) (ht : OfDigits 12 t)
    {error : TypingError} (h : error.Makes s t) (hindependent : Independent error)
    (hfirst : t[10]? = s[10]?) (hsecond : t[11]? = s[11]?) (hvalid : Checks12 (digits s)) :
    ¬ Checks12 (digits t) := by
  rintro ⟨hcheck₁, hcheck₂⟩
  obtain ⟨hu, hu', hne, hne'⟩ := hindependent
  obtain ⟨δ, hδ, hshift⟩ := shift_of_makes hs ht h
  rw [Checks11, digits_getElem? hfirst, hvalid.1] at hcheck₁
  rw [digits_getElem? hsecond, hvalid.2] at hcheck₂
  rcases coefficients_of_shift hu hu' hδ (hshift weights11) (hshift weights12)
    (Option.some.inj hcheck₁) (Option.some.inj hcheck₂) with heq | heq
  · exact hne heq
  · exact hne' heq

/-- **Two check digits detect every typing error.**  Any one of the twelve digits may be
replaced, or two unequal neighbours among the first nine exchanged. -/
theorem validateInn12_detects {s t : List Char} (hs : OfDigits 12 s)
    (hvalid : validateInn12 s = .ok true) (ht : OfDigits 12 t) (h : Mistyped s t) :
    validateInn12 t = .ok false := by
  rw [validateInn12_of_digits hs] at hvalid
  have hchecks := of_decide_eq_true (Except.ok.inj hvalid)
  rw [validateInn12_of_digits ht]
  refine congrArg Except.ok (decide_eq_false ?_)
  rcases h with ⟨i, hi⟩ | ⟨i, hbound, hi⟩
  · have hmakes : (TypingError.replaced i).Makes s t := hi
    obtain ⟨d, e, hd, -⟩ := eq_set_of_differAt hi
    have hlength := (List.getElem?_eq_some_iff.mp hd).1
    rw [hs.1] at hlength
    rcases eq_or_ne i 10 with rfl | hfirst
    · exact fun h => not_check_of_replaced hs ht hi rfl hchecks.1 h.1
    rcases eq_or_ne i 11 with rfl | hsecond
    · exact fun h => not_check_of_replaced hs ht hi rfl hchecks.2 h.2
    exact not_checks12_of_independent hs ht hmakes (independent_replaced i (by omega))
      (hi.2.2 10 hfirst.symm) (hi.2.2 11 hsecond.symm) hchecks
  · have hmakes : (TypingError.exchanged i).Makes s t := hi
    have hothers := hi.2.2.2.2.2
    exact not_checks12_of_independent hs ht hmakes (independent_exchanged i (by omega))
      (hothers 10 (by omega) (by omega)) (hothers 11 (by omega) (by omega)) hchecks

/-- A number with its first digit replaced. -/
theorem validateInn12_detects_first :
    validateInn12 "600100732259".toList = .ok false :=
  validateInn12_detects (s := "500100732259".toList) (by decide) (by decide)
    (by decide) (.inl ⟨0, differAt_set (e := '6') rfl (by decide)⟩)

/-! ## Ten digits -/

lemma coefficient_replaced : ∀ i < 9,
    ((TypingError.replaced i).coefficient weights10 : ZMod 11) ≠ 0 := by
  unfold TypingError.coefficient
  decide

lemma coefficient_exchanged : ∀ i < 8,
    ((TypingError.exchanged i).coefficient weights10 : ZMod 11) ≠ 0 := by
  unfold TypingError.coefficient
  decide

/-- An error between two accepted numbers confuses their residues. -/
lemma confused_of_mistyped {s t : List Char} (hs : OfDigits 10 s) (ht : OfDigits 10 t)
    (h : Mistyped s t) (hvalid : Checks10 (digits s)) (hvalid' : Checks10 (digits t)) :
    Confused 11 (weightedSum weights10 (digits s)) (weightedSum weights10 (digits t)) := by
  have hconfused : ∀ error : TypingError, error.Makes s t →
      (error.coefficient weights10 : ZMod 11) ≠ 0 → t[9]? = s[9]? →
      Confused 11 (weightedSum weights10 (digits s)) (weightedSum weights10 (digits t)) := by
    intro error hmakes hu hlast
    obtain ⟨δ, hδ, hshift⟩ := shift_of_makes hs ht hmakes
    have hcheck := digits_getElem? hlast
    rw [hvalid, hvalid'] at hcheck
    exact residues_of_shift hu hδ (hshift weights10) (Option.some.inj hcheck).symm
  rcases h with ⟨i, hi⟩ | ⟨i, hbound, hi⟩
  · obtain ⟨d, e, hd, -⟩ := eq_set_of_differAt hi
    have hlength := (List.getElem?_eq_some_iff.mp hd).1
    rw [hs.1] at hlength
    rcases eq_or_ne i 9 with rfl | hlast
    · exact absurd hvalid' (not_check_of_replaced hs ht hi rfl hvalid)
    · exact hconfused (.replaced i) hi (coefficient_replaced i (by omega)) (hi.2.2 9 hlast.symm)
  · exact hconfused (.exchanged i) hi (coefficient_exchanged i (by omega))
      (hi.2.2.2.2.2 9 (by omega) (by omega))

/-- Confused sums have the check digit zero. -/
lemma getElem?_of_confused {s t : List Char} (hs : OfDigits 10 s) (hvalid : Checks10 (digits s))
    (h : Confused 11 (weightedSum weights10 (digits s)) (weightedSum weights10 (digits t))) :
    s[9]? = some '0' := by
  have hlast : (digits s)[9]? = some 0 := by rw [hvalid, (checkDigit_of_confused h).1]
  rw [digits, List.getElem?_map] at hlast
  obtain ⟨c, hc, hvalue⟩ := Option.map_eq_some_iff.mp hlast
  rw [hc, digitValue_inj (hs.2 c (List.mem_of_getElem? hc)) (by decide : '0'.isDigit) hvalue]

/-- **Which errors one check digit misses.**  Two accepted numbers that are one error apart both
end in zero, and their weighted sums have the residues 0 and 10.  So an error in a number with
another check digit is detected, a wrong check digit always is, and in every position at most
one wrong digit is missed. -/
theorem validateInn10_misses :
    (∀ s t, OfDigits 10 s → OfDigits 10 t → validateInn10 s = .ok true →
      validateInn10 t = .ok true → Mistyped s t →
      s[9]? = some '0' ∧ t[9]? = some '0' ∧
        Confused 11 (weightedSum weights10 (digits s)) (weightedSum weights10 (digits t))) ∧
    (∀ s t, OfDigits 10 s → OfDigits 10 t → validateInn10 s = .ok true → s[9]? ≠ some '0' →
      Mistyped s t → validateInn10 t = .ok false) ∧
    (∀ s t, OfDigits 10 s → OfDigits 10 t → validateInn10 s = .ok true → DifferAt 9 s t →
      validateInn10 t = .ok false) ∧
    ∀ s t t' i, OfDigits 10 s → OfDigits 10 t → OfDigits 10 t' → validateInn10 s = .ok true →
      DifferAt i s t → DifferAt i s t' → validateInn10 t = .ok true →
      validateInn10 t' = .ok true → t = t' := by
  have hiff : ∀ s, OfDigits 10 s → (validateInn10 s = .ok true ↔ Checks10 (digits s)) := by
    intro s hs
    rw [validateInn10_of_digits hs, Except.ok.injEq, decide_eq_true_iff]
  have hmissed : ∀ s t, OfDigits 10 s → OfDigits 10 t → validateInn10 s = .ok true →
      validateInn10 t = .ok true → Mistyped s t →
      Confused 11 (weightedSum weights10 (digits s)) (weightedSum weights10 (digits t)) :=
    fun s t hs ht hvalid hvalid' h =>
      confused_of_mistyped hs ht h ((hiff s hs).mp hvalid) ((hiff t ht).mp hvalid')
  refine ⟨fun s t hs ht hvalid hvalid' h => ?_, fun s t hs ht hvalid hlast h => ?_,
    fun s t hs ht hvalid h => ?_, fun s t t' i hs ht ht' hvalid h h' hvalid₁ hvalid₂ => ?_⟩
  · have hconfused := hmissed s t hs ht hvalid hvalid' h
    exact ⟨getElem?_of_confused hs ((hiff s hs).mp hvalid) hconfused,
      getElem?_of_confused ht ((hiff t ht).mp hvalid') hconfused.symm, hconfused⟩
  · rw [validateInn10_of_digits ht]
    refine congrArg Except.ok (decide_eq_false fun hchecks => hlast ?_)
    have hconfused := confused_of_mistyped hs ht h ((hiff s hs).mp hvalid) hchecks
    exact getElem?_of_confused hs ((hiff s hs).mp hvalid) hconfused
  · rw [validateInn10_of_digits ht]
    exact congrArg Except.ok (decide_eq_false
      (not_check_of_replaced hs ht h rfl ((hiff s hs).mp hvalid)))
  · by_contra hne
    have hconfused := hmissed s t hs ht hvalid hvalid₁ (.inl ⟨i, h⟩)
    have hconfused' := hmissed s t' hs ht' hvalid hvalid₂ (.inl ⟨i, h'⟩)
    have hothers : ∀ j, j ≠ i → t'[j]? = t[j]? := fun j hj =>
      -- two corrections of one position would again be one error apart
      (h'.2.2 j hj).trans (h.2.2 j hj).symm
    have hdiffer : DifferAt i t t' := by
      refine ⟨ht'.1.trans ht.1.symm, fun heq => hne (List.ext_getElem? fun j => ?_), hothers⟩
      rcases eq_or_ne j i with rfl | hj
      · exact heq.symm
      · exact (hothers j hj).symm
    have hapart := hmissed t t' ht ht' hvalid₁ hvalid₂ (.inl ⟨i, hdiffer⟩)
    unfold Confused at hconfused hconfused' hapart
    omega

/-- Two accepted numbers that differ in the first digit. -/
theorem validateInn10_misses_first :
    validateInn10 "1000000080".toList = .ok true ∧ validateInn10 "6000000080".toList = .ok true ∧
      Confused 11 (weightedSum weights10 (digits "1000000080".toList))
        (weightedSum weights10 (digits "6000000080".toList)) :=
  have hvalid : validateInn10 "1000000080".toList = .ok true := by decide
  have hvalid' : validateInn10 "6000000080".toList = .ok true := by decide
  have htyped : DifferAt 0 "1000000080".toList "6000000080".toList :=
    differAt_set (e := '6') rfl (by decide)
  have hdigits : OfDigits 10 "1000000080".toList := by decide
  have hdigits' : OfDigits 10 "6000000080".toList := by decide
  ⟨hvalid, hvalid',
    (validateInn10_misses.1 _ _ hdigits hdigits' hvalid hvalid' (.inl ⟨0, htyped⟩)).2.2⟩

end TaxNumber

end OrdersBackend
