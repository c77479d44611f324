import OrdersBackend.Accounts.TaxNumber
import OrdersBackend.Framework.CheckDigit
import OrdersBackend.Framework.Transaction

/-!
# The check digits of a tax number

`validate_inn_10` and `validate_inn_12` in terms of weighted sums.  On decimal digits the ten
digit check compares the last digit with the check digit of the others, the twelve digit check
the last two digits with two check digits (`validateInn10_of_writes`,
`validateInn12_of_writes`).  On another character `int` raises, but the twelfth one is converted
only when the eleventh one is right (`validateInn12_eq_ok_iff`).
-/

namespace OrdersBackend

open Framework Python

namespace TaxNumber

/-! ## Digits -/

/-- `int` converts the character. -/
def isDecimal (c : Char) : Bool := (decimalDigit? c).isSome

/-- The characters are decimal digits with the values `ds`. -/
def Writes (cs : List Char) (ds : List ℕ) : Prop := cs.map decimalDigit? = ds.map some

lemma Writes.length_eq {cs : List Char} {ds : List ℕ} (h : Writes cs ds) :
    cs.length = ds.length := by
  simpa using congrArg List.length h

lemma exists_writes_iff {cs : List Char} : (∃ ds, Writes cs ds) ↔ ∀ c ∈ cs, isDecimal c := by
  constructor
  · rintro ⟨ds, h⟩ c hc
    have hmem : decimalDigit? c ∈ ds.map some := h ▸ List.mem_map_of_mem hc
    obtain ⟨d, -, hd⟩ := List.mem_map.mp hmem
    unfold isDecimal
    rw [← hd]
    rfl
  · intro h
    induction cs with
    | nil => exact ⟨[], rfl⟩
    | cons c cs ih =>
        obtain ⟨d, hd⟩ := Option.isSome_iff_exists.mp (h c List.mem_cons_self)
        obtain ⟨ds, hds⟩ := ih fun c' hc' => h c' (List.mem_cons_of_mem c hc')
        exact ⟨d :: ds, congrArg₂ List.cons hd hds⟩

/-- The leading characters are decimal digits with the values `ds`. -/
def Leads (cs : List Char) (ds : List ℕ) : Prop := ∀ i d, ds[i]? = some d → digitAt cs i = .ok d

lemma leads_of_writes_take {cs : List Char} {ds : List ℕ} {n : ℕ} (h : Writes (cs.take n) ds) :
    Leads cs ds := by
  intro i d hd
  have hi : i < (cs.take n).length := by
    rw [h.length_eq]
    exact (List.getElem?_eq_some_iff.mp hd).1
  have hvalue : ((cs.take n).map decimalDigit?)[i]? = some (some d) := by
    rw [h, List.getElem?_map, hd]
    rfl
  rw [List.length_take, lt_min_iff] at hi
  rw [List.getElem?_map, List.getElem?_take_of_lt hi.1] at hvalue
  obtain ⟨c, hc, hcd⟩ := Option.map_eq_some_iff.mp hvalue
  unfold digitAt
  rw [hc, Option.bind_some, hcd]

lemma Writes.leads {cs : List Char} {ds : List ℕ} (h : Writes cs ds) : Leads cs ds :=
  leads_of_writes_take (n := cs.length) (by rwa [List.take_length])

/-! ## Characters that are not decimal -/

lemma digitAt_eq_ok_iff {cs : List Char} {i d : ℕ} :
    digitAt cs i = .ok d ↔ ∃ c, cs[i]? = some c ∧ decimalDigit? c = some d := by
  unfold digitAt
  rw [← Option.bind_eq_some_iff]
  cases cs[i]?.bind decimalDigit? <;> simp

/-- `int` raises nothing but the error of a character that is not decimal. -/
def RaisesDigitValue {α : Type} (r : Except TaxNumberError α) : Prop :=
  ∀ e, r = .error e → e = .digitValue

lemma raisesDigitValue_ok {α : Type} (a : α) :
    RaisesDigitValue (.ok a : Except TaxNumberError α) := fun _ he => (nomatch he)

lemma RaisesDigitValue.bind {α β : Type} {r : Except TaxNumberError α}
    {f : α → Except TaxNumberError β} (h : RaisesDigitValue r)
    (hf : ∀ a, RaisesDigitValue (f a)) : RaisesDigitValue (r >>= f) := by
  intro e he
  rcases r with e' | a
  · rw [except_error_bind] at he
    exact h e (congrArg Except.error (Except.error.inj he))
  · exact hf a e he

lemma raisesDigitValue_digitAt (cs : List Char) (i : ℕ) : RaisesDigitValue (digitAt cs i) := by
  intro e he
  unfold digitAt at he
  split at he
  · cases he
  · exact (Except.error.inj he).symm

lemma raisesDigitValue_controlSum (cs : List Char) (i : ℕ) (coefficients : List ℕ) :
    RaisesDigitValue (controlSum cs i coefficients) := by
  induction coefficients generalizing i with
  | nil => exact raisesDigitValue_ok 0
  | cons coefficient coefficients ih =>
      exact (raisesDigitValue_digitAt cs i).bind fun d => (ih (i + 1)).bind fun rest =>
        raisesDigitValue_ok _

lemma raisesDigitValue_controlDigit (cs : List Char) (coefficients : List ℕ) :
    RaisesDigitValue (controlDigit cs coefficients) :=
  (raisesDigitValue_controlSum cs 0 coefficients).bind fun _ => raisesDigitValue_ok _

lemma raisesDigitValue_validateInn10 (cs : List Char) : RaisesDigitValue (validateInn10 cs) :=
  (raisesDigitValue_controlDigit cs _).bind fun _ =>
    (raisesDigitValue_digitAt cs 9).bind fun _ => raisesDigitValue_ok _

lemma raisesDigitValue_validateInn12 (cs : List Char) : RaisesDigitValue (validateInn12 cs) := by
  refine (raisesDigitValue_controlDigit cs _).bind fun control₁ =>
    (raisesDigitValue_controlDigit cs _).bind fun control₂ =>
      (raisesDigitValue_digitAt cs 10).bind fun d => ?_
  split
  · exact (raisesDigitValue_digitAt cs 11).bind fun d => raisesDigitValue_ok _
  · exact raisesDigitValue_ok false

/-- A sum that is computed has converted all its characters. -/
lemma digitAt_of_controlSum {cs : List Char} {i n : ℕ} {coefficients : List ℕ}
    (h : controlSum cs i coefficients = .ok n) :
    ∀ j < coefficients.length, ∃ d, digitAt cs (i + j) = .ok d := by
  induction coefficients generalizing i n with
  | nil => exact fun j hj => absurd hj (Nat.not_lt_zero j)
  | cons coefficient coefficients ih =>
      obtain ⟨d, hd, h⟩ := except_bind_eq_ok.mp h
      obtain ⟨rest, hrest, -⟩ := except_bind_eq_ok.mp h
      intro j hj
      rcases j with _ | j
      · exact ⟨d, hd⟩
      · obtain ⟨d', hd'⟩ := ih hrest j (Nat.lt_of_succ_lt_succ hj)
        exact ⟨d', by rw [← hd']; congr 1; omega⟩

lemma digitAt_of_controlDigit {cs : List Char} {n : ℕ} {coefficients : List ℕ}
    (h : controlDigit cs coefficients = .ok n) :
    ∀ j < coefficients.length, ∃ d, digitAt cs j = .ok d := by
  obtain ⟨sum, hsum, -⟩ := except_bind_eq_ok.mp h
  simpa using digitAt_of_controlSum hsum

/-- Converted leading characters are decimal. -/
lemma exists_writes_take {cs : List Char} {n : ℕ} (h : ∀ j < n, ∃ d, digitAt cs j = .ok d) :
    ∃ ds, Writes (cs.take n) ds := by
  rw [exists_writes_iff]
  intro c hc
  obtain ⟨j, hj, rfl⟩ := List.mem_take_iff_getElem.mp hc
  obtain ⟨d, hd⟩ := h j (by omega)
  obtain ⟨c, hc, hcd⟩ := digitAt_eq_ok_iff.mp hd
  rw [List.getElem?_eq_getElem (by omega)] at hc
  rw [Option.some.inj hc]
  exact Option.isSome_of_eq_some hcd

/-! ## The checks in terms of weighted sums -/

def weights10 : List ℕ := [2, 4, 10, 3, 5, 9, 4, 6, 8]

def weights11 : List ℕ := [7, 2, 4, 10, 3, 5, 9, 4, 6, 8]

def weights12 : List ℕ := [3, 7, 2, 4, 10, 3, 5, 9, 4, 6, 8]

/-- The last of ten digits is the check digit. -/
def Checks10 (ds : List ℕ) : Prop :=
  ds[9]? = some (checkDigit 11 (weightedSum weights10 ds))

/-- The eleventh digit is the check digit of the ten before it. -/
def Checks11 (ds : List ℕ) : Prop :=
  ds[10]? = some (checkDigit 11 (weightedSum weights11 ds))

/-- The last two of twelve digits are the check digits. -/
def Checks12 (ds : List ℕ) : Prop :=
  Checks11 ds ∧ ds[11]? = some (checkDigit 11 (weightedSum weights12 ds))

instance (ds : List ℕ) : Decidable (Checks10 ds) := inferInstanceAs (Decidable (_ = _))

instance (ds : List ℕ) : Decidable (Checks11 ds) := inferInstanceAs (Decidable (_ = _))

instance (ds : List ℕ) : Decidable (Checks12 ds) := inferInstanceAs (Decidable (_ ∧ _))

lemma controlSum_of_leads {cs : List Char} {ds : List ℕ} (h : Leads cs ds) (i : ℕ)
    (weights : List ℕ) (hlength : i + weights.length ≤ ds.length) :
    controlSum cs i weights = .ok (weightedSum weights (ds.drop i)) := by
  induction weights generalizing i with
  | nil => rfl
  | cons weight weights ih =>
      rw [List.length_cons] at hlength
      have hi : i < ds.length := by omega
      have hrest := ih (i + 1) (by omega)
      unfold controlSum
      rw [h i _ (List.getElem?_eq_getElem hi), except_ok_bind, hrest,
        List.drop_eq_getElem_cons hi]
      rfl

lemma controlDigit_of_leads {cs : List Char} {ds : List ℕ} (h : Leads cs ds)
    {weights : List ℕ} (hlength : weights.length ≤ ds.length) :
    controlDigit cs weights = .ok (checkDigit 11 (weightedSum weights ds)) := by
  unfold controlDigit
  rw [controlSum_of_leads h 0 weights (by omega), List.drop_zero]
  rfl

/-! ### Ten digits -/

lemma validateInn10_of_writes {cs : List Char} {ds : List ℕ} (h : Writes cs ds)
    (hlength : ds.length = 10) : validateInn10 cs = .ok (decide (Checks10 ds)) := by
  have hcontrol : controlDigit cs [2, 4, 10, 3, 5, 9, 4, 6, 8] =
      .ok (checkDigit 11 (weightedSum weights10 ds)) :=
    controlDigit_of_leads h.leads (by rw [hlength]; decide)
  have hlast : ds[9]? = some ds[9] := List.getElem?_eq_getElem (by omega)
  unfold validateInn10
  rw [hcontrol, except_ok_bind, h.leads 9 _ hlast, except_ok_bind]
  refine congrArg Except.ok (Bool.eq_iff_iff.mpr ?_)
  rw [beq_iff_eq, decide_eq_true_iff, Checks10, hlast, Option.some_inj, eq_comm]

/-- The check of ten characters converts all of them. -/
lemma validateInn10_of_not_decimal {cs : List Char} (hlength : cs.length = 10)
    (h : ¬ ∀ c ∈ cs, isDecimal c) : validateInn10 cs = .error .digitValue := by
  rcases hresult : validateInn10 cs with e | b
  · rw [raisesDigitValue_validateInn10 cs e hresult]
  · obtain ⟨control, hcontrol, hresult⟩ := except_bind_eq_ok.mp hresult
    obtain ⟨d, hd, -⟩ := except_bind_eq_ok.mp hresult
    have hdigits : ∀ j < 10, ∃ d, digitAt cs j = .ok d := by
      intro j hj
      rcases eq_or_ne j 9 with rfl | hlast
      · exact ⟨d, hd⟩
      · have hlt : j < 9 := by omega
        exact digitAt_of_controlDigit hcontrol j hlt
    have hwrites := exists_writes_take hdigits
    rw [List.take_of_length_le hlength.le] at hwrites
    exact absurd (exists_writes_iff.mp hwrites) h

/-! ### Twelve digits -/

/-- The twelfth character is looked at when the eleventh one is right. -/
lemma validateInn12_of_leads {cs : List Char} {ds : List ℕ} (h : Leads cs ds)
    (hlength : 11 ≤ ds.length) :
    validateInn12 cs = if Checks11 ds then
      (do return checkDigit 11 (weightedSum weights12 ds) == (← digitAt cs 11))
      else .ok false := by
  have hcontrol₁ : controlDigit cs [7, 2, 4, 10, 3, 5, 9, 4, 6, 8] =
      .ok (checkDigit 11 (weightedSum weights11 ds)) :=
    controlDigit_of_leads h (le_trans (by decide) hlength)
  have hcontrol₂ : controlDigit cs [3, 7, 2, 4, 10, 3, 5, 9, 4, 6, 8] =
      .ok (checkDigit 11 (weightedSum weights12 ds)) :=
    controlDigit_of_leads h (le_trans (by decide) hlength)
  have hlast : ds[10]? = some ds[10] := List.getElem?_eq_getElem (by omega)
  have hiff : (checkDigit 11 (weightedSum weights11 ds) == ds[10]) = true ↔ Checks11 ds := by
    rw [beq_iff_eq, Checks11, hlast, Option.some_inj, eq_comm]
  unfold validateInn12
  rw [hcontrol₁, except_ok_bind, hcontrol₂, except_ok_bind, h 10 _ hlast, except_ok_bind]
  exact if_congr hiff rfl rfl

lemma validateInn12_of_writes {cs : List Char} {ds : List ℕ} (h : Writes cs ds)
    (hlength : ds.length = 12) : validateInn12 cs = .ok (decide (Checks12 ds)) := by
  have hlast : ds[11]? = some ds[11] := List.getElem?_eq_getElem (by omega)
  rw [validateInn12_of_leads h.leads (by omega), h.leads 11 _ hlast, except_ok_bind]
  by_cases hchecks : Checks11 ds
  · rw [if_pos hchecks]
    refine congrArg Except.ok (Bool.eq_iff_iff.mpr ?_)
    rw [beq_iff_eq, decide_eq_true_iff, Checks12, and_iff_right hchecks, hlast, Option.some_inj,
      eq_comm]
  · rw [if_neg hchecks]
    exact congrArg Except.ok (decide_eq_false fun h => hchecks h.1).symm

/-- The check of twelve characters converts the first eleven, and the last one when it looks at
it. -/
lemma validateInn12_eq_ok_iff {cs : List Char} (hlength : cs.length = 12) :
    (∃ b, validateInn12 cs = .ok b) ↔
      ∃ ds, Writes (cs.take 11) ds ∧ (Checks11 ds → ∃ d, digitAt cs 11 = .ok d) := by
  have heleven : ∀ ds, Writes (cs.take 11) ds → ds.length = 11 := by
    intro ds hds
    rw [← hds.length_eq, List.length_take]
    omega
  constructor
  · -- both control digits have been computed, so eleven characters are digits
    rintro ⟨b, hb⟩
    obtain ⟨control₁, -, h⟩ := except_bind_eq_ok.mp hb
    obtain ⟨control₂, hcontrol₂, -⟩ := except_bind_eq_ok.mp h
    obtain ⟨ds, hds⟩ : ∃ ds, Writes (cs.take 11) ds :=
      exists_writes_take (digitAt_of_controlDigit hcontrol₂)
    refine ⟨ds, hds, fun hchecks => ?_⟩
    rw [validateInn12_of_leads (leads_of_writes_take hds) (heleven ds hds).ge,
      if_pos hchecks] at hb
    obtain ⟨d, hd, -⟩ := except_bind_eq_ok.mp hb
    exact ⟨d, hd⟩
  · rintro ⟨ds, hds, hlast⟩
    rw [validateInn12_of_leads (leads_of_writes_take hds) (heleven ds hds).ge]
    by_cases hchecks : Checks11 ds
    · obtain ⟨d, hd⟩ := hlast hchecks
      rw [if_pos hchecks, hd]
      exact ⟨_, rfl⟩
    · rw [if_neg hchecks]
      exact ⟨false, rfl⟩

/-- Accepted characters are decimal, all twelve of them. -/
lemma validateInn12_eq_true_iff {cs : List Char} (hlength : cs.length = 12) :
    validateInn12 cs = .ok true ↔ ∃ ds, Writes cs ds ∧ Checks12 ds := by
  constructor
  · intro h
    obtain ⟨ds, hds, hlast⟩ := (validateInn12_eq_ok_iff hlength).mp ⟨true, h⟩
    have hleads := leads_of_writes_take hds
    have heleven : ds.length = 11 := by
      rw [← hds.length_eq, List.length_take]
      omega
    -- the first control digit is right, so the last character is looked at
    have hchecks : Checks11 ds := by
      by_contra hchecks
      rw [validateInn12_of_leads hleads heleven.ge, if_neg hchecks] at h
      cases h
    have hdigits : ∀ j < 12, ∃ d, digitAt cs j = .ok d := by
      intro j hj
      rcases eq_or_ne j 11 with rfl | hne
      · exact hlast hchecks
      · exact ⟨_, hleads j _ (List.getElem?_eq_getElem (by omega))⟩
    obtain ⟨ds', hds'⟩ := exists_writes_take hdigits
    rw [List.take_of_length_le hlength.le] at hds'
    refine ⟨ds', hds', ?_⟩
    rw [validateInn12_of_writes hds' (hds'.length_eq.symm.trans hlength)] at h
    exact of_decide_eq_true (Except.ok.inj h)
  · rintro ⟨ds, hds, hchecks⟩
    rw [validateInn12_of_writes hds (hds.length_eq.symm.trans hlength),
      decide_eq_true hchecks]

end TaxNumber

end OrdersBackend
