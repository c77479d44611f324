import OrdersBackend.Accounts.Registration
import OrdersBackend.Accounts.SupplierModel

/-!
# The checks of a tax number compared

Three pieces of code say what a tax number is: `validate_tax_number` at the registration, the
pattern of the model field, and `Supplier.clean`.  The first one normalises what it accepts, and
the other two accept all of that (`validateTaxNumber_normalizes`).  They accept more
(`backDoors_iff`).

The first and the last one convert characters with `int` that they have not made sure are
decimal; `reportsBadData_iff` says when that raises.
-/

namespace OrdersBackend

open Framework Python

namespace TaxNumber

/-! ## Separators -/

/-- A character that `re.sub(r'[\s\-]', '', value)` deletes. -/
def isSeparator (c : Char) : Bool := isSpace c || c == '-'

/-- The ranges of the characters that are white space. -/
def spaceRanges : List (ℕ × ℕ) :=
  [(9, 13), (28, 32), (0x85, 0x85), (0xA0, 0xA0), (0x1680, 0x1680), (0x2000, 0x200A),
    (0x2028, 0x2028), (0x2029, 0x2029), (0x202F, 0x202F), (0x205F, 0x205F), (0x3000, 0x3000)]

lemma exists_range_of_isSpace {c : Char} (h : isSpace c) :
    ∃ r ∈ spaceRanges, r.1 ≤ c.toNat ∧ c.toNat ≤ r.2 := by
  unfold isSpace at h
  simp only [Bool.or_eq_true, Bool.and_eq_true, decide_eq_true_eq, beq_iff_eq] at h
  unfold spaceRanges
  simp only [List.mem_cons, List.not_mem_nil, or_false, exists_eq_or_imp, exists_eq_left]
  omega

lemma exists_zero_of_isDecimal {c : Char} (h : isDecimal c) :
    ∃ z ∈ digitZeros, z ≤ c.toNat ∧ c.toNat ≤ z + 9 := by
  obtain ⟨d, hd⟩ := Option.isSome_iff_exists.mp h
  obtain ⟨z, hz, -⟩ := Option.map_eq_some_iff.mp hd
  have hbounds := List.find?_some hz
  simp only [Bool.and_eq_true, decide_eq_true_eq] at hbounds
  exact ⟨z, List.mem_of_find?_eq_some hz, hbounds⟩

/-- A decimal digit is neither white space nor a hyphen. -/
lemma isSeparator_of_isDecimal {c : Char} (h : isDecimal c) : isSeparator c = false := by
  obtain ⟨z, hz, hzc⟩ := exists_zero_of_isDecimal h
  have hspaces : ∀ z ∈ digitZeros, ∀ r ∈ spaceRanges, r.2 < z ∨ z + 9 < r.1 := by decide
  have hhyphen : ∀ z ∈ digitZeros, '-'.toNat < z := by decide
  unfold isSeparator
  rw [Bool.or_eq_false_iff]
  constructor
  · by_contra hspace
    obtain ⟨r, hr, hrc⟩ := exists_range_of_isSpace (Bool.not_eq_false _ ▸ hspace)
    have hapart := hspaces z hz r hr
    omega
  · rw [beq_eq_false_iff_ne]
    rintro rfl
    have hlt := hhyphen z hz
    omega

lemma isDigit_of_isDecimal {c : Char} (h : isDecimal c) : isDigit c := by
  unfold isDigit
  rw [show (decimalDigit? c).isSome = true from h]
  rfl

lemma isSeparator_of_mem_clean {cs : List Char} {c : Char} (h : c ∈ clean cs) :
    isSeparator c = false := by
  have hkept := (List.mem_filter.mp h).2
  exact (Bool.not_eq_true' _).mp hkept

/-- Digits are not deleted. -/
lemma clean_of_decimals {cs : List Char} (h : ∀ c ∈ cs, isDecimal c) : clean cs = cs := by
  unfold clean
  rw [List.filter_eq_self]
  intro c hc
  have hseparator := isSeparator_of_isDecimal (h c hc)
  unfold isSeparator at hseparator
  rw [hseparator]
  rfl

/-! ## What `validate_tax_number` accepts -/

/-- Ten or twelve digits with the right check digits. -/
def InnDigits (ds : List ℕ) : Prop :=
  (ds.length = 10 ∧ Checks10 ds) ∨ (ds.length = 12 ∧ Checks12 ds)

instance (ds : List ℕ) : Decidable (InnDigits ds) := inferInstanceAs (Decidable (_ ∨ _))

/-- The text is a tax number of ten or twelve digits, with the right checksum. -/
def IsInn (value : String) : Prop :=
  (value.length = 10 ∧ validateInn10 value.toList = .ok true) ∨
    (value.length = 12 ∧ validateInn12 value.toList = .ok true)

instance (value : String) : Decidable (IsInn value) := inferInstanceAs (Decidable (_ ∨ _))

lemma validateInn10_eq_true_iff {cs : List Char} (hlength : cs.length = 10) :
    validateInn10 cs = .ok true ↔ ∃ ds, Writes cs ds ∧ Checks10 ds := by
  by_cases hdecimal : ∀ c ∈ cs, isDecimal c
  · obtain ⟨ds, hds⟩ := exists_writes_iff.mpr hdecimal
    rw [validateInn10_of_writes hds (hds.length_eq.symm.trans hlength), Except.ok.injEq,
      decide_eq_true_iff]
    refine ⟨fun h => ⟨ds, hds, h⟩, ?_⟩
    rintro ⟨ds', hds', h⟩
    have hsame : ds' = ds := List.map_injective_iff.mpr (Option.some_injective _)
      (hds'.symm.trans hds)
    rwa [hsame] at h
  · rw [validateInn10_of_not_decimal hlength hdecimal]
    refine ⟨fun h => (nomatch h), ?_⟩
    rintro ⟨ds, hds, -⟩
    exact absurd (exists_writes_iff.mp ⟨ds, hds⟩) hdecimal

lemma isInn_iff (value : String) :
    IsInn value ↔ ∃ ds, Writes value.toList ds ∧ InnDigits ds := by
  unfold IsInn InnDigits
  rw [← String.length_toList]
  constructor
  · rintro (⟨hlength, h⟩ | ⟨hlength, h⟩)
    · obtain ⟨ds, hds, hchecks⟩ := (validateInn10_eq_true_iff hlength).mp h
      exact ⟨ds, hds, .inl ⟨hds.length_eq.symm.trans hlength, hchecks⟩⟩
    · obtain ⟨ds, hds, hchecks⟩ := (validateInn12_eq_true_iff hlength).mp h
      exact ⟨ds, hds, .inr ⟨hds.length_eq.symm.trans hlength, hchecks⟩⟩
  · rintro ⟨ds, hds, ⟨hlength, hchecks⟩ | ⟨hlength, hchecks⟩⟩
    · have hten := hds.length_eq.trans hlength
      exact .inl ⟨hten, (validateInn10_eq_true_iff hten).mpr ⟨ds, hds, hchecks⟩⟩
    · have htwelve := hds.length_eq.trans hlength
      exact .inr ⟨htwelve, (validateInn12_eq_true_iff htwelve).mpr ⟨ds, hds, hchecks⟩⟩

lemma exists_digits_of_isInn {value : String} (h : IsInn value) :
    ∀ c ∈ value.toList, isDecimal c := by
  obtain ⟨ds, hds, -⟩ := (isInn_iff value).mp h
  exact exists_writes_iff.mp ⟨ds, hds⟩

/-- A check that raises when it fails returns when it succeeds. -/
lemma check_eq_ok_iff {α : Type} (r : Except TaxNumberError Bool) (e : TaxNumberError) (a c : α) :
    (do if ← r then return a else .error e) = Except.ok c ↔ c = a ∧ r = .ok true := by
  rcases r with e' | _ | _
  · exact ⟨fun h => (nomatch h), fun h => (nomatch h.2)⟩
  · exact ⟨fun h => (nomatch h), fun h => (nomatch h.2)⟩
  · exact ⟨fun h => ⟨(Except.ok.inj h).symm, rfl⟩, fun h => congrArg Except.ok h.1.symm⟩

/-- What a text that is not empty is accepted as. -/
lemma validateTaxNumber_eq_ok_iff {value c : String} (hne : value ≠ "") :
    validateTaxNumber value = .ok c ↔
      c = String.ofList (clean value.toList) ∧ IsInn (String.ofList (clean value.toList)) := by
  unfold validateTaxNumber
  rw [if_neg hne]
  by_cases hdigits : (clean value.toList).isEmpty || !(clean value.toList).all isDigit
  · rw [if_pos hdigits]
    refine ⟨fun h => (nomatch h), fun ⟨_, h⟩ => ?_⟩
    -- a genuine number has nothing but digits
    have hdecimal := exists_digits_of_isInn h
    rw [String.toList_ofList] at hdecimal
    have hall : (clean value.toList).all isDigit :=
      List.all_eq_true.mpr fun c hc => isDigit_of_isDecimal (hdecimal c hc)
    rw [hall, Bool.not_true, Bool.or_false, List.isEmpty_iff] at hdigits
    rw [hdigits] at h
    exact absurd h (by decide)
  · rw [if_neg hdigits]
    unfold IsInn
    rw [String.toList_ofList, String.length_ofList]
    -- the length chooses the check
    by_cases hten : (clean value.toList).length = 10
    · rw [if_pos hten]
      refine (check_eq_ok_iff _ _ _ _).trans
        (and_congr_right fun _ => ⟨fun h => .inl ⟨hten, h⟩, ?_⟩)
      rintro (⟨-, h⟩ | ⟨htwelve, -⟩)
      · exact h
      · exact absurd (hten.symm.trans htwelve) (by decide)
    · rw [if_neg hten]
      by_cases htwelve : (clean value.toList).length = 12
      · rw [if_pos htwelve]
        refine (check_eq_ok_iff _ _ _ _).trans
          (and_congr_right fun _ => ⟨fun h => .inr ⟨htwelve, h⟩, ?_⟩)
        rintro (⟨hten', -⟩ | ⟨-, h⟩)
        · exact absurd hten' hten
        · exact h
      · rw [if_neg htwelve]
        refine ⟨fun h => (nomatch h), ?_⟩
        rintro ⟨-, ⟨hten', -⟩ | ⟨htwelve', -⟩⟩
        · exact absurd hten' hten
        · exact absurd htwelve' htwelve

/-! ## What is accepted is normal -/

/-- A tax number is accepted as it is. -/
lemma validateTaxNumber_of_isInn {value : String} (h : IsInn value) :
    validateTaxNumber value = .ok value := by
  have hne : value ≠ "" := by
    rintro rfl
    exact absurd h (by decide)
  have hclean : String.ofList (clean value.toList) = value := by
    rw [clean_of_decimals (exists_digits_of_isInn h), String.ofList_toList]
  rw [validateTaxNumber_eq_ok_iff hne, hclean]
  exact ⟨rfl, h⟩

/-- The model accepts a tax number. -/
lemma accepts_of_isInn {value : String} (h : IsInn value) :
    Supplier.validatesTaxNumber value ∧ Supplier.clean value = .ok () := by
  have hdecimal := exists_digits_of_isInn h
  constructor
  · rw [Supplier.validatesTaxNumber_iff]
    refine ⟨?_, ?_, fun c hc => hdecimal c (List.mem_of_mem_take hc)⟩
    all_goals
      rw [String.length_toList]
      rcases h with ⟨hlength, -⟩ | ⟨hlength, -⟩ <;> omega
  · have hne : value ≠ "" := by
      rintro rfl
      exact absurd h (by decide)
    unfold Supplier.clean
    rw [if_neg hne, clean_of_decimals hdecimal]
    rcases h with ⟨hlength, hvalid⟩ | ⟨hlength, hvalid⟩ <;> rw [← String.length_toList] at hlength
    · rw [if_pos hlength, hvalid]
      rfl
    · rw [if_neg (by omega), if_pos hlength, hvalid]
      rfl

/-- **`validate_tax_number` normalises.**  Separators make no difference to it.  What it returns
has none, is a tax number with the right checksum, is returned unchanged when it is validated
again, and passes the checks of the model. -/
theorem validateTaxNumber_normalizes :
    (∀ s t, s ≠ "" → t ≠ "" → clean s.toList = clean t.toList →
      validateTaxNumber s = validateTaxNumber t) ∧
    ∀ s c, s ≠ "" → validateTaxNumber s = .ok c →
      (∀ a ∈ c.toList, isSeparator a = false) ∧ validateTaxNumber c = .ok c ∧ IsInn c ∧
        Supplier.validatesTaxNumber c ∧ Supplier.clean c = .ok () := by
  constructor
  · intro s t hs ht h
    unfold validateTaxNumber
    rw [if_neg hs, if_neg ht, h]
  · intro s c hs hc
    obtain ⟨rfl, hinn⟩ := (validateTaxNumber_eq_ok_iff hs).mp hc
    refine ⟨fun a ha => ?_, validateTaxNumber_of_isInn hinn, hinn, accepts_of_isInn hinn⟩
    rw [String.toList_ofList] at ha
    exact isSeparator_of_mem_clean ha

/-- A number written in groups. -/
theorem validateTaxNumber_normalizes_groups :
    validateTaxNumber "7707 08-3893" = validateTaxNumber "7707083893" ∧ IsInn "7707083893" :=
  ⟨validateTaxNumber_normalizes.1 _ _ (by decide) (by decide) (by decide),
    (validateTaxNumber_normalizes.2 "7707 08-3893" _ (by decide) (by decide)).2.2.1⟩

/-! ## Back doors -/

/-- The validation accepts the text, and it is a tax number. -/
def Genuine (value : String) : Prop := (∃ c, validateTaxNumber value = .ok c) ∧ IsInn value

lemma genuine_iff (value : String) : Genuine value ↔ IsInn value :=
  and_iff_right_of_imp fun h => ⟨value, validateTaxNumber_of_isInn h⟩

/-- `Supplier.clean` looks at ten and at twelve characters only. -/
lemma supplierClean_eq_ok_iff (value : String) :
    Supplier.clean value = .ok () ↔
      ((clean value.toList).length = 10 → validateInn10 (clean value.toList) = .ok true) ∧
        ((clean value.toList).length = 12 → validateInn12 (clean value.toList) = .ok true) := by
  have hguard : ∀ (r : Except TaxNumberError Bool) (e : TaxNumberError),
      (do if ← r then return () else .error e) = Except.ok () ↔ r = .ok true := fun r e =>
    (check_eq_ok_iff r e () ()).trans (and_iff_right rfl)
  unfold Supplier.clean
  by_cases hempty : value = ""
  · rw [if_pos hempty, hempty]
    exact ⟨fun _ => by decide, fun _ => rfl⟩
  · rw [if_neg hempty]
    by_cases hten : (clean value.toList).length = 10
    · rw [if_pos hten]
      refine (hguard _ _).trans ⟨fun h => ⟨fun _ => h, fun htwelve => ?_⟩, fun h => h.1 hten⟩
      exact absurd (hten.symm.trans htwelve) (by decide)
    · rw [if_neg hten]
      by_cases htwelve : (clean value.toList).length = 12
      · rw [if_pos htwelve]
        exact (hguard _ _).trans ⟨fun h => ⟨fun hten' => absurd hten' hten, fun _ => h⟩,
          fun h => h.2 htwelve⟩
      · rw [if_neg htwelve]
        exact ⟨fun _ => ⟨fun h => absurd h hten, fun h => absurd h htwelve⟩, fun _ => rfl⟩

/-- The ten digits at the start are not deleted. -/
lemma length_clean_of_startsWithTen {cs : List Char} (h : Supplier.StartsWithTen cs) :
    10 ≤ (clean cs).length := by
  have hsplit : clean cs = cs.take 10 ++ clean (cs.drop 10) := by
    nth_rewrite 1 [← List.take_append_drop 10 cs]
    unfold clean
    rw [List.filter_append]
    congr 1
    exact clean_of_decimals h.2
  have hten : (cs.take 10).length = 10 := List.length_take_of_le h.1
  rw [hsplit, List.length_append, hten]
  exact Nat.le_add_right 10 _

lemma clean_eq_of_length {cs : List Char} (h : cs.length ≤ (clean cs).length) : clean cs = cs :=
  List.filter_eq_self.mpr (List.length_filter_eq_length_iff.mp
    (le_antisymm (List.length_filter_le _ _) h))

/-- **What the model accepts beside tax numbers.**  The serializer of the suppliers lets every
text of at most twelve characters through that starts with ten digits.  The admin still lets
those through that have eleven characters without the separators, and those that have a company's
number with separators after it. -/
theorem backDoors_iff (value : String) :
    ((Supplier.SerializerAccepts value → Genuine value) ↔
      (value.length ≤ 12 → Supplier.StartsWithTen value.toList →
        ∃ ds, Writes value.toList ds ∧ InnDigits ds)) ∧
    ((Supplier.AdminAccepts value → Genuine value) ↔
      (value.length ≤ 12 → Supplier.StartsWithTen value.toList →
        (clean value.toList).length ≠ 11 ∧
          ((clean value.toList).length = 10 → value.length = 10 ∨
            ∀ ds, Writes (clean value.toList) ds → ¬ Checks10 ds))) := by
  have hnormal : IsInn value → clean value.toList = value.toList := fun h =>
    -- a genuine number has no separators, and ten or twelve digits
    clean_of_decimals (exists_digits_of_isInn h)
  have hlengths : IsInn value → value.length = 10 ∨ value.length = 12 := by
    rintro (⟨hlength, -⟩ | ⟨hlength, -⟩)
    · exact .inl hlength
    · exact .inr hlength
  unfold Supplier.SerializerAccepts Supplier.AdminAccepts
  rw [genuine_iff, Supplier.validatesTaxNumber_iff, supplierClean_eq_ok_iff, String.length_toList]
  constructor
  · rw [isInn_iff, and_imp]
  · constructor
    · intro h hlength hstarts
      -- what is accepted must be genuine, and eleven characters never are
      refine ⟨fun heleven => ?_, fun hten => ?_⟩
      · have hinn := h ⟨⟨hlength, hstarts⟩,
          fun hten => absurd (heleven.symm.trans hten) (by decide),
          fun htwelve => absurd (heleven.symm.trans htwelve) (by decide)⟩
        rw [hnormal hinn, String.length_toList] at heleven
        rcases hlengths hinn with hten | htwelve
        · omega
        · omega
      · by_contra hmiss
        push Not at hmiss
        obtain ⟨hne, ds, hds, hchecks⟩ := hmiss
        have hinn := h ⟨⟨hlength, hstarts⟩,
          fun _ => (validateInn10_eq_true_iff hten).mpr ⟨ds, hds, hchecks⟩,
          fun htwelve => absurd (hten.symm.trans htwelve) (by decide)⟩
        rw [hnormal hinn, String.length_toList] at hten
        exact hne hten
    · rintro h ⟨⟨hlength, hstarts⟩, hten, htwelve⟩
      obtain ⟨hnoteleven, hshort⟩ := h hlength hstarts
      -- ten or twelve characters are left, and no separator was among them
      have hlower := length_clean_of_startsWithTen hstarts
      have hupper : (clean value.toList).length ≤ value.length :=
        String.length_toList ▸ List.length_filter_le _ _
      have hwhole : ∀ n, (clean value.toList).length = n → value.length = n →
          clean value.toList = value.toList := fun n hclean hvalue =>
        clean_eq_of_length (by rw [String.length_toList, hclean, hvalue])
      by_cases hcompany : (clean value.toList).length = 10
      · obtain ⟨ds, hds, hchecks⟩ := (validateInn10_eq_true_iff hcompany).mp (hten hcompany)
        have hlength10 : value.length = 10 :=
          (hshort hcompany).resolve_right fun h => h ds hds hchecks
        have hvalid := hten hcompany
        rw [hwhole 10 hcompany hlength10] at hvalid
        exact .inl ⟨hlength10, hvalid⟩
      · have hlength12 : value.length = 12 := by omega
        have htrader : (clean value.toList).length = 12 := by omega
        have hvalid := htwelve htrader
        rw [hwhole 12 htrader hlength12] at hvalid
        exact .inr ⟨hlength12, hvalid⟩

/-- Ten digits and a letter, which both the serializer and the admin let through. -/
theorem backDoors_letter :
    ¬ (Supplier.SerializerAccepts "7707083893A" → Genuine "7707083893A") ∧
      ¬ (Supplier.AdminAccepts "7707083893A" → Genuine "7707083893A") := by
  rw [genuine_iff]
  decide

/-! ## Reports -/

/-- What is raised is a validation error. -/
def Reports {α : Type} (r : Except TaxNumberError α) : Prop :=
  ∀ e, r = .error e → e.message.isSome

/-- The characters that the checks look at are decimal. -/
def Convertible (cs : List Char) : Prop :=
  (cs.length = 10 → ∀ c ∈ cs, isDecimal c) ∧
    (cs.length = 12 → ∃ ds, Writes (cs.take 11) ds ∧
      (Checks11 ds → ∀ c ∈ cs.drop 11, isDecimal c))

lemma reports_ok {α : Type} (a : α) : Reports (.ok a : Except TaxNumberError α) :=
  fun _ he => (nomatch he)

lemma reports_error_iff {α : Type} (e : TaxNumberError) :
    Reports (.error e : Except TaxNumberError α) ↔ e.message.isSome :=
  ⟨fun h => h e rfl, fun h _ he => Except.error.inj he ▸ h⟩

/-- A check reports what it raises when it raises nothing. -/
lemma reports_check_iff {α : Type} {r : Except TaxNumberError Bool} (hr : RaisesDigitValue r)
    (a : α) {e : TaxNumberError} (he : e.message.isSome) :
    Reports (do if ← r then return a else .error e) ↔ ∃ b, r = .ok b := by
  rcases r with e' | _ | _
  · refine ⟨fun h => ?_, fun ⟨b, hb⟩ => (nomatch hb)⟩
    have hmessage := h e' rfl
    rw [hr e' rfl] at hmessage
    cases hmessage
  · exact ⟨fun _ => ⟨false, rfl⟩, fun _ => (reports_error_iff e).mpr he⟩
  · exact ⟨fun _ => ⟨true, rfl⟩, fun _ => reports_ok a⟩

lemma validateInn10_eq_ok_iff {cs : List Char} (hlength : cs.length = 10) :
    (∃ b, validateInn10 cs = .ok b) ↔ ∀ c ∈ cs, isDecimal c := by
  by_cases hdecimal : ∀ c ∈ cs, isDecimal c
  · obtain ⟨ds, hds⟩ := exists_writes_iff.mpr hdecimal
    rw [validateInn10_of_writes hds (hds.length_eq.symm.trans hlength)]
    exact ⟨fun _ => hdecimal, fun _ => ⟨_, rfl⟩⟩
  · rw [validateInn10_of_not_decimal hlength hdecimal]
    exact ⟨fun ⟨b, hb⟩ => (nomatch hb), fun h => absurd h hdecimal⟩

/-- The twelfth of twelve characters. -/
lemma digitAt_last_iff {cs : List Char} (hlength : cs.length = 12) :
    (∃ d, digitAt cs 11 = .ok d) ↔ ∀ c ∈ cs.drop 11, isDecimal c := by
  have hlast : cs.drop 11 = [cs[11]] := by
    rw [List.drop_eq_getElem_cons (by omega), List.drop_of_length_le (by omega)]
  simp only [digitAt_eq_ok_iff, hlast, List.mem_singleton, forall_eq,
    List.getElem?_eq_getElem (show 11 < cs.length by omega), Option.some_inj, exists_eq_left']
  exact Option.isSome_iff_exists.symm

/-- The two checks, of ten and of twelve characters, report what they raise. -/
lemma reports_checks_iff {α : Type} {cs : List Char} (a : α) {rest : Except TaxNumberError α}
    (hrest : Reports rest) :
    Reports (if cs.length = 10 then
        (do if ← validateInn10 cs then return a else .error .wrongChecksum10)
      else if cs.length = 12 then
        (do if ← validateInn12 cs then return a else .error .wrongChecksum12)
      else rest) ↔ Convertible cs := by
  unfold Convertible
  by_cases hten : cs.length = 10
  · rw [if_pos hten, reports_check_iff (raisesDigitValue_validateInn10 cs) a rfl,
      validateInn10_eq_ok_iff hten]
    exact ⟨fun h => ⟨fun _ => h, fun htwelve => absurd (hten.symm.trans htwelve) (by decide)⟩,
      fun h => h.1 hten⟩
  · rw [if_neg hten]
    by_cases htwelve : cs.length = 12
    · rw [if_pos htwelve, reports_check_iff (raisesDigitValue_validateInn12 cs) a rfl,
        validateInn12_eq_ok_iff htwelve]
      simp only [digitAt_last_iff htwelve]
      exact ⟨fun h => ⟨fun hten' => absurd hten' hten, fun _ => h⟩, fun h => h.2 htwelve⟩
    · rw [if_neg htwelve]
      exact ⟨fun _ => ⟨fun h => absurd h hten, fun h => absurd h htwelve⟩, fun _ => hrest⟩

lemma reports_supplierClean_iff (value : String) :
    Reports (Supplier.clean value) ↔ Convertible (clean value.toList) := by
  unfold Supplier.clean
  by_cases hempty : value = ""
  · rw [if_pos hempty, hempty]
    exact ⟨fun _ => ⟨fun h => (nomatch h), fun h => (nomatch h)⟩, fun _ => reports_ok ()⟩
  · rw [if_neg hempty]
    exact reports_checks_iff () (reports_ok ())

/-- The validation has made sure that the characters are digits, but not that `int` takes
them. -/
lemma reports_validateTaxNumber_iff (value : String) :
    Reports (validateTaxNumber value) ↔
      (∃ c ∈ clean value.toList, isDigit c = false) ∨ Convertible (clean value.toList) := by
  unfold validateTaxNumber
  by_cases hempty : value = ""
  · rw [if_pos hempty, hempty]
    exact ⟨fun _ => .inr ⟨fun h => (nomatch h), fun h => (nomatch h)⟩, fun _ => reports_ok ""⟩
  · rw [if_neg hempty]
    -- `isdigit` of Python takes digits that `int` does not
    by_cases hdigits : (clean value.toList).isEmpty || !(clean value.toList).all isDigit
    · rw [if_pos hdigits, reports_error_iff]
      refine ⟨fun _ => ?_, fun _ => rfl⟩
      rcases (Bool.or_eq_true _ _).mp hdigits with hnone | hother
      · rw [List.isEmpty_iff.mp hnone]
        exact .inr ⟨fun h => (nomatch h), fun h => (nomatch h)⟩
      · rw [Bool.not_eq_true', List.all_eq_false] at hother
        obtain ⟨c, hc, hdigit⟩ := hother
        exact .inl ⟨c, hc, Bool.eq_false_of_not_eq_true hdigit⟩
    · rw [if_neg hdigits, reports_checks_iff _ ((reports_error_iff _).mpr rfl)]
      refine (or_iff_right ?_).symm
      rintro ⟨c, hc, hdigit⟩
      refine hdigits ((Bool.or_eq_true _ _).mpr (.inr ?_))
      rw [Bool.not_eq_true', List.all_eq_false]
      exact ⟨c, hc, (Bool.not_eq_true _).mpr hdigit⟩

/-- **Which bad data is not reported.**  The validation of a registration raises nothing but
validation errors when it does not come to the email, or when there is one and, for a supplier
with a new email, the digits of the tax number are decimal as far as the checks look at them.
`Supplier.clean` raises nothing else when the characters are. -/
theorem reportsBadData_iff (db : AccountsDb) (body : RegisterBody) (value : String) :
    ((∃ r, UserRegistrationSerializer.validate db body = .ok r) ↔
      (∃ r ∈ db.users.rows, r.2.username = body.username) ∨
        body.password ≠ body.passwordConfirm ∨
        ∃ email, body.email = some email ∧ ((∃ r ∈ db.users.rows, r.2.email = email) ∨
          body.userType ≠ some .supplier ∨ ∀ taxNumber, body.taxNumber = some taxNumber →
            (∃ c ∈ clean taxNumber.toList, isDigit c = false) ∨
              Convertible (clean taxNumber.toList))) ∧
    (Reports (Supplier.clean value) ↔ Convertible (clean value.toList)) := by
  refine ⟨?_, reports_supplierClean_iff value⟩
  have hany : ∀ (p : ℕ × User → Prop) [DecidablePred p],
      (db.users.rows.any fun r => decide (p r)) ↔ ∃ r ∈ db.users.rows, p r := by
    intro p _
    rw [List.any_eq_true]
    simp only [decide_eq_true_iff]
  unfold UserRegistrationSerializer.validate
  -- the checks in their order: username, passwords, email, tax number
  by_cases hname : db.users.rows.any fun r => decide (r.2.username = body.username)
  · rw [if_pos hname]
    exact ⟨fun _ => .inl ((hany _).mp hname), fun _ => ⟨_, rfl⟩⟩
  rw [if_neg hname, ← hany, or_iff_right hname]
  by_cases hpassword : body.password ≠ body.passwordConfirm
  · rw [if_pos hpassword]
    exact ⟨fun _ => .inl hpassword, fun _ => ⟨_, rfl⟩⟩
  rw [if_neg hpassword, or_iff_right hpassword]
  rcases hemail : body.email with _ | email
  · exact ⟨fun ⟨r, hr⟩ => (nomatch hr), fun ⟨email, hemail, _⟩ => (nomatch hemail)⟩
  simp only [Option.some_inj, exists_eq_left']
  by_cases htaken : db.users.rows.any fun r => decide (r.2.email = email)
  · rw [if_pos htaken]
    exact ⟨fun _ => .inl ((hany _).mp htaken), fun _ => ⟨_, rfl⟩⟩
  rw [if_neg htaken, ← hany, or_iff_right htaken]
  by_cases hsupplier : body.userType = some .supplier
  · rw [if_pos hsupplier, or_iff_right (not_not.mpr hsupplier)]
    rcases htax : body.taxNumber with _ | taxNumber
    · exact ⟨fun _ taxNumber h => (nomatch h), fun _ => ⟨_, rfl⟩⟩
    · simp only [Option.some_inj, forall_eq']
      -- only the check of the tax number may raise something else
      rw [← reports_validateTaxNumber_iff]
      split
      · next heq => cases heq
      · next heq =>
        rw [Option.some.inj heq]
        exact ⟨fun _ => reports_ok "", fun _ => ⟨_, rfl⟩⟩
      · next taxNumber' hne heq =>
        obtain rfl := Option.some.inj heq
        rcases validateTaxNumber taxNumber with e | cleaned
        · rw [reports_error_iff]
          rcases hmessage : e.message with _ | message
          · simp only [hmessage]
            exact ⟨fun ⟨r, hr⟩ => (nomatch hr), fun h => (nomatch h)⟩
          · simp only [hmessage]
            exact ⟨fun _ => rfl, fun _ => ⟨_, rfl⟩⟩
        · exact ⟨fun _ => reports_ok cleaned, fun _ => ⟨_, rfl⟩⟩
  · rw [if_neg hsupplier]
    exact ⟨fun _ => .inl hsupplier, fun _ => ⟨_, rfl⟩⟩

/-- A client without an email, and a number with two letters in the admin. -/
theorem reportsBadData_crash :
    (¬ ∃ r, UserRegistrationSerializer.validate AccountsDb.empty
        { username := "client1", email := none, password := "correct horse",
          passwordConfirm := "correct horse", firstName := none, lastName := none,
          userType := none, phone := none, companyName := none, address := none,
          taxNumber := none } = .ok r) ∧
      ¬ Reports (Supplier.clean "1234567890AB") := by
  constructor
  · rintro ⟨r, hr⟩
    cases hr
  · intro h
    exact absurd (h .digitValue (by decide)) (by decide)

end TaxNumber

end OrdersBackend
