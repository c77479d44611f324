import OrdersBackend.Accounts.CheckDigits
import OrdersBackend.Framework.Regex

/-!
# The tax number in the supplier model

The checks that the model has of its own: the validators of the field `tax_number`, which the
serializer of the suppliers inherits, and `Supplier.clean`, which the admin runs besides them.

The pattern of the field is `^\d{10}|\d{12}$`.  The alternation binds weaker than the anchors,
so that a search finds ten digits at the start of the text, whatever follows, or twelve at its
end, whatever comes before.  `Supplier.clean` drops blanks and hyphens and looks at the check
digits of ten or twelve characters; of another number of characters it says nothing, and what
the characters are it does not ask.
-/

namespace OrdersBackend

open Framework Python TaxNumber

namespace Supplier

/-- `^\d{10}|\d{12}$`. -/
def taxNumberPattern : Regex Char :=
  .alt (.seq .start ((Regex.one isDecimal).times 10))
    (.seq ((Regex.one isDecimal).times 12) (.finish (· == '\n')))

/-- `max_length` of the field. -/
def taxNumberLength : ℕ := 12

/-- The validators of the field: its length and its pattern. -/
def validatesTaxNumber (value : String) : Bool :=
  value.length ≤ taxNumberLength && taxNumberPattern.search value.toList

/-- `clean`. -/
def clean (taxNumber : String) : Except TaxNumberError Unit :=
  if taxNumber = "" then .ok ()
  else
    let cleaned := TaxNumber.clean taxNumber.toList
    if cleaned.length = 10 then do
      if ← validateInn10 cleaned then return () else .error .wrongChecksum10
    else if cleaned.length = 12 then do
      if ← validateInn12 cleaned then return () else .error .wrongChecksum12
    else .ok ()

/-- `SupplierSerializer` takes the tax number. -/
def SerializerAccepts (value : String) : Prop := validatesTaxNumber value

/-- The admin takes the tax number. -/
def AdminAccepts (value : String) : Prop := validatesTaxNumber value ∧ clean value = .ok ()

instance (value : String) : Decidable (SerializerAccepts value) :=
  inferInstanceAs (Decidable (_ = true))

instance (value : String) : Decidable (AdminAccepts value) :=
  inferInstanceAs (Decidable (_ ∧ _))

/-! ## The pattern -/

/-- The text starts with ten decimal digits. -/
def StartsWithTen (cs : List Char) : Prop := 10 ≤ cs.length ∧ ∀ c ∈ cs.take 10, isDecimal c

/-- What the pattern finds. -/
lemma search_taxNumberPattern_iff (cs : List Char) :
    taxNumberPattern.search cs ↔ StartsWithTen cs ∨
      ∃ before after, cs = before ++ after ∧ 12 ≤ after.length ∧
        (∀ c ∈ after.take 12, isDecimal c) ∧ (after.drop 12 = [] ∨ after.drop 12 = ['\n']) := by
  unfold taxNumberPattern StartsWithTen
  simp only [Regex.search_iff, Regex.mem_ends_alt, Regex.mem_ends_seq, Regex.mem_ends_start,
    Regex.mem_ends_times_one, Regex.mem_ends_finish]
  constructor
  · rintro ⟨before, after, rfl, e, ⟨m, ⟨hstart, rfl⟩, hlength, hdigits, -⟩ |
      ⟨m, ⟨hlength, hdigits, rfl⟩, hfinish, -⟩⟩
    · rw [List.isEmpty_iff] at hstart
      rw [hstart, List.nil_append]
      exact .inl ⟨hlength, hdigits⟩
    · refine .inr ⟨before, after, rfl, hlength, hdigits, ?_⟩
      rcases hfinish with hempty | ⟨c, hc, hnewline⟩
      · exact .inl hempty
      · have hrest : after.drop 12 = [c] := hc
        exact .inr (by rw [hrest, beq_iff_eq.mp hnewline])
  · rintro (⟨hlength, hdigits⟩ | ⟨before, after, rfl, hlength, hdigits, hfinish⟩)
    · exact ⟨[], cs, rfl, _, .inl ⟨_, ⟨rfl, rfl⟩, hlength, hdigits, rfl⟩⟩
    · refine ⟨before, after, rfl, _, .inr ⟨_, ⟨hlength, hdigits, rfl⟩, ?_, rfl⟩⟩
      rcases hfinish with hempty | hnewline
      · exact .inl hempty
      · exact .inr ⟨'\n', hnewline, rfl⟩

/-- A text of the length of the field passes when it starts with ten digits. -/
lemma validatesTaxNumber_iff (value : String) :
    validatesTaxNumber value ↔ value.toList.length ≤ 12 ∧ StartsWithTen value.toList := by
  unfold validatesTaxNumber taxNumberLength
  rw [Bool.and_eq_true, decide_eq_true_iff, search_taxNumberPattern_iff, ← String.length_toList]
  refine and_congr_right fun hlength => or_iff_left_of_imp ?_
  rintro ⟨before, after, hsplit, htwelve, hdigits, -⟩
  have hbefore : before = [] := by
    rw [hsplit, List.length_append] at hlength
    exact List.length_eq_zero_iff.mp (by omega)
  rw [hbefore, List.nil_append] at hsplit
  rw [hsplit]
  refine ⟨by omega, fun c hc => hdigits c (List.take_subset_take_left after (by decide) hc)⟩

end Supplier

end OrdersBackend
