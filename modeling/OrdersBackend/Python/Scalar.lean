import OrdersBackend.Python.Value

/-!
# Scalars and their texts

A scalar of JSON or YAML is a truth value, a number or a text.  A cell of a CSV file holds its
text, and the program converts one like the other.  What it does with the text of a scalar is
what it does with the scalar, with two exceptions: a zero is false and its text is true, and
`int` converts a truth value and a fraction and refuses their texts.
-/

namespace OrdersBackend

open Python

/-! ## Texts of numbers -/

namespace Python

lemma decimalDigit?_of_isDigit {c : Char} (h : c.isDigit) :
    decimalDigit? c = some (c.toNat - '0'.toNat) := by
  have hbounds : 48 ≤ c.toNat ∧ c.toNat ≤ 57 := by
    simpa [Char.isDigit, UInt32.le_iff_toNat_le] using h
  have hfirst : (decide (0x30 ≤ c.toNat) && decide (c.toNat ≤ 0x30 + 9)) = true := by
    simp only [Bool.and_eq_true, decide_eq_true_eq]
    omega
  have hfind : digitZeros.find? (fun z => z ≤ c.toNat && c.toNat ≤ z + 9) = some 0x30 := by
    rw [show digitZeros = 0x30 :: digitZeros.tail from rfl]
    exact List.find?_cons_of_pos hfirst
  unfold decimalDigit?
  rw [hfind]
  rfl

/-- A run of ASCII digits is the number it writes. -/
lemma digitsValue?_of_isDigit {cs : List Char} (h : ∀ c ∈ cs, c.isDigit) :
    digitsValue? cs = some (Nat.ofDigitChars 10 cs 0) := by
  have hfold : ∀ n : ℕ, cs.foldl (fun acc c => do return 10 * (← acc) + (← decimalDigit? c))
      (some n) = some (Nat.ofDigitChars 10 cs n) := by
    induction cs with
    | nil => exact fun n => rfl
    | cons c cs ih =>
        intro n
        have hc := decimalDigit?_of_isDigit (h c List.mem_cons_self)
        have htail := ih fun c' hc' => h c' (List.mem_cons_of_mem c hc')
        rw [List.foldl_cons, hc, Nat.ofDigitChars_cons]
        exact htail _
  exact hfold 0

/-- A character that is no digit spoils a number. -/
lemma digitsValue?_eq_none {cs : List Char} {c : Char} (hc : c ∈ cs)
    (hdigit : decimalDigit? c = none) : digitsValue? cs = none := by
  have hnone : ∀ cs : List Char, cs.foldl (fun acc c => do return 10 * (← acc) +
      (← decimalDigit? c)) (none : Option ℕ) = none := by
    intro cs
    induction cs with
    | nil => rfl
    | cons c cs ih => exact ih
  have hfold : ∀ acc : Option ℕ, cs.foldl (fun acc c => do return 10 * (← acc) +
      (← decimalDigit? c)) acc = none := by
    induction cs with
    | nil => cases hc
    | cons c' cs ih =>
        intro acc
        rcases List.mem_cons.mp hc with rfl | hc
        · rw [List.foldl_cons, hdigit]
          cases acc <;> exact hnone cs
        · exact ih hc _
  exact hfold (some 0)

lemma mem_flatten_splitOn {cs : List Char} {c sep : Char} (hc : c ∈ cs) (hsep : c ≠ sep) :
    c ∈ (cs.splitOn sep).flatten := by
  induction cs with
  | nil => cases hc
  | cons c' cs ih =>
      rw [List.splitOn_cons_eq_if_modifyHead]
      rcases List.mem_cons.mp hc with rfl | hc
      · rw [if_neg (by simpa using hsep)]
        obtain ⟨head, tail, hsplit⟩ := List.exists_cons_of_ne_nil (List.splitOn_ne_nil sep cs)
        rw [hsplit]
        simp
      · split
        · simpa using ih hc
        · obtain ⟨head, tail, hsplit⟩ := List.exists_cons_of_ne_nil (List.splitOn_ne_nil sep cs)
          have hold := ih hc
          rw [hsplit] at hold ⊢
          simp only [List.modifyHead_cons, List.flatten_cons, List.mem_append, List.mem_cons]
            at hold ⊢
          tauto

lemma mem_of_mem_splitOn {cs part : List Char} {c sep : Char} (hpart : part ∈ cs.splitOn sep)
    (hc : c ∈ part) : c ∈ cs := by
  induction cs generalizing part with
  | nil =>
      rw [List.splitOn_nil, List.mem_singleton] at hpart
      rw [hpart] at hc
      exact hc
  | cons c' cs ih =>
      obtain ⟨head, tail, hsplit⟩ := List.exists_cons_of_ne_nil (List.splitOn_ne_nil sep cs)
      rw [List.splitOn_cons_eq_if_modifyHead, hsplit] at hpart
      rw [hsplit] at ih
      split at hpart
      · rcases List.mem_cons.mp hpart with rfl | hpart
        · cases hc
        · exact List.mem_cons_of_mem _ (ih hpart hc)
      · rcases List.mem_cons.mp hpart with rfl | hpart
        · rcases List.mem_cons.mp hc with rfl | hc
          · exact List.mem_cons_self
          · exact List.mem_cons_of_mem _ (ih List.mem_cons_self hc)
        · exact List.mem_cons_of_mem _ (ih (List.mem_cons_of_mem _ hpart) hc)

lemma mem_dropWhile {cs : List Char} {c : Char} {p : Char → Bool} (hc : c ∈ cs)
    (hp : p c = false) : c ∈ cs.dropWhile p := by
  induction cs with
  | nil => cases hc
  | cons c' cs ih =>
      rw [List.dropWhile_cons]
      split
      next hdrop =>
        rcases List.mem_cons.mp hc with rfl | hc
        · rw [hp] at hdrop
          cases hdrop
        · exact ih hc
      next => exact hc

/-- A letter in a text that may stand nowhere in a number. -/
def isForeign (c : Char) : Bool :=
  !isIntSpace c && c != '-' && c != '+' && c != '_' && (decimalDigit? c).isNone

lemma intOfText_of_isForeign {s : String} {c : Char} (hc : c ∈ s.toList) (h : isForeign c) :
    intOfText s = .error .valueError := by
  simp only [isForeign, Bool.and_eq_true, Bool.not_eq_true', bne_iff_ne, ne_eq,
    Option.isNone_iff_eq_none] at h
  obtain ⟨⟨⟨⟨hspace, hminus⟩, hplus⟩, hgroup⟩, hdigit⟩ := h
  have hstripped : c ∈ ((s.toList.dropWhile isIntSpace).reverse.dropWhile isIntSpace).reverse := by
    rw [List.mem_reverse]
    exact mem_dropWhile (List.mem_reverse.mpr (mem_dropWhile hc hspace)) hspace
  have hbody : ∀ cs : List Char, c ∈ cs → c ∈ (splitSign cs).2 := by
    intro cs hmem
    unfold splitSign
    split
    · exact (List.mem_cons.mp hmem).resolve_left hminus
    · exact (List.mem_cons.mp hmem).resolve_left hplus
    · exact hmem
  have hflatten := mem_flatten_splitOn (hbody _ hstripped) hgroup
  unfold intOfText
  simp only [digitsValue?_eq_none hflatten hdigit, ite_self]

lemma isIntSpace_of_isDigit {c : Char} (h : c.isDigit) : isIntSpace c = false := by
  have hbounds : 48 ≤ c.toNat ∧ c.toNat ≤ 57 := by
    simpa [Char.isDigit, UInt32.le_iff_toNat_le] using h
  unfold isIntSpace isSpace
  simp only [Bool.and_eq_false_iff, Bool.or_eq_false_iff, beq_eq_false_iff_ne,
    decide_eq_false_iff_not, Bool.not_eq_false']
  omega

/-- A text of digits after a sign has no blanks to strip. -/
lemma strip_digits {sign ds : List Char} (hsign : ∀ c ∈ sign, isIntSpace c = false)
    (hds : ∀ c ∈ ds, c.isDigit) :
    (((sign ++ ds).dropWhile isIntSpace).reverse.dropWhile isIntSpace).reverse = sign ++ ds := by
  have hkeep : ∀ cs : List Char, (∀ c ∈ cs, isIntSpace c = false) →
      cs.dropWhile isIntSpace = cs := by
    intro cs hcs
    rcases cs with _ | ⟨c, cs⟩
    · rfl
    · exact List.dropWhile_cons_of_neg (by simp [hcs c List.mem_cons_self])
  have hall : ∀ c ∈ sign ++ ds, isIntSpace c = false := by
    intro c hc
    rcases List.mem_append.mp hc with hc | hc
    · exact hsign c hc
    · exact isIntSpace_of_isDigit (hds c hc)
  rw [hkeep _ hall, hkeep _ fun c hc => hall c (List.mem_reverse.mp hc), List.reverse_reverse]

/-- Digits are no sign. -/
lemma splitSign_digits {ds : List Char} (h : ∀ c ∈ ds, c.isDigit) : splitSign ds = (false, ds) := by
  unfold splitSign
  split
  · have hminus := h '-' List.mem_cons_self
    simp at hminus
  · have hplus := h '+' List.mem_cons_self
    simp at hplus
  · rfl

/-- The letters of a printed number. -/
lemma toList_toString (n : ℤ) :
    (toString n).toList = (if n < 0 then ['-'] else []) ++ Nat.toDigits 10 n.natAbs := by
  rw [Int.toString_eq_repr, Int.repr_eq_if]
  by_cases hneg : n < 0
  · have hnat : (-n).toNat = n.natAbs := by omega
    rw [if_neg (by omega), if_pos hneg, String.toList_append, hnat, Nat.toList_repr]
    rfl
  · have hnat : n.toNat = n.natAbs := by omega
    rw [if_pos (by omega), if_neg hneg, hnat, Nat.toList_repr]
    rfl

lemma colon_notMem_toDigits (n : ℕ) : ':' ∉ Nat.toDigits 10 n := by
  intro h
  have hcolon := Nat.isDigit_of_mem_toDigits (by decide) (by decide) h
  simp at hcolon

lemma colon_notMem_toString (n : ℤ) : ':' ∉ (toString n).toList := by
  rw [toList_toString, List.mem_append, not_or]
  refine ⟨?_, colon_notMem_toDigits n.natAbs⟩
  split <;> decide

/-- `int(str(n))` is `n`; Python prints numbers of up to 4300 digits. -/
theorem intOfText_toString {n : ℤ} (h : (Nat.toDigits 10 n.natAbs).length ≤ 4300) :
    intOfText (toString n) = .ok n := by
  set ds := Nat.toDigits 10 n.natAbs with hds
  have hdigits : ∀ c ∈ ds, c.isDigit := fun c hc =>
    Nat.isDigit_of_mem_toDigits (by decide) (by decide) hc
  -- the digits of `str` have no underscores and are few enough to be read
  have hvalue : digitsValue? ds = some n.natAbs := by
    rw [digitsValue?_of_isDigit hdigits, hds, Nat.ofDigitChars_ten_toDigits]
  have hsplit : ds.splitOn '_' = [ds] := List.splitOn_eq_singleton Nat.underscore_not_in_toDigits
  have hgroups : ([ds].any List.isEmpty || decide (4300 < ds.length)) = false := by
    rw [Bool.or_eq_false_iff, decide_eq_false_iff_not]
    exact ⟨by simp [hds], by omega⟩
  -- the sign is split off before the digits
  have hsign : ∀ c ∈ (if n < 0 then ['-'] else []), isIntSpace c = false := by
    intro c hc
    split at hc
    · rw [List.mem_singleton.mp hc]
      decide
    · cases hc
  have hsplitSign : splitSign ((if n < 0 then ['-'] else []) ++ ds) = (decide (n < 0), ds) := by
    by_cases hneg : n < 0
    · rw [if_pos hneg, decide_eq_true hneg]
      rfl
    · rw [if_neg hneg, decide_eq_false hneg]
      exact splitSign_digits hdigits
  have habs : (if decide (n < 0) = true then -(n.natAbs : ℤ) else n.natAbs) = n := by
    simp only [decide_eq_true_eq]
    split <;> omega
  unfold intOfText
  rw [toList_toString, strip_digits hsign hdigits]
  simp only [hsplitSign, hsplit, hgroups, Bool.false_eq_true, if_false, List.flatten_singleton,
    hvalue]
  exact congrArg Except.ok habs

end Python

/-! ## Texts of floats -/

namespace PyFloat

lemma mem_withPoint {ds : List Char} {point : ℤ} {c : Char} (h : c ∈ withPoint ds point) :
    c ∈ ds ∨ c = '0' ∨ c = '.' := by
  unfold withPoint at h
  split at h
  · simp only [List.mem_append, List.mem_cons, List.not_mem_nil, or_false,
      List.mem_replicate] at h
    tauto
  · split at h
    · simp only [List.mem_append, List.mem_cons, List.not_mem_nil, or_false,
        List.mem_replicate] at h
      tauto
    · rcases List.mem_append.mp h with h | h
      · exact .inl (List.mem_of_mem_take h)
      · rcases List.mem_cons.mp h with h | h
        · exact .inr (.inr h)
        · exact .inl (List.mem_of_mem_drop h)

lemma mem_withExponent {ds : List Char} {point : ℤ} {c : Char} (h : c ∈ withExponent ds point) :
    c ∈ ds ∨ c ∈ ['0', '.', 'e', '-', '+'] ∨ c ∈ Nat.toDigits 10 (point - 1).natAbs := by
  unfold withExponent at h
  dsimp only at h
  rcases List.mem_append.mp h with h | h
  · rcases List.mem_append.mp h with h | h
    · exact .inl (List.mem_of_mem_take h)
    · split at h
      · cases h
      · rcases List.mem_cons.mp h with h | h
        · simp [h]
        · exact .inl (List.mem_of_mem_drop h)
  · simp only [List.mem_cons] at h
    rcases h with h | h | h
    · simp [h]
    · split at h <;> simp [h]
    · split at h
      · rcases List.mem_cons.mp h with h | h
        · simp [h]
        · exact .inr (.inr h)
      · exact .inr (.inr h)

lemma dot_mem_withPoint (ds : List Char) (point : ℤ) : '.' ∈ withPoint ds point := by
  unfold withPoint
  split
  · simp
  · split <;> simp

lemma e_mem_withExponent (ds : List Char) (point : ℤ) : 'e' ∈ withExponent ds point := by
  simp [withExponent]

/-- A finite float is printed in one of the two notations, after its sign. -/
lemma toList_str_finite (neg : Bool) (digits : ℕ) (exp : ℤ) :
    ∃ point, (finite neg digits exp).str.toList =
        (if neg then ['-'] else []) ++ withPoint (Nat.toDigits 10 digits) point ∨
      (finite neg digits exp).str.toList =
        (if neg then ['-'] else []) ++ withExponent (Nat.toDigits 10 digits) point := by
  set point := if digits = 0 then 1 else ((Nat.toDigits 10 digits).length : ℤ) + exp with hpoint
  have hsign : ∀ body : List Char, (String.ofList (if neg then '-' :: body else body)).toList =
      (if neg then ['-'] else []) ++ body := by
    intro body
    rw [String.toList_ofList]
    cases neg <;> rfl
  refine ⟨point, ?_⟩
  unfold str
  simp only [← hpoint, hsign]
  by_cases hrange : -4 < point ∧ point ≤ 16
  · exact .inl (by rw [if_pos hrange])
  · exact .inr (by rw [if_neg hrange])

/-- The text of a float has a letter that may stand nowhere in a whole number. -/
lemma exists_isForeign (x : PyFloat) : ∃ c ∈ x.str.toList, isForeign c := by
  rcases x with ⟨neg, digits, exp⟩ | neg | _
  · obtain ⟨point, h | h⟩ := toList_str_finite neg digits exp
    · refine ⟨'.', ?_, by decide +kernel⟩
      rw [h]
      exact List.mem_append_right _ (dot_mem_withPoint _ point)
    · refine ⟨'e', ?_, by decide +kernel⟩
      rw [h]
      exact List.mem_append_right _ (e_mem_withExponent _ point)
  · refine ⟨'i', ?_, by decide +kernel⟩
    cases neg <;> decide
  · exact ⟨'n', by decide, by decide +kernel⟩

/-- The text of a float has no colon. -/
lemma colon_notMem_str (x : PyFloat) : ':' ∉ x.str.toList := by
  rcases x with ⟨neg, digits, exp⟩ | neg | _
  · have hsign : ':' ∉ (if neg then ['-'] else []) := by cases neg <;> decide
    obtain ⟨point, h | h⟩ := toList_str_finite neg digits exp
    · rw [h, List.mem_append, not_or]
      refine ⟨hsign, fun hcolon => ?_⟩
      rcases mem_withPoint hcolon with hcolon | hcolon | hcolon
      · exact colon_notMem_toDigits _ hcolon
      · exact absurd hcolon (by decide)
      · exact absurd hcolon (by decide)
    · rw [h, List.mem_append, not_or]
      refine ⟨hsign, fun hcolon => ?_⟩
      rcases mem_withExponent hcolon with hcolon | hcolon | hcolon
      · exact colon_notMem_toDigits _ hcolon
      · exact absurd hcolon (by decide)
      · exact colon_notMem_toDigits _ hcolon
  · cases neg <;> decide
  · decide

end PyFloat

/-! ## Scalars -/

/-- A value of a record that is neither null nor a container.  Python prints whole numbers of
up to 4300 digits. -/
inductive Scalar
  | bool (b : Bool)
  | int (n : ℤ) (printable : (Nat.toDigits 10 n.natAbs).length ≤ 4300)
  | float (x : PyFloat)
  | str (s : String)

namespace Scalar

/-- The scalar as JSON and YAML give it. -/
def native : Scalar → PyValue
  | bool b => .bool b
  | int n _ => .int n
  | float x => .float x
  | str s => .str s

/-- `str` of the scalar. -/
def text : Scalar → String
  | bool b => if b then "True" else "False"
  | int n _ => toString n
  | float x => x.str
  | str s => s

/-- The cell of a CSV file. -/
def cell (v : Scalar) : PyValue := .str v.text

/-- A number or a truth value that is false, though its text is not. -/
def IsZero : Scalar → Prop
  | bool b => b = false
  | int n _ => n = 0
  | float (.finite _ digits _) => digits = 0
  | float (.infinity _) | float .nan | str _ => False

/-- `int` converts the scalar, and refuses its text. -/
def OnlyNative : Scalar → Prop
  | bool _ | float (.finite _ _ _) => True
  | int _ _ | float (.infinity _) | float .nan | str _ => False

/-- A whole number or a text. -/
def IsWhole : Scalar → Prop
  | int _ _ | str _ => True
  | bool _ | float _ => False

variable {v : Scalar}

lemma toStr_native (v : Scalar) : v.native.toStr = .ok (.plain v.text) := by
  rcases v with b | ⟨n, hn⟩ | x | s
  · rfl
  · have hprinted : strOfInt n = .ok (toString n) := if_pos hn
    rw [native, PyValue.toStr, hprinted, text, Except.map]
  · rfl
  · rfl

lemma toDecimal_native (v : Scalar) : v.native.toDecimal = PyDecimal.ofText v.text := by
  rw [PyValue.toDecimal, toStr_native]
  simp only [bind, Except.bind, PyDecimal.ofPyText]

lemma toDecimal_cell (v : Scalar) : v.cell.toDecimal = v.native.toDecimal := by
  have htext : v.cell.toDecimal = PyDecimal.ofText v.text := (str v.text).toDecimal_native
  rw [htext, toDecimal_native]

lemma isZero_or_truthy (v : Scalar) : v.cell.truthy = true ↔ v.native.truthy = true ∨ v.IsZero := by
  rcases v with b | ⟨n, hn⟩ | x | s
  · cases b <;> simp [cell, native, PyValue.truthy, text, IsZero]
  · -- the text of a number is never empty
    have hne : toString n ≠ "" := by
      intro hempty
      have hletters := congrArg String.toList hempty
      rw [toList_toString] at hletters
      exact Nat.toDigits_ne_nil (List.append_eq_nil_iff.mp hletters).2
    simp only [cell, native, PyValue.truthy, text, IsZero, bne_iff_ne, ne_eq, hne,
      not_false_eq_true, true_iff]
    tauto
  · have hne : x.str ≠ "" := by
      intro hempty
      obtain ⟨c, hc, -⟩ := x.exists_isForeign
      rw [hempty] at hc
      cases hc
    rcases x with ⟨neg, digits, exp⟩ | neg | _
    · simp only [cell, native, PyValue.truthy, text, IsZero, bne_iff_ne, ne_eq, hne,
        not_false_eq_true, true_iff, PyFloat.truthy]
      tauto
    · simpa [cell, native, PyValue.truthy, text, PyFloat.truthy] using hne
    · simpa [cell, native, PyValue.truthy, text, PyFloat.truthy] using hne
  · simp [cell, native, PyValue.truthy, text, IsZero]

lemma truthy_of_isZero (h : v.IsZero) : v.native.truthy = false := by
  rcases v with b | ⟨n, hn⟩ | x | s
  · exact h
  · have hzero : n = 0 := h
    simp [native, PyValue.truthy, hzero]
  · rcases x with ⟨neg, digits, exp⟩ | neg | _
    · have hzero : digits = 0 := h
      simp [native, PyValue.truthy, PyFloat.truthy, hzero]
    · cases h
    · cases h
  · cases h

/-- `int` refuses the text of a truth value and of a float. -/
lemma toInt_of_onlyNative (h : v.OnlyNative) :
    v.cell.toInt = .error .valueError ∧ ∃ n, v.native.toInt = .ok n := by
  rcases v with b | ⟨n, hn⟩ | x | s
  · refine ⟨?_, _, rfl⟩
    cases b <;> decide +kernel
  · cases h
  · obtain ⟨c, hc, hforeign⟩ := x.exists_isForeign
    refine ⟨intOfText_of_isForeign hc hforeign, ?_⟩
    rcases x with ⟨neg, digits, exp⟩ | neg | _
    · exact ⟨_, rfl⟩
    · cases h
    · cases h
  · cases h

/-- Of every other scalar and its text `int` makes the same number, or it refuses both. -/
lemma toInt_of_not_onlyNative (h : ¬ v.OnlyNative) :
    v.cell.toInt.toOption = v.native.toInt.toOption := by
  rcases v with b | ⟨n, hn⟩ | x | s
  · exact absurd trivial h
  · have htext : cell (.int n hn) = .str (toString n) := rfl
    rw [htext, PyValue.toInt, intOfText_toString hn]
    rfl
  · obtain ⟨c, hc, hforeign⟩ := x.exists_isForeign
    have hcell : cell (.float x) = .str x.str := rfl
    rw [hcell, PyValue.toInt, intOfText_of_isForeign hc hforeign]
    rcases x with ⟨neg, digits, exp⟩ | neg | _
    · exact absurd trivial h
    · rfl
    · rfl
  · rfl

lemma not_onlyNative_of_isWhole (h : v.IsWhole) : ¬ v.OnlyNative := by
  rcases v with b | ⟨n, hn⟩ | x | s
  · cases h
  · exact id
  · cases h
  · exact id

lemma toInt_of_isWhole (h : v.IsWhole) : v.cell.toInt = v.native.toInt := by
  rcases v with b | ⟨n, hn⟩ | x | s
  · cases h
  · exact intOfText_toString hn
  · cases h
  · rfl

end Scalar

end OrdersBackend
