import OrdersBackend.Python.Text
import Mathlib.Algebra.Order.Ring.Nat
import Mathlib.Algebra.Order.Group.Int
import Mathlib.Tactic.Linarith

/-!
# `decimal.Decimal` and the decimal columns

`PyDecimal` is a value of Python's `decimal` module: a sign, a coefficient and an exponent,
an infinity, or a NaN.  `PyDecimal.ofText` is the constructor on a text, which raises
`InvalidOperation` on a text that is not a number, and `ltZero` and `leZero` are the two
ordering comparisons the program makes, which raise it on a NaN.

`DecimalField n` is a value of a column `DecimalField(max_digits=n, decimal_places=2)`,
counted in hundredths.  A value that does not fit the column cannot be built; saving one
(`PyDecimal.toColumn`, `DecimalField.ofCents`) raises instead.

What a decimal column does with a value of too many digits is the matter of Django and of the
database behind it.  A `DecimalColumn` says what it makes of a decimal that is saved and of a
cell that is read, and the program is modelled over any such column.  `DecimalColumn.strict`
refuses the value when it is saved, `DecimalColumn.late` when the row is read, as SQLite does.
-/

namespace OrdersBackend

/-! ## Python's decimals -/

inductive PyDecimal
  | finite (neg : Bool) (coeff : ℕ) (exp : ℤ)
  | infinity (neg : Bool)
  | nan
  deriving DecidableEq, Repr

namespace PyDecimal

open Python

/-- The digits of a number's text, in ASCII; underscores are dropped wherever they stand. -/
def normalize (cs : List Char) : List Char :=
  ((strip cs).filter (· ≠ '_')).map fun c =>
    match decimalDigit? c with
    | some d => Char.ofNat (48 + d)
    | none => c

/-- The exponent part of a number, empty or `e` with a sign and digits. -/
def exponentOf : List Char → Option ℤ
  | [] => some 0
  | c :: cs =>
    if c.toLower = 'e' then
      let (neg, digits) := splitSign cs
      if digits.isEmpty then none
      else (digitsValue? digits).map fun n => if neg then -(n : ℤ) else n
    else none

/-- A number without its sign: digits around an optional point, and an exponent.  The bounds
are those of the largest context: a number outside them is refused. -/
def numberOf (neg : Bool) (cs : List Char) : Option PyDecimal := do
  let whole := cs.takeWhile Char.isDigit
  let rest := cs.dropWhile Char.isDigit
  let (frac, rest) :=
    match rest with
    | '.' :: r => (r.takeWhile Char.isDigit, r.dropWhile Char.isDigit)
    | r => ([], r)
  if whole.isEmpty && frac.isEmpty then none
  else
    let coeff ← digitsValue? (whole ++ frac)
    let exp := (← exponentOf rest) - frac.length
    let adjusted := if coeff = 0 then exp else exp + (Nat.toDigits 10 coeff).length - 1
    if exp < -1999999999999999997 ∨ 999999999999999999 < adjusted then none
    else some (.finite neg coeff exp)

/-- `Decimal(s)` of a text. -/
def ofText (s : String) : Except PyErr PyDecimal :=
  let (neg, cs) := splitSign (normalize s.toList)
  let low := String.ofList (lower cs)
  if low = "inf" ∨ low = "infinity" then .ok (.infinity neg)
  else if (low.toList.take 3 = "nan".toList ∧ (low.toList.drop 3).all Char.isDigit) ∨
      (low.toList.take 4 = "snan".toList ∧ (low.toList.drop 4).all Char.isDigit) then .ok .nan
  else
    match numberOf neg cs with
    | some d => .ok d
    | none => .error .invalidOperation

/-- `Decimal(s)` of any text: a surrogate stands in no number. -/
def ofPyText : PyText → Except PyErr PyDecimal
  | .plain s => ofText s
  | .broken _ => .error .invalidOperation

/-- `d < 0`. -/
def ltZero : PyDecimal → Except PyErr Bool
  | finite neg coeff _ => .ok (neg && coeff != 0)
  | infinity neg => .ok neg
  | nan => .error .invalidOperation

/-- `d <= 0`. -/
def leZero : PyDecimal → Except PyErr Bool
  | finite neg coeff _ => .ok (neg || coeff == 0)
  | infinity neg => .ok neg
  | nan => .error .invalidOperation

end PyDecimal

/-! ## Rounding -/

/-- `n / d` rounded to the nearest whole number, a tie to the even one. -/
def roundHalfEven (n d : ℕ) : ℕ :=
  let q := n / d
  let r := n % d
  if 2 * r < d ∨ (2 * r = d ∧ q % 2 = 0) then q else q + 1

/-- The hundredths of `coeff * 10 ^ exp`, rounded half to even. -/
def hundredths (coeff : ℕ) (exp : ℤ) : ℕ :=
  if 0 ≤ exp + 2 then coeff * 10 ^ (exp + 2).toNat
  else roundHalfEven coeff (10 ^ (-(exp + 2)).toNat)

/-! ## Columns -/

/-- A value of a `DecimalField(max_digits=maxDigits, decimal_places=2)`, in hundredths. -/
structure DecimalField (maxDigits : ℕ) where
  cents : ℤ
  fits : cents.natAbs < 10 ^ maxDigits
  deriving DecidableEq, Repr

namespace DecimalField

/-- Save a value of two decimal places: more digits than the column has raise. -/
def ofCents (maxDigits : ℕ) (cents : ℤ) : Except PyErr (DecimalField maxDigits) :=
  if h : cents.natAbs < 10 ^ maxDigits then .ok ⟨cents, h⟩ else .error .invalidOperation

lemma ofCents_of_fits {n : ℕ} {c : ℤ} (h : c.natAbs < 10 ^ n) :
    ofCents n c = .ok ⟨c, h⟩ := dif_pos h

lemma ofCents_of_not_fits {n : ℕ} {c : ℤ} (h : ¬ c.natAbs < 10 ^ n) :
    ofCents n c = .error .invalidOperation := dif_neg h

/-- A column value always fits its own column. -/
lemma ofCents_cents {n : ℕ} (d : DecimalField n) : ofCents n d.cents = .ok d :=
  ofCents_of_fits d.fits

end DecimalField

/-- Save a Python decimal into a column: rounded half to even to two places; an infinity, a
NaN and a value of too many digits raise. -/
def PyDecimal.toColumn (maxDigits : ℕ) : PyDecimal → Except PyErr (DecimalField maxDigits)
  | .finite neg coeff exp =>
    let n : ℤ := hundredths coeff exp
    DecimalField.ofCents maxDigits (if neg then -n else n)
  | .infinity _ | .nan => .error .validationError

example : (PyDecimal.ofText " 1_000.505 " >>= PyDecimal.toColumn 10) =
    DecimalField.ofCents 10 100050 := by decide

/-- A decimal column whose cells hold a `κ`: what saving a decimal stores, and what reading a
cell gives. -/
structure DecimalColumn (κ : Type) where
  save : PyDecimal → Except PyErr κ
  read : κ → Except PyErr PyDecimal

namespace DecimalColumn

variable {κ : Type} (column : DecimalColumn κ)

/-- The cell can be read. -/
def Reads (cell : κ) : Prop := ∃ d, column.read cell = .ok d

instance (cell : κ) : Decidable (column.Reads cell) :=
  match h : column.read cell with
  | .ok d => isTrue ⟨d, h⟩
  | .error _ => isFalse fun ⟨_, hd⟩ => by rw [h] at hd; cases hd

/-- The column that rounds on saving and raises when there are too many digits. -/
def strict (maxDigits : ℕ) : DecimalColumn (DecimalField maxDigits) where
  save := PyDecimal.toColumn maxDigits
  read cell := .ok (.finite (cell.cents < 0) cell.cents.natAbs (-2))

/-- The column that keeps every finite number, and rounds it and counts its digits when it is
read. -/
def late (maxDigits : ℕ) : DecimalColumn PyDecimal where
  save
    | .finite neg coeff exp => .ok (.finite neg coeff exp)
    | .infinity _ | .nan => .error .validationError
  read d := do (strict maxDigits).read (← d.toColumn maxDigits)

lemma strict_reads {maxDigits : ℕ} (cell : DecimalField maxDigits) :
    (strict maxDigits).Reads cell := ⟨_, rfl⟩

end DecimalColumn

end OrdersBackend
