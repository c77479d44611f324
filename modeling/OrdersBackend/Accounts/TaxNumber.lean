import OrdersBackend.Python.Text

/-!
# The tax number of a supplier

`validate_tax_number` with its two checksums: ten digits for a company, twelve for a sole
trader.  Blanks and hyphens are dropped first, and what remains has to be digits in the sense
of `str.isdigit`.  That test lets characters through which are digits but not decimal ones,
such as `²`; `int` refuses them later, with a `ValueError` that is no validation error.
-/

namespace OrdersBackend

open Python

/-- What `validate_tax_number` raises: one of its validation errors, or the `ValueError` of
`int` on a digit that is not decimal. -/
inductive TaxNumberError
  | notDigits
  | wrongLength
  | wrongChecksum10
  | wrongChecksum12
  | digitValue
  deriving DecidableEq, Repr

/-- The message of a validation error. -/
def TaxNumberError.message : TaxNumberError → Option String
  | notDigits => some "ИНН должен содержать только цифры"
  | wrongLength => some "ИНН должен содержать 10 цифр (для юр.лиц) или 12 цифр (для ИП)"
  | wrongChecksum10 => some "Неверная контрольная сумма ИНН (10 цифр)"
  | wrongChecksum12 => some "Неверная контрольная сумма ИНН (12 цифр)"
  | digitValue => none

namespace TaxNumber

/-- The ranges of characters that are digits but not decimal ones. -/
def digitRanges : List (ℕ × ℕ) :=
  [(0xb2, 0xb3), (0xb9, 0xb9), (0x1369, 0x1371), (0x19da, 0x19da), (0x2070, 0x2070),
   (0x2074, 0x2079), (0x2080, 0x2089), (0x2460, 0x2468), (0x2474, 0x247c), (0x2488, 0x2490),
   (0x24ea, 0x24ea), (0x24f5, 0x24fd), (0x24ff, 0x24ff), (0x2776, 0x277e), (0x2780, 0x2788),
   (0x278a, 0x2792), (0x10a40, 0x10a43), (0x10e60, 0x10e68), (0x11052, 0x1105a),
   (0x1f100, 0x1f10a)]

/-- `c.isdigit()`. -/
def isDigit (c : Char) : Bool :=
  (decimalDigit? c).isSome || digitRanges.any fun r => r.1 ≤ c.toNat && c.toNat ≤ r.2

/-- `re.sub(r'[\s\-]', '', value)`. -/
def clean (value : List Char) : List Char := value.filter fun c => !(isSpace c || c == '-')

/-- `int(inn[i])`. -/
def digitAt (inn : List Char) (i : ℕ) : Except TaxNumberError ℕ :=
  match inn[i]?.bind decimalDigit? with
  | some d => .ok d
  | none => .error .digitValue

/-- `sum(int(inn[i]) * coefficients[i] for i in range(len(coefficients))) % 11 % 10`, with
`i` counted from `start`. -/
def controlSum (inn : List Char) : ℕ → List ℕ → Except TaxNumberError ℕ
  | _, [] => return 0
  | i, coefficient :: coefficients => do
    let d ← digitAt inn i
    let rest ← controlSum inn (i + 1) coefficients
    return d * coefficient + rest

def controlDigit (inn : List Char) (coefficients : List ℕ) : Except TaxNumberError ℕ := do
  return (← controlSum inn 0 coefficients) % 11 % 10

def validateInn10 (inn : List Char) : Except TaxNumberError Bool := do
  let control ← controlDigit inn [2, 4, 10, 3, 5, 9, 4, 6, 8]
  return control == (← digitAt inn 9)

/-- The last digit is looked at only when the first control digit is right. -/
def validateInn12 (inn : List Char) : Except TaxNumberError Bool := do
  let control₁ ← controlDigit inn [7, 2, 4, 10, 3, 5, 9, 4, 6, 8]
  let control₂ ← controlDigit inn [3, 7, 2, 4, 10, 3, 5, 9, 4, 6, 8]
  if control₁ == (← digitAt inn 10) then return control₂ == (← digitAt inn 11)
  else return false

def validateTaxNumber (value : String) : Except TaxNumberError String :=
  if value = "" then .ok value
  else
    let cleaned := clean value.toList
    if cleaned.isEmpty || !cleaned.all isDigit then .error .notDigits
    else if cleaned.length = 10 then do
      if ← validateInn10 cleaned then return String.ofList cleaned
      else .error .wrongChecksum10
    else if cleaned.length = 12 then do
      if ← validateInn12 cleaned then return String.ofList cleaned
      else .error .wrongChecksum12
    else .error .wrongLength

end TaxNumber

end OrdersBackend
