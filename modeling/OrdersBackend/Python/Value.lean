import OrdersBackend.Python.Decimal

/-!
# Python values

`PyValue` is what a CSV, JSON or YAML parser hands to the program.  The program uses the text
`str` prints for a container, or for a date of YAML, only as the content of a column, so such
a value carries that text, or the exception that printing it raises.  A float carries the
digits and the exponent that its `repr` prints, which determine it.

`contains`, `item` and `get` are Python's `k in v`, `v[k]` and `v.get(k, default)` for a
text `k`, with the exceptions they raise on values that are not mappings.
-/

namespace OrdersBackend

open Python

/-! ## Floats -/

/-- A float.  `finite neg digits exp` is the number whose `repr` shows the digits `digits`
with the decimal exponent `exp`. -/
inductive PyFloat
  | finite (neg : Bool) (digits : ℕ) (exp : ℤ)
  | infinity (neg : Bool)
  | nan
  deriving DecidableEq, Repr

namespace PyFloat

/-- `bool(x)`: a NaN is true. -/
def truthy : PyFloat → Bool
  | finite _ digits _ => digits != 0
  | infinity _ | nan => true

/-- Round to the 53 bits of a float's significand. -/
def toBinary64 (n : ℕ) : ℕ :=
  if n < 2 ^ 53 then n
  else
    let unit := 2 ^ (Nat.log2 n - 52)
    roundHalfEven n unit * unit

/-- `int(x)` truncates.  From `2 ^ 53` on the value itself is the binary number nearest to
the printed digits. -/
def toInt : PyFloat → Except PyErr ℤ
  | finite neg digits exp =>
    let n : ℤ :=
      if 0 ≤ exp then toBinary64 (digits * 10 ^ exp.toNat)
      else (digits / 10 ^ (-exp).toNat : ℕ)
    .ok (if neg then -n else n)
  | infinity _ => .error .overflowError
  | nan => .error .valueError

/-- The digits of a number with the point after the first `point` of them. -/
def withPoint (digits : List Char) (point : ℤ) : List Char :=
  if point ≤ 0 then
    ['0', '.'] ++ List.replicate (-point).toNat '0' ++ digits
  else if (digits.length : ℤ) ≤ point then
    digits ++ List.replicate (point - digits.length).toNat '0' ++ ['.', '0']
  else
    digits.take point.toNat ++ '.' :: digits.drop point.toNat

/-- The digits of a number with one digit before the point and an exponent of two digits at
least. -/
def withExponent (digits : List Char) (point : ℤ) : List Char :=
  let exp := point - 1
  let text := Nat.toDigits 10 exp.natAbs
  digits.take 1 ++ (if digits.length ≤ 1 then [] else '.' :: digits.drop 1) ++ 'e' ::
    (if exp < 0 then '-' else '+') :: (if text.length < 2 then '0' :: text else text)

/-- `str(x)`: positional from `1e-4` up to `1e16`, with an exponent outside. -/
def str : PyFloat → String
  | finite neg digits exp =>
    let ds := Nat.toDigits 10 digits
    let point := if digits = 0 then 1 else (ds.length : ℤ) + exp
    let body := if -4 < point ∧ point ≤ 16 then withPoint ds point else withExponent ds point
    String.ofList (if neg then '-' :: body else body)
  | infinity neg => if neg then "-inf" else "inf"
  | nan => "nan"

example : str (finite false 10005 (-1)) = "1000.5" ∧ str (finite true 0 0) = "-0.0" ∧
    str (finite false 1 23) = "1e+23" ∧ str (finite false 125 (-7)) = "1.25e-05" := by decide

end PyFloat

/-! ## Values -/

/-- A value a parser returns.  The keys of a mapping are any values: a CSV row with too many
cells has the key `None`, a YAML mapping may have numbers.  `str` may refuse to print a
container, one with a number of too many digits in it or one that is nested too deeply.  A
tuple of YAML is searched like a `set`. -/
inductive PyValue
  | none
  | bool (b : Bool)
  | int (n : ℤ)
  | float (x : PyFloat)
  | str (s : String)
  | surrogates (s : SurrogateText)
  | bytes (latin1 : String) (text : String)
  | date (text : String)
  | list (items : List PyValue) (text : Except PyErr String)
  | set (items : List PyValue) (text : Except PyErr String)
  | dict (items : List (PyValue × PyValue)) (text : Except PyErr String)

namespace PyValue

/-- A mapping whose keys are texts, as a row of a CSV file is. -/
def mapping (fields : List (String × PyValue)) (text : String) : PyValue :=
  dict (fields.map fun f => (str f.1, f.2)) (.ok text)

/-- A text as a value. -/
def ofText : PyText → PyValue
  | .plain s => str s
  | .broken s => surrogates s

/-- `bool(v)`. -/
def truthy : PyValue → Bool
  | none => false
  | bool b => b
  | int n => n != 0
  | float x => x.truthy
  | str s => s != ""
  | bytes latin1 _ => latin1 != ""
  | surrogates _ | date _ => true
  | list items _ | set items _ => !items.isEmpty
  | dict items _ => !items.isEmpty

/-- `str(v)`. -/
def toStr : PyValue → Except PyErr PyText
  | none => .ok (.plain "None")
  | bool b => .ok (.plain (if b then "True" else "False"))
  | int n => (strOfInt n).map .plain
  | float x => .ok (.plain x.str)
  | str s => .ok (.plain s)
  | surrogates s => .ok (.broken s)
  | bytes _ text | date text => .ok (.plain text)
  | list _ text | set _ text | dict _ text => text.map .plain

/-- `int(v)`. -/
def toInt : PyValue → Except PyErr ℤ
  | bool b => .ok (if b then 1 else 0)
  | int n => .ok n
  | float x => x.toInt
  | str s => intOfText s
  | surrogates s => (PyText.broken s).toInt
  | bytes latin1 _ =>
    if latin1.toList.all (·.toNat < 128) then intOfText latin1 else .error .valueError
  | none | date _ | list _ _ | set _ _ | dict _ _ => .error .typeError

/-- `Decimal(str(v))`. -/
def toDecimal (v : PyValue) : Except PyErr PyDecimal := do
  PyDecimal.ofPyText (← v.toStr)

/-- `v == k` for a text `k`. -/
def isStr (k : String) : PyValue → Bool
  | str s => s == k
  | _ => false

/-- The value a mapping holds for the key `k`. -/
def find (k : String) : List (PyValue × PyValue) → Option PyValue
  | [] => Option.none
  | (key, v) :: items => if key.isStr k then some v else find k items

/-- `k in v`. -/
def contains (k : String) : PyValue → Except PyErr Bool
  | str s => .ok (Python.contains s k)
  | surrogates s => .ok ((PyText.broken s).contains k)
  | list items _ | set items _ => .ok (items.any (isStr k))
  | dict items _ => .ok (find k items).isSome
  | _ => .error .typeError

/-- `v[k]`. -/
def item (k : String) : PyValue → Except PyErr PyValue
  | dict items _ =>
    match find k items with
    | some v => .ok v
    | Option.none => .error .keyError
  | _ => .error .typeError

/-- `v.get(k, default)`. -/
def get (v : PyValue) (k : String) (default : PyValue) : Except PyErr PyValue :=
  match v with
  | dict items _ => .ok ((find k items).getD default)
  | _ => .error .attributeError

variable {k : String} {items : List (PyValue × PyValue)} {text : Except PyErr String}
  {v : PyValue}

@[simp] lemma contains_dict :
    (dict items text).contains k = .ok (find k items).isSome := rfl

@[simp] lemma item_dict_of_find (h : find k items = some v) :
    (dict items text).item k = .ok v := by
  simp [item, h]

/-- Only a mapping can be indexed by a text. -/
lemma exists_dict_of_item {w : PyValue} (h : w.item k = .ok v) :
    ∃ items text, w = dict items text ∧ find k items = some v := by
  cases w with
  | dict items text =>
      refine ⟨items, text, rfl, ?_⟩
      cases hf : find k items with
      | none => simp [item, hf] at h
      | some v' =>
          rw [item_dict_of_find hf] at h
          rw [Except.ok.inj h]
  | _ => cases h

end PyValue

end OrdersBackend
