import Mathlib.Data.List.Infix
import Mathlib.Tactic.Lemma

/-!
# Python text and the exceptions of its conversions

The string methods the program calls (`in`, `split`, `strip`, the test for digits, `int`),
on the character lists of Lean's strings.  White space and decimal digits are those of
Unicode, as in Python: `int("٣")` is `3`, and a no-break space is stripped.

`int` and `str.strip` do not agree on white space.  `strip` removes the separators
`U+001C`–`U+001F`, `int` refuses them; the two tests are `isSpace` and `isIntSpace`.

A text of Python may hold surrogates, which JSON and YAML escape as `\ud800` and no encoding
takes.  Such a text is a `SurrogateText`, a `PyText` is either of the two, and `PyText.encode`
is the encoding on the way to a text column.
-/

namespace OrdersBackend

/-- The exception classes the program's conversions and database writes raise. -/
inductive PyErr
  | valueError
  | typeError
  | keyError
  | attributeError
  | overflowError
  | invalidOperation
  | integrityError
  | validationError
  | doesNotExist
  | recursionError
  deriving DecidableEq, Repr

/-- `except (ValueError, TypeError)`.  `decimal.InvalidOperation` and `OverflowError` are
`ArithmeticError`s and do not match. -/
def PyErr.isValueOrTypeError : PyErr → Bool
  | .valueError | .typeError => true
  | _ => false

namespace Python

/-- `str.isspace` of one character; also the class `\s` of a regular expression. -/
def isSpace (c : Char) : Bool :=
  let n := c.toNat
  (9 ≤ n && n ≤ 13) || (28 ≤ n && n ≤ 32) || n == 0x85 || n == 0xA0 || n == 0x1680 ||
    (0x2000 ≤ n && n ≤ 0x200A) || n == 0x2028 || n == 0x2029 || n == 0x202F ||
    n == 0x205F || n == 0x3000

/-- The white space `int` skips around a number. -/
def isIntSpace (c : Char) : Bool :=
  isSpace c && !(28 ≤ c.toNat && c.toNat ≤ 31)

/-- The zeros of the decimal digit runs of Unicode; each is followed by its nine digits. -/
def digitZeros : List ℕ :=
  [0x30, 0x660, 0x6f0, 0x7c0, 0x966, 0x9e6, 0xa66, 0xae6, 0xb66, 0xbe6, 0xc66, 0xce6, 0xd66,
   0xde6, 0xe50, 0xed0, 0xf20, 0x1040, 0x1090, 0x17e0, 0x1810, 0x1946, 0x19d0, 0x1a80, 0x1a90,
   0x1b50, 0x1bb0, 0x1c40, 0x1c50, 0xa620, 0xa8d0, 0xa900, 0xa9d0, 0xa9f0, 0xaa50, 0xabf0,
   0xff10, 0x104a0, 0x10d30, 0x11066, 0x110f0, 0x11136, 0x111d0, 0x112f0, 0x11450, 0x114d0,
   0x11650, 0x116c0, 0x11730, 0x118e0, 0x11950, 0x11c50, 0x11d50, 0x11da0, 0x16a60, 0x16ac0,
   0x16b50, 0x1d7ce, 0x1d7d8, 0x1d7e2, 0x1d7ec, 0x1d7f6, 0x1e140, 0x1e2f0, 0x1e950, 0x1fbf0]

/-- The value of a decimal digit, of any script. -/
def decimalDigit? (c : Char) : Option ℕ :=
  (digitZeros.find? fun z => z ≤ c.toNat && c.toNat ≤ z + 9).map fun z => c.toNat - z

/-- The number a run of digits writes, or `none` when a character is not a digit. -/
def digitsValue? (cs : List Char) : Option ℕ :=
  cs.foldl (fun acc c => do return 10 * (← acc) + (← decimalDigit? c)) (some 0)

/-- Drop what is white space at both ends. -/
def trim {α : Type} (space : α → Bool) (cs : List α) : List α :=
  ((cs.dropWhile space).reverse.dropWhile space).reverse

/-- `s.strip()`. -/
def strip (cs : List Char) : List Char := trim isSpace cs

/-- `sub in s`. -/
def contains (s sub : String) : Bool := decide (sub.toList <:+: s.toList)

/-- `s.split(sep, 1)` for a text with the separator in it. -/
def splitFirst {α : Type} [DecidableEq α] (sep : α) (cs : List α) : List α × List α :=
  (cs.takeWhile (· ≠ sep), (cs.dropWhile (· ≠ sep)).drop 1)

/-- `s.lower()`, on the letters the program compares with: no other character of Unicode
lower-cases to an ASCII letter of `true`. -/
def lower (cs : List Char) : List Char := cs.map Char.toLower

/-- A leading sign: whether it is a minus, and what follows it. -/
def splitSign : List Char → Bool × List Char
  | '-' :: cs => (true, cs)
  | '+' :: cs => (false, cs)
  | cs => (false, cs)

/-- `int(s)` of a text: blanks around it, a sign, and digits that single underscores may
group.  More than 4300 digits are refused. -/
def intOfText (s : String) : Except PyErr ℤ :=
  let cs := ((s.toList.dropWhile isIntSpace).reverse.dropWhile isIntSpace).reverse
  let (neg, body) := splitSign cs
  let groups := body.splitOn '_'
  if groups.any List.isEmpty || 4300 < groups.flatten.length then .error .valueError
  else
    match digitsValue? groups.flatten with
    | some n => .ok (if neg then -(n : ℤ) else n)
    | none => .error .valueError

/-- `str(n)` of a whole number: more than 4300 digits are refused. -/
def strOfInt (n : ℤ) : Except PyErr String :=
  if (Nat.toDigits 10 n.natAbs).length ≤ 4300 then .ok (toString n) else .error .valueError

/-- `sub in s` is transitive: what holds a text holds every part of it. -/
lemma contains_trans {s t u : String} (h : contains s t) (h' : contains t u) :
    contains s u := by
  simp only [contains, decide_eq_true_eq] at *
  exact h'.trans h

end Python

/-! ## Texts with surrogates -/

/-- A code point of a text: a character, or one of the 2048 surrogates. -/
inductive PyChar
  | char (c : Char)
  | surrogate (n : Fin 2048)
  deriving DecidableEq, Repr

namespace PyChar

def isSurrogate : PyChar → Bool
  | char _ => false
  | surrogate _ => true

/-- A surrogate is no white space. -/
def isSpace : PyChar → Bool
  | char c => Python.isSpace c
  | surrogate _ => false

def toChar? : PyChar → Option Char
  | char c => some c
  | surrogate _ => none

end PyChar

/-- A text that holds a surrogate, and so is no text of Lean. -/
structure SurrogateText where
  points : List PyChar
  lone : points.any PyChar.isSurrogate
  deriving DecidableEq, Repr

/-- A text of Python. -/
inductive PyText
  | plain (s : String)
  | broken (s : SurrogateText)
  deriving DecidableEq, Repr

namespace PyText

/-- The text with the given code points. -/
def ofPoints (points : List PyChar) : PyText :=
  if h : points.any PyChar.isSurrogate then broken ⟨points, h⟩
  else plain (String.ofList (points.filterMap PyChar.toChar?))

/-- The code points of a text. -/
def points : PyText → List PyChar
  | plain s => s.toList.map .char
  | broken s => s.points

lemma any_isSurrogate_map (cs : List Char) :
    (cs.map PyChar.char).any PyChar.isSurrogate = false := by
  rw [List.any_map, List.any_eq_false]
  exact fun c _ => Bool.false_ne_true

lemma filterMap_toChar?_map (cs : List Char) :
    (cs.map PyChar.char).filterMap PyChar.toChar? = cs := by
  rw [List.filterMap_map]
  exact List.filterMap_some

lemma ofPoints_map (cs : List Char) : ofPoints (cs.map .char) = plain (String.ofList cs) := by
  unfold ofPoints
  rw [dif_neg (by rw [any_isSurrogate_map]; exact Bool.false_ne_true), filterMap_toChar?_map]

@[simp] lemma ofPoints_points (t : PyText) : ofPoints t.points = t := by
  cases t with
  | plain s => rw [points, ofPoints_map, String.ofList_toList]
  | broken s => exact dif_pos s.lone

@[simp] lemma points_ofPoints (ps : List PyChar) : (ofPoints ps).points = ps := by
  unfold ofPoints
  split
  · rfl
  · next hlone =>
      rw [points, String.toList_ofList]
      induction ps with
      | nil => rfl
      | cons p ps ih =>
          rw [List.any_cons, Bool.or_eq_true, not_or] at hlone
          cases p with
          | char c => exact congrArg _ (ih hlone.2)
          | surrogate n => exact absurd rfl hlone.1

/-- The text as the database takes it: a surrogate raises `UnicodeEncodeError`, which is a
`ValueError`. -/
def encode : PyText → Except PyErr String
  | plain s => .ok s
  | broken _ => .error .valueError

/-- `sub in s`. -/
def contains (sub : String) : PyText → Bool
  | plain s => Python.contains s sub
  | broken s => decide (sub.toList.map PyChar.char <:+: s.points)

/-- `int(s)`: a surrogate is no digit. -/
def toInt : PyText → Except PyErr ℤ
  | plain s => Python.intOfText s
  | broken _ => .error .valueError

/-- `s.lower() == 'true'`. -/
def isTrue : PyText → Bool
  | plain s => Python.lower s.toList == "true".toList
  | broken _ => false

/-- What holds a text holds every part of it. -/
lemma contains_trans {t : PyText} {sub sub' : String} (h : t.contains sub)
    (h' : Python.contains sub sub') : t.contains sub' := by
  cases t with
  | plain s => exact Python.contains_trans h h'
  | broken s =>
      simp only [contains, Python.contains, decide_eq_true_eq] at *
      exact (h'.map PyChar.char).trans h

end PyText

end OrdersBackend
