import Mathlib.Data.List.Basic
import OrdersBackend.Framework.Transaction

/-!
# Separated values

A text of records, one to a line, whose fields are separated by a delimiter and may stand in
quotes.  The reader is an automaton that is fed with one line after the other; a line that ends
inside quotes goes on with the next one.  It is lenient: blank lines are records without fields,
text after a closing quote belongs to the field, and quotes that are never closed end with the
text.  It refuses a line end inside a line, and fields beyond a limit.

The writer puts a field in quotes when it holds a character with a meaning of its own.  What it
writes is read back as it was, unless a field is beyond the limit (`read_write`), and what is
read is within the limit (`rowFits_of_read`).  The proofs follow the text instead of its lines
(`read_eq_scan`).
-/

namespace Framework.Csv

/-- A character that ends a line. -/
def isEnd (c : Char) : Bool := c = '\n' || c = '\r'

/-- The character between fields, the one around them, and how long a field may be. -/
structure Dialect where
  delimiter : Char
  quote : Char
  limit : ℕ
  delimiter_ne_quote : delimiter ≠ quote
  delimiter_no_end : isEnd delimiter = false
  quote_no_end : isEnd quote = false

inductive Error
  | fieldTooLarge
  | newLineInField
  deriving DecidableEq, Repr

/-! ## The reader -/

inductive Place
  | startRecord
  | startField
  | inField
  | inQuoted
  | quoteInQuoted
  | eatEnd
  deriving DecidableEq, Repr

/-- Where the reader is, the field it is in, and the fields of the record before it. -/
structure Reader where
  place : Place
  field : List Char
  fields : List (List Char)
  deriving DecidableEq, Repr

namespace Reader

def start : Reader := ⟨.startRecord, [], []⟩

def save (r : Reader) : Reader := { r with field := [], fields := r.fields ++ [r.field] }

def goto (r : Reader) (place : Place) : Reader := { r with place := place }

/-- The end of a line. -/
def endLine (r : Reader) : Reader :=
  match r.place with
  | .startRecord | .inQuoted => r
  | .startField | .inField | .quoteInQuoted => r.save.goto .startRecord
  | .eatEnd => r.goto .startRecord

/-- The reader after a field and its separator. -/
def closed (r : Reader) (field : List Char) (sep : Char) : Reader :=
  ⟨if isEnd sep then .eatEnd else .startField, [], r.fields ++ [field]⟩

/-- A line has ended: its record is complete, or goes on with what is left. -/
def afterLine (r : Reader) (rest : Reader → Except Error (List (List (List Char)))) :
    Except Error (List (List (List Char))) :=
  if r.place = .startRecord then do return r.fields :: (← rest .start) else rest r

end Reader

namespace Dialect

variable (d : Dialect)

def add (r : Reader) (c : Char) : Except Error Reader :=
  if d.limit ≤ r.field.length then .error .fieldTooLarge
  else .ok { r with field := r.field ++ [c] }

/-- A character where a field may start. -/
def startField (r : Reader) (c : Char) : Except Error Reader :=
  if isEnd c then .ok (r.save.goto .eatEnd)
  else if c = d.quote then .ok (r.goto .inQuoted)
  else if c = d.delimiter then .ok (r.save.goto .startField)
  else do return (← d.add r c).goto .inField

/-- A character of a line. -/
def step (r : Reader) (c : Char) : Except Error Reader :=
  match r.place with
  | .startRecord => if isEnd c then .ok (r.goto .eatEnd) else d.startField r c
  | .startField => d.startField r c
  | .inField =>
    if isEnd c then .ok (r.save.goto .eatEnd)
    else if c = d.delimiter then .ok (r.save.goto .startField)
    else d.add r c
  | .inQuoted => if c = d.quote then .ok (r.goto .quoteInQuoted) else d.add r c
  | .quoteInQuoted =>
    if c = d.quote then do return (← d.add r c).goto .inQuoted
    else if c = d.delimiter then .ok (r.save.goto .startField)
    else if isEnd c then .ok (r.save.goto .eatEnd)
    else do return (← d.add r c).goto .inField
  | .eatEnd => if isEnd c then .ok r else .error .newLineInField

/-- A line, with the line end that closes it. -/
def line (r : Reader) : List Char → Except Error Reader
  | [] => .ok r.endLine
  | c :: cs => do line (← d.step r c) cs

/-- The records of the lines that are left. -/
def records (r : Reader) : List (List Char) → Except Error (List (List (List Char)))
  | [] => if r.field ≠ [] ∨ r.place = .inQuoted then .ok [r.save.fields] else .ok []
  | text :: texts => do (← d.line r text).afterLine fun r => records r texts

end Dialect

/-- The lines of a text, with their line ends. -/
def lines : List Char → List (List Char)
  | [] => []
  | c :: cs =>
    if c = '\n' then [c] :: lines cs
    else
      match lines cs with
      | [] => [[c]]
      | text :: texts => (c :: text) :: texts

namespace Dialect

variable (d : Dialect)

def read (text : List Char) : Except Error (List (List (List Char))) :=
  d.records .start (lines text)

/-! ## The writer -/

def isSpecial (c : Char) : Bool := c = d.delimiter || c = d.quote || isEnd c

def escaped (field : List Char) : List Char :=
  field.flatMap fun c => if c = d.quote then [d.quote, d.quote] else [c]

def fieldText (field : List Char) : List Char :=
  if field.any d.isSpecial then d.quote :: (d.escaped field ++ [d.quote]) else field

/-- A record.  A single field without text stands in quotes, as its line would be blank. -/
def rowText (row : List (List Char)) : List Char :=
  (if row = [[]] then [d.quote, d.quote] else [d.delimiter].intercalate (row.map d.fieldText)) ++
    ['\r', '\n']

def write (rows : List (List (List Char))) : List Char := rows.flatMap d.rowText

/-- No field of the record is too long. -/
def RowFits (row : List (List Char)) : Prop := ∀ field ∈ row, field.length ≤ d.limit

instance (row : List (List Char)) : Decidable (d.RowFits row) :=
  inferInstanceAs (Decidable (∀ field ∈ row, field.length ≤ d.limit))

/-! ## Reading character by character -/

/-- The record of a text that ends here, if one has begun. -/
def atEnd (r : Reader) : List (List (List Char)) :=
  match r.place with
  | .startRecord => []
  | .eatEnd => [r.fields]
  | .startField | .inField | .inQuoted | .quoteInQuoted => [r.save.fields]

/-- The records of the text that is left. -/
def scan (r : Reader) : List Char → Except Error (List (List (List Char)))
  | [] => .ok (atEnd r)
  | c :: cs => do
    let r ← d.step r c
    if c = '\n' then r.endLine.afterLine fun r => scan r cs else scan r cs

end Dialect

lemma lines_ne_nil {c : Char} {cs : List Char} : lines (c :: cs) ≠ [] := by
  unfold lines
  split
  · exact List.cons_ne_nil _ _
  · split <;> exact List.cons_ne_nil _ _

/-- Where a line ends, the reader is between records or in quotes. -/
lemma Reader.place_endLine (r : Reader) :
    r.endLine.place = .startRecord ∨ r.endLine = r ∧ r.place = .inQuoted := by
  rcases r with ⟨place, field, fields⟩
  cases place <;> simp [Reader.endLine, Reader.goto]

namespace Dialect

variable {d : Dialect}

lemma add_eq_ok {r r' : Reader} {c : Char} (h : d.add r c = .ok r') :
    r.field.length < d.limit ∧ r' = { r with field := r.field ++ [c] } := by
  unfold add at h
  split at h
  · cases h
  · exact ⟨by omega, (Except.ok.inj h).symm⟩

/-- What a character does: it moves the reader, or it closes the field, or it belongs to it. -/
inductive Moves (d : Dialect) (r : Reader) (c : Char) (place : Place) : Reader → Prop
  | goto : Moves d r c place (r.goto place)
  | save : Moves d r c place (r.save.goto place)
  | add (h : r.field.length < d.limit) :
      Moves d r c place (Reader.goto { r with field := r.field ++ [c] } place)

lemma moves_of_add {r r' : Reader} {c : Char} {place : Place}
    (h : (do return (← d.add r c).goto place) = Except.ok (ε := Error) r') :
    Moves d r c place r' := by
  obtain ⟨r₁, hadd, h⟩ := except_bind_eq_ok.mp h
  obtain ⟨hlt, rfl⟩ := add_eq_ok hadd
  rw [← Except.ok.inj h]
  exact .add hlt

lemma moves_of_startField {r r' : Reader} {c : Char} (h : d.startField r c = .ok r') :
    ∃ place ≠ Place.startRecord, Moves d r c place r' := by
  unfold startField at h
  split at h
  · rw [← Except.ok.inj h]
    exact ⟨.eatEnd, by decide, .save⟩
  split at h
  · rw [← Except.ok.inj h]
    exact ⟨.inQuoted, by decide, .goto⟩
  split at h
  · rw [← Except.ok.inj h]
    exact ⟨.startField, by decide, .save⟩
  · exact ⟨.inField, by decide, moves_of_add h⟩

/-- Inside a line the reader is in a record. -/
lemma moves_of_step {r r' : Reader} {c : Char} (h : d.step r c = .ok r') :
    ∃ place ≠ Place.startRecord, Moves d r c place r' := by
  unfold step at h
  split at h
  case h_1 hplace =>
    split at h
    · rw [← Except.ok.inj h]
      exact ⟨.eatEnd, by decide, .goto⟩
    · exact moves_of_startField h
  case h_2 => exact moves_of_startField h
  case h_3 hplace =>
    -- in a field without quotes
    split at h
    · rw [← Except.ok.inj h]
      exact ⟨.eatEnd, by decide, .save⟩
    split at h
    · rw [← Except.ok.inj h]
      exact ⟨.startField, by decide, .save⟩
    · obtain ⟨hlt, rfl⟩ := add_eq_ok h
      refine ⟨.inField, by decide, ?_⟩
      rw [← hplace]
      exact .add hlt
  case h_4 hplace =>
    -- inside quotes
    split at h
    · rw [← Except.ok.inj h]
      exact ⟨.quoteInQuoted, by decide, .goto⟩
    · obtain ⟨hlt, rfl⟩ := add_eq_ok h
      refine ⟨.inQuoted, by decide, ?_⟩
      rw [← hplace]
      exact .add hlt
  case h_5 hplace =>
    -- after a quote inside quotes
    split at h
    · exact ⟨.inQuoted, by decide, moves_of_add h⟩
    split at h
    · rw [← Except.ok.inj h]
      exact ⟨.startField, by decide, .save⟩
    split at h
    · rw [← Except.ok.inj h]
      exact ⟨.eatEnd, by decide, .save⟩
    · exact ⟨.inField, by decide, moves_of_add h⟩
  case h_6 hplace =>
    -- after the end of a record
    split at h
    · rw [← Except.ok.inj h]
      refine ⟨.eatEnd, by decide, ?_⟩
      rw [← hplace]
      exact .goto
    · cases h

lemma place_step {r r' : Reader} {c : Char} (h : d.step r c = .ok r') :
    r'.place ≠ .startRecord := by
  obtain ⟨place, hplace, hmoves⟩ := moves_of_step h
  cases hmoves <;> exact hplace

/-- The record that a line leaves, when it ends the text. -/
lemma afterLine_nil {r : Reader} (h : r.place ≠ .startRecord) :
    (r.endLine.afterLine fun r => d.records r []) = .ok (atEnd r) := by
  rcases r with ⟨place, field, fields⟩
  cases place
  case startRecord => exact absurd rfl h
  case inQuoted => exact if_pos (Or.inr rfl)
  all_goals rfl

/-- Where a line ends, only the text that is left counts. -/
lemma afterLine_congr {r : Reader} {rest rest' : Reader → Except Error (List (List (List Char)))}
    (hstart : rest .start = rest' .start)
    (hquoted : ∀ r : Reader, r.place = .inQuoted → rest r = rest' r) :
    r.endLine.afterLine rest = r.endLine.afterLine rest' := by
  unfold Reader.afterLine
  rw [hstart]
  split
  · rfl
  · next hplace =>
    rcases r.place_endLine with h | ⟨heq, h⟩
    · exact absurd h hplace
    · rw [heq]
      exact hquoted r h

lemma lines_of_ne {c : Char} (hc : c ≠ '\n') (c' : Char) (cs : List Char) :
    ∃ text texts, lines (c' :: cs) = text :: texts ∧
      lines (c :: c' :: cs) = (c :: text) :: texts := by
  rcases hlines : lines (c' :: cs) with _ | ⟨text, texts⟩
  · exact absurd hlines lines_ne_nil
  · refine ⟨text, texts, rfl, ?_⟩
    rw [lines, if_neg hc, hlines]

/-- The lines of a text give what its characters give. -/
lemma records_lines {r : Reader} {cs : List Char}
    (h : cs = [] → r = .start ∨ r.place = .inQuoted) : d.records r (lines cs) = d.scan r cs := by
  induction cs generalizing r with
  | nil =>
      rcases h rfl with rfl | hquoted
      · rfl
      · unfold lines records scan atEnd
        rw [if_pos (Or.inr hquoted), hquoted]
  | cons c cs ih =>
      by_cases hc : c = '\n'
      · -- a line ends, and the next one starts where it left the reader
        have hlines : lines (c :: cs) = [c] :: lines cs := if_pos hc
        rw [hlines, records, line, scan, bind_assoc]
        refine congrArg _ (funext fun r' => ?_)
        rw [if_pos hc]
        exact afterLine_congr (ih fun _ => .inl rfl) fun r hquoted => ih fun _ => .inr hquoted
      · rcases cs with _ | ⟨c', cs⟩
        · have hlines : lines [c] = [[c]] := by rw [lines, if_neg hc, lines]
          rw [hlines, records, line, scan, bind_assoc]
          rcases hstep : d.step r c with e | r'
          · rfl
          · simp only [except_ok_bind, hc, if_false]
            exact afterLine_nil (place_step hstep)
        · -- the character belongs to the line that the rest begins with
          obtain ⟨text, texts, htail, hlines⟩ := lines_of_ne hc c' cs
          rw [hlines, records, line, scan, bind_assoc]
          refine congrArg _ (funext fun r' => ?_)
          rw [if_neg hc, ← ih (by simp), htail, records]

theorem read_eq_scan (text : List Char) : d.read text = d.scan .start text :=
  records_lines fun _ => .inl rfl

/-! ## What is written can be read -/

/-- More characters of a field. -/
def addAll (d : Dialect) (r : Reader) (cs : List Char) : Except Error Reader :=
  if r.field.length + cs.length ≤ d.limit then .ok { r with field := r.field ++ cs }
  else .error .fieldTooLarge

lemma add_bind_addAll (r : Reader) (c : Char) (cs : List Char) :
    (d.add r c >>= fun r => d.addAll r cs) = d.addAll r (c :: cs) := by
  unfold add addAll
  by_cases h : d.limit ≤ r.field.length
  · rw [if_pos h, if_neg (by rw [List.length_cons]; omega)]
    rfl
  · rw [if_neg h, except_ok_bind]
    simp only [List.length_append, List.length_cons, List.append_assoc, List.singleton_append,
      List.length_nil, Nat.zero_add, Nat.add_assoc, Nat.add_comm 1]

/-- A way to write characters in a field at a place. -/
def Writes (d : Dialect) (place : Place) (unit : Char → List Char) (c : Char) : Prop :=
  ∀ r : Reader, r.place = place → ∀ rest,
    d.scan r (unit c ++ rest) = d.add r c >>= fun r => d.scan r rest

lemma scan_writes {place : Place} {unit : Char → List Char} {cs : List Char}
    (h : ∀ c ∈ cs, d.Writes place unit c) {r : Reader} (hplace : r.place = place)
    (hfield : r.field.length ≤ d.limit) (rest : List Char) :
    d.scan r (cs.flatMap unit ++ rest) = d.addAll r cs >>= fun r => d.scan r rest := by
  induction cs generalizing r with
  | nil =>
      unfold addAll
      rw [if_pos (by simpa using hfield), List.append_nil]
      rfl
  | cons c cs ih =>
      rw [List.flatMap_cons, List.append_assoc, h c List.mem_cons_self r hplace,
        ← add_bind_addAll, bind_assoc]
      rcases hadd : d.add r c with e | r'
      · rfl
      · obtain ⟨hlt, rfl⟩ := add_eq_ok hadd
        exact ih (fun c' hc' => h c' (List.mem_cons_of_mem _ hc')) hplace
          (by rw [List.length_append]; exact hlt)

lemma not_special {c : Char} (h : d.isSpecial c = false) :
    c ≠ d.delimiter ∧ c ≠ d.quote ∧ isEnd c = false := by
  simpa [isSpecial, and_assoc] using h

lemma ne_newline {c : Char} (h : isEnd c = false) : c ≠ '\n' := by
  rintro rfl
  cases h

lemma step_inField {r : Reader} {c : Char} (hplace : r.place = .inField)
    (h : d.isSpecial c = false) : d.step r c = d.add r c := by
  obtain ⟨hdelimiter, -, hend⟩ := not_special h
  unfold step
  simp only [hplace, hend, hdelimiter, if_false, Bool.false_eq_true]

lemma writes_inField {c : Char} (h : d.isSpecial c = false) :
    d.Writes .inField (fun c => [c]) c := by
  intro r hplace rest
  obtain ⟨-, -, hend⟩ := not_special h
  rw [List.singleton_append, scan, step_inField hplace h]
  simp only [ne_newline hend, if_false]

lemma writes_inQuoted (c : Char) :
    d.Writes .inQuoted (fun c => if c = d.quote then [d.quote, d.quote] else [c]) c := by
  intro r hplace rest
  obtain ⟨place, field, fields⟩ := r
  obtain rfl : place = .inQuoted := hplace
  by_cases hc : c = d.quote
  · have hne : d.quote ≠ '\n' := ne_newline d.quote_no_end
    simp only [hc, if_true, List.cons_append, List.nil_append, scan, step, hne, if_false,
      except_ok_bind, Reader.goto, bind_assoc]
    unfold add
    split <;> rfl
  · simp only [hc, if_false, List.singleton_append, scan, step]
    unfold add
    dsimp only
    split
    · rfl
    · rw [except_ok_bind, except_ok_bind]
      split <;> rfl

/-- A separator closes the field. -/
lemma step_separator {r : Reader} {sep : Char} (hsep : sep = d.delimiter ∨ isEnd sep = true)
    (hplace : r.place = .startField ∨ r.place = .inField ∨ r.place = .quoteInQuoted) :
    d.step r sep = .ok (r.save.goto (if isEnd sep then .eatEnd else .startField)) := by
  have hquote : sep ≠ d.quote := by
    rintro rfl
    rcases hsep with h | h
    · exact d.delimiter_ne_quote h.symm
    · rw [d.quote_no_end] at h
      cases h
  by_cases hend : isEnd sep = true
  · have hdelimiter : sep ≠ d.delimiter := by
      rintro rfl
      rw [d.delimiter_no_end] at hend
      cases hend
    unfold step startField
    rcases hplace with h | h | h <;> simp only [h, hend, hquote, hdelimiter, if_true, if_false]
  · have hdelimiter : sep = d.delimiter := hsep.resolve_right hend
    unfold step startField
    rcases hplace with h | h | h <;> simp only [h, hdelimiter, if_true, if_false,
      d.delimiter_no_end, d.delimiter_ne_quote, Bool.false_eq_true]

lemma scan_separator {r : Reader} {sep : Char} (hsep : sep = d.delimiter ∨ sep = '\r')
    (hplace : r.place = .startField ∨ r.place = .inField ∨ r.place = .quoteInQuoted)
    (rest : List Char) :
    d.scan r (sep :: rest) = d.scan (r.closed r.field sep) rest := by
  have hend : sep = d.delimiter ∨ isEnd sep = true := by
    rcases hsep with h | rfl
    · exact .inl h
    · exact .inr rfl
  have hne : sep ≠ '\n' := by
    rcases hsep with rfl | rfl
    · exact ne_newline d.delimiter_no_end
    · decide
  rw [scan, step_separator hend hplace, except_ok_bind, if_neg hne]
  rfl

lemma add_goto (r : Reader) (c : Char) (place : Place) :
    d.add (r.goto place) c = do return (← d.add r c).goto place := by
  by_cases h : d.limit ≤ r.field.length
  · have hr : d.add r c = .error .fieldTooLarge := if_pos h
    rw [hr]
    exact if_pos h
  · have hr : d.add r c = .ok { r with field := r.field ++ [c] } := if_neg h
    rw [hr]
    exact if_neg h

/-- A field that does not start with a quote or a separator goes on as it starts. -/
lemma step_goto_inField {r : Reader} {c : Char} (hplace : r.place = .startField)
    (h : d.isSpecial c = false) : d.step r c = d.step (r.goto .inField) c := by
  obtain ⟨hdelimiter, hquote, hend⟩ := not_special h
  have hstart : d.step r c = do return (← d.add r c).goto .inField := by
    unfold step startField
    simp only [hplace, hend, hdelimiter, hquote, if_false, Bool.false_eq_true]
  rw [hstart, step_inField rfl h, add_goto]

lemma scan_quoted {r : Reader} {sep : Char} (hsep : sep = d.delimiter ∨ sep = '\r')
    (hplace : r.place = .startField) (hfield : r.field = []) (field rest : List Char) :
    d.scan r (d.quote :: (d.escaped field ++ d.quote :: sep :: rest)) =
      if field.length ≤ d.limit then d.scan (r.closed field sep) rest
      else .error .fieldTooLarge := by
  have hne : d.quote ≠ '\n' := ne_newline d.quote_no_end
  have hopen : d.step r d.quote = .ok (r.goto .inQuoted) := by
    unfold step startField
    simp only [hplace, d.quote_no_end, if_true, if_false, Bool.false_eq_true]
  have hclose : ∀ r : Reader, r.place = .inQuoted →
      d.step r d.quote = .ok (r.goto .quoteInQuoted) := by
    intro r h
    unfold step
    simp only [h, if_true]
  rw [scan, hopen, except_ok_bind, if_neg hne, escaped,
    scan_writes (fun c _ => writes_inQuoted c) rfl (by simp [Reader.goto, hfield]), addAll]
  simp only [Reader.goto, hfield, List.length_nil, Nat.zero_add, List.nil_append]
  split
  · rw [except_ok_bind, scan, hclose _ rfl, except_ok_bind, if_neg hne]
    exact scan_separator hsep (.inr (.inr rfl)) rest
  · rfl

lemma scan_plain {r : Reader} {sep : Char} (hsep : sep = d.delimiter ∨ sep = '\r')
    (hplace : r.place = .startField) (hfield : r.field = []) {field : List Char}
    (hplain : ∀ c ∈ field, d.isSpecial c = false) (rest : List Char) :
    d.scan r (field ++ sep :: rest) =
      if field.length ≤ d.limit then d.scan (r.closed field sep) rest
      else .error .fieldTooLarge := by
  rcases field with _ | ⟨c, cs⟩
  · rw [List.nil_append, scan_separator hsep (.inl hplace), hfield,
      if_pos (show ([] : List Char).length ≤ _ from Nat.zero_le _)]
  · have hgoto : d.scan r (c :: cs ++ sep :: rest) =
        d.scan (r.goto .inField) ((c :: cs).flatMap (fun c => [c]) ++ sep :: rest) := by
      rw [List.flatMap_singleton', List.cons_append, scan, scan,
        step_goto_inField hplace (hplain c List.mem_cons_self)]
    rw [hgoto, scan_writes (fun c hc => writes_inField (hplain c hc)) rfl
      (by simp [Reader.goto, hfield]), addAll]
    simp only [Reader.goto, hfield, List.length_nil, Nat.zero_add, List.nil_append]
    split
    · exact scan_separator hsep (.inr (.inl rfl)) rest
    · rfl

/-- What the writer makes of a field is read as that field. -/
lemma scan_fieldText {r : Reader} {sep : Char} (hsep : sep = d.delimiter ∨ sep = '\r')
    (hplace : r.place = .startField) (hfield : r.field = []) (field rest : List Char) :
    d.scan r (d.fieldText field ++ sep :: rest) =
      if field.length ≤ d.limit then d.scan (r.closed field sep) rest
      else .error .fieldTooLarge := by
  unfold fieldText
  split
  · rw [← scan_quoted hsep hplace hfield]
    simp only [List.cons_append, List.append_assoc, List.nil_append]
  · next hplain =>
    refine scan_plain hsep hplace hfield (fun c hc => ?_) rest
    rw [List.any_eq_true] at hplain
    exact Bool.eq_false_iff.mpr fun h => hplain ⟨c, hc, h⟩

lemma intercalate_fields (field field' : List Char) (row : List (List Char)) :
    [d.delimiter].intercalate ((field :: field' :: row).map d.fieldText) =
      d.fieldText field ++
        d.delimiter :: [d.delimiter].intercalate ((field' :: row).map d.fieldText) := by
  simp [List.intercalate]

/-- The fields of a record from the first one on. -/
lemma scan_fields {r : Reader} (hplace : r.place = .startField) (hfield : r.field = [])
    {row : List (List Char)} (hrow : row ≠ []) (rest : List Char) :
    d.scan r ([d.delimiter].intercalate (row.map d.fieldText) ++ '\r' :: rest) =
      if d.RowFits row then d.scan ⟨.eatEnd, [], r.fields ++ row⟩ rest
      else .error .fieldTooLarge := by
  induction row generalizing r with
  | nil => exact absurd rfl hrow
  | cons field row ih =>
      rcases row with _ | ⟨field', row⟩
      · rw [List.map_singleton, List.intercalate_singleton, scan_fieldText (.inr rfl) hplace hfield]
        simp only [RowFits, List.mem_singleton, forall_eq]
        rfl
      · rw [intercalate_fields, List.append_assoc, List.cons_append,
          scan_fieldText (.inl rfl) hplace hfield]
        have hclosed : r.closed field d.delimiter =
            ⟨.startField, [], r.fields ++ [field]⟩ := by
          rw [Reader.closed, if_neg (by rw [d.delimiter_no_end]; decide)]
        have hfits : d.RowFits (field :: field' :: row) ↔
            field.length ≤ d.limit ∧ d.RowFits (field' :: row) := List.forall_mem_cons
        rw [hclosed, ih rfl rfl (List.cons_ne_nil _ _), List.append_assoc, List.singleton_append]
        by_cases hlength : field.length ≤ d.limit
        · simp only [hfits, hlength, true_and, if_true]
        · simp only [hfits, hlength, false_and, if_false]

/-- Where a field starts, it does not count where the reader was. -/
lemma startField_goto (r : Reader) (c : Char) (place : Place) :
    d.startField (r.goto place) c = d.startField r c := by
  unfold startField
  rw [add_goto, bind_assoc]
  simp only [pure_bind]
  rfl

lemma scan_start {c : Char} (h : isEnd c = false) (cs : List Char) :
    d.scan .start (c :: cs) = d.scan (Reader.start.goto .startField) (c :: cs) := by
  have hstep : d.step .start c = d.step (Reader.start.goto .startField) c := by
    refine Eq.trans ?_ (startField_goto .start c .startField).symm
    unfold step Reader.start
    simp only [h, if_false, Bool.false_eq_true]
  rw [scan, scan, hstep]

/-- The text of a record with fields does not start with a line end. -/
lemma exists_fields_text {row : List (List Char)} (hnil : row ≠ []) (hblank : row ≠ [[]]) :
    ∃ c cs, isEnd c = false ∧ [d.delimiter].intercalate (row.map d.fieldText) = c :: cs := by
  rcases row with _ | ⟨field, row⟩
  · exact absurd rfl hnil
  rcases field with _ | ⟨c, field⟩
  · rcases row with _ | ⟨field', row⟩
    · exact absurd rfl hblank
    · exact ⟨d.delimiter, _, d.delimiter_no_end, intercalate_fields [] field' row⟩
  · have hfirst : ∃ c' cs, isEnd c' = false ∧ d.fieldText (c :: field) = c' :: cs := by
      unfold fieldText
      split
      · exact ⟨_, _, d.quote_no_end, rfl⟩
      · next hplain =>
        refine ⟨c, field, ?_, rfl⟩
        rw [List.any_cons, Bool.or_eq_true, not_or, Bool.not_eq_true] at hplain
        exact (not_special hplain.1).2.2
    obtain ⟨c', cs, hend, htext⟩ := hfirst
    rcases row with _ | ⟨field', row⟩
    · exact ⟨c', cs, hend, by rw [List.map_singleton, List.intercalate_singleton, htext]⟩
    · exact ⟨c', _, hend, by rw [intercalate_fields, htext, List.cons_append]⟩

/-- A record that is written is read first. -/
theorem scan_rowText (row : List (List Char)) (rest : List Char) :
    d.scan .start (d.rowText row ++ rest) =
      if d.RowFits row then do return row :: (← d.scan .start rest)
      else .error .fieldTooLarge := by
  unfold rowText
  by_cases hblank : row = [[]]
  · subst hblank
    have hfits : d.RowFits [[]] := by simp [RowFits]
    have hquoted := scan_quoted (d := d) (r := Reader.start.goto .startField) (.inr rfl) rfl rfl []
      ('\n' :: rest)
    rw [if_pos (show ([] : List Char).length ≤ _ from Nat.zero_le _)] at hquoted
    rw [if_pos rfl, if_pos hfits]
    exact (scan_start d.quote_no_end _).trans hquoted
  by_cases hnil : row = []
  · subst hnil
    have hfits : d.RowFits [] := by simp [RowFits]
    rw [if_pos hfits]
    rfl
  rw [if_neg hblank, List.append_assoc]
  obtain ⟨c, cs, hend, htext⟩ := exists_fields_text (d := d) hnil hblank
  have hfields := scan_fields (d := d) (r := Reader.start.goto .startField) rfl rfl hnil
    ('\n' :: rest)
  rw [htext] at hfields
  rw [htext]
  exact (scan_start hend _).trans hfields

/-- The records that are written come before the text that follows them. -/
theorem scan_write (rows : List (List (List Char))) (rest : List Char) :
    d.scan .start (d.write rows ++ rest) =
      if ∀ row ∈ rows, d.RowFits row then do return rows ++ (← d.scan .start rest)
      else .error .fieldTooLarge := by
  induction rows with
  | nil =>
      rw [if_pos (by simp)]
      exact (bind_pure _).symm
  | cons row rows ih =>
      have hwrite : d.write (row :: rows) ++ rest = d.rowText row ++ (d.write rows ++ rest) := by
        rw [← List.append_assoc]
        rfl
      rw [hwrite, scan_rowText, ih]
      simp only [List.forall_mem_cons]
      by_cases hrow : d.RowFits row
      · simp only [hrow, true_and, if_true]
        split
        · rw [bind_assoc]
          rfl
        · rfl
      · simp only [hrow, false_and, if_false]

/-- Records are read as they were written, unless one of their fields is too long. -/
theorem read_write (rows : List (List (List Char))) :
    d.read (d.write rows) =
      if ∀ row ∈ rows, d.RowFits row then .ok rows else .error .fieldTooLarge := by
  have hscan := scan_write (d := d) rows []
  rw [List.append_nil] at hscan
  rw [read_eq_scan, hscan]
  split
  · exact congrArg Except.ok (List.append_nil rows)
  · rfl

/-! ## What is read is within the limit -/

/-- The reader holds no text beyond the limit. -/
structure Fits (d : Dialect) (r : Reader) : Prop where
  field : r.field.length ≤ d.limit
  fields : d.RowFits r.fields

lemma rowFits_append {row row' : List (List Char)} (h : d.RowFits row) (h' : d.RowFits row') :
    d.RowFits (row ++ row') := by
  intro field hfield
  rcases List.mem_append.mp hfield with hmem | hmem
  · exact h field hmem
  · exact h' field hmem

lemma fits_start : d.Fits .start := ⟨Nat.zero_le _, by simp [RowFits, Reader.start]⟩

lemma fits_save {r : Reader} (h : d.Fits r) : d.Fits r.save :=
  ⟨Nat.zero_le _, rowFits_append h.fields (by simpa [RowFits] using h.field)⟩

lemma fits_step {r r' : Reader} {c : Char} (h : d.Fits r) (hstep : d.step r c = .ok r') :
    d.Fits r' := by
  obtain ⟨place, -, hmoves⟩ := moves_of_step hstep
  cases hmoves with
  | goto => exact ⟨h.field, h.fields⟩
  | save => exact ⟨(fits_save h).field, (fits_save h).fields⟩
  | add hlt =>
      refine ⟨?_, h.fields⟩
      simp only [Reader.goto, List.length_append, List.length_singleton]
      omega

lemma fits_endLine {r : Reader} (h : d.Fits r) : d.Fits r.endLine := by
  rcases r with ⟨place, field, fields⟩
  cases place
  case startRecord | inQuoted | eatEnd => exact ⟨h.field, h.fields⟩
  all_goals exact ⟨(fits_save h).field, (fits_save h).fields⟩

lemma rowFits_of_scan {r : Reader} {cs : List Char} {rows : List (List (List Char))}
    (hr : d.Fits r) (h : d.scan r cs = .ok rows) : ∀ row ∈ rows, d.RowFits row := by
  induction cs generalizing r rows with
  | nil =>
      rw [← Except.ok.inj h]
      unfold atEnd
      split
      · simp
      · simpa using hr.fields
      all_goals simpa using (fits_save hr).fields
  | cons c cs ih =>
      obtain ⟨r', hstep, h⟩ := except_bind_eq_ok.mp h
      have hr' := fits_step hr hstep
      split at h
      · unfold Reader.afterLine at h
        split at h
        · obtain ⟨rows', htail, h⟩ := except_bind_eq_ok.mp h
          rw [← Except.ok.inj h, List.forall_mem_cons]
          exact ⟨(fits_endLine hr').fields, ih fits_start htail⟩
        · exact ih (fits_endLine hr') h
      · exact ih hr' h

lemma rowFits_of_read {text : List Char} {rows : List (List (List Char))}
    (h : d.read text = .ok rows) : ∀ row ∈ rows, d.RowFits row := by
  rw [read_eq_scan] at h
  exact rowFits_of_scan fits_start h

end Dialect

/-! ## How the first field starts -/

/-- The reader is in a record whose first field is closed and starts with `c`. -/
def Reader.StartsWith (r : Reader) (c : Char) : Prop :=
  ∃ field fields, r.fields = (c :: field) :: fields

lemma Reader.StartsWith.save {r : Reader} {c : Char} (h : r.StartsWith c) :
    r.save.StartsWith c := by
  obtain ⟨field, fields, hfields⟩ := h
  exact ⟨field, fields ++ [r.field], by simp [Reader.save, hfields]⟩

lemma Reader.StartsWith.endLine {r : Reader} {c : Char} (h : r.StartsWith c) :
    r.endLine.StartsWith c := by
  rcases r with ⟨place, field, fields⟩
  cases place
  case startRecord | inQuoted | eatEnd => exact h
  all_goals exact h.save

/-- The reader is in the first field of a record, which starts with `c`. -/
structure Reader.Begins (r : Reader) (c : Char) : Prop where
  place : r.place = .inField
  fields : r.fields = []
  field : ∃ field, r.field = c :: field

lemma Reader.Begins.save {r : Reader} {c : Char} (h : r.Begins c) : r.save.StartsWith c := by
  obtain ⟨field, hfield⟩ := h.field
  exact ⟨field, [], by simp [Reader.save, h.fields, hfield]⟩

namespace Dialect

variable {d : Dialect} {r r' : Reader} {c x : Char}

lemma startsWith_step (h : r.StartsWith c) (hstep : d.step r x = .ok r') : r'.StartsWith c := by
  obtain ⟨place, -, hmoves⟩ := moves_of_step hstep
  cases hmoves with
  | goto => exact h
  | save => exact h.save
  | add hlt => exact h

lemma begins_step (h : r.Begins c) (hstep : d.step r x = .ok r') :
    r'.StartsWith c ∨ r'.Begins c ∧ isEnd x = false := by
  unfold step at hstep
  simp only [h.place] at hstep
  split at hstep
  · rw [← Except.ok.inj hstep]
    exact .inl h.save
  next hend =>
    split at hstep
    · rw [← Except.ok.inj hstep]
      exact .inl h.save
    · obtain ⟨-, rfl⟩ := add_eq_ok hstep
      obtain ⟨field, hfield⟩ := h.field
      exact .inr ⟨⟨h.place, h.fields, field ++ [x], by simp [hfield]⟩, by simpa using hend⟩

lemma scan_startsWith {cs : List Char} {rows : List (List (List Char))}
    (hr : r.place ≠ .startRecord ∧ r.StartsWith c ∨ r.Begins c) (h : d.scan r cs = .ok rows) :
    ∃ field fields rest, rows = ((c :: field) :: fields) :: rest := by
  induction cs generalizing r with
  | nil =>
      rw [← Except.ok.inj h]
      unfold atEnd
      rcases hr with ⟨hplace, hstarts⟩ | hbegins
      · obtain ⟨field, fields, hfields⟩ := hstarts
        obtain ⟨field', fields', hfields'⟩ := Reader.StartsWith.save ⟨field, fields, hfields⟩
        split
        · next hstart => exact absurd hstart hplace
        · exact ⟨field, fields, [], by rw [hfields]⟩
        all_goals exact ⟨field', fields', [], by rw [hfields']⟩
      · obtain ⟨field, fields, hfields⟩ := hbegins.save
        rw [hbegins.place]
        exact ⟨field, fields, [], by rw [hfields]⟩
  | cons x cs ih =>
      obtain ⟨r', hstep, h⟩ := except_bind_eq_ok.mp h
      -- once the letter stands in the first field it stays there
      have hclosed : r'.StartsWith c → ∃ field fields rest,
          rows = ((c :: field) :: fields) :: rest := by
        intro hstarts
        split at h
        · unfold Reader.afterLine at h
          split at h
          · obtain ⟨rest, -, h⟩ := except_bind_eq_ok.mp h
            obtain ⟨field, fields, hfields⟩ := hstarts.endLine
            rw [hfields] at h
            exact ⟨field, fields, rest, (Except.ok.inj h).symm⟩
          · next hplace => exact ih (.inl ⟨hplace, hstarts.endLine⟩) h
        · exact ih (.inl ⟨place_step hstep, hstarts⟩) h
      -- the letter is there already, or it comes next, perhaps after a quote
      rcases hr with ⟨-, hstarts⟩ | hbegins
      · exact hclosed (startsWith_step hstarts hstep)
      · rcases begins_step hbegins hstep with hstarts | ⟨hbegins', hend⟩
        · exact hclosed hstarts
        · rw [if_neg (ne_newline hend)] at h
          exact ih (.inr hbegins') h

/-- A plain character that starts the text starts the first field. -/
theorem read_cons {rows : List (List (List Char))} {cs : List Char}
    (hc : d.isSpecial c = false) (h : d.read (c :: cs) = .ok rows) :
    ∃ field fields rest, rows = ((c :: field) :: fields) :: rest := by
  obtain ⟨-, -, hend⟩ := not_special hc
  rw [read_eq_scan, scan_start hend] at h
  obtain ⟨r', hstep, h⟩ := except_bind_eq_ok.mp h
  rw [if_neg (ne_newline hend)] at h
  rw [step_goto_inField rfl hc, step_inField rfl hc] at hstep
  obtain ⟨-, rfl⟩ := add_eq_ok hstep
  exact scan_startsWith (.inr ⟨rfl, rfl, [], rfl⟩) h

end Dialect

end Framework.Csv
