import CodeReview.Json.Value
import CodeReview.Number.Notation

/-!
Reading JSON texts. A text that is no JSON is refused with the first fault in it and the place of
that fault. Beyond the grammar the reader takes the words for the numbers that JSON cannot write,
and of several fields of one name the last counts. A list or an object that stands too deep inside
of others is not read, since the reader has only so much room for those that it has not finished.
-/

namespace CodeReview.Json

inductive Nest where
  | list
  | object
  deriving DecidableEq, Repr

inductive Fault where
  | value
  | fieldName
  | colon
  | comma
  | unterminated
  | control
  | escape
  | unicodeEscape
  | extra
  | byteOrderMark
  | longInteger (digits : Nat)
  | tooDeep (nest : Nest)
  deriving DecidableEq, Repr

/-- A fault, with the rest of the text from the place where it shows. -/
structure Flaw where
  fault : Fault
  rest : List Char

abbrev Reading (α : Type) := Except Flaw (α × List Char)

def refuse {α : Type} (fault : Fault) (rest : List Char) : Reading α :=
  .error ⟨fault, rest⟩

def isSpace (c : Char) : Bool :=
  c == ' ' || c == '\t' || c == '\n' || c == '\r'

def skipSpace (t : List Char) : List Char :=
  t.dropWhile isSpace

def hexValue? (c : Char) : Option Nat :=
  if '0' ≤ c ∧ c ≤ '9' then some (c.toNat - 48)
  else if 'a' ≤ c ∧ c ≤ 'f' then some (c.toNat - 87)
  else if 'A' ≤ c ∧ c ≤ 'F' then some (c.toNat - 55)
  else none

def unit? (a b c d : Char) : Option Nat := do
  let a ← hexValue? a
  let b ← hexValue? b
  let c ← hexValue? c
  let d ← hexValue? d
  return ((a * 16 + b) * 16 + c) * 16 + d

def isHighUnit (n : Nat) : Bool := 0xD800 ≤ n && n < 0xDC00

def isLowUnit (n : Nat) : Bool := 0xDC00 ≤ n && n < 0xE000

/-- The character of a unit on its own; half of a pair has none and is replaced. -/
def unitChar (n : Nat) : Char :=
  if isHighUnit n || isLowUnit n then '\uFFFD' else Char.ofNat n

def pairChar (high low : Nat) : Char :=
  Char.ofNat (0x10000 + (high - 0xD800) * 1024 + (low - 0xDC00))

def shortEscape? (c : Char) : Option Char :=
  match c with
  | '"' => some '"'
  | '\\' => some '\\'
  | '/' => some '/'
  | 'b' => some '\x08'
  | 'f' => some '\x0c'
  | 'n' => some '\n'
  | 'r' => some '\r'
  | 't' => some '\t'
  | _ => none

inductive Mark where
  | close (rest : List Char)
  | char (c : Char) (rest : List Char)
  | flaw (f : Flaw)

def Mark.rest : Mark → List Char
  | .close r => r
  | .char _ r => r
  | .flaw _ => []

/-- The character whose first unit is `n`, of which the second may follow in `t`. A pair is only
looked for where something stands behind it. -/
def pairMark (n : Nat) (t : List Char) : Mark :=
  match t with
  | '\\' :: 'u' :: a :: b :: c :: d :: e :: r =>
    if isHighUnit n then
      match unit? a b c d with
      | none => .flaw ⟨.unicodeEscape, 'u' :: a :: b :: c :: d :: e :: r⟩
      | some m => if isLowUnit m then .char (pairChar n m) (e :: r) else .char (unitChar n) t
    else .char (unitChar n) t
  | _ => .char (unitChar n) t

def unicodeMark (t : List Char) : Mark :=
  match t with
  | a :: b :: c :: d :: e :: r =>
    match unit? a b c d with
    | none => .flaw ⟨.unicodeEscape, 'u' :: t⟩
    | some n => pairMark n (e :: r)
  | _ => .flaw ⟨.unicodeEscape, 'u' :: t⟩

def mark (start t : List Char) : Mark :=
  match t with
  | [] => .flaw ⟨.unterminated, start⟩
  | '"' :: r => .close r
  | ['\\'] => .flaw ⟨.unterminated, start⟩
  | '\\' :: 'u' :: r => unicodeMark r
  | '\\' :: c :: r =>
    match shortEscape? c with
    | some c => .char c r
    | none => .flaw ⟨.escape, t⟩
  | c :: r => if c.toNat < 32 then .flaw ⟨.control, t⟩ else .char c r

theorem length_rest_pairMark (n : Nat) (t : List Char) : (pairMark n t).rest.length ≤ t.length := by
  unfold pairMark
  repeat' split
  all_goals simp only [Mark.rest, List.length_cons, List.length_nil]; omega

theorem length_rest_unicodeMark (t : List Char) : (unicodeMark t).rest.length ≤ t.length := by
  unfold unicodeMark
  split
  · split
    · simp [Mark.rest]
    · exact Nat.le_trans (length_rest_pairMark _ _) (by simp)
  · simp [Mark.rest]

theorem length_of_mark {start t r : List Char} {c : Char} (h : mark start t = .char c r) :
    r.length < t.length := by
  have hr : (mark start t).rest = r := by rw [h]; rfl
  unfold mark at h hr
  split at h
  · simp at h
  · simp at h
  · simp at h
  · next r' =>
    have := length_rest_unicodeMark r'
    simp only at hr
    rw [hr] at this
    simp only [List.length_cons]
    omega
  · split at h
    · simp only [Mark.char.injEq] at h
      rw [← h.2]
      simp only [List.length_cons]
      omega
    · simp at h
  · split at h
    · simp at h
    · simp only [Mark.char.injEq] at h
      rw [← h.2]
      simp only [List.length_cons]
      omega

def stringBody (start t : List Char) : Reading (List Char) :=
  match _h : mark start t with
  | .close r => .ok ([], r)
  | .char c r => (stringBody start r).map fun (s, r) => (c :: s, r)
  | .flaw f => .error f
termination_by t.length
decreasing_by exact length_of_mark _h

def readString (t : List Char) : Reading String :=
  (stringBody ('"' :: t) t).map fun (s, r) => (String.ofList s, r)

def digitsOf (t : List Char) : List Char × List Char :=
  (t.takeWhile Char.isDigit, t.dropWhile Char.isDigit)

def numberOf (ds : List Char) : Nat :=
  NumberNotation.valueOf (ds.map fun c => c.toNat - 48)

def readFraction : List Char → List Char × List Char
  | '.' :: t => match digitsOf t with
    | ([], _) => ([], '.' :: t)
    | dr => dr
  | t => ([], t)

def readExponent : List Char → Option Int × List Char
  | c :: t =>
    if c == 'e' || c == 'E' then
      let (negative, r) := NumberNotation.sign t
      match digitsOf r with
      | ([], _) => (none, c :: t)
      | (ds, r) => (some (if negative then -(numberOf ds : Int) else numberOf ds), r)
    else (none, c :: t)
  | [] => (none, [])

def readWhole : List Char → List Char × List Char
  | '0' :: t => (['0'], t)
  | t => digitsOf t

def readNumber (negative : Bool) (start t : List Char) : Reading Json :=
  match readWhole t with
  | ([], _) => refuse .value start
  | (whole, r) =>
    let (fraction, r) := readFraction r
    let (exponent, r) := readExponent r
    if fraction.isEmpty && exponent.isNone then
      if NumberNotation.maxDigits < whole.length then refuse (.longInteger whole.length) start
      else .ok (.int (if negative then -(numberOf whole : Int) else numberOf whole), r)
    else
      let d : Decimal := ⟨numberOf (whole ++ fraction), exponent.getD 0 - fraction.length⟩
      .ok (.float (d.toBinary64 negative), r)

def readScalar (t : List Char) : Reading Json :=
  let word (w : String) (v : Json) (otherwise : Reading Json) : Reading Json :=
    match Text.after? w.toList t with
    | some r => .ok (v, r)
    | none => otherwise
  match t with
  | 'n' :: _ => word "null" .null (refuse .value t)
  | 't' :: _ => word "true" (.bool true) (refuse .value t)
  | 'f' :: _ => word "false" (.bool false) (refuse .value t)
  | 'N' :: _ => word "NaN" (.float .nan) (refuse .value t)
  | 'I' :: _ => word "Infinity" (.float (.infinite false)) (refuse .value t)
  | '-' :: r => word "-Infinity" (.float (.infinite true)) (readNumber true t r)
  | _ => readNumber false t t

mutual

/-- Reads the value at the start of a text, with room for `room` levels of nesting. Each level of
nesting and each item uses up one of the fuel, and takes up a character at least every second
time. -/
def readValue : (fuel room : Nat) → List Char → Reading Json
  | 0, _, t => refuse .value t
  | fuel + 1, room, t =>
    match t with
    | '"' :: r => (readString r).map fun (s, r) => (.str s, r)
    | '[' :: r =>
      match room with
      | 0 => refuse (.tooDeep .list) t
      | room + 1 =>
        match skipSpace r with
        | ']' :: r => .ok (.arr [], r)
        | r => (readItems fuel room r).map fun (xs, r) => (.arr xs, r)
    | '{' :: r =>
      match room with
      | 0 => refuse (.tooDeep .object) t
      | room + 1 =>
        match skipSpace r with
        | '}' :: r => .ok (.obj [], r)
        | r => (readFields fuel room [] r).map fun (fs, r) => (.obj fs, r)
    | _ => readScalar t

def readItems : (fuel room : Nat) → List Char → Reading (List Json)
  | 0, _, t => refuse .value t
  | fuel + 1, room, t =>
    match readValue fuel room t with
    | .error e => .error e
    | .ok (x, r) =>
      match skipSpace r with
      | ']' :: r => .ok ([x], r)
      | ',' :: r => (readItems fuel room (skipSpace r)).map fun (xs, r) => (x :: xs, r)
      | r => refuse .comma r

def readFields : (fuel room : Nat) → (read : List (String × Json)) → List Char →
    Reading (List (String × Json))
  | 0, _, _, t => refuse .value t
  | fuel + 1, room, read, t =>
    match t with
    | '"' :: t =>
      match readString t with
      | .error e => .error e
      | .ok (name, r) =>
        match skipSpace r with
        | ':' :: r =>
          match readValue fuel room (skipSpace r) with
          | .error e => .error e
          | .ok (v, r) =>
            match skipSpace r with
            | '}' :: r => .ok (put read name v, r)
            | ',' :: r => readFields fuel room (put read name v) (skipSpace r)
            | r => refuse .comma r
        | r => refuse .colon r
    | t => refuse .fieldName t

end

/-- The number of levels that the reader has room for, where a file of a batch is reviewed: there
the calls that lead to it take up some of the room that a thread has. -/
def maxDepth : Nat := 985

def readText (t : List Char) : Except Flaw Json :=
  match t with
  | '\uFEFF' :: _ => .error ⟨.byteOrderMark, t⟩
  | _ =>
    match readValue (2 * t.length + 2) maxDepth (skipSpace t) with
    | .error e => .error e
    | .ok (v, r) =>
      match skipSpace r with
      | [] => .ok v
      | r => .error ⟨.extra, r⟩

/-- A fault and its place: the number of characters before it, and its line and column. -/
structure ReadError where
  fault : Fault
  offset : Nat
  line : Nat
  column : Nat
  deriving DecidableEq, Repr

def Nest.name : Nest → String
  | .list => "array"
  | .object => "object"

def Fault.text : Fault → String
  | .value => "Expecting value"
  | .fieldName => "Expecting property name enclosed in double quotes"
  | .colon => "Expecting ':' delimiter"
  | .comma => "Expecting ',' delimiter"
  | .unterminated => "Unterminated string starting at"
  | .control => "Invalid control character at"
  | .escape => "Invalid \\escape"
  | .unicodeEscape => "Invalid \\uXXXX escape"
  | .extra => "Extra data"
  | .byteOrderMark => "Unexpected UTF-8 BOM (decode using utf-8-sig)"
  | .longInteger n =>
    "Exceeds the limit (" ++ toString NumberNotation.maxDigits
      ++ " digits) for integer string conversion: value has " ++ toString n
      ++ " digits; use sys.set_int_max_str_digits() to increase the limit"
  | .tooDeep n =>
    "maximum recursion depth exceeded while decoding a JSON " ++ n.name ++ " from a unicode string"

def ReadError.message (e : ReadError) : String :=
  match e.fault with
  | .longInteger n => (Fault.longInteger n).text
  | .tooDeep n => (Fault.tooDeep n).text
  | f => f.text ++ ": line " ++ toString e.line ++ " column " ++ toString e.column
      ++ " (char " ++ toString e.offset ++ ")"

def Flaw.locate (f : Flaw) (t : List Char) : ReadError :=
  let before := t.take (t.length - f.rest.length)
  { fault := f.fault
    offset := before.length
    line := before.count '\n' + 1
    column := (before.reverse.takeWhile (· != '\n')).length + 1 }

def read (s : String) : Except ReadError Json :=
  (readText s.toList).mapError fun f => f.locate s.toList

end CodeReview.Json
