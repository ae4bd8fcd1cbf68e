import CodeReview.Text.Basic

/-!
Files of settings: one name and its value on a line, where a quoted value may run over several
lines. A line that cannot be read is passed over. A value may name earlier ones and variables of
the environment, which are put in its place.
-/

namespace CodeReview.EnvFile

open Text

def plainBreaks : List Char → List Char
  | [] => []
  | '\r' :: '\n' :: t => '\n' :: plainBreaks t
  | '\r' :: t => '\n' :: plainBreaks t
  | c :: t => c :: plainBreaks t

def isGap (c : Char) : Bool :=
  isBlank c && c != '\n'

def skipGap (t : List Char) : List Char :=
  t.dropWhile isGap

/-- What has been read, with the rest of the text, or the place at which reading failed. -/
abbrev Reading (α : Type) := Except (List Char) (α × List Char)

def skipExport (t : List Char) : List Char :=
  match after? "export".toList t with
  | some r => if r.head?.any isGap then skipGap r else t
  | none => t

def isNameChar (c : Char) : Bool :=
  c != '=' && c != '#' && !isBlank c

def readName (t : List Char) : Reading (Option (List Char)) :=
  match t with
  | '#' :: _ => .ok (none, t)
  | '\'' :: r =>
    match r.takeWhile (· != '\''), r.dropWhile (· != '\'') with
    | [], _ => .error t
    | _, [] => .error t
    | n, _ :: r => .ok (some n, r)
  | _ =>
    match t.takeWhile isNameChar with
    | [] => .error t
    | n => .ok (some n, t.dropWhile isNameChar)

def toQuote? (q : Char) : List Char → Option (List Char × List Char)
  | [] => none
  | '\\' :: c :: t => (toQuote? q t).map fun (v, r) => ('\\' :: c :: v, r)
  | c :: t => if c = q then some ([], t) else (toQuote? q t).map fun (v, r) => (c :: v, r)

def unescape (escape? : Char → Option Char) : List Char → List Char
  | [] => []
  | '\\' :: c :: t =>
    match escape? c with
    | some d => d :: unescape escape? t
    | none => '\\' :: unescape escape? (c :: t)
  | c :: t => c :: unescape escape? t

def singleEscape? (c : Char) : Option Char :=
  if c = '\\' ∨ c = '\'' then some c else none

def doubleEscape? (c : Char) : Option Char :=
  match c with
  | '\\' => some '\\'
  | '\'' => some '\''
  | '"' => some '"'
  | 'a' => some '\x07'
  | 'b' => some '\x08'
  | 'f' => some '\x0c'
  | 'n' => some '\n'
  | 'r' => some '\r'
  | 't' => some '\t'
  | 'v' => some '\x0b'
  | _ => none

/-- A value without quotes ends where white space and a hash sign begin a comment. -/
def beforeComment : List Char → List Char
  | [] => []
  | c :: t =>
    if isBlank c && (trimStart t).head? == some '#' then [] else c :: beforeComment t

/-- Reads a value behind the equals sign. White space in front of it does not belong to it, but
makes a hash sign the start of a comment. -/
def readValue (t : List Char) : Reading (List Char) :=
  match skipGap t with
  | '\'' :: r => match toQuote? '\'' r with
    | some (v, r) => .ok (unescape singleEscape? v, r)
    | none => .error r
  | '"' :: r => match toQuote? '"' r with
    | some (v, r) => .ok (unescape doubleEscape? v, r)
    | none => .error r
  | _ =>
    .ok (trim (beforeComment (t.takeWhile (· != '\n'))), t.dropWhile (· != '\n'))

/-- A name and its value, where a name alone has none. -/
abbrev Entry := String × Option String

def readEnd (t : List Char) : Reading Unit :=
  let r := match skipGap t with
    | '#' :: r => r.dropWhile (· != '\n')
    | _ => t
  match skipGap r with
  | [] => .ok ((), [])
  | '\n' :: r => .ok ((), r)
  | _ => .error r

def readAssigned (t : List Char) : Reading (Option String) :=
  match skipGap t with
  | '=' :: r => (readValue r).map fun (v, r) => (some (String.ofList v), r)
  | r => .ok (none, r)

def readEntry (t : List Char) : Reading (Option Entry) :=
  match readName (skipExport t) with
  | .error r => .error r
  | .ok (name, r) =>
    match readAssigned r with
    | .error r => .error r
    | .ok (value, r) =>
      (readEnd r).map fun (_, r) => (name.map fun n => (String.ofList n, value), r)

/-- Reads entry after entry. Each takes up some of the text, so there are no more entries than
characters. -/
def readEntries : (fuel : Nat) → List Char → List Entry
  | 0, _ => []
  | fuel + 1, t =>
    match trimStart t with
    | [] => []
    | t =>
      match readEntry t with
      | .ok (some e, r) => e :: readEntries fuel r
      | .ok (none, r) => readEntries fuel r
      | .error r => readEntries fuel ((r.dropWhile (· != '\n')).drop 1)

def withoutMark (t : List Char) : List Char :=
  if t.head? = some '\uFEFF' then t.drop 1 else t

def rawEntries (text : String) : List Entry :=
  let t := plainBreaks (withoutMark text.toList)
  readEntries t.length t

def reference? (t : List Char) : Option (List Char × List Char × List Char) :=
  let name := t.takeWhile fun c => c != '}' && c != ':'
  match t.dropWhile fun c => c != '}' && c != ':' with
  | '}' :: r => some (name, [], r)
  | ':' :: '-' :: r =>
    match r.dropWhile (· != '}') with
    | '}' :: r' => some (name, r.takeWhile (· != '}'), r')
    | _ => none
  | _ => none

/-- The value with references replaced by what `find?` knows, or else by their defaults. A
reference takes up some of the text, so as many steps as there are characters are enough. -/
def expandFrom (find? : String → Option String) : (fuel : Nat) → List Char → List Char
  | 0, t => t
  | _ + 1, [] => []
  | fuel + 1, '$' :: '{' :: t =>
    match reference? t with
    | some (name, default, r) =>
      ((find? (String.ofList name)).map String.toList).getD default ++ expandFrom find? fuel r
    | none => '$' :: expandFrom find? fuel ('{' :: t)
  | fuel + 1, c :: t => c :: expandFrom find? fuel t

def expand (find? : String → Option String) (value : String) : String :=
  String.ofList (expandFrom find? value.length value.toList)

def put (entries : List Entry) (name : String) (value : Option String) : List Entry :=
  match entries with
  | [] => [(name, value)]
  | (n, v) :: es => if n == name then (n, value) :: es else (n, v) :: put es name value

/-- What a reference to a name stands for: an earlier entry, or else a variable. A name that is
there without a value stands for nothing. -/
def known? (environment : List (String × String)) (entries : List Entry) (name : String) :
    Option String :=
  match entries.find? (·.1 == name) with
  | some (_, v) => some (v.getD "")
  | none => (environment.reverse.find? (·.1 == name)).map (·.2)

/-- The entries of a file with their references replaced, each by the entries before it. -/
def entries (environment : List (String × String)) (text : String) : List Entry :=
  (rawEntries text).foldl
    (fun es (n, v) => put es n (v.map (expand (known? environment es)))) []

end CodeReview.EnvFile
