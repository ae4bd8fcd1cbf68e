import CodeReview.Json.Value
import CodeReview.Number.Decimal
import CodeReview.Text.Quoted

/-!
JSON texts in ASCII. `compact` puts a whole value on one line, and `indented` puts each item and
each field on a line of its own, two blanks deeper than what holds it.
-/

namespace CodeReview.Json

def unitEscape (n : Nat) : List Char :=
  '\\' :: 'u' :: Text.hexDigits 4 n

def escapeChar (c : Char) : List Char :=
  if c == '"' then ['\\', '"']
  else if c == '\\' then ['\\', '\\']
  else if c == '\n' then ['\\', 'n']
  else if c == '\r' then ['\\', 'r']
  else if c == '\t' then ['\\', 't']
  else if c.toNat == 8 then ['\\', 'b']
  else if c.toNat == 12 then ['\\', 'f']
  else if 32 ≤ c.toNat && c.toNat < 127 then [c]
  else if c.toNat < 0x10000 then unitEscape c.toNat
  else
    let n := c.toNat - 0x10000
    unitEscape (0xD800 + n / 1024) ++ unitEscape (0xDC00 + n % 1024)

def writeString (s : String) : List Char :=
  '"' :: s.toList.flatMap escapeChar ++ ['"']

def writeInt (i : Int) : List Char :=
  (if i < 0 then ['-'] else []) ++ Nat.toDigits 10 i.natAbs

def writeFloat : Binary64 → List Char
  | .nan => "NaN".toList
  | .infinite s => (if s then "-Infinity" else "Infinity").toList
  | x => x.text.toList

def writeScalar : Json → List Char
  | .null => "null".toList
  | .bool b => (if b then "true" else "false").toList
  | .int i => writeInt i
  | .float x => writeFloat x
  | .str s => writeString s
  | _ => []

mutual

def compact : Json → List Char
  | .arr xs => '[' :: compactItems xs ++ [']']
  | .obj fs => '{' :: compactFields fs ++ ['}']
  | j => writeScalar j

def compactItems : List Json → List Char
  | [] => []
  | [x] => compact x
  | x :: xs => compact x ++ ',' :: ' ' :: compactItems xs

def compactFields : List (String × Json) → List Char
  | [] => []
  | [(n, v)] => writeString n ++ ':' :: ' ' :: compact v
  | (n, v) :: fs => writeString n ++ ':' :: ' ' :: compact v ++ ',' :: ' ' :: compactFields fs

end

def newLine (d : Nat) : List Char :=
  '\n' :: List.replicate (2 * d) ' '

mutual

/-- The text of a value whose last line stands at depth `d`. -/
def indentedAt (d : Nat) : Json → List Char
  | .arr [] => ['[', ']']
  | .arr xs => '[' :: newLine (d + 1) ++ indentedItems (d + 1) xs ++ newLine d ++ [']']
  | .obj [] => ['{', '}']
  | .obj fs => '{' :: newLine (d + 1) ++ indentedFields (d + 1) fs ++ newLine d ++ ['}']
  | j => writeScalar j

def indentedItems (d : Nat) : List Json → List Char
  | [] => []
  | [x] => indentedAt d x
  | x :: xs => indentedAt d x ++ ',' :: newLine d ++ indentedItems d xs

def indentedFields (d : Nat) : List (String × Json) → List Char
  | [] => []
  | [(n, v)] => writeString n ++ ':' :: ' ' :: indentedAt d v
  | (n, v) :: fs =>
    writeString n ++ ':' :: ' ' :: indentedAt d v ++ ',' :: newLine d ++ indentedFields d fs

end

def compactText (j : Json) : String :=
  String.ofList j.compact

def indented (j : Json) : String :=
  String.ofList (j.indentedAt 0)

mutual

def sorted : Json → Json
  | .arr xs => .arr (sortedItems xs)
  | .obj fs => .obj ((sortedFields fs).mergeSort fun f g => decide (f.1 ≤ g.1))
  | j => j

def sortedItems : List Json → List Json
  | [] => []
  | x :: xs => sorted x :: sortedItems xs

def sortedFields : List (String × Json) → List (String × Json)
  | [] => []
  | (n, v) :: fs => (n, sorted v) :: sortedFields fs

end

end CodeReview.Json
