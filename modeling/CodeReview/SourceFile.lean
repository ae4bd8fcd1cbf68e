import CodeReview.Validation
import CodeReview.Text.Basic
import CodeReview.Text.Utf8

/-!
A source file: the name that it is reported under, and its text.
-/

namespace CodeReview

structure SourceFile where
  name : String
  content : String
  deriving DecidableEq, Repr

namespace SourceFile

def lines (f : SourceFile) : List String :=
  (Text.lines f.content.toList).map String.ofList

def check (j : Json) : Checked SourceFile :=
  match j with
  | .obj _ =>
    SourceFile.mk <$> Check.required j "name" Check.text <*> Check.required j "content" Check.text
  | _ => .fail .notRecord

/-- The text that bytes stand for: what they encode in UTF-8, or else one character for each byte.
Bytes with a zero among them are no text. -/
def decode? (bytes : List UInt8) : Option String :=
  if bytes.contains 0 then none
  else some <| String.ofList <| match Text.Utf8.decode? bytes with
    | some t => t
    | none => bytes.map fun b => Char.ofNat b.toNat

def binaryMessage (name : String) : String :=
  name ++ " looks like a binary file"

def ofBytes (name : String) (bytes : List UInt8) : Except String SourceFile :=
  match decode? bytes with
  | some content => .ok ⟨name, content⟩
  | none => .error (binaryMessage name)

end SourceFile

end CodeReview
