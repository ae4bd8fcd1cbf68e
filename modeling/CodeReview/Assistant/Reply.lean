import CodeReview.Json.Reader
import CodeReview.Json.Writer
import CodeReview.Text.Quoted

/-!
Replies of a language model. The text of a reply is the `content` of the `message` of the first
of the `choices` in the body; the way there tells what a malformed body is lacking.
-/

namespace CodeReview

def Json.kindName : Json → String
  | .null => "NoneType"
  | .bool _ => "bool"
  | .int _ => "int"
  | .float _ => "float"
  | .str _ => "str"
  | .arr _ => "list"
  | .obj _ => "dict"

inductive Step where
  | field (name : String)
  | first
  deriving DecidableEq, Repr

inductive StepFault where
  | noField (name : String)
  | noFirstField
  | emptyList
  | emptyText
  | fieldOfList
  | fieldOfText
  | noParts (kind : String)
  deriving DecidableEq, Repr

def StepFault.message : StepFault → String
  | .noField name => Text.quoted name
  | .noFirstField => "0"
  | .emptyList => "list index out of range"
  | .emptyText => "string index out of range"
  | .fieldOfList => "list indices must be integers or slices, not str"
  | .fieldOfText => "string indices must be integers, not 'str'"
  | .noParts kind => "'" ++ kind ++ "' object is not subscriptable"

def Json.step (j : Json) : Step → Except StepFault Json
  | .field name =>
    match j with
    | .obj _ => match j.field? name with
      | some v => .ok v
      | none => .error (.noField name)
    | .arr _ => .error .fieldOfList
    | .str _ => .error .fieldOfText
    | _ => .error (.noParts j.kindName)
  | .first =>
    match j with
    | .arr (x :: _) => .ok x
    | .arr [] => .error .emptyList
    | .str s => match s.toList with
      | c :: _ => .ok (.str (String.singleton c))
      | [] => .error .emptyText
    | .obj _ => .error .noFirstField
    | _ => .error (.noParts j.kindName)

inductive ReplyFault where
  | notJson (error : Json.ReadError)
  | misplaced (fault : StepFault)
  | notText (kind : String)
  deriving DecidableEq, Repr

def ReplyFault.message : ReplyFault → String
  | .notJson e => e.message
  | .misplaced f => f.message
  | .notText kind => "content is " ++ kind ++ ", not text"

namespace Reply

def way : List Step := [.field "choices", .first, .field "message", .field "content"]

/-- The text of a reply; a reply whose content is null is empty. -/
def text (body : String) : Except ReplyFault String :=
  match Json.read body with
  | .error e => .error (.notJson e)
  | .ok j =>
    match way.foldlM Json.step j with
    | .error f => .error (.misplaced f)
    | .ok .null => .ok ""
    | .ok (.str s) => .ok s
    | .ok v => .error (.notText v.kindName)

end Reply

end CodeReview
