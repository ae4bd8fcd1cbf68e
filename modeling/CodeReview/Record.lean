import CodeReview.Review
import CodeReview.SourceFile

/-!
The kinds of records that are handed around, by their names, and the rule on giving the fields of
a record new values afterwards.
-/

namespace CodeReview

inductive RecordKind where
  | sourceFile
  | finding
  | analysis
  | review
  deriving DecidableEq, Repr

namespace RecordKind

def name : RecordKind → String
  | .sourceFile => "SourceFile"
  | .finding => "Finding"
  | .analysis => "AnalysisResult"
  | .review => "Review"

def fields : RecordKind → List String
  | .sourceFile => ["name", "content"]
  | .finding => ["severity", "message", "line", "rule"]
  | .analysis => ["issues", "suggestions"]
  | .review =>
    ["filename", "language", "score", "issues", "suggestions", "summary", "error"]

def derived : RecordKind → List String
  | .sourceFile => ["lines"]
  | .finding => []
  | .analysis => ["has_critical"]
  | .review => ["failed"]

def isFrozen : RecordKind → Bool
  | .sourceFile => true
  | _ => false

inductive AssignFault where
  | readOnly (errors : List FieldError)
  | derived (kind : RecordKind) (field : String)
  | unknown (kind : RecordKind) (field : String)
  deriving DecidableEq, Repr

def AssignFault.message : AssignFault → String
  | .readOnly _ => "Instance is frozen"
  | .derived k f => "property '" ++ f ++ "' of '" ++ k.name ++ "' object has no setter"
  | .unknown k f => "\"" ++ k.name ++ "\" object has no field \"" ++ f ++ "\""

/-- Whether a field takes a new value. A name that starts with an underscore is a note on the
record and takes any. -/
def assign (k : RecordKind) (field : String) : Except AssignFault Unit :=
  if field.startsWith "_" then .ok ()
  else if k.isFrozen then .error (.readOnly [⟨.readOnly, [field]⟩])
  else if k.derived.contains field then .error (.derived k field)
  else if k.fields.contains field then .ok ()
  else .error (.unknown k field)

end RecordKind

end CodeReview
