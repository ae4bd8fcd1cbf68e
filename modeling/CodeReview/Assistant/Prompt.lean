/-!
What a language model is told. The prompt is a fixed text with three gaps, which are filled with
what is given as it stands.
-/

namespace CodeReview.Prompt

def system : String :=
  "You are an expert code reviewer. Provide clear, constructive feedback.\n"

def instructions : String :=
  "\n\nPlease provide feedback in this structured format:\n\n"
    ++ "## Code Quality Assessment\n- [Brief assessment]\n\n"
    ++ "## Potential Issues\n- [List any bugs, errors, or problems]\n\n"
    ++ "## Security Concerns\n- [Security vulnerabilities if any]\n\n"
    ++ "## Performance Suggestions\n- [Performance improvements]\n\n"
    ++ "## Best Practices\n- [Coding standards and best practices]\n\n"
    ++ "Keep the response concise and actionable.\n"

def opening : String :=
  "Review the following {language} code from {path} and provide a detailed analysis:\n\n"
    ++ "CODE:\n{code}"

def template : String :=
  opening ++ instructions

/-- Fills the gaps of a template with the values of their names. `name?` holds the name of the gap
that is being read, its last character first. A value is put in as it stands and not read again. -/
def fill (value : List Char → List Char) : (name? : Option (List Char)) → List Char → List Char
  | _, [] => []
  | none, c :: t =>
    if c = '{' then fill value (some []) t else c :: fill value none t
  | some name, c :: t =>
    if c = '}' then value name.reverse ++ fill value none t
    else fill value (some (c :: name)) t

def gapValue (language path code : String) (name : List Char) : List Char :=
  if name = "language".toList then language.toList
  else if name = "path".toList then path.toList
  else if name = "code".toList then code.toList
  else []

def review (language path code : String) : String :=
  String.ofList (fill (gapValue language path code) none template.toList)

def chunkPath (path : String) (number total : Nat) : String :=
  if total = 1 then path
  else path ++ " (chunk " ++ toString number ++ "/" ++ toString total ++ ")"

end CodeReview.Prompt
