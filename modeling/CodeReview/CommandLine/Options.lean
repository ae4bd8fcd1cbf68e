import CodeReview.Number.Notation
import CodeReview.Text.Quoted

/-!
The options of a command line. An option may stand anywhere, may be shortened as long as it is
clear which one is meant, and has its value behind an equals sign or in the next argument. Behind
two dashes no argument is an option.
-/

namespace CodeReview

open Text

inductive CommandOption where
  | help
  | noRecursive
  | out
  | noSave
  | policy
  | ai
  | model
  | baseUrl
  | temperature
  | maxFiles
  | workers
  | rejectEmpty
  | failUnder
  | logLevel
  deriving DecidableEq, Repr

inductive ValueKind where
  | text
  | choice (choices : List String)
  | integer
  | real
  deriving DecidableEq, Repr

inductive OptionValue where
  | none
  | text (s : String)
  | integer (i : Int)
  | real (x : Binary64)
  deriving DecidableEq, Repr

namespace CommandOption

def all : List CommandOption :=
  [.help, .noRecursive, .out, .noSave, .policy, .ai, .model, .baseUrl, .temperature, .maxFiles,
    .workers, .rejectEmpty, .failUnder, .logLevel]

def names : CommandOption → List String
  | .help => ["-h", "--help"]
  | .noRecursive => ["--no-recursive"]
  | .out => ["--out"]
  | .noSave => ["--no-save"]
  | .policy => ["--policy"]
  | .ai => ["--ai"]
  | .model => ["--model"]
  | .baseUrl => ["--base-url"]
  | .temperature => ["--temperature"]
  | .maxFiles => ["--max-files"]
  | .workers => ["--workers"]
  | .rejectEmpty => ["--reject-empty"]
  | .failUnder => ["--fail-under"]
  | .logLevel => ["--log-level"]

def takes : CommandOption → Option ValueKind
  | .out | .model | .baseUrl | .logLevel => some .text
  | .policy => some (.choice ["flat", "severity"])
  | .temperature => some .real
  | .maxFiles | .workers | .failUnder => some .integer
  | _ => none

def table : List (String × CommandOption) :=
  all.flatMap fun o => o.names.map fun n => (n, o)

def ofName? (name : String) : Option CommandOption :=
  (table.find? (·.1 == name)).map (·.2)

def title (o : CommandOption) : String :=
  String.intercalate "/" o.names

end CommandOption

inductive UsageError where
  | ambiguous (argument : String) (names : List String)
  | unusedValue (option : CommandOption) (value : String)
  | missingValue (option : CommandOption)
  | notInteger (option : CommandOption) (value : String)
  | notReal (option : CommandOption) (value : String)
  | notChoice (option : CommandOption) (value : String) (choices : List String)
  | missingTarget
  | unrecognized (arguments : List String)
  deriving DecidableEq, Repr

namespace UsageError

def about (o : CommandOption) (text : String) : String :=
  "argument " ++ o.title ++ ": " ++ text

def message : UsageError → String
  | .ambiguous a ns => "ambiguous option: " ++ a ++ " could match " ++ String.intercalate ", " ns
  | .unusedValue o v => about o ("ignored explicit argument " ++ quoted v)
  | .missingValue o => about o "expected one argument"
  | .notInteger o v => about o ("invalid int value: " ++ quoted v)
  | .notReal o v => about o ("invalid float value: " ++ quoted v)
  | .notChoice o v cs =>
    about o ("invalid choice: " ++ quoted v ++ " (choose from "
      ++ String.intercalate ", " (cs.map quoted) ++ ")")
  | .missingTarget => "the following arguments are required: target"
  | .unrecognized as => "unrecognized arguments: " ++ String.intercalate " " as

end UsageError

/-- What an argument is: plain text, the two dashes, an option with what is behind its equals sign,
an option of one letter with what is right behind the letter, or something that looks like an option
and is none. -/
inductive Argument where
  | plain (text : String)
  | dashes
  | option (option : CommandOption) (name : String) (value : Option String)
  | letters (option : CommandOption) (name : String) (more : List Char)
  | unknown (text : String)
  deriving DecidableEq, Repr

namespace Argument

def splitValue (a : List Char) : String × Option String :=
  match a.dropWhile (· != '=') with
  | [] => (String.ofList a, none)
  | _ :: v => (String.ofList (a.takeWhile (· != '=')), some (String.ofList v))

def isNegativeNumber (a : List Char) : Bool :=
  match a with
  | '-' :: t =>
    let t := if t.getLast? == some '\n' then t.dropLast else t
    let r := t.dropWhile isDigit
    match r with
    | [] => !t.isEmpty
    | '.' :: f => !f.isEmpty && f.all isDigit
    | _ => false
  | _ => false

/-- The options that an argument may be short for. One dash leaves room for a value right behind
the letter, two dashes for the rest of a name. -/
def candidates (a : List Char) : List Argument :=
  match a with
  | '-' :: '-' :: _ =>
    let (start, value) := splitValue a
    (CommandOption.table.filter fun e => startsWith start.toList e.1.toList).map fun e =>
      .option e.2 e.1 value
  | _ =>
    CommandOption.table.filterMap fun e =>
      if e.1.toList = a.take 2 then some (.letters e.2 e.1 (a.drop 2))
      else if startsWith a e.1.toList then some (.option e.2 e.1 none)
      else none

def nameOf : Argument → String
  | .option _ n _ | .letters _ n _ => n
  | _ => ""

def classify (arg : String) : Except UsageError Argument :=
  let a := arg.toList
  if a.head? != some '-' then .ok (.plain arg)
  else match CommandOption.ofName? arg with
    | some o => .ok (.option o arg none)
    | none =>
      if a.length = 1 then .ok (.plain arg)
      else
        let (name, value) := splitValue a
        match value, CommandOption.ofName? name with
        | some v, some o => .ok (.option o name (some v))
        | _, _ =>
          match candidates a with
          | [c] => .ok c
          | [] =>
            if isNegativeNumber a || a.contains ' ' then .ok (.plain arg) else .ok (.unknown arg)
          | cs => .error (.ambiguous arg (cs.map nameOf))

def classifyAll : List String → Except UsageError (List Argument)
  | [] => .ok []
  | arg :: rest =>
    if arg = "--" then .ok (.dashes :: rest.map .plain)
    else
      match classify arg with
      | .error e => .error e
      | .ok a => (classifyAll rest).map (a :: ·)

end Argument

/-- Why no arguments come of a command line: help was asked for, or it is refused. -/
inductive ArgumentEnd where
  | help
  | refused (error : UsageError)
  deriving DecidableEq, Repr

structure CommandWords where
  target : Option String := none
  options : List (CommandOption × OptionValue) := []
  extras : List String := []
  deriving DecidableEq, Repr

namespace CommandWords

def readOption (o : CommandOption) (kind : ValueKind) (text : String) :
    Except UsageError OptionValue :=
  match kind with
  | .text => .ok (.text text)
  | .choice cs => if cs.contains text then .ok (.text text) else .error (.notChoice o text cs)
  | .integer => match NumberNotation.argument.readInt? text with
    | some i => .ok (.integer i)
    | none => .error (.notInteger o text)
  | .real => match NumberNotation.argument.readBinary64? text with
    | some x => .ok (.real x)
    | none => .error (.notReal o text)

/-- What the letters behind the letter of a switch come to. They are letters of switches too, as far
as there are such; the first switch that is acted on ends the reading. The only switch of one letter
asks for help. -/
def switchLetters (o : CommandOption) : List Char → ArgumentEnd
  | 'h' :: '=' :: value => .refused (.unusedValue o (String.ofList value))
  | 'h' :: more => switchLetters o more
  | '-' :: more => .refused (.unusedValue o (String.ofList ('-' :: more)))
  | _ => .help

def extra (w : CommandWords) (text : String) : CommandWords :=
  { w with extras := w.extras ++ [text] }

def set (w : CommandWords) (o : CommandOption) (v : OptionValue) : CommandWords :=
  { w with options := w.options ++ [(o, v)] }

/-- Reads the arguments from left to right. The first that is no option and no option's value is
the target. `fresh` tells that the target has just been read, behind which two dashes say
nothing. -/
def read (w : CommandWords) (fresh : Bool) (as : List Argument) :
    Except ArgumentEnd CommandWords :=
  match as with
  | [] => .ok w
  | .plain s :: as =>
    if w.target.isNone then ({ w with target := some s } : CommandWords).read true as
    else (w.extra s).read false as
  | .dashes :: as =>
    if fresh then w.read false as
    else if w.target.isNone then
      match as with
      | .plain s :: as => ({ w with target := some s } : CommandWords).read false as
      | as => (w.extra "--").read false as
    else (w.extra "--").read false as
  | .unknown s :: as => (w.extra s).read false as
  | .letters o _ more :: _ => .error (switchLetters o more)
  | .option o _ value :: as =>
    match o.takes, value with
    | none, none => if o = .help then .error .help else (w.set o .none).read false as
    | none, some v => .error (.refused (.unusedValue o v))
    | some kind, some v =>
      match readOption o kind v with
      | .ok x => (w.set o x).read false as
      | .error e => .error (.refused e)
    | some kind, none =>
      match as with
      | .plain v :: as =>
        match readOption o kind v with
        | .ok x => (w.set o x).read false as
        | .error e => .error (.refused e)
      | _ => .error (.refused (.missingValue o))
termination_by as.length

def value? (w : CommandWords) (o : CommandOption) : Option OptionValue :=
  (w.options.reverse.find? (·.1 = o)).map (·.2)

def has (w : CommandWords) (o : CommandOption) : Bool :=
  (w.value? o).isSome

def text (w : CommandWords) (o : CommandOption) (default : String) : String :=
  match w.value? o with
  | some (.text s) => s
  | _ => default

def integer? (w : CommandWords) (o : CommandOption) : Option Int :=
  match w.value? o with
  | some (.integer i) => some i
  | _ => none

def real (w : CommandWords) (o : CommandOption) (default : Binary64) : Binary64 :=
  match w.value? o with
  | some (.real x) => x
  | _ => default

def ofArguments (args : List String) : Except ArgumentEnd (String × CommandWords) :=
  match Argument.classifyAll args with
  | .error e => .error (.refused e)
  | .ok as =>
    match read {} false as with
    | .error e => .error e
    | .ok w =>
      match w.target with
      | none => .error (.refused .missingTarget)
      | some t =>
        if w.extras = [] then .ok (t, w) else .error (.refused (.unrecognized w.extras))

end CommandWords

end CodeReview
