import CodeReview.Text.Case
import CodeReview.Text.Quoted

/-!
The logger of a program that uses the library. It is set up once by the program, and setting it up
again takes the place of what was there before.
-/

namespace CodeReview

structure Logger where
  level : Nat := 30
  propagates : Bool := true
  handlers : List String := []
  deriving DecidableEq, Repr

/-- What is kept beside the levels under a name in capitals: the format of a record, and the table
of styles that a format may have. -/
inductive NotLevel where
  | format
  | styles
  deriving DecidableEq, Repr

namespace NotLevel

def all : List NotLevel := [.format, .styles]

def name : NotLevel → String
  | .format => "BASIC_FORMAT"
  | .styles => "_STYLES"

def basicFormat : String := "%(levelname)s:%(name)s:%(message)s"

def stylesText : String :=
  "\x7b'%': (<class 'logging.PercentStyle'>, '" ++ basicFormat ++ "'), "
    ++ "'\x7b': (<class 'logging.StrFormatStyle'>, '\x7blevelname\x7d:\x7bname\x7d:\x7bmessage\x7d'), "
    ++ "'$': (<class 'logging.StringTemplateStyle'>, "
    ++ "'$\x7blevelname\x7d:$\x7bname\x7d:$\x7bmessage\x7d')\x7d"

def message : NotLevel → String
  | .format => "Unknown level: " ++ Text.quoted basicFormat
  | .styles => "Level not an integer or a valid string: " ++ stylesText

end NotLevel

namespace Logger

def levels : List (String × Nat) :=
  [("NOTSET", 0), ("DEBUG", 10), ("INFO", 20), ("WARNING", 30), ("WARN", 30), ("ERROR", 40),
    ("CRITICAL", 50), ("FATAL", 50)]

def levelName (n : Nat) : String :=
  match levels.find? (·.2 == n) with
  | some (name, _) => name
  | none => "Level " ++ toString n

/-- The level of a name in any case, and the level of warnings for any other. A name of what is kept
beside the levels stands for no level. -/
def levelOf (name : String) : Except NotLevel Nat :=
  let name := Text.toUpper name
  match NotLevel.all.find? (·.name == name) with
  | some kept => .error kept
  | none =>
    match levels.find? (·.1 == name) with
    | some (_, n) => .ok n
    | none => .ok 30

def clearHandlers (l : Logger) : Logger :=
  { l with handlers := [] }

def addHandler (l : Logger) (handler : String) : Logger :=
  { l with handlers := l.handlers ++ [handler] }

/-- Sets the logger up: its level, and a new handler in the place of those it had. The level comes
first, so where the name stands for none, the logger stays as it was. -/
def configure (l : Logger) (name : String) : Except NotLevel Logger :=
  (levelOf name).map fun n =>
    { l with level := n, propagates := false }.clearHandlers.addHandler "RichHandler"

end Logger

end CodeReview
