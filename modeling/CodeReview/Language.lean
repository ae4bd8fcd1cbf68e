import CodeReview.Path
import CodeReview.Text.Case

/-!
Languages, which the suffix of a file name tells.
-/

namespace CodeReview

inductive Language where
  | python
  | javascript
  | typescript
  | java
  | go
  | rust
  | cpp
  | c
  | csharp
  | php
  | ruby
  | html
  | css
  deriving DecidableEq, Repr

namespace Language

def all : List Language :=
  [.python, .javascript, .typescript, .java, .go, .rust, .cpp, .c, .csharp, .php, .ruby, .html,
    .css]

def name : Language → String
  | .python => "python"
  | .javascript => "javascript"
  | .typescript => "typescript"
  | .java => "java"
  | .go => "go"
  | .rust => "rust"
  | .cpp => "cpp"
  | .c => "c"
  | .csharp => "csharp"
  | .php => "php"
  | .ruby => "ruby"
  | .html => "html"
  | .css => "css"

def suffixes : Language → List String
  | .python => [".py"]
  | .javascript => [".js", ".jsx"]
  | .typescript => [".ts", ".tsx"]
  | .java => [".java"]
  | .go => [".go"]
  | .rust => [".rs"]
  | .cpp => [".cpp"]
  | .c => [".c"]
  | .csharp => [".cs"]
  | .php => [".php"]
  | .ruby => [".rb"]
  | .html => [".html"]
  | .css => [".css"]

def ofSuffix? (s : String) : Option Language :=
  all.find? fun l => l.suffixes.contains (Text.toLower s)

def nameFor (path : String) : String :=
  match ofSuffix? (Path.ofString path).suffix with
  | some l => l.name
  | none => "unknown"

end Language

end CodeReview
