import CodeReview.Text.Case

/-!
Console markup. A bracket that a letter, a hash sign, a slash or an at sign follows begins a tag,
if it is closed before another one is opened; text that is to be shown as it stands has a backslash
put in front of each.
-/

namespace CodeReview.Markup

def opensTag (c : Char) : Bool :=
  ('a' ≤ c && c ≤ 'z') || c == '#' || c == '/' || c == '@'

def isTag : List Char → Bool
  | [] => false
  | c :: t => opensTag c && (t.dropWhile fun c => c != '[' && c != ']').head? == some ']'

/-- Escapes a text behind `n` backslashes, which are doubled in front of a tag. -/
def escapeAfter (n : Nat) : List Char → List Char
  | [] => List.replicate n '\\'
  | '\\' :: t => escapeAfter (n + 1) t
  | '[' :: t =>
    List.replicate (if isTag t then 2 * n + 1 else n) '\\' ++ '[' :: escapeAfter 0 t
  | c :: t => List.replicate n '\\' ++ c :: escapeAfter 0 t

/-- A lone backslash at the end would escape what is put behind the text. -/
def closeSlash (t : List Char) : List Char :=
  match t.reverse with
  | '\\' :: '\\' :: _ => t
  | '\\' :: _ => t ++ ['\\']
  | _ => t

/-- The text as markup that shows it as it stands. -/
def escape (s : String) : String :=
  String.ofList (closeSlash (escapeAfter 0 s.toList))

/-- A piece of markup: text that is shown, or a tag without its brackets. -/
inductive Piece where
  | text (t : List Char)
  | tag (t : List Char)
  deriving DecidableEq, Repr

/-- Reads markup behind `n` backslashes. In front of a tag two of them stand for one, and one that
is left over makes the tag text. -/
def piecesAfter (n : Nat) (t : List Char) : List Piece :=
  match t with
  | [] => [.text (List.replicate n '\\')]
  | '\\' :: t => piecesAfter (n + 1) t
  | '[' :: t =>
    if isTag t then
      if n % 2 = 1 then .text (List.replicate (n / 2) '\\' ++ ['[']) :: piecesAfter 0 t
      else
        .text (List.replicate (n / 2) '\\') :: .tag (t.takeWhile (· != ']'))
          :: piecesAfter 0 ((t.dropWhile (· != ']')).drop 1)
    else .text (List.replicate n '\\' ++ ['[']) :: piecesAfter 0 t
  | c :: t => .text (List.replicate n '\\' ++ [c]) :: piecesAfter 0 t
termination_by t.length
decreasing_by
  all_goals simp only [List.length_cons, List.length_drop]
  all_goals first
    | omega
    | exact Nat.lt_succ_of_le
        (Nat.le_trans (Nat.sub_le _ _) (List.dropWhile_suffix _).length_le)

def Piece.shown : Piece → List Char
  | .text t => t
  | .tag _ => []

def Piece.tag? : Piece → Option String
  | .text _ => none
  | .tag t => some (String.ofList t)

def tagsAfter (n : Nat) (t : List Char) : List String :=
  (piecesAfter n t).filterMap Piece.tag?

def tags (m : String) : List String :=
  tagsAfter 0 m.toList

def tagName (t : List Char) : String :=
  Text.strip (Text.toLower (String.ofList (t.takeWhile (· != '='))))

/-- Whether each tag that closes one finds an open one: the last of its name, or the last of all
where it names none. -/
def closes (opened : List String) : List String → Bool
  | [] => true
  | tag :: tags =>
    match tag.toList with
    | '/' :: t =>
      if tagName t = "" then !opened.isEmpty && closes opened.tail tags
      else opened.contains (tagName t) && closes (opened.erase (tagName t)) tags
    | t => closes (tagName t :: opened) tags

def plain (s : String) : String :=
  String.ofList ((piecesAfter 0 s.toList).flatMap Piece.shown)

def styled (style text : String) : String :=
  "[" ++ style ++ "]" ++ text ++ "[/" ++ style ++ "]"

end CodeReview.Markup
