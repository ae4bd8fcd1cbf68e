import CodeReview.Rule.Pattern

/-!
Rules that judge a text by its lines: queries put together from pieces, comments, and bare numbers.
-/

namespace CodeReview.Line

open Text

def afterFirstCI? (word : List Char) : List Char → Option (List Char)
  | [] => none
  | c :: t =>
    match afterCI? word (c :: t) with
    | some r => some r
    | none => afterFirstCI? word t

/-- The words of a query in their order, then a plus sign. Taking each at its first place leaves
the most room for the next. -/
def joinsQuery (l : List Char) : Bool :=
  match afterFirstCI? "select".toList l with
  | none => false
  | some r =>
    match afterFirstCI? "from".toList r with
    | none => false
    | some r =>
      match afterFirstCI? "where".toList r with
      | none => false
      | some r => r.contains '+'

def firstQueryLine (t : List Char) : Option LineNumber :=
  ((lines t).findIdx? joinsQuery).map fun n => ⟨n + 1, Nat.succ_pos n⟩

def isComment (l : List Char) : Bool :=
  Pattern.startsAt .commentLine none l

def declaresConstant (l : List Char) : Bool :=
  Pattern.startsAt .constantDeclaration none l

/-- A number of three digits or more, outside of comments and of declarations of constants. -/
def hasMagicNumber (l : List Char) : Bool :=
  !declaresConstant l && !isComment l && Pattern.occurs .magicNumber l

def commentRatio (ls : List (List Char)) : Binary64 :=
  if ls.isEmpty then 0 else .ofRatio false (ls.countP isComment) ls.length

def uncommentedLines : Nat := 50

def leastCommentRatio : Binary64 := .ofRatio false 1 10

def lacksComments (ls : List (List Char)) : Bool :=
  uncommentedLines < ls.length && (commentRatio ls).lt leastCommentRatio

end CodeReview.Line
