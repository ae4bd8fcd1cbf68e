import CodeReview.Console
import CodeReview.FileTree
import CodeReview.Logger
import CodeReview.Review.Slot
import CodeReview.Settings

/-!
The configuration of a run: what a user has chosen, on top of the settings. What is wrong with it
is found before anything is reviewed.
-/

namespace CodeReview

structure Choices where
  policy : String
  rejectEmpty : Bool := false
  ai : Bool := false
  model : String
  baseUrl : String
  temperature : Amount
  deriving DecidableEq, Repr

/-- A failure that the program does not answer. What the console does not take is kept: the message
of a refusal, or an entry that tells of a review. -/
inductive Crash where
  | unreadableSettings (fault : Text.Utf8.Fault)
  | notLevel (kept : NotLevel)
  | invalidWeights (kind : PolicyKind) (errors : List FieldError)
  | untold (message : ConsoleEntry)
  | unprinted (entry : ConsoleEntry)
  | longLine
  | path (error : PathError)
  | score (fault : Binary64.NotInteger)
  deriving DecidableEq, Repr

/-- Why a run is not configured: it is refused with a message, or the program fails. -/
inductive ConfigurationError where
  | refused (message : String)
  | failed (cause : Crash)
  deriving DecidableEq, Repr

namespace Settings

def client? (s : Settings) (c : Choices) : Option Client :=
  Client.ofKey? s.apiKey { s.clientOptions with
    model := c.model
    baseUrl := c.baseUrl
    temperature := c.temperature }

def configure (s : Settings) (c : Choices) :
    Except ConfigurationError (ReviewOptions Request Delivery) :=
  match s.scoring (some c.policy) with
  | .error (.unknownName n) => .error (.refused (PolicyError.unknownNameMessage n))
  | .error (.invalidWeights k es) => .error (.failed (.invalidWeights k es))
  | .ok policy =>
    if c.ai then
      match s.client? c with
      | none => .error (.refused Client.missingKeyMessage)
      | some client => .ok ⟨policy, c.rejectEmpty, some client.assistant⟩
    else .ok ⟨policy, c.rejectEmpty, none⟩

end Settings

end CodeReview
