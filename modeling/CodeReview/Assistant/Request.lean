import CodeReview.Json.Value
import CodeReview.Json.Writer

/-!
Requests to a language model, and what can come of sending one.
-/

namespace CodeReview

/-- A number that is sent as it was given: as an integer or in double precision. -/
inductive Amount where
  | int (i : Int)
  | real (x : Binary64)
  deriving DecidableEq, Repr

def Amount.text : Amount → String
  | .int i => String.ofList (Json.writeInt i)
  | .real x => x.text

structure Request where
  url : String
  authorization : String
  timeout : Amount
  model : String
  maxTokens : Amount
  temperature : Amount
  system : String
  prompt : String
  deriving DecidableEq, Repr

/-- What comes of sending a request. The body of an answer is of the type `application/json` and names
no other charset, so that it is text in UTF-8, with U+FFFD for each part that is no character. -/
inductive Delivery where
  | timedOut
  /-- The request or its answer was lost on the way. -/
  | lost (reason : String)
  | broken (kind reason : String)
  | answered (status : Int) (body : List UInt8)
  deriving DecidableEq, Repr

end CodeReview
