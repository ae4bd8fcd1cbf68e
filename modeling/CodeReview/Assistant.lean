import CodeReview.Assistant.Client

/-!
Assistants: whoever is asked for remarks on a text. A review takes any of them, whatever they ask
of the outside world and whatever they return; the client of a language model is one.
-/

namespace CodeReview

/-- Why an assistant has no remarks: a failure with a message for the reader of the review, or any
other, which is told by its kind. -/
inductive AssistantFailure where
  | foreseen (message : String)
  | unforeseen (kind message : String)
  deriving DecidableEq, Repr

def AssistantFailure.reason : AssistantFailure → String
  | .foreseen m => m
  | .unforeseen kind m => kind ++ ": " ++ m

/-- An assistant is asked with a text, its language and its path. -/
structure Assistant (Q A : Type) where
  ask : (content language path : String) → Dialogue Q A (Except AssistantFailure Json)
  records : (content path : String) → List LogRecord := fun _ _ => []

structure AssistantCall where
  content : String
  language : String
  path : String
  deriving DecidableEq, Repr

/-- An assistant that is asked as a whole: its one question is the call itself. -/
def Assistant.direct : Assistant AssistantCall (Except AssistantFailure Json) where
  ask content language path := .once ⟨content, language, path⟩

def ClientError.failure : ClientError → AssistantFailure
  | .unforeseen kind m => .unforeseen kind m
  | e => .foreseen e.message

def Client.assistant (c : Client) : Assistant Request Delivery where
  ask content language path :=
    (c.reviewText content language path).bind fun r =>
      .done ((r.map .str).mapError ClientError.failure)
  records content path := [c.record content path]

def remarks (reply : Except AssistantFailure Json) : Except AssistantFailure String :=
  match reply with
  | .error e => .error e
  | .ok (.str s) => .ok (Text.strip s)
  | .ok v =>
    .error (.unforeseen "AttributeError" ("'" ++ v.kindName ++ "' object has no attribute 'strip'"))

end CodeReview
