import CodeReview.Assistant.Prompt
import CodeReview.Assistant.Reply
import CodeReview.Assistant.Request
import CodeReview.Chunk
import CodeReview.Dialogue
import CodeReview.Log
import CodeReview.Text.Utf8

/-!
The client of a language model: it sends one request for each chunk of a text, in order, up to the
first that fails, and joins the replies. Every failure that a service is known to have is told in
words of its own.
-/

namespace CodeReview

open Text

inductive ServiceFault where
  | timedOut (limit : Amount)
  | network (reason : String)
  | unauthorized (status : Int)
  | rateLimited
  | status (code : Int) (url body : String)
  | malformed (fault : ReplyFault)
  deriving DecidableEq, Repr

namespace ServiceFault

def shownLength : Nat := 500

def message : ServiceFault → String
  | .timedOut limit => "AI review timed out after " ++ limit.text ++ "s"
  | .network reason =>
    "Network error. Please check your internet connection (" ++ reason ++ ")"
  | .unauthorized _ => "Invalid AI API key. Please check QCR_API_KEY / OPENAI_API_KEY"
  | .rateLimited => "AI service rate limit reached"
  | .status code url body =>
    "AI service error " ++ toString code ++ " for " ++ url ++ ": "
      ++ String.ofList (body.toList.take shownLength)
  | .malformed fault => "AI service returned a malformed response: " ++ fault.message

def status? : ServiceFault → Option Int
  | .unauthorized s => some s
  | .rateLimited => some 429
  | .status s _ _ => some s
  | _ => none

end ServiceFault

inductive ClientError where
  | emptyContent
  | service (fault : ServiceFault)
  | unforeseen (kind message : String)
  deriving DecidableEq, Repr

def emptyContentMessage : String := "Code cannot be empty"

def ClientError.message : ClientError → String
  | .emptyContent => emptyContentMessage
  | .service f => f.message
  | .unforeseen _ m => m

/-- What is wrong with the body of an answer is a fault of the service; but a body that is nested
too deep to be read breaks the reader itself. -/
def ClientError.ofReply : ReplyFault → ClientError
  | .notJson e =>
    match e.fault with
    | .tooDeep _ => .unforeseen "RecursionError" e.message
    | _ => .service (.malformed (.notJson e))
  | f => .service (.malformed f)

structure ClientOptions where
  baseUrl : String := "https://api.openai.com/v1"
  model : String := "gpt-3.5-turbo"
  temperature : Amount := .real (.ofRatio false 7 10)
  maxTokens : Amount := .int 1000
  timeout : Amount := .real 120
  chunkLimit : Int := 12000
  deriving DecidableEq, Repr

/-- A client has a key, which no blank surrounds. -/
structure Client where
  key : String
  options : ClientOptions := {}
  deriving DecidableEq, Repr

namespace Client

def missingKeyMessage : String :=
  "AI API key not configured. Set QCR_API_KEY or OPENAI_API_KEY."

def ofKey? (key : Option String) (options : ClientOptions) : Option Client :=
  match key with
  | none => none
  | some k => if isBlankText k then none else some ⟨strip k, options⟩

def url (c : Client) : String :=
  String.ofList (dropTrailing '/' c.options.baseUrl.toList) ++ "/chat/completions"

def request (c : Client) (system prompt : String) : Request where
  url := c.url
  authorization := "Bearer " ++ c.key
  timeout := c.options.timeout
  model := c.options.model
  maxTokens := c.options.maxTokens
  temperature := c.options.temperature
  system := system
  prompt := prompt

def readAnswer (c : Client) (status : Int) (body : List UInt8) : Except ClientError String :=
  let body := String.ofList (Utf8.decodeLossy body)
  if status = 401 ∨ status = 403 then .error (.service (.unauthorized status))
  else if status = 429 then .error (.service .rateLimited)
  else if 400 ≤ status ∧ status < 600 then .error (.service (.status status c.url body))
  else (Reply.text body).mapError .ofReply

def read (c : Client) : Delivery → Except ClientError String
  | .timedOut => .error (.service (.timedOut c.options.timeout))
  | .lost reason => .error (.service (.network reason))
  | .broken kind reason => .error (.unforeseen kind reason)
  | .answered status body => c.readAnswer status body

def complete (c : Client) (system prompt : String) :
    Dialogue Request Delivery (Except ClientError String) :=
  .ask (c.request system prompt) fun d => .done (c.read d)

/-- Sends prompts in order and collects the stripped replies, up to the first failure. -/
def completeAll (c : Client) :
    List String → Dialogue Request Delivery (Except ClientError (List String))
  | [] => .done (.ok [])
  | p :: ps => (c.complete Prompt.system p).bind fun
    | .error e => .done (.error e)
    | .ok t => (c.completeAll ps).bind fun
      | .error e => .done (.error e)
      | .ok ts => .done (.ok (strip t :: ts))

def chunkPrompts (language path : String) (total : Nat) :
    (number : Nat) → List (List Char) → List String
  | _, [] => []
  | n, c :: cs =>
    Prompt.review language (Prompt.chunkPath path n total) (String.ofList c)
      :: chunkPrompts language path total (n + 1) cs

def prompts (c : Client) (content language path : String) : List String :=
  let chunks := Chunk.ofText c.options.chunkLimit content.toList
  chunkPrompts language path chunks.length 1 chunks

def joinReplies (replies : List String) : String :=
  String.intercalate "\n\n" (replies.filter fun r => !r.isEmpty)

def reviewText (c : Client) (content language path : String) :
    Dialogue Request Delivery (Except ClientError String) :=
  if isBlankText content then .done (.error .emptyContent)
  else (c.completeAll (c.prompts content language path)).bind fun r =>
    .done (r.map joinReplies)

def record (c : Client) (content path : String) : LogRecord where
  level := .debug
  source := .assistant
  message := "AI review of " ++ path ++ ": " ++ toString content.length ++ " chars, "
    ++ toString (Chunk.ofText c.options.chunkLimit content.toList).length
    ++ " chunk(s), model=" ++ c.options.model

end Client

end CodeReview
