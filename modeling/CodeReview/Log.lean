/-!
Records of what happened during a review. Nothing that decides a review depends on them.
-/

namespace CodeReview

inductive LogLevel where
  | debug
  | info
  | warning
  | error
  deriving DecidableEq, Repr

namespace LogLevel

def name : LogLevel → String
  | .debug => "DEBUG"
  | .info => "INFO"
  | .warning => "WARNING"
  | .error => "ERROR"

def number : LogLevel → Nat
  | .debug => 10
  | .info => 20
  | .warning => 30
  | .error => 40

end LogLevel

inductive LogSource where
  | rules
  | scoring
  | reviewer
  | assistant
  deriving DecidableEq, Repr

def LogSource.name : LogSource → String
  | .rules => "qcr.core.rules"
  | .scoring => "qcr.core.scoring"
  | .reviewer => "qcr.core.reviewer"
  | .assistant => "qcr.core.ai_client"

structure LogRecord where
  level : LogLevel
  source : LogSource
  message : String
  deriving DecidableEq, Repr

end CodeReview
