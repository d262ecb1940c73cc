import ShapeInference.Shape.Clash

/-! What inference reports while it works, and how much of it a reader asked for. -/

set_option autoImplicit false

namespace ShapeInference

/-- From the rarest reports to the most frequent. -/
inductive Level where
  | warn
  | info
  | debug
  | trace
  deriving DecidableEq, Repr

namespace Level

def name : Level → String
  | .warn => "WARN"
  | .info => "INFO"
  | .debug => "DEBUG"
  | .trace => "TRACE"

def rank : Level → Nat
  | .warn => 0
  | .info => 1
  | .debug => 2
  | .trace => 3

end Level

inductive Event where
  | reduced (samples : Nat) (descriptor : String)
  | refining (name : String) (kind : Kind)
  | foundUrl (name : String)
  | foundDate (name : String) (format : DateFormat)
  | seenAgain (typeName : String)
  | incompatible (typeName : String) (error : MergeError)
  | loaded (samples files : Nat)
  | wrote (path : String)
  deriving DecidableEq, Repr

namespace Event

def level : Event → Level
  | .reduced _ _ => .debug
  | .refining _ _ => .debug
  | .foundUrl _ => .trace
  | .foundDate _ _ => .trace
  | .seenAgain _ => .debug
  | .incompatible _ _ => .warn
  | .loaded _ _ => .info
  | .wrote _ => .info

def dateFormatText : DateFormat → String
  | .timestamp => "Timestamp"
  | .dateOnly => "DateOnly"

def message : Event → String
  | .reduced samples descriptor =>
    "reduced " ++ toString samples ++ " samples into `" ++ descriptor ++ "`"
  | .refining name kind => "upgrading `" ++ name ++ "` (" ++ kind.name ++ ")"
  | .foundUrl name => "`" ++ name ++ "`: text → url"
  | .foundDate name format => "`" ++ name ++ "`: text → date (" ++ dateFormatText format ++ ")"
  | .seenAgain typeName => "type `" ++ typeName ++ "` seen again; unifying fields"
  | .incompatible typeName error =>
    "type `" ++ typeName ++ "` occurs with incompatible fields (" ++ error.message ++
      "); keeping first"
  | .loaded samples files =>
    "loaded " ++ toString samples ++ " samples from " ++ toString files ++ " files"
  | .wrote path => "wrote " ++ path

def line (event : Event) : String := event.level.name ++ " " ++ event.message

/-- The lines of the events at `threshold` and the levels before it. -/
def lines (threshold : Level) (events : List Event) : List String :=
  (events.filter fun event => event.level.rank ≤ threshold.rank).map line

end Event

end ShapeInference
