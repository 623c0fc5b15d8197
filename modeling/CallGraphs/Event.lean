import CallGraphs.Edge
import CallGraphs.Failure
/-!
# Log events

What classifying instructions and building graphs reports while it runs.
-/

namespace CallGraphs

/-- The urgency of a record. -/
inductive Level where
  | debug
  | info
  | warning
  | error
  deriving DecidableEq, Repr

namespace Level

def name : Level → String
  | debug => "DEBUG"
  | info => "INFO"
  | warning => "WARNING"
  | error => "ERROR"

def rank : Level → Nat
  | debug => 0
  | info => 1
  | warning => 2
  | error => 3

end Level

/-- The part of the program that reports. -/
inductive Logger where
  | classifier
  | transformer
  deriving DecidableEq, Repr

def Logger.name : Logger → String
  | classifier => "ctxgraph.classifier"
  | transformer => "ctxgraph.transformer"

/-- What is reported. -/
inductive Event where
  /-- The host could not say what kind an instruction is. -/
  | unresolved (strict : Bool) (instruction : Value) (reason : Draft)
  /-- An instruction is no recognised call. -/
  | unrecognized (instruction : Value)
  | building (sites procedures : Nat)
  | added (edge : SensitiveEdge)
  | aborting (fault : TableFault)
  | built (edges insensitiveEdges : Nat)

namespace Event

def level : Event → Level
  | unresolved strict _ _ => if strict then .warning else .debug
  | unrecognized _ => .warning
  | building .. => .info
  | added _ => .debug
  | aborting _ => .error
  | built .. => .info

def logger : Event → Logger
  | unresolved .. | unrecognized _ => .classifier
  | _ => .transformer

/-- The text of an event; `elapsed` is the time that a finished pass took, in milliseconds. -/
def message (elapsed : String) : Event → Draft
  | unresolved _ instruction reason =>
    "Could not resolve call kind of " ++ instruction.exact ++ ": " ++ reason
  | unrecognized instruction =>
    "Instruction " ++ instruction.exact ++ " is not a recognized call"
  | building sites procedures =>
    "Building call graphs from " ++ toString sites ++ " call sites over " ++ toString procedures ++
      " procedures"
  | added edge => "Added edge " ++ edge.toValue.plain
  | aborting fault => "Aborting call graph construction: " ++ fault.message.text
  | built edges insensitiveEdges =>
    "Built " ++ toString edges ++ " context-sensitive edges (" ++ toString insensitiveEdges ++
      " context-insensitive) in " ++ elapsed ++ "ms"

/-- What keeps an event from being reported: its text is formed whether or not it is shown. -/
def fault? (e : Event) : Option TextFault :=
  (e.message "").fault?

/-- The events of at least a level. -/
def atLeast (least : Level) (events : List Event) : List Event :=
  events.filter fun e => least.rank ≤ e.level.rank

/-- The line that an event takes in a log. -/
def line (elapsed : String) (e : Event) : Text :=
  e.level.name ++ " " ++ e.logger.name ++ ": " ++ (e.message elapsed).text ++ "\n"

end Event

end CallGraphs
