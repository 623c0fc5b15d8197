import CallGraphs.Expression.Basic
import CallGraphs.Expression.Token
/-!
# Reading with alternatives

A reader looks at tokens one after another. It finds something, or misses, upon which another reader
can be tried from the same token, or it meets a fault, which ends all reading. What a named rule finds
at a token is kept, so that no rule is followed twice from there.
-/

namespace CallGraphs.Expression

/-- The rules whose findings are kept. -/
inductive Rule where
  | expression
  | disjunction
  | conjunction
  | inversion
  | bitOr
  | bitXor
  | bitAnd
  | shift
  | sum
  | term
  | factor
  | primary
  | arguments
  | namedMistake
  deriving DecidableEq, Repr

/-- Where reading stands: the next token, the last token looked at, whether likely mistakes are looked
for, and what rules have found so far. -/
structure Place where
  position : Nat
  seen : Nat
  mistakes : Bool
  known : List ((Rule × Nat) × Option (Expr × Nat))

/-- The outcome of reading. -/
inductive Reply (α : Type) where
  | done (a : α) (place : Place)
  | miss (place : Place)
  | fault (f : Fault) (place : Place)

/-- A reader of tokens. -/
def Parse (α : Type) : Type :=
  Array Lexeme × Fault → Place → Reply α

namespace Parse

def pure {α : Type} (a : α) : Parse α :=
  fun _ p => .done a p

def bind {α β : Type} (r : Parse α) (next : α → Parse β) : Parse β :=
  fun src p =>
    match r src p with
    | .done a p => next a src p
    | .miss p => .miss p
    | .fault f p => .fault f p

instance : Monad Parse where
  pure := pure
  bind := bind

/-- Miss. -/
def miss {α : Type} : Parse α :=
  fun _ p => .miss p

/-- Meet a fault. -/
def raise {α : Type} (f : Fault) : Parse α :=
  fun _ p => .fault f p

/-- One reader or, where it misses, another one from the same token. -/
def orElse {α : Type} (r : Parse α) (other : Unit → Parse α) : Parse α :=
  fun src p =>
    match r src p with
    | .miss p' => other () src { p' with position := p.position }
    | reply => reply

instance {α : Type} : OrElse (Parse α) :=
  ⟨orElse⟩

/-- A reader that may miss. -/
def optional {α : Type} (r : Parse α) : Parse (Option α) :=
  (do return some (← r)) <|> pure none

/-- A reader again and again until it misses, at most so many times. -/
def repeated {α : Type} (r : Parse α) : Nat → Parse (List α)
  | 0 => pure []
  | n + 1 => (do return (← r) :: (← repeated r n)) <|> pure []

/-- A reader again and again until it misses. -/
def many {α : Type} (r : Parse α) : Parse (List α) :=
  fun src p => repeated r src.1.size src p

/-- A reader once or more often. -/
def many1 {α : Type} (r : Parse α) : Parse (List α) := do
  return (← r) :: (← many r)

/-- A look at what follows. -/
def ahead {α : Type} (r : Parse α) : Parse Unit :=
  fun src p =>
    match r src p with
    | .done _ p' => .done () { p' with position := p.position }
    | .miss p' => .miss { p' with position := p.position }
    | .fault f p' => .fault f p'

/-- A look that has to miss. -/
def notAhead {α : Type} (r : Parse α) : Parse Unit :=
  fun src p =>
    match r src p with
    | .done _ p' => .miss { p' with position := p.position }
    | .miss p' => .done () { p' with position := p.position }
    | .fault f p' => .fault f p'

/-- A reader that is tried only while mistakes are looked for. -/
def mistake {α : Type} (r : Parse α) : Parse α :=
  fun src p => if p.mistakes then r src p else .miss p

/-- A reader during which mistakes are not looked for. -/
def quietly {α : Type} (r : Parse α) : Parse α :=
  fun src p =>
    match r src { p with mistakes := false } with
    | .done a p' => .done a { p' with mistakes := p.mistakes }
    | .miss p' => .miss { p' with mistakes := p.mistakes }
    | .fault f p' => .fault f p'

/-- What a rule finds, from what is known if it was followed from here before. -/
def remember (rule : Rule) (r : Parse Expr) : Parse Expr :=
  fun src p =>
    match p.known.lookup (rule, p.position) with
    | some (some (e, next)) => .done e { p with position := next }
    | some none => .miss p
    | none =>
      match r src p with
      | .done e p' =>
        .done e { p' with known := ((rule, p.position), some (e, p'.position)) :: p'.known }
      | .miss p' => .miss { p' with known := ((rule, p.position), none) :: p'.known }
      | .fault f p' => .fault f p'

/-- The next token, if it fits. Beyond the last token a fault is met. -/
def accept {α : Type} (fits : Token → Option α) : Parse α :=
  fun src p =>
    match src.1[p.position]? with
    | none => .fault src.2 p
    | some lexeme =>
      let p := { p with seen := max p.seen p.position }
      match fits lexeme.token with
      | some a => .done a { p with position := p.position + 1 }
      | none => .miss p

/-- The number of brackets that are open after the token before. -/
def depthBefore : Parse Nat :=
  fun src p => .done (((src.1[p.position - 1]?).map Lexeme.depth).getD 0) p

/-- A sign. -/
def sign (s : String) : Parse Unit :=
  accept fun t => if t = .sign s then some () else none

/-- The words that are no names. -/
def keywords : List String :=
  ["False", "None", "True", "and", "as", "assert", "async", "await", "break", "class", "continue",
   "def", "del", "elif", "else", "except", "finally", "for", "from", "global", "if", "import", "in",
   "is", "lambda", "nonlocal", "not", "or", "pass", "raise", "return", "try", "while", "with", "yield"]

/-- A word that is no name. -/
def keyword (s : String) : Parse Unit :=
  accept fun t => if t = .name s then some () else none

/-- A name. -/
def name : Parse String :=
  accept fun
    | .name s => if keywords.contains s then none else some s
    | _ => none

/-- A quoted text. -/
def text : Parse (TextForm × List Char) :=
  accept fun
    | .text form content => some (form, content)
    | _ => none

/-- A reader once or more often, with a sign in between. -/
def separated {α : Type} (r : Parse α) (between : String) : Parse (List α) := do
  let first ← r
  let rest ← many (do sign between; r)
  return first :: rest

end Parse

end CallGraphs.Expression
