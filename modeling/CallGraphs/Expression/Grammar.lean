import CallGraphs.Expression.Escape
import CallGraphs.Expression.Parse
/-!
# The grammar of expressions

Expressions are read by rules that call each other. A text that is no expression is read a second time
with rules for likely mistakes, so that the fault that is reported can name one of these.
-/

namespace CallGraphs.Expression

namespace Grammar

open Parse

/-- How a rule calls others. -/
abbrev Call := Rule → Parse Expr

/-- Operands with operators in between, which all bind alike and to the left. -/
def chain (operand : Parse Expr) (operators : List String) (join : String → Expr → Expr → Expr) :
    Parse Expr := do
  let first ← operand
  let rest ← many do
    let op ← accept fun
      | .sign s => if operators.contains s then some s else none
      | _ => none
    return (op, ← operand)
  return rest.foldl (fun e (op, e') => join op e e') first

/-- An operation that is no literal. -/
def operation : String → Expr → Expr → Expr :=
  fun _ _ _ => .other "expression"

/-- Two operands of addition or subtraction. -/
def addition : String → Expr → Expr → Expr :=
  fun _ a b => .sum a b

/-- Operands with a word in between. -/
def joined (operand : Parse Expr) (word : String) : Parse Expr := do
  let first ← operand
  let rest ← many (do keyword word; operand)
  return if rest.isEmpty then first else .other "expression"

/-- An operator that compares, and whether it is that of membership. -/
def comparator : Parse Bool :=
  (accept fun
    | .sign s => if ["==", "!=", "<=", "<", ">=", ">"].contains s then some false else none
    | _ => none) <|>
  (do keyword "not"; keyword "in"; return false) <|>
  (do keyword "in"; return true) <|>
  (do keyword "is"; keyword "not"; return false) <|>
  (do keyword "is"; return false)

def comparison (call : Call) : Parse Expr := do
  let left ← call .bitOr
  let rest ← many do
    let membership ← comparator
    let _ ← call .bitOr
    return membership
  return match rest with
    | [] => left
    | membership :: _ => .comparison left membership

/-- One expression if a condition holds, else another. -/
def conditional (call : Call) : Parse Expr := do
  let _ ← call .disjunction
  keyword "if"
  let _ ← call .disjunction
  keyword "else"
  let _ ← call .expression
  return .other "conditional expression"

/-- A parameter of an anonymous function. -/
def parameter (call : Call) : Parse Unit :=
  (do sign "**"; let _ ← name) <|>
  (do sign "*"; let _ ← optional name) <|>
  sign "/" <|>
  (do let _ ← name; let _ ← optional (do sign "="; call .expression))

/-- An anonymous function. -/
def lambda (call : Call) : Parse Expr := do
  keyword "lambda"
  let _ ← optional (do let _ ← separated (parameter call) ","; let _ ← optional (sign ","))
  sign ":"
  let _ ← call .expression
  return .other "lambda"

/-- An expression, read without a look for mistakes. -/
def plainExpression (call : Call) : Parse Expr :=
  quietly (conditional call <|> call .disjunction <|> lambda call)

/-- An expression that may be starred. -/
def starExpression (call : Call) : Parse Expr :=
  (do sign "*"; return .starred (← call .bitOr)) <|> call .expression

/-- Expressions that may be starred, as a tuple if there is more than one or a comma. -/
def starExpressions (call : Call) : Parse Expr := do
  let items ← separated (starExpression call) ","
  match items, ← optional (sign ",") with
  | [e], none => return e
  | items, _ => return .tuple items

/-- The words that once could stand before their argument without brackets. -/
def bareCalls : List String :=
  ["print", "exec"]

/-- Whether an expression is a word that once needed no brackets. -/
def isBareCall : Expr → Bool
  | .word s => bareCalls.contains s
  | _ => false

/-- Two expressions without a comma in between, or a condition without alternative. -/
def expressionMistake (call : Call) : Parse Expr :=
  fun src p =>
    let adjacent : Parse (Expr × Nat) := do
      notAhead ((do let _ ← name; let _ ← text) <|>
        (accept fun t => if [.name "_", .name "case", .name "match"].contains t then some () else none))
      let a ← call .disjunction
      let _ ← plainExpression call
      return (a, ← depthBefore)
    match adjacent src p with
    | .done (a, depth) p' =>
      if isBareCall a || depth == 0 then .miss p' else .fault .missingComma p'
    | .fault f p' => .fault f p'
    | .miss p' =>
      (do
        let _ ← call .disjunction
        keyword "if"
        let _ ← call .disjunction
        notAhead (keyword "else" <|> sign ":")
        raise .missingElse : Parse Expr) src { p' with position := p.position }

/-- A word before its argument without brackets. -/
def callMistake (call : Call) : Parse Expr := do
  let word ← name
  notAhead (sign "(")
  let _ ← starExpressions call
  if bareCalls.contains word then raise (.missingCall word) else miss

def expression (call : Call) : Parse Expr :=
  mistake (expressionMistake call) <|> mistake (callMistake call) <|> conditional call <|>
    call .disjunction <|> lambda call

/-- A name that is given the value of an expression. -/
def assignment (call : Call) : Parse Expr := do
  let _ ← name
  sign ":="
  let _ ← call .expression
  return .other "named expression"

/-- A sign of assignment. -/
def assigns : Parse Unit :=
  sign "=" <|> sign ":="

/-- Words for constants. -/
def constantWord : Parse String :=
  (do keyword "True"; return "True") <|> (do keyword "None"; return "None") <|>
  (do keyword "False"; return "False")

/-- An expression that may be given a name. -/
def named (call : Call) : Parse Expr :=
  assignment call <|> mistake (call .namedMistake) <|>
    (do let e ← call .expression; notAhead (sign ":="); return e)

/-- An expression that may be starred or given a name. -/
def starNamed (call : Call) : Parse Expr :=
  (do sign "*"; return .starred (← call .bitOr)) <|> named call

/-- One or more of them. -/
def starNameds (call : Call) : Parse (List Expr) := do
  let items ← separated (starNamed call) ","
  let _ ← optional (sign ",")
  return items

/-- An expression with a star before it. -/
def starred (call : Call) : Parse Expr :=
  (do sign "*"; return .starred (← call .expression)) <|> (do sign "*"; raise .emptyStar)

/-- A target of a loop. -/
def loopTarget (call : Call) : Parse Expr :=
  (do
    sign "*"
    let e ← call .primary
    if e.badTarget?.isNone then return .starred e else miss) <|>
  (do
    let e ← call .primary
    if e.badTarget?.isNone then return e else miss)

/-- A loop inside an expression, with its conditions. -/
def loop (call : Call) : Parse Unit :=
  fun src p =>
    let head : Parse Unit := do
      let _ ← optional (keyword "async")
      keyword "for"
      let _ ← separated (loopTarget call) ","
      let _ ← optional (sign ",")
      keyword "in"
    match head src p with
    | .done _ p' =>
      (do
        let _ ← call .disjunction
        let _ ← many (do keyword "if"; call .disjunction)
        return () : Parse Unit) src p'
    | .fault f p' => .fault f p'
    | .miss p' =>
      mistake (do
        let _ ← optional (keyword "async")
        keyword "for"
        let e ← starExpressions call
        match e.badTarget? with
        | some noun => raise (.target noun)
        | none => miss) src { p' with position := p.position }

/-- Loops inside an expression. -/
def loops (call : Call) : Parse Unit := do
  let _ ← many1 (loop call)

/-- A starred expression, or several without brackets, before loops. -/
def comprehensionMistake (call : Call) : Parse Expr :=
  (do
    sign "(" <|> sign "\x7b"
    let _ ← starred call
    loops call
    raise .starredComprehension) <|>
  (do
    sign "\x7b"
    let _ ← starNamed call
    sign ","
    let _ ← starNameds call
    loops call
    raise .bareTarget) <|>
  (do
    sign "\x7b"
    let _ ← starNamed call
    sign ","
    loops call
    raise .bareTarget)

/-- An expression with loops between brackets. -/
def generator (call : Call) : Parse Expr :=
  (do
    sign "("
    let _ ← assignment call <|> (do let e ← call .expression; notAhead (sign ":="); return e)
    loops call
    sign ")"
    return .other "generator expression") <|>
  mistake (comprehensionMistake call)

def tuple (call : Call) : Parse Expr := do
  sign "("
  let items ← optional do
    let first ← starNamed call
    sign ","
    let rest ← optional (starNameds call)
    return first :: rest.getD []
  sign ")"
  return .tuple (items.getD [])

/-- A value that a generator gives. -/
def yielded (call : Call) : Parse Expr :=
  (do
    keyword "yield"
    keyword "from"
    let _ ← call .expression
    return .other "yield expression") <|>
  (do
    keyword "yield"
    let _ ← optional (starExpressions call)
    return .other "yield expression")

def group (call : Call) : Parse Expr :=
  (do
    sign "("
    let e ← yielded call <|> named call
    sign ")"
    return e) <|>
  mistake
    ((do sign "("; let _ ← starred call; sign ")"; raise .starred) <|>
     (do sign "("; sign "**"; let _ ← call .expression; sign ")"; raise .doubleStarred))

/-- A key with its value. -/
def pair (call : Call) : Parse (Option Expr × Expr) := do
  let key ← call .expression
  sign ":"
  return (some key, ← call .expression)

/-- An entry of a dictionary. -/
def entry (call : Call) : Parse (Option Expr × Expr) :=
  (do sign "**"; return (none, ← call .bitOr)) <|> pair call

/-- What closes an entry of a dictionary. -/
def entryEnd : Parse Unit :=
  sign "\x7d" <|> sign ","

/-- A value of a dictionary that is starred or missing. -/
def valueMistake (call : Call) : Parse Expr :=
  (do
    let _ ← call .expression
    sign ":"
    sign "*"
    let _ ← call .bitOr
    raise .starredValue) <|>
  (do
    let _ ← call .expression
    sign ":"
    ahead entryEnd
    raise .missingValue)

/-- A key without colon, or a mistake in its value. None of these readers ever finds anything. -/
def pairMistake (call : Call) : Parse Expr :=
  (do let _ ← call .expression; notAhead (sign ":"); raise .missingColon) <|> valueMistake call

def dict (call : Call) : Parse Expr :=
  (do
    sign "\x7b"
    let entries ← optional do
      let entries ← separated (entry call) ","
      let _ ← optional (sign ",")
      return entries
    sign "\x7d"
    return .dict (entries.getD [])) <|>
  (do
    sign "\x7b"
    (do let _ ← separated (entry call) ","; sign ","; pairMistake call) <|> valueMistake call)

def set (call : Call) : Parse Expr := do
  sign "\x7b"
  let items ← starNameds call
  sign "\x7d"
  return .set items

/-- A dictionary or a set made by loops. -/
def comprehension (call : Call) : Parse Expr :=
  (do
    sign "\x7b"
    let _ ← pair call
    loops call
    sign "\x7d"
    return .other "dict comprehension") <|>
  mistake (do
    sign "\x7b"
    sign "**"
    let _ ← call .bitOr
    loops call
    sign "\x7d"
    raise .doubleStarredComprehension) <|>
  (do
    sign "\x7b"
    let _ ← named call
    loops call
    sign "\x7d"
    return .other "set comprehension") <|>
  mistake (comprehensionMistake call)

/-- Quoted texts, which make one text. -/
def texts : Parse Expr := do
  let parts ← many1 text
  match textsFault? none parts with
  | some fault => raise fault
  | none =>
    if parts.any (·.1.formatted) then return .other "f-string expression"
    else return .constant (if parts.any (·.1.bytes) then .bytes else .text)

def atom (call : Call) : Parse Expr :=
  (do return .word (← name)) <|>
  (do keyword "True"; return .constant (.bool true)) <|>
  (do keyword "False"; return .constant (.bool false)) <|>
  (do keyword "None"; return .constant .null) <|>
  (do ahead text; texts) <|>
  (accept fun
    | .number imaginary => some (.constant (if imaginary then .imaginary else .real))
    | _ => none) <|>
  (do ahead (sign "("); tuple call <|> group call <|> generator call) <|>
  (do ahead (sign "\x7b"); dict call <|> set call <|> comprehension call) <|>
  (do sign "..."; return .constant .ellipsis)

/-- An argument that is given by name or spread out. -/
inductive Argument where
  | keyword
  | star
  | mapping
  deriving DecidableEq

/-- The value of an argument with a name to it that is none. -/
def keywordMistake (call : Call) : Parse Argument :=
  (do let word ← constantWord; sign "="; raise (.assignedWord word)) <|>
  (do
    let _ ← name
    sign "="
    let _ ← call .expression
    loops call
    raise .assignedName) <|>
  (do
    notAhead (do let _ ← name; sign "=")
    let _ ← call .expression
    sign "="
    raise .assignedExpression)

/-- An argument that is given by name. -/
def keywordArgument (call : Call) : Parse Argument := do
  let _ ← name
  sign "="
  let _ ← call .expression
  return .keyword

def keywordOrStar (call : Call) : Parse Argument :=
  mistake (keywordMistake call) <|> keywordArgument call <|>
    (do let _ ← starred call; return .star)

def keywordOrMapping (call : Call) : Parse Argument :=
  mistake (keywordMistake call) <|> keywordArgument call <|>
    (do sign "**"; let _ ← call .expression; return .mapping)

/-- Arguments from the first one on that is given by name. -/
def keywordArguments (call : Call) : Parse (List Argument) :=
  (do
    let a ← separated (keywordOrStar call) ","
    sign ","
    let b ← separated (keywordOrMapping call) ","
    return a ++ b) <|>
  separated (keywordOrStar call) "," <|>
  separated (keywordOrMapping call) ","

/-- An argument that is given by its place. -/
def positional (call : Call) : Parse Argument :=
  (do let _ ← starred call; return .star) <|>
  (do
    let _ ← assignment call <|> (do let e ← call .expression; notAhead (sign ":="); return e)
    notAhead (sign "=")
    return .star)

/-- The arguments of a call. -/
def argumentList (call : Call) : Parse (List Argument) :=
  (do
    let a ← separated (positional call) ","
    let b ← optional (do sign ","; keywordArguments call)
    return a ++ b.getD []) <|>
  keywordArguments call

/-- Arguments in an order that is not allowed, or loops among them. -/
def argumentMistake (call : Call) : Parse Expr :=
  fun src p =>
    let first : Parse Expr :=
      (do let _ ← argumentList call; sign ","; sign "*"; raise .starAfterMapping) <|>
      (do
        let _ ← call .expression
        loops call
        sign ","
        let _ ← optional ((do let _ ← argumentList call) <|> (do let _ ← call .expression; loops call))
        raise .bareGenerator) <|>
      (do
        let _ ← name
        sign "="
        let _ ← call .expression
        loops call
        raise .assignedName)
    let looped : Parse Nat := do
      let a ← argumentList call
      loops call
      return a.count .star
    let rest : Parse Expr :=
      (do
        let _ ← argumentList call
        sign ","
        let _ ← call .expression
        loops call
        raise .bareGenerator) <|>
      (do
        let a ← argumentList call
        sign ","
        let _ ← argumentList call
        raise (if a.contains .mapping then .positionalAfterMapping else .positionalAfterKeyword))
    match first src p with
    | .miss p1 =>
      match looped src { p1 with position := p.position } with
      | .done n p2 => if n ≤ 1 then .miss p2 else .fault .bareGenerator p2
      | .fault f p2 => .fault f p2
      | .miss p2 => rest src { p2 with position := p.position }
    | reply => reply

def arguments (call : Call) : Parse Expr :=
  (do
    let _ ← argumentList call
    let _ ← optional (sign ",")
    ahead (sign ")")
    return .other "arguments") <|>
  mistake (argumentMistake call)

/-- What can follow the start of an operand: an attribute or the arguments of a call. -/
inductive Suffix where
  | attribute
  | call (empty : Bool)

def suffix (call : Call) : Parse Suffix :=
  (do sign "."; let _ ← name; return .attribute) <|>
  (do let _ ← generator call; return .call false) <|>
  (do
    sign "("
    let args ← optional (call .arguments)
    sign ")"
    return .call args.isNone)

def primary (call : Call) : Parse Expr := do
  let base ← atom call
  let suffixes ← many (suffix call)
  return suffixes.foldl (fun e s =>
    match s, e with
    | .attribute, _ => .other "attribute"
    | .call true, .word "set" => .emptySet
    | .call _, _ => .other "function call") base

def power (call : Call) : Parse Expr := do
  let base ← (do keyword "await"; let _ ← call .primary; return .other "await expression") <|>
    call .primary
  match ← optional (do sign "**"; call .factor) with
  | some _ => return .other "expression"
  | none => return base

def factor (call : Call) : Parse Expr :=
  (do sign "+"; return .signed (← call .factor)) <|>
  (do sign "-"; return .signed (← call .factor)) <|>
  (do sign "~"; let _ ← call .factor; return .other "expression") <|>
  power call

/-- An assignment where none can be. -/
def namedMistake (call : Call) : Parse Expr :=
  (do
    let e ← call .expression
    sign ":="
    let _ ← call .expression
    raise (.named e.noun)) <|>
  (do
    let _ ← name
    sign "="
    let _ ← call .bitOr
    notAhead assigns
    raise .assignedName) <|>
  (do
    notAhead ((do let _ ← tuple call) <|> (do let _ ← generator call) <|>
      (do let _ ← constantWord))
    let e ← call .bitOr
    sign "="
    let _ ← call .bitOr
    notAhead assigns
    raise (.assigned e.noun))

/-- What each rule reads. -/
def step (call : Call) : Rule → Parse Expr
  | .expression => expression call
  | .disjunction => joined (call .conjunction) "or"
  | .conjunction => joined (call .inversion) "and"
  | .inversion =>
    (do keyword "not"; let _ ← call .inversion; return .other "expression") <|> comparison call
  | .bitOr => chain (call .bitXor) ["|"] operation
  | .bitXor => chain (call .bitAnd) ["^"] operation
  | .bitAnd => chain (call .shift) ["&"] operation
  | .shift => chain (call .sum) ["<<", ">>"] operation
  | .sum => chain (call .term) ["+", "-"] addition
  | .term => chain (call .factor) ["*", "/", "//", "%", "@"] operation
  | .factor => factor call
  | .primary => primary call
  | .arguments => arguments call
  | .namedMistake => namedMistake call

/-- Follow a rule, with at most so many rules inside each other. -/
def follow : Nat → Call
  | 0, _ => miss
  | n + 1, rule => remember rule (step (follow n) rule)

/-- A whole text: expressions, and nothing after them. -/
def whole (call : Call) : Parse Expr := do
  let items ← separated (call .expression) ","
  let comma ← optional (sign ",")
  let _ ← many (accept fun t => if t = .newline then some () else none)
  accept fun t => if t = .finish then some () else none
  match items, comma with
  | [e], none => return e
  | items, _ => return .tuple items

end Grammar

/-- The fault of a text that is reported for one that was met: a bracket left open on an earlier line
counts for more. -/
def reported (lexed : Lexed) (place : Place) (fault : Fault) : Fault :=
  match lexed.openLine, lexed.lexemes[place.seen]? with
  | some line, some lexeme => if line < lexeme.line then lexed.beyond else fault
  | _, _ => fault

/-- Read an expression. -/
def parse (cs : List Char) : Except Fault Expr := do
  let lexed ← lex cs
  let source := (lexed.lexemes.toArray, lexed.beyond)
  let whole := Grammar.whole (Grammar.follow (32 * (lexed.lexemes.length + 2)))
  match whole source ⟨0, 0, false, []⟩ with
  | .done e _ => return e
  | .fault f place => throw (reported lexed place f)
  | .miss first =>
    match whole source ⟨0, first.seen, true, []⟩ with
    | .fault f place => throw (reported lexed place f)
    | .done _ place | .miss place =>
      let indented := (lexed.lexemes[first.seen]?).any fun l => l.token = .indent
      throw (reported lexed place (if indented then .indented else .malformed))

end CallGraphs.Expression
