/-!
# Expressions

The shape of an expression as far as its literals are concerned. All that is no part of a literal is
kept only by the noun that messages have for it.
-/

namespace CallGraphs.Expression

/-- A constant, by its type. -/
inductive Constant where
  | null
  | bool (b : Bool)
  | ellipsis
  | text
  | bytes
  | real
  | imaginary
  deriving DecidableEq, Repr

inductive Expr where
  | word (name : String)
  | constant (c : Constant)
  | tuple (items : List Expr)
  | set (items : List Expr)
  /-- A dictionary with its entries; one without key takes over those of another dictionary. -/
  | dict (entries : List (Option Expr × Expr))
  /-- The call that makes an empty set. -/
  | emptySet
  | signed (e : Expr)
  | sum (a b : Expr)
  /-- A comparison, the first operator of which may be that of membership. -/
  | comparison (left : Expr) (membership : Bool)
  | starred (e : Expr)
  | other (noun : String)

namespace Expr

instance : Inhabited Expr :=
  ⟨.emptySet⟩

/-- The noun for an expression. -/
def noun : Expr → String
  | word _ => "name"
  | constant .null => "None"
  | constant (.bool true) => "True"
  | constant (.bool false) => "False"
  | constant .ellipsis => "ellipsis"
  | constant _ => "literal"
  | tuple _ => "tuple"
  | set _ => "set display"
  | dict _ => "dict literal"
  | emptySet => "function call"
  | signed _ => "expression"
  | sum .. => "expression"
  | comparison .. => "comparison"
  | starred _ => "starred"
  | other noun => noun

mutual

/-- The part of an expression that cannot be the target of a loop. -/
def badTarget? : Expr → Option String
  | word _ => none
  | tuple items => firstBadTarget? items
  | starred e => e.badTarget?
  | comparison left membership => if membership then left.badTarget? else some "comparison"
  | other "attribute" => none
  | e => some e.noun
termination_by structural e => e

def firstBadTarget? : List Expr → Option String
  | [] => none
  | e :: es => e.badTarget?.or (firstBadTarget? es)
termination_by structural es => es

end

end Expr

/-- Why an expression is no literal. -/
inductive LiteralFault where
  | notLiteral
  | noKey
  | unhashable (typeName : String)
  deriving DecidableEq, Repr

def LiteralFault.message : LiteralFault → String
  | notLiteral => "malformed node or string on line 1"
  | noKey => "malformed node or string: None"
  | unhashable typeName => "unhashable type: '" ++ typeName ++ "'"

namespace Expr

/-- Whether an expression is a number without sign. -/
def isUnsigned : Expr → Bool
  | constant .real | constant .imaginary => true
  | _ => false

/-- Whether an expression is a number that is not imaginary, with a sign or without. -/
def isReal : Expr → Bool
  | constant .real => true
  | signed (constant .real) => true
  | _ => false

mutual

/-- The part that keeps a literal from being a member of a set or a key. -/
def unhashable? : Expr → Option String
  | set _ | emptySet => some "set"
  | dict _ => some "dict"
  | tuple items => firstUnhashable? items
  | _ => none
termination_by structural e => e

def firstUnhashable? : List Expr → Option String
  | [] => none
  | e :: es => e.unhashable?.or (firstUnhashable? es)
termination_by structural es => es

end

mutual

/-- What keeps an expression from being a literal. -/
def literalFault? : Expr → Option LiteralFault
  | constant _ => none
  | emptySet => none
  | tuple items => firstLiteralFault? items
  | set items => firstMemberFault? items
  | dict entries => firstEntryFault? entries
  | signed e => if e.isUnsigned then none else some .notLiteral
  | sum a b =>
    match b with
    | constant .imaginary => if a.isReal then none else some .notLiteral
    | _ => some .notLiteral
  | _ => some .notLiteral
termination_by structural e => e

def firstLiteralFault? : List Expr → Option LiteralFault
  | [] => none
  | e :: es => e.literalFault?.or (firstLiteralFault? es)
termination_by structural es => es

/-- The first fault of the members of a set. -/
def firstMemberFault? : List Expr → Option LiteralFault
  | [] => none
  | e :: es =>
    e.literalFault?.or ((e.unhashable?.map .unhashable).or (firstMemberFault? es))
termination_by structural es => es

/-- The first fault of the entries of a dictionary. -/
def firstEntryFault? : List (Option Expr × Expr) → Option LiteralFault
  | [] => none
  | (none, _) :: _ => some .noKey
  | (some k, v) :: rest =>
    k.literalFault?.or
      (v.literalFault?.or ((k.unhashable?.map .unhashable).or (firstEntryFault? rest)))
termination_by structural entries => entries

end

end Expr

end CallGraphs.Expression
