import CallGraphs.Expression.Grammar
import CallGraphs.Text.Blank
import CallGraphs.Text.Lines
/-!
# Arguments of tags

The parameters of a tag that carries data are a name with arguments between brackets, or any
expression. The arguments, or the expression, have to be a literal.
-/

namespace CallGraphs.Markup

/-- Why the argument of a tag cannot be had. -/
inductive ArgumentFault where
  | unreadable (argument : String) (fault : Expression.Fault)
  | noLiteral (fault : Expression.LiteralFault)

/-- What has to be a literal: the brackets after a name, which may be left out, or all of it. -/
def argumentOf (parameters : List Char) : List Char :=
  let cs := Text.trim parameters
  let rest := cs.dropWhile fun c => Expression.isWordChar c || c == '.'
  if rest.isEmpty then ['(', ')']
  else if rest.head? == some '(' && rest.getLast? == some ')' && !rest.contains '\n' then rest
  else cs

/-- What is wrong with the parameters of a tag that carries data. -/
def argumentFault? (parameters : List Char) : Option ArgumentFault :=
  let argument := argumentOf parameters
  match Expression.parse (Text.unifyBreaks argument) with
  | .error fault => some (.unreadable (String.ofList argument) fault)
  | .ok e => e.literalFault?.map .noLiteral

end CallGraphs.Markup
