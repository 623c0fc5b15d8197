import CallGraphs.Value.Basic
/-!
# Values as keys

A value can be a key of a map unless it is, or contains, something that can be changed: a list or a
dictionary. The first such part in the order of the fields is the one that is reported.
-/

namespace CallGraphs

/-- The types whose values cannot be keys. -/
inductive Unhashable where
  | list
  | record
  deriving DecidableEq, Repr

def Unhashable.typeName : Unhashable → String
  | list => "list"
  | record => "dict"

namespace Value

mutual

/-- The first part that keeps a value from being a key. -/
def unhashable? : Value → Option Unhashable
  | list _ => some .list
  | record _ => some .record
  | tuple items => firstUnhashable? items
  | unitTuple items _ => firstUnhashable? items
  | mapping items => firstUnhashablePair? items
  | context method value => method.unhashable?.or value.unhashable?
  | site ctx node => ctx.unhashable?.or node.unhashable?
  | sensitive source ctx instr target ctx' _ =>
    source.unhashable?.or (ctx.unhashable?.or (instr.unhashable?.or
      (target.unhashable?.or ctx'.unhashable?)))
  | insensitive source instr target _ =>
    source.unhashable?.or (instr.unhashable?.or target.unhashable?)
  | unit invokeKind => invokeKind.unhashable?
  | host _ method => method.unhashable?
  | halfSite ctx => ctx.unhashable?
  | _ => none
termination_by structural v => v

def firstUnhashable? : List Value → Option Unhashable
  | [] => none
  | v :: vs => v.unhashable?.or (firstUnhashable? vs)
termination_by structural vs => vs

def firstUnhashablePair? : List (Value × Value) → Option Unhashable
  | [] => none
  | (k, v) :: ps => k.unhashable?.or (v.unhashable?.or (firstUnhashablePair? ps))
termination_by structural ps => ps

end

/-- Whether a value can be a key. -/
def hashable (v : Value) : Bool :=
  v.unhashable?.isNone

end Value

end CallGraphs
