import CallGraphs.Value.Basic
/-!
# Equality of values

Values are equal when they mean the same: numbers by their exact value whatever their type, a call
kind like its name, records of one type field by field, tuples of either type item by item, and
dictionaries whatever the order of their keys. What is not a number equals only itself.
-/

namespace CallGraphs

/-- What a value without parts means. -/
inductive Scalar where
  | null
  | number (d : Dyadic)
  | infinite (negative : Bool)
  | notANumber (payload : Nat)
  | text (t : Text)
  | bare (name : Text)
  | badContext (fault : HostFault)
  | badSite (fault : HostFault)
  | instruction (id : Text) (invokeKind : Option Text)
  deriving DecidableEq

namespace Value

/-- The meaning of a value without parts. -/
def scalar? : Value → Option Scalar
  | null => some .null
  | bool b => some (.number (.ofInt (if b then 1 else 0)))
  | int n => some (.number (.ofInt n))
  | float (.finite negative m q) =>
    some (.number (.scale (if negative then -(m : Int) else m) q))
  | float (.infinite negative) => some (.infinite negative)
  | float (.nan payload) => some (.notANumber payload)
  | text t => some (.text t)
  | kind k => some (.text k.name)
  | bare name => some (.bare name)
  | badContext fault => some (.badContext fault)
  | badSite fault => some (.badSite fault)
  | instruction id invokeKind => some (.instruction id invokeKind)
  | _ => none

/-- Whether a value is a number; a truth value counts as one. -/
def isNumber : Value → Bool
  | bool _ | int _ | float _ => true
  | _ => false

/-- Equality of two values without parts. -/
def sameScalar (a b : Value) : Bool :=
  match a.scalar?, b.scalar? with
  | some x, some y => x == y
  | _, _ => false

mutual

/-- Whether two values are equal. -/
def same : Value → Value → Bool
  | list xs, list ys => sameItems xs ys
  | tuple xs, tuple ys => sameItems xs ys
  | tuple xs, unitTuple ys _ => sameItems xs ys
  | unitTuple xs _, tuple ys => sameItems xs ys
  | unitTuple xs _, unitTuple ys _ => sameItems xs ys
  | record fs, record gs => fs.length == gs.length && sameFields fs gs
  | mapping ps, mapping qs => samePairs ps qs
  | context m v, context m' v' => m.same m' && v.same v'
  | site c n, site c' n' => c.same c' && n.same n'
  | sensitive s c i t d k, sensitive s' c' i' t' d' k' =>
    s.same s' && c.same c' && i.same i' && t.same t' && d.same d' && k == k'
  | insensitive s i t k, insensitive s' i' t' k' =>
    s.same s' && i.same i' && t.same t' && k == k'
  | unit v, unit w => v.same w
  | host n v, host n' w => n == n' && v.same w
  | halfSite v, halfSite w => v.same w
  | a, b => sameScalar a b
termination_by structural a => a

/-- Equality item by item. -/
def sameItems : List Value → List Value → Bool
  | [], [] => true
  | x :: xs, y :: ys => x.same y && sameItems xs ys
  | _, _ => false
termination_by structural xs => xs

/-- Every field has an equal one of the same name on the other side. -/
def sameFields : List (Text × Value) → List (Text × Value) → Bool
  | [], _ => true
  | (name, v) :: fs, gs =>
    (match gs.lookup name with
      | some w => v.same w
      | none => false) && sameFields fs gs
termination_by structural fs => fs

/-- Equality pair by pair. -/
def samePairs : List (Value × Value) → List (Value × Value) → Bool
  | [], [] => true
  | (a, b) :: ps, (c, d) :: qs => a.same c && b.same d && samePairs ps qs
  | _, _ => false
termination_by structural ps => ps

end

instance : BEq Value :=
  ⟨same⟩

end Value

end CallGraphs
