import CallGraphs.Value.Display
/-!
# Checked data

Rules for the parts of a document, and the issues that breaking them raises. All issues are
collected, in the order of the declared fields, each with the place where it was found.
-/

namespace CallGraphs

/-- A step into a document. -/
inductive Step where
  | field (name : String)
  | index (n : Nat)
  deriving DecidableEq, Repr

/-- The text of a step. A name with a dot in it stands between backticks. -/
def Step.text : Step → String
  | field name => if '.' ∈ name.toList then "`" ++ name ++ "`" else name
  | index n => toString n

/-- The rules that can be broken. -/
inductive Rule where
  | string
  | characters
  | list
  | dictionary
  | model (name : String)
  | integer
  | integralNumber
  | finiteNumber
  | integerSize
  | boolean
  | booleanSpelling
  | callKind
  | required
  | frozen
  deriving DecidableEq, Repr

namespace Rule

/-- The name of the rule. -/
def code : Rule → String
  | string => "string_type"
  | characters => "string_unicode"
  | list => "list_type"
  | dictionary => "dict_type"
  | model _ => "model_type"
  | integer => "int_type"
  | integralNumber => "int_from_float"
  | finiteNumber => "finite_number"
  | integerSize => "int_parsing_size"
  | boolean => "bool_type"
  | booleanSpelling => "bool_parsing"
  | callKind => "enum"
  | required => "missing"
  | frozen => "frozen_instance"

/-- What the rule asks for. -/
def message : Rule → String
  | string => "Input should be a valid string"
  | characters => "Input should be a valid string, unable to parse raw data as a unicode string"
  | list => "Input should be a valid list"
  | dictionary => "Input should be a valid dictionary"
  | model name => "Input should be a valid dictionary or instance of " ++ name
  | integer => "Input should be a valid integer"
  | integralNumber => "Input should be a valid integer, got a number with a fractional part"
  | finiteNumber => "Input should be a finite number"
  | integerSize => "Unable to parse input string as an integer, exceeded maximum size"
  | boolean => "Input should be a valid boolean"
  | booleanSpelling => "Input should be a valid boolean, unable to interpret input"
  | callKind => "Input should be 'virtual', 'static', 'special' or 'invalid'"
  | required => "Field required"
  | frozen => "Instance is frozen"

end Rule

/-- A broken rule, the place, and the value found there. -/
structure Issue where
  rule : Rule
  place : List Step
  found : Value

namespace Issue

/-- The issue seen from one step further out. -/
def within (step : Step) (i : Issue) : Issue :=
  { i with place := step :: i.place }

/-- The bytes that a text takes. -/
def byteLength (cs : List Char) : Nat :=
  (String.ofList cs).utf8ByteSize

/-- The longest start of a text within a number of bytes. -/
def takeBytes (limit : Nat) : List Char → List Char
  | [] => []
  | c :: cs => if c.utf8Size ≤ limit then c :: takeBytes (limit - c.utf8Size) cs else []

/-- A long text shortened in the middle: 25 bytes from its start and 24 from its end. -/
def abridge (s : String) : String :=
  let cs := s.toList
  if byteLength cs ≤ 50 then s
  else
    String.ofList (takeBytes 25 cs) ++ "..." ++ String.ofList (takeBytes 24 cs.reverse).reverse

/-- The exact text of what was found, or a stand-in for a text that cannot be formed. -/
def foundText (i : Issue) : Text :=
  match i.found.exact.form with
  | .ok t => t
  | .error _ => "<unprintable " ++ i.found.typeName ++ " object>"

/-- The issue as a line for its place and a line for the rule and what was found. -/
def text (i : Issue) : String :=
  ".".intercalate (i.place.map Step.text) ++ "\n  " ++ i.rule.message ++ " [type=" ++ i.rule.code ++
    ", input_value=" ++ abridge i.foundText.lossy ++ ", input_type=" ++ i.found.typeName ++ "]"

end Issue

/-- Data that does not fit the model of the given name. -/
structure Invalid where
  model : String
  issues : List Issue

namespace Invalid

/-- The number of issues and the model. -/
def summary (e : Invalid) : String :=
  let n := e.issues.length
  toString n ++ (if n = 1 then " validation error for " else " validation errors for ") ++ e.model

/-- The summary followed by the issues. -/
def text (e : Invalid) : String :=
  "\n".intercalate (e.summary :: e.issues.map Issue.text)

end Invalid

/-- The outcome of a check: the value read, or every issue. -/
abbrev Checked (α : Type) := Except (List Issue) α

namespace Checked

/-- A single issue at the place itself. -/
def refuse {α : Type} (rule : Rule) (found : Value) : Checked α :=
  .error [⟨rule, [], found⟩]

/-- A check one step further in. -/
def within {α : Type} (step : Step) : Checked α → Checked α
  | .ok a => .ok a
  | .error issues => .error (issues.map (Issue.within step))

/-- Two checks of which both report. -/
def both {α β : Type} : Checked α → Checked β → Checked (α × β)
  | .ok a, .ok b => .ok (a, b)
  | .ok _, .error issues => .error issues
  | .error issues, .ok _ => .error issues
  | .error issues, .error more => .error (issues ++ more)

/-- A check of every item, in order. -/
def each {α β : Type} (check : Nat → α → Checked β) : Nat → List α → Checked (List β)
  | _, [] => .ok []
  | n, a :: as => (both (check n a) (each check (n + 1) as)).map fun (b, bs) => b :: bs

theorem both_eq_ok_iff {α β : Type} {x : Checked α} {y : Checked β} {a : α} {b : β} :
    both x y = .ok (a, b) ↔ x = .ok a ∧ y = .ok b := by
  cases x <;> cases y <;> simp [both]

end Checked

namespace Schema

/-- Text. -/
def string : Json → Checked Text
  | .text t => .ok t
  | j => .refuse .string (.ofJson j)

/-- Text or nothing. -/
def optionalString : Json → Checked (Option Text)
  | .null => .ok none
  | j => (string j).map some

/-- A list whose items all pass a check. -/
def listOf {α : Type} (item : Json → Checked α) : Json → Checked (List α)
  | .array items => Checked.each (fun n j => Checked.within (.index n) (item j)) 0 items
  | j => .refuse .list (.ofJson j)

/-- A dictionary from text to text. -/
def stringMap : Json → Checked (List (Text × Text))
  | .object members =>
    Checked.each (fun _ m =>
      (Checked.within (.field m.1.lossy) (string m.2)).map fun t => (m.1, t)) 0 members
  | j => .refuse .dictionary (.ofJson j)

/-- The members of an object that stands for a model. -/
def model (name : String) : Json → Checked (List (Text × Json))
  | .object members => .ok members
  | j => .refuse (.model name) (.ofJson j)

/-- A field that must be there. -/
def required {α : Type} (members : List (Text × Json)) (name : String) (check : Json → Checked α) :
    Checked α :=
  Checked.within (.field name) <|
    match members.lookup (name : Text) with
    | some j => check j
    | none => .refuse .required (.ofJson (.object members))

/-- A field that has a default. -/
def defaulted {α : Type} (members : List (Text × Json)) (name : String) (default : α)
    (check : Json → Checked α) : Checked α :=
  match members.lookup (name : Text) with
  | some j => Checked.within (.field name) (check j)
  | none => .ok default

/-- Signed words of 64 bits are below this bound. -/
def wordBound : Int := 9223372036854775808

theorem fitsDigits_of_word {n : Int} (hlow : -wordBound < n) (hhigh : n < wordBound) :
    fitsDigits maxDigits n.natAbs = true := by
  have hword : fitsDigits 19 n.natAbs = true := by
    rw [fitsDigits_iff]
    have hpow : Nat.pow 10 19 = 10000000000000000000 := rfl
    unfold wordBound at hlow hhigh
    omega
  exact fitsDigits_of_le hword (by decide)

/-- The whole number that a floating point number is, strictly between the bounds of a signed word
of 64 bits. -/
def wholeNumber (x : Binary64) : Except Rule Whole :=
  match x.toDyadic? with
  | none => .error .finiteNumber
  | some d =>
    match d.toInt? with
    | none => .error .integralNumber
    | some n =>
      if h : -wordBound < n ∧ n < wordBound then .ok ⟨n, fitsDigits_of_word h.1 h.2⟩
      else .error .integerSize

/-- A whole number: written as one, as a truth value, or as a floating point number without
fraction. -/
def integer : Json → Checked Whole
  | .int n => .ok n
  | .bool b => .ok (.ofBool b)
  | .float x =>
    match wholeNumber x with
    | .ok n => .ok n
    | .error rule => .refuse rule (.float x)
  | j => .refuse .integer (.ofJson j)

/-- The spellings of the two truth values. -/
def falseWords : List String := ["0", "off", "f", "false", "n", "no"]

def trueWords : List String := ["1", "on", "t", "true", "y", "yes"]

/-- The truth value of a whole number. -/
def truthOf? (n : Int) : Option Bool :=
  if n = 0 then some false else if n = 1 then some true else none

/-- A truth value: itself, zero or one, or one of the spellings in any case. A text with half a pair
is not even looked at. -/
def boolean (j : Json) : Checked Bool :=
  let numeric (n : Int) : Checked Bool :=
    match truthOf? n with
    | some b => .ok b
    | none => .refuse .booleanSpelling (.ofJson j)
  match j with
  | .bool b => .ok b
  | .int n =>
    if -wordBound ≤ n.value ∧ n.value < wordBound then numeric n.value
    else .refuse .boolean (.ofJson j)
  | .float x =>
    match wholeNumber x with
    | .ok n => numeric n.value
    | .error _ => .refuse .boolean (.ofJson j)
  | .text t =>
    match t.chars? with
    | none => .refuse .characters (.ofJson j)
    | some cs =>
      let word := String.ofList (cs.map Char.toLower)
      if word ∈ falseWords then .ok false
      else if word ∈ trueWords then .ok true
      else .refuse .booleanSpelling (.ofJson j)
  | _ => .refuse .boolean (.ofJson j)

end Schema

end CallGraphs
