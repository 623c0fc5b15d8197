import CallGraphs.Config
import CallGraphs.Event
import CallGraphs.Text.Blank
import CallGraphs.Text.Lower
import CallGraphs.Value.Members
/-!
# Classifying call instructions

The host program says what kind of invocation an instruction is; a classifier maps its answer to a
call kind. What it does not recognise is `invalid`. It fails only where it has something to report
and the text of that cannot be formed.
-/

namespace CallGraphs

/-- How the host's kind is read off an instruction, or the text of the failure to do so. -/
abbrev Resolver := Value → Except Draft Value

namespace Resolver

/-- The `kind` entry of a mapping, or the invocation kind of an instruction. -/
def standard : Resolver := fun v =>
  match v.items? with
  | some items => .ok ((items.lookup (.text "kind")).getD .null)
  | none => .ok ((v.attributes.lookup ("invoke_kind" : Text)).getD .null)

/-- The text before the first colon. -/
def leading : Resolver := fun v =>
  match v.text? with
  | some t => .ok (.text ⟨t.points.takeWhile (· != .char ':')⟩)
  | none => .error (v.lacks "split").message

/-- A named attribute. One that holds no data answers nothing. -/
def named (name : Text) : Resolver := fun v =>
  match v.getAttribute name with
  | .ok w => .ok w
  | .error fault => if v.hasMember name then .ok .null else .error fault.message

/-- The same answer for every instruction. -/
def constant (answer : Value) : Resolver := fun _ => .ok answer

/-- No answer for any instruction. -/
def failing (reason : Draft) : Resolver := fun _ => .error reason

end Resolver

/-- The form in which spellings are compared. -/
def normalize (t : Text) : Text :=
  t.trimmed.lowered

/-- A classifier: the spellings it knows, whether it warns, and where it asks. -/
structure Classifier where
  aliases : OrdMap Text CallKind
  strict : Bool
  resolver : Resolver

namespace Classifier

/-- Add a spelling whose kind is one. -/
def addAlias (aliases : OrdMap Text CallKind) (spelling kind : Text) : OrdMap Text CallKind :=
  match CallKind.ofName? (normalize kind) with
  | some k => aliases.insert (normalize spelling) k
  | none => aliases

/-- The classifier of a configuration. -/
def ofConfig (config : ClassifierConfig) (resolver : Resolver) : Classifier where
  aliases := config.kindAliases.entries.foldl (fun m e => addAlias m e.1 e.2) .empty
  strict := config.strict
  resolver := resolver

/-- The kind that a normalised spelling stands for; the names of the kinds come first. -/
def kindOf (c : Classifier) (name : Text) : CallKind :=
  match CallKind.ofName? name with
  | some k => k
  | none => (c.aliases.get? name).getD .invalid

/-- The kind that the host's answer stands for. -/
def lookup (c : Classifier) : Value → CallKind
  | .kind k => k
  | .text t => c.kindOf (normalize t)
  | _ => .invalid

/-- The kind of an instruction. -/
def kind (c : Classifier) (instruction : Value) : CallKind :=
  match c.resolver instruction with
  | .error _ => .invalid
  | .ok answer => c.lookup answer

/-- What there is to report of an instruction. -/
def remark? (c : Classifier) (instruction : Value) : Option Event :=
  match c.resolver instruction with
  | .error reason => some (.unresolved c.strict instruction reason)
  | .ok answer =>
    if c.lookup answer = .invalid ∧ c.strict = true then some (.unrecognized instruction) else none

/-- What keeps an instruction from being classified: there is something to report, and the text of
that cannot be formed. -/
def fault? (c : Classifier) (instruction : Value) : Option TextFault :=
  (c.remark? instruction).bind Event.fault?

/-- The kind of an instruction, and what is reported on the way. -/
def classify (c : Classifier) (instruction : Value) : Except Failure CallKind × List Event :=
  match c.fault? instruction with
  | none => (.ok (c.kind instruction), (c.remark? instruction).toList)
  | some fault => (.error (.unformed fault), [])

theorem classify_of_formed {c : Classifier} {instruction : Value}
    (h : c.fault? instruction = none) :
    c.classify instruction = (.ok (c.kind instruction), (c.remark? instruction).toList) := by
  simp only [classify, h]

theorem classify_of_unformed {c : Classifier} {instruction : Value} {fault : TextFault}
    (h : c.fault? instruction = some fault) :
    c.classify instruction = (.error (.unformed fault), []) := by
  simp only [classify, h]

end Classifier

end CallGraphs
