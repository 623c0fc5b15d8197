import CallGraphs.Failure
import CallGraphs.Json.Printer
/-!
# Configuration

The settings of a project: its name, the spellings that stand for call kinds, and strictness. The
configuration has a document form; settings are read and changed in that form by dotted keys, and a
changed document must pass the same checks as one that is read from a file.
-/

namespace CallGraphs

/-- How instructions are classified. -/
structure ClassifierConfig where
  /-- Spellings of the host program and the kinds they stand for. -/
  kindAliases : OrdMap Text Text
  /-- Whether to warn about instructions that are no recognised calls. -/
  strict : Bool

/-- The spellings known at the start. -/
def defaultAliases : OrdMap Text Text :=
  ⟨[("interface", "virtual"), ("invokevirtual", "virtual"), ("invokeinterface", "virtual"),
    ("invokestatic", "static"), ("invokespecial", "special")]⟩

def ClassifierConfig.default : ClassifierConfig :=
  ⟨defaultAliases, false⟩

/-- All settings of a project. -/
structure Config where
  name : Text
  classifier : ClassifierConfig

namespace ClassifierConfig

/-- The document form. -/
def toJson (c : ClassifierConfig) : Json :=
  .object [("kind_aliases", .object (c.kindAliases.entries.map fun e => (e.1, .text e.2))),
    ("strict", .bool c.strict)]

/-- The settings that a document gives; what it leaves out has its default. -/
def check (j : Json) : Checked ClassifierConfig :=
  match Schema.model "ClassifierConfig" j with
  | .error issues => .error issues
  | .ok members =>
    (Checked.both
      (Schema.defaulted members "kind_aliases" defaultAliases fun j =>
        (Schema.stringMap j).map OrdMap.mk)
      (Schema.defaulted members "strict" false Schema.boolean)).map fun (aliases, strict) =>
        ⟨aliases, strict⟩

/-- The settings of a document, or its issues. -/
def ofJson (j : Json) : Except Invalid ClassifierConfig :=
  (check j).mapError fun issues => ⟨"ClassifierConfig", issues⟩

/-- The settings as they are stored: half pairs in a spelling are replaced. -/
def stored (c : ClassifierConfig) : ClassifierConfig :=
  { c with kindAliases := ⟨c.kindAliases.entries.map fun e => (Text.ofString e.1.lossy, e.2)⟩ }

end ClassifierConfig

namespace Config

/-- The configuration of a project without a file, under a given name. -/
def default (name : Text) : Config :=
  ⟨name, .default⟩

/-- The document form. -/
def toJson (c : Config) : Json :=
  .object [("name", .text c.name), ("classifier", c.classifier.toJson)]

/-- The settings that a document gives; what it leaves out has its default. -/
def check (j : Json) : Checked Config :=
  match Schema.model "ProjectConfig" j with
  | .error issues => .error issues
  | .ok members =>
    (Checked.both (Schema.defaulted members "name" ("" : Text) Schema.string)
      (Schema.defaulted members "classifier" .default ClassifierConfig.check)).map
        fun (name, classifier) => ⟨name, classifier⟩

/-- The settings of a document, or its issues. -/
def ofJson (j : Json) : Except Invalid Config :=
  (check j).mapError fun issues => ⟨"ProjectConfig", issues⟩

/-- The text of the configuration file. -/
def text (c : Config) : String :=
  { c with classifier := c.classifier.stored }.toJson.pretty

/-- The first half pairs in the name or in a kind, which cannot be stored. -/
def halves? (c : Config) : Option Text.Halves :=
  (c.name :: c.classifier.kindAliases.entries.map (·.2)).findSome? Text.halves?

/-- The text of the configuration file, if all of it can be stored. -/
def checkedText (c : Config) : Except Failure String :=
  match c.halves? with
  | some halves => .error (.unstorable halves)
  | none => .ok c.text

end Config

namespace Json

/-- The part of a document below a list of member names. -/
def part? : Json → List Text → Option Json
  | j, [] => some j
  | object members, name :: names =>
    match members.lookup name with
    | some j => j.part? names
    | none => none
  | _, _ :: _ => none
termination_by structural _ names => names

/-- The members with the first one of a name replaced. -/
def setMember (name : Text) (j : Json) : List (Text × Json) → List (Text × Json)
  | [] => []
  | (name', j') :: rest =>
    if name == name' then (name', j) :: rest else (name', j') :: setMember name j rest

/-- The document with an existing part replaced. -/
def setPart? : Json → List Text → Json → Option Json
  | _, [], v => some v
  | object members, name :: names, v =>
    match members.lookup name with
    | some j => (j.setPart? names v).map fun j' => object (setMember name j' members)
    | none => none
  | _, _ :: _, _ => none
termination_by structural _ names => names

end Json

namespace Config

/-- The names between the dots of a key. -/
def keyNames (key : Text) : List Text :=
  (key.points.splitOn (.char '.')).map Text.mk

/-- The setting at a dotted key. -/
def get (c : Config) (key : Text) : Except Failure Json :=
  match c.toJson.part? (keyNames key) with
  | some j => .ok j
  | none => .error (.unknownKey key)

/-- The configuration with the setting at a dotted key replaced. -/
def set (c : Config) (key : Text) (value : Json) : Except Failure Config :=
  match c.toJson.setPart? (keyNames key) value with
  | none => .error (.unknownKey key)
  | some j =>
    match check j with
    | .ok c' => .ok c'
    | .error issues => .error (.config (.badValue (.ofJson value) key issues))

end Config

end CallGraphs
