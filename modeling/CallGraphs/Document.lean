import CallGraphs.TransitionTable
/-!
# Transition table documents

A document names procedures, declares contexts by an id, and lists for calls in a context the
targets with the id of the context of each. Reading it gives the table and the contexts and
instructions by the names that the document uses.
-/

namespace CallGraphs

/-- A declared context. Its distinguishing value is the id unless another is given. -/
structure ContextEntry where
  id : Text
  method : Option Text
  value : Option (Text ⊕ Whole)

/-- The calls of one instruction in one context: targets with the ids of their contexts. -/
structure TransitionEntry where
  context : Text
  node : Text
  kind : Option Text
  targets : List (Text × Text)

/-- A transition table document. -/
structure Document where
  methods : List Text
  contexts : List ContextEntry
  transitions : List TransitionEntry

namespace Document

/-- Text, a whole number or nothing; anything else breaks the rule of both types. -/
def checkValue : Json → Checked (Option (Text ⊕ Whole))
  | .null => .ok none
  | .text t => .ok (some (.inl t))
  | j =>
    match Schema.integer j with
    | .ok n => .ok (some (.inr n))
    | .error issues =>
      .error (⟨.string, [.field "str"], .ofJson j⟩ :: issues.map (Issue.within (.field "int")))

def checkContext (j : Json) : Checked ContextEntry :=
  match Schema.model "ContextDoc" j with
  | .error issues => .error issues
  | .ok members =>
    (Checked.both (Schema.required members "id" Schema.string)
      (Checked.both (Schema.defaulted members "method" none Schema.optionalString)
        (Schema.defaulted members "value" none checkValue))).map fun (id, method, value) =>
          ⟨id, method, value⟩

def checkTransition (j : Json) : Checked TransitionEntry :=
  match Schema.model "TransitionDoc" j with
  | .error issues => .error issues
  | .ok members =>
    (Checked.both (Schema.required members "context" Schema.string)
      (Checked.both (Schema.required members "node" Schema.string)
        (Checked.both (Schema.defaulted members "kind" none Schema.optionalString)
          (Schema.defaulted members "targets" [] Schema.stringMap)))).map
            fun (context, node, kind, targets) => ⟨context, node, kind, targets⟩

def check (j : Json) : Checked Document :=
  match Schema.model "TransitionTableDoc" j with
  | .error issues => .error issues
  | .ok members =>
    (Checked.both (Schema.defaulted members "methods" [] (Schema.listOf Schema.string))
      (Checked.both (Schema.defaulted members "contexts" [] (Schema.listOf checkContext))
        (Schema.defaulted members "transitions" [] (Schema.listOf checkTransition)))).map
          fun (methods, contexts, transitions) => ⟨methods, contexts, transitions⟩

/-- The document that decoded data gives, or its issues. -/
def ofJson (j : Json) : Except Invalid Document :=
  (check j).mapError fun issues => ⟨"TransitionTableDoc", issues⟩

end Document

/-- A table with the contexts and instructions that its document names. -/
structure LoadedTable where
  table : TransitionTable
  contexts : OrdMap Text Value
  instructions : OrdMap Text Value

namespace LoadedTable

def empty : LoadedTable :=
  ⟨.empty, .empty, .empty⟩

/-- The context that an entry declares. -/
def contextOf (c : ContextEntry) : Value :=
  .context (.ofOption c.method) <|
    match c.value with
    | none => .text c.id
    | some (.inl t) => .text t
    | some (.inr n) => .int n.value

/-- Declare a context under its id, which must be new. -/
def declare (l : LoadedTable) (c : ContextEntry) : Except Failure LoadedTable :=
  if l.contexts.contains c.id then .error (.document (.duplicateContext c.id))
  else .ok { l with contexts := l.contexts.insert c.id (contextOf c) }

/-- The context of an id. -/
def find (l : LoadedTable) (id : Text) : Except Failure Value :=
  match l.contexts.get? id with
  | some ctx => .ok ctx
  | none => .error (.table (.unknownContext id))

/-- The kind that an instruction was declared with. -/
def declaredKind : Value → Option Text
  | .instruction _ kind => kind
  | _ => none

/-- The instruction of a node, which must always be declared with the same kind. -/
def intern (l : LoadedTable) (node : Text) (kind : Option Text) :
    Except Failure (LoadedTable × Value) :=
  match l.instructions.get? node with
  | none =>
    let instr := Value.instruction node kind
    .ok ({ l with instructions := l.instructions.insert node instr }, instr)
  | some instr =>
    if declaredKind instr = kind then .ok (l, instr)
    else .error (.document (.conflictingKinds node (declaredKind instr) kind))

/-- Record the targets of a call site, in order. -/
def addTargets (l : LoadedTable) (site : Value) : List (Text × Text) → Except Failure LoadedTable
  | [] => .ok l
  | (target, id) :: rest =>
    match l.find id with
    | .error f => .error f
    | .ok ctx =>
      let added := l.table.addTransition site (.text target) ctx
      match added.answer with
      | .error f => .error f
      | .ok _ => { l with table := added.state }.addTargets site rest

/-- Record the calls of an entry. Its context is looked up first, then its node, then its targets.
-/
def addEntry (l : LoadedTable) (t : TransitionEntry) : Except Failure LoadedTable :=
  match l.find t.context with
  | .error f => .error f
  | .ok ctx =>
    match l.intern t.node t.kind with
    | .error f => .error f
    | .ok (l, instr) => l.addTargets (.site ctx instr) t.targets

/-- Make procedures known by name. -/
def addMethods (l : LoadedTable) (names : List Text) : LoadedTable :=
  { l with
    table := { l.table with methods := Distinct.extend l.table.methods (names.map Value.text) } }

/-- Declare contexts one after another. -/
def declareAll (l : LoadedTable) (cs : List ContextEntry) : Except Failure LoadedTable :=
  cs.foldlM declare l

/-- Record entries one after another. -/
def addEntries (l : LoadedTable) (ts : List TransitionEntry) : Except Failure LoadedTable :=
  ts.foldlM addEntry l

/-- The table of a document: procedures first, then contexts, then calls. -/
def ofDocument (d : Document) : Except Failure LoadedTable := do
  let l ← (empty.addMethods d.methods).declareAll d.contexts
  l.addEntries d.transitions

/-- The table of decoded data. -/
def parse (j : Json) : Except Failure LoadedTable :=
  match Document.ofJson j with
  | .error e => .error (.document (.invalid e))
  | .ok d => ofDocument d

/-- The table of a file. Faults of the text itself are told apart: bytes that are no text, numbers
that are too long and nesting that is too deep are not the document's own errors. -/
def load (t : FileTree) (p : Path) : Except Failure LoadedTable :=
  match t.readText p with
  | .error (.os e) => .error (.document (.unreadable p.text e))
  | .error f => .error f
  | .ok cs =>
    match Json.read cs with
    | .error (.malformed fault line column position) =>
      .error (.document (.malformed p.text (.malformed fault line column position)))
    | .error e => .error (.unreadableJson e)
    | .ok (.object members) => parse (.object members)
    | .ok _ => .error (.document (.notObject p.text))

end LoadedTable

end CallGraphs
