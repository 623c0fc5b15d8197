import CallGraphs.Transform
/-!
# Sessions

Transformers that share a registry. A transformer remembers the analysis and the counts of its last
successful pass; the registry holds the graphs that were published last. A failing pass changes
neither.
-/

namespace CallGraphs

/-- A graph and the number of the pass that built it. -/
structure Published (γ : Type) where
  pass : Nat
  graph : γ

/-- The graphs published for a program. -/
structure Registry where
  callGraph : Option (Published InsensitiveGraph)
  contextGraph : Option (Published SensitiveGraph)

namespace Registry

/-- A registry without graphs. -/
def empty : Registry :=
  ⟨none, none⟩

/-- The registry with both graphs of a pass. -/
def register (pass : Nat) (graphs : Graphs) : Registry :=
  ⟨some ⟨pass, graphs.callGraph⟩, some ⟨pass, graphs.contextGraph⟩⟩

end Registry

/-- A transformer: how it classifies, and the number of the analysis and the counts of its last
successful pass. -/
structure Transformer where
  classifier : Classifier
  analysis : Option Nat
  lastStats : Option Stats

/-- A transformer that has not run yet. -/
def Transformer.fresh (classifier : Classifier) : Transformer :=
  ⟨classifier, none, none⟩

/-- Transformers, the registry they share if there is one, the number of analyses handed over, and the
graphs of the successful passes in order. -/
structure Session where
  transformers : List Transformer
  registry : Option Registry
  analyses : Nat
  results : List Graphs

/-- The answer of a pass and what was reported. -/
structure PassReport where
  answer : Except Failure Graphs
  events : List Event

namespace Session

/-- A session with one transformer. -/
def start (classifier : Classifier) (registry : Bool) : Session :=
  ⟨[.fresh classifier], if registry then some .empty else none, 0, []⟩

/-- The session after a successful pass of the transformer of a number. -/
def succeed (s : Session) (n : Nat) (graphs : Graphs) : Session where
  transformers := s.transformers.modify n fun t =>
    { t with analysis := some s.analyses, lastStats := some graphs.stats }
  registry := s.registry.map fun _ => .register s.results.length graphs
  analyses := s.analyses + 1
  results := s.results ++ [graphs]

/-- The session after a failing pass. -/
def miss (s : Session) : Session :=
  { s with analyses := s.analyses + 1 }

/-- The session after a pass of the transformer of a number, whatever came of it. -/
def settle (s : Session) (n : Nat) : Except Failure Graphs → Session
  | .ok graphs => s.succeed n graphs
  | .error _ => s.miss

/-- Hand a source to a classifier on behalf of the transformer of a number. -/
def runWith (s : Session) (classifier : Classifier) (n : Nat) (source : Source) :
    Session × PassReport :=
  let (answer, events) := CallGraphs.transform classifier source
  (s.settle n answer, ⟨answer, events⟩)

/-- A pass of the transformer of a number, if there is one. -/
def transform (s : Session) (n : Nat) (source : Source) : Option (Session × PassReport) :=
  (s.transformers[n]?).map fun t => s.runWith t.classifier n source

/-- A pass of a new transformer. -/
def build (s : Session) (classifier : Classifier) (source : Source) : Session × PassReport :=
  { s with transformers := s.transformers ++ [Transformer.fresh classifier] }.runWith classifier
    s.transformers.length source

/-- Take all graphs out of the registry. -/
def clearRegistry (s : Session) : Session :=
  { s with registry := s.registry.map fun _ => .empty }

/-- Publish the context-insensitive graph of a result. -/
def publishCallGraph (s : Session) (n : Nat) : Session :=
  match s.results[n]? with
  | some graphs =>
    { s with registry := s.registry.map fun r => { r with callGraph := some ⟨n, graphs.callGraph⟩ } }
  | none => s

/-- Publish the context-sensitive graph of a result. -/
def publishContextGraph (s : Session) (n : Nat) : Session :=
  match s.results[n]? with
  | some graphs =>
    { s with
      registry := s.registry.map fun r => { r with contextGraph := some ⟨n, graphs.contextGraph⟩ } }
  | none => s

end Session

end CallGraphs
