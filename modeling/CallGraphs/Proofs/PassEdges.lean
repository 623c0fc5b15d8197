import CallGraphs.Proofs.EdgeStorage
import CallGraphs.Proofs.IndexExactness
import CallGraphs.Transform
/-!
# The edges of a pass

A pass goes through the entries of a table and, within an entry, through its targets, and adds an
edge for each. A pass that comes to its end has added one edge for every recorded pair, in the order
of the table, and nothing else.
-/

namespace CallGraphs

theorem Value.isNull_eq_false {v : Value} (hv : v ≠ .null) : v.isNull = false := by
  cases v with
  | null => exact absurd rfl hv
  | _ => rfl

/-- The pairs of a call site and a target that a table records, each with the context of the target.
An entry or a target that is there twice counts twice. -/
def recordedPairs (entries : List (Value × Value)) : List (Value × Value × Value) :=
  entries.flatMap fun entry => (entry.2.items?.getD []).map (entry.1, ·)

/-- The edge that a recorded pair stands for: it leaves the procedure of the calling context, at the
call node, and is of the kind that the classifier gives to the node. -/
def recordedEdge (classifier : Classifier) (pair : Value × Value × Value) :
    Except AccessFault SensitiveEdge := do
  let ctx ← pair.1.getCallingContext
  let node ← pair.1.getCallNode
  let method ← ctx.getMethod
  return {
    source := method
    sourceContext := ctx
    instruction := node
    target := pair.2.1
    targetContext := pair.2.2
    kind := classifier.kind node }

theorem recordedEdge_eq_ok {classifier : Classifier} {site ctx node method : Value}
    (hctx : site.getCallingContext = .ok ctx) (hnode : site.getCallNode = .ok node)
    (hmethod : ctx.getMethod = .ok method) (t : Value × Value) :
    recordedEdge classifier (site, t) =
      .ok ((⟨method, ctx, node, classifier.kind node⟩ : Caller).edge t.1 t.2) := by
  simp only [recordedEdge, hctx, hnode, bind, Except.bind, hmethod]
  rfl

/-- The edges are those that a table records, pair by pair. -/
structure Tabulated (classifier : Classifier) (entries : List (Value × Value))
    (es : List SensitiveEdge) : Prop where
  mappings : ∀ entry ∈ entries, entry.2.items?.isSome = true
  edges : (recordedPairs entries).map (recordedEdge classifier) = es.map .ok

theorem tabulated_nil (classifier : Classifier) : Tabulated classifier [] [] where
  mappings _ hentry := by cases hentry
  edges := rfl

theorem Tabulated.cons {classifier : Classifier} {site targets : Value}
    {entries items : List (Value × Value)} {es es' : List SensitiveEdge}
    (hitems : targets.items? = some items)
    (hes : items.map (fun t => recordedEdge classifier (site, t)) = es.map .ok)
    (hes' : Tabulated classifier entries es') :
    Tabulated classifier ((site, targets) :: entries) (es ++ es') where
  mappings := by
    intro entry hentry
    rcases List.mem_cons.mp hentry with rfl | hrest
    · rw [hitems]
      rfl
    · exact hes'.mappings entry hrest
  edges := by
    have hpairs : recordedPairs ((site, targets) :: entries) =
        items.map (site, ·) ++ recordedPairs entries := by
      simp [recordedPairs, hitems]
    rw [hpairs, List.map_append, List.map_map, List.map_append, hes'.edges]
    exact congrArg (· ++ es'.map .ok) hes

namespace Progress

/-- A pass goes on from one state to another by adding edges, all of them successfully. What it
reports on the way does not count. -/
inductive Adds : Progress → List SensitiveEdge → Progress → Prop
  | nil (p : Progress) : Adds p [] p
  | report {p q : Progress} {es : List SensitiveEdge} (events : List Event)
      (rest : Adds (p.report events) es q) : Adds p es q
  | cons {p q : Progress} {e : SensitiveEdge} {es : List SensitiveEdge} {u : Unit}
      (added : (p.addEdge e).answer = .ok u) (rest : Adds (p.addEdge e).state es q) :
      Adds p (e :: es) q

theorem Adds.append {p q r : Progress} {es es' : List SensitiveEdge} (h : Adds p es q)
    (h' : Adds q es' r) : Adds p (es ++ es') r := by
  induction h with
  | nil p => exact h'
  | report events _ ih => exact .report events (ih h')
  | cons added _ ih => exact .cons added (ih h')

/-- An edge that is added went into both graphs, was counted if the second knew it, and is reported.
-/
theorem addEdge_eq_done {p : Progress} {e : SensitiveEdge} {u : Unit}
    (h : (p.addEdge e).answer = .ok u) :
    ∃ a new, (p.index.addEdge e).answer = .ok a ∧
      (p.graph.addEdge e.toInsensitive).answer = .ok new ∧ (Event.added e).fault? = none ∧
      p.addEdge e = .done
        { index := (p.index.addEdge e).state
          graph := (p.graph.addEdge e.toInsensitive).state
          collapsed := if new then p.collapsed else p.collapsed + 1
          events := p.events ++ [.added e] } () := by
  unfold addEdge at h ⊢
  cases hindex : (p.index.addEdge e).answer with
  | error f => simp [hindex] at h
  | ok a =>
      cases hgraph : (p.graph.addEdge e.toInsensitive).answer with
      | error f => simp [hindex, hgraph] at h
      | ok new =>
          cases hformed : (Event.added e).fault? with
          | some fault => simp [hindex, hgraph, hformed] at h
          | none =>
              refine ⟨a, new, rfl, rfl, rfl, ?_⟩
              simp only [hindex, hgraph, report]

/-- What one added edge changes. -/
theorem addEdge_eq_ok {p : Progress} {e : SensitiveEdge} {u : Unit}
    (h : (p.addEdge e).answer = .ok u) :
    ∃ a new, (p.index.addEdge e).answer = .ok a ∧
      (p.graph.addEdge e.toInsensitive).answer = .ok new ∧
      (p.addEdge e).state.index = (p.index.addEdge e).state ∧
      (p.addEdge e).state.graph = (p.graph.addEdge e.toInsensitive).state ∧
      (p.addEdge e).state.collapsed = if new then p.collapsed else p.collapsed + 1 := by
  obtain ⟨a, new, hindex, hgraph, _, heq⟩ := addEdge_eq_done h
  rw [heq]
  exact ⟨a, new, hindex, hgraph, rfl, rfl, rfl⟩

theorem addEdge_events {p : Progress} {e : SensitiveEdge} {u : Unit}
    (h : (p.addEdge e).answer = .ok u) : (p.addEdge e).state.events = p.events ++ [.added e] := by
  obtain ⟨_, _, _, _, _, heq⟩ := addEdge_eq_done h
  rw [heq]
  rfl

theorem addEdge_formed {p : Progress} {e : SensitiveEdge} {u : Unit}
    (h : (p.addEdge e).answer = .ok u) : (Event.added e).fault? = none := by
  obtain ⟨_, _, _, _, hformed, _⟩ := addEdge_eq_done h
  exact hformed

/-- The reports of all edges that were added could be formed. -/
theorem Adds.formed {p q : Progress} {es : List SensitiveEdge} (h : Adds p es q) :
    ∀ e ∈ es, (Event.added e).fault? = none := by
  induction h with
  | nil p => exact fun _ he => (by cases he)
  | report events _ ih => exact ih
  | cons added _ ih => exact List.forall_mem_cons.mpr ⟨addEdge_formed added, ih⟩

end Progress

theorem addTargets_adds {c : Caller} {p : Progress} {items : List (Value × Value)} {u : Unit}
    (h : (addTargets c p items).answer = .ok u) :
    p.Adds (items.map fun t => c.edge t.1 t.2) (addTargets c p items).state := by
  induction items generalizing p with
  | nil => exact .nil p
  | cons t items ih =>
      obtain ⟨target, ctx⟩ := t
      unfold addTargets at h ⊢
      obtain ⟨a, hadded, heq⟩ := Outcome.andThen_eq_ok h
      rw [heq] at h ⊢
      exact .cons hadded (ih h)

theorem decompose_eq_ok {site ctx node : Value} (h : decompose site = .ok (ctx, node)) :
    site.getCallingContext = .ok ctx ∧ site.getCallNode = .ok node := by
  unfold decompose at h
  split at h
  · cases h
  · rename_i ctx' hctx
    split at h
    · cases h
    · rename_i node' hnode
      cases h
      exact ⟨hctx, hnode⟩

/-- What asking a calling context for its procedure comes to: there is one; or the context fails to
tell; or it is no context or has none. -/
theorem resolveMethod_cases (ctx site : Value) :
    (∃ method, ctx.getMethod = .ok method ∧ method ≠ .null ∧
        resolveMethod ctx site = .ok method) ∨
      (∃ fault, ctx.isContext = true ∧ ctx.getMethod = .error fault ∧
        resolveMethod ctx site = .error (.access fault)) ∨
      (ctx.isContext = false ∨ ctx.getMethod = .ok .null) ∧
        resolveMethod ctx site = .error (.ofTableFault (.noProcedure ctx site)) := by
  unfold resolveMethod
  cases hctx : ctx.isContext with
  | false => exact .inr (.inr ⟨.inl rfl, rfl⟩)
  | true =>
  cases hmethod : ctx.getMethod with
  | error fault => exact .inr (.inl ⟨fault, rfl, rfl, rfl⟩)
  | ok method =>
      by_cases hnull : method = .null
      · rw [hnull]
        exact .inr (.inr ⟨.inr rfl, rfl⟩)
      · refine .inl ⟨method, rfl, hnull, ?_⟩
        simp [Value.isNull_eq_false hnull]

theorem resolveMethod_eq_ok {ctx site method : Value} (h : resolveMethod ctx site = .ok method) :
    ctx.getMethod = .ok method ∧ method ≠ .null := by
  rcases resolveMethod_cases ctx site with ⟨found, hfound, hnull, heq⟩ | ⟨fault, _, _, heq⟩ |
    ⟨_, heq⟩
  · rw [heq] at h
    cases h
    exact ⟨hfound, hnull⟩
  · rw [heq] at h
    cases h
  · rw [heq] at h
    cases h

/-- An entry that is added was taken apart, had a procedure and targets, was classified, and is
added target by target. -/
theorem addEntry_eq_ok {classifier : Classifier} {p : Progress} {site targets : Value} {u : Unit}
    (h : (addEntry classifier p site targets).answer = .ok u) :
    ∃ ctx node method items, decompose site = .ok (ctx, node) ∧
      resolveMethod ctx site = .ok method ∧ classifier.fault? node = none ∧
      targets.items? = some items ∧
      addEntry classifier p site targets =
        addTargets ⟨method, ctx, node, classifier.kind node⟩
          (p.report (classifier.remark? node).toList) items := by
  unfold addEntry at h ⊢
  cases hsite : decompose site with
  | error f => simp [hsite] at h
  | ok parts =>
  obtain ⟨ctx, node⟩ := parts
  cases hmethod : resolveMethod ctx site with
  | error f => simp [hsite, hmethod] at h
  | ok method =>
  cases hformed : classifier.fault? node with
  | some fault => simp [hsite, hmethod, Classifier.classify_of_unformed hformed] at h
  | none =>
  cases hitems : targets.items? with
  | none => simp [hsite, hmethod, Classifier.classify_of_formed hformed, hitems] at h
  | some items =>
      refine ⟨ctx, node, method, items, rfl, hmethod, hformed, rfl, ?_⟩
      simp only [hmethod, Classifier.classify_of_formed hformed]

/-- An entry that is added has targets, and the edges to them are those that it records. -/
theorem addEntry_adds {classifier : Classifier} {p : Progress} {site targets : Value} {u : Unit}
    (h : (addEntry classifier p site targets).answer = .ok u) :
    ∃ items es, targets.items? = some items ∧
      items.map (fun t => recordedEdge classifier (site, t)) = es.map .ok ∧
      p.Adds es (addEntry classifier p site targets).state := by
  obtain ⟨ctx, node, method, items, hsite, hmethod, _, hitems, heq⟩ := addEntry_eq_ok h
  rw [heq] at h ⊢
  refine ⟨items, _, hitems, ?_, .report _ (addTargets_adds h)⟩
  obtain ⟨hctx, hnode⟩ := decompose_eq_ok hsite
  rw [List.map_map]
  apply List.map_congr_left
  intro t _
  exact recordedEdge_eq_ok hctx hnode (resolveMethod_eq_ok hmethod).1 t

/-- Entries that are added one after another give the edges that they record. -/
theorem addEntries_adds {classifier : Classifier} {p : Progress}
    {entries : List (Value × Value)} {u : Unit}
    (h : (addEntries classifier p entries).answer = .ok u) :
    ∃ es, Tabulated classifier entries es ∧
      p.Adds es (addEntries classifier p entries).state := by
  induction entries generalizing p with
  | nil => exact ⟨[], tabulated_nil classifier, .nil p⟩
  | cons entry entries ih =>
      obtain ⟨site, targets⟩ := entry
      unfold addEntries at h ⊢
      obtain ⟨a, hentry, heq⟩ := Outcome.andThen_eq_ok h
      rw [heq] at h ⊢
      obtain ⟨items, es, hitems, hes, hadds⟩ := addEntry_adds hentry
      obtain ⟨es', htable, hadds'⟩ := ih h
      exact ⟨es ++ es', htable.cons hitems hes, hadds.append hadds'⟩

/-- A pass that hands out graphs: both graphs start from the procedures, the recorded edges are
added to them, and they are handed out as they are then. -/
structure Pass (classifier : Classifier) (source : Source) (graphs : Graphs)
    (start last : Progress) (es : List SensitiveEdge) : Prop where
  index : GraphIndex.empty.setProcedures source.methods = .done start.index ()
  graph : InsensitiveGraph.empty.addProcedures source.methods = .done start.graph ()
  collapsed : start.collapsed = 0
  tabulated : Tabulated classifier source.transitions es
  adds : start.Adds es last
  contextGraph : graphs.contextGraph = last.index.view
  callGraph : graphs.callGraph = { last.graph with frozen := true }
  collapsedEdges : graphs.stats.collapsedEdges = last.collapsed

theorem finish_eq_ok {p : Progress} {graphs : Graphs} {built : Event}
    (h : finish p = .ok (graphs, built)) :
    graphs.contextGraph = p.index.view ∧ graphs.callGraph = { p.graph with frozen := true } ∧
      graphs.stats.collapsedEdges = p.collapsed := by
  unfold finish GraphIndex.freeze InsensitiveGraph.freeze at h
  cases hindex : p.index.frozen with
  | true => simp [hindex] at h
  | false =>
  cases hgraph : p.graph.frozen with
  | true => simp [hindex, hgraph] at h
  | false =>
  cases hstats : ({ p.index with frozen := true } : GraphIndex).stats with
  | error f => simp [hindex, hgraph, hstats] at h
  | ok counts =>
      simp only [hindex, hgraph, hstats, Bool.false_eq_true, ↓reduceIte, Outcome.done_answer,
        Outcome.done_state, Except.ok.injEq, Prod.mk.injEq] at h
      obtain ⟨rfl, _⟩ := h
      exact ⟨rfl, rfl, rfl⟩

/-- A pass that hands out graphs has come through all its parts: the procedures, the entries and the
end. What it reports begins before the entries and ends after them. -/
theorem transform_stages {classifier : Classifier} {source : Source} {graphs : Graphs}
    (h : (transform classifier source).1 = .ok graphs) :
    ∃ start last built, GraphIndex.empty.setProcedures source.methods = .done start.index () ∧
      InsensitiveGraph.empty.addProcedures source.methods = .done start.graph () ∧
      start.collapsed = 0 ∧
      start.events = [.building source.transitions.length source.methods.length] ∧
      addEntries classifier start source.transitions = .done last () ∧
      finish last = .ok (graphs, built) ∧
      (transform classifier source).2 = last.events ++ [built] := by
  unfold transform at h ⊢
  cases hindex : (GraphIndex.empty.setProcedures source.methods).answer with
  | error f => simp [hindex] at h
  | ok u =>
  cases hgraph : (InsensitiveGraph.empty.addProcedures source.methods).answer with
  | error f => simp [hindex, hgraph] at h
  | ok u' =>
  simp only [hindex, hgraph] at h ⊢
  split at h
  · cases h
  · rename_i hrun
    split at h
    · cases h
    · rename_i built hfinish
      cases h
      exact ⟨_, _, built, Outcome.eq_done hindex, Outcome.eq_done hgraph, rfl, rfl,
        Outcome.eq_done hrun, hfinish, rfl⟩

theorem transform_run {classifier : Classifier} {source : Source} {graphs : Graphs}
    (h : (transform classifier source).1 = .ok graphs) :
    ∃ start last built, GraphIndex.empty.setProcedures source.methods = .done start.index () ∧
      InsensitiveGraph.empty.addProcedures source.methods = .done start.graph () ∧
      start.collapsed = 0 ∧
      addEntries classifier start source.transitions = .done last () ∧
      finish last = .ok (graphs, built) := by
  obtain ⟨start, last, built, hindex, hgraph, hcollapsed, _, hrun, hfinish, _⟩ := transform_stages h
  exact ⟨start, last, built, hindex, hgraph, hcollapsed, hrun, hfinish⟩

theorem transform_eq_ok {classifier : Classifier} {source : Source} {graphs : Graphs}
    (h : (transform classifier source).1 = .ok graphs) :
    ∃ start last es, Pass classifier source graphs start last es := by
  obtain ⟨start, last, built, hindex, hgraph, hcollapsed, hrun, hfinish⟩ := transform_run h
  obtain ⟨es, htable, hadds⟩ := addEntries_adds (congrArg Outcome.answer hrun)
  rw [hrun] at hadds
  obtain ⟨hcontext, hcall, hcount⟩ := finish_eq_ok hfinish
  exact ⟨start, last, es, hindex, hgraph, hcollapsed, htable, hadds, hcontext, hcall, hcount⟩

theorem Progress.Adds.offers {p q : Progress} {es : List SensitiveEdge} (h : p.Adds es q) :
    q.index.offers = p.index.offers ++ es.map .edge := by
  induction h with
  | nil p => simp
  | report events _ ih => exact ih
  | cons added _ ih =>
      obtain ⟨_, _, hok, _, hindex, _, _⟩ := addEdge_eq_ok added
      obtain ⟨hopen, _⟩ := GraphIndex.addEdge_eq_ok hok
      rw [ih, hindex, (GraphIndex.addEdge_added hopen _).offers]
      simp

section Passes

variable {classifier : Classifier} {source : Source} {graphs : Graphs} {start last : Progress}
  {es : List SensitiveEdge}

/-- The list of the context-sensitive graph is that of the recorded edges. -/
theorem Pass.offers (h : Pass classifier source graphs start last es) :
    graphs.contextGraph.offers = es.map .edge := by
  have hsame := GraphIndex.addProcedures_sameEdges .empty source.methods
  have hstart : (GraphIndex.empty.addProcedures source.methods).state = start.index :=
    congrArg Outcome.state h.index
  obtain ⟨ps, hps⟩ := hsame
  have hnil : start.index.offers = [] := by
    rw [← hstart, hps]
    rfl
  rw [h.contextGraph]
  exact h.adds.offers.trans (by rw [hnil, List.nil_append])

theorem Pass.edges (h : Pass classifier source graphs start last es) :
    graphs.contextGraph.edges = es := by
  rw [SensitiveGraph.edges, h.offers, List.filterMap_map]
  exact List.filterMap_some

end Passes

/-- A pass that hands out graphs has made one context-sensitive edge for every recorded pair of a
call site and a target, in the order of the table, and nothing else. All targets were mappings. -/
theorem transform_edges_eq_recorded {classifier : Classifier} {source : Source} {graphs : Graphs}
    (h : (transform classifier source).1 = .ok graphs) :
    (∀ entry ∈ source.transitions, entry.2.items?.isSome = true) ∧
      (recordedPairs source.transitions).map (recordedEdge classifier) =
        graphs.contextGraph.edges.map .ok ∧
      graphs.contextGraph.offers = graphs.contextGraph.edges.map .edge := by
  obtain ⟨start, last, es, hpass⟩ := transform_eq_ok h
  rw [hpass.edges]
  exact ⟨hpass.tabulated.mappings, hpass.tabulated.edges, hpass.offers⟩

/-- A table in which one call site and one target are there twice, beside a call site without
targets. -/
def repeatingSource : Source where
  methods := []
  transitions :=
    [(.site (.context (.int 0) .null) (.int 7),
      .mapping [(.int 1, .context (.int 1) .null), (.int 1, .context (.int 1) (.int 5))]),
     (.site (.context (.int 2) .null) (.int 8), .mapping []),
     (.site (.context (.int 0) .null) (.int 7), .mapping [(.int 1, .context (.int 1) .null)])]

/-- A classifier that takes every instruction for a static call. -/
def staticClassifier : Classifier where
  aliases := .empty
  strict := false
  resolver := .constant (.kind .static)

theorem transform_edges_eq_recorded_repeating :
    ∃ graphs, (transform staticClassifier repeatingSource).1 = .ok graphs ∧
      (recordedPairs repeatingSource.transitions).map (recordedEdge staticClassifier) =
        graphs.contextGraph.edges.map .ok ∧
      graphs.contextGraph.edges.map (fun e => (e.source, e.target, e.targetContext)) =
        [(.int 0, .int 1, .context (.int 1) .null),
         (.int 0, .int 1, .context (.int 1) (.int 5)),
         (.int 0, .int 1, .context (.int 1) .null)] := by
  have h : (transform staticClassifier repeatingSource).1 = .ok _ := rfl
  exact ⟨_, h, (transform_edges_eq_recorded h).2.1, rfl⟩

end CallGraphs
