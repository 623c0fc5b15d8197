import CallGraphs.Proofs.PassEdges
/-!
# Agreement of the two graphs

The two graphs of a pass are built by different means: the context-sensitive one appends every edge,
the context-insensitive one looks an edge up before it stores it. Yet the second has the edges of
the first with their contexts forgotten, each once and in order, and both know the same procedures
in the same order.
-/

namespace CallGraphs

namespace InsensitiveGraph

theorem addProcedures_sameEdges (g : InsensitiveGraph) (ps : List Value) :
    SameEdges g (g.addProcedures ps).state := by
  induction ps generalizing g with
  | nil => exact .refl g
  | cons p ps ih =>
      have hp := addProcedure_sameEdges g p
      exact Outcome.andThen_state hp fun _ => hp.trans (ih (g.addProcedure p).state)

theorem addProcedure_eq_ok {g : InsensitiveGraph} {p : Value} {u : Unit}
    (h : (g.addProcedure p).answer = .ok u) :
    (g.addProcedure p).state.procedures = Distinct.insert g.procedures p := by
  unfold addProcedure at h ⊢
  split at h
  · cases h
  · rename_i hopen
    rw [if_neg hopen]
    exact (Multigraph.addNode_eq_ok h).2

/-- Procedures that are added become nodes in their order, each once. -/
theorem addProcedures_eq_ok {g : InsensitiveGraph} {ps : List Value} {u : Unit}
    (h : (g.addProcedures ps).answer = .ok u) :
    (g.addProcedures ps).state.procedures = Distinct.extend g.procedures ps := by
  induction ps generalizing g with
  | nil => rfl
  | cons p ps ih =>
      unfold addProcedures at h ⊢
      obtain ⟨_, hp, heq⟩ := Outcome.andThen_eq_ok h
      rw [heq] at h ⊢
      rw [ih h, addProcedure_eq_ok hp, Distinct.extend_cons]

end InsensitiveGraph

theorem GraphIndex.addProcedures_eq_ok {g : GraphIndex} {ps : List Value} {u : Unit}
    (h : (g.addProcedures ps).answer = .ok u) :
    (g.addProcedures ps).state.procedures = Distinct.extend g.procedures ps := by
  induction ps generalizing g with
  | nil => rfl
  | cons p ps ih =>
      unfold addProcedures at h ⊢
      obtain ⟨_, hp, heq⟩ := Outcome.andThen_eq_ok h
      rw [heq] at h ⊢
      rw [ih h, Distinct.extend_cons]
      unfold addProcedure at hp ⊢
      rw [(Outcome.withKey_eq_ok hp).2]
      rfl

/-- The procedures at the two ends of edges, in order. -/
def endpoints (es : List SensitiveEdge) : List Value :=
  es.flatMap fun e => [e.source, e.target]

theorem endpoints_append (es es' : List SensitiveEdge) :
    endpoints (es ++ es') = endpoints es ++ endpoints es' :=
  List.flatMap_append

namespace Progress

/-- What adding edges makes of the two graphs. Every edge is either collected or counted. -/
structure Collected (p : Progress) (es : List SensitiveEdge) (q : Progress) : Prop where
  stored : InsensitiveGraph.Stored q.graph
  edges : q.graph.edges = Distinct.extend p.graph.edges (es.map SensitiveEdge.toInsensitive)
  nodes : q.graph.procedures = Distinct.extend p.graph.procedures (endpoints es)
  procedures : q.index.procedures = Distinct.extend p.index.procedures (endpoints es)
  collapsed : q.collapsed + q.graph.edges.length = p.collapsed + p.graph.edges.length + es.length

theorem addEdge_collected {p : Progress} {e : SensitiveEdge} {u : Unit}
    (hp : InsensitiveGraph.Stored p.graph) (h : (p.addEdge e).answer = .ok u) :
    Collected p [e] (p.addEdge e).state := by
  obtain ⟨_, new, hindex, hgraph, hindex', hgraph', hcollapsed⟩ := addEdge_eq_ok h
  obtain ⟨hnew, hedges, hnodes⟩ := hp.addEdge_eq_ok hgraph
  obtain ⟨hopen, haddable⟩ := GraphIndex.addEdge_eq_ok hindex
  refine ⟨?_, ?_, ?_, ?_, ?_⟩
  · rw [hgraph']
    exact hp.addEdge e.toInsensitive
  · rw [hgraph', hedges]
    rfl
  · rw [hgraph', hnodes]
    rfl
  · rw [hindex', GraphIndex.addEdge_of_addable hopen haddable]
    rfl
  · rw [hcollapsed, hgraph', hedges, hnew, Distinct.insert]
    cases p.graph.edges.any (e.toInsensitive == ·) with
    | true => simp; omega
    | false => simp; omega

theorem Collected.trans {p q r : Progress} {es es' : List SensitiveEdge}
    (h : Collected p es q) (h' : Collected q es' r) : Collected p (es ++ es') r where
  stored := h'.stored
  edges := by rw [h'.edges, h.edges, List.map_append, Distinct.extend_append]
  nodes := by rw [h'.nodes, h.nodes, endpoints_append, Distinct.extend_append]
  procedures := by rw [h'.procedures, h.procedures, endpoints_append, Distinct.extend_append]
  collapsed := by
    have hcount := h.collapsed
    have hcount' := h'.collapsed
    rw [List.length_append]
    omega

theorem Adds.collected {p q : Progress} {es : List SensitiveEdge} (h : p.Adds es q)
    (hp : InsensitiveGraph.Stored p.graph) : Collected p es q := by
  induction h with
  | nil p => exact ⟨hp, rfl, rfl, rfl, rfl⟩
  | report events _ ih =>
      have hrest := ih hp
      exact ⟨hrest.stored, hrest.edges, hrest.nodes, hrest.procedures, hrest.collapsed⟩
  | cons added _ ih =>
      have hfirst := addEdge_collected hp added
      exact hfirst.trans (ih hfirst.stored)

end Progress

/-- Both graphs start from the procedures of the source and from no edges. -/
theorem Pass.start {classifier : Classifier} {source : Source} {graphs : Graphs}
    {start last : Progress} {es : List SensitiveEdge}
    (h : Pass classifier source graphs start last es) :
    InsensitiveGraph.Stored start.graph ∧ start.graph.edges = [] ∧
      start.graph.procedures = Distinct.ofList source.methods ∧
      start.index.procedures = Distinct.ofList source.methods := by
  have hgraph := InsensitiveGraph.addProcedures_eq_ok (congrArg Outcome.answer h.graph)
  have hsame := InsensitiveGraph.addProcedures_sameEdges .empty source.methods
  have hindex := GraphIndex.addProcedures_eq_ok (congrArg Outcome.answer h.index)
  rw [h.graph] at hgraph hsame
  rw [show GraphIndex.empty.addProcedures source.methods = .done start.index () from h.index]
    at hindex
  exact ⟨InsensitiveGraph.stored_empty.of_sameEdges hsame, hsame.edges, hgraph, hindex⟩

/-- The context-insensitive graph of a pass answers from what it stores. -/
theorem transform_stored {classifier : Classifier} {source : Source} {graphs : Graphs}
    (h : (transform classifier source).1 = .ok graphs) :
    InsensitiveGraph.Stored graphs.callGraph := by
  obtain ⟨start, last, es, hpass⟩ := transform_eq_ok h
  have hlast := (hpass.adds.collected hpass.start.1).stored
  rw [hpass.callGraph]
  exact hlast.of_sameEdges ⟨rfl, rfl, rfl, rfl, .refl _⟩

/-- The two graphs of a pass agree. The context-insensitive one has the edges of the other without
their contexts, the first of those that are equal, and those it leaves out are counted. Both have
the procedures of the source and then the ends of the edges, each once, where it first occurs. -/
theorem transform_views_agree {classifier : Classifier} {source : Source} {graphs : Graphs}
    (h : (transform classifier source).1 = .ok graphs) :
    graphs.callGraph.edges =
        (graphs.contextGraph.edges.map SensitiveEdge.toInsensitive).eraseDups ∧
      graphs.stats.collapsedEdges + graphs.callGraph.size = graphs.contextGraph.size ∧
      graphs.callGraph.procedures = graphs.contextGraph.procedures ∧
      graphs.contextGraph.procedures =
        (source.methods ++ endpoints graphs.contextGraph.edges).eraseDups := by
  obtain ⟨start, last, es, hpass⟩ := transform_eq_ok h
  obtain ⟨hstored, hedges, hnodes, hprocedures⟩ := hpass.start
  have hlast := hpass.adds.collected hstored
  have hall : Distinct.extend (Distinct.ofList source.methods) (endpoints es) =
      (source.methods ++ endpoints es).eraseDups := by
    rw [← Distinct.ofList_eq_eraseDups, Distinct.ofList, Distinct.ofList, Distinct.extend_append]
  have hsize : graphs.contextGraph.size = es.length := by
    rw [SensitiveGraph.size, hpass.offers, List.length_map]
  rw [hpass.edges, hsize, hpass.callGraph, hpass.collapsedEdges, hpass.contextGraph]
  refine ⟨?_, ?_, ?_, ?_⟩
  · rw [← Distinct.ofList_eq_eraseDups]
    exact hlast.edges.trans (by rw [hedges]; rfl)
  · have hcount := hlast.collapsed
    rw [hpass.collapsed, hedges, List.length_nil, Nat.zero_add] at hcount
    exact hcount
  · exact (hlast.nodes.trans (by rw [hnodes, ← hprocedures])).trans hlast.procedures.symm
  · exact hlast.procedures.trans (by rw [hprocedures, hall])

/-- A table in which equal procedures are written in different ways, and two call sites differ in
their contexts only. -/
def mixedSource : Source where
  methods := [.int 1, .bool false, .bool true]
  transitions :=
    [(.site (.context (.bool true) .null) (.int 7),
      .mapping [(.int 0, .context (.int 0) .null), (.int 2, .context (.int 2) .null)]),
     (.site (.context (.int 1) (.int 5)) (.int 7), .mapping [(.bool false, .null)])]

theorem transform_views_agree_mixed :
    ∃ graphs, (transform staticClassifier mixedSource).1 = .ok graphs ∧
      graphs.callGraph.edges =
        (graphs.contextGraph.edges.map SensitiveEdge.toInsensitive).eraseDups ∧
      graphs.stats.collapsedEdges + graphs.callGraph.size = graphs.contextGraph.size ∧
      graphs.stats.collapsedEdges = 1 ∧
      graphs.callGraph.procedures = graphs.contextGraph.procedures ∧
      graphs.contextGraph.procedures = [.int 1, .bool false, .int 2] := by
  have h : (transform staticClassifier mixedSource).1 = .ok _ := rfl
  obtain ⟨hedges, hcount, hsame, _⟩ := transform_views_agree h
  exact ⟨_, h, hedges, hcount, rfl, hsame, rfl⟩

end CallGraphs
