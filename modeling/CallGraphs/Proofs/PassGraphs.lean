import CallGraphs.Proofs.DistinctLists
import CallGraphs.Proofs.PassFaults
import CallGraphs.Proofs.ViewAgreement
import Mathlib.Data.List.Induction
/-!
# The graphs of a pass in closed form

The context-sensitive graph that a pass hands out is determined by the procedures of the source and
the list of edges: each index groups the edges by one of their keys. A query is then a filter over
the list, and the counts are those of the graphs.
-/

namespace CallGraphs

namespace OrdMap

variable {α β : Type} [BEq α]

/-- Values grouped by a key, the keys in the order of their first values. -/
def groupBy (key : β → α) (xs : List β) : OrdMap α (List β) :=
  xs.foldl (fun m x => m.push (key x) x) .empty

theorem groupBy_concat (key : β → α) (xs : List β) (x : β) :
    groupBy key (xs ++ [x]) = (groupBy key xs).push (key x) x := by
  rw [groupBy, List.foldl_append]
  rfl

theorem keys_groupBy (key : β → α) (xs : List β) :
    (groupBy key xs).keys = Distinct.ofList (xs.map key) := by
  induction xs using List.reverseRecOn with
  | nil => rfl
  | append_singleton xs x ih =>
      have hkeys : (groupBy key (xs ++ [x])).keys =
          Distinct.insert (groupBy key xs).keys (key x) := by
        rw [groupBy_concat]
        exact keys_alter (groupBy key xs) (key x) _
      rw [hkeys, ih, List.map_append, List.map_singleton, Distinct.ofList_concat]

theorem bucket_groupBy {P : α → Prop} (h : EquivOn P) {key : β → α} {xs : List β}
    (hxs : ∀ x ∈ xs, P (key x)) (k : α) :
    (groupBy key xs).bucket k = xs.filter (key · == k) := by
  induction xs using List.reverseRecOn with
  | nil => rfl
  | append_singleton xs x ih =>
      obtain ⟨hbefore, hlast⟩ := List.forall_mem_append.mp hxs
      rw [groupBy_concat]
      exact bucket_push_filter h (hlast x List.mem_cons_self) (ih hbefore)

end OrdMap

/-- The graph of some edges: each of them is listed, and grouped by its three keys. -/
def SensitiveGraph.ofEdges (methods : List Value) (es : List SensitiveEdge) : SensitiveGraph where
  outOfContext := .groupBy SensitiveEdge.sourceContext es
  outOfCallSite := .groupBy SensitiveEdge.callSite es
  intoContext := .groupBy SensitiveEdge.targetContext es
  offers := es.map .edge
  procedures := Distinct.ofList (methods ++ endpoints es)

namespace GraphIndex

/-- An open builder that has indexed some edges. -/
def ofEdges (methods : List Value) (es : List SensitiveEdge) : GraphIndex where
  outOfContext := .groupBy SensitiveEdge.sourceContext es
  outOfCallSite := .groupBy SensitiveEdge.callSite es
  intoContext := .groupBy SensitiveEdge.targetContext es
  offers := es.map .edge
  procedures := Distinct.ofList (methods ++ endpoints es)
  frozen := false

theorem addEdge_ofEdges (methods : List Value) (es : List SensitiveEdge) {e : SensitiveEdge}
    (he : Addable e) :
    (ofEdges methods es).addEdge e = .done (ofEdges methods (es ++ [e])) () := by
  have hprocedures : Distinct.extend (Distinct.ofList (methods ++ endpoints es))
      [e.source, e.target] = Distinct.ofList (methods ++ endpoints (es ++ [e])) := by
    rw [endpoints_append, ← List.append_assoc, Distinct.ofList, Distinct.ofList,
      Distinct.extend_append _ (methods ++ endpoints es)]
    rfl
  rw [addEdge_of_addable rfl he]
  simp only [ofEdges, OrdMap.groupBy_concat, List.map_append, List.map_cons, List.map_nil,
    hprocedures]

end GraphIndex

/-- Edges that are added to an open builder come after those it has, and all had their keys. -/
theorem Progress.Adds.index {p q : Progress} {es : List SensitiveEdge} (h : p.Adds es q)
    {methods : List Value} {before : List SensitiveEdge}
    (hp : p.index = .ofEdges methods before) :
    q.index = .ofEdges methods (before ++ es) ∧ ∀ e ∈ es, GraphIndex.Addable e := by
  induction h generalizing before with
  | nil p =>
      rw [List.append_nil]
      exact ⟨hp, fun _ he => (by cases he)⟩
  | report events _ ih => exact ih hp
  | @cons p q e es _ added _ ih =>
      obtain ⟨_, _, hok, _, hindex, _, _⟩ := addEdge_eq_ok added
      have haddable := (GraphIndex.addEdge_eq_ok hok).2
      rw [hp, GraphIndex.addEdge_ofEdges methods before haddable] at hindex
      obtain ⟨hlast, hrest⟩ := ih hindex
      rw [List.append_assoc, List.singleton_append] at hlast
      exact ⟨hlast, List.forall_mem_cons.mpr ⟨haddable, hrest⟩⟩

/-- The edge of a recorded pair says what the pair says. -/
theorem pair_of_recordedEdge {classifier : Classifier} {pair : Value × Value × Value}
    {e : SensitiveEdge} (h : recordedEdge classifier pair = .ok e) :
    (e.callSite, e.target, e.targetContext) = pair := by
  obtain ⟨site, target, ctx⟩ := pair
  unfold recordedEdge at h
  cases site with
  | site ctx' node =>
      simp only [Value.getCallingContext, Value.getCallNode, bind, Except.bind] at h
      split at h
      · cases h
      · cases h
        rfl
  | _ => cases h

/-- An edge leaves the procedure of its calling context and is of the kind of its instruction. -/
theorem of_recordedEdge_eq_ok {classifier : Classifier} {pair : Value × Value × Value}
    {e : SensitiveEdge} (h : recordedEdge classifier pair = .ok e) :
    e.sourceContext.getMethod = .ok e.source ∧ e.kind = classifier.kind e.instruction := by
  unfold recordedEdge at h
  cases hctx : pair.1.getCallingContext with
  | error fault => simp [hctx, bind, Except.bind] at h
  | ok ctx =>
  cases hnode : pair.1.getCallNode with
  | error fault => simp [hctx, hnode, bind, Except.bind] at h
  | ok node =>
  cases hmethod : ctx.getMethod with
  | error fault => simp [hctx, hnode, hmethod, bind, Except.bind] at h
  | ok method =>
      simp only [hctx, hnode, hmethod, bind, Except.bind, pure, Except.pure, Except.ok.injEq] at h
      rw [← h]
      exact ⟨hmethod, rfl⟩

theorem getMethod_of_recordedEdge {classifier : Classifier} {pair : Value × Value × Value}
    {e : SensitiveEdge} (h : recordedEdge classifier pair = .ok e) :
    e.sourceContext.getMethod = .ok e.source :=
  (of_recordedEdge_eq_ok h).1

/-- The edges of a pass, as pairs, are the recorded ones. -/
theorem Tabulated.pairs {classifier : Classifier} {entries : List (Value × Value)}
    {es : List SensitiveEdge} (h : Tabulated classifier entries es) :
    es.map (fun e => (e.callSite, e.target, e.targetContext)) = recordedPairs entries := by
  obtain ⟨_, hedges⟩ := h
  generalize recordedPairs entries = pairs at hedges ⊢
  induction pairs generalizing es with
  | nil =>
      obtain rfl := List.map_eq_nil_iff.mp hedges.symm
      rfl
  | cons pair pairs ih =>
      cases es with
      | nil => cases hedges
      | cons e es =>
          obtain ⟨hpair, hrest⟩ := List.cons.inj hedges
          rw [List.map_cons, pair_of_recordedEdge hpair, ih hrest]

/-- The edges of recorded pairs, in order. A pair that stands for no edge is left out. -/
def recordedEdges (classifier : Classifier) (pairs : List (Value × Value × Value)) :
    List SensitiveEdge :=
  pairs.filterMap fun pair => (recordedEdge classifier pair).toOption

theorem mem_recordedEdges {classifier : Classifier} {pairs : List (Value × Value × Value)}
    {e : SensitiveEdge} :
    e ∈ recordedEdges classifier pairs ↔ ∃ pair ∈ pairs, recordedEdge classifier pair = .ok e := by
  rw [recordedEdges, List.mem_filterMap]
  apply exists_congr
  intro pair
  cases recordedEdge classifier pair <;> simp [Except.toOption]

theorem pair_mem_of_mem_recordedEdges {classifier : Classifier}
    {pairs : List (Value × Value × Value)} {e : SensitiveEdge}
    (he : e ∈ recordedEdges classifier pairs) :
    (e.callSite, e.target, e.targetContext) ∈ pairs := by
  obtain ⟨pair, hpair, hedge⟩ := mem_recordedEdges.mp he
  rw [pair_of_recordedEdge hedge]
  exact hpair

theorem Tabulated.eq_recordedEdges {classifier : Classifier} {entries : List (Value × Value)}
    {es : List SensitiveEdge} (h : Tabulated classifier entries es) :
    es = recordedEdges classifier (recordedPairs entries) := by
  have hes : es = (es.map (Except.ok (ε := AccessFault))).filterMap Except.toOption := by
    rw [List.filterMap_map]
    exact List.filterMap_some.symm
  rw [hes, ← h.edges, List.filterMap_map]
  rfl

/-- The counts of a pass are those of its graphs, of which the first has the given edges. -/
structure Counted (graphs : Graphs) (es : List SensitiveEdge) : Prop where
  procedures : graphs.stats.procedures = graphs.contextGraph.procedures.length
  edges : graphs.stats.edges = graphs.contextGraph.size
  contexts : graphs.stats.contexts = graphs.contextGraph.contexts.length
  callSites : graphs.stats.callSites = graphs.contextGraph.callSites.length
  edgeKinds : graphs.stats.edgeKinds = countKinds (es.map SensitiveEdge.kind)
  insensitiveEdges : graphs.stats.insensitiveEdges = graphs.callGraph.size

theorem finish_counted {p : Progress} {graphs : Graphs} {built : Event} {es : List SensitiveEdge}
    (h : finish p = .ok (graphs, built)) (hes : p.index.offers = es.map .edge) :
    Counted graphs es := by
  have hkinds : GraphIndex.kinds p.index.offers = .ok (es.map SensitiveEdge.kind) := by
    rw [hes]
    exact GraphIndex.kinds_of_edges es
  unfold finish GraphIndex.freeze InsensitiveGraph.freeze at h
  cases hindex : p.index.frozen with
  | true => simp [hindex] at h
  | false =>
  cases hgraph : p.graph.frozen with
  | true => simp [hindex, hgraph] at h
  | false =>
      simp only [hindex, hgraph, hkinds, GraphIndex.stats, Bool.false_eq_true, ↓reduceIte,
        Outcome.done_answer, Outcome.done_state, Except.ok.injEq, Prod.mk.injEq] at h
      obtain ⟨rfl, _⟩ := h
      exact ⟨rfl, rfl, rfl, (List.length_map _).symm, rfl, rfl⟩

theorem GraphIndex.hashable_of_addProcedures {g : GraphIndex} {ps : List Value} {u : Unit}
    (h : (g.addProcedures ps).answer = .ok u) : ∀ p ∈ ps, p.hashable = true := by
  induction ps generalizing g with
  | nil => exact fun _ hp => (by cases hp)
  | cons p ps ih =>
      unfold addProcedures at h
      obtain ⟨_, hp, heq⟩ := Outcome.andThen_eq_ok h
      rw [heq] at h
      exact List.forall_mem_cons.mpr ⟨(Outcome.withKey_eq_ok hp).1, ih h⟩

/-- A pass has handed out the graphs of some edges: those that the table records. -/
structure Built (classifier : Classifier) (source : Source) (graphs : Graphs)
    (es : List SensitiveEdge) : Prop where
  methods : ∀ m ∈ source.methods, m.hashable = true
  tabulated : Tabulated classifier source.transitions es
  addable : ∀ e ∈ es, GraphIndex.Addable e
  contextGraph : graphs.contextGraph = .ofEdges source.methods es
  callEdges : graphs.callGraph.edges = Distinct.ofList (es.map SensitiveEdge.toInsensitive)
  callProcedures : graphs.callGraph.procedures = Distinct.ofList (source.methods ++ endpoints es)
  collapsed : graphs.stats.collapsedEdges + graphs.callGraph.size = es.length
  counted : Counted graphs es

theorem transform_built {classifier : Classifier} {source : Source} {graphs : Graphs}
    (h : (transform classifier source).1 = .ok graphs) :
    ∃ es, Built classifier source graphs es := by
  obtain ⟨start, last, es, hpass⟩ := transform_eq_ok h
  obtain ⟨hstored, hedges, hnodes, hprocedures⟩ := hpass.start
  have hstart : start.index = .ofEdges source.methods [] := by
    have hstate : (GraphIndex.empty.addProcedures source.methods).state = start.index :=
      congrArg Outcome.state hpass.index
    obtain ⟨ps, hps⟩ := GraphIndex.addProcedures_sameEdges .empty source.methods
    rw [← hstate, hps] at hprocedures ⊢
    simp only [GraphIndex.ofEdges, endpoints, List.flatMap_nil, List.append_nil]
    rw [← hprocedures]
    rfl
  obtain ⟨hlast, haddable⟩ := hpass.adds.index hstart
  have hcollected := hpass.adds.collected hstored
  refine ⟨es, ?methods, hpass.tabulated, haddable, ?contextGraph, ?callEdges, ?callProcedures,
    ?collapsed, ?counted⟩
  case methods =>
    exact GraphIndex.hashable_of_addProcedures (congrArg Outcome.answer hpass.index)
  case contextGraph =>
    rw [hpass.contextGraph, hlast]
    rfl
  case callEdges =>
    rw [hpass.callGraph]
    exact hcollected.edges.trans (by rw [hedges]; rfl)
  case callProcedures =>
    rw [hpass.callGraph]
    refine hcollected.nodes.trans ?_
    rw [hnodes, Distinct.ofList, Distinct.ofList, Distinct.extend_append]
  case collapsed =>
    have hcount := hcollected.collapsed
    rw [hpass.collapsed, hedges, List.length_nil, Nat.zero_add] at hcount
    rw [hpass.collapsedEdges, hpass.callGraph]
    exact hcount
  case counted =>
    obtain ⟨_, last', built, _, _, _, _, hfinish⟩ := transform_run h
    have hoffers := hpass.offers
    rw [(finish_eq_ok hfinish).1] at hoffers
    exact finish_counted hfinish hoffers

theorem Built.keyed {classifier : Classifier} {source : Source} {graphs : Graphs}
    {es : List SensitiveEdge} (h : Built classifier source graphs es) :
    ∀ e ∈ es.map SensitiveEdge.toInsensitive, e.Keyed :=
  List.forall_mem_map.mpr fun e he =>
    ⟨(h.addable e he).source, (h.addable e he).instruction, (h.addable e he).target⟩

theorem Built.hashable_procedures {classifier : Classifier} {source : Source} {graphs : Graphs}
    {es : List SensitiveEdge} (h : Built classifier source graphs es) :
    ∀ v ∈ source.methods ++ endpoints es, v.hashable = true := by
  refine List.forall_mem_append.mpr ⟨h.methods, fun v hv => ?_⟩
  obtain ⟨e, he, hve⟩ := List.mem_flatMap.mp hv
  simp only [List.mem_cons, List.not_mem_nil, or_false] at hve
  rcases hve with rfl | rfl
  · exact (h.addable e he).source
  · exact (h.addable e he).target

namespace SensitiveGraph

variable {methods : List Value} {es : List SensitiveEdge}

@[simp] theorem edges_ofEdges : (ofEdges methods es).edges = es := by
  rw [edges, ofEdges, List.filterMap_map]
  exact List.filterMap_some

@[simp] theorem size_ofEdges : (ofEdges methods es).size = es.length :=
  List.length_map _

/-- A key finds the edges that leave its context. -/
theorem edgesOutOfContext_ofEdges (hes : ∀ e ∈ es, GraphIndex.Addable e) (ctx : Value) :
    (ofEdges methods es).edgesOutOfContext ctx =
      ctx.key.map fun c => es.filter (·.sourceContext == c) := by
  have hkeys : ∀ e ∈ es, e.sourceContext.hashable = true := fun e he => (hes e he).sourceContext
  rw [edgesOutOfContext, ofEdges, funext (OrdMap.bucket_groupBy Value.equivOn_hashable hkeys)]

/-- A key finds the edges that leave its call site. -/
theorem edgesOutOfCallSite_ofEdges (hes : ∀ e ∈ es, GraphIndex.Addable e)
    (ctx instruction : Value) :
    (ofEdges methods es).edgesOutOfCallSite ctx instruction =
      (Value.site ctx instruction).key.map fun k => es.filter (·.callSite == k) := by
  have hkeys : ∀ e ∈ es, e.callSite.hashable = true := fun e he => (hes e he).callSite
  rw [edgesOutOfCallSite, ofEdges, funext (OrdMap.bucket_groupBy Value.equivOn_hashable hkeys)]

/-- A key finds the edges that resume in its context. -/
theorem edgesIntoContext_ofEdges (hes : ∀ e ∈ es, GraphIndex.Addable e) (ctx : Value) :
    (ofEdges methods es).edgesIntoContext ctx =
      ctx.key.map fun c => es.filter (·.targetContext == c) := by
  have hkeys : ∀ e ∈ es, e.targetContext.hashable = true := fun e he => (hes e he).targetContext
  rw [edgesIntoContext, ofEdges, funext (OrdMap.bucket_groupBy Value.equivOn_hashable hkeys)]

/-- The contexts are those that edges leave, and then those that they resume in, each once. -/
theorem contexts_ofEdges (hes : ∀ e ∈ es, GraphIndex.Addable e) :
    (ofEdges methods es).contexts = Distinct.ofList
      (es.map SensitiveEdge.sourceContext ++ es.map SensitiveEdge.targetContext) := by
  have htargets : ∀ v ∈ es.map SensitiveEdge.targetContext, v.hashable = true :=
    List.forall_mem_map.mpr fun e he => (hes e he).targetContext
  rw [Distinct.ofList, Distinct.extend_append, ← Distinct.extend_ofList Value.equivOn_hashable _
    htargets, contexts, ofEdges, OrdMap.keys_groupBy, OrdMap.keys_groupBy]
  rfl

theorem callSites_ofEdges :
    (ofEdges methods es).callSites = Distinct.ofList (es.map SensitiveEdge.callSite) := by
  rw [callSites, ofEdges, OrdMap.keys_groupBy]

end SensitiveGraph

namespace Built

variable {classifier : Classifier} {source : Source} {graphs : Graphs} {es : List SensitiveEdge}

theorem edges (h : Built classifier source graphs es) : graphs.contextGraph.edges = es := by
  rw [h.contextGraph, SensitiveGraph.edges_ofEdges]

theorem edgesOutOfContext (h : Built classifier source graphs es) (ctx : Value) :
    graphs.contextGraph.edgesOutOfContext ctx =
      ctx.key.map fun c => es.filter (·.sourceContext == c) := by
  rw [h.contextGraph, SensitiveGraph.edgesOutOfContext_ofEdges h.addable]

theorem edgesOutOfCallSite (h : Built classifier source graphs es) (ctx instruction : Value) :
    graphs.contextGraph.edgesOutOfCallSite ctx instruction =
      (Value.site ctx instruction).key.map fun k => es.filter (·.callSite == k) := by
  rw [h.contextGraph, SensitiveGraph.edgesOutOfCallSite_ofEdges h.addable]

theorem edgesIntoContext (h : Built classifier source graphs es) (ctx : Value) :
    graphs.contextGraph.edgesIntoContext ctx =
      ctx.key.map fun c => es.filter (·.targetContext == c) := by
  rw [h.contextGraph, SensitiveGraph.edgesIntoContext_ofEdges h.addable]

end Built

end CallGraphs
