import CallGraphs.Proofs.PassEdges
import CallGraphs.Proofs.TextFormation
import CallGraphs.Proofs.TransitionRecords
/-!
# How a pass fails

Where the procedures of a source can be nodes, only its entries can end a pass. It then comes to its
end if every entry passes: it can be turned into edges, and what is to be reported of it can be put
into words. Otherwise it stops at the first entry that does not pass, for the first thing that is
wrong with it. That is a fault of the table, unless a context fails to tell its procedure, a context
cannot be a key, or a text cannot be formed.
-/

namespace CallGraphs

/-- A call site comes apart into a calling context and a call node. -/
structure Decomposes (site ctx node : Value) : Prop where
  context : site.getCallingContext = .ok ctx
  node : site.getCallNode = .ok node

/-- The caller that a call site stands for: its calling context has a procedure, and its call node
is of a kind. -/
structure CallsFrom (classifier : Classifier) (site : Value) (c : Caller) : Prop where
  decomposes : Decomposes site c.context c.instruction
  method : c.context.getMethod = .ok c.source
  present : c.source ≠ .null
  kind : c.kind = classifier.kind c.instruction

/-- The edge to a target can be added and reported, as far as the context of the target goes. -/
structure Reaches (c : Caller) (t : Value × Value) : Prop where
  context : t.2.hashable = true
  formed : (Event.added (c.edge t.1 t.2)).fault? = none

/-- The first thing that is wrong with a target: its context cannot be a key; or it can, and the
report of the edge cannot be formed. -/
inductive Misses (c : Caller) (t : Value × Value) : Failure → Prop
  | unhashable {u : Unhashable} (hcontext : t.2.unhashable? = some u) : Misses c t (.unhashable u)
  | unformed {stop : TextFault} (hcontext : t.2.hashable = true)
      (hstop : (Event.added (c.edge t.1 t.2)).fault? = some stop) : Misses c t (.unformed stop)

/-- An entry that can be turned into edges, with all that is reported on the way. -/
def Passes (classifier : Classifier) (entry : Value × Value) : Prop :=
  ∃ c items, CallsFrom classifier entry.1 c ∧ classifier.fault? c.instruction = none ∧
    entry.2.items? = some items ∧ ∀ t ∈ items, Reaches c t

/-- The first thing that is wrong with an entry: its call site does not come apart; or it does, and
the calling context fails to tell its procedure or has none; or it has one, and the report on the
call node cannot be formed; or it can, and the targets are not a mapping; or they are, and one of
them is missed. -/
inductive Offends (classifier : Classifier) : Value × Value → Failure → Prop
  | undecomposable {site targets : Value} (hsite : ∀ ctx node, ¬Decomposes site ctx node) :
      Offends classifier (site, targets) (.ofTableFault (.undecomposable site))
  | untold {site targets ctx node : Value} {fault : AccessFault}
      (hsite : Decomposes site ctx node) (hctx : ctx.isContext = true)
      (hmethod : ctx.getMethod = .error fault) :
      Offends classifier (site, targets) (.access fault)
  | noProcedure {site targets ctx node : Value} (hsite : Decomposes site ctx node)
      (hmethod : ctx.isContext = false ∨ ctx.getMethod = .ok .null) :
      Offends classifier (site, targets) (.ofTableFault (.noProcedure ctx site))
  | unclassified {site targets : Value} {c : Caller} {stop : TextFault}
      (hcalls : CallsFrom classifier site c) (hstop : classifier.fault? c.instruction = some stop) :
      Offends classifier (site, targets) (.unformed stop)
  | targetsNotMapping {site targets : Value} {c : Caller} (hcalls : CallsFrom classifier site c)
      (hformed : classifier.fault? c.instruction = none) (htargets : targets.items? = none) :
      Offends classifier (site, targets) (.ofTableFault (.targetsNotMapping site targets))
  | target {site targets : Value} {c : Caller} {before after : List (Value × Value)}
      {t : Value × Value} {f : Failure} (hcalls : CallsFrom classifier site c)
      (hformed : classifier.fault? c.instruction = none)
      (htargets : targets.items? = some (before ++ t :: after))
      (hbefore : ∀ x ∈ before, Reaches c x) (hmisses : Misses c t f) :
      Offends classifier (site, targets) f

/-- The failure at which a pass over entries stops: what is wrong with the first that does not pass.
-/
inductive Stops (classifier : Classifier) : List (Value × Value) → Failure → Prop
  | here {entry : Value × Value} {entries : List (Value × Value)} {f : Failure}
      (hoffends : Offends classifier entry f) : Stops classifier (entry :: entries) f
  | later {entry : Value × Value} {entries : List (Value × Value)} {f : Failure}
      (hpasses : Passes classifier entry) (rest : Stops classifier entries f) :
      Stops classifier (entry :: entries) f

/-- What an entry must have so that an edge can only be kept out by the context of its target: its
call site lacks an answer or gives one, and whatever else an edge is made of can be a key, with no
absent target. -/
structure Prepared (entry : Value × Value) : Prop where
  noContext {fault : AccessFault} (h : entry.1.getCallingContext = .error fault) :
    fault.isMissing = true
  noNode {fault : AccessFault} (h : entry.1.getCallNode = .error fault) : fault.isMissing = true
  context {ctx : Value} (h : entry.1.getCallingContext = .ok ctx) : ctx.hashable = true
  procedure {ctx method : Value} (h : entry.1.getCallingContext = .ok ctx)
    (hmethod : ctx.getMethod = .ok method) : method.hashable = true
  node {node : Value} (h : entry.1.getCallNode = .ok node) : node.hashable = true
  targets {items : List (Value × Value)} (h : entry.2.items? = some items) :
    ∀ t ∈ items, t.1.hashable = true ∧ t.1 ≠ .null

/-- A prepared entry whose targets have contexts that can be keys. -/
structure Regular (entry : Value × Value) : Prop extends Prepared entry where
  contexts {items : List (Value × Value)} (h : entry.2.items? = some items) :
    ∀ t ∈ items, t.2.hashable = true

/-- A source of regular entries whose procedures can be nodes. -/
structure Source.Regular (source : Source) : Prop where
  methods : ∀ m ∈ source.methods, m.hashable = true ∧ m ≠ .null
  entries : ∀ entry ∈ source.transitions, CallGraphs.Regular entry

theorem Decomposes.eq_site {site ctx node : Value} (h : Decomposes site ctx node) :
    site = .site ctx node := by
  obtain ⟨hctx, hnode⟩ := h
  cases site with
  | site ctx' node' =>
      cases hctx
      cases hnode
      rfl
  | halfSite ctx' => cases hnode
  | badSite fault => cases hctx
  | _ => cases hctx

theorem Decomposes.decompose_eq {site ctx node : Value} (h : Decomposes site ctx node) :
    decompose site = .ok (ctx, node) := by
  rw [h.eq_site]
  rfl

namespace Multigraph

variable {ε : Type}

theorem addNode_of_hashable (g : Multigraph ε) {v : Value} (hv : v.hashable = true)
    (hnull : v ≠ .null) : ∃ g', g.addNode v = .done g' () := by
  unfold addNode
  rw [Outcome.withKey_of_hashable hv]
  split
  · exact ⟨g, rfl⟩
  · rw [Value.isNull_eq_false hnull]
    exact ⟨_, rfl⟩

theorem addEdge_of_hashable (g : Multigraph ε) {u v : Value} {key : EdgeKey}
    (hu : u.hashable = true) (hu' : u ≠ .null) (hv : v.hashable = true) (hv' : v ≠ .null)
    (hkey : key.1.hashable = true) (e : ε) : ∃ g', g.addEdge u v key e = .done g' () := by
  obtain ⟨g₁, h₁⟩ := addNode_of_hashable g hu hu'
  obtain ⟨g₂, h₂⟩ := addNode_of_hashable g₁ hv hv'
  refine ⟨g₂.link u v key e, ?_⟩
  rw [addEdge, h₁, Outcome.done_andThen, h₂, Outcome.done_andThen,
    Outcome.withKey_of_hashable hkey]

end Multigraph

namespace InsensitiveGraph

@[simp] theorem lift_done {α : Type} (g : InsensitiveGraph) (graph : Multigraph InsensitiveEdge)
    (a : α) : g.lift (.done graph a) = .done { g with graph := graph } a := rfl

theorem addProcedures_of_hashable {g : InsensitiveGraph} (hg : g.frozen = false)
    {ps : List Value} (hps : ∀ p ∈ ps, p.hashable = true ∧ p ≠ .null) :
    ∃ g', g.addProcedures ps = .done g' () ∧ g'.frozen = false := by
  induction ps generalizing g with
  | nil => exact ⟨g, rfl, hg⟩
  | cons p ps ih =>
      obtain ⟨⟨hp, hnull⟩, hrest⟩ := List.forall_mem_cons.mp hps
      obtain ⟨graph, hgraph⟩ := Multigraph.addNode_of_hashable g.graph hp hnull
      have hadd : g.addProcedure p = .done { g with graph := graph } () := by
        simp [addProcedure, hg, hgraph]
      obtain ⟨g', hg', hopen⟩ := ih (g := { g with graph := graph }) hg hrest
      exact ⟨g', by rw [addProcedures, hadd, Outcome.done_andThen, hg'], hopen⟩

/-- An open graph takes every edge whose parts can be keys and whose ends are there. -/
theorem addEdge_of_keyed {g : InsensitiveGraph} (hg : g.frozen = false) {e : InsensitiveEdge}
    (he : e.Keyed) (hsource : e.source ≠ .null) (htarget : e.target ≠ .null) :
    ∃ g' new, g.addEdge e = .done g' new ∧ g'.frozen = false := by
  unfold addEdge
  rw [hg, Multigraph.hasEdge_of_hashable g.graph he.source he.target he.instruction]
  cases (g.graph.between e.source e.target).contains e.key with
  | true => exact ⟨g, false, rfl, hg⟩
  | false =>
      have hkey : e.key.1.hashable = true := he.instruction
      obtain ⟨graph, hgraph⟩ := Multigraph.addEdge_of_hashable g.graph he.source hsource he.target
        htarget hkey e
      refine ⟨{ g with graph := graph }.store e, true, ?_, hg⟩
      simp [hgraph]

end InsensitiveGraph

namespace GraphIndex

theorem addProcedures_of_hashable (g : GraphIndex) {ps : List Value}
    (hps : ∀ p ∈ ps, p.hashable = true) :
    g.addProcedures ps = .done { g with procedures := Distinct.extend g.procedures ps } () := by
  induction ps generalizing g with
  | nil => rfl
  | cons p ps ih =>
      obtain ⟨hp, hrest⟩ := List.forall_mem_cons.mp hps
      rw [addProcedures, addProcedure, Outcome.withKey_of_hashable hp, Outcome.done_andThen,
        ih _ hrest]
      rfl

theorem kinds_of_edges (es : List SensitiveEdge) :
    kinds (es.map .edge) = .ok (es.map SensitiveEdge.kind) := by
  induction es with
  | nil => rfl
  | cons e es ih =>
      rw [List.map_cons, kinds, ih]
      rfl

end GraphIndex

theorem GraphIndex.Addable.instruction {e : SensitiveEdge} (he : GraphIndex.Addable e) :
    e.instruction.hashable = true := by
  have hsite := Value.hashable_site e.sourceContext e.instruction
  rw [show (Value.site e.sourceContext e.instruction).hashable = true from he.callSite] at hsite
  exact (Bool.and_eq_true_iff.mp hsite.symm).2

namespace Progress

/-- Both graphs of a pass are still open, and only edges were listed. -/
structure Open (p : Progress) : Prop where
  index : p.index.frozen = false
  graph : p.graph.frozen = false
  offers : ∃ es : List SensitiveEdge, p.index.offers = es.map .edge

theorem Open.report {p : Progress} (hp : p.Open) (events : List Event) : (p.report events).Open :=
  ⟨hp.index, hp.graph, hp.offers⟩

/-- An open pass takes every edge whose parts can be keys and whose ends are there. It goes on if
the report of the edge can be formed. -/
theorem Open.addEdge_eq {p : Progress} (hp : p.Open) {e : SensitiveEdge}
    (he : GraphIndex.Addable e) (hsource : e.source ≠ .null) (htarget : e.target ≠ .null) :
    ∃ q : Progress, q.Open ∧
      p.addEdge e = (Event.added e).fault?.elim (.done (q.report [.added e]) ())
        fun stop => .fail q (.unformed stop) := by
  have hkeyed : e.toInsensitive.Keyed := ⟨he.source, he.instruction, he.target⟩
  obtain ⟨graph, new, hgraph, hopen⟩ :=
    InsensitiveGraph.addEdge_of_keyed hp.graph hkeyed hsource htarget
  obtain ⟨es, hes⟩ := hp.offers
  have hindex := GraphIndex.addEdge_of_addable hp.index he
  refine ⟨⟨(p.index.addEdge e).state, graph, if new then p.collapsed else p.collapsed + 1,
    p.events⟩,
    ⟨?_, hopen, es ++ [e], ?_⟩, ?_⟩
  · rw [hindex]
    rfl
  · rw [hindex]
    simp [hes]
  · unfold Progress.addEdge
    simp only [hindex, Outcome.done_answer, Outcome.done_state, hgraph]
    cases (Event.added e).fault? with
    | none => rfl
    | some stop => rfl

/-- An edge is not indexed under a context that cannot be a key. -/
theorem Open.addEdge_unhashable {p : Progress} (hp : p.Open) {e : SensitiveEdge}
    (hcontext : e.sourceContext.hashable = true) (hsite : e.callSite.hashable = true)
    {u : Unhashable} (hu : e.targetContext.unhashable? = some u) :
    (p.addEdge e).answer = .error (.unhashable u) := by
  have hindex : (p.index.addEdge e).answer = .error (.unhashable u) := by
    unfold GraphIndex.addEdge GraphIndex.indexSource GraphIndex.indexCallSite
      GraphIndex.indexTarget
    simp only [hp.index, Bool.false_eq_true, ↓reduceIte, Outcome.withKey_of_hashable hcontext,
      Outcome.withKey_of_hashable hsite, Outcome.withKey_of_unhashable? hu, Outcome.done_andThen,
      Outcome.fail_andThen, Outcome.fail_answer]
  unfold Progress.addEdge
  simp only [hindex, Outcome.fail_answer]

end Progress

/-- All that an edge to a target is made of can be a key, but for the context of the target, and
both ends are there. -/
structure Keyed (c : Caller) (t : Value × Value) : Prop where
  site : (Value.site c.context c.instruction).hashable = true
  source : c.source.hashable = true
  present : c.source ≠ .null
  target : t.1.hashable = true
  targetPresent : t.1 ≠ .null

theorem Keyed.context {c : Caller} {t : Value × Value} (h : Keyed c t) :
    c.context.hashable = true := by
  have hsite := h.site
  rw [Value.hashable_site, Bool.and_eq_true] at hsite
  exact hsite.1

theorem Keyed.addable {c : Caller} {t : Value × Value} (h : Keyed c t)
    (hctx : t.2.hashable = true) : GraphIndex.Addable (c.edge t.1 t.2) where
  sourceContext := h.context
  callSite := h.site
  targetContext := hctx
  source := h.source
  target := h.target

/-- The edges of an entry are made of what can be keys, but for the contexts of the targets. -/
def AllKeyed (classifier : Classifier) (entry : Value × Value) : Prop :=
  ∀ c items, CallsFrom classifier entry.1 c → entry.2.items? = some items → ∀ t ∈ items, Keyed c t

section Targets

variable {c : Caller} {p : Progress}

theorem addTargets_of_reaches {items : List (Value × Value)} (hkeyed : ∀ t ∈ items, Keyed c t)
    (h : ∀ t ∈ items, Reaches c t) (hp : p.Open) :
    ∃ q, addTargets c p items = .done q () ∧ q.Open := by
  induction items generalizing p with
  | nil => exact ⟨p, rfl, hp⟩
  | cons t items ih =>
      obtain ⟨hkey, hkeys⟩ := List.forall_mem_cons.mp hkeyed
      obtain ⟨hfirst, hrest⟩ := List.forall_mem_cons.mp h
      obtain ⟨q, hopen, hq⟩ :=
        hp.addEdge_eq (hkey.addable hfirst.context) hkey.present hkey.targetPresent
      obtain ⟨r, hr, hopen'⟩ := ih hkeys hrest (hopen.report [.added (c.edge t.1 t.2)])
      rw [hfirst.formed] at hq
      exact ⟨r, by rw [addTargets, hq, Option.elim_none, Outcome.done_andThen, hr], hopen'⟩

theorem addEdge_of_misses {t : Value × Value} (hkeyed : Keyed c t) {f : Failure}
    (h : Misses c t f) (hp : p.Open) : (p.addEdge (c.edge t.1 t.2)).answer = .error f := by
  cases h with
  | unhashable hcontext =>
      apply hp.addEdge_unhashable
      · exact hkeyed.context
      · exact hkeyed.site
      · exact hcontext
  | unformed hcontext hstop =>
      obtain ⟨q, _, hq⟩ :=
        hp.addEdge_eq (hkeyed.addable hcontext) hkeyed.present hkeyed.targetPresent
      rw [hq, hstop]
      rfl

theorem addTargets_append {q : Progress} {xs : List (Value × Value)}
    (h : addTargets c p xs = .done q ()) (ys : List (Value × Value)) :
    addTargets c p (xs ++ ys) = addTargets c q ys := by
  induction xs generalizing p with
  | nil =>
      cases h
      rfl
  | cons x xs ih =>
      obtain ⟨target, ctx⟩ := x
      rw [addTargets] at h
      obtain ⟨_, hadded, heq⟩ := Outcome.andThen_eq_ok (congrArg Outcome.answer h)
      rw [List.cons_append, addTargets, Outcome.eq_done hadded, Outcome.done_andThen]
      exact ih (heq.symm.trans h)

theorem addTargets_of_misses {before after : List (Value × Value)} {t : Value × Value}
    (hkeyed : ∀ x ∈ before ++ t :: after, Keyed c x) (hbefore : ∀ x ∈ before, Reaches c x)
    {f : Failure} (h : Misses c t f) (hp : p.Open) :
    (addTargets c p (before ++ t :: after)).answer = .error f := by
  obtain ⟨hkeys, hrest⟩ := List.forall_mem_append.mp hkeyed
  obtain ⟨q, hq, hopen⟩ := addTargets_of_reaches hkeys hbefore hp
  rw [addTargets_append hq, addTargets]
  apply Outcome.andThen_eq_error
  exact addEdge_of_misses (hrest t List.mem_cons_self) h hopen

theorem reaches_or_misses (c : Caller) (t : Value × Value) : Reaches c t ∨ ∃ f, Misses c t f := by
  cases hctx : t.2.unhashable? with
  | some u => exact .inr ⟨_, .unhashable hctx⟩
  | none =>
      have hkey : t.2.hashable = true := by
        rw [Value.hashable, hctx]
        rfl
      cases hformed : (Event.added (c.edge t.1 t.2)).fault? with
      | some stop => exact .inr ⟨_, .unformed hkey hformed⟩
      | none => exact .inl ⟨hkey, hformed⟩

/-- All targets are reached, or there is a first one that is missed. -/
theorem all_reached_or_missed (c : Caller) (items : List (Value × Value)) :
    (∀ t ∈ items, Reaches c t) ∨ ∃ before t after f, items = before ++ t :: after ∧
      (∀ x ∈ before, Reaches c x) ∧ Misses c t f := by
  induction items with
  | nil => exact .inl fun _ ht => (by cases ht)
  | cons t items ih =>
      rcases reaches_or_misses c t with hreaches | ⟨f, hmisses⟩
      · rcases ih with hall | ⟨before, x, after, f, rfl, hbefore, hmisses⟩
        · exact .inl (List.forall_mem_cons.mpr ⟨hreaches, hall⟩)
        · exact .inr ⟨t :: before, x, after, f, rfl,
            List.forall_mem_cons.mpr ⟨hreaches, hbefore⟩, hmisses⟩
      · exact .inr ⟨[], t, items, f, rfl, fun _ hx => (by cases hx), hmisses⟩

end Targets

theorem Value.isContext_of_getMethod {ctx method : Value} (h : ctx.getMethod = .ok method) :
    ctx.isContext = true := by
  cases ctx with
  | context | host => rfl
  | _ => cases h

section Entries

variable {classifier : Classifier} {entry : Value × Value} {p : Progress}

theorem CallsFrom.unique {site : Value} {c c' : Caller} (h : CallsFrom classifier site c)
    (h' : CallsFrom classifier site c') : c = c' := by
  obtain ⟨source, ctx, node, kind⟩ := c
  obtain ⟨source', ctx', node', kind'⟩ := c'
  obtain rfl : ctx = ctx' :=
    Except.ok.inj (h.decomposes.context.symm.trans h'.decomposes.context)
  obtain rfl : node = node' := Except.ok.inj (h.decomposes.node.symm.trans h'.decomposes.node)
  obtain rfl : source = source' := Except.ok.inj (h.method.symm.trans h'.method)
  obtain rfl : kind = kind' := h.kind.trans h'.kind.symm
  rfl

theorem CallsFrom.resolveMethod_eq {site : Value} {c : Caller} (h : CallsFrom classifier site c) :
    resolveMethod c.context site = .ok c.source := by
  unfold resolveMethod
  simp only [Value.isContext_of_getMethod h.method, h.method, Value.isNull_eq_false h.present]
  rfl

/-- What a caller does when it is found: the call is classified, and then the targets are added. -/
theorem CallsFrom.addEntry_eq {site targets : Value} {c : Caller} (h : CallsFrom classifier site c)
    (hformed : classifier.fault? c.instruction = none) (p : Progress) :
    addEntry classifier p site targets =
      targets.items?.elim
        (.fail (p.report (classifier.remark? c.instruction).toList)
          (.ofTableFault (.targetsNotMapping site targets)))
        (addTargets c (p.report (classifier.remark? c.instruction).toList)) := by
  unfold addEntry
  simp only [h.decomposes.decompose_eq, h.resolveMethod_eq, Classifier.classify_of_formed hformed]
  rw [← h.kind]
  cases targets.items? with
  | none => rfl
  | some items => rfl

theorem Prepared.allKeyed (h : Prepared entry) : AllKeyed classifier entry := by
  intro c items hcalls hitems t ht
  obtain ⟨htarget, hnull⟩ := h.targets hitems t ht
  obtain ⟨hctx, hnode⟩ := hcalls.decomposes
  refine ⟨?_, h.procedure hctx hcalls.method, hcalls.present, htarget, hnull⟩
  rw [Value.hashable_site, h.context hctx, h.node hnode]
  rfl

theorem addEntry_of_passes (hkeyed : AllKeyed classifier entry) (h : Passes classifier entry)
    (hp : p.Open) : ∃ q, addEntry classifier p entry.1 entry.2 = .done q () ∧ q.Open := by
  obtain ⟨c, items, hcalls, hformed, hitems, hreaches⟩ := h
  rw [hcalls.addEntry_eq hformed, hitems]
  exact addTargets_of_reaches (hkeyed c items hcalls hitems) hreaches (hp.report _)

/-- Taking a call site apart fails where it has no two parts, and only with a fault of the table if
it lacks an answer at most. -/
theorem decompose_of_prepared (h : Prepared entry)
    (hnone : ∀ ctx node, ¬Decomposes entry.1 ctx node) :
    decompose entry.1 = .error (.ofTableFault (.undecomposable entry.1)) := by
  unfold decompose
  cases hctx : entry.1.getCallingContext with
  | error fault => simp only [siteFailure, h.noContext hctx, ↓reduceIte]
  | ok ctx =>
      cases hnode : entry.1.getCallNode with
      | error fault => simp only [siteFailure, h.noNode hnode, ↓reduceIte]
      | ok node => exact absurd ⟨hctx, hnode⟩ (hnone ctx node)

theorem addEntry_of_offends (hprepared : Prepared entry) {f : Failure}
    (h : Offends classifier entry f) (hp : p.Open) :
    (addEntry classifier p entry.1 entry.2).answer = .error f := by
  cases h with
  | undecomposable hnone =>
      unfold addEntry
      simp only [decompose_of_prepared hprepared hnone, Outcome.fail_answer]
  | untold hsite hctx hmethod =>
      unfold addEntry
      simp only [hsite.decompose_eq, resolveMethod, hctx, hmethod, Outcome.fail_answer]
  | @noProcedure site targets ctx node hsite hmethod =>
      have hresolve : resolveMethod ctx site = .error (.ofTableFault (.noProcedure ctx site)) := by
        rcases resolveMethod_cases ctx site with ⟨method, hfound, hnull, _⟩ |
          ⟨fault, hctx, hfault, _⟩ | ⟨_, hfails⟩
        · rcases hmethod with hnone | hmethod
          · rw [Value.isContext_of_getMethod hfound] at hnone
            cases hnone
          · rw [hfound] at hmethod
            exact absurd (Except.ok.inj hmethod) hnull
        · rcases hmethod with hnone | hmethod
          · rw [hctx] at hnone
            cases hnone
          · rw [hfault] at hmethod
            cases hmethod
        · exact hfails
      unfold addEntry
      simp only [hsite.decompose_eq, hresolve, Outcome.fail_answer]
  | unclassified hcalls hstop =>
      unfold addEntry
      simp only [hcalls.decomposes.decompose_eq, hcalls.resolveMethod_eq,
        Classifier.classify_of_unformed hstop, Outcome.fail_answer]
  | targetsNotMapping hcalls hformed htargets =>
      rw [hcalls.addEntry_eq hformed, htargets]
      rfl
  | target hcalls hformed htargets hbefore hmisses =>
      rw [hcalls.addEntry_eq hformed, htargets]
      exact addTargets_of_misses (hprepared.allKeyed _ _ hcalls htargets) hbefore hmisses
        (hp.report _)

/-- Every entry passes, or something is wrong with it. -/
theorem passes_or_offends (classifier : Classifier) (entry : Value × Value) :
    Passes classifier entry ∨ ∃ f, Offends classifier entry f := by
  obtain ⟨site, targets⟩ := entry
  by_cases hsite : ∃ ctx node, Decomposes site ctx node
  · obtain ⟨ctx, node, hsite⟩ := hsite
    rcases resolveMethod_cases ctx site with ⟨method, hmethod, hnull, _⟩ |
      ⟨fault, hctx, hfault, _⟩ | ⟨hnone, _⟩
    · have hcalls : CallsFrom classifier site ⟨method, ctx, node, classifier.kind node⟩ :=
        ⟨hsite, hmethod, hnull, rfl⟩
      cases hformed : classifier.fault? node with
      | some stop => exact .inr ⟨_, .unclassified hcalls hformed⟩
      | none =>
      cases hitems : targets.items? with
      | none => exact .inr ⟨_, .targetsNotMapping hcalls hformed hitems⟩
      | some items =>
          rcases all_reached_or_missed ⟨method, ctx, node, classifier.kind node⟩ items with hall |
            ⟨before, t, after, f, rfl, hbefore, hmisses⟩
          · exact .inl ⟨_, items, hcalls, hformed, hitems, hall⟩
          · exact .inr ⟨f, .target hcalls hformed hitems hbefore hmisses⟩
    · exact .inr ⟨_, .untold hsite hctx hfault⟩
    · exact .inr ⟨_, .noProcedure hsite hnone⟩
  · exact .inr ⟨_, .undecomposable fun ctx node h => hsite ⟨ctx, node, h⟩⟩

theorem addEntries_of_passes {entries : List (Value × Value)}
    (hkeyed : ∀ entry ∈ entries, AllKeyed classifier entry)
    (h : ∀ entry ∈ entries, Passes classifier entry) (hp : p.Open) :
    ∃ q, addEntries classifier p entries = .done q () ∧ q.Open := by
  induction entries generalizing p with
  | nil => exact ⟨p, rfl, hp⟩
  | cons entry entries ih =>
      obtain ⟨hkey, hkeys⟩ := List.forall_mem_cons.mp hkeyed
      obtain ⟨hentry, hrest⟩ := List.forall_mem_cons.mp h
      obtain ⟨q, hq, hopen⟩ := addEntry_of_passes hkey hentry hp
      obtain ⟨r, hr, hopen'⟩ := ih hkeys hrest hopen
      exact ⟨r, by rw [addEntries, hq, Outcome.done_andThen, hr], hopen'⟩

/-- A pass over prepared entries stops as they say. The induction follows the entries up to the
first that does not pass; those before it leave both graphs open. -/
theorem addEntries_of_stops {entries : List (Value × Value)}
    (hprepared : ∀ entry ∈ entries, Prepared entry) {f : Failure}
    (h : Stops classifier entries f) (hp : p.Open) :
    (addEntries classifier p entries).answer = .error f := by
  induction h generalizing p with
  | here hoffends =>
      rw [addEntries]
      apply Outcome.andThen_eq_error
      exact addEntry_of_offends (hprepared _ List.mem_cons_self) hoffends hp
  | later hpasses _ ih =>
      obtain ⟨hfirst, hrest⟩ := List.forall_mem_cons.mp hprepared
      obtain ⟨q, hq, hopen⟩ := addEntry_of_passes hfirst.allKeyed hpasses hp
      rw [addEntries, hq, Outcome.done_andThen]
      exact ih hrest hopen

theorem pass_or_stops (classifier : Classifier) (entries : List (Value × Value)) :
    (∀ entry ∈ entries, Passes classifier entry) ∨ ∃ f, Stops classifier entries f := by
  induction entries with
  | nil => exact .inl fun _ hentry => (by cases hentry)
  | cons entry entries ih =>
      rcases passes_or_offends classifier entry with hpasses | ⟨f, hoffends⟩
      · rcases ih with hall | ⟨f, hstops⟩
        · exact .inl (List.forall_mem_cons.mpr ⟨hpasses, hall⟩)
        · exact .inr ⟨f, .later hpasses hstops⟩
      · exact .inr ⟨f, .here hoffends⟩

end Entries

theorem finish_of_open {p : Progress} (hp : p.Open) :
    ∃ graphs built, finish p = .ok (graphs, built) := by
  obtain ⟨es, hes⟩ := hp.offers
  unfold finish GraphIndex.freeze InsensitiveGraph.freeze GraphIndex.stats
  simp only [hp.index, hp.graph, hes, Bool.false_eq_true, ↓reduceIte, Outcome.done_answer,
    Outcome.done_state, GraphIndex.kinds_of_edges]
  exact ⟨_, _, rfl⟩

/-- Where all procedures can be nodes, the entries decide what comes of a pass. -/
theorem transform_of_methods (classifier : Classifier) {source : Source}
    (h : ∀ m ∈ source.methods, m.hashable = true ∧ m ≠ .null) :
    ∃ start : Progress, start.Open ∧
      (∀ f, (addEntries classifier start source.transitions).answer = .error f →
        (transform classifier source).1 = .error f) ∧
      ∀ last : Progress, last.Open →
        addEntries classifier start source.transitions = .done last () →
          ∃ graphs, (transform classifier source).1 = .ok graphs := by
  have hindex : GraphIndex.empty.setProcedures source.methods = .done _ () :=
    GraphIndex.addProcedures_of_hashable .empty fun m hm => (h m hm).1
  obtain ⟨graph, hgraph, hopen⟩ :=
    InsensitiveGraph.addProcedures_of_hashable (g := .empty) rfl h
  have hstart : Progress.Open ⟨{ GraphIndex.empty with
      procedures := Distinct.extend GraphIndex.empty.procedures source.methods }, graph, 0,
      [.building source.transitions.length source.methods.length]⟩ :=
    ⟨rfl, hopen, [], rfl⟩
  unfold transform
  simp only [hindex, hgraph, Outcome.done_answer, Outcome.done_state]
  refine ⟨_, hstart, fun f hfault => ?_, fun last hlast hrun => ?_⟩
  · simp only [hfault]
  · obtain ⟨graphs, built, hfinish⟩ := finish_of_open hlast
    refine ⟨graphs, ?_⟩
    simp only [hrun, Outcome.done_answer, Outcome.done_state, hfinish]

/-- How a pass ends whose procedures can be nodes and whose entries are prepared. -/
theorem transform_of_prepared (classifier : Classifier) {source : Source}
    (hmethods : ∀ m ∈ source.methods, m.hashable = true ∧ m ≠ .null)
    (hprepared : ∀ entry ∈ source.transitions, Prepared entry) :
    ((∃ graphs, (transform classifier source).1 = .ok graphs) ↔
        ∀ entry ∈ source.transitions, Passes classifier entry) ∧
      ∀ f, (transform classifier source).1 = .error f ↔ Stops classifier source.transitions f := by
  obtain ⟨start, hstart, herrors, hends⟩ := transform_of_methods classifier hmethods
  have hfails : ∀ f, Stops classifier source.transitions f →
      (transform classifier source).1 = .error f :=
    fun f hstops => herrors f (addEntries_of_stops hprepared hstops hstart)
  have hreturns : (∀ entry ∈ source.transitions, Passes classifier entry) →
      ∃ graphs, (transform classifier source).1 = .ok graphs := by
    intro hall
    obtain ⟨last, hlast, hopen⟩ :=
      addEntries_of_passes (fun entry hentry => (hprepared entry hentry).allKeyed) hall hstart
    exact hends last hopen hlast
  rcases pass_or_stops classifier source.transitions with hall | ⟨f, hstops⟩
  · obtain ⟨graphs, hok⟩ := hreturns hall
    refine ⟨⟨fun _ => hall, hreturns⟩, fun f => ⟨fun herror => ?_, hfails f⟩⟩
    rw [hok] at herror
    cases herror
  · have herror := hfails f hstops
    refine ⟨⟨?_, hreturns⟩, fun f' => ⟨fun herror' => ?_, hfails f'⟩⟩
    · rintro ⟨graphs, hok⟩
      rw [hok] at herror
      cases herror
    · rw [herror] at herror'
      cases herror'
      exact hstops

/-- A fault of the table is reported as one, or its message cannot be formed. -/
theorem Failure.ofTableFault_cases (fault : TableFault) :
    ofTableFault fault = .table fault ∨ ∃ stop, ofTableFault fault = .unformed stop := by
  unfold ofTableFault
  cases fault.message.fault? with
  | none => exact .inl rfl
  | some stop => exact .inr ⟨stop, rfl⟩

/-- A result, or a fault of the table: every failure is such a fault. -/
theorem reported_iff {α : Type} {answer : Except Failure α} :
    ((∃ a, answer = .ok a) ∨ ∃ fault, answer = .error (.table fault)) ↔
      ∀ f, answer = .error f → ∃ fault, f = .table fault := by
  cases answer with
  | ok a => simp
  | error f => simp

section Causes

variable {classifier : Classifier} {entry : Value × Value} {entries : List (Value × Value)}
  {f : Failure}

/-- What an entry can be stopped by: a fault of the table, a text that cannot be formed, a context
that fails to tell its procedure, or the context of a target that cannot be a key. -/
theorem Offends.cause (h : Offends classifier entry f) :
    (∃ fault, f = .table fault) ∨ (∃ stop, f = .unformed stop) ∨
      (∃ ctx node fault, Decomposes entry.1 ctx node ∧ ctx.getMethod = .error fault ∧
        f = .access fault) ∨
      ∃ items u, entry.2.items? = some items ∧ (∃ t ∈ items, t.2.unhashable? = some u) ∧
        f = .unhashable u := by
  have hfault : ∀ fault, (∃ fault', Failure.ofTableFault fault = .table fault') ∨
      ∃ stop, Failure.ofTableFault fault = .unformed stop := by
    intro fault
    rcases Failure.ofTableFault_cases fault with htable | hstop
    · exact .inl ⟨fault, htable⟩
    · exact .inr hstop
  cases h with
  | undecomposable _ | noProcedure _ _ | targetsNotMapping _ _ _ =>
      rcases hfault _ with htable | hstop
      · exact .inl htable
      · exact .inr (.inl hstop)
  | untold hsite _ hmethod => exact .inr (.inr (.inl ⟨_, _, _, hsite, hmethod, rfl⟩))
  | unclassified _ _ => exact .inr (.inl ⟨_, rfl⟩)
  | target _ _ htargets _ hmisses =>
      cases hmisses with
      | unhashable hcontext =>
          exact .inr (.inr (.inr ⟨_, _, htargets, ⟨_, by simp, hcontext⟩, rfl⟩))
      | unformed _ _ => exact .inr (.inl ⟨_, rfl⟩)

/-- The entry at which a pass stops is the first that does not pass. -/
theorem Stops.split (h : Stops classifier entries f) :
    ∃ before entry after, entries = before ++ entry :: after ∧
      (∀ e ∈ before, Passes classifier e) ∧ Offends classifier entry f := by
  induction h with
  | here hoffends => exact ⟨[], _, _, rfl, fun _ he => (by cases he), hoffends⟩
  | @later first _ _ hpasses _ ih =>
      obtain ⟨before, entry, after, rfl, hbefore, hoffends⟩ := ih
      exact ⟨first :: before, entry, after, rfl, List.forall_mem_cons.mpr ⟨hpasses, hbefore⟩,
        hoffends⟩

theorem Stops.exists_offends (h : Stops classifier entries f) :
    ∃ entry ∈ entries, Offends classifier entry f := by
  obtain ⟨before, entry, after, rfl, _, hoffends⟩ := h.split
  exact ⟨entry, List.mem_append_right before List.mem_cons_self, hoffends⟩

/-- An entry that is as a pass asks for: its call site comes apart, the calling context has a
procedure, and the targets are a mapping. -/
def Usable (entry : Value × Value) : Prop :=
  ∃ ctx node method, Decomposes entry.1 ctx node ∧ ctx.getMethod = .ok method ∧ method ≠ .null ∧
    entry.2.items?.isSome = true

theorem Passes.usable (h : Passes classifier entry) : Usable entry := by
  obtain ⟨c, items, hcalls, _, hitems, _⟩ := h
  exact ⟨c.context, c.instruction, c.source, hcalls.decomposes, hcalls.method, hcalls.present,
    by rw [hitems]; rfl⟩

/-- A usable entry is only stopped by a text, if the contexts of its targets can be keys. -/
theorem Offends.unformed_of_usable (h : Offends classifier entry f) (hregular : Regular entry)
    (husable : Usable entry) : ∃ stop, f = .unformed stop := by
  obtain ⟨ctx, node, method, hsite, hmethod, hnull, htargets⟩ := husable
  cases h with
  | undecomposable hnone => exact absurd hsite (hnone ctx node)
  | untold hsite' _ hfault =>
      rw [← Except.ok.inj (hsite.context.symm.trans hsite'.context), hmethod] at hfault
      cases hfault
  | noProcedure hsite' hnone =>
      rw [← Except.ok.inj (hsite.context.symm.trans hsite'.context), hmethod,
        Value.isContext_of_getMethod hmethod] at hnone
      rcases hnone with hnone | hnone
      · cases hnone
      · exact absurd (Except.ok.inj hnone) hnull
  | unclassified _ _ => exact ⟨_, rfl⟩
  | targetsNotMapping _ _ hnone =>
      rw [hnone] at htargets
      cases htargets
  | @target site targets c before after t f _ _ hitems _ hmisses =>
      cases hmisses with
      | unhashable hcontext =>
          have hkey := hregular.contexts hitems t (by simp)
          rw [Value.hashable, hcontext] at hkey
          cases hkey
      | unformed _ _ => exact ⟨_, rfl⟩

end Causes

/-- How a pass over a regular source ends. It hands out graphs exactly if every entry is usable,
those without targets included, and it is not stopped by a text that cannot be formed. Otherwise it
fails for the first thing that is wrong with the first entry that does not pass. This is reported as
a fault of the table unless a text cannot be formed or a context fails to tell its procedure. -/
theorem transform_fails_at_first_offence (classifier : Classifier) {source : Source}
    (h : source.Regular) :
    ((∃ graphs, (transform classifier source).1 = .ok graphs) ↔
        (∀ entry ∈ source.transitions, Usable entry) ∧
          ∀ stop, ¬Stops classifier source.transitions (.unformed stop)) ∧
      (∀ f, (transform classifier source).1 = .error f ↔ Stops classifier source.transitions f) ∧
      (((∃ graphs, (transform classifier source).1 = .ok graphs) ∨
          ∃ fault, (transform classifier source).1 = .error (.table fault)) ↔
        (∀ stop, ¬Stops classifier source.transitions (.unformed stop)) ∧
          ∀ fault, ¬Stops classifier source.transitions (.access fault)) := by
  obtain ⟨hreturns, hfails⟩ := transform_of_prepared classifier h.methods
    fun entry hentry => (h.entries entry hentry).toPrepared
  refine ⟨⟨fun hok => ?_, ?_⟩, hfails, ?_⟩
  · have hall := hreturns.mp hok
    obtain ⟨graphs, hgraphs⟩ := hok
    refine ⟨fun entry hentry => (hall entry hentry).usable, fun stop hstops => ?_⟩
    rw [(hfails _).mpr hstops] at hgraphs
    cases hgraphs
  · rintro ⟨husable, hformed⟩
    rcases pass_or_stops classifier source.transitions with hall | ⟨f, hstops⟩
    · exact hreturns.mpr hall
    · obtain ⟨entry, hentry, hoffends⟩ := hstops.exists_offends
      obtain ⟨stop, rfl⟩ :=
        hoffends.unformed_of_usable (h.entries entry hentry) (husable entry hentry)
      exact absurd hstops (hformed stop)
  · rw [reported_iff]
    constructor
    · intro hreported
      refine ⟨fun stop hstops => ?_, fun fault hstops => ?_⟩
      · obtain ⟨fault, hfault⟩ := hreported _ ((hfails _).mpr hstops)
        cases hfault
      · obtain ⟨fault', hfault⟩ := hreported _ ((hfails _).mpr hstops)
        cases hfault
    · rintro ⟨hformed, htold⟩ f herror
      have hstops := (hfails f).mp herror
      obtain ⟨entry, hentry, hoffends⟩ := hstops.exists_offends
      rcases hoffends.cause with htable | ⟨stop, rfl⟩ | ⟨_, _, fault, _, _, rfl⟩ |
        ⟨items, u, hitems, ⟨t, ht, hu⟩, _⟩
      · exact htable
      · exact absurd hstops (hformed stop)
      · exact absurd hstops (htold fault)
      · have hkey := (h.entries entry hentry).contexts hitems t ht
        rw [Value.hashable, hu] at hkey
        cases hkey

/-- A call site that can be a key, with targets that can, is regular. -/
theorem regular_site {ctx node targets : Value} (hctx : ctx.hashable = true)
    (hnode : node.hashable = true)
    (htargets : ∀ items, targets.items? = some items →
      ∀ t ∈ items, t.1.hashable = true ∧ t.1 ≠ .null ∧ t.2.hashable = true) :
    Regular (.site ctx node, targets) where
  noContext := nofun
  noNode := nofun
  context h := by
    cases h
    exact hctx
  procedure h hmethod := by
    cases h
    exact TransitionTable.hashable_of_getMethod hctx hmethod
  node h := by
    cases h
    exact hnode
  targets h t ht := ⟨(htargets _ h t ht).1, (htargets _ h t ht).2.1⟩
  contexts h t ht := (htargets _ h t ht).2.2

/-- A table of a call site without targets, a call site in a context without procedure whose targets
are no mapping either, and a value that is no call site. -/
def faultySource : Source where
  methods := [.int 1]
  transitions :=
    [(.site (.context (.int 1) .null) (.int 7), .mapping []),
     (.site (.context .null .null) (.int 8), .int 0),
     (.null, .mapping [])]

theorem faultySource_regular : faultySource.Regular where
  methods m hm := by
    obtain rfl : m = .int 1 := by simpa [faultySource] using hm
    exact ⟨rfl, by simp⟩
  entries entry hentry := by
    simp only [faultySource, List.mem_cons, List.not_mem_nil, or_false] at hentry
    rcases hentry with rfl | rfl | rfl
    · refine regular_site rfl rfl fun items hitems t ht => ?_
      cases hitems
      cases ht
    · exact regular_site rfl rfl nofun
    · refine ⟨⟨fun h => ?_, fun h => ?_, nofun, nofun, nofun, fun h t ht => ?_⟩, fun h t ht => ?_⟩
      · cases h
        rfl
      · cases h
        rfl
      · cases h
        cases ht
      · cases h
        cases ht

/-- The second entry is the first that cannot be turned into edges, and its procedure is looked for
before its targets. -/
theorem transform_fails_at_missing_procedure :
    faultySource.Regular ∧
      (¬∃ graphs, (transform staticClassifier faultySource).1 = .ok graphs) ∧
      Stops staticClassifier faultySource.transitions (.table (.noProcedure
        (.context .null .null) (.site (.context .null .null) (.int 8)))) ∧
      ∀ stop, ¬Stops staticClassifier faultySource.transitions (.unformed stop) := by
  obtain ⟨_, hfails, hreported⟩ :=
    transform_fails_at_first_offence staticClassifier faultySource_regular
  have herror : (transform staticClassifier faultySource).1 = .error (.table (.noProcedure
      (.context .null .null) (.site (.context .null .null) (.int 8)))) := rfl
  refine ⟨faultySource_regular, ?_, (hfails _).mp herror, (hreported.mp (.inr ⟨_, herror⟩)).1⟩
  rintro ⟨graphs, hok⟩
  rw [herror] at hok
  cases hok

/-- A table of one entry, in a calling context and with targets to be given. -/
def singleSource (ctx targets : Value) : Source where
  methods := [.text "main", .text "helper"]
  transitions := [(.site ctx (.text "call"), targets)]

theorem singleSource_regular {ctx targets : Value} (hctx : ctx.hashable = true)
    (htargets : ∀ items, targets.items? = some items →
      ∀ t ∈ items, t.1.hashable = true ∧ t.1 ≠ .null ∧ t.2.hashable = true) :
    (singleSource ctx targets).Regular where
  methods m hm := by
    simp only [singleSource, List.mem_cons, List.not_mem_nil, or_false] at hm
    rcases hm with rfl | rfl
    · exact ⟨rfl, by simp⟩
    · exact ⟨rfl, by simp⟩
  entries entry hentry := by
    obtain rfl : entry = (.site ctx (.text "call"), targets) := by
      simpa [singleSource] using hentry
    exact regular_site hctx rfl htargets

theorem transform_singleSource {ctx targets : Value} (h : (singleSource ctx targets).Regular)
    {f : Failure} (hoffends : Offends staticClassifier (.site ctx (.text "call"), targets) f) :
    (transform staticClassifier (singleSource ctx targets)).1 = .error f := by
  have hends := transform_of_prepared staticClassifier h.methods
    fun entry hentry => (h.entries entry hentry).toPrepared
  exact (hends.2 f).mpr (.here hoffends)

/-- The context of a main procedure. -/
def mainContext : Value :=
  .context (.text "main") .null

/-- One helper, analysed in a context that a number tells apart. -/
def numberedTargets (n : Int) : Value :=
  .mapping [(.text "helper", .context (.text "helper") (.int n))]

theorem calls_main :
    CallsFrom staticClassifier (.site mainContext (.text "call"))
      ⟨.text "main", mainContext, .text "call", .static⟩ :=
  ⟨⟨rfl, rfl⟩, rfl, by simp, rfl⟩

theorem regular_numberedTargets (n : Int) :
    (singleSource mainContext (numberedTargets n)).Regular := by
  refine singleSource_regular rfl fun items hitems t ht => ?_
  cases hitems
  obtain rfl := List.mem_singleton.mp ht
  exact ⟨rfl, by simp, rfl⟩

/-- The edge to a context with a number too long is added, but it cannot be reported. -/
theorem transform_long_number {n : Int} (hn : Nat.pow 10 maxDigits ≤ n.natAbs) :
    (transform staticClassifier (singleSource mainContext (numberedTargets n))).1 =
      .error (.unformed .tooManyDigits) := by
  apply transform_singleSource (regular_numberedTargets n)
  have htargets : (numberedTargets n).items? =
      some ([] ++ (.text "helper", .context (.text "helper") (.int n)) :: []) := rfl
  refine .target calls_main rfl htargets (fun _ hx => (by cases hx)) (.unformed rfl ?_)
  simp [Event.fault?, Event.message, Draft.fault?, Draft.maxCalls, Draft.stop?_within,
    SensitiveEdge.toValue, Caller.edge, Value.plain, Value.exact, mainContext,
    Draft.stop?_ofInt_of_long hn]

theorem regular_nested (n : Nat) : (singleSource mainContext (.nested n)).Regular := by
  refine singleSource_regular rfl fun items hitems => ?_
  cases n <;> cases hitems

/-- Targets that are no mapping are not reported where they nest too deep. -/
theorem transform_deep_targets {n : Nat} (hn : Draft.maxCalls ≤ n) :
    (transform staticClassifier (singleSource mainContext (.nested n))).1 =
      .error (.unformed .tooDeep) := by
  have hnone : (Value.nested n).items? = none := by cases n <;> rfl
  have hfault : (Failure.ofTableFault (.targetsNotMapping (.site mainContext (.text "call"))
      (.nested n))) = .unformed .tooDeep := by
    have hstop : (TableFault.targetsNotMapping (.site mainContext (.text "call"))
        (.nested n)).message.fault? = some .tooDeep := by
      rw [TableFault.message, Draft.fault?, Draft.stop?_append, Value.stop?_exact_nested hn]
      rfl
    rw [Failure.ofTableFault, hstop]
  rw [← hfault]
  exact transform_singleSource (regular_nested n) (.targetsNotMapping calls_main rfl hnone)

/-- Three regular sources whose failure is none of the table: a usable entry with a number too long
to be reported, targets that are no mapping and nest too deep to be reported, and a context that
fails to tell its procedure. -/
theorem regular_sources_fail_otherwise :
    ((singleSource mainContext (numberedTargets (Nat.pow 10 maxDigits))).Regular ∧
      (∀ entry ∈ (singleSource mainContext (numberedTargets (Nat.pow 10 maxDigits))).transitions,
        Usable entry) ∧
      (transform staticClassifier
        (singleSource mainContext (numberedTargets (Nat.pow 10 maxDigits)))).1 =
          .error (.unformed .tooManyDigits)) ∧
    ((singleSource mainContext (.nested Draft.maxCalls)).Regular ∧
      (transform staticClassifier (singleSource mainContext (.nested Draft.maxCalls))).1 =
        .error (.unformed .tooDeep)) ∧
    (singleSource (.badContext .badValue) (.mapping [])).Regular ∧
      (transform staticClassifier (singleSource (.badContext .badValue) (.mapping []))).1 =
        .error (.access (.badContext .badValue)) := by
  refine ⟨⟨regular_numberedTargets _, ?_, transform_long_number ?_⟩,
    ⟨regular_nested _, transform_deep_targets (Nat.le_refl _)⟩, ?_, rfl⟩
  · intro entry hentry
    obtain rfl := List.mem_singleton.mp hentry
    exact ⟨mainContext, .text "call", .text "main", ⟨rfl, rfl⟩, rfl, by simp, rfl⟩
  · exact Nat.le_of_eq (Int.natAbs_natCast (Nat.pow 10 maxDigits)).symm
  · refine singleSource_regular rfl fun items hitems t ht => ?_
    cases hitems
    cases ht

end CallGraphs
