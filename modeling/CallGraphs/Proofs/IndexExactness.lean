import CallGraphs.GraphIndex
import CallGraphs.Proofs.CallSequences
import CallGraphs.Proofs.ValueEquality
/-!
# Exactness of the context-sensitive indices

An edge is listed first and then indexed three times, and a part that cannot be a key stops the
rest. So after failures the indices can lag behind the list, but only in one way: an edge whose call
site cannot be a key is listed and missing from the index by target context. By source context and
by call site a key finds exactly the listed edges that it should.
-/

namespace CallGraphs

namespace GraphIndex

/-- The listed edges, in order. -/
def edges (g : GraphIndex) : List SensitiveEdge :=
  g.offers.filterMap Offer.edge?

/-- Two indices that differ in their procedures at most. -/
def SameEdges (g g' : GraphIndex) : Prop :=
  ∃ ps, g' = { g with procedures := ps }

theorem SameEdges.refl (g : GraphIndex) : SameEdges g g :=
  ⟨g.procedures, rfl⟩

theorem SameEdges.trans {g₁ g₂ g₃ : GraphIndex} (h : SameEdges g₁ g₂)
    (h' : SameEdges g₂ g₃) : SameEdges g₁ g₃ := by
  obtain ⟨ps, rfl⟩ := h
  obtain ⟨ps', rfl⟩ := h'
  exact ⟨ps', rfl⟩

theorem addProcedure_sameEdges (g : GraphIndex) (p : Value) :
    SameEdges g (g.addProcedure p).state := by
  unfold addProcedure
  cases hp : p.hashable with
  | true =>
      rw [Outcome.withKey_of_hashable hp]
      exact ⟨_, rfl⟩
  | false =>
      rw [Outcome.withKey_of_unhashable hp]
      exact .refl g

theorem addProcedures_sameEdges (g : GraphIndex) (ps : List Value) :
    SameEdges g (g.addProcedures ps).state := by
  induction ps generalizing g with
  | nil => exact .refl g
  | cons p ps ih =>
      have hp := addProcedure_sameEdges g p
      exact Outcome.andThen_state hp fun _ => hp.trans (ih (g.addProcedure p).state)

theorem addEndpoints_sameEdges (g : GraphIndex) (e : SensitiveEdge) :
    SameEdges g ((g.addProcedure e.source).andThen fun g _ => g.addProcedure e.target).state := by
  have hsource := addProcedure_sameEdges g e.source
  exact Outcome.andThen_state hsource fun _ =>
    hsource.trans (addProcedure_sameEdges (g.addProcedure e.source).state e.target)

theorem setProceduresOf_sameEdges (g : GraphIndex) (v : Value) :
    SameEdges g (g.setProceduresOf v).state := by
  unfold setProceduresOf
  split
  · exact .refl g
  · split
    · exact addProcedures_sameEdges g _
    · exact .refl g

/-- What adding an edge to an open index leaves behind, whether it fails or not: the edge is listed,
and it is in an index if all keys up to that index can be keys. -/
structure Added (g : GraphIndex) (e : SensitiveEdge) (g' : GraphIndex) : Prop where
  offers : g'.offers = g.offers ++ [.edge e]
  outOfContext : g'.outOfContext =
    if e.sourceContext.hashable then g.outOfContext.push e.sourceContext e else g.outOfContext
  outOfCallSite : g'.outOfCallSite =
    if e.callSite.hashable then g.outOfCallSite.push e.callSite e else g.outOfCallSite
  intoContext : g'.intoContext =
    if e.callSite.hashable && e.targetContext.hashable then g.intoContext.push e.targetContext e
    else g.intoContext
  frozen : g'.frozen = false

theorem Added.of_sameEdges {g g₁ g₂ : GraphIndex} {e : SensitiveEdge} (h : Added g e g₁)
    (h' : SameEdges g₁ g₂) : Added g e g₂ := by
  obtain ⟨ps, rfl⟩ := h'
  exact ⟨h.offers, h.outOfContext, h.outOfCallSite, h.intoContext, h.frozen⟩

theorem addEdge_added {g : GraphIndex} (hg : g.frozen = false) (e : SensitiveEdge) :
    Added g e (g.addEdge e).state := by
  have hsite : e.callSite.hashable = (e.sourceContext.hashable && e.instruction.hashable) :=
    Value.hashable_site e.sourceContext e.instruction
  -- The cases are the places at which adding can stop: before the first, the second and the third
  -- index, or later, when only the procedures are left.
  cases hctx : e.sourceContext.hashable with
  | false =>
      have hstate : (g.addEdge e).state = g.list (.edge e) := by
        simp [addEdge, hg, indexSource, Outcome.withKey_of_unhashable hctx]
      constructor <;> simp [hstate, list, hsite, hctx, hg]
  | true =>
  cases hcall : e.callSite.hashable with
  | false =>
      have hstate : (g.addEdge e).state = { g.list (.edge e) with
          outOfContext := g.outOfContext.push e.sourceContext e } := by
        simp [addEdge, hg, indexSource, indexCallSite, Outcome.withKey_of_hashable hctx,
          Outcome.withKey_of_unhashable hcall, list]
      constructor <;> simp [hstate, list, hcall, hctx, hg]
  | true =>
  cases htarget : e.targetContext.hashable with
  | false =>
      have hstate : (g.addEdge e).state = { g.list (.edge e) with
          outOfContext := g.outOfContext.push e.sourceContext e
          outOfCallSite := g.outOfCallSite.push e.callSite e } := by
        simp [addEdge, hg, indexSource, indexCallSite, indexTarget,
          Outcome.withKey_of_hashable hctx, Outcome.withKey_of_hashable hcall,
          Outcome.withKey_of_unhashable htarget, list]
      constructor <;> simp [hstate, list, hcall, hctx, htarget, hg]
  | true =>
      have hstate : SameEdges { g.list (.edge e) with
          outOfContext := g.outOfContext.push e.sourceContext e
          outOfCallSite := g.outOfCallSite.push e.callSite e
          intoContext := g.intoContext.push e.targetContext e } (g.addEdge e).state := by
        simp only [addEdge, hg, indexSource, indexCallSite, indexTarget,
          Outcome.withKey_of_hashable hctx, Outcome.withKey_of_hashable hcall,
          Outcome.withKey_of_hashable htarget, Outcome.done_andThen]
        exact addEndpoints_sameEdges _ e
      refine Added.of_sameEdges ?_ hstate
      constructor <;> simp [list, hcall, hctx, htarget, hg]

/-- What an edge must have to be added without a failure. -/
structure Addable (e : SensitiveEdge) : Prop where
  sourceContext : e.sourceContext.hashable = true
  callSite : e.callSite.hashable = true
  targetContext : e.targetContext.hashable = true
  source : e.source.hashable = true
  target : e.target.hashable = true

/-- An edge that was added had all its keys, and the builder was open. -/
theorem addEdge_eq_ok {g : GraphIndex} {e : SensitiveEdge} {u : Unit}
    (h : (g.addEdge e).answer = .ok u) : g.frozen = false ∧ Addable e := by
  unfold addEdge at h
  split at h
  · cases h
  · rename_i hg
    obtain ⟨_, hsource, heq⟩ := Outcome.andThen_eq_ok h
    rw [heq] at h
    obtain ⟨_, hsite, heq⟩ := Outcome.andThen_eq_ok h
    rw [heq] at h
    obtain ⟨_, htarget, heq⟩ := Outcome.andThen_eq_ok h
    rw [heq] at h
    obtain ⟨_, hknown, heq⟩ := Outcome.andThen_eq_ok h
    rw [heq] at h
    exact ⟨by simpa using hg, (Outcome.withKey_eq_ok hsource).1,
      (Outcome.withKey_eq_ok hsite).1, (Outcome.withKey_eq_ok htarget).1,
      (Outcome.withKey_eq_ok hknown).1, (Outcome.withKey_eq_ok h).1⟩

/-- An open builder adds every edge that has all its keys, to the list, to all three indices and to
the procedures. -/
theorem addEdge_of_addable {g : GraphIndex} {e : SensitiveEdge} (hg : g.frozen = false)
    (he : Addable e) :
    g.addEdge e = .done
      { outOfContext := g.outOfContext.push e.sourceContext e
        outOfCallSite := g.outOfCallSite.push e.callSite e
        intoContext := g.intoContext.push e.targetContext e
        offers := g.offers ++ [.edge e]
        procedures := Distinct.extend g.procedures [e.source, e.target]
        frozen := false } () := by
  simp [addEdge, hg, indexSource, indexCallSite, indexTarget, addProcedure, list,
    Outcome.withKey_of_hashable he.sourceContext, Outcome.withKey_of_hashable he.callSite,
    Outcome.withKey_of_hashable he.targetContext, Outcome.withKey_of_hashable he.source,
    Outcome.withKey_of_hashable he.target]

/-- The indices of a builder that is still open, as far as they have come: by source context and by
call site they are exact, and by target context they hold the edges whose call site can be a key. -/
structure Indexed (g : GraphIndex) : Prop where
  frozen : g.frozen = false
  outOfContext {c : Value} (hc : c.hashable = true) :
    g.outOfContext.bucket c = g.edges.filter (·.sourceContext == c)
  outOfCallSite {k : Value} (hk : k.hashable = true) :
    g.outOfCallSite.bucket k = g.edges.filter (·.callSite == k)
  intoContext {t : Value} (ht : t.hashable = true) :
    g.intoContext.bucket t =
      (g.edges.filter (·.callSite.hashable)).filter (·.targetContext == t)

theorem indexed_empty : Indexed empty where
  frozen := rfl
  outOfContext _ := rfl
  outOfCallSite _ := rfl
  intoContext _ := rfl

theorem Indexed.of_sameEdges {g g' : GraphIndex} (hg : Indexed g) (h : SameEdges g g') :
    Indexed g' := by
  obtain ⟨ps, rfl⟩ := h
  exact ⟨hg.frozen, hg.outOfContext, hg.outOfCallSite, hg.intoContext⟩

theorem Added.edges {g g' : GraphIndex} {e : SensitiveEdge} (h : Added g e g') :
    g'.edges = g.edges ++ [e] := by
  simp [GraphIndex.edges, h.offers, Offer.edge?]

/-- An index by a key goes on being exact when an edge comes in that is indexed if its key can be
one: an edge that stays outside equals none of the keys that are asked for. -/
theorem bucket_index (key : SensitiveEdge → Value) {m : OrdMap Value (List SensitiveEdge)}
    {es : List SensitiveEdge} {k : Value} (hk : k.hashable = true)
    (hm : m.bucket k = es.filter (key · == k)) (e : SensitiveEdge) :
    (if (key e).hashable then m.push (key e) e else m).bucket k =
      (es ++ [e]).filter (key · == k) := by
  cases he : (key e).hashable with
  | true => exact OrdMap.bucket_push_filter Value.equivOn_hashable he hm
  | false =>
      have hne := Value.beq_eq_false_of_unhashable he hk
      simp [hm, List.filter_append, hne]

/-- Adding an edge keeps the indices as exact as they were, however far it comes. -/
theorem Indexed.added {g g' : GraphIndex} {e : SensitiveEdge} (hg : Indexed g)
    (h : Added g e g') : Indexed g' where
  frozen := h.frozen
  outOfContext {c} hc := by
    rw [h.edges, h.outOfContext]
    exact bucket_index SensitiveEdge.sourceContext hc (hg.outOfContext hc) e
  outOfCallSite {k} hk := by
    rw [h.edges, h.outOfCallSite]
    exact bucket_index SensitiveEdge.callSite hk (hg.outOfCallSite hk) e
  intoContext {t} ht := by
    rw [h.edges, h.intoContext, List.filter_append]
    cases hsite : e.callSite.hashable with
    | false => simpa [hsite] using hg.intoContext ht
    | true =>
        simp only [Bool.true_and, List.filter_singleton, hsite]
        exact bucket_index SensitiveEdge.targetContext ht (hg.intoContext ht) e

/-- A change that a caller asks of a builder. It may name procedures by any value and offer any
value as an edge, and goes on whatever comes of it. -/
inductive Change where
  | setProcedures (procedures : Value)
  | addEdge (offered : Value)

namespace Change

/-- Ask a builder for a change. -/
def make : Change → GraphIndex → Outcome GraphIndex Unit
  | setProcedures procedures, g => g.setProceduresOf procedures
  | addEdge offered, g => g.offer offered

/-- What a change offers as an edge. -/
def offer? : Change → Option Offer
  | setProcedures _ => none
  | addEdge offered =>
    match offered.sensitiveEdge? with
    | some e => some (.edge e)
    | none => some (.stray offered)

end Change

/-- The three things that a change can come to on an open builder. -/
theorem make_cases {g : GraphIndex} (hg : g.frozen = false) (c : Change) :
    (c.offer? = none ∧ SameEdges g (c.make g).state) ∨
      (∃ e, c.offer? = some (.edge e) ∧ c.make g = g.addEdge e) ∨
      ∃ v f, c.offer? = some (.stray v) ∧ c.make g = .fail (g.list (.stray v)) f := by
  cases c with
  | setProcedures procedures =>
      exact .inl ⟨rfl, setProceduresOf_sameEdges g procedures⟩
  | addEdge offered =>
      cases he : offered.sensitiveEdge? with
      | some e =>
          exact .inr (.inl ⟨e, by simp [Change.offer?, he], by simp [Change.make, offer, he]⟩)
      | none =>
          refine .inr (.inr ⟨offered, .access (offered.lacks "source_context"),
            by simp [Change.offer?, he], ?_⟩)
          simp only [Change.make, offer, he, hg]
          rfl

theorem make_indexed (c : Change) (g : GraphIndex) (hg : Indexed g) :
    Indexed (c.make g).state := by
  rcases make_cases hg.frozen c with ⟨_, h⟩ | ⟨e, _, h⟩ | ⟨v, f, _, h⟩
  · exact hg.of_sameEdges h
  · rw [h]
    exact hg.added (addEdge_added hg.frozen e)
  · rw [h]
    have hedges : (g.list (.stray v)).edges = g.edges := by
      simp [edges, list, Offer.edge?]
    constructor
    · exact hg.frozen
    · rw [Outcome.fail_state, hedges]
      exact hg.outOfContext
    · rw [Outcome.fail_state, hedges]
      exact hg.outOfCallSite
    · rw [Outcome.fail_state, hedges]
      exact hg.intoContext

/-- Whatever is offered is listed, be it that the change fails. -/
theorem make_offers {g : GraphIndex} (hg : g.frozen = false) (c : Change) :
    (c.make g).state.offers = g.offers ++ c.offer?.toList := by
  rcases make_cases hg c with ⟨ho, ps, h⟩ | ⟨e, ho, h⟩ | ⟨v, f, ho, h⟩
  · simp [ho, h]
  · rw [h, (addEdge_added hg e).offers, ho]
    rfl
  · rw [h, ho]
    rfl

theorem stateAfter_offers {g : GraphIndex} (hg : Indexed g) (changes : List Change) :
    (Outcome.stateAfter Change.make g changes).offers =
      g.offers ++ changes.filterMap Change.offer? := by
  induction changes generalizing g with
  | nil => simp [Outcome.stateAfter]
  | cons c changes ih =>
      rw [Outcome.stateAfter, ih (make_indexed c g hg), make_offers hg.frozen]
      cases ho : c.offer? with
      | none => simp [ho]
      | some o => simp [ho]

/-- Everything listed is an edge whose call site can be a key. -/
def AllAddable (g : GraphIndex) : Prop :=
  ∀ o ∈ g.offers, ∃ e, o = .edge e ∧ e.callSite.hashable = true

theorem make_allAddable {g : GraphIndex} {c : Change} {u : Unit} (hg : g.frozen = false)
    (hall : AllAddable g) (hok : (c.make g).answer = .ok u) : AllAddable (c.make g).state := by
  intro o ho
  rw [make_offers hg] at ho
  rcases List.mem_append.mp ho with hold | hnew
  · exact hall o hold
  · rcases make_cases hg c with ⟨h, _⟩ | ⟨e, h, hmake⟩ | ⟨v, f, _, hmake⟩
    · simp [h] at hnew
    · rw [hmake] at hok
      rw [h, Option.toList_some, List.mem_singleton] at hnew
      exact ⟨e, hnew, (addEdge_eq_ok hok).2.callSite⟩
    · rw [hmake] at hok
      cases hok

theorem stateAfter_allAddable (changes : List Change)
    (hok : ∀ a ∈ Outcome.answers Change.make empty changes, a.isOk = true) :
    AllAddable (Outcome.stateAfter Change.make empty changes) := by
  refine (Outcome.stateAfter_invariant_of_ok (P := fun g => Indexed g ∧ AllAddable g)
    ?_ ⟨indexed_empty, ?_⟩ changes hok).2
  · intro c g u hg hanswer
    exact ⟨make_indexed c g hg.1, make_allAddable hg.1.frozen hg.2 hanswer⟩
  · intro o ho
    simp [empty] at ho

theorem AllAddable.offers_eq {g : GraphIndex} (hall : AllAddable g) :
    g.offers = g.edges.map .edge := by
  unfold AllAddable at hall
  unfold edges
  generalize g.offers = offers at hall
  induction offers with
  | nil => rfl
  | cons o os ih =>
      obtain ⟨⟨e, rfl, _⟩, hrest⟩ := List.forall_mem_cons.mp hall
      have hedge : (Offer.edge e).edge? = some e := rfl
      rw [List.filterMap_cons_some hedge, List.map_cons, ← ih hrest]

theorem AllAddable.callSite {g : GraphIndex} (hall : AllAddable g) {e : SensitiveEdge}
    (he : e ∈ g.edges) : e.callSite.hashable = true := by
  obtain ⟨o, ho, hoe⟩ := List.mem_filterMap.mp he
  obtain ⟨e', rfl, hsite⟩ := hall o ho
  cases hoe
  exact hsite

theorem Indexed.edgesOutOfContext {g : GraphIndex} (hg : Indexed g) {c : Value}
    (hc : c.hashable = true) :
    g.view.edgesOutOfContext c = .ok (g.edges.filter (·.sourceContext == c)) := by
  rw [SensitiveGraph.edgesOutOfContext, Value.key_of_hashable hc]
  exact congrArg Except.ok (hg.outOfContext hc)

theorem Indexed.edgesOutOfCallSite {g : GraphIndex} (hg : Indexed g) {c i : Value}
    (hc : c.hashable = true) (hi : i.hashable = true) :
    g.view.edgesOutOfCallSite c i =
      .ok (g.edges.filter fun e => e.sourceContext == c && e.instruction == i) := by
  have hsite : (Value.site c i).hashable = true := by
    rw [Value.hashable_site, hc, hi]
    rfl
  rw [SensitiveGraph.edgesOutOfCallSite, Value.key_of_hashable hsite]
  exact congrArg Except.ok (hg.outOfCallSite hsite)

theorem Indexed.edgesIntoContext {g : GraphIndex} (hg : Indexed g) {t : Value}
    (ht : t.hashable = true) :
    g.view.edgesIntoContext t =
      .ok ((g.edges.filter (·.callSite.hashable)).filter (·.targetContext == t)) := by
  rw [SensitiveGraph.edgesIntoContext, Value.key_of_hashable ht]
  exact congrArg Except.ok (hg.intoContext ht)

/-- A frozen graph answers by scanning its list: a key finds the edges that leave its context, those
that leave its call site and, of the edges whose call site can be a key, those that resume in its
context. The list is all that was offered. A run without failures offers edges only, and misses none
of them by target context either. -/
theorem frozen_indices_exact (changes : List Change) :
    ∃ graph, (Outcome.stateAfter Change.make empty changes).freeze.answer = .ok graph ∧
      graph.offers = changes.filterMap Change.offer? ∧
      (∀ c, c.hashable = true →
        graph.edgesOutOfContext c = .ok (graph.edges.filter (·.sourceContext == c))) ∧
      (∀ c i, c.hashable = true → i.hashable = true →
        graph.edgesOutOfCallSite c i =
          .ok (graph.edges.filter fun e => e.sourceContext == c && e.instruction == i)) ∧
      (∀ t, t.hashable = true →
        graph.edgesIntoContext t =
          .ok (graph.edges.filter fun e =>
            e.targetContext == t && (e.sourceContext.hashable && e.instruction.hashable))) ∧
      ((∀ a ∈ Outcome.answers Change.make empty changes, a.isOk = true) →
        graph.offers = graph.edges.map .edge ∧
        ∀ t, t.hashable = true →
          graph.edgesIntoContext t = .ok (graph.edges.filter (·.targetContext == t))) := by
  have hg : Indexed (Outcome.stateAfter Change.make empty changes) :=
    Outcome.stateAfter_invariant make_indexed indexed_empty changes
  have hoffers := stateAfter_offers indexed_empty changes
  have hall := stateAfter_allAddable changes
  generalize Outcome.stateAfter Change.make empty changes = g at hg hoffers hall
  refine ⟨g.view, by simp [freeze, hg.frozen], hoffers, fun c hc => hg.edgesOutOfContext hc,
    fun c i hc hi => hg.edgesOutOfCallSite hc hi, fun t ht => ?_, fun hok => ⟨?_, fun t ht => ?_⟩⟩
  · rw [hg.edgesIntoContext ht, List.filter_filter]
    simp only [SensitiveEdge.callSite, Value.hashable_site]
    rfl
  · exact (hall hok).offers_eq
  · rw [hg.edgesIntoContext ht, List.filter_eq_self.mpr fun e he => (hall hok).callSite he]
    rfl

/-- An edge from `a` to `b` at an instruction that cannot be a key. -/
def unkeyedEdge : SensitiveEdge where
  source := .text "a"
  sourceContext := .context (.text "a") .null
  instruction := .list []
  target := .text "b"
  targetContext := .context (.text "b") .null
  kind := .static

/-- After a failure the index by target context can miss a listed edge, which the index by source
context still finds. -/
theorem frozen_index_by_target_lags :
    ∃ graph, (Outcome.stateAfter Change.make empty [.addEdge unkeyedEdge.toValue]).freeze.answer =
        .ok graph ∧
      graph.edges = [unkeyedEdge] ∧
      graph.edgesOutOfContext (.context (.text "a") .null) = .ok [unkeyedEdge] ∧
      graph.edgesIntoContext (.context (.text "b") .null) = .ok [] := by
  obtain ⟨graph, hgraph, hoffers, hout, _, hinto, _⟩ :=
    frozen_indices_exact [.addEdge unkeyedEdge.toValue]
  have hedges : graph.edges = [unkeyedEdge] := by
    rw [SensitiveGraph.edges, hoffers]
    rfl
  refine ⟨graph, hgraph, hedges, ?_, ?_⟩
  · rw [hout _ rfl, hedges]
    rfl
  · rw [hinto _ rfl, hedges]
    rfl

end GraphIndex

end CallGraphs
