import CallGraphs.Proofs.LastWriter
import CallGraphs.Proofs.TableQueries
import Mathlib.Data.List.Nodup
/-!
# What tells contexts apart

Contexts of a document have ids, but once it is read, a context is what its procedure and its value
make it. Ids tell contexts apart, and no listed pair is lost, exactly where these two do not bring
together what the ids keep separate.
-/

namespace CallGraphs

/-- What a declared context is told apart by: its procedure and its value, which is its id unless
another is given. -/
def ContextEntry.identity (c : ContextEntry) : Option Text × (Text ⊕ Whole) :=
  (c.method, c.value.getD (.inl c.id))

/-- The identity of the context that is declared under an id. -/
def Document.identityOf? (d : Document) (id : Text) : Option (Option Text × (Text ⊕ Whole)) :=
  (d.contexts.find? (·.id == id)).map ContextEntry.identity

/-- Two pairs of one call, as far as what they say goes: of one node and one target, in contexts of
one identity. -/
structure Document.SameCall (d : Document) (p q : ListedPair) : Prop where
  node : p.node = q.node
  target : p.target = q.target
  context : d.identityOf? p.context = d.identityOf? q.context

theorem Value.beq_ofOption (m m' : Option Text) :
    (Value.ofOption m == Value.ofOption m') = true ↔ m = m' := by
  cases m with
  | none => cases m' <;> simp [ofOption, BEq.beq, same, sameScalar, scalar?]
  | some t =>
      cases m' with
      | none => simp [ofOption, BEq.beq, same, sameScalar, scalar?]
      | some t' => simp [ofOption, beq_text]

theorem Value.beq_int (n n' : Whole) :
    (Value.int n.value == Value.int n'.value) = true ↔ n = n' := by
  obtain ⟨n, _⟩ := n
  obtain ⟨n', _⟩ := n'
  change ((Scalar.number (.ofInt n) == Scalar.number (.ofInt n')) = true) ↔ _
  simp [Dyadic.ofInt]

namespace LoadedTable

/-- The context that an identity makes. -/
def contextFor : Option Text × (Text ⊕ Whole) → Value
  | (method, .inl t) => .context (.ofOption method) (.text t)
  | (method, .inr n) => .context (.ofOption method) (.int n.value)

theorem contextOf_eq_contextFor (c : ContextEntry) : contextOf c = contextFor c.identity := by
  obtain ⟨id, method, value⟩ := c
  rcases value with _ | _ | _ <;> rfl

/-- Declared contexts are equal when they have the same identity. -/
theorem contextOf_beq_iff {c c' : ContextEntry} :
    (contextOf c == contextOf c') = true ↔ c.identity = c'.identity := by
  rw [contextOf_eq_contextFor, contextOf_eq_contextFor]
  obtain ⟨m, v⟩ := c.identity
  obtain ⟨m', v'⟩ := c'.identity
  have hcontext : ∀ a b : Value, (Value.context (.ofOption m) a == .context (.ofOption m') b) =
      (Value.ofOption m == .ofOption m' && a == b) := fun _ _ => rfl
  cases v with
  | inl t =>
      cases v' with
      | inl t' => simp [contextFor, hcontext, Value.beq_ofOption, Value.beq_text]
      | inr n' =>
          have hne : (Value.text t == Value.int n'.value) = false := rfl
          simp [contextFor, hcontext, hne]
  | inr n =>
      cases v' with
      | inl t' =>
          have hne : (Value.int n.value == Value.text t') = false := rfl
          simp [contextFor, hcontext, hne]
      | inr n' => simp [contextFor, hcontext, Value.beq_ofOption, Value.beq_int]

section Reading

variable {d : Document} {base : TransitionTable} {l : LoadedTable}

theorem Reads.context_eq (h : Reads d.contexts base d.transitions l) {id : Text} {ctx : Value}
    (hctx : l.contexts.get? id = some ctx) :
    ∃ c, d.contexts.find? (·.id == id) = some c ∧ c.id = id ∧ ctx = contextOf c := by
  rw [h.contexts, get?_contextMap] at hctx
  obtain ⟨c, hc, rfl⟩ := Option.map_eq_some_iff.mp hctx
  exact ⟨c, hc, by simpa using List.find?_some hc, rfl⟩

theorem Reads.hashable_context (h : Reads d.contexts base d.transitions l) {id : Text}
    {ctx : Value} (hctx : l.contexts.get? id = some ctx) : ctx.hashable = true := by
  obtain ⟨c, _, _, rfl⟩ := h.context_eq hctx
  exact contextOf_hashable c

/-- The contexts of two ids are equal when the ids are declared with the same identity. -/
theorem Reads.beq_iff (h : Reads d.contexts base d.transitions l) {id id' : Text}
    {ctx ctx' : Value} (hctx : l.contexts.get? id = some ctx)
    (hctx' : l.contexts.get? id' = some ctx') :
    (ctx == ctx') = true ↔ d.identityOf? id = d.identityOf? id' := by
  obtain ⟨c, hc, _, rfl⟩ := h.context_eq hctx
  obtain ⟨c', hc', _, rfl⟩ := h.context_eq hctx'
  rw [contextOf_beq_iff, Document.identityOf?, Document.identityOf?, hc, hc']
  simp

/-- The entry of a declared context is found by its id if no id is declared twice. -/
theorem find?_id_of_mem {cs : List ContextEntry} (hcs : (cs.map ContextEntry.id).Nodup)
    {c : ContextEntry} (hc : c ∈ cs) : cs.find? (·.id == c.id) = some c := by
  obtain ⟨c₀, hfind, _, _⟩ := get?_contextMap_of_mem (List.mem_map_of_mem hc)
  have hid : c₀.id = c.id := by simpa using List.find?_some hfind
  rw [hfind, List.inj_on_of_nodup_map hcs (List.mem_of_find?_eq_some hfind) hc hid]

theorem Reads.get?_of_mem (h : Reads d.contexts base d.transitions l) (hnodup : d.ids.Nodup)
    {c : ContextEntry} (hc : c ∈ d.contexts) : l.contexts.get? c.id = some (contextOf c) := by
  rw [h.contexts, get?_contextMap, find?_id_of_mem hnodup hc]
  rfl

/-- An edge comes from a listed pair: it leaves the call site of the pair, for the target of the
pair, and resumes in the context that the pair gives for the target. -/
structure ComesFrom (l : LoadedTable) (e : SensitiveEdge) (p : ListedPair) : Prop where
  site : ∃ site, l.site? p = some site ∧ (site == e.callSite) = true
  target : (Value.text p.target == e.target) = true
  context : l.contexts.get? p.targetContext = some e.targetContext

theorem ComesFrom.sourceContext {l : LoadedTable} {e : SensitiveEdge} {p : ListedPair}
    (h : l.ComesFrom e p) :
    ∃ ctx, l.contexts.get? p.context = some ctx ∧ (ctx == e.sourceContext) = true := by
  obtain ⟨site, hsite, hequal⟩ := h.site
  unfold site? at hsite
  cases hctx : l.contexts.get? p.context with
  | none => simp [hctx] at hsite
  | some ctx =>
      cases hnode : l.instructions.get? p.node with
      | none => simp [hctx, hnode] at hsite
      | some instruction =>
          obtain rfl : Value.site ctx instruction = site := by simpa [hctx, hnode] using hsite
          exact ⟨ctx, rfl, (Bool.and_eq_true_iff.mp hequal).1⟩

/-- What the table lists for a call site comes from a pair. -/
theorem Reads.pair_of_lists (h : Reads d.contexts (namesOnly d) d.transitions l)
    (hd : Consistent d.ids d.transitions) {site target ctx : Value}
    (hlists : l.table.Lists site target ctx) :
    ∃ p ∈ d.pairs, ((l.recordOf p).site == site) = true ∧
      (Value.text p.target == target) = true ∧ (l.recordOf p).context = ctx := by
  rw [h.records hd] at hlists
  rcases TransitionTable.lists_enterAll (h.hashable_records hd) hlists with hnone |
    ⟨r, hr, hsite, htarget, hctx⟩
  · obtain ⟨_, hnone, _⟩ := hnone
    cases hnone
  · obtain ⟨p, hp, rfl⟩ := List.mem_map.mp hr
    exact ⟨p, hp, hsite, htarget, hctx⟩

/-- Every edge of the graph of a document comes from one of its pairs. -/
theorem Reads.comesFrom (h : Reads d.contexts (namesOnly d) d.transitions l)
    (hd : Consistent d.ids d.transitions) {classifier : Classifier} {graphs : Graphs}
    {es : List SensitiveEdge}
    (hbuilt : Built classifier l.table.toSource graphs es) {e : SensitiveEdge} (he : e ∈ es) :
    ∃ p ∈ d.pairs, l.ComesFrom e p := by
  have hlists := TransitionTable.lists_of_mem hbuilt.tabulated.pairs he
  obtain ⟨p, hp, hsite, htarget, hctx⟩ := h.pair_of_lists hd hlists
  have hresolved := h.resolved hd hp
  exact ⟨p, hp, ⟨_, hresolved.site_eq, hsite⟩, htarget, hresolved.context_eq.trans (by rw [hctx])⟩

/-- The edges that leave the context of an id come from pairs whose calling context has the same
identity. -/
theorem Reads.edgesOutOfContext (h : Reads d.contexts (namesOnly d) d.transitions l)
    (hd : Consistent d.ids d.transitions) {classifier : Classifier} {graphs : Graphs}
    (hok : (transform classifier l.table.toSource).1 = .ok graphs) {id : Text} {ctx : Value}
    (hctx : l.contexts.get? id = some ctx) :
    ∃ es, graphs.contextGraph.edgesOutOfContext ctx = .ok es ∧
      ∀ e ∈ es, ∃ p ∈ d.pairs, d.identityOf? p.context = d.identityOf? id ∧ l.ComesFrom e p := by
  obtain ⟨es, hbuilt⟩ := transform_built hok
  refine ⟨es.filter (·.sourceContext == ctx), ?_, fun e he => ?_⟩
  · rw [hbuilt.edgesOutOfContext, Value.key_map_of_hashable (h.hashable_context hctx)]
  · obtain ⟨hmem, hleaves⟩ := List.mem_filter.mp he
    obtain ⟨p, hp, hcomes⟩ := h.comesFrom hd hbuilt hmem
    obtain ⟨ctx', hctx', hequal⟩ := hcomes.sourceContext
    refine ⟨p, hp, ?_, hcomes⟩
    rw [← h.beq_iff hctx' hctx]
    exact Value.equivOn_hashable.trans (h.hashable_context hctx') hequal hleaves

/-- Ids tell contexts apart: different ids stand for unequal contexts, and the edges that leave the
context of an id come from pairs that the document lists under that id. -/
structure ToldApartById (d : Document) (l : LoadedTable) : Prop where
  unequal {id id' : Text} {ctx ctx' : Value} (hne : id ≠ id')
    (hctx : l.contexts.get? id = some ctx) (hctx' : l.contexts.get? id' = some ctx') :
    (ctx == ctx') = false
  edges {classifier : Classifier} {graphs : Graphs}
    (hok : (transform classifier l.table.toSource).1 = .ok graphs) {id : Text} {ctx : Value}
    (hctx : l.contexts.get? id = some ctx) :
    ∃ es, graphs.contextGraph.edgesOutOfContext ctx = .ok es ∧
      ∀ e ∈ es, ∃ p ∈ d.pairs, p.context = id ∧ l.ComesFrom e p

/-- Where no identity is declared twice, equal contexts have the same id. -/
theorem Reads.id_eq (h : Reads d.contexts base d.transitions l)
    (hidentities : (d.contexts.map ContextEntry.identity).Nodup) {id id' : Text}
    {ctx ctx' : Value} (hctx : l.contexts.get? id = some ctx)
    (hctx' : l.contexts.get? id' = some ctx') (hequal : (ctx == ctx') = true) : id = id' := by
  obtain ⟨c, hfind, hid, rfl⟩ := h.context_eq hctx
  obtain ⟨c', hfind', hid', rfl⟩ := h.context_eq hctx'
  have hsame : c = c' := List.inj_on_of_nodup_map hidentities (List.mem_of_find?_eq_some hfind)
    (List.mem_of_find?_eq_some hfind') (contextOf_beq_iff.mp hequal)
  rw [← hid, ← hid', hsame]

theorem Reads.toldApartById_iff (hnodup : d.ids.Nodup)
    (h : Reads d.contexts (namesOnly d) d.transitions l)
    (hd : Consistent d.ids d.transitions) :
    ToldApartById d l ↔ (d.contexts.map ContextEntry.identity).Nodup := by
  constructor
  · intro hapart
    have hids : d.contexts.Pairwise fun c c' => c.id ≠ c'.id := List.pairwise_map.mp hnodup
    refine List.pairwise_map.mpr (hids.imp_of_mem fun {c c'} hc hc' hne hidentity => ?_)
    have hfalse := hapart.unequal hne (h.get?_of_mem hnodup hc) (h.get?_of_mem hnodup hc')
    rw [contextOf_beq_iff.mpr hidentity] at hfalse
    cases hfalse
  · intro hidentities
    constructor
    case unequal =>
      intro id id' ctx ctx' hne hctx hctx'
      rw [Bool.eq_false_iff]
      exact fun hequal => hne (h.id_eq hidentities hctx hctx' hequal)
    case edges =>
      intro classifier graphs hok id ctx hctx
      obtain ⟨es, hes, hall⟩ := h.edgesOutOfContext hd hok hctx
      refine ⟨es, hes, fun e he => ?_⟩
      obtain ⟨p, hp, hsame, hcomes⟩ := hall e he
      obtain ⟨ctx', hctx', _⟩ := hcomes.sourceContext
      have hequal : (ctx' == ctx) = true := (h.beq_iff hctx' hctx).mpr hsame
      exact ⟨p, hp, h.id_eq hidentities hctx' hctx hequal, hcomes⟩

/-- The context of an id is made from the identity with which the id is declared. -/
theorem Reads.get?_contexts (h : Reads d.contexts base d.transitions l) (id : Text) :
    l.contexts.get? id = (d.identityOf? id).map contextFor := by
  rw [h.contexts, get?_contextMap, Document.identityOf?, Option.map_map]
  exact congrArg (Option.map · _) (funext contextOf_eq_contextFor)

/-- Pairs of one call have one call site. -/
theorem Reads.site?_eq (h : Reads d.contexts base d.transitions l) {p q : ListedPair}
    (hpq : d.SameCall p q) : l.site? p = l.site? q := by
  rw [site?, site?, h.get?_contexts, h.get?_contexts, hpq.context, hpq.node]

/-- What is found for a pair is what a pair of the same call and target says, maybe another one. -/
theorem Reads.lookup_pair (h : Reads d.contexts (namesOnly d) d.transitions l)
    (hd : Consistent d.ids d.transitions) {p : ListedPair} (hp : p ∈ d.pairs) :
    ∃ site found, l.site? p = some site ∧ l.table.getTargets site = .ok found ∧
      ∃ q ∈ d.pairs, d.SameCall p q ∧
        found.lookup (.text p.target) = l.contexts.get? q.targetContext := by
  obtain ⟨c, kind, _, hctx, hnode, hsite⟩ := (h.resolved hd hp).site
  refine ⟨_, _, hsite, h.getTargets hctx hnode, ?_⟩
  have hlookup := h.get?_targetsAt hd hnode (contextOf c) p.target
  have hmem : p ∈ d.pairs.filter fun q =>
      q.target == p.target && l.isCallAt (contextOf c) p.node q := by
    have hself := Value.equivOn_hashable.refl (contextOf_hashable c)
    refine List.mem_filter.mpr ⟨hp, ?_⟩
    simp [isCallAt, hctx, hself]
  cases hlast : (d.pairs.filter fun q =>
      q.target == p.target && l.isCallAt (contextOf c) p.node q).getLast? with
  | none =>
      rw [List.getLast?_eq_none_iff.mp hlast] at hmem
      cases hmem
  | some q =>
      rw [hlast, Option.bind_some] at hlookup
      obtain ⟨hq, hcall⟩ := List.mem_filter.mp (List.mem_of_getLast? hlast)
      simp only [isCallAt, Bool.and_eq_true, beq_iff_eq, Option.any_eq_true] at hcall
      obtain ⟨htarget, hnode', ctx', hctx', hequal⟩ := hcall
      exact ⟨q, hq, ⟨hnode'.symm, htarget.symm, (h.beq_iff hctx hctx').mp hequal⟩, hlookup⟩

end Reading

/-- Ids tell the contexts of accepted data apart exactly if no two of them are declared with one
procedure and one value. In any case the edges that leave the context of an id come from pairs whose
calling context has that procedure and that value, under whatever id. -/
theorem parse_ids_tell_contexts_apart_iff {j : Json} {l : LoadedTable} (h : parse j = .ok l) :
    ∃ d, Document.ofJson j = .ok d ∧
      (ToldApartById d l ↔ (d.contexts.map ContextEntry.identity).Nodup) ∧
      ∀ classifier graphs, (transform classifier l.table.toSource).1 = .ok graphs →
        ∀ id ctx, l.contexts.get? id = some ctx →
          ∃ es, graphs.contextGraph.edgesOutOfContext ctx = .ok es ∧
            ∀ e ∈ es, ∃ p ∈ d.pairs, d.identityOf? p.context = d.identityOf? id ∧
              l.ComesFrom e p := by
  obtain ⟨d, hj, hnodup, hd, hreads⟩ := parse_reads h
  refine ⟨d, hj, hreads.toldApartById_iff hnodup hd, fun classifier graphs hok id ctx hctx => ?_⟩
  exact hreads.edgesOutOfContext hd hok hctx

/-- The value of each of two contexts is the id of the other, and a number and its digits are values
of one procedure. -/
def crossedJson : Json := .object
  [("contexts", .array
     [.object [("id", .text "a"), ("method", .text "main"), ("value", .text "b")],
      .object [("id", .text "b"), ("method", .text "main"), ("value", .text "a")],
      .object [("id", .text "c"), ("method", .text "main"), ("value", .int .one)],
      .object [("id", .text "1"), ("method", .text "main")]]),
   ("transitions", .array
     [.object [("context", .text "a"), ("node", .text "n"),
        ("targets", .object [("main", .text "b")])]])]

def crossedDocument : Document where
  methods := []
  contexts := [⟨"a", some "main", some (.inl "b")⟩, ⟨"b", some "main", some (.inl "a")⟩,
    ⟨"c", some "main", some (.inr .one)⟩, ⟨"1", some "main", none⟩]
  transitions := [⟨"a", "n", none, [("main", "b")]⟩]

theorem parse_ids_tell_contexts_apart_crossed :
    ∃ l, parse crossedJson = .ok l ∧ Document.ofJson crossedJson = .ok crossedDocument ∧
      (crossedDocument.contexts.map ContextEntry.identity).Nodup ∧
      ToldApartById crossedDocument l := by
  have hparse : parse crossedJson = .ok _ := rfl
  have hdocument : Document.ofJson crossedJson = .ok crossedDocument := rfl
  obtain ⟨d, hd, hapart, _⟩ := parse_ids_tell_contexts_apart_iff hparse
  cases hd.symm.trans hdocument
  have hidentities : (crossedDocument.contexts.map ContextEntry.identity).Nodup := by decide
  exact ⟨_, hparse, hdocument, hidentities, hapart.mpr hidentities⟩

/-- Two ids are declared with one procedure and one value, and the second of them makes a call. -/
def mergedJson : Json := .object
  [("contexts", .array
     [.object [("id", .text "a"), ("method", .text "main"), ("value", .int .one)],
      .object [("id", .text "b"), ("method", .text "main"), ("value", .int .one)],
      .object [("id", .text "c"), ("method", .text "helper")]]),
   ("transitions", .array
     [.object [("context", .text "b"), ("node", .text "n"), ("kind", .text "static"),
        ("targets", .object [("helper", .text "c")])]])]

def mergedDocument : Document where
  methods := []
  contexts := [⟨"a", some "main", some (.inr .one)⟩, ⟨"b", some "main", some (.inr .one)⟩,
    ⟨"c", some "helper", none⟩]
  transitions := [⟨"b", "n", some "static", [("helper", "c")]⟩]

def merged : LoadedTable where
  table :=
    { methods := [.text "main", .text "helper"]
      transitions := ⟨[(.site (.context (.text "main") (.int 1)) (.instruction "n" (some "static")),
        ⟨[(.text "helper", .context (.text "helper") (.text "c"))]⟩)]⟩ }
  contexts := ⟨[("a", .context (.text "main") (.int 1)), ("b", .context (.text "main") (.int 1)),
    ("c", .context (.text "helper") (.text "c"))]⟩
  instructions := ⟨[("n", .instruction "n" (some "static"))]⟩

/-- The first id has no call of its own, yet an edge leaves its context. -/
theorem merged_ids_not_told_apart :
    Document.ofJson mergedJson = .ok mergedDocument ∧ parse mergedJson = .ok merged ∧
      (∀ p ∈ mergedDocument.pairs, p.context ≠ "a") ∧ ¬ToldApartById mergedDocument merged ∧
      ∃ graphs ctx e, (transform staticClassifier merged.table.toSource).1 = .ok graphs ∧
        merged.contexts.get? "a" = some ctx ∧ merged.contexts.get? "b" = some ctx ∧
        graphs.contextGraph.edgesOutOfContext ctx = .ok [e] := by
  have hapart : ¬ToldApartById mergedDocument merged := by
    intro hbyId
    have hne : ("a" : Text) ≠ "b" := by decide
    cases hbyId.unequal hne rfl rfl
  have hok : (transform staticClassifier merged.table.toSource).1 = .ok _ := rfl
  exact ⟨rfl, rfl, by decide, hapart, _, _, _, hok, rfl, rfl, rfl⟩

/-- No listed pair is lost: the targets of its call site have its target, with the context that the
pair gives for it. -/
def KeepsPairs (d : Document) (l : LoadedTable) : Prop :=
  ∀ p ∈ d.pairs, ∃ site found ctx ctx', l.site? p = some site ∧
    l.table.getTargets site = .ok found ∧ found.lookup (.text p.target) = some ctx ∧
    l.contexts.get? p.targetContext = some ctx' ∧ (ctx == ctx') = true

/-- No listed pair of accepted data is lost exactly if pairs of one call give contexts of one
identity for their target. Data in which they do not is accepted all the same. -/
theorem parse_keeps_pairs_iff {j : Json} {l : LoadedTable} (h : parse j = .ok l) :
    ∃ d, Document.ofJson j = .ok d ∧
      (KeepsPairs d l ↔ ∀ p ∈ d.pairs, ∀ q ∈ d.pairs, d.SameCall p q →
        d.identityOf? p.targetContext = d.identityOf? q.targetContext) := by
  obtain ⟨d, hj, _, hd, hreads⟩ := parse_reads h
  refine ⟨d, hj, fun hkeeps p hp q hq hpq => ?_, fun hagree p hp => ?_⟩
  · obtain ⟨site, found, ctx, ctx', hsite, hfound, hlookup, hctx', hequal⟩ := hkeeps p hp
    obtain ⟨site', found', ctx₂, ctx₂', hsite', hfound', hlookup', hctx₂', hequal₂⟩ := hkeeps q hq
    -- Both pairs are looked up at one call site, so one context is found for both.
    rw [hreads.site?_eq hpq, hsite'] at hsite
    cases hsite
    rw [hfound'] at hfound
    cases hfound
    rw [hpq.target, hlookup'] at hlookup
    cases hlookup
    have hkey := hreads.hashable_context hctx'
    have hequal₁ : (ctx' == ctx) = true := (Value.equivOn_hashable.comm hkey ctx).trans hequal
    exact (hreads.beq_iff hctx' hctx₂').mp (Value.equivOn_hashable.trans hkey hequal₁ hequal₂)
  · obtain ⟨site, found, hsite, hfound, q, hq, hpq, hlookup⟩ := hreads.lookup_pair hd hp
    have hctx := (hreads.resolved hd hq).context_eq
    have hctx' := (hreads.resolved hd hp).context_eq
    refine ⟨site, found, _, _, hsite, hfound, hlookup.trans hctx, hctx', ?_⟩
    exact (hreads.beq_iff hctx hctx').mpr (hagree p hp q hq hpq).symm

/-- A target is listed twice for one call, under two ids of one procedure and one value. -/
def agreeingJson : Json := .object
  [("contexts", .array
     [.object [("id", .text "a"), ("method", .text "main")],
      .object [("id", .text "b"), ("method", .text "helper"), ("value", .int .one)],
      .object [("id", .text "c"), ("method", .text "helper"), ("value", .int .one)]]),
   ("transitions", .array
     [.object [("context", .text "a"), ("node", .text "n"),
        ("targets", .object [("helper", .text "b"), ("main", .text "a")])],
      .object [("context", .text "a"), ("node", .text "n"),
        ("targets", .object [("helper", .text "c")])]])]

def agreeingDocument : Document where
  methods := []
  contexts := [⟨"a", some "main", none⟩, ⟨"b", some "helper", some (.inr .one)⟩,
    ⟨"c", some "helper", some (.inr .one)⟩]
  transitions := [⟨"a", "n", none, [("helper", "b"), ("main", "a")]⟩,
    ⟨"a", "n", none, [("helper", "c")]⟩]

theorem parse_keeps_pairs_agreeing :
    ∃ l, parse agreeingJson = .ok l ∧ Document.ofJson agreeingJson = .ok agreeingDocument ∧
      agreeingDocument.pairs.length = 3 ∧ KeepsPairs agreeingDocument l := by
  have hparse : parse agreeingJson = .ok _ := rfl
  have hdocument : Document.ofJson agreeingJson = .ok agreeingDocument := rfl
  obtain ⟨d, hd, hkeeps⟩ := parse_keeps_pairs_iff hparse
  cases hd.symm.trans hdocument
  have hcontexts : ∀ p ∈ agreeingDocument.pairs, agreeingDocument.identityOf? p.targetContext =
      agreeingDocument.identityOf? (if p.target = "helper" then "b" else "a") := by
    decide
  refine ⟨_, hparse, hdocument, rfl, hkeeps.mpr fun p hp q hq hpq => ?_⟩
  rw [hcontexts p hp, hcontexts q hq, hpq.target]

/-- One call gives its target two contexts. -/
def overriddenJson : Json := .object
  [("contexts", .array
     [.object [("id", .text "a"), ("method", .text "main")],
      .object [("id", .text "b"), ("method", .text "helper")],
      .object [("id", .text "c"), ("method", .text "helper")]]),
   ("transitions", .array
     [.object [("context", .text "a"), ("node", .text "n"),
        ("targets", .object [("helper", .text "b")])],
      .object [("context", .text "a"), ("node", .text "n"),
        ("targets", .object [("helper", .text "c")])]])]

def overriddenDocument : Document where
  methods := []
  contexts := [⟨"a", some "main", none⟩, ⟨"b", some "helper", none⟩, ⟨"c", some "helper", none⟩]
  transitions := [⟨"a", "n", none, [("helper", "b")]⟩, ⟨"a", "n", none, [("helper", "c")]⟩]

def overridden : LoadedTable where
  table :=
    { methods := [.text "main", .text "helper"]
      transitions := ⟨[(.site (.context (.text "main") (.text "a")) (.instruction "n" none),
        ⟨[(.text "helper", .context (.text "helper") (.text "c"))]⟩)]⟩ }
  contexts := ⟨[("a", .context (.text "main") (.text "a")),
    ("b", .context (.text "helper") (.text "b")), ("c", .context (.text "helper") (.text "c"))]⟩
  instructions := ⟨[("n", .instruction "n" none)]⟩

/-- The data is accepted, and the first of the two pairs is lost. -/
theorem overridden_pair_lost :
    Document.ofJson overriddenJson = .ok overriddenDocument ∧
      parse overriddenJson = .ok overridden ∧ ¬KeepsPairs overriddenDocument overridden := by
  refine ⟨rfl, rfl, fun hkeeps => ?_⟩
  obtain ⟨site, found, ctx, ctx', hsite, hfound, hlookup, hctx', hequal⟩ :=
    hkeeps ⟨"a", "n", "helper", "b"⟩ List.mem_cons_self
  cases hsite
  cases hfound
  cases hlookup
  cases hctx'
  cases hequal

end LoadedTable

end CallGraphs
