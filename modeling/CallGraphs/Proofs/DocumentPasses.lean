import CallGraphs.Proofs.ContextIdentity
import CallGraphs.Proofs.KindSpellings
import CallGraphs.Session
/-!
# Passes over documents

The table of an accepted document holds texts, instructions and declared contexts only, so all of it
can be keys, no absent value has to become a node, and whatever is reported of it can be put into
words. A pass over it fails in one way alone: a call is listed for a context without a procedure.
Contexts without a procedure that make no calls do not matter.
-/

namespace CallGraphs

/-- The context of every entry with targets has a procedure. -/
def Document.CallersKnown (d : Document) : Prop :=
  ∀ t ∈ d.transitions, t.targets ≠ [] → ∃ c ∈ d.contexts, c.id = t.context ∧ c.method ≠ none

instance (d : Document) : Decidable d.CallersKnown :=
  inferInstanceAs (Decidable (∀ t ∈ d.transitions, t.targets ≠ [] →
    ∃ c ∈ d.contexts, c.id = t.context ∧ c.method ≠ none))

/-- The first pair that is listed for a context without a procedure. -/
def Document.orphan? (d : Document) : Option ListedPair :=
  d.pairs.find? fun p => (d.callerOf p).isEmpty

/-- A call site whose targets are a mapping is usable if its calling context has a procedure. -/
theorem usable_mapping_iff {ctx node : Value} {items : List (Value × Value)} :
    Usable (.site ctx node, .mapping items) ↔ TransitionTable.callerOf (.site ctx node) ≠ [] := by
  have hcaller : TransitionTable.caller (.site ctx node) = ctx.getMethod := rfl
  constructor
  · rintro ⟨ctx', node', method, hsite, hmethod, hnull, _⟩
    cases hsite.context
    rw [TransitionTable.callerOf, hcaller, hmethod]
    simp [Value.isNull_eq_false hnull]
  · intro hsome
    unfold TransitionTable.callerOf at hsome
    rw [hcaller] at hsome
    cases hmethod : ctx.getMethod with
    | error fault => simp [hmethod] at hsome
    | ok method =>
        refine ⟨ctx, node, method, ⟨rfl, rfl⟩, hmethod, ?_, rfl⟩
        rintro rfl
        simp [hmethod, Value.isNull] at hsome

/-- A classifier that can report on every instruction of a document. -/
def Classifier.Reporting (classifier : Classifier) : Prop :=
  ∀ id kind, classifier.fault? (.instruction id kind) = none

theorem Classifier.reporting_standard (config : ClassifierConfig) :
    (ofConfig config .standard).Reporting := by
  intro id kind
  rw [fault?_eq_none_iff]
  intro stop hstop
  cases hstop with
  | unresolved hanswer _ => cases hanswer
  | unrecognized _ _ _ hstop =>
      have hforms : (Draft.ofText "Instruction " ++ (Value.instruction id kind).exact ++
          Draft.ofText " is not a recognized call").FormsWithin 5 :=
        ((Draft.formsWithin_ofText _ 5).append (Value.exact_instruction_forms id kind)).append
          (Draft.formsWithin_ofText _ 5)
      have hnone : (Event.unrecognized (.instruction id kind)).fault? = none :=
        hforms.fault?_eq_none (by decide)
      rw [hnone] at hstop
      cases hstop

namespace LoadedTable

theorem contextOf_eq (c : ContextEntry) :
    ∃ value, contextOf c = .context (.ofOption c.method) value ∧ value.Simple := by
  obtain ⟨id, method, value⟩ := c
  rcases value with _ | t | n
  · exact ⟨.text id, rfl, .text id⟩
  · exact ⟨.text t, rfl, .text t⟩
  · exact ⟨.int n.value, rfl, .int n⟩

theorem simple_ofOption (t : Option Text) : (Value.ofOption t).Simple := by
  cases t with
  | none => exact .null
  | some t => exact .text t

theorem plain_contextOf_forms (c : ContextEntry) : (contextOf c).plain.FormsWithin (3 + 2) := by
  obtain ⟨value, heq, hvalue⟩ := contextOf_eq c
  rw [heq]
  exact Value.plain_context_forms (simple_ofOption c.method) hvalue

/-- That a declared context has no procedure can be put into words. -/
theorem ofTableFault_noProcedure (c : ContextEntry) (node : Text) (kind : Option Text) :
    Failure.ofTableFault (.noProcedure (contextOf c) (.site (contextOf c) (.instruction node kind))) =
      .table (.noProcedure (contextOf c) (.site (contextOf c) (.instruction node kind))) := by
  have hcontext : (contextOf c).exact.FormsWithin (5 + 1) := by
    obtain ⟨value, heq, hvalue⟩ := contextOf_eq c
    rw [heq]
    exact Value.exact_context_forms (simple_ofOption c.method) hvalue
  have hsite : (Value.site (contextOf c) (.instruction node kind)).plain.FormsWithin (3 + 5) := by
    refine Draft.FormsWithin.within (fun room hroom => ?_) 3
    have hinstruction := (Value.plain_instruction_forms node kind).mono (by decide : 3 ≤ 5)
    simp [plain_contextOf_forms c room hroom, hinstruction room hroom]
  have hmessage : (TableFault.noProcedure (contextOf c)
      (.site (contextOf c) (.instruction node kind))).message.fault? = none := by
    simp [TableFault.message, Draft.fault?, hcontext Draft.maxCalls (by decide),
      hsite Draft.maxCalls (by decide)]
  rw [Failure.ofTableFault, hmessage]

section Reading

variable {d : Document} {l : LoadedTable}

/-- The procedures of a document's table are names. -/
theorem Reads.method_eq_text (h : Reads d.contexts (namesOnly d) d.transitions l)
    (hd : Consistent d.ids d.transitions) {method : Value} (hmethod : method ∈ l.table.methods) :
    ∃ name, method = .text name := by
  rw [h.records hd, TransitionTable.methods_enterAll] at hmethod
  rcases Distinct.mem_extend hmethod with hnamed | hlisted
  · obtain ⟨name, _, rfl⟩ := List.mem_map.mp (Distinct.mem_ofList hnamed)
    exact ⟨name, rfl⟩
  · obtain ⟨r, hr, hmem⟩ := List.mem_flatMap.mp hlisted
    obtain ⟨p, hp, rfl⟩ := List.mem_map.mp hr
    rw [(h.resolved hd hp).callerOf, List.mem_append] at hmem
    rcases hmem with hcaller | htarget
    · obtain ⟨name, _, rfl⟩ := List.mem_map.mp hcaller
      exact ⟨name, rfl⟩
    · exact ⟨p.target, List.mem_singleton.mp htarget⟩

/-- The call sites of a document's table are those of its pairs, each once. -/
theorem Reads.keys_eq_ofList (h : Reads d.contexts (namesOnly d) d.transitions l)
    (hd : Consistent d.ids d.transitions) :
    l.table.transitions.keys = Distinct.ofList (d.pairs.map fun p => (l.recordOf p).site) := by
  rw [h.records hd, TransitionTable.keys_enterAll, List.map_map]
  rfl

/-- An entry of a document's table is the call site of a pair, with its targets. -/
theorem Reads.entry_eq (h : Reads d.contexts (namesOnly d) d.transitions l)
    (hd : Consistent d.ids d.transitions) {entry : Value × Value}
    (hentry : entry ∈ l.table.toSource.transitions) :
    ∃ c node kind targets, entry =
        (.site (contextOf c) (.instruction node kind), .mapping (OrdMap.entries targets)) ∧
      (entry.1, targets) ∈ l.table.transitions.entries := by
  obtain ⟨⟨site, targets⟩, he, rfl⟩ := List.mem_map.mp hentry
  have hkey : site ∈ l.table.transitions.keys := List.mem_map_of_mem he
  rw [h.keys_eq_ofList hd] at hkey
  obtain ⟨p, hp, rfl⟩ := List.mem_map.mp (Distinct.mem_ofList hkey)
  obtain ⟨c, kind, _, _, _, hsite⟩ := (h.resolved hd hp).site
  rw [(h.resolved hd hp).site_eq] at hsite
  exact ⟨c, p.node, kind, targets, by rw [Option.some.inj hsite], he⟩

theorem Reads.regular (h : Reads d.contexts (namesOnly d) d.transitions l)
    (hd : Consistent d.ids d.transitions) : l.table.toSource.Regular where
  methods method hmethod := by
    obtain ⟨name, rfl⟩ := h.method_eq_text hd hmethod
    exact ⟨rfl, by simp⟩
  entries entry hentry := by
    obtain ⟨c, node, kind, targets, rfl, hmem⟩ := h.entry_eq hd hentry
    apply regular_site (contextOf_hashable c) rfl
    intro items hitems t ht
    cases hitems
    obtain ⟨p, hp, _, htarget, hctx⟩ := h.pair_of_lists hd ⟨targets, hmem, ht⟩
    have hname : (Value.text p.target).hashable = true := rfl
    refine ⟨Value.equivOn_hashable.closed hname htarget, ?_, ?_⟩
    · intro hnull
      rw [hnull] at htarget
      cases htarget
    · obtain ⟨c', hc'⟩ := (h.resolved hd hp).context
      rw [(h.resolved hd hp).context_eq] at hc'
      rw [← hctx, Option.some.inj hc']
      exact contextOf_hashable c'

/-- Pairs with equal call sites have the same caller. -/
theorem Reads.callerOf_congr (h : Reads d.contexts (namesOnly d) d.transitions l)
    (hd : Consistent d.ids d.transitions) {p q : ListedPair} (hp : p ∈ d.pairs) (hq : q ∈ d.pairs)
    (hsites : ((l.recordOf p).site == (l.recordOf q).site) = true) :
    d.callerOf p = d.callerOf q := by
  obtain ⟨c, kind, hfind, _, _, hsite⟩ := (h.resolved hd hp).site
  obtain ⟨c', kind', hfind', _, _, hsite'⟩ := (h.resolved hd hq).site
  rw [(h.resolved hd hp).site_eq] at hsite
  rw [(h.resolved hd hq).site_eq] at hsite'
  rw [Option.some.inj hsite, Option.some.inj hsite'] at hsites
  have hcontexts : (contextOf c == contextOf c') = true := (Bool.and_eq_true_iff.mp hsites).1
  have hmethods : c.method = c'.method :=
    congrArg Prod.fst (contextOf_beq_iff.mp hcontexts)
  simp [Document.callerOf, hfind, hfind', hmethods]

/-- The first call site of the table without a caller is that of the first such pair. -/
theorem Reads.find?_keys (h : Reads d.contexts (namesOnly d) d.transitions l)
    (hd : Consistent d.ids d.transitions) :
    l.table.transitions.keys.find? (fun site => (TransitionTable.callerOf site).isEmpty) =
      d.orphan?.map fun p => (l.recordOf p).site := by
  have hcallers : ∀ p ∈ d.pairs,
      (TransitionTable.callerOf (l.recordOf p).site).isEmpty = (d.callerOf p).isEmpty := by
    intro p hp
    rw [(h.resolved hd hp).callerOf]
  rw [h.keys_eq_ofList hd, Distinct.find?_ofList, List.find?_map]
  · rw [Document.orphan?, ← List.head?_filter, ← List.head?_filter]
    exact congrArg (fun ps => Option.map _ (List.head? ps)) (List.filter_congr hcallers)
  · intro site hsite site' hsite' hequal
    obtain ⟨p, hp, rfl⟩ := List.mem_map.mp hsite
    obtain ⟨q, hq, rfl⟩ := List.mem_map.mp hsite'
    rw [hcallers p hp, hcallers q hq, h.callerOf_congr hd hp hq hequal]

/-- The edges of a document's table can be reported. -/
theorem Reads.reaches (h : Reads d.contexts (namesOnly d) d.transitions l)
    (hd : Consistent d.ids d.transitions) {entry : Value × Value}
    (hentry : entry ∈ l.table.toSource.transitions) {classifier : Classifier} {c : Caller}
    (hcalls : CallsFrom classifier entry.1 c) {items : List (Value × Value)}
    (hitems : entry.2.items? = some items) : ∀ t ∈ items, Reaches c t := by
  intro t ht
  refine ⟨((h.regular hd).entries entry hentry).contexts hitems t ht, ?_⟩
  obtain ⟨c₀, node, kind, targets, rfl, hmem⟩ := h.entry_eq hd hentry
  cases hitems
  obtain ⟨p, hp, _, htarget, hctx⟩ := h.pair_of_lists hd ⟨targets, hmem, ht⟩
  obtain ⟨c', hc'⟩ := (h.resolved hd hp).context
  rw [(h.resolved hd hp).context_eq] at hc'
  obtain ⟨source, context, instruction, callKind⟩ := c
  obtain ⟨⟨hcontext, hnode⟩, hmethod, _, _⟩ := hcalls
  cases hcontext
  cases hnode
  have hsource : source = .ofOption c₀.method := (Except.ok.inj hmethod).symm
  refine SensitiveEdge.fault?_added ?_ (plain_contextOf_forms c₀) ?_
    (Value.plain_forms_of_beq_text htarget) ?_ (by decide)
  · rw [Caller.edge, hsource]
    exact (simple_ofOption c₀.method).plain_forms.mono (by decide)
  · exact (Value.plain_instruction_forms node kind).mono (by decide)
  · rw [Caller.edge, ← hctx, Option.some.inj hc']
    exact plain_contextOf_forms c'

/-- An entry of a document's table passes if its call site has a caller. -/
theorem Reads.passes_iff (h : Reads d.contexts (namesOnly d) d.transitions l)
    (hd : Consistent d.ids d.transitions) {classifier : Classifier}
    (hreports : classifier.Reporting) {entry : Value × Value}
    (hentry : entry ∈ l.table.toSource.transitions) :
    Passes classifier entry ↔ (TransitionTable.callerOf entry.1).isEmpty = false := by
  obtain ⟨c, node, kind, targets, rfl, _⟩ := h.entry_eq hd hentry
  rw [List.isEmpty_eq_false_iff, ← usable_mapping_iff]
  refine ⟨Passes.usable, ?_⟩
  rintro ⟨ctx, node', method, hsite, hmethod, hnull, _⟩
  cases hsite.node
  have hcalls : CallsFrom classifier (.site (contextOf c) (.instruction node kind))
      ⟨method, ctx, .instruction node kind, classifier.kind (.instruction node kind)⟩ :=
    ⟨hsite, hmethod, hnull, rfl⟩
  exact ⟨_, _, hcalls, hreports node kind, rfl, h.reaches hd hentry hcalls rfl⟩

/-- Nothing else can be wrong with an entry of a document's table than that its calling context has
no procedure. -/
theorem Reads.offends_eq (h : Reads d.contexts (namesOnly d) d.transitions l)
    (hd : Consistent d.ids d.transitions) {classifier : Classifier}
    (hreports : classifier.Reporting) {c : ContextEntry} {node : Text} {kind : Option Text}
    {items : List (Value × Value)}
    (hentry : (.site (contextOf c) (.instruction node kind), .mapping items) ∈
      l.table.toSource.transitions)
    {f : Failure}
    (hoffends : Offends classifier
      (.site (contextOf c) (.instruction node kind), .mapping items) f) :
    TransitionTable.callerOf (.site (contextOf c) (.instruction node kind)) = [] ∧
      f = .table (.noProcedure (contextOf c) (.site (contextOf c) (.instruction node kind))) := by
  cases hoffends with
  | undecomposable hnone => exact absurd ⟨rfl, rfl⟩ (hnone _ _)
  | untold hsite _ hfault =>
      cases hsite.context
      cases hfault
  | noProcedure hsite hmethod =>
      cases hsite.context
      refine ⟨?_, ofTableFault_noProcedure c node kind⟩
      rcases hmethod with hnone | hnull
      · cases hnone
      · have hcaller : TransitionTable.caller (.site (contextOf c) (.instruction node kind)) =
            .ok .null := hnull
        rw [TransitionTable.callerOf, hcaller]
        rfl
  | unclassified hcalls hstop =>
      have hnode := Except.ok.inj hcalls.decomposes.node
      rw [← hnode, hreports node kind] at hstop
      cases hstop
  | targetsNotMapping _ _ hnone => cases hnone
  | @target _ _ _ before after t _ hcalls _ htargets _ hmisses =>
      obtain ⟨hkey, hformed⟩ := h.reaches hd hentry hcalls htargets t (by simp)
      cases hmisses with
      | unhashable hu =>
          rw [Value.hashable, hu] at hkey
          cases hkey
      | unformed _ hstop =>
          rw [hformed] at hstop
          cases hstop

/-- A pass over a document's table hands out graphs if every pair has a caller, and otherwise fails
at the call site of the first pair that has none. -/
theorem Reads.pass_cases (h : Reads d.contexts (namesOnly d) d.transitions l)
    (hd : Consistent d.ids d.transitions) {classifier : Classifier}
    (hreports : classifier.Reporting) :
    (d.orphan? = none ∧ ∃ graphs, (transform classifier l.table.toSource).1 = .ok graphs) ∨
      ∃ p ctx node, d.orphan? = some p ∧ l.site? p = some (.site ctx node) ∧
        (transform classifier l.table.toSource).1 =
          .error (.table (.noProcedure ctx (.site ctx node))) := by
  have hkeys : l.table.transitions.keys = l.table.toSource.transitions.map Prod.fst := by
    rw [TransitionTable.toSource, List.map_map]
    rfl
  have hfirst := h.find?_keys hd
  have hregular := h.regular hd
  obtain ⟨hreturns, hfails⟩ := transform_of_prepared classifier hregular.methods
    fun entry hentry => (hregular.entries entry hentry).toPrepared
  rcases pass_or_stops classifier l.table.toSource.transitions with hall | ⟨f, hstops⟩
  · have hnone : l.table.transitions.keys.find?
        (fun site => (TransitionTable.callerOf site).isEmpty) = none := by
      rw [hkeys, List.find?_eq_none]
      intro site hsite
      obtain ⟨entry, hentry, rfl⟩ := List.mem_map.mp hsite
      rw [(h.passes_iff hd hreports hentry).mp (hall entry hentry)]
      exact Bool.false_ne_true
    rw [hnone] at hfirst
    exact .inl ⟨Option.map_eq_none_iff.mp hfirst.symm, hreturns.mpr hall⟩
  · obtain ⟨before, entry, after, hsplit, hbefore, hoffends⟩ := hstops.split
    have hmem : entry ∈ l.table.toSource.transitions := by
      rw [hsplit]
      exact List.mem_append_right before List.mem_cons_self
    obtain ⟨c, node, kind, targets, rfl, _⟩ := h.entry_eq hd hmem
    obtain ⟨hnone, hf⟩ := h.offends_eq hd hreports hmem hoffends
    have hsome : l.table.transitions.keys.find?
        (fun site => (TransitionTable.callerOf site).isEmpty) =
          some (.site (contextOf c) (.instruction node kind)) := by
      rw [hkeys, hsplit, List.find?_eq_some_iff_append]
      refine ⟨by rw [hnone]; rfl, before.map Prod.fst, after.map Prod.fst, ?_, ?_⟩
      · rw [List.map_append, List.map_cons]
      · intro site hsite
        obtain ⟨e, he, rfl⟩ := List.mem_map.mp hsite
        have hemem : e ∈ l.table.toSource.transitions := by
          rw [hsplit]
          exact List.mem_append_left _ he
        rw [(h.passes_iff hd hreports hemem).mp (hbefore e he)]
        rfl
    rw [hsome] at hfirst
    obtain ⟨p, hp, hsite⟩ := Option.map_eq_some_iff.mp hfirst.symm
    refine .inr ⟨p, contextOf c, .instruction node kind, hp, ?_, ?_⟩
    · have hpair : p ∈ d.pairs := List.mem_of_find?_eq_some hp
      rw [(h.resolved hd hpair).site_eq, hsite]
    · rw [(hfails f).mpr hstops, hf]

/-- Every pair has a caller if the context of every entry with targets has a procedure. -/
theorem callersKnown_iff (hnodup : d.ids.Nodup) : d.CallersKnown ↔ d.orphan? = none := by
  rw [Document.orphan?, List.find?_eq_none]
  constructor
  · intro hknown p hp
    obtain ⟨t, ht, hpt⟩ := List.mem_flatMap.mp hp
    obtain ⟨x, hx, rfl⟩ := List.mem_map.mp hpt
    obtain ⟨c, hc, hid, hmethod⟩ := hknown t ht (List.ne_nil_of_mem hx)
    have hfind := find?_id_of_mem hnodup hc
    rw [hid] at hfind
    simp [Document.callerOf, hfind, hmethod]
  · intro hcallers t ht htargets
    obtain ⟨x, hx⟩ := List.exists_mem_of_ne_nil _ htargets
    have hpair : (⟨t.context, t.node, x.1, x.2⟩ : ListedPair) ∈ d.pairs :=
      List.mem_flatMap.mpr ⟨t, ht, List.mem_map_of_mem hx⟩
    have hcaller := hcallers _ hpair
    cases hfind : d.contexts.find? (·.id == t.context) with
    | none => simp [Document.callerOf, hfind] at hcaller
    | some c =>
        refine ⟨c, List.mem_of_find?_eq_some hfind, by simpa using List.find?_some hfind, ?_⟩
        simpa [Document.callerOf, hfind] using hcaller

end Reading

/-- Whatever the configuration and the session, building graphs from accepted data succeeds exactly
if the context of every entry with targets has a procedure. Otherwise it fails with a fault of the
table, at the call site of the first pair that is listed for a context without one. -/
theorem parse_build_isOk_iff {j : Json} {l : LoadedTable} (h : parse j = .ok l) (config : Config)
    (s : Session) :
    ∃ d, Document.ofJson j = .ok d ∧
      ((∃ graphs, (s.build (.ofConfig config.classifier .standard) l.table.toSource).2.answer =
          .ok graphs) ↔ d.CallersKnown) ∧
      (¬d.CallersKnown → ∃ p ctx node, d.orphan? = some p ∧ l.site? p = some (.site ctx node) ∧
        (s.build (.ofConfig config.classifier .standard) l.table.toSource).2.answer =
          .error (.table (.noProcedure ctx (.site ctx node)))) := by
  obtain ⟨d, hj, hnodup, hd, hreads⟩ := parse_reads h
  refine ⟨d, hj, ?_⟩
  have hanswer : (s.build (.ofConfig config.classifier .standard) l.table.toSource).2.answer =
      (transform (.ofConfig config.classifier .standard) l.table.toSource).1 := rfl
  rw [hanswer, callersKnown_iff hnodup]
  rcases hreads.pass_cases hd (Classifier.reporting_standard config.classifier) with ⟨hnone, hok⟩ |
    ⟨p, ctx, node, hp, hsite, hfails⟩
  · exact ⟨⟨fun _ => hnone, fun _ => hok⟩, fun hsome => absurd hnone hsome⟩
  · refine ⟨⟨?_, ?_⟩, fun _ => ⟨p, ctx, node, hp, hsite, hfails⟩⟩
    · rintro ⟨graphs, hok⟩
      rw [hok] at hfails
      cases hfails
    · intro hnone
      rw [hnone] at hp
      cases hp

/-- A context without a procedure is a target, and has an entry without targets. -/
def silentJson : Json := .object
  [("contexts", .array
     [.object [("id", .text "a"), ("method", .text "main")], .object [("id", .text "b")]]),
   ("transitions", .array
     [.object [("context", .text "b"), ("node", .text "m")],
      .object [("context", .text "a"), ("node", .text "n"),
        ("targets", .object [("helper", .text "b")])]])]

def silentDocument : Document where
  methods := []
  contexts := [⟨"a", some "main", none⟩, ⟨"b", none, none⟩]
  transitions := [⟨"b", "m", none, []⟩, ⟨"a", "n", none, [("helper", "b")]⟩]

/-- The same, but the context without a procedure makes a call after another one. -/
def orphanedJson : Json := .object
  [("contexts", .array
     [.object [("id", .text "a"), ("method", .text "main")], .object [("id", .text "b")]]),
   ("transitions", .array
     [.object [("context", .text "a"), ("node", .text "n"),
        ("targets", .object [("helper", .text "b")])],
      .object [("context", .text "b"), ("node", .text "m"),
        ("targets", .object [("main", .text "a")])]])]

def orphanedDocument : Document where
  methods := []
  contexts := [⟨"a", some "main", none⟩, ⟨"b", none, none⟩]
  transitions := [⟨"a", "n", none, [("helper", "b")]⟩, ⟨"b", "m", none, [("main", "a")]⟩]

/-- What building graphs comes to in a new session under the default configuration. -/
def plainBuild (l : LoadedTable) : Except Failure Graphs :=
  ((Session.start staticClassifier true).build (.ofConfig (Config.default "").classifier .standard)
    l.table.toSource).2.answer

theorem parse_build_isOk_iff_silent_and_orphaned :
    (∃ l graphs, parse silentJson = .ok l ∧ Document.ofJson silentJson = .ok silentDocument ∧
      silentDocument.CallersKnown ∧ plainBuild l = .ok graphs) ∧
    ∃ l, parse orphanedJson = .ok l ∧ Document.ofJson orphanedJson = .ok orphanedDocument ∧
      ¬orphanedDocument.CallersKnown ∧ ∃ p ctx node, orphanedDocument.orphan? = some p ∧
        p.context = "b" ∧ l.site? p = some (.site ctx node) ∧
        plainBuild l = .error (.table (.noProcedure ctx (.site ctx node))) := by
  constructor
  · have hparse : parse silentJson = .ok _ := rfl
    have hdocument : Document.ofJson silentJson = .ok silentDocument := rfl
    obtain ⟨d, hd, hok, _⟩ :=
      parse_build_isOk_iff hparse (.default "") (.start staticClassifier true)
    cases hd.symm.trans hdocument
    have hknown : silentDocument.CallersKnown := by decide
    obtain ⟨graphs, hgraphs⟩ := hok.mpr hknown
    exact ⟨_, graphs, hparse, hdocument, hknown, hgraphs⟩
  · have hparse : parse orphanedJson = .ok _ := rfl
    have hdocument : Document.ofJson orphanedJson = .ok orphanedDocument := rfl
    obtain ⟨d, hd, _, hfails⟩ :=
      parse_build_isOk_iff hparse (.default "") (.start staticClassifier true)
    cases hd.symm.trans hdocument
    have hunknown : ¬orphanedDocument.CallersKnown := by decide
    obtain ⟨p, ctx, node, hp, hsite, hfault⟩ := hfails hunknown
    have hfirst : orphanedDocument.orphan? = some ⟨"b", "m", "main", "a"⟩ := rfl
    have hcontext : p.context = "b" := by
      cases hp.symm.trans hfirst
      rfl
    exact ⟨_, hparse, hdocument, hunknown, p, ctx, node, hp, hcontext, hsite, hfault⟩

end LoadedTable

end CallGraphs
