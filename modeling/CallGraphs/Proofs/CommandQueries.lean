import CallGraphs.Proofs.LoadFailures
import CallGraphs.Proofs.PassSuccess
import CallGraphs.Proofs.ShownTables
/-!
# The queries of the command line

Three queries are answered from three places: the edges of a context from an index by context, those
of a node in it from an index by call site, and the calls of a procedure from the other graph. For a
document they agree, since a node name stands for one instruction, an edge leaves the procedure of
its calling context, and equal edges without contexts are the same.
-/

namespace CallGraphs

namespace Distinct

variable {α : Type} [BEq α] {P : α → Prop}

/-- Where equal values are the same, collecting values loses none. -/
theorem mem_ofList_iff (h : EquivOn P) {xs : List α} (hxs : ∀ x ∈ xs, P x)
    (hsame : ∀ x ∈ xs, ∀ y ∈ xs, (x == y) = true → x = y) {x : α} : x ∈ ofList xs ↔ x ∈ xs := by
  constructor
  · exact mem_ofList
  · intro hx
    have hany : (ofList xs).any (x == ·) = true := by
      rw [sameMembers_ofList h hxs]
      exact any_self h (hxs x hx) hx
    obtain ⟨y, hy, heq⟩ := List.any_eq_true.mp hany
    rw [hsame x hx y (mem_ofList hy) heq]
    exact hy

end Distinct

/-- The calls out of a procedure are those of the edges that leave it, without their contexts, each
once, where it first occurs. -/
theorem edgesOutOf_eq_eraseDups {classifier : Classifier} {source : Source} {graphs : Graphs}
    (h : (transform classifier source).1 = .ok graphs) {p : Value} (hp : p.hashable = true) :
    graphs.callGraph.edgesOutOf p =
      .ok ((graphs.contextGraph.edges.filter (·.source == p)).map
        SensitiveEdge.toInsensitive).eraseDups := by
  obtain ⟨es, hbuilt⟩ := transform_built h
  have hsources : ∀ x ∈ es.map SensitiveEdge.toInsensitive,
      ∀ y ∈ es.map SensitiveEdge.toInsensitive,
        (x == y) = true → (x.source == p) = (y.source == p) := by
    intro x hx y _ heq
    exact Value.equivOn_hashable.congr_left (hbuilt.keyed x hx).source
      (InsensitiveEdge.beq_iff.mp heq).1 p
  rw [InsensitiveGraph.edgesOutOf, Value.key_map_of_hashable hp, (transform_stored h).outOf hp,
    hbuilt.callEdges, hbuilt.edges, Distinct.filter_ofList hsources,
    Distinct.ofList_eq_eraseDups, List.filter_map]
  rfl

/-- The id of an instruction. -/
def Value.instructionId? : Value → Option Text
  | .instruction id _ => some id
  | _ => none

namespace LoadedTable

/-- What an edge of a document's graph is made of: a declared context and its procedure, the
instruction that a node name stands for, the name of a target, and a context of the target. -/
structure MadeFrom (d : Document) (l : LoadedTable) (e : SensitiveEdge) : Prop where
  caller : ∃ c ∈ d.contexts, ∃ name, c.method = some name ∧ e.sourceContext = contextOf c ∧
    e.source = .text name
  node : ∃ name kind, l.instructions.get? name = some (.instruction name kind) ∧
    e.instruction = .instruction name kind
  target : ∃ name, e.target = .text name
  callee : ∃ c, e.targetContext = contextOf c

section Reading

variable {d : Document} {l : LoadedTable} {classifier : Classifier} {graphs : Graphs}
  {es : List SensitiveEdge}

/-- The targets that a document's table lists are names. -/
theorem Reads.target_eq_text (h : Reads d.contexts (namesOnly d) d.transitions l)
    (hd : Consistent d.ids d.transitions) {site target ctx : Value}
    (hlists : l.table.Lists site target ctx) : ∃ name, target = .text name := by
  obtain ⟨targets, hentry, hmem⟩ := hlists
  rw [h.records hd] at hentry
  have htarget : target ∈ targets.keys := List.mem_map_of_mem hmem
  rcases TransitionTable.target_mem_enterAll (fun r hr => (h.hashable_records hd r hr).1) hentry
    htarget with ⟨_, hnone, _⟩ | ⟨r, hr, rfl⟩
  · cases hnone
  · obtain ⟨p, _, rfl⟩ := List.mem_map.mp hr
    exact ⟨p.target, rfl⟩

theorem Reads.madeFrom (h : Reads d.contexts (namesOnly d) d.transitions l)
    (hd : Consistent d.ids d.transitions)
    (hok : (transform classifier l.table.toSource).1 = .ok graphs)
    (hbuilt : Built classifier l.table.toSource graphs es) {e : SensitiveEdge} (he : e ∈ es) :
    MadeFrom d l e := by
  have hlists := TransitionTable.lists_of_mem hbuilt.tabulated.pairs he
  -- The call site is that of a pair, as it is stored.
  have hsite : ∃ p ∈ d.pairs, e.callSite = (l.recordOf p).site := by
    obtain ⟨targets, hentry, _⟩ := hlists
    have hkey : e.callSite ∈ l.table.transitions.keys := List.mem_map_of_mem hentry
    rw [h.keys_eq_ofList hd] at hkey
    obtain ⟨p, hp, heq⟩ := List.mem_map.mp (Distinct.mem_ofList hkey)
    exact ⟨p, hp, heq.symm⟩
  obtain ⟨p, hp, hcallSite⟩ := hsite
  obtain ⟨c, kind, hfind, _, hnode, hsite⟩ := (h.resolved hd hp).site
  rw [(h.resolved hd hp).site_eq, ← hcallSite] at hsite
  obtain ⟨hcontext, hinstruction⟩ := Value.site.inj (Option.some.inj hsite)
  have hsource : e.source = .ofOption c.method := by
    rw [hbuilt.tabulated.eq_recordedEdges] at he
    obtain ⟨pair, _, hedge⟩ := mem_recordedEdges.mp he
    have hmethod := getMethod_of_recordedEdge hedge
    rw [hcontext] at hmethod
    exact (Except.ok.inj hmethod).symm
  have hnull : e.source ≠ .null := by
    have hend : e.source ∈ endpoints es := List.mem_flatMap.mpr ⟨e, he, List.mem_cons_self⟩
    exact ne_null_of_transform hok hbuilt e.source (List.mem_append_right _ hend)
  have hcallee : ∃ c', e.targetContext = contextOf c' := by
    obtain ⟨p', hp', _, _, hctx⟩ := h.pair_of_lists hd hlists
    obtain ⟨c', hc'⟩ := (h.resolved hd hp').context
    rw [(h.resolved hd hp').context_eq] at hc'
    exact ⟨c', hctx.symm.trans (Option.some.inj hc')⟩
  refine ⟨⟨c, List.mem_of_find?_eq_some hfind, ?_⟩, ⟨p.node, kind, hnode, hinstruction⟩,
    h.target_eq_text hd hlists, hcallee⟩
  cases hmethod : c.method with
  | none =>
      rw [hsource, hmethod] at hnull
      exact absurd rfl hnull
  | some name =>
      rw [hmethod] at hsource
      exact ⟨name, rfl, hcontext, hsource⟩

/-- Every part of an edge of a document has a text. -/
theorem MadeFrom.legible {e : SensitiveEdge} (h : MadeFrom d l e) : e.Legible := by
  obtain ⟨c, _, source, _, hcontext, hsource⟩ := h.caller
  obtain ⟨name, kind, _, hinstruction⟩ := h.node
  obtain ⟨target, htarget⟩ := h.target
  obtain ⟨c', htargetContext⟩ := h.callee
  simp only [SensitiveEdge.Legible, SensitiveEdge.parts, hsource, hcontext, hinstruction, htarget,
    htargetContext, List.forall_mem_cons]
  exact ⟨rfl, (plain_contextOf_forms c).formed_eq (by decide),
    (Value.plain_instruction_forms name kind).formed_eq (by decide), rfl,
    (plain_contextOf_forms c').formed_eq (by decide), by simp⟩

/-- Edges of a document that are equal without their contexts are the same without them. -/
theorem MadeFrom.toInsensitive_eq {e e' : SensitiveEdge} (h : MadeFrom d l e)
    (h' : MadeFrom d l e') (heq : (e.toInsensitive == e'.toInsensitive) = true) :
    e.toInsensitive = e'.toInsensitive := by
  obtain ⟨_, _, source, _, _, hsource⟩ := h.caller
  obtain ⟨_, _, source', _, _, hsource'⟩ := h'.caller
  obtain ⟨name, kind, _, hinstruction⟩ := h.node
  obtain ⟨name', kind', _, hinstruction'⟩ := h'.node
  obtain ⟨target, htarget⟩ := h.target
  obtain ⟨target', htarget'⟩ := h'.target
  obtain ⟨hsources, hinstructions, htargets, hkinds⟩ := InsensitiveEdge.beq_iff.mp heq
  simp only [SensitiveEdge.toInsensitive, hsource, hsource', hinstruction, hinstruction', htarget,
    htarget'] at hsources hinstructions htargets hkinds ⊢
  rw [Value.beq_text, beq_iff_eq] at hsources htargets
  obtain ⟨hnames, hinvoked⟩ := Value.beq_instruction.mp hinstructions
  rw [hsources, hnames, hinvoked, htargets, hkinds]

/-- The instruction that a node name stands for is the one with that id. -/
theorem MadeFrom.beq_instruction {e : SensitiveEdge} (h : MadeFrom d l e) {node : Text}
    {kind : Option Text} (hnode : l.instructions.get? node = some (.instruction node kind)) :
    (e.instruction == .instruction node kind) = (e.instruction.instructionId? == some node) := by
  obtain ⟨name, kind', hname, hinstruction⟩ := h.node
  rw [hinstruction, Bool.eq_iff_iff, Value.beq_instruction, Value.instructionId?, beq_iff_eq,
    Option.some.injEq]
  constructor
  · exact And.left
  · intro heq
    rw [heq, hnode] at hname
    cases hname
    exact ⟨heq, rfl⟩

/-- The edges of a context are those that leave it. -/
theorem Reads.contextEdges_eq (h : Reads d.contexts (namesOnly d) d.transitions l)
    (hbuilt : Built classifier l.table.toSource graphs es) {id : Text} {ctx : Value}
    (hctx : l.contexts.get? id = some ctx) :
    (CommandLine.Setting.contextEdges l graphs.contextGraph id ctx none false).1 =
      .ok (es.filter (·.sourceContext == ctx)) := by
  change graphs.contextGraph.edgesOutOfContext ctx = _
  rw [hbuilt.edgesOutOfContext, Value.key_map_of_hashable (h.hashable_context hctx)]

/-- Those of a node in it are the ones with that instruction, also if there is no such node. -/
theorem Reads.contextEdges_node (h : Reads d.contexts (namesOnly d) d.transitions l)
    (hbuilt : Built classifier l.table.toSource graphs es) (hes : ∀ e ∈ es, MadeFrom d l e)
    {id : Text} {ctx : Value} (hctx : l.contexts.get? id = some ctx) (node : Text) :
    (CommandLine.Setting.contextEdges l graphs.contextGraph id ctx (some node) false).1 =
      .ok ((es.filter (·.sourceContext == ctx)).filter
        (·.instruction.instructionId? == some node)) := by
  simp only [CommandLine.Setting.contextEdges, Bool.false_eq_true, ↓reduceIte]
  cases hnode : l.instructions.get? node with
  | none =>
      have hnone : (es.filter (·.sourceContext == ctx)).filter
          (·.instruction.instructionId? == some node) = [] := by
        apply List.filter_eq_nil_iff.mpr
        intro e he hid
        obtain ⟨name, kind, hname, hinstruction⟩ := (hes e (List.mem_of_mem_filter he)).node
        rw [hinstruction, Value.instructionId?, beq_iff_eq, Option.some.injEq] at hid
        rw [hid, hnode] at hname
        cases hname
      rw [hnone]
  | some instruction =>
      obtain ⟨kind, rfl⟩ := h.instruction_eq hnode
      have hsite : (Value.site ctx (.instruction node kind)).hashable = true := by
        rw [Value.hashable_site, h.hashable_context hctx]
        rfl
      have hcalls : es.filter (·.callSite == .site ctx (.instruction node kind)) =
          (es.filter (·.sourceContext == ctx)).filter
            (·.instruction.instructionId? == some node) := by
        rw [List.filter_filter]
        apply List.filter_congr
        intro e he
        rw [← (hes e he).beq_instruction hnode, SensitiveEdge.callSite, Value.beq_site,
          Bool.and_comm]
      change graphs.contextGraph.edgesOutOfCallSite ctx (.instruction node kind) = _
      rw [hbuilt.edgesOutOfCallSite, Value.key_map_of_hashable hsite, hcalls]

/-- The procedure that an edge leaves is that of every declared context that equals its own. -/
theorem MadeFrom.source_eq {e : SensitiveEdge} (h : MadeFrom d l e) {c : ContextEntry}
    (hc : (e.sourceContext == contextOf c) = true) {name : Text} :
    (e.source == .text name) = true ↔ c.method = some name := by
  obtain ⟨c', _, name', hname', hcontext, hsource⟩ := h.caller
  rw [hcontext] at hc
  have hmethods : c'.method = c.method := congrArg Prod.fst (contextOf_beq_iff.mp hc)
  rw [← hmethods, hname', hsource, Value.beq_text, beq_iff_eq, Option.some.injEq]

/-- The calls of a procedure are those of the declared contexts of that procedure. -/
theorem mem_callees_iff (hbuilt : Built classifier l.table.toSource graphs es)
    (hes : ∀ e ∈ es, MadeFrom d l e) {procedure : Text} {e : InsensitiveEdge} :
    e ∈ ((es.filter (·.source == .text procedure)).map SensitiveEdge.toInsensitive).eraseDups ↔
      ∃ c ∈ d.contexts, c.method = some procedure ∧
        ∃ x ∈ es.filter (·.sourceContext == contextOf c), x.toInsensitive = e := by
  have hkeyed : ∀ x ∈ (es.filter (·.source == .text procedure)).map
      SensitiveEdge.toInsensitive, x.Keyed := by
    intro x hx
    obtain ⟨x, hmem, rfl⟩ := List.mem_map.mp hx
    exact hbuilt.keyed _ (List.mem_map_of_mem (List.mem_of_mem_filter hmem))
  have hsame : ∀ x ∈ (es.filter (·.source == .text procedure)).map SensitiveEdge.toInsensitive,
      ∀ y ∈ (es.filter (·.source == .text procedure)).map SensitiveEdge.toInsensitive,
        (x == y) = true → x = y := by
    intro x hx y hy
    obtain ⟨x, hmem, rfl⟩ := List.mem_map.mp hx
    obtain ⟨y, hmem', rfl⟩ := List.mem_map.mp hy
    exact (hes x (List.mem_of_mem_filter hmem)).toInsensitive_eq
      (hes y (List.mem_of_mem_filter hmem'))
  rw [← Distinct.ofList_eq_eraseDups,
    Distinct.mem_ofList_iff InsensitiveEdge.equivOn_keyed hkeyed hsame, List.mem_map]
  constructor
  · rintro ⟨x, hmem, rfl⟩
    obtain ⟨hx, hsource⟩ := List.mem_filter.mp hmem
    obtain ⟨c, hc, _, _, hcontext, _⟩ := (hes x hx).caller
    have hself : (x.sourceContext == contextOf c) = true := by
      rw [hcontext]
      exact Value.equivOn_hashable.refl (contextOf_hashable c)
    exact ⟨c, hc, ((hes x hx).source_eq hself).mp hsource, x, List.mem_filter.mpr ⟨hx, hself⟩, rfl⟩
  · rintro ⟨c, _, hmethod, x, hx, rfl⟩
    obtain ⟨hmem, hleaves⟩ := List.mem_filter.mp hx
    have hsource := ((hes x hmem).source_eq hleaves).mpr hmethod
    exact ⟨x, List.mem_filter.mpr ⟨hmem, hsource⟩, rfl⟩

end Reading

end LoadedTable

namespace CommandLine.Setting

/-- A reply that lists what was found: it tells how much, and shows a table with a row for each, or
it says that there is nothing. A text that cannot be shown ends the run in its place. -/
inductive Lists {ε : Type} (s : Setting) (events : List Event) (none title : Text)
    (columns : List (String × String)) (row : ε → List Report.Cell) : List ε → Reply → Prop
  | nothing : Lists s events none title columns row []
      (.saying s.tree (s.logged events) 0 "" [Report.message s.width .warning none])
  | found {found : List ε} (h : found ≠ []) : Lists s events none title columns row found
      (.saying s.tree (s.logged events) 0 ""
        [Report.message s.width .info ("Found " ++ toString found.length ++ " edge(s)"),
         Report.table s.width title (columns.map fun c => Report.column c.1) [found.map row]])

/-- A reply that lists edges of a context. -/
abbrev ListsEdges (s : Setting) (events : List Event) (id title : Text) :
    List SensitiveEdge → Reply → Prop :=
  s.Lists events ("No edges found for '" ++ id ++ "'") title Report.sensitiveColumns
    Report.sensitiveRow

/-- A reply that lists calls out of a procedure. -/
abbrev ListsCallees (s : Setting) (events : List Event) (procedure : Text) :
    List InsensitiveEdge → Reply → Prop :=
  s.Lists events ("No callees found for '" ++ procedure ++ "'") ("Calls from " ++ procedure)
    Report.insensitiveColumns Report.insensitiveRow

/-- The edges that leave the context of an id. -/
def edgesOut (loaded : LoadedTable) (graphs : Graphs) (id : Text) : List SensitiveEdge :=
  (loaded.contexts.get? id).elim [] fun ctx =>
    graphs.contextGraph.edges.filter (·.sourceContext == ctx)

/-- The edges that leave a procedure, without their contexts, each once, where it first occurs. -/
def callsOut (graphs : Graphs) (procedure : Text) : List InsensitiveEdge :=
  ((graphs.contextGraph.edges.filter (·.source == .text procedure)).map
    SensitiveEdge.toInsensitive).eraseDups

theorem lists_showFound {ε : Type} (s : Setting) (events : List Event) (none title : Text)
    {columns : List (String × String)} {row : ε → List Report.Cell} {found : List ε}
    {table : List ε → Report.Shown}
    (htable : table found =
      Report.table s.width title (columns.map fun c => Report.column c.1) [found.map row]) :
    s.Lists events none title columns row found (s.showFound events (.ok found) none table) := by
  cases found with
  | nil => exact .nothing
  | cons e found =>
      rw [showFound, htable]
      · exact .found (List.cons_ne_nil e found)
      · exact List.cons_ne_nil e found

/-- A query lists what the index of the graphs gives for the context of an id. -/
theorem lists_edges {s : Setting} {file : String} {path : Option String} {loaded : LoadedTable}
    {graphs : Graphs} {events : List Event}
    (hbuild : s.build file path = (.ok (loaded, graphs), events)) {id : Text} {ctx : Value}
    (hctx : loaded.contexts.get? id = some ctx) {node : Option Text} {into : Bool} {title : Text}
    {found : List SensitiveEdge}
    (hfound : contextEdges loaded graphs.contextGraph id ctx node into = (.ok found, title))
    (hlegible : ∀ e ∈ found, e.Legible) :
    s.ListsEdges events id title found (s.edges file id node into path) := by
  rw [edges, withGraphs, hbuild]
  simp only [hctx, hfound]
  exact s.lists_showFound events _ title (Report.sensitiveEdges_eq hlegible s.width title)

/-- For a file whose table has graphs, the queries of the command line agree. What is listed for a
declared context are the edges that leave it. What is listed for a node in it are those of them at
the instruction of this name, whether there is such a node or not. What is listed for a procedure
are the edges that leave it, without their contexts, each once, where it first occurs: so just those
that are listed, with their contexts, for some declared context of the procedure. -/
theorem queries_agree {s : Setting} {file : String} {path : Option String} {loaded : LoadedTable}
    {graphs : Graphs} {events : List Event}
    (hbuild : s.build file path = (.ok (loaded, graphs), events)) :
    ∃ cs j d, s.tree.readText (Path.ofText file) = .ok cs ∧ Json.read cs = .ok j ∧
      LoadedTable.parse j = .ok loaded ∧ Document.ofJson j = .ok d ∧
      (∀ id ∈ d.ids, (∃ ctx, loaded.contexts.get? id = some ctx) ∧
        s.ListsEdges events id ("Edges out of " ++ id) (edgesOut loaded graphs id)
          (s.edges file id none false path) ∧
        ∀ node : Text, s.ListsEdges events id ("Edges out of " ++ id ++ " at " ++ node)
          ((edgesOut loaded graphs id).filter (·.instruction.instructionId? == some node))
          (s.edges file id (some node) false path)) ∧
      ∀ procedure : Text,
        s.ListsCallees events procedure (callsOut graphs procedure)
          (s.callees file procedure path) ∧
        ∀ e, e ∈ callsOut graphs procedure ↔ ∃ c ∈ d.contexts, c.method = some procedure ∧
          ∃ x ∈ edgesOut loaded graphs c.id, x.toInsensitive = e := by
  obtain ⟨config, hload, hok⟩ := build_eq_ok hbuild
  obtain ⟨cs, j, hcs, hj, hparse⟩ := LoadedTable.load_eq_ok hload
  obtain ⟨d, hdocument, hnodup, hd, hreads⟩ := LoadedTable.parse_reads hparse
  obtain ⟨es, hbuilt⟩ := transform_built hok
  have hes : ∀ e ∈ es, LoadedTable.MadeFrom d loaded e :=
    fun e he => hreads.madeFrom hd hok hbuilt he
  have hout {id : Text} {ctx : Value} (hctx : loaded.contexts.get? id = some ctx) :
      edgesOut loaded graphs id = es.filter (·.sourceContext == ctx) := by
    rw [edgesOut, hctx, hbuilt.edges]
    rfl
  refine ⟨cs, j, d, hcs, hj, hparse, hdocument, ?_, ?_⟩
  · intro id hid
    obtain ⟨c, _, _, hctx⟩ := LoadedTable.get?_contextMap_of_mem hid
    rw [← hreads.contexts] at hctx
    rw [hout hctx]
    refine ⟨⟨_, hctx⟩, ?_, fun node => ?_⟩
    · exact lists_edges hbuild hctx (Prod.ext (hreads.contextEdges_eq hbuilt hctx) rfl)
        fun e he => (hes e (List.mem_of_mem_filter he)).legible
    · exact lists_edges hbuild hctx (Prod.ext (hreads.contextEdges_node hbuilt hes hctx node) rfl)
        fun e he => (hes e (List.mem_of_mem_filter (List.mem_of_mem_filter he))).legible
  · intro procedure
    constructor
    · have hcalls : graphs.callGraph.edgesOutOf (.text procedure) =
          .ok (callsOut graphs procedure) := edgesOutOf_eq_eraseDups hok rfl
      have hlegible : ∀ e ∈ callsOut graphs procedure, ∃ e' : SensitiveEdge,
          e'.Legible ∧ e = e'.toInsensitive := by
        intro e he
        rw [callsOut, ← Distinct.ofList_eq_eraseDups, hbuilt.edges] at he
        obtain ⟨e', he', rfl⟩ := List.mem_map.mp (Distinct.mem_ofList he)
        exact ⟨e', (hes e' (List.mem_of_mem_filter he')).legible, rfl⟩
      rw [callees, withGraphs, hbuild]
      simp only [hcalls]
      exact s.lists_showFound events _ _ (Report.insensitiveEdges_eq hlegible s.width _)
    · intro e
      rw [callsOut, hbuilt.edges, LoadedTable.mem_callees_iff hbuilt hes]
      refine exists_congr fun c => and_congr_right fun hc => ?_
      rw [hout (hreads.get?_of_mem hnodup hc)]

/-- Two ids of one context, and another context of its procedure with a call at the same node. -/
def sharedNodeText : List Char :=
  ["\x7b\"contexts\": [\x7b\"id\": \"a\", \"method\": \"main\"\x7d, ",
   "\x7b\"id\": \"b\", \"method\": \"main\", \"value\": 1\x7d, ",
   "\x7b\"id\": \"c\", \"method\": \"main\", \"value\": \"a\"\x7d], ",
   "\"transitions\": [",
   "\x7b\"context\": \"a\", \"node\": \"n\", \"targets\": \x7b\"helper\": \"b\"\x7d\x7d, ",
   "\x7b\"context\": \"b\", \"node\": \"n\", \"targets\": \x7b\"helper\": \"a\"\x7d\x7d, ",
   "\x7b\"context\": \"a\", \"node\": \"m\", \"targets\": \x7b\"helper\": \"b\"\x7d\x7d]\x7d"].flatMap
    String.toList

/-- A directory with a table in a file. -/
def sharedNode : Setting :=
  ⟨⟨⟨[(["work"], .directory), (["work", "t.json"], .file (Text.Utf8.encode sharedNodeText))]⟩,
    ["work"]⟩, 80, false⟩

theorem queries_agree_shared_node :
    ∃ loaded graphs events, sharedNode.build "t.json" none = (.ok (loaded, graphs), events) ∧
      graphs.contextGraph.edges.length = 3 ∧
      (edgesOut loaded graphs "c").filterMap (·.instruction.instructionId?) =
        (["n", "m"] : List Text) ∧
      sharedNode.ListsEdges events "c" ("Edges out of " ++ ("c" : Text))
        (edgesOut loaded graphs "c") (sharedNode.edges "t.json" "c" none false none) ∧
      sharedNode.ListsEdges events "c" ("Edges out of " ++ ("c" : Text) ++ " at " ++ ("m" : Text))
        ((edgesOut loaded graphs "c").filter (·.instruction.instructionId? == some ("m" : Text)))
        (sharedNode.edges "t.json" "c" (some "m") false none) ∧
      sharedNode.ListsEdges events "c" ("Edges out of " ++ ("c" : Text) ++ " at " ++ ("x" : Text))
        [] (sharedNode.edges "t.json" "c" (some "x") false none) ∧
      (callsOut graphs "main").filterMap (·.instruction.instructionId?) =
        (["n", "m"] : List Text) ∧
      sharedNode.ListsCallees events "main" (callsOut graphs "main")
        (sharedNode.callees "t.json" "main" none) := by
  have hcounts : (sharedNode.build "t.json" none).1.toOption.map (fun b =>
      (b.1.contexts.keys, b.2.contextGraph.edges.length,
       (edgesOut b.1 b.2 "c").filterMap (·.instruction.instructionId?),
       (callsOut b.2 "main").filterMap (·.instruction.instructionId?))) =
      some ((["a", "b", "c"] : List Text), 3, (["n", "m"] : List Text),
        (["n", "m"] : List Text)) := by
    decide +kernel
  obtain ⟨⟨answer, events⟩, hbuild⟩ : ∃ built, sharedNode.build "t.json" none = built := ⟨_, rfl⟩
  rw [hbuild] at hcounts
  cases answer with
  | error f => cases hcounts
  | ok built =>
      obtain ⟨loaded, graphs⟩ := built
      simp only [Except.toOption, Option.map_some, Option.some.injEq, Prod.mk.injEq] at hcounts
      obtain ⟨hkeys, hedges, hout, hcalls⟩ := hcounts
      obtain ⟨_, _, d, _, _, hparse, hd, hlists, hcallees⟩ := queries_agree hbuild
      have hids : d.ids = loaded.contexts.keys := by
        obtain ⟨d', hd', _, _, hreads⟩ := LoadedTable.parse_reads hparse
        cases hd.symm.trans hd'
        rw [hreads.contexts]
        simp [Document.ids, LoadedTable.contextMap, OrdMap.keys]
      have hnone : (edgesOut loaded graphs "c").filter
          (·.instruction.instructionId? == some ("x" : Text)) = [] := by
        apply List.filter_eq_nil_iff.mpr
        intro e he hx
        have hmem : ("x" : Text) ∈ (["n", "m"] : List Text) := by
          rw [← hout]
          exact List.mem_filterMap.mpr ⟨e, he, beq_iff_eq.mp hx⟩
        revert hmem
        decide
      obtain ⟨_, hall, hnode⟩ := hlists "c" (by rw [hids, hkeys]; decide)
      exact ⟨loaded, graphs, events, hbuild, hedges, hout, hall, hnode "m", hnone ▸ hnode "x",
        hcalls, (hcallees "main").1⟩

end CommandLine.Setting

end CallGraphs
