import CallGraphs.Proofs.DocumentReading
/-!
# The last writer wins

What a document says, read off its pairs of a call and a target. Contexts are told apart by what
they are and not by their ids, so pairs of one node in equal contexts belong to one call site. Of
the pairs of a call site with one target, the last decides the context of the target; everything
else is in the order of its first pair.
-/

namespace CallGraphs

/-- A call and a target that a document lists, with the ids of the two contexts. -/
structure ListedPair where
  context : Text
  node : Text
  target : Text
  targetContext : Text

/-- The pairs that an entry lists. -/
def TransitionEntry.pairs (t : TransitionEntry) : List ListedPair :=
  t.targets.map fun x => ⟨t.context, t.node, x.1, x.2⟩

namespace Document

/-- The pairs of a document, in order. An entry without targets has none. -/
def pairs (d : Document) : List ListedPair :=
  d.transitions.flatMap TransitionEntry.pairs

/-- The procedure of the calling context of a pair, unless it has none. -/
def callerOf (d : Document) (p : ListedPair) : List Value :=
  ((d.contexts.find? (·.id == p.context)).bind ContextEntry.method).toList.map .text

end Document

namespace LoadedTable

/-- The call site of a pair. -/
def site? (l : LoadedTable) (p : ListedPair) : Option Value := do
  let ctx ← l.contexts.get? p.context
  let instruction ← l.instructions.get? p.node
  return .site ctx instruction

/-- Whether a pair is of a node in a context that equals the given one. -/
def isCallAt (l : LoadedTable) (ctx : Value) (node : Text) (p : ListedPair) : Bool :=
  p.node == node && (l.contexts.get? p.context).any (ctx == ·)

/-- The record that a pair becomes. -/
def recordOf (l : LoadedTable) (p : ListedPair) : CallRecord where
  site := (l.site? p).getD .null
  target := .text p.target
  context := (l.contexts.get? p.targetContext).getD .null

section Reading

variable {d : Document} {l : LoadedTable}

/-- What is known of a pair once its document was read: it leads to a declared context and to the
instruction of its node, and its target to a context. -/
structure Resolved (d : Document) (l : LoadedTable) (p : ListedPair) : Prop where
  site : ∃ c kind, d.contexts.find? (·.id == p.context) = some c ∧
    l.contexts.get? p.context = some (contextOf c) ∧
    l.instructions.get? p.node = some (.instruction p.node kind) ∧
    l.site? p = some (.site (contextOf c) (.instruction p.node kind))
  context : ∃ c, l.contexts.get? p.targetContext = some (contextOf c)

theorem Reads.resolved {base : TransitionTable} (h : Reads d.contexts base d.transitions l)
    (hd : Consistent d.ids d.transitions) {p : ListedPair} (hp : p ∈ d.pairs) :
    Resolved d l p := by
  obtain ⟨t, ht, hpt⟩ := List.mem_flatMap.mp hp
  obtain ⟨x, hx, rfl⟩ := List.mem_map.mp hpt
  have hinstruction : ∃ kind, l.instructions.get? t.node = some (.instruction t.node kind) := by
    rw [h.instructions]
    cases hfind : d.transitions.find? (·.node == t.node) with
    | none => exact absurd BEq.rfl (List.find?_eq_none.mp hfind t ht)
    | some t₀ => exact ⟨t₀.kind, rfl⟩
  obtain ⟨kind, hkind⟩ := hinstruction
  obtain ⟨c, hfind, _, hc⟩ := get?_contextMap_of_mem (hd.context t ht)
  obtain ⟨c', _, _, hc'⟩ := get?_contextMap_of_mem (hd.targets t ht x hx)
  rw [← h.contexts] at hc hc'
  refine ⟨⟨c, kind, hfind, hc, hkind, ?_⟩, c', hc'⟩
  simp [site?, hc, hkind]

theorem Resolved.site_eq {p : ListedPair} (h : Resolved d l p) :
    l.site? p = some (l.recordOf p).site := by
  obtain ⟨c, kind, _, _, _, hsite⟩ := h.site
  rw [recordOf, hsite]
  rfl

theorem Resolved.context_eq {p : ListedPair} (h : Resolved d l p) :
    l.contexts.get? p.targetContext = some (l.recordOf p).context := by
  obtain ⟨c, hc⟩ := h.context
  rw [recordOf, hc]
  rfl

theorem Resolved.hashable {p : ListedPair} (h : Resolved d l p) :
    (l.recordOf p).site.hashable = true := by
  obtain ⟨c, kind, _, _, _, hsite⟩ := h.site
  rw [recordOf, hsite]
  exact hashable_site_contextOf c p.node kind

/-- The caller of a pair's call site is the method of its calling context. -/
theorem Resolved.callerOf {p : ListedPair} (h : Resolved d l p) :
    TransitionTable.callerOf (l.recordOf p).site = d.callerOf p := by
  obtain ⟨c, kind, hfind, _, _, hsite⟩ := h.site
  rw [recordOf, hsite, Document.callerOf, hfind, TransitionTable.callerOf, Option.getD_some,
    caller_contextOf, Option.bind_some]
  cases c.method <;> rfl

/-- Pairs of one call site are those of its node in equal contexts. -/
theorem Resolved.isCallAt {p : ListedPair} (h : Resolved d l p) {node : Text}
    {instruction : Value} (hnode : l.instructions.get? node = some instruction)
    (hinstruction : ∃ kind, instruction = .instruction node kind) (ctx : Value) :
    (Value.site ctx instruction == (l.recordOf p).site) = l.isCallAt ctx node p := by
  obtain ⟨c, kind, _, hc, hkind, hsite⟩ := h.site
  obtain ⟨kind', rfl⟩ := hinstruction
  rw [recordOf, hsite, LoadedTable.isCallAt, hc]
  change (ctx == contextOf c && Value.instruction node kind' == .instruction p.node kind) =
    (p.node == node && ctx == contextOf c)
  have hsame : (Value.instruction node kind' == .instruction p.node kind) = (p.node == node) := by
    rw [Bool.eq_iff_iff, Value.beq_instruction, beq_iff_eq]
    refine ⟨fun heq => heq.1.symm, fun heq => ⟨heq.symm, ?_⟩⟩
    rw [heq, hnode] at hkind
    cases hkind
    rfl
  rw [hsame, Bool.and_comm]

/-- The recorded calls are those of the document's pairs. -/
theorem Reads.records {base : TransitionTable} (h : Reads d.contexts base d.transitions l)
    (hd : Consistent d.ids d.transitions) :
    l.table = base.enterAll (d.pairs.map l.recordOf) := by
  rw [h.table, Document.pairs, List.map_flatMap]
  refine congrArg base.enterAll (List.flatMap_congr fun t ht => ?_)
  rw [entryRecords, TransitionEntry.pairs, List.map_map]
  refine List.map_congr_left fun x hx => ?_
  have hp : (⟨t.context, t.node, x.1, x.2⟩ : ListedPair) ∈ d.pairs :=
    List.mem_flatMap.mpr ⟨t, ht, List.mem_map.mpr ⟨x, hx, rfl⟩⟩
  obtain ⟨⟨c, kind, _, hc, hkind, hsite⟩, _⟩ := h.resolved hd hp
  -- The instruction of the node is that of its first entry, which has the kind of this one.
  have hkinds : kind = t.kind := by
    rw [h.instructions] at hkind
    obtain ⟨t₀, ht₀, hinstr⟩ := Option.map_eq_some_iff.mp hkind
    cases hinstr
    exact hd.kinds t₀ (List.mem_of_find?_eq_some ht₀) t ht (by simpa using List.find?_some ht₀)
  have hcontext : (contextMap d.contexts).get? t.context = some (contextOf c) := by
    rw [← h.contexts]
    exact hc
  simp only [Function.comp, recordOf, hsite, Option.getD_some, contextAt, hcontext, hkinds,
    h.contexts]

theorem Reads.hashable_records {base : TransitionTable}
    (h : Reads d.contexts base d.transitions l) (hd : Consistent d.ids d.transitions) :
    ∀ r ∈ d.pairs.map l.recordOf, r.site.hashable = true ∧ r.target.hashable = true := by
  intro r hr
  obtain ⟨p, hp, rfl⟩ := List.mem_map.mp hr
  exact ⟨(h.resolved hd hp).hashable, rfl⟩

theorem Reads.instruction_eq {base : TransitionTable}
    (h : Reads d.contexts base d.transitions l) {node : Text} {instruction : Value}
    (hnode : l.instructions.get? node = some instruction) :
    ∃ kind, instruction = .instruction node kind := by
  rw [h.instructions] at hnode
  obtain ⟨t, _, rfl⟩ := Option.map_eq_some_iff.mp hnode
  exact ⟨t.kind, rfl⟩

/-- A call site of a context and an instruction of the table can be looked up. -/
theorem Reads.getTargets {base : TransitionTable} (h : Reads d.contexts base d.transitions l)
    {id node : Text} {ctx instruction : Value} (hctx : l.contexts.get? id = some ctx)
    (hnode : l.instructions.get? node = some instruction) :
    l.table.getTargets (.site ctx instruction) =
      .ok (l.table.targetsAt (.site ctx instruction)).entries := by
  obtain ⟨kind, rfl⟩ := h.instruction_eq hnode
  rw [h.contexts, get?_contextMap] at hctx
  obtain ⟨c, _, rfl⟩ := Option.map_eq_some_iff.mp hctx
  rw [TransitionTable.getTargets, Value.key_of_hashable (hashable_site_contextOf c node kind)]
  rfl

/-- The targets of a call site are in the order of its pairs. -/
theorem Reads.keys_targetsAt (h : Reads d.contexts (namesOnly d) d.transitions l)
    (hd : Consistent d.ids d.transitions) {node : Text} {instruction : Value}
    (hnode : l.instructions.get? node = some instruction) (ctx : Value) :
    (l.table.targetsAt (.site ctx instruction)).keys =
      ((d.pairs.filter (l.isCallAt ctx node)).map fun p => Value.text p.target).eraseDups := by
  have hfilter : d.pairs.filter (fun p => Value.site ctx instruction == (l.recordOf p).site) =
      d.pairs.filter (l.isCallAt ctx node) :=
    List.filter_congr fun p hp =>
      (h.resolved hd hp).isCallAt hnode (h.instruction_eq hnode) ctx
  have hkeys := (namesOnly d).keys_targetsAt_enterAll
    (fun r hr => (h.hashable_records hd r hr).1) (.site ctx instruction)
  rw [h.records hd, hkeys, List.filter_map, List.map_map]
  exact (congrArg (fun ps => Distinct.ofList (ps.map fun p => Value.text p.target)) hfilter).trans
    (Distinct.ofList_eq_eraseDups _)

/-- A target has the context of the last pair of its call site. -/
theorem Reads.get?_targetsAt (h : Reads d.contexts (namesOnly d) d.transitions l)
    (hd : Consistent d.ids d.transitions) {node : Text} {instruction : Value}
    (hnode : l.instructions.get? node = some instruction) (ctx : Value) (target : Text) :
    (l.table.targetsAt (.site ctx instruction)).get? (.text target) =
      (d.pairs.filter fun p => p.target == target && l.isCallAt ctx node p).getLast?.bind fun p =>
        l.contexts.get? p.targetContext := by
  have hfilter : d.pairs.filter (fun p => Value.site ctx instruction == (l.recordOf p).site &&
        Value.text target == (l.recordOf p).target) =
      d.pairs.filter fun p => p.target == target && l.isCallAt ctx node p := by
    refine List.filter_congr fun p hp => ?_
    rw [(h.resolved hd hp).isCallAt hnode (h.instruction_eq hnode), recordOf, Value.beq_text,
      BEq.comm (a := target), Bool.and_comm]
  have hlast := (namesOnly d).get?_targetsAt_enterAll (h.hashable_records hd)
    (.site ctx instruction) (.text target)
  have hnone : ((namesOnly d).targetsAt (.site ctx instruction)).get? (.text target) = none := rfl
  rw [h.records hd, hlast, hnone, Option.or_none, TransitionTable.lastRecord?, List.filter_map,
    List.getLast?_map]
  change Option.map _ (Option.map _ (d.pairs.filter fun p =>
    Value.site ctx instruction == (l.recordOf p).site &&
      Value.text target == (l.recordOf p).target).getLast?) = _
  rw [hfilter]
  cases hp : (d.pairs.filter fun p => p.target == target && l.isCallAt ctx node p).getLast? with
  | none => rfl
  | some p =>
      have hmem : p ∈ d.pairs := List.mem_of_mem_filter (List.mem_of_getLast? hp)
      exact (h.resolved hd hmem).context_eq.symm

/-- The call sites are in the order of the first pair of each. -/
theorem Reads.keys_transitions (h : Reads d.contexts (namesOnly d) d.transitions l)
    (hd : Consistent d.ids d.transitions) :
    l.table.transitions.keys = (d.pairs.filterMap l.site?).eraseDups := by
  have hsites : d.pairs.filterMap l.site? = d.pairs.map fun p => (l.recordOf p).site := by
    rw [← List.filterMap_eq_map]
    exact List.filterMap_congr fun p hp => (h.resolved hd hp).site_eq
  rw [h.records hd, TransitionTable.keys_enterAll, List.map_map, hsites]
  exact Distinct.ofList_eq_eraseDups _

/-- The procedures are those that the document names, and then of each pair the caller and the
target. -/
theorem Reads.methods (h : Reads d.contexts (namesOnly d) d.transitions l)
    (hd : Consistent d.ids d.transitions) :
    l.table.methods = (d.methods.map Value.text ++
      d.pairs.flatMap fun p => d.callerOf p ++ [Value.text p.target]).eraseDups := by
  have hpairs : ((d.pairs.map l.recordOf).flatMap fun r =>
        TransitionTable.callerOf r.site ++ [r.target]) =
      d.pairs.flatMap fun p => d.callerOf p ++ [Value.text p.target] := by
    rw [List.flatMap_map]
    refine List.flatMap_congr fun p hp => ?_
    rw [(h.resolved hd hp).callerOf]
    rfl
  rw [h.records hd, TransitionTable.methods_enterAll, hpairs, ← Distinct.ofList_eq_eraseDups,
    Distinct.ofList, Distinct.extend_append]
  rfl

end Reading

/-- A table that says what its document says when of equal calls the last one counts. -/
structure LastWriterWins (d : Document) (l : LoadedTable) : Prop where
  /-- The contexts are those declared, under their ids. -/
  contexts : l.contexts.entries = d.contexts.map fun c => (c.id, contextOf c)
  /-- The instruction of a node has the kind of the entries with that node. -/
  instructions (node : Text) : l.instructions.get? node =
    (d.transitions.find? (·.node == node)).map fun t => .instruction node t.kind
  /-- Every pair has a call site and a context for its target. -/
  resolved : ∀ p ∈ d.pairs, (l.site? p).isSome ∧ (l.contexts.get? p.targetContext).isSome
  /-- The targets of a call site are those of its pairs, in order, and each has the context of its
  last pair. -/
  targets {id node : Text} {ctx instruction : Value} (hctx : l.contexts.get? id = some ctx)
    (hnode : l.instructions.get? node = some instruction) :
    ∃ found, l.table.getTargets (.site ctx instruction) = .ok found ∧
      found.map Prod.fst =
        ((d.pairs.filter (l.isCallAt ctx node)).map fun p => Value.text p.target).eraseDups ∧
      ∀ target : Text, found.lookup (.text target) =
        (d.pairs.filter fun p => p.target == target && l.isCallAt ctx node p).getLast?.bind
          fun p => l.contexts.get? p.targetContext
  /-- The call sites are those of the pairs, in order. -/
  sites : l.table.transitions.keys = (d.pairs.filterMap l.site?).eraseDups
  /-- The procedures are those that are named, and then the caller and the target of each pair. -/
  methods : l.table.methods = (d.methods.map Value.text ++
    d.pairs.flatMap fun p => d.callerOf p ++ [Value.text p.target]).eraseDups

/-- Data that is accepted is read so that the last of equal calls counts. -/
theorem parse_last_writer_wins {j : Json} {l : LoadedTable} (h : parse j = .ok l) :
    ∃ d, Document.ofJson j = .ok d ∧ LastWriterWins d l := by
  unfold parse at h
  cases hj : Document.ofJson j with
  | error e =>
      rw [hj] at h
      cases h
  | ok d =>
      rw [hj] at h
      rcases ofDocument_cases d with ⟨_, _, _, _, _, _, hfails⟩ | ⟨_, hd, l', hl', hreads⟩ |
        ⟨_, _, _, _, _, _, _, _, hfails⟩
      · cases hfails.symm.trans h
      · cases hl'.symm.trans h
        refine ⟨d, rfl, ?_⟩
        exact {
          contexts := congrArg OrdMap.entries hreads.contexts
          instructions := hreads.instructions
          resolved := fun p hp => by
            have hp' := hreads.resolved hd hp
            rw [hp'.site_eq, hp'.context_eq]
            exact ⟨rfl, rfl⟩
          targets := fun hctx hnode =>
            ⟨_, hreads.getTargets hctx hnode, hreads.keys_targetsAt hd hnode _,
              hreads.get?_targetsAt hd hnode _⟩
          sites := hreads.keys_transitions hd
          methods := hreads.methods hd }
      · cases hfails.symm.trans h

/-- Two of its contexts are equal, and a target of the first is listed again for the second. -/
def overwritingJson : Json := .object
  [("methods", .array [.text "main", .text "helper"]),
   ("contexts", .array
     [.object [("id", .text "a"), ("method", .text "main"), ("value", .int .one)],
      .object [("id", .text "b"), ("method", .text "main"), ("value", .bool true)],
      .object [("id", .text "c")]]),
   ("transitions", .array
     [.object [("context", .text "a"), ("node", .text "n"),
        ("targets", .object [("f", .text "a"), ("g", .text "c")])],
      .object [("context", .text "c"), ("node", .text "k"), ("kind", .text "virtual")],
      .object [("context", .text "b"), ("node", .text "n"),
        ("targets", .object [("f", .text "c")])]])]

def overwritingDocument : Document where
  methods := ["main", "helper"]
  contexts := [⟨"a", some "main", some (.inr .one)⟩, ⟨"b", some "main", some (.inr .one)⟩,
    ⟨"c", none, none⟩]
  transitions := [⟨"a", "n", none, [("f", "a"), ("g", "c")]⟩, ⟨"c", "k", some "virtual", []⟩,
    ⟨"b", "n", none, [("f", "c")]⟩]

def overwritten : LoadedTable where
  table :=
    { methods := [.text "main", .text "helper", .text "f", .text "g"]
      transitions := ⟨[(.site (.context (.text "main") (.int 1)) (.instruction "n" none),
        ⟨[(.text "f", .context .null (.text "c")), (.text "g", .context .null (.text "c"))]⟩)]⟩ }
  contexts := ⟨[("a", .context (.text "main") (.int 1)), ("b", .context (.text "main") (.int 1)),
    ("c", .context .null (.text "c"))]⟩
  instructions := ⟨[("n", .instruction "n" none), ("k", .instruction "k" (some "virtual"))]⟩

theorem parse_last_writer_wins_equal_contexts :
    parse overwritingJson = .ok overwritten ∧ LastWriterWins overwritingDocument overwritten ∧
      ∃ found, overwritten.table.getTargets
          (.site (.context (.text "main") (.int 1)) (.instruction "n" none)) = .ok found ∧
        found.lookup (.text "f") = some (.context .null (.text "c")) := by
  have hparse : parse overwritingJson = .ok overwritten := rfl
  obtain ⟨d, hd, hreading⟩ := parse_last_writer_wins hparse
  have hdocument : Document.ofJson overwritingJson = .ok overwritingDocument := rfl
  cases hd.symm.trans hdocument
  have hctx : overwritten.contexts.get? "a" = some (.context (.text "main") (.int 1)) := rfl
  have hnode : overwritten.instructions.get? "n" = some (.instruction "n" none) := rfl
  obtain ⟨found, hfound, _, hlast⟩ := hreading.targets hctx hnode
  exact ⟨hparse, hreading, found, hfound, hlast "f"⟩

end LoadedTable

end CallGraphs
