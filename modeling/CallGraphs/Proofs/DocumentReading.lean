import CallGraphs.Document
import CallGraphs.Proofs.TransitionRecords
/-!
# Reading a document

A document is read in three passes: procedures, contexts, calls. The contexts are those declared,
under their ids; an instruction is that of the first entry with its node; and the table records the
listed pairs one after another. Reading stops at the first id that is declared again, or else at the
first entry that refers to an unknown context or gives a node another kind.
-/

namespace CallGraphs

/-- The ids that a document declares. -/
def Document.ids (d : Document) : List Text :=
  d.contexts.map ContextEntry.id

/-- Entries that can be read together: they refer to known contexts only, and entries with one node
have one kind. -/
structure Consistent (ids : List Text) (ts : List TransitionEntry) : Prop where
  context : ∀ t ∈ ts, t.context ∈ ids
  targets : ∀ t ∈ ts, ∀ x ∈ t.targets, x.2 ∈ ids
  kinds : ∀ t ∈ ts, ∀ t' ∈ ts, t.node = t'.node → t.kind = t'.kind

/-- The first thing that keeps an entry from being read after others: its context is unknown; or it
gives a node another kind; or one of its targets, the first of them, has an unknown context. -/
inductive Breaks (ids : List Text) (before : List TransitionEntry) (t : TransitionEntry) :
    Failure → Prop
  | unknownContext (hcontext : t.context ∉ ids) :
      Breaks ids before t (.table (.unknownContext t.context))
  | conflictingKinds {t₀ : TransitionEntry} (hcontext : t.context ∈ ids) (hbefore : t₀ ∈ before)
      (hnode : t₀.node = t.node) (hkind : t₀.kind ≠ t.kind) :
      Breaks ids before t (.document (.conflictingKinds t.node t₀.kind t.kind))
  | unknownTarget {known rest : List (Text × Text)} {target id : Text}
      (hcontext : t.context ∈ ids)
      (hkinds : ∀ t₀ ∈ before, t₀.node = t.node → t₀.kind = t.kind)
      (htargets : t.targets = known ++ (target, id) :: rest) (hknown : ∀ x ∈ known, x.2 ∈ ids)
      (hid : id ∉ ids) : Breaks ids before t (.table (.unknownContext id))

section Consistency

variable {ids : List Text} {before after : List TransitionEntry} {t : TransitionEntry}

theorem consistent_nil (ids : List Text) : Consistent ids [] where
  context _ ht := by cases ht
  targets _ ht := by cases ht
  kinds _ ht := by cases ht

theorem Consistent.concat (h : Consistent ids before) (hcontext : t.context ∈ ids)
    (htargets : ∀ x ∈ t.targets, x.2 ∈ ids)
    (hkinds : ∀ t₀ ∈ before, t₀.node = t.node → t₀.kind = t.kind) :
    Consistent ids (before ++ [t]) where
  context t' ht' := by
    rcases List.mem_append.mp ht' with hold | hnew
    · exact h.context t' hold
    · rw [List.mem_singleton.mp hnew]
      exact hcontext
  targets t' ht' := by
    rcases List.mem_append.mp ht' with hold | hnew
    · exact h.targets t' hold
    · rw [List.mem_singleton.mp hnew]
      exact htargets
  kinds t₁ ht₁ t₂ ht₂ hnode := by
    rcases List.mem_append.mp ht₁ with hold₁ | hnew₁ <;>
      rcases List.mem_append.mp ht₂ with hold₂ | hnew₂
    · exact h.kinds t₁ hold₁ t₂ hold₂ hnode
    · obtain rfl := List.mem_singleton.mp hnew₂
      exact hkinds t₁ hold₁ hnode
    · obtain rfl := List.mem_singleton.mp hnew₁
      exact (hkinds t₂ hold₂ hnode.symm).symm
    · rw [List.mem_singleton.mp hnew₁, List.mem_singleton.mp hnew₂]

/-- Entries of which one breaks after those before it cannot be read together. -/
theorem Breaks.not_consistent {f : Failure} (h : Breaks ids before t f) :
    ¬Consistent ids (before ++ t :: after) := by
  intro hall
  have ht : t ∈ before ++ t :: after := List.mem_append_right before List.mem_cons_self
  cases h with
  | unknownContext hcontext => exact hcontext (hall.context t ht)
  | conflictingKinds _ hbefore hnode hkind =>
      exact hkind (hall.kinds _ (List.mem_append_left _ hbefore) t ht hnode)
  | @unknownTarget known rest target id _ _ htargets _ hid =>
      refine hid (hall.targets t ht (target, id) ?_)
      rw [htargets]
      exact List.mem_append_right _ List.mem_cons_self

end Consistency

namespace LoadedTable

/-- Declared contexts under their ids. -/
def contextMap (cs : List ContextEntry) : OrdMap Text Value :=
  ⟨cs.map fun c => (c.id, contextOf c)⟩

/-- The context of an id that is declared. -/
def contextAt (cs : List ContextEntry) (id : Text) : Value :=
  ((contextMap cs).get? id).getD .null

/-- The calls that an entry lists, as they are recorded. -/
def entryRecords (cs : List ContextEntry) (t : TransitionEntry) : List CallRecord :=
  t.targets.map fun x =>
    ⟨.site (contextAt cs t.context) (.instruction t.node t.kind), .text x.1, contextAt cs x.2⟩

theorem get?_contextMap (cs : List ContextEntry) (id : Text) :
    (contextMap cs).get? id = (cs.find? (·.id == id)).map contextOf := by
  unfold contextMap OrdMap.get?
  induction cs with
  | nil => rfl
  | cons c cs ih =>
      rw [List.map_cons, List.lookup_cons, List.find?_cons, BEq.comm (a := c.id)]
      cases id == c.id with
      | true => rfl
      | false => exact ih

theorem get?_contextMap_eq_none {cs : List ContextEntry} {id : Text} :
    (contextMap cs).get? id = none ↔ id ∉ cs.map ContextEntry.id := by
  rw [get?_contextMap, Option.map_eq_none_iff, List.find?_eq_none, List.mem_map]
  simp

theorem get?_contextMap_of_mem {cs : List ContextEntry} {id : Text}
    (hid : id ∈ cs.map ContextEntry.id) :
    ∃ c, cs.find? (·.id == id) = some c ∧ contextAt cs id = contextOf c ∧
      (contextMap cs).get? id = some (contextOf c) := by
  cases hfind : cs.find? (·.id == id) with
  | none =>
      refine absurd hid (get?_contextMap_eq_none.mp ?_)
      rw [get?_contextMap, hfind]
      rfl
  | some c =>
      have hget : (contextMap cs).get? id = some (contextOf c) := by
        rw [get?_contextMap, hfind]
        rfl
      refine ⟨c, rfl, ?_, hget⟩
      rw [contextAt, hget]
      rfl

theorem contextOf_hashable (c : ContextEntry) : (contextOf c).hashable = true := by
  obtain ⟨id, method, value⟩ := c
  cases method <;> rcases value with _ | _ | _ <;> rfl

/-- A call site in a declared context has a caller, which is the method of the context. -/
theorem caller_contextOf (c : ContextEntry) (node : Value) :
    TransitionTable.caller (.site (contextOf c) node) = .ok (.ofOption c.method) := rfl

theorem hashable_site_contextOf (c : ContextEntry) (node : Text) (kind : Option Text) :
    (Value.site (contextOf c) (.instruction node kind)).hashable = true := by
  rw [Value.hashable_site, contextOf_hashable]
  rfl

theorem find_eq_ok {l : LoadedTable} {cs : List ContextEntry} (hl : l.contexts = contextMap cs)
    {id : Text} (hid : id ∈ cs.map ContextEntry.id) : l.find id = .ok (contextAt cs id) := by
  obtain ⟨c, _, hat, hget⟩ := get?_contextMap_of_mem hid
  rw [find, hl, hget, hat]

theorem find_eq_error {l : LoadedTable} {cs : List ContextEntry} (hl : l.contexts = contextMap cs)
    {id : Text} (hid : id ∉ cs.map ContextEntry.id) :
    l.find id = .error (.table (.unknownContext id)) := by
  rw [find, hl, get?_contextMap_eq_none.mpr hid]

theorem declareAll_cons (l : LoadedTable) (c : ContextEntry) (cs : List ContextEntry) :
    l.declareAll (c :: cs) = (l.declare c).bind (declareAll · cs) := by
  rw [declareAll, List.foldlM_cons]
  rfl

theorem addEntries_cons (l : LoadedTable) (t : TransitionEntry) (ts : List TransitionEntry) :
    l.addEntries (t :: ts) = (l.addEntry t).bind (addEntries · ts) := by
  rw [addEntries, List.foldlM_cons]
  rfl

/-- Contexts are declared as long as their ids are new. -/
theorem declareAll_cases {l : LoadedTable} {declared : List ContextEntry}
    (hl : l.contexts = contextMap declared)
    (hdeclared : (declared.map ContextEntry.id).Nodup) (cs : List ContextEntry) :
    (((declared ++ cs).map ContextEntry.id).Nodup ∧
        l.declareAll cs = .ok { l with contexts := contextMap (declared ++ cs) }) ∨
      ∃ before c after, cs = before ++ c :: after ∧
        ((declared ++ before).map ContextEntry.id).Nodup ∧
        c.id ∈ (declared ++ before).map ContextEntry.id ∧
        l.declareAll cs = .error (.document (.duplicateContext c.id)) := by
  induction cs generalizing l declared with
  | nil =>
      rw [List.append_nil, ← hl]
      exact .inl ⟨hdeclared, rfl⟩
  | cons c cs ih =>
      rw [declareAll_cons]
      by_cases hc : c.id ∈ declared.map ContextEntry.id
      · refine .inr ⟨[], c, cs, rfl, ?_, ?_, ?_⟩
        · rw [List.append_nil]
          exact hdeclared
        · rw [List.append_nil]
          exact hc
        · obtain ⟨_, _, _, hget⟩ := get?_contextMap_of_mem hc
          rw [declare, OrdMap.contains, hl, hget]
          rfl
      · have hnew : l.contexts.contains c.id = false := by
          rw [OrdMap.contains, hl, get?_contextMap_eq_none.mpr hc]
          rfl
        have hinsert : l.contexts.insert c.id (contextOf c) = contextMap (declared ++ [c]) := by
          have hentries := OrdMap.entries_insert_of_not_contains hnew (contextOf c)
          have hmap : contextMap (declared ++ [c]) =
              ⟨(contextMap declared).entries ++ [(c.id, contextOf c)]⟩ := by
            simp [contextMap]
          rw [hmap, ← hl]
          exact congrArg OrdMap.mk hentries
        have hdeclare : l.declare c =
            .ok { l with contexts := contextMap (declared ++ [c]) } := by
          rw [declare, hnew, hinsert]
          rfl
        have hnodup : ((declared ++ [c]).map ContextEntry.id).Nodup := by
          rw [List.map_append]
          refine List.nodup_append.mpr ⟨hdeclared, List.pairwise_singleton _ _, ?_⟩
          intro id hid id' hid' heq
          rw [heq, List.mem_singleton.mp hid'] at hid
          exact hc hid
        have hsplit : declared ++ c :: cs = (declared ++ [c]) ++ cs := by simp
        rw [hdeclare, hsplit]
        rcases ih (l := { l with contexts := contextMap (declared ++ [c]) }) rfl hnodup with hok |
          ⟨before, c', after, hcs, hbefore, hc', hfails⟩
        · exact .inl hok
        · refine .inr ⟨c :: before, c', after, ?_, ?_, ?_, hfails⟩
          · rw [hcs, List.cons_append]
          · simpa using hbefore
          · simpa using hc'

/-- A table that has read some entries, of which it had some procedures before. -/
structure Reads (cs : List ContextEntry) (base : TransitionTable) (ts : List TransitionEntry)
    (l : LoadedTable) : Prop where
  contexts : l.contexts = contextMap cs
  instructions (node : Text) : l.instructions.get? node =
    (ts.find? (·.node == node)).map fun t => .instruction node t.kind
  table : l.table = base.enterAll (ts.flatMap (entryRecords cs))

/-- The instruction of a node is that of the first entry that has it, and a later one must agree
with it. -/
theorem intern_cases {l : LoadedTable} {ids : List Text} {ts : List TransitionEntry}
    (hl : ∀ node, l.instructions.get? node =
      (ts.find? (·.node == node)).map fun t => .instruction node t.kind)
    (hts : Consistent ids ts) (t : TransitionEntry) :
    (∃ t₀ ∈ ts, t₀.node = t.node ∧ t₀.kind ≠ t.kind ∧
        l.intern t.node t.kind = .error (.document (.conflictingKinds t.node t₀.kind t.kind))) ∨
      (∀ t₀ ∈ ts, t₀.node = t.node → t₀.kind = t.kind) ∧
        ∃ m : OrdMap Text Value,
          l.intern t.node t.kind = .ok ({ l with instructions := m }, .instruction t.node t.kind) ∧
          ∀ node, m.get? node =
            ((ts ++ [t]).find? (·.node == node)).map fun t => .instruction node t.kind := by
  unfold intern
  rw [hl]
  cases hfind : ts.find? (·.node == t.node) with
  | none =>
      refine .inr ⟨fun t₀ ht₀ hnode => ?_, _, rfl, fun node => ?_⟩
      · exact absurd (beq_iff_eq.mpr hnode) (List.find?_eq_none.mp hfind t₀ ht₀)
      · rw [OrdMap.insert, OrdMap.get?_alter .of_lawful trivial, hl, List.find?_append]
        by_cases hnode : node = t.node
        · subst hnode
          simp [hfind]
        · have hne : (t.node == node) = false := beq_eq_false_iff_ne.mpr (Ne.symm hnode)
          simp [hnode, hne]
  | some t₀ =>
      have hnode : t₀.node = t.node := by simpa using List.find?_some hfind
      have ht₀ : t₀ ∈ ts := List.mem_of_find?_eq_some hfind
      by_cases hkind : t₀.kind = t.kind
      · refine .inr ⟨fun t₁ ht₁ hnode₁ => ?_, l.instructions, ?_, fun node => ?_⟩
        · exact (hts.kinds t₁ ht₁ t₀ ht₀ (hnode₁.trans hnode.symm)).trans hkind
        · simp [declaredKind, hkind]
        · rw [hl, List.find?_append]
          cases hfirst : ts.find? (·.node == node) with
          | some t₁ => rfl
          | none =>
              -- An entry with this node would be the first one that was found.
              have hne : (t.node == node) = false := by
                refine beq_eq_false_iff_ne.mpr fun heq => ?_
                rw [← heq, hfind] at hfirst
                cases hfirst
              simp [hne]
      · refine .inl ⟨t₀, ht₀, hnode, hkind, ?_⟩
        simp [declaredKind, hkind]

/-- The targets of a call site are recorded as long as their contexts are known. -/
theorem addTargets_cases {l : LoadedTable} {cs : List ContextEntry} {site source : Value}
    (hl : l.contexts = contextMap cs) (hsite : site.hashable = true)
    (hcaller : TransitionTable.caller site = .ok source) (items : List (Text × Text)) :
    ((∀ x ∈ items, x.2 ∈ cs.map ContextEntry.id) ∧
        l.addTargets site items = .ok { l with
          table := l.table.enterAll
            (items.map fun x => ⟨site, .text x.1, contextAt cs x.2⟩) }) ∨
      ∃ known target id rest, items = known ++ (target, id) :: rest ∧
        (∀ x ∈ known, x.2 ∈ cs.map ContextEntry.id) ∧ id ∉ cs.map ContextEntry.id ∧
        l.addTargets site items = .error (.table (.unknownContext id)) := by
  induction items generalizing l with
  | nil => exact .inl ⟨fun _ hx => (by cases hx), rfl⟩
  | cons x items ih =>
      obtain ⟨target, id⟩ := x
      rw [addTargets]
      by_cases hid : id ∈ cs.map ContextEntry.id
      · have htarget : (Value.text target).hashable = true := rfl
        have hadd := l.table.addTransition_eq_enter hsite hcaller htarget (contextAt cs id)
        rw [find_eq_ok hl hid]
        simp only [hadd, Outcome.done_answer, Outcome.done_state]
        rcases ih (l := { l with table := l.table.enter ⟨site, .text target, contextAt cs id⟩ }) hl
          with ⟨hall, hok⟩ | ⟨known, target', id', rest, hitems, hknown, hid', hfails⟩
        · exact .inl ⟨List.forall_mem_cons.mpr ⟨hid, hall⟩, hok⟩
        · refine .inr ⟨(target, id) :: known, target', id', rest, ?_, ?_, hid', hfails⟩
          · rw [hitems, List.cons_append]
          · exact List.forall_mem_cons.mpr ⟨hid, hknown⟩
      · rw [find_eq_error hl hid]
        exact .inr ⟨[], target, id, items, rfl, fun _ hx => (by cases hx), hid, rfl⟩

/-- An entry is read, or it breaks after those that were read before it. -/
theorem addEntry_cases {cs : List ContextEntry} {base : TransitionTable}
    {before : List TransitionEntry} {l : LoadedTable} (hl : Reads cs base before l)
    (hbefore : Consistent (cs.map ContextEntry.id) before) (t : TransitionEntry) :
    (Consistent (cs.map ContextEntry.id) (before ++ [t]) ∧
        ∃ l', l.addEntry t = .ok l' ∧ Reads cs base (before ++ [t]) l') ∨
      ∃ f, Breaks (cs.map ContextEntry.id) before t f ∧ l.addEntry t = .error f := by
  unfold addEntry
  by_cases hcontext : t.context ∈ cs.map ContextEntry.id
  · rw [find_eq_ok hl.contexts hcontext]
    rcases intern_cases hl.instructions hbefore t with ⟨t₀, ht₀, hnode, hkind, hintern⟩ |
      ⟨hkinds, m, hintern, hm⟩
    · simp only [hintern]
      exact .inr ⟨_, .conflictingKinds hcontext ht₀ hnode hkind, rfl⟩
    · simp only [hintern]
      obtain ⟨c, _, hat, _⟩ := get?_contextMap_of_mem hcontext
      have hsite := hashable_site_contextOf c t.node t.kind
      have hcaller := caller_contextOf c (.instruction t.node t.kind)
      rw [← hat] at hsite hcaller
      rcases addTargets_cases (l := { l with instructions := m }) hl.contexts hsite hcaller
        t.targets with ⟨htargets, hok⟩ | ⟨known, target, id, rest, htargets, hknown, hid, hfails⟩
      · refine .inl ⟨hbefore.concat hcontext htargets hkinds, _, hok, hl.contexts, hm, ?_⟩
        rw [hl.table, List.flatMap_append, List.flatMap_singleton,
          TransitionTable.enterAll_append]
        rfl
      · exact .inr ⟨_, .unknownTarget hcontext hkinds htargets hknown hid, hfails⟩
  · rw [find_eq_error hl.contexts hcontext]
    exact .inr ⟨_, .unknownContext hcontext, rfl⟩

/-- Entries are read one after another, up to the first that breaks. -/
theorem addEntries_cases {cs : List ContextEntry} {base : TransitionTable}
    {done : List TransitionEntry} {l : LoadedTable} (hl : Reads cs base done l)
    (hdone : Consistent (cs.map ContextEntry.id) done) (ts : List TransitionEntry) :
    (Consistent (cs.map ContextEntry.id) (done ++ ts) ∧
        ∃ l', l.addEntries ts = .ok l' ∧ Reads cs base (done ++ ts) l') ∨
      ∃ before t after f, ts = before ++ t :: after ∧
        Consistent (cs.map ContextEntry.id) (done ++ before) ∧
        Breaks (cs.map ContextEntry.id) (done ++ before) t f ∧ l.addEntries ts = .error f := by
  induction ts generalizing l done with
  | nil =>
      rw [List.append_nil]
      exact .inl ⟨hdone, l, rfl, hl⟩
  | cons t ts ih =>
      rw [addEntries_cons]
      rcases addEntry_cases hl hdone t with ⟨hnext, l', hl', hreads⟩ | ⟨f, hbreaks, hfails⟩
      · have hsplit : done ++ t :: ts = (done ++ [t]) ++ ts := by simp
        rw [hl', hsplit]
        rcases ih hreads hnext with hok | ⟨before, t', after, f, hts, hbefore, hbreaks, hfails⟩
        · exact .inl hok
        · rw [List.append_assoc] at hbefore hbreaks
          refine .inr ⟨t :: before, t', after, f, ?_, hbefore, hbreaks, hfails⟩
          rw [hts, List.cons_append]
      · rw [hfails]
        refine .inr ⟨[], t, ts, f, rfl, ?_, ?_, rfl⟩
        · rw [List.append_nil]
          exact hdone
        · rw [List.append_nil]
          exact hbreaks

/-- The table that knows the procedures that a document names. -/
def namesOnly (d : Document) : TransitionTable :=
  ⟨Distinct.ofList (d.methods.map .text), .empty⟩

/-- What reading a document comes to: an id is declared again; or all ids are new, and then the
entries are all read, or one of them breaks. -/
theorem ofDocument_cases (d : Document) :
    (∃ before c after, d.contexts = before ++ c :: after ∧
        (before.map ContextEntry.id).Nodup ∧ c.id ∈ before.map ContextEntry.id ∧
        ofDocument d = .error (.document (.duplicateContext c.id))) ∨
      (d.ids.Nodup ∧ Consistent d.ids d.transitions ∧
        ∃ l, ofDocument d = .ok l ∧ Reads d.contexts (namesOnly d) d.transitions l) ∨
      d.ids.Nodup ∧ ∃ before t after f, d.transitions = before ++ t :: after ∧
        Consistent d.ids before ∧ Breaks d.ids before t f ∧ ofDocument d = .error f := by
  have hunfold : ofDocument d =
      ((empty.addMethods d.methods).declareAll d.contexts).bind (addEntries · d.transitions) := rfl
  rw [hunfold]
  have hempty : (empty.addMethods d.methods).contexts = contextMap [] := rfl
  rcases declareAll_cases hempty List.nodup_nil d.contexts with ⟨hnodup, hok⟩ |
    ⟨before, c, after, hcs, hbefore, hc, hfails⟩
  · rw [hok]
    have hstart : Reads d.contexts (namesOnly d) []
        { empty.addMethods d.methods with contexts := contextMap d.contexts } :=
      ⟨rfl, fun _ => rfl, rfl⟩
    rcases addEntries_cases hstart (consistent_nil _) d.transitions with
      ⟨hall, l, hl, hreads⟩ | ⟨before, t, after, f, hts, hbefore, hbreaks, hfails⟩
    · exact .inr (.inl ⟨hnodup, hall, l, hl, hreads⟩)
    · exact .inr (.inr ⟨hnodup, before, t, after, f, hts, hbefore, hbreaks, hfails⟩)
  · rw [hfails]
    exact .inl ⟨before, c, after, hcs, hbefore, hc, rfl⟩

/-- Accepted data is a document with new ids only and entries that can be read together. -/
theorem parse_reads {j : Json} {l : LoadedTable} (h : parse j = .ok l) :
    ∃ d, Document.ofJson j = .ok d ∧ d.ids.Nodup ∧ Consistent d.ids d.transitions ∧
      Reads d.contexts (namesOnly d) d.transitions l := by
  unfold parse at h
  cases hj : Document.ofJson j with
  | error e =>
      rw [hj] at h
      cases h
  | ok d =>
      rw [hj] at h
      rcases ofDocument_cases d with ⟨_, _, _, _, _, _, hfails⟩ | ⟨hnodup, hd, l', hl', hreads⟩ |
        ⟨_, _, _, _, _, _, _, _, hfails⟩
      · cases hfails.symm.trans h
      · cases hl'.symm.trans h
        exact ⟨d, rfl, hnodup, hd, hreads⟩
      · cases hfails.symm.trans h

end LoadedTable

end CallGraphs
