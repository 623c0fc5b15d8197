import CallGraphs.Proofs.PassEdges
/-!
# The warnings of a pass

A pass reports its beginning, the classification of each call site, each edge it adds, and its end.
An instruction is classified once for its entry and not once for each edge. Main statement: a strict
pass that hands out graphs warns once about every entry whose instruction is no valid call, in the
order of the table, and other passes do not warn at all.
-/

namespace CallGraphs

/-- The warnings among some events. -/
def warnings (events : List Event) : List Event :=
  events.filter fun e => e.level = .warning

/-- The warning that an instruction is no valid call. It tells whether the host program failed. -/
def warningAbout (resolver : Resolver) (instruction : Value) : Event :=
  match resolver instruction with
  | .error reason => .unresolved true instruction reason
  | .ok _ => .unrecognized instruction

theorem warnings_append (events events' : List Event) :
    warnings (events ++ events') = warnings events ++ warnings events' :=
  List.filter_append events events'

theorem warnings_added (es : List SensitiveEdge) : warnings (es.map .added) = [] := by
  apply List.filter_eq_nil_iff.mpr
  intro event hevent
  obtain ⟨e, _, rfl⟩ := List.mem_map.mp hevent
  exact Bool.false_ne_true

theorem logger_warningAbout (resolver : Resolver) (instruction : Value) :
    (warningAbout resolver instruction).logger = .classifier := by
  unfold warningAbout
  split <;> rfl

namespace Classifier

variable {c : Classifier}

theorem remark?_of_invalid (hstrict : c.strict = true) {instruction : Value}
    (hinvalid : c.kind instruction = .invalid) :
    c.remark? instruction = some (warningAbout c.resolver instruction) := by
  unfold kind at hinvalid
  unfold remark? warningAbout
  cases hanswer : c.resolver instruction with
  | error reason => simp only [hstrict]
  | ok answer =>
      simp only [hanswer] at hinvalid
      simp only [hinvalid, hstrict, and_self, ↓reduceIte]

theorem remark?_of_valid {instruction : Value} (hvalid : c.kind instruction ≠ .invalid) :
    c.remark? instruction = none := by
  unfold kind at hvalid
  unfold remark?
  cases hanswer : c.resolver instruction with
  | error reason => simp [hanswer] at hvalid
  | ok answer =>
      simp only [hanswer] at hvalid
      simp only [hvalid, false_and, ↓reduceIte]

theorem warnings_remark?_of_lenient (hstrict : c.strict = false) (instruction : Value) :
    warnings (c.remark? instruction).toList = [] := by
  unfold remark?
  cases c.resolver instruction with
  | error reason =>
      simp only [hstrict]
      rfl
  | ok answer =>
      simp only [hstrict, Bool.false_eq_true, and_false, ↓reduceIte]
      rfl

end Classifier

/-- What a pass reports of some entries, whose instructions are given: what there is to say of the
instruction and then the edges, entry by entry. -/
inductive Reports (classifier : Classifier) :
    List (Value × Value) → List Value → List Event → Prop
  | nil : Reports classifier [] [] []
  | cons {site targets node : Value} {entries : List (Value × Value)} {nodes : List Value}
      {events : List Event} (es : List SensitiveEdge) (hnode : site.getCallNode = .ok node)
      (hformed : classifier.fault? node = none)
      (rest : Reports classifier entries nodes events) :
      Reports classifier ((site, targets) :: entries) (node :: nodes)
        ((classifier.remark? node).toList ++ es.map .added ++ events)

theorem addTargets_events {c : Caller} {p : Progress} {items : List (Value × Value)} {u : Unit}
    (h : (addTargets c p items).answer = .ok u) :
    (addTargets c p items).state.events =
      p.events ++ (items.map fun t => c.edge t.1 t.2).map .added := by
  induction items generalizing p with
  | nil => exact (List.append_nil p.events).symm
  | cons t items ih =>
      obtain ⟨target, ctx⟩ := t
      unfold addTargets at h ⊢
      obtain ⟨a, hadded, heq⟩ := Outcome.andThen_eq_ok h
      rw [heq] at h ⊢
      rw [ih h, Progress.addEdge_events hadded, List.append_assoc]
      rfl

/-- An entry reports the classification of its instruction once, whatever its targets are. -/
theorem addEntry_events {classifier : Classifier} {p : Progress} {site targets : Value} {u : Unit}
    (h : (addEntry classifier p site targets).answer = .ok u) :
    ∃ node, ∃ es : List SensitiveEdge, site.getCallNode = .ok node ∧
      classifier.fault? node = none ∧
      (addEntry classifier p site targets).state.events =
        p.events ++ ((classifier.remark? node).toList ++ es.map .added) := by
  obtain ⟨ctx, node, method, items, hsite, _, hformed, _, heq⟩ := addEntry_eq_ok h
  rw [heq] at h ⊢
  exact ⟨node, _, (decompose_eq_ok hsite).2, hformed,
    (addTargets_events h).trans (List.append_assoc p.events _ _)⟩

theorem addEntries_reports {classifier : Classifier} {p : Progress}
    {entries : List (Value × Value)} {u : Unit}
    (h : (addEntries classifier p entries).answer = .ok u) :
    ∃ nodes events, Reports classifier entries nodes events ∧
      (addEntries classifier p entries).state.events = p.events ++ events := by
  induction entries generalizing p with
  | nil => exact ⟨[], [], .nil, (List.append_nil p.events).symm⟩
  | cons entry entries ih =>
      obtain ⟨site, targets⟩ := entry
      unfold addEntries at h ⊢
      obtain ⟨a, hentry, heq⟩ := Outcome.andThen_eq_ok h
      rw [heq] at h ⊢
      obtain ⟨node, es, hnode, hformed, hevents⟩ := addEntry_events hentry
      obtain ⟨nodes, events, hreports, hrest⟩ := ih h
      refine ⟨node :: nodes, _, .cons es hnode hformed hreports, ?_⟩
      rw [hrest, hevents, List.append_assoc]

namespace Reports

variable {classifier : Classifier} {entries : List (Value × Value)} {nodes : List Value}
  {events : List Event}

theorem nodes_eq (h : Reports classifier entries nodes events) :
    entries.map (·.1.getCallNode) = nodes.map .ok := by
  induction h with
  | nil => rfl
  | cons es hnode _ _ ih => rw [List.map_cons, List.map_cons, hnode, ih]

/-- All instructions that were reported on have been classified. -/
theorem formed (h : Reports classifier entries nodes events) :
    ∀ node ∈ nodes, classifier.fault? node = none := by
  induction h with
  | nil => exact fun _ hnode => (by cases hnode)
  | cons es _ hformed _ ih => exact List.forall_mem_cons.mpr ⟨hformed, ih⟩

theorem warnings_of_strict (h : Reports classifier entries nodes events)
    (hstrict : classifier.strict = true) :
    warnings events = (nodes.filter fun node => classifier.kind node = .invalid).map
      (warningAbout classifier.resolver) := by
  induction h with
  | nil => rfl
  | @cons _ _ node _ _ _ es hnode _ _ ih =>
      rw [warnings_append, warnings_append, warnings_added, List.append_nil, ih]
      by_cases hkind : classifier.kind node = .invalid
      · have hwarning : (warningAbout classifier.resolver node).level = .warning := by
          unfold warningAbout
          cases classifier.resolver node <;> rfl
        rw [Classifier.remark?_of_invalid hstrict hkind,
          List.filter_cons_of_pos (by simpa using hkind), Option.toList_some, warnings,
          List.filter_cons_of_pos (by simpa using hwarning)]
        rfl
      · rw [Classifier.remark?_of_valid hkind, List.filter_cons_of_neg (by simpa using hkind)]
        rfl

theorem warnings_of_lenient (h : Reports classifier entries nodes events)
    (hstrict : classifier.strict = false) : warnings events = [] := by
  induction h with
  | nil => rfl
  | cons es hnode _ _ ih =>
      rw [warnings_append, warnings_append, warnings_added, ih,
        Classifier.warnings_remark?_of_lenient hstrict]
      rfl

end Reports

theorem finish_event {p : Progress} {graphs : Graphs} {built : Event}
    (h : finish p = .ok (graphs, built)) :
    built = .built graphs.stats.edges graphs.callGraph.size := by
  unfold finish at h
  split at h
  · cases h
    rfl
  all_goals cases h

/-- What a pass that hands out graphs reports, from its beginning to its end. -/
theorem transform_reports {classifier : Classifier} {source : Source} {graphs : Graphs}
    (h : (transform classifier source).1 = .ok graphs) :
    ∃ nodes events, Reports classifier source.transitions nodes events ∧
      (transform classifier source).2 =
        .building source.transitions.length source.methods.length :: events ++
          [.built graphs.stats.edges graphs.callGraph.size] := by
  obtain ⟨start, last, built, _, _, _, hstart, hrun, hfinish, hlog⟩ := transform_stages h
  obtain ⟨nodes, events, hreports, hevents⟩ := addEntries_reports (congrArg Outcome.answer hrun)
  refine ⟨nodes, events, hreports, ?_⟩
  rw [hrun, hstart] at hevents
  rw [hlog, finish_event hfinish, show last.events = _ from hevents]
  rfl

/-- A strict pass that hands out graphs, and so has classified every instruction, warns exactly once
about each entry whose instruction is of no valid kind, in the order of the table and however many
targets the entry has. A pass that is not strict does not warn. -/
theorem transform_warns_once {config : ClassifierConfig} {resolver : Resolver} {source : Source}
    {graphs : Graphs} (h : (transform (.ofConfig config resolver) source).1 = .ok graphs) :
    ∃ instructions : List Value, source.transitions.map (·.1.getCallNode) = instructions.map .ok ∧
      (∀ i ∈ instructions, ((Classifier.ofConfig config resolver).classify i).1 =
        .ok ((Classifier.ofConfig config resolver).kind i)) ∧
      (config.strict = true →
        warnings (transform (.ofConfig config resolver) source).2 =
          (instructions.filter fun i =>
            (Classifier.ofConfig config resolver).kind i = .invalid).map
              (warningAbout resolver)) ∧
      (config.strict = false → warnings (transform (.ofConfig config resolver) source).2 = []) ∧
      ∀ e ∈ warnings (transform (.ofConfig config resolver) source).2, e.logger = .classifier := by
  obtain ⟨nodes, events, hreports, hlog⟩ := transform_reports h
  have hwarnings : warnings (transform (.ofConfig config resolver) source).2 = warnings events := by
    rw [hlog, List.cons_append, ← List.singleton_append, warnings_append, warnings_append]
    exact List.append_nil (warnings events)
  rw [hwarnings]
  refine ⟨nodes, hreports.nodes_eq, fun node hnode => ?_, hreports.warnings_of_strict,
    hreports.warnings_of_lenient, ?_⟩
  · rw [Classifier.classify_of_formed (hreports.formed node hnode)]
  intro e he
  cases hstrict : config.strict with
  | true =>
      rw [hreports.warnings_of_strict hstrict] at he
      obtain ⟨node, _, rfl⟩ := List.mem_map.mp he
      exact logger_warningAbout resolver node
  | false =>
      rw [hreports.warnings_of_lenient hstrict] at he
      cases he

/-- A resolver that takes instructions for their own kinds and fails where there is none. -/
def fussyResolver : Resolver := fun instruction =>
  if instruction.isNull then .error "no instruction" else .ok instruction

/-- Entries with an instruction that the resolver fails at, one that is no call, one that is valid
and one that is explicitly invalid. The first has no targets, the second has two. -/
def doubtfulSource : Source where
  methods := []
  transitions :=
    [(.site (.context (.int 0) .null) .null, .mapping []),
     (.site (.context (.int 0) .null) (.int 7), .mapping [(.int 1, .null), (.int 2, .null)]),
     (.site (.context (.int 0) .null) (.kind .static), .mapping [(.int 1, .null)]),
     (.site (.context (.int 0) .null) (.kind .invalid), .mapping [(.int 1, .null)])]

theorem transform_warns_once_doubtful :
    ∃ graphs, (transform (.ofConfig ⟨.empty, true⟩ fussyResolver) doubtfulSource).1 = .ok graphs ∧
      warnings (transform (.ofConfig ⟨.empty, true⟩ fussyResolver) doubtfulSource).2 =
        [.unresolved true .null "no instruction", .unrecognized (.int 7),
         .unrecognized (.kind .invalid)] := by
  have h : (transform (.ofConfig ⟨.empty, true⟩ fussyResolver) doubtfulSource).1 = .ok _ := rfl
  obtain ⟨instructions, hnodes, _, hstrict, _⟩ := transform_warns_once h
  have heq : instructions = [.null, .int 7, .kind .static, .kind .invalid] :=
    (List.map_injective_iff.mpr (fun _ _ => Except.ok.inj) hnodes).symm
  refine ⟨_, h, ?_⟩
  rw [hstrict rfl, heq]
  rfl

end CallGraphs
