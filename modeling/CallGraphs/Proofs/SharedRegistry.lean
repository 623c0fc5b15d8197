import CallGraphs.Proofs.PassEdges
import CallGraphs.Session
import Mathlib.Data.List.DropRight
/-!
# A registry shared by transformers

Transformers work for one registry, and some of their passes fail. What the registry holds and what
a transformer remembers is told by the log of what was done: the registry has the graphs of the last
pass that succeeded since it was cleared, and a transformer has the analysis and the counts of the
last pass of its own that succeeded.
-/

namespace CallGraphs

/-- The context-insensitive graph that a pass hands out is frozen; the other is finished by its
type. -/
theorem transform_frozen {classifier : Classifier} {source : Source} {graphs : Graphs}
    (h : (transform classifier source).1 = .ok graphs) : graphs.callGraph.frozen = true := by
  obtain ⟨start, last, es, hpass⟩ := transform_eq_ok h
  rw [hpass.callGraph]

namespace Session

/-- Transformers with the given classifiers and the empty registry that they share. -/
def sharing (classifiers : List Classifier) : Session where
  transformers := classifiers.map .fresh
  registry := some .empty
  analyses := 0
  results := []

/-- The session with a further transformer. -/
def join (s : Session) (classifier : Classifier) : Session :=
  { s with transformers := s.transformers ++ [.fresh classifier] }

/-- What is done in a session. A pass is made by a transformer that is there or by a new one; the
host may end a pass with any failure of its own before there is something to hand out. -/
inductive Act where
  | transform (n : Nat) (source : Source)
  | build (classifier : Classifier) (source : Source)
  | interrupt (n : Nat) (failure : Failure)
  | clear

/-- A pass that succeeded: the transformer, the number of the analysis among all that were handed
over, what the analysis handed over, and the graphs. -/
structure Success where
  transformer : Nat
  analysis : Nat
  source : Source
  graphs : Graphs

/-- What the log says of an act. -/
inductive Entry where
  | success (x : Success)
  | failure (transformer analysis : Nat) (f : Failure)
  | clear

namespace Entry

/-- The entry of a pass by its answer. -/
def ofAnswer (n analysis : Nat) (source : Source) : Except Failure Graphs → Entry
  | .ok graphs => success ⟨n, analysis, source, graphs⟩
  | .error f => failure n analysis f

def success? : Entry → Option Success
  | success x => some x
  | _ => none

/-- The number of the analysis that was handed over. -/
def analysis? : Entry → Option Nat
  | success x => some x.analysis
  | failure _ k _ => some k
  | clear => none

def isClear : Entry → Bool
  | clear => true
  | _ => false

end Entry

/-- Do something. Nothing comes of asking for a transformer that is not there. -/
def Act.perform : Act → Session → Session × Option Entry
  | transform n source, s =>
    match s.transform n source with
    | some (s', report) => (s', some (.ofAnswer n s.analyses source report.answer))
    | none => (s, none)
  | build classifier source, s =>
    let (s', report) := s.build classifier source
    (s', some (.ofAnswer s.transformers.length s.analyses source report.answer))
  | interrupt n f, s =>
    if n < s.transformers.length then
      (s.settle n (.error f), some (.failure n s.analyses f))
    else (s, none)
  | clear, s => (s.clearRegistry, some .clear)

/-- The session after acts, and the log that was begun before them and goes on with them. -/
def run (s : Session) (log : List Entry) : List Act → Session × List Entry
  | [] => (s, log)
  | a :: as => run (a.perform s).1 (log ++ (a.perform s).2.toList) as

/-- The passes that succeeded, in order. -/
def successes (log : List Entry) : List Success :=
  log.filterMap Entry.success?

/-- The last pass that succeeded since the registry was cleared. -/
def current? (log : List Entry) : Option Success :=
  (successes (log.rtakeWhile fun e => !e.isClear)).getLast?

/-- The last pass of a transformer that succeeded. -/
def lastOf? (n : Nat) (log : List Entry) : Option Success :=
  ((successes log).filter (·.transformer == n)).getLast?

section Logs

variable (log : List Entry)

@[simp] theorem successes_append (log' : List Entry) :
    successes (log ++ log') = successes log ++ successes log' :=
  List.filterMap_append

@[simp] theorem successes_success (x : Success) : successes [.success x] = [x] := rfl

@[simp] theorem successes_failure (n k : Nat) (f : Failure) : successes [.failure n k f] = [] := rfl

@[simp] theorem successes_clear : successes [.clear] = [] := rfl

@[simp] theorem current?_success (x : Success) : current? (log ++ [.success x]) = some x := by
  simp [current?, Entry.isClear]

@[simp] theorem current?_failure (n k : Nat) (f : Failure) :
    current? (log ++ [.failure n k f]) = current? log := by
  simp [current?, Entry.isClear]

@[simp] theorem current?_clear : current? (log ++ [.clear]) = none := by
  simp [current?, Entry.isClear, successes]

theorem lastOf?_success (n : Nat) (x : Success) :
    lastOf? n (log ++ [.success x]) = if x.transformer = n then some x else lastOf? n log := by
  by_cases hn : x.transformer = n
  · simp [lastOf?, hn]
  · simp [lastOf?, hn]

/-- A pass since the last clearing is among all passes. -/
theorem current?_mem {x : Success} (hx : current? log = some x) : x ∈ successes log := by
  have hmem : x ∈ successes (log.rtakeWhile fun e => !e.isClear) := List.mem_of_getLast? hx
  obtain ⟨e, he, hex⟩ := List.mem_filterMap.mp hmem
  exact List.mem_filterMap.mpr ⟨e, (List.rtakeWhile_suffix _ _).subset he, hex⟩

end Logs

/-- The session is what the log tells. -/
structure Reflects (s : Session) (log : List Entry) : Prop where
  registry : s.registry = some
    { callGraph := (current? log).map fun x => ⟨(successes log).length - 1, x.graphs.callGraph⟩
      contextGraph :=
        (current? log).map fun x => ⟨(successes log).length - 1, x.graphs.contextGraph⟩ }
  results : s.results = (successes log).map Success.graphs
  analyses : log.filterMap Entry.analysis? = List.range s.analyses
  transformers {n : Nat} {t : Transformer} (ht : s.transformers[n]? = some t) :
    t.analysis = (lastOf? n log).map Success.analysis ∧
      t.lastStats = (lastOf? n log).map (·.graphs.stats)
  passes : ∀ x ∈ successes log, ∃ t, s.transformers[x.transformer]? = some t ∧
    (CallGraphs.transform t.classifier x.source).1 = .ok x.graphs

theorem sharing_reflects (classifiers : List Classifier) : Reflects (sharing classifiers) [] where
  registry := rfl
  results := rfl
  analyses := rfl
  transformers {n t} ht := by
    rw [sharing, List.getElem?_map, Option.map_eq_some_iff] at ht
    obtain ⟨classifier, _, rfl⟩ := ht
    exact ⟨rfl, rfl⟩
  passes x hx := by cases hx

/-- A new transformer has no passes in the log yet. -/
theorem Reflects.join {s : Session} {log : List Entry} (h : Reflects s log)
    (classifier : Classifier) : Reflects (s.join classifier) log where
  registry := h.registry
  results := h.results
  analyses := h.analyses
  transformers {n t} ht := by
    rcases Nat.lt_or_ge n s.transformers.length with hn | hn
    · rw [Session.join, List.getElem?_append_left hn] at ht
      exact h.transformers ht
    · rw [Session.join, List.getElem?_append_right hn, List.getElem?_singleton] at ht
      split at ht
      · have hnone : lastOf? n log = none := by
          rw [lastOf?, List.getLast?_eq_none_iff, List.filter_eq_nil_iff]
          intro x hx hxn
          obtain ⟨t', ht', _⟩ := h.passes x hx
          have hlt := (List.getElem?_eq_some_iff.mp ht').1
          have heq : x.transformer = n := by simpa using hxn
          omega
        cases ht
        rw [hnone]
        exact ⟨rfl, rfl⟩
      · cases ht
  passes x hx := by
    obtain ⟨t, ht, hpass⟩ := h.passes x hx
    have hlt := (List.getElem?_eq_some_iff.mp ht).1
    exact ⟨t, by rw [Session.join, List.getElem?_append_left hlt, ht], hpass⟩

theorem Reflects.clearRegistry {s : Session} {log : List Entry} (h : Reflects s log) :
    Reflects s.clearRegistry (log ++ [.clear]) where
  registry := by
    rw [current?_clear, Session.clearRegistry, h.registry]
    rfl
  results := by
    rw [successes_append, successes_clear, List.append_nil]
    exact h.results
  analyses := by
    rw [List.filterMap_append]
    exact (List.append_nil _).trans h.analyses
  transformers ht := by
    rw [lastOf?, successes_append, successes_clear, List.append_nil]
    exact h.transformers ht
  passes := by
    rw [successes_append, successes_clear, List.append_nil]
    exact h.passes

theorem Reflects.miss {s : Session} {log : List Entry} (h : Reflects s log) (n : Nat)
    (f : Failure) : Reflects s.miss (log ++ [.failure n s.analyses f]) where
  registry := by
    rw [current?_failure, successes_append, successes_failure, List.append_nil]
    exact h.registry
  results := by
    rw [successes_append, successes_failure, List.append_nil]
    exact h.results
  analyses := by
    rw [List.filterMap_append, h.analyses]
    exact List.range_succ.symm
  transformers ht := by
    rw [lastOf?, successes_append, successes_failure, List.append_nil]
    exact h.transformers ht
  passes := by
    rw [successes_append, successes_failure, List.append_nil]
    exact h.passes

theorem Reflects.succeed {s : Session} {log : List Entry} (h : Reflects s log) {n : Nat}
    {t : Transformer} {source : Source} {graphs : Graphs} (ht : s.transformers[n]? = some t)
    (hpass : (CallGraphs.transform t.classifier source).1 = .ok graphs) :
    Reflects (s.succeed n graphs) (log ++ [.success ⟨n, s.analyses, source, graphs⟩]) where
  registry := by
    have hlength : s.results.length = (successes log).length := by
      rw [h.results, List.length_map]
    rw [current?_success, successes_append, successes_success, List.length_append]
    simp [Session.succeed, h.registry, Registry.register, hlength]
  results := by
    rw [successes_append, successes_success, List.map_append, ← h.results]
    rfl
  analyses := by
    rw [List.filterMap_append, h.analyses]
    exact List.range_succ.symm
  transformers {m t'} ht' := by
    rw [Session.succeed, List.getElem?_modify] at ht'
    rw [lastOf?_success]
    obtain ⟨t₀, ht₀, rfl⟩ := Option.map_eq_some_iff.mp ht'
    by_cases hnm : n = m
    · simp [hnm]
    · simp only [if_neg hnm]
      exact h.transformers ht₀
  passes := by
    have hkeeps : ∀ (m : Nat) (t' : Transformer), s.transformers[m]? = some t' →
        ∃ t'' : Transformer, (s.succeed n graphs).transformers[m]? = some t'' ∧
          t''.classifier = t'.classifier := by
      intro m t' ht'
      rw [Session.succeed, List.getElem?_modify, ht']
      refine ⟨_, rfl, ?_⟩
      split <;> rfl
    intro x hx
    rw [successes_append, successes_success, List.mem_append, List.mem_singleton] at hx
    rcases hx with hold | rfl
    · obtain ⟨t', ht', hpass'⟩ := h.passes x hold
      obtain ⟨t'', ht'', hclassifier⟩ := hkeeps _ t' ht'
      exact ⟨t'', ht'', by rw [hclassifier]; exact hpass'⟩
    · obtain ⟨t'', ht'', hclassifier⟩ := hkeeps n t ht
      exact ⟨t'', ht'', by rw [hclassifier]; exact hpass⟩

/-- What an act can come to: nothing, a cleared registry, or a pass of a transformer, which may have
joined for it, that fails or hands out graphs. -/
theorem perform_cases (a : Act) (s : Session) :
    a.perform s = (s, none) ∨ a.perform s = (s.clearRegistry, some .clear) ∨
      ∃ s₁ n t, (s₁ = s ∨ ∃ classifier, s₁ = s.join classifier) ∧ s₁.transformers[n]? = some t ∧
        ((∃ f, a.perform s = (s₁.miss, some (.failure n s.analyses f))) ∨
          ∃ source graphs, (CallGraphs.transform t.classifier source).1 = .ok graphs ∧
            a.perform s =
              (s₁.succeed n graphs, some (.success ⟨n, s.analyses, source, graphs⟩))) := by
  cases a with
  | transform n source =>
      cases ht : s.transformers[n]? with
      | none => exact .inl (by simp [Act.perform, Session.transform, ht])
      | some t =>
          refine .inr (.inr ⟨s, n, t, .inl rfl, ht, ?_⟩)
          cases hpass : (CallGraphs.transform t.classifier source).1 with
          | error f =>
              refine .inl ⟨f, ?_⟩
              simp [Act.perform, Session.transform, ht, runWith, hpass, settle, Entry.ofAnswer]
          | ok graphs =>
              refine .inr ⟨source, graphs, hpass, ?_⟩
              simp [Act.perform, Session.transform, ht, runWith, hpass, settle, Entry.ofAnswer]
  | build classifier source =>
      refine .inr (.inr ⟨s.join classifier, s.transformers.length, .fresh classifier,
        .inr ⟨classifier, rfl⟩, by simp [join], ?_⟩)
      cases hpass : (CallGraphs.transform classifier source).1 with
      | error f =>
          refine .inl ⟨f, ?_⟩
          simp [Act.perform, Session.build, join, runWith, hpass, settle, Entry.ofAnswer]
      | ok graphs =>
          refine .inr ⟨source, graphs, hpass, ?_⟩
          simp [Act.perform, Session.build, join, runWith, hpass, settle, Entry.ofAnswer]
  | interrupt n f =>
      by_cases hn : n < s.transformers.length
      · refine .inr (.inr ⟨s, n, s.transformers[n], .inl rfl, List.getElem?_eq_getElem hn, ?_⟩)
        exact .inl ⟨f, by simp [Act.perform, hn, settle]⟩
      · exact .inl (by simp [Act.perform, hn])
  | clear => exact .inr (.inl rfl)

theorem Reflects.perform {s : Session} {log : List Entry} (h : Reflects s log) (a : Act) :
    Reflects (a.perform s).1 (log ++ (a.perform s).2.toList) := by
  rcases perform_cases a s with heq | heq | ⟨s₁, n, t, hs₁, ht, hcases⟩
  · rw [heq, Option.toList_none, List.append_nil]
    exact h
  · rw [heq]
    exact h.clearRegistry
  · have h₁ : Reflects s₁ log ∧ s₁.analyses = s.analyses := by
      rcases hs₁ with rfl | ⟨classifier, rfl⟩
      · exact ⟨h, rfl⟩
      · exact ⟨h.join classifier, rfl⟩
    rcases hcases with ⟨f, heq⟩ | ⟨source, graphs, hpass, heq⟩
    · rw [heq, ← h₁.2]
      exact h₁.1.miss n f
    · rw [heq, ← h₁.2]
      exact h₁.1.succeed ht hpass

theorem Reflects.run {s : Session} {log : List Entry} (h : Reflects s log) (acts : List Act) :
    Reflects (Session.run s log acts).1 (Session.run s log acts).2 := by
  induction acts generalizing s log with
  | nil => exact h
  | cons a acts ih => exact ih (h.perform a)

/-- A pass that fails changes no transformer that was there before it, and not the registry. -/
theorem perform_failure {a : Act} {s : Session} {n k : Nat} {f : Failure}
    (h : (a.perform s).2 = some (.failure n k f)) :
    (a.perform s).1.registry = s.registry ∧ s.transformers <+: (a.perform s).1.transformers := by
  rcases perform_cases a s with heq | heq | ⟨s₁, m, t, hs₁, _, ⟨f', heq⟩ | ⟨_, _, _, heq⟩⟩
  · rw [heq] at h
    cases h
  · rw [heq] at h
    cases h
  · rw [heq]
    rcases hs₁ with rfl | ⟨classifier, rfl⟩
    · exact ⟨rfl, List.prefix_refl _⟩
    · exact ⟨rfl, List.prefix_append _ _⟩
  · rw [heq] at h
    cases h

/-- The session after any acts, failing passes included, is what their log tells. The registry holds
nothing or both graphs of one pass, the last that succeeded since it was cleared, and what it holds
is frozen. A transformer has the analysis and the counts of its own last pass that succeeded, and
that pass is what its classifier makes of what the analysis handed over. Analyses are numbered as
they were handed over, and results as they came out. The next pass, if it fails, leaves the registry
and every transformer as they are. -/
theorem session_follows_last_successes (classifiers : List Classifier) (acts : List Act) :
    let s := (run (sharing classifiers) [] acts).1
    let log := (run (sharing classifiers) [] acts).2
    (∃ r, s.registry = some r ∧
      r.callGraph =
        (current? log).map (fun x => ⟨(successes log).length - 1, x.graphs.callGraph⟩) ∧
      r.contextGraph =
        (current? log).map (fun x => ⟨(successes log).length - 1, x.graphs.contextGraph⟩) ∧
      ∀ published, r.callGraph = some published → published.graph.frozen = true) ∧
    s.results = (successes log).map Success.graphs ∧
    log.filterMap Entry.analysis? = List.range s.analyses ∧
    (∀ n t, s.transformers[n]? = some t →
      t.analysis = (lastOf? n log).map Success.analysis ∧
        t.lastStats = (lastOf? n log).map (·.graphs.stats)) ∧
    (∀ x ∈ successes log, ∃ t, s.transformers[x.transformer]? = some t ∧
      (CallGraphs.transform t.classifier x.source).1 = .ok x.graphs) ∧
    ∀ act n k f, (Act.perform act s).2 = some (.failure n k f) →
      (act.perform s).1.registry = s.registry ∧
        s.transformers <+: (act.perform s).1.transformers := by
  intro s log
  have h : Reflects s log := (sharing_reflects classifiers).run acts
  refine ⟨⟨_, h.registry, rfl, rfl, ?_⟩, h.results, h.analyses, fun n t => h.transformers,
    h.passes, fun act n k f => perform_failure⟩
  intro published hpublished
  obtain ⟨x, hx, rfl⟩ := Option.map_eq_some_iff.mp hpublished
  obtain ⟨t, _, hpass⟩ := h.passes x (current?_mem log hx)
  exact transform_frozen hpass

/-- Two transformers: the first succeeds, the second fails at a procedure that cannot be a key, the
registry is cleared, the first is interrupted, and the second succeeds. A third that joins then
fails at a call site. -/
def mixedActs : List Act :=
  [.transform 0 repeatingSource, .transform 1 ⟨[.list []], []⟩, .clear, .interrupt 0 .nullNode,
   .transform 1 ⟨[.int 5], []⟩, .build staticClassifier ⟨[], [(.null, .mapping [])]⟩]

theorem session_follows_mixed_acts :
    let s := (run (sharing [staticClassifier, staticClassifier]) [] mixedActs).1
    ∃ r graphs, (CallGraphs.transform staticClassifier ⟨[.int 5], []⟩).1 = .ok graphs ∧
      s.registry = some r ∧ r.callGraph = some ⟨1, graphs.callGraph⟩ ∧
      r.contextGraph = some ⟨1, graphs.contextGraph⟩ ∧ graphs.callGraph.frozen = true ∧
      s.transformers.map Transformer.analysis = [some 0, some 3, none] := by
  intro s
  have hlog := session_follows_last_successes [staticClassifier, staticClassifier] mixedActs
  obtain ⟨⟨r, hregistry, hcall, hcontext, hfrozen⟩, _⟩ := hlog
  have hpass : (CallGraphs.transform staticClassifier ⟨[.int 5], []⟩).1 = .ok _ := rfl
  refine ⟨r, _, hpass, hregistry, hcall, hcontext, hfrozen _ hcall, rfl⟩

end Session

end CallGraphs
