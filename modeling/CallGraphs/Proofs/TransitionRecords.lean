import CallGraphs.Proofs.CallSequences
import CallGraphs.Proofs.ValueEquality
import CallGraphs.TransitionTable
import Mathlib.Data.List.Induction
/-!
# What a transition table records

Calls are recorded one after another. Of two records with equal call sites and equal targets the
later one decides the context, while the order of the call sites, and of the targets of one call
site, is that of their first records.
-/

namespace CallGraphs

/-- A call that is recorded: the call site, the target, and the context in which it is analysed. -/
structure CallRecord where
  site : Value
  target : Value
  context : Value

namespace TransitionTable

/-- The procedure that makes the calls of a call site, unless there is none. -/
def callerOf (site : Value) : List Value :=
  match caller site with
  | .ok source => if source.isNull then [] else [source]
  | .error _ => []

/-- The targets of a call site by target. -/
def targetsAt (t : TransitionTable) (site : Value) : OrdMap Value Value :=
  (t.transitions.get? site).getD .empty

/-- The table with a call recorded whose parts can be keys. -/
def enter (t : TransitionTable) (r : CallRecord) : TransitionTable :=
  { t.record r.site r.target r.context with
    methods := Distinct.extend t.methods (callerOf r.site ++ [r.target]) }

/-- The table with calls recorded one after another. -/
def enterAll (t : TransitionTable) (rs : List CallRecord) : TransitionTable :=
  rs.foldl enter t

/-- The last record of a call site and a target. -/
def lastRecord? (rs : List CallRecord) (site target : Value) : Option CallRecord :=
  (rs.filter fun r => site == r.site && target == r.target).getLast?

theorem hashable_of_getMethod {ctx source : Value} (hctx : ctx.hashable = true)
    (h : ctx.getMethod = .ok source) : source.hashable = true := by
  cases ctx with
  | context method value =>
      cases h
      exact (Value.hashable_iff.mp hctx).2.2 source (by simp [Value.parts])
  | host name method =>
      cases h
      exact (Value.hashable_iff.mp hctx).2.2 source (by simp [Value.parts])
  | _ => cases h

theorem hashable_of_caller {site source : Value} (hsite : site.hashable = true)
    (h : caller site = .ok source) : source.hashable = true := by
  cases site with
  | site ctx node =>
      have hctx := (Value.hashable_iff.mp hsite).2.2 ctx (by simp [Value.parts])
      exact hashable_of_getMethod hctx h
  | halfSite ctx =>
      have hctx := (Value.hashable_iff.mp hsite).2.2 ctx (by simp [Value.parts])
      exact hashable_of_getMethod hctx h
  | _ => cases h

theorem callerOf_eq {site source : Value} (hcaller : caller site = .ok source) :
    callerOf site = if source.isNull then [] else [source] := by
  rw [callerOf, hcaller]

theorem addMethod_of_hashable (t : TransitionTable) {method : Value}
    (hmethod : method.hashable = true) :
    t.addMethod method = .done { t with methods := Distinct.insert t.methods method } () := by
  rw [addMethod, Outcome.withKey_of_hashable hmethod]

/-- A call whose site has a caller and whose parts can be keys is recorded. -/
theorem addTransition_eq_enter (t : TransitionTable) {site target source : Value}
    (hsite : site.hashable = true) (hcaller : caller site = .ok source)
    (htarget : target.hashable = true) (ctx : Value) :
    t.addTransition site target ctx = .done (t.enter ⟨site, target, ctx⟩) () := by
  have hsource := hashable_of_caller hsite hcaller
  unfold addTransition enter callerOf
  simp only [hcaller]
  cases hnull : source.isNull with
  | true =>
      simp only [↓reduceIte, Outcome.done_andThen, addMethod_of_hashable _ htarget,
        Outcome.withKey_of_hashable hsite]
      rfl
  | false =>
      simp only [Bool.false_eq_true, ↓reduceIte, Outcome.done_andThen,
        addMethod_of_hashable _ hsource, addMethod_of_hashable _ htarget,
        Outcome.withKey_of_hashable hsite]
      rfl

theorem enterAll_append (t : TransitionTable) (rs rs' : List CallRecord) :
    t.enterAll (rs ++ rs') = (t.enterAll rs).enterAll rs' :=
  List.foldl_append

theorem enterAll_singleton (t : TransitionTable) (r : CallRecord) :
    t.enterAll [r] = t.enter r := rfl

/-- The procedures are those that were known, and then of each record the caller and the target. -/
theorem methods_enterAll (t : TransitionTable) (rs : List CallRecord) :
    (t.enterAll rs).methods =
      Distinct.extend t.methods (rs.flatMap fun r => callerOf r.site ++ [r.target]) := by
  induction rs generalizing t with
  | nil => rfl
  | cons r rs ih =>
      rw [List.flatMap_cons, Distinct.extend_append]
      exact ih (t.enter r)

/-- The call sites are in the order of their first records. -/
theorem keys_enterAll (t : TransitionTable) (rs : List CallRecord) :
    (t.enterAll rs).transitions.keys =
      Distinct.extend t.transitions.keys (rs.map CallRecord.site) := by
  induction rs generalizing t with
  | nil => rfl
  | cons r rs ih =>
      have hkeys : (t.enter r).transitions.keys = Distinct.insert t.transitions.keys r.site :=
        OrdMap.keys_alter t.transitions r.site _
      rw [List.map_cons, Distinct.extend_cons, ← hkeys]
      exact ih (t.enter r)

/-- Recording a call changes the targets of its call site only. -/
theorem targetsAt_enter (t : TransitionTable) {r : CallRecord} (hr : r.site.hashable = true)
    (site : Value) :
    (t.enter r).targetsAt site =
      if site == r.site then (t.targetsAt site).insert r.target r.context
      else t.targetsAt site := by
  have hget : (t.enter r).transitions.get? site =
      if site == r.site then some ((t.targetsAt r.site).insert r.target r.context)
      else t.transitions.get? site :=
    OrdMap.get?_alter Value.equivOn_hashable hr t.transitions _ site
  unfold targetsAt at hget ⊢
  rw [hget]
  cases hsite : site == r.site with
  | false => rfl
  | true =>
      have hsite' : (r.site == site) = true :=
        (Value.equivOn_hashable.comm hr site).trans hsite
      rw [← OrdMap.get?_congr Value.equivOn_hashable hr hsite']
      rfl

/-- The targets of a call site are in the order of their first records. -/
theorem keys_targetsAt_enterAll (t : TransitionTable) {rs : List CallRecord}
    (hrs : ∀ r ∈ rs, r.site.hashable = true) (site : Value) :
    ((t.enterAll rs).targetsAt site).keys =
      Distinct.extend (t.targetsAt site).keys
        ((rs.filter (site == ·.site)).map CallRecord.target) := by
  induction rs generalizing t with
  | nil => rfl
  | cons r rs ih =>
      obtain ⟨hr, hrest⟩ := List.forall_mem_cons.mp hrs
      have hrun : ((t.enterAll (r :: rs)).targetsAt site).keys =
          (((t.enter r).enterAll rs).targetsAt site).keys := rfl
      rw [hrun, ih (t.enter r) hrest, targetsAt_enter t hr]
      cases hsite : site == r.site with
      | false => simp [hsite]
      | true =>
          have hfilter : (r :: rs).filter (site == ·.site) = r :: rs.filter (site == ·.site) :=
            List.filter_cons_of_pos hsite
          rw [if_pos rfl, hfilter, List.map_cons, Distinct.extend_cons]
          exact congrArg (Distinct.extend · _) (OrdMap.keys_alter (t.targetsAt site) r.target _)

/-- The targets of an entry are those it had, or also the recorded one. -/
theorem keys_of_mem_enter {t : TransitionTable} {r : CallRecord} (hsite : r.site.hashable = true)
    {e : Value × OrdMap Value Value} (he : e ∈ (t.enter r).transitions.entries) :
    e ∈ t.transitions.entries ∨
      ∃ old : OrdMap Value Value, (old = .empty ∨ (e.1, old) ∈ t.transitions.entries) ∧
        e.2.keys = Distinct.insert old.keys r.target := by
  rcases OrdMap.mem_alter (Value.equivOn_hashable.refl hsite) he with hold |
    ⟨_, old, heq, hbefore⟩
  · exact .inl hold
  · right
    rw [heq]
    refine ⟨old.getD .empty, ?_, OrdMap.keys_alter _ r.target _⟩
    cases old with
    | none => exact .inl rfl
    | some targets => exact .inr (hbefore targets rfl)

/-- The targets are those that were there and those of the records, as they were recorded. -/
theorem target_mem_enterAll {t : TransitionTable} {rs : List CallRecord}
    (hrs : ∀ r ∈ rs, r.site.hashable = true) {e : Value × OrdMap Value Value}
    (he : e ∈ (t.enterAll rs).transitions.entries) {target : Value} (htarget : target ∈ e.2.keys) :
    (∃ e₀ ∈ t.transitions.entries, target ∈ e₀.2.keys) ∨ ∃ r ∈ rs, r.target = target := by
  induction rs generalizing t with
  | nil => exact .inl ⟨e, he, htarget⟩
  | cons r rs ih =>
      obtain ⟨hr, hrest⟩ := List.forall_mem_cons.mp hrs
      rcases ih hrest he with ⟨e₀, he₀, hmem⟩ | ⟨r', hr', heq⟩
      · rcases keys_of_mem_enter hr he₀ with hold | ⟨old, hold, hkeys⟩
        · exact .inl ⟨e₀, hold, hmem⟩
        · rw [hkeys] at hmem
          rcases Distinct.mem_insert hmem with hmem | heq
          · rcases hold with rfl | hold
            · cases hmem
            · exact .inl ⟨_, hold, hmem⟩
          · exact .inr ⟨r, List.mem_cons_self, heq.symm⟩
      · exact .inr ⟨r', List.mem_cons_of_mem r hr', heq⟩

/-- A table lists a target of a call site with a context. -/
def Lists (t : TransitionTable) (site target ctx : Value) : Prop :=
  ∃ targets, (site, targets) ∈ t.transitions.entries ∧ (target, ctx) ∈ targets.entries

/-- What is listed after a call was recorded was listed before or is what the record says. -/
theorem lists_enter {t : TransitionTable} {r : CallRecord} (hsite : r.site.hashable = true)
    (htarget : r.target.hashable = true) {site target ctx : Value}
    (h : (t.enter r).Lists site target ctx) :
    t.Lists site target ctx ∨
      (r.site == site) = true ∧ (r.target == target) = true ∧ r.context = ctx := by
  obtain ⟨targets, htargets, hmem⟩ := h
  rcases OrdMap.mem_alter (Value.equivOn_hashable.refl hsite) htargets with hold |
    ⟨hkey, old, rfl, hbefore⟩
  · exact .inl ⟨targets, hold, hmem⟩
  · rcases OrdMap.mem_alter (Value.equivOn_hashable.refl htarget) hmem with hlisted |
      ⟨hkey', _, hctx, _⟩
    · cases old with
      | none => cases hlisted
      | some found => exact .inl ⟨found, hbefore found rfl, hlisted⟩
    · exact .inr ⟨hkey, hkey', hctx.symm⟩

/-- Whatever a table lists comes from what it had or from a record. -/
theorem lists_enterAll {t : TransitionTable} {rs : List CallRecord}
    (hrs : ∀ r ∈ rs, r.site.hashable = true ∧ r.target.hashable = true) {site target ctx : Value}
    (h : (t.enterAll rs).Lists site target ctx) :
    t.Lists site target ctx ∨
      ∃ r ∈ rs, (r.site == site) = true ∧ (r.target == target) = true ∧ r.context = ctx := by
  induction rs generalizing t with
  | nil => exact .inl h
  | cons r rs ih =>
      obtain ⟨hr, hrest⟩ := List.forall_mem_cons.mp hrs
      rcases ih hrest h with hbefore | ⟨r', hr', hlisted⟩
      · rcases lists_enter hr.1 hr.2 hbefore with hold | hnew
        · exact .inl hold
        · exact .inr ⟨r, List.mem_cons_self, hnew⟩
      · exact .inr ⟨r', List.mem_cons_of_mem r hr', hlisted⟩

theorem lastRecord?_concat (rs : List CallRecord) (r : CallRecord) (site target : Value) :
    lastRecord? (rs ++ [r]) site target =
      if site == r.site && target == r.target then some r else lastRecord? rs site target := by
  unfold lastRecord?
  rw [List.filter_append]
  cases hr : site == r.site && target == r.target with
  | true => simp [hr]
  | false => simp [hr]

/-- The context of a target is that of its last record; a target without record is as it was. -/
theorem get?_targetsAt_enterAll (t : TransitionTable) {rs : List CallRecord}
    (hrs : ∀ r ∈ rs, r.site.hashable = true ∧ r.target.hashable = true) (site target : Value) :
    ((t.enterAll rs).targetsAt site).get? target =
      ((lastRecord? rs site target).map CallRecord.context).or
        ((t.targetsAt site).get? target) := by
  induction rs using List.reverseRecOn with
  | nil => rfl
  | append_singleton rs r ih =>
      obtain ⟨hbefore, hlast⟩ := List.forall_mem_append.mp hrs
      obtain ⟨hsite, htarget⟩ := hlast r List.mem_cons_self
      rw [enterAll_append, enterAll_singleton, targetsAt_enter _ hsite, lastRecord?_concat]
      cases hs : site == r.site with
      | false => exact ih hbefore
      | true =>
          rw [if_pos rfl, OrdMap.insert, OrdMap.get?_alter Value.equivOn_hashable htarget,
            Bool.true_and]
          cases ht : target == r.target with
          | false => exact ih hbefore
          | true => rfl

end TransitionTable

end CallGraphs
