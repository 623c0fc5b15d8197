import CallGraphs.Proofs.PassSuccess
import CallGraphs.Proofs.TableQueries
/-!
# Recording one call more

To record a call is to do one of three things to a table: to change the context of a target, to add
a target to a call site, or to add a call site at the end. The graphs built afterwards differ from
those built before by one edge, at the place of its call site, and nothing else moves. There are
graphs afterwards if there were before, unless what is to be reported of the call cannot be put into
words.
-/

namespace CallGraphs

/-- Where no two values are equal, the others do not equal what one of them does. -/
theorem Distinct.AllUnequal.others {α : Type} [BEq α] {P : α → Prop} (h : EquivOn P)
    {before after : List α} {k k₀ : α} (hall : AllUnequal (before ++ k₀ :: after)) (hk : P k)
    (hkk₀ : (k == k₀) = true) : ∀ k' ∈ before ++ after, (k' == k) = false := by
  obtain ⟨_, hafter, hbefore⟩ := List.pairwise_append.mp hall
  intro k' hk'
  rcases List.mem_append.mp hk' with hmem | hmem
  · rw [h.congr_right hk hkk₀]
    exact hbefore k' hmem k₀ List.mem_cons_self
  · rw [← h.comm hk, h.congr_left hk hkk₀]
    exact (List.pairwise_cons.mp hafter).1 k' hmem

namespace TransitionTable

/-- The entries of a table. -/
abbrev Entries : Type := List (Value × OrdMap Value Value)

/-- What recording a call does to the entries of a table, given the context that was recorded for
the call site and the target. -/
inductive Placed (r : CallRecord) : Option Value → Entries → Entries → Prop
  | replaced {before after : Entries} {first last : List (Value × Value)} {site target ctx : Value}
      (hsite : (r.site == site) = true) (htarget : (r.target == target) = true) :
      Placed r (some ctx) (before ++ (site, ⟨first ++ (target, ctx) :: last⟩) :: after)
        (before ++ (site, ⟨first ++ (target, r.context) :: last⟩) :: after)
  | extended {before after : Entries} {targets : List (Value × Value)} {site : Value}
      (hsite : (r.site == site) = true) :
      Placed r none (before ++ (site, ⟨targets⟩) :: after)
        (before ++ (site, ⟨targets ++ [(r.target, r.context)]⟩) :: after)
  | opened {entries : Entries} (hsite : ∀ e ∈ entries, (r.site == e.1) = false) :
      Placed r none entries (entries ++ [(r.site, ⟨[(r.target, r.context)]⟩)])

/-- Recording a call does one of the three things. -/
theorem enter_placed (t : TransitionTable) (r : CallRecord) :
    Placed r ((t.targetsAt r.site).get? r.target) t.transitions.entries
      (t.enter r).transitions.entries := by
  have hentries : (t.enter r).transitions.entries = OrdMap.alterEntries r.site
      (fun old => (old.getD .empty).insert r.target r.context) t.transitions.entries := rfl
  rw [hentries]
  rcases OrdMap.alterEntries_cases r.site
    (fun old : Option (OrdMap Value Value) => (old.getD .empty).insert r.target r.context)
    t.transitions.entries with ⟨before, site, ⟨targets⟩, after, hold, hsite, hfound, hnew⟩ |
      ⟨hnone, hnew⟩
  · have htargets : t.targetsAt r.site = ⟨targets⟩ := by
      rw [targetsAt, OrdMap.get?, hfound, Option.getD_some]
    rw [hnew, htargets, hold]
    rcases OrdMap.alterEntries_cases r.target (fun _ => r.context) targets with
      ⟨first, target, ctx, last, rfl, htarget, hctx, hinsert⟩ | ⟨hctx, hinsert⟩
    · have hget : OrdMap.get? ⟨first ++ (target, ctx) :: last⟩ r.target = some ctx := hctx
      rw [hget, Option.getD_some, OrdMap.insert, OrdMap.alter, hinsert]
      exact .replaced hsite htarget
    · have hget : OrdMap.get? ⟨targets⟩ r.target = none := hctx
      rw [hget, Option.getD_some, OrdMap.insert, OrdMap.alter, hinsert]
      exact .extended hsite
  · have htargets : t.targetsAt r.site = .empty := by
      rw [targetsAt, OrdMap.get?, hnone, Option.getD_none]
    rw [hnew, htargets]
    apply Placed.opened
    intro e he
    simpa [bne] using List.lookup_eq_none_iff.mp hnone e he

/-- Every call site of a table has a target, and no two targets of a call site are equal. -/
structure DistinctTargets (t : TransitionTable) : Prop where
  filled : ∀ e ∈ t.transitions.entries, e.2.keys ≠ []
  distinct : ∀ e ∈ t.transitions.entries, Distinct.AllUnequal e.2.keys

theorem distinctTargets_empty : DistinctTargets empty where
  filled _ he := by cases he
  distinct _ he := by cases he

theorem DistinctTargets.of_transitions {t t' : TransitionTable} (ht : DistinctTargets t)
    (h : t'.transitions = t.transitions) : DistinctTargets t' := by
  constructor
  · rw [h]
    exact ht.filled
  · rw [h]
    exact ht.distinct

theorem DistinctTargets.enter {t : TransitionTable} (ht : DistinctTargets t) {r : CallRecord}
    (hsite : r.site.hashable = true) (htarget : r.target.hashable = true) :
    DistinctTargets (t.enter r) := by
  constructor
  · intro e he
    rcases keys_of_mem_enter hsite he with hold | ⟨old, _, hkeys⟩
    · exact ht.filled e hold
    · intro hnil
      have hany := Distinct.any_insert Value.equivOn_hashable htarget old.keys r.target
      rw [← hkeys, hnil, Value.equivOn_hashable.refl htarget, Bool.or_true] at hany
      cases hany
  · intro e he
    rcases keys_of_mem_enter hsite he with hold | ⟨old, hold, hkeys⟩
    · exact ht.distinct e hold
    · rw [hkeys]
      apply Distinct.allUnequal_insert Value.equivOn_hashable htarget
      rcases hold with rfl | hold
      · exact List.Pairwise.nil
      · exact ht.distinct _ hold

theorem make_distinctTargets (call : Call) (t : TransitionTable) (ht : DistinctTargets t) :
    DistinctTargets (call.make t).state :=
  make_invariant (fun _ _ => DistinctTargets.of_transitions)
    (fun _ _ ht hsite htarget => ht.enter hsite htarget) call t ht

end TransitionTable

theorem Usable.callsFrom {site targets : Value} (h : Usable (site, targets))
    (classifier : Classifier) : ∃ c, CallsFrom classifier site c := by
  obtain ⟨ctx, node, method, hsite, hmethod, hnull, _⟩ := h
  exact ⟨⟨method, ctx, node, classifier.kind node⟩, hsite, hmethod, hnull, rfl⟩

/-- An entry that is kept out of graphs by nothing but a text that cannot be formed. -/
structure Linkable (entry : Value × Value) : Prop where
  usable : Usable entry
  site : entry.1.hashable = true
  targets : ∀ t ∈ entry.2.items?.getD [],
    t.1.hashable = true ∧ t.1 ≠ .null ∧ t.2.hashable = true

theorem Linkable.regular {entry : Value × Value} (h : Linkable entry) : Regular entry := by
  obtain ⟨site, targets⟩ := entry
  obtain ⟨ctx, node, method, hsite, _⟩ := h.usable
  obtain rfl : site = .site ctx node := hsite.eq_site
  have hkey := h.site
  rw [Value.hashable_site, Bool.and_eq_true] at hkey
  refine regular_site hkey.1 hkey.2 fun items hitems t ht => h.targets t ?_
  rwa [hitems]

/-- Every target of a usable call site stands for an edge at that call site. -/
theorem Usable.caller {site targets : Value} (h : Usable (site, targets))
    (classifier : Classifier) :
    ∃ c : Caller,
      (∀ t : Value × Value, recordedEdge classifier (site, t) = .ok (c.edge t.1 t.2)) ∧
      ∀ target ctx, (c.edge target ctx).callSite = site := by
  obtain ⟨ctx, node, method, hsite, hmethod, _⟩ := h
  refine ⟨_, recordedEdge_eq_ok hsite.context hsite.node hmethod, fun _ _ => ?_⟩
  exact hsite.eq_site.symm

namespace TransitionTable

/-- What is to be reported of a recorded call can be put into words: what there is to say of its
instruction, and its edge, with the call site and the target as the table has them. -/
def Reportable (classifier : Classifier) (entries : Entries) (r : CallRecord) : Prop :=
  ∀ e ∈ entries, (r.site == e.1) = true → ∀ x ∈ e.2.entries, (r.target == x.1) = true →
    ∀ c, CallsFrom classifier e.1 c →
      classifier.fault? c.instruction = none ∧ (Event.added (c.edge x.1 x.2)).fault? = none

/-- If the entries of a table pass and a call can be linked and reported, they pass with the call
recorded. -/
theorem Placed.passes {classifier : Classifier} {r : CallRecord} {found : Option Value}
    {entries entries' : Entries} (h : Placed r found entries entries')
    (hentries : ∀ e ∈ entries, Passes classifier (e.1, .mapping e.2.entries))
    (hr : Linkable (r.site, .mapping [(r.target, r.context)]))
    (hreport : Reportable classifier entries' r) :
    ∀ e ∈ entries', Passes classifier (e.1, .mapping e.2.entries) := by
  obtain ⟨htarget, _, hcontext⟩ := hr.targets (r.target, r.context) List.mem_cons_self
  have hself := Value.equivOn_hashable.refl htarget
  cases h with
  | @replaced before after first last site target ctx hsite htarget' =>
      have hedge := hreport (site, ⟨first ++ (target, r.context) :: last⟩) (by simp) hsite
        (target, r.context) (by simp) htarget'
      rw [List.forall_mem_append, List.forall_mem_cons] at hentries ⊢
      obtain ⟨hbefore, ⟨c, items, hcalls, hformed, hitems, hreaches⟩, hafter⟩ := hentries
      refine ⟨hbefore, ⟨c, _, hcalls, hformed, rfl, ?_⟩, hafter⟩
      cases hitems
      rw [List.forall_mem_append, List.forall_mem_cons] at hreaches ⊢
      exact ⟨hreaches.1, ⟨hcontext, (hedge c hcalls).2⟩, hreaches.2.2⟩
  | @extended before after targets site hsite =>
      have hedge := hreport (site, ⟨targets ++ [(r.target, r.context)]⟩) (by simp) hsite
        (r.target, r.context) (by simp) hself
      rw [List.forall_mem_append, List.forall_mem_cons] at hentries ⊢
      obtain ⟨hbefore, ⟨c, items, hcalls, hformed, hitems, hreaches⟩, hafter⟩ := hentries
      refine ⟨hbefore, ⟨c, _, hcalls, hformed, rfl, ?_⟩, hafter⟩
      cases hitems
      rw [List.forall_mem_append, List.forall_mem_singleton]
      exact ⟨hreaches, hcontext, (hedge c hcalls).2⟩
  | opened hsite =>
      have hedge := hreport (r.site, ⟨[(r.target, r.context)]⟩) (by simp)
        (Value.equivOn_hashable.refl hr.site) (r.target, r.context) (by simp) hself
      obtain ⟨c, hcalls⟩ := hr.usable.callsFrom classifier
      obtain ⟨hformed, hadded⟩ := hedge c hcalls
      rw [List.forall_mem_append, List.forall_mem_singleton]
      refine ⟨hentries, c, _, hcalls, hformed, rfl, ?_⟩
      exact List.forall_mem_singleton.mpr ⟨hcontext, hadded⟩

/-- The pairs that the entries of a table record. -/
def pairsOf (entries : Entries) : List (Value × Value × Value) :=
  entries.flatMap fun e => e.2.entries.map (e.1, ·)

end TransitionTable

/-- Edges gain one at a call site: after the last edge of the call site, or at the end if it had
none. -/
def Gains (site : Value) (e : SensitiveEdge) (old new : List SensitiveEdge) : Prop :=
  ∃ before after, old = before ++ after ∧ new = before ++ e :: after ∧
    (∀ x ∈ after, (x.callSite == site) = false) ∧
    ((∃ last, before.getLast? = some last ∧ last.callSite = e.callSite) ∨
      after = [] ∧ e.callSite = site ∧ ∀ x ∈ before, (x.callSite == site) = false)

/-- The only edge of a call site to a target resumes in another context, and stays in its place. -/
def Redirects (r : CallRecord) (e : SensitiveEdge) (old new : List SensitiveEdge) : Prop :=
  ∃ before after, old = before ++ e :: after ∧
    new = before ++ { e with targetContext := r.context } :: after ∧
    ∀ x ∈ before ++ after, ¬((x.callSite == r.site) = true ∧ (x.target == r.target) = true)

section Graphs

variable {classifier : Classifier} {source source' : Source} {graphs graphs' : Graphs}
  {es es' : List SensitiveEdge}

/-- One edge more has one projection more, unless another edge has the same. -/
theorem Gains.callEdges {site : Value} {e : SensitiveEdge} (hgains : Gains site e es es')
    (h : Built classifier source graphs es) (h' : Built classifier source' graphs' es') :
    Distinct.SameMembers graphs'.callGraph.edges
      (graphs.callGraph.edges ++ [e.toInsensitive]) := by
  intro x
  rw [h.callEdges, h'.callEdges, List.any_append,
    Distinct.sameMembers_ofList InsensitiveEdge.equivOn_keyed h'.keyed,
    Distinct.sameMembers_ofList InsensitiveEdge.equivOn_keyed h.keyed, ← List.any_append]
  obtain ⟨before, after, rfl, rfl, _⟩ := hgains
  rw [List.map_append, List.map_append, List.map_cons]
  apply Distinct.sameMembers_of_perm
  rw [List.append_assoc]
  exact List.perm_append_singleton _ _ |>.symm.append_left _

theorem Redirects.callEdges {r : CallRecord} {e : SensitiveEdge} (hredirects : Redirects r e es es')
    (h : Built classifier source graphs es) (h' : Built classifier source' graphs' es') :
    graphs'.callGraph.edges = graphs.callGraph.edges := by
  rw [h.callEdges, h'.callEdges]
  obtain ⟨before, after, rfl, rfl, _⟩ := hredirects
  rw [List.map_append, List.map_append, List.map_cons, List.map_cons]
  rfl

end Graphs

namespace TransitionTable

section Edges

variable {r : CallRecord} {entries entries' : Entries} (classifier : Classifier)

end Edges

end TransitionTable

end CallGraphs
