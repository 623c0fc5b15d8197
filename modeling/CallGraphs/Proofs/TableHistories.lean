import CallGraphs.Proofs.TableUpdates
/-!
# Histories of a table

A table is made by calls, and any of them may fail, even half-way. Its transitions are those that the
successful calls record, one after another; a failing call leaves them alone and makes procedures
known at most. So whatever a table records comes from calls that succeeded, and these have made their
callers and their targets known.
-/

namespace CallGraphs

/-- The call site and the target of a call that is recorded. -/
def CallRecord.pair (r : CallRecord) : Value × Value :=
  (r.site, r.target)

namespace TransitionTable

/-- What a call records if it succeeds. -/
def Call.record? : Call → Option CallRecord
  | addMethod _ => none
  | addTransition site target ctx => some ⟨site, target, ctx⟩

/-- What the successful ones of some calls record, given the answers of all of them. -/
def successes (calls : List Call) (answers : List (Except Failure Unit)) : List CallRecord :=
  (calls.zip answers).filterMap fun c => if c.2.isOk then c.1.record? else none

/-- A record whose call site has a caller and whose parts can be keys. -/
structure Recordable (r : CallRecord) : Prop where
  site : r.site.hashable = true
  target : r.target.hashable = true
  caller : ∃ source, caller r.site = .ok source

theorem Recordable.hashable_callerOf {r : CallRecord} (hr : Recordable r) :
    ∀ m ∈ callerOf r.site, m.hashable = true := by
  obtain ⟨source, hcaller⟩ := hr.caller
  intro m hm
  rw [callerOf_eq hcaller] at hm
  by_cases hnull : source.isNull = true
  · rw [if_pos hnull] at hm
    cases hm
  · rw [if_neg hnull, List.mem_singleton] at hm
    rw [hm]
    exact hashable_of_caller hr.site hcaller

/-- Both sides of a pair can be keys. -/
abbrev KeyPair (x : Value × Value) : Prop :=
  x.1.hashable = true ∧ x.2.hashable = true

theorem Recordable.keyPair {r : CallRecord} (hr : Recordable r) : KeyPair r.pair :=
  ⟨hr.site, hr.target⟩

/-- A call succeeds if its site has a caller and its parts can be keys. -/
theorem addTransition_eq_ok_iff (t : TransitionTable) (site target ctx : Value) :
    (t.addTransition site target ctx).answer = .ok () ↔ Recordable ⟨site, target, ctx⟩ := by
  constructor
  · intro hok
    rcases t.addTransition_outcome site target ctx with ⟨hsite, htarget, hcaller, _⟩ |
      ⟨f, added, _, _, hfail⟩
    · exact ⟨hsite, htarget, hcaller⟩
    · rw [hfail] at hok
      cases hok
  · rintro ⟨hsite, htarget, source, hcaller⟩
    rw [t.addTransition_eq_enter hsite hcaller htarget ctx]
    rfl

/-- A table with a history: its transitions are those of the records, and all that the records speak
of is known. -/
structure Follows (t : TransitionTable) (rs : List CallRecord) : Prop where
  transitions : t.transitions = (empty.enterAll rs).transitions
  recordable : ∀ r ∈ rs, Recordable r
  known : ∀ r ∈ rs, ∀ m ∈ callerOf r.site ++ [r.target], t.methods.any (m == ·) = true
  distinct : Distinct.AllUnequal t.methods

theorem follows_empty : Follows empty [] where
  transitions := rfl
  recordable _ hr := by cases hr
  known _ hr := by cases hr
  distinct := List.Pairwise.nil

/-- Further procedures change nothing of a history. -/
theorem Follows.withMethods {t : TransitionTable} {rs : List CallRecord} (h : Follows t rs)
    {added : List Value} (hadded : ∀ m ∈ added, m.hashable = true) :
    Follows { t with methods := Distinct.extend t.methods added } rs where
  transitions := h.transitions
  recordable := h.recordable
  known r hr m hm := by
    rw [Distinct.any_extend Value.equivOn_hashable hadded, h.known r hr m hm, Bool.true_or]
  distinct := Distinct.allUnequal_extend Value.equivOn_hashable h.distinct hadded

/-- A record that is entered goes at the end of the history. -/
theorem Follows.enter {t : TransitionTable} {rs : List CallRecord} (h : Follows t rs)
    {r : CallRecord} (hr : Recordable r) : Follows (t.enter r) (rs ++ [r]) := by
  have hadded : ∀ m ∈ callerOf r.site ++ [r.target], m.hashable = true := by
    refine List.forall_mem_append.mpr ⟨hr.hashable_callerOf, ?_⟩
    simpa using hr.target
  have hgrown := h.withMethods hadded
  refine ⟨?transitions, ?recordable, ?known, hgrown.distinct⟩
  case transitions =>
    change (t.record r.site r.target r.context).transitions = _
    rw [record, h.transitions, enterAll_append, enterAll_singleton]
    rfl
  case recordable =>
    exact List.forall_mem_append.mpr ⟨h.recordable, by simpa using hr⟩
  case known =>
    intro r' hr' m hm
    rcases List.mem_append.mp hr' with hold | hnew
    · exact hgrown.known r' hold m hm
    · rw [List.mem_singleton.mp hnew] at hm
      change (Distinct.extend t.methods (callerOf r.site ++ [r.target])).any (m == ·) = true
      rw [Distinct.any_extend Value.equivOn_hashable hadded,
        Distinct.any_self Value.equivOn_hashable (hadded m hm) hm, Bool.or_true]

theorem successes_cons (call : Call) (calls : List Call) (answer : Except Failure Unit)
    (answers : List (Except Failure Unit)) :
    successes (call :: calls) (answer :: answers) =
      successes [call] [answer] ++ successes calls answers := by
  change ((call, answer) :: calls.zip answers).filterMap _ = _
  rw [← List.singleton_append, List.filterMap_append]
  rfl

/-- One call more: what it records, if it succeeds, goes at the end of the history. -/
theorem Follows.make {t : TransitionTable} {rs : List CallRecord} (h : Follows t rs)
    (call : Call) :
    Follows (call.make t).state (rs ++ successes [call] [(call.make t).answer]) := by
  cases call with
  | addMethod method =>
      have hnone : successes [.addMethod method] [(t.addMethod method).answer] = [] := by
        simp [successes, Call.record?]
      rw [Call.make, hnone, List.append_nil]
      rcases t.addMethod_cases method with ⟨hmethod, hdone⟩ | ⟨f, hfail⟩
      · have hadded : ∀ m ∈ [method], m.hashable = true := by simpa using hmethod
        rw [hdone]
        exact h.withMethods hadded
      · rw [hfail]
        exact h
  | addTransition site target ctx =>
      rw [Call.make]
      rcases t.addTransition_outcome site target ctx with ⟨hsite, htarget, hcaller, hdone⟩ |
        ⟨f, added, _, hadded, hfail⟩
      · rw [hdone]
        exact h.enter ⟨hsite, htarget, hcaller⟩
      · rw [hfail]
        have hnone : successes [.addTransition site target ctx] [.error f] = [] := rfl
        rw [Outcome.fail_answer, hnone, List.append_nil]
        exact h.withMethods hadded

/-- Any calls: the history of the table is that of the successful ones. -/
theorem Follows.stateAfter {t : TransitionTable} {rs : List CallRecord} (h : Follows t rs)
    (calls : List Call) :
    Follows (Outcome.stateAfter Call.make t calls)
      (rs ++ successes calls (Outcome.answers Call.make t calls)) := by
  induction calls generalizing t rs with
  | nil =>
      rw [successes, List.zip_nil_left, List.filterMap_nil, List.append_nil]
      exact h
  | cons call calls ih =>
      rw [Outcome.answers, successes_cons, ← List.append_assoc]
      exact ih (h.make call)

/-- Whether a pair was recorded can be told from the table. -/
theorem isSome_get?_enterAll {rs : List CallRecord} (hrs : ∀ r ∈ rs, Recordable r)
    (x : Value × Value) :
    (((empty.enterAll rs).targetsAt x.1).get? x.2).isSome = (rs.map CallRecord.pair).any (x == ·) := by
  have hkeys : ∀ r ∈ rs, r.site.hashable = true ∧ r.target.hashable = true :=
    fun r hr => (hrs r hr).keyPair
  have hnone : (empty.targetsAt x.1).get? x.2 = none := rfl
  rw [get?_targetsAt_enterAll empty hkeys, hnone, Option.or_none, Option.isSome_map, lastRecord?,
    List.any_map, Bool.eq_iff_iff, List.getLast?_isSome, Ne, List.filter_eq_nil_iff,
    List.any_eq_true]
  push Not
  rfl

/-- Recording a call adds a pair unless the pair is there. -/
theorem Placed.length_pairsOf {r : CallRecord} {found : Option Value} {entries entries' : Entries}
    (h : Placed r found entries entries') :
    (pairsOf entries').length = if found.isSome then (pairsOf entries).length
      else (pairsOf entries).length + 1 := by
  cases h with
  | replaced => simp [pairsOf]
  | extended =>
      simp only [pairsOf, List.flatMap_append, List.flatMap_cons, List.map_append, List.length_append,
        List.length_map, List.length_singleton, Option.isSome_none, Bool.false_eq_true, if_false]
      omega
  | opened => simp [pairsOf]

/-- The size of a table is the number of its pairs, repetitions left out. -/
theorem size_enterAll {rs : List CallRecord} (hrs : ∀ r ∈ rs, Recordable r) :
    (empty.enterAll rs).size = (Distinct.ofList (rs.map CallRecord.pair)).length := by
  induction rs using List.reverseRecOn with
  | nil => rfl
  | append_singleton rs r ih =>
      obtain ⟨hbefore, _⟩ := List.forall_mem_append.mp hrs
      have hpairs : ∀ x ∈ rs.map CallRecord.pair, KeyPair x :=
        List.forall_mem_map.mpr fun r hr => (hbefore r hr).keyPair
      have hfound := isSome_get?_enterAll hbefore r.pair
      have hplaced := (enter_placed (empty.enterAll rs) r).length_pairsOf
      rw [size_eq_length_pairs] at ih
      rw [enterAll_append, enterAll_singleton, size_eq_length_pairs, List.map_append,
        List.map_singleton, Distinct.ofList_concat, Distinct.insert,
        Distinct.sameMembers_ofList (Value.equivOn_hashable.prod Value.equivOn_hashable) hpairs,
        ← hfound]
      refine hplaced.trans ?_
      rw [pairsOf, ih hbefore]
      change _ = (if (((empty.enterAll rs).targetsAt r.site).get? r.target).isSome then _
        else _ : List (Value × Value)).length
      by_cases hsome : (((empty.enterAll rs).targetsAt r.site).get? r.target).isSome
      · rw [if_pos hsome, if_pos hsome]
      · rw [if_neg hsome, if_neg hsome, List.length_append, List.length_singleton]

section Following

variable {t : TransitionTable} {rs : List CallRecord}

/-- A recorded target is known. -/
theorem Follows.target_known (h : Follows t rs) {e : Value × OrdMap Value Value}
    (he : e ∈ t.transitions.entries) {target : Value} (htarget : target ∈ e.2.keys) :
    t.methods.any (target == ·) = true := by
  rw [h.transitions] at he
  have hsites : ∀ r ∈ rs, r.site.hashable = true := fun r hr => (h.recordable r hr).site
  rcases target_mem_enterAll hsites he htarget with ⟨_, hnone, _⟩ | ⟨r, hr, rfl⟩
  · cases hnone
  · exact h.known r hr r.target (List.mem_append_right _ List.mem_cons_self)

/-- A recorded call site has a caller, which is known unless it is the absent value. -/
theorem Follows.caller_known (h : Follows t rs) {site : Value} (hsite : site ∈ t.transitions.keys) :
    ∃ source, caller site = .ok source ∧
      (source ≠ .null → t.methods.any (source == ·) = true) := by
  rw [h.transitions, keys_enterAll] at hsite
  obtain ⟨r, hr, rfl⟩ := List.mem_map.mp (Distinct.mem_ofList hsite)
  obtain ⟨source, hcaller⟩ := (h.recordable r hr).caller
  refine ⟨source, hcaller, fun hsource => ?_⟩
  apply h.known r hr source
  apply List.mem_append_left
  rw [callerOf_eq hcaller, Value.isNull_eq_false hsource]
  exact List.mem_singleton_self source

/-- A recorded pair is found with the context of its last record. -/
theorem Follows.getTargets (h : Follows t rs) {r : CallRecord} (hr : r ∈ rs) :
    ∃ targets last, t.getTargets r.site = .ok targets ∧
      lastRecord? rs r.site r.target = some last ∧
      targets.lookup r.target = some last.context := by
  have hkeys : ∀ r ∈ rs, r.site.hashable = true ∧ r.target.hashable = true :=
    fun r hr => (h.recordable r hr).keyPair
  have hself : r ∈ rs.filter fun r' => r.site == r'.site && r.target == r'.target := by
    refine List.mem_filter.mpr ⟨hr, ?_⟩
    rw [Value.equivOn_hashable.refl (hkeys r hr).1, Value.equivOn_hashable.refl (hkeys r hr).2]
    rfl
  obtain ⟨last, hlast⟩ : ∃ last, lastRecord? rs r.site r.target = some last :=
    ⟨_, List.getLast?_eq_some_getLast (List.ne_nil_of_mem hself)⟩
  have hget := get?_targetsAt_enterAll empty hkeys r.site r.target
  rw [hlast, Option.map_some, Option.some_or, targetsAt, ← h.transitions] at hget
  exact ⟨t.targets r.site, last, Value.key_map_of_hashable (hkeys r hr).1 t.targets, hlast, hget⟩

end Following

/-- What a failing call leaves: the transitions as they were, and further procedures at most. -/
structure FailedFrom (t t' : TransitionTable) (site target : Value) : Prop where
  transitions : t'.transitions = t.transitions
  targets : ∀ site', t'.getTargets site' = t.getTargets site'
  callers : ∀ ctx, t'.callers ctx = t.callers ctx
  size : t'.size = t.size
  methods : ∃ added, added <+: callerOf site ++ [target] ∧
    t'.methods = Distinct.extend t.methods added

theorem failedFrom_addTransition {t : TransitionTable} {site target ctx : Value} {f : Failure}
    (h : (t.addTransition site target ctx).answer = .error f) :
    FailedFrom t (t.addTransition site target ctx).state site target := by
  rcases t.addTransition_outcome site target ctx with ⟨_, _, _, hdone⟩ |
    ⟨f, added, hprefix, _, hfail⟩
  · rw [hdone] at h
    cases h
  · rw [hfail]
    exact ⟨rfl, fun _ => rfl, fun _ => rfl, rfl, added, hprefix, rfl⟩

/-- After any calls, failing ones included. Every recorded call site has a target; its targets, and
its caller unless that is the absent value, are known procedures; and no two known procedures are
equal. The size is the number of different pairs of a call site and a target that successful calls
have recorded, and every such pair is found with the context of the last of these calls. A further
transition is recorded exactly if its call site has a caller and its parts can be keys; if not, the
transitions stay as they are, and so does all that is read off them, and procedures are added at
most: the caller, or the caller and the target. -/
theorem table_after_calls (calls : List Call) :
    let t := Outcome.stateAfter Call.make empty calls
    let rs := successes calls (Outcome.answers Call.make empty calls)
    (∀ e ∈ t.transitions.entries, e.2.entries ≠ [] ∧
      (∀ x ∈ e.2.entries, t.methods.any (x.1 == ·) = true) ∧
      ∃ source, caller e.1 = .ok source ∧
        (source ≠ .null → t.methods.any (source == ·) = true)) ∧
    (t.methods.Pairwise fun a b => (a == b) = false) ∧
    t.size = (rs.map fun r => (r.site, r.target)).eraseDups.length ∧
    (∀ r ∈ rs, ∃ targets last, t.getTargets r.site = .ok targets ∧
      lastRecord? rs r.site r.target = some last ∧
      targets.lookup r.target = some last.context) ∧
    ∀ site target ctx,
      ((t.addTransition site target ctx).answer = .ok () ↔
        site.hashable = true ∧ target.hashable = true ∧ ∃ source, caller site = .ok source) ∧
      ∀ f, (t.addTransition site target ctx).answer = .error f →
        FailedFrom t (t.addTransition site target ctx).state site target := by
  intro t rs
  have hfollows : Follows t rs := follows_empty.stateAfter calls
  have hfilled : DistinctTargets t :=
    Outcome.stateAfter_invariant make_distinctTargets distinctTargets_empty calls
  refine ⟨fun e he => ⟨?filled, ?targets, ?caller⟩, hfollows.distinct, ?size,
    fun r hr => hfollows.getTargets hr, fun site target ctx => ⟨?succeeds, ?fails⟩⟩
  case filled =>
    intro hnil
    exact hfilled.filled e he (by rw [OrdMap.keys, hnil, List.map_nil])
  case targets =>
    intro x hx
    exact hfollows.target_known he (List.mem_map_of_mem hx)
  case caller =>
    exact hfollows.caller_known (List.mem_map_of_mem he)
  case size =>
    have hsize : t.size = (empty.enterAll rs).size := by
      rw [size, size, hfollows.transitions]
    rw [hsize, size_enterAll hfollows.recordable, Distinct.ofList_eq_eraseDups]
    rfl
  case succeeds =>
    rw [addTransition_eq_ok_iff]
    constructor
    · intro h
      exact ⟨h.site, h.target, h.caller⟩
    · rintro ⟨hsite, htarget, hcaller⟩
      exact ⟨hsite, htarget, hcaller⟩
  case fails =>
    intro f
    exact failedFrom_addTransition

/-- Calls that fail at each of their steps: for want of a caller, at the caller, at the target and at
the call site. The successful ones record two pairs, of which one twice, written differently. -/
def brokenCalls : List Call :=
  [.addTransition (.badSite .badValue) (.int 5) (onlyContext 5),
   .addTransition (.site (.context (.list []) .null) (.int 1)) (.int 5) (onlyContext 5),
   .addTransition (.site (onlyContext 0) (.int 1)) (.int 5) (onlyContext 5),
   .addTransition (.site (onlyContext 7) (.int 1)) (.list []) (onlyContext 5),
   .addTransition (.site (onlyContext 8) (.list [])) (.int 9) (onlyContext 5),
   .addTransition (.site (.context .null .null) (.int 2)) (.int 5) (.list []),
   .addTransition (.site (onlyContext 0) (.bool true)) (.int 5) (onlyContext 6)]

theorem table_after_broken_calls :
    let t := Outcome.stateAfter Call.make empty brokenCalls
    let rs := successes brokenCalls (Outcome.answers Call.make empty brokenCalls)
    rs.length = 3 ∧ t.size = (rs.map fun r => (r.site, r.target)).eraseDups.length ∧ t.size = 2 ∧
      t.methods = [.int 0, .int 5, .int 7, .int 8, .int 9] ∧
      (∃ targets last, t.getTargets (.site (onlyContext 0) (.int 1)) = .ok targets ∧
        targets.lookup (.int 5) = some last ∧ last = onlyContext 6) ∧
      ∃ f, (t.addTransition (.site (onlyContext 8) (.list [])) (.int 9) .null).answer = .error f ∧
        FailedFrom t (t.addTransition (.site (onlyContext 8) (.list [])) (.int 9) .null).state
          (.site (onlyContext 8) (.list [])) (.int 9) := by
  intro t rs
  obtain ⟨_, _, hsize, htargets, hcalls⟩ := table_after_calls brokenCalls
  obtain ⟨targets, last, hfound, hlast, hcontext⟩ :=
    htargets ⟨.site (onlyContext 0) (.int 1), .int 5, onlyContext 5⟩ List.mem_cons_self
  refine ⟨rfl, hsize, rfl, rfl, ⟨targets, last.context, hfound, hcontext, ?_⟩, _, rfl,
    (hcalls _ _ _).2 _ rfl⟩
  cases hlast
  rfl

end TransitionTable

end CallGraphs
