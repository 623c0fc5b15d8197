import CallGraphs.Classifier
import CallGraphs.Proofs.OrderedMaps
import CallGraphs.Proofs.TextFormation
import Mathlib.Data.List.Induction
/-!
# Spellings of call kinds

A classifier asks the host program for the kind of an instruction and gets a kind, a spelling of
one, or something else. A spelling is first looked for among the names of the kinds and then in the
alias table, where entries whose kind does not exist count for nothing and later entries win. Main
statement: an instruction gets the kind that the answer spells, which is always exactly one, unless
it has to be reported and the report cannot be formed.
-/

namespace CallGraphs

namespace CallKind

theorem ofName?_eq_some_iff {t : Text} {k : CallKind} :
    ofName? t = some k ↔ (k.name : Text) = t := by
  constructor
  · intro hfound
    rw [ofName?] at hfound
    have hname := List.find?_some hfound
    exact eq_of_beq hname
  · rintro rfl
    exact ofName?_name k

theorem ofName?_eq_none_iff {t : Text} :
    ofName? t = none ↔ ∀ k : CallKind, (k.name : Text) ≠ t := by
  simp only [Option.eq_none_iff_forall_ne_some, Ne, ofName?_eq_some_iff]

end CallKind

namespace Classifier

/-- An entry of an alias table that gives a normalised spelling a kind. -/
structure Gives (spelling : Text) (entry : Text × Text) (k : CallKind) : Prop where
  spelling : normalize entry.1 = spelling
  kind : (k.name : Text) = normalize entry.2

/-- What the answer of the host program spells, given the alias table. -/
inductive Spells (aliases : List (Text × Text)) : Except Draft Value → CallKind → Prop
  | unanswered (reason : Draft) : Spells aliases (.error reason) .invalid
  | kind (k : CallKind) : Spells aliases (.ok (.kind k)) k
  | other {answer : Value} (hkind : ∀ k, answer ≠ .kind k) (htext : ∀ t, answer ≠ .text t) :
      Spells aliases (.ok answer) .invalid
  | named {t : Text} {k : CallKind} (hname : (k.name : Text) = normalize t) :
      Spells aliases (.ok (.text t)) k
  | aliased {t : Text} {k : CallKind} {before after : List (Text × Text)} {entry : Text × Text}
      (hname : ∀ k' : CallKind, (k'.name : Text) ≠ normalize t)
      (hentries : aliases = before ++ entry :: after) (hgives : Gives (normalize t) entry k)
      (hlast : ∀ e ∈ after, ∀ k', ¬ Gives (normalize t) e k') :
      Spells aliases (.ok (.text t)) k
  | unknown {t : Text} (hname : ∀ k' : CallKind, (k'.name : Text) ≠ normalize t)
      (hnone : ∀ e ∈ aliases, ∀ k', ¬ Gives (normalize t) e k') :
      Spells aliases (.ok (.text t)) .invalid

/-- The kind that an entry gives a spelling, if any. -/
def given? (spelling : Text) (entry : Text × Text) : Option CallKind :=
  if normalize entry.1 = spelling then CallKind.ofName? (normalize entry.2) else none

theorem given?_eq_some_iff {spelling : Text} {entry : Text × Text} {k : CallKind} :
    given? spelling entry = some k ↔ Gives spelling entry k := by
  by_cases hspelling : normalize entry.1 = spelling
  · rw [given?, if_pos hspelling, CallKind.ofName?_eq_some_iff]
    exact ⟨fun hkind => ⟨hspelling, hkind⟩, Gives.kind⟩
  · rw [given?, if_neg hspelling]
    exact ⟨fun h => (by cases h), fun h => absurd h.spelling hspelling⟩

theorem given?_eq_none_iff {spelling : Text} {entry : Text × Text} :
    given? spelling entry = none ↔ ∀ k, ¬ Gives spelling entry k := by
  simp only [Option.eq_none_iff_forall_ne_some, Ne, given?_eq_some_iff]

/-- The spellings of an alias table, entered one after another. -/
def aliasMap (entries : List (Text × Text)) : OrdMap Text CallKind :=
  entries.foldl (fun m e => addAlias m e.1 e.2) .empty

/-- One entry more: it answers for its own spelling, unless its kind does not exist. -/
theorem get?_addAlias (m : OrdMap Text CallKind) (entry : Text × Text) (spelling : Text) :
    (addAlias m entry.1 entry.2).get? spelling = (given? spelling entry).or (m.get? spelling) := by
  rw [addAlias, given?]
  cases CallKind.ofName? (normalize entry.2) with
  | none => rw [ite_self, Option.none_or]
  | some k =>
      change (m.alter (normalize entry.1) fun _ => k).get? spelling = _
      rw [OrdMap.get?_alter EquivOn.of_lawful trivial]
      by_cases hspelling : normalize entry.1 = spelling
      · rw [if_pos hspelling, if_pos (beq_iff_eq.mpr hspelling.symm), Option.some_or]
      · rw [if_neg hspelling, if_neg fun h => hspelling (eq_of_beq h).symm, Option.none_or]

/-- A spelling is found with the kind that the last entry gives which gives it one. -/
theorem get?_aliasMap (entries : List (Text × Text)) (spelling : Text) :
    (aliasMap entries).get? spelling = entries.reverse.findSome? (given? spelling) := by
  induction entries using List.reverseRecOn with
  | nil => rfl
  | append_singleton entries entry ih =>
      rw [aliasMap, List.foldl_append, List.foldl_cons, List.foldl_nil, get?_addAlias,
        List.reverse_append, List.findSome?_append, List.reverse_singleton,
        List.findSome?_singleton, ← ih, aliasMap]

theorem get?_aliasMap_eq_some_iff {entries : List (Text × Text)} {spelling : Text}
    {k : CallKind} :
    (aliasMap entries).get? spelling = some k ↔
      ∃ before entry after, entries = before ++ entry :: after ∧ Gives spelling entry k ∧
        ∀ e ∈ after, ∀ k', ¬ Gives spelling e k' := by
  rw [get?_aliasMap, List.findSome?_eq_some_iff]
  constructor
  · rintro ⟨after, entry, before, hentries, hgiven, hlast⟩
    refine ⟨before.reverse, entry, after.reverse, ?_, given?_eq_some_iff.mp hgiven, ?_⟩
    · simpa using congrArg List.reverse hentries
    · intro e he
      exact given?_eq_none_iff.mp (hlast e (List.mem_reverse.mp he))
  · rintro ⟨before, entry, after, rfl, hgives, hlast⟩
    refine ⟨after.reverse, entry, before.reverse, ?_, given?_eq_some_iff.mpr hgives, ?_⟩
    · simp
    · intro e he
      exact given?_eq_none_iff.mpr (hlast e (List.mem_reverse.mp he))

theorem get?_aliasMap_eq_none_iff {entries : List (Text × Text)} {spelling : Text} :
    (aliasMap entries).get? spelling = none ↔ ∀ e ∈ entries, ∀ k, ¬ Gives spelling e k := by
  rw [get?_aliasMap, List.findSome?_eq_none_iff]
  simp only [List.mem_reverse, given?_eq_none_iff]

/-- An entry whose kind does not exist changes no alias table. -/
theorem aliasMap_skip {entry : Text × Text}
    (hkind : ∀ k : CallKind, (k.name : Text) ≠ normalize entry.2)
    (before after : List (Text × Text)) :
    aliasMap (before ++ entry :: after) = aliasMap (before ++ after) := by
  have hskip : ∀ m, addAlias m entry.1 entry.2 = m := by
    intro m
    rw [addAlias, CallKind.ofName?_eq_none_iff.mpr hkind]
  rw [aliasMap, aliasMap, List.foldl_append, List.foldl_append, List.foldl_cons, hskip]

theorem kind_of_error (c : Classifier) {instruction : Value} {reason : Draft}
    (h : c.resolver instruction = .error reason) : c.kind instruction = .invalid := by
  rw [kind, h]

theorem kind_of_ok (c : Classifier) {instruction answer : Value}
    (h : c.resolver instruction = .ok answer) : c.kind instruction = c.lookup answer := by
  rw [kind, h]

/-- An instruction is classified, or the report on it cannot be formed. -/
theorem classify_eq_ok_iff {c : Classifier} {instruction : Value} {k : CallKind} :
    (c.classify instruction).1 = .ok k ↔
      c.kind instruction = k ∧ c.fault? instruction = none := by
  cases hfault : c.fault? instruction with
  | none => simp [classify_of_formed hfault]
  | some stop => simp [classify_of_unformed hfault]

theorem classify_eq_error_iff {c : Classifier} {instruction : Value} {f : Failure} :
    (c.classify instruction).1 = .error f ↔
      ∃ stop, c.fault? instruction = some stop ∧ f = .unformed stop := by
  cases hfault : c.fault? instruction with
  | none => simp [classify_of_formed hfault]
  | some stop => simp [classify_of_unformed hfault, eq_comm]

section Configured

variable (config : ClassifierConfig) (resolver : Resolver)

theorem kindOf_of_name {t : Text} {k : CallKind} (hname : (k.name : Text) = t) :
    (ofConfig config resolver).kindOf t = k := by
  rw [kindOf, CallKind.ofName?_eq_some_iff.mpr hname]

theorem kindOf_of_no_name {t : Text} (hname : ∀ k : CallKind, (k.name : Text) ≠ t) :
    (ofConfig config resolver).kindOf t =
      ((aliasMap config.kindAliases.entries).get? t).getD .invalid := by
  rw [kindOf, CallKind.ofName?_eq_none_iff.mpr hname]
  rfl

/-- The kind that is found for a spelling is the one it spells. -/
theorem spells_kindOf (t : Text) :
    Spells config.kindAliases.entries (.ok (.text t))
      ((ofConfig config resolver).kindOf (normalize t)) := by
  by_cases hname : ∃ k : CallKind, (k.name : Text) = normalize t
  · obtain ⟨k, hk⟩ := hname
    rw [kindOf_of_name config resolver hk]
    exact .named hk
  · have hname' : ∀ k : CallKind, (k.name : Text) ≠ normalize t := not_exists.mp hname
    rw [kindOf_of_no_name config resolver hname']
    cases hfound : (aliasMap config.kindAliases.entries).get? (normalize t) with
    | none => exact .unknown hname' (get?_aliasMap_eq_none_iff.mp hfound)
    | some k =>
        obtain ⟨before, entry, after, hentries, hgives, hlast⟩ :=
          get?_aliasMap_eq_some_iff.mp hfound
        exact .aliased hname' hentries hgives hlast

theorem spells_lookup (answer : Value) :
    Spells config.kindAliases.entries (.ok answer) ((ofConfig config resolver).lookup answer) := by
  by_cases hkind : ∃ k, answer = .kind k
  · obtain ⟨k, rfl⟩ := hkind
    exact .kind k
  · by_cases htext : ∃ t, answer = .text t
    · obtain ⟨t, rfl⟩ := htext
      exact spells_kindOf config resolver t
    · have hinvalid : (ofConfig config resolver).lookup answer = .invalid := by
        cases answer with
        | kind k => exact absurd ⟨k, rfl⟩ hkind
        | text t => exact absurd ⟨t, rfl⟩ htext
        | _ => rfl
      rw [hinvalid]
      exact .other (not_exists.mp hkind) (not_exists.mp htext)

/-- An answer spells one kind at most. -/
theorem Spells.lookup_eq {answer : Value} {k : CallKind}
    (h : Spells config.kindAliases.entries (.ok answer) k) :
    (ofConfig config resolver).lookup answer = k := by
  cases h with
  | kind => rfl
  | other hkind htext =>
      cases answer with
      | kind k => exact absurd rfl (hkind k)
      | text t => exact absurd rfl (htext t)
      | _ => rfl
  | named hname => exact kindOf_of_name config resolver hname
  | aliased hname hentries hgives hlast =>
      refine (kindOf_of_no_name config resolver hname).trans ?_
      rw [get?_aliasMap_eq_some_iff.mpr ⟨_, _, _, hentries, hgives, hlast⟩, Option.getD_some]
  | unknown hname hnone =>
      refine (kindOf_of_no_name config resolver hname).trans ?_
      rw [get?_aliasMap_eq_none_iff.mpr hnone, Option.getD_none]

/-- The kind of an instruction is the one that the answer for it spells. -/
theorem kind_eq_iff_spells (instruction : Value) (k : CallKind) :
    (ofConfig config resolver).kind instruction = k ↔
      Spells config.kindAliases.entries (resolver instruction) k := by
  cases hanswer : resolver instruction with
  | error reason =>
      rw [kind_of_error (ofConfig config resolver) hanswer]
      constructor
      · rintro rfl
        exact .unanswered reason
      · rintro ⟨⟩
        rfl
  | ok answer =>
      rw [kind_of_ok (ofConfig config resolver) hanswer]
      constructor
      · rintro rfl
        exact spells_lookup config resolver answer
      · exact Spells.lookup_eq config resolver

/-- What keeps an instruction from being classified: the host program fails to answer, or a strict
classifier finds no valid kind in its answer, and the report of that cannot be formed. -/
inductive Unreportable (instruction : Value) : TextFault → Prop
  | unresolved {reason : Draft} {stop : TextFault} (hanswer : resolver instruction = .error reason)
      (hstop : (Event.unresolved config.strict instruction reason).fault? = some stop) :
      Unreportable instruction stop
  | unrecognized {answer : Value} {stop : TextFault} (hanswer : resolver instruction = .ok answer)
      (hspells : Spells config.kindAliases.entries (.ok answer) .invalid)
      (hstrict : config.strict = true)
      (hstop : (Event.unrecognized instruction).fault? = some stop) :
      Unreportable instruction stop

theorem fault?_eq_some_iff {instruction : Value} {stop : TextFault} :
    (ofConfig config resolver).fault? instruction = some stop ↔
      Unreportable config resolver instruction stop := by
  constructor
  · intro hfault
    cases hanswer : resolver instruction with
    | error reason =>
        have hresolver : (ofConfig config resolver).resolver instruction = .error reason := hanswer
        simp only [fault?, remark?, hresolver] at hfault
        exact .unresolved hanswer hfault
    | ok answer =>
        have hresolver : (ofConfig config resolver).resolver instruction = .ok answer := hanswer
        simp only [fault?, remark?, hresolver] at hfault
        split at hfault
        · rename_i hinvalid
          have hspells := spells_lookup config resolver answer
          rw [hinvalid.1] at hspells
          exact .unrecognized hanswer hspells hinvalid.2 hfault
        · cases hfault
  · intro h
    cases h with
    | unresolved hanswer hstop =>
        have hresolver : (ofConfig config resolver).resolver instruction = .error _ := hanswer
        simp only [fault?, remark?, hresolver]
        exact hstop
    | unrecognized hanswer hspells hstrict hstop =>
        have hresolver : (ofConfig config resolver).resolver instruction = .ok _ := hanswer
        have hinvalid := Spells.lookup_eq config resolver hspells
        have hstrict' : (ofConfig config resolver).strict = true := hstrict
        simp only [fault?, remark?, hresolver, hinvalid, hstrict', and_self, ↓reduceIte]
        exact hstop

theorem fault?_eq_none_iff {instruction : Value} :
    (ofConfig config resolver).fault? instruction = none ↔
      ∀ stop, ¬Unreportable config resolver instruction stop := by
  simp only [Option.eq_none_iff_forall_ne_some, Ne, fault?_eq_some_iff]

end Configured

/-- An instruction gets the kind that the host program's answer for it spells, and only that, unless
it has to be reported and cannot be; then it gets none. So a name of a kind stands for this kind,
whatever the alias table says of it, and an entry of the alias table whose kind does not exist might
as well be missing: it does not take an earlier entry's place either. -/
theorem classify_eq_iff_spells (config : ClassifierConfig) (resolver : Resolver)
    (instruction : Value) :
    (∀ k, ((ofConfig config resolver).classify instruction).1 = .ok k ↔
      Spells config.kindAliases.entries (resolver instruction) k ∧
        ∀ stop, ¬Unreportable config resolver instruction stop) ∧
    (∀ f, ((ofConfig config resolver).classify instruction).1 = .error f ↔
      ∃ stop, Unreportable config resolver instruction stop ∧ f = .unformed stop) ∧
    (∀ (k : CallKind) t, resolver instruction = .ok (.text t) → normalize t = k.name →
      ((ofConfig config resolver).classify instruction).1 = .ok k ∨
        k = .invalid ∧ ∃ stop, Unreportable config resolver instruction stop) ∧
    ∀ before entry after, config.kindAliases.entries = before ++ entry :: after →
      (∀ k : CallKind, (k.name : Text) ≠ normalize entry.2) →
      ofConfig config resolver =
        ofConfig { config with kindAliases := ⟨before ++ after⟩ } resolver := by
  refine ⟨fun k => ?spelled, fun f => ?unformed, fun k t hanswer hname => ?named,
    fun before entry after hentries hkind => ?skipped⟩
  case spelled =>
    rw [classify_eq_ok_iff, kind_eq_iff_spells, fault?_eq_none_iff]
  case unformed =>
    simp only [classify_eq_error_iff, fault?_eq_some_iff]
  case named =>
    have hspells : Spells config.kindAliases.entries (resolver instruction) k := by
      rw [hanswer]
      exact .named hname.symm
    by_cases hreported : ∃ stop, Unreportable config resolver instruction stop
    · refine .inr ⟨?_, hreported⟩
      obtain ⟨stop, hstop⟩ := hreported
      cases hstop with
      | unresolved herror _ =>
          rw [hanswer] at herror
          cases herror
      | unrecognized hok hinvalid _ _ =>
          rw [← hok, ← kind_eq_iff_spells config resolver] at hinvalid
          rw [← kind_eq_iff_spells config resolver, hinvalid] at hspells
          exact hspells.symm
    · refine .inl ?_
      rw [classify_eq_ok_iff, kind_eq_iff_spells, fault?_eq_none_iff]
      exact ⟨hspells, not_exists.mp hreported⟩
  case skipped =>
    rw [ofConfig, ofConfig, hentries]
    exact congrArg (fun aliases => Classifier.mk aliases config.strict resolver)
      (aliasMap_skip hkind before after)

/-- Three spellings of one word, of which the last has no kind, and a name of a kind. -/
def clashingAliases : List (Text × Text) :=
  [("Dyn ", "virtual"), ("DYN", " Static"), ("dyn", "dynamic"), ("special", "virtual")]

theorem classify_clashing_aliases :
    let config : ClassifierConfig := ⟨⟨clashingAliases⟩, true⟩
    ((ofConfig config (.constant (.text " dYN"))).classify .null).1 = .ok .static ∧
      Spells clashingAliases (.ok (.text " dYN")) .static ∧
      ((ofConfig config (.constant (.text "SPECIAL"))).classify .null).1 = .ok .special ∧
      ofConfig config .standard =
        ofConfig ⟨⟨[("Dyn ", "virtual"), ("DYN", " Static"), ("special", "virtual")]⟩, true⟩
          .standard := by
  intro config
  obtain ⟨hspells, _⟩ := classify_eq_iff_spells config (.constant (.text " dYN")) .null
  obtain ⟨_, _, hnames, _⟩ := classify_eq_iff_spells config (.constant (.text "SPECIAL")) .null
  obtain ⟨_, _, _, hskipped⟩ := classify_eq_iff_spells config .standard .null
  have hstatic : ((ofConfig config (.constant (.text " dYN"))).classify .null).1 = .ok .static := by
    have hkind : (ofConfig config (.constant (.text " dYN"))).kind .null = .static := by
      decide +kernel
    have hformed : (ofConfig config (.constant (.text " dYN"))).fault? .null = none := by
      decide +kernel
    rw [classify_of_formed hformed, hkind]
  have hunknown : ∀ k : CallKind, (k.name : Text) ≠ normalize "dynamic" :=
    CallKind.ofName?_eq_none_iff.mp (by decide +kernel)
  refine ⟨hstatic, ((hspells .static).mp hstatic).1, ?_, ?_⟩
  · rcases hnames .special "SPECIAL" rfl (by decide +kernel) with hspecial | ⟨hinvalid, _⟩
    · exact hspecial
    · cases hinvalid
  · exact hskipped [("Dyn ", "virtual"), ("DYN", " Static")] ("dyn", "dynamic")
      [("special", "virtual")] rfl hunknown

theorem spells_nothing (aliases : List (Text × Text)) : Spells aliases (.ok .null) .invalid :=
  .other nofun nofun

theorem standard_nested (n : Nat) : Resolver.standard (.nested n) = .ok .null := by
  cases n <;> rfl

/-- A strict classifier cannot report tuples that nest too deep. -/
theorem classify_nested {config : ClassifierConfig} (hstrict : config.strict = true) {n : Nat}
    (hn : Draft.maxCalls ≤ n) :
    ((ofConfig config .standard).classify (.nested n)).1 = .error (.unformed .tooDeep) := by
  have hstop : (Event.unrecognized (.nested n)).fault? = some .tooDeep := by
    rw [Event.fault?, Event.message, Draft.fault?, Draft.stop?_append, Draft.stop?_append,
      Value.stop?_exact_nested hn]
    rfl
  rw [classify_eq_error_iff]
  exact ⟨.tooDeep, (fault?_eq_some_iff _ _).mpr
    (.unrecognized (standard_nested n) (spells_nothing _) hstrict hstop), rfl⟩

/-- Two instructions that spell no valid kind and cannot be reported: a number too long to be shown
and tuples too deep to be shown. The first stops a lenient classifier as well, where the host
program fails to answer. -/
theorem classify_fails_to_report :
    Spells [] (Resolver.standard (.int (Nat.pow 10 maxDigits))) .invalid ∧
      ((ofConfig ⟨.empty, true⟩ .standard).classify (.int (Nat.pow 10 maxDigits))).1 =
        .error (.unformed .tooManyDigits) ∧
      ((ofConfig ⟨.empty, false⟩ (.failing "")).classify (.int (Nat.pow 10 maxDigits))).1 =
        .error (.unformed .tooManyDigits) ∧
      Spells [] (Resolver.standard (.nested Draft.maxCalls)) .invalid ∧
      ((ofConfig ⟨.empty, true⟩ .standard).classify (.nested Draft.maxCalls)).1 =
        .error (.unformed .tooDeep) := by
  have hlong : Nat.pow 10 maxDigits ≤ Int.natAbs (Nat.pow 10 maxDigits : Nat) :=
    Nat.le_of_eq (Int.natAbs_natCast (Nat.pow 10 maxDigits)).symm
  generalize ((Nat.pow 10 maxDigits : Nat) : Int) = n at hlong
  refine ⟨spells_nothing [], ?strict, ?lenient, ?_, classify_nested rfl (Nat.le_refl _)⟩
  case strict =>
    rw [classify_eq_error_iff]
    refine ⟨.tooManyDigits,
      (fault?_eq_some_iff _ _).mpr (.unrecognized rfl (spells_nothing []) rfl ?_), rfl⟩
    simp [Event.fault?, Event.message, Draft.fault?, Draft.maxCalls, Value.exact,
      Draft.stop?_within, Draft.stop?_ofInt_of_long hlong]
  case lenient =>
    rw [classify_eq_error_iff]
    refine ⟨.tooManyDigits, (fault?_eq_some_iff _ _).mpr (.unresolved rfl ?_), rfl⟩
    simp [Event.fault?, Event.message, Draft.fault?, Draft.maxCalls, Value.exact,
      Draft.stop?_within, Draft.stop?_ofInt_of_long hlong]
  · rw [standard_nested]
    exact spells_nothing []

end Classifier

end CallGraphs
