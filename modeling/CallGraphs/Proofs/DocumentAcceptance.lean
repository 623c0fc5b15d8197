import CallGraphs.Proofs.DocumentReading
import CallGraphs.Proofs.SchemaRules
/-!
# Which documents are accepted

Data is accepted if it follows the schema of documents, declares every id once, refers to declared
contexts only and gives every node one kind. Otherwise the first of these to fail, in this order and
within the calls in the order of the entries, decides the error.
-/

namespace CallGraphs

open Schema

/-- Data for the value that tells contexts of one procedure apart. -/
inductive IsContextValue : Json → Option (Text ⊕ Whole) → Prop
  | null : IsContextValue .null none
  | text (t : Text) : IsContextValue (.text t) (some (.inl t))
  | integer {j : Json} {n : Whole} (h : IsInteger j n) : IsContextValue j (some (.inr n))

/-- An object that declares a context. -/
inductive ContextEntry.Conforms : Json → ContextEntry → Prop
  | object {members : List (Text × Json)} {c : ContextEntry}
      (id : HasField members "id" IsText c.id)
      (method : HasFieldOr members "method" none IsOptionalText c.method)
      (value : HasFieldOr members "value" none IsContextValue c.value) :
      Conforms (.object members) c

/-- An object that lists the targets of a call. -/
inductive TransitionEntry.Conforms : Json → TransitionEntry → Prop
  | object {members : List (Text × Json)} {t : TransitionEntry}
      (context : HasField members "context" IsText t.context)
      (node : HasField members "node" IsText t.node)
      (kind : HasFieldOr members "kind" none IsOptionalText t.kind)
      (targets : HasFieldOr members "targets" [] IsTextMap t.targets) :
      Conforms (.object members) t

namespace Document

/-- An object that follows the schema of documents. Other members than those named are allowed. -/
inductive Conforms : Json → Document → Prop
  | object {members : List (Text × Json)} {d : Document}
      (methods : HasFieldOr members "methods" [] (IsListOf IsText) d.methods)
      (contexts : HasFieldOr members "contexts" [] (IsListOf ContextEntry.Conforms) d.contexts)
      (transitions : HasFieldOr members "transitions" [] (IsListOf TransitionEntry.Conforms)
        d.transitions) :
      Conforms (.object members) d

theorem recognizes_checkValue : Recognizes checkValue IsContextValue := by
  intro j v
  constructor
  · intro h
    unfold checkValue at h
    split at h
    · cases h
      exact .null
    · cases h
      exact .text _
    · split at h
      next n hn =>
        cases h
        exact .integer ((recognizes_integer j n).mp hn)
      next => cases h
  · intro h
    cases h with
    | null => rfl
    | text t => rfl
    | integer hn =>
        have hcheck := (recognizes_integer j _).mpr hn
        cases hn <;> simp only [checkValue, hcheck]

theorem recognizes_checkContext : Recognizes checkContext ContextEntry.Conforms := by
  intro j c
  cases j with
  | object members =>
      have hid := recognizes_string.required members "id" c.id
      have hmethod := recognizes_optionalString.defaulted members "method" none c.method
      have hvalue := recognizes_checkValue.defaulted members "value" none c.value
      unfold checkContext
      simp only [model]
      rw [Checked.map_eq_ok_iff]
      constructor
      · rintro ⟨⟨id, method, value⟩, hboth, rfl⟩
        simp only [Checked.both_eq_ok_iff] at hboth
        exact .object (hid.mp hboth.1) (hmethod.mp hboth.2.1) (hvalue.mp hboth.2.2)
      · rintro ⟨h₁, h₂, h₃⟩
        refine ⟨(c.id, c.method, c.value), ?_, rfl⟩
        simp only [Checked.both_eq_ok_iff]
        exact ⟨hid.mpr h₁, hmethod.mpr h₂, hvalue.mpr h₃⟩
  | _ => exact ⟨nofun, nofun⟩

theorem recognizes_checkTransition : Recognizes checkTransition TransitionEntry.Conforms := by
  intro j t
  cases j with
  | object members =>
      have hcontext := recognizes_string.required members "context" t.context
      have hnode := recognizes_string.required members "node" t.node
      have hkind := recognizes_optionalString.defaulted members "kind" none t.kind
      have htargets := recognizes_stringMap.defaulted members "targets" [] t.targets
      unfold checkTransition
      simp only [model]
      rw [Checked.map_eq_ok_iff]
      constructor
      · rintro ⟨⟨context, node, kind, targets⟩, hboth, rfl⟩
        simp only [Checked.both_eq_ok_iff] at hboth
        exact .object (hcontext.mp hboth.1) (hnode.mp hboth.2.1) (hkind.mp hboth.2.2.1)
          (htargets.mp hboth.2.2.2)
      · rintro ⟨h₁, h₂, h₃, h₄⟩
        refine ⟨(t.context, t.node, t.kind, t.targets), ?_, rfl⟩
        simp only [Checked.both_eq_ok_iff]
        exact ⟨hcontext.mpr h₁, hnode.mpr h₂, hkind.mpr h₃, htargets.mpr h₄⟩
  | _ => exact ⟨nofun, nofun⟩

theorem recognizes_check : Recognizes check Conforms := by
  intro j d
  cases j with
  | object members =>
      have hmethods := recognizes_string.listOf.defaulted members "methods" [] d.methods
      have hcontexts := recognizes_checkContext.listOf.defaulted members "contexts" [] d.contexts
      have htransitions :=
        recognizes_checkTransition.listOf.defaulted members "transitions" [] d.transitions
      unfold check
      simp only [model]
      rw [Checked.map_eq_ok_iff]
      constructor
      · rintro ⟨⟨methods, contexts, transitions⟩, hboth, rfl⟩
        simp only [Checked.both_eq_ok_iff] at hboth
        exact .object (hmethods.mp hboth.1) (hcontexts.mp hboth.2.1) (htransitions.mp hboth.2.2)
      · rintro ⟨h₁, h₂, h₃⟩
        refine ⟨(d.methods, d.contexts, d.transitions), ?_, rfl⟩
        simp only [Checked.both_eq_ok_iff]
        exact ⟨hmethods.mpr h₁, hcontexts.mpr h₂, htransitions.mpr h₃⟩
  | _ => exact ⟨nofun, nofun⟩

/-- A document is read off exactly the data that follows the schema. -/
theorem ofJson_eq_ok_iff {j : Json} {d : Document} : ofJson j = .ok d ↔ Conforms j d := by
  rw [← recognizes_check j d, ofJson]
  cases check j <;> simp [Except.mapError]

end Document

namespace LoadedTable

theorem parse_of_conforms {j : Json} {d : Document} (h : Document.Conforms j d) :
    parse j = ofDocument d := by
  rw [parse, Document.ofJson_eq_ok_iff.mpr h]

theorem parse_of_not_conforms {j : Json} (h : ¬∃ d : Document, Document.Conforms j d) :
    ∃ e, parse j = .error (.document (.invalid e)) := by
  unfold parse
  cases hj : Document.ofJson j with
  | error e => exact ⟨e, rfl⟩
  | ok d => exact absurd ⟨d, Document.ofJson_eq_ok_iff.mp hj⟩ h

theorem not_nodup_of_declared_again {d : Document} {before after : List ContextEntry}
    {c : ContextEntry} (hcontexts : d.contexts = before ++ c :: after)
    (hc : c.id ∈ before.map ContextEntry.id) : ¬d.ids.Nodup := by
  intro hnodup
  rw [Document.ids, hcontexts, List.map_append, List.map_cons] at hnodup
  exact (List.nodup_append.mp hnodup).2.2 c.id hc c.id List.mem_cons_self rfl

/-- Reading succeeds exactly if all ids are new and the entries can be read together. -/
theorem ofDocument_isOk_iff {d : Document} :
    (∃ l, ofDocument d = .ok l) ↔ d.ids.Nodup ∧ Consistent d.ids d.transitions := by
  rcases ofDocument_cases d with ⟨before, c, after, hcs, _, hc, hfails⟩ | ⟨hnodup, hall, l, hl, _⟩ |
    ⟨_, before, t, after, f, hts, _, hbreaks, hfails⟩
  · rw [hfails]
    exact ⟨nofun, fun h => absurd h.1 (not_nodup_of_declared_again hcs hc)⟩
  · exact ⟨fun _ => ⟨hnodup, hall⟩, fun _ => ⟨l, hl⟩⟩
  · rw [hfails]
    refine ⟨nofun, fun h => absurd h.2 ?_⟩
    rw [hts]
    exact hbreaks.not_consistent

/-- Which data is accepted, and which error other data gives: that of the schema, or else that of
the first id which is declared again, or else that of the first entry which breaks. -/
theorem parse_outcome_by_priority (j : Json) :
    ((∃ l, parse j = .ok l) ↔
        ∃ d, Document.Conforms j d ∧ d.ids.Nodup ∧ Consistent d.ids d.transitions) ∧
      ((¬∃ d, Document.Conforms j d) → ∃ e, parse j = .error (.document (.invalid e))) ∧
      ∀ d, Document.Conforms j d →
        Document.ofJson j = .ok d ∧
        (¬d.ids.Nodup → ∃ before c after, d.contexts = before ++ c :: after ∧
          (before.map ContextEntry.id).Nodup ∧ c.id ∈ before.map ContextEntry.id ∧
          parse j = .error (.document (.duplicateContext c.id))) ∧
        (d.ids.Nodup → ¬Consistent d.ids d.transitions →
          ∃ before t after f, d.transitions = before ++ t :: after ∧
            Consistent d.ids before ∧ Breaks d.ids before t f ∧ parse j = .error f) := by
  refine ⟨⟨?_, ?_⟩, parse_of_not_conforms, fun d hd => ?_⟩
  · rintro ⟨l, hl⟩
    by_cases hj : ∃ d, Document.Conforms j d
    · obtain ⟨d, hd⟩ := hj
      rw [parse_of_conforms hd] at hl
      exact ⟨d, hd, ofDocument_isOk_iff.mp ⟨l, hl⟩⟩
    · obtain ⟨e, he⟩ := parse_of_not_conforms hj
      cases he.symm.trans hl
  · rintro ⟨d, hd, hread⟩
    rw [parse_of_conforms hd]
    exact ofDocument_isOk_iff.mpr hread
  · refine ⟨Document.ofJson_eq_ok_iff.mpr hd, ?_⟩
    rw [parse_of_conforms hd]
    rcases ofDocument_cases d with ⟨before, c, after, hcs, hbefore, hc, hfails⟩ |
      ⟨hnodup, hall, _⟩ | ⟨hnodup, hentry⟩
    · have hrepeated := not_nodup_of_declared_again hcs hc
      exact ⟨fun _ => ⟨before, c, after, hcs, hbefore, hc, hfails⟩, fun h => absurd h hrepeated⟩
    · exact ⟨fun h => absurd hnodup h, fun _ h => absurd hall h⟩
    · exact ⟨fun h => absurd hnodup h, fun _ _ => hentry⟩

/-- Its second entry gives a node another kind and also has a target in an unknown context; the
context of its third entry is unknown as well. -/
def conflictingJson : Json := .object
  [("contexts", .array [.object [("id", .text "a"), ("value", .float (.finite false 1 1))]]),
   ("transitions", .array
     [.object [("context", .text "a"), ("node", .text "n"),
        ("targets", .object [("f", .text "a")])],
      .object [("context", .text "a"), ("node", .text "n"), ("kind", .text "virtual"),
        ("targets", .object [("g", .text "b")])],
      .object [("context", .text "b"), ("node", .text "m")]])]

def conflictingDocument : Document where
  methods := []
  contexts := [⟨"a", none, some (.inr ⟨2, rfl⟩)⟩]
  transitions := [⟨"a", "n", none, [("f", "a")]⟩, ⟨"a", "n", some "virtual", [("g", "b")]⟩,
    ⟨"b", "m", none, []⟩]

theorem parse_outcome_by_priority_conflict :
    Document.Conforms conflictingJson conflictingDocument ∧
      (¬∃ l, parse conflictingJson = .ok l) ∧
      (∃ before t after f, conflictingDocument.transitions = before ++ t :: after ∧
        Consistent conflictingDocument.ids before ∧
        Breaks conflictingDocument.ids before t f ∧ parse conflictingJson = .error f) ∧
      parse conflictingJson =
        .error (.document (.conflictingKinds "n" none (some "virtual"))) := by
  have hfails : parse conflictingJson =
      .error (.document (.conflictingKinds "n" none (some "virtual"))) := rfl
  have hconforms : Document.Conforms conflictingJson conflictingDocument :=
    Document.ofJson_eq_ok_iff.mp rfl
  have hnodup : conflictingDocument.ids.Nodup := List.pairwise_singleton _ _
  have hrefused : ¬∃ l, parse conflictingJson = .ok l := by
    rintro ⟨l, hl⟩
    cases hfails.symm.trans hl
  obtain ⟨haccepts, _, hpriority⟩ := parse_outcome_by_priority conflictingJson
  have hentries : ¬Consistent conflictingDocument.ids conflictingDocument.transitions :=
    fun h => hrefused (haccepts.mpr ⟨_, hconforms, hnodup, h⟩)
  exact ⟨hconforms, hrefused, (hpriority _ hconforms).2.2 hnodup hentries, hfails⟩

end LoadedTable

end CallGraphs
