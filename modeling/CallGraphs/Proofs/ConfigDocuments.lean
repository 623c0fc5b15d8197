import CallGraphs.Project
import CallGraphs.Proofs.ReadDocuments
import CallGraphs.Proofs.SchemaRules
import CallGraphs.Proofs.TextFiles
import CallGraphs.Proofs.WrittenDocuments
/-!
# The document form of a configuration

A configuration is read back from its document form as it was. Its file is read back too, except
that half pairs in the spellings were replaced on the way: the file gives the configuration itself
exactly if there are none and each spelling stands for one kind only. The latter holds of every
configuration that was read, and changing a setting keeps it.
-/

namespace CallGraphs

/-- An object of two members with different names is read back if both of them are. -/
theorem Json.readsAs_pair {depth level : Nat} {a b : String} (hab : a ≠ b) {j₁ j₁' j₂ j₂' : Json}
    (h₁ : ReadsAs depth (level + 1) j₁ j₁') (h₂ : ReadsAs depth (level + 1) j₂ j₂') :
    ReadsAs (depth + 1) level (.object [(a, j₁), (b, j₂)]) (.object [(a, j₁'), (b, j₂')]) := by
  have hobject := readsAs_object
    (.cons (⟨⟨_, rfl, rfl⟩, h₁⟩ : MemberReadsAs depth (level + 1) (a, j₁) (a, j₁'))
      (.cons (⟨⟨_, rfl, rfl⟩, h₂⟩ : MemberReadsAs depth (level + 1) (b, j₂) (b, j₂')) .nil))
  have hnames : ([((a : Text), j₁'), (b, j₂')].map Prod.fst).Nodup := by
    simpa using hab
  rw [ofMembers, OrdMap.ofList_of_nodup hnames] at hobject
  exact hobject

namespace ClassifierConfig

theorem check_toJson (c : ClassifierConfig) : check c.toJson = .ok c := by
  have haliases := Schema.stringMap_texts c.kindAliases.entries
  have hnames : ((("strict" : String) : Text) == ("kind_aliases" : String)) = false := by decide
  simp [check, toJson, Schema.model, Schema.defaulted, List.lookup_cons, hnames, haliases,
    Checked.within, Checked.both, Except.map, Schema.boolean]

/-- The settings as they are read back from a file. Spellings that became equal when half pairs were
replaced are one, and the last of their kinds counts. -/
def reread (c : ClassifierConfig) : ClassifierConfig :=
  { c with kindAliases := .ofList c.stored.kindAliases.entries }

end ClassifierConfig

namespace Config

/-- The document form of a configuration is read as this configuration. -/
theorem check_toJson (c : Config) : check c.toJson = .ok c := by
  have hnames : ((("classifier" : String) : Text) == ("name" : String)) = false := by decide
  simp [check, toJson, Schema.model, Schema.defaulted, List.lookup_cons, hnames,
    ClassifierConfig.check_toJson, Checked.within, Checked.both, Except.map, Schema.string]

/-- The configuration as it is read back from a file. -/
def reread (c : Config) : Config :=
  { c with classifier := c.classifier.reread }

/-- Each spelling stands for one kind. -/
def Distinct (c : Config) : Prop :=
  c.classifier.kindAliases.keys.Nodup

/-- No text of the configuration has half pairs. -/
structure Whole (c : Config) : Prop where
  name : c.name.halves? = none
  spelling : ∀ e ∈ c.classifier.kindAliases.entries, e.1.halves? = none
  kind : ∀ e ∈ c.classifier.kindAliases.entries, e.2.halves? = none

theorem halves?_eq_none_iff {c : Config} :
    c.halves? = none ↔ c.name.halves? = none ∧
      ∀ e ∈ c.classifier.kindAliases.entries, e.2.halves? = none := by
  rw [halves?, List.findSome?_eq_none_iff, List.forall_mem_cons, List.forall_mem_map]

theorem Whole.halves? {c : Config} (h : c.Whole) : c.halves? = none :=
  halves?_eq_none_iff.mpr ⟨h.name, h.kind⟩

theorem distinct_reread (c : Config) : c.reread.Distinct :=
  OrdMap.nodup_keys_ofList _

/-- Every spelling and kind that is read back was stored. -/
theorem mem_entries_reread {c : Config} {e : Text × Text}
    (he : e ∈ c.reread.classifier.kindAliases.entries) :
    ∃ e' ∈ c.classifier.kindAliases.entries, e = (Text.ofString e'.1.lossy, e'.2) := by
  obtain ⟨e', he', h⟩ := List.mem_map.mp (OrdMap.mem_ofList he)
  exact ⟨e', he', h.symm⟩

/-- What can be stored has no half pairs when it is read back. -/
theorem whole_reread {c : Config} (h : c.halves? = none) : c.reread.Whole := by
  obtain ⟨hname, hkinds⟩ := halves?_eq_none_iff.mp h
  refine ⟨hname, ?_, ?_⟩
  · intro e he
    obtain ⟨e', _, rfl⟩ := mem_entries_reread he
    exact Text.halves?_ofString _
  · intro e he
    obtain ⟨e', he', rfl⟩ := mem_entries_reread he
    exact hkinds e' he'

theorem reread_of_whole {c : Config} (hwhole : c.Whole) (hdistinct : c.Distinct) :
    c.reread = c := by
  have hstored : c.classifier.stored.kindAliases.entries = c.classifier.kindAliases.entries := by
    have hkeys : ∀ e ∈ c.classifier.kindAliases.entries, (Text.ofString e.1.lossy, e.2) = e := by
      intro e he
      rw [Text.ofString_lossy (hwhole.spelling e he)]
    rw [ClassifierConfig.stored, List.map_congr_left hkeys, List.map_id']
  have hcollected := OrdMap.ofList_of_nodup hdistinct
  have hclassifier : c.classifier.reread = c.classifier := by
    rw [ClassifierConfig.reread, hstored, hcollected]
  rw [reread, hclassifier]

/-- A configuration that can be stored comes back as it is exactly if nothing in it has to be
replaced or merged. -/
theorem reread_eq_self_iff {c : Config} (h : c.halves? = none) :
    c.reread = c ↔ c.Whole ∧ c.Distinct := by
  constructor
  · intro hc
    have hwhole := whole_reread h
    have hdistinct := c.distinct_reread
    rw [hc] at hwhole hdistinct
    exact ⟨hwhole, hdistinct⟩
  · rintro ⟨hwhole, hdistinct⟩
    exact reread_of_whole hwhole hdistinct

/-- The document that is written is read as that of the configuration read back. -/
theorem readsAs_stored {c : Config} (h : c.halves? = none) (depth : Nat) :
    Json.ReadsAs (depth + 3) 0 { c with classifier := c.classifier.stored }.toJson
      c.reread.toJson := by
  obtain ⟨hname, hkinds⟩ := halves?_eq_none_iff.mp h
  have haliases : Json.ReadsAs (depth + 1) 2
      (.object (c.classifier.stored.kindAliases.entries.map fun e => (e.1, .text e.2)))
      (.object (c.reread.classifier.kindAliases.entries.map fun e => (e.1, .text e.2))) := by
    have hmembers : List.Forall₂ (Json.MemberReadsAs depth 3)
        (c.classifier.stored.kindAliases.entries.map fun e => (e.1, .text e.2))
        (c.classifier.stored.kindAliases.entries.map fun e => (e.1, .text e.2)) := by
      refine List.forall₂_same.mpr fun m hm => ?_
      obtain ⟨e, he, rfl⟩ := List.mem_map.mp hm
      obtain ⟨e', he', rfl⟩ := List.mem_map.mp he
      obtain ⟨cs, hcs⟩ := Text.halves?_eq_none_iff.mp (hkinds e' he')
      refine ⟨⟨_, rfl, rfl⟩, ?_⟩
      change Json.ReadsAs depth 3 (.text e'.2) (.text e'.2)
      rw [hcs]
      exact Json.readsAs_text depth 3 cs
    have hobject := Json.readsAs_object hmembers
    rw [Json.ofMembers, OrdMap.ofList_map] at hobject
    exact hobject
  have hclassifier : Json.ReadsAs (depth + 2) 1 c.classifier.stored.toJson
      c.reread.classifier.toJson :=
    Json.readsAs_pair (by decide) haliases (Json.readsAs_bool _ _ _)
  have htext : Json.ReadsAs (depth + 2) 1 (.text c.name) (.text c.name) := by
    obtain ⟨cs, hcs⟩ := Text.halves?_eq_none_iff.mp hname
    rw [hcs]
    exact Json.readsAs_text (depth + 2) 1 cs
  exact Json.readsAs_pair (by decide) htext hclassifier

theorem configOfText_text {c : Config} (h : c.halves? = none) (path : Path) :
    Project.configOfText path c.text.toList = .ok c.reread := by
  have hread : Json.read c.text.toList = .ok c.reread.toJson := (readsAs_stored h 977).read_pretty
  have hcheck : ofJson c.reread.toJson = .ok c.reread := by
    rw [ofJson, check_toJson]
    rfl
  rw [toJson] at hread hcheck
  simp only [Project.configOfText, hread, hcheck]

theorem return_not_mem_text {c : Config} (h : c.halves? = none) : '\r' ∉ c.text.toList :=
  (readsAs_stored h 0).return_not_mem_pretty

end Config

namespace Json

theorem mem_of_lookup {members : List (Text × Json)} {name : Text} {j : Json}
    (h : members.lookup name = some j) : (name, j) ∈ members := by
  obtain ⟨before, after, rfl, _⟩ := List.lookup_eq_some_iff.mp h
  simp

theorem setMember_names (name : Text) (j : Json) (members : List (Text × Json)) :
    (setMember name j members).map Prod.fst = members.map Prod.fst := by
  induction members with
  | nil => rfl
  | cons m members ih =>
      rw [setMember]
      split
      · rfl
      · rw [List.map_cons, List.map_cons, ih]

theorem mem_setMember {name : Text} {j : Json} {members : List (Text × Json)} {m : Text × Json}
    (hm : m ∈ setMember name j members) : m ∈ members ∨ m.2 = j := by
  induction members with
  | nil => exact .inl hm
  | cons m' members ih =>
      rw [setMember] at hm
      split at hm
      · rcases List.mem_cons.mp hm with rfl | hrest
        · exact .inr rfl
        · exact .inl (List.mem_cons_of_mem _ hrest)
      · rcases List.mem_cons.mp hm with rfl | hrest
        · exact .inl List.mem_cons_self
        · exact (ih hrest).imp_left (List.mem_cons_of_mem _)

theorem lookup_setMember_of_ne {name other : Text} (h : other ≠ name) (j : Json)
    (members : List (Text × Json)) :
    (setMember name j members).lookup other = members.lookup other := by
  induction members with
  | nil => rfl
  | cons m members ih =>
      obtain ⟨name', j'⟩ := m
      rw [setMember]
      split
      · have hname : (other == name') = false := by grind
        rw [List.lookup_cons, List.lookup_cons, hname]
      · rw [List.lookup_cons, List.lookup_cons, ih]

/-- Replacing a part by one without repeated names brings none in. -/
theorem Proper.setPart? {j v j' : Json} (hj : Proper j) (hv : Proper v) {names : List Text}
    (h : j.setPart? names v = some j') : Proper j' := by
  induction names generalizing j j' with
  | nil =>
      cases j <;> cases h <;> exact hv
  | cons name names ih =>
      cases hj with
      | object hnames hmembers =>
          rename_i members
          rw [Json.setPart?] at h
          cases hlookup : members.lookup name with
          | none => simp [hlookup] at h
          | some part =>
              simp only [hlookup, Option.map_eq_some_iff] at h
              obtain ⟨part', hpart, rfl⟩ := h
              have hproper := ih (hmembers _ (mem_of_lookup hlookup)) hpart
              refine .object ?_ fun m hm => ?_
              · rw [setMember_names]
                exact hnames
              · rcases mem_setMember hm with hold | hnew
                · exact hmembers m hold
                · exact hnew ▸ hproper
      | _ => cases h

end Json

theorem nodup_defaultAliases : defaultAliases.keys.Nodup := by decide

/-- The aliases of a document without repeated names. -/
theorem ClassifierConfig.nodup_of_check {j : Json} {c : ClassifierConfig} (hj : j.Proper)
    (h : check j = .ok c) : c.kindAliases.keys.Nodup := by
  rw [check] at h
  cases hj with
  | object hnames hmembers =>
      obtain ⟨⟨aliases, strict⟩, hboth, rfl⟩ := Checked.map_eq_ok_iff.mp h
      obtain ⟨haliases, _⟩ := Checked.both_eq_ok_iff.mp hboth
      rcases (Schema.Recognizes.defaulted (fun _ _ => .rfl) _ _ _ _).mp haliases with
        ⟨part, hpart, hread⟩ | ⟨_, rfl⟩
      · obtain ⟨pairs, hpairs, rfl⟩ := Checked.map_eq_ok_iff.mp hread
        have hproper := hmembers _ (Json.mem_of_lookup hpart)
        cases (Schema.recognizes_stringMap _ _).mp hpairs with
        | object hpairs =>
            cases hproper with
            | object hparts _ =>
                have hnames := hpairs.imp fun _ _ hpair => hpair.1
                rw [← List.forall₂_map_right_iff, ← List.forall₂_map_left_iff,
                  List.forall₂_eq_eq_eq] at hnames
                change (pairs.map Prod.fst).Nodup
                rw [← hnames]
                exact hparts
      · exact nodup_defaultAliases
  | _ => cases h

namespace Config

/-- A document without repeated names gives each spelling one kind. -/
theorem distinct_of_check {j : Json} {c : Config} (hj : j.Proper) (h : check j = .ok c) :
    c.Distinct := by
  rw [check] at h
  cases hj with
  | object hnames hmembers =>
      obtain ⟨⟨name, classifier⟩, hboth, rfl⟩ := Checked.map_eq_ok_iff.mp h
      obtain ⟨_, hclassifier⟩ := Checked.both_eq_ok_iff.mp hboth
      rcases (Schema.Recognizes.defaulted (fun _ _ => .rfl) _ _ _ _).mp hclassifier with
        ⟨part, hpart, hread⟩ | ⟨_, rfl⟩
      · exact ClassifierConfig.nodup_of_check (hmembers _ (Json.mem_of_lookup hpart)) hread
      · exact nodup_defaultAliases
  | _ => cases h

theorem distinct_default (name : Text) : (default name).Distinct :=
  nodup_defaultAliases

theorem Distinct.proper {c : Config} (h : c.Distinct) : c.toJson.Proper := by
  have haliases : Json.Proper
      (.object (c.classifier.kindAliases.entries.map fun e => (e.1, .text e.2))) := by
    refine .object ?_ fun m hm => ?_
    · rw [List.map_map]
      exact h
    · obtain ⟨e, _, rfl⟩ := List.mem_map.mp hm
      exact .text e.2
  have hclassifier : c.classifier.toJson.Proper := by
    refine .object (by simp) ?_
    rw [List.forall_mem_cons, List.forall_mem_singleton]
    exact ⟨haliases, .bool _⟩
  refine .object (by simp) ?_
  rw [List.forall_mem_cons, List.forall_mem_singleton]
  exact ⟨.text _, hclassifier⟩

/-- Changing a setting keeps the spellings apart. -/
theorem Distinct.set {c c' : Config} (h : c.Distinct) {key : Text} {value : Json}
    (hvalue : value.Proper) (hset : c.set key value = .ok c') : c'.Distinct := by
  rw [Config.set] at hset
  split at hset
  · cases hset
  · rename_i j hj
    have hproper := h.proper.setPart? hvalue hj
    split at hset <;> cases hset
    exact distinct_of_check hproper ‹_›

/-- A key of one name is that name. -/
theorem eq_of_keyNames {key name : Text} (h : keyNames key = [name]) : key = name := by
  obtain ⟨points, hpoints, rfl⟩ := List.map_eq_singleton_iff.mp h
  have hkey : [CodePoint.char '.'].intercalate (key.points.splitOn (.char '.')) = key.points :=
    List.intercalate_splitOn _
  rw [hpoints, List.intercalate_singleton] at hkey
  rw [hkey]

/-- Changing a setting other than the name keeps the name. -/
theorem name_set {c c' : Config} {key : Text} {value : Json} (hset : c.set key value = .ok c')
    (hkey : key ≠ "name") : c'.name = c.name := by
  rw [Config.set] at hset
  split at hset
  · cases hset
  rename_i j hj
  split at hset <;> cases hset
  rename_i hcheck
  cases hnames : keyNames key with
  | nil => exact absurd (List.map_eq_nil_iff.mp hnames) (List.splitOn_ne_nil _ _)
  | cons first rest =>
      rw [hnames, toJson, Json.setPart?] at hj
      by_cases hfirst : first = "name"
      · -- The name is a text and has no parts, so that the key would have to be the name.
        subst hfirst
        cases rest with
        | nil => exact absurd (eq_of_keyNames hnames) hkey
        | cons next rest => cases hj
      · split at hj
        · obtain ⟨part, _, rfl⟩ := Option.map_eq_some_iff.mp hj
          rw [check] at hcheck
          obtain ⟨⟨name, classifier⟩, hboth, rfl⟩ := Checked.map_eq_ok_iff.mp hcheck
          obtain ⟨hname, _⟩ := Checked.both_eq_ok_iff.mp hboth
          rw [Schema.Recognizes.defaulted Schema.recognizes_string, Schema.HasFieldOr,
            Schema.HasField, Json.lookup_setMember_of_ne (Ne.symm hfirst)] at hname
          rcases hname with ⟨_, hpart, hread⟩ | ⟨hnone, _⟩
          · cases hpart
            cases hread
            rfl
          · cases hnone
        · cases hj

/-- A file gives each spelling one kind. -/
theorem distinct_of_configOfText {path : Path} {cs : List Char} {c : Config}
    (h : Project.configOfText path cs = .ok c) : c.Distinct := by
  rw [Project.configOfText] at h
  split at h
  · cases h
  · cases h
  · rename_i members hread
    split at h <;> cases h
    rename_i hchecked
    rw [ofJson] at hchecked
    cases hcheck : check (.object members) with
    | error issues =>
        rw [hcheck] at hchecked
        cases hchecked
    | ok c =>
        rw [hcheck] at hchecked
        cases hchecked
        exact distinct_of_check (Json.proper_of_read hread) hcheck
  · cases h

end Config

end CallGraphs
