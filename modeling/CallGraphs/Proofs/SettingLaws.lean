import CallGraphs.Proofs.ConfigDocuments
import Mathlib.Data.List.Permutation
/-!
# The laws of reading and changing settings

A dotted key names one of five kinds of settings, or none. A setting is a place in the configuration
with a type of its own. Reading it gives the document form of what is there; changing it reads a new
value by the rule of the type, and puts that in the place. Main statement: what is put is found, the
last change counts, and settings of which none is part of the other do not disturb each other.
-/

namespace CallGraphs

namespace OrdMap

variable {α β : Type} [BEq α] [LawfulBEq α]

theorem lookup_cons_of_ne {k k' : α} (h : k ≠ k') (v : β) (l : List (α × β)) :
    ((k', v) :: l).lookup k = l.lookup k := by
  rw [List.lookup_cons, beq_eq_false_iff_ne.mpr h]

theorem insert_of_get? {m : OrdMap α β} {k : α} {v : β} (h : m.get? k = some v) :
    m.insert k v = m := by
  obtain ⟨l⟩ := m
  apply congrArg OrdMap.mk
  change l.lookup k = some v at h
  induction l with
  | nil => cases h
  | cons e l ih =>
      obtain ⟨k', v'⟩ := e
      by_cases hk : k = k'
      · subst hk
        have hv : v' = v := by simpa [List.lookup_cons] using h
        simp [alterEntries, hv]
      · rw [lookup_cons_of_ne hk] at h
        simp [alterEntries, hk, ih h]

/-- Of two values put at one key the second stays. -/
theorem insert_insert (m : OrdMap α β) (k : α) (v w : β) :
    (m.insert k v).insert k w = m.insert k w := by
  obtain ⟨l⟩ := m
  apply congrArg OrdMap.mk
  change alterEntries k (fun _ => w) (alterEntries k (fun _ => v) l) = _
  induction l with
  | nil => simp [alterEntries]
  | cons e l ih =>
      obtain ⟨k', v'⟩ := e
      by_cases hk : k = k'
      · simp [alterEntries, hk]
      · simp [alterEntries, hk, ih]

/-- Values at two keys may be put in either order, if one of the keys is there already. -/
theorem insert_comm {m : OrdMap α β} {k k' : α} (hne : k ≠ k') {u : β} (hk : m.get? k = some u)
    (v w : β) :
    (m.insert k v).insert k' w = (m.insert k' w).insert k v := by
  obtain ⟨l⟩ := m
  apply congrArg OrdMap.mk
  change l.lookup k = some u at hk
  change alterEntries k' (fun _ => w) (alterEntries k (fun _ => v) l) =
    alterEntries k (fun _ => v) (alterEntries k' (fun _ => w) l)
  induction l with
  | nil => cases hk
  | cons e l ih =>
      obtain ⟨a, v'⟩ := e
      by_cases hka : k = a
      · subst hka
        simp [alterEntries, hne.symm]
      · by_cases hka' : k' = a
        · subst hka'
          simp [alterEntries, hne]
        · rw [lookup_cons_of_ne hka] at hk
          simp [alterEntries, hka, hka', ih hk]

end OrdMap

namespace Checked

variable {α β γ : Type}

theorem both_ok_left (a : α) (y : Checked β) : both (.ok a) y = y.map (a, ·) := by
  cases y <;> rfl

theorem both_ok_right (x : Checked α) (b : β) : both x (.ok b) = x.map (·, b) := by
  cases x <;> rfl

theorem within_map (step : Step) (f : α → β) (x : Checked α) :
    within step (x.map f) = (within step x).map f := by
  cases x <;> rfl

theorem map_map (f : α → β) (g : β → γ) (x : Checked α) : (x.map f).map g = x.map (g ∘ f) := by
  cases x <;> rfl

/-- A check that does not look at the positions of the items may start at any of them. -/
theorem each_shift (check : α → Checked β) (as : List α) (n n' : Nat) :
    each (fun _ => check) n as = each (fun _ => check) n' as := by
  induction as generalizing n n' with
  | nil => rfl
  | cons a as ih => rw [each, each, ih (n + 1) (n' + 1)]

end Checked

namespace Json

theorem lookup_texts (pairs : List (Text × Text)) (name : Text) :
    (pairs.map fun e => (e.1, Json.text e.2)).lookup name = (pairs.lookup name).map .text := by
  induction pairs with
  | nil => rfl
  | cons e pairs ih =>
      obtain ⟨name', t⟩ := e
      by_cases hname : name = name'
      · simp [hname]
      · rw [List.map_cons, OrdMap.lookup_cons_of_ne hname, OrdMap.lookup_cons_of_ne hname, ih]

/-- Two documents that differ in the order of their members at most. -/
inductive Reordered : Json → Json → Prop
  | refl (j : Json) : Reordered j j
  | object {members members' : List (Text × Json)} (h : members.Perm members') :
      Reordered (.object members) (.object members')

/-- A part can be replaced exactly if it is there. -/
theorem setPart?_eq_none_iff {j v : Json} {names : List Text} :
    j.setPart? names v = none ↔ j.part? names = none := by
  induction names generalizing j with
  | nil => cases j <;> simp [setPart?, part?]
  | cons name names ih =>
      cases j with
      | object members =>
          rw [setPart?, part?]
          cases members.lookup name with
          | none => exact Iff.rfl
          | some part => simp [ih]
      | _ => exact Iff.rfl

end Json

namespace Schema

theorem stringMap_cons (name : Text) (j : Json) (members : List (Text × Json)) :
    stringMap (.object ((name, j) :: members)) =
      (Checked.both ((Checked.within (.field name.lossy) (string j)).map (name, ·))
        (stringMap (.object members))).map fun (pair, pairs) => pair :: pairs := by
  rw [stringMap, Checked.each, stringMap, Checked.each_shift _ members (0 + 1) 0]

/-- A dictionary of texts in which one value is replaced: only the new value is looked at. -/
theorem stringMap_setMember {pairs : List (Text × Text)} {name t : Text}
    (hname : pairs.lookup name = some t) (j : Json) :
    stringMap (.object (Json.setMember name j (pairs.map fun e => (e.1, .text e.2)))) =
      (Checked.within (.field name.lossy) (string j)).map
        fun t => (OrdMap.insert ⟨pairs⟩ name t).entries := by
  induction pairs with
  | nil => cases hname
  | cons e pairs ih =>
      obtain ⟨name', t'⟩ := e
      by_cases hfirst : name = name'
      · subst hfirst
        have hset : Json.setMember name j (((name, t') :: pairs).map fun e => (e.1, .text e.2)) =
            (name, j) :: pairs.map fun e => (e.1, .text e.2) := by
          simp [Json.setMember]
        rw [hset, stringMap_cons, stringMap_texts, Checked.both_ok_right, Checked.map_map,
          Checked.map_map]
        congr 1
        funext t
        simp [OrdMap.insert, OrdMap.alter, OrdMap.alterEntries]
      · have hset : Json.setMember name j (((name', t') :: pairs).map fun e => (e.1, .text e.2)) =
            (name', .text t') :: Json.setMember name j (pairs.map fun e => (e.1, .text e.2)) := by
          simp [Json.setMember, hfirst]
        rw [OrdMap.lookup_cons_of_ne hfirst] at hname
        rw [hset, stringMap_cons, ih hname]
        change (Checked.both (.ok (name', t')) _).map _ = _
        rw [Checked.both_ok_left, Checked.map_map, Checked.map_map]
        congr 1
        funext t
        simp [OrdMap.insert, OrdMap.alter, OrdMap.alterEntries, hfirst]

end Schema

namespace ClassifierConfig

theorem check_members (aliases strict : Json) :
    check (.object [("kind_aliases", aliases), ("strict", strict)]) =
      (Checked.both
        (Checked.within (.field "kind_aliases") ((Schema.stringMap aliases).map OrdMap.mk))
        (Checked.within (.field "strict") (Schema.boolean strict))).map fun (m, b) => ⟨m, b⟩ := by
  have hnames : ((("strict" : String) : Text) == ("kind_aliases" : String)) = false := by decide
  simp [check, Schema.model, Schema.defaulted, List.lookup_cons, hnames]

/-- The order of the two members does not matter. -/
theorem check_swap (aliases strict : Json) :
    check (.object [("strict", strict), ("kind_aliases", aliases)]) =
      check (.object [("kind_aliases", aliases), ("strict", strict)]) := by
  have hnames : ((("strict" : String) : Text) == ("kind_aliases" : String)) = false := by decide
  have hnames' : ((("kind_aliases" : String) : Text) == ("strict" : String)) = false := by decide
  simp [check, Schema.model, Schema.defaulted, List.lookup_cons, hnames, hnames']

/-- With other aliases in its document form, only these are looked at. -/
theorem check_aliases (k : ClassifierConfig) (j : Json) :
    check (.object [("kind_aliases", j), ("strict", .bool k.strict)]) =
      (Checked.within (.field "kind_aliases") (Schema.stringMap j)).map
        fun pairs => { k with kindAliases := ⟨pairs⟩ } := by
  rw [check_members, Schema.boolean, Checked.within, Checked.both_ok_right, Checked.within_map,
    Checked.map_map, Checked.map_map]
  rfl

theorem check_strict (k : ClassifierConfig) (j : Json) :
    check (.object [("kind_aliases", .object (k.kindAliases.entries.map fun e => (e.1, .text e.2))),
      ("strict", j)]) =
      (Checked.within (.field "strict") (Schema.boolean j)).map fun b => { k with strict := b } := by
  rw [check_members, Schema.stringMap_texts]
  change (Checked.both (.ok k.kindAliases) _).map _ = _
  rw [Checked.both_ok_left, Checked.map_map]
  rfl

theorem setPart?_aliases (k : ClassifierConfig) (names : List Text) (v : Json) :
    k.toJson.setPart? ("kind_aliases" :: names) v =
      ((Json.object (k.kindAliases.entries.map fun e => (e.1, .text e.2))).setPart? names v).map
        fun j => .object [("kind_aliases", j), ("strict", .bool k.strict)] := rfl

end ClassifierConfig

namespace Config

theorem check_members (name classifier : Json) :
    check (.object [("name", name), ("classifier", classifier)]) =
      (Checked.both (Checked.within (.field "name") (Schema.string name))
        (Checked.within (.field "classifier") (ClassifierConfig.check classifier))).map
          fun (t, k) => ⟨t, k⟩ := by
  have hnames : ((("classifier" : String) : Text) == ("name" : String)) = false := by decide
  simp [check, Schema.model, Schema.defaulted, List.lookup_cons, hnames]

theorem check_name (c : Config) (j : Json) :
    check (.object [("name", j), ("classifier", c.classifier.toJson)]) =
      (Checked.within (.field "name") (Schema.string j)).map fun t => { c with name := t } := by
  rw [check_members, ClassifierConfig.check_toJson, Checked.within, Checked.both_ok_right,
    Checked.map_map]
  rfl

/-- With another classifier in its document form, only this is looked at. -/
theorem check_classifier (c : Config) (j : Json) :
    check (.object [("name", .text c.name), ("classifier", j)]) =
      (Checked.within (.field "classifier") (ClassifierConfig.check j)).map
        fun k => { c with classifier := k } := by
  rw [check_members, Schema.string, Checked.within, Checked.both_ok_left, Checked.map_map]
  rfl

theorem setPart?_classifier (c : Config) (names : List Text) (v : Json) :
    c.toJson.setPart? ("classifier" :: names) v =
      (c.classifier.toJson.setPart? names v).map
        fun j => .object [("name", .text c.name), ("classifier", j)] := rfl

/-- What a dotted key can name. -/
inductive Setting where
  | name
  | classifier
  | aliases
  | spelling (s : Text)
  | strict

namespace Setting

/-- The type of a setting. -/
abbrev Kind : Setting → Type
  | name => Text
  | classifier => ClassifierConfig
  | aliases => OrdMap Text Text
  | spelling _ => Text
  | strict => Bool

/-- The names between the dots of a setting's key. -/
def path : Setting → List Text
  | name => ["name"]
  | classifier => ["classifier"]
  | aliases => ["classifier", "kind_aliases"]
  | spelling s => ["classifier", "kind_aliases", s]
  | strict => ["classifier", "strict"]

/-- What a configuration has at a setting. -/
def get? (c : Config) : (s : Setting) → Option s.Kind
  | name => some c.name
  | classifier => some c.classifier
  | aliases => some c.classifier.kindAliases
  | spelling s => c.classifier.kindAliases.get? s
  | strict => some c.classifier.strict

/-- The configuration with something else at a setting. -/
def put (c : Config) : (s : Setting) → s.Kind → Config
  | name, t => { c with name := t }
  | classifier, k => { c with classifier := k }
  | aliases, m => { c with classifier := { c.classifier with kindAliases := m } }
  | spelling s, t =>
    { c with
      classifier := { c.classifier with kindAliases := c.classifier.kindAliases.insert s t } }
  | strict, b => { c with classifier := { c.classifier with strict := b } }

/-- The document form of what is at a setting. -/
def write : (s : Setting) → s.Kind → Json
  | name, t => .text t
  | classifier, k => k.toJson
  | aliases, m => .object (m.entries.map fun e => (e.1, .text e.2))
  | spelling _, t => .text t
  | strict, b => .bool b

/-- What a document stands for at a setting. Issues are placed in the whole configuration. -/
def read : (s : Setting) → Json → Checked s.Kind
  | name, j => .within (.field "name") (Schema.string j)
  | classifier, j => .within (.field "classifier") (ClassifierConfig.check j)
  | aliases, j =>
    .within (.field "classifier")
      (.within (.field "kind_aliases") ((Schema.stringMap j).map OrdMap.mk))
  | spelling s, j =>
    .within (.field "classifier")
      (.within (.field "kind_aliases") (.within (.field s.lossy) (Schema.string j)))
  | strict, j => .within (.field "classifier") (.within (.field "strict") (Schema.boolean j))

theorem read_write (s : Setting) (a : s.Kind) : s.read (s.write a) = .ok a := by
  cases s with
  | name => rfl
  | classifier => rw [read, write, ClassifierConfig.check_toJson, Checked.within]
  | aliases =>
      rw [read, write, Schema.stringMap_texts]
      rfl
  | spelling s => rfl
  | strict => rfl

theorem get?_put (c : Config) (s : Setting) (a : s.Kind) : s.get? (s.put c a) = some a := by
  cases s with
  | spelling s =>
      exact OrdMap.get?_alter_self c.classifier.kindAliases s (fun _ => a) BEq.rfl
  | _ => rfl

theorem put_of_get? {c : Config} {s : Setting} {a : s.Kind} (h : s.get? c = some a) :
    s.put c a = c := by
  cases s with
  | spelling s => rw [put, OrdMap.insert_of_get? h]
  | _ =>
      cases h
      rfl

theorem put_put (c : Config) (s : Setting) (a b : s.Kind) : s.put (s.put c a) b = s.put c b := by
  cases s with
  | spelling s => simp only [put, OrdMap.insert_insert]
  | _ => rfl

/-- Two settings of which none is part of the other, in one of their two orders. -/
inductive Apart : Setting → Setting → Prop
  | name {s : Setting} (h : s ≠ name) : Apart name s
  | strict_aliases : Apart strict aliases
  | strict_spelling (s : Text) : Apart strict (spelling s)
  | spellings {s s' : Text} (h : s ≠ s') : Apart (spelling s) (spelling s')

/-- Keys of which none continues the other name settings apart. -/
theorem apart_of_paths {s s' : Setting} (h : ¬s.path <+: s'.path) (h' : ¬s'.path <+: s.path) :
    Apart s s' ∨ Apart s' s := by
  cases s with
  | name =>
      left
      apply Apart.name
      rintro rfl
      exact h (List.prefix_refl _)
  | classifier =>
      cases s' with
      | name => exact .inr (.name fun h => (by cases h))
      | _ => exact absurd (List.prefix_append _ _) h
  | aliases =>
      cases s' with
      | name => exact .inr (.name fun h => (by cases h))
      | strict => exact .inr .strict_aliases
      | classifier => exact absurd (List.prefix_append _ _) h'
      | _ => exact absurd (List.prefix_append _ _) h
  | spelling t =>
      cases s' with
      | name => exact .inr (.name fun h => (by cases h))
      | strict => exact .inr (.strict_spelling t)
      | spelling t' =>
          left
          apply Apart.spellings
          rintro rfl
          exact h (List.prefix_refl _)
      | _ => exact absurd (List.prefix_append _ _) h'
  | strict =>
      cases s' with
      | name => exact .inr (.name fun h => (by cases h))
      | aliases => exact .inl .strict_aliases
      | spelling t => exact .inl (.strict_spelling t)
      | classifier => exact absurd (List.prefix_append _ _) h'
      | strict => exact absurd (List.prefix_refl _) h

/-- Settings apart are not seen by each other's changes. -/
theorem Apart.get?_put {s s' : Setting} (h : Apart s s') (c : Config) :
    (∀ a, s'.get? (s.put c a) = s'.get? c) ∧ ∀ a, s.get? (s'.put c a) = s.get? c := by
  cases h with
  | name hne =>
      cases s' with
      | name => exact absurd rfl hne
      | _ => exact ⟨fun _ => rfl, fun _ => rfl⟩
  | strict_aliases => exact ⟨fun _ => rfl, fun _ => rfl⟩
  | strict_spelling s => exact ⟨fun _ => rfl, fun _ => rfl⟩
  | @spellings s s' hne =>
      have hget : ∀ {s s' : Text}, s ≠ s' → ∀ t,
          (c.classifier.kindAliases.insert s t).get? s' = c.classifier.kindAliases.get? s' := by
        intro s s' hne t
        rw [OrdMap.insert, OrdMap.get?_alter EquivOn.of_lawful trivial,
          if_neg fun heq => hne (eq_of_beq heq).symm]
      exact ⟨hget hne, hget hne.symm⟩

/-- Settings apart may be changed in either order. -/
theorem Apart.put_comm {s s' : Setting} (h : Apart s s') {c : Config} {a : s.Kind}
    (ha : s.get? c = some a) (b : s.Kind) (b' : s'.Kind) :
    s'.put (s.put c b) b' = s.put (s'.put c b') b := by
  cases h with
  | name hne =>
      cases s' with
      | name => exact absurd rfl hne
      | _ => rfl
  | strict_aliases => rfl
  | strict_spelling s => rfl
  | @spellings s s' hne => simp only [put, OrdMap.insert_comm hne ha]

section Paths

variable {s s' : Setting} (h : ¬s.path <+: s'.path) (h' : ¬s'.path <+: s.path)

include h h'

theorem get?_put_apart (c : Config) (b : s.Kind) : s'.get? (s.put c b) = s'.get? c := by
  rcases apart_of_paths h h' with hapart | hapart
  · exact (hapart.get?_put c).1 b
  · exact (hapart.get?_put c).2 b

theorem put_comm_apart {c : Config} {a : s.Kind} (ha : s.get? c = some a) {a' : s'.Kind}
    (ha' : s'.get? c = some a') (b : s.Kind) (b' : s'.Kind) :
    s'.put (s.put c b) b' = s.put (s'.put c b') b := by
  rcases apart_of_paths h h' with hapart | hapart
  · exact hapart.put_comm ha b b'
  · exact (hapart.put_comm ha' b' b).symm

end Paths

end Setting

/-- The part of the document form at a setting. -/
theorem part?_path (c : Config) (s : Setting) :
    c.toJson.part? s.path = (s.get? c).map s.write := by
  cases s with
  | spelling s =>
      change (Json.object (c.classifier.kindAliases.entries.map fun e => (e.1, .text e.2))).part? [s] =
        (c.classifier.kindAliases.entries.lookup s).map Json.text
      rw [Json.part?, Json.lookup_texts]
      cases c.classifier.kindAliases.entries.lookup s <;> rfl
  | _ => rfl

/-- Names that lead from the classifier to no setting lead nowhere. -/
theorem part?_classifier_of_no_setting {names : List Text}
    (h : ∀ s : Setting, (("classifier" : String) : Text) :: names ≠ s.path) (k : ClassifierConfig) :
    k.toJson.part? names = none := by
  cases names with
  | nil => exact absurd rfl (h .classifier)
  | cons second rest =>
      by_cases haliases : second = "kind_aliases"
      · subst haliases
        cases rest with
        | nil => exact absurd rfl (h .aliases)
        | cons third rest =>
            cases rest with
            | nil => exact absurd rfl (h (.spelling third))
            | cons fourth rest =>
                change (Json.object (k.kindAliases.entries.map
                  fun e => (e.1, .text e.2))).part? (third :: fourth :: rest) = none
                rw [Json.part?, Json.lookup_texts]
                cases k.kindAliases.entries.lookup third <;> rfl
      · by_cases hstrict : second = "strict"
        · subst hstrict
          cases rest with
          | nil => exact absurd rfl (h .strict)
          | cons third rest => rfl
        · rw [ClassifierConfig.toJson, Json.part?, OrdMap.lookup_cons_of_ne haliases,
            OrdMap.lookup_cons_of_ne hstrict, List.lookup_nil]

/-- Names that lead to no setting lead nowhere. -/
theorem part?_of_no_setting {names : List Text} (hnil : names ≠ [])
    (h : ∀ s : Setting, names ≠ s.path) (c : Config) : c.toJson.part? names = none := by
  cases names with
  | nil => exact absurd rfl hnil
  | cons first rest =>
      by_cases hname : first = "name"
      · subst hname
        cases rest with
        | nil => exact absurd rfl (h .name)
        | cons second rest => rfl
      · by_cases hclassifier : first = "classifier"
        · subst hclassifier
          exact part?_classifier_of_no_setting h c.classifier
        · rw [toJson, Json.part?, OrdMap.lookup_cons_of_ne hname,
            OrdMap.lookup_cons_of_ne hclassifier, List.lookup_nil]

/-- Replacing what is at a setting: the new value is read, and put in its place. -/
theorem check_setPart? {c : Config} {s : Setting} {a : s.Kind} (ha : s.get? c = some a) (v : Json) :
    ∃ j, c.toJson.setPart? s.path v = some j ∧ check j = (s.read v).map (s.put c) := by
  cases s with
  | name => exact ⟨_, rfl, c.check_name v⟩
  | classifier => exact ⟨_, rfl, c.check_classifier v⟩
  | aliases =>
      refine ⟨.object [("name", .text c.name), ("classifier",
        .object [("kind_aliases", v), ("strict", .bool c.classifier.strict)])], rfl, ?_⟩
      rw [c.check_classifier, c.classifier.check_aliases]
      simp only [Setting.read, Checked.within_map, Checked.map_map]
      rfl
  | spelling s =>
      have hentry : c.classifier.kindAliases.entries.lookup s = some a := ha
      have hlookup : (c.classifier.kindAliases.entries.map fun e => (e.1, Json.text e.2)).lookup s =
          some (.text a) := by
        rw [Json.lookup_texts, hentry, Option.map_some]
      rw [Setting.path, setPart?_classifier, ClassifierConfig.setPart?_aliases, Json.setPart?,
        hlookup]
      refine ⟨_, rfl, ?_⟩
      rw [c.check_classifier, c.classifier.check_aliases, Schema.stringMap_setMember hentry]
      simp only [Setting.read, Checked.within_map, Checked.map_map]
      rfl
  | strict =>
      refine ⟨.object [("name", .text c.name), ("classifier", .object
        [("kind_aliases", .object (c.classifier.kindAliases.entries.map fun e => (e.1, .text e.2))),
          ("strict", v)])], rfl, ?_⟩
      rw [c.check_classifier, c.classifier.check_strict]
      simp only [Setting.read, Checked.within_map, Checked.map_map]
      rfl

theorem keyNames_ne_nil (key : Text) : keyNames key ≠ [] := by
  intro hnil
  exact List.splitOn_ne_nil _ _ (List.map_eq_nil_iff.mp hnil)

/-- A key names a setting that the configuration has, or reading and changing fail alike. -/
theorem key_cases (c : Config) (key : Text) :
    (∃ s a, keyNames key = Setting.path s ∧ s.get? c = some a) ∨
      c.get key = .error (.unknownKey key) ∧ ∀ v, c.set key v = .error (.unknownKey key) := by
  by_cases hpart : c.toJson.part? (keyNames key) = none
  · refine .inr ⟨?_, fun v => ?_⟩
    · rw [get, hpart]
    · rw [set, Json.setPart?_eq_none_iff.mpr hpart]
  · left
    by_cases hsetting : ∃ s, keyNames key = Setting.path s
    · obtain ⟨s, hs⟩ := hsetting
      rw [hs, part?_path, Option.map_eq_none_iff] at hpart
      obtain ⟨a, ha⟩ := Option.ne_none_iff_exists'.mp hpart
      exact ⟨s, a, hs, ha⟩
    · exact absurd (part?_of_no_setting (keyNames_ne_nil key) (not_exists.mp hsetting) c) hpart

section Known

variable {c : Config} {key : Text} {s : Setting} {a : s.Kind} (hkey : keyNames key = s.path)
  (ha : s.get? c = some a)

include hkey ha

theorem get_setting : c.get key = .ok (s.write a) := by
  have hpart : c.toJson.part? (keyNames key) = some (s.write a) := by
    rw [hkey, part?_path, ha, Option.map_some]
  rw [get, hpart]

theorem set_setting_ok {v : Json} {b : s.Kind} (hv : s.read v = .ok b) :
    c.set key v = .ok (s.put c b) := by
  obtain ⟨j, hj, hcheck⟩ := check_setPart? ha v
  have hok : check j = .ok (s.put c b) := by
    rw [hcheck, hv]
    rfl
  simp only [set, hkey, hj, hok]

theorem set_setting_error {v : Json} {issues : List Issue} (hv : s.read v = .error issues) :
    c.set key v = .error (.config (.badValue (.ofJson v) key issues)) := by
  obtain ⟨j, hj, hcheck⟩ := check_setPart? ha v
  have herror : check j = .error issues := by
    rw [hcheck, hv]
    rfl
  simp only [set, hkey, hj, herror]

end Known

/-- A change that succeeds: the key names a setting, the value can be read there, and is put there. -/
theorem set_eq_ok {c c' : Config} {key : Text} {v : Json} (h : c.set key v = .ok c') :
    ∃ s a b, keyNames key = Setting.path s ∧ s.get? c = some a ∧ s.read v = .ok b ∧
      c' = s.put c b := by
  rcases c.key_cases key with ⟨s, a, hkey, ha⟩ | ⟨_, hunknown⟩
  · cases hv : s.read v with
    | ok b =>
        rw [set_setting_ok hkey ha hv] at h
        exact ⟨s, a, b, hkey, ha, hv, (Except.ok.inj h).symm⟩
    | error issues =>
        rw [set_setting_error hkey ha hv] at h
        cases h
  · rw [hunknown v] at h
    cases h

/-- A value of the right type for a setting, with all that belongs to it and nothing else. -/
inductive Setting.Complete : Setting → Json → Prop
  | name (t : Text) : Complete name (.text t)
  | classifier {members : List (Text × Json)} {spellings : Json} {b : Bool}
      (hspellings : Complete aliases spellings)
      (hmembers : members.Perm [("kind_aliases", spellings), ("strict", .bool b)]) :
      Complete classifier (.object members)
  | aliases {members : List (Text × Json)} (h : ∀ m ∈ members, ∃ t, m.2 = .text t) :
      Complete aliases (.object members)
  | spelling (s t : Text) : Complete (spelling s) (.text t)
  | strict (b : Bool) : Complete strict (.bool b)

theorem texts_of_forall {members : List (Text × Json)} (h : ∀ m ∈ members, ∃ t, m.2 = .text t) :
    ∃ pairs : List (Text × Text), members = pairs.map fun e => (e.1, .text e.2) := by
  induction members with
  | nil => exact ⟨[], rfl⟩
  | cons m members ih =>
      obtain ⟨⟨t, ht⟩, hrest⟩ := List.forall_mem_cons.mp h
      obtain ⟨pairs, hpairs⟩ := ih hrest
      refine ⟨(m.1, t) :: pairs, ?_⟩
      rw [List.map_cons, ← hpairs, ← ht]

/-- A complete value is read as what has it for its document form, but for the order of members. -/
theorem Setting.Complete.read {s : Setting} {v : Json} (h : s.Complete v) :
    ∃ a, s.read v = .ok a ∧ (s.write a).Reordered v := by
  cases h with
  | name t => exact ⟨t, rfl, .refl _⟩
  | @classifier members _ b hspellings hmembers =>
      cases hspellings with
      | aliases htexts =>
          obtain ⟨pairs, rfl⟩ := texts_of_forall htexts
          refine ⟨⟨⟨pairs⟩, b⟩, Checked.within_eq_ok_iff.mpr ?_, .object hmembers.symm⟩
          have hcheck := ClassifierConfig.check_toJson ⟨⟨pairs⟩, b⟩
          rcases List.perm_pair.mp hmembers with rfl | rfl
          · exact hcheck
          · rw [ClassifierConfig.check_swap]
            exact hcheck
  | aliases htexts =>
      obtain ⟨pairs, rfl⟩ := texts_of_forall htexts
      exact ⟨⟨pairs⟩, Setting.read_write .aliases ⟨pairs⟩, .refl _⟩
  | spelling s t => exact ⟨t, rfl, .refl _⟩
  | strict b => exact ⟨b, rfl, .refl _⟩

section Laws

variable {c c₂ : Config} {k k' : Text} {v : Json}

/-- A change fails for want of the setting exactly if reading does. -/
theorem set_unknown_iff (c : Config) (k : Text) (v : Json) :
    c.set k v = .error (.unknownKey k) ↔ c.get k = .error (.unknownKey k) := by
  rcases c.key_cases k with ⟨s, a, hkey, ha⟩ | ⟨hget, hset⟩
  · rw [get_setting hkey ha]
    refine ⟨fun h => ?_, fun h => (by cases h)⟩
    cases hv : s.read v with
    | ok b =>
        rw [set_setting_ok hkey ha hv] at h
        cases h
    | error issues =>
        rw [set_setting_error hkey ha hv] at h
        cases h
  · exact ⟨fun _ => hget, fun _ => hset v⟩

/-- To set a setting to what it is changes nothing. -/
theorem set_get (h : c.get k = .ok v) : c.set k v = .ok c := by
  rcases c.key_cases k with ⟨s, a, hkey, ha⟩ | ⟨hget, _⟩
  · rw [get_setting hkey ha] at h
    obtain rfl := Except.ok.inj h
    rw [set_setting_ok hkey ha (s.read_write a), Setting.put_of_get? ha]
  · rw [hget] at h
    cases h

/-- Of two changes of one setting the second counts. -/
theorem set_set (h : c.set k v = .ok c₂) (w : Json) : c₂.set k w = c.set k w := by
  obtain ⟨s, a, b, hkey, ha, hv, rfl⟩ := set_eq_ok h
  have hb := Setting.get?_put c s b
  cases hw : s.read w with
  | ok d => rw [set_setting_ok hkey hb hw, set_setting_ok hkey ha hw, Setting.put_put]
  | error issues => rw [set_setting_error hkey hb hw, set_setting_error hkey ha hw]

variable (hk : ¬keyNames k <+: keyNames k') (hk' : ¬keyNames k' <+: keyNames k)

include hk hk'

/-- A change is not seen at a setting apart. -/
theorem get_set_apart (h : c.set k v = .ok c₂) : c₂.get k' = c.get k' := by
  obtain ⟨s, a, b, hkey, ha, hv, rfl⟩ := set_eq_ok h
  have hpart : (s.put c b).toJson.part? (keyNames k') = c.toJson.part? (keyNames k') := by
    by_cases hsetting : ∃ s', keyNames k' = Setting.path s'
    · obtain ⟨s', hkey'⟩ := hsetting
      rw [hkey, hkey'] at hk hk'
      rw [hkey', part?_path, part?_path, Setting.get?_put_apart hk hk']
    · have hnone := part?_of_no_setting (keyNames_ne_nil k') (not_exists.mp hsetting)
      rw [hnone, hnone]
  rw [get, get, hpart]

/-- Two changes of settings apart that succeed on their own succeed one after the other. -/
theorem set_set_apart {w : Json} {c₃ : Config} (h : c.set k v = .ok c₂) (h₃ : c.set k' w = .ok c₃) :
    ∃ c₄, c₂.set k' w = .ok c₄ ∧ c₃.set k v = .ok c₄ := by
  obtain ⟨s, a, b, hkey, ha, hv, rfl⟩ := set_eq_ok h
  obtain ⟨s', a', b', hkey', ha', hw, rfl⟩ := set_eq_ok h₃
  rw [hkey, hkey'] at hk hk'
  have hb : s.get? (s'.put c b') = some a := (Setting.get?_put_apart hk' hk c b').trans ha
  have hb' : s'.get? (s.put c b) = some a' := (Setting.get?_put_apart hk hk' c b).trans ha'
  refine ⟨_, set_setting_ok hkey' hb' hw, ?_⟩
  rw [set_setting_ok hkey hb hv, Setting.put_comm_apart hk hk' ha ha']

/-- A change that succeeds after one at a setting apart succeeds before it too. -/
theorem set_before_apart {w : Json} {c₄ : Config} (h : c.set k v = .ok c₂)
    (h₄ : c₂.set k' w = .ok c₄) : ∃ c₃, c.set k' w = .ok c₃ := by
  obtain ⟨s, a, b, hkey, ha, hv, rfl⟩ := set_eq_ok h
  obtain ⟨s', a', b', hkey', ha', hw, rfl⟩ := set_eq_ok h₄
  rw [hkey, hkey'] at hk hk'
  rw [Setting.get?_put_apart hk hk'] at ha'
  exact ⟨_, set_setting_ok hkey' ha' hw⟩

end Laws

/-- What is put is found, but for the order of its members, if it is a complete value. -/
theorem get_set {c c₂ : Config} {k : Text} {v : Json} (h : c.set k v = .ok c₂) {s : Setting}
    (hkey : keyNames k = s.path) (hv : s.Complete v) :
    ∃ v', c₂.get k = .ok v' ∧ v'.Reordered v := by
  obtain ⟨b, hb, hwrite⟩ := hv.read
  cases ha : s.get? c with
  | none =>
      have hunknown : c.get k = .error (.unknownKey k) := by
        rw [get, hkey, part?_path, ha, Option.map_none]
      rw [(c.set_unknown_iff k v).mpr hunknown] at h
      cases h
  | some a =>
      rw [set_setting_ok hkey ha hb] at h
      obtain rfl := Except.ok.inj h
      exact ⟨_, get_setting hkey (Setting.get?_put c s b), hwrite⟩

/-- The laws of reading and changing the settings of a configuration, for any keys and values. A
change finds no setting exactly if reading finds none. To set a setting to what it is changes
nothing. After a change, a complete value is found where it was put; another change of the same
setting comes to what it would have come to before; and if none of two keys continues the other, the
second setting is what it was, and two changes that succeed on their own, or one after the other,
commute. A configuration is a value, and so the one that is changed stays what it is. -/
theorem get_set_laws (c : Config) (k : Text) :
    (∀ v, c.set k v = .error (.unknownKey k) ↔ c.get k = .error (.unknownKey k)) ∧
    (∀ v, c.get k = .ok v → c.set k v = .ok c) ∧
    ∀ v c₂, c.set k v = .ok c₂ →
      (∀ s : Setting, keyNames k = s.path → s.Complete v →
        ∃ v', c₂.get k = .ok v' ∧ v'.Reordered v) ∧
      (∀ w, c₂.set k w = c.set k w) ∧
      ∀ k', ¬keyNames k <+: keyNames k' → ¬keyNames k' <+: keyNames k →
        c₂.get k' = c.get k' ∧
        (∀ w c₃, c.set k' w = .ok c₃ → ∃ c₄, c₂.set k' w = .ok c₄ ∧ c₃.set k v = .ok c₄) ∧
        ∀ w c₄, c₂.set k' w = .ok c₄ → ∃ c₃, c.set k' w = .ok c₃ ∧ c₃.set k v = .ok c₄ := by
  refine ⟨c.set_unknown_iff k, fun v => set_get, fun v c₂ h => ⟨?_, set_set h, ?_⟩⟩
  · intro s hkey hv
    exact get_set h hkey hv
  · intro k' hk hk'
    refine ⟨get_set_apart hk hk' h, fun w c₃ h₃ => set_set_apart hk hk' h h₃, ?_⟩
    intro w c₄ h₄
    obtain ⟨c₃, h₃⟩ := set_before_apart hk hk' h h₄
    obtain ⟨c₄', h₄', hboth⟩ := set_set_apart hk hk' h h₃
    rw [h₄] at h₄'
    cases h₄'
    exact ⟨c₃, h₃, hboth⟩

/-- A classifier with its two members in the other order, and with spellings that a key reaches only
as an empty name, or not at all. -/
def swappedClassifier : Json := .object
  [("strict", .bool true),
   ("kind_aliases", .object [("", .text "static"), ("a.b", .text "special")])]

theorem get_set_laws_swapped :
    let c := Config.default "demo"
    let c₂ : Config := ⟨"demo", ⟨⟨[("", "static"), ("a.b", "special")]⟩, true⟩⟩
    c.set "classifier" swappedClassifier = .ok c₂ ∧
      (∃ v', c₂.get "classifier" = .ok v' ∧ v'.Reordered swappedClassifier) ∧
      c₂.set "classifier" (.text "strict") = c.set "classifier" (.text "strict") ∧
      c₂.get "name" = c.get "name" ∧
      (∃ c₄, c₂.set "name" (.text "x") = .ok c₄ ∧
        Config.set ⟨"x", .default⟩ "classifier" swappedClassifier = .ok c₄) ∧
      c₂.get "classifier.kind_aliases." = .ok (.text "static") ∧
      c₂.set "classifier.kind_aliases." (.text "static") = .ok c₂ ∧
      c₂.set "classifier.kind_aliases.a.b" .null =
        .error (.unknownKey "classifier.kind_aliases.a.b") := by
  intro c c₂
  have hset : c.set "classifier" swappedClassifier = .ok c₂ := rfl
  have hname : c.set "name" (.text "x") = .ok ⟨"x", .default⟩ := rfl
  have hget : c₂.get "classifier.kind_aliases." = .ok (.text "static") := rfl
  have hcomplete : Setting.classifier.Complete swappedClassifier := by
    refine .classifier (.aliases ?_) (.swap _ _ _)
    rw [List.forall_mem_cons, List.forall_mem_singleton]
    exact ⟨⟨_, rfl⟩, _, rfl⟩
  obtain ⟨_, _, hlaws⟩ := get_set_laws c "classifier"
  obtain ⟨hfound, hagain, hapart⟩ := hlaws _ _ hset
  obtain ⟨hkept, hboth, _⟩ := hapart "name" (by decide) (by decide)
  exact ⟨hset, hfound .classifier rfl hcomplete, hagain _, hkept, hboth _ _ hname, hget,
    (get_set_laws c₂ "classifier.kind_aliases.").2.1 _ hget,
    ((get_set_laws c₂ "classifier.kind_aliases.a.b").1 _).mpr rfl⟩

end Config

end CallGraphs
