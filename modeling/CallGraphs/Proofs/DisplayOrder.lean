import CallGraphs.Proofs.TextFormation
import CallGraphs.Proofs.ValueEquality
import CallGraphs.SensitiveGraph
import Mathlib.Data.List.Lex
import Mathlib.Data.List.Nodup
import Mathlib.Data.Prod.Lex
/-!
# Display order of call sites

Call sites are sorted by the texts of their context and of their node, where these can be formed,
and sites with the same texts stay in the order in which they came. So the sequence of the texts is
always the same, but the sequence of the sites is independent of the order of the input only where
different sites have different texts.
-/

namespace CallGraphs

section Sorting

variable {α κ : Type} [LinearOrder κ]

/-- The second list is the first one sorted by a key; elements with one key keep their order. -/
structure StablySorted (key : α → κ) (xs ys : List α) : Prop where
  perm : ys.Perm xs
  sorted : ys.Pairwise fun a b => key a ≤ key b
  stable (k : κ) : ys.filter (key · = k) = xs.filter (key · = k)

variable {key : α → κ} {xs xs' ys ys' : List α}

theorem stablySorted_mergeSort (key : α → κ) (xs : List α) :
    StablySorted key xs (xs.mergeSort fun a b => key a ≤ key b) := by
  have htrans : ∀ a b c, decide (key a ≤ key b) = true → decide (key b ≤ key c) = true →
      decide (key a ≤ key c) = true := by
    intro a b c hab hbc
    simp only [decide_eq_true_eq] at hab hbc ⊢
    exact hab.trans hbc
  have htotal : ∀ a b, (decide (key a ≤ key b) || decide (key b ≤ key a)) = true := by
    intro a b
    simpa using le_total (key a) (key b)
  have hperm := xs.mergeSort_perm fun a b => key a ≤ key b
  refine ⟨hperm, (List.pairwise_mergeSort htrans htotal xs).imp of_decide_eq_true, fun k => ?_⟩
  -- The elements with one key are a sorted part of the input, so they are a part of the output.
  have htied : (xs.filter (key · = k)).Pairwise fun a b => decide (key a ≤ key b) = true := by
    refine List.pairwise_of_forall_mem_list fun a ha b hb => ?_
    have hka : key a = k := by simpa using (List.mem_filter.mp ha).2
    have hkb : key b = k := by simpa using (List.mem_filter.mp hb).2
    simp [hka, hkb]
  have hpart := (List.sublist_mergeSort htrans htotal htied List.filter_sublist).filter (key · = k)
  rw [List.filter_filter, List.filter_congr fun _ _ => Bool.and_self _] at hpart
  exact (hpart.eq_of_length (hperm.filter _).length_eq.symm).symm

theorem key_le_of_mem {x a : α} (hsorted : (x :: xs).Pairwise fun a b => key a ≤ key b)
    (ha : a ∈ x :: xs) : key x ≤ key a := by
  rcases List.mem_cons.mp ha with rfl | ha
  · exact le_rfl
  · exact (List.pairwise_cons.mp hsorted).1 a ha

/-- Sorted lists of the same elements are equal if those of each key stand in the same order. -/
theorem eq_of_filter_eq (hys : ys.Pairwise fun a b => key a ≤ key b)
    (hys' : ys'.Pairwise fun a b => key a ≤ key b) (hperm : ys'.Perm ys)
    (h : ∀ a ∈ ys, ys'.filter (key · = key a) = ys.filter (key · = key a)) : ys' = ys := by
  induction ys generalizing ys' with
  | nil => exact hperm.eq_nil
  | cons y ys ih =>
      cases ys' with
      | nil => exact hperm.nil_eq
      | cons y' ys' =>
          -- Each of the two first elements is somewhere in the other list.
          have hkey : key y' = key y :=
            le_antisymm (key_le_of_mem hys' (hperm.mem_iff.mpr List.mem_cons_self))
              (key_le_of_mem hys (hperm.mem_iff.mp List.mem_cons_self))
          have hhead : y' = y := by
            have htied := h y List.mem_cons_self
            simp only [List.filter_cons, hkey, decide_true, if_true] at htied
            exact (List.cons.inj htied).1
          subst hhead
          rw [ih hys.of_cons hys'.of_cons hperm.cons_inv fun a ha => ?_]
          have htied := h a (List.mem_cons_of_mem y' ha)
          by_cases hk : key y' = key a <;> simpa [List.filter_cons, hk] using htied

namespace StablySorted

/-- Two orders of an input are sorted alike exactly if the elements of each key stand in the same
order in both. -/
theorem eq_iff (h : StablySorted key xs ys) (h' : StablySorted key xs' ys')
    (hperm : xs'.Perm xs) :
    ys' = ys ↔ ∀ a ∈ xs, xs'.filter (key · = key a) = xs.filter (key · = key a) := by
  constructor
  · rintro rfl a _
    rw [← h.stable, ← h'.stable]
  · intro hinputs
    refine eq_of_filter_eq h.sorted h'.sorted (h'.perm.trans (hperm.trans h.perm.symm)) ?_
    intro a ha
    rw [h.stable, h'.stable, hinputs a (h.perm.mem_iff.mp ha)]

theorem unique (h : StablySorted key xs ys) (h' : StablySorted key xs ys') : ys' = ys :=
  (h.eq_iff h' (.refl xs)).mpr fun _ _ => rfl

/-- What depends on the key alone comes out in one order, whatever the order of the input. -/
theorem map_eq_of_perm {β : Type} {f : α → β} (h : StablySorted key xs ys)
    (h' : StablySorted key xs' ys') (hperm : xs'.Perm xs)
    (hf : ∀ a ∈ xs, ∀ b ∈ xs, key a = key b → f a = f b) : ys'.map f = ys.map f := by
  have hys : ys'.Perm ys := h'.perm.trans (hperm.trans h.perm.symm)
  have hkeys : ys'.map key = ys.map key :=
    (hys.map key).eq_of_pairwise (fun _ _ _ _ => le_antisymm)
      (List.pairwise_map.mpr h'.sorted) (List.pairwise_map.mpr h.sorted)
  refine List.ext_getElem (by simpa using hys.length_eq) fun i hi hi' => ?_
  simp only [List.length_map] at hi hi'
  have hkey : key ys'[i] = key ys[i] := by
    have hat := congrArg (·[i]?) hkeys
    simpa [hi, hi'] using hat
  simp only [List.getElem_map]
  exact hf _ (hperm.mem_iff.mp (h'.perm.mem_iff.mp (List.getElem_mem hi))) _
    (h.perm.mem_iff.mp (List.getElem_mem hi')) hkey

/-- Every order of the input is sorted alike exactly if no two different elements have one key. -/
theorem forall_perm_iff (h : StablySorted key xs ys) :
    (∀ xs' ys', xs'.Perm xs → StablySorted key xs' ys' → ys' = ys) ↔
      ∀ a ∈ xs, ∀ b ∈ xs, a ≠ b → key a ≠ key b := by
  constructor
  · intro hall a ha b hb hne hkey
    -- Whichever element is moved to the front comes out before all others of its key.
    have hfront : ∀ c ∈ xs, (ys.filter (key · = key c)).head? = some c := by
      intro c hc
      obtain ⟨s, t, rfl⟩ := List.append_of_mem hc
      have hmoved := stablySorted_mergeSort key (c :: (s ++ t))
      rw [← hall _ _ List.perm_middle.symm hmoved, hmoved.stable]
      simp
    have hab := hfront a ha
    rw [hkey, hfront b hb] at hab
    exact hne (Option.some.inj hab).symm
  · intro hkeys xs' ys' hperm h'
    refine (h'.perm.trans (hperm.trans h.perm.symm)).eq_of_pairwise ?_ h'.sorted h.sorted
    intro a b ha hb hab hba
    by_contra hne
    exact hkeys a (hperm.mem_iff.mp (h'.perm.mem_iff.mp ha)) b (h.perm.mem_iff.mp hb) hne
      (le_antisymm hab hba)

end StablySorted

end Sorting

theorem CodePoint.number_injective : Function.Injective CodePoint.number := by
  -- No character has the number of half a pair.
  have hapart : ∀ (c : Char) (i : Fin 2048), c.toNat ≠ firstHalf + i := by
    intro c i heq
    have hi := i.isLt
    have hc : c.toNat < 0xD800 ∨ 0xDFFF < c.toNat ∧ c.toNat < 0x110000 := c.valid
    unfold firstHalf at heq
    omega
  intro p q hpq
  cases p with
  | char c =>
      cases q with
      | char c' => rw [Char.toNat_inj.mp hpq]
      | half i => exact absurd hpq (hapart c i)
  | half i =>
      cases q with
      | char c' => exact absurd hpq.symm (hapart c' i)
      | half i' => rw [Fin.ext (Nat.add_left_cancel hpq)]

theorem Text.points_inj {s t : Text} : s.points = t.points ↔ s = t := by
  cases s
  cases t
  simp

theorem Text.numbers_injective : Function.Injective Text.numbers := fun _ _ h =>
  points_inj.mp (List.map_injective_iff.mpr CodePoint.number_injective h)

/-- A list is split in one way at the first place of an element. -/
theorem append_cons_inj_of_not_mem {α : Type} {a : α} {xs xs' ys ys' : List α} (hxs : a ∉ xs)
    (hxs' : a ∉ xs') : xs ++ a :: ys = xs' ++ a :: ys' ↔ xs = xs' ∧ ys = ys' := by
  induction xs generalizing xs' with
  | nil =>
      cases xs' with
      | nil => simp
      | cons x' xs' => simp [List.ne_of_not_mem_cons hxs']
  | cons x xs ih =>
      cases xs' with
      | nil => simp [Ne.symm (List.ne_of_not_mem_cons hxs)]
      | cons x' xs' =>
          have hrest := ih (List.not_mem_of_not_mem_cons hxs) (List.not_mem_of_not_mem_cons hxs')
          simp [hrest, and_assoc]

theorem Text.append_sign_inj {s s' t t' : Text} (hs : .char '@' ∉ s.points)
    (hs' : .char '@' ∉ s'.points) : s ++ "@" ++ t = s' ++ "@" ++ t' ↔ s = s' ∧ t = t' := by
  have hpoints : ∀ u v : Text, (u ++ "@" ++ v).points = u.points ++ .char '@' :: v.points := by
    intro u v
    change u.points ++ [.char '@'] ++ v.points = _
    rw [List.append_assoc]
    rfl
  rw [← points_inj, hpoints, hpoints, append_cons_inj_of_not_mem hs hs', points_inj, points_inj]

namespace Value

/-- A sort key in numbers, which are compared text by text. -/
def keyNumbers (k : Text × Text) : List Nat ×ₗ List Nat :=
  toLex (k.1.numbers, k.2.numbers)

theorem keyNumbers_injective : Function.Injective keyNumbers := by
  intro k k' hk
  obtain ⟨hctx, hnode⟩ := Prod.mk.inj (toLex.injective hk)
  exact Prod.ext (Text.numbers_injective hctx) (Text.numbers_injective hnode)

theorem keyLE_eq (k k' : Text × Text) : keyLE k k' = decide (keyNumbers k ≤ keyNumbers k') := by
  rw [Bool.eq_iff_iff, decide_eq_true_eq, keyNumbers, keyNumbers, Prod.Lex.toLex_le_toLex]
  simp [keyLE, Text.numbers_injective.eq_iff]

/-- The texts by which a call site is sorted, where they can be formed. Nothing else has them. -/
def key? (v : Value) : Option (Text × Text) :=
  v.sortKey.toOption

/-- The place of a call site in the display order, where it has one. -/
def rank (v : Value) : List Nat ×ₗ List Nat :=
  match v.key? with
  | some k => keyNumbers k
  | none => toLex ([], [])

theorem key?_of_formed {ctx node : Value} (hctx : ctx.plain.formed = .ok ctx.plain.text)
    (hnode : node.plain.formed = .ok node.plain.text) :
    (site ctx node).key? = some (ctx.plain.text, node.plain.text) := by
  simp [key?, sortKey, siteKey, siteParts, hctx, hnode, Bind.bind, Except.bind, Pure.pure,
    Except.pure, Except.toOption]

theorem siteKey_of_key? {v : Value} {k : Text × Text} (hk : v.key? = some k) :
    v.siteKey = .ok k := by
  cases v with
  | site ctx node =>
      change (siteKey (site ctx node)).toOption = some k at hk
      cases hkey : siteKey (site ctx node) with
      | error f =>
          rw [hkey] at hk
          cases hk
      | ok k' =>
          rw [hkey] at hk
          exact congrArg Except.ok (Option.some.inj hk)
  | _ => cases hk

theorem rank_eq_iff {a b : Value} (ha : a.key?.isSome = true) (hb : b.key?.isSome = true) :
    a.rank = b.rank ↔ a.key? = b.key? := by
  obtain ⟨k, hk⟩ := Option.isSome_iff_exists.mp ha
  obtain ⟨k', hk'⟩ := Option.isSome_iff_exists.mp hb
  simp only [rank, hk, hk', keyNumbers_injective.eq_iff, Option.some.injEq]

/-- Every call site gets its sort key. -/
theorem sortKeys_of_sites {sites : List Value} (hsites : ∀ v ∈ sites, v.key?.isSome = true) :
    ∃ keyed, sortKeys sites = .ok keyed ∧ keyed.map Prod.snd = sites ∧
      ∀ p ∈ keyed, p.2.rank = keyNumbers p.1 := by
  induction sites with
  | nil => exact ⟨[], rfl, rfl, by simp⟩
  | cons v vs ih =>
      obtain ⟨hv, hvs⟩ := List.forall_mem_cons.mp hsites
      obtain ⟨k, hk⟩ := Option.isSome_iff_exists.mp hv
      obtain ⟨keyed, hkeyed, hmap, hranks⟩ := ih hvs
      refine ⟨(k, v) :: keyed, ?_, by rw [List.map_cons, hmap], ?_⟩
      · rw [sortKeys, siteKey_of_key? hk, hkeyed]
        rfl
      · exact List.forall_mem_cons.mpr ⟨by rw [rank, hk], hranks⟩

/-- A call site has a sort key, or one of its texts cannot be formed. -/
theorem siteKey_of_site {v : Value} (hv : v.shape = .site) :
    (∃ k, v.key? = some k) ∨ ∃ stop, v.siteKey = .error (.unformed stop) := by
  cases v with
  | site ctx node =>
      rcases ctx.plain.formed_cases with hctx | ⟨stop, hctx⟩
      · rcases node.plain.formed_cases with hnode | ⟨stop, hnode⟩
        · exact .inl ⟨(ctx.plain.text, node.plain.text), key?_of_formed hctx hnode⟩
        · exact .inr ⟨stop, by simp [siteKey, siteParts, hctx, hnode, Bind.bind, Except.bind]⟩
      · exact .inr ⟨stop, by simp [siteKey, siteParts, hctx, Bind.bind, Except.bind]⟩
  | _ => cases hv

/-- Call sites are not sorted if there is one without a sort key. -/
theorem sortKeys_of_unformed {sites : List Value} (hsites : ∀ v ∈ sites, v.shape = .site)
    {v : Value} (hv : v ∈ sites) (hnone : v.key? = none) :
    ∃ stop, sortKeys sites = .error (.unformed stop) := by
  induction sites with
  | nil => cases hv
  | cons w ws ih =>
      obtain ⟨hw, hws⟩ := List.forall_mem_cons.mp hsites
      rcases siteKey_of_site hw with ⟨k, hk⟩ | ⟨stop, hstop⟩
      · rcases List.mem_cons.mp hv with rfl | hrest
        · rw [hk] at hnone
          cases hnone
        · obtain ⟨stop, hstop⟩ := ih hws hrest
          exact ⟨stop, by rw [sortKeys, siteKey_of_key? hk, hstop]; rfl⟩
      · exact ⟨stop, by rw [sortKeys, hstop]⟩

/-- Call sites can be sorted, and are so by their sort keys. -/
theorem sortSites_stablySorted {sites : List Value} (hsites : ∀ v ∈ sites, v.key?.isSome = true) :
    ∃ ordered, sortSites sites = .ok ordered ∧ StablySorted rank sites ordered := by
  obtain ⟨keyed, hkeyed, hmap, hranks⟩ := sortKeys_of_sites hsites
  refine ⟨_, ?_, stablySorted_mergeSort rank sites⟩
  rw [sortSites, hkeyed, ← hmap, ← List.map_mergeSort fun p hp q hq => ?_]
  · rfl
  · rw [keyLE_eq, hranks p hp, hranks q hq]

theorem sortSites_stablySorted_of_perm {sites sites' : List Value}
    (hsites : ∀ v ∈ sites, v.key?.isSome = true) (hperm : sites'.Perm sites) :
    ∃ ordered, sortSites sites' = .ok ordered ∧ StablySorted rank sites' ordered :=
  sortSites_stablySorted fun v hv => hsites v (hperm.mem_iff.mp hv)

/-- Call sites that are in display order stay as they are. -/
theorem sortSites_of_ranked {sites : List Value} (hsites : ∀ v ∈ sites, v.key?.isSome = true)
    (hranks : sites.Pairwise fun a b => a.rank ≤ b.rank) : sortSites sites = .ok sites := by
  obtain ⟨ordered, hok, hsorted⟩ := sortSites_stablySorted hsites
  rw [hok, hsorted.unique ⟨.refl sites, hranks, fun _ => rfl⟩]

/-- Two orders of the same call sites are sorted to one sequence of sort keys, and to one sequence
of sites exactly if the sites of each key stand in the same order in both. -/
theorem sortSites_agree {sites sites' ordered : List Value}
    (hsites : ∀ v ∈ sites, v.key?.isSome = true) (hperm : sites'.Perm sites)
    (hsorted : StablySorted rank sites ordered) :
    ∃ ordered', sortSites sites' = .ok ordered' ∧
      ordered'.map key? = ordered.map key? ∧
      (ordered' = ordered ↔ ∀ v ∈ sites,
        sites'.filter (·.key? = v.key?) = sites.filter (·.key? = v.key?)) := by
  obtain ⟨ordered', hok', hsorted'⟩ := sortSites_stablySorted_of_perm hsites hperm
  have hkeys : ∀ a ∈ sites, ∀ b ∈ sites, a.rank = b.rank ↔ a.key? = b.key? :=
    fun a ha b hb => rank_eq_iff (hsites a ha) (hsites b hb)
  refine ⟨ordered', hok', ?_, ?_⟩
  · exact hsorted.map_eq_of_perm hsorted' hperm fun a ha b hb => (hkeys a ha b hb).mp
  · rw [hsorted.eq_iff hsorted' hperm]
    refine forall₂_congr fun v hv => iff_of_eq (congrArg₂ Eq ?_ ?_)
    · exact List.filter_congr fun w hw =>
        decide_eq_decide.mpr (hkeys w (hperm.mem_iff.mp hw) v hv)
    · exact List.filter_congr fun w hw => decide_eq_decide.mpr (hkeys w hw v hv)

/-- Every order of the call sites is sorted to one sequence. -/
def OrderIndependent (sites : List Value) : Prop :=
  ∃ ordered, ∀ sites', sites'.Perm sites → sortSites sites' = .ok ordered

theorem orderIndependent_iff {sites : List Value} (hsites : ∀ v ∈ sites, v.key?.isSome = true) :
    OrderIndependent sites ↔ ∀ a ∈ sites, ∀ b ∈ sites, a ≠ b → a.key? ≠ b.key? := by
  obtain ⟨ordered, hok, hsorted⟩ := sortSites_stablySorted hsites
  have hranks : (∀ a ∈ sites, ∀ b ∈ sites, a ≠ b → a.rank ≠ b.rank) ↔
      ∀ a ∈ sites, ∀ b ∈ sites, a ≠ b → a.key? ≠ b.key? :=
    forall₂_congr fun a ha => forall₂_congr fun b hb => imp_congr_right fun _ =>
      not_congr (rank_eq_iff (hsites a ha) (hsites b hb))
  rw [← hranks, ← hsorted.forall_perm_iff]
  constructor
  · rintro ⟨one, hone⟩ sites' ordered' hperm hsorted'
    obtain ⟨_, hok', hsorted''⟩ := sortSites_stablySorted_of_perm hsites hperm
    cases hok.symm.trans (hone sites (.refl sites))
    cases hok'.symm.trans (hone sites' hperm)
    exact hsorted''.unique hsorted'
  · intro hall
    refine ⟨ordered, fun sites' hperm => ?_⟩
    obtain ⟨ordered', hok', hsorted'⟩ := sortSites_stablySorted_of_perm hsites hperm
    rw [hok', hall sites' ordered' hperm hsorted']

/-- A call site at an instruction, in a context that has a text for its value and a procedure with a
name without the sign that separates the two. -/
inductive Named : Value → Prop
  | mk {method : Text} (value id : Text) (kind : Option Text) (h : .char '@' ∉ method.points) :
      Named (.site (.context (.text method) (.text value)) (.instruction id kind))

/-- A call site without the kind of its instruction. -/
def withoutKind : Value → Value
  | site ctx (instruction id _) => site ctx (instruction id none)
  | v => v

theorem Named.key?_eq {method : Text} (value id : Text) (kind : Option Text) :
    (site (context (text method) (text value)) (instruction id kind)).key? =
      some (method ++ "@" ++ value, id) := by
  have hctx := (plain_context_forms (.text method) (.text value)).formed_eq (by decide)
  have hnode := (plain_instruction_forms id kind).formed_eq (by decide)
  exact key?_of_formed hctx hnode

theorem Named.key?_isSome {v : Value} (hv : v.Named) : v.key?.isSome = true := by
  obtain ⟨value, id, kind, _⟩ := hv
  rw [Named.key?_eq]
  rfl

/-- The sort keys of named call sites tell all but the kinds of their instructions. -/
theorem Named.key?_eq_iff {a b : Value} (ha : a.Named) (hb : b.Named) :
    a.key? = b.key? ↔ a.withoutKind = b.withoutKind := by
  obtain @⟨method, value, id, kind, hmethod⟩ := ha
  obtain @⟨method', value', id', kind', hmethod'⟩ := hb
  simp only [Named.key?_eq, Option.some.injEq, Prod.mk.injEq, withoutKind, site.injEq,
    context.injEq, text.injEq, instruction.injEq, and_true, Text.append_sign_inj hmethod hmethod']

theorem Named.shape_eq {v : Value} (hv : v.Named) : v.shape = .site := by
  cases hv
  rfl

/-- Call sites can be sorted for display exactly if their texts can be formed, and then their sort
keys come out in one sequence whatever the order of the sites. Two orders give one sequence of sites
exactly if the sites of each key stand in the same order in both, so all orders do exactly if
different sites never have one key. Named sites can always be sorted, and have one key only if they
differ in nothing but the kind of the instruction. -/
theorem sortSites_order_independent_iff {sites : List Value}
    (hsites : ∀ v ∈ sites, v.shape = .site) :
    ((∀ v ∈ sites, v.key?.isSome = true) →
      (∃ ordered, sortSites sites = .ok ordered ∧ StablySorted rank sites ordered ∧
        ∀ sites', sites'.Perm sites → ∃ ordered', sortSites sites' = .ok ordered' ∧
          ordered'.map key? = ordered.map key? ∧
          (ordered' = ordered ↔ ∀ v ∈ sites,
            sites'.filter (·.key? = v.key?) = sites.filter (·.key? = v.key?))) ∧
      (OrderIndependent sites ↔ ∀ a ∈ sites, ∀ b ∈ sites, a ≠ b → a.key? ≠ b.key?)) ∧
    ((∃ v ∈ sites, v.key? = none) →
      ∀ sites', sites'.Perm sites → ∃ stop, sortSites sites' = .error (.unformed stop)) ∧
    ((∀ v ∈ sites, v.Named) → (∀ v ∈ sites, v.key?.isSome = true) ∧ (OrderIndependent sites ↔
      ∀ a ∈ sites, ∀ b ∈ sites, a ≠ b → a.withoutKind ≠ b.withoutKind)) := by
  refine ⟨fun hkeys => ⟨?_, orderIndependent_iff hkeys⟩, ?_, fun hnamed => ?_⟩
  · obtain ⟨ordered, hok, hsorted⟩ := sortSites_stablySorted hkeys
    exact ⟨ordered, hok, hsorted, fun sites' hperm => sortSites_agree hkeys hperm hsorted⟩
  · rintro ⟨v, hv, hnone⟩ sites' hperm
    obtain ⟨stop, hstop⟩ := sortKeys_of_unformed
      (fun w hw => hsites w (hperm.mem_iff.mp hw)) (hperm.mem_iff.mpr hv) hnone
    exact ⟨stop, by rw [sortSites, hstop]; rfl⟩
  · have hkeys : ∀ v ∈ sites, v.key?.isSome = true := fun v hv => (hnamed v hv).key?_isSome
    refine ⟨hkeys, ?_⟩
    rw [orderIndependent_iff hkeys]
    exact forall₂_congr fun a ha => forall₂_congr fun b hb => imp_congr_right fun _ =>
      not_congr ((hnamed a ha).key?_eq_iff (hnamed b hb))

/-- A call site of a procedure, by the value of its context and its instruction. -/
def siteOfP1 (value : Value) (id kind : String) : Value :=
  .site (.context (.text "P1") value) (.instruction id (some (kind : Text)))

/-- Call sites against the display order. -/
def namedSites : List Value :=
  [siteOfP1 (.text "a2") "P1:1" "static", siteOfP1 (.text "a") "P1:2" "virtual",
   siteOfP1 (.text "a") "P1:1" "static"]

theorem sortSites_order_independent_named :
    (∀ v ∈ namedSites, v.shape = .site) ∧
      ∀ sites', sites'.Perm namedSites → sortSites sites' = .ok namedSites.reverse := by
  have hnamed : ∀ v ∈ namedSites, v.Named := by
    have hP1 : .char '@' ∉ Text.points "P1" := by decide
    simp only [namedSites, List.forall_mem_cons, siteOfP1]
    exact ⟨.mk _ _ _ hP1, .mk _ _ _ hP1, .mk _ _ _ hP1, by simp⟩
  have hsites : ∀ v ∈ namedSites, v.shape = .site := fun v hv => (hnamed v hv).shape_eq
  have hkinds : ∀ a ∈ namedSites, ∀ b ∈ namedSites, a ≠ b → a.withoutKind ≠ b.withoutKind := by
    simp [namedSites, siteOfP1, withoutKind]
  obtain ⟨hkeys, hiff⟩ := (sortSites_order_independent_iff hsites).2.2 hnamed
  obtain ⟨ordered, hordered⟩ := hiff.mpr hkinds
  have hranked : sortSites namedSites.reverse = .ok namedSites.reverse := by
    refine sortSites_of_ranked (fun v hv => hkeys v (List.mem_reverse.mp hv)) ?_
    decide
  rw [hordered _ namedSites.reverse_perm] at hranked
  exact ⟨hsites, hranked ▸ hordered⟩

/-- A number and its digit make two contexts with one text, so sites in these stay as they come. -/
theorem sites_with_one_key_keep_order :
    let numbered := siteOfP1 (.int 1) "P1:1" "static"
    let lettered := siteOfP1 (.text "1") "P1:1" "static"
    (∀ v ∈ [numbered, lettered], v.shape = .site) ∧
      [numbered, lettered].Pairwise (fun a b => (a == b) = false) ∧
      [lettered, numbered].Perm [numbered, lettered] ∧
      sortSites [numbered, lettered] = .ok [numbered, lettered] ∧
      sortSites [lettered, numbered] = .ok [lettered, numbered] ∧
      (list [lettered, numbered] == list [numbered, lettered]) = false := by
  intro numbered lettered
  have hrank : numbered.rank = lettered.rank := by decide
  have hsites : ∀ v ∈ [numbered, lettered], v.shape = .site := by
    simp [show numbered.shape = .site from rfl, show lettered.shape = .site from rfl]
  have hperm : [lettered, numbered].Perm [numbered, lettered] := .swap _ _ _
  have hkeys : ∀ v ∈ [numbered, lettered], v.key?.isSome = true := by
    simp [show numbered.key?.isSome = true by decide, show lettered.key?.isSome = true by decide]
  refine ⟨hsites, List.pairwise_pair.mpr (by decide), hperm, ?_, ?_, by decide⟩
  · exact sortSites_of_ranked hkeys (List.pairwise_pair.mpr hrank.le)
  · exact sortSites_of_ranked (fun v hv => hkeys v (hperm.mem_iff.mp hv))
      (List.pairwise_pair.mpr hrank.ge)

end Value

end CallGraphs
