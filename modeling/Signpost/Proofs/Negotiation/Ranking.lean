import Mathlib.Data.List.Induction
import Mathlib.Tactic.Common
import Signpost.Negotiation.Preference
import Signpost.Proofs.Weight

/-!
# What a ranking holds

A list of preferences may name a tag several times.  What the ranking makes of it is described from
the list alone, in two parts.

* `lastWeight?` — what the list says last about a tag.
* `firstPlace` — where the tag comes first.

**Collecting.**  `Ranking.Collects` is the invariant of `Ranking.insert`: the ranking holds each tag
once, with its last weight and in the order of the first places, and the index says where.
`collects_ofList` follows by induction on the list.

**Ordering.**  The sort is stable, so the order of the first places survives among equal weights.
`mem_ordered` and `pairwise_ordered` say which preferences the ranked list holds, and in which order.

**`Ranking.ranks_each_tag_once`** says both, and that the index is right after every number of insertions.
-/

namespace Signpost.Negotiation

/-! ## What a list of preferences says -/

/-- The weight that the list gives a tag where it names it last. -/
def lastWeight? (ps : List Preference) (tag : String) : Option Weight :=
  (ps.filter (·.tag = tag)).getLast?.map (·.weight)

/-- The place where the list names a tag first. -/
def firstPlace (ps : List Preference) (tag : String) : Nat :=
  (ps.map (·.tag)).idxOf tag

/-- The order of preference: the greater weight first, and of equal weights the tag that was named
first. -/
def Precedes (ps : List Preference) (p q : Preference) : Prop :=
  q.weight < p.weight ∨ p.weight = q.weight ∧ firstPlace ps p.tag < firstPlace ps q.tag

/-- The last preference decides on the weight of its own tag only. -/
lemma lastWeight?_concat (ps : List Preference) (p : Preference) (tag : String) :
    lastWeight? (ps ++ [p]) tag = if p.tag = tag then some p.weight else lastWeight? ps tag := by
  by_cases hp : p.tag = tag <;> simp [lastWeight?, List.filter_append, hp]

/-- A tag has a weight if the list names it. -/
lemma isSome_lastWeight?_iff {ps : List Preference} {tag : String} :
    (lastWeight? ps tag).isSome ↔ tag ∈ ps.map (·.tag) := by
  rw [lastWeight?, Option.isSome_map, List.getLast?_isSome, ne_eq, List.filter_eq_nil_iff]
  simp

/-- A preference more does not change the place of a tag that is there already. -/
lemma firstPlace_concat_of_mem {ps : List Preference} {tag : String} (h : tag ∈ ps.map (·.tag))
    (p : Preference) : firstPlace (ps ++ [p]) tag = firstPlace ps tag := by
  rw [firstPlace, List.map_append, List.idxOf_append, if_pos h]
  rfl

/-- A tag that is new comes after all others. -/
lemma firstPlace_lt_of_not_mem {ps : List Preference} {p : Preference} {tag : String}
    (h : tag ∈ ps.map (·.tag)) (hp : p.tag ∉ ps.map (·.tag)) :
    firstPlace (ps ++ [p]) tag < firstPlace (ps ++ [p]) p.tag := by
  rw [firstPlace_concat_of_mem h]
  have hlt : firstPlace ps tag < ps.length := by
    simpa [firstPlace] using List.idxOf_lt_length_of_mem h
  refine Nat.lt_of_lt_of_le hlt ?_
  rw [firstPlace, List.map_append, List.idxOf_append, if_neg hp, List.length_map]
  exact Nat.le_add_left _ _

/-- No two preferences precede each other. -/
lemma Precedes.asymm {ps : List Preference} {p q : Preference} (h : Precedes ps p q) :
    ¬ Precedes ps q p := by
  intro h'
  have hlt : ∀ a b : Weight, a < b ↔ a.bits < b.bits := fun _ _ => Iff.rfl
  rw [Precedes, hlt] at h h'
  rcases h with h | ⟨heq, h⟩ <;> rcases h' with h' | ⟨heq', h'⟩
  · omega
  · rw [heq'] at h; omega
  · rw [heq] at h'; omega
  · omega

/-! ## Collecting -/

namespace Ranking

/-- A ranking holds what a list of preferences says. -/
structure Collects (r : Ranking) (ps : List Preference) : Prop where
  /-- It holds each tag with the last weight. -/
  mem_iff : ∀ p, p ∈ r.preferences ↔ lastWeight? ps p.tag = some p.weight
  /-- The tags stand in the order in which they were named first. -/
  inOrder : r.preferences.Pairwise fun p q => firstPlace ps p.tag < firstPlace ps q.tag
  /-- The index knows the place of every tag, and no other places. -/
  indexed : ∀ tag i, r.positions.lookup tag = some i ↔ (r.preferences.map (·.tag))[i]? = some tag

/-- A ranking holds the tags that the list names. -/
lemma Collects.mem_tags_iff {r : Ranking} {ps : List Preference} (h : Collects r ps)
    {tag : String} : tag ∈ r.preferences.map (·.tag) ↔ tag ∈ ps.map (·.tag) := by
  rw [List.mem_map, ← isSome_lastWeight?_iff, Option.isSome_iff_exists]
  constructor
  · rintro ⟨p, hp, rfl⟩
    exact ⟨p.weight, (h.mem_iff p).1 hp⟩
  · rintro ⟨w, hw⟩
    exact ⟨⟨tag, w⟩, (h.mem_iff ⟨tag, w⟩).2 hw, rfl⟩

/-- An item of a list with one more at the end is an old one or the new one. -/
lemma getElem?_concat_eq_some_iff {α : Type} {l : List α} {a b : α} {i : Nat} :
    (l ++ [b])[i]? = some a ↔ l[i]? = some a ∨ i = l.length ∧ b = a := by
  rcases Nat.lt_trichotomy i l.length with hi | rfl | hi
  · simp [List.getElem?_append_left hi, Nat.ne_of_lt hi]
  · simp
  · have hout : (l ++ [b])[i]? = none := by
      rw [List.getElem?_eq_none_iff, List.length_append, List.length_singleton]
      omega
    simp [hout, List.getElem?_eq_none (Nat.le_of_lt hi), Nat.ne_of_gt hi]

lemma collects_empty : Collects empty [] where
  mem_iff p := by simp [empty, lastWeight?]
  inOrder := .nil
  indexed tag i := by simp [empty]

/-- Where the index finds a tag, the place it gives is the only one with that tag, and so changing
this place is changing the preferences with the tag. -/
lemma Collects.modify_eq_map {r : Ranking} {ps : List Preference} (h : Collects r ps)
    {tag : String} {i : Nat} (hi : r.positions.lookup tag = some i) (f : Preference → Preference) :
    r.preferences.modify i f = r.preferences.map fun p => if p.tag = tag then f p else p := by
  refine List.ext_getElem? fun j => ?_
  rw [List.getElem?_modify, List.getElem?_map]
  cases hj : r.preferences[j]? with
  | none => rfl
  | some p =>
      have hplace : p.tag = tag ↔ i = j := by
        have hindex : r.positions.lookup p.tag = some j :=
          (h.indexed p.tag j).2 (by rw [List.getElem?_map, hj]; rfl)
        constructor
        · intro htag
          rw [htag, hi] at hindex
          exact Option.some.inj hindex
        · intro hij
          have htag := (h.indexed tag i).1 hi
          rw [hij, List.getElem?_map, hj] at htag
          exact Option.some.inj htag
      by_cases hij : i = j
      · simp [hij, hplace]
      · simp [hij, hplace]

/-- The order of the tags that are there is not changed by one more preference. -/
lemma Collects.inOrder_concat {r : Ranking} {ps : List Preference} (h : Collects r ps)
    (p : Preference) : r.preferences.Pairwise fun a b =>
      firstPlace (ps ++ [p]) a.tag < firstPlace (ps ++ [p]) b.tag := by
  refine h.inOrder.imp_of_mem fun {a b} ha hb hab => ?_
  have hmem : ∀ c ∈ r.preferences, c.tag ∈ ps.map (·.tag) := fun c hc =>
    h.mem_tags_iff.1 (List.mem_map_of_mem hc)
  rwa [firstPlace_concat_of_mem (hmem a ha), firstPlace_concat_of_mem (hmem b hb)]

/-- A tag that is known keeps its place and takes the new weight. -/
lemma Collects.reweigh {r : Ranking} {ps : List Preference} (h : Collects r ps) {p : Preference}
    (hp : p.tag ∈ ps.map (·.tag)) :
    Collects ⟨r.preferences.map fun a => if a.tag = p.tag then { a with weight := p.weight } else a,
      r.positions⟩ (ps ++ [p]) := by
  set g : Preference → Preference :=
    fun a => if a.tag = p.tag then { a with weight := p.weight } else a with hg
  have htag : ∀ a, (g a).tag = a.tag := by
    intro a
    simp only [hg]
    split <;> rfl
  refine ⟨fun q => ?_, ?_, fun tag i => ?_⟩
  · rw [List.mem_map, lastWeight?_concat]
    by_cases hq : p.tag = q.tag
    · rw [if_pos hq]
      constructor
      · rintro ⟨a, -, rfl⟩
        rw [htag] at hq
        simp [hg, hq]
      · intro hw
        obtain ⟨a, ha, hatag⟩ := List.mem_map.1 (h.mem_tags_iff.2 hp)
        refine ⟨a, ha, ?_⟩
        cases q
        simp_all
    · rw [if_neg hq, ← h.mem_iff]
      constructor
      · rintro ⟨a, ha, rfl⟩
        rw [htag] at hq
        have hfix : g a = a := if_neg (Ne.symm hq)
        rwa [hfix]
      · intro hmem
        exact ⟨q, hmem, if_neg (Ne.symm hq)⟩
  · rw [List.pairwise_map]
    simpa only [htag] using h.inOrder_concat p
  · rw [h.indexed, List.map_map]
    simp only [Function.comp_def, htag]

/-- A tag that is new comes last. -/
lemma Collects.append {r : Ranking} {ps : List Preference} (h : Collects r ps) {p : Preference}
    (hp : p.tag ∉ ps.map (·.tag)) :
    Collects ⟨r.preferences ++ [p], (p.tag, r.preferences.length) :: r.positions⟩ (ps ++ [p]) := by
  have hlast : lastWeight? ps p.tag = none := by
    rwa [← Option.not_isSome_iff_eq_none, isSome_lastWeight?_iff]
  refine ⟨fun q => ?_, ?_, fun tag i => ?_⟩
  · rw [List.mem_append, List.mem_singleton, lastWeight?_concat, h.mem_iff]
    by_cases hq : p.tag = q.tag
    · rw [if_pos hq, ← hq, hlast]
      constructor
      · rintro (hw | rfl)
        · cases hw
        · rfl
      · intro hw
        right
        cases p
        cases q
        simp_all
    · rw [if_neg hq]
      exact or_iff_left fun heq => hq (by rw [heq])
  · rw [List.pairwise_append]
    refine ⟨h.inOrder_concat p, List.pairwise_singleton _ _, fun a ha b hb => ?_⟩
    rw [List.mem_singleton.1 hb]
    exact firstPlace_lt_of_not_mem (h.mem_tags_iff.1 (List.mem_map_of_mem ha)) hp
  · have hnew : p.tag ∉ r.preferences.map (·.tag) := fun hmem => hp (h.mem_tags_iff.1 hmem)
    rw [List.lookup_cons, List.map_append, List.map_singleton, getElem?_concat_eq_some_iff,
      List.length_map]
    by_cases htag : tag = p.tag
    · have hold : (r.preferences.map (·.tag))[i]? ≠ some p.tag := fun hi =>
        hnew (List.mem_of_getElem? hi)
      rw [htag, beq_self_eq_true, or_iff_right hold]
      simp only [and_true, Option.some.injEq]
      exact eq_comm
    · simp [beq_false_of_ne htag, h.indexed, Ne.symm htag]

/-- **One more preference** keeps the invariant. -/
theorem Collects.insert {r : Ranking} {ps : List Preference} (h : Collects r ps) (p : Preference) :
    Collects (r.insert p) (ps ++ [p]) := by
  unfold Ranking.insert
  split
  · next i hi =>
    rw [h.modify_eq_map hi]
    refine h.reweigh (h.mem_tags_iff.1 ?_)
    exact List.mem_of_getElem? ((h.indexed p.tag i).1 hi)
  · next hnew =>
    refine h.append fun hmem => ?_
    obtain ⟨i, hi⟩ := List.getElem?_of_mem (h.mem_tags_iff.2 hmem)
    rw [(h.indexed p.tag i).2 hi] at hnew
    cases hnew

/-- The ranking of a list of preferences holds what the list says. -/
theorem collects_ofList (ps : List Preference) : Collects (ofList ps) ps := by
  induction ps using List.reverseRecOn with
  | nil => exact collects_empty
  | append_singleton ps p ih =>
      rw [ofList, List.foldl_append]
      exact ih.insert p

/-! ## Ordering -/

/-- A stable sort keeps the order of the list among items that are as good as each other. -/
lemma pairwise_mergeSort_of_pairwise {α : Type} {le : α → α → Bool} {R : α → α → Prop}
    (trans : ∀ a b c, le a b = true → le b c = true → le a c = true)
    (total : ∀ a b, (le a b || le b a) = true) {l : List α} (h : l.Pairwise R) :
    (l.mergeSort le).Pairwise fun a b => le a b = true ∧ (le b a = true → R a b) := by
  rw [List.pairwise_iff_forall_sublist]
  intro a b hsub
  have hle : le a b = true :=
    List.pairwise_iff_forall_sublist.1 (List.pairwise_mergeSort trans total l) hsub
  refine ⟨hle, fun hge => List.pairwise_iff_forall_sublist.1 h ?_⟩
  -- the items as good as `a` are in order already, so sorting leaves them as they stand
  set tied : α → Bool := fun x => le x a && le a x with htied
  have hmem : ∀ x, tied x = true → le x a = true ∧ le a x = true := fun x hx => by
    simpa [htied] using hx
  have hsorted : (l.filter tied).Pairwise fun x y => le x y = true :=
    List.pairwise_of_forall_mem_list fun x hx y hy =>
      trans x a y (hmem x (List.mem_filter.1 hx).2).1 (hmem y (List.mem_filter.1 hy).2).2
  have hkept : (l.filter tied).Sublist ((l.mergeSort le).filter tied) := by
    simpa [List.filter_filter] using
      (List.sublist_mergeSort trans total hsorted List.filter_sublist).filter tied
  have hsame : l.filter tied = (l.mergeSort le).filter tied :=
    hkept.eq_of_length ((List.mergeSort_perm l le).filter tied).length_eq.symm
  have hself : le a a = true := by simpa using total a a
  have htwo : [a, b].filter tied = [a, b] := by simp [htied, hself, hle, hge]
  have hboth := hsub.filter tied
  rw [htwo, ← hsame] at hboth
  exact hboth.trans List.filter_sublist

/-- The ranked list holds each tag with the weight that the list gives it last. -/
theorem mem_ordered {ps : List Preference} {p : Preference} :
    p ∈ (ofList ps).ordered ↔ lastWeight? ps p.tag = some p.weight := by
  rw [ordered, List.mem_mergeSort]
  exact (collects_ofList ps).mem_iff p

/-- **The ranked list is in the order of preference**: falling weights, and of equal weights the tag
that was named first. -/
theorem pairwise_ordered (ps : List Preference) : (ofList ps).ordered.Pairwise (Precedes ps) := by
  have hle : ∀ a b : Weight, a ≤ b ↔ a.bits ≤ b.bits := fun _ _ => Iff.rfl
  have htrans : ∀ a b c : Preference, decide (b.weight ≤ a.weight) = true →
      decide (c.weight ≤ b.weight) = true → decide (c.weight ≤ a.weight) = true := by
    intro a b c hab hbc
    rw [decide_eq_true_eq, hle] at *
    exact Nat.le_trans hbc hab
  have htotal : ∀ a b : Preference,
      (decide (b.weight ≤ a.weight) || decide (a.weight ≤ b.weight)) = true := by
    intro a b
    rw [Bool.or_eq_true, decide_eq_true_eq, decide_eq_true_eq, hle, hle]
    exact Nat.le_total _ _
  have hstable := pairwise_mergeSort_of_pairwise htrans htotal (collects_ofList ps).inOrder
  refine hstable.imp fun {p q} hpq => ?_
  obtain ⟨hweight, hplace⟩ := hpq
  rw [decide_eq_true_eq] at hweight hplace
  rcases Nat.lt_or_eq_of_le hweight with hlt | heq
  · exact Or.inl hlt
  · right
    have hsame : p.weight = q.weight := by
      cases hp : p.weight
      cases hq : q.weight
      simp_all
    exact ⟨hsame, hplace (by rw [hsame]; exact Nat.le_refl _)⟩

/-- No tag is ranked twice. -/
lemma nodup_ordered (ps : List Preference) : ((ofList ps).ordered.map (·.tag)).Nodup := by
  have hperm : (ofList ps).ordered.Perm (ofList ps).preferences := List.mergeSort_perm _ _
  rw [(hperm.map (·.tag)).nodup_iff, List.Nodup, List.pairwise_map]
  refine (collects_ofList ps).inOrder.imp fun {p q} hlt heq => ?_
  rw [heq] at hlt
  exact Nat.lt_irrefl _ hlt

/-- The tags that are ranked are those that the list names. -/
lemma mem_map_tag_ordered_iff {ps : List Preference} {tag : String} :
    tag ∈ (ofList ps).ordered.map (·.tag) ↔ tag ∈ ps.map (·.tag) := by
  have hperm : (ofList ps).ordered.Perm (ofList ps).preferences := List.mergeSort_perm _ _
  rw [(hperm.map (·.tag)).mem_iff]
  exact (collects_ofList ps).mem_tags_iff

/-- **A ranking lists each tag once, by falling weight.**

* Every tag that was inserted is listed once, and no other tag is listed.
* A tag is listed with the weight that it was inserted with last.
* Of two preferences the first has the greater weight, or they have the same weight and the tag of the
  first was inserted before.
* After every number of insertions, the index finds a tag exactly at the place where it stands.  So the
  place at which a weight is changed is always there. -/
theorem ranks_each_tag_once (ps : List Preference) :
    (∀ tag, ((ofList ps).ordered.map (·.tag)).count tag = if tag ∈ ps.map (·.tag) then 1 else 0) ∧
    (∀ p, p ∈ (ofList ps).ordered ↔ lastWeight? ps p.tag = some p.weight) ∧
    ((ofList ps).ordered.Pairwise fun p q => q.weight.value < p.weight.value ∨
      p.weight = q.weight ∧ firstPlace ps p.tag < firstPlace ps q.tag) ∧
    (∀ n tag i, (ofList (ps.take n)).positions.lookup tag = some i ↔
      ∃ p, (ofList (ps.take n)).preferences[i]? = some p ∧ p.tag = tag) := by
  refine ⟨fun tag => ?_, fun p => mem_ordered, ?_, fun n tag i => ?_⟩
  · split
    · next hmem => exact List.count_eq_one_of_mem (nodup_ordered ps) (mem_map_tag_ordered_iff.2 hmem)
    · next hmem => exact List.count_eq_zero.2 fun htag => hmem (mem_map_tag_ordered_iff.1 htag)
  · exact (pairwise_ordered ps).imp fun {p q} hpq => hpq.imp_left Weight.value_lt_value
  · rw [(collects_ofList (ps.take n)).indexed, List.getElem?_map, Option.map_eq_some_iff]

end Ranking

end Signpost.Negotiation
