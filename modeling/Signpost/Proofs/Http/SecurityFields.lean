import Mathlib
import Signpost.Http.Response
import Signpost.Proofs.Server.Answer
import Signpost.Proofs.Text.LowerCase

/-!
# What the security fields change

**What is missing is appended.**  Fields with different names that are added one after the other, each
unless there is one of its name, come to stand behind the others, and they are those whose names were
missing (`Response.fields_foldl_withDefault`).  Everything else is read off this equation: a second round
finds nothing missing, and another order only moves the new fields among themselves.

**Names in any spelling.**  A handler may spell names as it likes.  They are kept in lower case, and so a
name is missing if it was set in no spelling (`Fields.values_map_ofSpelling`).

**`Response.secure_adds_missing`** says so of the security fields.
-/

namespace Signpost.Http

open Signpost.Text

/-! ## Names in any spelling -/

/-- The form in which a name is kept. -/
def lowerName (name : String) : String :=
  String.ofList (name.toList.map Char.toLower)

lemma lowerName_eq_iff {a b : String} : lowerName a = lowerName b ↔ EqUpToCase a b :=
  String.ofList_inj

/-- The field of a name in any spelling, with its value. -/
def Field.ofSpelling (spelled : String × List UInt8) : Field :=
  ⟨lowerName spelled.1, spelled.2⟩

/-- The values that are given under any spelling of a name, in order. -/
def spelledValues (name : String) (spelled : List (String × List UInt8)) : List (List UInt8) :=
  (spelled.filter fun p => EqUpToCase p.1 name).map (·.2)

namespace Fields

lemma values_map_ofSpelling (name : String) (spelled : List (String × List UInt8)) :
    values (lowerName name) (spelled.map Field.ofSpelling) = spelledValues name spelled := by
  have hname : (fun f : Field => decide (f.name = lowerName name)) ∘ Field.ofSpelling =
      fun p => decide (EqUpToCase p.1 name) := by
    funext p
    exact decide_eq_decide.2 lowerName_eq_iff
  rw [values, List.filter_map, List.map_map, hname, spelledValues]
  rfl

lemma has_eq_false_iff {name : String} {fields : List Field} :
    has name fields = false ↔ values name fields = [] := by
  simp [has, values_eq_nil_iff]

lemma has_append (name : String) (a b : List Field) :
    has name (a ++ b) = (has name a || has name b) :=
  List.any_append

end Fields

/-! ## What is missing is appended -/

namespace Response

open Fields

/-- The fields whose names a response lacks. -/
def missing (fields : List Field) (r : Response) : List Field :=
  fields.filter fun f => !has f.name r.fields

/-- **Fields that are added one by one are appended if they are missing.** -/
theorem fields_foldl_withDefault {fields : List Field} (hnames : (fields.map (·.name)).Nodup)
    (r : Response) : (fields.foldl withDefault r).fields = r.fields ++ missing fields r := by
  induction fields generalizing r with
  | nil => exact (List.append_nil _).symm
  | cons f rest ih =>
      rw [List.map_cons, List.nodup_cons] at hnames
      rw [List.foldl_cons, ih hnames.2, missing, missing, withDefault, addIfAbsent]
      split
      · next hhas => rw [List.filter_cons_of_neg (by simp [hhas])]
      · next hhas =>
        -- the new field is none of those that are still to come
        have hrest : ∀ g ∈ rest, (!has g.name (r.fields ++ [f])) = !has g.name r.fields := by
          intro g hg
          have hne : f.name ≠ g.name := fun heq => hnames.1 (heq ▸ List.mem_map_of_mem hg)
          rw [has_append]
          simp [has, hne]
        rw [List.filter_cons_of_pos (by simpa using hhas), List.filter_congr hrest,
          List.append_assoc, List.singleton_append]

lemma status_foldl_withDefault (fields : List Field) (r : Response) :
    (fields.foldl withDefault r).status = r.status := by
  induction fields generalizing r with
  | nil => rfl
  | cons f rest ih => exact ih _

lemma body_foldl_withDefault (fields : List Field) (r : Response) :
    (fields.foldl withDefault r).body = r.body := by
  induction fields generalizing r with
  | nil => rfl
  | cons f rest ih => exact ih _

/-- A name that a response has keeps its values. -/
lemma values_append_missing {name : String} {r : Response} (h : values name r.fields ≠ [])
    (fields : List Field) : values name (r.fields ++ missing fields r) = values name r.fields := by
  have hnone : values name (missing fields r) = [] := by
    rw [values_eq_nil_iff]
    rintro f hf rfl
    rw [missing, List.mem_filter, Bool.not_eq_true', has_eq_false_iff] at hf
    exact h hf.2
  rw [values, List.filter_append, List.map_append]
  exact (congrArg _ hnone).trans (List.append_nil _)

/-- Nothing is missing after a round of additions. -/
lemma missing_of_fields_eq {fields : List Field} {r s : Response}
    (h : s.fields = r.fields ++ missing fields r) : missing fields s = [] := by
  rw [missing, List.filter_eq_nil_iff]
  intro f hf hlacks
  rw [h, has_append, Bool.not_eq_true', Bool.or_eq_false_iff] at hlacks
  have hmem : f ∈ missing fields r := List.mem_filter.2 ⟨hf, by simp [hlacks.1]⟩
  have hnone := List.any_eq_false.1 hlacks.2 f hmem
  exact hnone (decide_eq_true rfl)

lemma fields_secure (r : Response) :
    r.secure.fields = r.fields ++ missing securityFields r :=
  fields_foldl_withDefault nodup_securityFields r

/-- A second round of security fields adds nothing. -/
lemma secure_secure (r : Response) : r.secure.secure = r.secure := by
  have hfields : r.secure.secure.fields = r.secure.fields := by
    rw [fields_secure r.secure, missing_of_fields_eq (fields_secure r), List.append_nil]
  have hstatus : r.secure.secure.status = r.secure.status := status_foldl_withDefault _ _
  have hbody : r.secure.secure.body = r.secure.body := body_foldl_withDefault _ _
  calc r.secure.secure
      = ⟨r.secure.secure.status, r.secure.secure.fields, r.secure.secure.body⟩ := rfl
    _ = ⟨r.secure.status, r.secure.fields, r.secure.body⟩ := by rw [hfields, hstatus, hbody]

/-- **The order of the additions does not matter**: the new fields are only moved among themselves. -/
lemma perm_foldl_withDefault {fields layers : List Field} (hnames : (fields.map (·.name)).Nodup)
    (h : layers.Perm fields) (r : Response) :
    (layers.foldl withDefault r).fields.Perm (fields.foldl withDefault r).fields := by
  have hlayers : (layers.map (·.name)).Nodup := (h.map _).nodup_iff.2 hnames
  rw [fields_foldl_withDefault hlayers, fields_foldl_withDefault hnames]
  exact (h.filter _).append_left _

/-- So each name has the same values. -/
lemma values_foldl_withDefault_of_perm {fields layers : List Field}
    (hnames : (fields.map (·.name)).Nodup) (h : layers.Perm fields) (r : Response) (name : String) :
    values name (layers.foldl withDefault r).fields =
      values name (fields.foldl withDefault r).fields := by
  have hlayers : (layers.map (·.name)).Nodup := (h.map _).nodup_iff.2 hnames
  by_cases hset : values name r.fields = []
  · by_cases hname : name ∈ fields.map (·.name)
    · obtain ⟨f, hf, rfl⟩ := List.mem_map.1 hname
      rw [values_foldl_withDefault_of_mem hlayers (h.mem_iff.2 hf) hset,
        values_foldl_withDefault_of_mem hnames hf hset]
    · rw [values_foldl_withDefault (fun hmem => hname ((h.map _).mem_iff.1 hmem)),
        values_foldl_withDefault hname]
  · rw [fields_foldl_withDefault hlayers, fields_foldl_withDefault hnames,
      values_append_missing hset, values_append_missing hset]

/-- **The security fields only add what is missing.**  A response with any status and body and with fields
under names in any spelling

* keeps its status and its body;
* keeps its fields in their order, and behind them gets the security fields whose names it has in no
  spelling;
* has one value, the fixed one, under a security name that was missing, and under every other name and
  every name it had before the values that it had before;
* is not changed by a second round;
* and would have the same values under each name, and the same fields up to their order, had the security
  fields been added in another order. -/
theorem secure_adds_missing (status : Nat) (spelled : List (String × List UInt8)) (body : String) :
    let r : Response := ⟨status, spelled.map Field.ofSpelling, body⟩
    let fixed : List Field := [.ofText "x-content-type-options" "nosniff",
      .ofText "x-frame-options" "DENY", .ofText "referrer-policy" "no-referrer"]
    (r.secure.status = status ∧ r.secure.body = body) ∧
    r.secure.fields = r.fields ++ fixed.filter (fun f => spelledValues f.name spelled = []) ∧
    (∀ f ∈ fixed, spelledValues f.name spelled = [] → values f.name r.secure.fields = [f.value]) ∧
    (∀ name, spelledValues name spelled ≠ [] ∨
        lowerName name ∉ ["x-content-type-options", "x-frame-options", "referrer-policy"] →
      values (lowerName name) r.secure.fields = spelledValues name spelled) ∧
    r.secure.secure = r.secure ∧
    ∀ layers : List Field, layers.Perm fixed →
      (layers.foldl withDefault r).status = status ∧ (layers.foldl withDefault r).body = body ∧
      (layers.foldl withDefault r).fields.Perm r.secure.fields ∧
      ∀ name, values name (layers.foldl withDefault r).fields = values name r.secure.fields := by
  intro r fixed
  have hfixed : fixed = securityFields := rfl
  have hnames : securityFields.map (·.name) =
      ["x-content-type-options", "x-frame-options", "referrer-policy"] := rfl
  rw [hfixed, ← hnames]
  have hlower : ∀ f ∈ securityFields, lowerName f.name = f.name := by decide
  have hvalues : ∀ f ∈ securityFields, values f.name r.fields = spelledValues f.name spelled := by
    intro f hf
    have hmap := values_map_ofSpelling f.name spelled
    rwa [hlower f hf] at hmap
  refine ⟨⟨status_foldl_withDefault _ r, body_foldl_withDefault _ r⟩, ?_, ?_, ?_, secure_secure r, ?_⟩
  · rw [fields_secure, missing]
    congr 1
    refine List.filter_congr fun f hf => ?_
    rw [Bool.eq_iff_iff, Bool.not_eq_true', has_eq_false_iff, hvalues f hf, decide_eq_true_iff]
  · intro f hf hnone
    exact values_secure_of_mem hf ((hvalues f hf).trans hnone)
  · intro name hname
    rw [← values_map_ofSpelling] at hname ⊢
    rcases hname with hset | hother
    · rw [fields_secure]
      exact values_append_missing hset securityFields
    · exact values_secure hother r
  · intro layers hlayers
    exact ⟨status_foldl_withDefault _ r, body_foldl_withDefault _ r,
      perm_foldl_withDefault nodup_securityFields hlayers r,
      values_foldl_withDefault_of_perm nodup_securityFields hlayers r⟩

/-- A handler that sets one name twice in capitals, and another to nothing. -/
theorem secure_adds_missing_of_two :
    let nothing : List UInt8 := []
    let same := Utf8.encode "SAMEORIGIN".toList
    let spelled := [("X-Frame-Options", same), ("Referrer-Policy", nothing), ("X-FRAME-OPTIONS", same)]
    let r : Response := ⟨200, spelled.map Field.ofSpelling, "ok"⟩
    spelled.mapM (fun p => Field.make? p.1 p.2) = .ok r.fields ∧
      values "x-frame-options" r.secure.fields = [same, same] ∧
      values "referrer-policy" r.secure.fields = [nothing] ∧
      values "x-content-type-options" r.secure.fields = [Utf8.encode "nosniff".toList] := by
  intro nothing same spelled r
  obtain ⟨-, -, hmissing, hset, -⟩ := secure_adds_missing 200 spelled "ok"
  have hframe : lowerName "X-Frame-Options" = "x-frame-options" := by decide
  have hreferrer : lowerName "Referrer-Policy" = "referrer-policy" := by decide
  refine ⟨by decide, ?_, ?_, ?_⟩
  · rw [← hframe, hset _ (Or.inl (by decide))]
    decide
  · rw [← hreferrer, hset _ (Or.inl (by decide))]
    decide
  · exact hmissing (.ofText "x-content-type-options" "nosniff") (by decide) (by decide)

end Response

end Signpost.Http
