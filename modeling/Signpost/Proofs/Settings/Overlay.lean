import Mathlib
import Signpost.Proofs.SiteMap
import Signpost.Settings.Loading

/-!
# Settings and the documents that give them

* `ScalarField` — the fields that hold a single value, with their sections, keys and kinds.
* `Kind.Form` — the forms in which a value may stand in a document.
* `Overlays` — a document gives settings: every field stands under its own key, or has its default value
  and is left out.  It leaves open what else the document holds.

**Field by field.**  The defaults of a section are the defaults of its fields, so a missing section is read
as an empty table (`entryOr_section`).  Hence a section that is no array is always read from the entries of
a table, and each of its fields is what stands under its key, or the default (`readsSection_iff`,
`reads_iff`).

**`document_overlays_defaults`** puts this together, and with it what makes a text malformed.
-/

namespace Signpost.Settings

open Toml (Value)

/-! ## Fields -/

/-- What kind of value a field holds. -/
inductive Kind where
  | text
  | number
  | flag
  | policy
  deriving DecidableEq, Repr

/-- The fields with a single value. -/
inductive ScalarField where
  | bindAddress
  | maxConcurrentRequests
  | invalidWeight
  | requestSecs
  | logLevel
  | metricsEnabled
  | metricsAddress
  | enableHeaders
  | maxBodySize
  | enabled
  | pollIntervalSecs
  deriving DecidableEq, Repr

/-- A natural number, as a document gives it. -/
def natural (n : ℕ) : Value := .integer n

/-- The name of a policy. -/
def policyName : Negotiation.Policy → String
  | .ignore => "ignore"
  | .drop => "drop"

/-- A policy, as a document gives it. -/
def named (p : Negotiation.Policy) : Value := .string (policyName p)

namespace Kind

/-- A value of the kind, in its plain form. -/
def read? : Kind → Value → Option Value
  | text, v => (text? v).map .string
  | number, v => (nat? v).map natural
  | flag, v => (bool? v).map .boolean
  | policy, v => (policy? v).map named

/-- The forms in which a value may stand in a document.  A policy is its name, or a table with the name for
its only key. -/
inductive Form : Kind → Value → Value → Prop where
  | text (text : String) : Form .text (.string text) (.string text)
  | number (n : ℕ) : Form .number (natural n) (natural n)
  | flag (b : Bool) : Form .flag (.boolean b) (.boolean b)
  | policy (p : Negotiation.Policy) : Form .policy (named p) (named p)
  | policyTable (p : Negotiation.Policy) :
      Form .policy (named p) (.table [(policyName p, .table [])])
  | policyArray (p : Negotiation.Policy) :
      Form .policy (named p) (.table [(policyName p, .array [])])

end Kind

namespace ScalarField

/-- The section of a field. -/
def home : ScalarField → Section
  | bindAddress | maxConcurrentRequests => .listener
  | invalidWeight => .negotiation
  | requestSecs => .timeouts
  | logLevel | metricsEnabled | metricsAddress => .observability
  | enableHeaders | maxBodySize => .security
  | enabled | pollIntervalSecs => .reload

/-- The fields of a section. -/
def within : Section → List ScalarField
  | .listener => [bindAddress, maxConcurrentRequests]
  | .negotiation => [invalidWeight]
  | .timeouts => [requestSecs]
  | .observability => [logLevel, metricsEnabled, metricsAddress]
  | .security => [enableHeaders, maxBodySize]
  | .reload => [enabled, pollIntervalSecs]

lemma mem_within_home (f : ScalarField) : f ∈ within f.home := by
  cases f <;> decide

lemma home_of_mem_within {f : ScalarField} {name : Section} (h : f ∈ within name) :
    f.home = name := by
  cases f <;> cases name <;> first | rfl | exact absurd h (by decide)

/-- The key of a field in its section. -/
def key : ScalarField → String
  | bindAddress => "bind_address"
  | maxConcurrentRequests => "max_concurrent_requests"
  | invalidWeight => "invalid_weight"
  | requestSecs => "request_secs"
  | logLevel => "log_level"
  | metricsEnabled => "metrics_enabled"
  | metricsAddress => "metrics_address"
  | enableHeaders => "enable_headers"
  | maxBodySize => "max_body_size"
  | enabled => "enabled"
  | pollIntervalSecs => "poll_interval_secs"

/-- The kind of value that a field holds. -/
def kind : ScalarField → Kind
  | bindAddress | logLevel | metricsAddress => .text
  | maxConcurrentRequests | requestSecs | maxBodySize | pollIntervalSecs => .number
  | metricsEnabled | enableHeaders | enabled => .flag
  | invalidWeight => .policy

/-- The value of a field, as a document gives it. -/
def value (s : Settings) : ScalarField → Value
  | bindAddress => .string s.listener.bindAddress
  | maxConcurrentRequests => natural s.listener.maxConcurrentRequests
  | invalidWeight => named s.negotiation.invalidWeight
  | requestSecs => natural s.timeouts.requestSecs
  | logLevel => .string s.observability.logLevel
  | metricsEnabled => .boolean s.observability.metricsEnabled
  | metricsAddress => .string s.observability.metricsAddress
  | enableHeaders => .boolean s.security.enableHeaders
  | maxBodySize => natural s.security.maxBodySize
  | enabled => .boolean s.reload.enabled
  | pollIntervalSecs => natural s.reload.pollIntervalSecs

lemma form_value (s : Settings) (f : ScalarField) : f.kind.Form (f.value s) (f.value s) := by
  cases f <;> constructor

end ScalarField

/-! ## Documents -/

/-- The entries of a table. -/
abbrev Entries := List (String × Value)

/-- The entries of a section; none if the document has no table for it. -/
def sectionEntries (document : Entries) (name : String) : Entries :=
  match document.lookup name with
  | some (.table entries) => entries
  | _ => []

/-- A section is given as a table, or not at all. -/
def HasTable (document : Entries) (name : String) : Prop :=
  ∀ v, document.lookup name = some v → ∃ entries, v = .table entries

/-- What a document gives for a field: the value under its key in the table of its section. -/
def given? (document : Entries) (f : ScalarField) : Option Value :=
  (sectionEntries document f.home.name).lookup f.key

/-- Pages as the entries of a table. -/
def pageEntries (pages : List (String × String)) : Entries :=
  pages.map fun p => (p.1, .string p.2)

/-- A document gives the settings: the sections it gives are tables, and each field stands under its key in
one of its forms, or has its default value and is left out.  The pages may come in any order. -/
structure Overlays (document : Entries) (s : Settings) : Prop where
  hasTable : ∀ name : Section, HasTable document name.name
  fields : ∀ f : ScalarField, (∃ v, given? document f = some v ∧ f.kind.Form (f.value s) v) ∨
    given? document f = none ∧ f.value s = f.value {}
  sites : (∃ pages, pages.Perm s.sites.pages ∧
    document.lookup "sites" = some (.table (pageEntries pages))) ∨
      document.lookup "sites" = none ∧ s.sites = .empty

/-! ## Field by field -/

section EntryOr

variable {α : Type} (read : Value → Option α) {default : α}

/-- A missing section is read as an empty table. -/
lemma entryOr_section {document : Entries} {name : String}
    (hdefault : read (.table []) = some default) (htable : HasTable document name) :
    entryOr document name read default = read (.table (sectionEntries document name)) := by
  unfold entryOr sectionEntries
  cases h : document.lookup name with
  | none => exact hdefault.symm
  | some v =>
      obtain ⟨entries, rfl⟩ := htable v h
      rfl

/-- A field may be read in the form in which it is given. -/
lemma entryOr_eq_some_iff {write : α → Value} (hwrite : Function.Injective write)
    (entries : Entries) (key : String) {a : α} :
    entryOr entries key read default = some a ↔
      entryOr entries key (fun v => (read v).map write) (write default) = some (write a) := by
  unfold entryOr
  cases entries.lookup key with
  | none => simp [hwrite.eq_iff]
  | some v => simp [hwrite.eq_iff]

end EntryOr

/-- A field of the settings is read from the entries of a section. -/
def Reads (entries : Entries) (s : Settings) (f : ScalarField) : Prop :=
  entryOr entries f.key f.kind.read? (f.value {}) = some (f.value s)

/-- A section of the settings is read from a document. -/
def ReadsSection (document : Entries) (s : Settings) : Section → Prop
  | .listener => entryOr document (Section.name .listener) listener? {} = some s.listener
  | .negotiation => entryOr document (Section.name .negotiation) negotiation? {} = some s.negotiation
  | .timeouts => entryOr document (Section.name .timeouts) timeouts? {} = some s.timeouts
  | .observability =>
    entryOr document (Section.name .observability) observability? {} = some s.observability
  | .security => entryOr document (Section.name .security) security? {} = some s.security
  | .reload => entryOr document (Section.name .reload) reload? {} = some s.reload

/-- Settings are read section by section. -/
lemma ofDocument?_eq_some_iff {document : Entries} {s : Settings} : ofDocument? document = some s ↔
    (∀ name, ReadsSection document s name) ∧
      entryOr document "sites" sites? .empty = some s.sites := by
  simp only [ofDocument?, Option.bind_eq_bind, Option.bind_eq_some_iff, Option.pure_def,
    Option.some.injEq]
  constructor
  · rintro ⟨_, h₁, _, h₂, _, h₃, _, h₄, _, h₅, _, h₆, _, h₇, rfl⟩
    refine ⟨fun name => ?_, h₂⟩
    cases name
    exacts [h₁, h₃, h₄, h₅, h₆, h₇]
  · rintro ⟨h, hsites⟩
    exact ⟨_, h .listener, _, hsites, _, h .negotiation, _, h .timeouts, _, h .observability, _,
      h .security, _, h .reload, rfl⟩

/-! ## Kinds -/

lemma text?_eq_some_iff {v : Value} {text : String} : text? v = some text ↔ v = .string text := by
  cases v <;> simp [text?]

lemma nat?_eq_some_iff {v : Value} {n : ℕ} : nat? v = some n ↔ v = natural n := by
  cases v with
  | integer i =>
      rw [nat?, natural, Value.integer.injEq, Option.ite_none_right_eq_some, Option.some.injEq]
      omega
  | _ => simp [nat?, natural]

lemma bool?_eq_some_iff {v : Value} {b : Bool} : bool? v = some b ↔ v = .boolean b := by
  cases v <;> simp [bool?]

lemma policyOfName?_eq_some_iff {name : String} {p : Negotiation.Policy} :
    policyOfName? name = some p ↔ name = policyName p := by
  unfold policyOfName?
  split <;> cases p <;> simp_all [policyName]

/-- A value is read in its plain form, from each of its forms. -/
lemma form_iff {k : Kind} {w v : Value} : Kind.Form k w v ↔ k.read? v = some w := by
  constructor
  · intro h
    cases h with
    | policy p | policyTable p | policyArray p => cases p <;> rfl
    | _ => rfl
  · intro h
    cases k with
    | text =>
        obtain ⟨text, ht, rfl⟩ := Option.map_eq_some_iff.1 h
        exact text?_eq_some_iff.1 ht ▸ .text text
    | number =>
        obtain ⟨n, hn, rfl⟩ := Option.map_eq_some_iff.1 h
        exact nat?_eq_some_iff.1 hn ▸ .number n
    | flag =>
        obtain ⟨b, hb, rfl⟩ := Option.map_eq_some_iff.1 h
        exact bool?_eq_some_iff.1 hb ▸ .flag b
    | policy =>
        obtain ⟨p, hp, rfl⟩ := Option.map_eq_some_iff.1 h
        unfold policy? at hp
        split at hp
        · exact policyOfName?_eq_some_iff.1 hp ▸ .policy p
        · exact policyOfName?_eq_some_iff.1 hp ▸ .policyTable p
        · exact policyOfName?_eq_some_iff.1 hp ▸ .policyArray p
        · cases hp

lemma natural_injective : Function.Injective natural := fun _ _ h =>
  Int.ofNat.inj (Value.integer.inj h)

lemma named_injective : Function.Injective named := by
  intro p q h
  have hname := Value.string.inj h
  cases p <;> cases q <;> first | rfl | exact absurd hname (by decide)

section Kinds

variable (entries : Entries) (key : String)

lemma entryOr_text_iff {a b : String} : entryOr entries key text? b = some a ↔
    entryOr entries key Kind.text.read? (.string b) = some (.string a) :=
  entryOr_eq_some_iff _ (fun _ _ => Value.string.inj) entries key

lemma entryOr_number_iff {a b : ℕ} : entryOr entries key nat? b = some a ↔
    entryOr entries key Kind.number.read? (natural b) = some (natural a) :=
  entryOr_eq_some_iff _ natural_injective entries key

lemma entryOr_flag_iff {a b : Bool} : entryOr entries key bool? b = some a ↔
    entryOr entries key Kind.flag.read? (.boolean b) = some (.boolean a) :=
  entryOr_eq_some_iff _ (fun _ _ => Value.boolean.inj) entries key

lemma entryOr_policy_iff {a b : Negotiation.Policy} : entryOr entries key policy? b = some a ↔
    entryOr entries key Kind.policy.read? (named b) = some (named a) :=
  entryOr_eq_some_iff _ named_injective entries key

end Kinds

section Sections

variable {entries : Entries} {s : Settings}

lemma listener?_table_iff : listener? (.table entries) = some s.listener ↔
    Reads entries s .bindAddress ∧ Reads entries s .maxConcurrentRequests := by
  simp only [listener?, entriesOf?, Option.bind_eq_bind, Option.bind_some, Option.bind_eq_some_iff,
    Option.pure_def, Option.some.injEq]
  refine Iff.trans ?_ (and_congr (entryOr_text_iff _ _) (entryOr_number_iff _ _))
  constructor
  · rintro ⟨_, haddress, _, hmost, h⟩
    rw [← h]
    exact ⟨haddress, hmost⟩
  · rintro ⟨haddress, hmost⟩
    exact ⟨_, haddress, _, hmost, rfl⟩

lemma negotiation?_table_iff : negotiation? (.table entries) = some s.negotiation ↔
    Reads entries s .invalidWeight := by
  simp only [negotiation?, entriesOf?, Option.bind_eq_bind, Option.bind_some,
    Option.bind_eq_some_iff, Option.pure_def, Option.some.injEq]
  refine Iff.trans ?_ (entryOr_policy_iff _ _)
  constructor
  · rintro ⟨_, hpolicy, h⟩
    rw [← h]
    exact hpolicy
  · intro hpolicy
    exact ⟨_, hpolicy, rfl⟩

lemma timeouts?_table_iff : timeouts? (.table entries) = some s.timeouts ↔
    Reads entries s .requestSecs := by
  simp only [timeouts?, entriesOf?, Option.bind_eq_bind, Option.bind_some,
    Option.bind_eq_some_iff, Option.pure_def, Option.some.injEq]
  refine Iff.trans ?_ (entryOr_number_iff _ _)
  constructor
  · rintro ⟨_, hsecs, h⟩
    rw [← h]
    exact hsecs
  · intro hsecs
    exact ⟨_, hsecs, rfl⟩

lemma observability?_table_iff : observability? (.table entries) = some s.observability ↔
    Reads entries s .logLevel ∧ Reads entries s .metricsEnabled ∧
      Reads entries s .metricsAddress := by
  simp only [observability?, entriesOf?, Option.bind_eq_bind, Option.bind_some,
    Option.bind_eq_some_iff, Option.pure_def, Option.some.injEq]
  refine Iff.trans ?_ (and_congr (entryOr_text_iff _ _)
    (and_congr (entryOr_flag_iff _ _) (entryOr_text_iff _ _)))
  constructor
  · rintro ⟨_, hlevel, _, henabled, _, haddress, h⟩
    rw [← h]
    exact ⟨hlevel, henabled, haddress⟩
  · rintro ⟨hlevel, henabled, haddress⟩
    exact ⟨_, hlevel, _, henabled, _, haddress, rfl⟩

lemma security?_table_iff : security? (.table entries) = some s.security ↔
    Reads entries s .enableHeaders ∧ Reads entries s .maxBodySize := by
  simp only [security?, entriesOf?, Option.bind_eq_bind, Option.bind_some, Option.bind_eq_some_iff,
    Option.pure_def, Option.some.injEq]
  refine Iff.trans ?_ (and_congr (entryOr_flag_iff _ _) (entryOr_number_iff _ _))
  constructor
  · rintro ⟨_, henabled, _, hsize, h⟩
    rw [← h]
    exact ⟨henabled, hsize⟩
  · rintro ⟨henabled, hsize⟩
    exact ⟨_, henabled, _, hsize, rfl⟩

lemma reload?_table_iff : reload? (.table entries) = some s.reload ↔
    Reads entries s .enabled ∧ Reads entries s .pollIntervalSecs := by
  simp only [reload?, entriesOf?, Option.bind_eq_bind, Option.bind_some, Option.bind_eq_some_iff,
    Option.pure_def, Option.some.injEq]
  refine Iff.trans ?_ (and_congr (entryOr_flag_iff _ _) (entryOr_number_iff _ _))
  constructor
  · rintro ⟨_, henabled, _, hsecs, h⟩
    rw [← h]
    exact ⟨henabled, hsecs⟩
  · rintro ⟨henabled, hsecs⟩
    exact ⟨_, henabled, _, hsecs, rfl⟩

end Sections

/-- **A section is read field by field**, each field from its own key. -/
lemma readsSection_iff {document : Entries} {s : Settings} {name : Section}
    (htable : HasTable document name.name) : ReadsSection document s name ↔
      ∀ f ∈ ScalarField.within name, Reads (sectionEntries document name.name) s f := by
  cases name <;>
    simp only [ScalarField.within, List.forall_mem_cons, List.not_mem_nil, IsEmpty.forall_iff,
      implies_true, and_true]
  case listener => rw [ReadsSection, entryOr_section listener? rfl htable, listener?_table_iff]
  case negotiation => rw [ReadsSection, entryOr_section negotiation? rfl htable, negotiation?_table_iff]
  case timeouts => rw [ReadsSection, entryOr_section timeouts? rfl htable, timeouts?_table_iff]
  case observability =>
    rw [ReadsSection, entryOr_section observability? rfl htable, observability?_table_iff]
  case security => rw [ReadsSection, entryOr_section security? rfl htable, security?_table_iff]
  case reload => rw [ReadsSection, entryOr_section reload? rfl htable, reload?_table_iff]

/-! ## Sites -/

lemma mapM_text_eq_some_iff {entries : Entries} {pages : List (String × String)} :
    (entries.mapM fun e => (text? e.2).map (e.1, ·)) = some pages ↔
      entries = pageEntries pages := by
  induction entries generalizing pages with
  | nil => cases pages <;> simp [pageEntries]
  | cons e rest ih =>
      simp only [List.mapM_cons, Option.bind_eq_bind, Option.bind_eq_some_iff, ih, Option.pure_def,
        Option.some.injEq, Option.map_eq_some_iff, text?_eq_some_iff]
      constructor
      · rintro ⟨_, ⟨url, hurl, rfl⟩, pages, rfl, rfl⟩
        change e :: pageEntries pages = (e.1, .string url) :: pageEntries pages
        rw [← hurl]
      · intro h
        cases pages with
        | nil => cases h
        | cons p pages =>
            cases h
            exact ⟨p, ⟨p.2, rfl, rfl⟩, pages, rfl, rfl⟩

lemma sites?_table_iff {entries : Entries} {t : PageTable} : sites? (.table entries) = some t ↔
    ∃ pages, entries = pageEntries pages ∧ PageTable.ofList pages = t := by
  simp only [sites?, Option.map_eq_some_iff, mapM_text_eq_some_iff]

/-! ## What a document gives -/

section Document

variable {document : Entries} {s : Settings}

/-- A field has the value that stands under its key, or its default. -/
lemma reads_iff {entries : Entries} {f : ScalarField} : Reads entries s f ↔
    (∃ v, entries.lookup f.key = some v ∧ f.kind.Form (f.value s) v) ∨
      entries.lookup f.key = none ∧ f.value s = f.value {} := by
  unfold Reads entryOr
  cases entries.lookup f.key with
  | none => simp [eq_comm]
  | some v => simp [form_iff]

/-- A section for whose fields the document gives something is a table. -/
lemma hasTable_of_given? {f : ScalarField} {v : Value} (h : given? document f = some v) :
    HasTable document f.home.name := by
  intro w hw
  unfold given? sectionEntries at h
  rw [hw] at h
  cases w with
  | table entries => exact ⟨entries, rfl⟩
  | _ => cases h

/-- **A field has its own entry for its only source.** -/
lemma reads_of_ofDocument? (h : ofDocument? document = some s) {f : ScalarField}
    (htable : HasTable document f.home.name) :
    Reads (sectionEntries document f.home.name) s f :=
  (readsSection_iff htable).1 ((ofDocument?_eq_some_iff.1 h).1 f.home) f f.mem_within_home

/-- A document that gives settings is read as these. -/
lemma ofDocument?_of_overlays (h : Overlays document s) : ofDocument? document = some s := by
  refine ofDocument?_eq_some_iff.2 ⟨fun name => ?_, ?_⟩
  · refine (readsSection_iff (h.hasTable name)).2 fun f hf => reads_iff.2 ?_
    exact ScalarField.home_of_mem_within hf ▸ h.fields f
  · obtain ⟨pages, hperm, hsites⟩ | ⟨hsites, hempty⟩ := h.sites
    · rw [entryOr, hsites]
      exact sites?_table_iff.2 ⟨pages, rfl, PageTable.ofList_of_perm hperm⟩
    · rw [entryOr, hsites, hempty]

/-- No settings are read from a value that no field of its kind can hold. -/
lemma ofDocument?_eq_none_of_not_form {f : ScalarField} {v : Value}
    (hgiven : given? document f = some v) (hform : ∀ w, ¬ f.kind.Form w v) :
    ofDocument? document = none := by
  refine Option.eq_none_iff_forall_ne_some.2 fun s hs => ?_
  obtain ⟨w, hw, hread⟩ | ⟨hmissing, -⟩ :=
    reads_iff.1 (reads_of_ofDocument? hs (hasTable_of_given? hgiven))
  · rw [given?, hw, Option.some.injEq] at hgiven
    exact hform _ (hgiven ▸ hread)
  · rw [given?, hmissing] at hgiven
    cases hgiven

/-- No settings are read from a page that is no text. -/
lemma ofDocument?_eq_none_of_not_text {entries : Entries} {e : String × Value}
    (hsites : document.lookup "sites" = some (.table entries)) (he : e ∈ entries)
    (htext : ∀ url, e.2 ≠ .string url) : ofDocument? document = none := by
  refine Option.eq_none_iff_forall_ne_some.2 fun s hs => ?_
  have hread := (ofDocument?_eq_some_iff.1 hs).2
  rw [entryOr, hsites] at hread
  obtain ⟨pages, rfl, -⟩ := sites?_table_iff.1 hread
  obtain ⟨p, -, rfl⟩ := List.mem_map.1 he
  exact htext p.2 rfl

end Document

/-- A text may be asked what it gives for a field. -/
lemma exists_given?_of_any {text : String} {f : ScalarField} {p : Value → Bool}
    (h : (Toml.Document.ofString? text).any fun document => (given? document f).any p) :
    ∃ document v, Toml.Document.ofString? text = some document ∧ given? document f = some v ∧
      p v := by
  obtain ⟨document, hdocument, hany⟩ := (Option.any_eq_true _ _).1 h
  obtain ⟨v, hgiven, hv⟩ := (Option.any_eq_true _ _).1 hany
  exact ⟨document, v, hdocument, hgiven, hv⟩

/-! ## Writing a document -/

/-- The settings as a document, without the omitted fields. -/
def toDocument (s : Settings) (omitted : ScalarField → Bool) : Entries :=
  ("sites", .table (pageEntries s.sites.pages)) :: Section.all.map fun name =>
    (name.name, .table (((ScalarField.within name).filter (!omitted ·)).map fun f =>
      (f.key, f.value s)))

namespace ScalarField

lemma key_injective : Function.Injective key := by
  intro f g h
  cases f <;> cases g <;> first | rfl | exact absurd h (by decide)

/-- A key leads to its own field. -/
lemma lookup_map_key (g : ScalarField → Value) (fs : List ScalarField) (f : ScalarField) :
    (fs.map fun f => (f.key, g f)).lookup f.key = if f ∈ fs then some (g f) else none := by
  induction fs with
  | nil => rfl
  | cons f' rest ih =>
      rw [List.map_cons, List.lookup_cons, ih]
      by_cases hf : f = f'
      · simp [hf]
      · simp [hf, beq_false_of_ne (key_injective.ne hf)]

end ScalarField

lemma given?_toDocument (s : Settings) (omitted : ScalarField → Bool) (f : ScalarField) :
    given? (s.toDocument omitted) f = if omitted f then none else some (f.value s) := by
  have hsection : sectionEntries (s.toDocument omitted) f.home.name =
      ((ScalarField.within f.home).filter (!omitted ·)).map fun f => (f.key, f.value s) := by
    cases f <;> rfl
  rw [given?, hsection, ScalarField.lookup_map_key]
  cases h : omitted f <;> simp [f.mem_within_home, h]

/-- A document that leaves out fields with their default values gives the settings. -/
lemma overlays_toDocument {s : Settings} {omitted : ScalarField → Bool}
    (h : ∀ f, omitted f → f.value s = f.value {}) : Overlays (s.toDocument omitted) s where
  hasTable name v hv := by
    cases name <;> exact ⟨_, (Option.some.inj hv).symm⟩
  fields f := by
    rw [given?_toDocument]
    split
    · next homitted => exact .inr ⟨rfl, h f homitted⟩
    · exact .inl ⟨_, rfl, f.form_value s⟩
  sites := .inl ⟨_, .rfl, rfl⟩

/-! ## Main statement -/

/-- **A document overlays the defaults field by field.**

* A document gives the settings whose fields stand in it or have their default values, whatever else it
  holds.
* Every field that has its default value can be left out, alone or with others.
* The value of a field depends on what stands under its key in its section, and on nothing else; the pages
  depend on what stands under their own key.
* A text is malformed if it gives a field a value that is no form of a value of its kind, or a page that is
  no text, whatever else it holds. -/
theorem document_overlays_defaults :
    (∀ document s, Overlays document s → ofDocument? document = some s) ∧
    (∀ (s : Settings) (omitted : ScalarField → Bool), (∀ f, omitted f → f.value s = f.value {}) →
      ∃ document, Overlays document s ∧
        ∀ f, given? document f = if omitted f then none else some (f.value s)) ∧
    (∀ document document' s s', ofDocument? document = some s → ofDocument? document' = some s' →
      (∀ f : ScalarField, HasTable document f.home.name → HasTable document' f.home.name →
        given? document f = given? document' f → f.value s = f.value s') ∧
      (document.lookup "sites" = document'.lookup "sites" → s.sites = s'.sites)) ∧
    ∀ text document, Toml.Document.ofString? text = some document →
      (∃ (f : ScalarField) (v : Value), given? document f = some v ∧ ∀ w, ¬ f.kind.Form w v) ∨
        (∃ entries e, document.lookup "sites" = some (.table entries) ∧ e ∈ entries ∧
          ∀ url, e.2 ≠ .string url) →
      ofString? text = .error .malformed := by
  refine ⟨fun document s => ofDocument?_of_overlays, fun s omitted h => ?_,
    fun document document' s s' hs hs' => ⟨fun f htable htable' hsame => ?_, fun hsame => ?_⟩,
    fun text document htext hbad => ?_⟩
  · exact ⟨s.toDocument omitted, overlays_toDocument h, given?_toDocument s omitted⟩
  · have hread : Reads _ s f := reads_of_ofDocument? hs htable
    have hread' : Reads _ s' f := reads_of_ofDocument? hs' htable'
    unfold given? at hsame
    rw [Reads, entryOr, hsame] at hread
    exact Option.some.inj (hread.symm.trans hread')
  · have hread := (ofDocument?_eq_some_iff.1 hs).2
    have hread' := (ofDocument?_eq_some_iff.1 hs').2
    rw [entryOr, hsame] at hread
    exact Option.some.inj (hread.symm.trans hread')
  · have hnone : ofDocument? document = none := by
      obtain ⟨f, v, hgiven, hform⟩ | ⟨entries, e, hsites, he, hurl⟩ := hbad
      · exact ofDocument?_eq_none_of_not_form hgiven hform
      · exact ofDocument?_eq_none_of_not_text hsites he hurl
    rw [ofString?, htext, Option.bind_some, hnone]

/-- A document with a half-given section, a section and a key too many, and a policy in the form of a table;
and a text where a negative number hides that there is no page and no good address. -/
theorem document_overlays_defaults_half_given :
    let document : Entries := [
      ("theme", .string "dark"),
      ("observability", .table [("colour", .integer 7), ("metrics_enabled", .boolean false)]),
      ("negotiation", .table [("invalid_weight", .table [("drop", .array [])])]),
      ("sites", .table [("en", .string "/en/"), ("de", .string "/de/")])]
    let s : Settings := {
      sites := .ofList [("de", "/de/"), ("en", "/en/")]
      negotiation := { invalidWeight := .drop }
      observability := { metricsEnabled := false } }
    let text := "listener.bind_address = \"nowhere\"\ntimeouts.request_secs = -1"
    ofDocument? document = some s ∧ ofString? text = .error .malformed ∧
      ∃ document', ofDocument? document' = some s ∧ given? document' .logLevel = none ∧
        given? document' .metricsAddress = some (.string "0.0.0.0:9090") := by
  intro document s text
  have hoverlays : Overlays document s := by
    refine ⟨fun name v hv => ?_, fun f => ?_, .inl ⟨_, List.Perm.swap _ _ _, rfl⟩⟩
    · cases name <;> first | exact ⟨_, (Option.some.inj hv).symm⟩ | cases hv
    · cases f
      case invalidWeight => exact .inl ⟨_, rfl, .policyArray .drop⟩
      case metricsEnabled => exact .inl ⟨_, rfl, .flag false⟩
      all_goals exact .inr ⟨rfl, rfl⟩
  obtain ⟨hread, hleave, -, hmalformed⟩ := document_overlays_defaults
  obtain ⟨negative, v, hnegative, hgiven, hv⟩ : ∃ negative v, Toml.Document.ofString? text =
      some negative ∧ given? negative .requestSecs = some v ∧ (nat? v).isNone :=
    exists_given?_of_any (by decide +kernel)
  obtain ⟨document', hdocument', hgiven'⟩ := hleave s (· = .logLevel) fun f hf => by
    rw [of_decide_eq_true hf]
    rfl
  refine ⟨hread _ _ hoverlays, hmalformed text _ hnegative (.inl ⟨_, v, hgiven, ?_⟩),
    document', hread _ _ hdocument', hgiven' _, hgiven' _⟩
  rintro w hform
  cases hform
  cases hv

/-- A policy is read from a table too, though a table is no name. -/
theorem not_malformed_of_policy_table :
    let text := "[sites]\nen = \"/en\"\n[negotiation]\ninvalid_weight = \x7b drop = \x7b\x7d \x7d"
    (∃ document v, Toml.Document.ofString? text = some document ∧
      given? document .invalidWeight = some v ∧ ∀ name, v ≠ .string name) ∧
    (ofString? text).map (·.negotiation.invalidWeight) = .ok .drop := by
  intro text
  obtain ⟨document, v, hdocument, hgiven, hv⟩ : ∃ document v, Toml.Document.ofString? text =
      some document ∧ given? document .invalidWeight = some v ∧ (text? v).isNone :=
    exists_given?_of_any (by decide +kernel)
  refine ⟨⟨document, v, hdocument, hgiven, ?_⟩, by decide +kernel⟩
  rintro name rfl
  cases hv

end Signpost.Settings
