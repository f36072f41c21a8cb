import QueryComposer.CommandLine.Report
import QueryComposer.Proofs.Query.Refusal
import QueryComposer.Proofs.Schema.Listing
import QueryComposer.Schema.Catalog
import QueryComposer.Schema.Document

/-! # Which fields can be filtered on

    Three parts of the library have an opinion.  A lookup is accepted if the
    type of the field has it in its table.  The listing of fields marks those
    whose type has any lookup at all.  A new filter starts with the default
    lookup of the type, and so it needs one.

    * `Schema.TakesLookups` and `Schema.Addable` are what a filter can be read
      with and what a new one can be put on.
    * `Schema.Marked` says that a line of the listing has the mark.
    * `Schema.DefaultOffered` is the condition under which all three agree, a
      table of lookups that has the default in it.  A schema is free to break
      it; the catalog does not. -/

namespace QueryComposer

open Outcome

/-! ## Section 1: Types and their lookups -/

namespace FieldType

variable {t : FieldType}

/-- A type that has lookups has its default among them. -/
def DefaultOffered (t : FieldType) : Prop :=
  t.lookups ≠ [] → ∃ name, t.defaultLookup = some name ∧ t.hasLookup name = true

theorem exists_hasLookup_iff : (∃ lookup, t.hasLookup lookup = true) ↔ t.lookups ≠ [] := by
  constructor
  · intro ⟨lookup, h⟩ hnil
    have hmem : lookup ∈ t.lookups.names := KeyMap.mem_names.mpr h
    rw [hnil] at hmem
    cases hmem
  · intro hne
    obtain ⟨x, xs, hlookups⟩ := List.exists_cons_of_ne_nil hne
    have hmem : x.1 ∈ t.lookups.names := by
      rw [hlookups]
      exact List.mem_cons_self
    exact ⟨x.1, KeyMap.mem_names.mp hmem⟩

end FieldType

/-- A type of the catalog has its first lookup for its default. -/
theorem StandardType.defaultOffered (currentYear : String) (t : StandardType) :
    (t.fieldType currentYear).DefaultOffered := by
  intro hne
  unfold fieldType at hne ⊢
  cases hlookups : t.lookups with
  | nil =>
    rw [hlookups] at hne
    exact absurd rfl hne
  | cons x xs =>
    refine ⟨x.1, rfl, KeyMap.has_ofEntries.mpr ?_⟩
    rw [List.map_map]
    exact List.mem_cons_self

theorem Catalog.defaultOffered_of_mem {currentYear : String} {x : String × FieldType}
    (h : x ∈ standardTypes currentYear) : x.2.DefaultOffered := by
  obtain ⟨t, -, rfl⟩ := List.mem_map.mp (KeyMap.mem_of_mem_ofEntries h)
  exact t.defaultOffered currentYear

namespace Schema

variable {s : Schema} {model path : String} {e : Entry} {line : String}

/-! ## Section 2: Filters that are read and filters that are new -/

/-- Some lookup is accepted for the field at the end of a path. -/
def TakesLookups (s : Schema) (model path : String) : Prop :=
  ∃ lookup, s.checkLookup model path lookup = .ok ()

/-- A new filter can be put on the field at the end of a path. -/
def Addable (s : Schema) (model path : String) : Prop := ∃ f, s.newFilter model path = .ok f

/-- The type that filters on the path go by has its default among its lookups, if it has any. -/
def DefaultOffered (s : Schema) (model path : String) : Prop :=
  ∀ t, s.filterType model path = .ok t → t.DefaultOffered

/-- A table of types that each have their default among their lookups serves every path. -/
theorem defaultOffered_of_types (h : ∀ x ∈ s.types, x.2.DefaultOffered) :
    s.DefaultOffered model path := by
  intro t ht
  obtain ⟨f, -, -, htype⟩ := filterType_eq_ok.mp ht
  exact h _ (KeyMap.mem_of_find? (typeOf_eq_ok.mp htype))

@[simp] theorem types_withTypes (types : KeyMap FieldType) : (s.withTypes types).types = types :=
  rfl

/-- Where a schema brings no types of its own, the types of the catalog serve every path. -/
theorem defaultOffered_withStandardTypes (currentYear : String) (h : s.types = []) :
    (s.withStandardTypes currentYear).DefaultOffered model path := by
  have hempty : s.types.isEmpty = true := List.isEmpty_iff.mpr h
  rw [withStandardTypes, if_pos hempty]
  apply defaultOffered_of_types
  rw [types_withTypes]
  exact fun _ hx => Catalog.defaultOffered_of_mem hx

theorem takesLookups_iff : s.TakesLookups model path ↔
    ∃ t, s.filterType model path = .ok t ∧ t.lookups ≠ [] := by
  unfold TakesLookups
  simp only [checkLookup_eq_ok, ← FieldType.exists_hasLookup_iff]
  constructor
  · intro ⟨lookup, t, ht, hlookup⟩
    exact ⟨t, ht, lookup, hlookup⟩
  · intro ⟨t, ht, lookup, hlookup⟩
    exact ⟨lookup, t, ht, hlookup⟩

theorem addable_iff : s.Addable model path ↔ ∃ t, s.filterType model path = .ok t ∧
    ∃ name, t.defaultLookup = some name ∧ t.hasLookup name = true := by
  unfold Addable
  constructor
  · intro ⟨f, hf⟩
    obtain ⟨t, name, l, ht, hname, hl, -⟩ := newFilter_eq_ok.mp hf
    exact ⟨t, ht, name, hname, KeyMap.has_iff.mpr ⟨l, hl⟩⟩
  · intro ⟨t, ht, name, hname, hlookup⟩
    obtain ⟨l, hl⟩ := KeyMap.has_iff.mp hlookup
    exact ⟨_, newFilter_eq_ok.mpr ⟨t, name, l, ht, hname, hl, rfl⟩⟩

/-- A new filter starts with a lookup that is accepted. -/
theorem Addable.takesLookups (h : s.Addable model path) : s.TakesLookups model path := by
  obtain ⟨t, ht, name, -, hname⟩ := addable_iff.mp h
  exact ⟨name, checkLookup_eq_ok.mpr ⟨t, ht, hname⟩⟩

/-- Both agree exactly where the default is one of the lookups. -/
theorem addable_iff_takesLookups_iff :
    (s.Addable model path ↔ s.TakesLookups model path) ↔ s.DefaultOffered model path := by
  constructor
  · intro h t ht hne
    obtain ⟨t', ht', hdefault⟩ := addable_iff.mp (h.mpr (takesLookups_iff.mpr ⟨t, ht, hne⟩))
    rw [ht] at ht'
    cases ht'
    exact hdefault
  · intro h
    refine ⟨Addable.takesLookups, fun htakes => ?_⟩
    obtain ⟨t, ht, hne⟩ := takesLookups_iff.mp htakes
    exact addable_iff.mpr ⟨t, ht, h t ht hne⟩

/-! ## Section 3: The mark in the listing -/

/-- The line ends with the mark of a field that filters can be put on. -/
def Marked (line : String) : Prop := ∃ front, line = front ++ "\tfilterable"

theorem marked_append_iff {front : String} {filterable : Bool} :
    Marked (front ++ "\t" ++ if filterable then "filterable" else "-") ↔ filterable = true := by
  cases filterable with
  | true => exact ⟨fun _ => rfl, fun _ => ⟨front, by rw [String.append_assoc]; rfl⟩⟩
  | false =>
    refine ⟨fun ⟨front', h⟩ => ?_, nofun⟩
    -- the two marks end with different characters
    have hlast := congrArg (fun line => line.toList.getLast?) h
    simp at hlast

/-- The line of a field with a type. -/
theorem marked_of_fieldLine (h : s.fieldLine e = .ok line) (htarget : e.field.isRelation = false) :
    ∃ t, s.typeOf e.path e.field = .ok t ∧
      (Marked line ↔ e.field.isFilterable = true ∧ t.lookups ≠ []) := by
  have hnone : e.field.target = none := by simpa [Field.isRelation] using htarget
  unfold fieldLine at h
  rw [hnone] at h
  obtain ⟨t, ht, hline⟩ := bind_eq_ok.mp h
  cases hline
  refine ⟨t, ht, marked_append_iff.trans ?_⟩
  simp

/-- At the depth of the model's own fields, a field whose name is not split is found by its
    path. -/
theorem field_of_mem_walk {entries : List Entry} (h : s.walk model 0 = .ok entries)
    (he : e ∈ entries) (hname : ¬ Path.HasSeparator e.path.toList) :
    s.field model e.path = .ok e.field := by
  obtain ⟨m, hm, heq⟩ := bind_eq_ok.mp h
  cases heq
  obtain ⟨name, -, he⟩ := mem_entriesFrom.mp he
  obtain ⟨f, hf, rfl | hbehind⟩ := mem_entriesAt.mp he
  · have hjoin : Path.join ([] ++ [name]) = name := String.intercalate_singleton
    rw [hjoin] at hname
    dsimp only
    rw [hjoin, field, resolve, hm, ok_bind, Path.split_eq_singleton hname, resolveFrom, hf]
    rfl
  · -- nothing behind a field is listed at depth 0
    obtain ⟨n, m', hzero, -⟩ := mem_entriesBehind.mp hbehind
    cases hzero

/-- The listing of a model's own fields marks those that lookups are accepted for. -/
theorem marked_iff_takesLookups {entries : List Entry} (h : s.walk model 0 = .ok entries)
    (he : e ∈ entries) (hline : s.fieldLine e = .ok line) (htarget : e.field.isRelation = false)
    (hname : ¬ Path.HasSeparator e.path.toList) :
    Marked line ↔ s.TakesLookups model e.path := by
  have hfield := field_of_mem_walk h he hname
  obtain ⟨t, ht, hmarked⟩ := marked_of_fieldLine hline htarget
  rw [hmarked, takesLookups_iff]
  -- the field of the entry is the one that filters on its path compare, so the types are equal
  constructor
  · intro ⟨hfilterable, hne⟩
    exact ⟨t, filterType_eq_ok.mpr ⟨_, hfield, hfilterable, ht⟩, hne⟩
  · intro ⟨t', ht', hne⟩
    obtain ⟨f, hf, hfilterable, htype⟩ := filterType_eq_ok.mp ht'
    rw [hfield] at hf
    cases hf
    rw [ht] at htype
    cases htype
    exact ⟨hfilterable, hne⟩

end Schema

/-! ## Section 4: Where the three agree -/

namespace Composer

/-- A filter is added where a new one can be put. -/
theorem addFilter_iff {c : Composer} {q : Query} {path : String} :
    (∃ q', c.apply q (.addFilter path) = .ok q') ↔ c.schema.Addable q.model path := by
  constructor
  · intro ⟨q', h⟩
    cases apply_eq_ok_iff_step.mp h with
    | addFilter hnew => exact ⟨_, hnew⟩
  · intro ⟨f, hnew⟩
    exact ⟨_, apply_eq_ok_iff_step.mpr (.addFilter hnew)⟩

theorem addFilter_eq_error {c : Composer} {q : Query} {path : String} {e : QueryError} :
    c.apply q (.addFilter path) = .error e ↔ c.schema.newFilter q.model path = .error e :=
  apply_eq_error.trans (map_eq_error.trans Filters.add_eq_error)

/-- **Filterable has one meaning where defaults are offered.**  A filter that can be added is one
    that a lookup is accepted for.  The converse holds on a path exactly if the type of its field
    has its default among its lookups, or has no lookups.  Under the same condition the mark in
    the listing of a model's own fields says whether a filter can be added; it always says
    whether a lookup is accepted. -/
theorem addFilter_agrees_iff_defaultOffered (c : Composer) (q : Query) :
    (∀ path,
      ((∃ q', c.apply q (.addFilter path) = .ok q') →
        ∃ lookup, c.schema.checkLookup q.model path lookup = .ok ()) ∧
      (((∃ q', c.apply q (.addFilter path) = .ok q') ↔
        ∃ lookup, c.schema.checkLookup q.model path lookup = .ok ()) ↔
          c.schema.DefaultOffered q.model path)) ∧
    ∀ lines, c.schema.fieldLines q.model 0 = .ok lines →
      ∃ entries, c.schema.walk q.model 0 = .ok entries ∧
        List.Forall₂ (fun e line => e.field.isRelation = false →
          ¬ Path.HasSeparator e.path.toList →
            (Schema.Marked line ↔ ∃ lookup, c.schema.checkLookup q.model e.path lookup = .ok ()) ∧
            ((Schema.Marked line ↔ ∃ q', c.apply q (.addFilter e.path) = .ok q') ↔
              c.schema.DefaultOffered q.model e.path)) entries lines := by
  simp only [addFilter_iff]
  constructor
  · intro path
    exact ⟨Schema.Addable.takesLookups, Schema.addable_iff_takesLookups_iff⟩
  · intro lines hlines
    obtain ⟨entries, hwalk, hread⟩ := bind_eq_ok.mp hlines
    have hmem : List.Forall₂ (fun e line => e ∈ entries ∧ c.schema.fieldLine e = .ok line)
        entries lines := (List.forall₂_and_left _ _).mpr ⟨fun _ he => he, mapM_eq_ok.mp hread⟩
    refine ⟨entries, hwalk, hmem.imp fun e line ⟨he, hline⟩ htarget hname => ?_⟩
    have hmarked := Schema.marked_iff_takesLookups hwalk he hline htarget hname
    refine ⟨hmarked, ?_⟩
    rw [hmarked, Iff.comm (a := Schema.TakesLookups _ _ _)]
    exact Schema.addable_iff_takesLookups_iff

/-- The types of the staff have their defaults, so what can be compared can be added. -/
theorem addFilter_agrees_iff_defaultOffered_of_staff :
    Schema.staff.fieldLines "person" 0 =
        .ok ["age\tnumber\tfilterable", "name\ttext\tfilterable"] ∧
      Schema.staff.checkLookup "person" "age" "gte" = .ok () ∧
      (∃ q', ({ schema := .staff } : Composer).apply .grownUps (.addFilter "age") = .ok q') ∧
      ∃ entries, Schema.staff.walk "person" 0 = .ok entries ∧ entries.length = 2 := by
  have hlines : Schema.staff.fieldLines "person" 0 =
      .ok ["age\tnumber\tfilterable", "name\ttext\tfilterable"] := by decide +kernel
  have hage : Schema.staff.checkLookup "person" "age" "gte" = .ok () := rfl
  have htypes : ∀ x ∈ Schema.staff.types, x.2.DefaultOffered := by
    intro x hx
    rcases List.mem_pair.mp hx with rfl | rfl
    · exact fun _ => ⟨"gte", rfl, rfl⟩
    · exact fun _ => ⟨"contains", rfl, rfl⟩
  obtain ⟨hpath, hlisted⟩ := addFilter_agrees_iff_defaultOffered { schema := .staff } .grownUps
  obtain ⟨entries, hwalk, hmarks⟩ := hlisted _ hlines
  have hagree := (hpath "age").2.mpr (Schema.defaultOffered_of_types htypes)
  exact ⟨hlines, hage, hagree.mpr ⟨"gte", hage⟩, entries, hwalk, hmarks.length_eq⟩

end Composer

/-- People with a name, of a type that has a lookup and no default. -/
def words : Schema :=
  { models := [("person", { fields := [("name", .stored "Name" "word")] })]
    types := [("word", { lookups := [("is", { kind := .text })] })] }

namespace Composer

/-- A schema without the default is admitted.  The lookup is accepted there, a text carries a
    filter on names, and the listing marks them; but no filter can be added for them. -/
theorem addFilter_refused_of_words : Schema.ofJson? words.toJson = some words ∧
    words.checkLookup "person" "name" "is" = .ok () ∧
    Filters.ofSegment words "person" "name__is=Ann" =
      .ok { filters := [{ path := "name", lookup := "is", value := "Ann" }] } ∧
    words.fieldLines "person" 0 = .ok ["name\tword\tfilterable"] ∧
    ∀ q : Query, q.model = "person" → ({ schema := words } : Composer).apply q (.addFilter "name") =
      .error (.notFilterable "name") := by
  refine ⟨by rfl, by rfl, by decide +kernel, by decide +kernel, fun q hq => ?_⟩
  rw [addFilter_eq_error, hq]
  rfl

end Composer

end QueryComposer
