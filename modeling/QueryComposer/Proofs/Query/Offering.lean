import QueryComposer.Proofs.Query.Refusal
import QueryComposer.Proofs.Schema.Listing
import QueryComposer.Schema.Catalog
import QueryComposer.Schema.Document

/-! # Names that are offered

    A schema offers names for a choice: of its models, of the fields of a model, of
    the lookups of a type.  They come in an order of display, which may name
    entries that the table does not have.  For fields such names are dropped; for
    models and lookups they are offered, and refused once they are chosen.

    * `KeyMap.Covers`: the table has every name of an order of display.
    * `Schema.models_cover_withModel`, `Catalog.lookups_cover_of_mem`: schemas that are
      put together and the catalog have nothing but such orders.
    * `Composer.offered_accepted_iff_covered`: what is accepted of the names offered. -/

namespace QueryComposer

open Outcome

/-! ## Section 1: Orders of display -/

namespace KeyMap

variable {α : Type} {m : KeyMap α} {order : List String}

/-- The table has an entry for every name of an order of display. -/
def Covers (m : KeyMap α) (order : List String) : Prop := ∀ name ∈ order, m.has name = true

instance : Decidable (m.Covers order) := inferInstanceAs (Decidable (∀ _ ∈ order, _))

/-- The names displayed are all in the table, if those of the order are: without an order they
    are the names of the table. -/
theorem covers_displayed_iff :
    m.Covers (if order.isEmpty then m.names else order) ↔ m.Covers order := by
  by_cases hempty : order.isEmpty = true
  · rw [if_pos hempty, List.isEmpty_iff.mp hempty]
    constructor
    · intro _ name hname
      cases hname
    · intro _ name hname
      exact mem_names.mp hname
  · rw [if_neg hempty]

end KeyMap

/-- A schema that models are added to displays the models that it has. -/
theorem Schema.models_cover_withModel {s : Schema} (h : s.models.Covers s.modelOrder)
    (name : String) (m : Model) :
    (s.withModel name m).models.Covers (s.withModel name m).modelOrder := by
  intro other hother
  rcases List.mem_append.mp hother with hold | hnew
  · exact KeyMap.has_insert.mpr (.inr (h other hold))
  · exact KeyMap.has_insert.mpr (.inl (List.mem_singleton.mp hnew))

/-- The types of the catalog display the lookups that they have. -/
theorem Catalog.lookups_cover_of_mem {currentYear : String} {x : String × FieldType}
    (h : x ∈ standardTypes currentYear) : x.2.lookups.Covers x.2.lookupOrder := by
  obtain ⟨t, -, rfl⟩ := List.mem_map.mp (KeyMap.mem_of_mem_ofEntries h)
  intro lookup hlookup
  apply KeyMap.has_ofEntries.mpr
  rw [List.map_map]
  exact hlookup

/-! ## Section 2: Names that are chosen -/

theorem Model.has_of_mem_fieldNames {m : Model} {name : String} (h : name ∈ m.fieldNames) :
    m.fields.has name = true := by
  unfold fieldNames at h
  by_cases hempty : m.fieldOrder.isEmpty = true
  · rw [if_pos hempty] at h
    exact KeyMap.mem_names.mp h
  · rw [if_neg hempty] at h
    exact (List.mem_filter.mp h).2

/-- A name without separator is the path of a field of the model itself. -/
theorem Schema.resolve_of_mem_fieldNames {s : Schema} {model name : String} {m : Model}
    (hm : s.model model = .ok m) (h : name ∈ m.fieldNames)
    (hname : ¬ Path.HasSeparator name.toList) :
    ∃ f, m.fields.find? name = some f ∧ s.resolve model name = .ok ⟨model, f⟩ := by
  obtain ⟨f, hf⟩ := KeyMap.has_iff.mp (Model.has_of_mem_fieldNames h)
  refine ⟨f, hf, ?_⟩
  rw [resolve, hm, ok_bind, Path.split_eq_singleton hname, resolveFrom, hf]

theorem Schema.checkLookup_iff_hasLookup {s : Schema} {model path lookup : String} {t : FieldType}
    (h : s.filterType model path = .ok t) :
    s.checkLookup model path lookup = .ok () ↔ t.hasLookup lookup = true := by
  rw [checkLookup_eq_ok]
  constructor
  · intro ⟨t', ht', hlookup⟩
    rw [h] at ht'
    cases ht'
    exact hlookup
  · intro hlookup
    exact ⟨t, h, hlookup⟩

namespace Composer

variable {c : Composer} {q : Query} {name : String}

theorem initial_ok_iff : (∃ q, c.initial name = .ok q) ↔ c.schema.models.has name = true := by
  rw [KeyMap.has_iff]
  constructor
  · intro ⟨q, hq⟩
    obtain ⟨m, hm, -⟩ := bind_eq_ok.mp hq
    exact ⟨m, Schema.model_eq_ok.mp hm⟩
  · intro ⟨m, hm⟩
    exact ⟨_, bind_eq_ok.mpr ⟨m, Schema.model_eq_ok.mpr hm, rfl⟩⟩

/-- **What is offered is accepted where it is there.**  The name of a field that is offered is
    found, if it has no separator.  A model or a lookup that is offered is accepted exactly if
    the table has it, the lookup also for a filter that is on the field already.  So every
    model offered is accepted exactly if the table of models covers the order of display, and
    the same is true for the lookups of a type. -/
theorem offered_accepted_iff_covered (c : Composer) :
    ((∀ name ∈ c.schema.modelNames,
        (∃ q, c.initial name = .ok q) ↔ c.schema.models.has name = true) ∧
      ((∀ name ∈ c.schema.modelNames, ∃ q, c.initial name = .ok q) ↔
        c.schema.models.Covers c.schema.modelOrder)) ∧
    (∀ model m, c.schema.model model = .ok m → ∀ name ∈ m.fieldNames,
      ¬ Path.HasSeparator name.toList →
        ∃ f, m.fields.find? name = some f ∧ c.schema.resolve model name = .ok ⟨model, f⟩) ∧
    ∀ model path t, c.schema.filterType model path = .ok t →
      (∀ lookup ∈ t.lookupNames,
        (c.schema.checkLookup model path lookup = .ok () ↔ t.hasLookup lookup = true) ∧
        ∀ q i f, q.model = model → q.filters[i]? = some f → f.path = path →
          ((∃ q', c.apply q (.setFilterLookup i lookup) = .ok q') ↔
            t.hasLookup lookup = true)) ∧
      ((∀ lookup ∈ t.lookupNames, c.schema.checkLookup model path lookup = .ok ()) ↔
        t.lookups.Covers t.lookupOrder) := by
  refine ⟨⟨fun name _ => initial_ok_iff, ?_⟩, ?_, ?_⟩
  · simp only [initial_ok_iff]
    exact KeyMap.covers_displayed_iff
  · intro model m hm name hname hsep
    exact Schema.resolve_of_mem_fieldNames hm hname hsep
  · intro model path t ht
    refine ⟨fun lookup _ => ⟨Schema.checkLookup_iff_hasLookup ht, ?_⟩, ?_⟩
    · rintro q i f rfl hf rfl
      exact (succeedsIff_setFilterLookup hf ht lookup).ok_iff
    · simp only [Schema.checkLookup_iff_hasLookup ht]
      exact KeyMap.covers_displayed_iff

end Composer

/-- People with an age, displayed in some orders. -/
def Schema.displayed (models lookups : List String) : Schema :=
  { models := [("person",
      { fields := [("age", .stored "Age" "number"), ("home", .relation "Home" "town")]
        fieldOrder := ["home", "phone", "age"] })]
    types := [("number",
      { lookups := [("gte", { kind := .number }), ("lte", { kind := .number })]
        lookupOrder := lookups })]
    modelOrder := models }

/-- A filter on the age of people. -/
def Query.ofAge : Query :=
  { model := "person", columns := [], limit := 10
    filters := [{ path := "age", lookup := "gte", value := "18" }] }

namespace Composer

/-- Orders of names that are there: the lookup that comes first is accepted, and the field that
    is not there is not offered. -/
theorem offered_accepted_iff_covered_of_displayed :
    let c : Composer := { schema := .displayed ["person"] ["lte", "gte"] }
    c.schema.models.Covers c.schema.modelOrder ∧ (∃ q, c.initial "person" = .ok q) ∧
      (∃ f, c.schema.resolve "person" "home" = .ok ⟨"person", f⟩) ∧
      (∃ t, c.schema.filterType "person" "age" = .ok t ∧ t.lookupNames = ["lte", "gte"] ∧
        c.schema.checkLookup "person" "age" "lte" = .ok ()) ∧
      ∃ q', c.apply .ofAge (.setFilterLookup 0 "lte") = .ok q' := by
  intro c
  obtain ⟨⟨-, hmodels⟩, hfields, hlookups⟩ := offered_accepted_iff_covered c
  have hcovers : c.schema.models.Covers c.schema.modelOrder := by decide
  obtain ⟨f, -, hf⟩ := hfields "person" _ rfl "home" (by decide) (by decide)
  obtain ⟨hone, hall⟩ := hlookups "person" "age" _ rfl
  refine ⟨hcovers, hmodels.mpr hcovers "person" (by decide), ⟨f, hf⟩, ⟨_, rfl, rfl, ?_⟩, ?_⟩
  · exact hall.mpr (by decide) "lte" (by decide)
  · exact ((hone "lte" (by decide)).2 .ofAge 0 _ rfl rfl rfl).mpr (by decide)

/-- A document may display a model and a lookup that are not there.  Both are offered, and
    neither is accepted. -/
theorem offered_refused_of_displayed :
    let c : Composer := { schema := .displayed ["pet", "person"] ["gt", "gte"] }
    Schema.ofJson? c.schema.toJson = some c.schema ∧
      "pet" ∈ c.schema.modelNames ∧ c.initial "pet" = .error (.unknownModel "pet") ∧
      (∃ t, c.schema.filterType "person" "age" = .ok t ∧ "gt" ∈ t.lookupNames) ∧
      c.schema.checkLookup "person" "age" "gt" = .error (.unknownLookup "age" "gt") ∧
      c.apply .ofAge (.setFilterLookup 0 "gt") = .error (.unknownLookup "age" "gt") := by
  intro c
  exact ⟨by rfl, by decide, by rfl, ⟨_, rfl, by decide⟩, by rfl, by rfl⟩

end Composer

end QueryComposer
