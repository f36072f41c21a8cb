import QueryComposer.Proofs.KeyMap
import QueryComposer.Proofs.Query.Gluing
import QueryComposer.Proofs.Query.Segment

/-! # Default filters come back

    A model is opened with the filters of a text.  Whoever builds a schema puts
    filters at the end of that text one by one, and whoever opens the model
    reads the text as a whole.  What was put in is what is read, behind the
    filters that the text had before.

    * Paths and lookups are found without regard to default filters
      (`SameFields.ofSegment_eq`), so it does not matter for the reading that
      the schema has changed.
    * The text that comes of it is read like the old text glued to the segment
      of the filters put in (`ofSegment_withDefaultFilters`). -/

namespace QueryComposer

open Outcome

/-! ## Section 1: What reading does not look at -/

/-- The two models have the same fields and relations. -/
def Model.SameFields (m m' : Model) : Prop := m'.fields = m.fields ∧ m'.relations = m.relations

theorem Model.SameFields.relation?_eq {m m' : Model} (h : m.SameFields m') (name : String) :
    m'.relation? name = m.relation? name := by
  rw [relation?, relation?, h.1, h.2]

namespace Schema

/-- The two schemas have the same types and the same models, as far as fields and relations go. -/
structure SameFields (s s' : Schema) : Prop where
  types_eq : s'.types = s.types
  models : ∀ name, Agree Model.SameFields (s.model name) (s'.model name)

namespace SameFields

variable {s s' : Schema} (h : s.SameFields s')

include h

theorem resolveFrom_eq (root path name : String) {m m' : Model} (hm : m.SameFields m')
    (names : List String) :
    s'.resolveFrom root path (name, m') names = s.resolveFrom root path (name, m) names := by
  induction names generalizing name m m' with
  | nil => rfl
  | cons hop names ih =>
    cases names with
    | nil => simp only [resolveFrom, hm.1]
    | cons next names =>
      -- the same relation leads to models of the same fields, or nowhere
      have hfollow : Agree (fun x x' => x'.1 = x.1 ∧ x.2.SameFields x'.2)
          (s.follow root path m hop) (s'.follow root path m' hop) := by
        unfold follow
        rw [hm.relation?_eq]
        split
        next => exact .error _
        next target _ => exact (h.models target).bind fun _ _ hsame => .ok ⟨rfl, hsame⟩
      have hgo : ∀ x x' : String × Model, x'.1 = x.1 ∧ x.2.SameFields x'.2 →
          s.resolveFrom root path x (next :: names) = s'.resolveFrom root path x' (next :: names) := by
        intro x x' hx
        obtain ⟨target, m₁'⟩ := x'
        obtain ⟨rfl, hsame⟩ := hx
        exact (ih x.1 hsame).symm
      exact (hfollow.bind_eq hgo).symm

theorem resolve_eq (model path : String) : s'.resolve model path = s.resolve model path :=
  ((h.models model).bind_eq fun _ _ hm =>
    (h.resolveFrom_eq model path model hm (Path.split path)).symm).symm

theorem checkLookup_eq (model path lookup : String) :
    s'.checkLookup model path lookup = s.checkLookup model path lookup := by
  have htype : s'.filterType model path = s.filterType model path := by
    unfold filterType field typeOf type?
    rw [h.resolve_eq, h.types_eq]
  rw [checkLookup, checkLookup, htype]

theorem ofSegment_eq (model segment : String) :
    Filters.ofSegment s' model segment = Filters.ofSegment s model segment := by
  have hread : Filters.readPair s' model = Filters.readPair s model := by
    funext parsed pair
    unfold Filters.readPair
    simp only [h.checkLookup_eq]
  rw [Filters.ofSegment, Filters.ofSegment, hread]

end SameFields

end Schema

/-! ## Section 2: Filters put at the end -/

namespace Model

/-- The model with some filters, one by one, at the end of those it is opened with. -/
def withDefaultFilters (m : Model) (fs : Filters) : Model :=
  fs.foldl (fun m f => m.withDefaultFilter f.path f.lookup f.value) m

variable {m : Model} {fs : Filters}

theorem withDefaultFilters_eq : m.withDefaultFilters fs =
    { m with defaultFilters := fs.pairs.foldl Form.append m.defaultFilters } := by
  induction fs generalizing m with
  | nil => rfl
  | cons f fs ih => exact ih

theorem sameFields_withDefaultFilters : m.SameFields (m.withDefaultFilters fs) := by
  rw [withDefaultFilters_eq]
  exact ⟨rfl, rfl⟩

/-- What is read of the text in the end: first what was read before, then what was put in. -/
theorem decode_defaultFilters : Form.decode (m.withDefaultFilters fs).defaultFilters =
    Form.decode m.defaultFilters ++ fs.pairs := by
  rw [withDefaultFilters_eq]
  show Form.decode (fs.pairs.foldl Form.append m.defaultFilters) = _
  -- over any text, since each filter makes it longer
  generalize m.defaultFilters = text
  induction fs generalizing text with
  | nil => simp [Filters.pairs]
  | cons f fs ih =>
    show Form.decode ((Filters.pairs fs).foldl Form.append (Form.append text (f.key, f.value))) = _
    rw [ih, Form.decode_append_pair, List.append_assoc]
    rfl

/-- Filters put in where there were none are written like their segment. -/
theorem defaultFilters_of_empty (h : m.defaultFilters = "") :
    (m.withDefaultFilters fs).defaultFilters = fs.segment := by
  -- the text is the encoding of some pairs from the start, namely of none, and remains one
  have hadd : ∀ (pairs before : List (String × String)),
      pairs.foldl Form.append (Form.encode before) = Form.encode (before ++ pairs) := by
    intro pairs
    induction pairs with
    | nil => simp
    | cons pair pairs ih =>
      intro before
      rw [List.foldl_cons, Form.append_encode, ih, List.append_assoc]
      rfl
  rw [withDefaultFilters_eq]
  show fs.pairs.foldl Form.append m.defaultFilters = fs.segment
  rw [h]
  exact hadd fs.pairs []

end Model

namespace Filters

variable {s : Schema} {model : String} {m : Model} {fs : Filters}

/-- The text is read like the old one with the segment of the new filters glued to it. -/
theorem ofSegment_withDefaultFilters :
    ofSegment s model (m.withDefaultFilters fs).defaultFilters =
      ofSegment s model (m.defaultFilters ++ "&" ++ fs.segment) := by
  unfold ofSegment
  rw [Model.decode_defaultFilters, Form.decode_append, segment, Form.decode_encode]

end Filters

/-! ## Section 3: The model in its schema -/

namespace Schema

/-- The schema `s'` has the model `m` under a name, and is otherwise like `s`. -/
structure Exchanged (s : Schema) (name : String) (m : Model) (s' : Schema) : Prop where
  types_eq : s'.types = s.types
  find?_eq : ∀ other, s'.models.find? other = if other = name then some m else s.models.find? other

/-- A schema that is built with one model or with another one in the same place. -/
theorem exchanged_withModel (s : Schema) (name : String) (m m' : Model) :
    (s.withModel name m).Exchanged name m' (s.withModel name m') where
  types_eq := rfl
  find?_eq other := by
    show (s.models.insert name m').find? other =
      if other = name then some m' else (s.models.insert name m).find? other
    rw [KeyMap.find?_insert, KeyMap.find?_insert]
    by_cases h : other = name <;> simp [h]

namespace Exchanged

variable {s s' : Schema} {name : String} {m m' : Model}

theorem model_eq (h : s.Exchanged name m s') : s'.model name = .ok m := by
  rw [model, h.find?_eq, if_pos rfl]

theorem sameFields (h : s.Exchanged name m' s') (hm : s.model name = .ok m)
    (hsame : m.SameFields m') : s.SameFields s' where
  types_eq := h.types_eq
  models other := by
    by_cases hother : other = name
    · subst hother
      rw [hm, h.model_eq]
      exact .ok hsame
    · rw [model, model, h.find?_eq, if_neg hother]
      split
      next => exact .ok ⟨rfl, rfl⟩
      next => exact .error _

end Exchanged

end Schema

/-- **Default filters come back.**  Take a schema with a model whose default filters can be read,
    and put more of them at the end, which links can carry and which their fields offer.  The
    model is then opened with the filters of before and those put in, in this order; applying
    default filters appends exactly these and touches nothing else.  If there were none before,
    the text is the segment of those put in. -/
theorem defaults_of_withDefaultFilters {s s' : Schema} {name : String} {m : Model}
    {parsed : Filters.Parsed} (fs : Filters) (hm : s.model name = .ok m)
    (hparsed : Filters.ofSegment s name m.defaultFilters = .ok parsed)
    (hfs : ∀ f ∈ fs, f.Portable ∧ f.Offered s name)
    (hs' : s.Exchanged name (m.withDefaultFilters fs) s') :
    Filters.defaults s' name = .ok (parsed.filters ++ fs.map Filter.unmarked) ∧
      (∀ (c : Composer) (q : Query), c.schema = s' → q.model = name →
        c.apply q .applyDefaultFilters =
          .ok { q with filters := q.filters ++ (parsed.filters ++ fs.map Filter.unmarked) }) ∧
      (m.defaultFilters = "" → (m.withDefaultFilters fs).defaultFilters = fs.segment) := by
  have hsame : s.SameFields s' := hs'.sameFields hm Model.sameFields_withDefaultFilters
  have hsegment : Filters.ofSegment s name fs.segment = .ok { filters := fs.map Filter.unmarked } :=
    Filters.ofSegment_segment (fun f hf => (hfs f hf).1) fun f hf => (hfs f hf).2
  have hread : Filters.ofSegment s' name (m.withDefaultFilters fs).defaultFilters =
      .ok (parsed.followedBy { filters := fs.map Filter.unmarked }) := by
    rw [hsame.ofSegment_eq, Filters.ofSegment_withDefaultFilters, Filters.ofSegment_append,
      hparsed, ok_bind, hsegment, ok_bind]
  have hdefaults : Filters.defaults s' name = .ok (parsed.filters ++ fs.map Filter.unmarked) := by
    rw [Filters.defaults, hs'.model_eq, ok_bind, hread]
    rfl
  refine ⟨hdefaults, ?_, Model.defaultFilters_of_empty⟩
  intro c q hc hq
  rw [Composer.apply_eq_ok_iff_step]
  subst hc hq
  exact .applyDefaultFilters hdefaults

/-- People who are opened with a condition on their age, and a row limit that is not one. -/
def Model.adults : Model :=
  { fields := [("age", .stored "Age" "number"), ("name", .stored "Name" "text")]
    defaultFilters := "age__gte=18&limit=5" }

/-- Two more conditions, one of which has everything in its value that is not written as it is. -/
def Filters.moreOfAdults : Filters :=
  [{ path := "name", lookup := "contains", value := "50% & more=Ä" },
    { path := "age", lookup := "gte", value := "" }]

theorem defaults_of_withDefaultFilters_of_adults :
    (Schema.staff.withModel "person" .adults).model "person" = .ok .adults ∧
      Filters.ofSegment (Schema.staff.withModel "person" .adults) "person" "age__gte=18&limit=5" =
        .ok { filters := [{ path := "age", lookup := "gte", value := "18" }], limit := some 5 } ∧
      (∀ f ∈ Filters.moreOfAdults, f.Portable ∧
        f.Offered (Schema.staff.withModel "person" .adults) "person") ∧
      (Model.adults.withDefaultFilters .moreOfAdults).defaultFilters =
        "age__gte=18&limit=5&name__contains=50%25+%26+more%3D%C3%84&age__gte=" ∧
      Filters.defaults (Schema.staff.withModel "person"
          (Model.adults.withDefaultFilters .moreOfAdults)) "person" =
        .ok ({ path := "age", lookup := "gte", value := "18" } :: Filters.moreOfAdults) := by
  have hm : (Schema.staff.withModel "person" .adults).model "person" = .ok .adults := by rfl
  have hparsed : Filters.ofSegment (Schema.staff.withModel "person" .adults) "person"
      Model.adults.defaultFilters =
        .ok { filters := [{ path := "age", lookup := "gte", value := "18" }], limit := some 5 } := by
    decide +kernel
  have hfs : ∀ f ∈ Filters.moreOfAdults, f.Portable ∧
      f.Offered (Schema.staff.withModel "person" .adults) "person" := by
    unfold Filter.Offered
    decide +kernel
  have hs' := Schema.exchanged_withModel .staff "person" .adults
    (Model.adults.withDefaultFilters .moreOfAdults)
  exact ⟨hm, hparsed, hfs, by decide +kernel,
    (defaults_of_withDefaultFilters .moreOfAdults hm hparsed hfs hs').1⟩

end QueryComposer
