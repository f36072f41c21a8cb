import QueryComposer.Proofs.Json.Telling

/-! # Schemas are read back from their documents

    Every part of a schema tells what it was written for, from the names of
    directions up to the whole document.  A field is written with the relations
    noted with it, fields again, so for fields this is an induction on their
    nesting. -/

namespace QueryComposer

open Json

/-! ## Section 1: Directions and kinds of values -/

theorem Direction.tells_toJson (d : Direction) : Tells ofJson? d.toJson d := by
  refine tells_string ?_
  cases d with
  | ascending => rfl
  | descending => rfl

/-- Each kind of values has a name of its own, so none is taken for free text. -/
theorem ValueKind.ofName_name (k : ValueKind) : ofName k.name = k := by
  cases k <;> rfl

theorem ValueKind.tells_toJson (k : ValueKind) : Tells ofJson? k.toJson k := by
  refine tells_string ?_
  show some (ofName k.name) = some k
  rw [ofName_name]

/-! ## Section 2: Types of fields -/

theorem Lookup.tells_toJson (l : Lookup) : Tells ofJson? l.toJson l := by
  have hkind := l.kind.tells_toJson
  have hinitial := tells_text l.initial
  refine tells_record members [] rfl (by decide) (by simp [hkind.same, hinitial.same]) ?_
  intro w ws hws hslots
  obtain _ | ⟨h₁, _ | ⟨h₂, _ | _⟩⟩ := hws
  unfold ofJson?
  rw [hslots]
  simp [hkind.read_same _ h₁, hinitial.read_same _ h₂]

theorem FieldType.tells_toJson {t : FieldType} (h : t.lookups.Ordered) :
    Tells ofJson? t.toJson t := by
  have hlookups := tells_table h fun x _ => x.2.tells_toJson
  have hlookup := tells_nullable t.defaultLookup rfl fun s _ => tells_text s
  have hsort := tells_nullable t.defaultSort rfl fun d _ => d.tells_toJson
  have horder := tells_list t.lookupOrder fun s _ => tells_text s
  refine tells_record members [] rfl (by decide)
    (by simp [hlookups.same, hlookup.same, hsort.same, horder.same]) ?_
  intro w ws hws hslots
  obtain _ | ⟨h₁, _ | ⟨h₂, _ | ⟨h₃, _ | ⟨h₄, _ | _⟩⟩⟩⟩ := hws
  unfold ofJson?
  rw [hslots]
  simp [hlookups.read_same _ h₁, hlookup.read_same _ h₂, hsort.read_same _ h₃,
    horder.read_same _ h₄]

/-! ## Section 3: Fields and models -/

namespace Field

/-- The relations noted with a field are a table, and so for each of these fields in turn. -/
inductive Ordered : Field → Prop where
  | mk {f : Field} : KeyMap.Ordered f.relations → (∀ r ∈ f.relations, Ordered r.2) → Ordered f

theorem relationsToJson_eq_map (relations : List (String × Field)) :
    relationsToJson relations = relations.map fun r => (r.1, r.2.toJson) := by
  induction relations with
  | nil => rfl
  | cons r relations ih => rw [relationsToJson, ih, List.map_cons]

theorem mk_of_parts (f : Field) :
    mk f.prettyName f.concrete f.typeName f.target f.relations = f := by
  cases f
  rfl

theorem toJson_of_eq_nil {f : Field} (h : f.relations = []) :
    f.toJson = .object
      [("prettyName", .string f.prettyName), ("concrete", .bool f.concrete),
       ("type", .ofOption .string f.typeName), ("model", .ofOption .string f.target)] := by
  obtain ⟨prettyName, concrete, typeName, target, relations⟩ := f
  have hempty : relations = [] := h
  rw [hempty]
  rfl

theorem toJson_of_ne_nil {f : Field} (h : f.relations ≠ []) :
    f.toJson = .object
      [("prettyName", .string f.prettyName), ("concrete", .bool f.concrete),
       ("type", .ofOption .string f.typeName), ("model", .ofOption .string f.target),
       ("fks", KeyMap.toJson toJson f.relations)] := by
  obtain ⟨prettyName, concrete, typeName, target, relations⟩ := f
  have hsome : relations ≠ [] := h
  simp [toJson, relationsToJson_eq_map, KeyMap.toJson, hsome]

theorem relationEntries?_eq (ms : List (String × Json)) :
    relationEntries? ms = KeyMap.entries? ofJson? ms := by
  induction ms with
  | nil => rfl
  | cons m ms ih => rw [relationEntries?, KeyMap.entries?, ih]

/-- The relations of a field are read as any table of fields. -/
theorem relationTable?_eq (v : Json) : relationTable? v = KeyMap.ofJson? ofJson? v := by
  cases v with
  | object ms => rw [relationTable?, KeyMap.ofJson?, relationEntries?_eq]
  | _ => rfl

/-- The relations among the members of a field are read as any member with a default. -/
theorem memberRelations?_eq {ms : List (String × Json)} {slot : Slot}
    (h : memberSlot? ms "fks" = some slot) :
    memberRelations? ms = slot.withDefault [] (KeyMap.ofJson? ofJson?) := by
  induction ms with
  | nil =>
    cases h
    rfl
  | cons m ms ih =>
    obtain ⟨name, v⟩ := m
    rw [memberRelations?]
    unfold memberSlot? at h
    by_cases hname : name = "fks"
    · -- the first member of the name is the only one
      rw [List.filter_cons_of_pos (by simpa using hname)] at h
      rw [if_pos hname, relationTable?_eq]
      split at h
      next hnone => cases hnone
      next hone =>
        have hhead := (List.cons.inj hone).1
        cases hhead
        cases h
        rfl
      next => cases h
    · rw [List.filter_cons_of_neg (by simpa using hname)] at h
      rw [if_neg hname]
      exact ih h

theorem eq_of_mapM_members {f : String → Option Slot} {slots : List Slot}
    (h : members.mapM f = some slots) :
    ∃ a b c d e, slots = [a, b, c, d, e] ∧ f "fks" = some e := by
  have hslots := Outcome.mapM_eq_some.mp h
  obtain _ | ⟨_, _ | ⟨_, _ | ⟨_, _ | ⟨_, _ | ⟨he, _ | _⟩⟩⟩⟩⟩ := hslots
  exact ⟨_, _, _, _, _, rfl, he⟩

/-- A field is read as a record of its members, the relations among them. -/
theorem ofJson?_eq (v : Json) :
    ofJson? v =
      match v.slots? members with
      | some [prettyName, concrete, typeName, target, relations] => do
        ofSlots? (← relations.withDefault [] (KeyMap.ofJson? ofJson?))
          [prettyName, concrete, typeName, target, relations]
      | _ => none := by
  cases v with
  | object ms =>
    rw [ofJson?]
    cases hslots : (Json.object ms).slots? members with
    | none => cases memberRelations? ms <;> rfl
    | some slots =>
      -- the last slot is what the relations were read from
      obtain ⟨a, b, c, d, e, rfl, he⟩ := eq_of_mapM_members hslots
      rw [memberRelations?_eq he]
      rfl
  | array items =>
    -- an array gives relations only if it is complete
    match items with
    | [] => rfl
    | [a] => rfl
    | [a, b] => rfl
    | [a, b, c] => rfl
    | [a, b, c, d] => rfl
    | [a, b, c, d, e] =>
      rw [ofJson?, relationTable?_eq]
      rfl
    | a :: b :: c :: d :: e :: f :: items => rfl
  | _ => rfl

/-- A field tells what it was written for, and so do the relations noted with it, if they are
    not left out for want of any. -/
theorem tells_toJson {f : Field} (h : f.Ordered) : Tells ofJson? f.toJson f := by
  induction h with
  | @mk f hordered _ ih =>
    have hname := tells_text f.prettyName
    have hconcrete := tells_bool f.concrete
    have htype := tells_nullable f.typeName rfl fun s _ => tells_text s
    have htarget := tells_nullable f.target rfl fun s _ => tells_text s
    have hrelations := tells_table hordered ih
    by_cases hempty : f.relations = []
    · -- the relations are left out, and the reader takes none for granted
      rw [toJson_of_eq_nil hempty]
      refine tells_record members ["fks"] rfl (by decide)
        (by simp [hname.same, hconcrete.same, htype.same, htarget.same]) ?_
      intro w ws hws hslots
      obtain _ | ⟨h₁, _ | ⟨h₂, _ | ⟨h₃, _ | ⟨h₄, _ | _⟩⟩⟩⟩ := hws
      rw [ofJson?_eq, hslots]
      simp [ofSlots?, hname.read_same _ h₁, hconcrete.read_same _ h₂, htype.read_same _ h₃,
        htarget.read_same _ h₄, ← hempty]
      exact mk_of_parts f
    · rw [toJson_of_ne_nil hempty]
      refine tells_record members [] rfl (by decide)
        (by simp [hname.same, hconcrete.same, htype.same, htarget.same, hrelations.same]) ?_
      intro w ws hws hslots
      obtain _ | ⟨h₁, _ | ⟨h₂, _ | ⟨h₃, _ | ⟨h₄, _ | ⟨h₅, _ | _⟩⟩⟩⟩⟩ := hws
      rw [ofJson?_eq, hslots]
      simp [ofSlots?, hname.read_same _ h₁, hconcrete.read_same _ h₂, htype.read_same _ h₃,
        htarget.read_same _ h₄, hrelations.read_same _ h₅]
      exact mk_of_parts f

end Field

/-- The fields and relations of a model are tables, as deep as they are nested. -/
structure Model.Ordered (m : Model) : Prop where
  /-- The fields are a table. -/
  fields : m.fields.Ordered
  /-- So are the relations. -/
  relations : m.relations.Ordered
  /-- And so are the relations noted with a field. -/
  withFields : ∀ x ∈ m.fields, x.2.Ordered
  /-- And those noted with a relation. -/
  withRelations : ∀ x ∈ m.relations, x.2.Ordered

theorem Model.tells_toJson {m : Model} (h : m.Ordered) : Tells ofJson? m.toJson m := by
  have hfields := tells_table h.fields fun x hx => Field.tells_toJson (h.withFields x hx)
  have hrelations := tells_table h.relations fun x hx => Field.tells_toJson (h.withRelations x hx)
  have horder := tells_list m.fieldOrder fun s _ => tells_text s
  have hfilters := tells_text m.defaultFilters
  refine tells_record members [] rfl (by decide)
    (by simp [hfields.same, hrelations.same, horder.same, hfilters.same]) ?_
  intro w ws hws hslots
  obtain _ | ⟨h₁, _ | ⟨h₂, _ | ⟨h₃, _ | ⟨h₄, _ | _⟩⟩⟩⟩ := hws
  unfold ofJson?
  rw [hslots]
  simp [hfields.read_same _ h₁, hrelations.read_same _ h₂, horder.read_same _ h₃,
    hfilters.read_same _ h₄]

/-! ## Section 4: The schema -/

/-- All tables of the schema are in the order of their names. -/
structure Schema.Ordered (s : Schema) : Prop where
  /-- The models. -/
  models : s.models.Ordered
  /-- The types of fields. -/
  types : s.types.Ordered
  /-- What each model holds. -/
  eachModel : ∀ x ∈ s.models, x.2.Ordered
  /-- The lookups of each type. -/
  eachType : ∀ x ∈ s.types, x.2.lookups.Ordered

theorem Schema.tells_toJson {s : Schema} (h : s.Ordered) : Tells ofJson? s.toJson s := by
  have hmodels := tells_table h.models fun x hx => Model.tells_toJson (h.eachModel x hx)
  have htypes := tells_table h.types fun x hx => FieldType.tells_toJson (h.eachType x hx)
  have hbase := tells_text s.baseUrl
  have hadmin := tells_text s.adminUrl
  have horder := tells_list s.modelOrder fun s _ => tells_text s
  refine tells_record members [] rfl (by decide)
    (by simp [hmodels.same, htypes.same, hbase.same, hadmin.same, horder.same]) ?_
  intro w ws hws hslots
  obtain _ | ⟨h₁, _ | ⟨h₂, _ | ⟨h₃, _ | ⟨h₄, _ | ⟨h₅, _ | _⟩⟩⟩⟩⟩ := hws
  unfold ofJson?
  rw [hslots]
  simp [hmodels.read_same _ h₁, htypes.read_same _ h₂, hbase.read_same _ h₃,
    hadmin.read_same _ h₄, horder.read_same _ h₅]

end QueryComposer
