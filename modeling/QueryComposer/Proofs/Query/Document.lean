import QueryComposer.Proofs.Json.Number
import QueryComposer.Proofs.Query.Reading
import QueryComposer.Proofs.Schema.Document
import QueryComposer.Query.Document

/-! # Queries, commands and views are read back from their documents

    A command shares its object with the name of the command, so what its
    members tell is found when the name is taken out.  A view tells its row
    limit raised to 1; everything else is told as it is.

    The numbers of a query are those of 32 or 64 bits, and its cells are values
    by themselves; `Query.Fits` and `Command.Fits` say so. -/

namespace QueryComposer

open Json

/-! ## Section 1: Queries -/

theorem Column.tells_toJson {c : Column} (h : ∀ p, c.priority = some p → p < Nat.pow 2 64) :
    Tells ofJson? c.toJson c := by
  have hpath := tells_text c.path
  have hsort := tells_nullable c.sort rfl fun d _ => d.tells_toJson
  have hpriority := tells_nullable c.priority rfl fun p hp => tells_natBelow (h p hp)
  refine tells_record members [] rfl (by decide)
    (by simp [hpath.same, hsort.same, hpriority.same]) ?_
  intro w ws hws hslots
  obtain _ | ⟨h₁, _ | ⟨h₂, _ | ⟨h₃, _ | _⟩⟩⟩ := hws
  unfold ofJson?
  rw [hslots]
  simp [hpath.read_same _ h₁, hsort.read_same _ h₂, hpriority.read_same _ h₃]

theorem Filter.tells_toJson (f : Filter) : Tells ofJson? f.toJson f := by
  have hpath := tells_text f.path
  have hlookup := tells_text f.lookup
  have hvalue := tells_text f.value
  have hmessage := tells_nullable f.message rfl fun s _ => tells_text s
  refine tells_record members [] rfl (by decide)
    (by simp [hpath.same, hlookup.same, hvalue.same, hmessage.same]) ?_
  intro w ws hws hslots
  obtain _ | ⟨h₁, _ | ⟨h₂, _ | ⟨h₃, _ | ⟨h₄, _ | _⟩⟩⟩⟩ := hws
  unfold ofJson?
  rw [hslots]
  simp [hpath.read_same _ h₁, hlookup.read_same _ h₂, hvalue.read_same _ h₃,
    hmessage.read_same _ h₄]

/-- The cells of the row are values by themselves. -/
def Row.Settled (row : Row) : Prop := ∀ c ∈ row, c.settled? = some c

theorem Row.tells_toJson {row : Row} (h : row.Settled) : Tells ofJson? (toJson row) row := by
  have hcells := tells_list row fun c hc => tells_settled (h c hc)
  rwa [List.map_id'] at hcells

/-- The numbers of the query are those of a machine, and its cells are values by themselves. -/
structure Query.Fits (q : Query) : Prop where
  /-- Priorities have 64 bits. -/
  priorities : ∀ c ∈ q.columns, ∀ p, c.priority = some p → p < Nat.pow 2 64
  /-- Cells are kept by themselves. -/
  cells : ∀ row ∈ q.rows, row.Settled
  /-- The row limit has 32 bits. -/
  limit : q.limit < Nat.pow 2 32

theorem Query.tells_toJson {q : Query} (h : q.Fits) : Tells ofJson? q.toJson q := by
  have hmodel := tells_text q.model
  have hcolumns := tells_list q.columns fun c hc => c.tells_toJson (h.priorities c hc)
  have hfilters := tells_list q.filters fun f _ => f.tells_toJson
  have hrows := tells_list q.rows fun row hrow => Row.tells_toJson (h.cells row hrow)
  have hlimit : Tells Limit.ofJson? (ofNat q.limit) q.limit := tells_natBelow h.limit
  refine tells_record members [] rfl (by decide)
    (by simp [hmodel.same, hcolumns.same, hfilters.same, hrows.same, hlimit.same]) ?_
  intro w ws hws hslots
  obtain _ | ⟨h₁, _ | ⟨h₂, _ | ⟨h₃, _ | ⟨h₄, _ | ⟨h₅, _ | _⟩⟩⟩⟩⟩ := hws
  unfold ofJson?
  rw [hslots]
  simp [hmodel.read_same _ h₁, hcolumns.read_same _ h₂, hfilters.read_same _ h₃,
    hrows.read_same _ h₄, hlimit.read_same _ h₅]

/-! ## Section 2: Commands -/

namespace Command

/-- The position that a command names has 64 bits, and the cells it brings are values by
    themselves. -/
def Fits : Command → Prop
  | removeField i => i < Nat.pow 2 64
  | toggleSort i => i < Nat.pow 2 64
  | removeFilter i => i < Nat.pow 2 64
  | setFilterValue i _ => i < Nat.pow 2 64
  | setFilterLookup i _ => i < Nat.pow 2 64
  | setData rows => ∀ row ∈ rows, Row.Settled row
  | _ => True

variable {c : Command} {rest : List (String × Json)} {names : List String} {name : String}
  {w : Json}

/-- The name of a command is taken out wherever it stands, and leaves the other members. -/
theorem exists_untag?_of_same (h : Same (.object ((tag, .string name) :: rest)) w) :
    ∃ w', untag? w = some (name, w') ∧ Same (.object rest) w' := by
  cases h with
  | @object _ members' hnodup hnames hvalues =>
    have hsame := Same.object hnodup hnames hvalues
    have hnodup' : (members'.map (·.1)).Nodup := hnames.nodup_iff.mpr hnodup
    -- the name of the command stands somewhere in the object, and in one place only
    have htag : tag ∈ members'.map (·.1) := hnames.symm.subset List.mem_cons_self
    obtain ⟨⟨_, v⟩, hmem, rfl⟩ := List.mem_map.mp htag
    have hslot := memberSlot?_of_mem hnodup' hmem
    cases hvalues _ _ v List.mem_cons_self hmem with
    | string name =>
      refine ⟨.object (members'.filter fun m => m.1 ≠ tag), ?_, ?_⟩
      · simp [untag?, hslot, text?]
      · have hrest := hsame.filter_members fun name => decide (name ≠ tag)
        rw [List.filter_cons_of_neg (by simp)] at hrest
        -- no other member has its name, so the others are left whole
        have hkeep : rest.filter (fun m => decide (m.1 ≠ tag)) = rest := by
          rw [List.filter_eq_self]
          intro m hm
          refine decide_eq_true fun heq => (List.nodup_cons.mp hnodup).1 ?_
          exact List.mem_map.mpr ⟨m, hm, heq⟩
        rw [hkeep] at hrest
        exact hrest

/-- A command tells what its other members tell. -/
theorem tells_command (hknown : members? c.name = some names) (hnames : rest.map (·.1) = names)
    (hnodup : (tag :: names).Nodup) (hsame : ∀ m ∈ rest, Same m.2 m.2)
    (hread : ∀ ws, List.Forall₂ Same (rest.map (·.2)) ws →
      ofSlots? c.name (ws.map .given) = some c) :
    Tells ofJson? (.object ((tag, .string c.name) :: rest)) c := by
  subst hnames
  constructor
  · exact same_object_self hnodup (List.forall_mem_cons.mpr ⟨.string c.name, hsame⟩)
  · intro w hw
    obtain ⟨w', huntag, hrest⟩ := exists_untag?_of_same hw
    have hnone : ∀ name ∈ ([] : List String), name ∉ rest.map (·.1) := nofun
    obtain ⟨ws, hws, hslots⟩ := exists_slots?_of_same hrest hnone
    rw [List.append_nil, List.map_nil, List.append_nil] at hslots
    simp [ofJson?, hw.isReadable, huntag, hknown, hslots, hread ws hws]

section shapes
variable {α β : Type} {part part' : String} {read : Json → Option α} {read' : Json → Option β}
  {v v' : Json} {a : α} {b : β}

theorem tells_one (hknown : members? c.name = some [part]) (hnodup : [tag, part].Nodup)
    (h : Tells read v a) (hread : ∀ w, read w = some a → ofSlots? c.name [.given w] = some c) :
    Tells ofJson? (.object [(tag, .string c.name), (part, v)]) c := by
  refine tells_command hknown rfl hnodup (by simp [h.same]) ?_
  intro ws hws
  obtain _ | ⟨hw, _ | _⟩ := hws
  exact hread _ (h.read_same _ hw)

theorem tells_two (hknown : members? c.name = some [part, part'])
    (hnodup : [tag, part, part'].Nodup) (h : Tells read v a) (h' : Tells read' v' b)
    (hread : ∀ w w', read w = some a → read' w' = some b →
      ofSlots? c.name [.given w, .given w'] = some c) :
    Tells ofJson? (.object [(tag, .string c.name), (part, v), (part', v')]) c := by
  refine tells_command hknown rfl hnodup (by simp [h.same, h'.same]) ?_
  intro ws hws
  obtain _ | ⟨hw, _ | ⟨hw', _ | _⟩⟩ := hws
  exact hread _ _ (h.read_same _ hw) (h'.read_same _ hw')

end shapes

/-- Every command tells what it was written for. -/
theorem tells_toJson (h : c.Fits) : Tells ofJson? c.toJson c := by
  cases c with
  | setModel model =>
    refine tells_one rfl (by decide) (tells_text model) ?_
    intro w hw
    simp [ofSlots?, name, hw]
  | addField path =>
    refine tells_one rfl (by decide) (tells_text path) ?_
    intro w hw
    simp [ofSlots?, name, hw]
  | addFieldWithDefaultSort path =>
    refine tells_one rfl (by decide) (tells_text path) ?_
    intro w hw
    simp [ofSlots?, name, hw]
  | removeField i =>
    have hi : Tells index? (ofNat i) i := tells_natBelow h
    refine tells_one rfl (by decide) hi ?_
    intro w hw
    simp [ofSlots?, name, hw]
  | toggleSort i =>
    have hi : Tells index? (ofNat i) i := tells_natBelow h
    refine tells_one rfl (by decide) hi ?_
    intro w hw
    simp [ofSlots?, name, hw]
  | addFilter path =>
    refine tells_one rfl (by decide) (tells_text path) ?_
    intro w hw
    simp [ofSlots?, name, hw]
  | removeFilter i =>
    have hi : Tells index? (ofNat i) i := tells_natBelow h
    refine tells_one rfl (by decide) hi ?_
    intro w hw
    simp [ofSlots?, name, hw]
  | setFilterValue i value =>
    have hi : Tells index? (ofNat i) i := tells_natBelow h
    refine tells_two rfl (by decide) hi (tells_text value) ?_
    intro w w' hw hw'
    simp [ofSlots?, name, hw, hw']
  | setFilterLookup i lookup =>
    have hi : Tells index? (ofNat i) i := tells_natBelow h
    refine tells_two rfl (by decide) hi (tells_text lookup) ?_
    intro w w' hw hw'
    simp [ofSlots?, name, hw, hw']
  | applyDefaultFilters =>
    refine tells_command rfl rfl (by decide) (by simp) ?_
    intro ws hws
    cases hws
    rfl
  | setFilterErrors messages =>
    have hmessages := tells_list messages fun o _ => tells_nullable o rfl fun s _ => tells_text s
    refine tells_one rfl (by decide) hmessages ?_
    intro w hw
    simp [ofSlots?, name, hw]
  | setData rows =>
    have hrows := tells_list rows fun row hrow => Row.tells_toJson (h row hrow)
    refine tells_one rfl (by decide) hrows ?_
    intro w hw
    simp [ofSlots?, name, hw]
  | setLimit raw =>
    refine tells_one rfl (by decide) (tells_text raw) ?_
    intro w hw
    simp [ofSlots?, name, hw]

end Command

/-! ## Section 3: Views -/

theorem View.tells_toJson {v : View} (h : v.limit ≤ Limit.greatest) :
    Tells ofJson? v.toJson { v with limit := max v.limit 1 } := by
  have hname := tells_text v.name
  have hdescription := tells_text v.description
  have hpublic := tells_bool v.isPublic
  have hmodel := tells_text v.model
  have hfields := tells_text v.fields
  have hquery := tells_text v.query
  have hlimit : Tells limitOfJson? (ofNat v.limit) (max v.limit 1) := by
    have hbits : v.limit < 2 ^ 63 := Nat.lt_of_le_of_lt h (by decide)
    have hclamp : Limit.clamp (Number.integer v.limit).integer64 = max v.limit 1 := by
      rw [Number.integer64_integer (by omega), Int.min_eq_left (by omega), Limit.clamp_natCast h]
    exact tells_number (congrArg some hclamp)
  refine tells_record members [] rfl (by decide)
    (by simp [hname.same, hdescription.same, hpublic.same, hmodel.same, hfields.same, hquery.same,
      hlimit.same]) ?_
  intro w ws hws hslots
  obtain _ | ⟨h₁, _ | ⟨h₂, _ | ⟨h₃, _ | ⟨h₄, _ | ⟨h₅, _ | ⟨h₆, _ | ⟨h₇, _ | _⟩⟩⟩⟩⟩⟩⟩ := hws
  unfold ofJson?
  rw [hslots]
  simp [hname.read_same _ h₁, hdescription.read_same _ h₂, hpublic.read_same _ h₃,
    hmodel.read_same _ h₄, hfields.read_same _ h₅, hquery.read_same _ h₆, hlimit.read_same _ h₇]

/-! ## Section 4: The documents of the program -/

/-- **Documents are read back.**  A schema, however deep its relations are nested, a query, a
    command and a view are read back from what is written for them, whether the document keeps
    its order, is settled, or has its members in any other order at any depth.  Nothing changes
    but the row limit of a view, which is at least 1 then. -/
theorem documents_read_back :
    (∀ s : Schema, s.Ordered → ReadsBack Schema.ofJson? s.toJson s) ∧
    (∀ q : Query, q.Fits → ReadsBack Query.ofJson? q.toJson q) ∧
    (∀ c : Command, c.Fits → ReadsBack Command.ofJson? c.toJson c) ∧
    (∀ v : View, v.limit ≤ Limit.greatest →
      ReadsBack View.ofJson? v.toJson { v with limit := max v.limit 1 }) :=
  ⟨fun _ h => (Schema.tells_toJson h).readsBack, fun _ h => (Query.tells_toJson h).readsBack,
    fun _ h => (Command.tells_toJson h).readsBack, fun _ h => (View.tells_toJson h).readsBack⟩

/-- A cell that holds a record, with its members in the order of their names. -/
def recordCell : Json :=
  .object [("a", .array [.null, .number (.integer (-1))]), ("b", .object [("", .string "ü")])]

/-- The relation to an owner, noted with two fields of the owner, one of which is a relation. -/
def ownerField : Field :=
  { Field.relation "Owner" "person" with
    relations := [("employer", { Field.relation "Employer" "firm" with
      relations := [("name", Field.stored "Name" "string")] }), ("name", Field.stored "Name" "string")] }

/-- A schema with fields noted three deep. -/
def nestedSchema : Schema :=
  { models := [("pet", { fields := [("owner", ownerField)], relations := [("owner", ownerField)] })]
    types := [("string", { lookups := [("equals", { kind := .text })], defaultSort := some .descending })] }

/-- A query with a sorted column, a filter found wrong and a record in a cell. -/
def recordQuery : Query :=
  { model := "pet", columns := [.sorted "owner__name" .descending 0]
    filters := [{ path := "owner__name", lookup := "equals", value := "&", message := some "no" }]
    rows := [[recordCell]], limit := 0 }

theorem documents_read_back_of_nested :
    nestedSchema.Ordered ∧ ReadsBack Schema.ofJson? nestedSchema.toJson nestedSchema ∧
    recordQuery.Fits ∧ ReadsBack Query.ofJson? recordQuery.toJson recordQuery ∧
    (Command.setData [[recordCell]]).Fits ∧
      ReadsBack Command.ofJson? (Command.setData [[recordCell]]).toJson (.setData [[recordCell]]) ∧
    (View.ofQuery recordQuery "None").limit ≤ Limit.greatest ∧
      ReadsBack View.ofJson? (View.ofQuery recordQuery "None").toJson
        { View.ofQuery recordQuery "None" with limit := 1 } := by
  obtain ⟨hschema, hquery, hcommand, hview⟩ := documents_read_back
  have hstored : (Field.stored "Name" "string").Ordered := .mk .nil nofun
  have howner : ownerField.Ordered := by
    refine .mk (by decide) ?_
    intro r hr
    rcases List.mem_cons.mp hr with rfl | hr
    · exact .mk (by decide) (by simpa using hstored)
    · rw [List.mem_singleton.mp hr]
      exact hstored
  have hnested : nestedSchema.Ordered :=
    { models := by decide
      types := by decide
      eachModel := by
        intro x hx
        rw [List.mem_singleton.mp hx]
        exact ⟨by decide, by decide, by simpa using howner, by simpa using howner⟩
      eachType := by
        intro x hx
        rw [List.mem_singleton.mp hx]
        show KeyMap.Ordered [_]
        decide }
  have hcell : recordCell.settled? = some recordCell := by rfl
  have hrows : ∀ row ∈ [[recordCell]], Row.Settled row := by simpa [Row.Settled] using hcell
  have hfits : recordQuery.Fits :=
    { priorities := by decide
      cells := hrows
      limit := by decide }
  have hsetData : (Command.setData [[recordCell]]).Fits := hrows
  have hlimit : (View.ofQuery recordQuery "None").limit ≤ Limit.greatest := by decide
  exact ⟨hnested, hschema _ hnested, hfits, hquery _ hfits, hsetData, hcommand _ hsetData, hlimit,
    hview _ hlimit⟩

end QueryComposer
