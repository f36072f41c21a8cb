import QueryComposer.Proofs.Query.Segment
import QueryComposer.Proofs.Query.WellFormed
import QueryComposer.Query.Link
import QueryComposer.Query.View

/-! # Rows and messages are inert

    What a query asks for is its model, its columns, the conditions of its filters
    and its row limit.  Rows and messages are kept along with it: removing a column
    takes cells away, editing a filter carries its message on.  But no command looks
    at them to find out whether it can be done or what it leads to, and no link
    shows them.

    The proof compares two runs on queries that are `Alike`.  Each command comes to
    the same on both of them, which is to say that it fails on both with one error,
    or leads to queries that are alike again (`apply_agree`). -/

namespace QueryComposer

open Outcome

/-! ## Section 1: Queries that ask for the same -/

namespace Filters

variable {fs gs : Filters}

/-- The filters have the same paths, lookups and values. -/
def Alike (fs gs : Filters) : Prop := fs.map Filter.unmarked = gs.map Filter.unmarked

theorem Alike.append (h : Alike fs gs) (hs : Filters) : Alike (fs ++ hs) (gs ++ hs) := by
  unfold Alike at h ⊢
  rw [List.map_append, List.map_append, h]

theorem Alike.eraseIdx (h : Alike fs gs) (i : Nat) : Alike (fs.eraseIdx i) (gs.eraseIdx i) := by
  unfold Alike at h ⊢
  rw [← List.eraseIdx_map, ← List.eraseIdx_map, h]

theorem Alike.set (h : Alike fs gs) (i : Nat) {f g : Filter} (hfg : f.unmarked = g.unmarked) :
    Alike (fs.set i f) (gs.set i g) := by
  unfold Alike at h ⊢
  rw [List.map_set, List.map_set, h, hfg]

/-- New messages leave filters alike, whatever they are. -/
theorem Alike.setMessages (h : Alike fs gs) (messages messages' : List (Option String)) :
    Alike (fs.setMessages messages) (gs.setMessages messages') := by
  have hbare : ∀ (fs : Filters) messages,
      (fs.setMessages messages).map Filter.unmarked = fs.map Filter.unmarked := by
    intro fs messages
    refine List.ext_getElem? fun i => ?_
    rw [List.getElem?_map, List.getElem?_map, Filters.setMessages, List.getElem?_mapIdx]
    cases fs[i]? <;> rfl
  unfold Alike at h ⊢
  rw [hbare, hbare, h]

theorem Alike.segment_eq (h : Alike fs gs) : fs.segment = gs.segment := by
  have hpairs : ∀ fs : Filters, fs.pairs = pairs (fs.map Filter.unmarked) := by
    intro fs
    unfold pairs
    rw [List.map_map]
    rfl
  unfold segment
  rw [hpairs, hpairs gs, h]

end Filters

namespace Query

/-- The two queries ask for the same.  They may differ in their rows, and in what was noted
    against their filters. -/
structure Alike (q r : Query) : Prop where
  model : q.model = r.model
  columns : q.columns = r.columns
  filters : Filters.Alike q.filters r.filters
  limit : q.limit = r.limit

variable {q r : Query}

/-- What is written for a query does not show its rows and messages. -/
theorem Alike.parts_eq (h : q.Alike r) : q.parts = r.parts := by
  unfold parts
  rw [h.model, h.columns, h.filters.segment_eq]

end Query

/-! ## Section 2: What editing comes to -/

namespace Filters

variable {fs gs : Filters}

theorem Alike.length_eq (h : Alike fs gs) : fs.length = gs.length := by
  simpa using congrArg List.length h

/-- Alike filters have alike filters at each position. -/
theorem Alike.get (h : Alike fs gs) (i : Nat) :
    Agree (fun f g => f.unmarked = g.unmarked) (fs.get i) (gs.get i) := by
  have hi : fs[i]?.map Filter.unmarked = gs[i]?.map Filter.unmarked := by
    rw [← List.getElem?_map, ← List.getElem?_map, h]
  unfold Filters.get
  rw [h.length_eq]
  cases hf : fs[i]? with
  | none =>
    rw [hf, Option.map_none, eq_comm, Option.map_eq_none_iff] at hi
    rw [hi]
    exact .error _
  | some f =>
    rw [hf, Option.map_some, eq_comm, Option.map_eq_some_iff] at hi
    obtain ⟨g, hg, hgf⟩ := hi
    rw [hg]
    exact .ok hgf.symm

theorem Alike.remove (h : Alike fs gs) (i : Nat) : Agree Alike (fs.remove i) (gs.remove i) :=
  (h.get i).bind fun _ _ _ => .ok (h.eraseIdx i)

theorem Alike.setValue (h : Alike fs gs) (i : Nat) (value : String) :
    Agree Alike (fs.setValue i value) (gs.setValue i value) := by
  refine (h.get i).bind fun f g hfg => .ok (h.set i ?_)
  injection hfg with hpath hlookup
  simp only [Filter.unmarked, hpath, hlookup]

theorem Alike.setLookup (h : Alike fs gs) (i : Nat) (lookup : String) :
    Agree Alike (fs.setLookup i lookup) (gs.setLookup i lookup) := by
  refine (h.get i).bind fun f g hfg => .ok (h.set i ?_)
  injection hfg with hpath _ hvalue
  simp only [Filter.unmarked, hpath, hvalue]

theorem Alike.add (h : Alike fs gs) (s : Schema) (model path : String) :
    Agree Alike (fs.add s model path) (gs.add s model path) :=
  .bind_same fun f => .ok (h.append [f])

end Filters

/-- The two patches replace what a query asks for by the same.  They may differ in the rows, and
    in what they note against filters. -/
structure Patch.Alike (p p' : Patch) : Prop where
  model : p.model = p'.model
  columns : p.columns = p'.columns
  filters : p.filters.map (List.map Filter.unmarked) = p'.filters.map (List.map Filter.unmarked)
  limit : p.limit = p'.limit

/-- A patch of nothing but filters. -/
theorem Patch.Alike.ofFilters {fs gs : Filters} (h : Filters.Alike fs gs) :
    Patch.Alike { filters := some fs } { filters := some gs } where
  model := rfl
  columns := rfl
  filters := congrArg some h
  limit := rfl

/-- Alike patches keep queries alike. -/
theorem Query.Alike.merge {q r : Query} {p p' : Patch} (h : q.Alike r) (hp : p.Alike p') :
    (q.merge p).Alike (r.merge p') where
  model := by unfold Query.merge; rw [h.model, hp.model]
  columns := by unfold Query.merge; rw [h.columns, hp.columns]
  filters := by
    have hbare : ∀ (q : Query) (p : Patch), (q.merge p).filters.map Filter.unmarked =
        (p.filters.map (List.map Filter.unmarked)).getD (q.filters.map Filter.unmarked) :=
      fun _ _ => (Option.getD_map _ _ _).symm
    unfold Filters.Alike
    rw [hbare, hbare, hp.filters, h.filters]
  limit := by unfold Query.merge; rw [h.limit, hp.limit]

/-! ## Section 3: Runs side by side -/

namespace Composer

variable {c : Composer} {q r : Query}

/-- A command comes to alike patches on queries that ask for the same. -/
theorem patch_agree (h : q.Alike r) (command : Command) :
    Agree Patch.Alike (c.patch q command) (c.patch r command) := by
  unfold patch
  rw [h.model, h.columns]
  cases command with
  | setModel model => exact .bind_same fun _ => .ok ⟨rfl, rfl, rfl, rfl⟩
  | addField path => exact .bind_same fun _ => .ok ⟨rfl, rfl, rfl, rfl⟩
  | addFieldWithDefaultSort path =>
    exact .bind_same fun _ => .bind_same fun _ => .bind_same fun _ => .ok ⟨rfl, rfl, rfl, rfl⟩
  | removeField i => exact .bind_same fun _ => .ok ⟨rfl, rfl, rfl, rfl⟩
  | toggleSort i => exact .bind_same fun _ => .ok ⟨rfl, rfl, rfl, rfl⟩
  | addFilter path =>
    exact (h.filters.add c.schema r.model path).bind fun _ _ hfs => .ok (.ofFilters hfs)
  | removeFilter i => exact (h.filters.remove i).bind fun _ _ hfs => .ok (.ofFilters hfs)
  | setFilterValue i value =>
    exact (h.filters.setValue i value).bind fun _ _ hfs => .ok (.ofFilters hfs)
  | setFilterLookup i lookup =>
    refine (h.filters.setLookup i lookup).bind fun fs gs hfs => ?_
    -- the filter that is checked has the same path and lookup on both sides
    refine (hfs.get i).bind fun f g hfg => ?_
    injection hfg with hpath hlookup
    rw [hpath, hlookup]
    exact .bind_same fun _ => .ok (.ofFilters hfs)
  | applyDefaultFilters => exact .bind_same fun fs => .ok (.ofFilters (h.filters.append fs))
  | setFilterErrors messages => exact .ok (.ofFilters (h.filters.setMessages messages messages))
  | setData rows => exact .bind_same fun _ => .ok ⟨rfl, rfl, rfl, rfl⟩
  | setLimit raw => exact .bind_same fun _ => .ok ⟨rfl, rfl, rfl, rfl⟩

/-- A command comes to the same on queries that ask for the same. -/
theorem apply_agree (h : q.Alike r) (command : Command) :
    Agree Query.Alike (c.apply q command) (c.apply r command) :=
  (patch_agree h command).bind fun _ _ hp => .ok (h.merge hp)

/-- **Rows and messages are inert.**  Commands in turn on two queries that ask for the same come
    to the same: one error stops them on both, or they lead to queries that ask for the same
    again, with the same texts and the same links to download, to keep and to view them. -/
theorem run_blind_to_rows_and_messages (c : Composer) (q r : Query) (commands : List Command)
    (h : q.Alike r) :
    Agree (fun q' r' => q'.Alike r' ∧ q'.parts = r'.parts ∧
        (∀ origin s format, q'.downloadLink origin s format = r'.downloadLink origin s format) ∧
        (∀ origin s, q'.saveLink origin s = r'.saveLink origin s) ∧
        ∀ name, (View.ofQuery q' name).link = (View.ofQuery r' name).link)
      (c.run q commands) (c.run r commands) := by
  have hrun : Agree Query.Alike (c.run q commands) (c.run r commands) :=
    Agree.foldlM (fun _ _ command h => apply_agree h command) commands h
  refine hrun.imp fun q' r' h' => ⟨h', h'.parts_eq, ?_, ?_, ?_⟩
  · intro origin s format
    unfold Query.downloadLink
    rw [h'.parts_eq]
  · intro origin s
    unfold Query.saveLink
    rw [h'.parts_eq]
  · intro name
    unfold View.ofQuery
    rw [h'.parts_eq, h'.limit]

/-- People with nothing fetched and nothing judged. -/
def unjudged : Query :=
  { model := "person"
    columns := [{ path := "name" }, { path := "age" }]
    filters := [{ path := "age", lookup := "gte", value := "x" }]
    limit := 10 }

/-- The same people with a row, cut short, and with a message. -/
def judged : Query :=
  { unjudged with
    filters := [{ path := "age", lookup := "gte", value := "x", message := some "no number" }]
    rows := [[.string "Ann"]] }

/-- Two commands, one that takes cells away and one that carries a message on. -/
def narrowed : List Command := [.removeField 0, .setFilterValue 0 "18"]

theorem run_blind_to_rows_and_messages_judged : unjudged.Alike judged ∧
    ∃ q' r', (forSchema .staff 10).run unjudged narrowed = .ok q' ∧
      (forSchema .staff 10).run judged narrowed = .ok r' ∧
      q'.rows = [] ∧ r'.rows = [[]] ∧
      q'.filters.map (·.message) = [none] ∧ r'.filters.map (·.message) = [some "no number"] ∧
      (View.ofQuery q' "People").link = (View.ofQuery r' "People").link := by
  have halike : unjudged.Alike judged := ⟨rfl, rfl, rfl, rfl⟩
  have hagree := run_blind_to_rows_and_messages (forSchema .staff 10) unjudged judged narrowed halike
  refine ⟨halike, _, _, rfl, rfl, rfl, rfl, rfl, rfl, ?_⟩
  obtain ⟨-, -, -, -, hlink⟩ := Agree.ok_iff.mp hagree
  exact hlink "People"

end Composer

end QueryComposer
