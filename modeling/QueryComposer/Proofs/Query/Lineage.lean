import QueryComposer.Proofs.Query.WellFormed

/-! # Filters keep their identity

    Commands name filters by position, and a position means another filter once
    one in front of it has been removed.  So what becomes of a filter is followed
    from command to command: `Command.filterPlaceAfter?` says where the filter that
    stood at a position stands by now, and `Command.Targeted` whether a command
    has named it there to give it another value or lookup.

    * `Lineage` lists the old filters that are left, each with the position at
      which it stood, and behind them the filters that were appended.
    * `Lineage.Describes` says that a lineage leads from one query to another.
    * Every step turns a lineage into the next one, and so does a run. -/

namespace QueryComposer

open Outcome

/-! ## Section 1: Following a filter -/

namespace Command

/-- Where the filter at a position stands after a command, if it is still there. -/
def filterPlace? : Command → Nat → Option Nat
  | setModel _, _ => none
  | removeFilter i, k => if k = i then none else some (Columns.lowered i k)
  | _, k => some k

/-- Where the filter at a position stands after some commands, if it is still there. -/
def filterPlaceAfter? (commands : List Command) (k : Nat) : Option Nat :=
  commands.foldlM (fun place command => command.filterPlace? place) k

/-- The position of the filter to which a command gives another value or lookup. -/
def target? : Command → Option Nat
  | setFilterValue i _ | setFilterLookup i _ => some i
  | _ => none

/-- One of the commands gives another value or lookup to the filter that stood at position `k`
    before all of them. -/
def Targeted (commands : List Command) (k : Nat) : Prop :=
  ∃ before command after place, commands = before ++ command :: after ∧
    filterPlaceAfter? before k = some place ∧ command.target? = some place

/-- The paths of the filters that a command appends to those of a query on a model. -/
def appendedFilterPaths (s : Schema) (model : String) : Command → List String
  | addFilter path => [path]
  | applyDefaultFilters =>
    match Filters.defaults s model with
    | .ok fs => fs.map (·.path)
    | .error _ => []
  | _ => []

/-- The command neither takes another model nor notes messages. -/
def KeepsFilters (command : Command) : Prop :=
  (∀ model, command ≠ .setModel model) ∧ ∀ messages, command ≠ .setFilterErrors messages

variable {done : List Command} {command : Command} {k place : Nat}

theorem filterPlaceAfter?_append (done : List Command) (command : Command) (k : Nat) :
    filterPlaceAfter? (done ++ [command]) k =
      (filterPlaceAfter? done k).bind command.filterPlace? := by
  unfold filterPlaceAfter?
  rw [List.foldlM_append]
  simp only [List.foldlM_cons, List.foldlM_nil, bind_pure]
  rfl

/-- A command that moves no filter leaves each at its place. -/
theorem filterPlaceAfter?_append_of_still (hstill : command.filterPlace? = some)
    (done : List Command) (k : Nat) :
    filterPlaceAfter? (done ++ [command]) k = filterPlaceAfter? done k := by
  rw [filterPlaceAfter?_append, hstill]
  cases filterPlaceAfter? done k <;> rfl

theorem Targeted.append (h : Targeted done k) (command : Command) :
    Targeted (done ++ [command]) k := by
  obtain ⟨before, command', after, place, rfl, hplace, htarget⟩ := h
  exact ⟨before, command', after ++ [command], place, by simp, hplace, htarget⟩

theorem targeted_append_self (hplace : filterPlaceAfter? done k = some place)
    (htarget : command.target? = some place) : Targeted (done ++ [command]) k :=
  ⟨done, command, [], place, rfl, hplace, htarget⟩

end Command

open Command

/-! ## Section 2: Lineages -/

/-- What has become of the filters of a query. -/
structure Lineage where
  /-- The old filters that are left, each with the position at which it stood. -/
  left : List (Nat × Filter)
  /-- The filters that were appended. -/
  appended : Filters

namespace Lineage

/-- The positions at which the filters left stood. -/
def kept (l : Lineage) : List Nat := l.left.map (·.1)

/-- The filters by now. -/
def filters (l : Lineage) : Filters := l.left.map (·.2) ++ l.appended

/-- The lineage without the filter at a position. -/
def remove (l : Lineage) (i : Nat) : Lineage where
  left := l.left.eraseIdx i
  appended := if i < l.left.length then l.appended else l.appended.eraseIdx (i - l.left.length)

/-- The lineage with another filter in place of the one at a position. -/
def set (l : Lineage) (i : Nat) (f : Filter) : Lineage where
  left := l.left.modify i fun old => (old.1, f)
  appended := if i < l.left.length then l.appended else l.appended.set (i - l.left.length) f

variable {l : Lineage} {i : Nat} {f : Filter}

theorem getElem?_filters : l.filters[i]? =
    if i < l.left.length then l.left[i]?.map (·.2) else l.appended[i - l.left.length]? := by
  unfold filters
  rw [List.getElem?_append, List.length_map, List.getElem?_map]

theorem filters_remove : (l.remove i).filters = l.filters.eraseIdx i := by
  unfold filters remove
  rw [List.eraseIdx_append, List.length_map]
  split
  next => rw [List.eraseIdx_map]
  next hi => rw [List.eraseIdx_of_length_le (Nat.le_of_not_lt hi)]

theorem kept_remove : (l.remove i).kept = l.kept.eraseIdx i := by
  unfold kept remove
  rw [List.eraseIdx_map]

theorem appended_remove_sublist : (l.remove i).appended.Sublist l.appended := by
  unfold remove
  split
  next => exact List.Sublist.refl _
  next => exact List.eraseIdx_sublist _ _

theorem filters_set : (l.set i f).filters = l.filters.set i f := by
  unfold filters set
  rw [List.set_append, List.length_map]
  split
  next hi =>
    have hleft : (l.left.modify i fun old => (old.1, f)).map (·.2) = (l.left.map (·.2)).set i f := by
      refine List.ext_getElem? fun j => ?_
      rw [List.getElem?_map, List.getElem?_modify, List.getElem?_set, List.length_map]
      by_cases hj : i = j
      · subst hj
        simp [hi]
      · simp [hj]
    rw [hleft]
  next hi => rw [List.modify_eq_self (Nat.le_of_not_lt hi)]

theorem kept_set : (l.set i f).kept = l.kept := by
  unfold kept set
  refine List.ext_getElem? fun j => ?_
  rw [List.getElem?_map, List.getElem?_map, List.getElem?_modify]
  cases l.left[j]? with
  | none => rfl
  | some old => by_cases hj : i = j <;> simp [hj]

/-- What both filters have in common, the appended filters keep. -/
theorem map_appended_set {α : Type} {old : Filter} (hold : l.filters[i]? = some old)
    (part : Filter → α) (hpart : part f = part old) :
    (l.set i f).appended.map part = l.appended.map part := by
  unfold set
  split
  next => rfl
  next hi =>
    rw [getElem?_filters, if_neg hi] at hold
    obtain ⟨hlt, hget⟩ := List.getElem?_eq_some_iff.mp hold
    have hlt' : i - l.left.length < (l.appended.map part).length := by rwa [List.length_map]
    have hself : part f = (l.appended.map part)[i - l.left.length] := by
      rw [List.getElem_map, hget, hpart]
    rw [List.map_set, hself, List.set_getElem_self]

/-- The filter is what has become of the one that stood at position `k` among `fs`: it has the
    same path and the same message, and unless a command has named it, it is the same. -/
def Inherits (done : List Command) (fs : Filters) (k : Nat) (f : Filter) : Prop :=
  ∃ old, fs[k]? = some old ∧ f.path = old.path ∧ f.message = old.message ∧
    (¬ Targeted done k → f = old)

/-- The lineage leads from the filters of `q` to those of `q'` by the commands `done`: the
    filters left stand in their old order, each at the place to which it can be followed, and
    each as it was but for what commands did to it; those behind them bear no message and were
    appended, in this order, by some of the commands. -/
structure Describes (l : Lineage) (s : Schema) (done : List Command) (q q' : Query) : Prop where
  model : q'.model = q.model
  filters : q'.filters = l.filters
  increasing : l.kept.Pairwise (· < ·)
  followed : ∀ k j, l.kept[j]? = some k ↔
    k < q.filters.length ∧ filterPlaceAfter? done k = some j
  inherited : ∀ old ∈ l.left, Inherits done q.filters old.1 old.2
  unmarked : ∀ f ∈ l.appended, f.message = none
  paths : (l.appended.map (·.path)).Sublist (done.flatMap (appendedFilterPaths s q.model))

/-- Every filter is left, and none was appended. -/
def whole (fs : Filters) : Lineage where
  left := fs.zipIdx.map Prod.swap
  appended := []

theorem kept_whole (fs : Filters) : (whole fs).kept = List.range fs.length := by
  have hsnd : (whole fs).kept = fs.zipIdx.map (·.2) := by
    simp [kept, whole, Function.comp_def]
  rw [hsnd, List.zipIdx_map_snd, List.range_eq_range']

namespace Describes

variable {s : Schema} {done : List Command} {command : Command} {q q₁ q₂ : Query} {old : Filter}

/-- Nothing has become of the filters to begin with. -/
theorem whole (s : Schema) (q : Query) : (whole q.filters).Describes s [] q q where
  model := rfl
  filters := by
    have hfst : (Lineage.whole q.filters).filters = q.filters.zipIdx.map (·.1) := by
      simp [Lineage.filters, Lineage.whole, Function.comp_def]
    rw [hfst, List.zipIdx_map_fst]
  increasing := by
    rw [kept_whole]
    exact List.pairwise_lt_range
  followed k j := by
    have hnow : filterPlaceAfter? [] k = some k := rfl
    rw [kept_whole, List.getElem?_eq_some_iff, hnow]
    constructor
    · intro ⟨hlt, heq⟩
      rw [List.length_range] at hlt
      rw [List.getElem_range] at heq
      subst heq
      exact ⟨hlt, rfl⟩
    · intro ⟨hlt, heq⟩
      cases heq
      exact ⟨List.length_range.symm ▸ hlt, List.getElem_range _⟩
  inherited := by
    intro old hold
    obtain ⟨⟨f, k⟩, hmem, rfl⟩ := List.mem_map.mp hold
    exact ⟨f, List.mem_zipIdx_iff_getElem?.mp hmem, rfl, rfl, fun _ => rfl⟩
  unmarked := nofun
  paths := List.Sublist.refl _

theorem inherits_append {fs : Filters} {k : Nat} (h : Inherits done fs k f) (command : Command) :
    Inherits (done ++ [command]) fs k f := by
  obtain ⟨old, hold, hpath, hmessage, hsame⟩ := h
  exact ⟨old, hold, hpath, hmessage, fun hnot => hsame fun htargeted =>
    hnot (htargeted.append command)⟩

/-- A filter that a command names keeps its path and its message. -/
theorem inherits_named {fs : Filters} {k : Nat} (h : Inherits done fs k old)
    (hplace : filterPlaceAfter? done k = some i) (htarget : command.target? = some i)
    (hpath : f.path = old.path) (hmessage : f.message = old.message) :
    Inherits (done ++ [command]) fs k f := by
  obtain ⟨first, hfirst, hpath₀, hmessage₀, -⟩ := h
  exact ⟨first, hfirst, hpath.trans hpath₀, hmessage.trans hmessage₀,
    fun hnot => absurd (targeted_append_self hplace htarget) hnot⟩

/-- A command that moves no filter and names none may append some. -/
theorem append (h : l.Describes s done q q₁) {fs : Filters} (hstill : command.filterPlace? = some)
    (hmodel : q₂.model = q₁.model) (hfilters : q₂.filters = q₁.filters ++ fs)
    (hunmarked : ∀ f ∈ fs, f.message = none)
    (hpaths : fs.map (·.path) = command.appendedFilterPaths s q.model) :
    { l with appended := l.appended ++ fs }.Describes s (done ++ [command]) q q₂ where
  model := hmodel.trans h.model
  filters := by
    rw [hfilters, h.filters]
    exact List.append_assoc _ _ _
  increasing := h.increasing
  followed k j := by
    rw [filterPlaceAfter?_append_of_still hstill]
    exact h.followed k j
  inherited old hold := inherits_append (h.inherited old hold) command
  unmarked f hf := (List.mem_append.mp hf).elim (h.unmarked f) (hunmarked f)
  paths := by
    rw [List.map_append, List.flatMap_append, hpaths, List.flatMap_singleton]
    exact h.paths.append_right _

/-- A filter is removed, and those behind it move down. -/
theorem remove (h : l.Describes s done q q₁) (i : Nat) :
    (l.remove i).Describes s (done ++ [.removeFilter i]) q
      { q₁ with filters := q₁.filters.eraseIdx i } where
  model := h.model
  filters := by rw [filters_remove, h.filters]
  increasing := by
    rw [kept_remove]
    exact h.increasing.sublist (List.eraseIdx_sublist _ _)
  followed k j := by
    rw [kept_remove, Columns.getElem?_eraseIdx_eq, h.followed, filterPlaceAfter?_append]
    refine and_congr_right fun _ => ?_
    cases filterPlaceAfter? done k with
    | none => simp
    | some place =>
      have hbind : (some place).bind (Command.removeFilter i).filterPlace? =
          if place = i then none else some (Columns.lowered i place) := rfl
      rw [hbind]
      by_cases hi : place = i
      · simp [hi, Ne.symm (Columns.raised_ne i j)]
      · simp [hi, Columns.lowered_eq_iff hi]
  inherited old hold :=
    inherits_append (h.inherited old (List.mem_of_mem_eraseIdx hold)) _
  unmarked f hf := h.unmarked f (appended_remove_sublist.subset hf)
  paths := by
    rw [List.flatMap_append]
    exact (appended_remove_sublist.map _).trans (h.paths.trans (List.sublist_append_left _ _))

/-- A filter that is left stands at its place in the query, and has been followed to it. -/
theorem followed_of_left (h : l.Describes s done q q₁) {e : Nat × Filter}
    (he : l.left[i]? = some e) :
    q₁.filters[i]? = some e.2 ∧ filterPlaceAfter? done e.1 = some i := by
  have hlt : i < l.left.length := (List.getElem?_eq_some_iff.mp he).1
  have hkept : l.kept[i]? = some e.1 := by simp [kept, he]
  refine ⟨?_, ((h.followed _ _).mp hkept).2⟩
  rw [h.filters, getElem?_filters, if_pos hlt, he]
  rfl

/-- A command gives another value or lookup to the filter at a position. -/
theorem set (h : l.Describes s done q q₁) (hstill : command.filterPlace? = some)
    (htarget : command.target? = some i) (hold : q₁.filters[i]? = some old)
    (hpath : f.path = old.path) (hmessage : f.message = old.message)
    (happended : command.appendedFilterPaths s q.model = []) :
    (l.set i f).Describes s (done ++ [command]) q { q₁ with filters := q₁.filters.set i f } where
  model := h.model
  filters := by rw [filters_set, h.filters]
  increasing := by
    rw [kept_set]
    exact h.increasing
  followed k j := by
    rw [kept_set, filterPlaceAfter?_append_of_still hstill]
    exact h.followed k j
  inherited e he := by
    obtain ⟨j, hj⟩ := List.mem_iff_getElem?.mp he
    rw [Lineage.set, List.getElem?_modify] at hj
    obtain ⟨e₀, he₀, heq⟩ := Option.map_eq_some_iff.mp hj
    have hinherits := h.inherited e₀ (List.mem_of_getElem? he₀)
    by_cases hij : i = j
    · -- the filter named is the one at this place, and it has been followed to it
      rw [if_pos hij] at heq
      subst hij heq
      obtain ⟨hhere, hplace⟩ := h.followed_of_left he₀
      cases hhere.symm.trans hold
      exact inherits_named hinherits hplace htarget hpath hmessage
    · rw [if_neg hij] at heq
      subst heq
      exact inherits_append hinherits command
  unmarked g hg := by
    rw [h.filters] at hold
    have hmem : g.message ∈ (l.set i f).appended.map (·.message) := List.mem_map_of_mem hg
    rw [map_appended_set hold _ hmessage] at hmem
    obtain ⟨g₀, hg₀, heq⟩ := List.mem_map.mp hmem
    exact heq.symm.trans (h.unmarked g₀ hg₀)
  paths := by
    rw [h.filters] at hold
    rw [map_appended_set hold _ hpath, List.flatMap_append, List.flatMap_singleton, happended,
      List.append_nil]
    exact h.paths

end Describes

end Lineage

/-! ## Section 3: What steps and runs do to a lineage -/

/-- A filter that a path starts with compares the field at its end, and bears no message. -/
theorem Schema.path_of_newFilter {s : Schema} {model path : String} {f : Filter}
    (h : s.newFilter model path = .ok f) : f.path = path ∧ f.message = none := by
  obtain ⟨t, name, l, -, -, -, rfl⟩ := newFilter_eq_ok.mp h
  exact ⟨rfl, rfl⟩

namespace Composer

variable {c : Composer} {q q₁ q₂ q' : Query} {l : Lineage} {command : Command}
variable {done commands : List Command}

/-- A step turns a lineage into the next one. -/
theorem Step.exists_lineage (h : c.Step q₁ command q₂) (hkeeps : command.KeepsFilters)
    (hl : l.Describes c.schema done q q₁) :
    ∃ l' : Lineage, l'.Describes c.schema (done ++ [command]) q q₂ := by
  cases h with
  | setModel _ => exact absurd rfl (hkeeps.1 _)
  | setFilterErrors => exact absurd rfl (hkeeps.2 _)
  | addFilter hf =>
    obtain ⟨hpath, hmessage⟩ := Schema.path_of_newFilter hf
    refine ⟨_, hl.append rfl rfl rfl ?_ ?_⟩
    · exact List.forall_mem_singleton.mpr hmessage
    · rw [List.map_singleton, hpath]
      rfl
  | applyDefaultFilters hfs =>
    refine ⟨_, hl.append rfl rfl rfl ?_ ?_⟩
    · obtain ⟨parsed, hsound, rfl⟩ := Filters.sound_of_defaults hfs
      exact hsound.unmarked
    · rw [hl.model] at hfs
      rw [appendedFilterPaths, hfs]
  | removeFilter _ => exact ⟨_, hl.remove _⟩
  | setFilterValue hf => exact ⟨_, hl.set rfl rfl hf rfl rfl rfl⟩
  | setFilterLookup hf _ => exact ⟨_, hl.set rfl rfl hf rfl rfl rfl⟩
  -- the other commands have no part in the filters
  | _ => exact ⟨_, hl.append rfl rfl (List.append_nil _).symm nofun rfl⟩

theorem exists_lineage_of_run (hkeeps : ∀ command ∈ commands, command.KeepsFilters)
    (h : c.run q₁ commands = .ok q') (hl : l.Describes c.schema done q q₁) :
    ∃ l' : Lineage, l'.Describes c.schema (done ++ commands) q q' := by
  induction commands generalizing q₁ l done with
  | nil =>
    cases h
    rw [List.append_nil]
    exact ⟨l, hl⟩
  | cons command commands ih =>
    rw [List.forall_mem_cons] at hkeeps
    obtain ⟨q₂, hstep, hrun⟩ := run_cons.mp h
    obtain ⟨l₂, hl₂⟩ := hstep.exists_lineage hkeeps.1 hl
    obtain ⟨l', hl'⟩ := ih hkeeps.2 hrun hl₂
    rw [List.append_assoc] at hl'
    exact ⟨l', hl'⟩

/-- **Filters keep their identity.**  Whatever a run does that takes no other model and notes
    no messages, a lineage tells what it did to the filters: some of the old ones are left, in
    their order and each where its position leads through the run; each has its path and its
    message still, and is the same in full unless a command of the run has named it.  Behind
    them stand filters without messages, which the run has appended. -/
theorem exists_lineage_of_run_whole (c : Composer) (q q' : Query) (commands : List Command)
    (hkeeps : ∀ command ∈ commands, command.KeepsFilters) (h : c.run q commands = .ok q') :
    ∃ l : Lineage, l.Describes c.schema commands q q' :=
  exists_lineage_of_run hkeeps h (.whole c.schema q)

/-- Three filters, two of which were found to be wrong. -/
def threeFilters : Query :=
  { model := "person"
    columns := []
    filters := [{ path := "name", lookup := "contains", value := "Ann" },
      { path := "age", lookup := "gte", value := "x", message := some "no number" },
      { path := "age", lookup := "gte", value := "y", message := some "no number either" }]
    limit := 10 }

/-- The second filter is named after the first one is gone, and some others come and go. -/
def mended : List Command :=
  [.addFilter "name", .removeFilter 0, .setFilterValue 0 "18", .applyDefaultFilters,
    .setFilterValue 2 "Bob", .removeFilter 3]

theorem exists_lineage_of_run_whole_mended :
    (∀ command ∈ mended, command.KeepsFilters) ∧
      ∃ q' l, (forSchema .staff 10).run threeFilters mended = .ok q' ∧
        q'.filters = [{ path := "age", lookup := "gte", value := "18", message := some "no number" },
          { path := "age", lookup := "gte", value := "y", message := some "no number either" },
          { path := "name", lookup := "contains", value := "Bob" }] ∧
        Lineage.Describes l Schema.staff mended threeFilters q' ∧ l.kept = [1, 2] := by
  have hkeeps : ∀ command ∈ mended, command.KeepsFilters := by
    simp [mended, Command.KeepsFilters]
  obtain ⟨q', hrun, hfilters⟩ : ∃ q', (forSchema .staff 10).run threeFilters mended = .ok q' ∧
      q'.filters = [{ path := "age", lookup := "gte", value := "18", message := some "no number" },
        { path := "age", lookup := "gte", value := "y", message := some "no number either" },
        { path := "name", lookup := "contains", value := "Bob" }] := ⟨_, rfl, rfl⟩
  obtain ⟨l, hl⟩ := exists_lineage_of_run_whole _ _ _ _ hkeeps hrun
  have hkept : l.kept = [1, 2] := by
    refine List.ext_getElem? fun j => ?_
    match j with
    | 0 => exact (hl.followed 1 0).mpr ⟨by decide, rfl⟩
    | 1 => exact (hl.followed 2 1).mpr ⟨by decide, rfl⟩
    | j + 2 =>
      refine Option.eq_none_iff_forall_ne_some.mpr fun k hk => ?_
      obtain ⟨hlt, hplace⟩ := (hl.followed k (j + 2)).mp hk
      match k, hlt with
      | 0, _ | 1, _ | 2, _ => cases hplace
  exact ⟨hkeeps, q', l, hrun, hfilters, hl, hkept⟩

end Composer

end QueryComposer
