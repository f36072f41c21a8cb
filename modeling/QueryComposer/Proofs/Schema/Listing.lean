import QueryComposer.Proofs.KeyMap
import QueryComposer.Proofs.Outcome
import QueryComposer.Proofs.Schema.Path
import QueryComposer.Schema.Listing
import QueryComposer.Schema.Resolve

/-! # What is listed and what is found

    Fields are listed by going down the relations to a bounded depth, and found
    by following the names of a path.  Relations may run in circles, so there is
    no tree that both could be compared with; the two meet in a relation of their
    own:

    * `Reaches s m names f` says that the names lead from a model to a field.
    * A path is found exactly when its names reach a field.
    * The entries of a listing are the fields that are reached by names that are
      not too many, each of them once.

    All this is about regular schemas, in which names can be told apart on a path
    and every field is shown. -/

namespace QueryComposer

open Outcome

/-! ## Section 1: Regular schemas -/

/-- What a model promises to those who list its fields and follow its paths: fields are kept
    in the order of their names, relations are fields that lead to the same model, every field
    is displayed once, and names do not run into the separators around them. -/
structure Model.Regular (m : Model) : Prop where
  ordered : m.fields.Ordered
  relations_are_fields : ∀ x ∈ m.relations,
    (m.fields.find? x.1).map (·.target) = some x.2.target
  shown_once : m.fieldOrder = [] ∨ ∀ name ∈ m.fields.names, m.fieldOrder.count name = 1
  no_separator : ∀ name ∈ m.fields.names, ¬ Path.HasSeparator name.toList
  no_trailing : ∀ x ∈ m.fields, x.2.isRelation = true → x.1.toList.getLast? ≠ some '_'

/-- All models are regular. -/
def Schema.Regular (s : Schema) : Prop := ∀ x ∈ s.models, x.2.Regular

instance (m : Model) : Decidable m.Regular :=
  decidable_of_iff (m.fields.Ordered ∧
      (∀ x ∈ m.relations, (m.fields.find? x.1).map (·.target) = some x.2.target) ∧
      (m.fieldOrder = [] ∨ ∀ name ∈ m.fields.names, m.fieldOrder.count name = 1) ∧
      (∀ name ∈ m.fields.names, ¬ Path.HasSeparator name.toList) ∧
      ∀ x ∈ m.fields, x.2.isRelation = true → x.1.toList.getLast? ≠ some '_')
    ⟨fun h => ⟨h.1, h.2.1, h.2.2.1, h.2.2.2.1, h.2.2.2.2⟩,
      fun h => ⟨h.ordered, h.relations_are_fields, h.shown_once, h.no_separator, h.no_trailing⟩⟩

instance (s : Schema) : Decidable s.Regular := inferInstanceAs (Decidable (∀ x ∈ s.models, _))

namespace Model.Regular

variable {m : Model} {name : String} {f : Field}

theorem mem_fieldNames (h : m.Regular) : name ∈ m.fieldNames ↔ m.fields.has name = true := by
  unfold fieldNames
  split
  next => exact KeyMap.mem_names
  next hshown =>
    rw [List.mem_filter]
    refine and_iff_right_of_imp fun hhas => ?_
    rcases h.shown_once with hnil | honce
    · exact absurd (List.isEmpty_iff.mpr hnil) hshown
    · have hcount := honce name (KeyMap.mem_names.mpr hhas)
      exact List.count_pos_iff.mp (by omega)

theorem nodup_fieldNames (h : m.Regular) : m.fieldNames.Nodup := by
  unfold fieldNames
  split
  next => exact h.ordered.nodup_names
  next hshown =>
    rcases h.shown_once with hnil | honce
    · exact absurd (List.isEmpty_iff.mpr hnil) hshown
    · rw [List.nodup_iff_count_le_one]
      intro name
      by_cases hhas : m.fields.has name = true
      · have hcount := honce name (KeyMap.mem_names.mpr hhas)
        rw [List.count_filter hhas]
        omega
      · have hnot : name ∉ m.fieldOrder.filter m.fields.has :=
          fun hmem => hhas (List.mem_filter.mp hmem).2
        rw [List.count_eq_zero_of_not_mem hnot]
        omega

/-- Relations go before fields, but both lead to the same model. -/
theorem target_relation? (h : m.Regular) :
    (m.relation? name).bind (·.target) = (m.fields.find? name).bind (·.target) := by
  unfold relation?
  cases hr : m.relations.find? name with
  | some r =>
    have hsame := h.relations_are_fields _ (KeyMap.mem_of_find? hr)
    obtain ⟨f, hf, htarget⟩ := Option.map_eq_some_iff.mp hsame
    rw [hf]
    exact htarget.symm
  | none =>
    cases hf : m.fields.find? name with
    | none => rfl
    | some f => cases ht : f.target <;> simp [Option.filter, Field.isRelation, ht]

theorem not_hasSeparator (h : m.Regular) (hf : m.fields.find? name = some f) :
    ¬ Path.HasSeparator name.toList :=
  h.no_separator name (KeyMap.mem_names.mpr (KeyMap.has_iff.mpr ⟨f, hf⟩))

/-- The name of a relation can be followed by others. -/
theorem extendable (h : m.Regular) (hf : m.fields.find? name = some f)
    (htarget : f.isRelation = true) : Path.Extendable name where
  no_separator := h.not_hasSeparator hf
  no_trailing := h.no_trailing _ (KeyMap.mem_of_find? hf) htarget

end Model.Regular

namespace Schema

variable {s : Schema} {m m' : Model} {f g : Field} {names trail pretty : List String}
variable {name root path model owner : String} {e : Entry} {hops : Nat}

theorem model_eq_ok : s.model model = .ok m ↔ s.models.find? model = some m := by
  unfold Schema.model
  cases s.models.find? model <;> simp

theorem targetOf?_eq_some : s.targetOf? f = some m ↔
    ∃ t, f.target = some t ∧ s.models.find? t = some m := Option.bind_eq_some_iff

theorem Regular.of_find? (hs : s.Regular) (h : s.models.find? model = some m) : m.Regular :=
  hs _ (KeyMap.mem_of_find? h)

theorem Regular.target (hs : s.Regular) (h : s.targetOf? f = some m) : m.Regular := by
  obtain ⟨t, -, hm⟩ := targetOf?_eq_some.mp h
  exact hs.of_find? hm

/-! ## Section 2: Reaching a field -/

/-- The names lead from a model to a field: each but the last to the model behind a field. -/
inductive Reaches (s : Schema) : Model → List String → Field → Prop where
  | last {m : Model} {name : String} {f : Field} : m.fields.find? name = some f →
      Reaches s m [name] f
  | hop {m m' : Model} {name : String} {names : List String} {f g : Field} :
      m.fields.find? name = some g → s.targetOf? g = some m' → Reaches s m' names f →
      Reaches s m (name :: names) f

namespace Reaches

theorem ne_nil (h : s.Reaches m names f) : names ≠ [] := by
  cases h with
  | last => exact List.cons_ne_nil _ _
  | hop => exact List.cons_ne_nil _ _

theorem cons_iff (hne : names ≠ []) : s.Reaches m (name :: names) f ↔
    ∃ g m', m.fields.find? name = some g ∧ s.targetOf? g = some m' ∧ s.Reaches m' names f := by
  constructor
  · intro h
    cases h with
    | last => exact absurd rfl hne
    | hop hg hm' hrest => exact ⟨_, _, hg, hm', hrest⟩
  · intro ⟨g, m', hg, hm', hrest⟩
    exact .hop hg hm' hrest

/-- The names that lead to a field are found again on their path. -/
theorem separable (hs : s.Regular) (hm : m.Regular) (h : s.Reaches m names f) :
    Path.Separable names := by
  induction h with
  | last hf => exact Path.separable_singleton (hm.not_hasSeparator hf)
  | hop hg hm' hrest ih =>
    obtain ⟨t, htarget, -⟩ := targetOf?_eq_some.mp hm'
    have hname := hm.extendable hg (by rw [Field.isRelation, htarget]; rfl)
    exact (Path.separable_cons hrest.ne_nil).mpr ⟨hname, ih (hs.target hm')⟩

end Reaches

/-! ## Section 3: Paths that are found -/

/-- A name is followed as a relation, to a model that has to exist. -/
theorem follow_eq_ok_iff {t : String} : s.follow root path m name = .ok (t, m') ↔
    (m.relation? name).bind (·.target) = some t ∧ s.model t = .ok m' := by
  unfold follow
  cases (m.relation? name).bind (·.target) with
  | none => simp
  | some t' =>
    simp only [bind_eq_ok, pure_eq_ok, Except.ok.injEq, Prod.mk.injEq, Option.some.injEq]
    constructor
    · intro ⟨m'', hm'', ht, heq⟩
      subst ht heq
      exact ⟨rfl, hm''⟩
    · intro ⟨ht, hm'⟩
      subst ht
      exact ⟨m', hm', rfl, rfl⟩

theorem follow_eq_ok (hm : m.Regular) {t : String} :
    s.follow root path m name = .ok (t, m') ↔
      ∃ g, m.fields.find? name = some g ∧ g.target = some t ∧ s.models.find? t = some m' := by
  rw [follow_eq_ok_iff, hm.target_relation?, Option.bind_eq_some_iff, model_eq_ok]
  constructor
  · intro ⟨⟨g, hg, ht⟩, hm'⟩
    exact ⟨g, hg, ht, hm'⟩
  · intro ⟨g, hg, ht, hm'⟩
    exact ⟨⟨g, hg, ht⟩, hm'⟩

/-- Names are followed to a field exactly when they reach it. -/
theorem resolveFrom_iff_reaches (hs : s.Regular) (hm : m.Regular) :
    (∃ r, s.resolveFrom root path (owner, m) names = .ok r ∧ r.field = f) ↔
      s.Reaches m names f := by
  induction names generalizing owner m with
  | nil =>
    constructor
    · intro ⟨r, hr, _⟩
      cases hr
    · intro h
      exact absurd rfl h.ne_nil
  | cons name names ih =>
    cases names with
    | nil =>
      unfold resolveFrom
      constructor
      · intro ⟨r, hr, hfield⟩
        split at hr
        next g hg =>
          cases hr
          exact .last (hfield ▸ hg)
        next => cases hr
      · intro h
        cases h with
        | last hf => exact ⟨⟨owner, f⟩, by rw [hf], rfl⟩
        | hop _ _ hrest => exact absurd rfl hrest.ne_nil
    | cons next names =>
      have hunfold : s.resolveFrom root path (owner, m) (name :: next :: names) =
          s.follow root path m name >>= fun n => s.resolveFrom root path n (next :: names) := rfl
      rw [hunfold, Reaches.cons_iff (List.cons_ne_nil _ _)]
      constructor
      · intro ⟨r, hr, hfield⟩
        obtain ⟨⟨t, m'⟩, hfollow, hr⟩ := bind_eq_ok.mp hr
        obtain ⟨g, hg, ht, hm'⟩ := (follow_eq_ok hm).mp hfollow
        exact ⟨g, m', hg, targetOf?_eq_some.mpr ⟨t, ht, hm'⟩, (ih (hs.of_find? hm')).mp ⟨r, hr, hfield⟩⟩
      · intro ⟨g, m', hg, htarget, hrest⟩
        obtain ⟨t, ht, hm'⟩ := targetOf?_eq_some.mp htarget
        obtain ⟨r, hr, hfield⟩ := (ih (hs.of_find? hm')).mpr hrest
        have hfollow : s.follow root path m name = .ok (t, m') :=
          (follow_eq_ok hm).mpr ⟨g, hg, ht, hm'⟩
        exact ⟨r, bind_eq_ok.mpr ⟨_, hfollow, hr⟩, hfield⟩

theorem resolve_iff_reaches (hs : s.Regular) (hm : s.model model = .ok m) :
    (∃ r, s.resolve model path = .ok r ∧ r.field = f) ↔ s.Reaches m (Path.split path) f := by
  have hunfold : s.resolve model path =
      s.resolveFrom model path (model, m) (Path.split path) := by
    rw [resolve, hm, ok_bind]
  rw [hunfold]
  exact resolveFrom_iff_reaches hs (hs.of_find? (model_eq_ok.mp hm))

/-! ## Section 4: Paths that are listed -/

/-- The entries behind a field, if it leads to a model and another relation may be taken. -/
def entriesBehind (s : Schema) (trail pretty : List String) (f : Field) : Nat → List Entry
  | 0 => []
  | hops + 1 =>
    match s.targetOf? f with
    | none => []
    | some m => s.entriesFrom trail pretty hops m

/-- The entries that a field brings into the listing: its own one and those behind it. -/
def entriesAt (s : Schema) (trail pretty : List String) (hops : Nat) (m : Model) (name : String) :
    List Entry :=
  match m.fields.find? name with
  | none => []
  | some f =>
    ⟨Path.join (trail ++ [name]), pretty ++ [f.prettyName], f, trail.length⟩ ::
      s.entriesBehind (trail ++ [name]) (pretty ++ [f.prettyName]) f hops

theorem entriesFrom_eq : s.entriesFrom trail pretty hops m =
    m.fieldNames.flatMap (s.entriesAt trail pretty hops m) := by
  rw [entriesFrom]
  refine congrArg (m.fieldNames.flatMap ·) (funext fun name => ?_)
  unfold entriesAt
  cases m.fields.find? name with
  | none => rfl
  | some f => cases hops <;> rfl

theorem mem_entriesBehind : e ∈ s.entriesBehind trail pretty f hops ↔
    ∃ n m, hops = n + 1 ∧ s.targetOf? f = some m ∧ e ∈ s.entriesFrom trail pretty n m := by
  cases hops with
  | zero => simp [entriesBehind]
  | succ n =>
    unfold entriesBehind
    cases s.targetOf? f <;> simp

theorem mem_entriesAt : e ∈ s.entriesAt trail pretty hops m name ↔
    ∃ f, m.fields.find? name = some f ∧
      (e = ⟨Path.join (trail ++ [name]), pretty ++ [f.prettyName], f, trail.length⟩ ∨
        e ∈ s.entriesBehind (trail ++ [name]) (pretty ++ [f.prettyName]) f hops) := by
  unfold entriesAt
  cases m.fields.find? name <;> simp

theorem mem_entriesFrom : e ∈ s.entriesFrom trail pretty hops m ↔
    ∃ name ∈ m.fieldNames, e ∈ s.entriesAt trail pretty hops m name := by
  rw [entriesFrom_eq, List.mem_flatMap]

/-- What an entry says, of a listing that goes on from the names in `trail`: names behind the
    trail that reach its field, and are not too many, make up its path. -/
structure Lists (s : Schema) (trail : List String) (hops : Nat) (m : Model) (e : Entry)
    (names : List String) : Prop where
  reaches : s.Reaches m names e.field
  length_le : names.length ≤ hops + 1
  path_eq : e.path = Path.join (trail ++ names)
  depth_eq : e.depth + 1 = trail.length + names.length

/-- The entries that a field brings were reached by names that begin with its own. -/
theorem exists_lists_of_mem_entriesAt (he : e ∈ s.entriesAt trail pretty hops m name) :
    ∃ rest, s.Lists trail hops m e (name :: rest) := by
  -- relations may run in circles, so the induction is on how many may still be taken
  induction hops using Nat.strongRecOn generalizing trail pretty m name with
  | ind hops ih =>
    obtain ⟨f, hf, heq | hbehind⟩ := mem_entriesAt.mp he
    · subst heq
      exact ⟨[], {
        reaches := .last hf
        length_le := Nat.le_add_left 1 hops
        path_eq := rfl
        depth_eq := rfl }⟩
    · obtain ⟨n, m', rfl, htarget, he⟩ := mem_entriesBehind.mp hbehind
      obtain ⟨next, -, he⟩ := mem_entriesFrom.mp he
      obtain ⟨rest, h⟩ := ih n (Nat.lt_succ_self n) he
      have hdepth := h.depth_eq
      rw [List.length_append, List.length_singleton] at hdepth
      exact ⟨next :: rest, {
        reaches := .hop hf htarget h.reaches
        length_le := Nat.succ_le_succ h.length_le
        path_eq := by rw [h.path_eq, List.append_assoc]; rfl
        depth_eq := by rw [List.length_cons]; omega }⟩

/-- **Listing is sound.**  Every entry was reached by names behind the trail. -/
theorem exists_lists_of_mem (he : e ∈ s.entriesFrom trail pretty hops m) :
    ∃ names, s.Lists trail hops m e names := by
  obtain ⟨name, -, he⟩ := mem_entriesFrom.mp he
  obtain ⟨rest, h⟩ := exists_lists_of_mem_entriesAt he
  exact ⟨name :: rest, h⟩

/-- **Listing is complete.**  Whatever is reached by names that are not too many is listed. -/
theorem exists_entry_of_reaches (hs : s.Regular) (hm : m.Regular) (h : s.Reaches m names f)
    (hlength : names.length ≤ hops + 1) : ∃ e ∈ s.entriesFrom trail pretty hops m,
      e.path = Path.join (trail ++ names) ∧ e.field = f := by
  induction h generalizing trail pretty hops with
  | @last m name f hf =>
    have hshown := hm.mem_fieldNames.mpr (KeyMap.has_iff.mpr ⟨_, hf⟩)
    have hlisted : ⟨Path.join (trail ++ [name]), pretty ++ [f.prettyName], f, trail.length⟩ ∈
        s.entriesFrom trail pretty hops m :=
      mem_entriesFrom.mpr ⟨name, hshown, mem_entriesAt.mpr ⟨f, hf, .inl rfl⟩⟩
    exact ⟨_, hlisted, rfl, rfl⟩
  | @hop m m' name names f g hg htarget hrest ih =>
    -- the path is not at its end, so one more relation may be taken
    have hshown := hm.mem_fieldNames.mpr (KeyMap.has_iff.mpr ⟨_, hg⟩)
    have hpos := List.length_pos_iff.mpr hrest.ne_nil
    rw [List.length_cons] at hlength
    obtain ⟨n, rfl⟩ : ∃ n, hops = n + 1 := ⟨hops - 1, by omega⟩
    have hbehind : ∃ e ∈ s.entriesFrom (trail ++ [name]) (pretty ++ [g.prettyName]) n m',
        e.path = Path.join (trail ++ [name] ++ names) ∧ e.field = f :=
      ih (hs.target htarget) (Nat.le_of_succ_le_succ hlength)
    obtain ⟨e, he, hpath, hfield⟩ := hbehind
    have hat : e ∈ s.entriesAt trail pretty (n + 1) m name :=
      mem_entriesAt.mpr ⟨g, hg, .inr (mem_entriesBehind.mpr ⟨n, m', rfl, htarget, he⟩)⟩
    have hlisted : e ∈ s.entriesFrom trail pretty (n + 1) m :=
      mem_entriesFrom.mpr ⟨name, hshown, hat⟩
    exact ⟨e, hlisted, by rw [hpath, List.append_assoc]; rfl, hfield⟩

/-! ## Section 5: No path is listed twice -/

/-- The path of an entry comes apart into the trail and the names behind it. -/
theorem split_path_of_lists (hs : s.Regular) (hm : m.Regular)
    (htrail : ∀ hop ∈ trail, Path.Extendable hop) (h : s.Lists trail hops m e names) :
    Path.split e.path = trail ++ names := by
  rw [h.path_eq]
  exact Path.split_join (Path.separable_append htrail (h.reaches.separable hs hm))

theorem extendable_trail (hm : m.Regular) (htrail : ∀ hop ∈ trail, Path.Extendable hop)
    (hf : m.fields.find? name = some f) (htarget : s.targetOf? f = some m') :
    ∀ hop ∈ trail ++ [name], Path.Extendable hop := by
  obtain ⟨t, ht, -⟩ := targetOf?_eq_some.mp htarget
  have hname := hm.extendable hf (by rw [Field.isRelation, ht]; rfl)
  intro hop hhop
  rcases List.mem_append.mp hhop with hhop | hhop
  · exact htrail hop hhop
  · rwa [List.mem_singleton.mp hhop]

theorem pairwise_path_ne (hs : s.Regular) (hm : m.Regular)
    (htrail : ∀ hop ∈ trail, Path.Extendable hop) :
    (s.entriesFrom trail pretty hops m).Pairwise fun a b => a.path ≠ b.path := by
  induction hops using Nat.strongRecOn generalizing trail pretty m with
  | ind hops ih =>
    rw [entriesFrom_eq, List.pairwise_flatMap]
    constructor
    · -- within what one field brings, its own path is shorter than those behind it
      intro name _
      unfold entriesAt
      split
      next => exact .nil
      next f hf =>
        rw [List.pairwise_cons]
        constructor
        · intro b hb heq
          obtain ⟨n, m', rfl, htarget, hb⟩ := mem_entriesBehind.mp hb
          obtain ⟨names, hlists⟩ := exists_lists_of_mem hb
          have htrail' := extendable_trail hm htrail hf htarget
          have hsplit := split_path_of_lists hs (hs.target htarget) htrail' hlists
          have hown : Path.split (Path.join (trail ++ [name])) = trail ++ [name] :=
            Path.split_join (Path.separable_append htrail
              (Path.separable_singleton (hm.not_hasSeparator hf)))
          rw [← heq, hown] at hsplit
          exact hlists.reaches.ne_nil (List.self_eq_append_right.mp hsplit)
        · cases hops with
          | zero => exact .nil
          | succ n =>
            simp only [entriesBehind]
            split
            next => exact .nil
            next m' htarget =>
              exact ih n (Nat.lt_succ_self n) (hs.target htarget)
                (extendable_trail hm htrail hf htarget)
    · -- and paths that two fields bring part at the names of these fields
      refine List.Pairwise.imp ?_ hm.nodup_fieldNames
      intro name name' hne a ha b hb heq
      obtain ⟨rest, hlists⟩ := exists_lists_of_mem_entriesAt ha
      obtain ⟨rest', hlists'⟩ := exists_lists_of_mem_entriesAt hb
      have hsplit := split_path_of_lists hs hm htrail hlists
      rw [heq, split_path_of_lists hs hm htrail hlists'] at hsplit
      have hnames := List.append_cancel_left hsplit
      exact hne (List.cons.inj hnames).1.symm

/-! ## Section 6: Both sides together -/

/-- **Listing and finding describe the same paths.**  Whatever the relations of a regular
    schema are, a path is listed exactly when it is found and has not too many names.  It is
    then listed once, with the field that is found and its number of relations. -/
theorem walk_lists_resolvable (s : Schema) (hs : s.Regular) (model : String) (m : Model)
    (hm : s.model model = .ok m) (depth : Nat) : ∃ entries, s.walk model depth = .ok entries ∧
      ∀ p, ((∃ e ∈ entries, e.path = p) ↔
          (∃ r, s.resolve model p = .ok r) ∧ (Path.split p).length ≤ depth + 1) ∧
        ∀ e ∈ entries, e.path = p → (entries.map (·.path)).count p = 1 ∧
          (∃ r, s.resolve model p = .ok r ∧ r.field = e.field) ∧
          (Path.split p).length = e.depth + 1 := by
  have hregular : m.Regular := hs.of_find? (model_eq_ok.mp hm)
  have hwalk : s.walk model depth = .ok (s.entriesFrom [] [] depth m) := by
    rw [walk, hm]
    rfl
  have htrail : ∀ hop ∈ ([] : List String), Path.Extendable hop :=
    fun _ hhop => absurd hhop List.not_mem_nil
  have hnodup : ((s.entriesFrom [] [] depth m).map (·.path)).Nodup :=
    List.pairwise_map.mpr (pairwise_path_ne hs hregular htrail)
  -- an entry is found, by as many names as it says
  have hfound : ∀ e ∈ s.entriesFrom [] [] depth m,
      (∃ r, s.resolve model e.path = .ok r ∧ r.field = e.field) ∧
        (Path.split e.path).length = e.depth + 1 ∧ (Path.split e.path).length ≤ depth + 1 := by
    intro e he
    obtain ⟨names, hlists⟩ := exists_lists_of_mem he
    have hsplit : Path.split e.path = names := split_path_of_lists hs hregular htrail hlists
    have hdepth := hlists.depth_eq
    rw [List.length_nil, Nat.zero_add] at hdepth
    rw [resolve_iff_reaches hs hm, hsplit]
    exact ⟨hlists.reaches, hdepth.symm, hlists.length_le⟩
  refine ⟨_, hwalk, fun p => ⟨⟨?_, ?_⟩, ?_⟩⟩
  · intro ⟨e, he, hpath⟩
    subst hpath
    obtain ⟨⟨r, hr, -⟩, -, hlength⟩ := hfound e he
    exact ⟨⟨r, hr⟩, hlength⟩
  · intro ⟨⟨r, hr⟩, hlength⟩
    have hreaches : s.Reaches m (Path.split p) r.field := (resolve_iff_reaches hs hm).mp ⟨r, hr, rfl⟩
    obtain ⟨e, he, hpath, -⟩ := exists_entry_of_reaches hs hregular hreaches hlength
    exact ⟨e, he, hpath.trans (Path.join_split p)⟩
  · intro e he hpath
    subst hpath
    obtain ⟨hresolve, hlength, -⟩ := hfound e he
    exact ⟨List.count_eq_one_of_mem hnodup (List.mem_map_of_mem he), hresolve, hlength⟩

/-- People and the towns that they live in, which have people for mayors. -/
def towns : Schema :=
  { models := [
      ("person",
        { fields := [("home", .relation "Home" "town"), ("n_", .stored "Name" "text")]
          relations := [("home", .relation "Home" "town")]
          fieldOrder := ["n_", "phone", "home"] }),
      ("town",
        { fields := [("_name", .stored "Name" "text"), ("mayor", .relation "Mayor" "person")] })]
    types := [] }

/-- Relations run in a circle here, and names begin and end with underscores. -/
theorem walk_lists_resolvable_of_towns : towns.Regular ∧ towns.hasModel "person" = true ∧
    ∃ entries, towns.walk "person" 2 = .ok entries ∧
      (∃ e ∈ entries, e.path = "home__mayor__n_") ∧ (∃ e ∈ entries, e.path = "home___name") ∧
      ¬ ∃ e ∈ entries, e.path = "home__mayor__home___name" := by
  have hregular : towns.Regular := by decide +kernel
  obtain ⟨m, hm⟩ : ∃ m, towns.model "person" = .ok m := ⟨_, rfl⟩
  obtain ⟨entries, hwalk, hlisted⟩ := walk_lists_resolvable towns hregular "person" m hm 2
  refine ⟨hregular, rfl, entries, hwalk, ?_, ?_, ?_⟩
  · exact (hlisted "home__mayor__n_").1.mpr ⟨⟨_, rfl⟩, by decide⟩
  · exact (hlisted "home___name").1.mpr ⟨⟨_, rfl⟩, by decide⟩
  · intro h
    have hlength := ((hlisted "home__mayor__home___name").1.mp h).2
    exact absurd hlength (by decide)

end Schema

end QueryComposer
