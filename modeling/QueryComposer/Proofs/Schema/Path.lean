import QueryComposer.Schema.Path

/-! # Names on a path

    Two underscores separate the names on a path, and nothing protects the
    underscores that a name has of its own.  A path is split from the left, the
    name of a filter at the last separator, so a run of three underscores is cut
    in two ways.

    * `HasSeparator` says that a text would be cut somewhere.
    * `Separable` says that names can be told apart after they were joined.
    * `split_eq_iff`: a path is the joined text of one list of separable names,
      and it is split into them.  So what was split is always joined again, and
      names that were joined are found again just if they are separable. -/

namespace QueryComposer.Path

variable {cs before after : List Char}

/-! ## Section 1: The last separator -/

/-- Somewhere in the text two underscores stand side by side. -/
def HasSeparator (cs : List Char) : Prop := pathSeparator.toList <:+: cs

instance : Decidable (HasSeparator cs) := inferInstanceAs (Decidable (_ <:+: _))

theorem toList_pathSeparator : pathSeparator.toList = ['_', '_'] := by decide

theorem hasSeparator_cons {c : Char} :
    HasSeparator (c :: cs) ↔ (c = '_' ∧ cs.head? = some '_') ∨ HasSeparator cs := by
  unfold HasSeparator
  rw [toList_pathSeparator, List.infix_cons_iff, List.cons_prefix_cons,
    List.singleton_prefix_iff_head?_eq_some, eq_comm (a := '_')]

theorem lastParts?_cons_of_some {c : Char} (h : lastParts? cs = some (before, after)) :
    lastParts? (c :: cs) = some (c :: before, after) := by
  unfold lastParts?
  rw [h]

theorem lastParts?_cons_of_none {c : Char} (h : lastParts? cs = none) : lastParts? (c :: cs) =
    if c = '_' ∧ cs.head? = some '_' then some ([], cs.tail) else none := by
  unfold lastParts?
  simp only [h]
  split
  next => rfl
  next hno =>
    refine (if_neg ?_).symm
    intro ⟨hc, hhead⟩
    obtain ⟨after, rfl⟩ := List.head?_eq_some_iff.mp hhead
    exact hno after hc rfl

theorem lastParts?_eq_none : lastParts? cs = none ↔ ¬ HasSeparator cs := by
  induction cs with
  | nil => simp [lastParts?, HasSeparator, pathSeparator]
  | cons c cs ih =>
    rw [hasSeparator_cons, not_or, ← ih]
    cases hcut : lastParts? cs with
    | none => rw [lastParts?_cons_of_none hcut]; simp
    | some cut => rw [lastParts?_cons_of_some hcut]; simp

/-- A separator is the last one when the text behind its first underscore has none. -/
theorem lastParts?_append (h : ¬ HasSeparator ('_' :: after)) :
    lastParts? (before ++ '_' :: '_' :: after) = some (before, after) := by
  induction before with
  | nil => exact lastParts?_cons_of_none (lastParts?_eq_none.mpr h)
  | cons c before ih => exact lastParts?_cons_of_some ih

theorem lastParts?_eq_some : lastParts? cs = some (before, after) ↔
    cs = before ++ '_' :: '_' :: after ∧ ¬ HasSeparator ('_' :: after) := by
  constructor
  · intro h
    induction cs generalizing before with
    | nil => cases h
    | cons c cs ih =>
      cases hcut : lastParts? cs with
      | none =>
        rw [lastParts?_cons_of_none hcut] at h
        split at h
        next hc =>
          obtain ⟨hc, hhead⟩ := hc
          obtain ⟨rest, rfl⟩ := List.head?_eq_some_iff.mp hhead
          cases h
          exact ⟨by rw [hc]; rfl, lastParts?_eq_none.mp hcut⟩
        next => cases h
      | some cut =>
        rw [lastParts?_cons_of_some hcut] at h
        cases h
        obtain ⟨rfl, hafter⟩ := ih hcut
        exact ⟨rfl, hafter⟩
  · intro ⟨heq, hafter⟩
    rw [heq]
    exact lastParts?_append hafter

/-! ## Section 2: Every separator, from the left -/

theorem parts_cons (c : Char) (cs : List Char) : parts (c :: cs) =
    if c = '_' ∧ cs.head? = some '_' then [] :: parts cs.tail
    else (parts cs).modifyHead (c :: ·) := by
  by_cases h : c = '_' ∧ cs.head? = some '_'
  · obtain ⟨rfl, hhead⟩ := h
    obtain ⟨rest, rfl⟩ := List.head?_eq_some_iff.mp hhead
    rfl
  · rw [if_neg h, parts]
    intro rest hc hcs
    subst hcs
    exact h ⟨hc, rfl⟩

theorem parts_ne_nil (cs : List Char) : parts cs ≠ [] := by
  fun_induction parts cs with
  | case1 => simp
  | case2 => simp
  | case3 c cs _ ih => simpa using ih

/-- A text without separator is one name. -/
theorem parts_eq_singleton (h : ¬ HasSeparator cs) : parts cs = [cs] := by
  induction cs with
  | nil => rfl
  | cons c cs ih =>
    rw [hasSeparator_cons, not_or] at h
    rw [parts_cons, if_neg h.1, ih h.2]
    rfl

theorem split_eq_singleton {name : String} (h : ¬ HasSeparator name.toList) :
    split name = [name] := by
  rw [split, parts_eq_singleton h, List.map_singleton, String.ofList_toList]

/-- The first separator ends the first name, if the name does not end with an underscore
    that would be taken for the separator's. -/
theorem parts_append (hsep : ¬ HasSeparator before) (hlast : before.getLast? ≠ some '_') :
    parts (before ++ '_' :: '_' :: after) = before :: parts after := by
  induction before with
  | nil => rfl
  | cons c before ih =>
    rw [hasSeparator_cons, not_or] at hsep
    have hfirst : ¬ (c = '_' ∧ (before ++ '_' :: '_' :: after).head? = some '_') := by
      intro ⟨hc, hhead⟩
      cases before with
      | nil => exact hlast (by simp [hc])
      | cons d before => exact hsep.1 ⟨hc, hhead⟩
    have hrest : before.getLast? ≠ some '_' := by
      intro hend
      exact hlast (by rw [List.getLast?_cons, hend]; rfl)
    rw [List.cons_append, parts_cons, if_neg hfirst, ih hsep.2 hrest]
    rfl

/-- What was split is joined again. -/
theorem intercalate_parts (cs : List Char) : ['_', '_'].intercalate (parts cs) = cs := by
  fun_induction parts cs with
  | case1 => rfl
  | case2 cs ih =>
    obtain ⟨p, ps, hp⟩ := List.exists_cons_of_ne_nil (parts_ne_nil cs)
    rw [hp] at ih ⊢
    rw [List.intercalate_cons_cons, ih]
    rfl
  | case3 c cs _ ih =>
    obtain ⟨p, ps, hp⟩ := List.exists_cons_of_ne_nil (parts_ne_nil cs)
    rw [hp] at ih ⊢
    rw [List.modifyHead_cons]
    cases ps with
    | nil => simpa using ih
    | cons q ps =>
      rw [List.intercalate_cons_cons] at ih ⊢
      rw [List.cons_append, List.cons_append, ih]

/-! ## Section 3: Names -/

/-- A name that others may follow on a path: what separates it from the next one is the
    first separator, whatever the next name begins with. -/
structure Extendable (name : String) : Prop where
  no_separator : ¬ HasSeparator name.toList
  no_trailing : name.toList.getLast? ≠ some '_'

/-- Names that are found again once they are joined: no name has a separator, and none but
    the last ends with an underscore. -/
structure Separable (names : List String) : Prop where
  ne_nil : names ≠ []
  no_separator : ∀ name ∈ names, ¬ HasSeparator name.toList
  no_trailing : ∀ name ∈ names.dropLast, name.toList.getLast? ≠ some '_'

variable {name path : String} {names : List String}

instance : Decidable (Separable names) :=
  decidable_of_iff (names ≠ [] ∧ (∀ name ∈ names, ¬ HasSeparator name.toList) ∧
      ∀ name ∈ names.dropLast, name.toList.getLast? ≠ some '_')
    ⟨fun ⟨hne, hsep, hlast⟩ => ⟨hne, hsep, hlast⟩, fun ⟨hne, hsep, hlast⟩ => ⟨hne, hsep, hlast⟩⟩

theorem separable_singleton (h : ¬ HasSeparator name.toList) : Separable [name] where
  ne_nil := List.cons_ne_nil _ _
  no_separator := by simpa using h
  no_trailing := nofun

theorem separable_cons (h : names ≠ []) :
    Separable (name :: names) ↔ Extendable name ∧ Separable names := by
  obtain ⟨n, ns, rfl⟩ := List.exists_cons_of_ne_nil h
  constructor
  · intro hall
    have hsep := List.forall_mem_cons.mp hall.no_separator
    have hlast := List.forall_mem_cons.mp hall.no_trailing
    exact ⟨⟨hsep.1, hlast.1⟩, ⟨h, hsep.2, hlast.2⟩⟩
  · intro ⟨hname, hnames⟩
    exact {
      ne_nil := List.cons_ne_nil _ _
      no_separator := List.forall_mem_cons.mpr ⟨hname.no_separator, hnames.no_separator⟩
      no_trailing := List.forall_mem_cons.mpr ⟨hname.no_trailing, hnames.no_trailing⟩ }

/-- Names that others may follow, and behind them names that are found again. -/
theorem separable_append {hops : List String} (hhops : ∀ hop ∈ hops, Extendable hop)
    (h : Separable names) : Separable (hops ++ names) := by
  induction hops with
  | nil => exact h
  | cons hop hops ih =>
    rw [List.forall_mem_cons] at hhops
    have hrest := ih hhops.2
    exact (separable_cons hrest.ne_nil).mpr ⟨hhops.1, hrest⟩

/-- Others may follow behind separable names if the last of them allows it. -/
theorem Separable.extendable (h : Separable names)
    (hlast : ∀ last ∈ names.getLast?, last.toList.getLast? ≠ some '_') :
    ∀ name ∈ names, Extendable name := by
  intro name hname
  refine ⟨h.no_separator name hname, ?_⟩
  rw [← List.dropLast_concat_getLast h.ne_nil, List.mem_append, List.mem_singleton] at hname
  rcases hname with hname | rfl
  · exact h.no_trailing name hname
  · exact hlast _ (List.getLast?_eq_some_getLast h.ne_nil)

theorem toList_join : (join names).toList = ['_', '_'].intercalate (names.map String.toList) := by
  unfold join
  rw [String.toList_intercalate, toList_pathSeparator]

theorem join_split (path : String) : join (split path) = path := by
  have hnames : (split path).map String.toList = parts path.toList := by
    simp [split, Function.comp_def]
  rw [← String.toList_inj, toList_join, hnames, intercalate_parts]

/-- What was joined is split again, name by name. -/
theorem parts_intercalate (h : Separable names) :
    parts (['_', '_'].intercalate (names.map String.toList)) = names.map String.toList := by
  induction names with
  | nil => exact absurd rfl h.ne_nil
  | cons name names ih =>
    cases names with
    | nil =>
      rw [List.map_singleton, List.intercalate_singleton]
      exact parts_eq_singleton (h.no_separator name List.mem_cons_self)
    | cons next names =>
      have hnext : next :: names ≠ [] := List.cons_ne_nil _ _
      obtain ⟨hname, hrest⟩ := (separable_cons hnext).mp h
      have hcut : parts (name.toList ++
            '_' :: '_' :: ['_', '_'].intercalate ((next :: names).map String.toList)) =
          name.toList :: (next :: names).map String.toList := by
        rw [parts_append hname.no_separator hname.no_trailing, ih hrest]
      rw [List.map_cons, List.map_cons, List.intercalate_cons_cons, List.append_assoc]
      exact hcut

theorem split_join (h : Separable names) : split (join names) = names := by
  unfold split
  rw [toList_join, parts_intercalate h, List.map_map]
  exact List.map_id'' (fun _ => String.ofList_toList) names

/-! ## Section 4: Names found again -/

/-- The first name stands at the beginning of the path. -/
theorem head?_of_parts_eq_cons {p : List Char} {ps : List (List Char)} {c : Char}
    (h : parts cs = p :: ps) (hhead : p.head? = some c) : cs.head? = some c := by
  obtain ⟨rest, rfl⟩ := List.head?_eq_some_iff.mp hhead
  have hjoined := intercalate_parts cs
  rw [h] at hjoined
  cases ps with
  | nil =>
    rw [List.intercalate_singleton] at hjoined
    rw [← hjoined]
    rfl
  | cons p' ps =>
    rw [List.intercalate_cons_cons] at hjoined
    rw [← hjoined]
    rfl

/-- Splitting leaves no separator in a name, and no underscore in front of a separator. -/
theorem parts_separated (cs : List Char) : (∀ p ∈ parts cs, ¬ HasSeparator p) ∧
    ∀ p ∈ (parts cs).dropLast, p.getLast? ≠ some '_' := by
  fun_induction parts cs with
  | case1 => decide
  | case2 cs ih =>
    obtain ⟨p, ps, hp⟩ := List.exists_cons_of_ne_nil (parts_ne_nil cs)
    rw [hp] at ih ⊢
    refine ⟨List.forall_mem_cons.mpr ⟨by decide, ih.1⟩, ?_⟩
    rw [List.dropLast_cons_cons]
    exact List.forall_mem_cons.mpr ⟨by decide, ih.2⟩
  | case3 c cs hno ih =>
    -- a separator at `c` would have been taken, so `c` goes to the first name
    have hfirst : ¬ (c = '_' ∧ cs.head? = some '_') := by
      intro ⟨hc, hhead⟩
      obtain ⟨rest, hrest⟩ := List.head?_eq_some_iff.mp hhead
      exact hno rest hc hrest
    obtain ⟨p, ps, hp⟩ := List.exists_cons_of_ne_nil (parts_ne_nil cs)
    have hjoined := intercalate_parts cs
    rw [hp] at ih hjoined ⊢
    rw [List.modifyHead_cons]
    have hseparators := List.forall_mem_cons.mp ih.1
    constructor
    · refine List.forall_mem_cons.mpr ⟨?_, hseparators.2⟩
      rw [hasSeparator_cons, not_or]
      refine ⟨fun ⟨hc, hhead⟩ => ?_, hseparators.1⟩
      exact hfirst ⟨hc, head?_of_parts_eq_cons hp hhead⟩
    · cases ps with
      | nil => exact nofun
      | cons p' ps =>
        rw [List.dropLast_cons_cons] at ih ⊢
        have htrailing := List.forall_mem_cons.mp ih.2
        refine List.forall_mem_cons.mpr ⟨?_, htrailing.2⟩
        cases p with
        | nil =>
          -- the separator follows at once
          intro hlast
          rw [List.intercalate_cons_cons] at hjoined
          have hc : c = '_' := by simpa using hlast
          exact hfirst ⟨hc, by rw [← hjoined]; rfl⟩
        | cons d p =>
          rw [List.getLast?_cons_cons]
          exact htrailing.1

/-- What a path is split into can be told apart on it. -/
theorem separable_split (path : String) : Separable (split path) where
  ne_nil := by simpa [split] using parts_ne_nil path.toList
  no_separator name hname := by
    obtain ⟨p, hp, rfl⟩ := List.mem_map.mp hname
    rw [String.toList_ofList]
    exact (parts_separated path.toList).1 p hp
  no_trailing name hname := by
    rw [split, ← List.map_dropLast] at hname
    obtain ⟨p, hp, rfl⟩ := List.mem_map.mp hname
    rw [String.toList_ofList]
    exact (parts_separated path.toList).2 p hp

/-- A path is the joined text of one list of separable names, those that it is split into. -/
theorem split_eq_iff : split path = names ↔ join names = path ∧ Separable names := by
  constructor
  · intro hsplit
    rw [← hsplit]
    exact ⟨join_split path, separable_split path⟩
  · intro ⟨hjoin, hnames⟩
    rw [← hjoin]
    exact split_join hnames

/-- **What splitting and joining undo.**  Every path is joined again from the names it was split
    into.  Names are found again on the path they were joined to if and only if there are any,
    none of them has a separator, and none but the last ends with an underscore. -/
theorem split_join_iff_separable :
    (∀ path, join (split path) = path) ∧
      ∀ names, split (join names) = names ↔ Separable names := by
  refine ⟨join_split, fun names => ?_⟩
  rw [split_eq_iff]
  exact and_iff_right rfl

/-- Of three underscores the first two separate, so they never go to the name in front. -/
example : join ["a_", "b"] = join ["a", "_b"] ∧ ¬ Separable ["a_", "b"] ∧ Separable ["a", "_b"] ∧
    split "a___b" = ["a", "_b"] := by decide

/-! ## Section 5: Paths in two parts -/

/-- A path whose last name does not end with an underscore is split by itself, whatever
    follows behind a separator. -/
theorem split_append (h : ∀ last ∈ (split path).getLast?, last.toList.getLast? ≠ some '_')
    (rest : String) : split (path ++ pathSeparator ++ rest) = split path ++ split rest := by
  have hpath := separable_split path
  have hrest := separable_split rest
  refine split_eq_iff.mpr ⟨?_, separable_append (hpath.extendable h) hrest⟩
  calc join (split path ++ split rest)
      = join (split path) ++ pathSeparator ++ join (split rest) :=
        String.intercalate_append_of_ne_nil hpath.ne_nil hrest.ne_nil
    _ = path ++ pathSeparator ++ rest := by rw [join_split, join_split]

end QueryComposer.Path
