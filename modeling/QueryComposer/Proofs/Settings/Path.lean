import QueryComposer.Proofs.KeyMap
import QueryComposer.Settings.Path

/-! # Entries and what they leave alone

    The path of an entry begins with a name.  Giving the entry its place changes what
    stands under this name and nothing else; so a name that no entry begins with has in
    the end what it had at first.  What stands under any other name comes from the last
    entry that begins with it: the value of this entry, or else a list or a table around
    it, which is no value for a setting.

    * `SettingValue.find?_assign?` and `find?_assign?_self`: one entry.
    * `SettingValue.find?_entries_untouched` and `find?_entries_last`: all of them. -/

namespace QueryComposer

namespace SettingPath

/-- Whether the path of a key begins with a name. -/
def LeadsTo (key name : String) : Prop := (ofKey key).head? = some (.member name)

instance (key name : String) : Decidable (LeadsTo key name) :=
  inferInstanceAs (Decidable ((ofKey key).head? = some (.member name)))

/-- Every path begins with a name. -/
theorem exists_ofKey_eq_cons (key : String) : ∃ name steps, ofKey key = .member name :: steps := by
  unfold ofKey parse?
  by_cases hempty : ((SettingValue.small key).toList.takeWhile inName).isEmpty = true
  · -- a key that does not begin with a name is a name as a whole
    exact ⟨SettingValue.small key, [], by simp [hempty]⟩
  · cases hsteps : stepsBehind? (((SettingValue.small key).toList.dropWhile inName).length + 1)
      ((SettingValue.small key).toList.dropWhile inName) with
    | none => exact ⟨SettingValue.small key, [], by simp [hempty, hsteps]⟩
    | some steps =>
      refine ⟨String.ofList ((SettingValue.small key).toList.takeWhile inName), steps, ?_⟩
      simp [hempty, hsteps]

end SettingPath

namespace SettingValue

open SettingPath

variable {v w target whole : SettingValue} {name other key text : String}
  {steps : SettingPath} {entries before after : List (String × SettingValue)}

/-- A list or a table. -/
def IsCompound : SettingValue → Prop
  | list _ _ => True
  | table _ => True
  | _ => False

theorem IsCompound.text?_eq_none (h : v.IsCompound) : v.text? = none := by
  cases v with
  | list | table => rfl
  | _ => cases h

theorem IsCompound.limit?_eq_none (h : v.IsCompound) : v.limit? = none := by
  cases v with
  | list | table => rfl
  | _ => cases h

/-- Joined to a table or not, a value is put in under its name. -/
theorem exists_join_eq (name : String) (ms : KeyMap SettingValue) (v : SettingValue) :
    ∃ w, join name ms v = ms.insert name w := by
  unfold join
  split
  next => exact ⟨_, rfl⟩
  next => exact ⟨_, rfl⟩

/-- Only tables are joined to others. -/
theorem join_of_text? {ms : KeyMap SettingValue} (h : v.text? = some text) :
    join name ms v = ms.insert name v := by
  unfold join
  split
  next => cases h
  next => rfl

/-- A path with a step in it leads into a list or a table. -/
theorem isCompound_of_assign? (h : assign? v steps target = some w) (hsteps : steps ≠ []) :
    w.IsCompound := by
  unfold assign? at h
  split at h
  next => exact absurd rfl hsteps
  next =>
    cases h
    trivial
  next =>
    obtain ⟨inner, -, heq⟩ := Option.bind_eq_some_iff.mp h
    cases heq
    trivial
  next =>
    obtain ⟨index, -, h⟩ := Option.bind_eq_some_iff.mp h
    obtain ⟨inner, -, heq⟩ := Option.bind_eq_some_iff.mp h
    cases heq
    trivial

/-- A path puts a value under the name that it begins with.  Of a value that can be a text,
    this is the value itself where the path ends, and a list or a table where it goes on. -/
theorem exists_of_assign?_eq_some (h : assign? v (.member name :: steps) target = some whole) :
    ∃ w, whole = table (target.members.insert name w) ∧
      ∀ text, v.text? = some text → w = v ∨ w.IsCompound := by
  cases steps with
  | nil =>
    cases h
    cases htext : v.text? with
    | none =>
      obtain ⟨w, hjoin⟩ := exists_join_eq name target.members v
      exact ⟨w, by rw [hjoin], nofun⟩
    | some text => exact ⟨v, by rw [join_of_text? htext], fun _ _ => .inl rfl⟩
  | cons step steps =>
    rw [assign?] at h
    · obtain ⟨inner, hinner, heq⟩ := Option.bind_eq_some_iff.mp h
      cases heq
      have hcompound := isCompound_of_assign? hinner (List.cons_ne_nil step steps)
      exact ⟨inner, rfl, fun _ _ => .inr hcompound⟩
    · exact nofun

/-- Giving a value to a path leaves all names alone that the path does not begin with. -/
theorem find?_assign? (h : assign? v (.member name :: steps) target = some whole)
    (hother : other ≠ name) : whole.members.find? other = target.members.find? other := by
  obtain ⟨w, rfl, -⟩ := exists_of_assign?_eq_some h
  show (target.members.insert name w).find? other = _
  rw [KeyMap.find?_insert, if_neg hother]

/-- What stands under the name that a path begins with, once a text, a number or a word of
    truth is given to the path. -/
theorem find?_assign?_self (h : assign? v (.member name :: steps) target = some whole)
    (htext : v.text? = some text) :
    ∃ w, whole.members.find? name = some w ∧ (w = v ∨ w.IsCompound) := by
  obtain ⟨w, rfl, hw⟩ := exists_of_assign?_eq_some h
  refine ⟨w, ?_, hw text htext⟩
  show (target.members.insert name w).find? name = some w
  rw [KeyMap.find?_insert, if_pos rfl]

/-- A run over entries none of which begins with a name. -/
theorem find?_entries_untouched
    (h : entries.foldlM (fun whole (key, v) => assign? v (ofKey key) whole) target = some whole)
    (huntouched : ∀ entry ∈ entries, ¬ LeadsTo entry.1 name) :
    whole.members.find? name = target.members.find? name := by
  -- on the entries, for any table to begin with: each of them keeps what stands under the name
  induction entries generalizing target with
  | nil =>
    cases h
    rfl
  | cons entry entries ih =>
    rw [List.foldlM_cons] at h
    obtain ⟨between, hentry, hentries⟩ := Option.bind_eq_some_iff.mp h
    obtain ⟨hfirst, hrest⟩ := List.forall_mem_cons.mp huntouched
    obtain ⟨begin, steps, hpath⟩ := exists_ofKey_eq_cons entry.1
    have hother : name ≠ begin := by
      rintro rfl
      exact hfirst (by rw [LeadsTo, hpath]; rfl)
    replace hentry : assign? entry.2 (ofKey entry.1) target = some between := hentry
    rw [hpath] at hentry
    rw [ih hentries hrest, find?_assign? hentry hother]

/-- A run in which a certain entry is the last one that begins with a name. -/
theorem find?_entries_last (h : ofEntries? (before ++ (key, v) :: after) = some whole)
    (hkey : LeadsTo key name) (htext : v.text? = some text)
    (hafter : ∀ entry ∈ after, ¬ LeadsTo entry.1 name) :
    ∃ w, whole.members.find? name = some w ∧ (w = v ∨ w.IsCompound) := by
  -- whatever the entries before it set, the value is put in over it or inside of it
  unfold ofEntries? at h
  rw [List.foldlM_append] at h
  obtain ⟨target, -, hrest⟩ := Option.bind_eq_some_iff.mp h
  rw [List.foldlM_cons] at hrest
  obtain ⟨between, hentry, hrest⟩ := Option.bind_eq_some_iff.mp hrest
  replace hentry : assign? v (ofKey key) target = some between := hentry
  obtain ⟨steps, hpath⟩ := List.head?_eq_some_iff.mp hkey
  rw [hpath] at hentry
  rw [find?_entries_untouched hrest hafter]
  exact find?_assign?_self hentry htext

end SettingValue

end QueryComposer
