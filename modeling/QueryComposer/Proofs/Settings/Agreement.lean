import QueryComposer.Proofs.Settings.Path
import QueryComposer.Proofs.Settings.Reading
import QueryComposer.Proofs.Settings.Value

/-! # Files that set nothing

    Settings come from the variables of the environment alone, or from a file with the
    variables before it.  A file that sets none of the settings leaves them to the
    variables, and it might be expected to make no difference.  But the two ways listen
    to different variables: without a file a setting has one variable, whose name is
    spelled in one way; with a file every variable counts whose name begins with the mark
    in letters of either case, and the last one that leads to the setting is heard.

    * `Settings.lastWord?`: what the last variable says that leads to a setting.
    * `Settings.eq_of_ofFile`: what a file that sets nothing leaves to the variables, in
      any environment and for files of any format.
    * `Settings.lastWord?_eq_get?`: where no other variable leads to a setting, its own
      one is heard. -/

namespace QueryComposer.Settings

open SettingPath SettingValue

variable {formats : List SettingsFormat} {read : String → Reading}
  {directory name setting own : String} {env : Environment} {entries : SettingEntries}
  {whole : SettingValue} {s t : Settings}

/-! ## Section 1: Variables -/

/-- None of the entries has a path that begins with the name of a setting. -/
def Unset (entries : SettingEntries) : Prop :=
  ∀ entry ∈ entries, ∀ setting ∈ members, ¬ LeadsTo entry.1 setting

instance (entries : SettingEntries) : Decidable (Unset entries) :=
  inferInstanceAs (Decidable (∀ entry ∈ entries, ∀ setting ∈ members, ¬ LeadsTo entry.1 setting))

/-- A name leads to a file that sets none of the settings. -/
def SetsNothing (formats : List SettingsFormat) (read : String → Reading)
    (directory name : String) : Prop :=
  ∃ found ∈ found? formats read directory name,
    ∃ entries ∈ (found.1.entries found.2.2).toOption, Unset entries

instance (formats : List SettingsFormat) (read : String → Reading) (directory name : String) :
    Decidable (SetsNothing formats read directory name) :=
  inferInstanceAs (Decidable (∃ found ∈ found? formats read directory name,
    ∃ entries ∈ (found.1.entries found.2.2).toOption, Unset entries))

/-- The path of the entry of a variable begins with the name of a setting. -/
def VariableLeadsTo (name setting : String) : Prop :=
  ∃ key ∈ SettingEntries.keyOf? name, LeadsTo key setting

instance (name setting : String) : Decidable (VariableLeadsTo name setting) :=
  inferInstanceAs (Decidable (∃ key ∈ SettingEntries.keyOf? name, LeadsTo key setting))

/-- The text of the last variable that leads to a setting. -/
def lastWord? (env : Environment) (setting : String) : Option String :=
  (env.reverse.find? fun x => VariableLeadsTo x.1 setting).map (·.2)

/-- No variable but its own leads to a setting, and that one does not say two things. -/
def LedByOwn (env : Environment) (setting own : String) : Prop :=
  ∀ x ∈ env, VariableLeadsTo x.1 setting → x.1 = own ∧ env.get? own = some x.2

instance (env : Environment) (setting own : String) : Decidable (LedByOwn env setting own) :=
  inferInstanceAs (Decidable
    (∀ x ∈ env, VariableLeadsTo x.1 setting → x.1 = own ∧ env.get? own = some x.2))

theorem lastWord?_eq_none :
    lastWord? env setting = none ↔ ∀ x ∈ env, ¬ VariableLeadsTo x.1 setting := by
  simp [lastWord?]

/-- The variable that is heard has none behind it that leads to the setting. -/
theorem exists_of_lastWord?_eq_some {text : String} (h : lastWord? env setting = some text) :
    ∃ before name after, env = before ++ (name, text) :: after ∧
      VariableLeadsTo name setting ∧ ∀ x ∈ after, ¬ VariableLeadsTo x.1 setting := by
  obtain ⟨⟨name, text'⟩, hfind, rfl⟩ := Option.map_eq_some_iff.mp h
  obtain ⟨hleads, behind, front, henv, hbehind⟩ := List.find?_eq_some_iff_append.mp hfind
  refine ⟨front.reverse, name, behind.reverse, ?_, of_decide_eq_true hleads, ?_⟩
  · rw [← List.reverse_reverse env, henv]
    simp
  · intro x hx
    simpa using hbehind x (List.mem_reverse.mp hx)

/-- Where no other variable leads to a setting, its own one is heard. -/
theorem lastWord?_eq_get? (h : LedByOwn env setting own) (hown : VariableLeadsTo own setting) :
    lastWord? env setting = env.get? own := by
  cases hword : lastWord? env setting with
  | none =>
    have hmute := lastWord?_eq_none.mp hword
    refine (List.lookup_eq_none_iff.mpr ?_).symm
    intro x hx
    rw [bne_iff_ne]
    rintro rfl
    exact hmute x hx hown
  | some text =>
    obtain ⟨before, name, after, henv, hleads, -⟩ := exists_of_lastWord?_eq_some hword
    have hmem : (name, text) ∈ env := by simp [henv]
    exact (h (name, text) hmem hleads).2.symm

/-! ## Section 2: What is left to the variables -/

/-- An entry of the environment that leads to a setting comes from a variable that does. -/
theorem exists_variable {entry : String × SettingValue}
    (hentry : entry ∈ SettingEntries.ofEnvironment env) (hleads : LeadsTo entry.1 setting) :
    ∃ x ∈ env, VariableLeadsTo x.1 setting := by
  obtain ⟨x, hx, hof⟩ := List.mem_filterMap.mp hentry
  obtain ⟨key, hkey, rfl⟩ := Option.map_eq_some_iff.mp hof
  exact ⟨x, hx, key, hkey, hleads⟩

/-- Where the file sets nothing, what stands under a setting comes from the variable that is
    heard, unless it is a list or a table. -/
theorem find?_setting (hunset : Unset entries) (hsetting : setting ∈ members)
    (h : ofEntries? (entries ++ SettingEntries.ofEnvironment env) = some whole) :
    whole.members.find? setting = (lastWord? env setting).map ofWord ∨
      ∃ w, whole.members.find? setting = some w ∧ w.IsCompound := by
  cases hword : lastWord? env setting with
  | none =>
    refine .inl (find?_entries_untouched h ?_)
    intro entry hentry hleads
    rcases List.mem_append.mp hentry with hfile | hvariable
    · exact hunset entry hfile setting hsetting hleads
    · obtain ⟨x, hx, hx'⟩ := exists_variable hvariable hleads
      exact lastWord?_eq_none.mp hword x hx hx'
  | some text =>
    obtain ⟨before, name, after, henv, ⟨key, hkey, hleads⟩, hafter⟩ :=
      exists_of_lastWord?_eq_some hword
    have hvariable : SettingEntries.ofVariable name text = some (key, ofWord text) := by
      rw [SettingEntries.ofVariable, hkey]
      rfl
    have hentries : SettingEntries.ofEnvironment env = SettingEntries.ofEnvironment before ++
        (key, ofWord text) :: SettingEntries.ofEnvironment after := by
      rw [henv]
      simp only [SettingEntries.ofEnvironment, List.filterMap_append, List.filterMap_cons,
        hvariable]
    rw [hentries, ← List.append_assoc] at h
    obtain ⟨w, hfind, hw⟩ := find?_entries_last h hleads (text?_ofWord text) (by
      intro entry hentry hentry'
      obtain ⟨x, hx, hx'⟩ := exists_variable hentry hentry'
      exact hafter x hx hx')
    rcases hw with rfl | hw
    · exact .inl hfind
    · exact .inr ⟨w, hfind, hw⟩

/-- A setting is converted from what the variable says that is heard. -/
theorem entry_eq (hunset : Unset entries) (hsetting : setting ∈ members)
    (h : ofEntries? (entries ++ SettingEntries.ofEnvironment env) = some whole)
    {α : Type} {usual given : α} {convert : SettingValue → Option α}
    (hconvert : ∀ v, v.IsCompound → convert v = none)
    (hgiven : entry whole setting usual convert = some given) :
    (lastWord? env setting).elim (some usual) (fun text => convert (ofWord text)) =
      some given := by
  unfold entry at hgiven
  rcases find?_setting hunset hsetting h with hfind | ⟨w, hfind, hw⟩
  · rw [hfind] at hgiven
    cases hword : lastWord? env setting with
    | none =>
      rw [hword] at hgiven
      exact hgiven
    | some text =>
      rw [hword] at hgiven
      exact hgiven
  · -- a list or a table under the name would have been refused
    rw [hfind] at hgiven
    exact absurd ((hconvert w hw).symm.trans hgiven) (Option.some_ne_none given).symm

theorem pathOf?_eq_none {v : SettingValue} (h : v.IsCompound) : pathOf? v = none := by
  cases v with
  | list | table => rfl
  | _ => cases h

/-- A setting that is a text. -/
theorem eq_of_elim_text? {text? : Option String} {usual given : String}
    (h : text?.elim (some usual) (fun text => (ofWord text).text?) = some given) :
    given = (text?.map retyped).getD usual := by
  cases text? with
  | none => exact (Option.some.inj h).symm
  | some text => exact Option.some.inj (h.symm.trans (text?_ofWord text))

/-- A setting that is a path. -/
theorem eq_of_elim_pathOf? {text? given : Option String}
    (h : text?.elim (some none) (fun text => pathOf? (ofWord text)) = some given) :
    given = text?.map retyped := by
  cases text? with
  | none => exact (Option.some.inj h).symm
  | some text =>
    have hpath : pathOf? (ofWord text) = some (some (retyped text)) := by
      have htext := text?_ofWord text
      unfold pathOf?
      split
      next hnothing =>
        rw [hnothing] at htext
        cases htext
      next => rw [htext, Option.map_some]
    exact Option.some.inj (h.symm.trans hpath)

/-- What a file that sets nothing leaves to the variables: each setting is what the last
    variable to lead to it stands for. -/
theorem eq_of_ofFile (hfile : SetsNothing formats read directory name)
    (ht : (ofFile (m := Id) read directory env name formats).run = .ok t) :
    t.origin = ((lastWord? env "origin").map retyped).getD ({} : Settings).origin ∧
      t.schemaPath = (lastWord? env "schema_path").map retyped ∧
      (lastWord? env "default_limit").elim (some Limit.standard)
        (fun text => (ofWord text).limit?) = some t.defaultLimit ∧
      t.logFilter = ((lastWord? env "log_filter").map retyped).getD
        ({} : Settings).logFilter := by
  obtain ⟨found, hfound, entries, hentries, hunset⟩ := hfile
  obtain ⟨format, path, document, hfound', hdocument⟩ := ofFile_eq_ok.mp ht
  cases hfound.symm.trans hfound'
  obtain ⟨entries', whole, hentries', hwhole, hvalue, -⟩ := ofDocument_eq_ok.mp hdocument
  rw [hentries'] at hentries
  cases hentries
  obtain ⟨horigin, hpath, hlimit, hlog⟩ := ofValue?_eq_some.mp hvalue
  have htext : ∀ v : SettingValue, v.IsCompound → v.text? = none :=
    fun _ => IsCompound.text?_eq_none
  refine ⟨eq_of_elim_text? ?_, eq_of_elim_pathOf? ?_, ?_, eq_of_elim_text? ?_⟩
  · exact entry_eq hunset (by decide) hwhole htext horigin
  · exact entry_eq hunset (by decide) hwhole (fun _ => pathOf?_eq_none) hpath
  · exact entry_eq hunset (by decide) hwhole (fun _ => IsCompound.limit?_eq_none) hlimit
  · exact entry_eq hunset (by decide) hwhole htext hlog

/-! ## Section 3: Both ways -/

/-- Retyping keeps a text, or what is usual, just if it keeps the text. -/
theorem getD_retyped_iff {text? : Option String} {usual : String} :
    (text?.map retyped).getD usual = text?.getD usual ↔
      ∀ text ∈ text?, retyped text = text := by
  cases text? with
  | none => simp
  | some text => simp

theorem map_retyped_iff {text? : Option String} :
    text?.map retyped = text? ↔ ∀ text ∈ text?, retyped text = text := by
  cases text? with
  | none => simp
  | some text => simp

variable {n m : Nat}

/-- A row limit that one text spells for both ways. -/
theorem eq_of_elim_limit? {text? : Option String}
    (hn : text?.elim (.ok Limit.standard) limitOfText = .ok n)
    (hm : text?.elim (some Limit.standard) (fun text => (ofWord text).limit?) = some m) :
    m = n := by
  cases text? with
  | none =>
    cases hn
    cases hm
    rfl
  | some text =>
    obtain ⟨hspelled, -⟩ := limitOfText_eq_ok.mp hn
    exact eq_of_limit? hspelled hm

/-- The row limits of both ways, which need not come from the same variable. -/
theorem limit_agrees_iff
    (hn : (env.get? "DDB_DEFAULT_LIMIT").elim (.ok Limit.standard) limitOfText = .ok n)
    (hm : (lastWord? env "default_limit").elim (some Limit.standard)
      (fun text => (ofWord text).limit?) = some m) :
    m = n ↔ ∀ text ∈ lastWord? env "default_limit", (ofWord text).limit? = some n := by
  cases hword : lastWord? env "default_limit" with
  | none =>
    -- no variable leads to the limit of the file, so the one of the other way is not there
    have hmute := lastWord?_eq_none.mp hword
    have hled : LedByOwn env "default_limit" "DDB_DEFAULT_LIMIT" :=
      fun x hx hleads => absurd hleads (hmute x hx)
    rw [lastWord?_eq_get? hled (by decide)] at hm
    simp [eq_of_elim_limit? hn hm]
  | some text =>
    rw [hword] at hm
    replace hm : (ofWord text).limit? = some m := hm
    simp [hm]

/-- **Files that set nothing.**  Where the settings come from a file of any format that sets
    none of them, with any variables before it, each setting agrees with what the variables
    alone would set just if the last variable to lead to it stands for the same.

    In particular, the row limit agrees where no variable but its own leads to it, as one in
    other letters would.  The origin and the path agree on the same condition, each for its
    own variable, just if retyping keeps their texts.  What is logged has no variable in
    common: where none leads to it with a file, the two ways agree just if the one without a
    file is not set, or set to what is usual. -/
theorem ofFile_agrees_setting_by_setting (hfile : SetsNothing formats read directory name)
    (hs : ofEnvironment env = .ok s)
    (ht : (ofFile (m := Id) read directory env name formats).run = .ok t) :
    ((t.origin = s.origin ↔
        ((lastWord? env "origin").map retyped).getD ({} : Settings).origin =
          (env.get? "DDB_ORIGIN").getD ({} : Settings).origin) ∧
      (t.schemaPath = s.schemaPath ↔
        (lastWord? env "schema_path").map retyped = env.get? "DDB_SCHEMA_PATH") ∧
      (t.defaultLimit = s.defaultLimit ↔
        ∀ text ∈ lastWord? env "default_limit", (ofWord text).limit? = some s.defaultLimit) ∧
      (t.logFilter = s.logFilter ↔
        ((lastWord? env "log_filter").map retyped).getD ({} : Settings).logFilter =
          (env.get? "DDB_LOG").getD ({} : Settings).logFilter)) ∧
    (LedByOwn env "origin" "DDB_ORIGIN" →
      (t.origin = s.origin ↔ ∀ text ∈ env.get? "DDB_ORIGIN", retyped text = text)) ∧
    (LedByOwn env "schema_path" "DDB_SCHEMA_PATH" →
      (t.schemaPath = s.schemaPath ↔ ∀ text ∈ env.get? "DDB_SCHEMA_PATH", retyped text = text)) ∧
    (LedByOwn env "default_limit" "DDB_DEFAULT_LIMIT" → t.defaultLimit = s.defaultLimit) ∧
    ((∀ x ∈ env, ¬ VariableLeadsTo x.1 "log_filter") →
      (t.logFilter = s.logFilter ↔
        ∀ text ∈ env.get? "DDB_LOG", text = ({} : Settings).logFilter)) := by
  obtain ⟨horigin, hpath, hlimit, hlog⟩ := ofEnvironment_eq_ok.mp hs
  obtain ⟨horigin', hpath', hlimit', hlog'⟩ := eq_of_ofFile hfile ht
  refine ⟨⟨by rw [horigin, horigin'], by rw [hpath, hpath'], limit_agrees_iff hlimit hlimit',
    by rw [hlog, hlog']⟩, ?_, ?_, ?_, ?_⟩
  · intro hown
    rw [horigin, horigin', lastWord?_eq_get? hown (by decide)]
    exact getD_retyped_iff
  · intro hown
    rw [hpath, hpath', lastWord?_eq_get? hown (by decide)]
    exact map_retyped_iff
  · intro hown
    rw [lastWord?_eq_get? hown (by decide)] at hlimit'
    exact eq_of_elim_limit? hlimit hlimit'
  · intro hmute
    rw [hlog, hlog', lastWord?_eq_none.mpr hmute]
    cases env.get? "DDB_LOG" with
    | none => simp
    | some text => simp [eq_comm]

/-- YAML as far as the empty table goes; any other document is left aside. -/
def emptyYaml : SettingsFormat where
  endings := ["yaml", "yml"]
  entries document := if document = "\x7b\x7d" then .ok [] else .error none

/-- An origin with slashes in it and a row limit with a sign, before a file that is found
    under its second ending; a path in small letters is heard with the file only. -/
theorem ofFile_agrees_but_for_small_letters :
    let env : Environment :=
      [("HOME", "/root"), ("DDB_ORIGIN", "http://h/"), ("DDB_DEFAULT_LIMIT", "+25"),
        ("ddb_schema_path", "/srv/s.json")]
    let read : String → Reading := fun path =>
      if path = "/tmp/s.yml" then .ok { text := "\x7b\x7d" } else .error .missing
    SetsNothing [emptyYaml] read "/tmp" "s" ∧
      ∃ s t, ofEnvironment env = .ok s ∧
        (ofFile (m := Id) read "/tmp" env "s" [emptyYaml]).run = .ok t ∧
        t.defaultLimit = s.defaultLimit ∧ t.origin = s.origin ∧ t.schemaPath ≠ s.schemaPath ∧
        t.logFilter = s.logFilter := by
  intro env read
  have hfile : SetsNothing [emptyYaml] read "/tmp" "s" := by decide +kernel
  have hs : ofEnvironment env = .ok { origin := "http://h/", defaultLimit := 25 } := by
    decide +kernel
  have ht : (ofFile (m := Id) read "/tmp" env "s" [emptyYaml]).run =
      .ok { origin := "http://h/", schemaPath := some "/srv/s.json", defaultLimit := 25 } := by
    decide +kernel
  have horigin : retyped "http://h/" = "http://h/" :=
    retyped_of_mem (c := '/') (by decide) (by decide)
  obtain ⟨⟨-, hpath, -, -⟩, hkept, -, hlimit, hlog⟩ :=
    ofFile_agrees_setting_by_setting hfile hs ht
  refine ⟨hfile, _, _, hs, ht, hlimit (by decide +kernel),
    (hkept (by decide +kernel)).mpr ?_, ?_, (hlog (by decide +kernel)).mpr ?_⟩
  · intro text htext
    cases htext
    exact horigin
  · intro hsame
    have hheard := hpath.mp hsame
    exact absurd hheard (by decide +kernel)
  · intro text htext
    cases htext

/-- Two texts that stand for something else, a row limit in other letters, and a variable that
    only one way reads. -/
theorem ofFile_differs_from_variables :
    let env : Environment :=
      [("DDB_ORIGIN", "TRUE"), ("DDB_SCHEMA_PATH", "007"), ("DDB_Default_Limit", "5"),
        ("DDB_LOG", "debug")]
    let read : String → Reading := fun _ => .ok { text := "\x7b\x7d" }
    SetsNothing SettingsFormat.known read "/" "s.json" ∧
      ofEnvironment env =
        .ok { origin := "TRUE", schemaPath := some "007", logFilter := "debug" } ∧
      (ofFile (m := Id) read "/" env "s.json").run =
        .ok { origin := "true", schemaPath := some "7", defaultLimit := 5 } := by
  intro env read
  refine ⟨?_, ?_, ?_⟩
  · decide +kernel
  · decide +kernel
  · decide +kernel

end QueryComposer.Settings
