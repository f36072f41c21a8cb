import QueryComposer.Proofs.Outcome
import QueryComposer.Proofs.Text.Numeral
import QueryComposer.Settings.Environment
import QueryComposer.Settings.File

/-! # When settings are read

    For each way in which settings come about, what it takes for it to succeed and
    what it then gives.

    * `Settings.ofEnvironment_eq_ok`: the variables alone.
    * `Settings.ofDocument_eq_ok` and `Settings.ofFile_eq_ok`: a document with the
      variables before it, and the file that holds it. -/

namespace QueryComposer.Settings

open Outcome SettingValue

variable {formats : List SettingsFormat} {read : String → Reading} {directory name : String}
  {env : Environment} {whole : SettingValue} {s t : Settings}

/-! ## Section 1: Variables -/

/-- A text gives the row limit that it spells in 32 bits, unless that is zero. -/
theorem limitOfText_eq_ok {raw : String} {n : Nat} : limitOfText raw = .ok n ↔
    Text.SpelledBelow (Nat.pow 2 32) raw.toList n ∧ 1 ≤ n := by
  rw [← Text.unsignedBelow?_trim_eq_some]
  unfold limitOfText
  cases hnumber : Text.unsignedBelow? (Nat.pow 2 32) (Text.trim raw.toList) with
  | none => simp
  | some m =>
    by_cases hm : 1 ≤ m
    · have hfilter : (some m).filter (1 ≤ ·) = some m := Option.filter_some_pos (by simpa using hm)
      rw [hfilter]
      show Except.ok m = Except.ok n ↔ _
      rw [Except.ok.injEq, Option.some.injEq]
      exact ⟨fun h => ⟨h, h ▸ hm⟩, And.left⟩
    · have hfilter : (some m).filter (1 ≤ ·) = none := Option.filter_some_neg (by simpa using hm)
      rw [hfilter]
      constructor
      · intro h
        cases h
      · intro ⟨h, hn⟩
        rw [Option.some.inj h] at hm
        exact absurd hn hm

/-- The row limit is the only setting whose variable may be refused. -/
theorem ofEnvironment_eq (env : Environment) : ofEnvironment env = do
    let defaultLimit ← (env.get? "DDB_DEFAULT_LIMIT").elim (.ok Limit.standard) limitOfText
    return {
      origin := (env.get? "DDB_ORIGIN").getD ({} : Settings).origin
      schemaPath := env.get? "DDB_SCHEMA_PATH"
      defaultLimit
      logFilter := (env.get? "DDB_LOG").getD ({} : Settings).logFilter } := by
  unfold ofEnvironment
  cases env.get? "DDB_DEFAULT_LIMIT" with
  | none => rfl
  | some raw => rfl

/-- What the variables alone set. -/
theorem ofEnvironment_eq_ok : ofEnvironment env = .ok s ↔
    s.origin = (env.get? "DDB_ORIGIN").getD ({} : Settings).origin ∧
      s.schemaPath = env.get? "DDB_SCHEMA_PATH" ∧
      (env.get? "DDB_DEFAULT_LIMIT").elim (.ok Limit.standard) limitOfText = .ok s.defaultLimit ∧
      s.logFilter = (env.get? "DDB_LOG").getD ({} : Settings).logFilter := by
  rw [ofEnvironment_eq, bind_eq_ok]
  constructor
  · intro ⟨n, hlimit, heq⟩
    cases heq
    exact ⟨rfl, rfl, hlimit, rfl⟩
  · intro ⟨horigin, hpath, hlimit, hlog⟩
    refine ⟨s.defaultLimit, hlimit, ?_⟩
    rw [← horigin, ← hpath, ← hlog]
    rfl

/-! ## Section 2: Files -/

/-- The file that a name leads to where there are certain formats: its format, its path and
    its text. -/
def found? (formats : List SettingsFormat) (read : String → Reading) (directory name : String) :
    Option (SettingsFormat × String × String) :=
  match readRegular? (m := Id) read (File.absolute directory name) with
  | some document =>
    (SettingsFormat.ofPath? formats name).map fun format => (format, name, document)
  | none => firstFile (m := Id) read directory (SettingsFormat.candidates formats name)

/-- A file gives what its document gives with the variables before it. -/
theorem ofFile_eq_ok : (ofFile (m := Id) read directory env name formats).run = .ok t ↔
    ∃ format path document,
      found? formats read directory name = some (format, path, document) ∧
        ofDocument format name path document env = .ok t := by
  unfold ofFile found?
  cases hregular : readRegular? (m := Id) read (File.absolute directory name) with
  | some document =>
    cases hformat : SettingsFormat.ofPath? formats name with
    | some format =>
      show ofDocument format name name document env = .ok t ↔ _
      simp
    | none =>
      show Except.error (SettingsError.unknownFormat name) = Except.ok t ↔ _
      simp
  | none =>
    cases hfirst : firstFile (m := Id) read directory
        (SettingsFormat.candidates formats name) with
    | some found =>
      obtain ⟨format, path, document⟩ := found
      show ofDocument format name path document env = .ok t ↔ _
      simp
    | none =>
      show Except.error (SettingsError.notFound name) = Except.ok t ↔ _
      simp

/-! ## Section 3: Values -/

/-- What the values of a table set. -/
theorem ofValue?_eq_some : ofValue? whole = some t ↔
    entry whole "origin" ({} : Settings).origin text? = some t.origin ∧
      entry whole "schema_path" none pathOf? = some t.schemaPath ∧
      entry whole "default_limit" Limit.standard limit? = some t.defaultLimit ∧
      entry whole "log_filter" ({} : Settings).logFilter text? = some t.logFilter := by
  unfold ofValue?
  constructor
  · intro h
    obtain ⟨origin, horigin, h⟩ := Option.bind_eq_some_iff.mp h
    obtain ⟨path, hpath, h⟩ := Option.bind_eq_some_iff.mp h
    obtain ⟨limit, hlimit, h⟩ := Option.bind_eq_some_iff.mp h
    obtain ⟨log, hlog, h⟩ := Option.bind_eq_some_iff.mp h
    cases h
    exact ⟨horigin, hpath, hlimit, hlog⟩
  · intro ⟨horigin, hpath, hlimit, hlog⟩
    refine Option.bind_eq_some_iff.mpr ⟨t.origin, horigin, ?_⟩
    refine Option.bind_eq_some_iff.mpr ⟨t.schemaPath, hpath, ?_⟩
    refine Option.bind_eq_some_iff.mpr ⟨t.defaultLimit, hlimit, ?_⟩
    exact Option.bind_eq_some_iff.mpr ⟨t.logFilter, hlog, rfl⟩

/-- Entries of a document and of the variables behind it make up a table, whose values are
    converted; a row limit of zero is refused at the end. -/
theorem ofDocument_eq_ok {format : SettingsFormat} {path document : String} :
    ofDocument format name path document env = .ok t ↔
      ∃ entries whole, format.entries document = .ok entries ∧
        ofEntries? (entries ++ SettingEntries.ofEnvironment env) = some whole ∧
        ofValue? whole = some t ∧ t.defaultLimit ≠ 0 := by
  unfold ofDocument
  constructor
  · intro h
    split at h
    next => cases h
    next entries hentries =>
      split at h
      next => cases h
      next v hv =>
        split at h
        next => cases h
        next s hvalue =>
          by_cases hzero : s.defaultLimit = 0
          · rw [if_pos hzero] at h
            cases h
          · rw [if_neg hzero] at h
            cases h
            exact ⟨entries, v, hentries, hv, hvalue, hzero⟩
  · intro ⟨entries, v, hentries, hv, hvalue, hzero⟩
    simp [hentries, hv, hvalue, hzero]

end QueryComposer.Settings
