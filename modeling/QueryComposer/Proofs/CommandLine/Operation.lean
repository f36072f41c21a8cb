import QueryComposer.CommandLine.Operation
import QueryComposer.Proofs.Outcome
import QueryComposer.Proofs.Text.Numeral

/-! # What operations say

    An operation is a kind, a colon and an argument.  The kind decides what the
    argument has to be: any text, a position, a position and a value with an equals
    sign between them, or nothing that matters.  Colons and equals signs behind the
    first ones belong to the argument and the value.

    * `Operation.Fits` and `Operation.Misfits`: what an argument says for a kind, and
      what is wrong with one that says nothing.
    * `Operation.Says` and `Operation.Refuses`: the same of a whole word.
    * `Operation.parse_follows_grammar`: reading follows this grammar, takes texts and
      values as they stand, and refuses all other words. -/

namespace QueryComposer.Operation

open Outcome

variable {kind word : String} {argument text value : List Char} {c : Command} {i : Nat}
  {e : OperationError}

/-! ## Section 1: The grammar -/

/-- The kinds whose argument is a text, with what they do to it. -/
def textKinds : List (String × (String → Command)) :=
  [("add-field", .addField), ("add-sorted-field", .addFieldWithDefaultSort),
   ("add-filter", .addFilter), ("limit", .setLimit), ("model", .setModel)]

/-- The kinds whose argument is a position. -/
def indexKinds : List (String × (Nat → Command)) :=
  [("remove-field", .removeField), ("toggle-sort", .toggleSort), ("remove-filter", .removeFilter)]

/-- The kinds whose argument is a position and a value. -/
def assignmentKinds : List (String × (Nat → String → Command)) :=
  [("filter-value", .setFilterValue), ("filter-lookup", .setFilterLookup)]

/-- The text is a position: a number of 64 bits. -/
def IsIndex (text : List Char) (i : Nat) : Prop := Text.SpelledBelow (Nat.pow 2 64) text i

/-- What an argument says for a kind. -/
inductive Fits : String → List Char → Command → Prop where
  | text {kind : String} {make : String → Command} (argument : List Char) :
      (kind, make) ∈ textKinds → Fits kind argument (make (String.ofList argument))
  | index {kind : String} {make : Nat → Command} {argument : List Char} {i : Nat} :
      (kind, make) ∈ indexKinds → IsIndex argument i → Fits kind argument (make i)
  | assignment {kind : String} {make : Nat → String → Command} {text : List Char} {i : Nat}
      (value : List Char) : (kind, make) ∈ assignmentKinds → '=' ∉ text → IsIndex text i →
      Fits kind (text ++ '=' :: value) (make i (String.ofList value))
  | defaults (argument : List Char) : Fits "default-filters" argument .applyDefaultFilters

/-- What a word says: its first colon ends the kind. -/
inductive Says : List Char → Command → Prop where
  | intro {kind : String} {argument : List Char} {c : Command} :
      ':' ∉ kind.toList → Fits kind argument c → Says (kind.toList ++ ':' :: argument) c

/-- All kinds. -/
def kinds : List String :=
  textKinds.map (·.1) ++ indexKinds.map (·.1) ++ assignmentKinds.map (·.1) ++ ["default-filters"]

theorem mem_kinds : kind ∈ kinds ↔ (∃ make, (kind, make) ∈ textKinds) ∨
    (∃ make, (kind, make) ∈ indexKinds) ∨ (∃ make, (kind, make) ∈ assignmentKinds) ∨
    kind = "default-filters" := by
  simp [kinds]

/-- What is wrong with a kind or with its argument. -/
inductive Misfits : String → List Char → OperationError → Prop where
  | kind {kind : String} (argument : List Char) : kind ∉ kinds →
      Misfits kind argument (.unknownKind kind)
  | index {kind : String} {make : Nat → Command} {argument : List Char} :
      (kind, make) ∈ indexKinds → (∀ i, ¬ IsIndex argument i) →
      Misfits kind argument (.notAnIndex (String.ofList argument))
  | value {kind : String} {make : Nat → String → Command} {argument : List Char} :
      (kind, make) ∈ assignmentKinds → '=' ∉ argument →
      Misfits kind argument (.missingValue (String.ofList argument))
  | assignedIndex {kind : String} {make : Nat → String → Command} {text : List Char}
      (value : List Char) : (kind, make) ∈ assignmentKinds → '=' ∉ text →
      (∀ i, ¬ IsIndex text i) →
      Misfits kind (text ++ '=' :: value) (.notAnIndex (String.ofList text))

/-- What is wrong with a word. -/
inductive Refuses : List Char → OperationError → Prop where
  | noKind {word : List Char} : ':' ∉ word → Refuses word (.missingKind (String.ofList word))
  | misfit {kind : String} {argument : List Char} {e : OperationError} :
      ':' ∉ kind.toList → Misfits kind argument e → Refuses (kind.toList ++ ':' :: argument) e

/-! ## Section 2: Reading -/

theorem index_eq_ok : index text = .ok i ↔ IsIndex text i := by
  unfold index IsIndex
  rw [← Text.unsignedBelow?_trim_eq_some]
  cases Text.unsignedBelow? (Nat.pow 2 64) (Text.trim text) with
  | none => simp
  | some j => simp

theorem assignment_eq_ok {s : String} : assignment argument = .ok (i, s) ↔
    ∃ text value, '=' ∉ text ∧ argument = text ++ '=' :: value ∧ IsIndex text i ∧
      s = String.ofList value := by
  unfold assignment
  constructor
  · intro h
    split at h
    next text value hcut =>
      obtain ⟨j, hj, heq⟩ := bind_eq_ok.mp h
      cases heq
      obtain ⟨hfree, hargument⟩ := Text.cutFirst_eq_some.mp hcut
      exact ⟨text, value, hfree, hargument, index_eq_ok.mp hj, rfl⟩
    next => cases h
  · intro ⟨text, value, hfree, hargument, hi, hs⟩
    rw [Text.cutFirst_eq_some.mpr ⟨hfree, hargument⟩, hs]
    exact bind_eq_ok.mpr ⟨i, index_eq_ok.mpr hi, rfl⟩

theorem index_eq_error : index text = .error e ↔
    (∀ i, ¬ IsIndex text i) ∧ e = .notAnIndex (String.ofList text) := by
  simp only [← index_eq_ok]
  unfold index
  cases Text.unsignedBelow? (Nat.pow 2 64) (Text.trim text) with
  | none => simp [eq_comm]
  | some j => simp

theorem assignment_eq_error : assignment argument = .error e ↔
    '=' ∉ argument ∧ e = .missingValue (String.ofList argument) ∨
      ∃ text value, '=' ∉ text ∧ argument = text ++ '=' :: value ∧
        (∀ i, ¬ IsIndex text i) ∧ e = .notAnIndex (String.ofList text) := by
  unfold assignment
  constructor
  · intro h
    split at h
    next text value hcut =>
      rw [map_eq_error] at h
      obtain ⟨hnone, he⟩ := index_eq_error.mp h
      obtain ⟨hfree, hargument⟩ := Text.cutFirst_eq_some.mp hcut
      exact .inr ⟨text, value, hfree, hargument, hnone, he⟩
    next hcut =>
      cases h
      exact .inl ⟨Text.cutFirst_eq_none.mp hcut, rfl⟩
  · rintro (⟨hfree, he⟩ | ⟨text, value, hfree, hargument, hnone, he⟩)
    · rw [Text.cutFirst_eq_none.mpr hfree, he]
    · rw [Text.cutFirst_eq_some.mpr ⟨hfree, hargument⟩]
      exact map_eq_error.mpr (index_eq_error.mpr ⟨hnone, he⟩)

theorem command_of_text {make : String → Command} (h : (kind, make) ∈ textKinds) :
    command kind argument = .ok (make (String.ofList argument)) := by
  simp only [textKinds, List.mem_cons, List.not_mem_nil, or_false, Prod.mk.injEq] at h
  rcases h with ⟨rfl, rfl⟩ | ⟨rfl, rfl⟩ | ⟨rfl, rfl⟩ | ⟨rfl, rfl⟩ | ⟨rfl, rfl⟩
  all_goals rfl

theorem command_of_index {make : Nat → Command} (h : (kind, make) ∈ indexKinds) :
    command kind argument = index argument >>= fun i => pure (make i) := by
  simp only [indexKinds, List.mem_cons, List.not_mem_nil, or_false, Prod.mk.injEq] at h
  rcases h with ⟨rfl, rfl⟩ | ⟨rfl, rfl⟩ | ⟨rfl, rfl⟩
  all_goals rfl

theorem command_of_assignment {make : Nat → String → Command} (h : (kind, make) ∈ assignmentKinds) :
    command kind argument = assignment argument >>= fun x => pure (make x.1 x.2) := by
  simp only [assignmentKinds, List.mem_cons, List.not_mem_nil, or_false, Prod.mk.injEq] at h
  rcases h with ⟨rfl, rfl⟩ | ⟨rfl, rfl⟩
  all_goals rfl

theorem command_of_not_mem_kinds (h : kind ∉ kinds) :
    command kind argument = .error (.unknownKind kind) := by
  unfold command
  dsimp only
  split
  -- every kind that is told apart is one of the list
  all_goals first | rfl | exact absurd (by decide) h

theorem command_eq_ok : command kind argument = .ok c ↔ Fits kind argument c := by
  constructor
  · intro h
    by_cases hkind : kind ∈ kinds
    · rcases mem_kinds.mp hkind with ⟨make, hmake⟩ | ⟨make, hmake⟩ | ⟨make, hmake⟩ | rfl
      · rw [command_of_text hmake] at h
        cases h
        exact .text argument hmake
      · rw [command_of_index hmake] at h
        obtain ⟨i, hi, heq⟩ := bind_eq_ok.mp h
        cases heq
        exact .index hmake (index_eq_ok.mp hi)
      · rw [command_of_assignment hmake] at h
        obtain ⟨⟨i, s⟩, hassigned, heq⟩ := bind_eq_ok.mp h
        cases heq
        obtain ⟨text, value, hfree, rfl, hi, rfl⟩ := assignment_eq_ok.mp hassigned
        exact .assignment value hmake hfree hi
      · cases h
        exact .defaults argument
    · rw [command_of_not_mem_kinds hkind] at h
      cases h
  · intro h
    cases h with
    | text argument hmake => exact command_of_text hmake
    | index hmake hi =>
      rw [command_of_index hmake, index_eq_ok.mpr hi]
      rfl
    | assignment value hmake hfree hi =>
      rw [command_of_assignment hmake, assignment_eq_ok.mpr ⟨_, value, hfree, rfl, hi, rfl⟩]
      rfl
    | defaults argument => rfl

theorem command_eq_error : command kind argument = .error e ↔ Misfits kind argument e := by
  constructor
  · intro h
    by_cases hkind : kind ∈ kinds
    · rcases mem_kinds.mp hkind with ⟨make, hmake⟩ | ⟨make, hmake⟩ | ⟨make, hmake⟩ | rfl
      · rw [command_of_text hmake] at h
        cases h
      · rw [command_of_index hmake, map_eq_error] at h
        obtain ⟨hnone, rfl⟩ := index_eq_error.mp h
        exact .index hmake hnone
      · rw [command_of_assignment hmake, map_eq_error] at h
        rcases assignment_eq_error.mp h with ⟨hfree, rfl⟩ | ⟨text, value, hfree, rfl, hnone, rfl⟩
        · exact .value hmake hfree
        · exact .assignedIndex value hmake hfree hnone
      · cases h
    · rw [command_of_not_mem_kinds hkind] at h
      cases h
      exact .kind argument hkind
  · intro h
    cases h with
    | kind argument hkind => exact command_of_not_mem_kinds hkind
    | index hmake hnone =>
      rw [command_of_index hmake, map_eq_error]
      exact index_eq_error.mpr ⟨hnone, rfl⟩
    | value hmake hfree =>
      rw [command_of_assignment hmake, map_eq_error]
      exact assignment_eq_error.mpr (.inl ⟨hfree, rfl⟩)
    | assignedIndex value hmake hfree hnone =>
      rw [command_of_assignment hmake, map_eq_error]
      exact assignment_eq_error.mpr (.inr ⟨_, value, hfree, rfl, hnone, rfl⟩)

/-! ## Section 3: Words -/

theorem parse_eq_of_no_colon (h : ':' ∉ word.toList) : parse word = .error (.missingKind word) := by
  unfold parse
  rw [Text.cutFirst_eq_none.mpr h]

/-- A word with a colon is a kind and an argument. -/
theorem parse_eq_of_colon (hkind : ':' ∉ kind.toList)
    (hword : word.toList = kind.toList ++ ':' :: argument) :
    parse word = command kind argument := by
  unfold parse
  rw [Text.cutFirst_eq_some.mpr ⟨hkind, hword⟩]
  show command (String.ofList kind.toList) argument = _
  rw [String.ofList_toList]

theorem exists_kind_of_colon (h : ':' ∈ word.toList) : ∃ kind : String, ∃ argument,
    ':' ∉ kind.toList ∧ word.toList = kind.toList ++ ':' :: argument := by
  cases hcut : Text.cutFirst ':' word.toList with
  | none => exact absurd h (Text.cutFirst_eq_none.mp hcut)
  | some cut =>
    obtain ⟨hfree, hword⟩ := Text.cutFirst_eq_some.mp hcut
    exact ⟨String.ofList cut.1, cut.2, by simpa using hfree, by simpa using hword⟩

theorem parse_eq_error : parse word = .error e ↔ Refuses word.toList e := by
  constructor
  · intro h
    by_cases hcolon : ':' ∈ word.toList
    · obtain ⟨kind, argument, hkind, hword⟩ := exists_kind_of_colon hcolon
      rw [parse_eq_of_colon hkind hword] at h
      rw [hword]
      exact .misfit hkind (command_eq_error.mp h)
    · rw [parse_eq_of_no_colon hcolon] at h
      cases h
      have hrefuses := Refuses.noKind hcolon
      rwa [String.ofList_toList] at hrefuses
  · intro h
    generalize hword : word.toList = cs at h
    cases h with
    | noKind hcolon =>
      rw [← hword] at hcolon ⊢
      rw [parse_eq_of_no_colon hcolon, String.ofList_toList]
    | misfit hkind hmisfits =>
      rw [parse_eq_of_colon hkind hword]
      exact command_eq_error.mpr hmisfits

theorem parse_eq_ok : parse word = .ok c ↔ Says word.toList c := by
  constructor
  · intro h
    by_cases hcolon : ':' ∈ word.toList
    · obtain ⟨kind, argument, hkind, hword⟩ := exists_kind_of_colon hcolon
      rw [parse_eq_of_colon hkind hword] at h
      rw [hword]
      exact .intro hkind (command_eq_ok.mp h)
    · rw [parse_eq_of_no_colon hcolon] at h
      cases h
  · intro h
    generalize hword : word.toList = cs at h
    cases h with
    | intro hkind hfits =>
      rw [parse_eq_of_colon hkind hword]
      exact command_eq_ok.mpr hfits

/-- **Reading follows the grammar.**  A word is read as a command exactly if it says that
    command: its kind is one of the list, and what stands behind the first colon fits the kind.
    Texts and values are taken as they stand there.  Any other word is refused, with the first
    thing that is wrong with it. -/
theorem parse_follows_grammar (word : String) :
    (∀ c, parse word = .ok c ↔ Says word.toList c) ∧
      ∀ e, parse word = .error e ↔ Refuses word.toList e :=
  ⟨fun _ => parse_eq_ok, fun _ => parse_eq_error⟩

/-- A position has blanks and a sign around it; a value may have anything in it. -/
example : parse "filter-value: +07 =a:b=c" = .ok (.setFilterValue 7 "a:b=c") := by rfl

end QueryComposer.Operation
