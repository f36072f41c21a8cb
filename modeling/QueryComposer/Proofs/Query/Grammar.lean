import QueryComposer.Proofs.Query.Segment

/-! # What the fields segment may say

    Between commas an entry is a path by itself, or a path, a sign and a number
    in digits (`Column.WrittenAs`).  Reading accepts these and nothing else, as
    long as the paths lead to columns, and of the numbers only their order is
    kept: each sorted column gets the count of those that go before it.

    * `readEntry_eq_error`: what is wrong with an entry that cannot be read.
    * `ranked`: the columns that entries make up together.
    * `ofSegment_follows_grammar`: when a segment is read, with what result, and
      with what error otherwise. -/

namespace QueryComposer.Columns

open Outcome

variable {s : Schema} {model segment : String} {entry : List Char} {cs : Columns}
  {e : QueryError}

/-! ## Section 1: Entries that are accepted and entries that are not -/

/-- The entry says something of a column whose path leads to a field with a type. -/
def Accepted (s : Schema) (model : String) (entry : List Char) (c : Column) : Prop :=
  Column.WrittenAs entry c ∧ ∃ f, s.column model c.path = .ok f

/-- What is wrong with an entry: it says nothing of a column, or its path leads to none. -/
def Refused (s : Schema) (model : String) (entry : List Char) (e : QueryError) : Prop :=
  (∀ c, ¬ Column.WrittenAs entry c) ∧ e = .malformedFields (String.ofList entry) ∨
    ∃ c, Column.WrittenAs entry c ∧ s.column model c.path = .error e

theorem readEntry_eq_ok_iff {c : Column} :
    readEntry s model entry = .ok c ↔ Accepted s model entry c := by
  rw [readEntry_eq_ok, Column.ofSegment?_eq_some_iff]
  rfl

theorem readEntry_eq_error : readEntry s model entry = .error e ↔ Refused s model entry e := by
  unfold readEntry Refused
  simp only [← Column.ofSegment?_eq_some_iff]
  cases Column.ofSegment? entry with
  | none => simp [eq_comm]
  | some c =>
    show (s.column model c.path >>= fun _ => pure c) = .error e ↔ _
    rw [map_eq_error]
    simp

theorem ofSegment_eq_error : ofSegment s model segment = .error e ↔
    ∃ before entry after, entries segment = before ++ entry :: after ∧
      (∀ x ∈ before, ∃ c, Accepted s model x c) ∧ Refused s model entry e := by
  unfold ofSegment
  rw [map_eq_error, mapM_eq_error]
  simp only [readEntry_eq_ok_iff, readEntry_eq_error]

theorem Accepted.not_refused {c : Column} (h : Accepted s model entry c) :
    ¬ Refused s model entry e := by
  rw [← readEntry_eq_ok_iff] at h
  rw [← readEntry_eq_error, h]
  exact nofun

/-! ## Section 2: Columns and their ranks -/

/-- The columns in the order of their entries.  A number gives way to the count of the numbers
    that go before it, smaller ones or the same further to the left. -/
def ranked (written : Columns) : Columns :=
  written.mapIdx fun i c => { c with priority := c.priority.map (written.countBefore · i) }

theorem ofSegment_eq_ok_iff : ofSegment s model segment = .ok cs ↔
    ∃ written, List.Forall₂ (Accepted s model) (entries segment) written ∧
      cs = ranked written := by
  rw [ofSegment_eq_ok]
  simp only [readEntry_eq_ok_iff]
  refine exists_congr fun written => and_congr_right fun h => ?_
  -- an entry has a number exactly if it has a sign, so every rank is a number as written
  have hmatch : PrioritiesMatch written := by
    intro c hc
    obtain ⟨entry, -, hwritten, -⟩ := exists_of_mem_right h hc
    exact hwritten.sort_isSome
  rw [hmatch.renumber_eq]
  rfl

/-- Of two equal numbers the one further to the left goes first, and gaps are closed. -/
example :
    ranked [.sorted "a" .ascending 7, .sorted "b" .descending 7, { path := "c" },
        .sorted "a" .descending 3] =
      [.sorted "a" .ascending 1, .sorted "b" .descending 2, { path := "c" },
        .sorted "a" .descending 0] := by decide

/-- **The fields segment follows its grammar.**  A segment is read exactly when every entry is
    accepted; then there is one column for each entry, ranked by number and position.  It fails
    with what is wrong with the first entry that is refused. -/
theorem ofSegment_follows_grammar (s : Schema) (model segment : String) :
    ((∃ cs, ofSegment s model segment = .ok cs) ↔
      ∀ entry ∈ entries segment, ∃ c, Accepted s model entry c) ∧
    (∀ cs, ofSegment s model segment = .ok cs ↔
      ∃ written, List.Forall₂ (Accepted s model) (entries segment) written ∧
        cs = ranked written) ∧
    ∀ e, ofSegment s model segment = .error e ↔
      ∃ before entry after, entries segment = before ++ entry :: after ∧
        (∀ x ∈ before, ∃ c, Accepted s model x c) ∧ Refused s model entry e := by
  refine ⟨?_, fun cs => ofSegment_eq_ok_iff, fun e => ofSegment_eq_error⟩
  constructor
  · intro hread entry hentry
    obtain ⟨cs, hcs⟩ := hread
    obtain ⟨written, hwritten, -⟩ := ofSegment_eq_ok_iff.mp hcs
    obtain ⟨c, -, hc⟩ := exists_of_mem_left hwritten hentry
    exact ⟨c, hc⟩
  · intro haccepted
    cases h : ofSegment s model segment with
    | ok cs => exact ⟨cs, rfl⟩
    | error e =>
      -- the entry that is refused would have to be accepted too
      obtain ⟨before, entry, after, heq, -, hrefused⟩ := ofSegment_eq_error.mp h
      have hentry : entry ∈ entries segment := by simp [heq]
      obtain ⟨c, hc⟩ := haccepted entry hentry
      exact absurd hrefused hc.not_refused

end QueryComposer.Columns
