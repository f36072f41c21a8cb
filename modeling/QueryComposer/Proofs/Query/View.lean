import Mathlib.Data.List.Induction
import QueryComposer.Proofs.Form
import QueryComposer.Proofs.Query.WellFormed
import QueryComposer.Query.View

/-! # What the link of a view says

    A view names its row limit beside the stored texts, and the stored filter
    segment may name one too.  Opening the view lets the stored one go before;
    the link writes the view's own limit behind the segment, where it goes
    before any other.  So a view and its link always have the same filters, and
    the same row limit unless the stored query insists on another one. -/

namespace QueryComposer

open Outcome

/-! ## Section 1: Row limits among filters -/

/-- A limit in range is read back from its numeral. -/
theorem Limit.parse_repr {n : Nat} (hone : 1 ≤ n) (hbits : n ≤ greatest) :
    parse n.repr = .ok n := by
  have hdigits : ∀ c ∈ Text.decimal n, Text.isBlank c = false :=
    fun c hc => Text.isBlank_of_isDigit (Text.isDigit_of_mem_decimal hc)
  have htext : n.repr.toList = Text.decimal n := Nat.toList_repr
  have hfits : n < Nat.pow 2 63 := by
    have hgreatest : greatest < Nat.pow 2 63 := by decide
    omega
  have hclamp : clamp n = n := by
    rw [clamp_natCast hbits, Nat.max_eq_left hone]
  rw [parse, htext, Text.trim_eq_self hdigits, Text.integer64?_decimal hfits]
  exact congrArg Except.ok hclamp

namespace Filters

variable {s : Schema} {model segment : String} {parsed : Parsed}

/-- The row limit that a filter segment sets, as it reads: the last one counts. -/
def storedLimit? (segment : String) : Option (Except QueryError Nat) :=
  (((Form.decode segment).filter (·.1 = limitKey)).getLast?).map (Limit.parse ·.2)

/-- The limit read from a segment is the last one in it. -/
theorem storedLimit?_of_ofSegment (h : ofSegment s model segment = .ok parsed) :
    storedLimit? segment = parsed.limit.map .ok := by
  unfold storedLimit?
  unfold ofSegment at h
  generalize Form.decode segment = pairs at h ⊢
  -- the last pair decides, so the pairs are taken off from the end
  induction pairs using List.reverseRecOn generalizing parsed with
  | nil =>
    cases h
    rfl
  | append_singleton pairs pair ih =>
    rw [List.foldlM_append, bind_eq_ok] at h
    obtain ⟨before, hbefore, hpair⟩ := h
    rw [List.foldlM_cons, bind_eq_ok] at hpair
    obtain ⟨after, hpair, heq⟩ := hpair
    cases heq
    rw [readPair_eq_ok] at hpair
    rw [List.filter_append]
    split at hpair
    next hkey =>
      obtain ⟨n, hn, rfl⟩ := hpair
      have hlast : [pair].filter (·.1 = limitKey) = [pair] := by simp [hkey]
      rw [hlast, List.getLast?_append, List.getLast?_singleton]
      exact congrArg some hn
    next hkey =>
      obtain ⟨path, lookup, -, -, rfl⟩ := hpair
      have hlast : [pair].filter (·.1 = limitKey) = [] := by simp [hkey]
      have hrest := ih hbefore
      rwa [hlast, List.append_nil]

end Filters

/-! ## Section 2: The text of a link -/

namespace View

variable {s : Schema} {v : View} {q : Query}

/-- The row limit is written like any other pair at the end of a text. -/
theorem linkQuery_eq_append :
    v.linkQuery = Form.append v.query (Filters.limitKey, v.limit.repr) := by
  have hplain : ∀ c ∈ v.limit.repr.toList, Form.isPlain c = true := by
    intro c hc
    rw [Nat.toList_repr] at hc
    have hdigit : c.isDigit = true := Text.isDigit_of_mem_decimal hc
    simp [Form.isPlain, Char.isAlphanum, hdigit]
  have hwritten : String.ofList (Form.encodePair (Filters.limitKey, v.limit.repr)) =
      "limit=" ++ v.limit.repr := by
    have hkey : Form.encodePart Filters.limitKey = "limit".toList := by decide
    rw [← String.toList_inj]
    simp [Form.encodePair, hkey, Form.encodePart_of_plain hplain]
  unfold linkQuery Form.append
  simp only [hwritten]
  split
  next hempty => rw [String.isEmpty_iff.mp hempty, String.empty_append, String.empty_append]
  next => rw [String.append_assoc]

/-- The link names the pairs of the stored query, and then the row limit of the view. -/
theorem decode_linkQuery :
    Form.decode v.linkQuery = Form.decode v.query ++ [(Filters.limitKey, v.limit.repr)] := by
  rw [linkQuery_eq_append, Form.decode_append_pair]

/-- The text of a link is read as the stored query with the row limit of the view. -/
theorem ofSegment_linkQuery (hone : 1 ≤ v.limit) (hbits : v.limit ≤ Limit.greatest) (model : String) :
    Filters.ofSegment s model v.linkQuery =
      Filters.ofSegment s model v.query >>= fun parsed =>
        .ok { parsed with limit := some v.limit } := by
  have hlast : ∀ parsed : Filters.Parsed,
      Filters.readPair s model parsed (Filters.limitKey, v.limit.repr) =
        .ok { parsed with limit := some v.limit } := by
    intro parsed
    rw [Filters.readPair_eq_ok, if_pos rfl]
    exact ⟨v.limit, Limit.parse_repr hone hbits, rfl⟩
  unfold Filters.ofSegment
  rw [decode_linkQuery, List.foldlM_append]
  refine bind_congr fun parsed => ?_
  rw [List.foldlM_cons, hlast]
  rfl

/-- **A view and its link filter alike.**  Reading the link of a view that opens gives the
    filters of the query and the row limit of the view.  The query has the last limit that is
    stored with it, or else that of the view; so the link agrees with it in full exactly when
    no other limit than that of the view is the last one stored. -/
theorem linkQuery_reads_filters (s : Schema) (v : View) (q : Query) (hone : 1 ≤ v.limit)
    (hbits : v.limit ≤ Limit.greatest) (h : v.toQuery s = .ok q) :
    Filters.ofSegment s v.model v.linkQuery =
        .ok { filters := q.filters, limit := some v.limit } ∧
      (Filters.storedLimit? v.query).getD (.ok v.limit) = .ok q.limit ∧
      (Filters.ofSegment s v.model v.linkQuery =
          .ok { filters := q.filters, limit := some q.limit } ↔
        ∀ limit, Filters.storedLimit? v.query = some limit → limit = .ok v.limit) := by
  obtain ⟨-, cs, parsed, -, hparsed, hq⟩ := Query.ofParts_eq_ok.mp h
  have hfilters : q.filters = parsed.filters := by rw [hq]
  -- a limit that was read is at least one, so nothing is raised when the view is opened
  have hlimit : q.limit = parsed.limit.getD v.limit := by
    have hpositive : 1 ≤ parsed.limit.getD v.limit := by
      cases hn : parsed.limit with
      | none => exact hone
      | some n => exact (Filters.sound_of_ofSegment hparsed).one_le_limit n hn
    rw [hq]
    exact Nat.max_eq_left hpositive
  have hlink : Filters.ofSegment s v.model v.linkQuery =
      .ok { filters := q.filters, limit := some v.limit } := by
    rw [ofSegment_linkQuery hone hbits, hfilters]
    exact bind_eq_ok.mpr ⟨parsed, hparsed, rfl⟩
  have hstored : Filters.storedLimit? v.query = parsed.limit.map .ok :=
    Filters.storedLimit?_of_ofSegment hparsed
  rw [hlink, hstored, hlimit]
  refine ⟨rfl, ?_, ?_⟩
  · cases parsed.limit <;> rfl
  · cases parsed.limit <;> simp [eq_comm]

/-- People called Ann: a thousand of them by the view, five by its stored query. -/
def fewAnns : View :=
  { name := "Anns"
    model := "person"
    query := "limit=20&name__contains=Ann&limit=5"
    limit := 1000 }

/-- What the view is opened as. -/
def fewAnnsQuery : Query :=
  { model := "person"
    columns := []
    filters := [{ path := "name", lookup := "contains", value := "Ann" }]
    limit := 5 }

theorem toQuery_fewAnns : fewAnns.toQuery .staff = .ok fewAnnsQuery := by rfl

theorem linkQuery_reads_filters_of_fewAnns :
    1 ≤ fewAnns.limit ∧ fewAnns.limit ≤ Limit.greatest ∧
      fewAnns.toQuery .staff = .ok fewAnnsQuery ∧
      Filters.ofSegment .staff "person" fewAnns.linkQuery =
        .ok { filters := fewAnnsQuery.filters, limit := some 1000 } :=
  have hone : 1 ≤ fewAnns.limit := by decide
  have hbits : fewAnns.limit ≤ Limit.greatest := by decide
  ⟨hone, hbits, toQuery_fewAnns,
    (linkQuery_reads_filters .staff fewAnns fewAnnsQuery hone hbits toQuery_fewAnns).1⟩

/-- A view that is opened with one row limit and linked to with another. -/
def limitedTwice : View := { name := "People", model := "person", query := "limit=5", limit := 1000 }

/-- A view and its link do not always have the same row limit. -/
theorem limitedTwice_disagrees : 1 ≤ limitedTwice.limit ∧
    ∃ q, limitedTwice.toQuery .staff = .ok q ∧ q.limit = 5 ∧
    limitedTwice.linkQuery = "limit=5&limit=1000" ∧
    Filters.ofSegment .staff limitedTwice.model limitedTwice.linkQuery =
      .ok { filters := q.filters, limit := some 1000 } ∧
    Filters.ofSegment .staff limitedTwice.model limitedTwice.linkQuery ≠
      .ok { filters := q.filters, limit := some q.limit } := by
  refine ⟨by decide, { model := "person", columns := [], filters := [], limit := 5 },
    ?_, ?_, ?_, ?_, ?_⟩
  · rfl
  · rfl
  · decide
  · decide +kernel
  · decide +kernel

end View

end QueryComposer
