import QueryComposer.Proofs.Query.Document
import QueryComposer.Proofs.Query.RoundTrip
import QueryComposer.Proofs.Query.View
import QueryComposer.Query.Document

/-! # Views bring their queries back

    A query is kept as a view, and the view as a document.  When the document is
    read again, the view can be opened, or its link can be followed; either way
    the query comes back as it was, without its rows and messages.

    The lemmas follow that way: from the view to its document and back, from the
    view to its query, and from the link to the query. -/

namespace QueryComposer

open Outcome

namespace View

variable {s : Schema} {v : View} {q : Query} {w : Json}

/-! ## Section 1: Documents of views -/

/-- A view is read back from its document, wherever the members stand in it.  Its row limit is
    at least 1 then. -/
theorem ofJson?_of_reordered (hbits : v.limit ≤ Limit.greatest) (h : v.toJson.Reordered w) :
    ofJson? w = some { v with limit := max v.limit 1 } := by
  have htells := tells_toJson hbits
  exact htells.read_same w (htells.same.of_reordered h)

/-- The document of a view is settled by putting its members in the order of their names. -/
theorem exists_settled?_toJson (v : View) :
    ∃ w, v.toJson.settled? = some w ∧ v.toJson.Reordered w := by
  have hnodup : members.Nodup := by decide
  refine Json.exists_reordered_settled? ?_ hnodup
  simp [Json.settled?, Json.ofNat]

/-! ## Section 2: Links of views -/

/-- Following the link of a view opens it, with its own row limit in any case. -/
theorem ofParts_linkQuery (hone : 1 ≤ v.limit) (hbits : v.limit ≤ Limit.greatest)
    (h : v.toQuery s = .ok q) (limit : Nat) :
    Query.ofParts s { v.parts with query := v.linkQuery } limit =
      .ok { q with limit := v.limit } := by
  obtain ⟨hmodel, cs, parsed, hcs, hparsed, rfl⟩ := Query.ofParts_eq_ok.mp h
  have hlink : Filters.ofSegment s v.model v.linkQuery =
      .ok { parsed with limit := some v.limit } := by
    rw [ofSegment_linkQuery hone hbits]
    exact bind_eq_ok.mpr ⟨parsed, hparsed, rfl⟩
  rw [Query.ofParts_eq_ok]
  refine ⟨hmodel, cs, _, hcs, hlink, ?_⟩
  simp [Query.empty, Nat.max_eq_left hone]

/-- What stands in the link behind the fields segment and its ending. -/
theorem eq_linkQuery_of_link {text : String}
    (h : v.link = "/query/" ++ v.model ++ "/" ++ v.fields ++ ".html?" ++ text) :
    text = v.linkQuery := by
  unfold link at h
  exact (String.append_right_inj _).mp h.symm

/-! ## Section 3: Keeping a query -/

/-- The query as a view of which everything is told: its name, what it is for and whether it is
    for everybody. -/
def keeping (q : Query) (name description : String) (isPublic : Bool) : View :=
  let v := (ofQuery q name).withDescription description
  if isPublic then v.published else v

variable {name description : String} {isPublic : Bool}

@[simp] theorem parts_keeping : (keeping q name description isPublic).parts = q.parts := by
  cases isPublic <;> rfl

@[simp] theorem limit_keeping : (keeping q name description isPublic).limit = q.limit := by
  cases isPublic <;> rfl

/-- **Views bring their queries back.**  Keep a checked query of portable columns and filters as
    a view, under any name.  Read back from its document, settled or with the members in any
    other order, the view is the same; opened, it is the query without its rows and messages.
    So is what stands in its link, whatever row limit it is read with. -/
theorem keeping_opens_bare (s : Schema) (q : Query) (name description : String) (isPublic : Bool)
    (h : q.Checked s) (hfits : q.columns.length < Nat.pow 2 64) (hbits : q.limit ≤ Limit.greatest)
    (hcolumns : ∀ c ∈ q.columns, c.Portable) (hfilters : ∀ f ∈ q.filters, f.Portable) :
    let v := keeping q name description isPublic
    (∃ w, v.toJson.settled? = some w ∧ ofJson? w = some v) ∧
      (∀ w, v.toJson.Reordered w → ofJson? w = some v) ∧
      v.toQuery s = .ok q.bare ∧
      ∀ text limit, v.link = "/query/" ++ v.model ++ "/" ++ v.fields ++ ".html?" ++ text →
        Query.ofParts s { v.parts with query := text } limit = .ok q.bare := by
  intro v
  have hlimit : v.limit = q.limit := limit_keeping
  have hone : 1 ≤ v.limit := hlimit ▸ h.one_le_limit
  have hread : ∀ w, v.toJson.Reordered w → ofJson? w = some v := by
    intro w hw
    rw [ofJson?_of_reordered (hlimit ▸ hbits) hw, Nat.max_eq_left hone]
  have hopen : v.toQuery s = .ok q.bare := by
    unfold toQuery
    rw [hlimit, parts_keeping]
    exact Query.ofParts_parts (Query.checked_iff_wellFormed.mp h) hfits hcolumns hfilters
  refine ⟨?_, hread, hopen, ?_⟩
  · obtain ⟨w, hsettled, hw⟩ := exists_settled?_toJson v
    exact ⟨w, hsettled, hread w hw⟩
  · intro text limit htext
    rw [eq_linkQuery_of_link htext, ofParts_linkQuery hone (hlimit ▸ hbits) hopen, hlimit]
    rfl

/-- The text behind the fields segment in the link to the odd query. -/
def oddText : String := "n___gte=%C3%84%26%3D%2B%25&limit=7"

theorem keeping_opens_bare_of_oddQuery :
    let q := Query.oddQuery (some .descending)
    let v := keeping q "Odd" "one of a kind" true
    q.Checked Query.oddNames ∧ q.columns.length < Nat.pow 2 64 ∧ q.limit ≤ Limit.greatest ∧
      (∀ c ∈ q.columns, c.Portable) ∧ (∀ f ∈ q.filters, f.Portable) ∧
      (∃ w, v.toJson.settled? = some w ∧ ofJson? w = some v) ∧
      v.toQuery Query.oddNames = .ok q.bare ∧
      Query.ofParts Query.oddNames { v.parts with query := oddText } 1000 = .ok q.bare := by
  intro q v
  have hchecked : q.Checked Query.oddNames := Query.checked_oddQuery _
  have hfits : q.columns.length < Nat.pow 2 64 := by
    show 2 < Nat.pow 2 64
    decide
  have hbits : q.limit ≤ Limit.greatest := by
    show 7 ≤ Limit.greatest
    decide
  have hcolumns : ∀ c ∈ q.columns, c.Portable := by decide
  have hfilters : ∀ f ∈ q.filters, f.Portable := by decide
  obtain ⟨hsettled, -, hopen, hlink⟩ := keeping_opens_bare Query.oddNames q "Odd" "one of a kind" true
    hchecked hfits hbits hcolumns hfilters
  exact ⟨hchecked, hfits, hbits, hcolumns, hfilters, hsettled, hopen,
    hlink oddText 1000 (by decide +kernel)⟩

end View

end QueryComposer
