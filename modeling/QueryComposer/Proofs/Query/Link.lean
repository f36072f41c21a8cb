import QueryComposer.Proofs.Form
import QueryComposer.Query.Link

/-! # What the save link hands over

    The link that hands a query over carries three texts as pairs of a form, and
    one of the three, the filter segment, consists of pairs of a form itself.  So
    names and values of filters are written twice over, and the receiver has to
    read twice to get at them.

    * Written pairs have nothing in them that could end the link early or cut it
      in another place (`mem_toList_encode`).
    * Different pairs are written differently (`encode_inj`), once or twice over.

    Nothing is asked of the query here: it need not fit any schema, and its names
    and values may be any text at all. -/

namespace QueryComposer

/-! ## Section 1: Text of pairs -/

namespace Form

/-- The characters with which pairs are put together. -/
def joints : List Char := ['+', '%', '=', '&']

theorem mem_encodePair {pair : String × String} {c : Char} (h : c ∈ encodePair pair) :
    isPlain c = true ∨ c ∈ joints := by
  have hpart : ∀ {s : String}, c ∈ encodePart s → isPlain c = true ∨ c ∈ joints := by
    intro s hc
    rcases isPlain_of_mem_encodePart hc with hplain | rfl | rfl
    · exact .inl hplain
    · exact .inr (by decide)
    · exact .inr (by decide)
  unfold encodePair at h
  rcases List.mem_append.mp h with hname | hrest
  · exact hpart hname
  · rcases List.mem_cons.mp hrest with rfl | hvalue
    · exact .inr (by decide)
    · exact hpart hvalue

theorem mem_intercalate {sep : Char} {ps : List (List Char)} {c : Char}
    (h : c ∈ [sep].intercalate ps) : c = sep ∨ ∃ p ∈ ps, c ∈ p := by
  induction ps with
  | nil => simp at h
  | cons p ps ih =>
    cases ps with
    | nil =>
      have hc : c ∈ p := by simpa using h
      exact .inr ⟨p, List.mem_cons_self, hc⟩
    | cons p' ps =>
      rw [List.intercalate_cons_cons, List.mem_append, List.mem_append] at h
      rcases h with (hc | hc) | hc
      · exact .inr ⟨p, List.mem_cons_self, hc⟩
      · exact .inl (List.mem_singleton.mp hc)
      · rcases ih hc with hsep | hex
        · exact .inl hsep
        · obtain ⟨p'', hp'', hc⟩ := hex
          exact .inr ⟨p'', List.mem_cons_of_mem p hp'', hc⟩

/-- Nothing else stands in written text, whatever was written. -/
theorem mem_toList_encode {pairs : List (String × String)} {c : Char}
    (h : c ∈ (encode pairs).toList) : isPlain c = true ∨ c ∈ joints := by
  unfold encode at h
  rw [String.toList_ofList] at h
  rcases mem_intercalate h with rfl | hpiece
  · exact .inr (by decide)
  · obtain ⟨piece, hmem, hc⟩ := hpiece
    obtain ⟨pair, -, rfl⟩ := List.mem_map.mp hmem
    exact mem_encodePair hc

theorem encode_inj {pairs pairs' : List (String × String)} :
    encode pairs = encode pairs' ↔ pairs = pairs' := by
  constructor
  · intro h
    have hread := congrArg decode h
    rwa [decode_encode, decode_encode] at hread
  · exact congrArg encode

end Form

/-! ## Section 2: The link -/

theorem Filters.segment_inj {fs fs' : Filters} : fs.segment = fs'.segment ↔ fs.pairs = fs'.pairs :=
  Form.encode_inj

theorem Parts.form_inj {p p' : Parts} : p.form = p'.form ↔ p = p' := by
  unfold form
  rw [Form.encode_inj]
  cases p
  cases p'
  simp

namespace Query

/-- **The save link carries the whole query.**  Behind the place where queries are kept stands
    a question mark, and then nothing that could end the link early.  What stands there is read
    as the three texts of the query, and the last of these as the name and the value of each
    filter.  So links to one place agree only for queries that agree in all of this: no name
    and no value can pass for something else. -/
theorem saveLink_carries_query (origin : String) (s : Schema) (q : Query) :
    q.saveLink origin s = origin ++ s.adminUrl ++ "?" ++ q.parts.form ∧
      (∀ c ∈ q.parts.form.toList, Form.isPlain c = true ∨ c ∈ Form.joints) ∧
      Form.decode q.parts.form =
        [("model", q.model), ("fields", q.columns.segment), ("query", q.filters.segment)] ∧
      Form.decode q.filters.segment =
        q.filters.map (fun f => (f.path ++ pathSeparator ++ f.lookup, f.value)) ∧
      ∀ q' : Query, q'.saveLink origin s = q.saveLink origin s ↔
        q'.model = q.model ∧ q'.columns.segment = q.columns.segment ∧
          q'.filters.pairs = q.filters.pairs := by
  refine ⟨rfl, fun c hc => Form.mem_toList_encode hc, Form.decode_encode _,
    Form.decode_encode _, fun q' => ?_⟩
  have hlink : q'.saveLink origin s = q.saveLink origin s ↔ q'.parts = q.parts := by
    rw [← Parts.form_inj]
    exact String.append_right_inj _
  rw [hlink, ← Filters.segment_inj]
  simp [parts]

/-- A query whose names and values look like parts of a link. -/
def trickyQuery : Query :=
  { model := "m&model=#"
    columns := [{ path := "a,b&query=" }]
    filters := [{ path := "n_", lookup := "_is", value := "1&limit=2" },
      { path := "", lookup := "", value := "50 %+Ä" }]
    limit := 0 }

/-- What stands behind the question mark in the link to it. -/
def trickyText : String :=
  "model=m%26model%3D%23&fields=a%2Cb%26query%3D" ++
    "&query=n____is%3D1%2526limit%253D2%26__%3D50%2B%2525%252B%25C3%2584"

theorem saveLink_carries_query_of_tricky :
    trickyQuery.parts.form = trickyText ∧
      '%' ∈ trickyText.toList ∧ (Form.isPlain '%' = true ∨ '%' ∈ Form.joints) ∧
      '#' ∈ trickyQuery.model.toList ∧ '#' ∉ trickyText.toList ∧
      Form.decode trickyText = [("model", "m&model=#"), ("fields", "a,b&query="),
        ("query", trickyQuery.filters.segment)] ∧
      Form.decode trickyQuery.filters.segment =
        [("n____is", "1&limit=2"), ("__", "50 %+Ä")] := by
  have htext : trickyQuery.parts.form = trickyText := by decide +kernel
  obtain ⟨-, hmem, hparts, hfilters, -⟩ :=
    saveLink_carries_query "https://example.org" (.mountedAt "/" "/views/") trickyQuery
  rw [htext] at hmem hparts
  have hpercent : '%' ∈ trickyText.toList := by decide +kernel
  refine ⟨htext, hpercent, hmem '%' hpercent, by decide, ?_, hparts, ?_⟩
  · intro hc
    exact absurd (hmem '#' hc) (by decide)
  · rw [hfilters]
    decide

end Query

end QueryComposer
