import QueryComposer.Proofs.Form
import QueryComposer.Proofs.Query.WellFormed

/-! # Filter segments glued together

    Links and models get their filter segments by gluing: one text, an
    ampersand, another text.  Whatever the two texts are, each is read as if it
    stood alone, and what they say is put together afterwards.

    * `Parsed.followedBy` puts together what two texts say.
    * What was read before plays no part in what a pair says
      (`readPair_followedBy`), and hence none in what all pairs say
      (`foldlM_readPair_followedBy`). -/

namespace QueryComposer.Filters

open Outcome

variable {s : Schema} {model : String} {before after : Parsed}

/-! ## Section 1: What texts say together -/

/-- What two texts say one after the other: the filters of both, and the last row limit. -/
def Parsed.followedBy (before after : Parsed) : Parsed :=
  { filters := before.filters ++ after.filters
    limit := after.limit.or before.limit }

theorem followedBy_nothing : before.followedBy {} = before := by
  simp [Parsed.followedBy]

/-- A pair says the same whatever has been read before. -/
theorem readPair_followedBy (pair : String × String) :
    readPair s model (before.followedBy after) pair =
      readPair s model after pair >>= fun parsed => .ok (before.followedBy parsed) := by
  unfold readPair
  split
  next => cases Limit.parse pair.2 <;> rfl
  next =>
    split
    next => rfl
    next path lookup hcut =>
      cases s.checkLookup model path lookup with
      | error e => rfl
      | ok _ => simp [Parsed.followedBy]

/-- Pairs say the same whatever has been read before. -/
theorem foldlM_readPair_followedBy (pairs : List (String × String)) :
    pairs.foldlM (readPair s model) (before.followedBy after) =
      pairs.foldlM (readPair s model) after >>= fun parsed => .ok (before.followedBy parsed) := by
  -- `after` is what the second text has said so far, which grows with every pair
  induction pairs generalizing after with
  | nil => rfl
  | cons pair pairs ih =>
    rw [List.foldlM_cons, List.foldlM_cons, readPair_followedBy, bind_assoc, bind_assoc]
    exact bind_congr fun parsed => ih

/-- Text that is read after other text is read as if it stood alone. -/
theorem ofSegment_append (s : Schema) (model a b : String) : ofSegment s model (a ++ "&" ++ b) =
    ofSegment s model a >>= fun before =>
      ofSegment s model b >>= fun after => .ok (before.followedBy after) := by
  unfold ofSegment
  rw [Form.decode_append, List.foldlM_append]
  refine bind_congr fun before => ?_
  rw [← foldlM_readPair_followedBy, followedBy_nothing]

/-! ## Section 2: The law of gluing -/

/-- **Glued texts are read in turn.**  A text glued together from two is read exactly if both of
    them are.  It says what the first says and then what the second says, whose row limit goes
    before that of the first.  It fails with the error of the first, or else of the second. -/
theorem ofSegment_glued (s : Schema) (model a b : String) :
    ((∃ parsed, ofSegment s model (a ++ "&" ++ b) = .ok parsed) ↔
      (∃ before, ofSegment s model a = .ok before) ∧ ∃ after, ofSegment s model b = .ok after) ∧
    (∀ parsed, ofSegment s model (a ++ "&" ++ b) = .ok parsed ↔
      ∃ before after, ofSegment s model a = .ok before ∧ ofSegment s model b = .ok after ∧
        parsed = { filters := before.filters ++ after.filters
                   limit := after.limit.or before.limit }) ∧
    ∀ e, ofSegment s model (a ++ "&" ++ b) = .error e ↔
      ofSegment s model a = .error e ∨
        (∃ before, ofSegment s model a = .ok before) ∧ ofSegment s model b = .error e := by
  have hok : ∀ parsed, ofSegment s model (a ++ "&" ++ b) = .ok parsed ↔
      ∃ before after, ofSegment s model a = .ok before ∧ ofSegment s model b = .ok after ∧
        parsed = before.followedBy after := by
    intro parsed
    simp only [ofSegment_append, bind_eq_ok, Except.ok.injEq, eq_comm (a := parsed),
      exists_and_left]
  refine ⟨?_, hok, ?_⟩
  · constructor
    · intro ⟨parsed, hparsed⟩
      obtain ⟨before, after, hbefore, hafter, -⟩ := (hok parsed).mp hparsed
      exact ⟨⟨before, hbefore⟩, after, hafter⟩
    · intro ⟨⟨before, hbefore⟩, after, hafter⟩
      exact ⟨_, (hok _).mpr ⟨before, after, hbefore, hafter, rfl⟩⟩
  · intro e
    simp only [ofSegment_append, bind_eq_error, reduceCtorEq, and_false, exists_false, or_false,
      exists_and_right]

/-- A broken escape, empty pieces and a second row limit on either side of the ampersand. -/
example : ofSegment .staff "person" ("limit=7&&name__contains=50%" ++ "&" ++ "&age__gte&limit=2") =
    .ok { filters := [{ path := "name", lookup := "contains", value := "50%" },
            { path := "age", lookup := "gte", value := "" }]
          limit := some 2 } := by decide +kernel

end QueryComposer.Filters
