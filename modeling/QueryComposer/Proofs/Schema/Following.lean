import QueryComposer.Proofs.Schema.Listing

/-! # Paths in two parts

    A path is followed name by name.  So a path in two parts is followed through
    the first part, and from the model that this part leads to through the
    second one as if it had been asked for by itself.  Only the errors remember
    where the path began.

    * `LeadsTo s model names model'` says that the names, followed as relations,
      lead from one model to another.
    * `QueryError.onPath` is an error as it is told about another path.
    * `resolve_in_two_parts` puts both together, and says what happens where the
      first part leads nowhere.

    Nothing is asked of the schema: relations may run in circles, and may lead to
    models that do not exist. -/

namespace QueryComposer

open Outcome

/-- The error as it is told about another path; the name that leads nowhere stays. -/
def QueryError.onPath (root path : String) : QueryError → QueryError
  | .unknownPath _ _ segment => .unknownPath root path segment
  | e => e

namespace Schema

variable {s : Schema} {m m' : Model} {names hops : List String} {n : String × Model}
variable {name root path model model' : String} {e : QueryError}

/-! ## Section 1: Following names -/

/-- The names lead from one model to another, each of them through a relation to a model that
    exists. -/
inductive LeadsTo (s : Schema) : String → List String → String → Prop where
  | here {model : String} {m : Model} : s.model model = .ok m → LeadsTo s model [] model
  | hop {model name target model' : String} {names : List String} {m : Model} {f : Field} :
      s.model model = .ok m → m.relation? name = some f → f.target = some target →
      LeadsTo s target names model' → LeadsTo s model (name :: names) model'

namespace LeadsTo

theorem exists_start (h : s.LeadsTo model names model') : ∃ m, s.model model = .ok m := by
  cases h with
  | here hm => exact ⟨_, hm⟩
  | hop hm _ _ _ => exact ⟨_, hm⟩

theorem exists_end (h : s.LeadsTo model names model') : ∃ m, s.model model' = .ok m := by
  induction h with
  | here hm => exact ⟨_, hm⟩
  | hop _ _ _ _ ih => exact ih

end LeadsTo

/-- The model that the names lead to, on the way along `path` from `root`. -/
def followAll (s : Schema) (root path : String) (n : String × Model) (names : List String) :
    Except QueryError (String × Model) :=
  names.foldlM (fun n name => s.follow root path n.2 name) n

theorem followAll_cons : s.followAll root path n (name :: names) =
    s.follow root path n.2 name >>= fun n => s.followAll root path n names := List.foldlM_cons

theorem followAll_eq_ok (hm : s.model model = .ok m) :
    s.followAll root path (model, m) names = .ok (model', m') ↔
      s.LeadsTo model names model' ∧ s.model model' = .ok m' := by
  induction names generalizing model m with
  | nil =>
    constructor
    · intro h
      cases h
      exact ⟨.here hm, hm⟩
    · intro ⟨h, hm'⟩
      cases h with
      | here _ =>
        rw [hm] at hm'
        cases hm'
        rfl
  | cons name names ih =>
    -- the rest is followed from the model that the first relation leads to
    rw [followAll_cons, bind_eq_ok]
    constructor
    · intro ⟨⟨target, m₁⟩, hfollow, hrest⟩
      obtain ⟨htarget, hm₁⟩ := follow_eq_ok_iff.mp hfollow
      obtain ⟨f, hf, htarget⟩ := Option.bind_eq_some_iff.mp htarget
      obtain ⟨hleads, hm'⟩ := (ih hm₁).mp hrest
      exact ⟨.hop hm hf htarget hleads, hm'⟩
    · intro ⟨h, hm'⟩
      cases h with
      | @hop _ _ target _ _ m₀ f hm₀ hf htarget hrest =>
        rw [hm] at hm₀
        cases hm₀
        obtain ⟨m₁, hm₁⟩ := hrest.exists_start
        have hfollow : s.follow root path m name = .ok (target, m₁) :=
          follow_eq_ok_iff.mpr ⟨Option.bind_eq_some_iff.mpr ⟨f, hf, htarget⟩, hm₁⟩
        exact ⟨_, hfollow, (ih hm₁).mpr ⟨hrest, hm'⟩⟩

theorem eq_of_model_eq_error (h : s.model model = .error e) : e = .unknownModel model := by
  unfold Schema.model at h
  split at h
  next => cases h
  next =>
    cases h
    rfl

/-- What can go wrong on the way: a name leads nowhere, or to a model that does not exist. -/
theorem follow_eq_error (h : s.follow root path m name = .error e) :
    e = .unknownPath root path name ∨ ∃ target, e = .unknownModel target := by
  unfold follow at h
  split at h
  next =>
    cases h
    exact .inl rfl
  next target _ => exact .inr ⟨target, eq_of_model_eq_error (map_eq_error.mp h)⟩

theorem followAll_eq_error (h : s.followAll root path n names = .error e) :
    ∃ name, e = .unknownPath root path name ∨ e = .unknownModel name := by
  induction names generalizing n with
  | nil => cases h
  | cons name names ih =>
    rw [followAll_cons, bind_eq_error] at h
    rcases h with h | ⟨n', -, h⟩
    · rcases follow_eq_error h with rfl | ⟨target, rfl⟩
      · exact ⟨name, .inl rfl⟩
      · exact ⟨target, .inr rfl⟩
    · exact ih h

/-! ## Section 2: Errors and the path that was asked for -/

theorem follow_onPath (root path root' path' : String) : s.follow root path m name =
    (s.follow root' path' m name).mapError (.onPath root path) := by
  unfold follow
  cases (m.relation? name).bind (·.target) with
  | none => rfl
  | some target =>
    show (s.model target >>= fun m => pure (target, m)) =
      (s.model target >>= fun m => pure (target, m)).mapError (.onPath root path)
    cases hm : s.model target with
    | ok m => rfl
    | error e =>
      rw [eq_of_model_eq_error hm]
      rfl

theorem followAll_onPath (root path root' path' : String) : s.followAll root path n names =
    (s.followAll root' path' n names).mapError (.onPath root path) := by
  induction names generalizing n with
  | nil => rfl
  | cons name names ih =>
    rw [followAll_cons, followAll_cons, mapError_bind, follow_onPath root path root' path']
    exact congrArg _ (funext fun n => ih)

theorem resolveFrom_cons (h : names ≠ []) : s.resolveFrom root path n (name :: names) =
    s.follow root path n.2 name >>= fun n => s.resolveFrom root path n names := by
  cases names with
  | nil => exact absurd rfl h
  | cons next names => rfl

/-- What is found does not depend on where the path began; errors are told about it. -/
theorem resolveFrom_onPath (root path root' path' : String) : s.resolveFrom root path n names =
    (s.resolveFrom root' path' n names).mapError (.onPath root path) := by
  induction names generalizing n with
  | nil => rfl
  | cons name names ih =>
    -- only the last name is looked up as a field
    cases names with
    | nil =>
      unfold resolveFrom
      cases n.2.fields.find? name <;> rfl
    | cons next names =>
      have hne : next :: names ≠ [] := List.cons_ne_nil _ _
      rw [resolveFrom_cons hne, resolveFrom_cons hne, mapError_bind,
        follow_onPath root path root' path']
      exact congrArg _ (funext fun n => ih)

/-! ## Section 3: Paths in two parts -/

theorem resolveFrom_append (h : names ≠ []) : s.resolveFrom root path n (hops ++ names) =
    s.followAll root path n hops >>= fun n => s.resolveFrom root path n names := by
  induction hops generalizing n with
  | nil => rfl
  | cons hop hops ih =>
    rw [List.cons_append, resolveFrom_cons (List.append_ne_nil_of_right_ne_nil hops h),
      followAll_cons, bind_assoc]
    exact congrArg _ (funext fun n => ih)

/-- **Paths are followed part by part.**  Take a path whose last name does not end with an
    underscore, and any rest behind a separator.  If the path leads to a model, the whole is
    found, or not found, as the rest is from that model; an error tells of the whole path
    instead.  If it leads nowhere, the whole fails for one reason, whatever the rest is. -/
theorem resolve_in_two_parts (s : Schema) (model path : String)
    (h : ∀ last ∈ (Path.split path).getLast?, last.toList.getLast? ≠ some '_') :
    (∀ model', s.LeadsTo model (Path.split path) model' → ∀ rest,
      s.resolve model (path ++ pathSeparator ++ rest) =
        (s.resolve model' rest).mapError (.onPath model (path ++ pathSeparator ++ rest))) ∧
    ((¬ ∃ model', s.LeadsTo model (Path.split path) model') → ∃ name,
      (∀ rest, s.resolve model (path ++ pathSeparator ++ rest) =
        .error (.unknownPath model (path ++ pathSeparator ++ rest) name)) ∨
      ∀ rest, s.resolve model (path ++ pathSeparator ++ rest) = .error (.unknownModel name)) := by
  have hresolve : ∀ m, s.model model = .ok m → ∀ rest,
      let whole := path ++ pathSeparator ++ rest
      s.resolve model whole = s.followAll model whole (model, m) (Path.split path) >>= fun n =>
        s.resolveFrom model whole n (Path.split rest) := by
    intro m hm rest whole
    rw [resolve, hm, ok_bind, Path.split_append h,
      resolveFrom_append (Path.separable_split rest).ne_nil]
  constructor
  · intro model' hleads rest
    obtain ⟨m, hm⟩ := hleads.exists_start
    obtain ⟨m', hm'⟩ := hleads.exists_end
    rw [hresolve m hm, (followAll_eq_ok hm).mpr ⟨hleads, hm'⟩, ok_bind, resolve, hm', ok_bind]
    exact resolveFrom_onPath _ _ _ _
  · intro hstuck
    cases hm : s.model model with
    | error e =>
      -- there is no model to start from, so no name is looked at
      rw [eq_of_model_eq_error hm] at hm
      exact ⟨model, .inr fun rest => by rw [resolve, hm, error_bind]⟩
    | ok m =>
      -- where the first part gets stuck is settled before the rest is known, so any path will do
      cases hfollow : s.followAll model "" (model, m) (Path.split path) with
      | ok n => exact absurd ⟨n.1, ((followAll_eq_ok hm).mp hfollow).1⟩ hstuck
      | error e =>
        have hfails : ∀ rest, s.resolve model (path ++ pathSeparator ++ rest) =
            .error (e.onPath model (path ++ pathSeparator ++ rest)) := by
          intro rest
          rw [hresolve m hm, followAll_onPath model _ model "", hfollow]
          rfl
        obtain ⟨name, rfl | rfl⟩ := followAll_eq_error hfollow
        · exact ⟨name, .inl hfails⟩
        · exact ⟨name, .inr hfails⟩

/-- Mayors have no telephone but live in towns again; towns have no streets. -/
theorem resolve_in_two_parts_of_towns :
    (∀ last ∈ (Path.split "home__mayor").getLast?, last.toList.getLast? ≠ some '_') ∧
      towns.LeadsTo "person" (Path.split "home__mayor") "person" ∧
      towns.resolve "person" "home__mayor__phone" =
        .error (.unknownPath "person" "home__mayor__phone" "phone") ∧
      (∃ r, towns.resolve "person" "home__mayor__home___name" = .ok r) ∧
      (¬ ∃ model', towns.LeadsTo "person" (Path.split "home__street") model') ∧
      ∀ rest, ∃ e, towns.resolve "person" ("home__street" ++ pathSeparator ++ rest) = .error e := by
  have hmayor : ∀ last ∈ (Path.split "home__mayor").getLast?, last.toList.getLast? ≠ some '_' := by
    decide
  have hstreet : ∀ last ∈ (Path.split "home__street").getLast?,
      last.toList.getLast? ≠ some '_' := by decide
  have hleads : towns.LeadsTo "person" (Path.split "home__mayor") "person" :=
    .hop rfl rfl rfl (.hop rfl rfl rfl (.here rfl))
  have hstuck : ¬ ∃ model', towns.LeadsTo "person" (Path.split "home__street") model' := by
    intro ⟨model', h⟩
    obtain ⟨m', hm'⟩ := h.exists_end
    obtain ⟨m, hm⟩ := h.exists_start
    have hfollow : towns.followAll "person" "home__street" ("person", m)
        (Path.split "home__street") = .ok (model', m') := (followAll_eq_ok hm).mpr ⟨h, hm'⟩
    cases hm
    cases hfollow
  refine ⟨hmayor, hleads, ?_, ?_, hstuck, ?_⟩
  · exact (resolve_in_two_parts towns "person" "home__mayor" hmayor).1 "person" hleads "phone"
  · exact ⟨_, (resolve_in_two_parts towns "person" "home__mayor" hmayor).1 "person" hleads
      "home___name"⟩
  · obtain ⟨name, h | h⟩ := (resolve_in_two_parts towns "person" "home__street" hstreet).2 hstuck
    · exact fun rest => ⟨_, h rest⟩
    · exact fun rest => ⟨_, h rest⟩

end Schema

end QueryComposer
