import Mathlib.Data.List.Forall2

/-! # Outcomes

    How a computation that may fail comes to a result.  A chain of steps
    succeeds exactly when every step does, so each lemma takes a successful
    outcome apart into the outcomes of the steps before it. -/

namespace QueryComposer.Outcome

variable {ε α β σ : Type}

@[simp] theorem ok_bind (a : α) (f : α → Except ε β) : (Except.ok a >>= f) = f a := rfl

@[simp] theorem error_bind (e : ε) (f : α → Except ε β) :
    (Except.error e >>= f) = Except.error e := rfl

@[simp] theorem pure_eq_ok (a : α) : (pure a : Except ε α) = .ok a := rfl

@[simp] theorem throw_eq_error (e : ε) : (throw e : Except ε α) = .error e := rfl

theorem bind_eq_ok {x : Except ε α} {f : α → Except ε β} {b : β} :
    (x >>= f) = .ok b ↔ ∃ a, x = .ok a ∧ f a = .ok b := by
  cases x with
  | error e => simp
  | ok a => simp

theorem bind_eq_error {x : Except ε α} {f : α → Except ε β} {e : ε} :
    (x >>= f) = .error e ↔ x = .error e ∨ ∃ a, x = .ok a ∧ f a = .error e := by
  cases x with
  | error e' => simp
  | ok a => simp

/-- What an error is turned into at the end, it may be turned into at once. -/
theorem mapError_bind {ε' : Type} {x : Except ε α} {f : α → Except ε β} {g : ε → ε'} :
    (x >>= f).mapError g = x.mapError g >>= fun a => (f a).mapError g := by
  cases x with
  | error e => rfl
  | ok a => rfl

/-- What the steps taken keep, a whole run keeps. -/
theorem foldlM_preserves_of_mem {f : σ → α → Except ε σ} {P : σ → Prop} :
    ∀ {xs : List α} {s s' : σ}, (∀ a ∈ xs, ∀ s s', f s a = .ok s' → P s → P s') →
      xs.foldlM f s = .ok s' → P s → P s'
  | [], s, s', _, h, hs => by
    cases h
    exact hs
  | x :: xs, s, s', hstep, h, hs => by
    rw [List.forall_mem_cons] at hstep
    rw [List.foldlM_cons, bind_eq_ok] at h
    obtain ⟨t, ht, hrun⟩ := h
    exact foldlM_preserves_of_mem hstep.2 hrun (hstep.1 s t ht hs)

/-- What every step keeps, a whole run keeps. -/
theorem foldlM_preserves {f : σ → α → Except ε σ} {P : σ → Prop}
    (hstep : ∀ s a s', f s a = .ok s' → P s → P s') {xs : List α} {s s' : σ}
    (h : xs.foldlM f s = .ok s') (hs : P s) : P s' :=
  foldlM_preserves_of_mem (fun a _ s s' => hstep s a s') h hs

/-- A list is read element by element. -/
theorem mapM_eq_ok {f : α → Except ε β} :
    ∀ {xs : List α} {ys : List β},
      xs.mapM f = .ok ys ↔ List.Forall₂ (fun x y => f x = .ok y) xs ys
  | [], ys => by
    simp [List.forall₂_nil_left_iff, eq_comm]
  | x :: xs, ys => by
    rw [List.mapM_cons, bind_eq_ok, List.forall₂_cons_left_iff]
    constructor
    · intro ⟨y, hy, h⟩
      obtain ⟨zs, hzs, heq⟩ := bind_eq_ok.mp h
      cases heq
      exact ⟨y, zs, hy, mapM_eq_ok.mp hzs, rfl⟩
    · intro hex
      obtain ⟨y, zs, hy, hzs, rfl⟩ := hex
      exact ⟨y, hy, bind_eq_ok.mpr ⟨zs, mapM_eq_ok.mpr hzs, rfl⟩⟩

theorem map_eq_error {x : Except ε α} {g : α → β} {e : ε} :
    (x >>= fun a => pure (g a)) = .error e ↔ x = .error e := by
  cases x with
  | error e' => simp
  | ok a => simp

/-- Reading a list fails at the first element that cannot be read. -/
theorem mapM_eq_error {f : α → Except ε β} {e : ε} {xs : List α} : xs.mapM f = .error e ↔
    ∃ before x after, xs = before ++ x :: after ∧ (∀ y ∈ before, ∃ b, f y = .ok b) ∧
      f x = .error e := by
  induction xs with
  | nil => simp
  | cons x xs ih =>
    rw [List.mapM_cons]
    constructor
    · intro h
      cases hx : f x with
      | error e' =>
        rw [hx] at h
        cases h
        exact ⟨[], x, xs, rfl, nofun, hx⟩
      | ok b =>
        rw [hx, ok_bind, map_eq_error] at h
        obtain ⟨before, y, after, rfl, hbefore, hy⟩ := ih.mp h
        exact ⟨x :: before, y, after, rfl, List.forall_mem_cons.mpr ⟨⟨b, hx⟩, hbefore⟩, hy⟩
    · intro h
      obtain ⟨before, y, after, heq, hbefore, hy⟩ := h
      -- either the first element fails, or it is read and the rest fails
      cases before with
      | nil =>
        cases heq
        rw [hy]
        rfl
      | cons z before =>
        cases heq
        rw [List.forall_mem_cons] at hbefore
        obtain ⟨b, hb⟩ := hbefore.1
        rw [hb, ok_bind, map_eq_error]
        exact ih.mpr ⟨before, y, after, rfl, hbefore.2, hy⟩

/-- A list is read element by element, where reading gives no reason for failing. -/
theorem mapM_eq_some {f : α → Option β} :
    ∀ {xs : List α} {ys : List β},
      xs.mapM f = some ys ↔ List.Forall₂ (fun x y => f x = some y) xs ys
  | [], ys => by
    simp [List.forall₂_nil_left_iff, eq_comm]
  | x :: xs, ys => by
    rw [List.mapM_cons, Option.bind_eq_bind, Option.bind_eq_some_iff, List.forall₂_cons_left_iff]
    constructor
    · intro ⟨y, hy, h⟩
      obtain ⟨zs, hzs, heq⟩ := Option.bind_eq_some_iff.mp h
      cases heq
      exact ⟨y, zs, hy, mapM_eq_some.mp hzs, rfl⟩
    · intro hex
      obtain ⟨y, zs, hy, hzs, rfl⟩ := hex
      exact ⟨y, hy, Option.bind_eq_some_iff.mpr ⟨zs, mapM_eq_some.mpr hzs, rfl⟩⟩

theorem exists_of_mem_right {R : α → β → Prop} {xs : List α} {ys : List β} {y : β}
    (h : List.Forall₂ R xs ys) (hy : y ∈ ys) : ∃ x ∈ xs, R x y := by
  induction h with
  | nil => cases hy
  | @cons x y' xs ys hxy _ ih =>
    rcases List.mem_cons.mp hy with rfl | hy
    · exact ⟨x, List.mem_cons_self, hxy⟩
    · obtain ⟨x', hx', hxy'⟩ := ih hy
      exact ⟨x', List.mem_cons_of_mem x hx', hxy'⟩

theorem exists_of_mem_left {R : α → β → Prop} {xs : List α} {ys : List β} {x : α}
    (h : List.Forall₂ R xs ys) (hx : x ∈ xs) : ∃ y ∈ ys, R x y := by
  have hflip : List.Forall₂ (flip R) ys xs := List.Forall₂.flip h
  exact exists_of_mem_right hflip hx

/-! ## Two computations side by side -/

/-- Two computations come to the same: they fail with one error, or succeed with results that
    are related. -/
inductive Agree (R : α → β → Prop) : Except ε α → Except ε β → Prop where
  | error (e : ε) : Agree R (.error e) (.error e)
  | ok {a : α} {b : β} : R a b → Agree R (.ok a) (.ok b)

namespace Agree

variable {α' β' σ' : Type} {R : α → β → Prop} {R' : α' → β' → Prop}

theorem ok_iff {a : α} {b : β} : Agree R (.ok a : Except ε α) (.ok b) ↔ R a b := by
  constructor
  · intro h
    cases h with
    | ok hab => exact hab
  · exact .ok

theorem imp {R₁ R₂ : α → β → Prop} {x : Except ε α} {y : Except ε β}
    (himp : ∀ a b, R₁ a b → R₂ a b) (h : Agree R₁ x y) : Agree R₂ x y := by
  cases h with
  | error e => exact .error e
  | ok hab => exact .ok (himp _ _ hab)

/-- Steps that come to the same go on to steps that come to the same. -/
theorem bind {x : Except ε α} {y : Except ε β} {f : α → Except ε α'} {g : β → Except ε β'}
    (h : Agree R x y) (hfg : ∀ a b, R a b → Agree R' (f a) (g b)) :
    Agree R' (x >>= f) (y >>= g) := by
  cases h with
  | error e => exact .error e
  | ok hab => exact hfg _ _ hab

/-- A step that both computations share. -/
theorem bind_same {x : Except ε α} {f : α → Except ε α'} {g : α → Except ε β'}
    (hfg : ∀ a, Agree R' (f a) (g a)) : Agree R' (x >>= f) (x >>= g) := by
  cases x with
  | error e => exact .error e
  | ok a => exact hfg a

/-- Related results are not told apart by what goes on from them. -/
theorem bind_eq {x : Except ε α} {y : Except ε β} {f : α → Except ε α'} {g : β → Except ε α'}
    (h : Agree R x y) (hfg : ∀ a b, R a b → f a = g b) : (x >>= f) = (y >>= g) := by
  cases h with
  | error e => rfl
  | ok hab => exact hfg _ _ hab

/-- If single steps from related states come to the same, so do runs. -/
theorem foldlM {R : σ → σ' → Prop} {f : σ → α → Except ε σ} {g : σ' → α → Except ε σ'}
    (hstep : ∀ s t a, R s t → Agree R (f s a) (g t a)) :
    ∀ (xs : List α) {s : σ} {t : σ'}, R s t → Agree R (xs.foldlM f s) (xs.foldlM g t)
  | [], _, _, h => .ok h
  | x :: xs, s, t, h => by
    rw [List.foldlM_cons, List.foldlM_cons]
    exact (hstep s t x h).bind fun _ _ h' => foldlM hstep xs h'

end Agree

end QueryComposer.Outcome
