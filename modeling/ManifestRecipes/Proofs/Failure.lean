import Mathlib.Data.List.Basic

/-
  Computations that may fail.

  A computation in steps succeeds when each step does, and a
  list is worked through when each of its members is.  So is
  the choice of some of its members.

  Main declarations:
    * `exists_of_bind_eq_ok`
    * `exists_of_bind_eq_error`
    * `mem_iff_of_mapM_eq_ok`
    * `mapM_isError_iff`
    * `eq_filter_of_filterM_eq_ok`
    * `filterM_isError_iff`
-/

namespace ManifestRecipes

section Failure

variable {ε α β : Type}

/- A step that succeeded was followed by what made the result. -/
theorem exists_of_bind_eq_ok
    {x : Except ε α}
    {f : α → Except ε β}
    {b : β}
    (hDone : (x >>= f) = .ok b) :
    ∃ a, x = .ok a ∧ f a = .ok b := by
  cases x with
  | error fault => cases hDone
  | ok a => exact ⟨a, rfl, hDone⟩

/- Two steps succeed together when one does after the other. -/
theorem bind_eq_ok_iff
    {x : Except ε α}
    {f : α → Except ε β}
    {b : β} :
    (x >>= f) = .ok b ↔ ∃ a, x = .ok a ∧ f a = .ok b := by
  refine ⟨exists_of_bind_eq_ok, ?_⟩
  rintro ⟨a, rfl, hDone⟩
  exact hDone

/- When two steps fail together, the first does or the one behind it. -/
theorem exists_of_bind_eq_error
    {x : Except ε α}
    {f : α → Except ε β}
    {e : ε}
    (hFailed : (x >>= f) = .error e) :
    x = .error e ∨ ∃ a, x = .ok a ∧ f a = .error e := by
  cases x with
  | error fault =>
      cases hFailed
      exact .inl rfl
  | ok a => exact .inr ⟨a, rfl, hFailed⟩

/- A step whose result is an option's value succeeded. -/
theorem eq_ok_of_toOption
    {x : Except ε α}
    {a : α}
    (hSome : x.toOption = some a) :
    x = .ok a := by
  cases x with
  | error fault => cases hSome
  | ok b => exact congrArg _ (Option.some.inj hSome)

/- Working through a list yields what comes of its members. -/
theorem mem_iff_of_mapM_eq_ok
    {f : α → Except ε β}
    {xs : List α}
    {ys : List β}
    (hDone : xs.mapM f = .ok ys)
    {y : β} :
    y ∈ ys ↔ ∃ x ∈ xs, f x = .ok y := by
  induction xs generalizing ys with
  | nil =>
      cases hDone
      simp
  | cons x xs ih =>
      rw [List.mapM_cons] at hDone
      rcases exists_of_bind_eq_ok hDone with ⟨z, hHead, hRest⟩
      rcases exists_of_bind_eq_ok hRest with ⟨zs, hTail, hEnd⟩
      cases hEnd
      rw [List.mem_cons, ih hTail, List.exists_mem_cons_iff,
        hHead, Except.ok.injEq]
      exact or_congr_left eq_comm

/- Working through a list fails when one of its members does. -/
theorem mapM_isError_iff
    {f : α → Except ε β}
    {xs : List α} :
    (∃ e, xs.mapM f = .error e) ↔
      ∃ x ∈ xs, ∃ e, f x = .error e := by
  induction xs with
  | nil => simp [pure, Except.pure]
  | cons x xs ih =>
      rw [List.mapM_cons, List.exists_mem_cons_iff, ← ih]
      cases f x with
      | error e => simp [bind, Except.bind]
      | ok y =>
          cases xs.mapM f <;>
            simp [bind, Except.bind, pure, Except.pure]

/- The members that are chosen first end up behind the others. -/
theorem filterAuxM_eq_append
    (f : α → Except ε Bool)
    (xs ys : List α) :
    xs.filterAuxM f ys =
      (xs.filterAuxM f []).map (· ++ ys) := by
  induction xs generalizing ys with
  | nil => rfl
  | cons x xs ih =>
      simp only [List.filterAuxM]
      cases f x with
      | error e => rfl
      | ok b =>
          change xs.filterAuxM f (cond b (x :: ys) ys) =
            (xs.filterAuxM f (cond b [x] [])).map (· ++ ys)
          rw [ih, ih (cond b [x] [])]
          cases b <;> cases xs.filterAuxM f [] <;>
            simp [Except.map]

/- Choosing from a list begins with its first member. -/
theorem filterM_cons
    (f : α → Except ε Bool)
    (x : α)
    (xs : List α) :
    (x :: xs).filterM f = (do
      let b ← f x
      let ys ← xs.filterM f
      .ok (if b then x :: ys else ys)) := by
  unfold List.filterM
  rw [List.filterAuxM]
  cases f x with
  | error e => rfl
  | ok b =>
      change (xs.filterAuxM f (cond b [x] []) >>= _) =
        (xs.filterAuxM f [] >>= _) >>= _
      rw [filterAuxM_eq_append]
      cases b <;> cases xs.filterAuxM f [] <;>
        simp [Except.map, bind, Except.bind, pure, Except.pure]

/- Choosing from a list leaves what is chosen in its order. -/
theorem eq_filter_of_filterM_eq_ok
    {f : α → Except ε Bool}
    {xs ys : List α}
    (hDone : xs.filterM f = .ok ys) :
    ys = xs.filter fun x => (f x).toOption = some true := by
  induction xs generalizing ys with
  | nil =>
      cases hDone
      rfl
  | cons x xs ih =>
      rw [filterM_cons] at hDone
      rcases exists_of_bind_eq_ok hDone with ⟨b, hHead, hRest⟩
      rcases exists_of_bind_eq_ok hRest with ⟨zs, hTail, hEnd⟩
      cases hEnd
      rw [List.filter_cons, hHead, ← ih hTail]
      cases b <;> simp [Except.toOption]

/- Choosing fails when it fails about one of the members. -/
theorem filterM_isError_iff
    {f : α → Except ε Bool}
    {xs : List α} :
    (∃ e, xs.filterM f = .error e) ↔
      ∃ x ∈ xs, ∃ e, f x = .error e := by
  induction xs with
  | nil =>
      constructor
      · rintro ⟨e, hError⟩
        cases hError
      · simp
  | cons x xs ih =>
      rw [filterM_cons, List.exists_mem_cons_iff, ← ih]
      cases f x with
      | error e => simp [bind, Except.bind]
      | ok b =>
          cases xs.filterM f <;> simp [bind, Except.bind]

end Failure

end ManifestRecipes
