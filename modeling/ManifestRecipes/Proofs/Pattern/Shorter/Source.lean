import ManifestRecipes.Proofs.Pattern.Source

/-
  Reading on a shorter text.

  What is read from a group that the end of a longer pattern
  closes is read alike from the pattern that the group holds,
  provided that the end is left over.  A reader that looks at
  the character behind what it takes needs one more of them.

  Key definitions include:
    * `Pattern.Shortens`

  Main declarations:
    * `Pattern.Shortens.bind`
    * `Pattern.Shortens.bind_taken`
    * `Pattern.Shortens.peek_bind`
    * `Pattern.Shortens.peek?_bind`
    * `Pattern.shortens_collect`
-/

namespace ManifestRecipes

namespace Pattern

open Reader

variable {α β : Type}

------------------------------------------------------------
-- Shorter Texts
------------------------------------------------------------

theorem length_prolong_true (s : Source) :
    (s.prolong true).rest.length = s.rest.length + 2 := by
  exact List.length_append

/- The end of the group begins with a parenthesis. -/
theorem head?_prolong_true
    {s : Source}
    {c : Char}
    (hOther : c ≠ ')') :
    (s.prolong true).rest.head? = some c ↔ s.rest.head? = some c := by
  rcases s with ⟨_ | ⟨d, ds⟩, spaced, names⟩
  · simp [groupEnd, hOther.symm]
  · simp

/-
  A reader takes at least so many characters.  On texts of
  fewer than `limit` characters it does what another does on
  the longer ones, where this leaves the end of the group and
  so many characters more.
-/
structure Shortens
    (limit more taken : Nat)
    (r r' : Reader α) : Prop where
  leaves : ∀ {s a u}, r'.run s = some (a, u) →
    u.rest.length ≤ s.rest.length - taken
  shorter : ∀ {s a u}, s.rest.length < limit →
    r'.run (s.prolong true) = some (a, u) →
    more + 2 ≤ u.rest.length →
    ∃ v, r.run s = some (a, v) ∧ u = v.prolong true

namespace Shortens

variable {limit limit' more more' taken taken' : Nat}
variable {r r' : Reader α} {k k' : α → Reader β}

theorem mono
    (hShortens : Shortens limit' more' taken' r r')
    (hLess : limit ≤ limit' ∧ more' ≤ more ∧ taken ≤ taken') :
    Shortens limit more taken r r' := by
  constructor
  · intro s a u hRun
    have hLeft := hShortens.leaves hRun
    omega
  · intro s a u hShort hRun hMany
    exact hShortens.shorter (by omega) hRun (by omega)

theorem taking
    (n : Nat)
    (hShortens : Shortens limit more n r r')
    (hLess : taken ≤ n) :
    Shortens limit more taken r r' := by
  exact hShortens.mono ⟨Nat.le_refl _, Nat.le_refl _, hLess⟩

theorem of_no_text
    {q : Reader α}
    (hShortens : Shortens limit more taken q r') :
    Shortens 0 more taken r r' := by
  exact ⟨hShortens.leaves,
    fun hShort => absurd hShort (Nat.not_lt_zero _)⟩

/- Of a reader that fails nothing is asked. -/
theorem of_fails
    (hFails : ∀ s, r'.run s = none) :
    Shortens limit more taken r r' := by
  constructor
  · intro s a u hRun
    cases (hFails s).symm.trans hRun
  · intro s a u _ hRun
    cases (hFails _).symm.trans hRun

theorem failure : Shortens limit more taken r failure := by
  exact of_fails fun _ => rfl

theorem pure (a : α) :
    Shortens limit more 0 (pure a) (pure a) := by
  constructor
  · intro s b u hRun
    cases hRun
    exact Nat.le_refl _
  · intro s b u _ hRun _
    cases hRun
    exact ⟨s, rfl, rfl⟩

theorem lift (a? : Option α) :
    Shortens limit more 0 (liftM a?) (liftM a?) := by
  cases a? with
  | none => exact of_fails fun _ => rfl
  | some a => exact pure a

/-
  A reader may need as many characters behind it as the next
  one takes, and the limit may go down by what it takes itself.
-/
theorem bind_limit
    (hFirst : Shortens limit more taken r r')
    (hRest : ∀ a, Shortens limit' more' taken' (k a) (k' a))
    (hFits : limit ≤ limit' + taken ∧ more ≤ more' + taken') :
    Shortens limit more' (taken + taken') (r >>= k) (r' >>= k') := by
  constructor
  · intro s b u hRun
    rcases run_bind_eq_some_iff.mp hRun with ⟨a, v, hRead, hNext⟩
    have hLeft := hFirst.leaves hRead
    have hLeft' := (hRest a).leaves hNext
    omega
  · intro s b u hShort hRun hMany
    rcases run_bind_eq_some_iff.mp hRun with ⟨a, v, hRead, hNext⟩
    have hLeft := hFirst.leaves hRead
    have hLeft' := (hRest a).leaves hNext
    rcases hFirst.shorter hShort hRead (by omega) with
      ⟨v, hRead', rfl⟩
    rw [length_prolong_true, length_prolong_true] at hLeft
    rcases (hRest a).shorter (by omega) hNext hMany with
      ⟨w, hNext', rfl⟩
    exact ⟨w, run_bind_eq_some_iff.mpr ⟨a, v, hRead', hNext'⟩, rfl⟩

/- Mostly the limit stays what it is. -/
theorem bind
    (hFirst : Shortens limit more taken r r')
    (hRest : ∀ a, Shortens limit more' taken' (k a) (k' a))
    (hMore : more ≤ more' + taken') :
    Shortens limit more' (taken + taken') (r >>= k) (r' >>= k') := by
  exact hFirst.bind_limit hRest ⟨Nat.le_add_right limit taken, hMore⟩

/- It goes down where a character is taken. -/
theorem bind_taken
    (hFirst : Shortens (limit + 1) more taken r r')
    (hRest : ∀ a, Shortens limit more' taken' (k a) (k' a))
    (hFits : 1 ≤ taken ∧ more ≤ more' + taken') :
    Shortens (limit + 1) more' (taken + taken')
      (r >>= k) (r' >>= k') := by
  exact hFirst.bind_limit hRest (by omega)

theorem discard (hShortens : Shortens limit more taken r r') :
    Shortens limit more taken (discard r) (discard r') := by
  exact hShortens.bind (fun _ => .pure _) (Nat.le_refl more)

/- Alternatives take as much as the one that takes less. -/
theorem ite
    {condition : Prop}
    [Decidable condition]
    {q q' : Reader α}
    (hThen : condition → Shortens limit more taken r r')
    (hElse : ¬ condition → Shortens limit more taken' q q') :
    Shortens limit more (min taken taken')
      (if condition then r else q) (if condition then r' else q') := by
  by_cases hCondition : condition
  · rw [if_pos hCondition, if_pos hCondition]
    exact (hThen hCondition).mono (by omega)
  · rw [if_neg hCondition, if_neg hCondition]
    exact (hElse hCondition).mono (by omega)

/- The first reader may be left out on both texts. -/
theorem optional_bind
    {condition : Prop}
    [Decidable condition]
    {r r' : Reader Unit}
    {k k' : Unit → Reader β}
    (hFirst : condition → Shortens limit more taken r r')
    (hRest : Shortens limit more' taken' (k ()) (k' ()))
    (hMore : more ≤ more' + taken') :
    Shortens limit more' taken' (if condition then r >>= k else k ())
      (if condition then r' >>= k' else k' ()) := by
  refine (ite (fun hCondition => ?_) fun _ => hRest).mono
    (by omega : _ ∧ _ ∧ taken' ≤ min (taken + taken') taken')
  exact (hFirst hCondition).bind (fun _ => hRest) hMore

/- Behind a condition, only what comes when it holds matters. -/
theorem check_bind
    {condition : Bool}
    {k k' : Unit → Reader β}
    (hHolds : condition = true →
      Shortens limit more taken (k ()) (k' ())) :
    Shortens limit more taken
      (check condition >>= k) (check condition >>= k') := by
  cases hCondition : condition with
  | false => exact of_fails fun _ => rfl
  | true => exact hHolds hCondition

/- What depends on a source is compared for it and for the longer one. -/
theorem get_bind
    {k k' : Source → Reader β}
    (hLeaves : ∀ {s b u}, (k' s).run s = some (b, u) →
      u.rest.length ≤ s.rest.length - taken)
    (hRest : ∀ s, s.rest.length < limit →
      Shortens (s.rest.length + 1) more taken
        (k s) (k' (s.prolong true))) :
    Shortens limit more taken (get >>= k) (get >>= k') := by
  refine ⟨hLeaves, ?_⟩
  intro s b u hShort hRun hMany
  exact (hRest s hShort).shorter (Nat.lt_succ_self _) hRun hMany

/- The next character is there if what comes then leaves enough. -/
theorem peek_bind
    {k k' : Char → Reader β}
    (hRest : ∀ c, Shortens limit more taken (k c) (k' c))
    (hMore : 1 ≤ more + taken) :
    Shortens limit more taken (peek >>= k) (peek >>= k') := by
  constructor
  · intro s b u hRun
    rcases s with ⟨cs, spaced, names⟩
    cases cs with
    | nil => cases hRun
    | cons c cs => exact (hRest c).leaves hRun
  · intro s b u hShort hRun hMany
    rcases s with ⟨cs, spaced, names⟩
    cases cs with
    | nil =>
        have hLeft := (hRest ')').leaves hRun
        rw [length_prolong_true, List.length_nil] at hLeft
        omega
    | cons c cs => exact (hRest c).shorter hShort hRun hMany

/- Where the text ends, the end of the group may come next. -/
theorem peek?_bind
    {k k' : Option Char → Reader β}
    (hMore : ∀ c, Shortens limit more taken (k (some c)) (k' (some c)))
    (hEnd : Shortens 0 more taken (k none) (k' none))
    (hGroup : Shortens 1 more taken (k none) (k' (some ')'))) :
    Shortens limit more taken (peek? >>= k) (peek? >>= k') := by
  constructor
  · intro s b u hRun
    rcases s with ⟨cs, spaced, names⟩
    cases cs with
    | nil => exact hEnd.leaves hRun
    | cons c cs => exact (hMore c).leaves hRun
  · intro s b u hShort hRun hMany
    rcases s with ⟨cs, spaced, names⟩
    cases cs with
    | nil => exact hGroup.shorter Nat.one_pos hRun hMany
    | cons c cs => exact (hMore c).shorter hShort hRun hMany

/- No more than the end of the group can be taken from the empty text. -/
theorem of_leaves
    (hLeaves : ∀ {s a u}, r'.run s = some (a, u) →
      u.rest.length ≤ s.rest.length - 1) :
    Shortens 1 more 1 r r' := by
  refine ⟨hLeaves, ?_⟩
  intro s a u hShort hRun hMany
  have hLeft := hLeaves hRun
  rw [length_prolong_true] at hLeft
  omega

end Shortens

------------------------------------------------------------
-- Single Characters
------------------------------------------------------------

variable {limit : Nat}

theorem shortens_peek : Shortens limit 1 0 peek peek := by
  have hPeek : (peek >>= fun c => (pure c : Reader Char)) = peek :=
    bind_pure peek
  rw [← hPeek]
  exact .peek_bind (fun c => .pure c) (Nat.le_refl 1)

/- Characters can be left out as long as the end is left. -/
theorem shortens_skip (n : Nat) :
    Shortens limit 0 n (skip n) (skip n) := by
  constructor
  · intro s _ u hRun
    cases hRun
    exact Nat.le_of_eq List.length_drop
  · intro s _ u _ hRun hMany
    cases hRun
    have hLeft : n ≤ s.rest.length := by
      simp [groupEnd] at hMany
      omega
    exact ⟨_, rfl, congrArg
      (fun rest => Source.mk rest s.spaced s.names)
      (List.drop_append_of_le_length hLeft)⟩

theorem shortens_blanks : Shortens limit 0 0 blanks blanks := by
  constructor
  · intro s _ u hRun
    cases hRun
    rcases s with ⟨cs, spaced, names⟩
    cases spaced with
    | false => exact Nat.le_refl _
    | true => exact length_skipBlanks_le false cs
  · intro s _ u _ hRun hMany
    cases hRun
    rcases s with ⟨cs, spaced, names⟩
    cases spaced with
    | false => exact ⟨_, rfl, rfl⟩
    | true =>
        refine ⟨_, rfl, congrArg
          (fun rest => Source.mk rest true names) ?_⟩
        refine (skipBlanks_append_groupEnd false cs).resolve_left ?_
        rintro ⟨hNone, _⟩
        simp [Source.prolong, hNone] at hMany

theorem shortens_next : Shortens limit 0 1 next next := by
  exact (shortens_skip 1).bind (fun _ => shortens_blanks) (Nat.zero_le _)

/-
  Behind a character of the shorter text there is nothing left,
  or the end of the group is.
-/
theorem run_next_of_prolong
    {s u : Source}
    (hGiven : s.rest ≠ [])
    (hNext : next.run (s.prolong true) = some ((), u)) :
    u.rest = [] ∨
      ∃ v, next.run s = some ((), v) ∧ u = v.prolong true := by
  cases hNext
  rcases s with ⟨_ | ⟨c, cs⟩, spaced, names⟩
  · cases hGiven rfl
  · cases spaced with
    | false => exact Or.inr ⟨_, rfl, rfl⟩
    | true =>
        refine (skipBlanks_append_groupEnd false cs).imp And.left ?_
        exact fun hSame => ⟨_, rfl,
          congrArg (fun rest => Source.mk rest true names) hSame⟩

theorem shortens_proceed : Shortens limit 1 1 proceed proceed := by
  exact shortens_next.bind (fun _ => shortens_peek.discard)
    (Nat.zero_le _)

theorem shortens_expect (c : Char) :
    Shortens limit 0 1 (expect c) (expect c) := by
  have hTaken : ∀ d? : Option Char, Shortens limit 0 1
      (check (d? = some c) >>= fun _ => skip 1)
      (check (d? = some c) >>= fun _ => skip 1) :=
    fun _ => .check_bind fun _ => shortens_skip 1
  exact .peek?_bind (fun d => hTaken (some d)) (.of_fails fun _ => rfl)
    (.of_leaves (hTaken (some ')')).leaves)

------------------------------------------------------------
-- Runs of Characters
------------------------------------------------------------

/- Nothing is added where a run of characters is taken. -/
theorem length_le_of_collectUpTo
    {test : Char → Bool}
    {n : Nat}
    {s u : Source}
    {cs : List Char}
    (hRun : (collectUpTo test n).run s = some (cs, u)) :
    u.rest.length ≤ s.rest.length := by
  induction n generalizing s cs with
  | zero =>
      cases hRun
      exact Nat.le_refl _
  | succ n ih =>
      cases hRest : s.rest with
      | nil =>
          rw [run_collectUpTo_nil test _ hRest] at hRun
          cases hRun
          exact Nat.le_of_eq (congrArg List.length hRest)
      | cons c ds =>
          cases hTest : test c with
          | false =>
              rw [run_collectUpTo_stop _ hRest hTest] at hRun
              cases hRun
              exact Nat.le_of_eq (congrArg List.length hRest)
          | true =>
              rcases (run_collectUpTo_cons_iff n hRest hTest).mp hRun
                with ⟨v, es, hNext, hTail, _⟩
              have hLess := length_lt_of_next hRest hNext
              have hLeft := ih hTail
              rw [← hRest]
              omega

/- A run that leaves the end of the group is the same without it. -/
theorem run_collectUpTo_shorter
    {test : Char → Bool}
    {n n' : Nat}
    {s u : Source}
    {cs : List Char}
    (hEnough : s.rest.length ≤ n)
    (hEnough' : s.rest.length + 2 ≤ n')
    (hRun : (collectUpTo test n').run (s.prolong true) = some (cs, u))
    (hMany : 2 ≤ u.rest.length) :
    ∃ v, (collectUpTo test n).run s = some (cs, v) ∧
      u = v.prolong true := by
  induction n' generalizing n s cs with
  | zero => cases hEnough'
  | succ n' ih =>
      cases hRest : s.rest with
      | nil =>
          have hRest' : (s.prolong true).rest = [')', '$'] := by
            rw [Source.prolong_rest, hRest]
            rfl
          cases hTest : test ')' with
          | false =>
              rw [run_collectUpTo_stop _ hRest' hTest] at hRun
              cases hRun
              exact ⟨s, run_collectUpTo_nil test n hRest, rfl⟩
          | true =>
              -- Such a run takes a part of the end.
              rcases (run_collectUpTo_cons_iff n' hRest' hTest).mp hRun
                with ⟨v, es, hNext, hTail, _⟩
              have hLess := length_lt_of_next hRest' hNext
              have hLeft := length_le_of_collectUpTo hTail
              rw [length_prolong_true, hRest, List.length_nil] at hLess
              omega
      | cons c ds =>
          have hRest' :
              (s.prolong true).rest = c :: (ds ++ groupEnd true) := by
            rw [Source.prolong_rest, hRest, List.cons_append]
          cases hTest : test c with
          | false =>
              rw [run_collectUpTo_stop _ hRest' hTest] at hRun
              cases hRun
              exact ⟨s, run_collectUpTo_stop n hRest hTest, rfl⟩
          | true =>
              rcases (run_collectUpTo_cons_iff n' hRest' hTest).mp hRun
                with ⟨v, es, hNext, hTail, hSame⟩
              have hLeft := length_le_of_collectUpTo hTail
              rcases shortens_next.shorter (Nat.lt_succ_self _) hNext
                (Nat.le_trans hMany hLeft) with ⟨w, hNext', rfl⟩
              have hLess := length_lt_of_next hRest hNext'
              obtain ⟨m, rfl⟩ : ∃ m, n = m + 1 := ⟨n - 1, by omega⟩
              rcases ih (by omega : w.rest.length ≤ m) (by omega) hTail
                with ⟨x, hTail', rfl⟩
              exact ⟨x, (run_collectUpTo_cons_iff m hRest hTest).mpr
                ⟨w, es, hNext', hTail', hSame⟩, rfl⟩

theorem shortens_collect (test : Char → Bool) :
    Shortens limit 0 0 (collect test) (collect test) := by
  constructor
  · intro s cs u hRun
    exact length_le_of_collectUpTo hRun
  · intro s cs u _ hRun hMany
    exact run_collectUpTo_shorter (Nat.le_refl _)
      (Nat.le_of_eq (length_prolong_true s).symm) hRun hMany

end Pattern

end ManifestRecipes
