import ManifestRecipes.Pattern.Form.Source
import Mathlib.Data.List.Basic

/-
  Reading on a longer text.

  What is read from a pattern is read alike when the pattern
  ends a group of a longer one.  Only a comment can tell the
  difference: it runs on over the end of the group.

  Key definitions include:
    * `Pattern.Source.prolong`
    * `Pattern.Prolongs`

  Main declarations:
    * `Pattern.Prolongs.bind`
    * `Pattern.Prolongs.peek_bind`
    * `Pattern.Prolongs.peek?_bind`
    * `Pattern.prolongs_collect`
-/

namespace ManifestRecipes

namespace Pattern

open Reader

variable {α β : Type}

------------------------------------------------------------
-- Longer Texts
------------------------------------------------------------

/- The end of the last group, where it is still to come. -/
def groupEnd (toCome : Bool) : List Char :=
  if toCome then [')', '$'] else []

/- What is left of a pattern, with the end of the last group. -/
def Source.prolong (s : Source) (toCome : Bool) : Source :=
  { s with rest := s.rest ++ groupEnd toCome }

@[simp] theorem Source.prolong_rest (s : Source) (b : Bool) :
    (s.prolong b).rest = s.rest ++ groupEnd b := by
  rfl

@[simp] theorem Source.prolong_spaced (s : Source) (b : Bool) :
    (s.prolong b).spaced = s.spaced := by
  rfl

@[simp] theorem Source.prolong_names (s : Source) (b : Bool) :
    (s.prolong b).names = s.names := by
  rfl

/-
  A reader does on a longer text what another does on a text
  of at least so many characters.
-/
def Prolongs (n : Nat) (r r' : Reader α) : Prop :=
  ∀ s b a s', n ≤ s.rest.length → r.run s = some (a, s') →
    ∃ b', r'.run (s.prolong b) = some (a, s'.prolong b')

/- A reader goes on where another has stopped. -/
theorem run_bind_eq_some_iff
    {r : Reader α}
    {k : α → Reader β}
    {s s' : Source}
    {y : β} :
    (r >>= k).run s = some (y, s') ↔
      ∃ a u, r.run s = some (a, u) ∧ (k a).run u = some (y, s') := by
  rw [StateT.run_bind, Option.bind_eq_bind, Option.bind_eq_some_iff]
  exact Prod.exists

theorem run_get_bind
    (k : Source → Reader β)
    (s : Source) :
    (get >>= k).run s = (k s).run s := by
  rfl

theorem run_bind_eq_none
    {r : Reader α}
    {k : α → Reader β}
    (hFails : ∀ a u, (k a).run u = none)
    (s : Source) :
    (r >>= k).run s = none := by
  rw [StateT.run_bind, Option.bind_eq_bind, Option.bind_eq_none_iff]
  exact fun (a, u) _ => hFails a u

theorem run_peek_bind_eq_some_iff
    {k : Char → Reader β}
    {s s' : Source}
    {y : β} :
    (peek >>= k).run s = some (y, s') ↔
      ∃ c, s.rest.head? = some c ∧ (k c).run s = some (y, s') := by
  rcases s with ⟨_ | ⟨c, cs⟩, spaced, names⟩
  · exact iff_of_false nofun (by simp)
  · simp only [List.head?_cons, Option.some.injEq, exists_eq_left']
    rfl

/- A value that is read before others is put before them. -/
theorem run_bind_cons_iff
    {r : Reader Unit}
    {r' : Reader (List α)}
    {s s' : Source}
    {a : α}
    {xs : List α} :
    (r >>= fun _ => (a :: ·) <$> r').run s = some (xs, s') ↔
      ∃ u ys, r.run s = some ((), u) ∧ r'.run u = some (ys, s') ∧
        a :: ys = xs := by
  rw [run_bind_eq_some_iff]
  simp only [StateT.run_map, Option.map_eq_map, Option.map_eq_some_iff,
    Prod.exists, Prod.mk.injEq]
  constructor
  · intro hRun
    rcases hRun with ⟨_, u, hFirst, ys, _, hRest, hSame, rfl⟩
    exact ⟨u, ys, hFirst, hRest, hSame⟩
  · intro hRun
    rcases hRun with ⟨u, ys, hFirst, hRest, hSame⟩
    exact ⟨(), u, hFirst, ys, s', hRest, hSame, rfl⟩

theorem liftM_some_bind (a : α) (k : α → Reader β) :
    (liftM (some a) >>= k) = k a := by
  rfl

namespace Prolongs

variable {n : Nat} {r r' : Reader α} {k k' : α → Reader β}

theorem mono
    {m : Nat}
    (hProlongs : Prolongs m r r')
    (hMore : m ≤ n) :
    Prolongs n r r' := by
  intro s b a s' hLeft
  exact hProlongs s b a s' (Nat.le_trans hMore hLeft)

theorem failure (n : Nat) (r : Reader α) :
    Prolongs n failure r := by
  intro s b a s' _ hRun
  cases hRun

theorem pure (n : Nat) (a : α) :
    Prolongs n (pure a) (pure a) := by
  intro s b x s' _ hRun
  cases hRun
  exact ⟨b, rfl⟩

/- One reader after another does the same when both do. -/
theorem bind
    (hFirst : Prolongs n r r')
    (hRest : ∀ a, Prolongs 0 (k a) (k' a)) :
    Prolongs n (r >>= k) (r' >>= k') := by
  intro s b y s' hLeft hRun
  rcases run_bind_eq_some_iff.mp hRun with ⟨a, u, hRead, hNext⟩
  rcases hFirst s b a u hLeft hRead with ⟨c, hRead'⟩
  rcases hRest a u c y s' (Nat.zero_le _) hNext with ⟨d, hNext'⟩
  exact ⟨d, run_bind_eq_some_iff.mpr ⟨a, _, hRead', hNext'⟩⟩

/- So it does when the first reader is left out on both texts. -/
theorem optional_bind
    {condition : Prop}
    [Decidable condition]
    {r r' : Reader Unit}
    {k k' : Unit → Reader β}
    (hFirst : condition → Prolongs n r r')
    (hRest : Prolongs 0 (k ()) (k' ())) :
    Prolongs n (if condition then r >>= k else k ())
      (if condition then r' >>= k' else k' ()) := by
  by_cases hCondition : condition
  · rw [if_pos hCondition, if_pos hCondition]
    exact (hFirst hCondition).bind fun _ => hRest
  · rw [if_neg hCondition, if_neg hCondition]
    exact hRest.mono (Nat.zero_le n)

theorem discard (hProlongs : Prolongs n r r') :
    Prolongs n (discard r) (discard r') := by
  exact hProlongs.bind fun _ => .pure 0 _

theorem lift (n : Nat) (a? : Option α) :
    Prolongs n (liftM a?) (liftM a?) := by
  intro s b a s' _ hRun
  rcases Option.bind_eq_some_iff.mp hRun with ⟨x, rfl, hSame⟩
  cases hSame
  exact ⟨b, rfl⟩

/- Behind a condition, only what comes when it holds matters. -/
theorem check_bind
    {condition : Bool}
    {k k' : Unit → Reader β}
    (hHolds : condition = true → Prolongs n (k ()) (k' ())) :
    Prolongs n (check condition >>= k) (check condition >>= k') := by
  intro s b y s' hLeft hRun
  cases hCondition : condition with
  | false =>
      rw [hCondition] at hRun
      cases hRun
  | true =>
      rw [hCondition] at hRun
      exact hHolds hCondition s b y s' hLeft hRun

theorem get_bind
    {k k' : Source → Reader β}
    (hRest : ∀ s b, n ≤ s.rest.length →
      Prolongs s.rest.length (k s) (k' (s.prolong b))) :
    Prolongs n (get >>= k) (get >>= k') := by
  intro s b y s' hLeft hRun
  exact hRest s b hLeft s b y s' (Nat.le_refl _) hRun

/- Sources are replaced by those that correspond to them. -/
theorem set (n : Nat) (s : Source) (b : Bool) :
    Prolongs n (set s) (set (s.prolong b)) := by
  intro u c _ s' _ hRun
  cases hRun
  exact ⟨b, rfl⟩

/- There is a next character in the longer text, and it is the same. -/
theorem peek_bind
    {k k' : Char → Reader β}
    (hRest : ∀ c, Prolongs 1 (k c) (k' c)) :
    Prolongs n (peek >>= k) (peek >>= k') := by
  intro s b y s' _ hRun
  rcases s with ⟨cs, spaced, names⟩
  cases cs with
  | nil => cases hRun
  | cons c cs =>
      exact hRest c ⟨c :: cs, spaced, names⟩ b y s'
        (Nat.le_add_left 1 cs.length) hRun

/-
  Where the text ends, the longer one may end as well or go on
  with the end of the group.
-/
theorem peek?_bind
    {k k' : Option Char → Reader β}
    (hMore : ∀ c, Prolongs 1 (k (some c)) (k' (some c)))
    (hEnd : Prolongs 0 (k none) (k' none))
    (hGroup : Prolongs 0 (k none) (k' (some ')'))) :
    Prolongs n (peek? >>= k) (peek? >>= k') := by
  intro s b y s' _ hRun
  rcases s with ⟨cs, spaced, names⟩
  cases cs with
  | nil =>
      cases b with
      | false =>
          exact hEnd ⟨[], spaced, names⟩ false y s'
            (Nat.zero_le 0) hRun
      | true =>
          exact hGroup ⟨[], spaced, names⟩ true y s'
            (Nat.zero_le 0) hRun
  | cons c cs =>
      exact hMore c ⟨c :: cs, spaced, names⟩ b y s'
        (Nat.le_add_left 1 cs.length) hRun

end Prolongs

------------------------------------------------------------
-- Single Characters
------------------------------------------------------------

theorem prolongs_peek (n : Nat) : Prolongs n peek peek := by
  have hPeek : (peek >>= fun c => (pure c : Reader Char)) = peek :=
    bind_pure peek
  rw [← hPeek]
  exact .peek_bind fun c => .pure 1 c

/- Characters that are there can be left out. -/
theorem prolongs_skip
    {n m : Nat}
    (hLeft : m ≤ n) :
    Prolongs n (skip m) (skip m) := by
  intro s b _ s' hMany hRun
  cases hRun
  refine ⟨b, ?_⟩
  have hDrop :
      (s.rest ++ groupEnd b).drop m = s.rest.drop m ++ groupEnd b :=
    List.drop_append_of_le_length (Nat.le_trans hLeft hMany)
  exact congrArg
    (fun rest => some ((), Source.mk rest s.spaced s.names)) hDrop

/-
  Blanks that are left out do not reach into the end of the
  group, unless a comment takes all of it.
-/
theorem skipBlanks_append_groupEnd
    (inComment : Bool)
    (cs : List Char) :
    (skipBlanks inComment (cs ++ groupEnd true) = [] ∧
      skipBlanks inComment cs = []) ∨
    skipBlanks inComment (cs ++ groupEnd true) =
      skipBlanks inComment cs ++ groupEnd true := by
  induction inComment, cs using skipBlanks.induct with
  | case1 inComment =>
      cases inComment
      · exact Or.inr rfl
      · exact Or.inl (by decide)
  | case2 c cs ih => simpa [skipBlanks] using ih
  | case3 c cs hBlank ih => simpa [skipBlanks, hBlank] using ih
  | case4 cs hBlank ih => simpa [skipBlanks, hBlank] using ih
  | case5 c cs hBlank hComment =>
      exact Or.inr (by simp [skipBlanks, hBlank, hComment])

/- So blanks are the same, with or without the end behind them. -/
theorem exists_skipBlanks_append
    (inComment : Bool)
    (cs : List Char)
    (b : Bool) :
    ∃ b', skipBlanks inComment (cs ++ groupEnd b) =
      skipBlanks inComment cs ++ groupEnd b' := by
  cases b with
  | false => exact ⟨false, by simp [groupEnd]⟩
  | true =>
      rcases skipBlanks_append_groupEnd inComment cs with
        ⟨hNone, hNone'⟩ | hSame
      · exact ⟨false, by rw [hNone, hNone']; rfl⟩
      · exact ⟨true, hSame⟩

/- Nothing is added where blanks are left out. -/
theorem length_skipBlanks_le (inComment : Bool) (cs : List Char) :
    (skipBlanks inComment cs).length ≤ cs.length := by
  induction inComment, cs using skipBlanks.induct with
  | case1 inComment => cases inComment <;> exact Nat.le_refl _
  | case2 c cs ih => simpa [skipBlanks] using Nat.le_succ_of_le ih
  | case3 c cs hBlank ih =>
      simpa [skipBlanks, hBlank] using Nat.le_succ_of_le ih
  | case4 cs hBlank ih =>
      simpa [skipBlanks, hBlank] using Nat.le_succ_of_le ih
  | case5 c cs hBlank hComment => simp [skipBlanks, hBlank, hComment]

/- Blanks are left out in the longer text, too. -/
theorem prolongs_blanks (n : Nat) : Prolongs n blanks blanks := by
  intro s b _ s' _ hRun
  cases hRun
  rcases s with ⟨cs, spaced, names⟩
  cases spaced with
  | false => exact ⟨b, rfl⟩
  | true =>
      rcases exists_skipBlanks_append false cs b with ⟨b', hBlanks⟩
      exact ⟨b', congrArg
        (fun rest => some ((), Source.mk rest true names)) hBlanks⟩

theorem prolongs_next : Prolongs 1 next next := by
  exact (prolongs_skip (Nat.le_refl 1)).bind fun _ => prolongs_blanks 0

/- Where no more follows, there is nothing to compare. -/
theorem prolongs_proceed (n : Nat) : Prolongs n proceed proceed := by
  have hMore : Prolongs 1 proceed proceed :=
    prolongs_next.bind fun _ => (prolongs_peek 0).discard
  intro s b _ s' _ hRun
  rcases s with ⟨cs, spaced, names⟩
  cases cs with
  | nil => cases spaced <;> cases hRun
  | cons c cs => exact hMore _ b _ s' (Nat.le_add_left 1 _) hRun

theorem prolongs_expect (n : Nat) (c : Char) :
    Prolongs n (expect c) (expect c) := by
  refine .peek?_bind (fun d => ?_) ?_ ?_
  · exact .check_bind fun _ => prolongs_skip (Nat.le_refl 1)
  · exact .check_bind fun hGiven => by simp at hGiven
  · intro s b y s' _ hRun
    cases hRun

------------------------------------------------------------
-- Runs of Characters
------------------------------------------------------------

/- What is left behind a character is shorter. -/
theorem length_lt_of_next
    {s s' : Source}
    {c : Char}
    {cs : List Char}
    (hRest : s.rest = c :: cs)
    (hNext : next.run s = some ((), s')) :
    s'.rest.length < s.rest.length := by
  cases hNext
  rcases s with ⟨_, spaced, names⟩
  cases hRest
  cases spaced with
  | false => exact Nat.lt_succ_self cs.length
  | true => exact Nat.lt_succ_of_le (length_skipBlanks_le false cs)

/- A character is left out before more exactly when something is left. -/
theorem run_proceed_iff
    {s s' : Source} :
    proceed.run s = some ((), s') ↔
      next.run s = some ((), s') ∧ s'.rest ≠ [] := by
  have hSteps : proceed = next >>= fun _ => discard peek := rfl
  have hPeek : ∀ u : Source, (discard peek).run u = some ((), s') ↔
      u = s' ∧ s'.rest ≠ [] := by
    rintro ⟨_ | ⟨c, cs⟩, spaced, names⟩
    · exact iff_of_false nofun fun hGiven => hGiven.2 (hGiven.1 ▸ rfl)
    · constructor
      · intro hRun
        cases hRun
        exact ⟨rfl, List.cons_ne_nil c cs⟩
      · rintro ⟨rfl, _⟩
        rfl
  simp only [hSteps, run_bind_eq_some_iff, hPeek, Unique.exists_iff,
    PUnit.default_eq_unit]
  constructor
  · rintro ⟨u, hNext, rfl, hGiven⟩
    exact ⟨hNext, hGiven⟩
  · rintro ⟨hNext, hGiven⟩
    exact ⟨s', hNext, rfl, hGiven⟩

/- There is nothing to take from the end of a text. -/
theorem run_collectUpTo_nil
    (test : Char → Bool)
    (n : Nat)
    {s : Source}
    (hRest : s.rest = []) :
    (collectUpTo test n).run s = some ([], s) := by
  rcases s with ⟨_, spaced, names⟩
  cases hRest
  cases n <;> rfl

/- A character that fails the test is not taken. -/
theorem run_collectUpTo_stop
    {test : Char → Bool}
    (n : Nat)
    {s : Source}
    {c : Char}
    {cs : List Char}
    (hRest : s.rest = c :: cs)
    (hTest : test c = false) :
    (collectUpTo test n).run s = some ([], s) := by
  rcases s with ⟨_, spaced, names⟩
  cases hRest
  cases n with
  | zero => rfl
  | succ n => simp [collectUpTo, peek?, hTest]

/- A character that passes the test is taken before others. -/
theorem run_collectUpTo_cons_iff
    {test : Char → Bool}
    (n : Nat)
    {s s' : Source}
    {c : Char}
    {cs ds : List Char}
    (hRest : s.rest = c :: cs)
    (hTest : test c = true) :
    (collectUpTo test (n + 1)).run s = some (ds, s') ↔
      ∃ u es, next.run s = some ((), u) ∧
        (collectUpTo test n).run u = some (es, s') ∧ c :: es = ds := by
  have hSteps :
      (collectUpTo test (n + 1)).run s =
        (next >>= fun _ => (c :: ·) <$> collectUpTo test n).run s := by
    rcases s with ⟨_, spaced, names⟩
    cases hRest
    simp [collectUpTo, peek?, hTest]
  rw [hSteps]
  exact run_bind_cons_iff

/- Where the text ends, a run goes on only with the end of the group. -/
theorem run_collectUpTo_end
    {test : Char → Bool}
    {n : Nat}
    {s : Source}
    {b : Bool}
    (hRest : s.rest = []) :
    (test ')' = true ∧ s.rest = []) ∨
      ∃ b', (collectUpTo test n).run (s.prolong b) =
        some ([], s.prolong b') := by
  cases b with
  | false =>
      refine Or.inr ⟨false, run_collectUpTo_nil test n ?_⟩
      rw [Source.prolong_rest, hRest]
      rfl
  | true =>
      cases hTest : test ')' with
      | true => exact Or.inl ⟨rfl, hRest⟩
      | false =>
          have hEnd : (s.prolong true).rest = [')', '$'] := by
            rw [Source.prolong_rest, hRest]
            rfl
          exact Or.inr ⟨true, run_collectUpTo_stop n hEnd hTest⟩

/-
  A run of characters is the same in the longer text, unless
  it reaches the end of the shorter one and could go on.
-/
theorem run_collectUpTo_prolong
    {test : Char → Bool}
    {n n' : Nat}
    {s s' : Source}
    {b : Bool}
    {cs : List Char}
    (hEnough : s.rest.length ≤ n)
    (hEnough' : (s.prolong b).rest.length ≤ n')
    (hRun : (collectUpTo test n).run s = some (cs, s')) :
    (test ')' = true ∧ s'.rest = []) ∨
      ∃ b', (collectUpTo test n').run (s.prolong b) =
        some (cs, s'.prolong b') := by
  induction n generalizing n' s b cs with
  | zero =>
      have hRest : s.rest = [] := List.eq_nil_of_length_eq_zero
        (Nat.le_zero.mp hEnough)
      rw [run_collectUpTo_nil test 0 hRest] at hRun
      cases hRun
      exact run_collectUpTo_end hRest
  | succ n ih =>
      cases hRest : s.rest with
      | nil =>
          rw [run_collectUpTo_nil test _ hRest] at hRun
          cases hRun
          exact run_collectUpTo_end hRest
      | cons c ds =>
          have hRest' : (s.prolong b).rest = c :: (ds ++ groupEnd b) := by
            rw [Source.prolong_rest, hRest, List.cons_append]
          cases hTest : test c with
          | false =>
              rw [run_collectUpTo_stop _ hRest hTest] at hRun
              cases hRun
              exact Or.inr ⟨b, run_collectUpTo_stop _ hRest' hTest⟩
          | true =>
              obtain ⟨m, rfl⟩ : ∃ m, n' = m + 1 := by
                rw [hRest', List.length_cons] at hEnough'
                exact ⟨n' - 1, by omega⟩
              rcases (run_collectUpTo_cons_iff n hRest hTest).mp hRun
                with ⟨u, es, hNext, hTail, hSame⟩
              rcases prolongs_next s b () u (by simp [hRest]) hNext with
                ⟨d, hNext'⟩
              have hLess := length_lt_of_next hRest hNext
              have hLess' := length_lt_of_next hRest' hNext'
              have hMore := ih (b := d) (by omega)
                (by omega : (u.prolong d).rest.length ≤ m) hTail
              refine hMore.imp_right fun hTail' => ?_
              rcases hTail' with ⟨b', hTail'⟩
              exact ⟨b', (run_collectUpTo_cons_iff m hRest' hTest).mpr
                ⟨_, es, hNext', hTail', hSame⟩⟩

/- So a run ends with the group when its closing mark cannot belong to it. -/
theorem prolongs_collect
    {test : Char → Bool}
    (hTest : test ')' = false)
    (n : Nat) :
    Prolongs n (collect test) (collect test) := by
  intro s b cs s' _ hRun
  rcases run_collectUpTo_prolong (b := b) (Nat.le_refl _)
    (Nat.le_refl _) hRun with ⟨hGroup, _⟩ | hRun'
  · rw [hTest] at hGroup
    cases hGroup
  · exact hRun'

/- Any run does when a character must follow it. -/
theorem prolongs_collect_expect
    (test : Char → Bool)
    (c : Char)
    {k k' : List Char → Reader α}
    (hRest : ∀ cs, Prolongs 0 (k cs) (k' cs))
    (n : Nat) :
    Prolongs n
      (do let cs ← collect test; expect c; k cs)
      (do let cs ← collect test; expect c; k' cs) := by
  intro s b y s' _ hRun
  rcases run_bind_eq_some_iff.mp hRun with ⟨cs, u, hCollect, hMore⟩
  rcases run_collectUpTo_prolong (b := b) (Nat.le_refl _)
    (Nat.le_refl _) hCollect with ⟨_, hEnd⟩ | ⟨b', hCollect'⟩
  · rcases u with ⟨rest, spaced, names⟩
    cases hEnd
    cases hMore
  · have hAfter : Prolongs 0 (expect c >>= fun _ => k cs)
        (expect c >>= fun _ => k' cs) :=
      (prolongs_expect 0 c).bind fun _ => hRest cs
    rcases hAfter u b' y s' (Nat.zero_le _) hMore with ⟨d, hMore'⟩
    exact ⟨d, run_bind_eq_some_iff.mpr ⟨cs, _, hCollect', hMore'⟩⟩

end Pattern

end ManifestRecipes
