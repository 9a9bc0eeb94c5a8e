import ManifestRecipes.Pattern.Form.Reading
import ManifestRecipes.Proofs.Pattern.Source

/-
  Forms that are read from a longer text.

  Each reader does on a pattern that ends a group what it does
  on the pattern alone: what it looks for is no parenthesis, and
  where it looks for the end it finds the end of the group.

  Main declarations:
    * `Pattern.prolongs_escape`
    * `Pattern.prolongs_bracket`
    * `Pattern.prolongs_groupOpening`
    * `Pattern.prolongs_repetition`
    * `Pattern.prolongs_forms`
-/

namespace ManifestRecipes

namespace Pattern

open Reader

------------------------------------------------------------
-- Escapes
------------------------------------------------------------

theorem prolongs_hexDigits (length n : Nat) :
    Prolongs n (hexDigits length) (hexDigits length) := by
  induction length generalizing n with
  | zero => exact .pure n []
  | succ length ih =>
      exact .peek_bind fun c => .check_bind fun _ =>
        prolongs_next.bind fun _ => (ih 0).bind fun _ => .pure 0 _

theorem prolongs_numbered (length : Nat) :
    Prolongs 1 (numbered length) (numbered length) := by
  refine (prolongs_proceed _).bind fun _ => .peek_bind fun c => ?_
  by_cases hBrace : c = '\x7b'
  · rw [if_pos hBrace]
    refine prolongs_next.bind fun _ =>
      (prolongs_collect (by decide) 0).bind fun digits =>
        .peek_bind fun d => .check_bind fun _ =>
          prolongs_next.bind fun _ => ?_
    exact (Prolongs.lift 0 (numbered? digits)).bind fun _ => .pure 0 _
  · rw [if_neg hBrace]
    exact (prolongs_hexDigits length 1).bind fun digits =>
      (Prolongs.lift 0 (numbered? digits)).bind fun _ => .pure 0 _

theorem prolongs_query : Prolongs 1 query query := by
  refine (prolongs_proceed _).bind fun _ => .peek_bind fun c => ?_
  by_cases hBrace : c = '\x7b'
  · rw [if_pos hBrace]
    exact prolongs_next.bind fun _ =>
      prolongs_collect_expect _ _ (fun cs => .pure 0 (queryOf cs)) 0
  · rw [if_neg hBrace]
    exact .check_bind fun _ =>
      (prolongs_skip (Nat.le_refl 1)).bind fun _ => .pure 0 _

/- What stands in braces behind an edge may be left for a count. -/
theorem prolongs_edge (n : Nat) : Prolongs n edge edge := by
  refine .peek?_bind (fun c => ?_) (.pure 0 _) (.pure 0 _)
  by_cases hBrace : some c = some '\x7b'
  · rw [if_pos hBrace]
    refine .get_bind fun s b _ =>
      (prolongs_proceed _).bind fun _ => .peek_bind fun d => ?_
    cases isEdgeChar d with
    | true =>
        exact (prolongs_collect (by decide) 1).bind fun name =>
          (prolongs_expect 0 _).bind fun _ => .lift 0 _
    | false => exact (Prolongs.set 1 s b).bind fun _ => .pure 0 _
  · rw [if_neg hBrace]
    exact .pure 1 _

theorem prolongs_escape : Prolongs 1 escape escape := by
  refine (prolongs_skip (Nat.le_refl 1)).bind fun _ =>
    .peek_bind fun c => ?_
  split
  · exact (prolongs_numbered 2).bind fun _ => .pure 0 _
  split
  · exact (prolongs_numbered 4).bind fun _ => .pure 0 _
  split
  · exact (prolongs_numbered 8).bind fun _ => .pure 0 _
  split
  · exact prolongs_query.bind fun _ => .pure 0 _
  refine (prolongs_skip (Nat.le_refl 1)).bind fun _ => ?_
  split
  · exact (prolongs_edge 0).bind fun _ => .pure 0 _
  cases shorthand? c with
  | some e => exact .pure 0 _
  | none => exact .lift 0 _

------------------------------------------------------------
-- Brackets
------------------------------------------------------------

/- A run that something follows is the same in the longer text. -/
theorem span_append
    {test : Char → Bool}
    {c : Char}
    {cs ds : List Char}
    (more : List Char)
    (hStops : cs.dropWhile test = c :: ds) :
    (cs ++ more).takeWhile test = cs.takeWhile test ∧
      (cs ++ more).dropWhile test = c :: (ds ++ more) := by
  induction cs with
  | nil => cases hStops
  | cons d cs ih =>
      cases hTest : test d with
      | true =>
          rw [List.dropWhile_cons_of_pos hTest] at hStops
          simpa [List.takeWhile_cons, hTest] using ih hStops
      | false =>
          rw [List.dropWhile_cons_of_neg (by simp [hTest])] at hStops
          cases hStops
          simp [hTest]

/- Nothing is left of the end of the group where it holds no stop. -/
theorem dropWhile_append_groupEnd
    {test : Char → Bool}
    {cs : List Char}
    (b : Bool)
    (hEnd : cs.dropWhile test = [])
    (hTest : test ')' = true ∧ test '$' = true) :
    (cs ++ groupEnd b).dropWhile test = [] := by
  rw [List.dropWhile_append, hEnd]
  cases b <;> simp [groupEnd, hTest]

/- Named classes do not reach into the end of the group. -/
theorem namedClass?_append
    (negated : Bool)
    (cs : List Char)
    (b : Bool) :
    namedClass? negated (cs ++ groupEnd b) =
      (namedClass? negated cs).map fun (m, rest) =>
        (m, rest ++ groupEnd b) := by
  unfold namedClass?
  cases hDrop : cs.dropWhile (· ≠ ':') with
  | nil =>
      rw [dropWhile_append_groupEnd b hDrop (by decide)]
      simp
  | cons c ds =>
      rcases span_append (groupEnd b) hDrop with ⟨hTake, hDrop'⟩
      rw [hTake, hDrop']
      cases AsciiClass.ofName? (String.ofList (cs.takeWhile (· ≠ ':')))
        with
      | none => rfl
      | some kind =>
          by_cases hColon : c = ':'
          · subst hColon
            cases ds with
            | nil => cases b <;> rfl
            | cons d ds =>
                by_cases hClosed : d = ']'
                · subst hClosed
                  rfl
                · simp [hClosed]
          · simp [hColon]

/- So it is behind the bracket and the colon that begin them. -/
theorem asciiClass?_append (cs : List Char) (b : Bool) :
    asciiClass? (cs ++ groupEnd b) =
      (asciiClass? cs).map fun (m, rest) =>
        (m, rest ++ groupEnd b) := by
  cases cs with
  | nil => cases b <;> rfl
  | cons c cs =>
      by_cases hBracket : c = '['
      · subst hBracket
        cases cs with
        | nil => cases b <;> rfl
        | cons d cs =>
            by_cases hColon : d = ':'
            · subst hColon
              cases cs with
              | nil =>
                  cases b with
                  | false => exact namedClass?_append false [] false
                  | true => exact namedClass?_append false [] true
              | cons e cs =>
                  by_cases hNegated : e = '^'
                  · subst hNegated
                    exact namedClass?_append true cs b
                  · simpa [asciiClass?, hNegated] using
                      namedClass?_append false (e :: cs) b
            · simp [asciiClass?, hColon]
      · simp [asciiClass?, hBracket]

/- Operators are told apart without the end of the group. -/
theorem operator?_append (cs : List Char) (b : Bool) :
    operator? (cs ++ groupEnd b) = operator? cs := by
  match cs with
  | [] => cases b <;> rfl
  | [c] => cases b <;> simp [operator?, groupEnd]
  | c :: d :: cs =>
      simp only [operator?, List.cons_append]
      split <;> simp_all

theorem prolongs_classItem (n : Nat) :
    Prolongs n classItem classItem := by
  refine .peek_bind fun c => ?_
  split
  · exact prolongs_escape
  · exact (prolongs_skip (Nat.le_refl 1)).bind fun _ => .pure 0 _

theorem dropWhile_isBlank_append (cs : List Char) (b : Bool) :
    (cs ++ groupEnd b).dropWhile Unicode.isBlank =
      cs.dropWhile Unicode.isBlank ++ groupEnd b := by
  rw [List.dropWhile_append]
  split
  · rename_i hBlank
    rw [List.isEmpty_iff.mp hBlank]
    cases b <;> decide
  · rfl

theorem head?_dropWhile_isBlank
    {c : Char}
    {cs : List Char}
    (hMark : Unicode.isBlank c = false)
    (hFirst : cs.head? = some c) :
    (cs.dropWhile Unicode.isBlank).head? = some c := by
  cases cs with
  | nil => cases hFirst
  | cons d cs =>
      cases hFirst
      rw [List.dropWhile_cons_of_neg (by simp [hMark]), List.head?_cons]

/- Marks that are neither blanks nor parentheses are seen from afar. -/
theorem behindHyphen?_append
    {c : Char}
    (hMark : Unicode.isBlank c = false ∧ c ≠ '#' ∧ c ≠ ')')
    (spaced : Bool)
    (cs : List Char)
    (b : Bool) :
    behindHyphen? spaced (cs ++ groupEnd b) = some c ↔
      behindHyphen? spaced cs = some c := by
  rcases hMark with ⟨hBlank, hSign, hGroup⟩
  have hFirst : cs.head? = some c →
      (cs.dropWhile Unicode.isBlank).head? = some c :=
    head?_dropWhile_isBlank hBlank
  cases spaced with
  | false =>
      cases cs with
      | nil => cases b <;> simp [behindHyphen?, groupEnd, hGroup.symm]
      | cons d cs => rfl
  | true =>
      simp only [behindHyphen?, if_true, dropWhile_isBlank_append]
      cases hDrop : cs.dropWhile Unicode.isBlank with
      | nil =>
          rw [hDrop] at hFirst
          cases b with
          | false => simp [groupEnd]
          | true => simpa [groupEnd, hGroup.symm] using hFirst
      | cons d ds =>
          rw [hDrop] at hFirst
          by_cases hComment : d = '#'
          · subst hComment
            simp only [List.cons_append, dropWhile_isBlank_append]
            cases ds.dropWhile Unicode.isBlank with
            | nil =>
                cases b with
                | false => simp [groupEnd]
                | true =>
                    simpa [groupEnd, hGroup.symm, hSign.symm] using hFirst
            | cons e es => rfl
          · simp

/- A hyphen begins a range in the longer text when it does in the shorter one. -/
theorem prolongs_continuesRange (n : Nat) :
    Prolongs n continuesRange continuesRange := by
  refine .get_bind fun s b _ => ?_
  have hClosed := fun spaced cs =>
    behindHyphen?_append (c := ']') (by decide) spaced cs b
  have hHyphen := fun spaced cs =>
    behindHyphen?_append (c := '-') (by decide) spaced cs b
  rcases s with ⟨cs, spaced, names⟩
  cases cs with
  | nil => cases b <;> exact .pure _ false
  | cons c cs =>
      by_cases hBegins : c = '-'
      · subst hBegins
        simp only [Source.prolong, List.cons_append, ne_eq,
          hClosed, hHyphen]
        exact .pure _ _
      · simp [Source.prolong, hBegins]
        exact .pure _ false

theorem prolongs_classMember (n : Nat) :
    Prolongs n classMember classMember := by
  refine (prolongs_classItem n).bind fun first =>
    (prolongs_blanks 0).bind fun _ =>
      (prolongs_peek 0).discard.bind fun _ =>
        (prolongs_continuesRange 0).bind fun continues => ?_
  cases continues with
  | true =>
      refine (prolongs_proceed 0).bind fun _ =>
        (prolongs_classItem 0).bind fun last => ?_
      exact (Prolongs.lift 0 first.letter?).bind fun a =>
        (Prolongs.lift 0 last.letter?).bind fun b =>
          .check_bind fun _ => .pure 0 _
  | false => exact .lift 0 _

/- No hyphens are read where another character stands. -/
theorem run_leadingHyphens_stop
    (n : Nat)
    {s : Source}
    {c : Char}
    {cs : List Char}
    (hRest : s.rest = c :: cs)
    (hOther : c ≠ '-') :
    (leadingHyphens n).run s = some ([], s) := by
  rcases s with ⟨_, spaced, names⟩
  cases hRest
  cases n with
  | zero => rfl
  | succ n => simp [leadingHyphens, peek, peek?, hOther]

/- A hyphen is read before others. -/
theorem run_leadingHyphens_cons_iff
    (n : Nat)
    {s s' : Source}
    {cs : List Char}
    {ms : List Member}
    (hRest : s.rest = '-' :: cs) :
    (leadingHyphens (n + 1)).run s = some (ms, s') ↔
      ∃ u hs, proceed.run s = some ((), u) ∧
        (leadingHyphens n).run u = some (hs, s') ∧
        .letter ⟨'-', false⟩ :: hs = ms := by
  have hSteps :
      (leadingHyphens (n + 1)).run s =
        (proceed >>= fun _ =>
          (.letter ⟨'-', false⟩ :: ·) <$> leadingHyphens n).run s := by
    rcases s with ⟨_, spaced, names⟩
    cases hRest
    simp [leadingHyphens, peek, peek?]
  rw [hSteps]
  exact run_bind_cons_iff

/- Hyphens that something follows are the same in the longer text. -/
theorem run_leadingHyphens_prolong
    {n n' : Nat}
    {s s' : Source}
    {b : Bool}
    {ms : List Member}
    (hGiven : s.rest ≠ [])
    (hEnough : s.rest.length ≤ n)
    (hEnough' : (s.prolong b).rest.length ≤ n')
    (hRun : (leadingHyphens n).run s = some (ms, s')) :
    ∃ b', (leadingHyphens n').run (s.prolong b) =
      some (ms, s'.prolong b') := by
  induction n generalizing n' s b ms with
  | zero =>
      exact absurd (List.eq_nil_of_length_eq_zero
        (Nat.le_zero.mp hEnough)) hGiven
  | succ n ih =>
      obtain ⟨c, cs, hRest⟩ := List.exists_cons_of_ne_nil hGiven
      have hRest' : (s.prolong b).rest = c :: (cs ++ groupEnd b) := by
        rw [Source.prolong_rest, hRest, List.cons_append]
      by_cases hHyphen : c = '-'
      · subst hHyphen
        obtain ⟨m, rfl⟩ : ∃ m, n' = m + 1 := by
          rw [hRest', List.length_cons] at hEnough'
          exact ⟨n' - 1, by omega⟩
        rcases (run_leadingHyphens_cons_iff n hRest).mp hRun
          with ⟨u, hs, hNext, hTail, hSame⟩
        rcases prolongs_proceed 0 s b () u (Nat.zero_le _) hNext with
          ⟨d, hNext'⟩
        rcases run_proceed_iff.mp hNext with ⟨hFirst, hGiven'⟩
        have hLess := length_lt_of_next hRest hFirst
        have hLess' :=
          length_lt_of_next hRest' (run_proceed_iff.mp hNext').1
        rcases ih (b := d) hGiven' (by omega)
          (by omega : (u.prolong d).rest.length ≤ m) hTail with
          ⟨b', hTail'⟩
        exact ⟨b', (run_leadingHyphens_cons_iff m hRest').mpr
          ⟨_, hs, hNext', hTail', hSame⟩⟩
      · rw [run_leadingHyphens_stop _ hRest hHyphen] at hRun
        cases hRun
        exact ⟨b, run_leadingHyphens_stop _ hRest' hHyphen⟩

/- As many hyphens are tried as there are characters left. -/
theorem prolongs_leadingHyphens_bind
    {α : Type}
    {k k' : List Member → Reader α}
    (hRest : ∀ ms, Prolongs 0 (k ms) (k' ms))
    (n : Nat) :
    Prolongs n
      (do let s ← get; let ms ← leadingHyphens s.rest.length; k ms)
      (do let s ← get; let ms ← leadingHyphens s.rest.length; k' ms) := by
  have hHyphens : Prolongs n
      (get >>= fun s => leadingHyphens s.rest.length)
      (get >>= fun s => leadingHyphens s.rest.length) := by
    intro s b ms s' _ hRun
    by_cases hGiven : s.rest = []
    · rcases s with ⟨_, spaced, names⟩
      cases hGiven
      cases hRun
      exact ⟨b, by cases b <;> rfl⟩
    · exact run_leadingHyphens_prolong hGiven (Nat.le_refl _)
        (Nat.le_refl _) hRun
  exact hHyphens.bind hRest

theorem prolongs_opening : Prolongs 1 opening opening := by
  refine (prolongs_proceed 1).bind fun _ => .peek_bind fun c =>
    .optional_bind (fun _ => prolongs_proceed 1) <|
      prolongs_leadingHyphens_bind (fun hyphens => .peek_bind fun d => ?_) 0
  split
  · exact (prolongs_proceed 1).bind fun _ => .pure 0 _
  · exact .pure 1 _

theorem two_le_length_of_operator?
    {cs : List Char}
    {op : ClassOperator}
    (hOperator : operator? cs = some op) :
    2 ≤ cs.length := by
  match cs with
  | [] => cases hOperator
  | [c] => simp [operator?] at hOperator
  | c :: d :: cs => exact Nat.le_add_left 2 cs.length

theorem prolongs_members
    {n n' : Nat}
    (hMore : n ≤ n')
    (pending : Pending)
    (items : List Member) :
    Prolongs 0 (members pending items n) (members pending items n') := by
  induction n generalizing n' pending items with
  | zero => exact .failure _ _
  | succ n ih =>
      obtain ⟨m, rfl⟩ : ∃ m, n' = m + 1 := ⟨n' - 1, by omega⟩
      replace hMore : n ≤ m := Nat.le_of_succ_le_succ hMore
      refine (prolongs_blanks 0).bind fun _ => .get_bind fun s b _ => ?_
      rw [Source.prolong_rest, asciiClass?_append, operator?_append]
      cases asciiClass? s.rest with
      | some named =>
          rcases named with ⟨m, rest⟩
          exact (Prolongs.set _ ⟨rest, s.spaced, s.names⟩ b).bind fun _ =>
            ih hMore _ _
      | none =>
          dsimp only [Option.map_none]
          cases hOperator : operator? s.rest with
          | some op =>
              exact (prolongs_skip
                (two_le_length_of_operator? hOperator)).bind
                  fun _ => ih hMore _ _
          | none =>
              refine .peek_bind fun c => ?_
              split
              · exact (prolongs_skip (Nat.le_refl 1)).bind fun _ => .pure 0 _
              split
              · exact prolongs_opening.bind fun (negated, first) =>
                  (ih hMore _ _).bind fun m => ih hMore _ _
              · exact (prolongs_classMember 1).bind fun m => ih hMore _ _

theorem prolongs_bracket : Prolongs 1 bracket bracket := by
  refine prolongs_opening.bind fun (negated, first) =>
    .get_bind fun s b _ => ?_
  refine ((prolongs_members ?_ none first).mono (Nat.zero_le _)).bind
    fun m => .pure 0 _
  rw [Source.prolong_rest, List.length_append]
  omega

------------------------------------------------------------
-- Groups
------------------------------------------------------------

/- Nothing is asked of what fails. -/
theorem prolongs_of_fails
    {α : Type}
    {n : Nat}
    {r r' : Reader α}
    (hFails : ∀ s, r.run s = none) :
    Prolongs n r r' := by
  intro s b a s' _ hRun
  rw [hFails] at hRun
  cases hRun

/- Settings end before the end of the last group. -/
theorem settings?_append
    {on fresh : Bool}
    {seen ss : List Setting}
    {c : Char}
    {cs rest : List Char}
    (more : List Char)
    (hRead : settings? on fresh seen cs = some (ss, c, rest)) :
    settings? on fresh seen (cs ++ more) = some (ss, c, rest ++ more) := by
  induction cs generalizing on fresh seen with
  | nil => cases hRead
  | cons d ds ih =>
      rw [List.cons_append]
      unfold settings? at hRead ⊢
      by_cases hEnd : (d = ':' || d = ')') = true
      · rw [if_pos hEnd] at hRead ⊢
        split at hRead <;> simp_all
      · rw [if_neg hEnd] at hRead ⊢
        by_cases hHyphen : d = '-'
        · rw [if_pos hHyphen] at hRead ⊢
          split at hRead <;> simp_all
        · rw [if_neg hHyphen] at hRead ⊢
          cases hSwitch : Switch.ofChar? d with
          | none => simp [hSwitch] at hRead
          | some switch =>
              simp only [hSwitch] at hRead ⊢
              by_cases hSeen : (seen.map Prod.fst).contains switch = true
              · rw [if_pos hSeen] at hRead
                cases hRead
              · rw [if_neg hSeen] at hRead ⊢
                exact ih hRead

/- The name of a group does, too. -/
theorem prolongs_groupName (n : Nat) (cs : List Char) (b : Bool) :
    Prolongs n (groupName cs) (groupName (cs ++ groupEnd b)) := by
  unfold groupName
  cases hDrop : cs.dropWhile (· ≠ '>') with
  | nil =>
      -- The name is not closed.
      intro s d y s' _ hRun
      rcases run_bind_eq_some_iff.mp hRun with ⟨_, u, _, hRun⟩
      rcases run_bind_eq_some_iff.mp hRun with ⟨_, v, _, hRun⟩
      cases hRun
  | cons c ds =>
      rcases span_append (groupEnd b) hDrop with ⟨hTake, hDrop'⟩
      rw [hTake, hDrop']
      exact .get_bind fun s d _ => .check_bind fun _ =>
        (Prolongs.set _ ⟨c :: ds, s.spaced, _ :: s.names⟩ b).bind
          fun _ => (prolongs_expect 0 _).bind fun _ => .pure 0 _

/- So do the settings of a group. -/
theorem prolongs_marked (n : Nat) (cs : List Char) (b : Bool) :
    Prolongs n (marked cs) (marked (cs ++ groupEnd b)) := by
  unfold marked
  cases hRead : settings? true true [] cs with
  | none =>
      intro s d y s' _ hRun
      cases hRun
  | some read =>
      rcases read with ⟨ss, c, rest⟩
      rw [settings?_append (groupEnd b) hRead, liftM_some_bind,
        liftM_some_bind]
      have hRest : Prolongs n
          (modify fun s => { s with rest := rest })
          (modify fun s => { s with rest := rest ++ groupEnd b }) := by
        intro s d _ s' _ hRun
        cases hRun
        exact ⟨b, rfl⟩
      refine hRest.bind fun _ => ?_
      split
      · exact .pure 0 _
      · exact .check_bind fun _ => .pure 0 _

theorem prolongs_groupOpening : Prolongs 1 groupOpening groupOpening := by
  refine prolongs_next.bind fun _ => .get_bind fun s b _ => ?_
  rcases s with ⟨cs, spaced, names⟩
  dsimp only [Source.prolong]
  cases cs with
  | nil => cases b <;> exact .pure _ _
  | cons c cs =>
      by_cases hMark : c = '?'
      · subst hMark
        cases cs with
        | nil => exact prolongs_of_fails fun s => rfl
        | cons d ds =>
            by_cases hAhead : d = '=' ∨ d = '!'
            · rcases hAhead with rfl | rfl <;> exact .failure _ _
            rw [not_or] at hAhead
            by_cases hName : d = '<'
            · subst hName
              cases ds with
              | nil => exact prolongs_of_fails fun s => rfl
              | cons e es =>
                  by_cases hBehind : e = '=' ∨ e = '!'
                  · rcases hBehind with rfl | rfl <;> exact .failure _ _
                  rw [not_or] at hBehind
                  simpa [hBehind] using prolongs_groupName _ (e :: es) b
            by_cases hNamed : d = 'P'
            · subst hNamed
              cases ds with
              | nil => exact prolongs_of_fails fun s => rfl
              | cons e es =>
                  by_cases hBracket : e = '<'
                  · subst hBracket
                    exact prolongs_groupName _ es b
                  · simpa [hBracket] using
                      prolongs_marked _ ('P' :: e :: es) b
            · simpa [hAhead, hName, hNamed] using
                prolongs_marked _ (d :: ds) b
      · simpa [hMark] using Prolongs.pure _ (Opening.group [])

------------------------------------------------------------
-- Repetitions
------------------------------------------------------------

theorem prolongs_lazyMark (n : Nat) : Prolongs n lazyMark lazyMark := by
  refine .peek?_bind (fun c => ?_) (.pure 0 _) (.pure 0 _)
  split
  · exact prolongs_skip (Nat.le_refl 1)
  · exact .pure 1 _

/- Blanks that may be left out in all patterns. -/
theorem prolongs_dropBlanks (n : Nat) :
    Prolongs n
      (modify fun s => { s with rest := s.rest.dropWhile Unicode.isBlank })
      (modify fun s =>
        { s with rest := s.rest.dropWhile Unicode.isBlank }) := by
  intro s b _ s' _ hRun
  cases hRun
  rcases s with ⟨cs, spaced, names⟩
  exact ⟨b, congrArg (fun rest => some ((), Source.mk rest spaced names))
    (dropWhile_isBlank_append cs b)⟩

theorem prolongs_numberBlanks (n : Nat) :
    Prolongs n numberBlanks numberBlanks := by
  exact (prolongs_dropBlanks n).bind fun _ => prolongs_blanks 0

theorem prolongs_number? (n : Nat) : Prolongs n number? number? := by
  refine (prolongs_dropBlanks n).bind fun _ =>
    (prolongs_collect (by decide) 0).bind fun digits => ?_
  have hNumber : Prolongs 0
      (if digits.isEmpty then return none
        else do
          let n ← Digits.readNat? 10 digits
          check (Digits.inUnsigned 32 n)
          return some n : Reader (Option Nat))
      (if digits.isEmpty then return none
        else do
          let n ← Digits.readNat? 10 digits
          check (Digits.inUnsigned 32 n)
          return some n) := by
    split
    · exact .pure 0 _
    · exact (Prolongs.lift 0 _).bind fun _ => .check_bind fun _ => .pure 0 _
  refine .peek?_bind (fun c => ?_) hNumber hNumber
  exact .optional_bind (fun _ => prolongs_numberBlanks 1) hNumber

theorem prolongs_count (n : Nat) : Prolongs n count count := by
  refine (prolongs_proceed n).bind fun _ =>
    (prolongs_number? 0).bind fun least? => .peek_bind fun c => ?_
  split
  · refine (prolongs_proceed 1).bind fun _ => .peek_bind fun d => ?_
    split
    · exact (Prolongs.lift 1 least?).bind fun _ => .pure 0 _
    · exact (Prolongs.lift 1 least?).bind fun _ =>
        (prolongs_number? 0).bind fun most? =>
          (Prolongs.lift 0 most?).bind fun _ => .pure 0 _
  · exact (Prolongs.lift 1 least?).bind fun _ =>
      (Prolongs.lift 0 least?).bind fun _ => .pure 0 _

theorem prolongs_repetition (f : Form) (c : Char) :
    Prolongs 1 (repetition f c) (repetition f c) := by
  unfold repetition
  split
  · refine (prolongs_count 1).bind fun (least, most?) =>
      .peek_bind fun d => .check_bind fun _ => prolongs_next.bind fun _ =>
        (prolongs_lazyMark 0).bind fun _ => .check_bind fun _ => .pure 0 _
  · refine (prolongs_skip (Nat.le_refl 1)).bind fun _ =>
      (prolongs_lazyMark 0).bind fun _ => ?_
    split
    · exact .pure 0 _
    · exact .pure 0 _

------------------------------------------------------------
-- Forms
------------------------------------------------------------

theorem prolongs_primitive (c : Char) :
    Prolongs 1 (primitive c) (primitive c) := by
  unfold primitive
  split
  · exact prolongs_bracket
  split
  · exact prolongs_escape.bind fun _ => .pure 0 _
  refine (prolongs_skip (Nat.le_refl 1)).bind fun _ => ?_
  repeat' split
  all_goals exact .pure 0 _

theorem prolongs_setSpaced (n : Nat) (spaced : Bool) :
    Prolongs n (modify fun s => { s with spaced := spaced })
      (modify fun s => { s with spaced := spaced }) := by
  intro s b _ s' _ hRun
  cases hRun
  exact ⟨b, rfl⟩

theorem prolongs_applySpaced (n : Nat) (ss : List Setting) :
    Prolongs n (applySpaced ss) (applySpaced ss) := by
  unfold applySpaced
  split
  · exact prolongs_setSpaced n _
  · exact .pure n _

/- The forms of a pattern are the same when it ends a group. -/
theorem prolongs_forms
    {n n' : Nat}
    (hMore : n ≤ n')
    (alternatives items : List Form) :
    Prolongs 0 (forms alternatives items n)
      (forms alternatives items n') := by
  induction n generalizing n' alternatives items with
  | zero => exact .failure _ _
  | succ n ih =>
      obtain ⟨m, rfl⟩ : ∃ m, n' = m + 1 := ⟨n' - 1, by omega⟩
      replace hMore : n ≤ m := Nat.le_of_succ_le_succ hMore
      refine (prolongs_blanks 0).bind fun _ =>
        .peek?_bind (fun c => ?_) (.pure 0 _) (.pure 0 _)
      dsimp only
      split
      · exact .pure 1 _
      split
      · exact (prolongs_skip (Nat.le_refl 1)).bind fun _ => ih hMore _ _
      split
      · refine prolongs_groupOpening.bind fun opening => ?_
        cases opening with
        | settings ss =>
            exact (prolongs_applySpaced 0 ss).bind fun _ => ih hMore _ _
        | group ss =>
            refine .get_bind fun s b _ => ?_
            exact (prolongs_applySpaced _ ss).bind fun _ =>
              (ih hMore _ _).bind fun f =>
                (prolongs_expect 0 _).bind fun _ =>
                  (prolongs_setSpaced 0 _).bind fun _ => ih hMore _ _
      split
      · cases items with
        | nil => exact .failure _ _
        | cons f items =>
            exact .check_bind fun _ =>
              (prolongs_repetition f c).bind fun g => ih hMore _ _
      · exact (prolongs_primitive c).bind fun f => ih hMore _ _

end Pattern

end ManifestRecipes
