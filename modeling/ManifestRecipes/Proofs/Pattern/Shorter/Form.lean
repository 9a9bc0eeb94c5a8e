import ManifestRecipes.Proofs.Pattern.Shorter.Bracket

/-
  Forms that are read from a shorter text.

  What is read from a group up to its end is read alike from the
  pattern that the group holds.  A bare brace before the end
  does not matter: it begins a count, and there is none.

  Main declarations:
    * `Pattern.shortens_groupOpening`
    * `Pattern.shortens_repetition`
    * `Pattern.shortens_forms`
-/

namespace ManifestRecipes

namespace Pattern

open Reader

variable {limit : Nat}

------------------------------------------------------------
-- Groups
------------------------------------------------------------

/- Settings take at least the mark that ends them. -/
theorem length_lt_of_settings?
    {on fresh : Bool}
    {seen ss : List Setting}
    {c : Char}
    {cs rest : List Char}
    (hRead : settings? on fresh seen cs = some (ss, c, rest)) :
    rest.length < cs.length := by
  induction cs generalizing on fresh seen with
  | nil => cases hRead
  | cons d ds ih =>
      unfold settings? at hRead
      split at hRead
      · split at hRead
        · cases hRead
        · cases hRead
          exact Nat.lt_succ_self _
      split at hRead
      · split at hRead
        · exact Nat.lt_succ_of_lt (ih hRead)
        · cases hRead
      split at hRead
      · split at hRead
        · cases hRead
        · exact Nat.lt_succ_of_lt (ih hRead)
      · cases hRead

/- Settings that leave the end of the group are the same without it. -/
theorem settings?_shorter
    {on fresh : Bool}
    {seen ss : List Setting}
    {c : Char}
    {cs rest : List Char}
    (hRead : settings? on fresh seen (cs ++ groupEnd true) =
      some (ss, c, rest))
    (hMany : 2 ≤ rest.length) :
    ∃ rest', settings? on fresh seen cs = some (ss, c, rest') ∧
      rest = rest' ++ groupEnd true := by
  induction cs generalizing on fresh seen with
  | nil =>
      have hLess := length_lt_of_settings? hRead
      exact absurd hLess (Nat.not_lt.mpr hMany)
  | cons d ds ih =>
      rw [List.cons_append] at hRead
      unfold settings? at hRead ⊢
      by_cases hEnd : (d = ':' || d = ')') = true
      · rw [if_pos hEnd] at hRead ⊢
        split at hRead <;> simp_all
      · rw [if_neg hEnd] at hRead ⊢
        by_cases hHyphen : d = '-'
        · rw [if_pos hHyphen] at hRead ⊢
          split at hRead <;> simp_all
        · rw [if_neg hHyphen] at hRead ⊢
          cases hSwitch : Switch.ofChar? d with
          | none => simp [hSwitch] at hRead
          | some switch =>
              simp only [hSwitch] at hRead ⊢
              by_cases hSeen : (seen.map Prod.fst).contains switch = true
              · rw [if_pos hSeen] at hRead
                cases hRead
              · rw [if_neg hSeen] at hRead ⊢
                exact ih hRead

/- A group's name ends with a mark that is left out. -/
theorem run_groupName_eq_some_iff
    {cs : List Char}
    {s u : Source}
    {o : Opening} :
    (groupName cs).run s = some (o, u) ↔
      ∃ name ds, cs.takeWhile (· ≠ '>') = name ∧
        cs.dropWhile (· ≠ '>') = '>' :: ds ∧
        (isGroupName name && !s.names.contains (String.ofList name)) =
          true ∧
        o = .group [] ∧
        u = ⟨ds, s.spaced, String.ofList name :: s.names⟩ := by
  rw [groupName, run_get_bind]
  simp only [exists_and_left, exists_eq_left']
  generalize cs.takeWhile (· ≠ '>') = name
  generalize cs.dropWhile (· ≠ '>') = rest
  cases isGroupName name && !s.names.contains (String.ofList name) with
  | false => exact iff_of_false nofun (by simp)
  | true =>
      rcases rest with _ | ⟨c, ds⟩
      · exact iff_of_false nofun (by simp)
      · by_cases hClosed : c = '>'
        · subst hClosed
          constructor
          · intro hRun
            cases hRun
            exact ⟨ds, rfl, rfl, rfl, rfl⟩
          · rintro ⟨_, hSame, _, rfl, rfl⟩
            cases hSame
            rfl
        · simp [check, expect, peek?, hClosed]

/- Settings are followed by a group or stand for themselves. -/
theorem run_marked_eq_some_iff
    {cs : List Char}
    {s u : Source}
    {o : Opening} :
    (marked cs).run s = some (o, u) ↔
      ∃ ss c rest, settings? true true [] cs = some (ss, c, rest) ∧
        u = { s with rest := rest } ∧
        if c = ':' then o = .group ss
        else ss.isEmpty = false ∧ o = .settings ss := by
  rw [marked]
  cases settings? true true [] cs with
  | none => exact iff_of_false nofun nofun
  | some read =>
      rcases read with ⟨ss, c, rest⟩
      simp only [liftM_some_bind]
      constructor
      · intro hRun
        rcases run_bind_eq_some_iff.mp hRun with ⟨_, v, hRest, hOpening⟩
        cases hRest
        by_cases hColon : c = ':'
        · rw [if_pos hColon] at hOpening
          cases hOpening
          exact ⟨ss, c, rest, rfl, rfl, by rw [if_pos hColon]⟩
        · rw [if_neg hColon] at hOpening
          cases hGiven : ss.isEmpty with
          | true =>
              rw [hGiven] at hOpening
              cases hOpening
          | false =>
              rw [hGiven] at hOpening
              cases hOpening
              exact ⟨ss, c, rest, rfl, rfl,
                by rw [if_neg hColon]; exact ⟨hGiven, rfl⟩⟩
      · rintro ⟨_, _, _, hSame, rfl, hOpening⟩
        cases hSame
        refine run_bind_eq_some_iff.mpr ⟨(), _, rfl, ?_⟩
        by_cases hColon : c = ':'
        · rw [if_pos hColon] at hOpening ⊢
          rw [hOpening]
          rfl
        · rw [if_neg hColon] at hOpening ⊢
          rw [hOpening.1, hOpening.2]
          rfl

/- Both take something of what is behind the question mark. -/
theorem length_lt_of_groupName
    {cs : List Char}
    {s u : Source}
    {o : Opening}
    (hRun : (groupName cs).run s = some (o, u)) :
    u.rest.length < cs.length := by
  rcases run_groupName_eq_some_iff.mp hRun with
    ⟨name, ds, _, hDrop, _, _, rfl⟩
  have hLeft := (List.dropWhile_suffix (l := cs) (· ≠ '>')).length_le
  rw [hDrop] at hLeft
  exact hLeft

theorem length_lt_of_marked
    {cs : List Char}
    {s u : Source}
    {o : Opening}
    (hRun : (marked cs).run s = some (o, u)) :
    u.rest.length < cs.length := by
  rcases run_marked_eq_some_iff.mp hRun with
    ⟨ss, c, rest, hRead, rfl, _⟩
  exact length_lt_of_settings? hRead

/- The name of a group is the same without the end of another group. -/
theorem run_groupName_shorter
    (cs : List Char)
    {s u : Source}
    {o : Opening}
    (hRun : (groupName (cs ++ groupEnd true)).run (s.prolong true) =
      some (o, u)) :
    ∃ v, (groupName cs).run s = some (o, v) ∧ u = v.prolong true := by
  rcases run_groupName_eq_some_iff.mp hRun with
    ⟨name, ds, hName, hClosed, hFits, rfl, rfl⟩
  cases hDrop : cs.dropWhile (· ≠ '>') with
  | nil =>
      rw [dropWhile_append_groupEnd true hDrop (by decide)] at hClosed
      cases hClosed
  | cons c es =>
      rcases span_append (groupEnd true) hDrop with ⟨hTake, hDrop'⟩
      rw [hTake] at hName
      rw [hDrop'] at hClosed
      cases hClosed
      exact ⟨_, run_groupName_eq_some_iff.mpr
        ⟨name, es, hName, hDrop, hFits, rfl, rfl⟩, rfl⟩

/- So are settings that leave this end. -/
theorem run_marked_shorter
    (cs : List Char)
    {s u : Source}
    {o : Opening}
    (hRun : (marked (cs ++ groupEnd true)).run (s.prolong true) =
      some (o, u))
    (hMany : 2 ≤ u.rest.length) :
    ∃ v, (marked cs).run s = some (o, v) ∧ u = v.prolong true := by
  rcases run_marked_eq_some_iff.mp hRun with
    ⟨ss, c, rest, hRead, rfl, hOpening⟩
  rcases settings?_shorter hRead hMany with ⟨rest, hRead', rfl⟩
  exact ⟨_, run_marked_eq_some_iff.mpr
    ⟨ss, c, rest, hRead', rfl, hOpening⟩, rfl⟩

theorem shortens_groupOpening :
    Shortens limit 0 1 groupOpening groupOpening := by
  refine .taking (1 + 0) (shortens_next.bind (fun _ => ⟨?_, ?_⟩)
    (Nat.zero_le _)) (Nat.le_refl 1)
  · intro s o u hRun
    rw [run_get_bind] at hRun
    split at hRun
    case h_5 cs hRest =>
      have hLess := length_lt_of_groupName hRun
      rw [hRest]
      simp only [List.length_cons]
      omega
    case h_6 cs _ _ hRest =>
      have hLess := length_lt_of_groupName hRun
      rw [hRest]
      simp only [List.length_cons]
      omega
    case h_7 cs _ _ _ _ _ _ hRest =>
      have hLess := length_lt_of_marked hRun
      rw [hRest]
      simp only [List.length_cons]
      omega
    case h_8 =>
      cases hRun
      exact Nat.le_refl _
    all_goals cases hRun
  · intro s o u _ hRun hMany
    rw [run_get_bind] at hRun ⊢
    rcases s with ⟨cs, spaced, names⟩
    dsimp only [Source.prolong] at hRun ⊢
    -- No mark at the beginning of a group is a part of the end.
    rcases cs with _ | ⟨c, cs⟩
    · cases hRun
      exact ⟨_, rfl, rfl⟩
    by_cases hMark : c = '?'
    · subst hMark
      rcases cs with _ | ⟨d, ds⟩
      · exact run_marked_shorter []
          (s := ⟨_, spaced, names⟩) hRun hMany
      by_cases hAhead : d = '=' ∨ d = '!'
      · rcases hAhead with rfl | rfl <;> cases hRun
      rw [not_or] at hAhead
      by_cases hName : d = '<'
      · subst hName
        rcases ds with _ | ⟨e, es⟩
        · exact run_groupName_shorter []
            (s := ⟨_, spaced, names⟩) hRun
        by_cases hBehind : e = '=' ∨ e = '!'
        · rcases hBehind with rfl | rfl <;> cases hRun
        rw [not_or] at hBehind
        simp only [List.cons_append, List.cons.injEq, hBehind,
          false_and, imp_self, implies_true] at hRun ⊢
        exact run_groupName_shorter (e :: es)
          (s := ⟨_, spaced, names⟩) hRun
      by_cases hNamed : d = 'P'
      · subst hNamed
        rcases ds with _ | ⟨e, es⟩
        · exact run_marked_shorter ['P']
            (s := ⟨_, spaced, names⟩) hRun hMany
        by_cases hBracket : e = '<'
        · subst hBracket
          exact run_groupName_shorter es
            (s := ⟨_, spaced, names⟩) hRun
        simp only [List.cons_append, List.cons.injEq, Char.reduceEq,
          hBracket, false_and, and_false, imp_self, implies_true]
          at hRun ⊢
        exact run_marked_shorter ('P' :: e :: es)
          (s := ⟨_, spaced, names⟩) hRun hMany
      simp only [List.cons_append, List.cons.injEq, hAhead, hName,
        hNamed, false_and, imp_self, implies_true] at hRun ⊢
      exact run_marked_shorter (d :: ds)
        (s := ⟨_, spaced, names⟩) hRun hMany
    · simp only [List.cons_append, List.cons.injEq, hMark, false_and,
        imp_self, implies_true] at hRun ⊢
      cases hRun
      exact ⟨_, rfl, rfl⟩

------------------------------------------------------------
-- Repetitions
------------------------------------------------------------

theorem shortens_lazyMark : Shortens limit 0 0 lazyMark lazyMark := by
  refine .peek?_bind (fun c => ?_) (.pure _) (.pure _)
  exact .taking (min 1 0)
    (.ite (fun _ => shortens_skip 1) fun _ => .pure _) (by omega)

/- Blanks that may be left out in all patterns. -/
theorem shortens_dropBlanks :
    Shortens limit 0 0
      (modify fun s => { s with rest := s.rest.dropWhile Unicode.isBlank })
      (modify fun s =>
        { s with rest := s.rest.dropWhile Unicode.isBlank }) := by
  constructor
  · intro s _ u hRun
    cases hRun
    exact (List.dropWhile_suffix _).length_le
  · intro s _ u _ hRun _
    cases hRun
    exact ⟨_, rfl, congrArg
      (fun rest => Source.mk rest s.spaced s.names)
      (dropWhile_isBlank_append s.rest true)⟩

theorem shortens_numberBlanks :
    Shortens limit 0 0 numberBlanks numberBlanks := by
  exact shortens_dropBlanks.bind (fun _ => shortens_blanks)
    (Nat.zero_le _)

theorem shortens_number? : Shortens limit 0 0 number? number? := by
  refine .taking (0 + (0 + 0)) (shortens_dropBlanks.bind (fun _ =>
    (shortens_collect _).bind (fun digits => ?_) (Nat.zero_le _))
    (Nat.zero_le _)) (Nat.le_refl 0)
  have hNumber : ∀ {l : Nat}, Shortens l 0 0
      (if digits.isEmpty then return none
        else do
          let n ← Digits.readNat? 10 digits
          check (Digits.inUnsigned 32 n)
          return some n : Reader (Option Nat))
      (if digits.isEmpty then return none
        else do
          let n ← Digits.readNat? 10 digits
          check (Digits.inUnsigned 32 n)
          return some n) := by
    intro l
    refine .taking (min 0 (0 + 0)) (.ite (fun _ => .pure _) fun _ =>
      (Shortens.lift _).bind (fun n => .check_bind fun _ => .pure _)
        (Nat.zero_le _)) (by omega)
  refine .peek?_bind (fun c => ?_) hNumber hNumber
  exact .optional_bind (fun _ => shortens_numberBlanks) hNumber
    (Nat.zero_le _)

theorem shortens_count : Shortens limit 1 1 count count := by
  refine .taking (1 + (0 + min (1 + min (0 + 0) (0 + (0 + (0 + 0))))
    (0 + (0 + 0)))) (shortens_proceed.bind (fun _ =>
      shortens_number?.bind (fun least? => .peek_bind (fun c => .ite
        (fun _ => shortens_proceed.bind (fun _ => .peek_bind (fun d =>
          .ite (fun _ => ?_) fun _ => ?_) (by omega)) (by omega))
        fun _ => ?_) (by omega)) (by omega)) (by omega)) (by omega)
  · exact (Shortens.lift least?).bind (fun _ => .pure _)
      (Nat.zero_le _)
  · exact (Shortens.lift least?).bind (fun least =>
      shortens_number?.bind (fun most? =>
        (Shortens.lift most?).bind (fun _ => .pure _) (Nat.zero_le _))
        (Nat.zero_le _)) (Nat.zero_le _)
  · exact (Shortens.lift least?).bind (fun _ =>
      (Shortens.lift least?).bind (fun _ => .pure _) (Nat.zero_le _))
      (Nat.zero_le _)

theorem shortens_repetition (f : Form) (c : Char) :
    Shortens limit 0 1 (repetition f c) (repetition f c) := by
  refine .taking (min (1 + (1 + (0 + 0))) (1 + (0 + min 0 0)))
    (.ite (fun _ => ?_) fun _ => ?_) (by omega)
  · exact shortens_count.bind (fun (least, most?) =>
      .peek_bind (fun d => .check_bind fun _ => shortens_next.bind
        (fun _ => shortens_lazyMark.bind (fun _ => .check_bind fun _ =>
          .pure _) (Nat.zero_le _)) (Nat.zero_le _)) (by omega))
      (by omega)
  · exact (shortens_skip 1).bind (fun _ => shortens_lazyMark.bind
      (fun _ => .ite (fun _ => .pure _) fun _ => .pure _)
        (Nat.zero_le _)) (Nat.zero_le _)

------------------------------------------------------------
-- Forms
------------------------------------------------------------

theorem shortens_setSpaced (spaced : Bool) :
    Shortens limit 0 0 (modify fun s => { s with spaced := spaced })
      (modify fun s => { s with spaced := spaced }) := by
  constructor
  · intro s _ u hRun
    cases hRun
    exact Nat.le_refl _
  · intro s _ u _ hRun _
    cases hRun
    exact ⟨_, rfl, rfl⟩

theorem shortens_applySpaced (ss : List Setting) :
    Shortens limit 0 0 (applySpaced ss) (applySpaced ss) := by
  unfold applySpaced
  split
  · exact shortens_setSpaced _
  · exact .pure _

/- There is no count between a bare brace and the end of the group. -/
theorem run_count_of_bareBrace
    {s : Source}
    (hBrace : BareBrace s) :
    count.run s = none := by
  rcases hBrace with ⟨_, ⟨_, spaced, names⟩, hNext, hEnd⟩
  cases hEnd
  have hProceed : proceed.run s = some ((), ⟨_, spaced, names⟩) :=
    run_proceed_iff.mpr ⟨hNext, List.cons_ne_nil _ _⟩
  rw [count, StateT.run_bind, hProceed]
  rfl

/- So nothing is read there behind the edge of a word. -/
theorem run_forms_of_bareBrace
    (alternatives items : List Form)
    (f : Form)
    (n : Nat)
    {s : Source}
    (hBrace : BareBrace s) :
    (forms alternatives (f :: items) n).run s = none := by
  cases n with
  | zero => rfl
  | succ n =>
      have hCount := run_count_of_bareBrace hBrace
      rcases s with ⟨_ | ⟨c, cs⟩, spaced, names⟩
      · cases hBrace.1
      cases hBrace.1
      have hSteps :
          (forms alternatives (f :: items) (n + 1)).run
              ⟨'\x7b' :: cs, spaced, names⟩ =
            (check f.isRepeatable >>= fun _ =>
              repetition f '\x7b' >>= fun g =>
                forms alternatives (g :: items) n).run
              ⟨'\x7b' :: cs, spaced, names⟩ := by
        cases spaced <;> rfl
      rw [hSteps]
      cases f.isRepeatable with
      | false => rfl
      | true =>
          have hRepetition :
              (repetition f '\x7b' >>= fun g =>
                forms alternatives (g :: items) n).run
                ⟨'\x7b' :: cs, spaced, names⟩ = none := by
            rw [repetition, if_pos rfl, StateT.run_bind,
              StateT.run_bind, hCount]
            rfl
          exact hRepetition

/- A character or class is read alike where no bare brace can follow. -/
theorem shortens_primitive_bind
    {α : Type}
    {more taken : Nat}
    {k k' : Form → Reader α}
    (c : Char)
    (hRest : ∀ f, Shortens limit more taken (k f) (k' f))
    (hBare : ∀ u, BareBrace u → (k' (.anchor .edge)).run u = none) :
    Shortens (limit + 1) more (1 + taken)
      (primitive c >>= k) (primitive c >>= k') := by
  unfold primitive
  split
  · exact shortens_bracket.bind_taken hRest (by omega)
  split
  · simp only [bind_assoc, pure_bind]
    exact .taking (2 + taken)
      (shortens_escape_bind (fun e => hRest e.form) hBare) (by omega)
  · simp only [bind_assoc]
    refine (shortens_skip 1).bind_taken (fun _ => ?_) (by omega)
    split
    · exact hRest .dot
    split
    · exact hRest (.anchor .lineStart)
    split
    · exact hRest (.anchor .lineEnd)
    · exact hRest (.letter ⟨c, false⟩)

/- The forms of a group are the same without its end. -/
theorem shortens_forms
    {n n' : Nat}
    (hEnough : limit ≤ n)
    (alternatives items : List Form) :
    Shortens limit 0 0
      (forms alternatives items n) (forms alternatives items n') := by
  induction n' generalizing limit n alternatives items with
  | zero => exact .failure
  | succ n' ih =>
      have hStep : ∀ {l n : Nat}, l ≤ n → Shortens (l + 1) 0 0
          (forms alternatives items (n + 1))
          (forms alternatives items (n' + 1)) := by
        intro l n hEnough
        refine .taking (0 + 0) (shortens_blanks.bind (fun _ =>
          .peek?_bind (fun c => ?_) (.pure _) (.pure _))
          (Nat.zero_le _)) (Nat.le_refl 0)
        dsimp only
        split
        · exact .pure _
        split
        · exact .taking (1 + 0) ((shortens_skip 1).bind_taken
            (fun _ => ih hEnough _ _) (by omega)) (by omega)
        split
        · refine .taking (1 + 0) (shortens_groupOpening.bind_taken
            (fun opening => ?_) (by omega)) (by omega)
          cases opening with
          | settings ss =>
              exact .taking (0 + 0) ((shortens_applySpaced ss).bind
                (fun _ => ih hEnough _ _) (Nat.le_refl 0)) (by omega)
          | group ss =>
              have hGroup : ∀ {l spaced}, l ≤ n → Shortens l 0 1
                  (do
                    applySpaced ss
                    let f ← forms [] [] n
                    expect ')'
                    modify fun s => { s with spaced := spaced }
                    forms alternatives (.group ss f :: items) n)
                  (do
                    applySpaced ss
                    let f ← forms [] [] n'
                    expect ')'
                    modify fun s => { s with spaced := spaced }
                    forms alternatives (.group ss f :: items) n') := by
                intro l spaced hEnough
                exact .taking (0 + (0 + (1 + (0 + 0))))
                  ((shortens_applySpaced ss).bind (fun _ =>
                    (ih hEnough _ _).bind (fun f =>
                      (shortens_expect _).bind (fun _ =>
                        (shortens_setSpaced spaced).bind
                          (fun _ => ih hEnough _ _) (Nat.zero_le _))
                        (Nat.zero_le _)) (Nat.zero_le _))
                      (Nat.zero_le _)) (by omega)
              refine .taking 1 (.get_bind ?_ fun s hShort => ?_)
                (Nat.zero_le 1)
              · exact (hGroup (Nat.zero_le n)).leaves
              · exact hGroup (by omega)
        split
        · cases items with
          | nil => exact .failure
          | cons f items =>
              exact .check_bind fun _ => .taking (1 + 0)
                ((shortens_repetition f c).bind_taken
                  (fun g => ih hEnough _ _) (by omega)) (by omega)
        · exact .taking (1 + 0) (shortens_primitive_bind c
            (fun f => ih hEnough _ _)
            fun u => run_forms_of_bareBrace _ _ _ _) (by omega)
      cases limit with
      | zero => exact (hStep (Nat.zero_le n)).of_no_text
      | succ limit =>
          obtain ⟨m, rfl⟩ : ∃ m, n = m + 1 := ⟨n - 1, by omega⟩
          exact hStep (Nat.le_of_succ_le_succ hEnough)

end Pattern

end ManifestRecipes
