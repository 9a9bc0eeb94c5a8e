import ManifestRecipes.Proofs.Pattern.Form
import ManifestRecipes.Proofs.Pattern.Shorter.Source

/-
  Characters and classes that are read from a shorter text.

  Escapes and brackets that leave the end of the last group are
  the same without it.  Only behind the edge of a word a brace
  may be left that the shorter text cannot go on from; it stands
  right before the end then.

  Key definitions include:
    * `Pattern.BareBrace`

  Main declarations:
    * `Pattern.shortens_escape_bind`
    * `Pattern.shortens_bracket`
-/

namespace ManifestRecipes

namespace Pattern

open Reader

variable {limit : Nat}

------------------------------------------------------------
-- Escapes
------------------------------------------------------------

theorem shortens_hexDigits (length : Nat) :
    Shortens limit 0 length (hexDigits length) (hexDigits length) := by
  induction length with
  | zero => exact .pure []
  | succ length ih =>
      have hStep : Shortens limit 0 (1 + (length + 0))
          (hexDigits (length + 1)) (hexDigits (length + 1)) :=
        .peek_bind (fun c => .check_bind fun _ =>
          shortens_next.bind (fun _ => ih.bind (fun _ => .pure _)
            (Nat.zero_le _)) (Nat.zero_le _)) (by omega)
      exact hStep.mono (by omega)

theorem shortens_numbered {length : Nat} (hGiven : 1 ≤ length) :
    Shortens limit 0 2 (numbered length) (numbered length) := by
  refine .taking (1 + min (1 + (0 + (1 + (0 + 0)))) (length + (0 + 0)))
    (shortens_proceed.bind (fun _ => .peek_bind (fun c => .ite
      (fun _ => ?_) fun _ => ?_) (by omega)) (by omega)) (by omega)
  · exact shortens_next.bind (fun _ => (shortens_collect _).bind
      (fun digits => .peek_bind (fun c => .check_bind fun _ =>
        shortens_next.bind (fun _ =>
          (Shortens.lift (numbered? digits)).bind (fun _ => .pure _)
            (Nat.le_refl 0)) (by omega)) (by omega))
        (by omega)) (by omega)
  · exact (shortens_hexDigits length).bind (fun digits =>
      (Shortens.lift (numbered? digits)).bind (fun _ => .pure _)
        (Nat.le_refl 0)) (Nat.zero_le _)

theorem shortens_query : Shortens limit 0 2 query query := by
  refine .taking (1 + min (1 + (0 + (1 + 0))) (1 + 0))
    (shortens_proceed.bind (fun _ => .peek_bind (fun c => .ite
      (fun _ => ?_) fun _ => .check_bind fun _ => ?_) (by omega))
      (by omega)) (by omega)
  · exact shortens_next.bind (fun _ => (shortens_collect _).bind
      (fun cs => (shortens_expect _).bind (fun _ => .pure (queryOf cs))
        (by omega)) (by omega)) (by omega)
  · exact (shortens_skip 1).bind (fun _ => .pure _) (by omega)

/- A brace stands before the end of the group, with blanks between them. -/
def BareBrace (s : Source) : Prop :=
  s.rest.head? = some '\x7b' ∧
    ∃ u, next.run s = some ((), u) ∧ u.rest = groupEnd true

/- The name of an edge takes at least the brace that closes it. -/
theorem shortens_edgeName :
    Shortens limit 0 1
      (do
        let name ← collect isEdgeChar
        expect '\x7d'
        namedEdge? (String.ofList name))
      (do
        let name ← collect isEdgeChar
        expect '\x7d'
        namedEdge? (String.ofList name)) := by
  exact .taking (0 + (1 + 0)) ((shortens_collect isEdgeChar).bind
    (fun name => (shortens_expect _).bind (fun _ => .lift _)
      (Nat.zero_le _)) (Nat.zero_le _)) (Nat.le_refl 1)

/-
  An edge ends before any brace, behind the name in braces, or
  before a brace with something else in it.
-/
theorem run_edge_eq_some_iff
    {s u : Source}
    {a : Anchor} :
    edge.run s = some (a, u) ↔
      (s.rest.head? ≠ some '\x7b' ∧ a = .edge ∧ u = s) ∨
      (s.rest.head? = some '\x7b' ∧
        ∃ v c, proceed.run s = some ((), v) ∧ v.rest.head? = some c ∧
          if isEdgeChar c then
            (do
              let name ← collect isEdgeChar
              expect '\x7d'
              namedEdge? (String.ofList name) : Reader Anchor).run v =
                some (a, u)
          else a = .edge ∧ u = s) := by
  by_cases hBrace : s.rest.head? = some '\x7b'
  · have hSteps : edge.run s =
        (proceed >>= fun _ => peek >>= fun c =>
          if isEdgeChar c then do
            let name ← collect isEdgeChar
            expect '\x7d'
            namedEdge? (String.ofList name)
          else do
            set s
            return .edge : Reader Anchor).run s := by
      simp [edge, peek?, hBrace]
    rw [hSteps, run_bind_eq_some_iff]
    simp only [run_peek_bind_eq_some_iff, hBrace, ne_eq, not_true,
      false_and, false_or, true_and, Unique.exists_iff,
      PUnit.default_eq_unit, ← exists_and_left]
    refine exists_congr fun v => exists_congr fun c =>
      and_congr_right fun _ => and_congr_right fun _ => ?_
    cases isEdgeChar c with
    | true => rfl
    | false => simp [eq_comm]
  · have hSteps : edge.run s = some (.edge, s) := by
      simp [edge, peek?, hBrace]
    simp only [hSteps, hBrace, Option.some.injEq, Prod.mk.injEq,
      ne_eq, not_false_iff, true_and, false_and, or_false]
    exact and_congr eq_comm eq_comm

/- Nothing is added where the edge of a word is read. -/
theorem length_le_of_edge
    {s u : Source}
    {a : Anchor}
    (hRun : edge.run s = some (a, u)) :
    u.rest.length ≤ s.rest.length := by
  rcases run_edge_eq_some_iff.mp hRun with
    ⟨_, _, rfl⟩ | ⟨_, v, c, hProceed, _, hRest⟩
  · exact Nat.le_refl _
  · split at hRest
    · have hLeft := (@shortens_proceed 0).leaves hProceed
      have hLeft' := (@shortens_edgeName 0).leaves hRest
      omega
    · exact Nat.le_of_eq (congrArg (·.rest.length) hRest.2)

/-
  What stands in braces behind the edge of a word is its name,
  or it is left; then the longer text may have a bare brace.
-/
theorem run_edge_shorter
    {s u : Source}
    {a : Anchor}
    (hRun : edge.run (s.prolong true) = some (a, u))
    (hMany : 2 ≤ u.rest.length) :
    (∃ v, edge.run s = some (a, v) ∧ u = v.prolong true) ∨
      a = .edge ∧ BareBrace u := by
  rcases run_edge_eq_some_iff.mp hRun with
    ⟨hOther, rfl, rfl⟩ | ⟨hBrace, v, c, hProceed, hNext, hRest⟩
  · refine Or.inl ⟨s, run_edge_eq_some_iff.mpr (Or.inl ⟨?_, rfl, rfl⟩),
      rfl⟩
    exact mt (head?_prolong_true (by decide)).mpr hOther
  · have hBrace' : s.rest.head? = some '\x7b' :=
      (head?_prolong_true (by decide)).mp hBrace
    split at hRest
    · -- The name leaves the end and takes something before it.
      rename_i hEdge
      have hOther : c ≠ ')' := by
        rintro rfl
        revert hEdge
        decide
      have hLeft := (@shortens_edgeName 0).leaves hRest
      rcases shortens_proceed.shorter (Nat.lt_succ_self _) hProceed
        (by omega) with ⟨w, hProceed', rfl⟩
      rcases shortens_edgeName.shorter (Nat.lt_succ_self _) hRest hMany
        with ⟨x, hRest', rfl⟩
      refine Or.inl ⟨x, run_edge_eq_some_iff.mpr (Or.inr
        ⟨hBrace', w, c, hProceed', (head?_prolong_true hOther).mp hNext,
          ?_⟩), rfl⟩
      rwa [if_pos hEdge]
    · rename_i hEdge
      rcases hRest with ⟨rfl, rfl⟩
      rcases run_proceed_iff.mp hProceed with ⟨hFirst, hGiven⟩
      have hGiven' : s.rest ≠ [] := by
        intro hNone
        rw [hNone] at hBrace'
        cases hBrace'
      rcases run_next_of_prolong hGiven' hFirst with
        hNone | ⟨w, hFirst', rfl⟩
      · exact absurd hNone hGiven
      · cases hLeft : w.rest with
        | nil =>
            refine Or.inr ⟨rfl, hBrace, _, hFirst, ?_⟩
            rw [Source.prolong_rest, hLeft, List.nil_append]
        | cons d ds =>
            have hGiven'' : w.rest ≠ [] := by simp [hLeft]
            refine Or.inl ⟨s, run_edge_eq_some_iff.mpr (Or.inr
              ⟨hBrace', w, d, run_proceed_iff.mpr ⟨hFirst', hGiven''⟩,
                by simp [hLeft], ?_⟩), rfl⟩
            have hSame : d = c := by simpa [hLeft] using hNext
            rw [hSame, if_neg hEdge]
            exact ⟨rfl, rfl⟩

/- So the edge of a word is read alike where no bare brace can follow. -/
theorem shortens_edge_bind
    {α : Type}
    {more taken : Nat}
    {k k' : Anchor → Reader α}
    (hRest : ∀ a, Shortens limit more taken (k a) (k' a))
    (hBare : ∀ u, BareBrace u → (k' .edge).run u = none) :
    Shortens limit more taken (edge >>= k) (edge >>= k') := by
  constructor
  · intro s b u hRun
    rcases run_bind_eq_some_iff.mp hRun with ⟨a, v, hRead, hNext⟩
    have hLeft := length_le_of_edge hRead
    have hLeft' := (hRest a).leaves hNext
    omega
  · intro s b u hShort hRun hMany
    rcases run_bind_eq_some_iff.mp hRun with ⟨a, v, hRead, hNext⟩
    have hLeft := length_le_of_edge hRead
    have hLeft' := (hRest a).leaves hNext
    rcases run_edge_shorter hRead (by omega) with
      ⟨v, hRead', rfl⟩ | ⟨rfl, hBrace⟩
    · rw [length_prolong_true, length_prolong_true] at hLeft
      rcases (hRest a).shorter (by omega) hNext hMany with
        ⟨w, hNext', rfl⟩
      exact ⟨w, run_bind_eq_some_iff.mpr ⟨a, v, hRead', hNext'⟩, rfl⟩
    · cases (hBare v hBrace).symm.trans hNext

/- So is any escape. -/
theorem shortens_escape_bind
    {α : Type}
    {more taken : Nat}
    {k k' : Escape → Reader α}
    (hRest : ∀ e, Shortens limit more taken (k e) (k' e))
    (hBare : ∀ u, BareBrace u → (k' (.anchor .edge)).run u = none) :
    Shortens (limit + 1) more (2 + taken)
      (escape >>= k) (escape >>= k') := by
  simp only [escape, bind_assoc]
  refine .taking (1 + (1 + taken)) ((shortens_skip 1).bind_taken
    (fun _ => .peek_bind (fun c => ?_) (by omega)) (by omega)) (by omega)
  split
  · simp only [bind_assoc, pure_bind]
    exact .taking (2 + taken) ((shortens_numbered (by omega)).bind
      (fun l => hRest (.letter l)) (by omega)) (by omega)
  split
  · simp only [bind_assoc, pure_bind]
    exact .taking (2 + taken) ((shortens_numbered (by omega)).bind
      (fun l => hRest (.letter l)) (by omega)) (by omega)
  split
  · simp only [bind_assoc, pure_bind]
    exact .taking (2 + taken) ((shortens_numbered (by omega)).bind
      (fun l => hRest (.letter l)) (by omega)) (by omega)
  split
  · simp only [bind_assoc, pure_bind]
    exact .taking (2 + taken) (shortens_query.bind
      (fun q => hRest (.classOf (.query q _))) (by omega)) (by omega)
  simp only [bind_assoc]
  refine (shortens_skip 1).bind (fun _ => ?_) (by omega)
  split
  · simp only [bind_assoc, pure_bind]
    exact shortens_edge_bind (fun a => hRest (.anchor a)) hBare
  cases shorthand? c with
  | some e =>
      simp only [pure_bind]
      exact hRest (.classOf e)
  | none =>
      exact .taking (0 + taken)
        ((Shortens.lift (single? c)).bind hRest (Nat.zero_le _))
        (Nat.le_of_eq (Nat.zero_add taken).symm)

------------------------------------------------------------
-- Brackets
------------------------------------------------------------

/- Characters of classes are read alike, and edges are none of them. -/
theorem shortens_classItem_bind
    {α : Type}
    {more taken : Nat}
    {k k' : Escape → Reader α}
    (hRest : ∀ e, Shortens limit more taken (k e) (k' e))
    (hEdge : ∀ u, (k' (.anchor .edge)).run u = none) :
    Shortens limit more (1 + taken)
      (classItem >>= k) (classItem >>= k') := by
  simp only [classItem, bind_assoc]
  refine .peek_bind (fun c => ?_) (by omega)
  split
  · exact (shortens_escape_bind hRest fun u _ => hEdge u).mono (by omega)
  · simp only [bind_assoc, pure_bind]
    exact (shortens_skip 1).bind (fun _ => hRest (.letter ⟨c, false⟩))
      (Nat.zero_le _)

/- Whether a range follows does not depend on the end of the group. -/
theorem shortens_continuesRange :
    Shortens limit 0 0 continuesRange continuesRange := by
  have hState : ∀ s, ∃ b, continuesRange.run s = some (b, s) ∧
      continuesRange.run (s.prolong true) =
        some (b, s.prolong true) := by
    intro s
    have hClosed := fun spaced cs =>
      behindHyphen?_append (c := ']') (by decide) spaced cs true
    have hHyphen := fun spaced cs =>
      behindHyphen?_append (c := '-') (by decide) spaced cs true
    rcases s with ⟨_ | ⟨c, cs⟩, spaced, names⟩
    · exact ⟨false, rfl, rfl⟩
    · by_cases hBegins : c = '-'
      · subst hBegins
        refine ⟨_, rfl, ?_⟩
        simp [continuesRange, Source.prolong, hClosed, hHyphen]
      · exact ⟨false, by simp [continuesRange, hBegins],
          by simp [continuesRange, Source.prolong, hBegins]⟩
  constructor
  · intro s b u hRun
    rcases hState s with ⟨c, hRun', _⟩
    cases hRun'.symm.trans hRun
    exact Nat.le_refl _
  · intro s b u _ hRun _
    rcases hState s with ⟨c, hRun', hRun''⟩
    cases hRun''.symm.trans hRun
    exact ⟨s, hRun', rfl⟩

theorem shortens_classMember :
    Shortens limit 1 1 classMember classMember := by
  refine .taking (1 + (0 + (0 + (0 + min (1 + (1 + (0 + (0 + 0)))) 0))))
    (shortens_classItem_bind (fun first => ?_) ?_) (by omega)
  · refine shortens_blanks.bind (fun _ => shortens_peek.discard.bind
      (fun _ => shortens_continuesRange.bind (fun continues =>
        .ite (fun _ => ?_) fun _ => .lift _) (by omega)) (by omega))
      (by omega)
    refine shortens_proceed.bind (fun _ => shortens_classItem_bind
      (fun last => ?_) ?_) (by omega)
    · exact (Shortens.lift first.letter?).bind (fun a =>
        (Shortens.lift last.letter?).bind (fun b =>
          .check_bind fun _ => .pure _) (Nat.zero_le _)) (Nat.zero_le _)
    · exact run_bind_eq_none fun _ _ => rfl
  · refine run_bind_eq_none fun _ => run_bind_eq_none fun _ =>
      run_bind_eq_none fun continues u => ?_
    cases continues with
    | true =>
        exact run_bind_eq_none (fun _ => run_bind_eq_none
          fun last _ => rfl) u
    | false => rfl

/- Nothing is added where hyphens are read. -/
theorem length_le_of_leadingHyphens
    {n : Nat}
    {s u : Source}
    {ms : List Member}
    (hRun : (leadingHyphens n).run s = some (ms, u)) :
    u.rest.length ≤ s.rest.length := by
  induction n generalizing s ms with
  | zero =>
      cases hRun
      exact Nat.le_refl _
  | succ n ih =>
      cases hRest : s.rest with
      | nil =>
          rcases s with ⟨_, spaced, names⟩
          cases hRest
          cases hRun
      | cons c cs =>
          by_cases hHyphen : c = '-'
          · subst hHyphen
            rcases (run_leadingHyphens_cons_iff n hRest).mp hRun with
              ⟨v, hs, hNext, hTail, _⟩
            have hLess :=
              length_lt_of_next hRest (run_proceed_iff.mp hNext).1
            have hLeft := ih hTail
            rw [← hRest]
            omega
          · rw [run_leadingHyphens_stop _ hRest hHyphen] at hRun
            cases hRun
            exact Nat.le_of_eq (congrArg List.length hRest)

/- Hyphens are the same where something is left before the end. -/
theorem run_leadingHyphens_shorter
    {n n' : Nat}
    {s u : Source}
    {ms : List Member}
    (hEnough : s.rest.length ≤ n)
    (hEnough' : s.rest.length + 2 ≤ n')
    (hRun : (leadingHyphens n').run (s.prolong true) = some (ms, u))
    (hMany : 3 ≤ u.rest.length) :
    ∃ v, (leadingHyphens n).run s = some (ms, v) ∧
      u = v.prolong true := by
  induction n' generalizing n s ms with
  | zero => cases hEnough'
  | succ n' ih =>
      cases hRest : s.rest with
      | nil =>
          have hLeft := length_le_of_leadingHyphens hRun
          rw [length_prolong_true, hRest, List.length_nil] at hLeft
          omega
      | cons c cs =>
          have hRest' :
              (s.prolong true).rest = c :: (cs ++ groupEnd true) := by
            rw [Source.prolong_rest, hRest, List.cons_append]
          by_cases hHyphen : c = '-'
          · subst hHyphen
            rcases (run_leadingHyphens_cons_iff n' hRest').mp hRun with
              ⟨v, hs, hNext, hTail, hSame⟩
            have hLeft := length_le_of_leadingHyphens hTail
            rcases shortens_proceed.shorter (Nat.lt_succ_self _) hNext
              (Nat.le_trans hMany hLeft) with ⟨w, hNext', rfl⟩
            have hLess :=
              length_lt_of_next hRest (run_proceed_iff.mp hNext').1
            obtain ⟨m, rfl⟩ : ∃ m, n = m + 1 := ⟨n - 1, by omega⟩
            rcases ih (by omega : w.rest.length ≤ m) (by omega) hTail
              with ⟨x, hTail', rfl⟩
            exact ⟨x, (run_leadingHyphens_cons_iff m hRest).mpr
              ⟨w, hs, hNext', hTail', hSame⟩, rfl⟩
          · rw [run_leadingHyphens_stop _ hRest' hHyphen] at hRun
            cases hRun
            exact ⟨s, run_leadingHyphens_stop n hRest hHyphen, rfl⟩

theorem shortens_leadingHyphens_bind
    {α : Type}
    {more taken : Nat}
    {k k' : List Member → Reader α}
    (hRest : ∀ ms, Shortens limit more taken (k ms) (k' ms))
    (hMore : 1 ≤ more + taken) :
    Shortens limit more taken
      (do
        let s ← get
        let ms ← leadingHyphens s.rest.length
        k ms)
      (do
        let s ← get
        let ms ← leadingHyphens s.rest.length
        k' ms) := by
  have hHyphens : Shortens limit 1 0
      (get >>= fun s => leadingHyphens s.rest.length)
      (get >>= fun s => leadingHyphens s.rest.length) := by
    constructor
    · intro s ms u hRun
      exact length_le_of_leadingHyphens hRun
    · intro s ms u _ hRun hMany
      exact run_leadingHyphens_shorter (Nat.le_refl _)
        (Nat.le_of_eq (length_prolong_true s).symm) hRun hMany
  exact .taking (0 + taken) (hHyphens.bind hRest hMore)
    (Nat.le_of_eq (Nat.zero_add taken).symm)

theorem shortens_opening : Shortens limit 1 1 opening opening := by
  refine .taking (1 + min (1 + 0) 0) (shortens_proceed.bind (fun _ =>
    .peek_bind (fun c => .optional_bind (fun _ => shortens_proceed)
      (shortens_leadingHyphens_bind (fun hyphens => .peek_bind
        (fun d => .ite (fun _ => ?_) fun _ => .pure _)
        (by omega)) (by omega)) (by omega)) (by omega)) (by omega))
    (by omega)
  exact shortens_proceed.bind (fun _ => .pure _) (by omega)

/- A named class takes at least its closing mark. -/
theorem length_lt_of_namedClass?
    {negated : Bool}
    {cs rest : List Char}
    {m : Member}
    (hClass : namedClass? negated cs = some (m, rest)) :
    rest.length < cs.length := by
  have hLeft := (List.dropWhile_suffix (l := cs) (· ≠ ':')).length_le
  simp only [namedClass?, Option.bind_eq_bind,
    Option.bind_eq_some_iff] at hClass
  rcases hClass with ⟨kind, _, hClass⟩
  split at hClass
  · rename_i hDrop
    cases hClass
    rw [hDrop] at hLeft
    exact Nat.lt_of_succ_lt hLeft
  · cases hClass

theorem length_lt_of_asciiClass?
    {cs rest : List Char}
    {m : Member}
    (hClass : asciiClass? cs = some (m, rest)) :
    rest.length < cs.length := by
  unfold asciiClass? at hClass
  split at hClass
  · have hLess := length_lt_of_namedClass? hClass
    simp only [List.length_cons]
    omega
  · have hLess := length_lt_of_namedClass? hClass
    simp only [List.length_cons]
    omega
  · cases hClass

/- What is neither a named class nor an operator is read alike. -/
theorem shortens_otherMember
    {n n' : Nat}
    (hRest : ∀ pending items, Shortens limit 0 1
      (members pending items n) (members pending items n'))
    (pending : Pending)
    (items : List Member) :
    Shortens (limit + 1) 0 1
      (do
        let c ← peek
        if c = ']' then do
          skip 1
          return closeMembers pending items
        else if c = '[' then do
          let (negated, first) ← opening
          let m ← members none first n
          members pending (.bracket negated m :: items) n
        else do
          let m ← classMember
          members pending (m :: items) n)
      (do
        let c ← peek
        if c = ']' then do
          skip 1
          return closeMembers pending items
        else if c = '[' then do
          let (negated, first) ← opening
          let m ← members none first n'
          members pending (.bracket negated m :: items) n'
        else do
          let m ← classMember
          members pending (m :: items) n') := by
  refine .peek_bind (fun c => .taking
    (min (1 + 0) (min (1 + (1 + 1)) (1 + 1))) (.ite (fun _ => ?_)
      fun _ => .ite (fun _ => ?_) fun _ => ?_) (by omega)) (by omega)
  · exact (shortens_skip 1).bind (fun _ => .pure _) (Nat.zero_le _)
  · exact shortens_opening.bind_taken (fun (negated, first) =>
      (hRest none first).bind (fun m => hRest pending _)
        (Nat.zero_le _)) (by omega)
  · exact shortens_classMember.bind_taken
      (fun m => hRest pending _) (by omega)

/-
  What a bracket lists is read alike if there are as many steps
  as characters.
-/
theorem shortens_members
    {n n' : Nat}
    (hEnough : limit ≤ n)
    (pending : Pending)
    (items : List Member) :
    Shortens limit 0 1
      (members pending items n) (members pending items n') := by
  induction n' generalizing limit n pending items with
  | zero => exact .failure
  | succ n' ih =>
      have hStep : ∀ {l n : Nat}, l ≤ n → Shortens (l + 1) 0 1
          (members pending items (n + 1))
          (members pending items (n' + 1)) := by
        intro l n hEnough
        refine .taking (0 + 1) (shortens_blanks.bind (fun _ => ?_)
          (Nat.zero_le _)) (Nat.le_refl 1)
        have hOperator : ∀ pending', Shortens (l + 1) 0 1
            (skip 2 >>= fun _ => members pending' [] n)
            (skip 2 >>= fun _ => members pending' [] n') :=
          fun pending' => .taking (2 + 1) ((shortens_skip 2).bind_taken
            (fun _ => ih hEnough pending' []) (by omega)) (by omega)
        have hOther :=
          shortens_otherMember (fun p is => ih hEnough p is) pending items
        constructor
        · intro s m u hRun
          rw [run_get_bind] at hRun
          cases hClass : asciiClass? s.rest with
          | some named =>
              rcases named with ⟨m, rest⟩
              simp only [hClass] at hRun
              have hLess := length_lt_of_asciiClass? hClass
              have hLeft := (ih hEnough pending (m :: items)).leaves hRun
              dsimp only at hLeft
              omega
          | none =>
              cases hOp : operator? s.rest with
              | some op =>
                  simp only [hClass, hOp] at hRun
                  exact (hOperator _).leaves hRun
              | none =>
                  simp only [hClass, hOp] at hRun
                  exact hOther.leaves hRun
        · intro s m u hShort hRun hMany
          rw [run_get_bind] at hRun ⊢
          rw [Source.prolong_rest, asciiClass?_append, operator?_append]
            at hRun
          cases hClass : asciiClass? s.rest with
          | some named =>
              rcases named with ⟨m, rest⟩
              simp only [hClass] at hRun ⊢
              have hLess := length_lt_of_asciiClass? hClass
              have hShort' : rest.length < l := by omega
              exact (ih hEnough pending (m :: items)).shorter
                (s := ⟨rest, s.spaced, s.names⟩) hShort' hRun hMany
          | none =>
              cases hOp : operator? s.rest with
              | some op =>
                  simp only [hClass, hOp] at hRun ⊢
                  exact (hOperator _).shorter hShort hRun hMany
              | none =>
                  simp only [hClass, hOp] at hRun ⊢
                  exact hOther.shorter hShort hRun hMany
      cases limit with
      | zero => exact (hStep (Nat.zero_le n)).of_no_text
      | succ limit =>
          obtain ⟨m, rfl⟩ : ∃ m, n = m + 1 := ⟨n - 1, by omega⟩
          exact hStep (Nat.le_of_succ_le_succ hEnough)

theorem shortens_bracket : Shortens limit 0 1 bracket bracket := by
  refine .taking (1 + (1 + 0)) (shortens_opening.bind
    (fun (negated, first) => .get_bind ?_ fun s hShort => ?_) (by omega))
    (by omega)
  · intro s f u hRun
    exact ((shortens_members (Nat.zero_le 0) none first).bind
      (fun m => .pure _) (Nat.zero_le 0)).leaves hRun
  · exact (shortens_members (Nat.le_refl _) none first).bind
      (fun m => .pure _) (Nat.zero_le _)

end Pattern

end ManifestRecipes
