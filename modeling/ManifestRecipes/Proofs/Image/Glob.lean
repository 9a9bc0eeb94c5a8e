import ManifestRecipes.Image.Glob
import Mathlib.Data.List.Forall2
import Mathlib.Tactic.Common

/-
  The texts that a glob accepts.

  A text matches a pattern when it splits into one run of
  characters for each character of the pattern.  The first
  place that decides an attempt settles what its star stands
  for, since from a later place no more of the text is left.
  A star of the pattern that meets a star of the text is taken
  for that star alone, and so some splits are not considered.
  Texts without a star have no such splits.

  Key definitions include:
    * `Glob.StandsFor`
    * `Glob.Matches`
    * `Glob.StarForStar`
    * `Glob.MatchesStarForStar`
    * `Glob.Decides`

  Main declarations:
    * `Glob.scan_eq_true_iff`
    * `Glob.decides_scan`
    * `Glob.decides_attempt`
    * `Glob.accepts_eq_true_iff`
    * `Glob.accepts_iff_matches`
    * `Glob.accepts_iff_splits`
-/

namespace ManifestRecipes

namespace Glob

variable {c d : Char} {p t v : List Char}

------------------------------------------------------------
-- Splitting a Text
------------------------------------------------------------

/- What a character of a pattern can stand for. -/
def StandsFor (d : Char) (u : List Char) : Prop :=
  if d = '*' then True
  else if d = '?' then ∃ c, u = [c]
  else u = [d]

/- A text consists of what the characters of a pattern stand for. -/
def Matches (p t : List Char) : Prop :=
  ∃ us, List.Forall₂ StandsFor p us ∧ us.flatten = t

/-
  Every star of a pattern that begins at a star of the text
  stands for that star alone.
-/
def StarForStar : List Char → List (List Char) → Prop
  | d :: p, u :: us =>
      (d = '*' → (u :: us).flatten.head? = some '*' → u = ['*']) ∧
        StarForStar p us
  | _, _ => True

/- A text matches a pattern with a star for each star that one meets. -/
def MatchesStarForStar (p t : List Char) : Prop :=
  ∃ us, List.Forall₂ StandsFor p us ∧ us.flatten = t ∧
    StarForStar p us

theorem standsFor_star (u : List Char) : StandsFor '*' u := by
  simp [StandsFor]

theorem standsFor_iff (hOther : d ≠ '*') {u : List Char} :
    StandsFor d u ↔ ∃ c, u = [c] ∧ (d = '?' ∨ d = c) := by
  rw [StandsFor, if_neg hOther]
  split_ifs with hAny
  · simp [hAny]
  · simp [hAny]

/- The first character of a pattern stands for a beginning. -/
theorem matchesStarForStar_cons_iff :
    MatchesStarForStar (d :: p) t ↔
      ∃ u v, StandsFor d u ∧ t = u ++ v ∧
        (d = '*' → t.head? = some '*' → u = ['*']) ∧
          MatchesStarForStar p v := by
  constructor
  · rintro ⟨us, hStands, rfl, hStars⟩
    cases hStands with
    | cons hHead hTail =>
        exact ⟨_, _, hHead, List.flatten_cons, hStars.1, _, hTail,
          rfl, hStars.2⟩
  · rintro ⟨u, _, hHead, rfl, hStar, us, hTail, rfl, hStars⟩
    exact ⟨u :: us, .cons hHead hTail, List.flatten_cons, hStar,
      hStars⟩

/- The empty pattern matches the empty text only. -/
theorem matchesStarForStar_nil_iff :
    MatchesStarForStar [] t ↔ t = [] := by
  constructor
  · rintro ⟨us, hStands, rfl, _⟩
    cases hStands
    rfl
  · rintro rfl
    exact ⟨[], .nil, rfl, trivial⟩

/- Only stars match the empty text. -/
theorem matchesStarForStar_empty_iff :
    MatchesStarForStar p [] ↔ ∀ d ∈ p, d = '*' := by
  induction p with
  | nil => simp [matchesStarForStar_nil_iff]
  | cons d p ih =>
      rw [matchesStarForStar_cons_iff, List.forall_mem_cons, ← ih]
      constructor
      · rintro ⟨u, v, hStands, hText, _, hRest⟩
        rcases List.append_eq_nil_iff.mp hText.symm with ⟨rfl, rfl⟩
        refine ⟨?_, hRest⟩
        by_contra hOther
        rcases (standsFor_iff hOther).mp hStands with ⟨_, hRun, _⟩
        cases hRun
      · rintro ⟨rfl, hRest⟩
        exact ⟨[], [], standsFor_star [], rfl, by simp, hRest⟩

/- A character that agrees with the first of the text takes it. -/
theorem matchesStarForStar_cons_cons_iff
    (hSame : d = '?' ∨ d = c) :
    MatchesStarForStar (d :: p) (c :: t) ↔
      MatchesStarForStar p t := by
  rw [matchesStarForStar_cons_iff]
  constructor
  · rintro ⟨u, v, hStands, hText, hStar, hRest⟩
    have hRun : u = [c] := by
      by_cases hHere : d = '*'
      · have hMeets : c = '*' := by
          rcases hSame with rfl | rfl
          · exact absurd hHere (by decide)
          · exact hHere
        subst hMeets
        exact hStar hHere rfl
      · rcases (standsFor_iff hHere).mp hStands with ⟨e, rfl, _⟩
        rw [List.singleton_append, List.cons.injEq] at hText
        rw [hText.1]
    rw [hRun, List.singleton_append, List.cons.injEq] at hText
    rw [hText.2]
    exact hRest
  · intro hRest
    refine ⟨[c], t, ?_, rfl, ?_, hRest⟩
    · by_cases hHere : d = '*'
      · rw [hHere]
        exact standsFor_star [c]
      · exact (standsFor_iff hHere).mpr ⟨c, rfl, hSame⟩
    · intro _ hMeets
      rw [List.head?_cons, Option.some.injEq] at hMeets
      rw [hMeets]

/- A star that meets no star stands for any beginning. -/
theorem matchesStarForStar_star_iff (hOther : c ≠ '*') :
    MatchesStarForStar ('*' :: p) (c :: t) ↔
      ∃ v, v <:+ c :: t ∧ MatchesStarForStar p v := by
  rw [matchesStarForStar_cons_iff]
  constructor
  · rintro ⟨u, v, _, hText, _, hRest⟩
    exact ⟨v, ⟨u, hText.symm⟩, hRest⟩
  · rintro ⟨v, ⟨u, hText⟩, hRest⟩
    refine ⟨u, v, standsFor_star u, hText.symm, ?_, hRest⟩
    intro _ hMeets
    rw [List.head?_cons, Option.some.injEq] at hMeets
    exact absurd hMeets hOther

/- Another character matches no text that begins otherwise. -/
theorem not_matchesStarForStar
    (hDiffers : ¬ (d = '?' ∨ d = c))
    (hOther : d ≠ '*') :
    ¬ MatchesStarForStar (d :: p) (c :: t) := by
  rw [matchesStarForStar_cons_iff]
  rintro ⟨u, v, hStands, hText, _, _⟩
  rcases (standsFor_iff hOther).mp hStands with ⟨e, rfl, hSame⟩
  rw [List.singleton_append, List.cons.injEq] at hText
  exact hDiffers (hText.1 ▸ hSame)

theorem MatchesStarForStar.exists_suffix
    (hMatches : MatchesStarForStar (d :: p) t) :
    ∃ v, v <:+ t ∧ MatchesStarForStar p v := by
  rcases matchesStarForStar_cons_iff.mp hMatches with
    ⟨u, v, _, hText, _, hRest⟩
  exact ⟨v, ⟨u, hText.symm⟩, hRest⟩

------------------------------------------------------------
-- Attempts
------------------------------------------------------------

/-
  What it means that an attempt at a text comes out in a way.
  An attempt that fails rules out all later places, and one
  that decides nothing rules out its own.
-/
def Decides (p t : List Char) : Option Bool → Prop
  | some true => MatchesStarForStar p t
  | some false => ∀ v, v <:+ t → ¬ MatchesStarForStar p v
  | none => ¬ MatchesStarForStar p t

/- Trying all places finds a match if there is one. -/
theorem scan_eq_true_iff
    {decide? : List Char → Option Bool}
    (hDecides : ∀ t, Decides p t (decide? t)) :
    scan decide? t = true ↔
      ∃ v, v <:+ t ∧ MatchesStarForStar p v := by
  induction t with
  | nil =>
      have hHere := hDecides []
      rw [scan]
      cases hAttempt : decide? [] with
      | none =>
          rw [hAttempt] at hHere
          simpa [Decides] using hHere
      | some b =>
          rw [hAttempt] at hHere
          cases b <;> simpa [Decides] using hHere
  | cons c t ih =>
      have hHere := hDecides (c :: t)
      rw [scan]
      cases hAttempt : decide? (c :: t) with
      | none =>
          rw [hAttempt] at hHere
          simp only [ih, List.suffix_cons_iff, or_and_right,
            exists_or, exists_eq_left]
          exact (or_iff_right hHere).symm
      | some b =>
          rw [hAttempt] at hHere
          cases b with
          | true =>
              exact iff_of_true rfl
                ⟨c :: t, List.suffix_refl _, hHere⟩
          | false =>
              refine iff_of_false Bool.false_ne_true ?_
              rintro ⟨v, hSuffix, hMatches⟩
              exact hHere v hSuffix hMatches

/- An attempt behind two characters that agree decides before them. -/
theorem Decides.cons
    {b? : Option Bool}
    (hDecides : Decides p t b?)
    (hSame : d = '?' ∨ d = c) :
    Decides (d :: p) (c :: t) b? := by
  have hIff :
      MatchesStarForStar (d :: p) (c :: t) ↔
        MatchesStarForStar p t :=
    matchesStarForStar_cons_cons_iff hSame
  cases b? with
  | none => exact fun hMatches => hDecides (hIff.mp hMatches)
  | some b =>
      cases b with
      | true => exact hIff.mpr hDecides
      | false =>
          intro v hSuffix hMatches
          rcases List.suffix_cons_iff.mp hSuffix with
            rfl | hLater
          · exact hDecides t (List.suffix_refl t)
              (hIff.mp hMatches)
          · -- The rest matches an end that lies further on.
            rcases hMatches.exists_suffix with
              ⟨w, hEnd, hRest⟩
            exact hDecides w (hEnd.trans hLater) hRest

/- At the end of the text only stars may be left. -/
theorem decides_empty (p : List Char) :
    Decides p [] (some (p.all (· = '*'))) := by
  have hIff : p.all (· = '*') = true ↔ MatchesStarForStar p [] := by
    rw [matchesStarForStar_empty_iff]
    simp
  cases hAll : p.all (· = '*') with
  | true => exact hIff.mp hAll
  | false =>
      intro v hSuffix hMatches
      rw [List.suffix_nil.mp hSuffix, ← hIff, hAll] at hMatches
      cases hMatches

/- A star that meets no star is decided by trying what follows it. -/
theorem decides_scan
    {decide? : List Char → Option Bool}
    (hDecides : ∀ t, Decides p t (decide? t))
    (hOther : c ≠ '*') :
    Decides ('*' :: p) (c :: t) (some (scan decide? (c :: t))) := by
  have hScan : scan decide? (c :: t) = true ↔
      ∃ v, v <:+ c :: t ∧ MatchesStarForStar p v :=
    scan_eq_true_iff hDecides
  cases hFound : scan decide? (c :: t) with
  | true =>
      apply (matchesStarForStar_star_iff hOther).mpr
      exact hScan.mp hFound
  | false =>
      intro v hSuffix hMatches
      rcases hMatches.exists_suffix with ⟨w, hEnd, hRest⟩
      have hSome := hScan.mpr ⟨w, hEnd.trans hSuffix, hRest⟩
      rw [hFound] at hSome
      cases hSome

/- An attempt comes out as it should. -/
theorem decides_attempt (p t : List Char) :
    Decides p t (attempt p t) := by
  induction p generalizing t with
  | nil =>
      cases t with
      | nil => exact decides_empty []
      | cons c t => simp [attempt, Decides, matchesStarForStar_nil_iff]
  | cons d p ih =>
      cases t with
      | nil =>
          rw [attempt]
          exact decides_empty (d :: p)
      | cons c t =>
          by_cases hSame : d = '?' ∨ d = c
          · have hStep : attempt (d :: p) (c :: t) = attempt p t := by
              simp [attempt, hSame]
            rw [hStep]
            exact (ih t).cons hSame
          · by_cases hStar : d = '*'
            · subst hStar
              have hOther : c ≠ '*' :=
                fun hMeets => hSame (Or.inr hMeets.symm)
              have hStep : attempt ('*' :: p) (c :: t) =
                  some (scan (attempt p) (c :: t)) := by
                simp [attempt, hOther.symm]
              rw [hStep]
              exact decides_scan ih hOther
            · have hStep : attempt (d :: p) (c :: t) = none := by
                rw [not_or] at hSame
                simp [attempt, hSame, hStar]
              rw [hStep]
              exact not_matchesStarForStar hSame hStar

------------------------------------------------------------
-- Accepted Texts
------------------------------------------------------------

/- The accepted texts are those that match with a star for each star. -/
theorem accepts_eq_true_iff :
    accepts p t = true ↔ MatchesStarForStar p t := by
  have hDecides := decides_attempt p t
  rw [accepts]
  cases hAttempt : attempt p t with
  | none =>
      rw [hAttempt] at hDecides
      exact iff_of_false Bool.false_ne_true hDecides
  | some b =>
      rw [hAttempt] at hDecides
      cases b with
      | true => exact iff_of_true rfl hDecides
      | false =>
          exact iff_of_false Bool.false_ne_true
            (hDecides t (List.suffix_refl t))

theorem MatchesStarForStar.matches
    (hMatches : MatchesStarForStar p t) :
    Matches p t := by
  rcases hMatches with ⟨us, hStands, hText, _⟩
  exact ⟨us, hStands, hText⟩

/- Where the text has no star, no star meets one. -/
theorem starForStar_of_not_mem
    {us : List (List Char)}
    (hNone : '*' ∉ us.flatten) :
    StarForStar p us := by
  induction p generalizing us with
  | nil => trivial
  | cons d p ih =>
      cases us with
      | nil => trivial
      | cons u us =>
          refine ⟨?_, ih ?_⟩
          · intro _ hMeets
            exact absurd (List.mem_of_mem_head? hMeets) hNone
          · intro hLater
            rw [List.flatten_cons, List.mem_append] at hNone
            exact hNone (Or.inr hLater)

/- Texts without a star are accepted exactly when they match. -/
theorem accepts_iff_matches (hNone : '*' ∉ t) :
    accepts p t = true ↔ Matches p t := by
  rw [accepts_eq_true_iff]
  constructor
  · exact MatchesStarForStar.matches
  · rintro ⟨us, hStands, rfl⟩
    exact ⟨us, hStands, rfl, starForStar_of_not_mem hNone⟩

/-
  A pattern accepts a text exactly when the text splits into
  what its characters stand for, where a star that meets a star
  stands for that star alone.  So what is accepted matches, and
  a text without a star is accepted whenever it matches.
-/
theorem accepts_iff_splits (p t : List Char) :
    (accepts p t = true ↔
      ∃ us, List.Forall₂ StandsFor p us ∧ us.flatten = t ∧
        StarForStar p us) ∧
    (accepts p t = true → Matches p t) ∧
    ('*' ∉ t → (accepts p t = true ↔ Matches p t)) := by
  refine ⟨accepts_eq_true_iff, ?_, accepts_iff_matches⟩
  intro hAccepts
  exact (accepts_eq_true_iff.mp hAccepts).matches

/- Two stars that have to pass over what they could end at. -/
theorem accepts_iff_splits_banana :
    let p := "*na?a*".toList
    let t := "bananas".toList
    '*' ∉ t ∧ accepts p t = true ∧ Matches p t ∧
    (accepts p t = true ↔
      ∃ us, List.Forall₂ StandsFor p us ∧ us.flatten = t ∧
        StarForStar p us) := by
  intro p t
  have hNone : '*' ∉ t := by decide
  have hAccepts : accepts p t = true := by decide
  have hSplits := accepts_iff_splits p t
  exact ⟨hNone, hAccepts, (hSplits.2.2 hNone).mp hAccepts,
    hSplits.1⟩

/- A star that meets a star should be able to pass over it. -/
theorem matches_not_accepts :
    Matches "*a".toList "*ba".toList ∧
      accepts "*a".toList "*ba".toList = false := by
  have hLetter : StandsFor 'a' ['a'] := by simp [StandsFor]
  exact ⟨⟨[['*', 'b'], ['a']],
    .cons (standsFor_star _) (.cons hLetter .nil), rfl⟩, by decide⟩

end Glob

end ManifestRecipes
