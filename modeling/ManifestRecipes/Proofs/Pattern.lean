import ManifestRecipes.Pattern
import Mathlib.Data.List.Basic
import Mathlib.Logic.Function.Iterate

/-
  The stretches of a text that a pattern stands for.

  Whether a pattern stands for a stretch depends on the texts
  before and after it.  A search carries a set of places, the
  bits of a number, through a pattern.  It arrives at exactly
  those places where stretches end that the pattern stands for
  and that begin at the places it set out from.

  Key definitions include:
    * `Pattern.Stretches`
    * `Pattern.Stretches.times`
    * `Pattern.Fits`
    * `Pattern.FitsAll`
    * `Pattern.Stretches.Leads`
    * `Pattern.Carries`

  Main declarations:
    * `Pattern.Stretches.exists_times_le`
    * `Pattern.carries_reach`
    * `Pattern.occursIn_iff`
-/

namespace ManifestRecipes

namespace Pattern

------------------------------------------------------------
-- Stretches
------------------------------------------------------------

/- Stretches of texts, each judged with what is before and after it. -/
abbrev Stretches :=
  (before stretch after : List Char) → Prop

namespace Stretches

/- Nothing at all. -/
def nothing : Stretches :=
  fun _ s _ => s = []

/- A stretch, or nothing. -/
def optional (F : Stretches) : Stretches :=
  fun before s after => nothing before s after ∨ F before s after

/- One stretch after another. -/
def followedBy (F G : Stretches) : Stretches :=
  fun before s after =>
    ∃ u v, s = u ++ v ∧ F before u (v ++ after) ∧
      G (before ++ u) v after

/- So many stretches one after another. -/
def times (F : Stretches) : Nat → Stretches
  | 0 => nothing
  | n + 1 => F.followedBy (F.times n)

theorem nothing_followedBy (F : Stretches) :
    nothing.followedBy F = F := by
  funext before s after
  simp [followedBy, nothing]

/- Of three stretches the first two can be taken together. -/
theorem followedBy_assoc (F G H : Stretches) :
    (F.followedBy G).followedBy H =
      F.followedBy (G.followedBy H) := by
  funext before s after
  apply propext
  constructor
  · intro hFits
    rcases hFits with ⟨_, w, rfl, ⟨u, v, rfl, hFirst, hSecond⟩, hThird⟩
    rw [← List.append_assoc] at hFirst hThird
    exact ⟨u, v ++ w, by simp, hFirst, v, w, rfl, hSecond, hThird⟩
  · intro hFits
    rcases hFits with ⟨u, _, rfl, hFirst, v, w, rfl, hSecond, hThird⟩
    rw [List.append_assoc] at hFirst hThird
    exact ⟨u ++ v, w, by simp, ⟨u, v, rfl, hFirst, hSecond⟩, hThird⟩

end Stretches

/- A repetition may have so many parts. -/
def IsCount
    (least : Nat)
    (most? : Option Nat)
    (n : Nat) : Prop :=
  least ≤ n ∧ ∀ most ∈ most?, n ≤ max least most

/- The stretches that a pattern stands for. -/
def Fits : Pattern → Stretches
  | .empty => .nothing
  | .oneOf set => fun _ s _ =>
      ∃ c, s = [c] ∧ set.contains c.toNat = true
  | .assertion a => fun before s after =>
      s = [] ∧ a.holds before.getLast? after.head? = true
  | .sequence p q => p.Fits.followedBy q.Fits
  | .choice p q => fun before s after =>
      p.Fits before s after ∨ q.Fits before s after
  | .repeated p least most? => fun before s after =>
      ∃ n, IsCount least most? n ∧ p.Fits.times n before s after

/- A pattern stands for a text from its first to its last character. -/
def FitsAll (p : Pattern) (text : List Char) : Prop :=
  p.Fits [] text []

------------------------------------------------------------
-- From Place to Place
------------------------------------------------------------

namespace Stretches

/- Some stretch of a text begins at one place and ends at another. -/
def Leads
    (F : Stretches)
    (text : List Char)
    (i j : Nat) : Prop :=
  ∃ before s after, text = before ++ s ++ after ∧
    before.length = i ∧ (before ++ s).length = j ∧
      F before s after

variable {F G : Stretches} {text : List Char} {i j n : Nat}

theorem Leads.bounds (hLeads : F.Leads text i j) :
    i ≤ j ∧ j ≤ text.length := by
  rcases hLeads with ⟨before, s, after, rfl, rfl, rfl, _⟩
  simp

/- Nothing leads from a place to itself. -/
theorem leads_nothing_iff :
    nothing.Leads text i j ↔ i = j ∧ i ≤ text.length := by
  constructor
  · intro hLeads
    rcases hLeads with ⟨before, s, after, rfl, rfl, rfl, rfl⟩
    simp
  · intro hPlace
    rcases hPlace with ⟨rfl, hInside⟩
    refine ⟨text.take i, [], text.drop i, ?_, ?_, ?_, rfl⟩
    · simp
    · exact List.length_take_of_le hInside
    · rw [List.append_nil]
      exact List.length_take_of_le hInside

/- Two stretches lead to where the second leads from the end of the first. -/
theorem leads_followedBy_iff :
    (F.followedBy G).Leads text i j ↔
      ∃ k, F.Leads text i k ∧ G.Leads text k j := by
  constructor
  · intro hLeads
    rcases hLeads with
      ⟨before, _, after, rfl, rfl, rfl, u, v, rfl, hFirst, hRest⟩
    refine ⟨(before ++ u).length, ?_, ?_⟩
    · exact ⟨before, u, v ++ after, by simp, rfl, rfl, hFirst⟩
    · exact ⟨before ++ u, v, after, by simp, rfl, by simp, hRest⟩
  · intro hLeads
    rcases hLeads with ⟨_, ⟨before, u, rest, rfl, rfl, rfl, hFirst⟩,
      ⟨begun, v, after, hText, hPlace, rfl, hRest⟩⟩
    -- Both stretches divide the text at the same place.
    rw [List.append_assoc begun] at hText
    rcases List.append_inj hText hPlace.symm with ⟨rfl, rfl⟩
    exact ⟨before, u ++ v, after, by simp, rfl, by simp,
      u, v, rfl, hFirst, hRest⟩

theorem leads_or_iff :
    Leads (fun before s after =>
        F before s after ∨ G before s after) text i j ↔
      F.Leads text i j ∨ G.Leads text i j := by
  simp only [Leads, and_or_left, exists_or]

theorem leads_optional_iff :
    F.optional.Leads text i j ↔
      nothing.Leads text i j ∨ F.Leads text i j := by
  exact leads_or_iff

/- Some number of stretches leads where one of these numbers leads. -/
theorem leads_exists_times_iff {Among : Nat → Prop} :
    Leads (fun before s after =>
        ∃ n, Among n ∧ F.times n before s after) text i j ↔
      ∃ n, Among n ∧ (F.times n).Leads text i j := by
  constructor
  · intro hLeads
    rcases hLeads with
      ⟨before, s, after, hText, hStart, hEnd, n, hAmong, hTimes⟩
    exact ⟨n, hAmong, before, s, after, hText, hStart, hEnd, hTimes⟩
  · intro hLeads
    rcases hLeads with
      ⟨n, hAmong, before, s, after, hText, hStart, hEnd, hTimes⟩
    exact ⟨before, s, after, hText, hStart, hEnd, n, hAmong, hTimes⟩

/- Stretches taken together lead where they lead in two portions. -/
theorem leads_times_add_iff {m : Nat} :
    (F.times (m + n)).Leads text i j ↔
      ∃ k, (F.times m).Leads text i k ∧
        (F.times n).Leads text k j := by
  induction m generalizing i with
  | zero =>
      rw [Nat.zero_add]
      constructor
      · intro hLeads
        have hInside : i ≤ text.length :=
          Nat.le_trans hLeads.bounds.1 hLeads.bounds.2
        exact ⟨i, leads_nothing_iff.mpr ⟨rfl, hInside⟩, hLeads⟩
      · intro hLeads
        rcases hLeads with ⟨k, hNothing, hRest⟩
        rcases leads_nothing_iff.mp hNothing with ⟨rfl, _⟩
        exact hRest
  | succ m ih =>
      rw [Nat.succ_add, times, leads_followedBy_iff, times]
      constructor
      · intro hLeads
        rcases hLeads with ⟨k, hFirst, hRest⟩
        rcases ih.mp hRest with ⟨l, hMore, hLast⟩
        exact ⟨l, leads_followedBy_iff.mpr ⟨k, hFirst, hMore⟩, hLast⟩
      · intro hLeads
        rcases hLeads with ⟨l, hMore, hLast⟩
        rcases leads_followedBy_iff.mp hMore with ⟨k, hFirst, hRest⟩
        exact ⟨k, hFirst, ih.mpr ⟨l, hRest, hLast⟩⟩

/- So many optional stretches are at most so many stretches. -/
theorem leads_times_optional_iff :
    (F.optional.times n).Leads text i j ↔
      ∃ m ≤ n, (F.times m).Leads text i j := by
  induction n generalizing i with
  | zero =>
      simp only [Nat.le_zero, exists_eq_left]
      rfl
  | succ n ih =>
      rw [times, leads_followedBy_iff]
      simp only [leads_optional_iff, ih]
      constructor
      · intro hLeads
        rcases hLeads with ⟨k, hNothing | hFirst, m, hFew, hRest⟩
        · rcases leads_nothing_iff.mp hNothing with ⟨rfl, _⟩
          exact ⟨m, Nat.le_succ_of_le hFew, hRest⟩
        · exact ⟨m + 1, Nat.succ_le_succ hFew,
            leads_followedBy_iff.mpr ⟨k, hFirst, hRest⟩⟩
      · intro hLeads
        rcases hLeads with ⟨m, hFew, hLeads⟩
        cases m with
        | zero =>
            have hHere : nothing.Leads text i i :=
              leads_nothing_iff.mpr
                ⟨rfl, (leads_nothing_iff.mp hLeads).2⟩
            exact ⟨i, Or.inl hHere, 0, Nat.zero_le n, hLeads⟩
        | succ m =>
            rcases leads_followedBy_iff.mp hLeads with
              ⟨k, hFirst, hRest⟩
            exact ⟨k, Or.inr hFirst, m, Nat.le_of_succ_le_succ hFew,
              hRest⟩

/-
  No more stretches are needed between two places than there
  are characters, since empty ones can be left out.
-/
theorem exists_times_le (hLeads : (F.times n).Leads text i j) :
    ∃ m ≤ j - i, (F.times m).Leads text i j := by
  induction n generalizing i with
  | zero => exact ⟨0, Nat.zero_le _, hLeads⟩
  | succ n ih =>
      rcases leads_followedBy_iff.mp hLeads with ⟨k, hFirst, hRest⟩
      rcases ih hRest with ⟨m, hFew, hFewer⟩
      rcases Nat.eq_or_lt_of_le hFirst.bounds.1 with rfl | hForward
      · exact ⟨m, hFew, hFewer⟩
      · have hEnd := hRest.bounds.1
        exact ⟨m + 1, by omega,
          leads_followedBy_iff.mpr ⟨k, hFirst, hFewer⟩⟩

end Stretches

------------------------------------------------------------
-- Sets of Places
------------------------------------------------------------

/- The bits of a number behind a lowest bit. -/
theorem testBit_twice_add
    (s : Nat)
    (b : Bool)
    (i : Nat) :
    (2 * s + b.toNat).testBit i =
      if i = 0 then b else s.testBit (i - 1) := by
  cases i with
  | zero => cases b <;> simp [Nat.testBit_zero]
  | succ i =>
      have hHalf : (2 * s + b.toNat) / 2 = s := by
        have hBound := Bool.toNat_lt b
        omega
      rw [Nat.testBit_succ, hHalf]
      simp

/- The places that pass a test are those between texts that pass it. -/
theorem testBit_places_iff
    {test : Option Char → Option Char → Bool}
    {before? : Option Char}
    {text : List Char}
    {i : Nat} :
    (places test before? text).testBit i = true ↔
      ∃ before after, text = before ++ after ∧ before.length = i ∧
        test (before.getLast?.or before?) after.head? = true := by
  induction text generalizing before? i with
  | nil =>
      have hBits := testBit_twice_add 0 (test before? none) i
      rw [Nat.mul_zero, Nat.zero_add, Nat.zero_testBit] at hBits
      rw [places, hBits]
      cases i <;> simp
  | cons c cs ih =>
      rw [places, testBit_twice_add]
      cases i with
      | zero => simp
      | succ i =>
          rw [if_neg (Nat.succ_ne_zero i), Nat.add_sub_cancel, ih]
          constructor
          · intro hPlace
            rcases hPlace with ⟨before, after, rfl, rfl, hTest⟩
            refine ⟨c :: before, after, rfl, rfl, ?_⟩
            rw [List.getLast?_cons, Option.some_or]
            cases hLast : before.getLast? <;> simp_all
          · intro hPlace
            rcases hPlace with ⟨before, after, hText, hLength, hTest⟩
            cases before with
            | nil => cases hLength
            | cons d before =>
                cases hText
                refine ⟨before, after, rfl,
                  Nat.succ.inj hLength, ?_⟩
                rw [List.getLast?_cons, Option.some_or] at hTest
                cases hLast : before.getLast? <;> simp_all

/- The places of a set lie in a text. -/
def Within (text : List Char) (s : Nat) : Prop :=
  ∀ i, s.testBit i = true → i ≤ text.length

/-
  Steps between sets of places of a text arrive where some
  stretch leads from a place that they set out from.
-/
def Carries
    (text : List Char)
    (step : Nat → Nat)
    (F : Stretches) : Prop :=
  ∀ s, Within text s → ∀ j,
    (step s).testBit j = true ↔
      ∃ i, s.testBit i = true ∧ F.Leads text i j

namespace Carries

variable {text : List Char} {F G : Stretches}
variable {step next : Nat → Nat} {s : Nat}

theorem within
    (hStep : Carries text step F)
    (hWithin : Within text s) :
    Within text (step s) := by
  intro j hArrived
  rcases (hStep s hWithin j).mp hArrived with ⟨i, _, hLeads⟩
  exact hLeads.bounds.2

/- Staying at all places is leading nowhere. -/
theorem nothing : Carries text id .nothing := by
  intro s hWithin j
  simp only [id, Stretches.leads_nothing_iff]
  constructor
  · intro hPlace
    exact ⟨j, hPlace, rfl, hWithin j hPlace⟩
  · intro hPlace
    rcases hPlace with ⟨i, hPlace, rfl, _⟩
    exact hPlace

/- Steps after others follow two stretches. -/
theorem followedBy
    (hStep : Carries text step F)
    (hNext : Carries text next G) :
    Carries text (fun s => next (step s)) (F.followedBy G) := by
  intro s hWithin j
  simp only [hNext _ (hStep.within hWithin) j, hStep s hWithin,
    Stretches.leads_followedBy_iff]
  constructor
  · intro hArrived
    rcases hArrived with ⟨k, ⟨i, hPlace, hFirst⟩, hRest⟩
    exact ⟨i, hPlace, k, hFirst, hRest⟩
  · intro hArrived
    rcases hArrived with ⟨i, hPlace, k, hFirst, hRest⟩
    exact ⟨k, ⟨i, hPlace, hFirst⟩, hRest⟩

/- The places of two steps are where either of two stretches leads. -/
theorem either
    (hStep : Carries text step F)
    (hNext : Carries text next G) :
    Carries text (fun s => step s ||| next s)
      (fun before s after =>
        F before s after ∨ G before s after) := by
  intro s hWithin j
  simp only [Nat.testBit_or, Bool.or_eq_true, hStep s hWithin j,
    hNext s hWithin j, Stretches.leads_or_iff, and_or_left,
    exists_or]

theorem iterated
    (hStep : Carries text step F)
    (n : Nat) :
    Carries text step^[n] (F.times n) := by
  induction n with
  | zero => exact nothing
  | succ n ih => exact hStep.followedBy ih

end Carries

/- Iteration may stop early where nothing changes. -/
theorem iterate_eq
    (step : Nat → Nat)
    (n s : Nat) :
    iterate step n s = step^[n] s := by
  induction n generalizing s with
  | zero => rfl
  | succ n ih =>
      rw [iterate]
      split
      · rename_i hSame
        exact (Function.iterate_fixed hSame _).symm
      · exact ih (step s)

/- Accumulated places are those that some of so many steps lead to. -/
theorem testBit_accumulate_iff
    {text : List Char}
    {step : Nat → Nat}
    {F : Stretches}
    {n s j : Nat}
    (hStep : Carries text step F)
    (hWithin : Within text s) :
    (accumulate step n s).testBit j = true ↔
      ∃ i, s.testBit i = true ∧
        ∃ m ≤ n, (F.times m).Leads text i j := by
  have hOptional : Carries text (fun s => s ||| step s) F.optional :=
    Carries.nothing.either hStep
  rw [accumulate, iterate_eq, hOptional.iterated n s hWithin j]
  simp only [Stretches.leads_times_optional_iff]

------------------------------------------------------------
-- Matching
------------------------------------------------------------

/- A character of a set is passed. -/
theorem carries_oneOf
    (text : List Char)
    (set : Unicode.CodeSet) :
    Carries text (reach text (.oneOf set)) (Fits (.oneOf set)) := by
  intro s _ j
  have hBits := testBit_twice_add
    (s &&& places (fun _ c? => Assertion.beside set c?) none text)
    false j
  rw [Bool.toNat_false, Nat.add_zero] at hBits
  rw [reach, hBits]
  constructor
  · intro hArrived
    split at hArrived
    · cases hArrived
    · rename_i hForward
      rw [Nat.testBit_and, Bool.and_eq_true, testBit_places_iff]
        at hArrived
      rcases hArrived with ⟨hPlace, before, rest, rfl, hStart, hNext⟩
      cases rest with
      | nil => cases hNext
      | cons c after =>
          refine ⟨j - 1, hPlace, before, [c], after, by simp, hStart,
            ?_, c, rfl, hNext⟩
          rw [List.length_append, hStart, List.length_singleton]
          omega
  · intro hArrived
    rcases hArrived with
      ⟨_, hPlace, before, _, after, rfl, rfl, rfl, c, rfl, hSet⟩
    have hNext :
        (places (fun _ c? => Assertion.beside set c?) none
          (before ++ [c] ++ after)).testBit before.length = true :=
      testBit_places_iff.mpr
        ⟨before, c :: after, by simp, rfl, hSet⟩
    rw [if_neg (by simp), List.length_append, List.length_singleton,
      Nat.add_sub_cancel, Nat.testBit_and, hPlace, hNext,
      Bool.true_and]

/- A place is kept where an assertion holds. -/
theorem carries_assertion
    (text : List Char)
    (a : Assertion) :
    Carries text (reach text (.assertion a)) (Fits (.assertion a)) := by
  intro s _ j
  rw [reach, Nat.testBit_and, Bool.and_eq_true, testBit_places_iff]
  simp only [Option.or_none]
  constructor
  · intro hArrived
    rcases hArrived with ⟨hPlace, before, after, hText, hStart, hHolds⟩
    exact ⟨j, hPlace, before, [], after, by simpa using hText, hStart,
      by simpa using hStart, rfl, hHolds⟩
  · intro hArrived
    rcases hArrived with
      ⟨_, hPlace, before, _, after, rfl, rfl, rfl, rfl, hHolds⟩
    rw [List.append_nil]
    exact ⟨hPlace, before, after, rfl, rfl, hHolds⟩

/- Repetitions lead as far as an admitted number of them. -/
theorem carries_repeated
    {text : List Char}
    {p : Pattern}
    (hPart : Carries text (p.reach text) p.Fits)
    (least : Nat)
    (most? : Option Nat) :
    Carries text (reach text (.repeated p least most?))
      (Fits (.repeated p least most?)) := by
  intro s hWithin j
  have hFirst : Carries text (iterate (p.reach text) least)
      (p.Fits.times least) := by
    rw [funext (iterate_eq (p.reach text) least)]
    exact hPart.iterated least
  rw [reach, testBit_accumulate_iff hPart (hFirst.within hWithin)]
  simp only [hFirst s hWithin, Fits, Stretches.leads_exists_times_iff]
  constructor
  · intro hArrived
    rcases hArrived with ⟨k, ⟨i, hPlace, hLeast⟩, m, hMost, hMore⟩
    refine ⟨i, hPlace, least + m, ⟨Nat.le_add_right least m, ?_⟩,
      Stretches.leads_times_add_iff.mpr ⟨k, hLeast, hMore⟩⟩
    intro most hGiven
    rw [Option.mem_def] at hGiven
    rw [hGiven, Option.map_some, Option.getD_some] at hMost
    omega
  · intro hArrived
    rcases hArrived with ⟨i, hPlace, n, ⟨hEnough, hMost⟩, hTimes⟩
    obtain ⟨m, rfl⟩ := Nat.exists_eq_add_of_le hEnough
    rcases Stretches.leads_times_add_iff.mp hTimes with
      ⟨k, hLeast, hMore⟩
    refine ⟨k, ⟨i, hPlace, hLeast⟩, ?_⟩
    cases most? with
    | some most =>
        have hBound := hMost most rfl
        exact ⟨m, by simp; omega, hMore⟩
    | none =>
        -- Without an upper limit the text itself limits their number.
        rcases Stretches.exists_times_le hMore with ⟨l, hFew, hFewer⟩
        have hEnd := hFewer.bounds.2
        exact ⟨l, by simp; omega, hFewer⟩

/- Matching carries places along the stretches of a pattern. -/
theorem carries_reach
    (text : List Char)
    (p : Pattern) :
    Carries text (p.reach text) p.Fits := by
  induction p with
  | empty => exact Carries.nothing
  | oneOf set => exact carries_oneOf text set
  | assertion a => exact carries_assertion text a
  | sequence p q ihp ihq => exact ihp.followedBy ihq
  | choice p q ihp ihq => exact ihp.either ihq
  | repeated p least most? ih =>
      exact carries_repeated ih least most?

/- A pattern occurs in a text when it stands for a stretch of it. -/
theorem occursIn_iff
    {p : Pattern}
    {text : List Char} :
    p.occursIn text = true ↔
      ∃ before s after, text = before ++ s ++ after ∧
        p.Fits before s after := by
  have hEvery : ∀ i,
      (places (fun _ _ => true) none text).testBit i = true ↔
        i ≤ text.length := by
    intro i
    rw [testBit_places_iff]
    constructor
    · intro hPlace
      rcases hPlace with ⟨before, after, rfl, rfl, _⟩
      simp
    · intro hInside
      exact ⟨text.take i, text.drop i, by simp,
        List.length_take_of_le hInside, rfl⟩
  have hArrives := carries_reach text p _ fun i => (hEvery i).mp
  rw [occursIn, decide_eq_true_eq]
  constructor
  · intro hSome
    rcases Nat.exists_testBit_of_ne_zero hSome with ⟨j, hPlace⟩
    rcases (hArrives j).mp hPlace with
      ⟨i, _, before, s, after, hText, _, _, hFits⟩
    exact ⟨before, s, after, hText, hFits⟩
  · intro hFound hNone
    rcases hFound with ⟨before, s, after, hText, hFits⟩
    have hStart : before.length ≤ text.length := by
      simp [hText]
    have hPlace := (hArrives (before ++ s).length).mpr
      ⟨before.length, (hEvery _).mpr hStart, before, s, after,
        hText, rfl, rfl, hFits⟩
    rw [hNone, Nat.zero_testBit] at hPlace
    cases hPlace

end Pattern

end ManifestRecipes
