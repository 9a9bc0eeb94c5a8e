import ManifestRecipes.Proofs.Text
import ManifestRecipes.Unicode.Letter
import Mathlib.Data.List.Basic

/-
  Classes of characters that have nothing in common.

  A set of code points is written by the lengths of its runs.
  A code point of the set lies in one of the runs, and so a
  small set is gone through run by run.  What is not blank is
  left when a text is trimmed.

  Key definitions include:
    * `Unicode.RunSet.runs`

  Main declarations:
    * `Unicode.RunSet.exists_run_of_contains`
    * `Unicode.bounds_of_isAlpha_or_isDigit`
    * `Unicode.isBlank_eq_false_of_isAlphanumeric`
    * `Unicode.trim_append`
    * `Unicode.exists_eq_trim_append`
-/

namespace ManifestRecipes

namespace Unicode

------------------------------------------------------------
-- Runs
------------------------------------------------------------

namespace RunSet

/-
  The runs inside a set, each with its first code point and
  its length, where a total lies before them.
-/
def runsFrom : Nat → List Nat → List (Nat × Nat)
  | total, n :: m :: ns =>
      (total + n, m) :: runsFrom (total + n + m) ns
  | _, _ => []

/- The runs inside a set. -/
def runs (s : RunSet) : List (Nat × Nat) :=
  runsFrom 0 s.lengths

/- A code point inside lies in one of the runs. -/
theorem exists_run_of_side
    (total : Nat)
    {ns : List Nat}
    {c : Nat}
    (hEven : ns.length % 2 = 0)
    (hInside : side false ns c = true) :
    ∃ run ∈ runsFrom total ns, ∃ k < run.2,
      total + c = run.1 + k := by
  induction total, ns using runsFrom.induct generalizing c with
  | case1 total n m ns ih =>
      have hRest : ns.length % 2 = 0 := by
        simp only [List.length_cons] at hEven
        omega
      simp only [side, Bool.not_false, Bool.not_true] at hInside
      rw [runsFrom, List.exists_mem_cons_iff]
      split_ifs at hInside with hBefore hWithin
      · exact Or.inl ⟨c - n, hWithin, by omega⟩
      · rcases ih hRest hInside with ⟨run, hRun, k, hLess, hPlace⟩
        exact Or.inr ⟨run, hRun, k, hLess, by omega⟩
  | case2 ns total hShort =>
      rcases ns with _ | ⟨n, _ | ⟨m, ns⟩⟩
      · cases hInside
      · cases hEven
      · exact absurd rfl (hShort n m ns)

/- A code point of a set with an end lies in one of its runs. -/
theorem exists_run_of_contains
    {s : RunSet}
    {c : Nat}
    (hEven : s.lengths.length % 2 = 0)
    (hInside : s.contains c = true) :
    ∃ run ∈ s.runs, ∃ k < run.2, c = run.1 + k := by
  rcases exists_run_of_side 0 hEven hInside with
    ⟨run, hRun, k, hLess, hPlace⟩
  exact ⟨run, hRun, k, hLess, by omega⟩

end RunSet

------------------------------------------------------------
-- Blanks
------------------------------------------------------------

/- No letter and no number is among the blanks beyond ASCII. -/
theorem contains_whiteSpace_eq_false
    {c : Nat}
    (hMember : Property.alphabeticSet.contains c = true ∨
      Category.decimalNumberSet.contains c = true ∨
      Category.letterNumberSet.contains c = true ∨
      Category.otherNumberSet.contains c = true) :
    Property.whiteSpaceSet.contains c = false := by
  have hApart :
      ∀ run ∈ Property.whiteSpaceSet.runs, ∀ k < run.2,
        Property.alphabeticSet.contains (run.1 + k) = false ∧
        Category.decimalNumberSet.contains (run.1 + k) = false ∧
        Category.letterNumberSet.contains (run.1 + k) = false ∧
        Category.otherNumberSet.contains (run.1 + k) = false := by
    decide +kernel
  by_contra hBlank
  rw [Bool.not_eq_false] at hBlank
  rcases RunSet.exists_run_of_contains (by decide) hBlank with
    ⟨run, hRun, k, hLess, rfl⟩
  simp [hApart run hRun k hLess] at hMember

/- The letters and digits of ASCII lie between two bounds. -/
theorem bounds_of_isAlpha_or_isDigit
    {c : Char}
    (hClass : c.isAlpha = true ∨ c.isDigit = true) :
    '0'.toNat ≤ c.toNat ∧ c.toNat ≤ 'z'.toNat := by
  have hRun : ∃ first last : Char,
      (first.val ≤ c.val ∧ c.val ≤ last.val) ∧
        '0'.toNat ≤ first.toNat ∧ last.toNat ≤ 'z'.toNat := by
    rcases hClass with hAlpha | hDigit
    · rcases Bool.or_eq_true_iff.mp hAlpha with hUpper | hLower
      · exact ⟨'A', 'Z', of_decide_eq_true hUpper, by decide⟩
      · rcases Bool.and_eq_true_iff.mp hLower with ⟨hFirst, hLast⟩
        exact ⟨'a', 'z',
          ⟨of_decide_eq_true hFirst, of_decide_eq_true hLast⟩,
          by decide⟩
    · rcases Bool.and_eq_true_iff.mp hDigit with ⟨hFirst, hLast⟩
      exact ⟨'0', '9',
        ⟨of_decide_eq_true hFirst, of_decide_eq_true hLast⟩,
        by decide⟩
  rcases hRun with ⟨first, last, ⟨hFirst, hLast⟩, hLow, hHigh⟩
  exact ⟨Nat.le_trans hLow (UInt32.le_iff_toNat_le.mp hFirst),
    Nat.le_trans (UInt32.le_iff_toNat_le.mp hLast) hHigh⟩

/- Letters and numbers are no blanks. -/
theorem isBlank_eq_false_of_isAlphanumeric
    {c : Char}
    (hName : isAlphanumeric c = true) :
    isBlank c = false := by
  unfold isAlphanumeric isAlphabetic isNumeric at hName
  unfold isBlank
  by_cases hAscii : c.toNat < 128
  · simp only [hAscii, if_true, Bool.or_eq_true] at hName
    have hBound : 48 ≤ c.toNat :=
      (bounds_of_isAlpha_or_isDigit hName).1
    simp only [hAscii, if_true, Bool.or_eq_false_iff,
      Bool.and_eq_false_iff, decide_eq_false_iff_not]
    omega
  · rw [if_neg hAscii]
    apply contains_whiteSpace_eq_false
    simpa [hAscii, or_assoc] using hName

theorem isBlank_eq_false_of_isDigit
    {c : Char}
    (hDigit : Digits.isDigit c = true) :
    isBlank c = false := by
  have hCore : c.isDigit = true := by
    simpa [Char.isDigit, Digits.isDigit, Char.le_def] using hDigit
  have hAscii : c.toNat < 128 :=
    Nat.lt_of_le_of_lt
      (bounds_of_isAlpha_or_isDigit (Or.inr hCore)).2 (by decide)
  apply isBlank_eq_false_of_isAlphanumeric
  simp [isAlphanumeric, isNumeric, hAscii, hCore]

------------------------------------------------------------
-- Trimming
------------------------------------------------------------

/- Blanks at the ends of a text are trimmed off. -/
theorem trim_append
    {before inner after : List Char}
    (hGiven : inner ≠ [])
    (hInner : ∀ c ∈ inner, isBlank c = false)
    (hBefore : ∀ c ∈ before, isBlank c = true)
    (hAfter : ∀ c ∈ after, isBlank c = true) :
    trim (before ++ inner ++ after) = inner := by
  have hFront : Ends isBlank (inner ++ after) :=
    ends_append hGiven hInner
  have hBack : Ends isBlank (inner.reverse ++ []) :=
    ends_append (by simpa using hGiven) (by simpa using hInner)
  have hBehind : ∀ c ∈ after.reverse, isBlank c = true := by
    simpa using hAfter
  rw [List.append_nil] at hBack
  rw [trim, List.append_assoc, dropWhile_append hBefore hFront,
    List.reverse_append, dropWhile_append hBehind hBack,
    List.reverse_reverse]

/- Nothing but blanks at its ends is trimmed off a text. -/
theorem exists_eq_trim_append (cs : List Char) :
    ∃ before after, cs = before ++ trim cs ++ after ∧
      (∀ c ∈ before, isBlank c = true) ∧
      ∀ c ∈ after, isBlank c = true := by
  let rest := cs.dropWhile isBlank
  refine ⟨cs.takeWhile isBlank,
    (rest.reverse.takeWhile isBlank).reverse, ?_,
    fun _ => List.mem_takeWhile_imp, ?_⟩
  · have hRest :
        trim cs ++ (rest.reverse.takeWhile isBlank).reverse =
          rest := by
      change (rest.reverse.dropWhile isBlank).reverse ++ _ = _
      rw [← List.reverse_append, List.takeWhile_append_dropWhile,
        List.reverse_reverse]
    rw [List.append_assoc, hRest, List.takeWhile_append_dropWhile]
  · intro c hMember
    exact List.mem_takeWhile_imp (List.mem_reverse.mp hMember)

end Unicode

end ManifestRecipes
