import ManifestRecipes.Proofs.Image.RoundTrip

/-
  What is lost when a reference is read and written again.

  A separator dangles when the part that it belongs to is
  empty: an at sign at the end, a colon at the end of what is
  before the last at sign, or a last slash in front of it all.
  Reading drops the dangling separators and nothing else.

  Key definitions include:
    * `ImageName.Divided`
    * `ImageName.EndsWith`
    * `ImageName.LoneSlash`
    * `ImageName.dangling`

  Main declarations:
    * `ImageName.splitDigest_of_divided`
    * `ImageName.eq_of_splitTag`
    * `ImageName.eq_of_splitRepository`
    * `ImageName.text_ofText_drops_dangling`
-/

namespace ManifestRecipes

namespace ImageName

------------------------------------------------------------
-- Dangling Separators
------------------------------------------------------------

/-
  A text is divided before its last at sign; without one, all
  of it comes before.
-/
structure Divided (cs named behind : List Char) : Prop where
  text : cs = named ++ behind
  last : ('@' ∉ named ∧ behind = []) ∨
    ∃ digest, behind = '@' :: digest ∧ '@' ∉ digest

/- A text ends with a separator. -/
def EndsWith (c : Char) (cs : List Char) : Prop :=
  cs.getLast? = some c

/- The last slash of a text is its first character. -/
def LoneSlash (cs : List Char) : Prop :=
  cs.head? = some '/' ∧ '/' ∉ cs.tail

instance (c : Char) (cs : List Char) :
    Decidable (EndsWith c cs) := by
  unfold EndsWith
  infer_instance

instance (cs : List Char) : Decidable (LoneSlash cs) := by
  unfold LoneSlash
  infer_instance

/- A separator where it dangles. -/
def dangling (c : Char) (p : Prop) [Decidable p] : List Char :=
  if p then [c] else []

variable {c : Char} {cs named located image rest : List Char}
variable {s? : Option String}
variable {p q : Prop} [Decidable p] [Decidable q]

theorem dangling_congr (hSame : p ↔ q) :
    dangling c p = dangling c q := by
  simp only [dangling, hSame]

theorem dangling_eq_nil_iff : dangling c p = [] ↔ ¬ p := by
  by_cases hHolds : p <;> simp [dangling, hHolds]

theorem exists_divided (cs : List Char) :
    ∃ named rest, Divided cs named rest := by
  rcases splitLast?_cases '@' cs with
    ⟨hAbsent, _⟩ | ⟨front, back, hText, hLast, _⟩
  · exact ⟨cs, [], (List.append_nil cs).symm, Or.inl ⟨hAbsent, rfl⟩⟩
  · exact ⟨front, '@' :: back, hText, Or.inr ⟨back, rfl, hLast⟩⟩

theorem not_endsWith_of_not_mem (hAbsent : c ∉ cs) :
    ¬ EndsWith c cs :=
  fun hEnd => hAbsent (List.mem_of_getLast? hEnd)

/- A text ends with its last separator when nothing is behind that. -/
theorem endsWith_append_cons_iff (hLast : c ∉ rest) :
    EndsWith c (cs ++ c :: rest) ↔ rest = [] := by
  constructor
  · intro hEnd
    by_contra hGiven
    have hBehind : (cs ++ c :: rest).getLast? = rest.getLast? := by
      rw [List.append_cons, List.getLast?_append,
        List.getLast?_eq_some_getLast hGiven]
      rfl
    rw [EndsWith, hBehind] at hEnd
    exact not_endsWith_of_not_mem hLast hEnd
  · rintro rfl
    simp [EndsWith]

/- What has no slash behind a text does not change which slash is last. -/
theorem loneSlash_append_iff (hFree : '/' ∉ rest) :
    LoneSlash (cs ++ rest) ↔ LoneSlash cs := by
  cases cs with
  | nil =>
      cases rest with
      | nil => rfl
      | cons d rest =>
          rw [List.mem_cons, not_or] at hFree
          simp [LoneSlash, Ne.symm hFree.1]
  | cons d cs => simp [LoneSlash, hFree]

------------------------------------------------------------
-- One Split
------------------------------------------------------------

theorem cons_eq_behind_append (c : Char) (back : List Char) :
    c :: back =
      behind c (part? back) ++ dangling c (back = []) := by
  rcases part?_cases back with
    ⟨rfl, hPart⟩ | ⟨s, hGiven, rfl, hPart⟩
  · simp [hPart, behind, dangling]
  · simp [hPart, behind, dangling, hGiven]

/-
  The digest is split off where a text is divided.  The at
  sign dangles when the text ends with it.
-/
theorem splitDigest_of_divided (hDivided : Divided cs named rest) :
    ∃ d?, splitDigest cs = (named, d?) ∧
      rest = behind '@' d? ++ dangling '@' (EndsWith '@' cs) := by
  rcases hDivided with ⟨rfl, ⟨hAbsent, rfl⟩ | ⟨digest, rfl, hLast⟩⟩
  · refine ⟨none, ?_, ?_⟩
    · simp [splitDigest, splitLast?_of_not_mem hAbsent]
    · simp [behind, dangling, not_endsWith_of_not_mem hAbsent]
  · refine ⟨part? digest, ?_, ?_⟩
    · simp [splitDigest, splitLast?_append hLast]
    · simp only [dangling, endsWith_append_cons_iff hLast]
      exact cons_eq_behind_append '@' digest

/- The tag is split off, and a colon with it that dangles at the end. -/
theorem eq_of_splitTag
    (hSplit : splitTag named = (located, s?)) :
    named = located ++ behind ':' s? ++
        dangling ':' (EndsWith ':' named) ∧
      '/' ∉ behind ':' s? := by
  rcases splitTag_cases named with
    ⟨hFree, hCase⟩ | ⟨_, rfl, hCase⟩ |
      ⟨_, s, rfl, hGiven, hLast, hSlash, hCase⟩ <;>
    cases hSplit.symm.trans hCase
  · have hEnd : ¬ EndsWith ':' named := by
      intro hEnd
      rcases List.getLast?_eq_some_iff.mp hEnd with ⟨front, hText⟩
      exact hFree front [':'] hText (by simp) (by simp)
    simp [behind, dangling, hEnd]
  · simp [behind, dangling, EndsWith]
  · have hEnd :
        EndsWith ':' (located ++ ':' :: s.toList) ↔ s.toList = [] :=
      endsWith_append_cons_iff hLast
    simp [behind, dangling, hEnd, hGiven, hSlash]

/- The repository is split off, and a slash with it that is alone. -/
theorem eq_of_splitRepository
    (hSplit : splitRepository located = (s?, image)) :
    located = dangling '/' (LoneSlash located) ++
      (before '/' s? ++ image) := by
  rcases splitRepository_cases located with
    ⟨hAbsent, hCase⟩ | ⟨_, rfl, hLast, hCase⟩ |
      ⟨s, _, rfl, hGiven, hLast, hCase⟩ <;>
    cases hSplit.symm.trans hCase
  · have hNone : ¬ LoneSlash located := by
      intro hLone
      exact hAbsent (List.mem_of_mem_head? hLone.1)
    simp [before, dangling, hNone]
  · simp [before, dangling, LoneSlash, hLast]
  · have hNone : ¬ LoneSlash (s.toList ++ '/' :: image) := by
      rintro ⟨_, hTail⟩
      cases hChars : s.toList with
      | nil => exact absurd hChars (by simpa)
      | cons d ds => simp [hChars] at hTail
    simp [before, dangling, hNone]

------------------------------------------------------------
-- Reading and Writing
------------------------------------------------------------

/- What is kept of a text and the separators that dangle make it up. -/
theorem exists_kept
    {s : String}
    (hDivided : Divided s.toList named rest) :
    ∃ kept digest,
      named = dangling '/' (LoneSlash named) ++ kept ++
        dangling ':' (EndsWith ':' named) ∧
      rest = digest ++ dangling '@' (EndsWith '@' s.toList) ∧
      (ofText s).text.toList = kept ++ digest := by
  have hRead : ofChars s.toList = ofText s := rfl
  obtain ⟨named', located, hDigest, hTag, hRepository⟩ :=
    splits_of_ofChars_eq hRead
  rcases splitDigest_of_divided hDivided with ⟨d?, hSplit, hRest⟩
  rw [hDigest, Prod.mk.injEq] at hSplit
  rcases hSplit with ⟨rfl, rfl⟩
  have hLocated := eq_of_splitRepository hRepository
  rcases eq_of_splitTag hTag with ⟨hNamed, hFree⟩
  have hSlash : LoneSlash named' ↔ LoneSlash located := by
    rw [hNamed, List.append_assoc]
    apply loneSlash_append_iff
    rw [List.mem_append, not_or]
    refine ⟨hFree, ?_⟩
    unfold dangling
    split_ifs <;> simp
  refine ⟨before '/' (ofText s).repository? ++
      (ofText s).image.toList ++ behind ':' (ofText s).tag?,
    behind '@' (ofText s).digest?, ?_, hRest, ?_⟩
  · calc
      named' = located ++ behind ':' (ofText s).tag? ++
          dangling ':' (EndsWith ':' named') := hNamed
      _ = dangling '/' (LoneSlash named') ++
            (before '/' (ofText s).repository? ++
              (ofText s).image.toList) ++
            behind ':' (ofText s).tag? ++
          dangling ':' (EndsWith ':' named') := by
        rw [dangling_congr hSlash, ← hLocated]
      _ = _ := by simp only [List.append_assoc]
  · rw [text, String.toList_ofList, chars_eq]

/-
  What is read and written again is the text without its
  dangling separators: an at sign at the end, a colon at the
  end of what is before the last at sign, and a slash in front
  of that when it is the last.
-/
theorem text_ofText_drops_dangling (s : String) :
    (∃ named rest, Divided s.toList named rest) ∧
    ∀ named rest, Divided s.toList named rest →
      ((ofText s).text = s ↔
        ¬ EndsWith '@' s.toList ∧ ¬ EndsWith ':' named ∧
          ¬ LoneSlash named) ∧
      ∃ kept digest,
        named = dangling '/' (LoneSlash named) ++ kept ++
          dangling ':' (EndsWith ':' named) ∧
        rest = digest ++ dangling '@' (EndsWith '@' s.toList) ∧
        (ofText s).text.toList = kept ++ digest := by
  refine ⟨exists_divided s.toList, ?_⟩
  intro named rest hDivided
  obtain ⟨kept, digest, hNamed, hRest, hText⟩ := exists_kept hDivided
  refine ⟨?_, kept, digest, hNamed, hRest, hText⟩
  have hWhole := hDivided.text.trans
    (congrArg₂ (· ++ ·) hNamed hRest)
  rw [← String.toList_inj, hText, ← dangling_eq_nil_iff (c := '@'),
    ← dangling_eq_nil_iff (c := ':'),
    ← dangling_eq_nil_iff (c := '/')]
  constructor
  · intro hSame
    -- The separators that dangle would make the text longer.
    have hLength := congrArg List.length (hSame.trans hWhole)
    simp only [List.length_append] at hLength
    simp only [← List.length_eq_zero_iff]
    omega
  · rintro ⟨hAt, hColon, hSlash⟩
    rw [hAt, hColon, hSlash] at hWhole
    simpa using hWhole.symm

/- All three separators dangle around an image. -/
theorem text_ofText_drops_dangling_image :
    Divided "/app:@".toList "/app:".toList "@".toList ∧
    (¬ (ofText "/app:@").text = "/app:@") ∧
    (ofText "/app:@").text = "app" := by
  have hDivided :
      Divided "/app:@".toList "/app:".toList "@".toList :=
    ⟨rfl, Or.inr ⟨[], rfl, List.not_mem_nil⟩⟩
  have hDrops :=
    (text_ofText_drops_dangling "/app:@").2 _ _ hDivided
  refine ⟨hDivided, ?_, by decide⟩
  rw [hDrops.1]
  decide

end ImageName

end ManifestRecipes
