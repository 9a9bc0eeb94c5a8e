import ManifestRecipes.Proofs.Image.Name

/-
  The image references that are read back as they were.

  Reading splits a text three times, each time at a last
  separator.  What a split leaves and takes makes up the text
  again unless the separator dangles, with nothing behind or
  before it.  A reference that is read back as it was has lost
  no separator, and so it is separable.

  Main declarations:
    * `ImageName.splitDigest_cases`
    * `ImageName.splitTag_cases`
    * `ImageName.splitRepository_cases`
    * `ImageName.sublist_ofText`
    * `ImageName.separable_of_ofText_text`
    * `ImageName.separable_iff`
    * `ImageName.ofText_text_iff`
-/

namespace ManifestRecipes

namespace ImageName

------------------------------------------------------------
-- Cases of a Split
------------------------------------------------------------

section Cases

/- A text is split at its last separator, if it has one. -/
theorem splitLast?_cases (c : Char) (cs : List Char) :
    (c ∉ cs ∧ splitLast? c cs = none) ∨
    ∃ front back, cs = front ++ c :: back ∧ c ∉ back ∧
      splitLast? c cs = some (front, back) := by
  by_cases hMember : c ∈ cs
  · right
    induction cs with
    | nil => cases hMember
    | cons d cs ih =>
        by_cases hLater : c ∈ cs
        · rcases ih hLater with ⟨front, back, hText, hLast, _⟩
          have hLonger : d :: cs = (d :: front) ++ c :: back := by
            rw [hText, List.cons_append]
          refine ⟨d :: front, back, hLonger, hLast, ?_⟩
          rw [hLonger, splitLast?_append hLast]
        · have hHere : d = c := by
            rcases List.mem_cons.mp hMember with hHere | hMore
            · exact hHere.symm
            · exact absurd hMore hLater
          subst hHere
          have hSplit : splitLast? d ([] ++ d :: cs) = some ([], cs) :=
            splitLast?_append hLater
          exact ⟨[], cs, rfl, hLater, hSplit⟩
  · exact Or.inl ⟨hMember, splitLast?_of_not_mem hMember⟩

/- A part that is taken off is none or the text that it was. -/
theorem part?_cases (cs : List Char) :
    (cs = [] ∧ part? cs = none) ∨
    ∃ s : String, s ≠ "" ∧ cs = s.toList ∧ part? cs = some s := by
  cases cs with
  | nil => exact Or.inl ⟨rfl, rfl⟩
  | cons c cs =>
      right
      have hText : c :: cs = (String.ofList (c :: cs)).toList :=
        String.toList_ofList.symm
      have hGiven : String.ofList (c :: cs) ≠ "" := by
        intro hEmpty
        rw [hEmpty] at hText
        cases hText
      exact ⟨_, hGiven, hText, rfl⟩

/- There is no digest, or an empty one, or the one split off. -/
theorem splitDigest_cases (cs : List Char) :
    ('@' ∉ cs ∧ splitDigest cs = (cs, none)) ∨
    (∃ named, cs = named ++ ['@'] ∧
      splitDigest cs = (named, none)) ∨
    ∃ named s, cs = named ++ '@' :: s.toList ∧ s ≠ "" ∧
      '@' ∉ s.toList ∧ splitDigest cs = (named, some s) := by
  rcases splitLast?_cases '@' cs with
    ⟨hAbsent, hSplit⟩ | ⟨front, back, hText, hLast, hSplit⟩
  · exact Or.inl ⟨hAbsent, by rw [splitDigest, hSplit]⟩
  · right
    rcases part?_cases back with
      ⟨rfl, hPart⟩ | ⟨s, hGiven, rfl, hPart⟩
    · exact Or.inl ⟨front, hText, by
        rw [splitDigest, hSplit]
        simp only [hPart]⟩
    · exact Or.inr ⟨front, s, hText, hGiven, hLast, by
        rw [splitDigest, hSplit]
        simp only [hPart]⟩

/-
  There is no tag, or an empty one, or the one split off.  A
  text has none when there is no colon behind its last slash.
-/
theorem splitTag_cases (cs : List Char) :
    ((∀ front back, cs = front ++ back → '/' ∉ back →
        ':' ∉ back) ∧ splitTag cs = (cs, none)) ∨
    (∃ located, cs = located ++ [':'] ∧
      splitTag cs = (located, none)) ∨
    ∃ located s, cs = located ++ ':' :: s.toList ∧ s ≠ "" ∧
      ':' ∉ s.toList ∧ '/' ∉ s.toList ∧
        splitTag cs = (located, some s) := by
  rcases splitLast?_cases ':' cs with
    ⟨hAbsent, hSplit⟩ | ⟨front, back, hText, hLast, hSplit⟩
  · refine Or.inl ⟨?_, by rw [splitTag, hSplit]⟩
    rintro front back rfl _ hColon
    exact hAbsent (List.mem_append_right front hColon)
  · by_cases hSlash : '/' ∈ back
    · refine Or.inl ⟨?_, by simp [splitTag, hSplit, hSlash]⟩
      intro before behind hParts hFree
      rcases splitLast?_cases ':' behind with
        ⟨hAbsent, _⟩ | ⟨more, rest, rfl, hRest, _⟩
      · exact hAbsent
      · -- The last colon of the end is the last one of the text.
        have hAgain :
            splitLast? ':' (before ++ more ++ ':' :: rest) =
              some (before ++ more, rest) :=
          splitLast?_append hRest
        rw [List.append_assoc, ← hParts, hSplit,
          Option.some.injEq, Prod.mk.injEq] at hAgain
        rw [← hAgain.2] at hFree
        simp [hSlash] at hFree
    · right
      rcases part?_cases back with
        ⟨rfl, hPart⟩ | ⟨s, hGiven, rfl, hPart⟩
      · exact Or.inl ⟨front, hText, by
          simp [splitTag, hSplit, hPart]⟩
      · exact Or.inr ⟨front, s, hText, hGiven, hLast, hSlash, by
          simp [splitTag, hSplit, hSlash, hPart]⟩

/- There is no repository, or an empty one, or the one split off. -/
theorem splitRepository_cases (cs : List Char) :
    ('/' ∉ cs ∧ splitRepository cs = (none, cs)) ∨
    (∃ image, cs = '/' :: image ∧ '/' ∉ image ∧
      splitRepository cs = (none, image)) ∨
    ∃ s image, cs = s.toList ++ '/' :: image ∧ s ≠ "" ∧
      '/' ∉ image ∧ splitRepository cs = (some s, image) := by
  rcases splitLast?_cases '/' cs with
    ⟨hAbsent, hSplit⟩ | ⟨front, back, hText, hLast, hSplit⟩
  · exact Or.inl ⟨hAbsent, by rw [splitRepository, hSplit]⟩
  · right
    rcases part?_cases front with
      ⟨rfl, hPart⟩ | ⟨s, hGiven, rfl, hPart⟩
    · exact Or.inl ⟨back, hText, hLast, by
        rw [splitRepository, hSplit]
        simp only [hPart]⟩
    · exact Or.inr ⟨s, back, hText, hGiven, hLast, by
        rw [splitRepository, hSplit]
        simp only [hPart]⟩

end Cases

------------------------------------------------------------
-- Splits Without Loss
------------------------------------------------------------

section Lossless

variable
  {cs named located image : List Char}
  {s? : Option String}

theorem sublist_splitDigest (hSplit : splitDigest cs = (named, s?)) :
    (named ++ behind '@' s?).Sublist cs := by
  rcases splitDigest_cases cs with
    ⟨_, hCase⟩ | ⟨_, hText, hCase⟩ | ⟨_, s, hText, _, _, hCase⟩ <;>
    cases hSplit.symm.trans hCase <;>
    simp_all [behind]

theorem sublist_splitTag (hSplit : splitTag cs = (located, s?)) :
    (located ++ behind ':' s?).Sublist cs := by
  rcases splitTag_cases cs with
    ⟨_, hCase⟩ | ⟨_, hText, hCase⟩ | ⟨_, s, hText, _, _, _, hCase⟩ <;>
    cases hSplit.symm.trans hCase <;>
    simp_all [behind]

theorem sublist_splitRepository
    (hSplit : splitRepository cs = (s?, image)) :
    (before '/' s? ++ image).Sublist cs := by
  rcases splitRepository_cases cs with
    ⟨_, hCase⟩ | ⟨_, hText, _, hCase⟩ | ⟨s, _, hText, _, _, hCase⟩ <;>
    cases hSplit.symm.trans hCase <;>
    simp_all [before]

/- A digest that is split off without loss could be written. -/
theorem lossless_splitDigest
    (hSplit : splitDigest cs = (named, s?))
    (hLength : cs.length ≤ named.length + (behind '@' s?).length) :
    cs = named ++ behind '@' s? ∧
    (∀ s, s? = some s → s ≠ "" ∧ '@' ∉ s.toList) ∧
    (s? = none → '@' ∉ named) := by
  rcases splitDigest_cases cs with
    ⟨hAbsent, hCase⟩ | ⟨_, hText, hCase⟩ |
      ⟨_, s, hText, hGiven, hLast, hCase⟩ <;>
    cases hSplit.symm.trans hCase
  · simp [behind, hAbsent]
  · exact absurd hLength (by simp [hText, behind])
  · simp [behind, hText, hGiven, hLast]

/- A tag that is split off without loss could be written. -/
theorem lossless_splitTag
    (hSplit : splitTag cs = (located, s?))
    (hLength : cs.length ≤ located.length + (behind ':' s?).length) :
    cs = located ++ behind ':' s? ∧
    (∀ s, s? = some s →
      s ≠ "" ∧ ':' ∉ s.toList ∧ '/' ∉ s.toList) ∧
    (s? = none → ∀ front back, located = front ++ back →
      '/' ∉ back → ':' ∉ back) := by
  rcases splitTag_cases cs with
    ⟨hAbsent, hCase⟩ | ⟨_, hText, hCase⟩ |
      ⟨_, s, hText, hGiven, hLast, hSlash, hCase⟩ <;>
    cases hSplit.symm.trans hCase
  · exact ⟨by simp [behind], by simp, fun _ => hAbsent⟩
  · exact absurd hLength (by simp [hText, behind])
  · simp [behind, hText, hGiven, hLast, hSlash]

/- A repository that is split off without loss could be written. -/
theorem lossless_splitRepository
    (hSplit : splitRepository cs = (s?, image))
    (hLength :
      cs.length ≤ (before '/' s?).length + image.length) :
    cs = before '/' s? ++ image ∧ s? ≠ some "" ∧ '/' ∉ image := by
  rcases splitRepository_cases cs with
    ⟨hAbsent, hCase⟩ | ⟨_, hText, _, hCase⟩ |
      ⟨s, _, hText, hGiven, hLast, hCase⟩ <;>
    cases hSplit.symm.trans hCase
  · simp [before, hAbsent]
  · exact absurd hLength (by simp [hText, before])
  · simp [before, hText, hGiven, hLast]

/- Reading splits off the digest, then the tag, then the repository. -/
theorem splits_of_ofChars_eq
    {n : ImageName}
    (hRead : ofChars cs = n) :
    ∃ named located, splitDigest cs = (named, n.digest?) ∧
      splitTag named = (located, n.tag?) ∧
        splitRepository located =
          (n.repository?, n.image.toList) := by
  cases hDigest : splitDigest cs with
  | mk named d? =>
      cases hTag : splitTag named with
      | mk located t? =>
          cases hRepository : splitRepository located with
          | mk r? image =>
              have hParts : n = ⟨r?, String.ofList image, t?, d?⟩ := by
                rw [← hRead]
                simp [ofChars, hDigest, hTag, hRepository]
              subst hParts
              exact ⟨named, located, rfl, hTag, by
                rw [hRepository, String.toList_ofList]⟩

/- A reference consists of characters of the text that it is read from. -/
theorem sublist_ofText (s : String) :
    (ofText s).chars.Sublist s.toList := by
  have hRead : ofChars s.toList = ofText s := rfl
  obtain ⟨named, located, hDigest, hTag, hRepository⟩ :=
    splits_of_ofChars_eq hRead
  have hNamed := sublist_splitDigest hDigest
  have hLocated := (sublist_splitTag hTag).append_right
    (behind '@' (ofText s).digest?)
  have hParts := (sublist_splitRepository hRepository).append_right
    (behind ':' (ofText s).tag?)
  rw [chars_eq]
  exact (hParts.append_right _).trans (hLocated.trans hNamed)

end Lossless

------------------------------------------------------------
-- References Read Back
------------------------------------------------------------

/-
  A reference that is read back as it was is separable.  Each
  split has to take off as much as was written there, and so
  none of them loses a separator.
-/
theorem separable_of_ofText_text
    {n : ImageName}
    (hBack : ofText n.text = n) :
    n.Separable := by
  rw [ofText, text, String.toList_ofList] at hBack
  obtain ⟨named, located, hDigest, hTag, hRepository⟩ :=
    splits_of_ofChars_eq hBack
  have hWritten := congrArg List.length (chars_eq n)
  have hNamed := (sublist_splitDigest hDigest).length_le
  have hLocated := (sublist_splitTag hTag).length_le
  have hParts := (sublist_splitRepository hRepository).length_le
  simp only [List.length_append]
    at hWritten hNamed hLocated hParts
  obtain ⟨hText, hDigestPart, hUndigested⟩ :=
    lossless_splitDigest hDigest (by omega)
  obtain ⟨rfl, hTagPart, hUntagged⟩ :=
    lossless_splitTag hTag (by omega)
  obtain ⟨rfl, hRepositoryPart, hImage⟩ :=
    lossless_splitRepository hRepository (by omega)
  exact
    { repository := hRepositoryPart
      image := hImage
      tag := hTagPart
      untagged := fun hNone => hUntagged hNone _ _ rfl hImage
      digest := hDigestPart
      undigested := hUndigested }

/- Whether a reference is separable, part by part. -/
theorem separable_iff {n : ImageName} :
    n.Separable ↔
      n.repository? ≠ some "" ∧
      '/' ∉ n.image.toList ∧
      (∀ t, n.tag? = some t →
        t ≠ "" ∧ ':' ∉ t.toList ∧ '/' ∉ t.toList) ∧
      (n.tag? = none → ':' ∉ n.image.toList) ∧
      (∀ d, n.digest? = some d → d ≠ "" ∧ '@' ∉ d.toList) ∧
      (n.digest? = none →
        (∀ r, n.repository? = some r → '@' ∉ r.toList) ∧
        '@' ∉ n.image.toList ∧
        (∀ t, n.tag? = some t → '@' ∉ t.toList)) := by
  have hUndigested :
      '@' ∉ (before '/' n.repository? ++ n.image.toList) ++
          behind ':' n.tag? ↔
        (∀ r, n.repository? = some r → '@' ∉ r.toList) ∧
        '@' ∉ n.image.toList ∧
        (∀ t, n.tag? = some t → '@' ∉ t.toList) := by
    cases n.repository? <;> cases n.tag? <;>
      simp [before, behind]
  constructor
  · intro hParts
    exact ⟨hParts.repository, hParts.image, hParts.tag,
      hParts.untagged, hParts.digest,
      fun hNone => hUndigested.mp (hParts.undigested hNone)⟩
  · rintro ⟨hRepository, hImage, hTag, hUntagged, hDigest, hNone⟩
    exact
      { repository := hRepository
        image := hImage
        tag := hTag
        untagged := hUntagged
        digest := hDigest
        undigested := fun h => hUndigested.mpr (hNone h) }

/-
  A reference is read back as it was exactly when no part is
  empty that may be absent and none holds a separator by which
  it would be split: a slash in the image or the tag, a colon
  in the tag or, if there is none, in the image, and an at sign
  in the digest or, if there is none, anywhere.
-/
theorem ofText_text_iff (n : ImageName) :
    ofText n.text = n ↔
      n.repository? ≠ some "" ∧
      '/' ∉ n.image.toList ∧
      (∀ t, n.tag? = some t →
        t ≠ "" ∧ ':' ∉ t.toList ∧ '/' ∉ t.toList) ∧
      (n.tag? = none → ':' ∉ n.image.toList) ∧
      (∀ d, n.digest? = some d → d ≠ "" ∧ '@' ∉ d.toList) ∧
      (n.digest? = none →
        (∀ r, n.repository? = some r → '@' ∉ r.toList) ∧
        '@' ∉ n.image.toList ∧
        (∀ t, n.tag? = some t → '@' ∉ t.toList)) := by
  rw [← separable_iff]
  exact ⟨separable_of_ofText_text, ofText_text⟩

/- A port does no harm, nor does an at sign before a digest. -/
example :
    let n : ImageName :=
      ⟨some "host:5000/team@eu", "app", some "v1", some "sha256:0"⟩
    ofText n.text = n := by
  decide

end ImageName

end ManifestRecipes
