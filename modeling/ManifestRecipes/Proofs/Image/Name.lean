import ManifestRecipes.Image.Name
import Mathlib.Tactic.Common

/-
  Image references that can be read back.

  A reference is written with a separator before or behind
  each part that it has.  It is read back as it was when no
  part holds a separator by which another one is split off.

  Key definitions include:
    * `ImageName.Separable`

  Main declarations:
    * `ImageName.ofText_text`
    * `ImageName.separable_of_plain`
-/

namespace ManifestRecipes

namespace ImageName

------------------------------------------------------------
-- Splitting
------------------------------------------------------------

section Splitting

variable {c : Char} {front back cs : List Char}

theorem splitLast?_of_not_mem (hAbsent : c ∉ cs) :
    splitLast? c cs = none := by
  induction cs with
  | nil => rfl
  | cons d cs ih =>
      rw [List.mem_cons, not_or] at hAbsent
      simp [splitLast?, ih hAbsent.2, Ne.symm hAbsent.1]

theorem splitLast?_append (hLast : c ∉ back) :
    splitLast? c (front ++ c :: back) = some (front, back) := by
  induction front with
  | nil => simp [splitLast?, splitLast?_of_not_mem hLast]
  | cons d front ih => simp [splitLast?, ih]

/- What follows without the character belongs to the part behind. -/
theorem splitLast?_append_of_not_mem (hLast : c ∉ back) :
    splitLast? c (cs ++ back) =
      (splitLast? c cs).map fun (front, rest) =>
        (front, rest ++ back) := by
  induction cs with
  | nil => simp [splitLast?, splitLast?_of_not_mem hLast]
  | cons d cs ih =>
      rw [List.cons_append, splitLast?, splitLast?, ih]
      cases splitLast? c cs with
      | some parts => rfl
      | none => by_cases hHere : d = c <;> simp [hHere]

end Splitting

theorem part?_toList
    {s : String}
    (hGiven : s ≠ "") :
    part? s.toList = some s := by
  simp [part?, hGiven]

------------------------------------------------------------
-- Written References
------------------------------------------------------------

/- A part behind its separator, if there is one. -/
def behind (c : Char) : Option String → List Char
  | some s => c :: s.toList
  | none => []

/- A repository before its separator, if there is one. -/
def before (c : Char) : Option String → List Char
  | some s => s.toList ++ [c]
  | none => []

theorem chars_eq (n : ImageName) :
    n.chars =
      ((before '/' n.repository? ++ n.image.toList) ++
        behind ':' n.tag?) ++ behind '@' n.digest? := by
  rcases n with ⟨r?, image, t?, d?⟩
  cases r? <;> cases t? <;> cases d? <;> rfl

/-
  No part of a reference is empty or holds a separator by
  which it would be split.
-/
structure Separable (n : ImageName) : Prop where
  repository : n.repository? ≠ some ""
  image : '/' ∉ n.image.toList
  tag : ∀ s, n.tag? = some s →
    s ≠ "" ∧ ':' ∉ s.toList ∧ '/' ∉ s.toList
  untagged : n.tag? = none → ':' ∉ n.image.toList
  digest : ∀ s, n.digest? = some s → s ≠ "" ∧ '@' ∉ s.toList
  undigested : n.digest? = none →
    '@' ∉ (before '/' n.repository? ++ n.image.toList) ++
      behind ':' n.tag?

section ReadBack

variable {named located : List Char} {s? : Option String}

/- The digest is split off from what is written before it. -/
theorem splitDigest_behind
    (hDigest : ∀ s, s? = some s → s ≠ "" ∧ '@' ∉ s.toList)
    (hNone : s? = none → '@' ∉ named) :
    splitDigest (named ++ behind '@' s?) = (named, s?) := by
  cases s? with
  | none =>
      simp [behind, splitDigest, splitLast?_of_not_mem (hNone rfl)]
  | some s =>
      rcases hDigest s rfl with ⟨hGiven, hLast⟩
      simp [behind, splitDigest, splitLast?_append hLast,
        part?_toList hGiven]

/- The tag is split off from what is written before it. -/
theorem splitTag_behind
    {r? : Option String}
    {image : String}
    (hTag : ∀ s, s? = some s →
      s ≠ "" ∧ ':' ∉ s.toList ∧ '/' ∉ s.toList)
    (hNone : s? = none → ':' ∉ image.toList) :
    splitTag ((before '/' r? ++ image.toList) ++ behind ':' s?) =
      (before '/' r? ++ image.toList, s?) := by
  cases s? with
  | some s =>
      rcases hTag s rfl with ⟨hGiven, hLast, hSlash⟩
      simp only [behind, splitTag, splitLast?_append hLast]
      simp [hSlash, part?_toList hGiven]
  | none =>
      have hColon := hNone rfl
      rw [behind, List.append_nil]
      cases r? with
      | none =>
          simp [before, splitTag, splitLast?_of_not_mem hColon]
      | some r =>
          -- A colon in the repository stands before its slash.
          have hBehind : ':' ∉ '/' :: image.toList := by
            simp [hColon]
          have hSplit :
              splitLast? ':' (r.toList ++ '/' :: image.toList) = _ :=
            splitLast?_append_of_not_mem hBehind
          rw [before, List.append_assoc, List.singleton_append,
            splitTag, hSplit]
          cases splitLast? ':' r.toList with
          | none => rfl
          | some parts => simp

theorem splitRepository_before
    {r? : Option String}
    {image : String}
    (hRepository : r? ≠ some "")
    (hImage : '/' ∉ image.toList) :
    splitRepository (before '/' r? ++ image.toList) =
      (r?, image.toList) := by
  cases r? with
  | none =>
      simp [before, splitRepository, splitLast?_of_not_mem hImage]
  | some r =>
      have hGiven : r ≠ "" := fun h => hRepository (h ▸ rfl)
      simp [before, splitRepository, splitLast?_append hImage,
        part?_toList hGiven]

end ReadBack

/- A separable reference is read back as it was. -/
theorem ofText_text
    {n : ImageName}
    (hParts : n.Separable) :
    ofText n.text = n := by
  rw [ofText, text, String.toList_ofList, chars_eq, ofChars,
    splitDigest_behind hParts.digest hParts.undigested]
  simp only
  rw [splitTag_behind hParts.tag hParts.untagged]
  simp only
  rw [splitRepository_before hParts.repository hParts.image]
  simp

/- What is written without a separator is an image alone. -/
theorem separable_of_plain
    {n : ImageName}
    (hSlash : '/' ∉ n.chars)
    (hColon : ':' ∉ n.chars)
    (hAt : '@' ∉ n.chars) :
    n.Separable := by
  rcases n with ⟨r?, image, t?, d?⟩
  rw [chars_eq] at hSlash hColon hAt
  cases r? with
  | some r => simp [before] at hSlash
  | none =>
      cases t? with
      | some t => simp [behind] at hColon
      | none =>
          cases d? with
          | some d => simp [behind] at hAt
          | none =>
              simp only [before, behind, List.nil_append,
                List.append_nil] at hSlash hColon hAt
              exact
                { repository := by simp
                  image := hSlash
                  tag := by simp
                  untagged := fun _ => hColon
                  digest := by simp
                  undigested := by simpa [before, behind] }

end ImageName

end ManifestRecipes
