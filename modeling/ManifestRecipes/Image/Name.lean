/-
  Container image references.

  A reference names an image, possibly in a repository, with
  a tag or a digest.  The digest stands behind the last at
  sign, the tag behind the last colon that no slash follows,
  and the image behind the last slash.

  Key definitions include:
    * `ImageName`
    * `ImageName.ofText`
    * `ImageName.text`
-/

namespace ManifestRecipes

/- The parts of an image reference. -/
structure ImageName where
  repository? : Option String
  image : String
  tag? : Option String
  digest? : Option String
deriving DecidableEq, Repr

namespace ImageName

------------------------------------------------------------
-- Splitting
------------------------------------------------------------

/- Split a text at the last place of a character. -/
def splitLast? (c : Char) :
    List Char → Option (List Char × List Char)
  | [] => none
  | d :: cs =>
      match splitLast? c cs with
      | some (front, back) => some (d :: front, back)
      | none => if d = c then some ([], cs) else none

/- A part that is not empty. -/
def part? (cs : List Char) : Option String :=
  if cs.isEmpty then none else some (String.ofList cs)

/- A given part; the empty text gives none. -/
def given? (s? : Option String) : Option String :=
  s?.filter (· ≠ "")

def splitDigest (cs : List Char) : List Char × Option String :=
  match splitLast? '@' cs with
  | some (front, back) => (front, part? back)
  | none => (cs, none)

/- Split off the tag; a colon before a slash belongs to a port. -/
def splitTag (cs : List Char) : List Char × Option String :=
  match splitLast? ':' cs with
  | some (front, back) =>
      if back.contains '/' then (cs, none) else (front, part? back)
  | none => (cs, none)

def splitRepository (cs : List Char) : Option String × List Char :=
  match splitLast? '/' cs with
  | some (front, back) => (part? front, back)
  | none => (none, cs)

------------------------------------------------------------
-- References
------------------------------------------------------------

/- The parts of a reference. -/
def ofChars (cs : List Char) : ImageName :=
  let (named, digest?) := splitDigest cs
  let (located, tag?) := splitTag named
  let (repository?, image) := splitRepository located
  ⟨repository?, String.ofList image, tag?, digest?⟩

/- The parts of a reference. -/
def ofText (s : String) : ImageName :=
  ofChars s.toList

/- A reference of given parts; empty ones count as absent. -/
def ofParts
    (repository? : Option String)
    (image : String)
    (tag? : Option String)
    (digest? : Option String) : ImageName :=
  ⟨given? repository?, image, given? tag?, given? digest?⟩

/- A reference as it is written. -/
def chars (n : ImageName) : List Char :=
  (match n.repository? with
    | some r => r.toList ++ ['/']
    | none => []) ++
  n.image.toList ++
  (match n.tag? with
    | some t => ':' :: t.toList
    | none => []) ++
  (match n.digest? with
    | some d => '@' :: d.toList
    | none => [])

/- A reference as text. -/
def text (n : ImageName) : String :=
  String.ofList n.chars

def hasDigest (n : ImageName) : Bool :=
  n.digest?.isSome

/- The reference with another repository; the empty one removes it. -/
def withRepository
    (n : ImageName)
    (repository? : Option String) : ImageName :=
  { n with repository? := given? repository? }

/- The reference with another image. -/
def withImage (n : ImageName) (image : String) : ImageName :=
  { n with image := image }

/- The reference with another tag; the empty one removes it. -/
def withTag (n : ImageName) (tag? : Option String) : ImageName :=
  { n with tag? := given? tag? }

end ImageName

end ManifestRecipes
