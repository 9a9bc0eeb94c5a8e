import ManifestRecipes.Proofs.Expression.Canonical

/-
  Locations that are queried back.

  A path is written in its own way, with fewer bare names than
  an expression has.  Its text is nevertheless an expression:
  it stands for the root and one segment for each step, which
  spell no path but the one that was written.

  Key definitions include:
    * `Path.segments`
    * `Tree.Indexable`

  Main declarations:
    * `Path.continues_chars`
    * `Expression.read_path_text`
    * `Expression.spells_segments_iff`
    * `Cursor.select_path_text`
-/

namespace ManifestRecipes

------------------------------------------------------------
-- Segments of Paths
------------------------------------------------------------

namespace Path

/- The segment that takes one step. -/
def Element.segment : Element → Segment
  | .field name => .field name
  | .index i => .index i

/- The segments that lead from the root along a path. -/
def segments (p : Path) : List Segment :=
  .root :: p.map Element.segment

/- A character of a plain name is one of a bare name. -/
theorem isNameChar_of_isPlainChar
    {c : Char}
    (hPlain : isPlainChar c = true) :
    Segment.isNameChar c = true := by
  unfold isPlainChar at hPlain
  unfold Segment.isNameChar
  rw [Bool.or_eq_true, Bool.or_eq_true] at hPlain
  rcases hPlain with hClass | hMark
  · have hAscii : c.toNat < 128 :=
      Nat.lt_of_le_of_lt
        (Unicode.bounds_of_isAlpha_or_isDigit hClass).2 (by decide)
    have hLetter : Unicode.isAlphanumeric c = true := by
      simpa [Unicode.isAlphanumeric, Unicode.isAlphabetic,
        Unicode.isNumeric, hAscii] using hClass
    rw [hLetter, Bool.true_or, Bool.true_or]
  · rw [Bool.or_assoc, hMark, Bool.or_true]

theorem isBareName_of_isPlainName
    {cs : List Char}
    (hPlain : isPlainName cs = true) :
    Segment.isBareName cs = true := by
  unfold isPlainName at hPlain
  unfold Segment.isBareName
  rw [Bool.and_eq_true, List.all_eq_true] at hPlain ⊢
  exact ⟨hPlain.1, fun c hMember =>
    isNameChar_of_isPlainChar (hPlain.2 c hMember)⟩

/- A written step is read as its segment. -/
theorem Element.readsAs_chars
    {e : Element}
    (hBound : ∀ i, e = .index i → i < Nat.pow 2 64) :
    Expression.ReadsAs e.chars [e.segment] := by
  cases e with
  | index i =>
      exact Expression.readsAs_bracket
        (Expression.bracket_write (hBound i rfl))
  | field name =>
      by_cases hPlain : isPlainName name.toList = true
      · have hDotted := Expression.readsAs_dotted
          (isBareName_of_isPlainName hPlain)
        rw [String.ofList_toList] at hDotted
        simp only [Element.chars, if_pos hPlain]
        exact hDotted
      · have hQuoted := Expression.bracket_quoted name.toList
        rw [String.ofList_toList] at hQuoted
        simp only [Element.chars, if_neg hPlain]
        exact Expression.readsAs_bracket hQuoted

/- The written steps of a path are read to their end. -/
theorem continues_chars
    {p : Path}
    (hBound : ∀ i, .index i ∈ p → i < Nat.pow 2 64) :
    Expression.Continues (p.flatMap Element.chars)
      (p.map Element.segment) := by
  induction p with
  | nil => exact Expression.continues_nil
  | cons e p ih =>
      have hStep : Expression.ReadsAs e.chars [e.segment] := by
        apply Element.readsAs_chars
        intro i hIndex
        exact hBound i (hIndex ▸ List.mem_cons_self)
      rw [List.flatMap_cons, List.map_cons]
      exact (ih fun i hMember =>
        hBound i (List.mem_cons_of_mem e hMember)).cons hStep

end Path

------------------------------------------------------------
-- Reading and Spelling
------------------------------------------------------------

namespace Expression

variable {p q : Path}

/- The text of a path is read as the expression of its segments. -/
theorem read_path_text
    (hBound : ∀ i, .index i ∈ p → i < Nat.pow 2 64) :
    read p.text = .ok ⟨p.text, p.segments⟩ := by
  apply read_ofList
  exact segmentsOf_root (Path.continues_chars hBound)

/- The segments of steps spell these steps and nothing else. -/
theorem spells_map_segment_iff :
    Spells (p.map Path.Element.segment) q ↔ q = p := by
  constructor
  · intro hSpells
    induction p generalizing q with
    | nil =>
        cases hSpells
        rfl
    | cons e p ih =>
        cases e with
        | field name =>
            cases hSpells with
            | field _ hRest => rw [ih hRest]
        | index i =>
            cases hSpells with
            | index _ hRest => rw [ih hRest]
  · intro hSame
    subst hSame
    induction q with
    | nil => exact .nil
    | cons e q ih =>
        cases e with
        | field name => exact .field name ih
        | index i => exact .index i ih

/- The segments of a path spell the path and nothing else. -/
theorem spells_segments_iff : Spells p.segments q ↔ q = p := by
  rw [← spells_map_segment_iff]
  constructor
  · intro hSpells
    cases hSpells with
    | root hRest => exact hRest
  · exact .root

theorem rooted_segments (source : String) (p : Path) :
    Rooted ⟨source, p.segments⟩ := by
  refine ⟨_, rfl, ?_⟩
  intro hMember
  rcases List.mem_map.mp hMember with ⟨e, _, hRoot⟩
  cases e <;> cases hRoot

end Expression

------------------------------------------------------------
-- Nodes by Their Locations
------------------------------------------------------------

/-
  The items of every sequence of a tree are counted by 64-bit
  numbers.
-/
def Tree.Indexable (t : Tree) : Prop :=
  ∀ c ∈ (Cursor.atRoot t).descendants,
    ∀ xs ∈ c.node.items?, xs.length ≤ Nat.pow 2 64

instance (t : Tree) : Decidable t.Indexable :=
  inferInstanceAs (Decidable (∀ c ∈ _, ∀ xs ∈ _, _))

namespace Cursor

variable {t : Tree} {c : Cursor}

/- The indices on the way to a node are then 64-bit numbers. -/
theorem IsOf.index_lt
    (hOf : c.IsOf t)
    (hIndexable : t.Indexable)
    {i : Nat}
    (hMember : .index i ∈ c.path) :
    i < Nat.pow 2 64 := by
  induction hOf with
  | refl => cases hMember
  | @tail b c hOf hChild ih =>
      cases hChild with
      | @item xs j x hNode hItem =>
          rw [descend_path, List.mem_append,
            List.mem_singleton] at hMember
          rcases hMember with hBefore | hHere
          · exact ih hBefore
          · cases hHere
            have hLength : xs.length ≤ Nat.pow 2 64 := by
              apply hIndexable b (mem_descendants_iff.mpr hOf) xs
              rw [hNode]
              rfl
            have hInside :=
              (List.getElem?_eq_some_iff.mp hItem).1
            omega
      | entry hNode hEntry =>
          rw [descend_path, List.mem_append,
            List.mem_singleton] at hMember
          rcases hMember with hBefore | hHere
          · exact ih hBefore
          · cases hHere

/- The segments of its path select a node and no other. -/
theorem IsOf.select_segments
    (hOf : c.IsOf t)
    (hKeys : t.UniqueKeys)
    (source : String) :
    Expression.select ⟨source, c.path.segments⟩ t = [c] := by
  have hNodup :
      (Expression.select ⟨source, c.path.segments⟩ t).Nodup := by
    refine (Expression.selectFrom_pairwise _ _).imp ?_
    intro d e hLt hSame
    rw [hSame] at hLt
    exact lt_irrefl _ hLt
  apply List.perm_singleton.mp
  rw [List.perm_ext_iff_of_nodup hNodup (List.nodup_singleton c)]
  intro d
  rw [Expression.mem_select_iff
    (Expression.rooted_segments source c.path) hKeys,
    Expression.spells_segments_iff, List.mem_singleton]
  constructor
  · intro hSelected
    exact hSelected.1.eq_of_path_eq hOf hKeys hSelected.2
  · intro hSame
    subst hSame
    exact ⟨hOf, rfl⟩

/-
  A printed location is queried back.  The text of the path to
  a node is an expression which selects this node alone in its
  tree, so that no other node has the same text.
-/
theorem select_path_text
    (t : Tree)
    (c : Cursor)
    (hKeys : t.UniqueKeys)
    (hIndexable : t.Indexable)
    (hOf : c.IsOf t) :
    (∃ e, Expression.read c.path.text = .ok e ∧
      e.select t = [c]) ∧
    ∀ d : Cursor, d.IsOf t →
      d.path.text = c.path.text → d = c := by
  have hRead : ∀ d : Cursor, d.IsOf t →
      Expression.read d.path.text =
        .ok ⟨d.path.text, d.path.segments⟩ := by
    intro d hOther
    apply Expression.read_path_text
    intro i
    exact hOther.index_lt hIndexable
  refine ⟨⟨_, hRead c hOf, hOf.select_segments hKeys _⟩, ?_⟩
  intro d hOther hText
  have hSame := hRead d hOther
  rw [hText, hRead c hOf, Except.ok.injEq, Expression.mk.injEq]
    at hSame
  have hSelected := hOf.select_segments hKeys c.path.text
  rw [hSame.2, hOther.select_segments hKeys] at hSelected
  exact List.singleton_inj.mp hSelected

/-
  A node under a key with letters beyond ASCII, a quote and a
  backslash, in an item of a sequence under the empty key.
-/
theorem select_path_text_quoted :
    let item : Tree := .mapping [("ß", .null), ("é'\\.", .null)]
    let t : Tree := .mapping [("", .sequence [.null, item])]
    let c := (((atRoot t).descend
      (.sequence [.null, item]) (.field "") 0).descend
        item (.index 1) 1).descend .null (.field "é'\\.") 1
    t.UniqueKeys ∧ t.Indexable ∧ c.IsOf t ∧
    c.path.text = "$[''][1]['é\\'\\\\.']" ∧
    (∃ e, Expression.read c.path.text = .ok e ∧
      e.select t = [c]) ∧
    ∀ d : Cursor, d.IsOf t →
      d.path.text = c.path.text → d = c := by
  intro item t c
  have hKeys : t.UniqueKeys := by decide
  have hIndexable : t.Indexable := by decide
  have hOf : c.IsOf t := by
    apply IsOf.child _ (.entry rfl rfl)
    apply IsOf.child _ (.item rfl rfl)
    apply IsOf.child _ (.entry rfl rfl)
    exact Relation.ReflTransGen.refl
  have hText : c.path.text = "$[''][1]['é\\'\\\\.']" := by
    decide +kernel
  exact ⟨hKeys, hIndexable, hOf, hText,
    select_path_text t c hKeys hIndexable hOf⟩

end Cursor

end ManifestRecipes
