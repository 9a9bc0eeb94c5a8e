import ManifestRecipes.Proofs.Selection

/-
  The paths that segments spell.

  Which nodes an expression selects is a matter of their
  paths alone.  Its segments spell paths, and in every tree
  they lead from the root to the nodes whose paths they
  spell.

  Key definitions include:
    * `Expression.Spells`
    * `Expression.Rooted`

  Main declarations:
    * `Expression.reaches_iff_spells`
    * `Expression.mem_select_iff`
    * `Expression.mem_select_path_iff`
-/

namespace ManifestRecipes

namespace Expression

------------------------------------------------------------
-- Spelling
------------------------------------------------------------

/- The steps of a path are those that segments stand for. -/
inductive Spells : List Segment → Path → Prop where
  /- No segment stands for no step. -/
  | nil :
      Spells [] []
  /- The root takes no step. -/
  | root {ss : List Segment} {p : Path}
      (hRest : Spells ss p) :
      Spells (.root :: ss) p
  /- A name takes its own step. -/
  | field {ss : List Segment} {p : Path} (name : String)
      (hRest : Spells ss p) :
      Spells (.field name :: ss) (.field name :: p)
  /- All items stand for a step to any of them. -/
  | everyItem {ss : List Segment} {p : Path} (i : Nat)
      (hRest : Spells ss p) :
      Spells (.everyItem :: ss) (.index i :: p)
  /- All values stand for a step to any of them. -/
  | everyField {ss : List Segment} {p : Path} (name : String)
      (hRest : Spells ss p) :
      Spells (.everyField :: ss) (.field name :: p)
  /- An index takes its own step. -/
  | index {ss : List Segment} {p : Path} (i : Nat)
      (hRest : Spells ss p) :
      Spells (.index i :: ss) (.index i :: p)
  /- A descent may take no further step. -/
  | arrived {ss : List Segment} {p : Path}
      (hRest : Spells ss p) :
      Spells (.descent :: ss) p
  /- A descent may take any step and go on. -/
  | descend {ss : List Segment} {p : Path} (e : Path.Element)
      (hRest : Spells (.descent :: ss) p) :
      Spells (.descent :: ss) (e :: p)

variable {ss : List Segment}

/- A descent takes any number of steps. -/
theorem Spells.descent
    {p : Path}
    (steps : Path)
    (hRest : Spells ss p) :
    Spells (.descent :: ss) (steps ++ p) := by
  induction steps with
  | nil => exact .arrived hRest
  | cons e steps ih => exact .descend e ih

/- Without a descent every segment but the root takes one step. -/
theorem Spells.length_eq
    {p : Path}
    (hSpells : Spells ss p)
    (hLevel : Segment.descent ∉ ss) :
    p.length = ss.countP (· ≠ .root) := by
  induction hSpells with
  | nil => rfl
  | root _ ih =>
      rw [List.mem_cons, not_or] at hLevel
      simp [ih hLevel.2]
  | field _ _ ih | everyItem _ _ ih | everyField _ _ ih
  | index _ _ ih =>
      rw [List.mem_cons, not_or] at hLevel
      simp [ih hLevel.2]
  | arrived | descend => exact absurd List.mem_cons_self hLevel

------------------------------------------------------------
-- Selection by Paths
------------------------------------------------------------

/-
  A segment other than the root leads down by the steps that
  it stands for.
-/
theorem spells_of_leads
    {s : Segment}
    {c d : Cursor}
    {p : Path}
    (hRootless : s ≠ .root)
    (hLeads : s.Leads c d)
    (hRest : Spells ss p) :
    c.Below d ∧
      ∃ steps, d.path = c.path ++ steps ∧
        Spells (s :: ss) (steps ++ p) := by
  cases hLeads with
  | root => exact absurd rfl hRootless
  | field hNode hEntry =>
      exact ⟨.single (.entry hNode hEntry), _,
        Cursor.descend_path .., .field _ hRest⟩
  | descent hBelow =>
      rcases hBelow.extends_keys with ⟨steps, _, hPath, _⟩
      exact ⟨hBelow, steps, hPath, .descent steps hRest⟩
  | everyItem hNode hItem =>
      exact ⟨.single (.item hNode hItem), _,
        Cursor.descend_path .., .everyItem _ hRest⟩
  | everyField hNode hEntry =>
      exact ⟨.single (.entry hNode hEntry), _,
        Cursor.descend_path .., .everyField _ hRest⟩
  | index hNode hItem =>
      exact ⟨.single (.item hNode hItem), _,
        Cursor.descend_path .., .index _ hRest⟩

/- A path that goes on leads to a child first. -/
theorem exists_child_of_path
    {c d : Cursor}
    {e : Path.Element}
    {p : Path}
    (hBelow : c.Below d)
    (hPath : d.path = c.path ++ e :: p) :
    ∃ b, c.Child b ∧ b.Below d ∧
      b.path = c.path ++ [e] ∧ d.path = b.path ++ p := by
  rcases Cursor.Below.eq_or_child.mp hBelow with
    rfl | ⟨b, hChild, hRest⟩
  · simp at hPath
  · rcases hChild.extends_keys with ⟨f, _, hStep, _⟩
    rcases hRest.extends_keys with ⟨q, _, hSteps, _⟩
    have hSame : f :: q = e :: p := by
      rw [hSteps, hStep, List.append_assoc,
        List.append_cancel_left_eq] at hPath
      exact hPath
    cases hSame
    exact ⟨b, hChild, hRest, hStep, hSteps⟩

/- No other node below has the path of the node itself. -/
theorem eq_of_path_eq
    {c d : Cursor}
    (hBelow : c.Below d)
    (hPath : d.path = c.path) :
    d = c := by
  rcases Cursor.Below.eq_or_child.mp hBelow with
    hSame | ⟨b, hChild, hRest⟩
  · exact hSame
  · rcases hChild.extends_keys with ⟨e, _, hStep, _⟩
    rcases hRest.extends_keys with ⟨p, _, hSteps, _⟩
    simp [hSteps, hStep] at hPath

/- A step by a name is taken by the name and by all values. -/
theorem leads_of_field_step
    {c d : Cursor}
    {name : String}
    (hChild : c.Child d)
    (hStep : d.path = c.path ++ [.field name]) :
    (Segment.field name).Leads c d ∧
      Segment.everyField.Leads c d := by
  cases hChild with
  | item hNode hItem => simp at hStep
  | entry hNode hEntry =>
      simp only [Cursor.descend_path, List.append_cancel_left_eq,
        List.cons.injEq, Path.Element.field.injEq, and_true]
        at hStep
      subst hStep
      exact ⟨.field hNode hEntry, .everyField hNode hEntry⟩

/- A step by an index is taken by the index and by all items. -/
theorem leads_of_index_step
    {c d : Cursor}
    {i : Nat}
    (hChild : c.Child d)
    (hStep : d.path = c.path ++ [.index i]) :
    (Segment.index i).Leads c d ∧
      Segment.everyItem.Leads c d := by
  cases hChild with
  | item hNode hItem =>
      simp only [Cursor.descend_path, List.append_cancel_left_eq,
        List.cons.injEq, Path.Element.index.injEq, and_true]
        at hStep
      subst hStep
      exact ⟨.index hNode hItem, .everyItem hNode hItem⟩
  | entry hNode hEntry => simp at hStep

/-
  Segments without the root lead to the nodes below that the
  paths they spell lead to.
-/
theorem reaches_iff_spells
    {c d : Cursor}
    (hRootless : Segment.root ∉ ss) :
    Reaches ss c d ↔
      c.Below d ∧ ∃ p, d.path = c.path ++ p ∧ Spells ss p := by
  constructor
  · intro hReaches
    induction hReaches with
    | stay c =>
        exact ⟨.refl, [], (List.append_nil _).symm, .nil⟩
    | step hFirst hRest ih =>
        rw [List.mem_cons, not_or] at hRootless
        rcases ih hRootless.2 with ⟨hBelow, p, hPath, hSpells⟩
        rcases spells_of_leads (Ne.symm hRootless.1) hFirst
          hSpells with ⟨hFirstBelow, steps, hSteps, hSpells⟩
        refine ⟨hFirstBelow.trans hBelow, steps ++ p, ?_, hSpells⟩
        rw [hPath, hSteps, List.append_assoc]
  · rintro ⟨hBelow, p, hPath, hSpells⟩
    induction hSpells generalizing c with
    | nil =>
        rw [eq_of_path_eq hBelow (by simpa using hPath)]
        exact .stay c
    | root => exact absurd List.mem_cons_self hRootless
    | field name _ ih =>
        rw [List.mem_cons, not_or] at hRootless
        rcases exists_child_of_path hBelow hPath with
          ⟨b, hChild, hRest, hStep, hSteps⟩
        exact .step (leads_of_field_step hChild hStep).1
          (ih hRootless.2 hRest hSteps)
    | everyItem i _ ih =>
        rw [List.mem_cons, not_or] at hRootless
        rcases exists_child_of_path hBelow hPath with
          ⟨b, hChild, hRest, hStep, hSteps⟩
        exact .step (leads_of_index_step hChild hStep).2
          (ih hRootless.2 hRest hSteps)
    | everyField name _ ih =>
        rw [List.mem_cons, not_or] at hRootless
        rcases exists_child_of_path hBelow hPath with
          ⟨b, hChild, hRest, hStep, hSteps⟩
        exact .step (leads_of_field_step hChild hStep).2
          (ih hRootless.2 hRest hSteps)
    | index i _ ih =>
        rw [List.mem_cons, not_or] at hRootless
        rcases exists_child_of_path hBelow hPath with
          ⟨b, hChild, hRest, hStep, hSteps⟩
        exact .step (leads_of_index_step hChild hStep).1
          (ih hRootless.2 hRest hSteps)
    | arrived _ ih =>
        rw [List.mem_cons, not_or] at hRootless
        exact .step (.descent .refl) (ih hRootless.2 hBelow hPath)
    | descend e _ ih =>
        rcases exists_child_of_path hBelow hPath with
          ⟨b, hChild, hRest, _, hSteps⟩
        cases ih hRootless hRest hSteps with
        | step hFirst hReaches =>
            cases hFirst with
            | descent hFurther =>
                exact .step (.descent (hFurther.head hChild))
                  hReaches

/- The root is the first of the segments and no other. -/
def Rooted (e : Expression) : Prop :=
  ∃ ss, e.segments = .root :: ss ∧ Segment.root ∉ ss

/-
  The selected nodes are those whose paths the segments spell.
-/
theorem mem_select_iff
    {e : Expression}
    {t : Tree}
    {c : Cursor}
    (hRooted : e.Rooted)
    (hKeys : t.UniqueKeys) :
    c ∈ e.select t ↔ c.IsOf t ∧ Spells e.segments c.path := by
  rcases hRooted with ⟨ss, hSegments, hRootless⟩
  have hRoot : (Cursor.atRoot t).IsOf t := .refl
  rw [select, mem_selectFrom_iff hKeys hRoot, hSegments]
  constructor
  · intro hReaches
    cases hReaches with
    | step hFirst hRest =>
        cases hFirst
        rcases (reaches_iff_spells hRootless).mp hRest with
          ⟨hBelow, p, hPath, hSpells⟩
        have hSame : c.path = p := hPath
        exact ⟨hBelow, .root (hSame ▸ hSpells)⟩
  · intro hSpelled
    cases hSpelled.2 with
    | root hSpells =>
        exact .step .root ((reaches_iff_spells hRootless).mpr
          ⟨hSpelled.1, c.path, rfl, hSpells⟩)

/-
  The selected paths are those that lead to a node and that
  the segments spell.
-/
theorem mem_select_path_iff
    {e : Expression}
    {t : Tree}
    {p : Path}
    (hRooted : e.Rooted)
    (hKeys : t.UniqueKeys) :
    p ∈ (e.select t).map Cursor.path ↔
      (t.lookup? p).isSome ∧ Spells e.segments p := by
  rw [List.mem_map]
  constructor
  · rintro ⟨c, hMember, rfl⟩
    rcases (mem_select_iff hRooted hKeys).mp hMember with
      ⟨hOf, hSpells⟩
    refine ⟨?_, hSpells⟩
    rw [hOf.lookup?_path hKeys]
    rfl
  · rintro ⟨hNode, hSpells⟩
    rcases Option.isSome_iff_exists.mp hNode with ⟨n, hNode⟩
    rcases Cursor.exists_isOf_of_lookup? hNode with
      ⟨c, hOf, rfl, _⟩
    exact ⟨c, (mem_select_iff hRooted hKeys).mpr ⟨hOf, hSpells⟩,
      rfl⟩

end Expression

end ManifestRecipes
