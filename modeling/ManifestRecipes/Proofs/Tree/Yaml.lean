import ManifestRecipes.Proofs.Binary64.Notation
import ManifestRecipes.Proofs.Document
import ManifestRecipes.Proofs.Patch
import ManifestRecipes.Proofs.Yaml.Value

/-
  Documents that are written and read again.

  Writing a tree and reading the value again keeps its shape
  and the order of its keys, and a scalar becomes what is read
  from its own value.  A scalar that was read from a value is
  kept, whatever its kind, unless it is a number that is not
  finite: the texts of those are no numerals, and they come
  back as strings.

  Key definitions include:
    * `Scalar.IsNonFinite`
    * `Scalar.settled`
    * `Patch.ofScalars`

  Main declarations:
    * `Scalar.reread_ofYaml`
    * `Tree.ofYaml_toYaml`
    * `Tree.reread_of_readYaml`
    * `Tree.reread_ofYaml_iff`
-/

namespace ManifestRecipes

------------------------------------------------------------
-- Words
------------------------------------------------------------

namespace Digits

theorem readSigned64?_writeInt (i : Int) :
    readSigned64? (writeInt i) =
      if inSigned 64 i then some i else none := by
  rw [readSigned64?, readInt?_writeInt]
  rfl

/-
  A 64-bit integer that is not of the signed word is read back
  from the unsigned one.
-/
theorem readUnsigned64?_writeInt
    {i : Int}
    (hWord : Yaml.Value.isWord64 i = true)
    (hUnsigned : ¬ inSigned 64 i = true) :
    ∃ n : Nat,
      readUnsigned64? (writeInt i) = some n ∧ (n : Int) = i := by
  simp only [Yaml.Value.isWord64, inSigned, Nat.pow_eq,
    Bool.and_eq_true, decide_eq_true_eq] at hWord hUnsigned
  push_cast at hWord hUnsigned
  have hBound : i.natAbs < Nat.pow 2 64 := by
    rw [Nat.pow_eq]
    omega
  refine ⟨i.natAbs, ?_, by omega⟩
  rw [writeInt, if_neg (by omega)]
  exact readUnsigned64?_write hBound

end Digits

------------------------------------------------------------
-- Scalars
------------------------------------------------------------

namespace Scalar

/- Numbers that are not finite, as they are written. -/
def IsNonFinite (s : Scalar) : Prop :=
  s.kind = .float ∧ s.text ∈ [".nan", ".inf", "-.inf"]

instance (s : Scalar) : Decidable s.IsNonFinite := by
  unfold IsNonFinite
  infer_instance

/- A number that is not finite is settled as a string. -/
def settled (s : Scalar) : Scalar :=
  if s.IsNonFinite then string s.text else s

/- A scalar that is written and read again. -/
def reread (s : Scalar) : Scalar :=
  ofYaml s.toYaml

theorem settled_eq_self_iff {s : Scalar} :
    s.settled = s ↔ ¬ s.IsNonFinite := by
  unfold settled
  split_ifs with hNonFinite
  · constructor
    · intro hSame
      have hKind := hNonFinite.1
      rw [← hSame] at hKind
      cases hKind
    · exact fun hFinite => absurd hNonFinite hFinite
  · simp [hNonFinite]

/- The text of a finite number is not that of another. -/
theorem not_isNonFinite_finite
    (negative : Bool)
    (r : Fin Binary64.rankLimit) :
    ¬ (ofYaml (.float (.finite negative r))).IsNonFinite := by
  rintro ⟨_, hText⟩
  have hRead :=
    Yaml.numberNotation.read?_render_finite negative r
  have hAbsent :
      ∀ text ∈ [".nan", ".inf", "-.inf"],
        Binary64.read? text.toList = none := by
    decide
  cases (hAbsent _ hText).symm.trans hRead

/- A 64-bit integer is kept. -/
theorem reread_int
    {i : Int}
    (hWord : Yaml.Value.isWord64 i = true) :
    (ofYaml (.int i)).reread = ofYaml (.int i) := by
  have hValue : toYaml (ofYaml (.int i)) = .int i := by
    simp only [toYaml, ofYaml, Digits.textInt, String.toList_ofList,
      Digits.readSigned64?_writeInt]
    by_cases hSigned : Digits.inSigned 64 i = true
    · rw [if_pos hSigned]
    · obtain ⟨n, hRead, hSame⟩ :=
        Digits.readUnsigned64?_writeInt hWord hSigned
      rw [if_neg hSigned]
      simp only [hRead, hSame]
  rw [reread, hValue]

/- A finite number is kept. -/
theorem reread_finite
    (negative : Bool)
    (r : Fin Binary64.rankLimit) :
    (ofYaml (.float (.finite negative r))).reread =
      ofYaml (.float (.finite negative r)) := by
  have hRead :=
    Yaml.numberNotation.read?_render_finite negative r
  have hValue :
      toYaml (ofYaml (.float (.finite negative r))) =
        .float (.finite negative r) := by
    simp only [toYaml, ofYaml, hRead]
  rw [reread, hValue]

/- Writing and reading again settles a scalar that was read. -/
theorem reread_ofYaml
    {v : Yaml.Value}
    (hWords : v.WordSized) :
    (ofYaml v).reread = (ofYaml v).settled := by
  cases hWords with
  | null => rfl
  | bool b => cases b <;> decide
  | int hWord =>
      rw [reread_int hWord, settled, if_neg]
      rintro ⟨hKind, _⟩
      cases hKind
  | float f =>
      cases f with
      | nan => decide
      | infinite negative => cases negative <;> decide
      | finite negative r =>
          rw [reread_finite, settled,
            if_neg (not_isNonFinite_finite negative r)]
  | string s => rfl
  | sequence hItems => rfl
  | mapping hEntries => rfl
  | tagged tag hValue => rfl

end Scalar

------------------------------------------------------------
-- Trees
------------------------------------------------------------

/- The patch that changes all scalars alike and adds nothing. -/
def Patch.ofScalars (change : Scalar → Scalar) : Patch :=
  ⟨fun _ => change, fun _ _ => []⟩

@[simp] theorem Patch.ofScalars_under
    (change : Scalar → Scalar)
    (p : Path) :
    (ofScalars change).under p = ofScalars change := by
  rfl

namespace Tree

/- The value of a scalar is read as a scalar. -/
theorem ofYaml_toYaml_scalar (s : Scalar) :
    ofYaml s.toYaml = .scalar s.reread := by
  rcases s with ⟨text, kind⟩
  unfold Scalar.reread Scalar.toYaml
  cases kind with
  | null => rfl
  | string => rfl
  | bool =>
      simp only
      split_ifs <;> rfl
  | int =>
      simp only
      cases Digits.readSigned64? text.toList with
      | some i => rfl
      | none => cases Digits.readUnsigned64? text.toList <;> rfl
  | float =>
      simp only
      cases Binary64.read? text.toList <;> rfl

theorem itemsOfYaml_itemsToYaml
    {xs : List Tree}
    (hItems : ∀ x ∈ xs,
      ofYaml x.toYaml = x.patched (.ofScalars Scalar.reread))
    (i : Nat) :
    itemsOfYaml (itemsToYaml xs) =
      patchedItems (.ofScalars Scalar.reread) i xs := by
  induction xs generalizing i with
  | nil => rfl
  | cons x xs ih =>
      rw [List.forall_mem_cons] at hItems
      rw [itemsToYaml, itemsOfYaml, patchedItems,
        Patch.ofScalars_under, hItems.1, ih hItems.2 (i + 1)]

/- Entries whose trees are read again are patched entries. -/
theorem entriesOfYaml_entriesToYaml
    {es : Mapping Tree}
    (hValues : ∀ k v, (k, v) ∈ es →
      ofYaml v.toYaml = v.patched (.ofScalars Scalar.reread))
    (hKeys : (Mapping.keys es).Nodup) :
    entriesOfYaml (entriesToYaml es) =
      patchedEntries (.ofScalars Scalar.reread) es := by
  induction es with
  | nil => rfl
  | cons e es ih =>
      rcases e with ⟨k, v⟩
      rw [Mapping.keys_cons, List.nodup_cons] at hKeys
      have hLater := ih
        (fun l w hMember =>
          hValues l w (List.mem_cons_of_mem _ hMember))
        hKeys.2
      rw [entriesToYaml, entriesOfYaml, keyText, patchedEntries,
        Patch.ofScalars_under, patchedEntries_without hKeys.1,
        hValues k v List.mem_cons_self, hLater]

/-
  A tree that is written and read again keeps its shape and
  its keys; its scalars are read again.
-/
theorem ofYaml_toYaml
    {t : Tree}
    (hKeys : t.UniqueKeys) :
    ofYaml t.toYaml = t.patched (.ofScalars Scalar.reread) := by
  induction t using Tree.induction with
  | scalar s =>
      rw [toYaml, ofYaml_toYaml_scalar, patched]
      rfl
  | sequence xs ih =>
      rw [uniqueKeys_sequence_iff] at hKeys
      rw [toYaml, ofYaml, patched, itemsOfYaml_itemsToYaml]
      exact fun x hMember => ih x hMember (hKeys x hMember)
  | mapping es ih =>
      rw [uniqueKeys_mapping_iff] at hKeys
      have hEntries := entriesOfYaml_entriesToYaml
        (fun k v hMember => ih k v hMember (hKeys.2 k v hMember))
        hKeys.1
      have hPatched :
          (Mapping.keys (patchedEntries
            (.ofScalars Scalar.reread) es)).Nodup := by
        rw [keys_patchedEntries]
        exact hKeys.1
      rw [toYaml, ofYaml, patched, hEntries,
        Mapping.ofList_eq_self hPatched]
      exact congrArg Tree.mapping (List.append_nil _).symm

------------------------------------------------------------
-- Trees of Values
------------------------------------------------------------

theorem itemsOfYaml_eq_map (xs : List Yaml.Value) :
    itemsOfYaml xs = xs.map ofYaml := by
  induction xs with
  | nil => rfl
  | cons x xs ih => rw [itemsOfYaml, List.map_cons, ih]

theorem entriesOfYaml_eq_map (es : List (Yaml.Value × Yaml.Value)) :
    entriesOfYaml es =
      es.map fun e => (keyText e.1, ofYaml e.2) := by
  induction es with
  | nil => rfl
  | cons e es ih => rw [entriesOfYaml, List.map_cons, ih]

/- A scalar holds nothing but itself. -/
theorem eq_of_lookup?_scalar
    {s s' : Scalar}
    {p : Path}
    (hNode : (Tree.scalar s).lookup? p = some (.scalar s')) :
    s' = s := by
  cases p with
  | nil =>
      rw [lookup?_nil, Option.some.injEq] at hNode
      exact (Tree.scalar.inj hNode).symm
  | cons e p =>
      rw [lookup?_cons] at hNode
      cases e <;> cases hNode

/- The scalars of a tree that is read are read from values. -/
theorem exists_of_lookup?_ofYaml
    {v : Yaml.Value}
    {p : Path}
    {s : Scalar}
    (hWords : v.WordSized)
    (hNode : (ofYaml v).lookup? p = some (.scalar s)) :
    ∃ w : Yaml.Value, w.WordSized ∧ s = Scalar.ofYaml w := by
  induction hWords generalizing p with
  | null => exact ⟨.null, .null, eq_of_lookup?_scalar hNode⟩
  | bool b => exact ⟨.bool b, .bool b, eq_of_lookup?_scalar hNode⟩
  | int hWord =>
      exact ⟨_, .int hWord, eq_of_lookup?_scalar hNode⟩
  | float f =>
      exact ⟨.float f, .float f, eq_of_lookup?_scalar hNode⟩
  | string text =>
      exact ⟨.string text, .string text,
        eq_of_lookup?_scalar hNode⟩
  | tagged tag hValue ih => exact ih hNode
  | sequence hItems ih =>
      rw [ofYaml, itemsOfYaml_eq_map] at hNode
      cases p with
      | nil => cases hNode
      | cons e p =>
          rw [lookup?_cons, Option.bind_eq_some_iff] at hNode
          obtain ⟨c, hChild, hNode⟩ := hNode
          rcases child?_eq_some_iff.mp hChild with
            ⟨xs, i, hShape, rfl, hItem⟩ | ⟨es, k, hShape, _⟩
          · cases hShape
            obtain ⟨v, hMember, rfl⟩ :=
              List.mem_map.mp (List.mem_of_getElem? hItem)
            exact ih v hMember hNode
          · cases hShape
  | mapping hEntries ih =>
      rw [ofYaml, entriesOfYaml_eq_map] at hNode
      cases p with
      | nil => cases hNode
      | cons e p =>
          rw [lookup?_cons, Option.bind_eq_some_iff] at hNode
          obtain ⟨c, hChild, hNode⟩ := hNode
          rcases child?_eq_some_iff.mp hChild with
            ⟨xs, i, hShape, _⟩ | ⟨es, k, hShape, rfl, hEntry⟩
          · cases hShape
          · cases hShape
            obtain ⟨⟨key, v⟩, hMember, hSame⟩ :=
              List.mem_map.mp (Mapping.mem_of_mem_ofList
                (Mapping.mem_of_get?_eq_some hEntry))
            cases hSame
            exact ih key v hMember hNode

------------------------------------------------------------
-- What Is Kept
------------------------------------------------------------

/- A document that is written and read again is settled. -/
theorem reread_eq_settled
    {v : Yaml.Value}
    (hWords : v.WordSized) :
    ofYaml (ofYaml v).toYaml =
      (ofYaml v).patched (.ofScalars Scalar.settled) := by
  rw [ofYaml_toYaml (uniqueKeys_ofYaml v)]
  apply patched_congr
  refine ⟨?_, fun _ _ _ => rfl⟩
  intro p s hNode
  obtain ⟨w, hSized, rfl⟩ := exists_of_lookup?_ofYaml hWords hNode
  exact Scalar.reread_ofYaml hSized

/- A tree is settled when all its numbers are finite. -/
theorem patched_settled_eq_self_iff {t : Tree} :
    t.patched (.ofScalars Scalar.settled) = t ↔
      ∀ p s, t.lookup? p = some (.scalar s) →
        ¬ s.IsNonFinite := by
  constructor
  · intro hSame p s hNode
    have hSettled :=
      lookup?_patched (.ofScalars Scalar.settled) hNode
    rw [hSame, hNode, Option.some.injEq] at hSettled
    exact Scalar.settled_eq_self_iff.mp
      (Tree.scalar.inj hSettled).symm
  · intro hFinite
    apply patched_eq_self
    refine ⟨?_, fun _ _ _ => rfl⟩
    intro p s hNode
    exact Scalar.settled_eq_self_iff.mpr (hFinite p s hNode)

/-
  A text that is read, written and read again gives the same
  tree exactly when all its numbers are finite.
-/
theorem reread_of_readYaml
    {text : String}
    {t : Tree}
    (hRead : readYaml text = .ok t) :
    ofYaml t.toYaml = t ↔
      ∀ p s, t.lookup? p = some (.scalar s) →
        ¬ s.IsNonFinite := by
  unfold readYaml at hRead
  cases hValue : Yaml.Value.onlyOfText text with
  | error fault =>
      rw [hValue] at hRead
      cases hRead
  | ok v =>
      rw [hValue] at hRead
      cases hRead
      rw [reread_eq_settled
        (Yaml.Value.wordSized_of_onlyOfText hValue)]
      exact patched_settled_eq_self_iff

/-
  A document that is written and read again keeps its shape,
  the order of its keys and all scalars but the numbers that
  are not finite, which become strings of the same text.  It
  is the same document exactly when it holds none of them.
-/
theorem reread_ofYaml_iff
    {v : Yaml.Value}
    (hWords : v.WordSized) :
    ofYaml (ofYaml v).toYaml =
        (ofYaml v).patched (.ofScalars Scalar.settled) ∧
      (ofYaml (ofYaml v).toYaml = ofYaml v ↔
        ∀ p s, (ofYaml v).lookup? p = some (.scalar s) →
          ¬ s.IsNonFinite) := by
  have hReread := reread_eq_settled hWords
  refine ⟨hReread, ?_⟩
  rw [hReread]
  exact patched_settled_eq_self_iff

/- A number that is not finite comes back as a string. -/
theorem reread_ofYaml_iff_ratio :
    (Yaml.Value.mapping
        [(.string "replicas", .int 3),
          (.string "ratio", .float .nan)]).WordSized ∧
      ofYaml (ofYaml (.mapping
          [(.string "replicas", .int 3),
            (.string "ratio", .float .nan)])).toYaml =
        .mapping
          [("replicas", .scalar ⟨"3", .int⟩),
            ("ratio", .scalar ⟨".nan", .string⟩)] := by
  have hWords :
      (Yaml.Value.mapping
        [(.string "replicas", .int 3),
          (.string "ratio", .float .nan)]).WordSized := by
    refine .mapping ?_
    intro k v hMember
    simp only [List.mem_cons, Prod.mk.injEq, List.not_mem_nil,
      or_false] at hMember
    rcases hMember with ⟨_, rfl⟩ | ⟨_, rfl⟩
    · exact .int (by decide)
    · exact .float .nan
  refine ⟨hWords, ?_⟩
  rw [(reread_ofYaml_iff hWords).1]
  rfl

/- Not every document is the same when it is read again. -/
theorem reread_nan_ne :
    (Yaml.Value.mapping [(.string "a", .float .nan)]).WordSized ∧
      ofYaml (ofYaml
          (.mapping [(.string "a", .float .nan)])).toYaml ≠
        ofYaml (.mapping [(.string "a", .float .nan)]) := by
  constructor
  · refine .mapping ?_
    intro k v hMember
    cases List.mem_singleton.mp hMember
    exact .float .nan
  · intro hSame
    change
      Tree.mapping [("a", .scalar ⟨".nan", .string⟩)] =
        .mapping [("a", .scalar ⟨".nan", .float⟩)] at hSame
    cases hSame

end Tree

end ManifestRecipes
