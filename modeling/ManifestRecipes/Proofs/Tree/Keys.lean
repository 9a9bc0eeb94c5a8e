import ManifestRecipes.Proofs.Tree.Yaml
import Mathlib.Data.List.Nodup

/-
  Mappings that are read without loss.

  Reading gives each key a text, and of two entries whose keys
  have the same text one is lost.  The text of a null, a truth
  value or a number tells which it is; only a string can have
  the text of another scalar.

  Key definitions include:
    * `Yaml.Value.IsSpelled`
    * `Tree.ofKeyText?`
    * `Tree.KeepsEntries`

  Main declarations:
    * `Tree.ofKeyText?_keyText`
    * `Tree.keepsEntries_iff_nodup`
    * `Tree.keepsEntries_iff_unspelled`
    * `Tree.keeps_entries_of_distinct_keys_iff`
-/

namespace ManifestRecipes

------------------------------------------------------------
-- Numerals
------------------------------------------------------------

namespace Yaml

/- A finite number is written with a point or an exponent. -/
theorem exists_mark_of_finite
    (negative : Bool)
    (r : Fin Binary64.rankLimit) :
    '.' ∈ (numberNotation.render (.finite negative r)).toList ∨
      'e' ∈ (numberNotation.render (.finite negative r)).toList := by
  have hPositional : ∀ digits e,
      '.' ∈ numberNotation.positionalText digits e := by
    intro digits e
    have hPoint : numberNotation.wholePoint = true := rfl
    unfold NumberNotation.positionalText
    simp only [hPoint, if_true]
    split_ifs <;> simp
  have hScientific : ∀ digits e,
      'e' ∈ numberNotation.scientificText digits e := by
    intro digits e
    unfold NumberNotation.scientificText
    simp
  have hDecimal : ∀ d : Decimal,
      '.' ∈ numberNotation.decimalText d ∨
        'e' ∈ numberNotation.decimalText d := by
    intro d
    unfold NumberNotation.decimalText
    simp only
    split_ifs
    · exact Or.inl (hPositional _ _)
    · exact Or.inr (hScientific _ _)
  unfold NumberNotation.render
  simp only [String.toList_ofList, List.mem_append]
  exact (hDecimal _).imp Or.inr Or.inr

/- It is not written as an integer. -/
theorem readInt?_render_finite
    (negative : Bool)
    (r : Fin Binary64.rankLimit) :
    Digits.readInt? 10
      (numberNotation.render (.finite negative r)).toList = none := by
  rcases exists_mark_of_finite negative r with hPoint | hExponent
  · exact Digits.readInt?_eq_none (by decide) (by decide) hPoint
  · exact Digits.readInt?_eq_none (by decide) (by decide) hExponent

end Yaml

------------------------------------------------------------
-- Texts of Keys
------------------------------------------------------------

/- Scalars that are no strings: null, truth values and numbers. -/
inductive Yaml.Value.IsSpelled : Yaml.Value → Prop where
  | null : IsSpelled .null
  | bool (b : Bool) : IsSpelled (.bool b)
  | int (i : Int) : IsSpelled (.int i)
  | float (f : Binary64) : IsSpelled (.float f)

namespace Tree

/- The scalar, other than a string, that the text of a key spells. -/
def ofKeyText? (text : String) : Option Yaml.Value :=
  if text = "null" then some .null
  else if text = "true" then some (.bool true)
  else if text = "false" then some (.bool false)
  else if text = ".nan" then some (.float .nan)
  else if text = ".inf" then some (.float (.infinite false))
  else if text = "-.inf" then some (.float (.infinite true))
  else
    match Digits.readInt? 10 text.toList with
    | some i => some (.int i)
    | none => (Binary64.read? text.toList).map .float

/- The text of a number is none of the words for other scalars. -/
theorem ofKeyText?_of_number
    {text : String}
    (hNumber : Digits.readInt? 10 text.toList ≠ none ∨
      ∃ negative r,
        Binary64.read? text.toList = some (.finite negative r)) :
    ofKeyText? text =
      match Digits.readInt? 10 text.toList with
      | some i => some (.int i)
      | none => (Binary64.read? text.toList).map .float := by
  have hWords :
      ∀ word ∈ ["null", "true", "false", ".nan", ".inf", "-.inf"],
        Digits.readInt? 10 word.toList = none ∧
          Binary64.read? word.toList = none := by
    decide
  have hOther :
      ∀ word ∈ ["null", "true", "false", ".nan", ".inf", "-.inf"],
        text ≠ word := by
    rintro word hWord rfl
    rcases hNumber with hInteger | ⟨negative, r, hRead⟩
    · exact hInteger (hWords _ hWord).1
    · rw [(hWords _ hWord).2] at hRead
      cases hRead
  simp only [List.forall_mem_cons] at hOther
  rcases hOther with ⟨hNull, hTrue, hFalse, hNan, hInf, hNegInf, _⟩
  unfold ofKeyText?
  simp only [hNull, hTrue, hFalse, hNan, hInf, hNegInf, if_false]

/- The text of a key that is no string spells it. -/
theorem ofKeyText?_keyText
    {k : Yaml.Value}
    (hSpelled : k.IsSpelled) :
    ofKeyText? (keyText k) = some k := by
  cases hSpelled with
  | null => rfl
  | bool b => cases b <;> rfl
  | int i =>
      have hText : (keyText (.int i)).toList = Digits.writeInt i :=
        String.toList_ofList
      have hRead : Digits.readInt? 10 (keyText (.int i)).toList =
          some i := by
        rw [hText, Digits.readInt?_writeInt]
      rw [ofKeyText?_of_number (Or.inl (by simp [hRead])), hRead]
  | float f =>
      cases f with
      | nan => rfl
      | infinite negative => cases negative <;> rfl
      | finite negative r =>
          have hInteger : Digits.readInt? 10
              (keyText (.float (.finite negative r))).toList = none :=
            Yaml.readInt?_render_finite negative r
          have hRead : Binary64.read?
              (keyText (.float (.finite negative r))).toList =
                some (.finite negative r) :=
            Yaml.numberNotation.read?_render_finite negative r
          rw [ofKeyText?_of_number (Or.inr ⟨negative, r, hRead⟩),
            hInteger]
          simp only [hRead, Option.map_some]

/- Two such keys with the same text are the same. -/
theorem eq_of_keyText_eq
    {k l : Yaml.Value}
    (hLeft : k.IsSpelled)
    (hRight : l.IsSpelled)
    (hText : keyText k = keyText l) :
    k = l := by
  have hSame := ofKeyText?_keyText hLeft
  rw [hText, ofKeyText?_keyText hRight] at hSame
  exact (Option.some.inj hSame).symm

------------------------------------------------------------
-- Entries
------------------------------------------------------------

/-
  The tree of a mapping has an entry for each of its entries,
  in the same order and with the tree of its value.
-/
def KeepsEntries (es : List (Yaml.Value × Yaml.Value)) : Prop :=
  ∃ fs : Mapping Tree, ofYaml (.mapping es) = .mapping fs ∧
    fs.map Prod.snd = es.map fun e => ofYaml e.2

/- No entry is lost when the texts of the keys are different. -/
theorem keepsEntries_iff_nodup
    {es : List (Yaml.Value × Yaml.Value)} :
    KeepsEntries es ↔ (es.map fun e => keyText e.1).Nodup := by
  have hKeys : Mapping.keys (entriesOfYaml es) =
      es.map fun e => keyText e.1 := by
    rw [entriesOfYaml_eq_map, Mapping.keys, List.map_map]
    rfl
  rw [← hKeys]
  constructor
  · rintro ⟨fs, hTree, hValues⟩
    rw [ofYaml, Tree.mapping.injEq] at hTree
    subst hTree
    rw [← Mapping.length_ofList_eq_iff]
    have hLength := congrArg List.length hValues
    rw [List.length_map, List.length_map] at hLength
    rw [hLength, entriesOfYaml_eq_map, List.length_map]
  · intro hNodup
    refine ⟨_, rfl, ?_⟩
    rw [Mapping.ofList_eq_self hNodup, entriesOfYaml_eq_map,
      List.map_map]
    rfl

end Tree

namespace Yaml.Value

theorem sameValue_self (f : Binary64) : f.sameValue f = true := by
  cases f with
  | nan => rfl
  | infinite negative => cases negative <;> rfl
  | finite negative r =>
      cases negative <;> simp [Binary64.sameValue, Binary64.place?]

theorem IsSpelled.same_self {k : Value} (hSpelled : k.IsSpelled) :
    same k k = true := by
  cases hSpelled with
  | null => simp [same]
  | bool b => simp [same]
  | int i => simp [same]
  | float f => simp [same, sameValue_self]

/- No key of a mapping appears again behind its entry. -/
theorem noRepeatedKeys_iff_pairwise
    {es : List (Value × Value)} :
    noRepeatedKeys es = true ↔
      es.Pairwise fun e f => same e.1 f.1 = false := by
  induction es with
  | nil => simp [noRepeatedKeys]
  | cons e es ih =>
      rcases e with ⟨k, v⟩
      simp [noRepeatedKeys, ih]

end Yaml.Value

namespace Tree

open Yaml.Value (IsSpelled noRepeatedKeys)

/-
  Where the keys are scalars without a tag, no entry is lost
  when no string among them spells another key.
-/
theorem keepsEntries_iff_unspelled
    {es : List (Yaml.Value × Yaml.Value)}
    (hDistinct : noRepeatedKeys es = true)
    (hScalars : ∀ e ∈ es, (∃ s, e.1 = .string s) ∨ e.1.IsSpelled) :
    KeepsEntries es ↔
      ∀ e ∈ es, ∀ f ∈ es, f.1.IsSpelled →
        e.1 ≠ .string (keyText f.1) := by
  rw [keepsEntries_iff_nodup]
  constructor
  · intro hNodup e hLeft f hRight hSpelled hString
    have hSame : e = f :=
      List.inj_on_of_nodup_map hNodup hLeft hRight
        (by rw [hString]; rfl)
    rw [← hSame, hString] at hSpelled
    cases hSpelled
  · intro hUnspelled
    rw [List.Nodup, List.pairwise_map]
    apply List.Pairwise.imp_of_mem ?_
      (Yaml.Value.noRepeatedKeys_iff_pairwise.mp hDistinct)
    intro e f hLeft hRight hOther hText
    rcases hScalars e hLeft with ⟨s, hString⟩ | hSpelled
    · rcases hScalars f hRight with ⟨s', hString'⟩ | hSpelled'
      · rw [hString, hString'] at hText hOther
        have hEqual : s = s' := hText
        simp [Yaml.Value.same, hEqual] at hOther
      · apply hUnspelled e hLeft f hRight hSpelled'
        rw [← hText, hString]
        rfl
    · rcases hScalars f hRight with ⟨s', hString'⟩ | hSpelled'
      · apply hUnspelled f hRight e hLeft hSpelled
        rw [hText, hString']
        rfl
      · rw [eq_of_keyText_eq hSpelled hSpelled' hText,
          hSpelled'.same_self] at hOther
        cases hOther

/-
  A mapping without repeated keys is read without loss exactly
  when the texts of its keys are different.  Where the keys are
  scalars without a tag, this is so when no string among them
  spells another key.
-/
theorem keeps_entries_of_distinct_keys_iff
    {es : List (Yaml.Value × Yaml.Value)}
    (hDistinct : noRepeatedKeys es = true) :
    (KeepsEntries es ↔ (es.map fun e => keyText e.1).Nodup) ∧
    ((∀ e ∈ es, (∃ s, e.1 = .string s) ∨ e.1.IsSpelled) →
      (KeepsEntries es ↔
        ∀ e ∈ es, ∀ f ∈ es, f.1.IsSpelled →
          e.1 ≠ .string (keyText f.1))) :=
  ⟨keepsEntries_iff_nodup, keepsEntries_iff_unspelled hDistinct⟩

/- Keys of all kinds, one of them with a leading zero. -/
theorem keeps_entries_of_distinct_keys_iff_ports :
    let es : List (Yaml.Value × Yaml.Value) :=
      [(.int 1, .string "web"), (.string "01", .null),
        (.bool true, .int 3), (.null, .sequence []),
        (.tagged "!port" (.float .nan), .bool false)]
    noRepeatedKeys es = true ∧ KeepsEntries es := by
  intro es
  have hDistinct : noRepeatedKeys es = true := by decide
  exact ⟨hDistinct,
    (keeps_entries_of_distinct_keys_iff hDistinct).1.mpr
      (by decide)⟩

/-
  A number and a string that spells it are different keys, but
  the entry of the string takes the place of the other.
-/
theorem spelled_key_loses_entry :
    let es : List (Yaml.Value × Yaml.Value) :=
      [(.int 1, .string "a"), (.string "1", .string "b")]
    noRepeatedKeys es = true ∧
      ofYaml (.mapping es) = .mapping [("1", .string "b")] ∧
      ¬ KeepsEntries es := by
  intro es
  refine ⟨by decide, rfl, ?_⟩
  rw [keepsEntries_iff_nodup]
  decide

end Tree

end ManifestRecipes
