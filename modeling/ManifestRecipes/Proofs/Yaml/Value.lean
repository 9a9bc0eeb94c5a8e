import ManifestRecipes.Proofs.Failure
import ManifestRecipes.Proofs.Text
import ManifestRecipes.Yaml.Value.Resolve

/-
  The integers of documents.

  Whatever its tags and styles are, a document that is read
  has integers of 64 bits only.  An unquoted numeral of 64 bits
  is one of them.

  Key definitions include:
    * `Yaml.Value.WordSized`

  Main declarations:
    * `Yaml.Value.ofPlain_numeral`
    * `Yaml.Value.wordSized_ofContent`
    * `Yaml.Value.wordSized_of_onlyOfText`
    * `Yaml.Value.wordSized_of_ofText`
-/

namespace ManifestRecipes

namespace Yaml

namespace Value

/-
  The integers of a value are those of one of the two 64-bit
  words.  Nothing is said of keys.
-/
inductive WordSized : Value → Prop where
  | null : WordSized .null
  | bool (b : Bool) : WordSized (.bool b)
  | int
      {i : Int}
      (hWord : isWord64 i = true) :
      WordSized (.int i)
  | float (f : Binary64) : WordSized (.float f)
  | string (s : String) : WordSized (.string s)
  | sequence
      {items : List Value}
      (hItems : ∀ v ∈ items, WordSized v) :
      WordSized (.sequence items)
  | mapping
      {entries : List (Value × Value)}
      (hEntries : ∀ k v, (k, v) ∈ entries → WordSized v) :
      WordSized (.mapping entries)
  | tagged
      (tag : String)
      {v : Value}
      (hValue : WordSized v) :
      WordSized (.tagged tag v)

------------------------------------------------------------
-- Numerals
------------------------------------------------------------

section Numerals

variable {n : Nat}

/- A numeral has no sign. -/
theorem withoutSign_write (n : Nat) :
    withoutSign (Digits.write n) = Digits.write n ∧
      withoutPlus (Digits.write n) = Digits.write n := by
  have hDigit : ∀ c ∈ Digits.write n, Digits.isDigit c = true :=
    fun _ => Digits.isDigit_of_mem_write
  cases hNumeral : Digits.write n with
  | nil => exact ⟨rfl, rfl⟩
  | cons c cs =>
      rw [hNumeral] at hDigit
      rcases Digits.ne_sign_of_isDigit (hDigit c List.mem_cons_self) with
        ⟨hPlus, hMinus⟩
      simp [withoutSign, withoutPlus, hPlus, hMinus]

/- The digits of a numeral are not behind a zero. -/
theorem magnitude?_write (n : Nat) :
    magnitude? (Digits.write n) = some n := by
  have hRead : Digits.readNat? 10 (Digits.write n) = some n := by
    rw [Digits.readNat?_of_digits (Digits.write_ne_nil n)
      fun _ => Digits.isDigit_of_mem_write, Digits.value_write]
  by_cases hPositive : 0 < n
  · have hHead := Digits.head?_write_ne_zero hPositive
    have hUnmarked : marked? (Digits.write n) = none := by
      unfold marked?
      split <;> simp_all
    have hUnpadded : isPaddedDigits (Digits.write n) = false := by
      rw [isPaddedDigits, (withoutSign_write n).1]
      split <;> simp_all
    simp [magnitude?, hUnmarked, hUnpadded, hRead]
  · obtain rfl : n = 0 := by omega
    decide

/- A numeral is read as its integer. -/
theorem integer?_write (n : Nat) :
    integer? (Digits.write n) = some (n : Int) := by
  unfold integer?
  split
  · rename_i cs hMinus
    have hDigit : Digits.isDigit '-' = true :=
      Digits.isDigit_of_mem_write (n := n) (hMinus ▸ List.mem_cons_self)
    cases hDigit
  · rw [(withoutSign_write n).2, magnitude?_write]
    rfl

/- Texts with other characters than digits are no numerals. -/
theorem text_ne
    {s : String}
    (hOther : ∃ c ∈ s.toList, Digits.isDigit c = false) :
    Digits.text n ≠ s := by
  rintro rfl
  rcases hOther with ⟨c, hMember, hOther⟩
  rw [Digits.text, String.toList_ofList] at hMember
  rw [Digits.isDigit_of_mem_write hMember] at hOther
  cases hOther

/- The numeral of a number of 64 bits is the number when it is unquoted. -/
theorem ofPlain_numeral (hBound : n < Nat.pow 2 64) :
    ofPlain (Digits.text n) = .ok (.int n) := by
  have hWord : isWord64 n = true := by
    simp only [isWord64, Bool.and_eq_true, decide_eq_true_eq]
    omega
  have hGiven : (Digits.text n).isEmpty = false := by
    rw [← Bool.not_eq_true, String.isEmpty_iff, Digits.text,
      String.ofList_eq_empty_iff]
    exact Digits.write_ne_nil n
  have hNull : isNullText (Digits.text n) = false := by
    simp [isNullText, text_ne, Digits.isDigit]
  have hBool : bool? (Digits.text n) = none := by
    simp [bool?, text_ne, Digits.isDigit]
  have hInteger :
      ofInteger? (Digits.text n).toList = .ok (some (.int n)) := by
    rw [Digits.text, String.toList_ofList, ofInteger?, integer?_write]
    simp [hWord]
  rw [ofPlain, hGiven, hNull, hBool, hInteger]
  rfl

end Numerals

------------------------------------------------------------
-- Scalars
------------------------------------------------------------

section Scalars

variable {v w : Value} {text tag name : String} {tag? : Option String}

/- Integers that are read are of 64 bits. -/
theorem wordSized_of_ofInteger?
    {cs : List Char}
    (hRead : ofInteger? cs = .ok (some v)) :
    v.WordSized := by
  unfold ofInteger? at hRead
  cases hInteger : integer? cs with
  | none =>
      rw [hInteger] at hRead
      cases hRead
  | some i =>
      rw [hInteger] at hRead
      simp only at hRead
      split_ifs at hRead with hWord <;> cases hRead
      exact .int hWord

/- So are those of unquoted scalars. -/
theorem wordSized_of_ofPlain
    (hRead : ofPlain text = .ok v) :
    v.WordSized := by
  unfold ofPlain at hRead
  by_cases hNull : (text.isEmpty || isNullText text) = true
  · rw [if_pos hNull] at hRead
    cases hRead
    exact .null
  · rw [if_neg hNull] at hRead
    cases hBool : bool? text with
    | some b =>
        rw [hBool] at hRead
        cases hRead
        exact .bool b
    | none =>
        rw [hBool] at hRead
        obtain ⟨integer?, hInteger, hRead⟩ :=
          exists_of_bind_eq_ok hRead
        cases integer? with
        | some w =>
            cases hRead
            exact wordSized_of_ofInteger? hInteger
        | none =>
            simp only at hRead
            split_ifs at hRead
            · cases hRead
              exact .string text
            · cases hFloat : float? text with
              | some f =>
                  rw [hFloat] at hRead
                  cases hRead
                  exact .float f
              | none =>
                  rw [hFloat] at hRead
                  cases hRead
                  exact .string text

/- So are those of scalars without a tag. -/
theorem wordSized_of_ofUntagged
    {style : Style}
    (hRead : ofUntagged style text = .ok v) :
    v.WordSized := by
  unfold ofUntagged at hRead
  split_ifs at hRead
  · exact wordSized_of_ofPlain hRead
  · cases hRead
    exact .string text

/- A tag does not change the integers of a value. -/
theorem wordSized_of_underTag
    (hValue : v.WordSized)
    (hRead : underTag name v = .ok w) :
    w.WordSized := by
  unfold underTag at hRead
  split_ifs at hRead
  cases hRead
  exact .tagged name hValue

/- What a tag demands is the value that is there. -/
theorem eq_some_of_demand
    {given : Option Value}
    (hRead : demand given = .ok v) :
    given = some v := by
  cases given with
  | none => cases hRead
  | some w =>
      cases hRead
      rfl

/- So are those of scalars with a tag of a schema. -/
theorem wordSized_of_ofSchemaTag
    (hRead : ofSchemaTag tag text = .ok v) :
    v.WordSized := by
  unfold ofSchemaTag at hRead
  simp only at hRead
  split_ifs at hRead
  · obtain ⟨b, _, rfl⟩ :=
      Option.map_eq_some_iff.mp (eq_some_of_demand hRead)
    exact .bool b
  · obtain ⟨given, hInteger, hRead⟩ := exists_of_bind_eq_ok hRead
    rw [eq_some_of_demand hRead] at hInteger
    exact wordSized_of_ofInteger? hInteger
  · obtain ⟨f, _, rfl⟩ :=
      Option.map_eq_some_iff.mp (eq_some_of_demand hRead)
    exact .float f
  · cases eq_some_of_demand hRead
    exact .null
  · cases eq_some_of_demand hRead
  · cases hRead
    exact .string text

/- So are those of all scalars. -/
theorem wordSized_of_ofScalar
    {style : Style}
    (hRead : ofScalar tag? style text = .ok v) :
    v.WordSized := by
  unfold ofScalar at hRead
  cases tag? with
  | none => exact wordSized_of_ofUntagged hRead
  | some tag =>
      simp only at hRead
      cases hOwn : ownTag? (some tag) with
      | none =>
          rw [hOwn] at hRead
          exact wordSized_of_ofSchemaTag hRead
      | some name =>
          rw [hOwn] at hRead
          obtain ⟨w, hPlain, hRead⟩ := exists_of_bind_eq_ok hRead
          exact wordSized_of_underTag
            (wordSized_of_ofUntagged hPlain) hRead

/- A tag does not change the integers of a collection. -/
theorem wordSized_of_collection
    {covered : Bool}
    (hValue : v.WordSized)
    (hRead : collection covered tag? v = .ok w) :
    w.WordSized := by
  unfold collection at hRead
  cases hOwn : ownTag? tag? with
  | none =>
      rw [hOwn] at hRead
      cases hRead
      exact hValue
  | some name =>
      rw [hOwn] at hRead
      simp only at hRead
      split_ifs at hRead
      · cases hRead
        exact hValue
      · exact wordSized_of_underTag hValue hRead

end Scalars

------------------------------------------------------------
-- Documents
------------------------------------------------------------

mutual

/- Values of documents have integers of 64 bits. -/
theorem wordSized_ofContent :
    (covered : Bool) → (c : Content) → (v : Value) →
      ofContent covered c = .ok v → v.WordSized
  | covered, .scalar tag? style text, v, hRead => by
      unfold ofContent at hRead
      split_ifs at hRead
      · exact wordSized_of_ofUntagged hRead
      · exact wordSized_of_ofScalar hRead
  | covered, .sequence tag? items, v, hRead => by
      unfold ofContent at hRead
      obtain ⟨vs, hItems, hRead⟩ := exists_of_bind_eq_ok hRead
      exact wordSized_of_collection
        (.sequence (wordSized_ofItems items vs hItems)) hRead
  | covered, .mapping tag? entries, v, hRead => by
      unfold ofContent at hRead
      obtain ⟨es, hEntries, hRead⟩ := exists_of_bind_eq_ok hRead
      split_ifs at hRead
      exact wordSized_of_collection
        (.mapping (wordSized_ofEntries _ entries es hEntries)) hRead

/- So have the values of items. -/
theorem wordSized_ofItems :
    (items : List Content) → (vs : List Value) →
      ofItems items = .ok vs → ∀ v ∈ vs, v.WordSized
  | [], vs, hRead => by
      cases hRead
      simp
  | x :: xs, vs, hRead => by
      unfold ofItems at hRead
      obtain ⟨v, hHead, hRead⟩ := exists_of_bind_eq_ok hRead
      obtain ⟨ws, hTail, hRead⟩ := exists_of_bind_eq_ok hRead
      cases hRead
      exact List.forall_mem_cons.mpr
        ⟨wordSized_ofContent false x v hHead,
          wordSized_ofItems xs ws hTail⟩

/- So have the values of entries. -/
theorem wordSized_ofEntries :
    (covered : Bool) → (entries : List (Content × Content)) →
      (es : List (Value × Value)) →
        ofEntries covered entries = .ok es →
          ∀ k v, (k, v) ∈ es → v.WordSized
  | _, [], es, hRead => by
      cases hRead
      simp
  | covered, (k, x) :: entries, es, hRead => by
      unfold ofEntries at hRead
      obtain ⟨key, _, hRead⟩ := exists_of_bind_eq_ok hRead
      obtain ⟨v, hHead, hRead⟩ := exists_of_bind_eq_ok hRead
      obtain ⟨more, hTail, hRead⟩ := exists_of_bind_eq_ok hRead
      cases hRead
      intro l w hMember
      rcases List.mem_cons.mp hMember with hHere | hLater
      · cases hHere
        exact wordSized_ofContent false x v hHead
      · exact wordSized_ofEntries covered entries more hTail l w
          hLater

end

/- The only document of a text has integers of 64 bits. -/
theorem wordSized_of_onlyOfText
    {text : String}
    {v : Value}
    (hRead : onlyOfText text = .ok v) :
    v.WordSized := by
  obtain ⟨c, _, hValue⟩ := exists_of_bind_eq_ok hRead
  exact wordSized_ofContent false c v hValue

/- So have all documents of a text. -/
theorem wordSized_of_ofText
    {text : String}
    {vs : List Value}
    (hRead : ofText text = .ok vs) :
    ∀ v ∈ vs, v.WordSized := by
  obtain ⟨cs, _, hValues⟩ := exists_of_bind_eq_ok hRead
  intro v hMember
  obtain ⟨c, _, hValue⟩ :=
    (mem_iff_of_mapM_eq_ok hValues).mp hMember
  exact wordSized_ofContent false c v hValue

end Value

end Yaml

end ManifestRecipes
