import ManifestRecipes.Proofs.Binary64.LongInteger
import ManifestRecipes.Proofs.Mapping
import ManifestRecipes.Proofs.Recipe.Limit
import ManifestRecipes.Proofs.Recipe.RatioLimit
import ManifestRecipes.Proofs.Yaml.Value
import ManifestRecipes.Recipe.Options.Reading

/-
  Limits in configurations.

  A limit or ratio is configured as a text or as a bare number,
  and what is built depends on nothing but the text of the
  number.  An integer of 63 bits has its own numeral for a
  text.  A longer one has the digits of the nearest binary64
  number, and is built as it is written only if these are its
  own.

  Key definitions include:
    * `Recipe.ofContent`
    * `OpenField`
    * `Recipe.Limit`
    * `OpenField.Builds`

  Main declarations:
    * `OpenField.ofContent_fill`
    * `Fields.exists_numberText?_int`
    * `OpenField.builds_bare_iff`
-/

namespace ManifestRecipes

------------------------------------------------------------
-- Configurations
------------------------------------------------------------

theorem Options.ofContent?_eq_some_iff
    {c : Yaml.Content}
    {o : Options} :
    ofContent? c = some o ↔
      ∃ recipe v, Fields.recipeAndRest? c = some (recipe, v) ∧
        ofFields? recipe v = some o := by
  rw [ofContent?, Option.bind_eq_some_iff]
  exact Prod.exists

/- The recipe that a configuration without aliases makes. -/
def Recipe.ofContent (c : Yaml.Content) :
    Except Recipe.Fault Recipe :=
  match Options.ofContent? c with
  | some o => o.build
  | none => .error .configuration

theorem Recipe.ofContent_eq_ok_iff
    {c : Yaml.Content}
    {r : Recipe} :
    Recipe.ofContent c = .ok r ↔
      ∃ o, Options.ofContent? c = some o ∧ o.build = .ok r := by
  unfold Recipe.ofContent
  cases Options.ofContent? c <;> simp

/- A configuration in which the node of one field is left open. -/
structure OpenField where
  tag? : Option String
  before : List (Yaml.Content × Yaml.Content)
  key : Yaml.Content
  after : List (Yaml.Content × Yaml.Content)

/- The configuration with a node for the field. -/
def OpenField.fill (f : OpenField) (x : Yaml.Content) :
    Yaml.Content :=
  .mapping f.tag? (f.before ++ (f.key, x) :: f.after)

namespace Fields

variable {name recipe : String} {names : List String}
variable {key z : Yaml.Content} {w : Yaml.Value} {fs : Fields}

/- The recipe does not depend on the value of another field. -/
theorem splitEntries?_fill
    {before after : List (Yaml.Content × Yaml.Content)}
    {recipe? : Option String}
    {rest : List (Yaml.Value × Yaml.Value)}
    (hKey : value? key = some (.string name))
    (hOther : name ≠ "recipe")
    (hSplit : splitEntries? (before ++ (key, z) :: after) =
      some (recipe?, rest)) :
    ∃ pre w post, rest = pre ++ (.string name, w) :: post ∧
      ∀ x u, value? x = some u →
        splitEntries? (before ++ (key, x) :: after) =
          some (recipe?, pre ++ (.string name, u) :: post) := by
  induction before generalizing recipe? rest with
  | nil =>
      have hNoRecipe : isRecipeKey (.string name) = false :=
        decide_eq_false hOther
      simp only [List.nil_append, splitEntries?, hKey, hNoRecipe,
        Option.bind_eq_bind, Option.bind_some, Bool.false_eq_true,
        if_false, Option.bind_eq_some_iff, Prod.exists] at hSplit ⊢
      rcases hSplit with ⟨recipe?, post, hAfter, w, hValue, hSame⟩
      cases hSame
      refine ⟨[], w, post, rfl, ?_⟩
      intro x u hFilled
      simp [hAfter, hFilled]
  | cons e before ih =>
      rcases e with ⟨k, v⟩
      simp only [List.cons_append, splitEntries?,
        Option.bind_eq_bind, Option.bind_eq_some_iff, Prod.exists]
        at hSplit
      rcases hSplit with ⟨l, hFirst, recipe', rest', hRest, hSplit⟩
      rcases ih hRest with ⟨pre, w, post, rfl, hFill⟩
      by_cases hNames : isRecipeKey l = true
      · rw [if_pos hNames] at hSplit
        by_cases hTwice : recipe'.isSome = true
        · rw [if_pos hTwice] at hSplit
          cases hSplit
        · rw [if_neg hTwice] at hSplit
          rcases Option.bind_eq_some_iff.mp hSplit with
            ⟨text, hText, hSame⟩
          cases hSame
          refine ⟨pre, w, post, rfl, ?_⟩
          intro x u hFilled
          simp [splitEntries?, hFirst, hFill x u hFilled, hNames,
            hTwice, hText]
      · rw [if_neg hNames] at hSplit
        rcases Option.bind_eq_some_iff.mp hSplit with
          ⟨v', hValue, hSame⟩
        cases hSame
        refine ⟨(l, v') :: pre, w, post, rfl, ?_⟩
        intro x u hFilled
        simp [splitEntries?, hFirst, hFill x u hFilled, hNames,
          hValue]

/- Where a key names a field, it does so once. -/
theorem ofEntries?_cons_eq_some_iff
    {k v : Yaml.Value}
    {es : List (Yaml.Value × Yaml.Value)} :
    ofEntries? names ((k, v) :: es) = some fs ↔
      ∃ rest named?, ofEntries? names es = some rest ∧
        name? names k = some named? ∧
        (∀ n, named? = some n → n ∉ Mapping.keys rest) ∧
        fs = named?.elim rest fun n => (n, v) :: rest := by
  simp only [ofEntries?, Option.bind_eq_bind, Option.bind_eq_some_iff]
  refine exists_congr fun rest => ?_
  constructor
  · rintro ⟨hRest, named?, hName, hFields⟩
    refine ⟨named?, hRest, hName, ?_⟩
    cases named? with
    | none => simpa [eq_comm] using hFields
    | some n =>
        simp only at hFields
        split_ifs at hFields with hTwice
        cases hFields
        rw [Mapping.contains_iff] at hTwice
        simp [hTwice]
  · rintro ⟨named?, hRest, hName, hOnce, rfl⟩
    refine ⟨hRest, named?, hName, ?_⟩
    cases named? with
    | none => rfl
    | some n =>
        have hNew : ¬ Mapping.contains n rest = true := by
          rw [Mapping.contains_iff]
          exact hOnce n rfl
        simp only
        rw [if_neg hNew]
        rfl

/- A field that is given another value has it, and the others stay. -/
theorem ofEntries?_fill
    {pre post : List (Yaml.Value × Yaml.Value)}
    (hName : name ∈ names)
    (hFields : ofEntries? names (pre ++ (.string name, w) :: post) =
      some fs) :
    name ∈ Mapping.keys fs ∧
      ∀ u, ofEntries? names (pre ++ (.string name, u) :: post) =
        some (Mapping.insert name u fs) := by
  have hNamed : name? names (.string name) = some (some name) := by
    rw [name?, if_pos hName]
  induction pre generalizing fs with
  | nil =>
      rcases ofEntries?_cons_eq_some_iff.mp hFields with
        ⟨rest, named?, hRest, hGiven, hOnce, rfl⟩
      cases hNamed.symm.trans hGiven
      refine ⟨by simp, fun u => ?_⟩
      refine ofEntries?_cons_eq_some_iff.mpr
        ⟨rest, some name, hRest, hNamed, hOnce, ?_⟩
      simp [Mapping.insert]
  | cons e pre ih =>
      rcases e with ⟨k, v⟩
      rcases ofEntries?_cons_eq_some_iff.mp hFields with
        ⟨rest, named?, hRest, hGiven, hOnce, rfl⟩
      rcases ih hRest with ⟨hMember, hFill⟩
      have hOther : ∀ n, named? = some n → n ≠ name := by
        rintro n hSame rfl
        exact hOnce n hSame hMember
      refine ⟨?_, fun u => ?_⟩
      · cases named? <;> simp [hMember]
      · refine ofEntries?_cons_eq_some_iff.mpr
          ⟨Mapping.insert name u rest, named?, hFill u, hGiven,
            ?_, ?_⟩
        · intro n hSame
          rw [Mapping.mem_keys_insert, not_or]
          exact ⟨hOther n hSame, hOnce n hSame⟩
        · cases named? with
          | none => rfl
          | some n => simp [Mapping.insert, hOther n rfl]

/- Another field's choice is the same. -/
theorem choice?_insert
    {α : Type}
    {k : String}
    (alternatives : List (String × α))
    (hOther : k ≠ name) :
    choice? alternatives k (Mapping.insert name w fs) =
      choice? alternatives k fs := by
  rw [choice?, choice?, Mapping.get?_insert_of_ne hOther]

theorem textOrNumber?_insert :
    textOrNumber? name (Mapping.insert name w fs) = numberText? w := by
  rw [textOrNumber?, Mapping.get?_insert_self, Option.bind_some]

end Fields

namespace Options

open Fields

variable {pre post : List (Yaml.Value × Yaml.Value)}
variable {w u : Yaml.Value} {text : String}

/- The options of a limit with another text. -/
theorem quantity?_fill
    {o : QuantityOptions}
    (hRead : quantity?
      (.mapping (pre ++ (.string "resourceLimit", w) :: post)) = some o)
    (hText : numberText? u = some text) :
    quantity?
        (.mapping (pre ++ (.string "resourceLimit", u) :: post)) =
      some ⟨o.bound, o.kind, text⟩ := by
  unfold quantity? at hRead ⊢
  simp only [ofValue?, Option.bind_eq_bind, Option.bind_eq_some_iff]
    at hRead
  rcases hRead with
    ⟨fs, hFields, bound, hBound, kind, hKind, _, _, hSame⟩
  cases hSame
  rw [ofValue?, (ofEntries?_fill (by simp) hFields).2 u]
  simp [choice?_insert, textOrNumber?_insert, hBound, hKind, hText]

theorem ofFields?_ratio (v : Yaml.Value) :
    ofFields? "find-exceeds-resource-ratio" v =
      (ofValue? ["resourceType", "ratioLimit"] v).bind fun fs =>
        (choice? kinds "resourceType" fs).bind fun kind =>
          (textOrNumber? "ratioLimit" fs).bind fun text =>
            some (.findRatio kind text) := by
  rfl

/- The options of a ratio with another text. -/
theorem ofFields?_ratio_fill
    {kind : ResourceKind}
    {old : String}
    (hRead : ofFields? "find-exceeds-resource-ratio"
      (.mapping (pre ++ (.string "ratioLimit", w) :: post)) =
        some (.findRatio kind old))
    (hText : numberText? u = some text) :
    ofFields? "find-exceeds-resource-ratio"
        (.mapping (pre ++ (.string "ratioLimit", u) :: post)) =
      some (.findRatio kind text) := by
  rw [ofFields?_ratio, ofValue?] at hRead ⊢
  rcases Option.bind_eq_some_iff.mp hRead with ⟨fs, hFields, hRead⟩
  rcases Option.bind_eq_some_iff.mp hRead with ⟨kind, hKind, hRead⟩
  rcases Option.bind_eq_some_iff.mp hRead with ⟨_, _, hSame⟩
  cases hSame
  refine Option.bind_eq_some_iff.mpr
    ⟨_, (ofEntries?_fill (by simp) hFields).2 u, ?_⟩
  refine Option.bind_eq_some_iff.mpr ⟨kind, ?_,
    Option.bind_eq_some_iff.mpr ⟨text, ?_, rfl⟩⟩
  · rw [choice?_insert _ (by decide), hKind]
  · rw [textOrNumber?_insert, hText]

end Options

------------------------------------------------------------
-- Limits
------------------------------------------------------------

namespace Recipe

/- What quantities are held to: a quantity or a ratio of them. -/
inductive Limit where
  | quantity (q : Quantity)
  | ratio (r : Ratio)
deriving DecidableEq

/- The field in which a limit of the kind is configured. -/
def Limit.field : Limit → String
  | .quantity _ => "resourceLimit"
  | .ratio _ => "ratioLimit"

def Limit.read (text : String) : Limit → Except Quantity.Fault Limit
  | .quantity _ => do .ok (.quantity (← Quantity.read text))
  | .ratio _ => do .ok (.ratio (← Ratio.read text))

/- A limit of the kind that is a whole number. -/
def Limit.ofCount (n : Nat) : Limit → Limit
  | .quantity _ => .quantity ⟨n * Quantity.Unit.one.scale, .one⟩
  | .ratio _ => .ratio ⟨n, 1⟩

/- The limit of a recipe that has one. -/
def limit? : Recipe → Option Limit
  | .capQuantity l => some (.quantity l.limit)
  | .findQuantity l => some (.quantity l.limit)
  | .findRatio l => some (.ratio l.ratio)
  | _ => none

end Recipe

open Recipe (Limit)

variable {l l' : Limit} {text : String} {n : Nat}

/- Options with another text for the limit, if they have one. -/
def Options.withLimit (text : String) : Options → Options
  | .capQuantity o => .capQuantity ⟨o.bound, o.kind, text⟩
  | .findQuantity o => .findQuantity ⟨o.bound, o.kind, text⟩
  | .findRatio kind _ => .findRatio kind text
  | o => o

/- Only three recipes have a limit. -/
inductive Options.Limited : Options → Limit → Prop where
  | cap (o : QuantityOptions) (q : Quantity) :
      Limited (.capQuantity o) (.quantity q)
  | find (o : QuantityOptions) (q : Quantity) :
      Limited (.findQuantity o) (.quantity q)
  | ratio (kind : ResourceKind) (text : String) (r : Ratio) :
      Limited (.findRatio kind text) (.ratio r)

theorem Options.limited_of_build
    {o : Options}
    {r : Recipe}
    (hBuild : o.build = .ok r)
    (hLimit : r.limit? = some l) :
    o.Limited l := by
  cases o with
  | capQuantity o =>
      rcases exists_of_bind_eq_ok hBuild with ⟨q, _, hDone⟩
      cases hDone
      cases hLimit
      exact .cap o q.limit
  | findQuantity o =>
      rcases exists_of_bind_eq_ok hBuild with ⟨q, _, hDone⟩
      cases hDone
      cases hLimit
      exact .find o q.limit
  | findRatio kind text =>
      rcases exists_of_bind_eq_ok hBuild with ⟨q, _, hDone⟩
      cases hDone
      cases hLimit
      exact .ratio kind text q.ratio
  | addConfiguration _ | findMissingConfiguration _ _ | findTags _
  | searchAnnotations _ _ | checkEntry _ _ _ | addRule _ =>
      rcases exists_of_bind_eq_ok hBuild with ⟨_, _, hDone⟩
      cases hDone
      cases hLimit
  | _ =>
      cases hBuild
      cases hLimit

/- The limit that options make is the one that is read from the text. -/
theorem Options.Limited.build_withLimit_iff
    {o : Options}
    (hLimited : o.Limited l) :
    (∃ r, (o.withLimit text).build = .ok r ∧ r.limit? = some l') ↔
      l.read text = .ok l' := by
  cases hLimited with
  | cap o q =>
      simp only [withLimit, QuantityLimit.build_eq_ok_iff.1,
        Limit.read, bind_eq_ok_iff, Except.ok.injEq]
      constructor
      · rintro ⟨_, ⟨q', hRead, rfl⟩, hLimit⟩
        exact ⟨q', hRead, Option.some.inj hLimit⟩
      · rintro ⟨q', hRead, rfl⟩
        exact ⟨_, ⟨q', hRead, rfl⟩, rfl⟩
  | find o q =>
      simp only [withLimit, QuantityLimit.build_eq_ok_iff.2,
        Limit.read, bind_eq_ok_iff, Except.ok.injEq]
      constructor
      · rintro ⟨_, ⟨q', hRead, rfl⟩, hLimit⟩
        exact ⟨q', hRead, Option.some.inj hLimit⟩
      · rintro ⟨q', hRead, rfl⟩
        exact ⟨_, ⟨q', hRead, rfl⟩, rfl⟩
  | ratio kind old q =>
      simp only [withLimit, RatioLimit.build_eq_ok_iff, Limit.read,
        bind_eq_ok_iff, Except.ok.injEq]
      constructor
      · rintro ⟨_, ⟨q', hRead, rfl⟩, hLimit⟩
        exact ⟨q', hRead, Option.some.inj hLimit⟩
      · rintro ⟨q', hRead, rfl⟩
        exact ⟨_, ⟨q', hRead, rfl⟩, rfl⟩

/- The names of the recipes with a limit. -/
theorem Options.recipe_of_limited
    {recipe : String}
    {v : Yaml.Value}
    {o : Options}
    (hLimited : o.Limited l)
    (hRead : ofFields? recipe v = some o) :
    (recipe = "cap-resource-value-to-maximum" ∧
      (quantity? v).map .capQuantity = some o) ∨
    (recipe = "find-exceeds-resource-value" ∧
      (quantity? v).map .findQuantity = some o) ∨
    (recipe = "find-exceeds-resource-ratio" ∧
      ofFields? "find-exceeds-resource-ratio" v = some o) := by
  unfold ofFields? at hRead
  split at hRead
  case h_3 => exact .inl ⟨rfl, hRead⟩
  case h_4 => exact .inr (.inl ⟨rfl, hRead⟩)
  case h_5 => exact .inr (.inr ⟨rfl, hRead⟩)
  -- The other recipes have options of their own.
  all_goals
    cases hLimited <;>
      simp [unit?, Option.bind_eq_some_iff] at hRead

/- A configuration with another limit has the options with its text. -/
theorem Options.ofFields?_withLimit
    {pre post : List (Yaml.Value × Yaml.Value)}
    {w u : Yaml.Value}
    {recipe : String}
    {o : Options}
    (hLimited : o.Limited l)
    (hRead : ofFields? recipe
      (.mapping (pre ++ (.string l.field, w) :: post)) = some o)
    (hText : Fields.numberText? u = some text) :
    ofFields? recipe
        (.mapping (pre ++ (.string l.field, u) :: post)) =
      some (o.withLimit text) := by
  rcases recipe_of_limited hLimited hRead with
    ⟨rfl, hOptions⟩ | ⟨rfl, hOptions⟩ | ⟨rfl, hOptions⟩
  · rcases Option.map_eq_some_iff.mp hOptions with
      ⟨o, hQuantity, rfl⟩
    cases hLimited with
    | cap o q =>
        have hFilled := quantity?_fill hQuantity hText
        exact congrArg (Option.map capQuantity) hFilled
  · rcases Option.map_eq_some_iff.mp hOptions with
      ⟨o, hQuantity, rfl⟩
    cases hLimited with
    | find o q =>
        have hFilled := quantity?_fill hQuantity hText
        exact congrArg (Option.map findQuantity) hFilled
  · cases hLimited with
    | ratio kind old r => exact ofFields?_ratio_fill hOptions hText
    | cap _ _ | find _ _ =>
        simp [ofFields?_ratio, Option.bind_eq_some_iff] at hOptions

namespace OpenField

variable {f : OpenField} {x y z : Yaml.Content}

/- A configuration makes a recipe with a limit. -/
def Builds (f : OpenField) (x : Yaml.Content) (l : Limit) : Prop :=
  ∃ r, Recipe.ofContent (f.fill x) = .ok r ∧ r.limit? = some l

/- The options of a configuration with another limit. -/
theorem ofContent?_fill
    {o : Options}
    {u : Yaml.Value}
    (hKey : Fields.value? f.key = some (.string l.field))
    (hLimited : o.Limited l)
    (hGiven : Options.ofContent? (f.fill z) = some o)
    (hValue : Fields.value? x = some u)
    (hText : Fields.numberText? u = some text) :
    Options.ofContent? (f.fill x) = some (o.withLimit text) := by
  have hOther : l.field ≠ "recipe" := by
    cases l <;> simp [Limit.field]
  rcases Options.ofContent?_eq_some_iff.mp hGiven with
    ⟨_, _, hRest, hRead⟩
  simp only [fill, Fields.recipeAndRest?, Option.bind_eq_bind,
    Option.bind_eq_some_iff, Prod.exists,
    Option.ite_none_left_eq_some, Option.some.injEq, Prod.mk.injEq]
    at hRest
  rcases hRest with
    ⟨_, rest, hSplit, recipe, rfl, hTag, rfl, rfl⟩
  rcases Fields.splitEntries?_fill hKey hOther hSplit with
    ⟨pre, w, post, rfl, hFill⟩
  refine Options.ofContent?_eq_some_iff.mpr
    ⟨recipe, .mapping (pre ++ (.string l.field, u) :: post), ?_,
      Options.ofFields?_withLimit hLimited hRead hText⟩
  simp [fill, Fields.recipeAndRest?, hFill x u hValue, hTag]

/-
  A configuration with a limit builds, with another node for
  the limit, the limit that is read from the text of the node.
-/
theorem builds_iff
    {u : Yaml.Value}
    (hKey : Fields.value? f.key = some (.string l.field))
    (hGiven : f.Builds z l)
    (hValue : Fields.value? x = some u)
    (hText : Fields.numberText? u = some text) :
    f.Builds x l' ↔ l.read text = .ok l' := by
  rcases hGiven with ⟨r, hMade, hLimit⟩
  rcases Recipe.ofContent_eq_ok_iff.mp hMade with
    ⟨o, hOptions, hBuild⟩
  have hLimited := Options.limited_of_build hBuild hLimit
  rw [← hLimited.build_withLimit_iff, Builds, Recipe.ofContent,
    ofContent?_fill hKey hLimited hOptions hValue hText]

end OpenField

------------------------------------------------------------
-- Bare Numbers
------------------------------------------------------------

/- Whole numbers make limits that are as large as they are. -/
theorem Recipe.Limit.ofCount_inj {m : Nat} :
    l.ofCount m = l.ofCount n ↔ m = n := by
  constructor
  · intro hSame
    cases l with
    | quantity q =>
        injection hSame with hSame
        injection hSame with hSame
        exact Nat.eq_of_mul_eq_mul_right
          (Quantity.Unit.scale_pos .one) hSame
    | ratio r =>
        injection hSame with hSame
        injection hSame
  · rintro rfl
    rfl

/- A limit is read from the numeral of a number of 64 bits. -/
theorem Recipe.Limit.read_text_iff :
    l.read (Digits.text n) = .ok l' ↔
      n < Nat.pow 2 64 ∧ (l.field = "ratioLimit" → 1 ≤ n) ∧
        l' = l.ofCount n := by
  cases l with
  | quantity q =>
      have hSuffix : Digits.text n =
          Digits.text n ++ Quantity.Unit.one.suffix := by
        simp [Quantity.Unit.suffix]
      rw [Limit.read, hSuffix, bind_eq_ok_iff]
      simp only [Quantity.read_count_iff, Limit.field,
        Limit.ofCount, Except.ok.injEq]
      simp [eq_comm]
  | ratio r =>
      simp only [Limit.read, bind_eq_ok_iff, Ratio.read_count_iff,
        Limit.field, Limit.ofCount, Except.ok.injEq]
      simp [and_assoc, eq_comm]

namespace Fields

theorem value?_numeral (hBound : n < Nat.pow 2 64) :
    value? (.scalar none .plain (Digits.text n)) = some (.int n) := by
  have hPlain := Yaml.Value.ofPlain_numeral hBound
  simp [value?, scalar?, isTagged, Yaml.Value.ownTag?,
    Yaml.Value.ofScalar, Yaml.Value.ofUntagged, hPlain,
    Except.toOption]

theorem numberText?_short (hShort : n < 2 ^ 63) :
    numberText? (.int n) = some (Digits.text n) := by
  have hSigned : Digits.inSigned 64 n = true := by
    simp [Digits.inSigned]
    omega
  rw [numberText?, if_pos hSigned, Digits.textInt, Digits.writeInt,
    if_neg (by omega), Int.natAbs_natCast, Digits.text]

/- Longer ones are written with those of a binary64 number. -/
theorem numberText?_long (hLong : 2 ^ 63 ≤ n) :
    numberText? (.int n) =
      some (numberNotation.render (Binary64.ofNat n)) := by
  have hUnsigned : ¬ Digits.inSigned 64 n = true := by
    simp [Digits.inSigned]
    omega
  rw [numberText?, if_neg hUnsigned, Binary64.ofInt,
    Int.natAbs_natCast, Binary64.ofNat, decide_eq_false (by omega)]

/-
  The text of an integer is the numeral of a whole number near
  it.  It is the same number if the integer has 63 bits or is a
  multiple of ten thousand, and no multiple of a thousand is
  missed among the others.
-/
theorem exists_numberText?_int (hBound : n < Nat.pow 2 64) :
    ∃ m, numberText? (.int n) = some (Digits.text m) ∧
      (m = n ↔ n < 2 ^ 63 ∨
        numberNotation.render (Binary64.ofNat n) = Digits.text n) ∧
      (10000 ∣ n → m = n) ∧
      (m = n → n < 2 ^ 63 ∨ 1000 ∣ n) ∧
      n ≤ m + 3072 ∧ m ≤ n + 3072 := by
  by_cases hShort : n < 2 ^ 63
  · exact ⟨n, numberText?_short hShort, iff_of_true rfl (.inl hShort),
      fun _ => rfl, fun _ => .inl hShort, by omega, by omega⟩
  · have hPlain : numberNotation.WritesOut := ⟨fun _ => rfl, rfl⟩
    rcases hPlain.exists_render_long ⟨Nat.not_lt.mp hShort, hBound⟩
      with ⟨m, hText, hNear, hNear', hThousand, hTenThousand⟩
    refine ⟨m, ?_, ?_, hTenThousand,
      fun hSame => .inr (hSame ▸ hThousand), hNear, hNear'⟩
    · rw [numberText?_long (Nat.not_lt.mp hShort), hText]
    · rw [hText, or_iff_right hShort, Digits.text_inj]

end Fields

namespace OpenField

variable {f : OpenField} {x y z : Yaml.Content}

/-
  A limit that is configured as the text of a number of 64 bits
  is built.  The bare integer builds the same one exactly when
  it has 63 bits or the nearest binary64 number is written with
  its digits.  All multiples of ten thousand are, and nothing
  but multiples of a thousand.
-/
theorem builds_bare_iff
    (hKey : Fields.value? f.key = some (.string l.field))
    (hGiven : f.Builds z l)
    (hBare : Fields.value? x = some (.int n))
    (hQuoted : Fields.value? y = some (.string (Digits.text n)))
    (hBound : n < Nat.pow 2 64)
    (hPositive : l.field = "ratioLimit" → 1 ≤ n) :
    f.Builds y (l.ofCount n) ∧
    (f.Builds x (l.ofCount n) ↔ n < 2 ^ 63 ∨
      Fields.numberNotation.render (Binary64.ofNat n) =
        Digits.text n) ∧
    (10000 ∣ n → f.Builds x (l.ofCount n)) ∧
    (f.Builds x (l.ofCount n) → n < 2 ^ 63 ∨ 1000 ∣ n) ∧
    ∀ l', f.Builds x l' →
      ∃ m, l' = l.ofCount m ∧ n ≤ m + 3072 ∧ m ≤ n + 3072 := by
  rcases Fields.exists_numberText?_int hBound with
    ⟨m, hText, hExact, hMultiple, hSame, hNear, hNear'⟩
  have hBuilds : ∀ l', f.Builds x l' ↔ _ := fun l' =>
    (builds_iff hKey hGiven hBare hText).trans Limit.read_text_iff
  have hBuildsSame : f.Builds x (l.ofCount n) ↔ m = n := by
    rw [hBuilds, Limit.ofCount_inj]
    constructor
    · exact fun hRead => hRead.2.2.symm
    · rintro rfl
      exact ⟨hBound, hPositive, rfl⟩
  have hRead : l.read (Digits.text n) = .ok (l.ofCount n) :=
    Limit.read_text_iff.mpr ⟨hBound, hPositive, rfl⟩
  refine ⟨(builds_iff hKey hGiven hQuoted rfl).mpr hRead,
    ?_, ?_, ?_, ?_⟩
  · rw [hBuildsSame, hExact]
  · rw [hBuildsSame]
    exact hMultiple
  · rw [hBuildsSame]
    exact hSame
  · intro l' hMade
    exact ⟨m, ((hBuilds l').mp hMade).2.2, hNear, hNear'⟩

/- A long limit that is a multiple of ten thousand is kept. -/
theorem builds_bare_iff_memory :
    let n := 9223372036854780000
    let plain := Yaml.Content.scalar none .plain
    let f : OpenField :=
      ⟨none, [(plain "recipe", plain "cap-resource-value-to-maximum"),
        (plain "resourceValueType", plain "limits"),
        (plain "resourceType", plain "memory")],
        plain "resourceLimit", []⟩
    let limit := Limit.quantity ⟨n * 1000, .one⟩
    2 ^ 63 ≤ n ∧
      f.Builds (.scalar none .quoted (Digits.text n)) limit ∧
      f.Builds (plain (Digits.text n)) limit := by
  intro n plain f limit
  have hBound : n < Nat.pow 2 64 := by decide
  have hGiven :
      f.Builds (plain "2Gi") (.quantity ⟨2147483648000, .gibi⟩) := by
    have hLimit : Quantity.read "2Gi" = .ok ⟨2147483648000, .gibi⟩ :=
      eq_ok_of_toOption (by decide +kernel)
    exact ⟨_, Recipe.ofContent_eq_ok_iff.mpr
      ⟨.capQuantity ⟨.limits, .memory, "2Gi"⟩, by decide +kernel,
        QuantityLimit.build_eq_ok_iff.1.mpr ⟨_, hLimit, rfl⟩⟩, rfl⟩
  rcases builds_bare_iff (f := f) rfl hGiven
    (Fields.value?_numeral hBound)
    (y := .scalar none .quoted (Digits.text n)) rfl hBound
    (by decide) with ⟨hQuoted, _, hMultiple, _, _⟩
  exact ⟨by decide, hQuoted, hMultiple (by decide)⟩

/- The first integer beyond 2 to the power 63 builds another limit. -/
theorem bare_integer_builds_another_limit :
    let configuration (limit : String) :=
      "recipe: cap-resource-value-to-maximum\n" ++
        "resourceValueType: limits\nresourceType: memory\n" ++
        "resourceLimit: " ++ limit ++ "\n"
    ∃ bare quoted,
      Recipe.read (configuration "9223372036854775809") = .ok bare ∧
      Recipe.read (configuration "'9223372036854775809'") =
        .ok quoted ∧
      bare.limit? =
        some (.quantity ⟨9223372036854776000 * 1000, .one⟩) ∧
      quoted.limit? =
        some (.quantity ⟨9223372036854775809 * 1000, .one⟩) := by
  intro configuration
  have hMade : ∀ text limit q,
      Options.read (configuration text) =
        .ok (.capQuantity ⟨.limits, .memory, limit⟩) →
      Quantity.read limit = .ok q →
      Recipe.read (configuration text) =
        .ok (.capQuantity ⟨.limits, .memory, limit, q⟩) := by
    intro text limit q hOptions hLimit
    rw [Recipe.read, hOptions]
    exact QuantityLimit.build_eq_ok_iff.1.mpr ⟨q, hLimit, rfl⟩
  exact ⟨_, _,
    hMade _ "9223372036854776000" ⟨9223372036854776000 * 1000, .one⟩
      (eq_ok_of_toOption (by decide +kernel))
      (eq_ok_of_toOption (by decide +kernel)),
    hMade _ "9223372036854775809" ⟨9223372036854775809 * 1000, .one⟩
      (eq_ok_of_toOption (by decide +kernel))
      (eq_ok_of_toOption (by decide +kernel)),
    rfl, rfl⟩

end OpenField

end ManifestRecipes
