import ManifestRecipes.Proofs.Document
import ManifestRecipes.Proofs.Recipe.TextRule
import ManifestRecipes.Proofs.Run
import ManifestRecipes.Proofs.Spelling

/-
  Recipes that do not disturb each other.

  Four recipes replace texts at places of their own: the
  version of a document, the images and the quantities of its
  containers, and the external addresses of a service.  Each
  of them follows a rule for texts.  Recipes that are aimed at
  different texts may be applied in either order.

  Key definitions include:
    * `Recipe.textRule?`
    * `Aim`
    * `Recipe.aim?`

  Main declarations:
    * `VersionChange.yields_result`
    * `ExternalIpUpdate.yields_result`
    * `ImageUpdate.yields_result`
    * `QuantityLimit.yields_after`
    * `Recipe.yields_after`
    * `Recipe.after_comm`
    * `Recipe.runs_commute`
-/

namespace ManifestRecipes

variable {t u : Tree} {p : Path} {e : Edit}

------------------------------------------------------------
-- Versions
------------------------------------------------------------

namespace Tree

theorem textAt?_eq_some_iff {key text : String} :
    t.textAt? key = some text ↔
      ∃ s, t.lookup? [.field key] = some (.scalar s) ∧
        s.isNull = false ∧ s.text = text := by
  rw [textAt?_eq_lookup?, Option.bind_eq_some_iff]
  simp only [text?_eq_some_iff]
  constructor
  · intro hFound
    rcases hFound with ⟨_, hNode, s, rfl, hText⟩
    exact ⟨s, hNode, hText⟩
  · intro hFound
    rcases hFound with ⟨s, hNode, hText⟩
    exact ⟨_, hNode, s, rfl, hText⟩

end Tree

namespace VersionChange

/- The version is replaced if it is the old one. -/
def rule (r : VersionChange) : TextRule where
  Place _ p := p = path
  Faulty _ := False
  replacement? text := if text = r.old then some r.new else none
  place_congr _ := Iff.rfl
  not_place_kind _ := by decide

/- The rule asks for the new version where the old one is. -/
theorem asks_rule_iff (r : VersionChange) :
    r.rule.Asks t e ↔
      t.textAt? "apiVersion" = some r.old ∧ e = ⟨path, r.new⟩ := by
  have hSound : ¬ r.rule.Fails t := TextRule.not_fails fun _ => id
  rcases e with ⟨p, text⟩
  rw [TextRule.asks_iff_of_not_fails hSound,
    Tree.textAt?_eq_some_iff]
  constructor
  · intro hReplaces
    rcases hReplaces with ⟨s, ⟨rfl, hNode, hNull⟩, hText⟩
    simp only [rule, Option.ite_none_right_eq_some,
      Option.some.injEq] at hText
    rcases hText with ⟨hOld, rfl⟩
    exact ⟨⟨s, hNode, hNull, hOld⟩, rfl⟩
  · intro hOld
    rcases hOld with ⟨⟨s, hNode, hNull, hText⟩, hEdit⟩
    cases hEdit
    exact ⟨s, ⟨rfl, hNode, hNull⟩, if_pos hText⟩

/- Replacing the version follows the rule. -/
theorem yields_result (r : VersionChange) :
    r.rule.Yields t ((r.visit t).result t) := by
  by_cases hOld : t.textAt? "apiVersion" = some r.old
  · refine ⟨[⟨path, r.new⟩], ?_, ?_⟩
    · intro e
      rw [asks_rule_iff, List.mem_singleton]
      exact (and_iff_right hOld).symm
    · rw [visit, if_pos hOld]
      rfl
  · refine ⟨[], ?_, ?_⟩
    · intro e
      rw [asks_rule_iff]
      simp [hOld]
    · rw [visit, if_neg hOld]
      rfl

end VersionChange

------------------------------------------------------------
-- External Addresses
------------------------------------------------------------

namespace Service

/- The places of the external addresses of a service. -/
def AddressPath (t : Tree) (p : Path) : Prop :=
  isService t = true ∧
    ∃ i, p = [.field "spec", .field "externalIPs", .index i]

theorem isService_iff :
    isService t = true ↔ t.textAt? "kind" = some "Service" := by
  exact Resource.isKind_ofTree_iff (by decide)

theorem AddressPath.congr
    {t' : Tree}
    (hKind : t'.textAt? "kind" = t.textAt? "kind") :
    AddressPath t' p ↔ AddressPath t p := by
  rw [AddressPath, AddressPath, isService_iff, isService_iff, hKind]

/- The expression for the addresses spells their places. -/
theorem spells_externalIpPlaces_iff :
    Expression.Spells externalIpPlaces.segments p ↔
      ∃ i, p = [.field "spec", .field "externalIPs", .index i] := by
  constructor
  · intro hSpells
    cases hSpells with
    | root hSpells =>
        cases hSpells with
        | field _ hSpells =>
            cases hSpells with
            | field _ hSpells =>
                cases hSpells with
                | everyItem i hSpells =>
                    cases hSpells
                    exact ⟨i, rfl⟩
  · intro hPath
    rcases hPath with ⟨i, rfl⟩
    exact .root (.field _ (.field _ (.everyItem i .nil)))

/- The external addresses are the nodes at their places. -/
theorem mem_externalIps_iff
    {c : Cursor}
    (hKeys : t.UniqueKeys) :
    c ∈ externalIps t ↔ c.IsOf t ∧ AddressPath t c.path := by
  have hRooted : externalIpPlaces.Rooted := by
    refine ⟨_, rfl, ?_⟩
    decide
  unfold externalIps AddressPath
  by_cases hService : isService t = true
  · rw [if_pos hService, Expression.mem_select_iff hRooted hKeys,
      spells_externalIpPlaces_iff]
    simp [hService]
  · rw [if_neg hService]
    simp [hService]

end Service

namespace ExternalIpUpdate

/- An external address is replaced if it is the old one. -/
def rule (r : ExternalIpUpdate) : TextRule where
  Place := Service.AddressPath
  Faulty _ := False
  replacement? text := if text = r.old then some r.new else none
  place_congr := Service.AddressPath.congr
  not_place_kind _ := by simp [Service.AddressPath]

/- Replacing external addresses follows the rule. -/
theorem yields_result
    (r : ExternalIpUpdate)
    (hKeys : t.UniqueKeys) :
    r.rule.Yields t ((r.visit t).result t) := by
  have hSound : ¬ r.rule.Fails t := TextRule.not_fails fun _ => id
  refine ⟨_, ?_, rfl⟩
  intro e
  rcases e with ⟨p, text⟩
  rw [TextRule.asks_iff_of_not_fails hSound]
  simp only [List.mem_map, List.mem_filter, decide_eq_true_eq,
    Service.mem_externalIps_iff hKeys, Edit.mk.injEq]
  constructor
  · intro hMember
    rcases hMember with ⟨c, ⟨⟨hOf, hPlace⟩, hText⟩, rfl, rfl⟩
    rcases Tree.text?_eq_some_iff.mp hText with
      ⟨s, hNode, hNull, hOld⟩
    have hLookup := hOf.lookup?_path hKeys
    rw [hNode] at hLookup
    exact ⟨s, ⟨hPlace, hLookup, hNull⟩, if_pos hOld⟩
  · intro hReplaces
    rcases hReplaces with ⟨s, ⟨hPlace, hNode, hNull⟩, hText⟩
    simp only [rule, Option.ite_none_right_eq_some,
      Option.some.injEq] at hText
    rcases Cursor.exists_isOf_of_lookup? hNode with
      ⟨c, hOf, hPath, hScalar⟩
    refine ⟨c, ⟨⟨hOf, hPath ▸ hPlace⟩, ?_⟩, hPath, hText.2⟩
    exact Tree.text?_eq_some_iff.mpr
      ⟨s, hScalar, hNull, hText.1⟩

end ExternalIpUpdate

------------------------------------------------------------
-- Images
------------------------------------------------------------

namespace ImageUpdate

/- A reference that the pattern accepts is updated. -/
def rule (r : ImageUpdate) : TextRule where
  Place := Workload.ImagePath r.withInit
  Faulty _ := False
  replacement? text :=
    if r.pattern.accepts (ImageName.ofText text) then
      some (r.updated text)
    else none
  place_congr := Workload.ImagePath.congr
  not_place_kind _ := Workload.not_imagePath_kind

/- Updating images follows the rule. -/
theorem yields_result
    (r : ImageUpdate)
    (hKeys : t.UniqueKeys) :
    r.rule.Yields t ((r.visit t).result t) := by
  have hSound : ¬ r.rule.Fails t := TextRule.not_fails fun _ => id
  refine ⟨r.edits t, ?_, rfl⟩
  intro e
  rw [mem_edits_iff hKeys, TextRule.asks_iff_of_not_fails hSound]
  constructor
  · intro hMember
    rcases hMember with ⟨s, hAccepts, hText⟩
    refine ⟨s,
      ⟨hAccepts.place, hAccepts.node, hAccepts.text⟩, ?_⟩
    simp [rule, hAccepts.pattern, hText]
  · intro hReplaces
    rcases hReplaces with ⟨s, ⟨hPlace, hNode, hNull⟩, hText⟩
    simp only [rule, Option.ite_none_right_eq_some,
      Option.some.injEq] at hText
    exact ⟨s, ⟨hPlace, hNode, hNull, hText.1⟩, hText.2.symm⟩

end ImageUpdate

------------------------------------------------------------
-- Quantities
------------------------------------------------------------

namespace QuantityLimit

/- The text that takes the place of one above the limit. -/
def replacement? (l : QuantityLimit) (text : String) : Option String :=
  match Quantity.read text with
  | .ok q =>
      if l.limit.absolute < q.absolute then some (l.loweredText q)
      else none
  | .error _ => none

theorem replacement?_eq_some_iff
    {l : QuantityLimit}
    {before after : String} :
    l.replacement? before = some after ↔
      ∃ q, Quantity.read before = .ok q ∧
        l.limit.absolute < q.absolute ∧ after = l.loweredText q := by
  rw [replacement?]
  cases Quantity.read before with
  | error f => simp
  | ok q => simp [eq_comm]

/- A quantity above the limit is lowered, unless one cannot be read. -/
def rule (l : QuantityLimit) : TextRule where
  Place := Workload.QuantityPath l.bound l.kind
  Faulty text := ¬ ∃ n u, Quantity.Written text n u
  replacement? := l.replacement?
  place_congr := Workload.QuantityPath.congr
  not_place_kind _ := Workload.not_quantityPath_kind

/- The rule replaces what is above the limit. -/
theorem exists_replacement_iff
    (l : QuantityLimit)
    {text : String} :
    (∃ s, t.HoldsText (l.rule.Place t) p s ∧
      l.rule.replacement? s.text = some text) ↔
      ∃ s q, l.Above t p s q ∧ text = l.loweredText q := by
  constructor
  · intro hReplaces
    rcases hReplaces with ⟨s, hHolds, hText⟩
    rcases replacement?_eq_some_iff.mp hText with
      ⟨q, hRead, hExceeds, hLowered⟩
    exact ⟨s, q, ⟨hHolds, hRead, hExceeds⟩, hLowered⟩
  · intro hAbove
    rcases hAbove with ⟨s, q, ⟨hSelects, hRead, hExceeds⟩, hText⟩
    exact ⟨s, hSelects,
      replacement?_eq_some_iff.mpr ⟨q, hRead, hExceeds, hText⟩⟩

/- Lowering quantities follows the rule. -/
theorem yields_after
    (l : QuantityLimit)
    (hKeys : t.UniqueKeys) :
    l.rule.Yields t ((Recipe.capQuantity l).after t) := by
  have hFails : (∃ f, l.exceeding t = .error f) ↔ l.rule.Fails t :=
    isError_exceeding_iff hKeys
  unfold Recipe.after
  cases hDone : l.exceeding t with
  | error f =>
      have hVisit := visits_eq_error_iff.1.mpr hDone
      refine ⟨[], ?_, ?_⟩
      · intro e
        refine iff_of_false List.not_mem_nil ?_
        intro hAsks
        exact hAsks.sound (hFails.mp ⟨f, hDone⟩)
      · rw [Recipe.visit, hVisit]
        rfl
  | ok above =>
      have hSound : ¬ l.rule.Fails t := by
        rw [← hFails, hDone]
        simp
      refine ⟨above.map l.capEdit, ?_, ?_⟩
      · intro e
        rw [mem_capEdit_iff hKeys hDone, ← exists_replacement_iff,
          TextRule.asks_iff_of_not_fails hSound]
      · rw [Recipe.visit, cap_eq_ok hDone]
        rfl

end QuantityLimit

------------------------------------------------------------
-- Aims
------------------------------------------------------------

/- What a recipe that replaces texts is aimed at. -/
inductive Aim where
  | version
  | externalIp
  | image
  | quantity (bound : ResourceBound) (kind : ResourceKind)
deriving DecidableEq, Repr

namespace Aim

/- The names at the end of the paths of an aim, from the last one on. -/
def lastNames : Aim → List (Option String)
  | .version => [some "apiVersion"]
  | .externalIp => [none]
  | .image => [some "image"]
  | .quantity bound kind => [some kind.key, some bound.key]

/- A path ends like those at which an aim is. -/
def Ends (a : Aim) (p : Path) : Prop :=
  a.lastNames <+: p.reverse.map Path.Element.fieldName?

/- Aims whose paths end alike are the same. -/
theorem eq_of_shared_lastNames
    {a b : Aim}
    (hPrefix : a.lastNames <+: b.lastNames) :
    a = b := by
  have hOther : ∀ kind : ResourceKind,
      kind.key ≠ "apiVersion" ∧ kind.key ≠ "image" := by
    intro kind
    cases kind <;> simp [ResourceKind.key]
  have hOther' : ∀ kind : ResourceKind,
      "apiVersion" ≠ kind.key ∧ "image" ≠ kind.key :=
    fun kind => ⟨(hOther kind).1.symm, (hOther kind).2.symm⟩
  cases a with
  | quantity bound kind =>
      cases b with
      | quantity bound' kind' =>
          simp only [lastNames, List.cons_prefix_cons,
            Option.some.injEq, List.prefix_nil, and_true]
            at hPrefix
          rw [ResourceKind.key_injective hPrefix.1,
            ResourceBound.key_injective hPrefix.2]
      | _ => simp [lastNames, hOther] at hPrefix
  | _ => cases b <;> simp [lastNames, hOther'] at hPrefix ⊢

/- A path ends like those of one aim at most. -/
theorem eq_of_ends
    {a b : Aim}
    (hLeft : a.Ends p)
    (hRight : b.Ends p) :
    a = b := by
  rcases List.prefix_or_prefix_of_prefix hLeft hRight with
    hPrefix | hPrefix
  · exact eq_of_shared_lastNames hPrefix
  · exact (eq_of_shared_lastNames hPrefix).symm

end Aim

------------------------------------------------------------
-- Recipes With an Aim
------------------------------------------------------------

namespace Recipe

variable {a b r : Recipe} {m : Manifest}

/- The aim of a recipe that replaces texts. -/
def aim? : Recipe → Option Aim
  | .changeVersion _ => some .version
  | .updateExternalIp _ => some .externalIp
  | .updateImage _ => some .image
  | .capQuantity l => some (.quantity l.bound l.kind)
  | _ => none

/- The rule that such a recipe follows. -/
def textRule? : Recipe → Option TextRule
  | .changeVersion r => some r.rule
  | .updateExternalIp r => some r.rule
  | .updateImage r => some r.rule
  | .capQuantity l => some l.rule
  | _ => none

/- A recipe with an aim follows a rule whose places are at the aim. -/
theorem exists_rule_of_aim
    {aim : Aim}
    (hAim : r.aim? = some aim) :
    ∃ R, r.textRule? = some R ∧
      ∀ t p, R.Place t p → aim.Ends p := by
  cases r with
  | changeVersion r =>
      cases hAim
      refine ⟨_, rfl, ?_⟩
      rintro t p rfl
      simp [Aim.Ends, Aim.lastNames, VersionChange.path,
        Path.Element.fieldName?]
  | updateExternalIp r =>
      cases hAim
      refine ⟨_, rfl, ?_⟩
      rintro t p ⟨_, i, rfl⟩
      simp [Aim.Ends, Aim.lastNames, Path.Element.fieldName?]
  | updateImage r =>
      cases hAim
      refine ⟨_, rfl, ?_⟩
      rintro t p ⟨q, _, rfl⟩
      simp [Aim.Ends, Aim.lastNames, Path.Element.fieldName?]
  | capQuantity l =>
      cases hAim
      refine ⟨_, rfl, ?_⟩
      rintro t p ⟨_, ⟨q, _, rfl⟩, rfl⟩
      simp [Aim.Ends, Aim.lastNames, Path.Element.fieldName?]
  | _ => cases hAim

/- What comes of a document is what the rule yields. -/
theorem yields_after
    {R : TextRule}
    (hRule : r.textRule? = some R)
    (hKeys : t.UniqueKeys) :
    R.Yields t (r.after t) := by
  cases r with
  | changeVersion r =>
      cases hRule
      exact r.yields_result
  | updateExternalIp r =>
      cases hRule
      exact r.yields_result hKeys
  | updateImage r =>
      cases hRule
      exact r.yields_result hKeys
  | capQuantity l =>
      cases hRule
      exact l.yields_after hKeys
  | _ => cases hRule

/- The visit fails where the rule does. -/
theorem isError_visit_iff
    {R : TextRule}
    (hRule : r.textRule? = some R)
    (hKeys : t.UniqueKeys) :
    (∃ f, r.visit t = .error f) ↔ R.Fails t := by
  cases r with
  | capQuantity l =>
      cases hRule
      simp only [visit, QuantityLimit.visits_eq_error_iff.1]
      exact QuantityLimit.isError_exceeding_iff hKeys
  | changeVersion | updateExternalIp | updateImage =>
      cases hRule
      apply iff_of_false
      · intro hError
        cases hError with
        | intro f hError => cases hError
      · exact TextRule.not_fails fun _ => id
  | _ => cases hRule

/- Recipes with different aims follow rules that are apart. -/
theorem exists_rules_of_aims
    {aim aim' : Aim}
    (hLeft : a.aim? = some aim)
    (hRight : b.aim? = some aim')
    (hOther : aim ≠ aim') :
    ∃ A B, a.textRule? = some A ∧ b.textRule? = some B ∧
      A.Apart B := by
  rcases exists_rule_of_aim hLeft with ⟨A, hRule, hEnds⟩
  rcases exists_rule_of_aim hRight with ⟨B, hRule', hEnds'⟩
  refine ⟨A, B, hRule, hRule', ?_⟩
  intro t p hPlace hPlace'
  exact hOther (Aim.eq_of_ends (hEnds t p hPlace) (hEnds' t p hPlace'))

/- A document comes out the same in either order. -/
theorem after_comm
    {aim aim' : Aim}
    (hLeft : a.aim? = some aim)
    (hRight : b.aim? = some aim')
    (hOther : aim ≠ aim')
    (hKeys : t.UniqueKeys) :
    b.after (a.after t) = a.after (b.after t) := by
  rcases exists_rules_of_aims hLeft hRight hOther with
    ⟨A, B, hRule, hRule', hApart⟩
  have hFirst : A.Yields t (a.after t) := yields_after hRule hKeys
  have hFirst' : B.Yields t (b.after t) := yields_after hRule' hKeys
  apply TextRule.Yields.commute hApart hFirst _ hFirst'
  · exact yields_after hRule (hFirst'.uniqueKeys hKeys)
  · exact yields_after hRule' (hFirst.uniqueKeys hKeys)

/- A document on which one recipe fails fails behind the other. -/
theorem isError_visit_after_iff
    {aim aim' : Aim}
    (hLeft : a.aim? = some aim)
    (hRight : b.aim? = some aim')
    (hOther : aim ≠ aim')
    (hKeys : t.UniqueKeys) :
    (∃ f, b.visit (a.after t) = .error f) ↔
      ∃ f, b.visit t = .error f := by
  rcases exists_rules_of_aims hLeft hRight hOther with
    ⟨A, B, hRule, hRule', hApart⟩
  have hYields : A.Yields t (a.after t) := yields_after hRule hKeys
  rw [isError_visit_iff hRule' (hYields.uniqueKeys hKeys),
    isError_visit_iff hRule' hKeys]
  exact hYields.fails_iff hApart

/-
  Two recipes that replace texts and are of different kinds, or
  lower different quantities, make the same of a manifest in
  either order.  Each fails on the same documents whether the
  other one was applied before or not.
-/
theorem runs_commute
    (a b : Recipe)
    (aim aim' : Aim)
    (m : Manifest)
    (hLeft : a.aim? = some aim)
    (hRight : b.aim? = some aim')
    (hOther : aim ≠ aim')
    (hKeys : ∀ t ∈ m, t.UniqueKeys) :
    (b.run (a.run m).documents).documents =
      (a.run (b.run m).documents).documents ∧
    ∀ t ∈ m,
      ((∃ f, b.visit (a.after t) = .error f) ↔
        ∃ f, b.visit t = .error f) ∧
      ((∃ f, a.visit (b.after t) = .error f) ↔
        ∃ f, a.visit t = .error f) := by
  constructor
  · simp only [run, documents_runFrom, List.map_map]
    apply List.map_congr_left
    intro t hMember
    exact after_comm hLeft hRight hOther (hKeys t hMember)
  · intro t hMember
    have hUnique := hKeys t hMember
    exact ⟨isError_visit_after_iff hLeft hRight hOther hUnique,
      isError_visit_after_iff hRight hLeft hOther.symm hUnique⟩

/-
  A limit of memory and another tag for two pods, where the
  limit of the second cannot be read.
-/
theorem runs_commute_pods :
    let a : Recipe :=
      .capQuantity ⟨.limits, .memory, "64Mi", ⟨67108864000, .mebi⟩⟩
    let b : Recipe :=
      .updateImage ⟨⟨none, some "nginx", none⟩, none, none,
        some "v2", false⟩
    let pod (image memory : String) : Tree :=
      .mapping [("kind", .string "Pod"),
        ("spec", .mapping [("containers", .sequence [.mapping
          [("image", .string image), ("resources", .mapping
            [("limits", .mapping
              [("memory", .string memory)])])]])])]
    let m : Manifest := [pod "nginx" "128Mi", pod "nginx" "1.5Gi"]
    a.aim? = some (.quantity .limits .memory) ∧
    b.aim? = some .image ∧
    (∀ t ∈ m, t.UniqueKeys) ∧
    (b.run (a.run m).documents).documents =
      [pod "nginx:v2" "64Mi", pod "nginx:v2" "1.5Gi"] ∧
    (a.run (b.run m).documents).documents =
      [pod "nginx:v2" "64Mi", pod "nginx:v2" "1.5Gi"] := by
  intro a b pod m
  have hKeys : ∀ t ∈ m, t.UniqueKeys := by decide +kernel
  have hDone : (b.run (a.run m).documents).documents =
      [pod "nginx:v2" "64Mi", pod "nginx:v2" "1.5Gi"] := by
    decide +kernel
  have hSame := (runs_commute a b _ _ m rfl rfl (by decide) hKeys).1
  exact ⟨rfl, rfl, hKeys, hDone, hSame ▸ hDone⟩

end Recipe

end ManifestRecipes
