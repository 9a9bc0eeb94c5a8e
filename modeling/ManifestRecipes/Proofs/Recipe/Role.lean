import ManifestRecipes.Proofs.Failure
import ManifestRecipes.Proofs.Recipe.Visit
import ManifestRecipes.Recipe.Options

/-
  Rules that are added to roles.

  A rule is compared by what is listed under its keys and not
  by the order or the number of mentions.  What becomes of the
  rules of a role depends on their shape: a list without an
  equal rule grows by one, a scalar or nothing gives way to a
  list, and a mapping stays.  Afterwards there is an equal rule
  and nothing more to be done.

  Key definitions include:
    * `Tree.Lists`
    * `Rule.EqualTo`
    * `Rule.SameSets`
    * `Rule.GrantedBy`
    * `RuleAddition.Outcome`
    * `RuleAddition.Addresses`
    * `RuleAddition.Updates`

  Main declarations:
    * `Rule.isEqualTo_iff`
    * `Rule.equalTo_toTree`
    * `RuleAddition.withRule?_eq`
    * `RuleAddition.visit_adds_rule`
    * `RuleAddition.exists_covering_rule_of_unchanged`
-/

namespace ManifestRecipes

variable {t : Tree} {key text : String}

------------------------------------------------------------
-- Listed Texts
------------------------------------------------------------

/- The value under a key is a text or a sequence with the text. -/
def Tree.Lists (t : Tree) (key text : String) : Prop :=
  ∃ n, t.get? key = some n ∧
    (n.text? = some text ∨
      ∃ xs, n = .sequence xs ∧ ∃ x ∈ xs, x.text? = some text)

namespace Rule

variable {r r' : Rule}

theorem mem_itemsAt_iff :
    text ∈ itemsAt t key ↔ t.Lists key text := by
  unfold itemsAt Tree.Lists
  cases hValue : t.get? key with
  | none => simp
  | some n =>
      cases n with
      | scalar s => simp [textItems]
      | sequence xs => simp [textItems, Tree.text?]
      | mapping es => simp [textItems, Tree.text?]

theorem sameMembers_iff {xs ys : List String} :
    sameMembers xs ys = true ↔ ∀ x, x ∈ xs ↔ x ∈ ys := by
  simp only [sameMembers, Bool.and_eq_true, List.all_eq_true,
    List.contains_iff_mem]
  constructor
  · rintro ⟨hLeft, hRight⟩ x
    exact ⟨hLeft x, hRight x⟩
  · intro hSame
    exact ⟨fun x => (hSame x).mp, fun x => (hSame x).mpr⟩

------------------------------------------------------------
-- Equal Rules
------------------------------------------------------------

/-
  A node lists what a rule has, each as a set.  Its names are
  asked for only if the rule has any.
-/
structure EqualTo (r : Rule) (t : Tree) : Prop where
  apiGroups : ∀ x, t.Lists "apiGroups" x ↔ x ∈ r.apiGroups
  resources : ∀ x, t.Lists "resources" x ↔ x ∈ r.resources
  verbs : ∀ x, t.Lists "verbs" x ↔ x ∈ r.verbs
  resourceNames : ∀ ns, r.resourceNames? = some ns →
    ∀ x, t.Lists "resourceNames" x ↔ x ∈ ns

/- Equal rules are told by the texts under their keys. -/
theorem isEqualTo_iff :
    r.isEqualTo t = true ↔ r.EqualTo t := by
  simp only [isEqualTo, Bool.and_eq_true, Option.all_eq_true,
    sameMembers_iff, mem_itemsAt_iff]
  constructor
  · rintro ⟨⟨⟨hGroups, hResources⟩, hVerbs⟩, hNames⟩
    exact ⟨hGroups, hResources, hVerbs, hNames⟩
  · rintro ⟨hGroups, hResources, hVerbs, hNames⟩
    exact ⟨⟨⟨hGroups, hResources⟩, hVerbs⟩, hNames⟩

theorem lists_listTree_iff
    {xs : List String}
    (hValue : t.get? key = some (listTree xs)) :
    t.Lists key text ↔ text ∈ xs := by
  rw [← mem_itemsAt_iff, itemsAt, hValue]
  have hText : ∀ x, (Tree.string x).text? = some x :=
    fun _ => rfl
  simp [textItems, listTree, hText]

/- The node of a rule is an equal rule. -/
theorem equalTo_toTree (r : Rule) : r.EqualTo r.toTree := by
  rcases r with ⟨groups, resources, names?, verbs⟩
  have hGet : ∀ key xs,
      Tree.get? (toTree ⟨groups, resources, names?, verbs⟩) key =
          some (listTree xs) →
        ∀ x, Tree.Lists _ key x ↔ x ∈ xs :=
    fun _ _ hValue _ => lists_listTree_iff hValue
  refine ⟨hGet _ _ rfl, hGet _ _ rfl, hGet _ _ ?_, ?_⟩
  · cases names? <;> rfl
  · rintro ns ⟨⟩
    exact hGet _ _ rfl

/-
  Two rules have the same sets, whatever the order and the
  number of mentions.
-/
structure SameSets (r r' : Rule) : Prop where
  apiGroups : ∀ x, x ∈ r'.apiGroups ↔ x ∈ r.apiGroups
  resources : ∀ x, x ∈ r'.resources ↔ x ∈ r.resources
  verbs : ∀ x, x ∈ r'.verbs ↔ x ∈ r.verbs
  resourceNames : Option.Rel (fun ns ns' => ∀ x, x ∈ ns' ↔ x ∈ ns)
    r.resourceNames? r'.resourceNames?

/- They are equal to the same nodes. -/
theorem SameSets.equalTo_iff (hSame : r.SameSets r') :
    r'.EqualTo t ↔ r.EqualTo t := by
  have hNames :
      (∀ ns, r'.resourceNames? = some ns →
        ∀ x, t.Lists "resourceNames" x ↔ x ∈ ns) ↔
      ∀ ns, r.resourceNames? = some ns →
        ∀ x, t.Lists "resourceNames" x ↔ x ∈ ns := by
    have hRelated := hSame.resourceNames
    generalize r.resourceNames? = names? at hRelated ⊢
    generalize r'.resourceNames? = names'? at hRelated ⊢
    cases hRelated with
    | some hMembers => simp [hMembers]
    | none => simp
  constructor
  · rintro ⟨hGroups, hResources, hVerbs, hOwn⟩
    exact ⟨fun x => (hGroups x).trans (hSame.apiGroups x),
      fun x => (hResources x).trans (hSame.resources x),
      fun x => (hVerbs x).trans (hSame.verbs x), hNames.mp hOwn⟩
  · rintro ⟨hGroups, hResources, hVerbs, hOwn⟩
    exact ⟨fun x => (hGroups x).trans (hSame.apiGroups x).symm,
      fun x => (hResources x).trans (hSame.resources x).symm,
      fun x => (hVerbs x).trans (hSame.verbs x).symm,
      hNames.mpr hOwn⟩

end Rule

namespace RuleAddition

variable {r : RuleAddition} {recipe : Recipe} {rule rule' : Rule}
variable {rules : Tree} {rules? : Option Tree} {es : Mapping Tree}

------------------------------------------------------------
-- The Rules of a Role
------------------------------------------------------------

theorem hasRule_sequence_iff {xs : List Tree} :
    hasRule rule (.sequence xs) = true ↔
      ∃ x ∈ xs, rule.EqualTo x := by
  simp only [hasRule, List.any_eq_true, Rule.isEqualTo_iff]

/- What becomes of the rules of a role, if they change. -/
inductive Outcome (rule : Rule) :
    Option Tree → Option Tree → Prop where
  /- A list with an equal rule stays. -/
  | equal {xs : List Tree}
      (hEqual : ∃ x ∈ xs, rule.EqualTo x) :
      Outcome rule (some (.sequence xs)) none
  /- A list without one has the rule behind the others. -/
  | appended {xs : List Tree}
      (hNone : ¬ ∃ x ∈ xs, rule.EqualTo x) :
      Outcome rule (some (.sequence xs))
        (some (.sequence (xs ++ [rule.toTree])))
  /- A scalar gives way to a list of the rule. -/
  | replaced (s : Scalar) :
      Outcome rule (some (.scalar s))
        (some (.sequence [rule.toTree]))
  /- So does nothing. -/
  | created : Outcome rule none (some (.sequence [rule.toTree]))
  /- A mapping stays. -/
  | kept (ms : Mapping Tree) :
      Outcome rule (some (.mapping ms)) none

/- The new rules of a role, if they change. -/
def newRules? (rule : Rule) (rules? : Option Tree) : Option Tree :=
  match rules? with
  | none => some (.sequence [rule.toTree])
  | some rules =>
      if hasRule rule rules then none else extend? rule rules

theorem outcome_newRules? (rule : Rule) (rules? : Option Tree) :
    Outcome rule rules? (newRules? rule rules?) := by
  cases rules? with
  | none => exact .created
  | some rules =>
      cases rules with
      | scalar s => exact .replaced s
      | mapping ms => exact .kept ms
      | sequence xs =>
          by_cases hHas : hasRule rule (.sequence xs) = true
          · rw [newRules?, if_pos hHas]
            exact .equal (hasRule_sequence_iff.mp hHas)
          · rw [newRules?, if_neg hHas]
            exact .appended (mt hasRule_sequence_iff.mpr hHas)

/- New rules change no more. -/
theorem newRules?_again
    (hNew : newRules? rule rules? = some rules) :
    newRules? rule (some rules) = none := by
  have hAdded : ∀ xs, newRules? rule
      (some (.sequence (xs ++ [rule.toTree]))) = none := by
    intro xs
    rw [newRules?, if_pos]
    apply hasRule_sequence_iff.mpr
    exact ⟨rule.toTree, by simp, rule.equalTo_toTree⟩
  have hOutcome := outcome_newRules? rule rules?
  rw [hNew] at hOutcome
  cases hOutcome with
  | appended hNone => exact hAdded _
  | replaced s => exact hAdded []
  | created => exact hAdded []

/- Rules with the same sets change the same roles. -/
theorem newRules?_eq_none_iff (hSame : rule.SameSets rule') :
    newRules? rule' rules? = none ↔ newRules? rule rules? = none := by
  have hHas : ∀ rules, hasRule rule' rules = hasRule rule rules := by
    intro rules
    cases rules with
    | scalar s => rfl
    | mapping ms => rfl
    | sequence xs =>
        rw [Bool.eq_iff_iff, hasRule_sequence_iff,
          hasRule_sequence_iff]
        simp only [hSame.equalTo_iff]
  cases rules? with
  | none => simp [newRules?]
  | some rules =>
      rw [newRules?, newRules?, hHas rules]
      cases rules <;> simp [extend?]

/- The rules are set to the new ones. -/
theorem withRule?_eq (rule : Rule) (t : Tree) :
    withRule? rule t =
      t.entries?.bind fun es =>
        (newRules? rule (Mapping.get? "rules" es)).map fun rules =>
          .mapping (Mapping.insert "rules" rules es) := by
  cases t with
  | scalar s => rfl
  | sequence xs => rfl
  | mapping es =>
      rw [Tree.entries?, Option.bind_some, withRule?, Tree.get?]
      cases hRules : Mapping.get? "rules" es with
      | none => rfl
      | some rules =>
          simp only [newRules?]
          split_ifs with hHas
          · rfl
          · rw [Tree.replaceAt?_eq_map, Tree.lookup?_singleton,
              Tree.child?, hRules, Option.bind_some]
            congr 1
            funext n
            simp [Tree.setAt, Tree.child?, hRules, Tree.setChild]

------------------------------------------------------------
-- Addressed Roles
------------------------------------------------------------

/- A document is of the kind and the version and has a fitting name. -/
structure Addresses (r : RuleAddition) (t : Tree) : Prop where
  kind : t.textAt? "kind" = some r.kind
  version : t.textAt? "apiVersion" = some version
  name : ∃ m name, t.get? "metadata" = some m ∧
    m.textAt? "name" = some name ∧
    Glob.accepts r.name.toList name.toList = true

theorem getD_eq_iff {text? : Option String} (hGiven : text ≠ "") :
    text?.getD "" = text ↔ text? = some text := by
  cases text? with
  | none => simpa using hGiven.symm
  | some s => simp

/- Addressed documents are changed. -/
theorem applies_iff (hKind : r.kind ≠ "") :
    r.applies t = true ↔ r.Addresses t := by
  have hName : (Resource.ofTree t).metadata.name? =
      (t.get? "metadata").bind (·.textAt? "name") := by
    change ((t.get? "metadata").getD Tree.null).textAt? "name" = _
    cases t.get? "metadata" <;> rfl
  simp only [applies, Bool.and_eq_true, Resource.isKind,
    Resource.isVersion, Option.all_some, decide_eq_true_eq, hName,
    Option.any_eq_true, Option.bind_eq_some_iff]
  simp only [Resource.ofTree, getD_eq_iff hKind,
    getD_eq_iff (show version ≠ "" by decide)]
  constructor
  · rintro ⟨⟨hOwn, hVersion⟩, name, ⟨m, hMetadata, hText⟩, hGlob⟩
    exact ⟨hOwn, hVersion, m, name, hMetadata, hText, hGlob⟩
  · rintro ⟨hOwn, hVersion, m, name, hMetadata, hText, hGlob⟩
    exact ⟨⟨hOwn, hVersion⟩, name, ⟨m, hMetadata, hText⟩, hGlob⟩

/- Only a mapping is addressed. -/
theorem Addresses.exists_mapping (hAddresses : r.Addresses t) :
    ∃ es, t = .mapping es := by
  cases t with
  | mapping es => exact ⟨es, rfl⟩
  | scalar s => cases hAddresses.kind
  | sequence xs => cases hAddresses.kind

/- Other rules do not matter to it. -/
theorem Addresses.insert_rules
    (hAddresses : r.Addresses (.mapping es))
    (rules : Tree) :
    r.Addresses (.mapping (Mapping.insert "rules" rules es)) := by
  have hKept : ∀ key, key ≠ "rules" →
      Tree.get? (.mapping (Mapping.insert "rules" rules es)) key =
        Tree.get? (.mapping es) key :=
    fun _ hOther => Mapping.get?_insert_of_ne hOther
  rcases hAddresses with ⟨hKind, hVersion, hName⟩
  refine ⟨?_, ?_, ?_⟩
  · rwa [Tree.textAt?, hKept "kind" (by decide)]
  · rwa [Tree.textAt?, hKept "apiVersion" (by decide)]
  · rwa [hKept "metadata" (by decide)]

theorem ne_empty_of_role
    {kind : String}
    (hRole : kind ∈ ["Role", "ClusterRole"]) :
    kind ≠ "" := by
  rintro rfl
  exact absurd hRole (by decide)

/- Options with a role and a verb make the recipe. -/
theorem build_eq_ok_iff :
    Options.build (.addRule r) = .ok recipe ↔
      (r.kind ∈ ["Role", "ClusterRole"] ∧ r.rule.verbs ≠ []) ∧
        recipe = .addRule r := by
  have hChecked : ∀ r', Options.ruleAddition r = .ok r' ↔
      (r.kind ∈ ["Role", "ClusterRole"] ∧ r.rule.verbs ≠ []) ∧
        r = r' := by
    intro r'
    unfold Options.ruleAddition
    split_ifs with hKind hVerbs
    · have hNone := List.isEmpty_iff.mp hVerbs
      simp [hNone]
    · rw [List.isEmpty_iff] at hVerbs
      rw [Except.ok.injEq]
      exact (and_iff_right ⟨hKind, hVerbs⟩).symm
    · constructor
      · intro hError
        cases hError
      · intro hAccepted
        exact absurd hAccepted.1.1 hKind
  change (Options.ruleAddition r >>= fun r' => .ok (.addRule r')) =
    .ok recipe ↔ _
  simp only [bind_eq_ok_iff, hChecked, Except.ok.injEq]
  constructor
  · rintro ⟨_, ⟨hAccepted, rfl⟩, rfl⟩
    exact ⟨hAccepted, rfl⟩
  · rintro ⟨hAccepted, rfl⟩
    exact ⟨r, ⟨hAccepted, rfl⟩, rfl⟩

theorem visit_eq
    (hKind : r.kind ≠ "")
    (hAddresses : r.Addresses (.mapping es)) :
    r.visit (.mapping es) =
      Visit.rewritten
        ((newRules? r.rule (Mapping.get? "rules" es)).map fun rules =>
          .mapping (Mapping.insert "rules" rules es)) := by
  rw [visit, if_pos ((applies_iff hKind).mpr hAddresses),
    withRule?_eq]
  rfl

------------------------------------------------------------
-- Added Rules
------------------------------------------------------------

/-
  A role is rewritten by setting its rules to the outcome, in
  place or behind the other entries, or else stays.
-/
def Updates
    (rule : Rule)
    (es : Mapping Tree)
    (root? : Option Tree) : Prop :=
  ∃ rules?, Outcome rule (Mapping.get? "rules" es) rules? ∧
    Option.Rel
      (fun rules t' => ∃ es', t' = .mapping es' ∧
        Mapping.SetsEntry "rules" rules es es')
      rules? root?

/- The visit of an addressed document does so. -/
theorem updates_visit
    (hKind : r.kind ≠ "")
    (hAddresses : r.Addresses (.mapping es)) :
    Updates r.rule es (r.visit (.mapping es)).root? := by
  refine ⟨_, outcome_newRules? _ _, ?_⟩
  rw [visit_eq hKind hAddresses]
  cases newRules? r.rule (Mapping.get? "rules" es) with
  | none => exact .none
  | some rules =>
      exact .some ⟨_, rfl, Mapping.setsEntry_insert _ _ _⟩

/- Another visit changes nothing. -/
theorem visit_again
    (hKind : r.kind ≠ "")
    (hAddresses : r.Addresses (.mapping es)) :
    r.visit ((r.visit (.mapping es)).result (.mapping es)) =
      Visit.unchanged := by
  have hFirst := visit_eq hKind hAddresses
  cases hNew : newRules? r.rule (Mapping.get? "rules" es) with
  | none =>
      rw [hNew] at hFirst
      rw [hFirst]
      exact hFirst
  | some rules =>
      rw [hNew] at hFirst
      have hSecond := visit_eq hKind
        (hAddresses.insert_rules rules)
      rw [Mapping.get?_insert_self, newRules?_again hNew] at hSecond
      rw [hFirst]
      exact hSecond

/- Rules with the same sets rewrite the same documents. -/
theorem visit_eq_none_iff (hSame : r.rule.SameSets rule') :
    ((RuleAddition.mk r.kind r.name rule').visit t).root? = none ↔
      (r.visit t).root? = none := by
  have hApplies :
      (RuleAddition.mk r.kind r.name rule').applies t =
        r.applies t := rfl
  unfold visit
  rw [hApplies]
  split_ifs with hOwn
  · rw [withRule?_eq, withRule?_eq]
    cases t.entries? with
    | none => exact Iff.rfl
    | some es =>
        simp [Visit.rewritten, newRules?_eq_none_iff hSame]
  · exact Iff.rfl

/- What is rewritten is another document afterwards. -/
theorem truthful_visit (r : RuleAddition) (t : Tree) :
    (r.visit t).Truthful t := by
  unfold visit
  by_cases hApplies : r.applies t = true
  · rw [if_pos hApplies]
    intro t' hRule hKept
    change withRule? r.rule t = some t' at hRule
    rw [withRule?_eq, Option.bind_eq_some_iff] at hRule
    rcases hRule with ⟨es, hEntries, hSet⟩
    rcases Option.map_eq_some_iff.mp hSet with ⟨rules, hNew, rfl⟩
    rw [← hKept, Tree.entries?, Option.some.injEq] at hEntries
    rw [← hEntries, Mapping.get?_insert_self] at hNew
    rw [newRules?_again hNew] at hNew
    cases hNew
  · rw [if_neg hApplies]
    exact Visit.truthful_of_root?_eq_none rfl

/-
  A configured rule is added to an addressed document as its
  rules ask for, and all other entries stay as they are.
  Afterwards there is nothing more to be added.  The order and
  the number of mentions in the lists of the rule do not matter
  to whether a document is rewritten.
-/
theorem visit_adds_rule
    (r : RuleAddition)
    (recipe : Recipe)
    (t : Tree)
    (hBuild : Options.build (.addRule r) = .ok recipe)
    (hAddresses : r.Addresses t) :
    (∃ es v, t = .mapping es ∧ recipe.visit t = .ok v ∧
      v.findings = Findings.empty ∧ Updates r.rule es v.root? ∧
      recipe.visit (v.result t) = .ok Visit.unchanged) ∧
    ∀ rule', r.rule.SameSets rule' →
      ∃ recipe',
        Options.build (.addRule ⟨r.kind, r.name, rule'⟩) =
          .ok recipe' ∧
        ∀ t', ∃ v v', recipe.visit t' = .ok v ∧
          recipe'.visit t' = .ok v' ∧
          (v'.root? = none ↔ v.root? = none) := by
  rcases build_eq_ok_iff.mp hBuild with ⟨⟨hRole, hVerbs⟩, rfl⟩
  have hKind := ne_empty_of_role hRole
  constructor
  · rcases hAddresses.exists_mapping with ⟨es, rfl⟩
    refine ⟨es, r.visit (.mapping es), rfl, rfl, ?_,
      updates_visit hKind hAddresses,
      congrArg _ (visit_again hKind hAddresses)⟩
    rw [visit_eq hKind hAddresses]
    rfl
  · intro rule' hSame
    have hVerbs' : rule'.verbs ≠ [] := by
      rcases List.exists_mem_of_ne_nil _ hVerbs with ⟨verb, hVerb⟩
      exact List.ne_nil_of_mem ((hSame.verbs verb).mpr hVerb)
    refine ⟨_, build_eq_ok_iff.mpr ⟨⟨hRole, hVerbs'⟩, rfl⟩, ?_⟩
    intro t'
    exact ⟨_, _, rfl, rfl, visit_eq_none_iff hSame⟩

/-
  A rule with names is added behind one without, and the entry
  behind the rules stays.
-/
theorem visit_adds_rule_role :
    let r : RuleAddition :=
      ⟨"ClusterRole", "pod-*",
        ⟨[""], ["pods"], some ["web"], ["list", "get"]⟩⟩
    let list (xs : List String) : Tree :=
      .sequence (xs.map Tree.string)
    let old : Tree :=
      .mapping [("apiGroups", .string ""),
        ("resources", list ["pods"]), ("verbs", list ["get", "list"])]
    let role (rules : List Tree) : Tree :=
      .mapping [("kind", .string "ClusterRole"),
        ("apiVersion", .string "rbac.authorization.k8s.io/v1"),
        ("metadata", .mapping [("name", .string "pod-reader")]),
        ("rules", .sequence rules), ("note", Tree.null)]
    Options.build (.addRule r) = .ok (.addRule r) ∧
    r.Addresses (role [old]) ∧
    r.visit (role [old]) =
      Visit.rewritten (some (role [old, r.rule.toTree])) ∧
    r.visit (role [old, r.rule.toTree]) = Visit.unchanged := by
  intro r list old role
  have hBuild : Options.build (.addRule r) = .ok (.addRule r) :=
    build_eq_ok_iff.mpr ⟨⟨by decide, by decide⟩, rfl⟩
  have hAddresses : r.Addresses (role [old]) :=
    ⟨rfl, rfl, _, "pod-reader", rfl, rfl, by decide⟩
  have hDone : r.visit (role [old]) =
      Visit.rewritten (some (role [old, r.rule.toTree])) := by
    decide +kernel
  rcases visit_adds_rule r _ _ hBuild hAddresses with
    ⟨⟨es, v, _, hVisit, _, _, hAgain⟩, _⟩
  rw [Recipe.visit, hDone, Except.ok.injEq] at hVisit
  rw [← hVisit] at hAgain
  exact ⟨hBuild, hAddresses, hDone, Except.ok.inj hAgain⟩

end RuleAddition

------------------------------------------------------------
-- Skipped Rules
------------------------------------------------------------

namespace Rule

variable {r : Rule}

/- A node lists the groups, resources and verbs of a rule. -/
structure CoveredBy (r : Rule) (t : Tree) : Prop where
  apiGroups : ∀ x ∈ r.apiGroups, t.Lists "apiGroups" x
  resources : ∀ x ∈ r.resources, t.Lists "resources" x
  verbs : ∀ x ∈ r.verbs, t.Lists "verbs" x

/-
  A node is not restricted to names, or it is to some of which
  the rule asks for no others.
-/
def NamesGranted (r : Rule) (t : Tree) : Prop :=
  (∀ x, ¬ t.Lists "resourceNames" x) ∨
    ∃ ns, r.resourceNames? = some ns ∧
      ∀ x ∈ ns, t.Lists "resourceNames" x

/- A node grants all that a rule asks for. -/
structure GrantedBy (r : Rule) (t : Tree) : Prop
    extends CoveredBy r t where
  names : NamesGranted r t

/- An equal rule covers the rule, and grants it if it has names. -/
theorem EqualTo.coveredBy (hEqual : r.EqualTo t) :
    r.CoveredBy t ∧
      (r.resourceNames?.isSome = true → r.NamesGranted t) := by
  refine ⟨⟨fun x => (hEqual.apiGroups x).mpr,
    fun x => (hEqual.resources x).mpr,
    fun x => (hEqual.verbs x).mpr⟩, ?_⟩
  intro hNames
  rcases Option.isSome_iff_exists.mp hNames with ⟨ns, hNames⟩
  exact Or.inr ⟨ns, hNames,
    fun x => (hEqual.resourceNames ns hNames x).mpr⟩

end Rule

namespace RuleAddition

/-
  Where a role with a list of rules stays as it is, one of them
  has the groups, the resources and the verbs of the configured
  rule.  It grants the names as well if the configured rule has
  any, but a rule without names is skipped for one with them.
-/
theorem exists_covering_rule_of_unchanged
    (r : RuleAddition)
    (recipe : Recipe)
    (t : Tree)
    (xs : List Tree)
    (v : Visit)
    (hBuild : Options.build (.addRule r) = .ok recipe)
    (hAddresses : r.Addresses t)
    (hRules : t.get? "rules" = some (.sequence xs))
    (hVisit : recipe.visit t = .ok v)
    (hSame : v.result t = t) :
    ∃ x ∈ xs, r.rule.CoveredBy x ∧
      (r.rule.resourceNames?.isSome = true →
        r.rule.NamesGranted x) := by
  rcases build_eq_ok_iff.mp hBuild with ⟨⟨hRole, _⟩, rfl⟩
  cases hVisit
  have hKind := ne_empty_of_role hRole
  have hNone : (r.visit t).root? = none := by
    rw [← Option.not_isSome_iff_eq_none,
      (r.truthful_visit t).isSome_iff]
    exact not_not_intro hSame
  rcases hAddresses.exists_mapping with ⟨es, rfl⟩
  rw [Tree.get?] at hRules
  rcases updates_visit hKind hAddresses with
    ⟨rules?, hOutcome, hUpdated⟩
  rw [hNone] at hUpdated
  rw [hRules] at hOutcome
  cases hUpdated
  cases hOutcome with
  | equal hEqual =>
      rcases hEqual with ⟨x, hMember, hEqual⟩
      exact ⟨x, hMember, hEqual.coveredBy⟩

/- A rule with names is not added again in another order. -/
theorem exists_covering_rule_of_unchanged_role :
    let r : RuleAddition :=
      ⟨"Role", "*",
        ⟨[""], ["pods"], some ["web", "api"], ["get", "list"]⟩⟩
    let list (xs : List String) : Tree :=
      .sequence (xs.map Tree.string)
    let x : Tree :=
      .mapping [("apiGroups", .string ""),
        ("resources", list ["pods", "pods"]),
        ("resourceNames", list ["api", "web"]),
        ("verbs", list ["list", "get"])]
    let t : Tree :=
      .mapping [("apiVersion", .string "rbac.authorization.k8s.io/v1"),
        ("kind", .string "Role"),
        ("metadata", .mapping [("name", .string "reader")]),
        ("rules", .sequence [Tree.null, x])]
    Options.build (.addRule r) = .ok (.addRule r) ∧
    r.Addresses t ∧
    t.get? "rules" = some (.sequence [Tree.null, x]) ∧
    r.visit t = Visit.unchanged ∧
    ∃ y ∈ [Tree.null, x], r.rule.CoveredBy y ∧
      (r.rule.resourceNames?.isSome = true →
        r.rule.NamesGranted y) := by
  intro r list x t
  have hBuild : Options.build (.addRule r) = .ok (.addRule r) :=
    build_eq_ok_iff.mpr ⟨⟨by decide, by decide⟩, rfl⟩
  have hAddresses : r.Addresses t :=
    ⟨rfl, rfl, _, "reader", rfl, rfl, by decide⟩
  have hVisit : r.visit t = Visit.unchanged := by
    decide +kernel
  exact ⟨hBuild, hAddresses, rfl, hVisit,
    exists_covering_rule_of_unchanged r _ t _ _ hBuild hAddresses
      rfl (congrArg Except.ok hVisit) rfl⟩

/- A rule without names is skipped for one that grants less. -/
theorem skips_rule_without_names :
    let r : RuleAddition :=
      ⟨"Role", "*", ⟨[""], ["pods"], none, ["get"]⟩⟩
    let list (text : String) : Tree := .sequence [.string text]
    let x : Tree :=
      .mapping [("apiGroups", list ""), ("resources", list "pods"),
        ("resourceNames", list "web"), ("verbs", list "get")]
    let t : Tree :=
      .mapping [("apiVersion", .string "rbac.authorization.k8s.io/v1"),
        ("kind", .string "Role"),
        ("metadata", .mapping [("name", .string "reader")]),
        ("rules", .sequence [x])]
    Options.build (.addRule r) = .ok (.addRule r) ∧
    r.Addresses t ∧
    t.get? "rules" = some (.sequence [x]) ∧
    r.visit t = Visit.unchanged ∧
    ¬ ∃ y ∈ [x], r.rule.GrantedBy y := by
  intro r list x t
  refine ⟨build_eq_ok_iff.mpr ⟨⟨by decide, by decide⟩, rfl⟩,
    ⟨rfl, rfl, _, "reader", rfl, rfl, by decide⟩, rfl,
    by decide +kernel, ?_⟩
  rintro ⟨y, hMember, hGranted⟩
  rw [List.mem_singleton] at hMember
  subst hMember
  have hListed : Tree.Lists x "resourceNames" "web" :=
    Rule.mem_itemsAt_iff.mp (by decide)
  rcases hGranted.names with hUnrestricted | ⟨ns, hNames, _⟩
  · exact hUnrestricted "web" hListed
  · cases hNames

end RuleAddition

end ManifestRecipes
