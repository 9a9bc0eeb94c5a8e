import ManifestRecipes.Recipe.Visit
import ManifestRecipes.Proofs.FirstOccurrence

/-
  What findings are made.

  Adding findings loses none of them and brings no others.
  Different findings stay in the order in which they are added.

  Key definitions include:
    * `Visit.Flags`

  Main declarations:
    * `Findings.entries_addAll`
    * `Findings.mem_ofList_iff`
    * `Findings.mem_ofNodes_iff`
    * `Findings.entries_ofList`
    * `Findings.entries_ofNodes`
    * `Findings.entries_ofNodes_filter`
    * `Findings.messagesAt_of_entries`
    * `Findings.messagesAt_ofNodes`
    * `Visit.flags_found_iff`
-/

namespace ManifestRecipes

namespace Findings

variable {f : Finding}

theorem entries_add (fs : Findings) (f : Finding) :
    (fs.add f).1.entries =
      if f ∈ fs.entries then fs.entries else fs.entries ++ [f] := by
  unfold add
  split_ifs <;> rfl

theorem addAll_append
    (fs : Findings)
    (more others : List Finding) :
    fs.addAll (more ++ others) = (fs.addAll more).addAll others := by
  exact List.foldl_append

/- Of findings that are added, the first of equal ones are kept. -/
theorem entries_addAll (fs : Findings) (more : List Finding) :
    (fs.addAll more).entries = (fs.entries ++ more).eraseDups := by
  induction more using List.reverseRecOn with
  | nil =>
      rw [List.append_nil, eraseDups_eq_self fs.nodup]
      rfl
  | append_singleton more f ih =>
      rw [addAll_append, ← List.append_assoc,
        eraseDups_append_singleton]
      change ((fs.addAll more).add f).1.entries = _
      rw [entries_add, ih]
      simp only [List.mem_eraseDups]

theorem mem_addAll_iff
    {fs : Findings}
    {more : List Finding} :
    f ∈ (fs.addAll more).entries ↔ f ∈ fs.entries ∨ f ∈ more := by
  rw [entries_addAll, List.mem_eraseDups, List.mem_append]

/- The findings of a list are its members. -/
theorem mem_ofList_iff {more : List Finding} :
    f ∈ (ofList more).entries ↔ f ∈ more := by
  simp [ofList, mem_addAll_iff, empty]

/- The findings of nodes are the messages about them. -/
theorem mem_ofNodes_iff
    {cs : List Cursor}
    {message? : Cursor → Option String} :
    f ∈ (ofNodes cs message?).entries ↔
      ∃ c ∈ cs, c.path = f.path ∧ message? c = some f.message := by
  rcases f with ⟨path, message⟩
  simp only [ofNodes, mem_ofList_iff, List.mem_filterMap,
    Option.map_eq_some_iff, Finding.mk.injEq]
  constructor
  · rintro ⟨c, hMember, _, hMessage, rfl, rfl⟩
    exact ⟨c, hMember, rfl, hMessage⟩
  · rintro ⟨c, hMember, rfl, hMessage⟩
    exact ⟨c, hMember, message, hMessage, rfl, rfl⟩

theorem entries_ofList_eq_eraseDups (more : List Finding) :
    (ofList more).entries = more.eraseDups := by
  exact entries_addAll empty more

/- The findings of a list without duplicates are the list. -/
theorem entries_ofList
    {more : List Finding}
    (hNew : more.Nodup) :
    (ofList more).entries = more := by
  rw [entries_ofList_eq_eraseDups, eraseDups_eq_self hNew]

/-
  Findings that are made of nodes at different paths stand in
  their order when their own paths tell the nodes apart.
-/
theorem entries_ofList_filterMap
    {cs : List Cursor}
    {found? : Cursor → Option Finding}
    (place : Path → Path)
    (hPlace : ∀ c ∈ cs, ∀ f, found? c = some f → f.path = place c.path)
    (hApart : Function.Injective place)
    (hPaths : (cs.map Cursor.path).Nodup) :
    (ofList (cs.filterMap found?)).entries = cs.filterMap found? := by
  apply entries_ofList
  rw [List.Nodup, List.pairwise_filterMap]
  apply (List.pairwise_map.mp hPaths).imp_of_mem
  intro c d hLeft hRight hDifferent f hFound g hFound' hSame
  apply hDifferent
  apply hApart
  rw [← hPlace c hLeft f hFound, ← hPlace d hRight g hFound', hSame]

/- The findings of nodes at different paths stand in their order. -/
theorem entries_ofNodes
    {cs : List Cursor}
    {message? : Cursor → Option String}
    (hPaths : (cs.map Cursor.path).Nodup) :
    (ofNodes cs message?).entries =
      cs.filterMap fun c =>
        (message? c).map (Finding.mk c.path) := by
  refine entries_ofList_filterMap id ?_ Function.injective_id hPaths
  intro c _ f hFound
  rcases Option.map_eq_some_iff.mp hFound with ⟨_, _, rfl⟩
  rfl

/- Where there is one message only, it is found at the nodes that have one. -/
theorem entries_ofNodes_filter
    {cs : List Cursor}
    {message? : Cursor → Option String}
    {message : String}
    (hPaths : (cs.map Cursor.path).Nodup)
    (hMessage : ∀ c m, message? c = some m → m = message) :
    (ofNodes cs message?).entries =
      (cs.filter fun c => (message? c).isSome).map fun c =>
        ⟨c.path, message⟩ := by
  rw [entries_ofNodes hPaths]
  clear hPaths
  induction cs with
  | nil => rfl
  | cons c cs ih =>
      rw [List.filterMap_cons, List.filter_cons, ih]
      cases hSome : message? c with
      | none => rfl
      | some m =>
          rw [hMessage c m hSome]
          rfl

/- So do findings that all have one message. -/
theorem entries_ofNodes_const
    {cs : List Cursor}
    {message : String}
    (hPaths : (cs.map Cursor.path).Nodup) :
    (ofNodes cs fun _ => some message).entries =
      cs.map fun c => ⟨c.path, message⟩ := by
  rw [entries_ofNodes hPaths]
  exact congrFun List.filterMap_eq_map _

theorem messagesAt_eq_nil
    {fs : Findings}
    {p : Path}
    (hNone : ∀ f ∈ fs.entries, f.path ≠ p) :
    fs.messagesAt p = [] := by
  rw [messagesAt, List.map_eq_nil_iff, List.filter_eq_nil_iff]
  intro f hMember
  simpa using hNone f hMember

/-
  The messages at the place of a node are those that are made of
  it, when places tell nodes apart.
-/
theorem messagesAt_of_entries
    {fs : Findings}
    {cs : List Cursor}
    {found? : Cursor → Option Finding}
    (place : Path → Path)
    (hEntries : fs.entries = cs.filterMap found?)
    (hPlace : ∀ c ∈ cs, ∀ f, found? c = some f → f.path = place c.path)
    (hApart : Function.Injective place)
    (hPaths : (cs.map Cursor.path).Nodup)
    {c : Cursor}
    (hMember : c ∈ cs) :
    fs.messagesAt (place c.path) =
      ((found? c).map Finding.message).toList := by
  have hOthers : ∀ ds : List Cursor, ds ⊆ cs →
      c.path ∉ ds.map Cursor.path →
        (ds.filterMap found?).filter (·.path = place c.path) = [] := by
    intro ds hSubset hAbsent
    rw [List.filter_eq_nil_iff]
    intro f hFound hSame
    rcases List.mem_filterMap.mp hFound with ⟨d, hIn, hFrom⟩
    have hPath := hPlace d (hSubset hIn) f hFrom
    rw [of_decide_eq_true hSame] at hPath
    exact hAbsent (hApart hPath ▸ List.mem_map_of_mem hIn)
  have hHere := hPlace c hMember
  rcases List.append_of_mem hMember with ⟨ds, es, rfl⟩
  rw [List.map_append, List.map_cons, List.nodup_append,
    List.nodup_cons] at hPaths
  rcases hPaths with ⟨_, ⟨hLater, _⟩, hEarlier⟩
  have hBefore := hOthers ds (by simp) fun hIn =>
    hEarlier _ hIn _ List.mem_cons_self rfl
  have hAfter := hOthers es (by simp) hLater
  rw [messagesAt, hEntries, List.filterMap_append, List.filterMap_cons,
    List.filter_append, hBefore, List.nil_append]
  cases hFound : found? c with
  | none => simp [hAfter]
  | some f => simp [hAfter, hHere f hFound]

/- The messages at the path of a node are the one that is made of it. -/
theorem messagesAt_ofNodes
    {cs : List Cursor}
    {message? : Cursor → Option String}
    (hPaths : (cs.map Cursor.path).Nodup)
    {c : Cursor}
    (hMember : c ∈ cs) :
    (ofNodes cs message?).messagesAt c.path = (message? c).toList := by
  have hPlace : ∀ d ∈ cs, ∀ f,
      (message? d).map (Finding.mk d.path) = some f →
        f.path = id d.path := by
    intro d _ f hFound
    rcases Option.map_eq_some_iff.mp hFound with ⟨_, _, rfl⟩
    rfl
  refine (messagesAt_of_entries id (entries_ofNodes hPaths) hPlace
    Function.injective_id hPaths hMember).trans ?_
  cases message? c <;> rfl

end Findings

/- There is a finding about the node at a path. -/
def Visit.Flags (v : Visit) (p : Path) : Prop :=
  ∃ f ∈ v.findings.entries, f.path = p

/- Nodes with a message are flagged by it. -/
theorem Visit.flags_found_iff
    {cs : List Cursor}
    {message : String}
    {p : Path} :
    (found (Findings.ofNodes cs fun _ => some message)).Flags p ↔
      ∃ c ∈ cs, c.path = p := by
  simp only [Flags, found, Findings.mem_ofNodes_iff]
  constructor
  · rintro ⟨f, ⟨c, hMember, hPath, _⟩, rfl⟩
    exact ⟨c, hMember, hPath⟩
  · rintro ⟨c, hMember, rfl⟩
    exact ⟨⟨c.path, message⟩, ⟨c, hMember, rfl, rfl⟩, rfl⟩

end ManifestRecipes
