import ManifestRecipes.Proofs.Findings

/-
  Findings by their history.

  A table is filled by single findings, by lists of them, and by
  other tables that were filled in the same way.  Of all this it
  shows only the order in which findings were first offered.  A
  table that is merged stands for all that was offered to it,
  although it has dropped the repetitions.

  Key definitions include:
    * `Findings.History`
    * `Findings.History.table`
    * `Findings.History.offers`
    * `Findings.TellsGrowth`
    * `Findings.Records`

  Main declarations:
    * `Findings.addAll_eq_self_iff`
    * `Findings.merge_ofList`
    * `Findings.messagesAt_ofList`
    * `Findings.History.table_eq_ofList`
    * `Findings.History.records_table`
-/

namespace ManifestRecipes

namespace Findings

variable {fs : Findings} {f : Finding} {p : Path}

------------------------------------------------------------
-- Histories
------------------------------------------------------------

/- What was done to a table, the last of it outermost. -/
inductive History where
  /- The table is new. -/
  | start
  /- A finding is added. -/
  | add (h : History) (f : Finding)
  /- A message about a node is added. -/
  | flag (h : History) (path : Path) (message : String)
  /- Findings are added one by one. -/
  | extend (h : History) (more : List Finding)
  /- The findings of a table with a history of its own are added. -/
  | merge (h other : History)
deriving Repr

namespace History

/- The table that comes of a history. -/
def table : History → Findings
  | start => empty
  | add h f => (h.table.add f).1
  | flag h path message => (h.table.flag path message).1
  | extend h more => h.table.addAll more
  | merge h other => h.table.merge other.table

/- All findings that were offered, with their repetitions. -/
def offers : History → List Finding
  | start => []
  | add h f => h.offers ++ [f]
  | flag h path message => h.offers ++ [⟨path, message⟩]
  | extend h more => h.offers ++ more
  | merge h other => h.offers ++ other.offers

end History

------------------------------------------------------------
-- One Table
------------------------------------------------------------

/- Tables with the same entries are the same. -/
theorem eq_of_entries_eq
    {fs gs : Findings}
    (hEntries : fs.entries = gs.entries) :
    fs = gs := by
  cases fs
  cases gs
  cases hEntries
  rfl

/- Adding tells whether the table has grown by it. -/
def TellsGrowth (fs : Findings) (result : Findings × Bool) : Prop :=
  result.2 = true ↔ fs.entries.length < result.1.entries.length

theorem tellsGrowth_add (fs : Findings) (f : Finding) :
    fs.TellsGrowth (fs.add f) := by
  by_cases hOld : f ∈ fs.entries <;> simp [TellsGrowth, add, hOld]

/- Only known findings leave a table as it is. -/
theorem addAll_eq_self_iff {more : List Finding} :
    fs.addAll more = fs ↔ more ⊆ fs.entries := by
  constructor
  · intro hSame f hMember
    rw [← hSame, mem_addAll_iff]
    exact Or.inr hMember
  · intro hKnown
    induction more with
    | nil => rfl
    | cons f more ih =>
        rw [List.cons_subset] at hKnown
        have hOld : (fs.add f).1 = fs := by
          rw [add, dif_pos hKnown.1]
        change (fs.add f).1.addAll more = fs
        rw [hOld, ih hKnown.2]

/- A message is at a path when it was found there. -/
theorem mem_messagesAt_iff {m : String} :
    m ∈ fs.messagesAt p ↔ ⟨p, m⟩ ∈ fs.entries := by
  simp only [messagesAt, List.mem_map, List.mem_filter,
    decide_eq_true_eq]
  constructor
  · rintro ⟨⟨_, _⟩, ⟨hMember, rfl⟩, rfl⟩
    exact hMember
  · intro hMember
    exact ⟨⟨p, m⟩, ⟨hMember, rfl⟩, rfl⟩

/- A finding changes only what is said at its own path. -/
theorem messagesAt_add (fs : Findings) (f : Finding) (p : Path) :
    (fs.add f).1.messagesAt p =
      if f.path = p ∧ f.message ∉ fs.messagesAt p then
        fs.messagesAt p ++ [f.message]
      else fs.messagesAt p := by
  by_cases hPath : f.path = p
  · subst hPath
    -- At its own path a finding is as new as its message.
    by_cases hOld : f ∈ fs.entries
    · have hSaid : f.message ∈ fs.messagesAt f.path :=
        mem_messagesAt_iff.mpr hOld
      rw [if_neg fun hNew => hNew.2 hSaid, add, dif_pos hOld]
    · have hNew : f.message ∉ fs.messagesAt f.path :=
        fun hSaid => hOld (mem_messagesAt_iff.mp hSaid)
      rw [if_pos ⟨rfl, hNew⟩, messagesAt, entries_add, if_neg hOld]
      simp [messagesAt]
  · rw [if_neg fun hHere => hPath hHere.1, messagesAt, entries_add]
    split_ifs with hOld
    · rfl
    · simp [messagesAt, hPath]

------------------------------------------------------------
-- Tables of Lists
------------------------------------------------------------

theorem ofList_append (more others : List Finding) :
    ofList (more ++ others) = (ofList more).addAll others := by
  exact addAll_append empty more others

/- A merged table adds what all findings it is made of would add. -/
theorem merge_ofList (fs : Findings) (more : List Finding) :
    fs.merge (ofList more) = fs.addAll more := by
  apply eq_of_entries_eq
  rw [merge, entries_addAll, entries_addAll,
    entries_ofList_eq_eraseDups, eraseDups_append_eraseDups]

/- The messages at a path stand in the order of their first mention. -/
theorem messagesAt_ofList (more : List Finding) (p : Path) :
    (ofList more).messagesAt p =
      ((more.filter (·.path = p)).map Finding.message).eraseDups := by
  induction more using List.reverseRecOn with
  | nil => rfl
  | append_singleton more f ih =>
      have hAdded : ofList (more ++ [f]) = ((ofList more).add f).1 :=
        ofList_append more [f]
      rw [hAdded, messagesAt_add, ih, List.filter_append,
        List.map_append]
      by_cases hPath : f.path = p
      · have hHere : [f].filter (·.path = p) = [f] := by
          simp [hPath]
        rw [hHere, List.map_singleton, eraseDups_append_singleton]
        simp only [hPath, List.mem_eraseDups, true_and, ite_not]
      · simp [hPath]

------------------------------------------------------------
-- Tables with a History
------------------------------------------------------------

/-
  A table records findings that were offered to it: it has each
  of them once, in the order of the first offers, and so has it
  the messages at each path.  Adding tells whether the table has
  grown, and only what was offered before can be added or merged
  without a change.
-/
structure Records (offers : List Finding) (fs : Findings) : Prop where
  entries_eq : fs.entries = offers.eraseDups
  collected : fs = ofList offers
  add_tells : ∀ f, fs.TellsGrowth (fs.add f)
  flag_tells : ∀ path message,
    fs.TellsGrowth (fs.flag path message)
  messages_eq : ∀ p, fs.messagesAt p =
    ((offers.filter (·.path = p)).map Finding.message).eraseDups
  messages_apart : ∀ p, (fs.messagesAt p).Nodup
  addAll_same : ∀ more : List Finding,
    fs.addAll more = fs ↔ more ⊆ offers
  merge_same : ∀ other : Findings,
    fs.merge other = fs ↔ other.entries ⊆ offers

namespace History

/- A table is the one that is made of all offers. -/
theorem table_eq_ofList (h : History) :
    h.table = ofList h.offers := by
  induction h with
  | start => rfl
  | add h f ih =>
      rw [table, offers, ofList_append, ih]
      rfl
  | flag h path message ih =>
      rw [table, offers, ofList_append, ih]
      rfl
  | extend h more ih => rw [table, offers, ofList_append, ih]
  | merge h other ih ihOther =>
      -- The other table hands over less than it was offered.
      rw [table, offers, ofList_append, ih, ihOther, merge_ofList]

/- Whatever its history, a table records what was offered. -/
theorem records_table (h : History) : Records h.offers h.table := by
  have hMember {more : List Finding} :
      more ⊆ h.table.entries ↔ more ⊆ h.offers := by
    simp only [List.subset_def, table_eq_ofList, mem_ofList_iff]
  have hMessages (p : Path) := messagesAt_ofList h.offers p
  rw [← table_eq_ofList] at hMessages
  exact
    { entries_eq := by
        rw [table_eq_ofList, entries_ofList_eq_eraseDups]
      collected := h.table_eq_ofList
      add_tells := tellsGrowth_add h.table
      flag_tells := fun path message =>
        tellsGrowth_add h.table ⟨path, message⟩
      messages_eq := hMessages
      messages_apart := fun p => hMessages p ▸ nodup_eraseDups _
      addAll_same := fun _ => addAll_eq_self_iff.trans hMember
      merge_same := fun _ => addAll_eq_self_iff.trans hMember }

/- Repetitions are dropped, also those of a merged table. -/
theorem records_table_merged :
    let spec : Path := [.field "spec"]
    let other := ((start.flag spec "b").flag [] "a").flag spec "b"
    let h := (((start.flag spec "a").add ⟨spec, "a"⟩).merge
      other).extend [⟨[], "a"⟩, ⟨spec, "c"⟩, ⟨spec, "b"⟩]
    h.table.entries =
        [⟨spec, "a"⟩, ⟨spec, "b"⟩, ⟨[], "a"⟩, ⟨spec, "c"⟩] ∧
      h.table.messagesAt spec = ["a", "b", "c"] ∧
      Records h.offers h.table := by
  intro spec other h
  exact ⟨by decide, by decide, records_table h⟩

end History

end Findings

end ManifestRecipes
