import ManifestRecipes.Proofs.FirstOccurrence
import ManifestRecipes.Proofs.Mapping
import Mathlib.Data.Finset.Card

/-
  Mappings by their history.

  A mapping is made by setting keys and by adding entries whose
  keys are new, in any order.  What it is in the end depends on
  few of these calls: on the first of each key for the order,
  and for the value of a key on the last that has set it.

  Key definitions include:
    * `Mapping.Call`
    * `Mapping.run`
    * `Mapping.set?`
    * `Mapping.added?`
    * `Mapping.Made`

  Main declarations:
    * `Mapping.keys_run`
    * `Mapping.nodup_keys_run`
    * `Mapping.get?_run`
    * `Mapping.made_run`
-/

namespace ManifestRecipes

namespace Mapping

variable {α : Type}

------------------------------------------------------------
-- Calls
------------------------------------------------------------

/- What can be done to a mapping. -/
inductive Call (α : Type) where
  /- Set the value of a key. -/
  | insert (key : String) (value : α)
  /- Add an entry unless its key is present. -/
  | append (key : String) (value : α)
deriving DecidableEq, Repr

namespace Call

def key : Call α → String
  | insert k _ => k
  | append k _ => k

def apply (m : Mapping α) : Call α → Mapping α
  | insert k v => Mapping.insert k v m
  | append k v => (appendIfAbsent k v m).1

/- The value that a call sets for a key, whatever it was. -/
def set? (k : String) : Call α → Option α
  | insert l v => if l = k then some v else none
  | append _ _ => none

/- The value that a call adds for a key if there is none. -/
def added? (k : String) : Call α → Option α
  | insert _ _ => none
  | append l v => if l = k then some v else none

end Call

/- The mapping that calls make of the empty one. -/
def run (cs : List (Call α)) : Mapping α :=
  cs.foldl Call.apply []

/- The value that the last insertion of a key has set. -/
def set? (k : String) (cs : List (Call α)) : Option α :=
  (cs.filterMap (Call.set? k)).getLast?

/- The value with which a key was first to be added. -/
def added? (k : String) (cs : List (Call α)) : Option α :=
  (cs.filterMap (Call.added? k)).head?

------------------------------------------------------------
-- One Call
------------------------------------------------------------

/- A call puts its key behind the others unless it is there. -/
theorem keys_apply (m : Mapping α) (c : Call α) :
    keys (c.apply m) =
      if c.key ∈ keys m then keys m else keys m ++ [c.key] := by
  cases c with
  | insert k v =>
      by_cases hKey : k ∈ keys m
      · simp [Call.apply, Call.key, hKey, keys_insert_of_mem hKey]
      · simp [Call.apply, Call.key, hKey, insert_of_not_mem hKey]
  | append k v =>
      by_cases hKey : k ∈ keys m <;>
        simp [Call.apply, Call.key, appendIfAbsent_eq, hKey]

/- A call keeps keys apart. -/
theorem nodup_keys_apply
    {m : Mapping α}
    (hKeys : (keys m).Nodup)
    (c : Call α) :
    (keys (c.apply m)).Nodup := by
  rw [keys_apply]
  split_ifs with hKey
  · exact hKeys
  · exact hKeys.append (List.nodup_singleton c.key)
      (List.disjoint_singleton.mpr hKey)

/- A call sets the value of its key, or adds one if there is none. -/
theorem get?_apply (k : String) (m : Mapping α) (c : Call α) :
    get? k (c.apply m) =
      (c.set? k).or ((get? k m).or (c.added? k)) := by
  cases c with
  | insert l v =>
      by_cases hKey : l = k
      · simp [Call.apply, Call.set?, hKey]
      · have hOther : k ≠ l := fun h => hKey h.symm
        simp [Call.apply, Call.set?, Call.added?, hKey,
          get?_insert_of_ne hOther]
  | append l v =>
      by_cases hPresent : l ∈ keys m
      · simp only [Call.apply, Call.set?, Call.added?,
          appendIfAbsent_eq, if_pos hPresent, Option.none_or]
        by_cases hKey : l = k
        · subst hKey
          have hSome : get? l m ≠ none :=
            fun hNone => get?_eq_none_iff.mp hNone hPresent
          obtain ⟨w, hGet⟩ := Option.ne_none_iff_exists'.mp hSome
          rw [hGet, Option.some_or]
        · rw [if_neg hKey, Option.or_none]
      · simp [Call.apply, Call.set?, Call.added?,
          appendIfAbsent_eq, hPresent, get?_append, get?]

------------------------------------------------------------
-- All Calls
------------------------------------------------------------

@[simp] theorem run_nil : run ([] : List (Call α)) = [] := by
  rfl

@[simp] theorem run_append_singleton
    (cs : List (Call α))
    (c : Call α) :
    run (cs ++ [c]) = c.apply (run cs) := by
  simp [run]

/- The keys stand in the order in which calls first name them. -/
theorem keys_run (cs : List (Call α)) :
    keys (run cs) = (cs.map Call.key).eraseDups := by
  induction cs using List.reverseRecOn with
  | nil => rfl
  | append_singleton cs c ih =>
      rw [run_append_singleton, keys_apply, ih, List.map_append,
        List.map_singleton, eraseDups_append_singleton]
      simp only [List.mem_eraseDups]

theorem mem_keys_run {k : String} {cs : List (Call α)} :
    k ∈ keys (run cs) ↔ k ∈ cs.map Call.key := by
  rw [keys_run, List.mem_eraseDups]

/- Calls keep keys apart. -/
theorem nodup_keys_run (cs : List (Call α)) :
    (keys (run cs)).Nodup := by
  induction cs using List.reverseRecOn with
  | nil => exact List.nodup_nil
  | append_singleton cs c ih =>
      rw [run_append_singleton]
      exact nodup_keys_apply ih c

/- There are as many entries as different keys. -/
theorem length_run (cs : List (Call α)) :
    (run cs).length = (cs.map Call.key).toFinset.card := by
  have hSame :
      (keys (run cs)).toFinset = (cs.map Call.key).toFinset := by
    ext k
    rw [List.mem_toFinset, List.mem_toFinset, mem_keys_run]
  rw [← hSame, List.toFinset_card_of_nodup (nodup_keys_run cs),
    keys, List.length_map]

/- The last value set for a key counts, else the first added one. -/
theorem get?_run (k : String) (cs : List (Call α)) :
    get? k (run cs) = (set? k cs).or (added? k cs) := by
  induction cs using List.reverseRecOn with
  | nil => rfl
  | append_singleton cs c ih =>
      have hSet : set? k (cs ++ [c]) = (c.set? k).or (set? k cs) := by
        cases hLast : c.set? k <;> simp [set?, hLast]
      have hAdded :
          added? k (cs ++ [c]) = (added? k cs).or (c.added? k) := by
        cases hLast : c.added? k <;> simp [added?, hLast]
      rw [run_append_singleton, get?_apply, ih, hSet, hAdded,
        Option.or_assoc, Option.or_assoc]

------------------------------------------------------------
-- Mappings That Calls Make
------------------------------------------------------------

theorem isSome_position?_and_get? (k : String) (m : Mapping α) :
    (position? k m).isSome = contains k m ∧
      (get? k m).isSome = contains k m := by
  refine ⟨rfl, ?_⟩
  rw [Bool.eq_iff_iff, contains_iff, Option.isSome_iff_ne_none,
    ne_eq, get?_eq_none_iff, not_not]

/-
  A mapping is made by calls.  Its keys are different ones and
  stand in the order in which the calls first name them.  A key
  has the value of the last insertion, or if there is none, the
  value with which it was first added.  Adding an entry tells
  whether the key is new, and all queries see the same entries.
-/
structure Made (cs : List (Call α)) (m : Mapping α) : Prop where
  keys_eq : keys m = (cs.map Call.key).eraseDups
  nodup : (keys m).Nodup
  length : m.length = (cs.map Call.key).toFinset.card
  get : ∀ k, get? k m = (set? k cs).or (added? k cs)
  new : ∀ k v, (appendIfAbsent k v m).2 = true ↔
    k ∉ cs.map Call.key
  present : ∀ k, (position? k m).isSome = contains k m ∧
    (get? k m).isSome = contains k m
  entry : ∀ k i v, m[i]? = some (k, v) ↔
    position? k m = some i ∧ get? k m = some v

/-
  Any calls make a mapping so, and entries that are collected
  are inserted one by one.
-/
theorem made_run (cs : List (Call α)) :
    Made cs (run cs) ∧
    ∀ es : List (String × α),
      ofList es = run (es.map fun e => .insert e.1 e.2) := by
  constructor
  · refine
      { keys_eq := keys_run cs
        nodup := nodup_keys_run cs
        length := length_run cs
        get := fun k => get?_run k cs
        new := ?_
        present := fun k => isSome_position?_and_get? k (run cs)
        entry := ?_ }
    · intro k v
      rw [appendIfAbsent_eq, ← mem_keys_run]
      split_ifs with hKey <;> simp [hKey]
    · intro k i v
      exact (position?_get?_iff (nodup_keys_run cs)).symm
  · intro es
    rw [ofList, run, List.foldl_map]
    rfl

/- A key that was added is set later and keeps its place. -/
theorem made_run_in_turns :
    let cs : List (Call Nat) :=
      [.append "b" 1, .insert "a" 2, .insert "b" 3,
        .append "a" 4, .append "c" 5]
    run cs = [("b", 3), ("a", 2), ("c", 5)] ∧ Made cs (run cs) := by
  intro cs
  exact ⟨by decide, (made_run cs).1⟩

end Mapping

end ManifestRecipes
