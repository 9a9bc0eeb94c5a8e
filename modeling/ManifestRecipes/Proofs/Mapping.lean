import ManifestRecipes.Mapping
import Mathlib.Data.List.Induction

/-
  Laws of ordered mappings.

  Queries see the first entry of a key.  Where no key occurs
  twice, they see every entry.

  Key definitions include:
    * `Mapping.SetsEntry`

  Main declarations:
    * `Mapping.contains_iff`
    * `Mapping.position?_get?_iff`
    * `Mapping.get?_append`
    * `Mapping.get?_filterMap`
    * `Mapping.setsEntry_insert`
    * `Mapping.nodup_keys_ofList`
-/

namespace ManifestRecipes

namespace Mapping

variable {α : Type}

------------------------------------------------------------
-- Keys
------------------------------------------------------------

@[simp] theorem keys_nil :
    keys ([] : Mapping α) = [] := by
  rfl

@[simp] theorem keys_cons
    (k : String)
    (v : α)
    (m : Mapping α) :
    keys ((k, v) :: m) = k :: keys m := by
  rfl

@[simp] theorem keys_append (m n : Mapping α) :
    keys (m ++ n) = keys m ++ keys n := by
  simp [keys]

theorem mem_keys_iff
    {k : String}
    {m : Mapping α} :
    k ∈ keys m ↔ ∃ v, (k, v) ∈ m := by
  simp [keys]

@[simp] theorem position?_eq_none_iff
    {key : String}
    {m : Mapping α} :
    position? key m = none ↔ key ∉ keys m := by
  induction m with
  | nil => simp [position?]
  | cons e m ih =>
      rcases e with ⟨k, v⟩
      by_cases hKey : k = key
      · simp [position?, hKey]
      · have hOther : key ≠ k := fun h => hKey h.symm
        simp [position?, hKey, hOther, ih]

/- A mapping contains a key exactly when it is among its keys. -/
theorem contains_iff
    {key : String}
    {m : Mapping α} :
    contains key m = true ↔ key ∈ keys m := by
  unfold contains
  rw [Option.isSome_iff_ne_none, ne_eq,
    position?_eq_none_iff, not_not]

------------------------------------------------------------
-- Lookup
------------------------------------------------------------

@[simp] theorem get?_eq_none_iff
    {key : String}
    {m : Mapping α} :
    get? key m = none ↔ key ∉ keys m := by
  induction m with
  | nil => simp [get?]
  | cons e m ih =>
      rcases e with ⟨k, v⟩
      by_cases hKey : k = key
      · simp [get?, hKey]
      · have hOther : key ≠ k := fun h => hKey h.symm
        simp [get?, hKey, hOther, ih]

/- A value that is found belongs to an entry of the key. -/
theorem mem_of_get?_eq_some
    {key : String}
    {v : α}
    {m : Mapping α}
    (hGet : get? key m = some v) :
    (key, v) ∈ m := by
  induction m with
  | nil => simp [get?] at hGet
  | cons e m ih =>
      rcases e with ⟨k, w⟩
      by_cases hKey : k = key
      · simp only [get?, hKey, if_true, Option.some.injEq]
          at hGet
        simp [hKey, hGet]
      · simp only [get?, hKey, if_false] at hGet
        exact List.mem_cons_of_mem _ (ih hGet)

/- Where no key occurs twice, every entry is found. -/
theorem get?_eq_some_iff
    {key : String}
    {v : α}
    {m : Mapping α}
    (hKeys : (keys m).Nodup) :
    get? key m = some v ↔ (key, v) ∈ m := by
  refine ⟨mem_of_get?_eq_some, ?_⟩
  intro hEntry
  induction m with
  | nil => simp at hEntry
  | cons e m ih =>
      rcases e with ⟨k, w⟩
      rw [keys_cons, List.nodup_cons] at hKeys
      rcases List.mem_cons.mp hEntry with hHere | hLater
      · simp only [Prod.mk.injEq] at hHere
        simp [get?, hHere]
      · have hOther : k ≠ key := by
          intro hKey
          exact hKeys.1
            (hKey ▸ mem_keys_iff.mpr ⟨v, hLater⟩)
        simp [get?, hOther, ih hKeys.2 hLater]

/-
  Where no key occurs twice, the position and the value of a
  key are those of its entry.
-/
theorem position?_get?_iff
    {key : String}
    {i : Nat}
    {v : α}
    {m : Mapping α}
    (hKeys : (keys m).Nodup) :
    position? key m = some i ∧ get? key m = some v ↔
      m[i]? = some (key, v) := by
  induction m generalizing i with
  | nil => simp [position?]
  | cons e m ih =>
      rcases e with ⟨k, w⟩
      rw [keys_cons, List.nodup_cons] at hKeys
      by_cases hKey : k = key
      · subst hKey
        cases i with
        | zero => simp [position?, get?]
        | succ i =>
            have hAbsent : m[i]? ≠ some (k, v) := by
              intro hEntry
              exact hKeys.1
                (mem_keys_iff.mpr
                  ⟨v, List.mem_of_getElem? hEntry⟩)
            simp [position?, get?, hAbsent]
      · cases i with
        | zero => simp [position?, get?, hKey]
        | succ i => simp [position?, get?, hKey, ← ih hKeys.2]

/- At the position of a key stands its value. -/
theorem get?_of_position?
    {k : String}
    {i : Nat}
    {m : Mapping α}
    (hPosition : position? k m = some i) :
    ∃ v, get? k m = some v ∧ m[i]? = some (k, v) := by
  induction m generalizing i with
  | nil => cases hPosition
  | cons e m ih =>
      rcases e with ⟨l, v⟩
      by_cases hKey : l = k
      · simp only [position?, hKey, if_true, Option.some.injEq]
          at hPosition
        subst hPosition
        exact ⟨v, by simp [get?, hKey], by simp [hKey]⟩
      · simp only [position?, hKey, if_false,
          Option.map_eq_some_iff] at hPosition
        rcases hPosition with ⟨j, hLater, rfl⟩
        simpa [get?, hKey] using ih hLater

/- Entries at the end are seen when their key is not present before. -/
theorem get?_append
    (key : String)
    (m n : Mapping α) :
    get? key (m ++ n) = (get? key m).or (get? key n) := by
  induction m with
  | nil => simp [get?]
  | cons e m ih =>
      rcases e with ⟨k, v⟩
      by_cases hKey : k = key <;> simp [get?, hKey, ih]

/- Where values are mapped and some left out, a key has the mapped value. -/
theorem get?_filterMap
    {β : Type}
    {key : String}
    {m : Mapping α}
    (f : α → Option β)
    (hKeys : (keys m).Nodup) :
    get? key (m.filterMap fun (k, v) => (f v).map fun w => (k, w)) =
      (get? key m).bind f := by
  induction m with
  | nil => rfl
  | cons e m ih =>
      rcases e with ⟨k, v⟩
      rw [keys_cons, List.nodup_cons] at hKeys
      rw [List.filterMap_cons]
      have hRest := ih hKeys.2
      by_cases hKey : k = key
      · subst hKey
        -- The key has no other entry that could be seen instead.
        rw [get?_eq_none_iff.mpr hKeys.1] at hRest
        cases hValue : f v with
        | none => simpa [get?, hValue] using hRest
        | some w => simp [get?, hValue]
      · cases hValue : f v <;> simpa [get?, hValue, hKey] using hRest

------------------------------------------------------------
-- Changes
------------------------------------------------------------

/- Adding an absent entry appends it. -/
theorem appendIfAbsent_eq
    (key : String)
    (value : α)
    (m : Mapping α) :
    appendIfAbsent key value m =
      if key ∈ keys m then (m, false)
      else (m ++ [(key, value)], true) := by
  by_cases hKey : key ∈ keys m
  · simp [appendIfAbsent, contains_iff.mpr hKey, hKey]
  · have hContains : ¬ contains key m = true :=
      fun h => hKey (contains_iff.mp h)
    simp [appendIfAbsent, hContains, hKey]

/- A value is changed in its place. -/
theorem update?_eq_map
    (key : String)
    (change : α → Option α)
    (m : Mapping α) :
    update? key change m =
      ((get? key m).bind change).map (insert key · m) := by
  induction m with
  | nil => rfl
  | cons e m ih =>
      rcases e with ⟨k, v⟩
      by_cases hKey : k = key
      · simp [update?, get?, insert, hKey]
      · simp only [update?, get?, insert, hKey, if_false, ih,
          Option.map_map]
        rfl

/- A value that is put back changes nothing. -/
theorem insert_self
    {key : String}
    {v : α}
    {m : Mapping α}
    (hGet : get? key m = some v) :
    insert key v m = m := by
  induction m with
  | nil => simp [get?] at hGet
  | cons e m ih =>
      rcases e with ⟨k, w⟩
      by_cases hKey : k = key
      · simp only [get?, hKey, if_true, Option.some.injEq]
          at hGet
        simp [insert, hKey, hGet]
      · simp only [get?, hKey, if_false] at hGet
        simp [insert, hKey, ih hGet]

/- A set key holds its new value. -/
@[simp] theorem get?_insert_self
    (key : String)
    (value : α)
    (m : Mapping α) :
    get? key (insert key value m) = some value := by
  induction m with
  | nil => simp [insert, get?]
  | cons e m ih =>
      rcases e with ⟨k, v⟩
      by_cases hKey : k = key <;> simp [insert, get?, hKey, ih]

/- A present key is set where it first occurs. -/
theorem insert_append_of_mem
    {key : String}
    {value : α}
    {m n : Mapping α}
    (hKey : key ∈ keys m) :
    insert key value (m ++ n) = insert key value m ++ n := by
  induction m with
  | nil => simp at hKey
  | cons e m ih =>
      rcases e with ⟨k, v⟩
      by_cases hHere : k = key
      · simp [insert, hHere]
      · have hLater : key ∈ keys m := by
          rw [keys_cons, List.mem_cons] at hKey
          exact hKey.resolve_left fun h => hHere h.symm
        simp [insert, hHere, ih hLater]

/- A key that is not among the first entries is set behind them. -/
theorem insert_append_of_not_mem
    {key : String}
    {value : α}
    {m n : Mapping α}
    (hKey : key ∉ keys m) :
    insert key value (m ++ n) = m ++ insert key value n := by
  induction m with
  | nil => rfl
  | cons e m ih =>
      rcases e with ⟨k, v⟩
      rw [keys_cons, List.mem_cons, not_or] at hKey
      rw [List.cons_append, insert, if_neg fun h => hKey.1 h.symm,
        ih hKey.2, List.cons_append]

/- A new key is set at the end. -/
theorem insert_of_not_mem
    {key : String}
    {value : α}
    {m : Mapping α}
    (hKey : key ∉ keys m) :
    insert key value m = m ++ [(key, value)] := by
  calc
    insert key value m = insert key value (m ++ []) := by
      rw [List.append_nil]
    _ = m ++ [(key, value)] := insert_append_of_not_mem hKey

/- A set key is the only one that may be new. -/
theorem mem_keys_insert
    {k key : String}
    {value : α}
    {m : Mapping α} :
    k ∈ keys (insert key value m) ↔ k = key ∨ k ∈ keys m := by
  induction m with
  | nil => simp [insert]
  | cons e m ih =>
      rcases e with ⟨l, v⟩
      by_cases hKey : l = key
      · simp [insert, hKey]
      · simp only [insert, hKey, if_false, keys_cons,
          List.mem_cons, ih]
        tauto

/- A present key that is set keeps all keys. -/
theorem keys_insert_of_mem
    {k : String}
    {v : α}
    {m : Mapping α}
    (hKey : k ∈ keys m) :
    keys (insert k v m) = keys m := by
  induction m with
  | nil => cases hKey
  | cons e m ih =>
      rcases e with ⟨l, w⟩
      by_cases hHere : l = k
      · simp [insert, hHere]
      · have hLater : k ∈ keys m := by
          rw [keys_cons, List.mem_cons] at hKey
          exact hKey.resolve_left fun h => hHere h.symm
        simp [insert, hHere, ih hLater]

/- Other keys keep their values. -/
theorem get?_insert_of_ne
    {k key : String}
    {value : α}
    {m : Mapping α}
    (hOther : k ≠ key) :
    get? k (insert key value m) = get? k m := by
  induction m with
  | nil => simp [insert, get?, hOther.symm]
  | cons e m ih =>
      rcases e with ⟨l, v⟩
      by_cases hKey : l = key
      · subst hKey
        simp [insert, get?, hOther.symm]
      · simp [insert, get?, hKey, ih]

/-
  The value of a key is set and all else stays: the key keeps
  its place or, when it is new, comes at the end.
-/
def SetsEntry
    (key : String)
    (value : α)
    (m m' : Mapping α) : Prop :=
  (∃ before old after, key ∉ keys before ∧
    m = before ++ (key, old) :: after ∧
    m' = before ++ (key, value) :: after) ∨
  (key ∉ keys m ∧ m' = m ++ [(key, value)])

/- Setting a key does so. -/
theorem setsEntry_insert
    (key : String)
    (value : α)
    (m : Mapping α) :
    SetsEntry key value m (insert key value m) := by
  by_cases hKey : key ∈ keys m
  · left
    rcases List.eq_append_cons_of_mem hKey with
      ⟨ks, ks', hSplit, hFirst⟩
    rcases List.map_eq_append_iff.mp hSplit with
      ⟨before, rest, rfl, rfl, hRest⟩
    rcases List.map_eq_cons_iff.mp hRest with
      ⟨⟨k, old⟩, after, rfl, rfl, _⟩
    refine ⟨before, old, after, hFirst, rfl, ?_⟩
    rw [insert_append_of_not_mem hFirst, insert, if_pos rfl]
  · exact Or.inr ⟨hKey, insert_of_not_mem hKey⟩

/- Setting a key keeps keys apart. -/
theorem nodup_keys_insert
    {key : String}
    {value : α}
    {m : Mapping α}
    (hKeys : (keys m).Nodup) :
    (keys (insert key value m)).Nodup := by
  induction m with
  | nil => simp [insert]
  | cons e m ih =>
      rcases e with ⟨k, v⟩
      rw [keys_cons, List.nodup_cons] at hKeys
      by_cases hKey : k = key
      · simpa [insert, hKey] using hKey ▸ hKeys
      · rw [insert, if_neg hKey, keys_cons, List.nodup_cons,
          mem_keys_insert, not_or]
        exact ⟨⟨hKey, hKeys.1⟩, ih hKeys.2⟩

/- The entries after setting a key are the set one and old ones. -/
theorem mem_of_mem_insert
    {e : String × α}
    {key : String}
    {value : α}
    {m : Mapping α}
    (hEntry : e ∈ insert key value m) :
    e = (key, value) ∨ e ∈ m := by
  induction m with
  | nil => simpa [insert] using hEntry
  | cons f m ih =>
      rcases f with ⟨k, v⟩
      by_cases hKey : k = key
      · simp only [insert, hKey, if_true, List.mem_cons]
          at hEntry
        exact hEntry.imp_right (List.mem_cons_of_mem _)
      · simp only [insert, hKey, if_false, List.mem_cons]
          at hEntry
        rcases hEntry with hHere | hLater
        · exact Or.inr (hHere ▸ List.mem_cons_self)
        · exact (ih hLater).imp_right (List.mem_cons_of_mem _)

/- Inserted entries keep keys apart. -/
theorem nodup_keys_ofList (es : List (String × α)) :
    (keys (ofList es)).Nodup := by
  have hFold :
      ∀ (es : List (String × α)) (m : Mapping α),
        (keys m).Nodup →
          (keys (es.foldl
            (fun m e => insert e.1 e.2 m) m)).Nodup := by
    intro es
    induction es with
    | nil => exact fun _ hKeys => hKeys
    | cons e es ih =>
        exact fun m hKeys => ih _ (nodup_keys_insert hKeys)
  exact hFold es [] List.nodup_nil

/- Setting a present key adds no entry. -/
theorem length_insert_of_mem
    {key : String}
    {value : α}
    {m : Mapping α}
    (hKey : key ∈ keys m) :
    (insert key value m).length = m.length := by
  induction m with
  | nil => cases hKey
  | cons e m ih =>
      rcases e with ⟨k, v⟩
      by_cases hHere : k = key
      · simp [insert, hHere]
      · rw [keys_cons, List.mem_cons] at hKey
        have hLater := hKey.resolve_left fun h => hHere h.symm
        simp [insert, hHere, ih hLater]

/- Entries whose keys differ are inserted as they are. -/
theorem ofList_eq_self
    {es : List (String × α)}
    (hKeys : (keys es).Nodup) :
    ofList es = es := by
  have hFold :
      ∀ (es : List (String × α)) (m : Mapping α),
        (keys (m ++ es)).Nodup →
          es.foldl (fun m e => insert e.1 e.2 m) m = m ++ es := by
    intro es
    induction es with
    | nil => exact fun m _ => (List.append_nil m).symm
    | cons e es ih =>
        intro m hKeys
        have hNew : e.1 ∉ keys m := by
          rw [keys_append, keys_cons, List.nodup_append] at hKeys
          exact fun hOld =>
            hKeys.2.2 e.1 hOld e.1 List.mem_cons_self rfl
        rw [List.foldl_cons, insert_of_not_mem hNew, ih,
          List.append_assoc, List.singleton_append]
        rwa [List.append_assoc, List.singleton_append]
  exact hFold es [] hKeys

theorem ofList_append_singleton
    (es : List (String × α))
    (e : String × α) :
    ofList (es ++ [e]) = insert e.1 e.2 (ofList es) := by
  simp [ofList]

/- Inserted entries have the keys that were given. -/
theorem mem_keys_ofList
    {k : String}
    {es : List (String × α)} :
    k ∈ keys (ofList es) ↔ k ∈ keys es := by
  induction es using List.reverseRecOn with
  | nil => rfl
  | append_singleton es e ih =>
      rw [ofList_append_singleton, mem_keys_insert, ih, keys_append,
        List.mem_append, or_comm]
      simp [keys]

/- There are no more entries than were given. -/
theorem length_ofList_le (es : List (String × α)) :
    (ofList es).length ≤ es.length := by
  induction es using List.reverseRecOn with
  | nil => exact Nat.le_refl _
  | append_singleton es e ih =>
      rw [ofList_append_singleton, List.length_append,
        List.length_singleton]
      by_cases hKey : e.1 ∈ keys (ofList es)
      · rw [length_insert_of_mem hKey]
        omega
      · rw [insert_of_not_mem hKey, List.length_append,
          List.length_singleton]
        omega

/- As many entries are left as were given when their keys differ. -/
theorem length_ofList_eq_iff {es : List (String × α)} :
    (ofList es).length = es.length ↔ (keys es).Nodup := by
  induction es using List.reverseRecOn with
  | nil => simp [ofList]
  | append_singleton es e ih =>
      have hKeys :
          (keys (es ++ [e])).Nodup ↔
            (keys es).Nodup ∧ e.1 ∉ keys es := by
        have hSwap :
            (keys es ++ keys [e]).Perm (keys [e] ++ keys es) :=
          List.perm_append_comm
        rw [keys_append, hSwap.nodup_iff, and_comm]
        exact List.nodup_cons
      rw [ofList_append_singleton, hKeys, ← mem_keys_ofList,
        List.length_append, List.length_singleton]
      by_cases hKey : e.1 ∈ keys (ofList es)
      · have hShort := length_ofList_le es
        rw [length_insert_of_mem hKey]
        exact iff_of_false (by omega) fun h => h.2 hKey
      · rw [insert_of_not_mem hKey, List.length_append,
          List.length_singleton, Nat.add_right_cancel_iff, ih]
        exact (and_iff_left hKey).symm

/- The entries of a built mapping are among the given ones. -/
theorem mem_of_mem_ofList
    {e : String × α}
    {es : List (String × α)}
    (hEntry : e ∈ ofList es) :
    e ∈ es := by
  have hFold :
      ∀ (es : List (String × α)) (m : Mapping α),
        e ∈ es.foldl (fun m e => insert e.1 e.2 m) m →
          e ∈ m ∨ e ∈ es := by
    intro es
    induction es with
    | nil => exact fun _ hEntry => Or.inl hEntry
    | cons f es ih =>
        intro m hEntry
        rcases ih _ hEntry with hOld | hLater
        · rcases mem_of_mem_insert hOld with hNew | hOld
          · exact Or.inr (hNew ▸ List.mem_cons_self)
          · exact Or.inl hOld
        · exact Or.inr (List.mem_cons_of_mem _ hLater)
  simpa using hFold es [] hEntry

end Mapping

end ManifestRecipes
