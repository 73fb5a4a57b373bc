/-!
# Registries

A registry keeps values under distinct keys. `find?` is the view of a registry:
the lemmas say what each operation does to it.
-/

namespace ChainRpc.Link

/-- Values under distinct keys, the oldest first. -/
structure Registry (κ ν : Type) where
  entries : List (κ × ν) := []
  distinct : (entries.map Prod.fst).Nodup := by simp

namespace Registry

variable {κ ν : Type}

/-- The registry without entries. -/
def empty : Registry κ ν := {}

/-- The number of entries. -/
def size (registry : Registry κ ν) : Nat := registry.entries.length

/-- There are no entries. -/
def isEmpty (registry : Registry κ ν) : Bool := registry.entries.isEmpty

/-- The keys in use. -/
def keys (registry : Registry κ ν) : List κ := registry.entries.map Prod.fst

/-- The values of all keys. -/
def values (registry : Registry κ ν) : List ν := registry.entries.map Prod.snd

variable [DecidableEq κ]

/-- The value of a key. -/
def find? (registry : Registry κ ν) (key : κ) : Option ν :=
  (registry.entries.find? fun entry => entry.1 = key).map Prod.snd

/-- The key is in use. -/
def contains (registry : Registry κ ν) (key : κ) : Bool := (registry.find? key).isSome

/-- The registry without a key. -/
def erase (registry : Registry κ ν) (key : κ) : Registry κ ν where
  entries := registry.entries.filter fun entry => entry.1 ≠ key
  distinct := registry.distinct.sublist (List.filter_sublist.map _)

/-- The registry with a value for a key; the value that the key had is given up. -/
def insert (registry : Registry κ ν) (key : κ) (value : ν) : Registry κ ν where
  entries := (registry.erase key).entries ++ [(key, value)]
  distinct := by
    rw [List.map_append, List.nodup_append]
    refine ⟨(registry.erase key).distinct, by simp, ?_⟩
    intro used hmem last hlast
    obtain ⟨entry, hentry, rfl⟩ := List.mem_map.mp hmem
    have : entry.1 ≠ key := by simpa using (List.mem_filter.mp hentry).2
    simp only [List.map_cons, List.map_nil, List.mem_singleton] at hlast
    rwa [hlast]

/-- The registry with a value for a new key, unless the key is in use. -/
def insertNew? (registry : Registry κ ν) (key : κ) (value : ν) : Option (Registry κ ν) :=
  if registry.contains key then none else some (registry.insert key value)

omit [DecidableEq κ] in
/-- No entries are no size. -/
@[simp] theorem size_empty : (empty : Registry κ ν).size = 0 := rfl

omit [DecidableEq κ] in
/-- A registry without values is the empty one. -/
theorem eq_empty_of_values_eq_nil {registry : Registry κ ν} (hnone : registry.values = []) :
    registry = .empty := by
  obtain ⟨entries, hdistinct⟩ := registry
  obtain rfl : entries = [] := List.map_eq_nil_iff.mp hnone
  rfl

/-- Nothing is found in the empty registry. -/
@[simp] theorem find?_empty (key : κ) : (empty : Registry κ ν).find? key = none := rfl

/-- Erasing a key takes its value and no other. -/
theorem find?_erase (registry : Registry κ ν) (key other : κ) :
    (registry.erase key).find? other = if other = key then none else registry.find? other := by
  simp only [find?, erase, List.find?_filter]
  by_cases hsame : other = key
  · subst hsame
    simp
  · have : (fun entry : κ × ν => decide (decide (entry.1 ≠ key) = true ∧
        decide (entry.1 = other) = true)) = fun entry => decide (entry.1 = other) := by
      funext entry
      by_cases h : entry.1 = other
      · simp [h, hsame]
      · simp [h]
    simp only [hsame, if_false, this]

/-- An inserted value is found under its key, and the other keys keep theirs. -/
theorem find?_insert (registry : Registry κ ν) (key other : κ) (value : ν) :
    (registry.insert key value).find? other
      = if other = key then some value else registry.find? other := by
  have hsplit : (registry.insert key value).find? other
      = ((registry.erase key).find? other).or
          (if key = other then some value else none) := by
    simp only [find?, insert, List.find?_append]
    by_cases hsame : key = other
    · cases h : (registry.erase key).entries.find? fun entry => entry.1 = other <;>
        simp [hsame]
    · cases h : (registry.erase key).entries.find? fun entry => entry.1 = other <;>
        simp [hsame]
  rw [hsplit, find?_erase]
  by_cases hsame : other = key
  · subst hsame
    simp
  · have : ¬ key = other := fun h => hsame h.symm
    simp [hsame, this]

/-- A key is found with the value of its entry. -/
theorem find?_eq_some_iff (registry : Registry κ ν) (key : κ) (value : ν) :
    registry.find? key = some value ↔ (key, value) ∈ registry.entries := by
  obtain ⟨entries, hdistinct⟩ := registry
  simp only [find?]
  induction entries with
  | nil => simp
  | cons entry entries ih =>
      obtain ⟨used, held⟩ := entry
      simp only [List.map_cons, List.nodup_cons] at hdistinct
      by_cases hsame : used = key
      · subst hsame
        simp only [List.find?_cons, decide_true, Option.map_some, Option.some.injEq,
          List.mem_cons, Prod.mk.injEq, true_and]
        refine ⟨fun h => .inl h.symm, fun h => ?_⟩
        rcases h with h | h
        · exact h.symm
        · exact absurd (List.mem_map_of_mem h) hdistinct.1
      · have hother : ¬ key = used := fun h => hsame h.symm
        rw [List.find?_cons_of_neg (by simp [hsame]), ih hdistinct.2]
        simp [hother]

/-- No entry has a key that is not found. -/
theorem find?_eq_none_iff (registry : Registry κ ν) (key : κ) :
    registry.find? key = none ↔ ∀ entry ∈ registry.entries, entry.1 ≠ key := by
  simp [find?]

/-- A registry in which nothing is found is the empty one. -/
theorem eq_empty_of_find?_eq_none {registry : Registry κ ν}
    (habsent : ∀ key, registry.find? key = none) : registry = .empty := by
  apply eq_empty_of_values_eq_nil
  apply List.eq_nil_iff_forall_not_mem.mpr
  intro value hmem
  obtain ⟨entry, hheld, -⟩ := List.mem_map.mp hmem
  exact (find?_eq_none_iff registry entry.1).mp (habsent entry.1) entry hheld rfl

/-- Erasing a key that is not in use changes nothing. -/
theorem erase_of_find?_eq_none {registry : Registry κ ν} {key : κ}
    (habsent : registry.find? key = none) : registry.erase key = registry := by
  have hunused := (find?_eq_none_iff registry key).mp habsent
  obtain ⟨entries, hdistinct⟩ := registry
  simp only [erase, Registry.mk.injEq, List.filter_eq_self]
  intro entry hmem
  simpa using hunused entry hmem

/-- Erasing a key forgets what was inserted under it. -/
theorem erase_insert (registry : Registry κ ν) (key : κ) (value : ν) :
    (registry.insert key value).erase key = registry.erase key := by
  simp [erase, insert, List.filter_filter]

/-- An inserted value comes last. -/
theorem values_insert (registry : Registry κ ν) (key : κ) (value : ν) :
    (registry.insert key value).values = (registry.erase key).values ++ [value] := by
  simp [values, insert]

/-- Erasing a key keeps the other values in their order. -/
theorem values_erase_sublist (registry : Registry κ ν) (key : κ) :
    (registry.erase key).values.Sublist registry.values :=
  List.filter_sublist.map Prod.snd

/-- An inserted key comes last. -/
theorem keys_insert (registry : Registry κ ν) (key : κ) (value : ν) :
    (registry.insert key value).keys = (registry.erase key).keys ++ [key] := by
  simp [keys, insert]

/-- Erasing a key keeps the other keys in their order. -/
theorem keys_erase_sublist (registry : Registry κ ν) (key : κ) :
    (registry.erase key).keys.Sublist registry.keys :=
  List.filter_sublist.map Prod.fst

/-- A key that is found is in use. -/
theorem mem_keys_of_find?_eq_some {registry : Registry κ ν} {key : κ} {value : ν}
    (hfound : registry.find? key = some value) : key ∈ registry.keys :=
  List.mem_map.mpr ⟨_, (find?_eq_some_iff registry key value).mp hfound, rfl⟩

/-- Erasing a key takes one value out. -/
theorem perm_values_erase {registry : Registry κ ν} {key : κ} {value : ν}
    (hfound : registry.find? key = some value) :
    registry.values.Perm (value :: (registry.erase key).values) := by
  have hmem := (find?_eq_some_iff registry key value).mp hfound
  obtain ⟨entries, hdistinct⟩ := registry
  obtain ⟨before, after, rfl⟩ := List.append_of_mem hmem
  have hothers : ∀ entry ∈ before ++ after, entry.1 ≠ key := by
    intro entry hentry hsame
    have hpulled := (List.perm_middle.map Prod.fst).nodup_iff.mp hdistinct
    rw [List.map_cons, List.nodup_cons] at hpulled
    exact hpulled.1 (List.mem_map.mpr ⟨entry, hentry, hsame⟩)
  have hkept : (before ++ (key, value) :: after).filter (fun entry => entry.1 ≠ key)
      = before ++ after := by
    rw [List.filter_append, List.filter_cons_of_neg (by simp), ← List.filter_append,
      List.filter_eq_self]
    intro entry hentry
    simpa using hothers entry hentry
  simp only [values, erase, hkept]
  exact List.perm_middle.map Prod.snd

/-- A new key is inserted. -/
theorem insertNew?_of_find?_eq_none {registry : Registry κ ν} {key : κ}
    (habsent : registry.find? key = none) (value : ν) :
    registry.insertNew? key value = some (registry.insert key value) := by
  simp [insertNew?, contains, habsent]

/-- A key in use is refused. -/
theorem insertNew?_of_find?_eq_some {registry : Registry κ ν} {key : κ} {held : ν}
    (hfound : registry.find? key = some held) (value : ν) :
    registry.insertNew? key value = none := by
  simp [insertNew?, contains, hfound]

end Registry

end ChainRpc.Link
