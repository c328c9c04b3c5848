/-!
# Maps in order of insertion

A finite map as the list of its entries, each key once, in the order in which the keys were first
written.

**Results.**
* `lookup_put_self`, `lookup_put_of_ne`: writing a key changes that key only.
* `keys_put`: a new key goes last, a known key keeps its place.
* `nodup_keys_put`: no key is ever entered twice.
-/

namespace RestartCheck

/-- A finite map as a list of entries. -/
abbrev OrderedMap (κ ν : Type) := List (κ × ν)

namespace OrderedMap

variable {κ ν : Type} [DecidableEq κ]

def lookup (map : OrderedMap κ ν) (key : κ) : Option ν :=
  match map with
  | [] => none
  | (known, value) :: rest => if key = known then some value else lookup rest key

/-- Write a key.  A known key keeps its place and a new one goes last. -/
def put (map : OrderedMap κ ν) (key : κ) (value : ν) : OrderedMap κ ν :=
  match map with
  | [] => [(key, value)]
  | (known, old) :: rest =>
    if key = known then (known, value) :: rest else (known, old) :: put rest key value

/-- Write several keys, one after the other. -/
def update (map more : OrderedMap κ ν) : OrderedMap κ ν :=
  more.foldl (fun result entry => put result entry.1 entry.2) map

omit [DecidableEq κ] in
def keys (map : OrderedMap κ ν) : List κ :=
  map.map Prod.fst

/-- The map of a list of pairs in which a later value for a key replaces an earlier one. -/
def ofPairs (pairs : List (κ × ν)) : OrderedMap κ ν :=
  update [] pairs

@[simp] theorem lookup_nil (key : κ) : lookup ([] : OrderedMap κ ν) key = none := rfl

theorem lookup_cons (known : κ) (value : ν) (rest : OrderedMap κ ν) (key : κ) :
    lookup ((known, value) :: rest) key = if key = known then some value else lookup rest key := rfl

theorem put_cons (known : κ) (old : ν) (rest : OrderedMap κ ν) (key : κ) (value : ν) :
    put ((known, old) :: rest) key value =
      if key = known then (known, value) :: rest else (known, old) :: put rest key value := rfl

/-- A value that was put is found. -/
@[simp] theorem lookup_put_self (map : OrderedMap κ ν) (key : κ) (value : ν) :
    lookup (put map key value) key = some value := by
  induction map with
  | nil => simp [put, lookup_cons]
  | cons entry rest ih =>
    obtain ⟨known, old⟩ := entry
    by_cases h : key = known <;> simp [put_cons, lookup_cons, h] at ih ⊢
    exact ih

/-- Putting a value leaves the other keys alone. -/
theorem lookup_put_of_ne (map : OrderedMap κ ν) {key other : κ} (value : ν) (hne : other ≠ key) :
    lookup (put map key value) other = lookup map other := by
  induction map with
  | nil => simp [put, lookup_cons, hne]
  | cons entry rest ih =>
    obtain ⟨known, old⟩ := entry
    by_cases h : key = known
    · subst h; simp [put_cons, lookup_cons, hne]
    · by_cases ho : other = known <;> simp [put_cons, h, lookup_cons, ho, ih]

/-- What is found is an entry. -/
theorem mem_of_lookup_eq_some {map : OrderedMap κ ν} {key : κ} {value : ν}
    (h : lookup map key = some value) : (key, value) ∈ map := by
  induction map with
  | nil => cases h
  | cons entry rest ih =>
    obtain ⟨known, old⟩ := entry
    rw [lookup_cons] at h
    by_cases hk : key = known
    · rw [if_pos hk, Option.some.injEq] at h
      rw [hk, h]
      exact List.mem_cons_self
    · rw [if_neg hk] at h
      exact List.mem_cons_of_mem _ (ih h)

/-- An entry is found when the keys are told apart. -/
theorem lookup_of_mem {map : OrderedMap κ ν} {entry : κ × ν} (hnodup : (keys map).Nodup)
    (hmem : entry ∈ map) : lookup map entry.1 = some entry.2 := by
  induction map with
  | nil => cases hmem
  | cons first rest ih =>
    obtain ⟨hnotMem, hrest⟩ := List.nodup_cons.1 hnodup
    rw [lookup_cons]
    rcases List.mem_cons.1 hmem with rfl | hmem
    · exact if_pos rfl
    · rw [if_neg, ih hrest hmem]
      intro hsame
      exact hnotMem (hsame ▸ List.mem_map_of_mem hmem)

/-- Entries in front are found first. -/
theorem lookup_append_left {front back : OrderedMap κ ν} {key : κ} {value : ν}
    (h : lookup front key = some value) : lookup (front ++ back) key = some value := by
  induction front with
  | nil => cases h
  | cons entry rest ih =>
    obtain ⟨known, old⟩ := entry
    rw [List.cons_append, lookup_cons]
    rw [lookup_cons] at h
    split
    · next hk => rwa [if_pos hk] at h
    · next hk => exact ih (by rwa [if_neg hk] at h)

/-- A key that is not in front is looked up behind. -/
theorem lookup_append_right {front back : OrderedMap κ ν} {key : κ}
    (h : lookup front key = none) : lookup (front ++ back) key = lookup back key := by
  induction front with
  | nil => rfl
  | cons entry rest ih =>
    rw [lookup_cons] at h
    rw [List.cons_append, lookup_cons]
    split at h
    · cases h
    · next hne => rw [if_neg hne, ih h]

/-- Entries of other keys do not matter to a lookup. -/
theorem lookup_filter {map : OrderedMap κ ν} {key : κ} {keep : κ × ν → Bool}
    (hkeep : ∀ entry ∈ map, entry.1 = key → keep entry = true) :
    lookup (map.filter keep) key = lookup map key := by
  induction map with
  | nil => rfl
  | cons entry rest ih =>
    obtain ⟨hentry, hrest⟩ := List.forall_mem_cons.1 hkeep
    rw [List.filter_cons]
    cases hkept : keep entry with
    | true => rw [if_pos rfl, lookup_cons, lookup_cons, ih hrest]
    | false =>
      have hne : key ≠ entry.1 := fun hsame => by simp [hentry hsame.symm] at hkept
      rw [if_neg Bool.false_ne_true, ih hrest, lookup_cons, if_neg hne]

/-- A new key goes to the end, and a known one keeps its place. -/
theorem keys_put (map : OrderedMap κ ν) (key : κ) (value : ν) :
    keys (put map key value) = if key ∈ keys map then keys map else keys map ++ [key] := by
  induction map with
  | nil => simp [put, keys]
  | cons entry rest ih =>
    obtain ⟨known, old⟩ := entry
    simp only [keys] at ih
    by_cases h : key = known
    · simp [put_cons, keys, h]
    · by_cases hmem : key ∈ rest.map Prod.fst <;> simp [put_cons, keys, h, ih, hmem]

theorem nodup_keys_put {map : OrderedMap κ ν} (h : (keys map).Nodup) (key : κ) (value : ν) :
    (keys (put map key value)).Nodup := by
  rw [keys_put]
  split
  · exact h
  · next hmem =>
    refine List.nodup_append.2 ⟨h, by simp, fun a ha b hb hab => hmem ?_⟩
    rwa [← List.mem_singleton.1 hb, ← hab]

/-- No key is there twice after an update. -/
theorem nodup_keys_update {map : OrderedMap κ ν} (h : (keys map).Nodup)
    (more : OrderedMap κ ν) : (keys (update map more)).Nodup := by
  induction more generalizing map with
  | nil => exact h
  | cons entry rest ih => exact ih (nodup_keys_put h entry.1 entry.2)

end OrderedMap

end RestartCheck
