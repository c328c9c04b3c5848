import RestartCheck.Proofs.Json.Distinct
import RestartCheck.Settings.Loading

/-!
# Layers of settings

Sources of settings are laid over each other key by key.  For trees that agree on which places are
tables this has a simple meaning: every place holds the value of the first source that has one
there.

**Algorithm.**  Looking up a key of laid-over entries lays what is below the key in the upper
entries over what is below it in the lower ones.  By induction on the path the same holds of every
place, and by induction on the sources of any number of them.

**Results.**
* `Node.at?_overlay`: what a place holds in a tree that was laid over another.
* `Node.value?_overlay`: the upper value counts, and the lower one where there is none.
* `Settings.valueIn_merge`: among several sources the first that holds a value counts.
* `Settings.valueIn_merge_congr`: what lies below a value has no influence on it.
* `Settings.valueIn_merge_of_same`: a source has no influence on the places that it leaves alone.
-/

namespace RestartCheck
namespace Node

/-! ## Trees with distinct keys -/

/-- No table of the tree has two entries of one key.  What lies in a list is part of a value. -/
inductive IsDistinct : Node → Prop
  | value {node : Node} (hvalue : node.isTable = false) : IsDistinct node
  | table {entries : Entries}
      (hkeys : (OrderedMap.keys entries).Nodup)
      (hentries : ∀ entry ∈ entries, IsDistinct entry.2) :
      IsDistinct (.table entries)

theorem isDistinct_table_iff
    {entries : Entries} :
    IsDistinct (.table entries) ↔
      (OrderedMap.keys entries).Nodup ∧ ∀ entry ∈ entries, IsDistinct entry.2 := by
  constructor
  · intro hdistinct
    cases hdistinct with
    | value hvalue => cases hvalue
    | table hkeys hentries => exact ⟨hkeys, hentries⟩
  · rintro ⟨hkeys, hentries⟩
    exact .table hkeys hentries

theorem isDistinct_empty : IsDistinct (.table []) :=
  .table List.nodup_nil (List.forall_mem_nil _)

theorem isDistinct_of_lookup
    {entries : Entries} {key : String} {child : Node}
    (hdistinct : IsDistinct (.table entries))
    (hlookup : OrderedMap.lookup entries key = some child) :
    IsDistinct child :=
  (isDistinct_table_iff.mp hdistinct).2 _ (OrderedMap.mem_of_lookup_eq_some hlookup)

/-! ## One tree over another -/

/-- One node over another, where either may be missing. -/
def stacked : Option Node → Option Node → Option Node
  | none, lower => lower
  | some upper, none => some upper
  | some upper, some lower => some (overlay upper lower)

@[simp] theorem stacked_none_left
    (lower : Option Node) :
    stacked none lower = lower := by
  rfl

@[simp] theorem stacked_none_right
    (upper : Option Node) :
    stacked upper none = upper := by
  cases upper with
  | none => rfl
  | some node => rfl

@[simp] theorem isTable_overlay
    (upper lower : Node) :
    (overlay upper lower).isTable = upper.isTable := by
  cases upper with
  | table entries =>
      cases lower with
      | table others => simp only [overlay, isTable]
      | null | bool | int | float | text | moment | list => simp only [overlay, isTable]
  | null | bool | int | float | text | moment | list => rw [overlay_value rfl]

/-- What is below a key of entries that were laid over others. -/
theorem lookup_overlayEntries
    {upper : Entries}
    (hkeys : (OrderedMap.keys upper).Nodup)
    (lower : Entries)
    (key : String) :
    OrderedMap.lookup (overlayEntries upper lower) key =
      stacked (OrderedMap.lookup upper key) (OrderedMap.lookup lower key) := by
  induction upper generalizing lower with
  | nil => rw [overlayEntries_nil, OrderedMap.lookup_nil, stacked_none_left]
  | cons entry rest ih =>
      obtain ⟨first, value⟩ := entry
      obtain ⟨hfirst, hrest⟩ := List.nodup_cons.mp hkeys
      rw [overlayEntries, ih hrest, OrderedMap.lookup_cons]
      by_cases hkey : key = first
      · subst hkey
        -- The rest of the upper entries does not have the key, so its place is final.
        have hnone : OrderedMap.lookup rest key = none := by
          refine Option.eq_none_iff_forall_ne_some.mpr fun found hfound => hfirst ?_
          exact List.mem_map.mpr ⟨_, OrderedMap.mem_of_lookup_eq_some hfound, rfl⟩
        rw [if_pos rfl, hnone, stacked_none_left, OrderedMap.lookup_put_self]
        cases OrderedMap.lookup lower key with
        | none => rfl
        | some below => rfl
      · rw [if_neg hkey, OrderedMap.lookup_put_of_ne _ _ hkey]

/-! ## Places -/

@[simp] theorem at?_nil
    (node : Node) :
    node.at? [] = some node := by
  cases node with
  | table entries => rfl
  | null | bool | int | float | text | moment | list => rfl

theorem at?_table_cons
    (entries : Entries)
    (key : String)
    (path : List String) :
    at? (.table entries) (key :: path) =
      (OrderedMap.lookup entries key).bind fun child => child.at? path := by
  rw [at?]
  cases OrderedMap.lookup entries key with
  | none => rfl
  | some child => rfl

/-- No path leads through a value. -/
theorem at?_value_cons
    {node : Node}
    (hvalue : node.isTable = false)
    (key : String)
    (path : List String) :
    node.at? (key :: path) = none := by
  cases node with
  | table entries => cases hvalue
  | null | bool | int | float | text | moment | list => rfl

/-- No place is a table in one tree and a value in the other. -/
def Agree (upper lower : Node) : Prop :=
  ∀ ⦃path : List String⦄ ⦃first second : Node⦄,
    upper.at? path = some first → lower.at? path = some second → first.isTable = second.isTable

namespace Agree

theorem isTable_eq
    {upper lower : Node}
    (hagree : Agree upper lower) :
    upper.isTable = lower.isTable :=
  hagree (at?_nil upper) (at?_nil lower)

/-- Trees that agree still do below a key. -/
theorem of_lookup
    {upper lower : Entries} {key : String} {first second : Node}
    (hagree : Agree (.table upper) (.table lower))
    (hfirst : OrderedMap.lookup upper key = some first)
    (hsecond : OrderedMap.lookup lower key = some second) :
    Agree first second := by
  intro path above below habove hbelow
  refine @hagree (key :: path) _ _ ?_ ?_
  · rw [at?_table_cons, hfirst, Option.bind_some, habove]
  · rw [at?_table_cons, hsecond, Option.bind_some, hbelow]

/-- Two values agree, whatever they are. -/
theorem of_values
    {upper lower : Node}
    (hupper : upper.isTable = false)
    (hlower : lower.isTable = false) :
    Agree upper lower := by
  intro path first second hfirst hsecond
  cases path with
  | nil =>
      rw [at?_nil, Option.some.injEq] at hfirst hsecond
      rw [← hfirst, ← hsecond, hupper, hlower]
  | cons key path =>
      rw [at?_value_cons hupper] at hfirst
      cases hfirst

/-- Tables agree when what they have under the same keys does. -/
theorem of_entries
    {upper lower : Entries}
    (hentries : ∀ entry ∈ upper, ∀ below, OrderedMap.lookup lower entry.1 = some below →
      Agree entry.2 below) :
    Agree (.table upper) (.table lower) := by
  intro path first second hfirst hsecond
  cases path with
  | nil =>
      rw [at?_nil, Option.some.injEq] at hfirst hsecond
      rw [← hfirst, ← hsecond]
      rfl
  | cons key path =>
      rw [at?_table_cons] at hfirst hsecond
      obtain ⟨child, hchild, hfirst⟩ := Option.bind_eq_some_iff.mp hfirst
      obtain ⟨other, hother, hsecond⟩ := Option.bind_eq_some_iff.mp hsecond
      have hmem : (key, child) ∈ upper := OrderedMap.mem_of_lookup_eq_some hchild
      exact hentries (key, child) hmem other hother hfirst hsecond

/-- Tables without tables in them agree. -/
theorem of_flat
    {upper lower : Entries}
    (hupper : ∀ entry ∈ upper, entry.2.isTable = false)
    (hlower : ∀ entry ∈ lower, entry.2.isTable = false) :
    Agree (.table upper) (.table lower) :=
  of_entries fun entry hmem _ hbelow =>
    of_values (hupper entry hmem) (hlower _ (OrderedMap.mem_of_lookup_eq_some hbelow))

/-- Every table agrees with the empty one. -/
theorem empty_right
    (entries : Entries) :
    Agree (.table entries) (.table []) := by
  refine of_entries fun entry _ below hbelow => ?_
  cases hbelow

end Agree

/-- What a place holds in a tree that was laid over another. -/
theorem at?_overlay
    {upper lower : Node}
    (hupper : IsDistinct upper)
    (hagree : Agree upper lower)
    (path : List String) :
    (overlay upper lower).at? path = stacked (upper.at? path) (lower.at? path) := by
  induction path generalizing upper lower with
  | nil =>
      rw [at?_nil, at?_nil, at?_nil]
      rfl
  | cons key path ih =>
      cases hupper with
      | value hvalue =>
          have hlower : lower.isTable = false := hagree.isTable_eq ▸ hvalue
          rw [overlay_value hvalue, at?_value_cons hvalue, at?_value_cons hlower]
          rfl
      | @table entries hkeys hentries =>
          cases lower with
          | table others =>
              rw [overlay, at?_table_cons, at?_table_cons, at?_table_cons,
                lookup_overlayEntries hkeys]
              cases hfirst : OrderedMap.lookup entries key with
              | none => rw [stacked_none_left, Option.bind_none, stacked_none_left]
              | some first =>
                  cases hsecond : OrderedMap.lookup others key with
                  | none => rw [stacked_none_right, Option.bind_none, stacked_none_right]
                  | some second =>
                      exact ih (hentries _ (OrderedMap.mem_of_lookup_eq_some hfirst))
                        (hagree.of_lookup hfirst hsecond)
          | null | bool | int | float | text | moment | list => cases hagree.isTable_eq

/-- A tree that agrees with two others agrees with the one laid over the other. -/
theorem Agree.overlay_right
    {node upper lower : Node}
    (hupper : IsDistinct upper)
    (hagree : Agree upper lower)
    (hfirst : Agree node upper)
    (hsecond : Agree node lower) :
    Agree node (overlay upper lower) := by
  intro path above below habove hbelow
  rw [at?_overlay hupper hagree] at hbelow
  cases hfound : upper.at? path with
  | none =>
      rw [hfound, stacked_none_left] at hbelow
      exact hsecond habove hbelow
  | some found =>
      rw [hfound] at hbelow
      cases hother : lower.at? path with
      | none =>
          rw [hother, stacked_none_right] at hbelow
          cases hbelow
          exact hfirst habove hfound
      | some other =>
          rw [hother] at hbelow
          cases hbelow
          rw [isTable_overlay]
          exact hfirst habove hfound

/-- What a place holds, unless it is a table. -/
def value? (node : Node) (path : List String) : Option Node :=
  (node.at? path).filter fun found => !found.isTable

/-- The upper value counts, and the lower one where there is none. -/
theorem value?_overlay
    {upper lower : Node}
    (hupper : IsDistinct upper)
    (hagree : Agree upper lower)
    (path : List String) :
    (overlay upper lower).value? path = (upper.value? path).or (lower.value? path) := by
  unfold value?
  rw [at?_overlay hupper hagree]
  cases hfirst : upper.at? path with
  | none => rw [stacked_none_left, Option.filter_none, Option.none_or]
  | some first =>
      cases hsecond : lower.at? path with
      | none => rw [stacked_none_right, Option.filter_none, Option.or_none]
      | some second =>
          have hsame : first.isTable = second.isTable := hagree hfirst hsecond
          rw [stacked, Option.filter_some, Option.filter_some, Option.filter_some, isTable_overlay,
            ← hsame]
          cases htable : first.isTable with
          | true => rfl
          | false =>
              rw [overlay_value htable]
              rfl

theorem value?_empty
    (path : List String) :
    value? (.table []) path = none := by
  cases path with
  | nil => rfl
  | cons key path => rfl

end Node

namespace Settings

open Node

/-! ## Several sources -/

/-- A place of a source that holds a value. -/
def valueIn (path : List String) (layer : Node.Entries) : Option Node :=
  value? (.table layer) path

/-- Sources with distinct keys, of which no two disagree on whether a place is a table. -/
structure AreLayers (layers : List Node.Entries) : Prop where
  distinct : ∀ layer ∈ layers, IsDistinct (.table layer)
  agree : layers.Pairwise fun upper lower => Agree (.table upper) (.table lower)

namespace AreLayers

theorem tail
    {layer : Node.Entries} {below : List Node.Entries}
    (hlayers : AreLayers (layer :: below)) :
    AreLayers below :=
  ⟨fun other hmem => hlayers.distinct other (List.mem_cons_of_mem _ hmem), hlayers.agree.of_cons⟩

/-- What agrees with every source agrees with the sources laid over each other. -/
theorem agree_merge
    {source : Node.Entries} {layers : List Node.Entries}
    (hlayers : AreLayers layers)
    (hsource : ∀ layer ∈ layers, Agree (.table source) (.table layer)) :
    Agree (.table source) (.table (merge layers)) := by
  induction layers generalizing source with
  | nil => exact Agree.empty_right source
  | cons layer below ih =>
      obtain ⟨hlayer, hbelow⟩ := List.forall_mem_cons.mp hsource
      have hfirst : ∀ other ∈ below, Agree (.table layer) (.table other) :=
        (List.pairwise_cons.mp hlayers.agree).1
      have hover := Agree.overlay_right (hlayers.distinct layer List.mem_cons_self)
        (ih hlayers.tail hfirst) hlayer (ih hlayers.tail hbelow)
      rwa [overlay] at hover

end AreLayers

/-- Among several sources the first that holds a value counts. -/
theorem valueIn_merge
    {layers : List Node.Entries}
    (hlayers : AreLayers layers)
    (path : List String) :
    valueIn path (merge layers) = layers.findSome? (valueIn path) := by
  induction layers with
  | nil => exact value?_empty path
  | cons layer below ih =>
      have hagree : Agree (.table layer) (.table (merge below)) :=
        hlayers.tail.agree_merge (List.pairwise_cons.mp hlayers.agree).1
      have hover : valueIn path (merge (layer :: below)) =
          (valueIn path layer).or (valueIn path (merge below)) := by
        have hplace := value?_overlay (hlayers.distinct layer List.mem_cons_self) hagree path
        rwa [overlay] at hplace
      rw [hover, List.findSome?_cons, ← ih hlayers.tail]
      cases valueIn path layer with
      | none => rfl
      | some found => rfl

/-- What lies below a value has no influence on it. -/
theorem valueIn_merge_congr
    {upper lower other : List Node.Entries} {path : List String}
    (hlower : AreLayers (upper ++ lower))
    (hother : AreLayers (upper ++ other))
    (hset : ∃ layer ∈ upper, (valueIn path layer).isSome) :
    valueIn path (merge (upper ++ lower)) = valueIn path (merge (upper ++ other)) := by
  obtain ⟨layer, hmem, hvalue⟩ := hset
  have hfound : (upper.findSome? (valueIn path)).isSome :=
    List.findSome?_isSome_iff.mpr ⟨layer, hmem, hvalue⟩
  obtain ⟨value, hvalue⟩ := Option.isSome_iff_exists.mp hfound
  rw [valueIn_merge hlower, valueIn_merge hother, List.findSome?_append, List.findSome?_append,
    hvalue, Option.some_or, Option.some_or]

/-- A source has no influence on a place beyond the value that it holds there. -/
theorem valueIn_merge_of_same
    {above below : List Node.Entries} {layer changed : Node.Entries} {path : List String}
    (hchanged : AreLayers (above ++ changed :: below))
    (hlayers : AreLayers (above ++ layer :: below))
    (hsame : valueIn path changed = valueIn path layer) :
    valueIn path (merge (above ++ changed :: below)) =
      valueIn path (merge (above ++ layer :: below)) := by
  rw [valueIn_merge hchanged, valueIn_merge hlayers, List.findSome?_append,
    List.findSome?_append, List.findSome?_cons, List.findSome?_cons, hsame]

end Settings
end RestartCheck
