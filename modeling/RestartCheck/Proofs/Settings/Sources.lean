import RestartCheck.Proofs.Settings.Layers
import RestartCheck.Proofs.Settings.Loading

/-!
# Sources of settings

Settings come from the environment and from two files.  Every source describes a tree in which each
key of a table occurs once, so the sources can be laid over each other, and what is checked in the
end holds in every place the value of the first source that has one there.

**Results.**
* `Environment.isDistinct_entries`: the variables describe a tree with distinct keys.
* `Settings.isDistinct_readSource`, `Settings.exists_readSource_of_parse`: so do the files, which
  hold the values of their documents.
* `Settings.Surroundings.exists_sources_of_runs_load`: what is loaded is the two files under the
  environment.
* `Settings.sources_by_priority`: the variables come before the file of the environment that the run
  belongs to, and this one before the base file.
-/

namespace RestartCheck

/-! ## Trees with distinct keys -/

namespace Node

theorem isDistinct_put
    {entries : Entries} {value : Node}
    (hentries : IsDistinct (.table entries))
    (hvalue : IsDistinct value)
    (key : String) :
    IsDistinct (.table (OrderedMap.put entries key value)) := by
  obtain ⟨hkeys, hvalues⟩ := isDistinct_table_iff.mp hentries
  refine .table (OrderedMap.nodup_keys_put hkeys key value) fun entry hmem => ?_
  rcases OrderedMap.mem_put hmem with hold | hnew
  · exact hvalues entry hold
  · exact hnew ▸ hvalue

theorem isDistinct_ofPairs
    {pairs : List (String × Node)}
    (hpairs : ∀ pair ∈ pairs, IsDistinct pair.2) :
    IsDistinct (.table (OrderedMap.ofPairs pairs)) := by
  have hempty : (OrderedMap.keys ([] : Entries)).Nodup := List.nodup_nil
  refine .table (OrderedMap.nodup_keys_update hempty pairs) fun entry hmem => ?_
  rcases OrderedMap.exists_mem_of_mem_update hmem with hnone | ⟨pair, hpair, hvalue⟩
  · cases hnone
  · exact hvalue ▸ hpairs pair hpair

theorem isDistinct_overlayEntries
    {upper lower : Entries}
    (hupper : ∀ entry ∈ upper, IsDistinct entry.2)
    (hover : ∀ entry ∈ upper, ∀ below, IsDistinct below → IsDistinct (overlay entry.2 below))
    (hlower : IsDistinct (.table lower)) :
    IsDistinct (.table (overlayEntries upper lower)) := by
  induction upper generalizing lower with
  | nil => rwa [overlayEntries_nil]
  | cons entry rest ih =>
      obtain ⟨key, value⟩ := entry
      obtain ⟨hvalue, hrest⟩ := List.forall_mem_cons.mp hupper
      obtain ⟨hoverValue, hoverRest⟩ := List.forall_mem_cons.mp hover
      rw [overlayEntries]
      refine ih hrest hoverRest (isDistinct_put hlower ?_ key)
      cases hfound : OrderedMap.lookup lower key with
      | none => exact hvalue
      | some below => exact hoverValue below (isDistinct_of_lookup hlower hfound)

theorem isDistinct_overlay
    {upper lower : Node}
    (hupper : IsDistinct upper)
    (hlower : IsDistinct lower) :
    IsDistinct (overlay upper lower) := by
  induction hupper generalizing lower with
  | value hvalue =>
      rw [overlay_value hvalue]
      exact .value hvalue
  | @table entries hkeys hentries ih =>
      cases lower with
      | table others =>
          rw [overlay]
          exact isDistinct_overlayEntries hentries (fun entry hmem _ hbelow => ih entry hmem hbelow)
            hlower
      | null | bool | int | float | text | moment | list =>
          rw [overlay]
          · exact .table hkeys hentries
          · exact fun _ _ _ h => by cases h

/-! ### Decoded values -/

theorem keys_ofMembers
    (members : List (String × Json)) :
    OrderedMap.keys (ofMembers members) = OrderedMap.keys members := by
  induction members with
  | nil => rfl
  | cons member rest ih => exact congrArg (member.1 :: ·) ih

theorem forall_mem_ofMembers
    {members : List (String × Json)} {P : Node → Prop}
    (hmembers : ∀ member ∈ members, P (ofJson member.2)) :
    ∀ entry ∈ ofMembers members, P entry.2 := by
  induction members with
  | nil => exact List.forall_mem_nil _
  | cons member rest ih =>
      obtain ⟨hfirst, hrest⟩ := List.forall_mem_cons.mp hmembers
      exact List.forall_mem_cons.mpr ⟨hfirst, ih hrest⟩

theorem isDistinct_ofJson
    {data : Json}
    (hdata : data.IsDistinct) :
    IsDistinct (ofJson data) := by
  induction hdata with
  | null | bool | int | float | string | array => exact .value rfl
  | object hnames _ ih =>
      exact .table (keys_ofMembers _ ▸ hnames) (forall_mem_ofMembers ih)

/-! ### Names of settings in any case -/

/-- Aligned entries have the values of the entries, aligned in turn where they belong to a field. -/
theorem exists_mem_of_mem_alignEntries
    {fields : List (String × Shape)} {entries : List (String × Node)} {aligned : String × Node}
    (hmem : aligned ∈ alignEntries fields entries) :
    ∃ entry ∈ entries, aligned.2 = entry.2 ∨ ∃ shape, aligned.2 = align shape entry.2 := by
  induction entries with
  | nil => cases hmem
  | cons entry rest ih =>
      obtain ⟨key, value⟩ := entry
      rw [alignEntries] at hmem
      rcases List.mem_cons.mp hmem with hfirst | hrest
      · refine ⟨(key, value), List.mem_cons_self, ?_⟩
        rw [hfirst]
        cases Shape.fieldOf? fields key with
        | none => exact Or.inl rfl
        | some field => exact Or.inr ⟨field.2, rfl⟩
      · obtain ⟨known, hknown, hvalue⟩ := ih hrest
        exact ⟨known, List.mem_cons_of_mem _ hknown, hvalue⟩

theorem isDistinct_align
    {node : Node}
    (hnode : IsDistinct node)
    (shape : Shape) :
    IsDistinct (align shape node) := by
  induction hnode generalizing shape with
  | @value node hvalue =>
      cases node with
      | table entries => cases hvalue
      | null | bool | int | float | text | moment | list => exact .value rfl
  | table hkeys hentries ih =>
      cases shape with
      | single | several => exact .table hkeys hentries
      | group fields =>
          refine isDistinct_ofPairs fun aligned hmem => ?_
          obtain ⟨entry, hentry, hsame | ⟨shape, haligned⟩⟩ := exists_mem_of_mem_alignEntries hmem
          · exact hsame ▸ hentries entry hentry
          · exact haligned ▸ ih entry hentry shape

theorem keys_alignTop_sublist
    (fields : List (String × Shape))
    (entries : Entries) :
    (OrderedMap.keys (alignTop fields entries)).Sublist (fields.map Prod.fst) := by
  induction fields with
  | nil => exact List.Sublist.refl _
  | cons field rest ih =>
      unfold alignTop at ih ⊢
      rw [List.filterMap_cons]
      cases entries.find? fun entry => Text.lower entry.1 == field.1 with
      | none => exact ih.cons field.1
      | some entry => exact ih.cons_cons field.1

theorem isDistinct_alignTop
    {fields : List (String × Shape)} {entries : Entries}
    (hfields : (fields.map Prod.fst).Nodup)
    (hentries : IsDistinct (.table entries)) :
    IsDistinct (.table (alignTop fields entries)) := by
  refine .table ((keys_alignTop_sublist fields entries).nodup hfields) fun aligned hmem => ?_
  obtain ⟨field, _, hfound⟩ := List.mem_filterMap.mp hmem
  obtain ⟨entry, hentry, rfl⟩ := Option.map_eq_some_iff.mp hfound
  exact (isDistinct_table_iff.mp hentries).2 entry (List.mem_of_find?_eq_some hentry)

/-- A field holds what the first key that spells it leads to. -/
theorem lookup_alignTop
    {fields : List (String × Shape)} {name : String}
    (hfields : (fields.map Prod.fst).Nodup)
    (hname : name ∈ fields.map Prod.fst)
    (entries : Entries) :
    OrderedMap.lookup (alignTop fields entries) name =
      (entries.find? fun entry => Text.lower entry.1 == name).map Prod.snd := by
  refine Option.ext fun value => ?_
  rw [OrderedMap.lookup_eq_some_iff_mem ((keys_alignTop_sublist fields entries).nodup hfields),
    alignTop, List.mem_filterMap]
  constructor
  · rintro ⟨field, _, haligned⟩
    obtain ⟨entry, hfound, hsame⟩ := Option.map_eq_some_iff.mp haligned
    cases hsame
    rw [hfound, Option.map_some]
  · intro hvalue
    obtain ⟨field, hfield, rfl⟩ := List.mem_map.mp hname
    obtain ⟨entry, hfound, rfl⟩ := Option.map_eq_some_iff.mp hvalue
    exact ⟨field, hfield, by rw [hfound, Option.map_some]⟩

/-- Names that are spelled as the fields are stay where they are. -/
theorem value?_alignTop
    {fields : List (String × Shape)} {entries : Entries} {name : String}
    (hfields : (fields.map Prod.fst).Nodup)
    (hname : name ∈ fields.map Prod.fst)
    (hspelled : ∀ entry ∈ entries, Text.lower entry.1 = name ↔ name = entry.1)
    (path : List String) :
    value? (.table (alignTop fields entries)) (name :: path) =
      value? (.table entries) (name :: path) := by
  have hlookup :
      OrderedMap.lookup (alignTop fields entries) name = OrderedMap.lookup entries name := by
    rw [lookup_alignTop hfields hname]
    clear hname
    induction entries with
    | nil => rfl
    | cons entry rest ih =>
        obtain ⟨hentry, hrest⟩ := List.forall_mem_cons.mp hspelled
        rw [List.find?_cons, OrderedMap.lookup_cons]
        by_cases hsame : name = entry.1
        · rw [beq_iff_eq.mpr (hentry.mpr hsame), if_pos hsame, Option.map_some]
        · rw [beq_eq_false_iff_ne.mpr fun h => hsame (hentry.mp h), if_neg hsame]
          exact ih hrest
  unfold value?
  rw [at?_table_cons, at?_table_cons, hlookup]

end Node

/-! ## The environment -/

namespace Environment

open Node

theorem isDistinct_nodeOf
    {shape : Option Shape} {text : String} {value : Node}
    (hvalue : nodeOf shape text = .ok value) :
    IsDistinct value := by
  unfold nodeOf at hvalue
  split at hvalue
  · cases hdecode : Json.decode text with
    | error fault =>
        rw [hdecode] at hvalue
        cases hvalue
    | ok data =>
        rw [hdecode] at hvalue
        cases hvalue
        exact isDistinct_ofJson (Json.isDistinct_of_decode hdecode)
  · cases hvalue
    exact .value rfl

theorem isDistinct_insertAt
    {value : Node} {entries : Node.Entries}
    (hvalue : IsDistinct value)
    (hentries : IsDistinct (.table entries))
    (keys : List String) :
    IsDistinct (.table (insertAt value keys entries)) := by
  fun_induction insertAt value keys entries with
  | case1 entries => exact hentries
  | case2 key entries => exact isDistinct_put hentries hvalue key
  | case3 key keys entries hmore hnone ih =>
      exact isDistinct_put hentries (ih isDistinct_empty) key
  | case4 key keys entries hmore inner hfound ih =>
      exact isDistinct_put hentries (ih (isDistinct_of_lookup hentries hfound)) key
  | case5 => exact hentries

theorem isDistinct_insertAll
    {shape : Shape} {parts : List (List String × String)} {entries result : Node.Entries}
    (hentries : IsDistinct (.table entries))
    (hresult : insertAll shape parts entries = .ok result) :
    IsDistinct (.table result) := by
  induction parts generalizing entries with
  | nil =>
      cases hresult
      exact hentries
  | cons part rest ih =>
      obtain ⟨keys, text⟩ := part
      rw [insertAll] at hresult
      cases hvalue : nodeOf (shapeAt? shape keys) text with
      | error fault =>
          rw [hvalue] at hresult
          cases hresult
      | ok value =>
          rw [hvalue] at hresult
          exact ih (isDistinct_insertAt (isDistinct_nodeOf hvalue) hentries keys) hresult

theorem isDistinct_sectionOf
    {environment : Variables} {name : String} {shape : Shape} {node : Node}
    (hnode : sectionOf environment name shape = .ok (some node)) :
    IsDistinct node := by
  have hparts : ∀ {parts}, insertAll shape (environment.filterMap (keysIn? name)) [] = .ok parts →
      IsDistinct (.table parts) := isDistinct_insertAll isDistinct_empty
  unfold sectionOf at hnode
  simp only at hnode
  split at hnode
  · cases hinsert : insertAll shape (environment.filterMap (keysIn? name)) [] with
    | error fault =>
        rw [hinsert] at hnode
        cases hnode
    | ok parts =>
        rw [hinsert] at hnode
        simp only [bind, Except.bind, pure, Except.pure, Except.ok.injEq] at hnode
        split at hnode
        · cases hnode
        · cases hnode
          exact hparts hinsert
  · next text _ =>
      cases hdecode : Json.decode text with
      | error fault =>
          rw [hdecode] at hnode
          cases hnode
      | ok data =>
          have hdata : IsDistinct (ofJson data) :=
            isDistinct_ofJson (Json.isDistinct_of_decode hdecode)
          rw [hdecode] at hnode
          simp only [bind, Except.bind, pure, Except.pure] at hnode
          split at hnode
          · cases hnode
          · next whole hwhole =>
              cases hinsert : insertAll shape (environment.filterMap (keysIn? name)) [] with
              | error fault =>
                  rw [hinsert] at hnode
                  cases hnode
              | ok parts =>
                  rw [hinsert] at hnode
                  cases hnode
                  exact isDistinct_overlay (hparts hinsert) (hwhole ▸ hdata)
          · cases hnode
            exact hdata

theorem isDistinct_settingOf
    {environment : Variables} {name : String} {shape : Shape} {node : Node}
    (hnode : settingOf environment name shape = .ok (some node)) :
    IsDistinct node := by
  unfold settingOf at hnode
  split at hnode
  · cases hsection : sectionOf environment name shape with
    | error fault =>
        rw [hsection] at hnode
        cases hnode
    | ok found =>
        rw [hsection] at hnode
        cases found with
        | none => cases hnode
        | some whole =>
            cases hnode
            exact isDistinct_align (isDistinct_sectionOf hsection) shape
  · cases hfound : OrderedMap.lookup environment (nameStart ++ name) with
    | none =>
        rw [hfound] at hnode
        cases hnode
    | some text =>
        rw [hfound] at hnode
        cases hnode
        exact .value rfl

/-- Every setting is given at most once, by a tree with distinct keys. -/
theorem entriesFor_spec
    {environment : Variables} {fields : List (String × Shape)} {entries : Node.Entries}
    (hentries : entriesFor environment fields = .ok entries) :
    (OrderedMap.keys entries).Sublist (fields.map Prod.fst) ∧
      ∀ entry ∈ entries, IsDistinct entry.2 := by
  induction fields generalizing entries with
  | nil =>
      cases hentries
      exact ⟨List.Sublist.refl _, List.forall_mem_nil _⟩
  | cons field rest ih =>
      obtain ⟨name, shape⟩ := field
      rw [entriesFor] at hentries
      cases hnode : settingOf environment name shape with
      | error fault =>
          rw [hnode] at hentries
          cases hentries
      | ok node =>
          cases hothers : entriesFor environment rest with
          | error fault =>
              rw [hnode, hothers] at hentries
              cases hentries
          | ok others =>
              rw [hnode, hothers] at hentries
              obtain ⟨hkeys, hvalues⟩ := ih hothers
              cases node with
              | none =>
                  cases hentries
                  exact ⟨hkeys.cons name, hvalues⟩
              | some node =>
                  cases hentries
                  exact ⟨hkeys.cons_cons name,
                    List.forall_mem_cons.mpr ⟨isDistinct_settingOf hnode, hvalues⟩⟩

end Environment

theorem Shape.nodup_settings : (Shape.settings.map Prod.fst).Nodup := by
  decide

/-- The variables describe a tree with distinct keys. -/
theorem Environment.isDistinct_entries
    {environment : Variables} {entries : Node.Entries}
    (hentries : Environment.entries environment = .ok entries) :
    Node.IsDistinct (.table entries) := by
  obtain ⟨hkeys, hvalues⟩ := entriesFor_spec hentries
  exact .table (hkeys.nodup Shape.nodup_settings) hvalues

/-! ## The files -/

namespace Toml

open Node

theorem bind_eq_ok_iff
    {α β : Type} {known : Except Fault α} {next : α → Except Fault β} {value : β} :
    (known >>= next) = .ok value ↔ ∃ first, known = .ok first ∧ next first = .ok value := by
  cases known with
  | error fault => simp [bind, Except.bind]
  | ok first => simp [bind, Except.bind]

/-- Changing a table somewhere below leaves the keys distinct when the change does. -/
theorem isDistinct_changeAt
    {enterLists : Bool} {change : Node.Entries → Except Fault Node.Entries} {path : KeyPath}
    {entries result : Node.Entries}
    (hchange : ∀ ⦃before after⦄, change before = .ok after →
      IsDistinct (.table before) → IsDistinct (.table after))
    (hentries : IsDistinct (.table entries))
    (hresult : changeAt enterLists change path entries = .ok result) :
    IsDistinct (.table result) := by
  induction path generalizing entries result with
  | nil => exact hchange hresult hentries
  | cons key path ih =>
      rw [changeAt] at hresult
      split at hresult
      · obtain ⟨inner, hinner, hput⟩ := bind_eq_ok_iff.mp hresult
        cases hput
        exact isDistinct_put hentries (ih isDistinct_empty hinner) key
      · next known hknown =>
          obtain ⟨inner, hinner, hput⟩ := bind_eq_ok_iff.mp hresult
          cases hput
          exact isDistinct_put hentries (ih (isDistinct_of_lookup hentries hknown) hinner) key
      · split at hresult
        · split at hresult
          · obtain ⟨inner, _, hput⟩ := bind_eq_ok_iff.mp hresult
            cases hput
            exact isDistinct_put hentries (.value rfl) key
          · cases hresult
        · cases hresult
      · cases hresult

theorem isDistinct_assign
    {key : String} {value : Node} {before after : Node.Entries}
    (hvalue : IsDistinct value)
    (hafter : assign key value before = .ok after)
    (hbefore : IsDistinct (.table before)) :
    IsDistinct (.table after) := by
  unfold assign at hafter
  split at hafter
  · cases hafter
  · cases hafter
    exact isDistinct_put hbefore hvalue key

theorem isDistinct_appendTable
    {key : String} {before after : Node.Entries}
    (hafter : appendTable key before = .ok after)
    (hbefore : IsDistinct (.table before)) :
    IsDistinct (.table after) := by
  unfold appendTable at hafter
  split at hafter
  · cases hafter
    exact isDistinct_put hbefore (.value rfl) key
  · cases hafter
    exact isDistinct_put hbefore (.value rfl) key
  · cases hafter

theorem isTable_of_value
    {number : DecimalText} {value : Node}
    (hvalue : number.value = .ok value) :
    value.isTable = false := by
  unfold DecimalText.value at hvalue
  split at hvalue
  · split at hvalue
    · cases hvalue
      rfl
    · cases hvalue
  · cases hvalue
    rfl

theorem isTable_of_readScalar
    {text rest : List Char} {value : Node}
    (hread : readScalar text = .ok (value, rest)) :
    value.isTable = false := by
  unfold readScalar at hread
  split at hread
  · split at hread
    · cases hread
      rfl
    · cases hread
  · split at hread
    · cases hread
      rfl
    · cases hread
      rfl
    · next number after _ _ _ =>
        cases hnumber : number.value with
        | error fault =>
            rw [hnumber] at hread
            cases hread
        | ok found =>
            rw [hnumber] at hread
            cases hread
            exact isTable_of_value hnumber
    · cases hread
      rfl
    · cases hread

theorem isTable_of_text
    {content : Reading (List Char)} {rest : List Char} {value : Node}
    (hread : (content.map fun (found, rest) => (Node.text (String.ofList found), rest)) =
      .ok (value, rest)) :
    value.isTable = false := by
  cases content with
  | error fault => cases hread
  | ok found =>
      cases hread
      rfl

/-- Whatever value is read has distinct keys. -/
theorem isDistinct_of_read
    (fuel : Nat) :
    (∀ text value rest, readValue fuel text = .ok (value, rest) → IsDistinct value) ∧
    (∀ text done value rest, readItems fuel text done = .ok (value, rest) → IsDistinct value) ∧
    (∀ text entries complete value rest, IsDistinct (.table entries) →
      readEntries fuel text entries complete = .ok (value, rest) → IsDistinct value) := by
  induction fuel with
  | zero =>
      refine ⟨fun _ _ _ hread => ?_, fun _ _ _ _ hread => ?_, fun _ _ _ _ _ _ hread => ?_⟩
      · cases hread
      · cases hread
      · cases hread
  | succ fuel ih =>
      obtain ⟨hvalue, hitems, hentries⟩ := ih
      refine ⟨fun text value rest hread => ?_, fun text done value rest hread => ?_,
        fun text entries complete value rest hdistinct hread => ?_⟩
      · unfold readValue at hread
        split at hread
        · exact .value (isTable_of_text hread)
        · exact .value (isTable_of_text hread)
        · cases hread
          exact .value rfl
        · cases hread
          exact .value rfl
        · obtain ⟨after, _, hread⟩ := bind_eq_ok_iff.mp hread
          exact hitems _ _ _ _ hread
        · split at hread
          · cases hread
            exact isDistinct_empty
          · exact hentries _ _ _ _ _ isDistinct_empty hread
        · exact .value (isTable_of_readScalar hread)
      · unfold readItems at hread
        split at hread
        · cases hread
          exact .value rfl
        · obtain ⟨⟨item, after⟩, _, hread⟩ := bind_eq_ok_iff.mp hread
          obtain ⟨behind, _, hread⟩ := bind_eq_ok_iff.mp hread
          split at hread
          · cases hread
            exact .value rfl
          · obtain ⟨next, _, hread⟩ := bind_eq_ok_iff.mp hread
            exact hitems _ _ _ _ hread
          · cases hread
      · unfold readEntries at hread
        obtain ⟨⟨key, after⟩, _, hread⟩ := bind_eq_ok_iff.mp hread
        obtain ⟨behind, _, hread⟩ := bind_eq_ok_iff.mp hread
        obtain ⟨⟨found, last⟩, hfound, hread⟩ := bind_eq_ok_iff.mp hread
        simp only at hread
        split at hread
        · cases hread
        · obtain ⟨more, hmore, hread⟩ := bind_eq_ok_iff.mp hread
          have hassigned : IsDistinct (.table more) :=
            isDistinct_changeAt
              (fun _ _ => isDistinct_assign (hvalue _ _ _ hfound)) hdistinct hmore
          split at hread
          · cases hread
            exact hassigned
          · exact hentries _ _ _ _ _ hassigned hread
          · cases hread

theorem isDistinct_readAssignment
    {draft next : Draft} {text rest : List Char}
    (hdraft : IsDistinct (.table draft.entries))
    (hread : readAssignment draft text = .ok (next, rest)) :
    IsDistinct (.table next.entries) := by
  unfold readAssignment at hread
  obtain ⟨⟨key, after⟩, _, hread⟩ := bind_eq_ok_iff.mp hread
  obtain ⟨behind, _, hread⟩ := bind_eq_ok_iff.mp hread
  obtain ⟨⟨value, last⟩, hvalue, hread⟩ := bind_eq_ok_iff.mp hread
  simp only at hread
  split at hread
  · cases hread
  · obtain ⟨entries, hentries, hread⟩ := bind_eq_ok_iff.mp hread
    cases hread
    exact isDistinct_changeAt
      (fun _ _ => isDistinct_assign ((isDistinct_of_read _).1 _ _ _ hvalue)) hdraft hentries

theorem isDistinct_readTableHeader
    {draft next : Draft} {text rest : List Char}
    (hdraft : IsDistinct (.table draft.entries))
    (hread : readTableHeader draft text = .ok (next, rest)) :
    IsDistinct (.table next.entries) := by
  unfold readTableHeader at hread
  obtain ⟨⟨key, after⟩, _, hread⟩ := bind_eq_ok_iff.mp hread
  simp only at hread
  split at hread
  · cases hread
  · obtain ⟨entries, hentries, hread⟩ := bind_eq_ok_iff.mp hread
    have hopened : IsDistinct (.table entries) := by
      refine isDistinct_changeAt (fun before after hafter hbefore => ?_) hdraft hentries
      cases hafter
      exact hbefore
    split at hread
    · cases hread
      exact hopened
    · cases hread

theorem isDistinct_readItemHeader
    {draft next : Draft} {text rest : List Char}
    (hdraft : IsDistinct (.table draft.entries))
    (hread : readItemHeader draft text = .ok (next, rest)) :
    IsDistinct (.table next.entries) := by
  unfold readItemHeader at hread
  obtain ⟨⟨key, after⟩, _, hread⟩ := bind_eq_ok_iff.mp hread
  simp only at hread
  split at hread
  · cases hread
  · obtain ⟨entries, hentries, hread⟩ := bind_eq_ok_iff.mp hread
    have hopened : IsDistinct (.table entries) :=
      isDistinct_changeAt (fun _ _ => isDistinct_appendTable) hdraft hentries
    split at hread
    · cases hread
      exact hopened
    · cases hread

theorem isDistinct_readStatement
    {draft next : Draft} {text rest : List Char}
    (hdraft : IsDistinct (.table draft.entries))
    (hread : readStatement draft text = .ok (next, rest)) :
    IsDistinct (.table next.entries) := by
  unfold readStatement at hread
  split at hread
  · cases hread
    exact hdraft
  · split at hread
    · exact isDistinct_readAssignment hdraft hread
    · split at hread
      · split at hread
        · exact isDistinct_readItemHeader hdraft hread
        · exact isDistinct_readTableHeader hdraft hread
      · split at hread
        · cases hread
          exact hdraft
        · cases hread

theorem isDistinct_readLines
    {fuel : Nat} {draft : Draft} {text : List Char} {entries : Node.Entries}
    (hdraft : IsDistinct (.table draft.entries))
    (hread : readLines fuel draft text = .ok entries) :
    IsDistinct (.table entries) := by
  induction fuel generalizing draft text with
  | zero => cases hread
  | succ fuel ih =>
      rw [readLines] at hread
      obtain ⟨⟨next, after⟩, hnext, hread⟩ := bind_eq_ok_iff.mp hread
      obtain ⟨behind, _, hread⟩ := bind_eq_ok_iff.mp hread
      have hstep : IsDistinct (.table next.entries) := isDistinct_readStatement hdraft hnext
      split at hread
      · cases hread
        exact hstep
      · exact ih hstep hread
      · cases hread

theorem isDistinct_parse
    {text : String} {entries : Node.Entries}
    (hparse : parse text = .ok entries) :
    IsDistinct (.table entries) :=
  isDistinct_readLines isDistinct_empty hparse

end Toml

/-- A file holds the values of its document under the names that are spelled as the settings are. -/
theorem Settings.exists_readSource_of_parse
    {text : String} {document : Node.Entries}
    (hparse : Toml.parse text = .ok document) :
    ∃ entries, readSource (some text) = .ok entries ∧
      ∀ name ∈ Shape.settings.map Prod.fst,
        (∀ entry ∈ document, Text.lower entry.1 = name ↔ name = entry.1) →
        ∀ path, valueIn (name :: path) entries = valueIn (name :: path) document := by
  refine ⟨Node.alignTop Shape.settings document, ?_, fun name hname hspelled path =>
    Node.value?_alignTop Shape.nodup_settings hname hspelled path⟩
  unfold readSource
  rw [Option.getD_some, hparse]

/-- The files describe trees with distinct keys. -/
theorem Settings.isDistinct_readSource
    {text : Option String} {entries : Node.Entries}
    (hread : readSource text = .ok entries) :
    Node.IsDistinct (.table entries) := by
  unfold readSource at hread
  split at hread
  · next found hparse =>
      cases hread
      exact Node.isDistinct_alignTop Shape.nodup_settings (Toml.isDistinct_parse hparse)
  · cases hread
  · cases hread

namespace Settings

open Node

namespace Surroundings

theorem runs_run_bind_ok_iff
    {α β : Type} {loading : Loading α} {next : α → Loading β} {events : List Event} {value : β} :
    (loading >>= next).run.Runs events (.ok value) ↔
      ∃ first front back,
        events = front ++ back ∧
        loading.run.Runs front (.ok first) ∧
        (next first).run.Runs back (.ok value) := by
  rw [ExceptT.run_bind]
  refine Procedure.runs_bind_iff.trans ⟨?_, ?_⟩
  · rintro ⟨front, back, outcome, rfl, hfront, hback⟩
    cases outcome with
    | ok first => exact ⟨first, front, back, rfl, hfront, hback⟩
    | error failure => cases (Procedure.runs_done_iff.mp hback).2
  · rintro ⟨first, front, back, rfl, hfront, hback⟩
    exact ⟨front, back, .ok first, rfl, hfront, hback⟩

/-- Settings that were loaded come from two files of one directory, the file of the environment that
the run belongs to and the base file.  The base file was there when it had to be. -/
theorem exists_sources_of_runs_load
    {surroundings : Surroundings} {given : Node.Entries} {baseRequired : Bool}
    {events : List Event} {settings : Settings}
    (hrun : (surroundings.load given baseRequired).run.Runs events (.ok settings)) :
    ∃ (directory : Files.Path) (found : Option String) (special base : Node.Entries)
        (front probe middle back : List Event),
      events = front ++ (probe ++ (middle ++ back)) ∧
      surroundings.settingsDirectory.run.Runs front (.ok directory) ∧
      (readFile (directory.child baseName)).run.Runs probe (.ok found) ∧
      (baseRequired = true → found.isSome = true) ∧
      (sourceAt (directory.child surroundings.specialName)).run.Runs middle (.ok special) ∧
      (sourceAt (directory.child baseName)).run.Runs back (.ok base) ∧
      ofSources given surroundings.environment special base = .ok settings := by
  unfold load at hrun
  obtain ⟨directory, front, rest, rfl, hdirectory, hrun⟩ := runs_run_bind_ok_iff.mp hrun
  obtain ⟨found, probe, rest, rfl, hfound, hrun⟩ := runs_run_bind_ok_iff.mp hrun
  simp only at hrun
  split at hrun
  · obtain ⟨_, _, _, _, hthrown, _⟩ := runs_run_bind_ok_iff.mp hrun
    cases (Procedure.runs_done_iff.mp hthrown).2
  · next hthere =>
      obtain ⟨special, middle, rest, rfl, hspecial, hrun⟩ := runs_run_bind_ok_iff.mp hrun
      obtain ⟨base, back, rest, rfl, hbase, hrun⟩ := runs_run_bind_ok_iff.mp hrun
      obtain ⟨rfl, hloaded⟩ := Procedure.runs_done_iff.mp hrun
      refine ⟨directory, found, special, base, front, probe, middle, back, ?_, hdirectory, hfound,
        fun hrequired => ?_, hspecial, hbase, hloaded.symm⟩
      · rw [List.append_nil]
      · exact Option.isSome_iff_ne_none.mpr (by simpa [hrequired] using hthere)

end Surroundings

/-- **Settings by priority.**  Every place of the tree that is checked holds the value of the first
source that has one there: the variables, then the file of the environment that the run belongs to,
then the base file.  So what is set above hides any change below, setting a place changes no other
one, and a missing file changes nothing. -/
theorem sources_by_priority
    {environment : Environment.Variables} {exported special base : Node.Entries}
    (hexported : Environment.entries environment = .ok exported)
    (hspecial : IsDistinct (.table special))
    (hbase : IsDistinct (.table base))
    (hagree : [exported, special, base].Pairwise fun upper lower =>
      Agree (.table upper) (.table lower)) :
    ofSources [] environment special base =
        (validate (merge [exported, special, base])).mapError .invalid ∧
      (∀ path,
        (valueIn path (merge [exported, special, base])).isSome ↔
          ∃ layer ∈ [exported, special, base], (valueIn path layer).isSome) ∧
      (∀ path,
        valueIn path (merge [exported, special, base]) =
          [exported, special, base].findSome? (valueIn path)) ∧
      (∀ path upper lower others,
        [exported, special, base] = upper ++ lower →
        AreLayers (upper ++ others) →
        (∃ layer ∈ upper, (valueIn path layer).isSome) →
        valueIn path (merge (upper ++ others)) =
          valueIn path (merge [exported, special, base])) ∧
      (∀ path above layer changed below,
        [exported, special, base] = above ++ layer :: below →
        AreLayers (above ++ changed :: below) →
        (∀ other, other ≠ path → valueIn other changed = valueIn other layer) →
        ∀ other, other ≠ path →
          valueIn other (merge (above ++ changed :: below)) =
            valueIn other (merge [exported, special, base])) ∧
      readSource none = .ok [] ∧
      merge [exported, [], base] = merge [exported, base] := by
  have hlayers : AreLayers [exported, special, base] := by
    refine ⟨?_, hagree⟩
    simp only [List.forall_mem_cons]
    exact ⟨Environment.isDistinct_entries hexported, hspecial, hbase, List.forall_mem_nil _⟩
  refine ⟨?_, fun path => ?_, valueIn_merge hlayers, ?_, ?_, rfl, rfl⟩
  · rw [ofSources, hexported]
    rfl
  · rw [valueIn_merge hlayers, List.findSome?_isSome_iff]
  · intro path upper lower others hsplit hothers hset
    rw [hsplit] at hlayers ⊢
    exact valueIn_merge_congr hothers hlayers hset
  · intro path above layer changed below hsplit hchanged hsame other hne
    rw [hsplit] at hlayers ⊢
    exact valueIn_merge_of_same hchanged hlayers (hsame other hne)

theorem sources_by_priority_in_client_section :
    let exported := [("client", Node.table [("base_url", .text "https://a:9200")])]
    let special :=
      [("client", Node.table [("base_url", .text "https://b:9200"), ("timeout", .int 5)])]
    let base := [("client", Node.table [("timeout", .int 90), ("username", .text "test_user")]),
      ("upgraded_version", Node.text "6.4.0")]
    Environment.entries [("PHOENIX_CLIENT__BASE_URL", "https://a:9200")] = .ok exported ∧
      valueIn ["client", "base_url"] (merge [exported, special, base]) =
        some (.text "https://a:9200") ∧
      valueIn ["client", "timeout"] (merge [exported, special, base]) = some (.int 5) ∧
      valueIn ["client", "username"] (merge [exported, special, base]) =
        some (.text "test_user") := by
  intro exported special base
  have hexported :
      Environment.entries [("PHOENIX_CLIENT__BASE_URL", "https://a:9200")] = .ok exported := rfl
  have htext : ∀ text, IsDistinct (.text text) := fun _ => .value rfl
  have hint : ∀ n, IsDistinct (.int n) := fun _ => .value rfl
  have hspecial : IsDistinct (.table special) :=
    .table (by decide) (by simp [special, isDistinct_table_iff, OrderedMap.keys, htext, hint])
  have hbase : IsDistinct (.table base) :=
    .table (by decide) (by simp [base, isDistinct_table_iff, OrderedMap.keys, htext, hint])
  -- The only key that two of the sources share is the section, whose tables are flat.
  have hsection : ∀ {upper lower more : Node.Entries},
      (∀ entry ∈ upper, entry.2.isTable = false) →
      (∀ entry ∈ lower, entry.2.isTable = false) →
      Agree (.table [("client", .table upper)]) (.table (("client", .table lower) :: more)) := by
    intro upper lower more hupper hlower
    refine .of_entries (List.forall_mem_singleton.mpr fun below hbelow => ?_)
    cases hbelow
    exact .of_flat hupper hlower
  have hagree : [exported, special, base].Pairwise fun upper lower =>
      Agree (.table upper) (.table lower) := by
    simp only [List.pairwise_cons, List.forall_mem_cons]
    refine ⟨⟨?_, ?_, List.forall_mem_nil _⟩, ⟨?_, List.forall_mem_nil _⟩, ?_, .nil⟩
    · refine hsection ?_ ?_ <;> simp [isTable]
    · refine hsection ?_ ?_ <;> simp [isTable]
    · refine hsection ?_ ?_ <;> simp [isTable]
    · exact List.forall_mem_nil _
  obtain ⟨_, _, hvalues, _⟩ := sources_by_priority hexported hspecial hbase hagree
  exact ⟨hexported, hvalues _, hvalues _, hvalues _⟩

end Settings
end RestartCheck
