import Mathlib.Data.List.Forall2
import Mathlib.Data.List.Permutation
import RestartCheck.Proofs.Json.Crash
import RestartCheck.Proofs.Json.Distinct

/-!
# The order of members

Two values are the same up to order when one becomes the other by reordering the members of
objects, at any depth.  The items of arrays keep their places.  Whatever looks members up by their
names finds the same in both, up to order again.

**Results.**
* `Reordered.lookup`, `Reordered.exists_find`: what is looked up by name.
* `Reordered.exists_mem`, `Reordered.exists_mem'`: the members of reordered objects.
* `Reordered.exists_first`, `Reordered.put`: orders that can be made.
* `Alike.bind`: readings that find the same, or fail alike.
* `Response.Reordered.alike_object`: the bodies of reordered answers.
-/

namespace RestartCheck

/-! ## Readings that agree -/

section Alike

variable {α β γ δ : Type} {related : α → β → Prop}

/-- Both computations end with related values, or with failures of one kind. -/
def Alike
    (related : α → β → Prop)
    (known : Except Failure α)
    (other : Except Failure β) : Prop :=
  (∃ value value', known = .ok value ∧ other = .ok value' ∧ related value value') ∨
    ∃ failure failure',
      known = .error failure ∧ other = .error failure' ∧ failure.kindName = failure'.kindName

theorem alike_ok
    {value : α} {value' : β}
    (hvalues : related value value') :
    Alike related (.ok value) (.ok value') :=
  Or.inl ⟨value, value', rfl, rfl, hvalues⟩

theorem alike_error
    {failure failure' : Failure}
    (hkind : failure.kindName = failure'.kindName) :
    Alike related (.error failure) (.error failure') :=
  Or.inr ⟨failure, failure', rfl, rfl, hkind⟩

theorem Alike.refl
    {same : α → α → Prop}
    (hrefl : ∀ value, same value value)
    (known : Except Failure α) :
    Alike same known known := by
  cases known with
  | ok value => exact alike_ok (hrefl value)
  | error failure => exact alike_error rfl

theorem Alike.bind
    {known : Except Failure α} {other : Except Failure β} {next : α → Except Failure γ}
    {next' : β → Except Failure δ} {later : γ → δ → Prop}
    (hknown : Alike related known other)
    (hnext : ∀ value value', related value value' → Alike later (next value) (next' value')) :
    Alike later (known >>= next) (other >>= next') := by
  rcases hknown with ⟨value, value', rfl, rfl, hvalues⟩ | ⟨failure, failure', rfl, rfl, hkind⟩
  · exact hnext value value' hvalues
  · exact alike_error hkind

theorem Alike.bind_same
    {next : α → Except Failure γ} {next' : α → Except Failure δ} {later : γ → δ → Prop}
    (known : Except Failure α)
    (hnext : ∀ value, Alike later (next value) (next' value)) :
    Alike later (known >>= next) (known >>= next') := by
  cases known with
  | ok value => exact hnext value
  | error failure => exact alike_error rfl

end Alike

namespace Json

/-! ## Reordered values -/

mutual

/-- The values are the same up to the order of the members of their objects. -/
inductive Reordered : Json → Json → Prop
  | refl (data : Json) : Reordered data data
  | array {items items' : List Json} (hitems : List.Forall₂ Reordered items items') :
      Reordered (.array items) (.array items')
  | object
      {members members' permuted : Members}
      (hdistinct : (OrderedMap.keys members).Nodup)
      (hmembers : List.Forall₂ ReorderedMember members members')
      (hperm : members'.Perm permuted) :
      Reordered (.object members) (.object permuted)

/-- The members have one name, and values that are the same up to order. -/
inductive ReorderedMember : String × Json → String × Json → Prop
  | mk (name : String) {value value' : Json} (hvalue : Reordered value value') :
      ReorderedMember (name, value) (name, value')

end

section Values

variable {data data' : Json} {members members' : Members} {name : String}

theorem forall₂_reordered_refl
    (items : List Json) :
    List.Forall₂ Reordered items items :=
  List.forall₂_same.mpr fun item _ => .refl item

theorem Reordered.exists_members
    (hreordered : Reordered (.object members) data) :
    ∃ members', data = .object members' := by
  cases hreordered with
  | refl => exact ⟨members, rfl⟩
  | object _ _ _ => exact ⟨_, rfl⟩

theorem keys_of_forall₂
    (hmembers : List.Forall₂ ReorderedMember members members') :
    OrderedMap.keys members = OrderedMap.keys members' := by
  induction hmembers with
  | nil => rfl
  | cons hmember _ ih =>
      obtain ⟨name, _⟩ := hmember
      exact congrArg (name :: ·) ih

theorem lookup_of_forall₂
    (hmembers : List.Forall₂ ReorderedMember members members')
    (name : String) :
    Option.Rel Reordered (OrderedMap.lookup members name) (OrderedMap.lookup members' name) := by
  induction hmembers with
  | nil => exact .none
  | cons hmember _ ih =>
      obtain ⟨known, hvalue⟩ := hmember
      simp only [OrderedMap.lookup_cons]
      split
      · exact .some hvalue
      · exact ih

/-- Reordered objects have the same names, each with the same value up to order. -/
theorem Reordered.lookup
    (hreordered : Reordered (.object members) (.object members'))
    (name : String) :
    Option.Rel Reordered (OrderedMap.lookup members name) (OrderedMap.lookup members' name) := by
  cases hreordered with
  | refl =>
      cases OrderedMap.lookup members name with
      | none => exact .none
      | some value => exact .some (.refl value)
  | object hdistinct hmembers hperm =>
      rw [keys_of_forall₂ hmembers] at hdistinct
      rw [← OrderedMap.lookup_of_perm hdistinct hperm]
      exact lookup_of_forall₂ hmembers name

theorem Reordered.getOrNull
    (hreordered : Reordered (.object members) (.object members'))
    (name : String) :
    Reordered (members.getOrNull name) (members'.getOrNull name) := by
  have hlookup := hreordered.lookup name
  unfold Members.getOrNull
  generalize OrderedMap.lookup members name = found at hlookup
  generalize OrderedMap.lookup members' name = found' at hlookup
  cases hlookup with
  | none => exact .refl .null
  | some hvalue => exact hvalue

theorem exists_mem_of_forall₂
    {α β : Type} {related : α → β → Prop} {items : List α} {items' : List β} {item : α}
    (hitems : List.Forall₂ related items items')
    (hmem : item ∈ items) :
    ∃ item' ∈ items', related item item' := by
  induction hitems with
  | nil => cases hmem
  | cons hfirst _ ih =>
      rcases List.mem_cons.mp hmem with rfl | hrest
      · exact ⟨_, List.mem_cons_self, hfirst⟩
      · obtain ⟨item', hmem', hitem⟩ := ih hrest
        exact ⟨item', List.mem_cons_of_mem _ hmem', hitem⟩

theorem Reordered.exists_mem
    {value : Json}
    (hreordered : Reordered (.object members) (.object members'))
    (hmem : (name, value) ∈ members) :
    ∃ value', (name, value') ∈ members' ∧ Reordered value value' := by
  cases hreordered with
  | refl => exact ⟨value, hmem, .refl value⟩
  | object _ hmembers hperm =>
      obtain ⟨_, hmem', ⟨_, hvalue⟩⟩ := exists_mem_of_forall₂ hmembers hmem
      exact ⟨_, hperm.mem_iff.mp hmem', hvalue⟩

theorem Reordered.exists_mem'
    {value' : Json}
    (hreordered : Reordered (.object members) (.object members'))
    (hmem : (name, value') ∈ members') :
    ∃ value, (name, value) ∈ members ∧ Reordered value value' := by
  cases hreordered with
  | refl => exact ⟨value', hmem, .refl value'⟩
  | object _ hmembers hperm =>
      obtain ⟨_, hmem, ⟨_, hvalue⟩⟩ := exists_mem_of_forall₂ hmembers.flip (hperm.mem_iff.mpr hmem)
      exact ⟨_, hmem, hvalue⟩

theorem forall₂_reorderedMember_refl
    (members : Members) :
    List.Forall₂ ReorderedMember members members :=
  List.forall₂_same.mpr fun member _ => .mk member.1 (.refl member.2)

/-- One member may come first, with its own members in another order. -/
theorem Reordered.exists_first
    {value value' : Json}
    (hdistinct : (OrderedMap.keys members).Nodup)
    (hmem : (name, value) ∈ members)
    (hvalue : Reordered value value') :
    ∃ others, Reordered (.object members) (.object ((name, value') :: others)) := by
  obtain ⟨front, back, rfl⟩ := List.append_of_mem hmem
  refine ⟨front ++ back, .object hdistinct ?_ List.perm_middle⟩
  exact List.rel_append (forall₂_reorderedMember_refl front)
    (.cons (.mk name hvalue) (forall₂_reorderedMember_refl back))

theorem Members.getOrNull_put_self
    (members : Members)
    (name : String)
    (value : Json) :
    Members.getOrNull (OrderedMap.put members name value) name = value := by
  unfold Members.getOrNull
  rw [OrderedMap.lookup_put_self]
  rfl

theorem forall₂_put
    {value value' : Json}
    (hlookup : OrderedMap.lookup members name = some value)
    (hvalue : Reordered value value') :
    List.Forall₂ ReorderedMember members (OrderedMap.put members name value') := by
  induction members with
  | nil => cases hlookup
  | cons member rest ih =>
      obtain ⟨known, old⟩ := member
      rw [OrderedMap.lookup_cons] at hlookup
      rw [OrderedMap.put_cons]
      split at hlookup
      · next hsame =>
          cases hlookup
          rw [if_pos hsame]
          exact .cons (.mk known hvalue) (forall₂_reorderedMember_refl rest)
      · next hother =>
          rw [if_neg hother]
          exact .cons (.mk known (.refl old)) (ih hlookup)

/-- The members of one member may come in another order. -/
theorem Reordered.put
    {value value' : Json}
    (hdistinct : (OrderedMap.keys members).Nodup)
    (hlookup : OrderedMap.lookup members name = some value)
    (hvalue : Reordered value value') :
    Reordered (.object members) (.object (OrderedMap.put members name value')) :=
  .object hdistinct (forall₂_put hlookup hvalue) (List.Perm.refl _)

theorem Reordered.truthy
    (hreordered : Reordered data data') :
    data.truthy = data'.truthy := by
  cases hreordered with
  | refl => rfl
  | array hitems =>
      cases hitems with
      | nil => rfl
      | cons _ _ => rfl
  | object _ hmembers hperm =>
      have hlength := hmembers.length_eq.trans hperm.length_eq
      unfold truthy
      rw [Bool.not_inj_iff, Bool.eq_iff_iff]
      simp only [List.isEmpty_iff, ← List.length_eq_zero_iff, hlength]

theorem Reordered.isObject
    (hreordered : Reordered data data') :
    data.isObject = data'.isObject := by
  cases hreordered with
  | refl => rfl
  | array _ => rfl
  | object _ _ _ => rfl

/-- The values are both the text or both something else. -/
theorem Reordered.same_string_iff
    {text : String}
    (hreordered : Reordered data data') :
    data.same (.string text) = true ↔ data'.same (.string text) = true := by
  rw [Json.same_string_iff, Json.same_string_iff]
  cases hreordered with
  | refl => rfl
  | array _ => simp
  | object _ _ _ => simp

end Values

/-! ## Readings -/

section Readings

variable {data data' : Json} {path : String}

theorem Reordered.exists_walk
    {steps : List (List Char)}
    (hreordered : Reordered data data')
    (hplain : ∀ segment ∈ steps, isIndex segment = false) :
    ∃ found found',
      data.walk steps = .ok found ∧ data'.walk steps = .ok found' ∧
      Option.Rel Reordered found found' := by
  induction steps generalizing data data' with
  | nil => exact ⟨_, _, rfl, rfl, .some hreordered⟩
  | cons segment rest ih =>
      rw [List.forall_mem_cons] at hplain
      have hstep : ∃ found found',
          data.step segment = .ok found ∧ data'.step segment = .ok found' ∧
          Option.Rel Reordered found found' := by
        cases hreordered with
        | refl =>
            obtain ⟨found, hfound⟩ := exists_step_eq_ok data hplain.1
            refine ⟨found, found, hfound, hfound, ?_⟩
            cases found with
            | none => exact .none
            | some value => exact .some (.refl value)
        | array _ =>
            refine ⟨none, none, ?_, ?_, .none⟩
            · simp [step, hplain.1]
            · simp [step, hplain.1]
        | object hdistinct hmembers hperm =>
            exact ⟨_, _, rfl, rfl, (Reordered.object hdistinct hmembers hperm).lookup _⟩
      obtain ⟨found, found', hfound, hfound', hrelated⟩ := hstep
      rw [walk, walk, hfound, hfound']
      cases hrelated with
      | none => exact ⟨none, none, rfl, rfl, .none⟩
      | some hnext => exact ih hnext hplain.2

/-- A path without an index leads to the same in reordered values, up to order. -/
theorem Reordered.exists_find
    (hreordered : Reordered data data')
    (hplain : IsPlainPath path) :
    ∃ found found',
      data.find path = .ok found ∧ data'.find path = .ok found' ∧
      Option.Rel Reordered found found' :=
  hreordered.exists_walk hplain

theorem Reordered.alike_extractOr
    (hreordered : Reordered data data')
    (hplain : IsPlainPath path)
    (fallback : Json) :
    Alike Reordered (data.extractOr path fallback) (data'.extractOr path fallback) := by
  obtain ⟨found, found', hfound, hfound', hrelated⟩ := hreordered.exists_find hplain
  unfold extractOr
  rw [hfound, hfound']
  cases hrelated with
  | none => exact alike_ok (.refl fallback)
  | some hvalue => exact alike_ok hvalue

theorem Reordered.alike_extract
    (hreordered : Reordered data data')
    (hplain : IsPlainPath path) :
    Alike Reordered (data.extract path) (data'.extract path) := by
  obtain ⟨found, found', hfound, hfound', hrelated⟩ := hreordered.exists_find hplain
  unfold extract
  rw [hfound, hfound']
  cases hrelated with
  | none => exact alike_error rfl
  | some hvalue => exact alike_ok hvalue

theorem Reordered.alike_member
    (hreordered : Reordered data data')
    (name : String) :
    Alike Reordered (data.member name) (data'.member name) := by
  cases hreordered with
  | refl => exact Alike.refl Reordered.refl _
  | array _ => exact alike_error rfl
  | object hdistinct hmembers hperm =>
      exact alike_ok ((Reordered.object hdistinct hmembers hperm).getOrNull name)

/-- The items are the same up to order, or as many texts: stepping through an object yields the
names of its members, in their order. -/
def ReorderedItems (items items' : List Json) : Prop :=
  List.Forall₂ Reordered items items' ∨
    ((∀ item ∈ items, ∃ text, item = .string text) ∧
      (∀ item ∈ items', ∃ text, item = .string text) ∧ items.length = items'.length)

theorem Reordered.alike_elements
    (hreordered : Reordered data data') :
    Alike ReorderedItems data.elements data'.elements := by
  cases hreordered with
  | refl => exact Alike.refl (fun items : List Json => Or.inl (forall₂_reordered_refl items)) _
  | array hitems => exact alike_ok (Or.inl hitems)
  | object _ hmembers hperm =>
      refine alike_ok (Or.inr ⟨?_, ?_, ?_⟩)
      · rw [List.forall_mem_map]
        exact fun member _ => ⟨member.1, rfl⟩
      · rw [List.forall_mem_map]
        exact fun member _ => ⟨member.1, rfl⟩
      · rw [List.length_map, List.length_map, hmembers.length_eq, hperm.length_eq]

theorem Reordered.alike_presentElements
    (hreordered : Reordered data data') :
    Alike ReorderedItems data.presentElements data'.presentElements := by
  unfold presentElements
  rw [hreordered.truthy]
  split
  · exact hreordered.alike_elements
  · exact alike_ok (Or.inl .nil)

end Readings

end Json

/-! ## Answers -/

/-- The members of a decoded body, which has to be an object. -/
def Json.asBody : Json → Except Failure Json.Members
  | .object members => .ok members
  | other => .error (.fatal "response body is not a JSON object" other)

/-- The answers have one status, and bodies that are the same, or that are decoded to the same up to
the order of the members of objects. -/
def Response.Reordered (response response' : Response) : Prop :=
  response.status = response'.status ∧
    (response.body = response'.body ∨
      ∃ data data',
        Json.decode response.body = .ok data ∧ Json.decode response'.body = .ok data' ∧
        Json.Reordered data data')

section Answers

variable {response response' : Response}

theorem Response.Reordered.ok
    (hreordered : response.Reordered response') :
    response.ok = response'.ok := by
  unfold Response.ok
  rw [hreordered.1]

theorem Response.object_of_decode
    {data : Json}
    (hdecode : Json.decode response.body = .ok data) :
    response.object = data.asBody := by
  have hnonempty : response.body ≠ "" := by
    intro hempty
    rw [hempty] at hdecode
    cases hdecode
  unfold Response.object Json.asBody
  rw [if_neg hnonempty, hdecode]
  cases data with
  | _ => rfl

/-- No object in the body of an answer has two members of one name. -/
theorem Response.isDistinct_of_object
    {body : Json.Members}
    (hbody : response.object = .ok body) :
    Json.IsDistinct (.object body) := by
  unfold Response.object at hbody
  split at hbody
  · cases hbody
    exact .object List.nodup_nil (List.forall_mem_nil _)
  split at hbody
  · next members hdecode =>
      cases hbody
      exact Json.isDistinct_of_decode hdecode
  · cases hbody
  · cases hbody
  · cases hbody

theorem Json.Reordered.alike_asBody
    {data data' : Json}
    (hreordered : Json.Reordered data data') :
    Alike (fun body body' => Json.Reordered (.object body) (.object body'))
      data.asBody data'.asBody := by
  cases hreordered with
  | refl => exact Alike.refl (fun _ => .refl _) _
  | array _ => exact alike_error rfl
  | object hdistinct hmembers hperm => exact alike_ok (.object hdistinct hmembers hperm)

/-- The bodies of reordered answers are the same up to order, or fail alike. -/
theorem Response.Reordered.alike_object
    (hreordered : response.Reordered response') :
    Alike (fun body body' => Json.Reordered (.object body) (.object body'))
      response.object response'.object := by
  obtain ⟨_, hbody | ⟨data, data', hdata, hdata', hvalues⟩⟩ := hreordered
  · have hsame : response.object = response'.object := by
      unfold Response.object
      rw [hbody]
    rw [hsame]
    exact Alike.refl (fun _ => .refl _) _
  · rw [object_of_decode hdata, object_of_decode hdata']
    exact hvalues.alike_asBody

end Answers

end RestartCheck
