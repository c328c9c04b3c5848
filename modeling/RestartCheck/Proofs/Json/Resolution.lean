import RestartCheck.Proofs.Json.Reading

/-!
# Where paths lead

A path goes down from a value one segment at a time.  A segment takes an object to its member of
that name and an array to its item of that number.  Where there is no such member or item, the path
leads nowhere, and a reading ends with its fallback or is fatal.

A segment on an array is taken for a number when all of its characters look like digits.  Some of
these are not: a digit may belong to no decimal system, and there may be too many digits.  At such a
segment a reading stumbles, and ends with a defect.

**Results.**
* `step_eq_ok_some_iff`, `step_eq_error_iff`: one segment.
* `walk_eq_ok_some_iff`, `walk_eq_error_iff`: all segments of a path.
* `segments_append`, `leads_append_iff`: one path behind another.
* `fails_without_value_unless_stumbles`: how a reading ends.
* `extracts_in_two_parts`: reading in two parts.
-/

namespace RestartCheck
namespace Json

open Decimal

/-! ## One segment -/

/-- The segment is the number of an item. -/
structure IsNumber
    (segment : List Char)
    (index : Nat) : Prop where
  nonempty : segment ≠ []
  digits : ∀ c ∈ segment, Text.isDecimalDigit c = true
  fits : segment.length ≤ digitLimit
  value : index = naturalValue segment

/-- The segment looks like a number, but none is read from it. -/
structure IsFalseNumber
    (segment : List Char) : Prop where
  nonempty : segment ≠ []
  looks : ∀ c ∈ segment, Text.isDigitLike c = true
  unread : (∃ c ∈ segment, Text.isDecimalDigit c = false) ∨ digitLimit < segment.length

/-- One segment down. -/
inductive StepsTo : Json → List Char → Json → Prop
  | member
      {members : Members} {segment : List Char} {next : Json}
      (hlookup : OrderedMap.lookup members (String.ofList segment) = some next) :
      StepsTo (.object members) segment next
  | item
      {items : List Json} {segment : List Char} {index : Nat} {next : Json}
      (hnumber : IsNumber segment index)
      (hitem : items[index]? = some next) :
      StepsTo (.array items) segment next

section Segments

variable {current next : Json} {segment : List Char} {index : Nat} {items : List Json}

theorem isIndex_iff :
    isIndex segment = true ↔
      segment ≠ [] ∧ ∀ c ∈ segment, Text.isDigitLike c = true := by
  simp [isIndex]

theorem readNatural_eq_ok_iff_isNumber :
    readNatural segment = .ok index ↔ IsNumber segment index := by
  rw [readNatural_eq_ok_iff]
  constructor
  · rintro ⟨hnonempty, hdigits, hfits, hvalue⟩
    exact ⟨hnonempty, hdigits, hfits, hvalue⟩
  · intro hnumber
    exact ⟨hnumber.nonempty, hnumber.digits, hnumber.fits, hnumber.value⟩

/-- A number looks like one. -/
theorem IsNumber.isIndex
    (hnumber : IsNumber segment index) :
    isIndex segment = true := by
  refine isIndex_iff.mpr ⟨hnumber.nonempty, fun c hmem => ?_⟩
  exact Text.isDigitLike_of_isDecimalDigit (hnumber.digits c hmem)

/-- What looks like a number is one, or it is a false one. -/
theorem exists_fault_iff :
    (isIndex segment = true ∧ ∃ fault, readNatural segment = .error fault) ↔
      IsFalseNumber segment := by
  constructor
  · rintro ⟨hindex, fault, hfault⟩
    obtain ⟨hnonempty, hlooks⟩ := isIndex_iff.mp hindex
    refine ⟨hnonempty, hlooks, ?_⟩
    by_contra hread
    rw [not_or, Nat.not_lt] at hread
    have hdigits : ∀ c ∈ segment, Text.isDecimalDigit c = true := by
      intro c hmem
      by_contra hforeign
      exact hread.1 ⟨c, hmem, Bool.not_eq_true _ ▸ hforeign⟩
    have hok := readNatural_eq_ok_iff.mpr ⟨hnonempty, hdigits, hread.2, rfl⟩
    rw [hfault] at hok
    cases hok
  · intro hfalse
    refine ⟨isIndex_iff.mpr ⟨hfalse.nonempty, hfalse.looks⟩, ?_⟩
    cases hread : readNatural segment with
    | error fault => exact ⟨fault, rfl⟩
    | ok index =>
        have hnumber := readNatural_eq_ok_iff_isNumber.mp hread
        rcases hfalse.unread with ⟨c, hmem, hforeign⟩ | hlong
        · rw [hnumber.digits c hmem] at hforeign
          cases hforeign
        · exact absurd hnumber.fits (Nat.not_le.mpr hlong)

/-- A segment leads on where the object has the member, or the array the item. -/
theorem step_eq_ok_some_iff :
    step current segment = .ok (some next) ↔ StepsTo current segment next := by
  constructor
  · intro hstep
    cases current with
    | object members => exact .member (Except.ok.inj hstep)
    | array items =>
        unfold step at hstep
        simp only at hstep
        split at hstep
        · cases hread : readNatural segment with
          | error fault =>
              rw [hread] at hstep
              cases hstep
          | ok index =>
              rw [hread] at hstep
              exact .item (readNatural_eq_ok_iff_isNumber.mp hread) (Except.ok.inj hstep)
        · cases hstep
    | _ => cases hstep
  · intro hsteps
    cases hsteps with
    | member hlookup =>
        simp only [step, hlookup]
    | item hnumber hitem =>
        have hread := readNatural_eq_ok_iff_isNumber.mpr hnumber
        simp only [step, hnumber.isIndex, hread, if_true, Except.map, hitem]

/-- A segment is stumbled over only where it is taken for the number of an item. -/
theorem step_eq_error_iff :
    (∃ fault, step current segment = .error fault) ↔
      (∃ items, current = .array items) ∧ IsFalseNumber segment := by
  cases current with
  | array items =>
      have hstep : (∃ fault, step (.array items) segment = .error fault) ↔
          isIndex segment = true ∧ ∃ fault, readNatural segment = .error fault := by
        unfold step
        by_cases hindex : isIndex segment = true
        · cases hread : readNatural segment <;> simp [hindex, Except.map]
        · simp [hindex]
      rw [hstep, exists_fault_iff]
      simp
  | _ => simp [step]

end Segments

/-! ## Paths -/

/-- The way down from a value, segment by segment. -/
inductive Leads : Json → List (List Char) → Json → Prop
  | here (data : Json) : Leads data [] data
  | down
      {data next value : Json} {segment : List Char} {rest : List (List Char)}
      (hstep : StepsTo data segment next)
      (hrest : Leads next rest value) :
      Leads data (segment :: rest) value

/-- The path leads to an array, and there it goes on with a false number. -/
def Stumbles
    (data : Json)
    (path : List (List Char)) : Prop :=
  ∃ front segment back items,
    path = front ++ segment :: back ∧
    Leads data front (.array items) ∧
    IsFalseNumber segment

section Paths

variable {data value : Json} {segment : List Char} {path front back : List (List Char)}

theorem leads_nil_iff :
    Leads data [] value ↔ data = value := by
  constructor
  · rintro ⟨⟩
    rfl
  · rintro rfl
    exact .here data

theorem leads_cons_iff :
    Leads data (segment :: path) value ↔
      ∃ next, StepsTo data segment next ∧ Leads next path value := by
  constructor
  · intro hleads
    cases hleads with
    | down hstep hrest => exact ⟨_, hstep, hrest⟩
  · rintro ⟨next, hstep, hrest⟩
    exact .down hstep hrest

/-- Two paths one after the other lead where the second one leads from the end of the first. -/
theorem leads_append_iff :
    Leads data (front ++ back) value ↔
      ∃ inner, Leads data front inner ∧ Leads inner back value := by
  induction front generalizing data with
  | nil => simp [leads_nil_iff]
  | cons segment rest ih =>
      simp only [List.cons_append, leads_cons_iff, ih]
      constructor
      · rintro ⟨next, hstep, inner, hfront, hback⟩
        exact ⟨inner, ⟨next, hstep, hfront⟩, hback⟩
      · rintro ⟨inner, ⟨next, hstep, hfront⟩, hback⟩
        exact ⟨next, hstep, inner, hfront, hback⟩

theorem not_stumbles_nil :
    ¬Stumbles data [] := by
  rintro ⟨front, segment, back, items, hpath, _⟩
  exact absurd hpath.symm (List.append_ne_nil_of_right_ne_nil front (List.cons_ne_nil segment back))

/-- A path stumbles at its first segment, or further down. -/
theorem stumbles_cons_iff :
    Stumbles data (segment :: path) ↔
      ((∃ items, data = .array items) ∧ IsFalseNumber segment) ∨
        ∃ next, StepsTo data segment next ∧ Stumbles next path := by
  constructor
  · rintro ⟨front, number, back, items, hpath, hleads, hfalse⟩
    cases front with
    | nil =>
        obtain ⟨rfl, rfl⟩ := List.cons.inj hpath
        exact Or.inl ⟨⟨items, leads_nil_iff.mp hleads⟩, hfalse⟩
    | cons first others =>
        obtain ⟨rfl, rfl⟩ := List.cons.inj hpath
        obtain ⟨next, hstep, hrest⟩ := leads_cons_iff.mp hleads
        exact Or.inr ⟨next, hstep, others, number, back, items, rfl, hrest, hfalse⟩
  · rintro (⟨⟨items, rfl⟩, hfalse⟩ | ⟨next, hstep, front, number, back, items, rfl, hleads,
      hfalse⟩)
    · exact ⟨[], segment, path, items, rfl, .here _, hfalse⟩
    · exact ⟨segment :: front, number, back, items, rfl, .down hstep hleads, hfalse⟩

/-- Walking finds the value that the path leads to. -/
theorem walk_eq_ok_some_iff :
    walk data path = .ok (some value) ↔ Leads data path value := by
  induction path generalizing data with
  | nil => simp [walk, leads_nil_iff]
  | cons segment rest ih =>
      simp only [leads_cons_iff, ← step_eq_ok_some_iff, ← ih, walk]
      cases hstep : step data segment with
      | error fault => simp
      | ok found => cases found <;> simp

/-- Walking breaks off where the path stumbles. -/
theorem walk_eq_error_iff :
    (∃ fault, walk data path = .error fault) ↔ Stumbles data path := by
  induction path generalizing data with
  | nil => simp [walk, not_stumbles_nil]
  | cons segment rest ih =>
      simp only [stumbles_cons_iff, ← step_eq_error_iff, ← step_eq_ok_some_iff, ← ih, walk]
      cases hstep : step data segment with
      | error fault => simp
      | ok found => cases found <;> simp

end Paths

/-! ## Paths as texts -/

section Texts

theorem segments_ne_nil
    (path : List Char) :
    segments path ≠ [] := by
  cases path with
  | nil => simp [segments]
  | cons c rest =>
      unfold segments
      split
      · simp
      · split <;> simp

/-- A dot puts the segments of two paths one after the other. -/
theorem segments_append
    (front back : List Char) :
    segments (front ++ '.' :: back) = segments front ++ segments back := by
  induction front with
  | nil => simp [segments]
  | cons c rest ih =>
      by_cases hdot : c = '.'
      · simp [segments, hdot, ih]
      · obtain ⟨first, others, hrest⟩ := List.exists_cons_of_ne_nil (segments_ne_nil rest)
        simp [segments, hdot, ih, hrest]

end Texts

section Readings

variable {data value fallback : Json} {path : String}

/-- Looking ends in one of three ways. -/
theorem find_cases
    (data : Json)
    (path : String) :
    (∃ value, data.find path = .ok (some value) ∧ Leads data (segments path.toList) value) ∨
      (data.find path = .ok none ∧
        (∀ value, ¬Leads data (segments path.toList) value) ∧
        ¬Stumbles data (segments path.toList)) ∨
      ∃ fault,
        data.find path = .error fault ∧
        (∀ value, ¬Leads data (segments path.toList) value) ∧
        Stumbles data (segments path.toList) := by
  have hleads : ∀ value, data.find path = .ok (some value) ↔
      Leads data (segments path.toList) value := fun _ => walk_eq_ok_some_iff
  have hstumbles : (∃ fault, data.find path = .error fault) ↔
      Stumbles data (segments path.toList) := walk_eq_error_iff
  cases hfind : data.find path with
  | error fault =>
      refine Or.inr (Or.inr ⟨fault, rfl, fun value hvalue => ?_, hstumbles.mp ⟨fault, hfind⟩⟩)
      have hfound := (hleads value).mpr hvalue
      rw [hfind] at hfound
      cases hfound
  | ok found =>
      cases found with
      | some value => exact Or.inl ⟨value, rfl, (hleads value).mp hfind⟩
      | none =>
          refine Or.inr (Or.inl ⟨rfl, fun value hvalue => ?_, fun hstumble => ?_⟩)
          · have hfound := (hleads value).mpr hvalue
            rw [hfind] at hfound
            cases hfound
          · obtain ⟨fault, hfault⟩ := hstumbles.mpr hstumble
            rw [hfind] at hfault
            cases hfault

/-- A value is read where the path leads to it. -/
theorem extract_eq_ok_iff_leads :
    data.extract path = .ok value ↔ Leads data (segments path.toList) value := by
  rw [extract_eq_ok_iff]
  exact walk_eq_ok_some_iff

/-- What is there is never replaced by the fallback. -/
theorem extractOr_of_extract
    (hfound : data.extract path = .ok value) :
    data.extractOr path fallback = .ok value := by
  have hfind := extract_eq_ok_iff.mp hfound
  exact extractOr_eq_ok_iff.mpr ⟨some value, hfind, rfl⟩

/-- The fallback takes the place of nothing but a value that is missing. -/
theorem extractOr_of_not_extract
    (hmissing : ∀ inner, data.extract path ≠ .ok inner)
    (hread : data.extractOr path fallback = .ok value) :
    value = fallback := by
  obtain ⟨found, hfind, rfl⟩ := extractOr_eq_ok_iff.mp hread
  cases found with
  | none => rfl
  | some inner => exact absurd (extract_eq_ok_iff.mpr hfind) (hmissing inner)

/-- Looking behind a dot is looking from the value in front of it. -/
theorem find_append
    (data : Json)
    (front back : String) :
    data.find (front ++ "." ++ back) =
      match data.find front with
      | .ok (some inner) => inner.find back
      | .ok none => .ok none
      | .error fault => .error fault := by
  have hchars : (front ++ "." ++ back).toList = front.toList ++ '.' :: back.toList := by
    simp
  rw [find, hchars, segments_append, walk_append]
  rfl

end Readings

/-! ## How a reading ends -/

/-- **How a reading ends.**  It yields the value that the path leads to, and no other.  Where the
path leads nowhere, the reading takes its fallback; without one it is fatal, and tells the whole
value that it began with.  There is one exception.  When the path stumbles, the reading ends with a
defect, and a fallback makes no difference. -/
theorem fails_without_value_unless_stumbles
    (data : Json)
    (path : String) :
    (∀ value, data.extract path = .ok value ↔ Leads data (segments path.toList) value) ∧
    (¬Stumbles data (segments path.toList) →
      (∀ failure, data.extract path = .error failure ↔
        (∀ value, ¬Leads data (segments path.toList) value) ∧
        failure = .fatal ("response has no value at [" ++ path ++ "]") data) ∧
      ∀ fallback, ∃ value,
        data.extractOr path fallback = .ok value ∧
        (Leads data (segments path.toList) value ∨
          (∀ other, ¬Leads data (segments path.toList) other) ∧ value = fallback)) ∧
    (Stumbles data (segments path.toList) →
      ∃ message,
        data.extract path = .error (.defect (.badValue message)) ∧
        ∀ fallback, data.extractOr path fallback = .error (.defect (.badValue message))) := by
  refine ⟨fun value => extract_eq_ok_iff_leads, ?_, ?_⟩
  · intro hclear
    obtain ⟨value, hfind, hvalue⟩ | ⟨hfind, hnone, _⟩ | ⟨_, _, _, hstumbles⟩ := find_cases data path
    · refine ⟨fun failure => ?_, fun fallback => ⟨value, by simp [extractOr, hfind], Or.inl hvalue⟩⟩
      have hread : data.extract path = .ok value := extract_eq_ok_iff.mpr hfind
      simp only [hread, reduceCtorEq, false_iff, not_and]
      exact fun hnone => absurd hvalue (hnone value)
    · refine ⟨fun failure => ?_, fun fallback =>
        ⟨fallback, by simp [extractOr, hfind], Or.inr ⟨hnone, rfl⟩⟩⟩
      simp only [extract, hfind, Except.error.injEq]
      exact ⟨fun hfailure => ⟨hnone, hfailure.symm⟩, fun hfailure => hfailure.2.symm⟩
    · exact absurd hstumbles hclear
  · intro hstumbles
    obtain ⟨fault, hfault⟩ := walk_eq_error_iff.mpr hstumbles
    have hfind : data.find path = .error fault := hfault
    refine ⟨fault.message, ?_, fun fallback => ?_⟩
    · simp only [extract, hfind, Failure.ofNumeral]
    · simp only [extractOr, hfind, Failure.ofNumeral]

/-- A list of tasks, of which the second one is missing. -/
def taskList : Json :=
  .object [("tasks", .array [.object [("id", .string "job"), ("done", .bool false)], .null])]

theorem leads_tasks :
    Leads taskList (segments "tasks".toList)
      (.array [.object [("id", .string "job"), ("done", .bool false)], .null]) :=
  .down (.member rfl) (.here _)

theorem isFalseNumber_superscript :
    IsFalseNumber ['²'] where
  nonempty := List.cons_ne_nil _ _
  looks := List.forall_mem_singleton.mpr (by decide)
  unread := Or.inl ⟨'²', List.mem_singleton_self _, by decide⟩

theorem stumbles_superscript :
    Stumbles taskList (segments "tasks.²".toList) :=
  ⟨_, ['²'], [], _, rfl, leads_tasks, isFalseNumber_superscript⟩

/-- A path that was found does not stumble. -/
theorem not_stumbles_of_find
    {data : Json} {path : String} {found : Option Json}
    (hfind : data.find path = .ok found) :
    ¬Stumbles data (segments path.toList) := by
  intro hstumbles
  obtain ⟨fault, hfault⟩ := walk_eq_error_iff.mpr hstumbles
  cases hfind.symm.trans hfault

/-- The first task is found, there is no third one, and no task has a superscript for its number. -/
theorem fails_without_third_task :
    taskList.extract "tasks.0.id" = .ok (.string "job") ∧
    taskList.extract "tasks.2" = .error (.fatal "response has no value at [tasks.2]" taskList) ∧
    (∃ value, taskList.extractOr "tasks.2" (.string "none") = .ok value) ∧
    ∃ message, taskList.extract "tasks.²" = .error (.defect (.badValue message)) := by
  obtain ⟨hfound, _⟩ := fails_without_value_unless_stumbles taskList "tasks.0.id"
  obtain ⟨_, hclear, _⟩ := fails_without_value_unless_stumbles taskList "tasks.2"
  obtain ⟨_, _, hstumbles⟩ := fails_without_value_unless_stumbles taskList "tasks.²"
  have hmissing : taskList.find "tasks.2" = .ok none := by rfl
  obtain ⟨hfatal, hfallback⟩ := hclear (not_stumbles_of_find hmissing)
  refine ⟨(hfound _).mpr (extract_eq_ok_iff_leads.mp (by rfl)), (hfatal _).mpr ⟨?_, rfl⟩, ?_, ?_⟩
  · intro value hleads
    cases (walk_eq_ok_some_iff.mpr hleads).symm.trans hmissing
  · obtain ⟨value, hvalue, _⟩ := hfallback (.string "none")
    exact ⟨value, hvalue⟩
  · obtain ⟨message, hmessage, _⟩ := hstumbles stumbles_superscript
    exact ⟨message, hmessage⟩

/-- A superscript in place of the number of a task is not fatal, and no fallback helps. -/
theorem stumbles_over_superscript :
    taskList.extract "tasks.²" =
      .error (.defect (.badValue "invalid literal for int() with base 10: '²'")) ∧
    ∀ fallback, taskList.extractOr "tasks.²" fallback =
      .error (.defect (.badValue "invalid literal for int() with base 10: '²'")) := by
  have hfind : taskList.find "tasks.²" = .error (.notDecimal ['²']) := by rfl
  have hmessage : NumeralFault.message (.notDecimal ['²']) =
      "invalid literal for int() with base 10: '²'" := by decide +kernel
  refine ⟨?_, fun fallback => ?_⟩
  · simp only [extract, hfind, Failure.ofNumeral, hmessage]
  · simp only [extractOr, hfind, Failure.ofNumeral, hmessage]

/-! ## Reading in two parts -/

/-- **Reading in two parts.**  What is read at two paths with a dot in between is what is read at
the second one from what is read at the first one.  With a fallback it is the same; and where the
first path leads nowhere, the reading ends as it does there, with the fallback or with a defect.  A
value that is there is never replaced by the fallback, whatever the value is. -/
theorem extracts_in_two_parts
    (data : Json)
    (front back : String) :
    (∀ value, data.extract (front ++ "." ++ back) = .ok value ↔
      ∃ inner, data.extract front = .ok inner ∧ inner.extract back = .ok value) ∧
    ∀ fallback,
      (∀ inner, data.extract front = .ok inner →
        data.extractOr (front ++ "." ++ back) fallback = inner.extractOr back fallback) ∧
      ((∀ inner, data.extract front ≠ .ok inner) →
        data.extractOr (front ++ "." ++ back) fallback = data.extractOr front fallback ∧
        ∀ value,
          data.extractOr (front ++ "." ++ back) fallback = .ok value → value = fallback) ∧
      ∀ value, data.extract (front ++ "." ++ back) = .ok value →
        data.extractOr (front ++ "." ++ back) fallback = .ok value := by
  have hparts := find_append data front back
  have hboth : ∀ value, data.extract (front ++ "." ++ back) = .ok value ↔
      ∃ inner, data.extract front = .ok inner ∧ inner.extract back = .ok value := by
    intro value
    have hchars : (front ++ "." ++ back).toList = front.toList ++ '.' :: back.toList := by
      simp
    simp only [extract_eq_ok_iff_leads, hchars, segments_append, leads_append_iff]
  refine ⟨hboth, fun fallback => ⟨fun inner hinner => ?_, fun hmissing => ?_, fun value =>
    extractOr_of_extract⟩⟩
  · rw [extract_eq_ok_iff.mp hinner] at hparts
    simp only [extractOr, hparts]
  · refine ⟨?_, fun value => extractOr_of_not_extract fun whole hwhole => ?_⟩
    · cases hfind : data.find front with
      | error fault => simp only [extractOr, hparts, hfind]
      | ok found =>
          cases found with
          | none => simp only [extractOr, hparts, hfind]
          | some inner => exact absurd (extract_eq_ok_iff.mpr hfind) (hmissing inner)
    · obtain ⟨inner, hinner, _⟩ := (hboth whole).mp hwhole
      exact hmissing inner hinner

/-- The first task is not done, which is no reason to take the fallback; nor is a task that is null.
Of a list that is missing there is nothing to read. -/
theorem extracts_task_not_done :
    taskList.extract ("tasks.0" ++ "." ++ "done") = .ok (.bool false) ∧
    taskList.extractOr ("tasks.0" ++ "." ++ "done") (.string "missing") = .ok (.bool false) ∧
    taskList.extractOr ("tasks" ++ "." ++ "1") (.string "missing") = .ok .null ∧
    ∀ value, taskList.extractOr ("jobs" ++ "." ++ "0.id") (.string "missing") = .ok value →
      value = .string "missing" := by
  obtain ⟨hfirst, hfallback⟩ := extracts_in_two_parts taskList "tasks.0" "done"
  obtain ⟨_, hsecond⟩ := extracts_in_two_parts taskList "tasks" "1"
  obtain ⟨_, hnowhere⟩ := extracts_in_two_parts taskList "jobs" "0.id"
  have hdone : taskList.extract ("tasks.0" ++ "." ++ "done") = .ok (.bool false) :=
    (hfirst _).mpr ⟨.object [("id", .string "job"), ("done", .bool false)], by rfl, by rfl⟩
  refine ⟨hdone, (hfallback _).2.2 _ hdone, ?_, ((hnowhere _).2.1 ?_).2⟩
  · exact (hsecond _).1 _ (extract_eq_ok_iff_leads.mpr leads_tasks)
  · intro inner hinner
    cases hinner

end Json
end RestartCheck
