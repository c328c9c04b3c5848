import RestartCheck.Service.Rehearsal
import RestartCheck.Proofs.Effect.Runs
import RestartCheck.Proofs.Effect.Trace

/-!
# Runs that exist

That every run of an action has a property says little when there is no run.  A rehearsal of the
action is a run of it, and runs of the parts of a sequence make up a run of the whole.

**Results.**
* `runs_of_play`: a rehearsal that comes to an end is a run, with the events of its transcript.
* `exists_runs_of_succeedsWith`: a run with the events and the value of a rehearsal.
* `canSucceed_bind`: a sequence whose parts can succeed can succeed.
* `exists_object_of_chars`: what a given text is decoded to.
-/

namespace RestartCheck
namespace Action

variable {α β : Type} {before after : Session}

theorem transcript_respondTo
    (query : Query)
    (rehearsal : Rehearsal) :
    (Rehearsal.respondTo query rehearsal).2.transcript = rehearsal.transcript := by
  cases query with
  | call request =>
      unfold Rehearsal.respondTo Rehearsal.reply
      simp only
      split <;> rfl
  | _ => rfl

theorem transcript_respond
    (query : Query)
    (rehearsal : Rehearsal) :
    (Rehearsal.respond query rehearsal).2.transcript.map Moment.event =
      ⟨query, (Rehearsal.respond query rehearsal).1⟩ :: rehearsal.transcript.map Moment.event := by
  change Event.mk query _ :: (Rehearsal.respondTo query rehearsal).2.transcript.map _ = _
  rw [transcript_respondTo]
  rfl

/-- A rehearsal that comes to an end is a run, whose events it has added to its transcript. -/
theorem runs_of_play
    {procedure : Procedure α} {rehearsal : Rehearsal} {value : α}
    (hplay : (procedure.play Rehearsal.respond rehearsal).1 = some value) :
    ∃ events,
      procedure.Runs events value ∧
      (procedure.play Rehearsal.respond rehearsal).2.transcript.map Moment.event =
        events.reverse ++ rehearsal.transcript.map Moment.event := by
  induction procedure generalizing rehearsal with
  | done result =>
      cases hplay
      exact ⟨[], .done _, rfl⟩
  | ask query next ih =>
      obtain ⟨events, hruns, htranscript⟩ := ih _ hplay
      refine ⟨⟨query, (Rehearsal.respond query rehearsal).1⟩ :: events, .ask _ hruns, ?_⟩
      rw [List.reverse_cons, List.append_assoc, List.singleton_append, ← transcript_respond]
      exact htranscript
  | stuck => cases hplay

/-- A run with the value of a rehearsal. -/
theorem exists_runs_of_any_play
    (rehearsal : Rehearsal)
    (procedure : Procedure α)
    (test : α → Bool)
    (hplay : (procedure.play Rehearsal.respond rehearsal).1.any test = true) :
    ∃ events value, procedure.Runs events value ∧ test value = true := by
  cases hvalue : (procedure.play Rehearsal.respond rehearsal).1 with
  | none =>
      rw [hvalue] at hplay
      cases hplay
  | some value =>
      rw [hvalue] at hplay
      obtain ⟨events, hruns, _⟩ := runs_of_play hvalue
      exact ⟨events, value, hruns, hplay⟩

/-- Some run of the action succeeds, and takes the memory from one state to another. -/
def CanSucceed
    (action : Action α)
    (before after : Session) : Prop :=
  ∃ events value, action.Runs before events (.ok value) after

theorem canSucceed_pure
    (value : α) :
    CanSucceed (pure value : Action α) before before :=
  ⟨[], value, runs_pure_iff.mpr ⟨rfl, rfl, rfl⟩⟩

theorem canSucceed_bind
    {action : Action α} {next : α → Action β}
    (middle : Session)
    (haction : CanSucceed action before middle)
    (hnext : ∀ value, CanSucceed (next value) middle after) :
    CanSucceed (action >>= next) before after := by
  obtain ⟨front, first, hfirst⟩ := haction
  obtain ⟨back, value, hrest⟩ := hnext first
  exact ⟨front ++ back, value,
    runs_bind_ok_iff.mpr ⟨first, middle, front, back, rfl, hfirst, hrest⟩⟩

theorem canSucceed_liftM_bind
    {known : Except Failure α} {next : α → Action β} {value : α}
    (hknown : known = .ok value)
    (hnext : CanSucceed (next value) before after) :
    CanSucceed (liftM known >>= next) before after := by
  obtain ⟨events, result, hrest⟩ := hnext
  exact ⟨events, result, runs_liftM_bind_ok_iff.mpr ⟨value, hknown, hrest⟩⟩

theorem canSucceed_liftM
    {known : Except Failure α} {value : α}
    (hknown : known = .ok value) :
    CanSucceed (liftM known : Action α) before before :=
  ⟨[], value, runs_liftM_iff.mpr ⟨rfl, hknown.symm, rfl⟩⟩

theorem canSucceed_attempt_bind
    {action : Action α} {next : Except Failure α → Action β}
    (middle : Session)
    (haction : CanSucceed action before middle)
    (hnext : ∀ value, CanSucceed (next (.ok value)) middle after) :
    CanSucceed (attempt action >>= next) before after := by
  obtain ⟨front, first, hfirst⟩ := haction
  obtain ⟨back, value, hrest⟩ := hnext first
  exact ⟨front ++ back, value, runs_attempt_bind_iff.mpr
    ⟨.ok first, middle, front, back, rfl, hfirst, hrest⟩⟩

/-- The action succeeds in the rehearsal, and takes the memory from one state to another.  No
context is bound, and it is not settled how entries are written. -/
def succeedsIn
    (rehearsal : Rehearsal)
    (before after : Session)
    (action : Action α) : Bool :=
  match ((action.start before).play Rehearsal.respond rehearsal).1 with
  | some (.ok _, last) =>
      last.statuses == after.statuses && last.context.isEmpty && after.context.isEmpty &&
        last.logging.isNone && after.logging.isNone
  | _ => false

theorem canSucceed_of_rehearsal
    {action : Action α}
    (rehearsal : Rehearsal)
    (hsucceeds : succeedsIn rehearsal before after action = true) :
    CanSucceed action before after := by
  unfold succeedsIn at hsucceeds
  split at hsucceeds
  · next value last hplay =>
      obtain ⟨events, hruns, _⟩ := runs_of_play hplay
      have hlast : last = after := by
        cases last
        cases after
        simp_all
      rw [hlast] at hruns
      exact ⟨events, value, hruns⟩
  · cases hsucceeds

/-- The action succeeds in the rehearsal, with events and a value that pass the test. -/
def succeedsWith
    (rehearsal : Rehearsal)
    (before : Session)
    (action : Action α)
    (test : List Event → α → Bool) : Bool :=
  match (action.start before).play Rehearsal.respond rehearsal with
  | (some (.ok value, _), last) => test (last.moments.map Moment.event) value
  | _ => false

theorem exists_runs_of_succeedsWith
    (rehearsal : Rehearsal)
    (before : Session)
    (action : Action α)
    (test : List Event → α → Bool)
    (hfresh : rehearsal.transcript = [])
    (hsucceeds : succeedsWith rehearsal before action test = true) :
    ∃ events value after,
      action.Runs before events (.ok value) after ∧ test events value = true := by
  unfold succeedsWith at hsucceeds
  split at hsucceeds
  · next value after last hplay =>
      obtain ⟨events, hruns, htranscript⟩ := runs_of_play (by rw [hplay])
      have hevents : last.moments.map Moment.event = events := by
        rw [hplay, hfresh, List.map_nil, List.append_nil] at htranscript
        rw [Rehearsal.moments, List.map_reverse, htranscript, List.reverse_reverse]
      rw [hevents] at hsucceeds
      exact ⟨events, value, after, hruns, hsucceeds⟩
  · cases hsucceeds

end Action

/-- The text of an object, given the texts of its values. -/
def objectText (members : List (String × List Char)) : List Char :=
  '\x7b' :: (List.intercalate [','] (members.map fun member =>
    '"' :: member.1.toList ++ ['"', ':'] ++ member.2)) ++ ['\x7d']

/-- The text holds a JSON object that passes the test. -/
def holdsObject
    (test : Json.Members → Bool)
    (text : List Char) : Bool :=
  match Json.decodeChars text with
  | .ok (.object members) => test members
  | _ => false

theorem exists_object_of_chars
    {chars : List Char}
    (status : Int)
    (test : Json.Members → Bool)
    (hnonempty : chars ≠ [])
    (hholds : holdsObject test chars = true) :
    ∃ members,
      (⟨status, String.ofList chars⟩ : Response).object = .ok members ∧ test members = true := by
  unfold holdsObject at hholds
  split at hholds
  · next members hdecoded =>
      refine ⟨members, ?_, hholds⟩
      have hnotEmpty : String.ofList chars ≠ "" := by
        simpa using hnonempty
      unfold Response.object
      simp only [hnotEmpty, if_false]
      rw [Json.decode, String.toList_ofList, hdecoded]
  · cases hholds

end RestartCheck
