import RestartCheck.CommandLine.Arguments

/-!
# What accepted arguments choose

Arguments are accepted only if every scenario that they choose by name is a built-in one.  The mark
in place of a name passes unchecked.

**Results.**
* `isKnown_of_consume`: the options keep to the known names, one after the other.
* `isKnown_of_parse`: accepted arguments choose known scenarios only.
-/

namespace RestartCheck
namespace CommandLine

/-- Every scenario that is chosen by name is a built-in one. -/
def Arguments.IsKnown (arguments : Arguments) : Prop :=
  ∀ name, .text name ∈ arguments.scenarios → name ∈ Catalog.names

section Consuming

variable {arguments next : Arguments} {option : OptionName} {value : String} {given : Given}

/-- An option adds nothing to the scenarios but the value that it is given. -/
theorem isKnown_of_note
    (hknown : arguments.IsKnown)
    (hgiven : ∀ name, option = .scenario → given = .text name → name ∈ Catalog.names)
    (hnote : arguments.note given option = .ok next) :
    next.IsKnown := by
  cases option with
  | help => cases hnote
  | phase =>
      cases hnote
      exact hknown
  | oldVersion =>
      cases hnote
      exact hknown
  | scenario =>
      cases hnote
      intro name hmem
      rcases List.mem_append.mp hmem with hmem | hmem
      · exact hknown name hmem
      · exact hgiven name rfl (List.mem_singleton.mp hmem).symm

theorem isKnown_of_set
    (hknown : arguments.IsKnown)
    (hset : arguments.set option value = .ok next) :
    next.IsKnown := by
  unfold Arguments.set at hset
  split at hset
  · exact isKnown_of_note hknown (fun _ _ hnothing => by cases hnothing) hset
  split at hset
  · next haccepts =>
      refine isKnown_of_note hknown ?_ hset
      rintro name rfl hsame
      cases hsame
      simpa [OptionName.accepts] using haccepts
  · cases hset

theorem isKnown_of_set_bind
    {consumed : Arguments → Except Refusal Arguments}
    (hknown : arguments.IsKnown)
    (hconsumed : ∀ noted, noted.IsKnown → consumed noted = .ok next → next.IsKnown)
    (hset : (arguments.set option value >>= consumed) = .ok next) :
    next.IsKnown := by
  cases hnoted : arguments.set option value with
  | error refusal =>
      rw [hnoted] at hset
      cases hset
  | ok noted =>
      rw [hnoted] at hset
      exact hconsumed noted (isKnown_of_set hknown hnoted) hset

theorem isKnown_of_consume
    {stray : Bool} {items : List Argument}
    (hknown : arguments.IsKnown)
    (hconsume : consume arguments stray items = .ok next) :
    next.IsKnown := by
  fun_induction consume arguments stray items with
  -- Only an option with a value changes what is chosen, and goes on.
  | case6 _ _ _ _ _ _ ih => exact isKnown_of_set_bind hknown ih hconsume
  | case7 _ _ _ _ _ _ ih => exact isKnown_of_set_bind hknown ih hconsume
  | case2 =>
      cases hconsume
      exact hknown
  | case9 _ _ _ _ ih => exact ih hknown hconsume
  | case10 _ _ _ ih => exact ih hknown hconsume
  | case11 _ _ _ ih => exact ih hknown hconsume
  | _ => cases hconsume

end Consuming

/-- Accepted arguments choose known scenarios only. -/
theorem isKnown_of_parse
    {texts : List String} {arguments : Arguments}
    (hparse : parse texts = .ok arguments) :
    arguments.IsKnown := by
  unfold parse at hparse
  cases hclassified : classifyAll texts with
  | error refusal =>
      rw [hclassified] at hparse
      cases hparse
  | ok items =>
      rw [hclassified] at hparse
      exact isKnown_of_consume (fun _ hmem => by cases hmem) hparse

end CommandLine
end RestartCheck
