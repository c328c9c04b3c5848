import RestartCheck.Proofs.Json.Distinct
import RestartCheck.Proofs.Json.Tokens

/-!
# How values are written

A decoded value does not tell how it was written: spaces, escapes and repeated names are gone.  This
file relates a text to the value that it is decoded to, and to the parts of the text, each of which
writes a value within the whole.

**Grammar.**  `Spells` has one constructor for each way of writing.  The tokens are those that the
decoder reads, and nothing else may stand between them than spaces.

**Results.**
* `spells_of_read`: whatever is read is written by the text that was passed over.
* `exists_spelling_of_decode`: every text that is decoded is spelled by its value.
* `Spelling.exists_mem_of_member`: every member of an object is a part of the text.
-/

namespace RestartCheck.Json

/-! ## The grammar -/

/-- A part of a text that writes a value. -/
structure Part where
  text : List Char
  value : Json

/-- What stands between two commas: an item of an array or a member of an object. -/
inductive Entry
  | item (value : Json)
  | member (name : String) (value : Json)

def Entry.value : Entry → Json
  | .item value => value
  | .member _ value => value

/-- The entry of a member. -/
def Entry.ofPair (pair : String × Json) : Entry :=
  .member pair.1 pair.2

/-- What a stretch of a text stands for. -/
inductive Phrase
  | one (entry : Entry)
  | several (entries : List Entry)

/-- The values of the entries of a phrase. -/
def Phrase.values : Phrase → List Json
  | .one entry => [entry.value]
  | .several entries => entries.map Entry.value

/-- The text stands for the phrase, and the parts are the values in it at any depth, each with the
text that writes it.  A value is its own first part. -/
inductive Spells : Phrase → List Char → List Part → Prop
  | scalar
      {text : List Char} {value : Json}
      (hscalar : IsScalar text value) :
      Spells (.one (.item value)) text [⟨text, value⟩]
  | string
      {raw : List Char} {content : String}
      (hcontent : IsContent raw content) :
      Spells (.one (.item (.string content))) ('"' :: (raw ++ ['"']))
        [⟨'"' :: (raw ++ ['"']), .string content⟩]
  | emptyArray
      {space : List Char}
      (hspace : IsSpaces space) :
      Spells (.one (.item (.array []))) ('[' :: (space ++ [']']))
        [⟨'[' :: (space ++ [']']), .array []⟩]
  | array
      {items : List Json} {text : List Char} {parts : List Part}
      (hitems : Spells (.several (items.map .item)) text parts) :
      Spells (.one (.item (.array items))) ('[' :: (text ++ [']']))
        (⟨'[' :: (text ++ [']']), .array items⟩ :: parts)
  | emptyObject
      {space : List Char}
      (hspace : IsSpaces space) :
      Spells (.one (.item (.object []))) ('\x7b' :: (space ++ ['\x7d']))
        [⟨'\x7b' :: (space ++ ['\x7d']), .object []⟩]
  | object
      {pairs : List (String × Json)} {text : List Char} {parts : List Part}
      (hpairs : Spells (.several (pairs.map .ofPair)) text parts) :
      Spells (.one (.item (.object (OrderedMap.ofPairs pairs)))) ('\x7b' :: (text ++ ['\x7d']))
        (⟨'\x7b' :: (text ++ ['\x7d']), .object (OrderedMap.ofPairs pairs)⟩ :: parts)
  | member
      {raw before after text : List Char} {name : String} {value : Json} {parts : List Part}
      (hname : IsContent raw name)
      (hbefore : IsSpaces before)
      (hafter : IsSpaces after)
      (hvalue : Spells (.one (.item value)) text parts) :
      Spells (.one (.member name value))
        ('"' :: (raw ++ '"' :: (before ++ ':' :: (after ++ text)))) parts
  | last
      {lead text trail : List Char} {entry : Entry} {parts : List Part}
      (hlead : IsSpaces lead)
      (htrail : IsSpaces trail)
      (hentry : Spells (.one entry) text parts) :
      Spells (.several [entry]) (lead ++ (text ++ trail)) parts
  | more
      {lead text trail behind : List Char} {entry : Entry} {entries : List Entry}
      {parts others : List Part}
      (hlead : IsSpaces lead)
      (htrail : IsSpaces trail)
      (hentry : Spells (.one entry) text parts)
      (hentries : Spells (.several entries) behind others) :
      Spells (.several (entry :: entries)) (lead ++ (text ++ (trail ++ ',' :: behind)))
        (parts ++ others)

/-- Entries that were read in front of a closing bracket, with any spaces before the first. -/
def SpellsUpTo
    (close : Char)
    (entries : List Entry)
    (text rest : List Char) : Prop :=
  ∃ spelled parts,
    text = spelled ++ close :: rest ∧
    ∀ lead, IsSpaces lead → Spells (.several entries) (lead ++ spelled) parts

theorem spellsUpTo_last
    {close : Char} {entry : Entry} {text rest spelled trail : List Char} {parts : List Part}
    (hentry : Spells (.one entry) spelled parts)
    (htrail : IsSpaces trail)
    (htext : text = spelled ++ (trail ++ close :: rest)) :
    SpellsUpTo close [entry] text rest :=
  ⟨spelled ++ trail, parts, by rw [htext, List.append_assoc], fun _ hlead =>
    .last hlead htrail hentry⟩

theorem SpellsUpTo.more
    {close : Char} {entry : Entry} {entries : List Entry}
    {text behind rest spelled trail lead : List Char} {parts : List Part}
    (hmore : SpellsUpTo close entries behind rest)
    (hlead : IsSpaces lead)
    (hentry : Spells (.one entry) spelled parts)
    (htrail : IsSpaces trail)
    (htext : text = spelled ++ (trail ++ ',' :: (lead ++ behind))) :
    SpellsUpTo close (entry :: entries) text rest := by
  obtain ⟨others, otherParts, rfl, hothers⟩ := hmore
  refine ⟨spelled ++ (trail ++ ',' :: (lead ++ others)), parts ++ otherParts, ?_, fun _ hfirst =>
    .more hfirst htrail hentry (hothers lead hlead)⟩
  simp only [htext, List.append_assoc, List.cons_append]

/-! ## What is read is spelled -/

/-- With the fuel, every value that is read is written by the text that was passed over. -/
def SpellsValues (fuel : Nat) : Prop :=
  ∀ depth cursor value after, readValue fuel depth cursor = .ok (value, after) →
    ∃ text parts, cursor.rest = text ++ after.rest ∧ Spells (.one (.item value)) text parts

/-- With the fuel, the items that are read are written by the text in front of the bracket. -/
def SpellsItems (fuel : Nat) : Prop :=
  ∀ depth cursor done value after, readItems fuel depth cursor done = .ok (value, after) →
    ∃ items,
      value = .array (done.reverse ++ items) ∧
      SpellsUpTo ']' (items.map .item) cursor.rest after.rest

/-- With the fuel, the members that are read are written by the text in front of the brace. -/
def SpellsMembers (fuel : Nat) : Prop :=
  ∀ depth cursor done value after, readMembers fuel depth cursor done = .ok (value, after) →
    ∃ pairs,
      value = .object (OrderedMap.ofPairs (done.reverse ++ pairs)) ∧
      SpellsUpTo '\x7d' (pairs.map .ofPair) cursor.rest after.rest

theorem Cursor.rest_advance_one
    {cursor : Cursor} {c : Char} {rest : List Char}
    (hrest : cursor.rest = c :: rest) :
    cursor.rest = c :: (cursor.advance 1).rest := by
  rw [Cursor.advance, hrest]
  rfl

/-- A text that begins with a bracket, up to the closing one. -/
theorem eq_of_bracketed
    {opening close : Char} {text inside space skipped behind : List Char}
    (inner : List Char)
    (htext : text = opening :: inside)
    (hinside : inside = space ++ skipped)
    (hskipped : skipped = inner ++ close :: behind) :
    text = opening :: ((space ++ inner) ++ [close]) ++ behind := by
  rw [htext, hinside, hskipped]
  simp only [List.cons_append, List.append_assoc, List.nil_append]

theorem spellsValues_succ
    {fuel : Nat}
    (hitems : SpellsItems fuel)
    (hmembers : SpellsMembers fuel) :
    SpellsValues (fuel + 1) := by
  intro depth cursor value after hread
  unfold readValue at hread
  split at hread
  · cases hread
  · next rest hrest =>
      split at hread
      · next content behind hscan =>
          cases hread
          obtain ⟨raw, rfl, hcontent⟩ := exists_content_of_scanString hscan
          refine ⟨_, _, ?_, .string hcontent⟩
          rw [hrest, List.cons_append, List.append_assoc]
          rfl
      · cases hread
  · next rest hrest =>
      split at hread
      · cases hread
      · obtain ⟨space, hspace, hskip⟩ := exists_spaces_of_skipFrom rest (cursor.offset + 1)
        simp only at hread
        split at hread
        · next behind hclose =>
            cases hread
            have hpassed := eq_of_bracketed [] hrest hskip (Cursor.rest_advance_one hclose)
            rw [List.append_nil] at hpassed
            exact ⟨_, _, hpassed, .emptyArray hspace⟩
        · obtain ⟨items, rfl, spelled, parts, hsplit, hspelled⟩ := hitems _ _ _ _ _ hread
          exact ⟨_, _, eq_of_bracketed _ hrest hskip hsplit, .array (hspelled space hspace)⟩
  · next rest hrest =>
      split at hread
      · cases hread
      · obtain ⟨space, hspace, hskip⟩ := exists_spaces_of_skipFrom rest (cursor.offset + 1)
        simp only at hread
        split at hread
        · next behind hclose =>
            cases hread
            have hpassed := eq_of_bracketed [] hrest hskip (Cursor.rest_advance_one hclose)
            rw [List.append_nil] at hpassed
            exact ⟨_, _, hpassed, .emptyObject hspace⟩
        · obtain ⟨pairs, rfl, spelled, parts, hsplit, hspelled⟩ := hmembers _ _ _ _ _ hread
          exact ⟨_, _, eq_of_bracketed _ hrest hskip hsplit, .object (hspelled space hspace)⟩
  · obtain ⟨text, hsplit, hscalar⟩ := exists_scalar_of_readScalar hread
    exact ⟨text, _, hsplit, .scalar hscalar⟩

theorem spellsItems_succ
    {fuel : Nat}
    (hvalues : SpellsValues fuel)
    (hitems : SpellsItems fuel) :
    SpellsItems (fuel + 1) := by
  intro depth cursor done value after hread
  unfold readItems at hread
  split at hread
  · cases hread
  · next item behind hitem =>
      obtain ⟨text, parts, hsplit, hspelled⟩ := hvalues _ _ _ _ hitem
      obtain ⟨trail, htrail, hskip⟩ := behind.exists_spaces_of_skip
      simp only at hread
      split at hread
      · next rest hclose =>
          cases hread
          refine ⟨[item], by rw [List.reverse_cons], spellsUpTo_last hspelled htrail ?_⟩
          rw [hsplit, hskip, Cursor.rest_advance_one hclose]
      · next rest hcomma =>
          obtain ⟨items, rfl, hmore⟩ := hitems _ _ _ _ _ hread
          obtain ⟨lead, hlead, hbehind⟩ := (behind.skip.advance 1).exists_spaces_of_skip
          refine ⟨item :: items, by rw [List.reverse_cons, List.append_assoc]; rfl,
            hmore.more hlead hspelled htrail ?_⟩
          rw [hsplit, hskip, Cursor.rest_advance_one hcomma, hbehind]
      · cases hread

theorem spellsMembers_succ
    {fuel : Nat}
    (hvalues : SpellsValues fuel)
    (hmembers : SpellsMembers fuel) :
    SpellsMembers (fuel + 1) := by
  intro depth cursor done value after hread
  unfold readMembers at hread
  split at hread
  · next rest hrest =>
      split at hread
      · cases hread
      · next name named hscan =>
          obtain ⟨raw, hraw, hname⟩ := exists_content_of_scanString hscan
          obtain ⟨before, hbefore, hnamed⟩ := named.exists_spaces_of_skip
          simp only at hread
          split at hread
          · next hcolon =>
              obtain ⟨space, hspace, hvalue⟩ := (named.skip.advance 1).exists_spaces_of_skip
              split at hread
              · cases hread
              · next found behind hfound =>
                  obtain ⟨text, parts, hsplit, hspelled⟩ := hvalues _ _ _ _ hfound
                  obtain ⟨trail, htrail, hskip⟩ := behind.exists_spaces_of_skip
                  have hmember : Spells (.one (.ofPair (name, found))) _ parts :=
                    .member hname hbefore hspace hspelled
                  have hpassed : cursor.rest =
                      ('"' :: (raw ++ '"' :: (before ++ ':' :: (space ++ text)))) ++
                        (trail ++ behind.skip.rest) := by
                    rw [hrest, hraw, hnamed, Cursor.rest_advance_one hcolon, hvalue, hsplit, hskip]
                    simp only [List.cons_append, List.append_assoc]
                  split at hread
                  · next hclose =>
                      cases hread
                      refine ⟨[(name, found)], by rw [List.reverse_cons],
                        spellsUpTo_last hmember htrail ?_⟩
                      rw [hpassed, Cursor.rest_advance_one hclose]
                  · next hcomma =>
                      obtain ⟨pairs, rfl, hmore⟩ := hmembers _ _ _ _ _ hread
                      obtain ⟨lead, hlead, hbehind⟩ :=
                        (behind.skip.advance 1).exists_spaces_of_skip
                      refine ⟨(name, found) :: pairs,
                        by rw [List.reverse_cons, List.append_assoc]; rfl,
                        hmore.more hlead hmember htrail ?_⟩
                      rw [hpassed, Cursor.rest_advance_one hcomma, hbehind]
                  · cases hread
          · cases hread
  · cases hread

/-- Whatever is read is written by the text that was passed over. -/
theorem spells_of_read
    (fuel : Nat) :
    SpellsValues fuel ∧ SpellsItems fuel ∧ SpellsMembers fuel := by
  induction fuel with
  | zero =>
      refine ⟨fun _ _ _ _ hread => ?_, fun _ _ _ _ _ hread => ?_, fun _ _ _ _ _ hread => ?_⟩
      · cases hread
      · cases hread
      · cases hread
  | succ fuel ih =>
      obtain ⟨hvalues, hitems, hmembers⟩ := ih
      exact ⟨spellsValues_succ hitems hmembers, spellsItems_succ hvalues hitems,
        spellsMembers_succ hvalues hmembers⟩

/-- How a whole text writes a value: spaces, the value with its parts, and spaces. -/
structure Spelling (text : List Char) (value : Json) where
  lead : List Char
  written : List Char
  trail : List Char
  parts : List Part
  lead_isSpaces : IsSpaces lead
  trail_isSpaces : IsSpaces trail
  text_eq : text = lead ++ (written ++ trail)
  spells : Spells (.one (.item value)) written parts

/-- Every text that is decoded is spelled by its value. -/
theorem exists_spelling_of_decode
    {text : String} {value : Json}
    (hdecode : decode text = .ok value) :
    Nonempty (Spelling text.toList value) := by
  unfold decode decodeChars at hdecode
  split at hdecode
  · cases hdecode
  · split at hdecode
    · cases hdecode
    · next found behind hread =>
        simp only at hdecode
        split at hdecode
        · next hend =>
            cases hdecode
            obtain ⟨lead, hlead, hfirst⟩ := exists_spaces_of_skipFrom text.toList 0
            obtain ⟨written, parts, hsplit, hspelled⟩ := (spells_of_read _).1 _ _ _ _ hread
            obtain ⟨trail, htrail, hskip⟩ := behind.exists_spaces_of_skip
            rw [List.isEmpty_iff.mp hend, List.append_nil] at hskip
            exact ⟨lead, written, trail, parts, hlead, htrail, by rw [hfirst, hsplit, hskip],
              hspelled⟩
        · cases hdecode

/-! ## The parts of a text -/

/-- The parts of a text are written within it. -/
theorem Spells.infix_of_mem
    {phrase : Phrase} {text : List Char} {parts : List Part} {part : Part}
    (hspells : Spells phrase text parts)
    (hpart : part ∈ parts) :
    part.text <:+: text := by
  induction hspells with
  | scalar | string | emptyArray | emptyObject =>
      exact List.mem_singleton.mp hpart ▸ List.infix_refl _
  | array _ ih =>
      rcases List.mem_cons.mp hpart with rfl | hinner
      · exact List.infix_refl _
      · exact (ih hinner).trans ⟨['['], [']'], rfl⟩
  | object _ ih =>
      rcases List.mem_cons.mp hpart with rfl | hinner
      · exact List.infix_refl _
      · exact (ih hinner).trans ⟨['\x7b'], ['\x7d'], rfl⟩
  | @member raw before after text _ _ _ _ _ _ _ ih =>
      exact (ih hpart).trans ⟨'"' :: (raw ++ '"' :: (before ++ ':' :: after)), [], by simp⟩
  | @last lead text trail _ _ _ _ _ ih =>
      exact (ih hpart).trans ⟨lead, trail, List.append_assoc _ _ _⟩
  | @more lead text trail behind _ _ _ _ _ _ _ _ ihEntry ihEntries =>
      rcases List.mem_append.mp hpart with hfirst | hrest
      · exact (ihEntry hfirst).trans ⟨lead, trail ++ ',' :: behind, List.append_assoc _ _ _⟩
      · exact (ihEntries hrest).trans ⟨lead ++ (text ++ (trail ++ [','])), [], by simp⟩

/-- The values of the entries are parts of the text. -/
theorem Spells.exists_mem_of_values
    {phrase : Phrase} {text : List Char} {parts : List Part} {value : Json}
    (hspells : Spells phrase text parts)
    (hvalue : value ∈ phrase.values) :
    ∃ written, ⟨written, value⟩ ∈ parts := by
  induction hspells with
  | scalar | string | emptyArray | array | emptyObject | object =>
      cases List.mem_singleton.mp hvalue
      exact ⟨_, List.mem_cons_self⟩
  | member _ _ _ _ ih => exact ih hvalue
  | last _ _ _ ih => exact ih hvalue
  | more _ _ _ _ ihEntry ihEntries =>
      rcases List.mem_cons.mp hvalue with rfl | hrest
      · obtain ⟨written, hwritten⟩ := ihEntry List.mem_cons_self
        exact ⟨written, List.mem_append_left _ hwritten⟩
      · obtain ⟨written, hwritten⟩ := ihEntries hrest
        exact ⟨written, List.mem_append_right _ hwritten⟩

/-- The members of an object are parts of the text that is decoded to it. -/
theorem Spelling.exists_mem_of_member
    {text : List Char} {members : Members} {name : String} {value : Json}
    (spelling : Spelling text (.object members))
    (hmember : (name, value) ∈ members) :
    ∃ written, ⟨written, value⟩ ∈ spelling.parts := by
  obtain ⟨_, written, _, parts, _, _, _, hspells⟩ := spelling
  cases hspells with
  | scalar hscalar => exact absurd rfl (hscalar.ne_object members)
  | emptyObject => cases hmember
  | @object pairs _ _ hpairs =>
      rcases OrderedMap.exists_mem_of_mem_update hmember with hnone | ⟨pair, hpair, rfl⟩
      · cases hnone
      · have hvalue : pair.2 ∈ (Phrase.several (pairs.map .ofPair)).values :=
          List.mem_map.mpr ⟨.ofPair pair, List.mem_map_of_mem hpair, rfl⟩
        obtain ⟨inner, hinner⟩ := hpairs.exists_mem_of_values hvalue
        exact ⟨inner, List.mem_cons_of_mem _ hinner⟩

end RestartCheck.Json
