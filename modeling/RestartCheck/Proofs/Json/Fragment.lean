import RestartCheck.Proofs.Json.Spelling

/-!
# Searching a text for an object

An object with one member, written without spaces, is looked for in a text as a sequence of
characters.  Strings may hold any characters, so it has to be shown that no such place lies in a
string or reaches over the end of one.

**Approach.**  A place begins somewhere in the text, and the grammar decides which stretch that is.
Only a brace can begin the object.  In a string the quote that follows the brace ends the string,
and what may follow a string does not begin as the name does.

**Results.**
* `Spells.mem_parts_of_beginsIn`: wherever the object begins in a text, it is a part of the text.
* `Spelling.infix_iff_mem_parts`: the object occurs in a text exactly when it is a part of it.
-/

namespace RestartCheck

namespace Text

/-- A place at which the part stands begins in the first list; the second list follows it. -/
def BeginsIn (part : List Char) : List Char → List Char → Prop
  | [], _ => False
  | c :: text, rest => part <+: c :: (text ++ rest) ∨ BeginsIn part text rest

variable {part text rest : List Char} {c : Char}

theorem beginsIn_append_iff
    {more : List Char} :
    BeginsIn part (text ++ more) rest ↔
      BeginsIn part text (more ++ rest) ∨ BeginsIn part more rest := by
  induction text with
  | nil => exact (iff_of_eq (false_or _)).symm
  | cons c text ih =>
      rw [List.cons_append, BeginsIn, BeginsIn, ih, List.append_assoc, or_assoc]

theorem beginsIn_of_occurs
    (hnonempty : part ≠ [])
    (hoccurs : part <:+: text) :
    BeginsIn part text [] := by
  induction text with
  | nil => exact absurd (List.infix_nil.mp hoccurs) hnonempty
  | cons c text ih =>
      rw [BeginsIn, List.append_nil]
      exact (List.infix_cons_iff.mp hoccurs).imp_right ih

/-- A part begins with its first character. -/
theorem not_beginsIn_of_notMem
    {more : List Char}
    (hnone : c ∉ text) :
    ¬BeginsIn (c :: more) text rest := by
  induction text with
  | nil => exact id
  | cons d text ih =>
      rintro (hstarts | hbehind)
      · exact hnone ((List.cons_prefix_cons.mp hstarts).1 ▸ List.mem_cons_self)
      · exact ih (fun hmem => hnone (List.mem_cons_of_mem _ hmem)) hbehind

theorem beginsIn_cons_iff_of_ne
    {d : Char} {more : List Char}
    (hne : d ≠ c) :
    BeginsIn (c :: more) (d :: text) rest ↔ BeginsIn (c :: more) text rest :=
  or_iff_right fun hstarts => hne (List.cons_prefix_cons.mp hstarts).1.symm

theorem beginsIn_append_iff_of_notMem
    {front more : List Char}
    (hnone : c ∉ front) :
    BeginsIn (c :: more) (front ++ text) rest ↔ BeginsIn (c :: more) text rest := by
  rw [beginsIn_append_iff]
  exact or_iff_right (not_beginsIn_of_notMem hnone)

end Text

namespace Json

open Text

/-! ## What may follow -/

/-- The characters that can stand behind a string. -/
def delimiters : List Char :=
  [' ', '\t', '\n', '\r', ':', ',', ']', '\x7d']

theorem mem_delimiters_of_isSpace
    {c : Char}
    (hspace : isSpace c = true) :
    c ∈ delimiters := by
  simp only [isSpace, Bool.or_eq_true, decide_eq_true_eq] at hspace
  rcases hspace with ((rfl | rfl) | rfl) | rfl <;> decide

theorem IsSpaces.brace_notMem
    {space : List Char}
    (hspace : IsSpaces space) :
    '\x7b' ∉ space :=
  fun hbrace => absurd (hspace _ hbrace) (by decide)

theorem head?_ne_of_mem
    {first delimiter : Char}
    (hfirst : first ∉ delimiters)
    (hdelimiter : delimiter ∈ delimiters)
    (rest : List Char) :
    (delimiter :: rest).head? ≠ some first := by
  intro hhead
  cases hhead
  exact hfirst hdelimiter

/-- Spaces keep a text from beginning as a name does. -/
theorem head?_ne_of_isSpaces
    {first : Char} {space rest : List Char}
    (hfirst : first ∉ delimiters)
    (hspace : IsSpaces space)
    (hrest : rest.head? ≠ some first) :
    (space ++ rest).head? ≠ some first := by
  cases space with
  | nil => exact hrest
  | cons c space =>
      exact head?_ne_of_mem hfirst (mem_delimiters_of_isSpace (hspace c List.mem_cons_self)) _

/-- A text that begins with a mark has no spaces in front. -/
theorem eq_nil_of_starts
    {c : Char} {more space rest : List Char}
    (hmark : isSpace c = false)
    (hspace : IsSpaces space)
    (hstarts : c :: more <+: space ++ rest) :
    space = [] := by
  cases space with
  | nil => rfl
  | cons d space =>
      obtain ⟨rfl, _⟩ := List.cons_prefix_cons.mp hstarts
      rw [hspace c List.mem_cons_self] at hmark
      cases hmark

/-! ## Strings -/

/-- The text needs no escape. -/
def IsLiteral (text : List Char) : Prop :=
  '"' ∉ text ∧ '\\' ∉ text

/-- A string that begins with a text without escapes and the closing quote is this text. -/
theorem IsRaw.eq_of_starts
    {raw literal more rest : List Char}
    (hraw : IsRaw raw)
    (hliteral : IsLiteral literal)
    (hstarts : literal ++ '"' :: more <+: raw ++ '"' :: rest) :
    raw = literal ∧ more <+: rest := by
  induction literal generalizing raw with
  | nil =>
      cases hraw with
      | nil => exact ⟨rfl, (List.cons_prefix_cons.mp hstarts).2⟩
      | plain hquote => exact absurd (List.cons_prefix_cons.mp hstarts).1.symm hquote
      | escape => exact absurd (List.cons_prefix_cons.mp hstarts).1 (by decide)
  | cons c literal ih =>
      obtain ⟨hquote, hbackslash⟩ := hliteral
      cases hraw with
      | nil =>
          exact absurd ((List.cons_prefix_cons.mp hstarts).1 ▸ List.mem_cons_self) hquote
      | plain _ _ hraw =>
          obtain ⟨rfl, hbehind⟩ := List.cons_prefix_cons.mp hstarts
          obtain ⟨rfl, hmore⟩ := ih hraw
            ⟨List.not_mem_of_not_mem_cons hquote, List.not_mem_of_not_mem_cons hbackslash⟩ hbehind
          exact ⟨rfl, hmore⟩
      | escape =>
          exact absurd ((List.cons_prefix_cons.mp hstarts).1 ▸ List.mem_cons_self) hbackslash

theorem IsContent.eq_of_starts
    {raw literal more rest : List Char} {content : String}
    (hcontent : IsContent raw content)
    (hliteral : IsLiteral literal)
    (hstarts : literal ++ '"' :: more <+: raw ++ '"' :: rest) :
    raw = literal ∧ content = String.ofList literal ∧ more <+: rest := by
  obtain ⟨hraw, hplain⟩ := hcontent.isRaw
  obtain ⟨rfl, hmore⟩ := hraw.eq_of_starts hliteral hstarts
  exact ⟨rfl, hplain hliteral.2, hmore⟩

/-- A quote within a string ends it, so a text with a quote in second place can only reach over the
end. -/
theorem IsRaw.head?_of_quote
    {raw more rest : List Char} {first : Char}
    (hraw : IsRaw raw)
    (hstarts : '"' :: first :: more <+: raw ++ '"' :: rest) :
    rest.head? = some first := by
  cases hraw with
  | nil =>
      obtain ⟨behind, rfl⟩ := (List.cons_prefix_cons.mp hstarts).2
      rfl
  | plain hquote => exact absurd (List.cons_prefix_cons.mp hstarts).1.symm hquote
  | escape => exact absurd (List.cons_prefix_cons.mp hstarts).1 (by decide)

theorem IsRaw.not_beginsIn
    {raw more rest : List Char} {first : Char}
    (hraw : IsRaw raw)
    (hrest : rest.head? ≠ some first) :
    ¬BeginsIn ('\x7b' :: '"' :: first :: more) (raw ++ ['"']) rest := by
  induction hraw with
  | nil =>
      rintro (hstarts | hnone)
      · exact absurd (List.cons_prefix_cons.mp hstarts).1 (by decide)
      · exact hnone
  | plain _ _ hraw ih =>
      rw [List.cons_append, BeginsIn, List.append_assoc]
      rintro (hstarts | hbehind)
      · exact hrest (hraw.head?_of_quote (List.cons_prefix_cons.mp hstarts).2)
      · exact ih hbehind
  | escape hraw ih =>
      rw [List.cons_append, List.cons_append, BeginsIn, BeginsIn, List.append_assoc]
      rintro (hstarts | hstarts | hbehind)
      · exact absurd (List.cons_prefix_cons.mp hstarts).1 (by decide)
      · exact hrest (hraw.head?_of_quote (List.cons_prefix_cons.mp hstarts).2)
      · exact ih hbehind

/-! ## The object -/

section Search

variable {first : Char} {more content : List Char}

/-- A string without escapes. -/
def plainString (content : List Char) : List Char :=
  '"' :: (content ++ ['"'])

/-- An object with one member that is a string, without spaces and escapes. -/
def plainObject (name content : List Char) : List Char :=
  '\x7b' :: (plainString name ++ ':' :: (plainString content ++ ['\x7d']))

/-- The object that this text writes. -/
def plainValue (name content : List Char) : Json :=
  .object [(String.ofList name, .string (String.ofList content))]

/-- A value that begins with a string is the string. -/
theorem Spells.eq_of_starts_plainString
    {value : Json} {text rest behind : List Char} {parts : List Part}
    (hspells : Spells (.one (.item value)) text parts)
    (hcontent : IsLiteral content)
    (hstarts : plainString content ++ behind <+: text ++ rest) :
    text = plainString content ∧
      value = .string (String.ofList content) ∧
      behind <+: rest := by
  cases hspells with
  | scalar hscalar =>
      obtain ⟨hnonempty, hquote, _⟩ := hscalar.plain
      cases text with
      | nil => exact absurd rfl hnonempty
      | cons c text =>
          obtain ⟨rfl, _⟩ := List.cons_prefix_cons.mp hstarts
          exact absurd List.mem_cons_self hquote
  | @string raw read hread =>
      have hinner : content ++ '"' :: behind <+: raw ++ '"' :: rest := by
        simpa [plainString] using hstarts
      obtain ⟨rfl, rfl, hbehind⟩ := hread.eq_of_starts hcontent hinner
      exact ⟨rfl, rfl, hbehind⟩
  | emptyArray | array | emptyObject | object =>
      exact absurd (List.cons_prefix_cons.mp hstarts).1 (by decide)

/-- A member that begins with a member without spaces and escapes is this member. -/
theorem Spells.eq_of_starts_member
    {name text rest behind : List Char} {parts : List Part} {pair : String × Json}
    (hspells : Spells (.one (.ofPair pair)) text parts)
    (hname : IsLiteral name)
    (hcontent : IsLiteral content)
    (hstarts : plainString name ++ ':' :: (plainString content ++ behind) <+: text ++ rest) :
    text = plainString name ++ ':' :: plainString content ∧
      pair = (String.ofList name, .string (String.ofList content)) ∧
      behind <+: rest := by
  obtain ⟨found, value⟩ := pair
  cases hspells with
  | @member raw before after spelled _ _ _ hread hbefore hafter hvalue =>
      have hinner : name ++ '"' :: ':' :: (plainString content ++ behind) <+:
          raw ++ '"' :: (before ++ ':' :: (after ++ (spelled ++ rest))) := by
        simpa [plainString] using hstarts
      obtain ⟨rfl, rfl, hcolon⟩ := hread.eq_of_starts hname hinner
      cases eq_nil_of_starts (by decide) hbefore hcolon
      have hspaced := (List.cons_prefix_cons.mp hcolon).2
      cases eq_nil_of_starts (by decide) hafter hspaced
      obtain ⟨rfl, rfl, hbehind⟩ := hvalue.eq_of_starts_plainString hcontent hspaced
      refine ⟨?_, rfl, hbehind⟩
      simp [plainString]

/-- Members that begin with the member and the closing brace are this member alone. -/
theorem Spells.eq_of_starts_members
    {name text rest : List Char} {parts : List Part} {pairs : List (String × Json)}
    (hspells : Spells (.several (pairs.map .ofPair)) text parts)
    (hname : IsLiteral name)
    (hcontent : IsLiteral content)
    (hstarts : plainString name ++ ':' :: (plainString content ++ ['\x7d']) <+:
      text ++ '\x7d' :: rest) :
    text = plainString name ++ ':' :: plainString content ∧
      pairs = [(String.ofList name, .string (String.ofList content))] := by
  generalize hentries : pairs.map Entry.ofPair = entries at hspells
  cases hspells with
  | @last lead spelled trail _ _ hlead htrail hentry =>
      obtain ⟨pair, rfl, rfl⟩ := List.map_eq_singleton_iff.mp hentries
      rw [List.append_assoc, List.append_assoc] at hstarts
      cases eq_nil_of_starts (by decide) hlead hstarts
      obtain ⟨rfl, rfl, hclose⟩ := hentry.eq_of_starts_member hname hcontent hstarts
      cases eq_nil_of_starts (by decide) htrail hclose
      exact ⟨List.append_nil _, rfl⟩
  | @more lead spelled trail _ _ _ _ _ hlead htrail hentry =>
      obtain ⟨pair, others, rfl, rfl, _⟩ := List.map_eq_cons_iff.mp hentries
      rw [List.append_assoc, List.append_assoc, List.append_assoc] at hstarts
      cases eq_nil_of_starts (by decide) hlead hstarts
      obtain ⟨_, _, hclose⟩ := hentry.eq_of_starts_member hname hcontent hstarts
      cases eq_nil_of_starts (by decide) htrail hclose
      exact absurd (List.cons_prefix_cons.mp hclose).1 (by decide)

/-- Wherever the object begins in a text, it is a part of the text. -/
theorem Spells.mem_parts_of_beginsIn
    {phrase : Phrase} {text rest : List Char} {parts : List Part}
    (hspells : Spells phrase text parts)
    (hfirst : first ∉ delimiters)
    (hname : IsLiteral (first :: more))
    (hcontent : IsLiteral content)
    (hrest : rest.head? ≠ some first)
    (hbegins : BeginsIn (plainObject (first :: more) content) text rest) :
    ⟨plainObject (first :: more) content, plainValue (first :: more) content⟩ ∈ parts := by
  unfold plainObject at hbegins
  -- What follows the phrase varies in the induction, but it never begins as the name does.
  induction hspells generalizing rest with
  | scalar hscalar => exact absurd hbegins (not_beginsIn_of_notMem hscalar.plain.2.2)
  | string hread =>
      rw [beginsIn_cons_iff_of_ne (by decide)] at hbegins
      exact absurd hbegins (hread.isRaw.1.not_beginsIn hrest)
  | emptyArray hspace =>
      rw [beginsIn_cons_iff_of_ne (by decide),
        beginsIn_append_iff_of_notMem hspace.brace_notMem] at hbegins
      exact absurd hbegins (not_beginsIn_of_notMem (by decide))
  | array _ ih =>
      rw [beginsIn_cons_iff_of_ne (by decide), beginsIn_append_iff] at hbegins
      rcases hbegins with hitems | hclose
      · exact List.mem_cons_of_mem _ (ih (head?_ne_of_mem hfirst (by decide) _) hitems)
      · exact absurd hclose (not_beginsIn_of_notMem (by decide))
  | @emptyObject space hspace =>
      rcases hbegins with hstarts | hinner
      · have hopen := (List.cons_prefix_cons.mp hstarts).2
        rw [List.append_assoc] at hopen
        cases eq_nil_of_starts (by decide) hspace hopen
        exact absurd (List.cons_prefix_cons.mp hopen).1 (by decide)
      · rw [beginsIn_append_iff_of_notMem hspace.brace_notMem] at hinner
        exact absurd hinner (not_beginsIn_of_notMem (by decide))
  | object hpairs ih =>
      rcases hbegins with hstarts | hinner
      · have hopen := (List.cons_prefix_cons.mp hstarts).2
        rw [List.append_assoc] at hopen
        obtain ⟨rfl, rfl⟩ := hpairs.eq_of_starts_members hname hcontent hopen
        refine List.mem_cons.mpr (Or.inl ?_)
        rw [plainObject, plainValue, List.append_assoc]
        rfl
      · rw [beginsIn_append_iff] at hinner
        rcases hinner with hmembers | hclose
        · exact List.mem_cons_of_mem _ (ih (head?_ne_of_mem hfirst (by decide) _) hmembers)
        · exact absurd hclose (not_beginsIn_of_notMem (by decide))
  | @member raw _ _ _ _ _ _ hread hbefore hafter _ ih =>
      rw [beginsIn_cons_iff_of_ne (by decide), List.append_cons raw, beginsIn_append_iff] at hbegins
      rcases hbegins with hinName | hvalue
      · refine absurd hinName (hread.isRaw.1.not_beginsIn ?_)
        rw [List.append_assoc]
        exact head?_ne_of_isSpaces hfirst hbefore (head?_ne_of_mem hfirst (by decide) _)
      · rw [beginsIn_append_iff_of_notMem hbefore.brace_notMem, beginsIn_cons_iff_of_ne (by decide),
          beginsIn_append_iff_of_notMem hafter.brace_notMem] at hvalue
        exact ih hrest hvalue
  | last hlead htrail _ ih =>
      rw [beginsIn_append_iff_of_notMem hlead.brace_notMem, beginsIn_append_iff] at hbegins
      rcases hbegins with hentry | hspaces
      · exact ih (head?_ne_of_isSpaces hfirst htrail hrest) hentry
      · exact absurd hspaces (not_beginsIn_of_notMem htrail.brace_notMem)
  | more hlead htrail _ _ ihEntry ihEntries =>
      rw [beginsIn_append_iff_of_notMem hlead.brace_notMem, beginsIn_append_iff] at hbegins
      rcases hbegins with hentry | hbehind
      · rw [List.append_assoc] at hentry
        exact List.mem_append_left _ (ihEntry
          (head?_ne_of_isSpaces hfirst htrail (head?_ne_of_mem hfirst (by decide) _)) hentry)
      · rw [beginsIn_append_iff_of_notMem htrail.brace_notMem,
          beginsIn_cons_iff_of_ne (by decide)] at hbehind
        exact List.mem_append_right _ (ihEntries hrest hbehind)

/-- The object occurs in a text exactly when it is a part of it. -/
theorem Spelling.infix_iff_mem_parts
    {text : List Char} {value : Json}
    (spelling : Spelling text value)
    (hfirst : first ∉ delimiters)
    (hname : IsLiteral (first :: more))
    (hcontent : IsLiteral content) :
    plainObject (first :: more) content <:+: text ↔
      ⟨plainObject (first :: more) content, plainValue (first :: more) content⟩ ∈
        spelling.parts := by
  obtain ⟨lead, written, trail, parts, hlead, htrail, rfl, hspells⟩ := spelling
  constructor
  · intro hoccurs
    have hbegins := beginsIn_of_occurs (List.cons_ne_nil _ _) hoccurs
    rw [beginsIn_append_iff_of_notMem hlead.brace_notMem, beginsIn_append_iff] at hbegins
    rcases hbegins with hwritten | hspaces
    · refine hspells.mem_parts_of_beginsIn hfirst hname hcontent ?_ hwritten
      exact head?_ne_of_isSpaces hfirst htrail (Option.some_ne_none first).symm
    · exact absurd hspaces (not_beginsIn_of_notMem htrail.brace_notMem)
  · intro hpart
    exact (hspells.infix_of_mem hpart).trans ⟨lead, trail, List.append_assoc _ _ _⟩

end Search

end Json
end RestartCheck
