import RestartCheck.Json.Decoding

/-!
# The tokens of a text

Between what it decodes, the decoder passes over spaces.  Words and numbers have neither quotes nor
braces, and a string goes on up to the first quote without a backslash in front.

**Results.**
* `IsScalar.plain`, `IsScalar.ne_object`: what words and numbers are not.
* `exists_raw_of_scanString`: where a string ends, and what it holds when it has no escapes.
* `exists_scalar_of_readScalar`, `exists_content_of_scanString`: a token is what was passed over.
-/

namespace RestartCheck.Json

/-! ## Spaces -/

/-- Nothing but white space. -/
def IsSpaces (text : List Char) : Prop :=
  ∀ c ∈ text, isSpace c = true

theorem isSpaces_nil : IsSpaces [] :=
  List.forall_mem_nil _

/-- Passing over white space leaves the text behind it. -/
theorem exists_spaces_of_skipFrom
    (text : List Char)
    (offset : Nat) :
    ∃ space, IsSpaces space ∧ text = space ++ (skipFrom text offset).rest := by
  induction text generalizing offset with
  | nil => exact ⟨[], isSpaces_nil, rfl⟩
  | cons c rest ih =>
      rw [skipFrom]
      split
      · next hspace =>
          obtain ⟨space, hspaces, hrest⟩ := ih (offset + 1)
          exact ⟨c :: space, List.forall_mem_cons.mpr ⟨hspace, hspaces⟩, congrArg (c :: ·) hrest⟩
      · exact ⟨[], isSpaces_nil, rfl⟩

theorem Cursor.exists_spaces_of_skip
    (cursor : Cursor) :
    ∃ space, IsSpaces space ∧ cursor.rest = space ++ cursor.skip.rest :=
  exists_spaces_of_skipFrom cursor.rest cursor.offset

/-! ## Tokens -/

/-- The text is read as a word or a number. -/
def IsScalar
    (text : List Char)
    (value : Json) : Prop :=
  ∃ rest offset ending, readScalar ⟨text ++ rest, offset⟩ = .ok (value, ⟨rest, ending⟩)

/-- The text between two quotes is read as the content of a string. -/
def IsContent
    (raw : List Char)
    (content : String) : Prop :=
  ∃ opening rest offset ending,
    scanString opening (raw ++ '"' :: rest) offset .plain none [] = .ok (content, ⟨rest, ending⟩)

/-- The characters of numbers. -/
def isNumeral (c : Char) : Bool :=
  c.isDigit || c == '-' || c == '+' || c == '.' || c == 'e' || c == 'E'

/-- The number stands in front of the rest of the text. -/
def IsNumeralPrefix (text rest : List Char) : Prop :=
  ∃ front, text = front ++ rest ∧ ∀ c ∈ front, isNumeral c = true

theorem isNumeral_of_mem_takeWhile
    {c : Char} {text : List Char}
    (hmem : c ∈ text.takeWhile Char.isDigit) :
    isNumeral c = true := by
  have hdigit : c.isDigit = true := List.all_eq_true.mp List.all_takeWhile c hmem
  simp [isNumeral, hdigit]

theorem isNumeralPrefix_refl
    (text : List Char) :
    IsNumeralPrefix text text :=
  ⟨[], rfl, List.forall_mem_nil _⟩

theorem IsNumeralPrefix.cons
    {c : Char} {text rest : List Char}
    (hnumeral : isNumeral c = true)
    (hstarts : IsNumeralPrefix text rest) :
    IsNumeralPrefix (c :: text) rest := by
  obtain ⟨front, rfl, hfront⟩ := hstarts
  exact ⟨c :: front, rfl, List.forall_mem_cons.mpr ⟨hnumeral, hfront⟩⟩

theorem IsNumeralPrefix.trans
    {text middle rest : List Char}
    (hfirst : IsNumeralPrefix text middle)
    (hsecond : IsNumeralPrefix middle rest) :
    IsNumeralPrefix text rest := by
  obtain ⟨front, rfl, hfront⟩ := hfirst
  obtain ⟨back, rfl, hback⟩ := hsecond
  exact ⟨front ++ back, (List.append_assoc _ _ _).symm,
    List.forall_mem_append.mpr ⟨hfront, hback⟩⟩

theorem isNumeralPrefix_dropWhile
    (text : List Char) :
    IsNumeralPrefix text (text.dropWhile Char.isDigit) :=
  ⟨text.takeWhile Char.isDigit, List.takeWhile_append_dropWhile.symm, fun _ =>
    isNumeral_of_mem_takeWhile⟩

theorem isNumeralPrefix_fractionPart
    (text : List Char) :
    IsNumeralPrefix text (fractionPart text).2 := by
  unfold fractionPart
  split
  · simp only
    split
    · exact isNumeralPrefix_refl _
    · exact (isNumeralPrefix_dropWhile _).cons (by decide)
  · exact isNumeralPrefix_refl _

theorem isNumeralPrefix_exponentPart
    (text : List Char) :
    IsNumeralPrefix text (exponentPart text).2 := by
  unfold exponentPart
  split
  · next mark after =>
      split
      · next hmark =>
          have hmark' : isNumeral mark = true := by
            rcases hmark with rfl | rfl
            · decide
            · decide
          split
          next negative body hsign =>
          have hbody : IsNumeralPrefix after body := by
            split at hsign
            · cases hsign
              exact (isNumeralPrefix_refl _).cons (by decide)
            · cases hsign
              exact (isNumeralPrefix_refl _).cons (by decide)
            · cases hsign
              exact isNumeralPrefix_refl _
          simp only
          split
          · exact isNumeralPrefix_refl _
          · exact (hbody.trans (isNumeralPrefix_dropWhile _)).cons hmark'
      · exact isNumeralPrefix_refl _
  · exact isNumeralPrefix_refl _

/-- A number is written with the characters of numbers, and it is not empty. -/
theorem exists_numeral_of_numberText
    {text : List Char} {number : NumberText}
    (hnumber : numberText? text = some number) :
    ∃ front, front ≠ [] ∧ text = front ++ number.rest ∧ ∀ c ∈ front, isNumeral c = true := by
  unfold numberText? at hnumber
  split at hnumber
  next negative unsigned hsign =>
  extract_lets whole at hnumber
  have hwhole : (∀ c ∈ whole, isNumeral c = true) ∧
      unsigned = whole ++ unsigned.drop whole.length := by
    simp only [whole]
    split
    · exact ⟨List.forall_mem_singleton.mpr rfl, rfl⟩
    · refine ⟨fun _ => isNumeral_of_mem_takeWhile, ?_⟩
      have hfirst := List.takeWhile_prefix Char.isDigit (l := unsigned)
      exact (List.prefix_iff_eq_append.mp hfirst).symm
  have htext : IsNumeralPrefix text unsigned := by
    split at hsign
    · cases hsign
      exact (isNumeralPrefix_refl _).cons (by decide)
    · cases hsign
      exact isNumeralPrefix_refl _
  split at hnumber
  · cases hnumber
  · next hnonempty =>
      obtain ⟨hdigits, hunsigned⟩ := hwhole
      obtain ⟨sign, rfl, hsigned⟩ := htext
      obtain ⟨back, hback, hbehind⟩ :=
        (isNumeralPrefix_fractionPart (unsigned.drop whole.length)).trans
          (isNumeralPrefix_exponentPart _)
      have hrest : (exponentPart (fractionPart (unsigned.drop whole.length)).2).2 = number.rest :=
        congrArg NumberText.rest (Option.some.inj hnumber)
      refine ⟨sign ++ (whole ++ back), fun hnil => hnonempty ?_, ?_, ?_⟩
      · rw [List.isEmpty_iff]
        exact (List.append_eq_nil_iff.mp (List.append_eq_nil_iff.mp hnil).2).1
      · rw [List.append_assoc, List.append_assoc, ← hrest, ← hback, ← hunsigned]
      · exact List.forall_mem_append.mpr ⟨hsigned, List.forall_mem_append.mpr ⟨hdigits, hbehind⟩⟩

/-- What was passed over to get to the rest is the text in front of the rest. -/
theorem eq_of_advance
    {front behind text rest : List Char}
    (hsplit : text ++ rest = front ++ behind)
    (hrest : (text ++ rest).drop front.length = rest) :
    text = front := by
  rw [hsplit, List.drop_left] at hrest
  rw [hrest] at hsplit
  exact List.append_cancel_right hsplit

/-- A scalar is a word or a number. -/
theorem word_or_number_of_readScalar
    {cursor after : Cursor} {value : Json}
    (hread : readScalar cursor = .ok (value, after)) :
    (∃ word, (word, value) ∈ words ∧ word <+: cursor.rest ∧ after = cursor.advance word.length) ∨
      ∃ number,
        numberText? cursor.rest = some number ∧
        number.value = .ok value ∧
        after = cursor.advance (cursor.rest.length - number.rest.length) := by
  unfold readScalar at hread
  split at hread
  · next word found hword =>
      cases hread
      have hfound : word.isPrefixOf cursor.rest = true :=
        List.find?_some (p := fun word : List Char × Json => word.1.isPrefixOf cursor.rest) hword
      refine Or.inl ⟨word, List.mem_of_find?_eq_some hword, ?_, rfl⟩
      exact List.isPrefixOf_iff_prefix.mp hfound
  · unfold readNumber at hread
    split at hread
    · cases hread
    · next number hnumber =>
        cases hvalue : number.value with
        | error fault =>
            rw [hvalue] at hread
            cases hread
        | ok found =>
            rw [hvalue] at hread
            cases hread
            exact Or.inr ⟨number, hnumber, hvalue, rfl⟩

/-- A scalar has no quote and no brace, and it is not empty. -/
theorem IsScalar.plain
    {text : List Char} {value : Json}
    (hscalar : IsScalar text value) :
    text ≠ [] ∧ '"' ∉ text ∧ '\x7b' ∉ text := by
  obtain ⟨rest, offset, ending, hread⟩ := hscalar
  rcases word_or_number_of_readScalar hread with
    ⟨word, hword, ⟨behind, hbehind⟩, hafter⟩ | ⟨number, hnumber, _, hafter⟩
  · have hplain : ∀ word ∈ words.map Prod.fst, word ≠ [] ∧ '"' ∉ word ∧ '\x7b' ∉ word := by
      decide
    rw [eq_of_advance hbehind.symm (congrArg Cursor.rest hafter).symm]
    exact hplain word (List.mem_map_of_mem hword)
  · obtain ⟨front, hnonempty, hfront, hnumeral⟩ := exists_numeral_of_numberText hnumber
    change text ++ rest = front ++ number.rest at hfront
    have hcount : (text ++ rest).length - number.rest.length = front.length := by
      rw [hfront, List.length_append, Nat.add_sub_cancel]
    have hrest := congrArg Cursor.rest hafter
    rw [eq_of_advance hfront (hcount ▸ hrest.symm)]
    exact ⟨hnonempty, fun hquote => absurd (hnumeral _ hquote) (by decide),
      fun hbrace => absurd (hnumeral _ hbrace) (by decide)⟩

theorem IsScalar.ne_object
    {text : List Char} {value : Json}
    (hscalar : IsScalar text value)
    (members : Members) :
    value ≠ .object members := by
  rintro rfl
  obtain ⟨rest, offset, ending, hread⟩ := hscalar
  rcases word_or_number_of_readScalar hread with ⟨word, hword, _⟩ | ⟨number, _, hvalue, _⟩
  · have hwords : ∀ word ∈ words, word.2.isObject = false := by
      decide
    cases hwords _ hword
  · unfold NumberText.value at hvalue
    split at hvalue
    · split at hvalue
      · cases hvalue
      · cases hvalue
    · cases hvalue

theorem exists_scalar_of_readScalar
    {cursor after : Cursor} {value : Json}
    (hread : readScalar cursor = .ok (value, after)) :
    ∃ text, cursor.rest = text ++ after.rest ∧ IsScalar text value := by
  have hafter : ∃ count, after = cursor.advance count := by
    rcases word_or_number_of_readScalar hread with ⟨_, _, _, hafter⟩ | ⟨_, _, _, hafter⟩
    · exact ⟨_, hafter⟩
    · exact ⟨_, hafter⟩
  obtain ⟨count, rfl⟩ := hafter
  have hsplit := List.take_append_drop count cursor.rest
  refine ⟨cursor.rest.take count, hsplit.symm, cursor.rest.drop count, cursor.offset,
    cursor.offset + count, ?_⟩
  rw [hsplit]
  exact hread

/-- The content of a string as it stands between the quotes: a quote in it has a backslash in front,
and so has a backslash. -/
inductive IsRaw : List Char → Prop
  | nil : IsRaw []
  | plain
      {c : Char} {raw : List Char}
      (hquote : c ≠ '"')
      (hbackslash : c ≠ '\\')
      (hraw : IsRaw raw) :
      IsRaw (c :: raw)
  | escape
      {c : Char} {raw : List Char}
      (hraw : IsRaw raw) :
      IsRaw ('\\' :: c :: raw)

/-- What was passed over and still counts: a backslash belongs to the character behind it. -/
def StringMode.pending : StringMode → List Char
  | .escape => ['\\']
  | _ => []

theorem plain_of_hexValue
    {c : Char} {digit : Nat}
    (hdigit : hexValue? c = some digit) :
    c ≠ '"' ∧ c ≠ '\\' := by
  constructor
  · rintro rfl
    cases hdigit
  · rintro rfl
    cases hdigit

/-- The string machine stops at the quote that ends the string.  Without a backslash the content is
what stands between the quotes. -/
theorem exists_raw_of_scanString
    {opening offset : Nat} {text done : List Char} {mode : StringMode} {high : Option Nat}
    {content : String} {after : Cursor}
    (hscan : scanString opening text offset mode high done = .ok (content, after)) :
    ∃ raw,
      text = raw ++ '"' :: after.rest ∧
      IsRaw (mode.pending ++ raw) ∧
      (mode = .plain → high = none → '\\' ∉ raw →
        content = String.ofList (done.reverse ++ raw)) := by
  -- The content is known only while no escape was met, so only the plain mode tells it.
  fun_induction scanString opening text offset mode high done with
  | case1 => cases hscan
  | case2 => cases hscan
  | case3 rest offset high done =>
      cases hscan
      refine ⟨[], rfl, .nil, ?_⟩
      rintro - rfl -
      rw [List.append_nil]
      rfl
  | case4 rest offset high done _ ih =>
      obtain ⟨raw, rfl, hraw, _⟩ := ih hscan
      exact ⟨'\\' :: raw, rfl, hraw, fun _ _ hplain => absurd List.mem_cons_self hplain⟩
  | case5 => cases hscan
  | case6 c rest offset high done hquote hbackslash _ ih =>
      obtain ⟨raw, rfl, hraw, hcontent⟩ := ih hscan
      refine ⟨c :: raw, rfl, .plain hquote hbackslash hraw, ?_⟩
      rintro - rfl hplain
      rw [hcontent rfl rfl (List.not_mem_of_not_mem_cons hplain), settle, List.reverse_cons,
        List.append_assoc]
      rfl
  | case7 rest offset high done ih =>
      obtain ⟨raw, rfl, hraw, _⟩ := ih hscan
      exact ⟨'u' :: raw, rfl, .escape hraw, fun hmode => by cases hmode⟩
  | case8 c rest offset high done _ d _ ih =>
      obtain ⟨raw, rfl, hraw, _⟩ := ih hscan
      exact ⟨c :: raw, rfl, .escape hraw, fun hmode => by cases hmode⟩
  | case9 => cases hscan
  | case10 => cases hscan
  | case11 c rest offset mark count value high done digit hdigit code _ ih =>
      obtain ⟨raw, rfl, hraw, _⟩ := ih hscan
      obtain ⟨hquote, hbackslash⟩ := plain_of_hexValue hdigit
      exact ⟨c :: raw, rfl, .plain hquote hbackslash hraw, fun hmode => by cases hmode⟩
  | case12 => cases hscan
  | case13 c rest offset mark count value high done digit hdigit code _ _ high' done' _ ih =>
      obtain ⟨raw, rfl, hraw, _⟩ := ih hscan
      obtain ⟨hquote, hbackslash⟩ := plain_of_hexValue hdigit
      exact ⟨c :: raw, rfl, .plain hquote hbackslash hraw, fun hmode => by cases hmode⟩

/-- A string is read up to its end. -/
theorem exists_content_of_scanString
    {opening offset : Nat} {text : List Char} {content : String} {after : Cursor}
    (hscan : scanString opening text offset .plain none [] = .ok (content, after)) :
    ∃ raw, text = raw ++ '"' :: after.rest ∧ IsContent raw content := by
  obtain ⟨raw, rfl, _⟩ := exists_raw_of_scanString hscan
  exact ⟨raw, rfl, opening, after.rest, offset, after.offset, hscan⟩

theorem IsContent.isRaw
    {raw : List Char} {content : String}
    (hcontent : IsContent raw content) :
    IsRaw raw ∧ ('\\' ∉ raw → content = String.ofList raw) := by
  obtain ⟨opening, rest, offset, ending, hscan⟩ := hcontent
  obtain ⟨raw', hsplit, hraw, hplain⟩ := exists_raw_of_scanString hscan
  cases List.append_cancel_right hsplit
  exact ⟨hraw, hplain rfl rfl⟩

end RestartCheck.Json
