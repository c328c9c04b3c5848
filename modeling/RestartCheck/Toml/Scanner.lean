import RestartCheck.Json.Decoding

/-!
# Words of a settings document

The smallest parts of a TOML 1.0 document: blanks, comments, keys and strings.  Each reader takes
the characters that remain and hands back what it read together with the characters after it.  Line
ends are single line feeds by the time the readers run.

**Algorithm.**  A string in double quotes is read by a machine with one step per character, like the
strings of JSON.  A line continuation is a backslash at the end of a line: it removes the line end
and all white space that follows.

**Results.**
* `readBare_eq`: a bare key is the longest run of key characters.
* `Key.parent_append_stem`: a key consists of the parts before the last and the last part.
-/

namespace RestartCheck.Toml

/-- Why a document is not read. -/
inductive Fault
  /-- The text does not follow the grammar. -/
  | malformed
  /-- A key or a table is defined twice, or in two ways that exclude each other. -/
  | conflict
  /-- A number has too many digits. -/
  | numeral (fault : Decimal.NumeralFault)
deriving DecidableEq, Repr

/-- What was read, and the characters after it. -/
abbrev Reading (α : Type) := Except Fault (α × List Char)

/-- White space inside a line. -/
def isBlank (c : Char) : Bool :=
  c = ' ' || c = '\t'

/-- White space and line ends. -/
def isBlankOrLineEnd (c : Char) : Bool :=
  isBlank c || c = '\n'

/-- Control characters, which may not stand for themselves.  The tab may. -/
def isControl (c : Char) : Bool :=
  (c.toNat < 0x20 && c != '\t') || c.toNat = 0x7f

/-- Characters of keys without quotes. -/
def isKeyChar (c : Char) : Bool :=
  c.isAlphanum || c = '-' || c = '_'

/-- Pass over blanks. -/
def skipBlanks (text : List Char) : List Char :=
  text.dropWhile isBlank

/-- Pass over a comment, up to the end of its line. -/
def skipComment : List Char → Except Fault (List Char)
  | '#' :: rest =>
    let comment := rest.takeWhile (· ≠ '\n')
    if comment.any isControl then .error .malformed else .ok (rest.dropWhile (· ≠ '\n'))
  | text => .ok text

/-- Pass over any number of blanks, line ends and comments.  Every round passes over at least one
character, so that the length of the text bounds the number of rounds. -/
def skipLines : Nat → List Char → Except Fault (List Char)
  | 0, text => .ok text
  | fuel + 1, text =>
    match text.dropWhile isBlankOrLineEnd with
    | '#' :: rest => (skipComment ('#' :: rest)).bind (skipLines fuel)
    | rest => .ok rest

/-- Where the string machine stands. -/
inductive StringMode
  /-- Among plain characters. -/
  | plain
  /-- After a backslash. -/
  | escape
  /-- Inside an escape with some hexadecimal digits still to come. -/
  | digits (left value : Nat)
  /-- After a backslash and a blank: the line must end. -/
  | lineEnd
  /-- After a line continuation. -/
  | continued

/-- The character named by a backslash and one letter. -/
def escapedChar? (c : Char) : Option Char :=
  match c with
  | 'b' => some '\x08'
  | 't' => some '\t'
  | 'n' => some '\n'
  | 'f' => some '\x0c'
  | 'r' => some '\r'
  | '"' => some '"'
  | '\\' => some '\\'
  | _ => none

/-- The character with a code point. -/
def charOfCode? (code : Nat) : Option Char :=
  if h : code.isValidChar then some (Char.ofNatAux code h) else none

/-- What follows a backslash in a string of one line or of several. -/
def escapeMode? (multiline : Bool) (c : Char) : Option StringMode :=
  if c = 'u' then some (.digits 4 0)
  else if c = 'U' then some (.digits 8 0)
  else if multiline && c = '\n' then some .continued
  else if multiline && isBlank c then some .lineEnd
  else none

/-- Read the rest of a string in double quotes.  The characters read so far are in reverse order. -/
def scanBasic (multiline : Bool) : List Char → StringMode → List Char → Reading (List Char)
  | [], _, _ => .error .malformed
  | c :: rest, .escape, done =>
    match escapedChar? c, escapeMode? multiline c with
    | some d, _ => scanBasic multiline rest .plain (d :: done)
    | none, some mode => scanBasic multiline rest mode done
    | none, none => .error .malformed
  | c :: rest, .digits left value, done =>
    match Json.hexValue? c with
    | none => .error .malformed
    | some digit =>
      let code := 16 * value + digit
      if left ≤ 1 then
        match charOfCode? code with
        | some d => scanBasic multiline rest .plain (d :: done)
        | none => .error .malformed
      else scanBasic multiline rest (.digits (left - 1) code) done
  | c :: rest, .lineEnd, done =>
    if isBlank c then scanBasic multiline rest .lineEnd done
    else if c = '\n' then scanBasic multiline rest .continued done
    else .error .malformed
  | c :: rest, mode, done =>
    let skipping :=
      match mode with
      | .continued => isBlankOrLineEnd c
      | _ => false
    if skipping then scanBasic multiline rest .continued done
    else if c = '\\' then scanBasic multiline rest .escape done
    else if c = '"' then
      if !multiline then .ok (done.reverse, rest)
      else
        match rest with
        | '"' :: '"' :: after => .ok (done.reverse, after)
        | _ => scanBasic multiline rest .plain (c :: done)
    else if isControl c && !(multiline && c = '\n') then .error .malformed
    else scanBasic multiline rest .plain (c :: done)

/-- Read the rest of a string in single quotes. -/
def scanLiteral (text : List Char) : Reading (List Char) :=
  match text.dropWhile (· ≠ '\'') with
  | _ :: rest =>
    let content := text.takeWhile (· ≠ '\'')
    if content.any isControl then .error .malformed else .ok (content, rest)
  | [] => .error .malformed

/-- Read the rest of a string of several lines in single quotes. -/
def scanLongLiteral : List Char → List Char → Reading (List Char)
  | '\'' :: '\'' :: '\'' :: rest, done => .ok (done.reverse, rest)
  | c :: rest, done =>
    if isControl c && c ≠ '\n' then .error .malformed else scanLongLiteral rest (c :: done)
  | [], _ => .error .malformed

/-- A line end right after the opening quotes of a long string does not belong to it. -/
def dropLineEnd : List Char → List Char
  | '\n' :: rest => rest
  | text => text

/-- One or two quotes right before the closing quotes of a long string belong to it. -/
def withQuotes (quote : Char) (content rest : List Char) : List Char × List Char :=
  match rest with
  | c :: d :: after =>
    if c = quote then
      if d = quote then (content ++ [quote, quote], after) else (content ++ [quote], d :: after)
    else (content, rest)
  | [c] => if c = quote then (content ++ [quote], []) else (content, rest)
  | [] => (content, rest)

/-- Read the rest of a value that starts with a double quote. -/
def readBasic (rest : List Char) : Reading (List Char) :=
  match rest with
  | '"' :: '"' :: rest =>
    (scanBasic true (dropLineEnd rest) .plain []).map fun (content, rest) =>
      withQuotes '"' content rest
  | _ => scanBasic false rest .plain []

/-- Read the rest of a value that starts with a single quote. -/
def readLiteral (rest : List Char) : Reading (List Char) :=
  match rest with
  | '\'' :: '\'' :: rest =>
    (scanLongLiteral (dropLineEnd rest) []).map fun (content, rest) =>
      withQuotes '\'' content rest
  | _ => scanLiteral rest

/-- Read a key without quotes. -/
def readBare (text : List Char) : Reading (List Char) :=
  let key := text.takeWhile isKeyChar
  if key.isEmpty then .error .malformed else .ok (key, text.dropWhile isKeyChar)

def readKeyPart (text : List Char) : Reading String :=
  let part :=
    match text with
    | '"' :: rest => scanBasic false rest .plain []
    | '\'' :: rest => scanLiteral rest
    | _ => readBare text
  part.map fun (content, rest) => (String.ofList content, rest)

/-- Read the parts of a key after the first, with the blanks around them.  Every part takes a dot
and is bounded by the length of the text. -/
def readKeyRest : Nat → List Char → Except Fault (List String × List Char)
  | 0, text => .ok ([], text)
  | fuel + 1, text =>
    match skipBlanks text with
    | '.' :: rest => do
      let (part, rest) ← readKeyPart (skipBlanks rest)
      let (parts, rest) ← readKeyRest fuel rest
      return (part :: parts, rest)
    | rest => .ok ([], rest)

/-- A key: its first part and the others. -/
structure Key where
  head : String
  tail : List String
deriving DecidableEq, Repr

def Key.path (key : Key) : List String := key.head :: key.tail

def Key.parent (key : Key) : List String := key.path.dropLast

def Key.stem (key : Key) : String := key.tail.getLastD key.head

def readKey (text : List Char) : Except Fault (Key × List Char) := do
  let (head, rest) ← readKeyPart text
  let (tail, rest) ← readKeyRest rest.length rest
  return (⟨head, tail⟩, rest)

theorem readBare_eq {text : List Char} (h : text.takeWhile isKeyChar ≠ []) :
    readBare text = .ok (text.takeWhile isKeyChar, text.dropWhile isKeyChar) := by
  simp [readBare, h]

/-- A key is its parent with its stem. -/
theorem Key.parent_append_stem (key : Key) : key.parent ++ [key.stem] = key.path := by
  obtain ⟨head, tail⟩ := key
  have hlast : tail.getLastD head = (head :: tail).getLast (List.cons_ne_nil head tail) := by
    rw [List.getLast_eq_getLastD]
  simp only [parent, stem, path]
  rw [hlast, List.dropLast_concat_getLast]

end RestartCheck.Toml
