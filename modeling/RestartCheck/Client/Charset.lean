import RestartCheck.Text.Blank
import RestartCheck.Text.Parts
import RestartCheck.Text.Utf8

/-!
# Character sets

The content type of an answer can name the character set of its body.  It consists of parts between
semicolons, and a part can be a parameter: a name and a value around an equals sign.  Besides the
usual character set there are two in which every octet below a bound is the character with its
number.

**Output.**  The character set of a content type, and the text that octets are in it.

**Results.**
* `length_decode_narrow`: in the others every octet is one character.
-/

namespace RestartCheck

/-- Ways to read the octets of a body. -/
inductive Charset
  | utf8
  /-- Octets below the bound are the characters with their numbers, and the others are none. -/
  | narrow (bound : Nat)
deriving DecidableEq, Repr

namespace Charset

/-- Read the octets of a body. -/
def decode (charset : Charset) (octets : List UInt8) : List Char :=
  match charset with
  | .utf8 => Text.decodeOctets octets
  | .narrow bound =>
    octets.map fun octet =>
      if octet.toNat < bound then Char.ofNat octet.toNat else Text.replacement

/-- In a narrow character set every octet is one character. -/
@[simp] theorem length_decode_narrow (bound : Nat) (octets : List UInt8) :
    ((narrow bound).decode octets).length = octets.length := by
  simp [decode]

/-! ## Names -/

/-- The names of the character sets other than the usual one, in their plain form. -/
def narrowNames : List (Nat × List String) :=
  [(0x80,
    ["ascii", "646", "ansi_x3.4_1968", "ansi_x3.4_1986", "ansi_x3_4_1968", "cp367", "csascii",
     "ibm367", "iso646_us", "iso_646.irv_1991", "iso_ir_6", "us", "us_ascii"]),
   (0x100,
    ["latin_1", "8859", "cp819", "csisolatin1", "ibm819", "iso8859", "iso8859_1", "iso_8859_1",
     "iso_8859_1_1987", "iso_ir_100", "l1", "latin", "latin1"])]

/-- The words of a name, which consist of letters, digits and points. -/
def wordsOf (name : List Char) : List (List Char) :=
  (Text.partsWhere (fun c => !(c.isAlphanum || c = '.')) name).filter fun word => !word.isEmpty

/-- The character set with a name in its plain form. -/
def plainNamed? (name : List Char) : Option Charset :=
  (narrowNames.find? fun entry => entry.2.contains (String.ofList name)).map fun entry =>
    .narrow entry.1

/-- The character set with a name, if it is known and not the usual one.  Points in the name can
stand for the marks between its words. -/
def named? (name : List Char) : Option Charset :=
  let plain := ['_'].intercalate (wordsOf (name.map Char.toLower))
  (plainNamed? plain).or (plainNamed? (plain.map fun c => if c = '.' then '_' else c))

/-! ## Parameters -/

/-- The parts of a content type.  A semicolon between quotes does not separate them, and a quote
after a backslash does not count as one. -/
def partsFrom (isQuoted isEscaped : Bool) : List Char → List (List Char)
  | [] => [[]]
  | c :: rest =>
    if c = ';' ∧ !isQuoted then [] :: partsFrom false false rest
    else
      match partsFrom (isQuoted != (c = '"' && !isEscaped)) (c = '\\') rest with
      | first :: others => (c :: first) :: others
      | [] => [[c]]

/-- Drop the backslashes that stand before a mark. -/
def plainMarks (mark : Char) : List Char → List Char
  | '\\' :: c :: rest =>
    if c = mark then mark :: plainMarks mark rest else '\\' :: plainMarks mark (c :: rest)
  | c :: rest => c :: plainMarks mark rest
  | [] => []

/-- A value without the quotes or angle brackets around it. -/
def unquoted (value : List Char) : List Char :=
  let inner := (value.drop 1).dropLast
  if value.length ≤ 1 then value
  else if value.head? = some '"' ∧ value.getLast? = some '"' then
    plainMarks '"' (plainMarks '\\' inner)
  else if value.head? = some '<' ∧ value.getLast? = some '>' then inner
  else value

/-- The name of the character set that a part gives. -/
def nameIn? (part : List Char) : Option (List Char) :=
  let key := Text.trimBlank (part.takeWhile (· ≠ '='))
  let value := Text.trimBlank ((part.dropWhile (· ≠ '=')).drop 1)
  if key.map Char.toLower = "charset".toList then some (unquoted value) else none

/-- The character set of a content type.  Whatever names none that is known stands for the usual
one. -/
def ofContentType (contentType : Option String) : Charset :=
  match contentType with
  | none => .utf8
  | some text =>
    (((partsFrom false false text.toList).findSome? nameIn?).bind named?).getD .utf8

end Charset

end RestartCheck
