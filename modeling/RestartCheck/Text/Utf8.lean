/-!
# Text as octets

Characters are encoded in one to four octets.  Octets that are no encoding are read as replacement
characters: one for every longest run that could have started an encoding, or for a single octet
that could not.

**Results.**
* `octetsOf_append`: the octets of two texts in a row.
-/

namespace RestartCheck.Text

def octetsOf (text : List Char) : List UInt8 :=
  text.flatMap String.utf8EncodeChar

/-- Inside an encoding: how many octets are missing, the value so far, and the bounds of the next
octet.  The bounds exclude surrogates, overlong encodings and values that are too large. -/
structure Partial where
  missing : Nat
  value : Nat
  least : Nat := 0x80
  greatest : Nat := 0xbf

/-- What an octet starts outside an encoding. -/
inductive Start
  | char (c : Char)
  | more (part : Partial)
  | invalid

def startOf (octet : Nat) : Start :=
  if octet < 0x80 then .char (Char.ofNat octet)
  else if octet < 0xc2 then .invalid
  else if octet < 0xe0 then .more ⟨1, octet - 0xc0, 0x80, 0xbf⟩
  else if octet = 0xe0 then .more ⟨2, 0, 0xa0, 0xbf⟩
  else if octet = 0xed then .more ⟨2, octet - 0xe0, 0x80, 0x9f⟩
  else if octet < 0xf0 then .more ⟨2, octet - 0xe0, 0x80, 0xbf⟩
  else if octet = 0xf0 then .more ⟨3, 0, 0x90, 0xbf⟩
  else if octet < 0xf4 then .more ⟨3, octet - 0xf0, 0x80, 0xbf⟩
  else if octet = 0xf4 then .more ⟨3, octet - 0xf0, 0x80, 0x8f⟩
  else .invalid

/-- The character that stands for what is no encoding. -/
def replacement : Char := '\ufffd'

/-- One step of the machine: the characters that an octet completes, and where the machine stands
after it. -/
def decodeStep (state : Option Partial) (octet : Nat) : List Char × Option Partial :=
  let fresh (before : List Char) : List Char × Option Partial :=
    match startOf octet with
    | .char c => (before ++ [c], none)
    | .more part => (before, some part)
    | .invalid => (before ++ [replacement], none)
  match state with
  | none => fresh []
  | some part =>
    if part.least ≤ octet ∧ octet ≤ part.greatest then
      let value := 64 * part.value + (octet - 0x80)
      if part.missing ≤ 1 then ([Char.ofNat value], none)
      else ([], some { missing := part.missing - 1, value := value })
    else fresh [replacement]

/-- Decode octets from a state of the machine. -/
def decodeFrom : Option Partial → List UInt8 → List Char
  | none, [] => []
  | some _, [] => [replacement]
  | state, octet :: rest =>
    let (chars, next) := decodeStep state octet.toNat
    chars ++ decodeFrom next rest

def decodeOctets (octets : List UInt8) : List Char :=
  decodeFrom none octets

/-- Texts in a row are octets in a row. -/
theorem octetsOf_append (front back : List Char) :
    octetsOf (front ++ back) = octetsOf front ++ octetsOf back := by
  simp [octetsOf]

end RestartCheck.Text
