/-!
# Octets as text

Three octets are written as four characters of six bits each.  One or two octets at the end are
filled up with zero bits, and the characters that would hold nothing else are written as equals
signs.

**Results.**
* `length_encode`: every group of up to three octets takes four characters.
-/

namespace RestartCheck.Text.Base64

/-- The characters for the values from 0 to 63. -/
def alphabet : List Char :=
  "ABCDEFGHIJKLMNOPQRSTUVWXYZabcdefghijklmnopqrstuvwxyz0123456789+/".toList

def digit (value : Nat) : Char :=
  (alphabet[value]?).getD '='

/-- The characters for a group of three octets. -/
def group (a b c : UInt8) : List Char :=
  let value := 0x10000 * a.toNat + 0x100 * b.toNat + c.toNat
  [digit (value / 0x40000), digit (value / 0x1000 % 64), digit (value / 64 % 64),
   digit (value % 64)]

/-- Write octets as text. -/
def encode : List UInt8 → List Char
  | [] => []
  | [a] => (group a 0 0).take 2 ++ ['=', '=']
  | [a, b] => (group a b 0).take 3 ++ ['=']
  | a :: b :: c :: rest => group a b c ++ encode rest

def valueOf? (c : Char) : Option Nat :=
  alphabet.idxOf? c

/-- The octets of four values. -/
def octets (a b c d : Nat) : List UInt8 :=
  let value := 0x40000 * a + 0x1000 * b + 64 * c + d
  [UInt8.ofNat (value / 0x10000), UInt8.ofNat (value / 0x100 % 0x100),
   UInt8.ofNat (value % 0x100)]

/-- Read octets written as text. -/
def decode? : List Char → Option (List UInt8)
  | [] => some []
  | [a, b, '=', '='] => do
    return (octets (← valueOf? a) (← valueOf? b) 0 0).take 1
  | [a, b, c, '='] => do
    return (octets (← valueOf? a) (← valueOf? b) (← valueOf? c) 0).take 2
  | a :: b :: c :: d :: rest => do
    let front := octets (← valueOf? a) (← valueOf? b) (← valueOf? c) (← valueOf? d)
    return front ++ (← decode? rest)
  | _ => none

/-- Three octets are written in four characters. -/
theorem length_encode (input : List UInt8) :
    (encode input).length = 4 * ((input.length + 2) / 3) := by
  fun_induction encode input with
  | case1 => rfl
  | case2 a => simp [group]
  | case3 a b => simp [group]
  | case4 a b c rest ih =>
    simp only [List.length_append, ih, group, List.length_cons, List.length_nil]
    omega

end RestartCheck.Text.Base64
