import LivePipeline.Json.Parser

/-! Bytes written as a percent sign and two hexadecimal digits. -/

namespace LivePipeline.Url

def upperHex (n : Nat) : Char := (Nat.digitChar (n % 16)).toUpper

/-- The bytes of a character in UTF-8, escaped. -/
def escapeChar (c : Char) : List Char :=
  (String.utf8EncodeChar c).flatMap fun byte =>
    ['%', upperHex (byte.toNat / 16), upperHex byte.toNat]

/-- Which characters are escaped in a part of a locator: control characters, everything beyond
ASCII, and the listed marks. -/
def mustEscape (marks : List Char) (c : Char) : Bool :=
  c.toNat < 32 || c.toNat ≥ 127 || marks.contains c

def fragmentMarks : List Char := [' ', '"', '<', '>', '\x60']

def pathMarks : List Char := fragmentMarks ++ ['#', '?', '\x7b', '\x7d']

def credentialMarks : List Char := pathMarks ++ ['/', ':', ';', '=', '@', '[', '\\', ']', '^', '|']

def queryMarks : List Char := [' ', '"', '#', '<', '>']

def specialQueryMarks : List Char := queryMarks ++ ['\x27']

def escape (marks : List Char) (text : List Char) : List Char :=
  text.flatMap fun c => if mustEscape marks c then escapeChar c else [c]

/-- Bytes of a text in which escapes stand for the bytes they name. -/
def unescapedBytes : List Char → List UInt8
  | [] => []
  | '%' :: high :: low :: rest =>
    match Text.hexValue? high, Text.hexValue? low with
    | some h, some l => UInt8.ofNat (h * 16 + l) :: unescapedBytes rest
    | _, _ => '%'.toUInt8 :: unescapedBytes (high :: low :: rest)
  | c :: rest => String.utf8EncodeChar c ++ unescapedBytes rest

/-- How a byte sequence of UTF-8 goes on after its first byte: the number of further bytes, the
range of the second byte, and the first bits of the character. -/
def sequenceOf? (first : Nat) : Option (Nat × Nat × Nat × Nat) :=
  if first < 0x80 then some (0, 0, 0, first)
  else if 0xC2 ≤ first ∧ first ≤ 0xDF then some (1, 0x80, 0xBF, first % 32)
  else if first = 0xE0 then some (2, 0xA0, 0xBF, 0)
  else if first = 0xED then some (2, 0x80, 0x9F, 13)
  else if 0xE1 ≤ first ∧ first ≤ 0xEF then some (2, 0x80, 0xBF, first % 16)
  else if first = 0xF0 then some (3, 0x90, 0xBF, 0)
  else if first = 0xF4 then some (3, 0x80, 0x8F, 4)
  else if 0xF1 ≤ first ∧ first ≤ 0xF3 then some (3, 0x80, 0xBF, first % 8)
  else none

def replacement : Char := '\uFFFD'

/-- Reads bytes as UTF-8. `pending` is the character begun: how many bytes it still needs, the range
of the next one, and its bits. A sequence that breaks off becomes one replacement character. -/
def textOfBytes (pending : Option (Nat × Nat × Nat × Nat)) : List UInt8 → List Char
  | [] => if pending.isSome then [replacement] else []
  | byte :: rest =>
    let fresh (_ : Unit) : List Char :=
      match sequenceOf? byte.toNat with
      | none => replacement :: textOfBytes none rest
      | some (0, _, _, bits) => Char.ofNat bits :: textOfBytes none rest
      | some sequence => textOfBytes (some sequence) rest
    match pending with
    | none => fresh ()
    | some (count, low, high, bits) =>
      if low ≤ byte.toNat ∧ byte.toNat ≤ high then
        let bits := bits * 64 + byte.toNat % 64
        if count ≤ 1 then Char.ofNat bits :: textOfBytes none rest
        else textOfBytes (some (count - 1, 0x80, 0xBF, bits)) rest
      else replacement :: fresh ()

/-- The text with its escapes read as UTF-8. -/
def unescape (text : List Char) : List Char := textOfBytes none (unescapedBytes text)

/-- The names and values of a query: pairs are divided by ampersands, and a plus sign is a blank. -/
def pairsOfQuery (query : String) : List (String × String) :=
  (query.splitOn "&").filterMap fun part =>
    if part.isEmpty then none
    else
      let chars := part.toList
      let plain (text : List Char) : String :=
        String.ofList (unescape (text.map fun c => if c == '+' then ' ' else c))
      some (plain (chars.takeWhile (· != '=')), plain ((chars.dropWhile (· != '=')).drop 1))

end LivePipeline.Url
