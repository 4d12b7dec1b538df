import LivePipeline.Json
import LivePipeline.Number.Reading
import LivePipeline.Text.Hexadecimal

/-! Reading JSON text. The text is cut into tokens one character at a time, and the tokens are put
together on a stack of unfinished containers, so both passes follow their input. -/

namespace LivePipeline.Json

inductive Token where
  | mark (c : Char)
  | text (value : String)
  | scalar (value : Json)

/-- What the characters read so far have begun. Characters of a text are kept in reverse. -/
inductive Lexeme where
  | blank
  | text (done : List Char)
  | escape (done : List Char)
  | unit (done : List Char) (high : Option Nat) (count value : Nat)
  | lowEscape (done : List Char) (high : Nat)
  | lowMark (done : List Char) (high : Nat)
  | number (done : List Char)
  | word (done : List Char)

def isBlank (c : Char) : Bool := c == ' ' || c == '\t' || c == '\n' || c == '\r'

def isMark (c : Char) : Bool :=
  c == '[' || c == ']' || c == '\x7b' || c == '\x7d' || c == ',' || c == ':'

def isNumberPart (c : Char) : Bool :=
  c.isDigit || c == '-' || c == '+' || c == '.' || c == 'e' || c == 'E'

/-- Whole numbers have no sign but a minus and no zero in front; a fraction has digits. -/
def wellFormedNumber (text : List Char) : Bool :=
  let digits := match text with
    | '-' :: rest => rest
    | _ => text
  let whole := digits.takeWhile Char.isDigit
  let rest := digits.dropWhile Char.isDigit
  let fractionOk := match rest with
    | '.' :: tail => (tail.head?.map Char.isDigit).getD false
    | _ => true
  !whole.isEmpty && (whole == ['0'] || whole.head? != some '0') && fractionOk

/-- A number of JSON text: whole numbers of 64 bits are exact, others are doubles, and those too
large for a double are refused. -/
def number? (text : List Char) : Option Json :=
  if !wellFormedNumber text then none
  else
    let negative := text.head? == some '-'
    let digits := if negative then text.drop 1 else text
    let value := Number.digitsValue digits
    if digits.all Char.isDigit && !(negative && value == 0) && !(negative && value > Nat.pow 2 63)
        && !(!negative && value ≥ Nat.pow 2 64) then
      some (.int (if negative then -(Int.ofNat value) else Int.ofNat value))
    else
      match Number.unsigned? negative digits with
      | some x => if x.isFinite then some (.float x) else none
      | none => none

def word? : List Char → Option Json
  | ['n', 'u', 'l', 'l'] => some .null
  | ['t', 'r', 'u', 'e'] => some (.bool true)
  | ['f', 'a', 'l', 's', 'e'] => some (.bool false)
  | _ => none

/-- What a character begins when nothing is begun; marks are tokens of their own. -/
def begin? (c : Char) (tokens : List Token) : Option (Lexeme × List Token) :=
  if isBlank c then some (.blank, tokens)
  else if isMark c then some (.blank, .mark c :: tokens)
  else if c == '"' then some (.text [], tokens)
  else if c == '-' || c.isDigit then some (.number [c], tokens)
  else if c.isAlpha then some (.word [c], tokens)
  else none

/-- A finished group of four hexadecimal digits: a character, or the first half of a pair. -/
def closeUnit? (done : List Char) (high : Option Nat) (value : Nat) : Option Lexeme :=
  let isHigh := 0xD800 ≤ value && value < 0xDC00
  let isLow := 0xDC00 ≤ value && value < 0xE000
  match high with
  | some first =>
    if isLow then
      some (.text (Char.ofNat (0x10000 + (first - 0xD800) * 0x400 + (value - 0xDC00)) :: done))
    else none
  | none =>
    if isHigh then some (.lowEscape done value)
    else if isLow then none
    else some (.text (Char.ofNat value :: done))

def simpleEscape? (c : Char) : Option Char :=
  match c with
  | '"' => some '"'
  | '\\' => some '\\'
  | '/' => some '/'
  | 'b' => some '\x08'
  | 'f' => some '\x0c'
  | 'n' => some '\n'
  | 'r' => some '\r'
  | 't' => some '\t'
  | _ => none

/-- Takes one more character. Finished tokens are kept in reverse. -/
def advance? (state : Lexeme × List Token) (c : Char) : Option (Lexeme × List Token) :=
  let (lexeme, tokens) := state
  match lexeme with
  | .blank => begin? c tokens
  | .text done =>
    if c == '"' then some (.blank, .text (String.ofList done.reverse) :: tokens)
    else if c == '\\' then some (.escape done, tokens)
    else if c.toNat < 32 then none
    else some (.text (c :: done), tokens)
  | .escape done =>
    if c == 'u' then some (.unit done none 0 0, tokens)
    else (simpleEscape? c).map fun plain => (.text (plain :: done), tokens)
  | .unit done high count value =>
    match Text.hexValue? c with
    | none => none
    | some digit =>
      if count < 3 then some (.unit done high (count + 1) (value * 16 + digit), tokens)
      else (closeUnit? done high (value * 16 + digit)).map (·, tokens)
  | .lowEscape done high => if c == '\\' then some (.lowMark done high, tokens) else none
  | .lowMark done high => if c == 'u' then some (.unit done (some high) 0 0, tokens) else none
  | .number done =>
    if isNumberPart c then some (.number (c :: done), tokens)
    else (number? done.reverse).bind fun value => begin? c (.scalar value :: tokens)
  | .word done =>
    if c.isAlpha then some (.word (c :: done), tokens)
    else (word? done.reverse).bind fun value => begin? c (.scalar value :: tokens)

/-- The tokens of a text, in order. -/
def tokens? (text : String) : Option (List Token) :=
  match text.toList.foldlM advance? (.blank, []) with
  | some (.blank, tokens) => some tokens.reverse
  | some (.number done, tokens) =>
    (number? done.reverse).map fun value => (.scalar value :: tokens).reverse
  | some (.word done, tokens) =>
    (word? done.reverse).map fun value => (.scalar value :: tokens).reverse
  | _ => none

/-- A container whose end has not been read; its items are kept in reverse. -/
inductive Frame where
  | array (items : List Json)
  | object (fields : List (String × Json)) (key : String)

/-- What may come next. -/
inductive Expecting where
  | value
  | firstItem
  | firstKey
  | key
  | colon (key : String)
  | separator
  | nothing (whole : Json)

/-- How many containers may be open at once. -/
def maxNesting : Nat := 127

/-- Puts a finished value where it belongs. -/
def place (stack : List Frame) (value : Json) : List Frame × Expecting :=
  match stack with
  | [] => ([], .nothing value)
  | .array items :: rest => (.array (value :: items) :: rest, .separator)
  | .object fields key :: rest => (.object ((key, value) :: fields) key :: rest, .separator)

def opened? (stack : List Frame) (c : Char) : Option (List Frame × Expecting) :=
  if stack.length ≥ maxNesting then none
  else if c == '[' then some (.array [] :: stack, .firstItem)
  else if c == '\x7b' then some (.object [] "" :: stack, .firstKey)
  else none

def value? (stack : List Frame) : Token → Option (List Frame × Expecting)
  | .mark c => opened? stack c
  | .text value => some (place stack (.text value))
  | .scalar value => some (place stack value)

/-- Closes the innermost container; a repeated key keeps its first place and its last value. -/
def closed? (stack : List Frame) (c : Char) : Option (List Frame × Expecting) :=
  match stack with
  | .array items :: rest => if c == ']' then some (place rest (.array items.reverse)) else none
  | .object fields _ :: rest =>
    if c == '\x7d' then some (place rest (.object (Table.ofEntries fields.reverse))) else none
  | [] => none

def key? (stack : List Frame) : Token → Option (List Frame × Expecting)
  | .text key => some (stack, .colon key)
  | _ => none

def afterValue? (stack : List Frame) : Token → Option (List Frame × Expecting)
  | .mark ',' =>
    match stack with
    | .array _ :: _ => some (stack, .value)
    | .object _ _ :: _ => some (stack, .key)
    | [] => none
  | .mark c => closed? stack c
  | _ => none

/-- Takes one more token. -/
def assemble? (state : List Frame × Expecting) (token : Token) : Option (List Frame × Expecting) :=
  let (stack, expecting) := state
  match expecting, token with
  | .value, token => value? stack token
  | .firstItem, .mark ']' => closed? stack ']'
  | .firstItem, token => value? stack token
  | .firstKey, .mark '\x7d' => closed? stack '\x7d'
  | .firstKey, token => key? stack token
  | .key, token => key? stack token
  | .colon key, .mark ':' =>
    match stack with
    | .object fields _ :: rest => some (.object fields key :: rest, .value)
    | _ => none
  | .colon _, _ => none
  | .separator, token => afterValue? stack token
  | .nothing _, _ => none

/-- Reads JSON text; `none` when it is not JSON, nests too deeply or holds too large a number. -/
def parse? (text : String) : Option Json :=
  match (tokens? text).bind (·.foldlM assemble? ([], .value)) with
  | some ([], .nothing whole) => some whole
  | _ => none

end LivePipeline.Json
