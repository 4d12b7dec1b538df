import LivePipeline.Pattern.Property
import LivePipeline.Pattern.Size
import LivePipeline.Number.Reading
import LivePipeline.Text.Blank
import LivePipeline.Unicode.Folding

/-! Reading patterns. Groups are put together on a stack, character classes by themselves. Every
step takes at least one character, so the length of the text bounds the number of steps. -/

namespace LivePipeline.Pattern

/-- Why a text is not a pattern. -/
inductive SyntaxFault where
  | unclosedGroup
  | unopenedGroup
  | unclosedClass
  | invalidRange
  | nothingToRepeat
  | invalidRepetition
  | invalidEscape
  | invalidProperty
  | invalidFlag
  | invalidGroupName
  | lookAround
  | brokenText
  | tooDeep
  | tooLarge
  | exhausted

def SyntaxFault.message : SyntaxFault → String
  | unclosedGroup => "unclosed group"
  | unopenedGroup => "unopened group"
  | unclosedClass => "unclosed character class"
  | invalidRange => "invalid character class range"
  | nothingToRepeat => "repetition operator missing expression"
  | invalidRepetition => "invalid repetition count"
  | invalidEscape => "unrecognized escape sequence"
  | invalidProperty => "Unicode property not found"
  | invalidFlag => "unrecognized flag"
  | invalidGroupName => "invalid group name"
  | lookAround => "look-around is not supported"
  | brokenText => "pattern can match part of a character"
  | tooDeep => "pattern is nested too deeply"
  | tooLarge => "compiled pattern exceeds the size limit"
  | exhausted => "pattern is too long"

/-- Reading that may find a fault. A piece is read together with the text behind it. -/
abbrev Read := Except SyntaxFault

structure Flags where
  ignoreCase : Bool := false
  multiLine : Bool := false
  dotAll : Bool := false
  pairedLines : Bool := false
  verbose : Bool := false
  unicode : Bool := true

/-! ## Blanks and comments -/

/-- Drops blanks and comments, which end with their line. -/
def dropComments (inComment : Bool) : List Char → List Char
  | [] => []
  | c :: rest =>
    if inComment then dropComments (c != '\n') rest
    else if Text.isBlank c then dropComments false rest
    else if c == '#' then dropComments true rest
    else c :: rest

/-- In a verbose pattern blanks and comments count for nothing. -/
def Flags.skip (flags : Flags) (text : List Char) : List Char :=
  if flags.verbose then dropComments false text else text

/-- What stands in front of a closing brace, without blanks and comments, and what stands behind it. -/
def Flags.braced (flags : Flags) (inComment : Bool) : List Char → Read (List Char × List Char)
  | [] => .error .invalidEscape
  | c :: rest =>
    if inComment then flags.braced (c != '\n') rest
    else if flags.verbose && Text.isBlank c then flags.braced false rest
    else if flags.verbose && c == '#' then flags.braced true rest
    else if c == '\x7d' then .ok ([], rest)
    else (flags.braced false rest).map fun (inside, behind) => (c :: inside, behind)

/-! ## Sets -/

/-- A set that is closed under the changes of case that the flags allow. -/
def Flags.fold (flags : Flags) (set : CharSet) : CharSet :=
  if !flags.ignoreCase then set
  else if flags.unicode then Unicode.foldCase set else Unicode.foldAsciiCase set

/-- The other characters. Without the flag `unicode` they would be parts of characters. -/
def Flags.negate (flags : Flags) (negated : Bool) (set : CharSet) : Read CharSet :=
  if !negated then .ok set
  else if flags.unicode then .ok set.complement else .error .brokenText

def Flags.digit (flags : Flags) : CharSet := if flags.unicode then digits else .range 48 57

def Flags.word (flags : Flags) : CharSet :=
  if flags.unicode then wordCharacters else (asciiClass? "word".toList).getD .none

def Flags.space (flags : Flags) : CharSet :=
  if flags.unicode then blanks else (asciiClass? "space".toList).getD .none

/-! ## Escapes -/

def charOf? (code : Nat) : Read Char :=
  if code < 0xD800 || (0xE000 ≤ code && code < 0x110000) then .ok (Char.ofNat code)
  else .error .invalidEscape

def charOfHex (digits : List Char) : Read Char := do
  if digits.isEmpty then throw .invalidEscape
  let code ← digits.foldlM (fun value c => match Text.hexValue? c with
    | some digit => .ok (value * 16 + digit)
    | none => .error .invalidEscape) 0
  charOf? code

/-- A number of characters, with nothing but blanks and comments between them. -/
def Flags.take (flags : Flags) : Nat → List Char → Read (List Char × List Char)
  | 0, text => .ok ([], text)
  | count + 1, text =>
    match flags.skip text with
    | [] => .error .invalidEscape
    | c :: rest => (flags.take count rest).map fun (taken, behind) => (c :: taken, behind)

/-- What an escape stands for. A literal may be written as the number of a byte. -/
inductive Escape where
  | literal (c : Char) (byte : Bool)
  | set (set : CharSet)
  | anchor (anchor : Anchor)

/-- A character by its code: some digits, or any number of them between braces. -/
def hexEscape (flags : Flags) (count : Nat) (text : List Char) : Read (Escape × List Char) := do
  match flags.skip text with
  | '\x7b' :: rest =>
    let (digits, rest) ← flags.braced false rest
    return (.literal (← charOfHex digits) false, rest)
  | text =>
    let (digits, rest) ← flags.take count text
    return (.literal (← charOfHex digits) (count == 2), rest)

/-- The property a class is named by. A value stands behind the first mark of its kind. -/
def namedProperty (name : List Char) : Option CharSet × Bool :=
  let splitAt (mark : Char) : Option (List Char × List Char) :=
    if name.contains mark then
      some (name.takeWhile (· != mark), (name.dropWhile (· != mark)).drop 1)
    else none
  let rec splitUnequal (before : List Char) : List Char → Option (List Char × List Char)
    | '!' :: '=' :: value => some (before.reverse, value)
    | c :: rest => splitUnequal (c :: before) rest
    | [] => none
  match splitUnequal [] name with
  | some (property, value) => (propertyWithValue? property value, true)
  | none =>
    match (splitAt ':').or (splitAt '=') with
    | some (property, value) => (propertyWithValue? property value, false)
    | none => (property? name, false)

def propertyEscape (flags : Flags) (negated : Bool) (text : List Char) : Read (Escape × List Char) := do
  let (name, rest) ← match flags.skip text with
    | '\x7b' :: rest => flags.braced false rest
    | '\\' :: _ | [] => throw .invalidEscape
    | c :: rest => pure ([c], rest)
  if !flags.unicode then throw .invalidProperty
  match namedProperty name with
  | (none, _) => throw .invalidProperty
  | (some set, unequal) => return (.set (← flags.negate (negated != unequal) (flags.fold set)), rest)

/-- The kind of word boundary that is named between braces. Braces around anything else are a
repetition, which is left for later. -/
def boundaryEscape (flags : Flags) (text : List Char) : Read (WordEdge × List Char) := do
  match text with
  | '\x7b' :: inside =>
    match flags.skip inside with
    | [] => throw .invalidEscape
    | c :: _ =>
      if !(c.isAlpha || c == '-') then return (.boundary, text)
      let (name, rest) ← flags.braced false inside
      match String.ofList name with
      | "start" => return (.start, rest)
      | "end" => return (.finish, rest)
      | "start-half" => return (.startHalf, rest)
      | "end-half" => return (.finishHalf, rest)
      | _ => throw .invalidEscape
  | _ => return (.boundary, text)

def escape (flags : Flags) (text : List Char) : Read (Escape × List Char) := do
  match text with
  | [] => throw .invalidEscape
  | c :: rest =>
    let set (set : CharSet) (negated : Bool) : Read (Escape × List Char) := do
      return (.set (← flags.negate negated set), rest)
    let literal (c : Char) : Read (Escape × List Char) := return (.literal c false, rest)
    let word (edge : WordEdge) (rest : List Char) : Read (Escape × List Char) :=
      return (.anchor (.word edge flags.word), rest)
    match c with
    | 'd' => set flags.digit false
    | 'D' => set flags.digit true
    | 'w' => set flags.word false
    | 'W' => set flags.word true
    | 's' => set flags.space false
    | 'S' => set flags.space true
    | 'n' => literal '\n'
    | 't' => literal '\t'
    | 'r' => literal '\r'
    | 'f' => literal '\x0c'
    | 'v' => literal '\x0b'
    | 'a' => literal '\x07'
    | 'A' => return (.anchor .textStart, rest)
    | 'z' => return (.anchor .textEnd, rest)
    | 'B' => word .inside rest
    | '<' => word .start rest
    | '>' => word .finish rest
    | 'b' =>
      let (edge, rest) ← boundaryEscape flags rest
      word edge rest
    | 'x' => hexEscape flags 2 rest
    | 'u' => hexEscape flags 4 rest
    | 'U' => hexEscape flags 8 rest
    | 'p' => propertyEscape flags false rest
    | 'P' => propertyEscape flags true rest
    | c => if c.toNat < 128 && !c.isAlphanum then literal c else throw .invalidEscape

/-- Without the flag `unicode`, the number of a byte that is no character by itself is refused. -/
def Flags.checkByte (flags : Flags) (c : Char) (byte : Bool) : Read Unit :=
  if !flags.unicode && byte && c.toNat ≥ 128 then .error .brokenText else .ok ()

/-! ## Character classes -/

/-- How a class goes on with the items behind an operator. -/
inductive SetOperator where
  | intersection
  | difference
  | symmetric

/-- Items of a class put together: how many there are, and how deeply the deepest one is nested. -/
structure Items where
  set : CharSet := .none
  count : Nat := 0
  depth : Nat := 0

def Items.add (items : Items) (set : CharSet) (depth : Nat) : Items :=
  { set := items.set.union set, count := items.count + 1, depth := max items.depth depth }

/-- The depth of the items as one: several items are nested once more. -/
def Items.nesting (items : Items) : Nat := if items.count ≤ 1 then items.depth else items.depth + 1

/-- A class that is not closed yet: its items, and the operator and operand in front of them. -/
structure OpenClass where
  negated : Bool
  items : Items := {}
  pending : Option (CharSet × Nat × SetOperator) := none

def OpenClass.add (group : OpenClass) (set : CharSet) (depth : Nat) : OpenClass :=
  { group with items := group.items.add set depth }

/-- The set so far and its depth. The operands of an operator are folded before it is applied. -/
def OpenClass.value (flags : Flags) (group : OpenClass) : CharSet × Nat :=
  match group.pending with
  | none => (group.items.set, group.items.nesting)
  | some (left, depth, operator) =>
    let left := flags.fold left
    let right := flags.fold group.items.set
    let set := match operator with
      | .intersection => left.intersection right
      | .difference => left.difference right
      | .symmetric => left.symmetricDifference right
    (set, max depth group.items.nesting + 1)

def OpenClass.close (flags : Flags) (group : OpenClass) : Read (CharSet × Nat) := do
  let (set, depth) := group.value flags
  return (← flags.negate group.negated (flags.fold set), depth + 1)

def OpenClass.operate (flags : Flags) (group : OpenClass) (operator : SetOperator) : OpenClass :=
  let (set, depth) := group.value flags
  { group with pending := some (set, depth, operator), items := {} }

/-- The dashes in front of a class, and what follows them. -/
def leadingDashes (flags : Flags) (inComment : Bool) : List Char → Nat × List Char
  | [] => (0, [])
  | c :: rest =>
    if inComment then leadingDashes flags (c != '\n') rest
    else if flags.verbose && Text.isBlank c then leadingDashes flags false rest
    else if flags.verbose && c == '#' then leadingDashes flags true rest
    else if c == '-' then
      let (count, behind) := leadingDashes flags false rest
      (count + 1, behind)
    else (0, c :: rest)

/-- Opens a class behind its bracket. A bracket or dashes that come first are items. -/
def openClass (flags : Flags) (text : List Char) : OpenClass × List Char :=
  let (negated, text) := match flags.skip text with
    | '^' :: rest => (true, rest)
    | text => (false, text)
  let (dashes, rest) := leadingDashes flags false text
  let start : OpenClass := Nat.repeat (·.add (.single '-') 0) dashes { negated }
  match dashes, rest with
  | 0, ']' :: rest => (start.add (.single ']') 0, rest)
  | _, _ => (start, rest)

/-- A class name between colons. -/
def namedClass? (flags : Flags) (text : List Char) : Option (Read CharSet × List Char) :=
  match text with
  | ':' :: rest =>
    let (negated, rest) := match rest with
      | '^' :: rest => (true, rest)
      | _ => (false, rest)
    let name := rest.takeWhile (· != ':')
    match rest.drop name.length with
    | ':' :: ']' :: rest =>
      (asciiClass? name).map fun set => (flags.negate negated (flags.fold set), rest)
    | _ => none
  | _ => none

/-- One character of a class, or a class that an escape names. -/
def classItem (flags : Flags) (text : List Char) : Read (Escape × List Char) :=
  match text with
  | [] => .error .unclosedClass
  | '\\' :: rest => do
    match ← escape flags rest with
    | (.literal c byte, rest) => literal c byte rest
    | item => return item
  | c :: rest => literal c false rest
where
  /-- A character of several bytes needs the flag `unicode`. -/
  literal (c : Char) (byte : Bool) (rest : List Char) : Read (Escape × List Char) :=
    if !flags.unicode && 0x80 ≤ c.toNat then .error .brokenText else .ok (.literal c byte, rest)

/-- The character that decides whether a dash makes a range. A comment behind the dash counts by its
first character. -/
def behindDash? (flags : Flags) (text : List Char) : Option Char :=
  if !flags.verbose then text.head?
  else
    match text.dropWhile Text.isBlank with
    | '#' :: comment => (comment.dropWhile Text.isBlank).head?
    | rest => rest.head?

/-- An item of a class, or a range between two characters. -/
def classRange (flags : Flags) (text : List Char) : Read (CharSet × List Char) := do
  let (first, rest) ← classItem flags text
  let alone : Read (CharSet × List Char) :=
    match first with
    | .literal c _ => return (.single c, rest)
    | .set set => return (set, rest)
    | .anchor _ => throw .invalidEscape
  match flags.skip rest with
  | [] => throw .unclosedClass
  | '-' :: behind =>
    if behindDash? flags behind == some ']' || behindDash? flags behind == some '-' then alone
    else
      let (last, rest) ← classItem flags (flags.skip behind)
      match first, last with
      | .literal a _, .literal b _ =>
        if a ≤ b then return (.range a.toNat b.toNat, rest) else throw .invalidRange
      | _, _ => throw .invalidRange
  | _ => alone

/-- Reads a class behind its opening bracket; enclosing classes wait on the stack. -/
def readClass (flags : Flags) : Nat → List OpenClass → List Char → Read ((CharSet × Nat) × List Char)
  | 0, _, _ => .error .exhausted
  | _, [], _ => .error .unclosedClass
  | fuel + 1, current :: outer, text =>
    match flags.skip text with
    | [] => .error .unclosedClass
    | ']' :: rest => do
      let closed ← current.close flags
      match outer with
      | [] => return (closed, rest)
      | enclosing :: outer => readClass flags fuel (enclosing.add closed.1 closed.2 :: outer) rest
    | '[' :: rest =>
      match namedClass? flags rest with
      | some (set, rest) => do readClass flags fuel (current.add (← set) 0 :: outer) rest
      | none =>
        let (inner, rest) := openClass flags rest
        readClass flags fuel (inner :: current :: outer) rest
    | '&' :: '&' :: rest => readClass flags fuel (current.operate flags .intersection :: outer) rest
    | '-' :: '-' :: rest => readClass flags fuel (current.operate flags .difference :: outer) rest
    | '~' :: '~' :: rest => readClass flags fuel (current.operate flags .symmetric :: outer) rest
    | text => do
      let (set, rest) ← classRange flags text
      readClass flags fuel (current.add set 0 :: outer) rest

/-! ## Groups and repetitions -/

/-- A piece of a pattern and how deeply it is nested. Changes of flags are pieces without a pattern
and cannot be repeated. -/
structure Piece where
  pattern : Option Pattern
  depth : Nat := 0

/-- Pieces one after the other; they are given in reverse. -/
def sequenceOf (pieces : List Piece) : Pattern × Nat :=
  let pattern := (pieces.filterMap (·.pattern)).foldl (fun behind piece => .sequence piece behind) .empty
  let depth := pieces.foldl (fun depth piece => max depth piece.depth) 0
  (pattern, if pieces.length ≤ 1 then depth else depth + 1)

/-- An open group: the alternatives before the current one, and the pieces of that one in reverse. -/
structure OpenGroup where
  flags : Flags
  captures : Bool
  alternatives : Option (Pattern × Nat) := none
  pieces : List Piece := []

/-- The alternatives so far as one, and the depth of the deepest one. -/
def OpenGroup.choice (group : OpenGroup) : Pattern × Nat :=
  let (pattern, depth) := sequenceOf group.pieces
  match group.alternatives with
  | none => (pattern, depth)
  | some (left, other) => (.either left pattern, max other depth)

/-- All of the group; a choice is nested once more. -/
def OpenGroup.value (group : OpenGroup) : Pattern × Nat :=
  let (pattern, depth) := group.choice
  (pattern, if group.alternatives.isSome then depth + 1 else depth)

def OpenGroup.push (group : OpenGroup) (pattern : Pattern) (depth : Nat) : OpenGroup :=
  { group with pieces := { pattern := some pattern, depth } :: group.pieces }

def OpenGroup.alternate (group : OpenGroup) : OpenGroup :=
  { group with alternatives := some group.choice, pieces := [] }

/-- The closed group as one piece. -/
def OpenGroup.close (group : OpenGroup) : Pattern × Nat :=
  let (pattern, depth) := group.value
  (if group.captures then .captured pattern else pattern, depth + 1)

def OpenGroup.repeatLast (group : OpenGroup) (least : Nat) (most : Option Nat) : Read OpenGroup :=
  match group.pieces with
  | { pattern := some pattern, depth } :: pieces =>
    let piece : Piece := { pattern := some (.repeated pattern least most), depth := depth + 1 }
    .ok { group with pieces := piece :: pieces }
  | _ => .error .nothingToRepeat

/-- The digits in front, without the blanks and comments between them, and what follows. -/
def spacedDigits (flags : Flags) (inComment : Bool) : List Char → List Char × List Char
  | [] => ([], [])
  | c :: rest =>
    if inComment then spacedDigits flags (c != '\n') rest
    else if c.isDigit then
      let (digits, behind) := spacedDigits flags false rest
      (c :: digits, behind)
    else if flags.verbose && Text.isBlank c then spacedDigits flags false rest
    else if flags.verbose && c == '#' then spacedDigits flags true rest
    else ([], c :: rest)

/-- A number with blanks around it, which may be missing. -/
def count (flags : Flags) (text : List Char) : Read Nat × List Char :=
  let (digits, rest) := spacedDigits flags false (text.dropWhile Text.isBlank)
  let value := Number.digitsValue digits
  let number := if digits.isEmpty || value ≥ Nat.pow 2 32 then .error .invalidRepetition else .ok value
  (number, rest.dropWhile Text.isBlank)

/-- The bounds between braces. -/
def counts (flags : Flags) (text : List Char) : Read ((Nat × Option Nat) × List Char) := do
  let (least, rest) := count flags (flags.skip text)
  let (bounds, rest) ← match rest with
    | ',' :: rest =>
      match flags.skip rest with
      | '\x7d' :: rest => pure ((← least, none), '\x7d' :: rest)
      | rest =>
        let (most, rest) := count flags rest
        pure ((← least, some (← most)), rest)
    | rest => pure ((← least, some (← least)), rest)
  match rest with
  | '\x7d' :: rest =>
    if bounds.2.any (· < bounds.1) then throw .invalidRepetition
    return (bounds, flags.skip rest)
  | _ => throw .invalidRepetition

/-- Sets one flag, on or off. -/
def setFlag (flags : Flags) (on : Bool) (c : Char) : Read Flags :=
  match c with
  | 'i' => .ok { flags with ignoreCase := on }
  | 'm' => .ok { flags with multiLine := on }
  | 's' => .ok { flags with dotAll := on }
  | 'R' => .ok { flags with pairedLines := on }
  | 'x' => .ok { flags with verbose := on }
  | 'u' => .ok { flags with unicode := on }
  | 'U' => .ok flags
  | _ => .error .invalidFlag

/-- Flags behind a question mark: those behind a dash are switched off. -/
def readFlags (flags : Flags) (text : List Char) : Read Flags := do
  let on := text.takeWhile (· != '-')
  let rest := text.drop on.length
  let off := rest.drop 1
  if (!rest.isEmpty && off.isEmpty) || !(on ++ off).Nodup then throw .invalidFlag
  let flags ← on.foldlM (fun flags c => setFlag flags true c) flags
  off.foldlM (fun flags c => setFlag flags false c) flags

/-- What an opening parenthesis begins: a group, or a change of flags for the rest of the group. -/
inductive Opening where
  | group (flags : Flags) (captures : Bool) (name : Option (List Char))
  | directive (flags : Flags)

def isAlphabetic (c : Char) : Bool :=
  if c.toNat < 128 then c.isAlpha
  else ((namedSet? Unicode.binaryProperties "alphabetic").getD .none).contains c

def isAlphanumeric (c : Char) : Bool :=
  c.isAlphanum || (c.toNat ≥ 128 && (isAlphabetic c || ((category? "n").getD .none).contains c))

/-- A name starts with a letter or an underscore and goes on with letters, numbers and some marks. -/
def groupName (text : List Char) : Read ((List Char) × List Char) :=
  let name := text.takeWhile (· != '>')
  match text.drop name.length, name with
  | _ :: rest, first :: others =>
    if (first == '_' || isAlphabetic first)
        && others.all (fun c => ['_', '.', '[', ']'].contains c || isAlphanumeric c) then
      .ok (name, rest)
    else .error .invalidGroupName
  | _, _ => .error .invalidGroupName

def opening (flags : Flags) (text : List Char) : Read (Opening × List Char) := do
  match flags.skip text with
  | '?' :: '=' :: _ | '?' :: '!' :: _ | '?' :: '<' :: '=' :: _ | '?' :: '<' :: '!' :: _ =>
    throw .lookAround
  | '?' :: 'P' :: '<' :: rest | '?' :: '<' :: rest =>
    let (name, rest) ← groupName rest
    return (.group flags true (some name), rest)
  | '?' :: text =>
    let inside := text.takeWhile fun c => c != ')' && c != ':'
    match text.drop inside.length with
    | ')' :: rest =>
      if inside.isEmpty then throw .nothingToRepeat
      return (.directive (← readFlags flags inside), rest)
    | ':' :: rest => return (.group (← readFlags flags inside) false none, rest)
    | _ => throw .invalidFlag
  | text => return (.group flags true none, text)

structure Reading where
  /-- The innermost open group comes first. -/
  current : OpenGroup
  outer : List OpenGroup := []
  names : List (List Char) := []

def Reading.push (reading : Reading) (pattern : Pattern) (depth : Nat) : Reading :=
  { reading with current := reading.current.push pattern depth }

/-- Drops the mark that makes a repetition prefer fewer matches, which cannot change the answer. -/
def dropLazyMark (text : List Char) : List Char :=
  match text with
  | '?' :: rest => rest
  | _ => text

def Reading.repeatLast (reading : Reading) (least : Nat) (most : Option Nat) :
    Read Reading := do
  return { reading with current := ← reading.current.repeatLast least most }

/-- Reads one piece of a pattern. -/
def readPiece (reading : Reading) (c : Char) (rest : List Char) : Read (Reading × List Char) := do
  let flags := reading.current.flags
  match c with
  | '(' =>
    match ← opening flags rest with
    | (.directive flags, rest) =>
      let group := reading.current
      let current := { group with flags, pieces := { pattern := none } :: group.pieces }
      return ({ reading with current }, rest)
    | (.group flags captures name, rest) =>
      if name.any reading.names.contains then throw .invalidGroupName
      return ({ current := { flags, captures }, outer := reading.current :: reading.outer
                names := name.toList ++ reading.names }, rest)
  | ')' =>
    match reading.outer with
    | [] => throw .unopenedGroup
    | enclosing :: outer =>
      let (pattern, depth) := reading.current.close
      return ({ reading with current := enclosing.push pattern depth, outer }, rest)
  | '|' => return ({ reading with current := reading.current.alternate }, rest)
  | '*' => return (← reading.repeatLast 0 none, dropLazyMark rest)
  | '+' => return (← reading.repeatLast 1 none, dropLazyMark rest)
  | '?' => return (← reading.repeatLast 0 (some 1), dropLazyMark rest)
  | '\x7b' =>
    let ((least, most), rest) ← counts flags rest
    return (← reading.repeatLast least most, dropLazyMark rest)
  | '.' =>
    let lineEnds := if flags.dotAll then CharSet.none
      else if flags.pairedLines then .ofText "\r\n" else .single '\n'
    return (reading.push (.one (← flags.negate true lineEnds)) 0, rest)
  | '^' =>
    let place := if flags.multiLine then .lineStart flags.pairedLines else .textStart
    return (reading.push (.anchor place) 0, rest)
  | '$' =>
    let place := if flags.multiLine then .lineEnd flags.pairedLines else .textEnd
    return (reading.push (.anchor place) 0, rest)
  | '[' =>
    let (start, rest) := openClass flags rest
    let ((set, depth), rest) ← readClass flags (rest.length + 1) [start] rest
    return (reading.push (.one set) depth, rest)
  | '\\' =>
    match ← escape flags rest with
    | (.literal c byte, rest) =>
      flags.checkByte c byte
      return (reading.push (.one (flags.fold (.single c))) 0, rest)
    | (.set set, rest) => return (reading.push (.one set) 0, rest)
    | (.anchor place, rest) => return (reading.push (.anchor place) 0, rest)
  | c => return (reading.push (.one (flags.fold (.single c))) 0, rest)

/-- Reads pieces until the text ends. -/
def readAll : Nat → Reading → List Char → Read (Pattern × Nat)
  | 0, _, _ => .error .exhausted
  | fuel + 1, reading, text =>
    match reading.current.flags.skip text with
    | [] => if reading.outer.isEmpty then .ok reading.current.value else .error .unclosedGroup
    | c :: rest => do
      let (reading, rest) ← readPiece reading c rest
      readAll fuel reading rest

/-- Groups, classes and repetitions may be nested this deeply. -/
def depthLimit : Nat := 250

/-- Reads a pattern. -/
def parse (text : String) : Read Pattern := do
  let start : OpenGroup := { flags := {}, captures := false }
  let (pattern, depth) ← readAll (text.length + 1) { current := start } text.toList
  if depth > depthLimit then throw .tooDeep
  if pattern.isTooLarge then throw .tooLarge
  return pattern

end LivePipeline.Pattern
