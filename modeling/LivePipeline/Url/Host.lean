import LivePipeline.Url.Domain
import LivePipeline.Url.Percent

/-! Hosts of locators: names, addresses of four numbers, and addresses of eight groups. -/

namespace LivePipeline.Url

/-- Why a text is not a locator. -/
inductive ParseError where
  | relativeWithoutBase
  | emptyHost
  | invalidPort
  | invalidDomainName
  | invalidIpv4
  | invalidIpv6
  | invalidDomainCharacter

def ParseError.message : ParseError → String
  | relativeWithoutBase => "relative URL without a base"
  | emptyHost => "empty host"
  | invalidPort => "invalid port number"
  | invalidDomainName => "invalid international domain name"
  | invalidIpv4 => "invalid IPv4 address"
  | invalidIpv6 => "invalid IPv6 address"
  | invalidDomainCharacter => "invalid domain character"

/-- A name in ASCII. -/
def domain? (text : List Char) : Except ParseError (List Char) :=
  match Domain.toAscii? text with
  | none => .error .invalidDomainName
  | some [] => .error .emptyHost
  | some name => .ok name

/-! ## Addresses of four numbers -/

def digitsIn (base : Nat) (text : List Char) : Option Nat :=
  text.foldlM (fun value c => do
    let digit ← Text.hexValue? c
    if digit < base then some (value * base + digit) else none) 0

/-- A number in decimal, with a zero in front in octal, with `0x` in hexadecimal. -/
def addressPart? : List Char → Option Nat
  | [] => none
  | '0' :: x :: rest =>
    if x == 'x' || x == 'X' then digitsIn 16 rest else digitsIn 8 (x :: rest)
  | text => digitsIn 10 text

/-- The labels without the empty one behind a dot at the end. -/
def addressLabels (name : List Char) : List (List Char) :=
  let labels := splitChar '.' name
  if labels.length > 1 && labels.getLast? == some [] then labels.dropLast else labels

/-- A name whose last label is a number must be an address. -/
def endsInNumber (name : List Char) : Bool :=
  match (addressLabels name).getLast? with
  | none | some [] => false
  | some last => last.all Char.isDigit || ((addressPart? last).isSome && (last.take 2 == ['0', 'x']))

def ipv4? (name : List Char) : Except ParseError (List Char) :=
  let labels := addressLabels name
  match labels.mapM addressPart? with
  | none => .error .invalidIpv4
  | some parts =>
    let leading := parts.dropLast
    let last := parts.getLast?.getD 0
    if parts.length > 4 || leading.any (· > 255) || last ≥ Nat.pow 256 (5 - parts.length) then
      .error .invalidIpv4
    else
      let value := leading.zipIdx.foldl
        (fun total (part, index) => total + part * Nat.pow 256 (3 - index)) last
      let text := [3, 2, 1, 0].map fun k => (toString (value / Nat.pow 256 k % 256)).toList
      .ok (joinChar '.' text)

/-! ## Addresses of eight groups -/

def group? (text : List Char) : Option Nat :=
  if text.isEmpty || text.length > 4 then none else digitsIn 16 text

/-- Four decimal numbers, as the last two groups. -/
def embedded? (text : List Char) : Option (List Nat) := do
  let parts ← (splitChar '.' text).mapM fun part =>
    if part.isEmpty || !part.all Char.isDigit || (part.length > 1 && part.head? == some '0') then none
    else digitsIn 10 part
  match parts with
  | [a, b, c, d] =>
    if [a, b, c, d].all (· ≤ 255) then some [a * 256 + b, c * 256 + d] else none
  | _ => none

/-- Groups divided by colons. -/
def plainGroups? (text : List Char) : Option (List Nat) :=
  if text.isEmpty then some [] else (splitChar ':' text).mapM group?

/-- Groups divided by colons, the last ones of an address. An address of four numbers may close
them. -/
def closingGroups? (text : List Char) : Option (List Nat) :=
  let parts := splitChar ':' text
  match parts.getLast? with
  | some last =>
    if last.contains '.' then do
      return (← parts.dropLast.mapM group?) ++ (← embedded? last)
    else plainGroups? text
  | none => none

/-- The text before and after the first two colons in a row. -/
def doubleColon? : List Char → Option (List Char × List Char)
  | ':' :: ':' :: rest => some ([], rest)
  | c :: rest => (doubleColon? rest).map fun (before, after) => (c :: before, after)
  | [] => none

/-- The eight groups of an address; two colons in a row stand for groups of zeros. -/
def ipv6Groups? (text : List Char) : Option (List Nat) :=
  match doubleColon? text with
  | some (before, after) => do
    let left ← plainGroups? before
    let right ← closingGroups? after
    if left.length + right.length ≤ 7 then
      some (left ++ List.replicate (8 - left.length - right.length) 0 ++ right)
    else none
  | none => do
    let groups ← closingGroups? text
    if groups.length = 8 then some groups else none

/-- How many zeros a list starts with. -/
def leadingZeros (groups : List Nat) : Nat := (groups.takeWhile (· == 0)).length

/-- Where the longest run of at least two zeros starts, and its length. -/
def longestZeros (groups : List Nat) : Option (Nat × Nat) :=
  let runs := (List.range groups.length).map fun index => (index, leadingZeros (groups.drop index))
  let best := runs.foldl (fun best run => if run.2 > best.2 then run else best) (0, 1)
  if best.2 ≥ 2 then some best else none

def groupText (group : Nat) : List Char := Nat.toDigits 16 group

def ipv6Text (groups : List Nat) : List Char :=
  match longestZeros groups with
  | some (start, count) =>
    joinChar ':' ((groups.take start).map groupText) ++ [':', ':']
      ++ joinChar ':' ((groups.drop (start + count)).map groupText)
  | none => joinChar ':' (groups.map groupText)

def bracketed? (text : List Char) : Except ParseError (List Char) :=
  if text.getLast? != some ']' then .error .invalidIpv6
  else match ipv6Groups? text.dropLast with
    | some groups => .ok ('[' :: ipv6Text groups ++ [']'])
    | none => .error .invalidIpv6

/-- The host of a locator whose scheme is known to have servers. -/
def specialHost? (text : List Char) : Except ParseError (List Char) :=
  match text with
  | '[' :: rest => bracketed? rest
  | _ => do
    let name ← domain? (unescape text)
    if endsInNumber name then ipv4? name else .ok name

/-- Characters that no host has, whatever the scheme is. -/
def isRefused (c : Char) : Bool :=
  ['\x00', ' ', '#', '/', ':', '<', '>', '?', '@', '[', '\\', ']', '^', '|'].contains c

/-- The host of any other locator is taken as it stands. -/
def otherHost? (text : List Char) : Except ParseError (List Char) :=
  match text with
  | '[' :: rest => bracketed? rest
  | _ =>
    if text.any isRefused then .error .invalidDomainCharacter
    else .ok (escape [] text)

end LivePipeline.Url
