import LivePipeline.Url
import LivePipeline.Url.Host
import LivePipeline.Url.Path

/-! Reading locators. Blanks at the ends and line breaks anywhere are dropped; schemes with servers
get a normalized host and path, others keep their text. -/

namespace LivePipeline.Url

/-- Schemes with servers and the ports they use by themselves. -/
def defaultPort? : String → Option Nat
  | "http" | "ws" => some 80
  | "https" | "wss" => some 443
  | "ftp" => some 21
  | _ => none

def isSpecial (scheme : String) : Bool := (defaultPort? scheme).isSome || scheme == "file"

/-- The scheme in lower case, and what follows its colon. -/
def scheme? (text : List Char) : Option (String × List Char) :=
  let name := text.takeWhile fun c => c.isAlphanum || c == '+' || c == '-' || c == '.'
  match name, text.drop name.length with
  | first :: _, ':' :: rest =>
    if first.isAlpha then some (String.ofList (name.map Char.toLower), rest) else none
  | _, _ => none

/-- Where the name of the server ends. -/
def endsAuthority (special : Bool) (c : Char) : Bool := isSlash special c || c == '?' || c == '#'

/-- What stands before and behind the last at-sign. -/
def splitCredentials (text : List Char) : Option (List Char) × List Char :=
  let reversed := text.reverse
  match reversed.dropWhile (· != '@') with
  | _ :: before => (some before.reverse, (reversed.takeWhile (· != '@')).reverse)
  | [] => (none, text)

def credentialText (text : List Char) : String :=
  let user := escape credentialMarks (text.takeWhile (· != ':'))
  let password := escape credentialMarks ((text.dropWhile (· != ':')).drop 1)
  if user.isEmpty && password.isEmpty then ""
  else
    String.ofList (user ++ (if password.isEmpty then [] else ':' :: password) ++ ['@'])

/-- Host and port; a colon inside of brackets belongs to the host. -/
def splitPort (inside : Bool) : List Char → List Char × Option (List Char)
  | [] => ([], none)
  | c :: rest =>
    if c == ':' && !inside then ([], some rest)
    else
      let (host, port) := splitPort (if c == '[' then true else if c == ']' then false else inside) rest
      (c :: host, port)

/-- The number of a port, if it is not the one that the scheme uses by itself. -/
def port? (scheme : String) (digits : List Char) : Except ParseError (Option Nat) :=
  if !digits.all Char.isDigit then .error .invalidPort
  else
    let value := Number.digitsValue digits
    if value > 65535 then .error .invalidPort
    else if digits.isEmpty || some value == defaultPort? scheme then .ok none
    else .ok (some value)

/-- The text before and behind a mark. -/
def splitMark (mark : Char) (text : List Char) : List Char × Option (List Char) :=
  match text.dropWhile (· != mark) with
  | _ :: rest => (text.takeWhile (· != mark), some rest)
  | [] => (text, none)

/-- Path, query and fragment, not yet escaped. -/
def splitTail (text : List Char) : List Char × Option (List Char) × Option (List Char) :=
  let (beforeFragment, fragment) := splitMark '#' text
  let (path, query) := splitMark '?' beforeFragment
  (path, query, fragment)

/-- Adds query and fragment to a locator that has its other parts. -/
def withTail (url : Url) (query fragment : Option (List Char)) : Url :=
  { url with
    query := query.map fun text =>
      String.ofList (escape (if isSpecial url.scheme then specialQueryMarks else queryMarks) text)
    fragment := fragment.map fun text => String.ofList (escape fragmentMarks text) }

def bare (scheme : String) (path : String) : Url :=
  { scheme := scheme, credentials := "", host := none, port := none, path := path
    query := none, fragment := none }

/-- The path behind a server. Schemes with servers always have one. -/
def rootedPath (special : Bool) (text : List Char) : String :=
  match text with
  | [] => if special then "/" else ""
  | c :: rest => if isSlash special c then pathText special rest else pathText special text

/-- What follows two slashes: credentials, host, port, path, query and fragment. -/
def afterSlashes? (scheme : String) (text : List Char) : Except ParseError Url := do
  let special := isSpecial scheme
  let server := text.takeWhile (!endsAuthority special ·)
  let rest := text.drop server.length
  let (before, hostAndPort) := splitCredentials server
  if before == some [] && hostAndPort.isEmpty && !rest.isEmpty then throw .emptyHost
  let credentials := (before.map credentialText).getD ""
  let (hostText, portText) := splitPort false hostAndPort
  if hostText.isEmpty && (special || !credentials.isEmpty || portText.isSome) then throw .emptyHost
  let host ← if special then specialHost? hostText else otherHost? hostText
  let behindColon := portText.getD []
  let port ← port? scheme (behindColon.takeWhile (· != '\\'))
  let (path, query, fragment) := splitTail (behindColon.dropWhile (· != '\\') ++ rest)
  let url := { bare scheme (rootedPath special path) with
    credentials := credentials
    host := some (String.ofList host)
    port := port }
  return withTail url query fragment

/-- Locators of files have a host only when it is not this computer; the name of a drive is no host
and leaves none. -/
def file? (text : List Char) : Except ParseError Url := do
  let front := (withoutBreaks text).take 2
  let hasServer := front.length == 2 && front.all (isSlash true)
  let behind := if hasServer then afterChars 2 text else text
  let name := if hasServer then (withoutBreaks behind).takeWhile (!endsAuthority true ·) else []
  let server := if isDrive name then [] else name
  let host ← if server.isEmpty then pure [] else specialHost? server
  let rest := afterChars server.length behind
  let isTail := fun c => c == '?' || c == '#'
  let pathPart := rest.takeWhile (!isTail ·)
  let (_, query, fragment) := splitTail (withoutBreaks (rest.dropWhile (!isTail ·)))
  let isLocal := host.isEmpty || host == "localhost".toList
  let path := LocalPath.resolve {}
    (segmentsOf true (if hasServer && isLocal then pathPart else dropSlash pathPart))
  let shown := if isLocal || path.hasDrive then "" else String.ofList host
  return withTail { bare "file" path.text with host := some shown } query fragment

/-! ## Any locator -/

/-- Reads a locator that has no blanks at its ends. -/
def parseChars (text : List Char) : Except ParseError Url :=
  let plain := withoutBreaks text
  match scheme? plain with
  | none => .error .relativeWithoutBase
  | some (scheme, rest) =>
    if scheme == "file" then file? ((text.dropWhile (· != ':')).drop 1)
    else if isSpecial scheme then afterSlashes? scheme (rest.dropWhile (isSlash true))
    else
      match rest with
      | '/' :: '/' :: tail => afterSlashes? scheme tail
      | _ =>
        let (path, query, fragment) := splitTail rest
        let text := match path with
          | '/' :: tail => pathText false tail
          | _ => String.ofList (escape [] path)
        .ok (withTail (bare scheme text) query fragment)

def isTrimmed (c : Char) : Bool := c.toNat ≤ 32

/-- Reads a locator. -/
def parse (text : String) : Except ParseError Url :=
  let start := text.toList.dropWhile isTrimmed
  parseChars (start.reverse.dropWhile isTrimmed).reverse

end LivePipeline.Url
