import LivePipeline.Unicode.Age
import LivePipeline.Unicode.Binary
import LivePipeline.Unicode.Category
import LivePipeline.Unicode.Script
import LivePipeline.Unicode.Segment

/-! Classes of characters by name: properties with their values, and the classes that are written
between colons. -/

namespace LivePipeline.Pattern

/-- Names are compared without case, blanks, dashes, underscores and anything beyond ASCII, and
without a leading `is`. Only the name `isc` keeps it, which would become the name of another class. -/
def normalName (name : List Char) : String :=
  let bare (name : List Char) : List Char :=
    (name.filter fun c => c.toNat < 128 && c != ' ' && c != '_' && c != '-').map Char.toLower
  match name with
  | first :: second :: rest =>
    if first.toLower == 'i' && second.toLower == 's' then
      if bare rest == ['c'] then "isc" else String.ofList (bare rest)
    else String.ofList (bare name)
  | _ => String.ofList (bare name)

/-- A general category, or a group of them. -/
def category? (name : String) : Option CharSet :=
  let group (names : List String) : Option CharSet :=
    some (.unionAll (names.filterMap (namedSet? Unicode.categories)))
  match name with
  | "any" => some .any
  | "ascii" => some (.range 0 127)
  | "assigned" => (namedSet? Unicode.categories "cn").map (·.complement)
  | "l" | "letter" => group ["lu", "ll", "lt", "lm", "lo"]
  | "lc" | "casedletter" => group ["lu", "ll", "lt"]
  | "m" | "mark" | "combiningmark" => group ["mn", "mc", "me"]
  | "n" | "number" => group ["nd", "nl", "no"]
  | "p" | "punctuation" | "punct" => group ["pc", "pd", "ps", "pe", "pi", "pf", "po"]
  | "s" | "symbol" => group ["sm", "sc", "sk", "so"]
  | "z" | "separator" => group ["zs", "zl", "zp"]
  | "c" | "other" => group ["cc", "cf", "co", "cn"]
  | _ => namedSet? Unicode.categories name

def script? (name : String) : Option CharSet := namedSet? Unicode.scripts name

/-- What is used with a script: its own characters unless a list says otherwise. -/
def sharedScript? (name : String) : Option CharSet :=
  (namedSet? Unicode.sharedScripts name).or (script? name)

/-- The characters of a version and of those before it. -/
def age? (name : String) : Option CharSet :=
  let before := Unicode.additions.takeWhile fun addition => !addition.names.contains name
  (Unicode.additions[before.length]?).map fun addition =>
    .unionAll ((addition :: before).map (·.set))

/-- A class by a single name: a property, else a category, else a script. -/
def property? (name : List Char) : Option CharSet :=
  let name := normalName name
  ((namedSet? Unicode.binaryProperties name).or (category? name)).or (script? name)

/-- A class by the name of a property and its value. -/
def propertyWithValue? (property value : List Char) : Option CharSet :=
  let value := normalName value
  match normalName property with
  | "gc" | "generalcategory" => category? value
  | "sc" | "script" => script? value
  | "scx" | "scriptextensions" => sharedScript? value
  | "age" => age? value
  | "gcb" | "graphemeclusterbreak" => namedSet? Unicode.signBreaks value
  | "wb" | "wordbreak" => namedSet? Unicode.wordBreaks value
  | "sb" | "sentencebreak" => namedSet? Unicode.sentenceBreaks value
  | _ => none

def digits : CharSet := (category? "nd").getD .none

def blanks : CharSet := (namedSet? Unicode.binaryProperties "whitespace").getD .none

/-- Letters, marks, digits, connectors and the marks that join letters. -/
def wordCharacters : CharSet :=
  .unionAll ([namedSet? Unicode.binaryProperties "alphabetic", category? "m", category? "nd",
    category? "pc", namedSet? Unicode.binaryProperties "joincontrol"].filterMap id)

/-- A class that is written as a name between colons. -/
def asciiClass? (name : List Char) : Option CharSet :=
  let upper := CharSet.range 65 90
  let lower := CharSet.range 97 122
  let digit := CharSet.range 48 57
  match String.ofList name with
  | "alnum" => some (.unionAll [upper, lower, digit])
  | "alpha" => some (upper.union lower)
  | "ascii" => some (.range 0 127)
  | "blank" => some (.ofText "\t ")
  | "cntrl" => some ((CharSet.range 0 31).union (.range 127 127))
  | "digit" => some digit
  | "graph" => some (.range 33 126)
  | "lower" => some lower
  | "print" => some (.range 32 126)
  | "punct" => some (.unionAll [.range 33 47, .range 58 64, .range 91 96, .range 123 126])
  | "space" => some ((CharSet.range 9 13).union (.single ' '))
  | "upper" => some upper
  | "word" => some (.unionAll [upper, lower, digit, .single '_'])
  | "xdigit" => some (.unionAll [digit, .range 65 70, .range 97 102])
  | _ => none

end LivePipeline.Pattern
