import LivePipeline.DataType

/-! Readable signatures of types. -/

namespace LivePipeline.DataType

/-- Enters one level of nesting, if one is left. -/
def withinLevel (levels : Option Nat) (text : Option Nat → String) : String :=
  match levels with
  | some 0 => "..."
  | some (n + 1) => text (some n)
  | none => text none

mutual

/-- A signature with at most `levels` levels of nesting (any number when `none`); what lies deeper
is written as dots. -/
def signatureWithin (levels : Option Nat) : DataType → String
  | reference target => signatureWithin levels target
  | error kind => "error<" ++ kind.label ++ ">"
  | type@unknown | type@never | type@undefined | type@string | type@number | type@boolean =>
    type.kind.label
  | array element => withinLevel levels fun inner =>
    let text := signatureWithin inner element
    match element.kind with
    | .union | .operation => "(" ++ text ++ ")[]"
    | _ => text ++ "[]"
  | tuple elements => withinLevel levels fun inner =>
    "[" ++ ", ".intercalate (signatures inner elements) ++ "]"
  | object properties required => withinLevel levels fun inner =>
    if properties.isEmpty then "\x7b\x7d"
    else "\x7b " ++ "; ".intercalate (propertySignatures inner required properties) ++ " \x7d"
  | dictionary element => withinLevel levels fun inner =>
    "\x7b [key: string]: " ++ signatureWithin inner element ++ " \x7d"
  | union members _ => withinLevel levels fun inner =>
    " | ".intercalate (signatures inner members)
  | operation parameters result => withinLevel levels fun inner =>
    "(" ++ ", ".intercalate (parameterSignatures inner parameters) ++ ") => "
      ++ signatureWithin inner result
  | condition result => withinLevel levels fun inner =>
    "condition<" ++ signatureWithin inner result ++ ">"
  | instanceOf className arguments => withinLevel levels fun inner =>
    if arguments.isEmpty then className
    else className ++ "<" ++ ", ".intercalate (argumentSignatures inner arguments) ++ ">"

def signatures (levels : Option Nat) : List DataType → List String
  | [] => []
  | type :: rest => signatureWithin levels type :: signatures levels rest

def propertySignatures (levels : Option Nat) (required : List String) :
    List (String × DataType) → List String
  | [] => []
  | (name, type) :: rest =>
    (name ++ (if required.contains name then "" else "?") ++ ": " ++ signatureWithin levels type)
      :: propertySignatures levels required rest

def parameterSignatures (levels : Option Nat) : List Parameter → List String
  | [] => []
  | ⟨name, type, isOptional⟩ :: rest =>
    let mark := if isOptional then "?" else ""
    let text := signatureWithin levels type
    (match name with
      | some name => name ++ mark ++ ": " ++ text
      | none => mark ++ text) :: parameterSignatures levels rest

def argumentSignatures (levels : Option Nat) : List Parameter → List String
  | [] => []
  | ⟨_, type, _⟩ :: rest => signatureWithin levels type :: argumentSignatures levels rest

end

/-- The whole signature. -/
def signature (type : DataType) : String := type.signatureWithin none

end LivePipeline.DataType
