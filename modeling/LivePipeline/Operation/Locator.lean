import LivePipeline.Operation.Instance

/-! Operations on locators of resources. -/

namespace LivePipeline.Operation

def toUrl : EagerHandler := fun _ _ data _ => do
  let url ← parseUrl (← expectText "toUrl" data)
  let href ← (Data.text url.href : Attempt Data)
  createInstance urlClass urlType [href] (.url url)

def expectUrl (name : String) (data : Data) : Attempt Url := do
  match ← expectExternal name data with
  | .url url => return url
  | _ => throw (.unexpected name .url data)

/-- An operation that reads a text off a locator. -/
def urlField (name : String) (read : Url → String) : EagerHandler := fun _ _ data _ => do
  Data.text (read (← expectUrl name data))

/-- A part behind its mark; nothing when the part is absent or empty. -/
def marked (mark : String) (part : Option String) : String :=
  match part with
  | some text => if text.isEmpty then "" else mark ++ text
  | none => ""

def searchParams : EagerHandler := fun _ _ data _ => do
  let url ← expectUrl "getSearchParams" data
  let pairs := (url.query.map Url.pairsOfQuery).getD []
  let entries ← pairs.mapM fun (key, value) => do
    let value ← (Data.text value : Attempt Data)
    let statement ← (Statement.make value : Attempt Statement)
    return (key, statement)
  Data.make (.dictionary .string) (.record (Table.ofEntries entries))

def locatorFamily : List Builtin :=
  let alone := takes urlType []
  let field (name : String) (read : Url → String) : Builtin :=
    .eager name urlClass alone returnsString (urlField name read)
  [field "getHref" Url.href,
  field "getProtocol" fun url => url.scheme ++ ":",
  field "getHost" Url.hostText,
  field "getPathname" (·.path),
  field "getSearch" fun url => marked "?" url.query,
  field "getHash" fun url => marked "#" url.fragment,
  .eager "getSearchParams" urlClass alone (fun _ _ => .dictionary .string) searchParams]

end LivePipeline.Operation
