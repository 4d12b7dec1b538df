import LivePipeline.Project
import LivePipeline.Node.Decoding
import LivePipeline.Node.Encoding
import LivePipeline.Json.Parser
import LivePipeline.Json.Printer

/-! Projects as JSON. -/

namespace LivePipeline

open Decoder

namespace ProjectFile

def encode (file : ProjectFile) : Json :=
  .object [("id", .text file.id), ("name", .text file.name), ("type", .text "operation"),
    ("content", file.content.encode)]

/-- The fields of a file as far as they have been read. -/
structure Draft where
  id : Option EntityId := none
  name : Option String := none
  isTyped : Bool := false
  content : Option Data := none

def Draft.finish (draft : Draft) : Decoder ProjectFile := do
  let name ← ofOption draft.name
  if !draft.isTyped then malformed
  let content ← ofOption draft.content
  return ⟨← idOrFresh draft.id, name, content⟩

def Draft.read (draft : Draft) : String × Json → Decoder Draft
  | ("id", json) => return { draft with id := some (← ofOption json.text?) }
  | ("name", json) => return { draft with name := some (← ofOption json.text?) }
  | ("type", .text "operation") => return { draft with isTyped := true }
  | ("type", _) => malformed
  | ("content", json) => return { draft with content := some (← Data.decode json) }
  | _ => return draft

def decode : Json → Decoder ProjectFile
  | .object fields => do (← fields.foldlM Draft.read {}).finish
  | _ => malformed

end ProjectFile

namespace Project

def encode (project : Project) : Json :=
  .object [("id", .text project.id), ("name", .text project.name),
    ("files", .array (project.files.map ProjectFile.encode))]

/-- The fields of a project as far as they have been read. -/
structure Draft where
  id : Option EntityId := none
  name : Option String := none
  files : List ProjectFile := []

def Draft.finish (draft : Draft) : Decoder Project := do
  let name ← ofOption draft.name
  return ⟨← idOrFresh draft.id, name, draft.files⟩

def Draft.read (draft : Draft) : String × Json → Decoder Draft
  | ("id", json) => return { draft with id := some (← ofOption json.text?) }
  | ("name", json) => return { draft with name := some (← ofOption json.text?) }
  | ("files", .array items) => return { draft with files := ← items.mapM ProjectFile.decode }
  | ("files", _) => malformed
  | _ => return draft

def decode : Json → Decoder Project
  | .object fields => do (← fields.foldlM Draft.read {}).finish
  | _ => malformed

/-- A project as text. -/
def print (project : Project) : String := project.encode.pretty

/-- Reads a project from text. It need not be valid. -/
def parse (text : String) : Decoder Project := do decode (← ofOption (Json.parse? text))

end Project

end LivePipeline
