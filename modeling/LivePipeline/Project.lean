import LivePipeline.Scope

/-! Projects: named operations that see each other by name. -/

namespace LivePipeline

/-- An operation under a name. -/
structure ProjectFile where
  id : EntityId
  name : String
  content : Data

structure Project where
  id : EntityId
  name : String
  files : List ProjectFile

inductive ProjectError where
  | notAnOperation (file : String)
  | duplicateName (file : String)
  | fileNotFound (file : String)
  deriving DecidableEq

def ProjectError.message : ProjectError → String
  | notAnOperation file => "file `" ++ file ++ "` does not contain an operation"
  | duplicateName file => "file name `" ++ file ++ "` is used more than once"
  | fileNotFound file => "file `" ++ file ++ "` not found"

namespace ProjectFile

/-- A new file. -/
def make (name : String) (content : Data) : Fresh ProjectFile := return ⟨← freshId, name, content⟩

/-- Whether the content is an operation, both by its value and by its type. -/
def holdsOperation (file : ProjectFile) : Bool :=
  match file.content.type.dereference with
  | .operation _ _ => file.content.isOperation
  | _ => false

def beq (a b : ProjectFile) : Bool := a.id == b.id && a.name == b.name && a.content == b.content

instance : BEq ProjectFile := ⟨beq⟩

/-- The first file that holds no operation, or that has the name of a file before it; `taken` are
the names before the list. -/
def firstFault? (taken : List String) : List ProjectFile → Option ProjectError
  | [] => none
  | file :: rest =>
    if !file.holdsOperation then some (.notAnOperation file.name)
    else if taken.contains file.name then some (.duplicateName file.name)
    else firstFault? (file.name :: taken) rest

/-- Puts a file in the place of the first one with its identity, or at the end. -/
def upsert (file : ProjectFile) : List ProjectFile → List ProjectFile
  | [] => [file]
  | other :: rest => if other.id = file.id then file :: rest else other :: upsert file rest

/-- Puts a file in the place of every one with its identity, or at the end. -/
def replaceAll (file : ProjectFile) (files : List ProjectFile) : List ProjectFile :=
  if files.any (·.id == file.id) then
    files.map fun other => if other.id = file.id then file else other
  else files ++ [file]

end ProjectFile

namespace Project

/-- A new project without files. -/
def make (name : String) : Fresh Project := return ⟨← freshId, name, []⟩

def beq (a b : Project) : Bool := a.id == b.id && a.name == b.name && a.files == b.files

instance : BEq Project := ⟨beq⟩

/-- A project is valid when every file holds an operation and no two files share a name. -/
def validated (project : Project) : Except ProjectError Project :=
  match ProjectFile.firstFault? [] project.files with
  | some error => .error error
  | none => .ok project

def file (project : Project) (name : String) : Except ProjectError ProjectFile :=
  match project.files.find? (·.name == name) with
  | some file => .ok file
  | none => .error (.fileNotFound name)

def upsert (project : Project) (file : ProjectFile) : Project :=
  { project with files := file.upsert project.files }

end Project

/-- The scope in which every file is a variable of its name. -/
def Scope.withFiles (scope : Scope) (files : List ProjectFile) : Scope :=
  files.foldl (fun scope file => scope.declare file.name file.id file.content) scope.child

end LivePipeline
