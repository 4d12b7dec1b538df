import LivePipeline.Revision
import LivePipeline.Project

/-! The engine keeps a project together with the root scope: the options, the operations that the
host provides, and the transport. -/

namespace LivePipeline

structure Engine where
  scope : Scope
  project : Project

/-- A host operation was registered under a name that is taken. -/
structure DuplicateExtension where
  name : String

def DuplicateExtension.message (error : DuplicateExtension) : String :=
  "extension `" ++ error.name ++ "` is already registered"

/-- Brings a project up to date after one of its files was edited: first that file, then all others
in the scope of the new files. -/
def Scope.reviseFiles (scope : Scope) (files : List ProjectFile) (changed : ProjectFile) :
    Run (List ProjectFile) := do
  let content ← (scope.withFiles files).reviseOperation changed.content none
  let changed := { changed with content := content }
  let files := changed.replaceAll files
  let inner := scope.withFiles files
  files.mapM fun file => do
    if file.id = changed.id then return file
    return { file with content := ← inner.reviseOperation file.content none }

namespace Engine

/-- An engine with an empty project. -/
def make (options : Options) : Fresh Engine :=
  return ⟨{ options := options }, ← Project.make "project"⟩

def addExtension (engine : Engine) (extension : Extension) : Except DuplicateExtension Engine :=
  if (engine.scope.extension? extension.name).isSome then .error ⟨extension.name⟩
  else
    let scope := { engine.scope with extensions := engine.scope.extensions ++ [extension] }
    .ok { engine with scope := scope }

def withTransport (engine : Engine) (transport : Transport) : Engine :=
  { engine with scope := { engine.scope with transport := some transport } }

/-- Exchanges the project for another one, if that is valid. -/
def load (engine : Engine) (project : Project) : Except ProjectError Engine :=
  return { engine with project := ← project.validated }

/-- Adds a file, or exchanges the one with its identity; the others stay as they are. -/
def addFile (engine : Engine) (file : ProjectFile) : Except ProjectError Engine :=
  engine.load (engine.project.upsert file)

/-- The scope in which all files of the project are visible. -/
def projectScope (engine : Engine) : Scope := engine.scope.withFiles engine.project.files

/-- Calls the operation of a file with its parameters at their defaults. -/
def evaluateFile (engine : Engine) (name : String) : Except ProjectError (Run Data) := do
  let file ← engine.project.file name
  return engine.projectScope.call file.content []

/-- Evaluates statements that belong to no file. -/
def evaluateStatements (engine : Engine) (statements : List Statement) : Run Data :=
  return (← engine.projectScope.evaluateAll statements).1

/-- Applies an edited file and brings the others in line. What was evaluated on the way stays
recorded when the outcome is refused. -/
def reviseFile (engine : Engine) (file : ProjectFile) : Run (Except ProjectError Engine) := do
  let files ← engine.scope.reviseFiles engine.project.files file
  return engine.load { engine.project with files := files }

/-- Forgets computed results, except those that may be reused. -/
def sweep : Run Unit := Run.updateStore Store.sweep

end Engine

end LivePipeline
