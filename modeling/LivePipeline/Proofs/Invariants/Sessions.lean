import LivePipeline.Proofs.Files
import LivePipeline.Proofs.Invariants.Revision

/-! Sessions: all that is asked of an engine one after the other. What every step preserves is preserved by a session. -/

namespace LivePipeline

/-- What an engine can be asked for. -/
inductive Action where
  | evaluate (statements : List Statement)
  | evaluateFile (name : String)
  | revise (statements : List Statement) (edit : Option Edit)
  | reviseFile (file : ProjectFile)
  | addFile (file : ProjectFile)
  | load (project : Project)
  | createCall (data : Data) (name : String)
  | sweep

namespace Engine

/-- The engine goes on with its old project when a new one is refused. -/
def accept (engine : Engine) (outcome : Except ProjectError Engine) : Engine := (outcome.toOption).getD engine

/-- Does one thing; the engine goes on with the project that it has then. -/
def act (engine : Engine) : Action → Run Engine
  | .evaluate statements => do
    let _ ← engine.evaluateStatements statements
    return engine
  | .evaluateFile name =>
    match engine.evaluateFile name with
    | .ok run => do
      let _ ← run
      return engine
    | .error _ => return engine
  | .revise statements edit => do
    let _ ← engine.projectScope.revise statements edit
    return engine
  | .reviseFile file => return engine.accept (← engine.reviseFile file)
  | .addFile file => return engine.accept (engine.addFile file)
  | .load project => return engine.accept (engine.load project)
  | .createCall data name => do
    let _ ← engine.projectScope.createCall data name
    return engine
  | .sweep => do
    Engine.sweep
    return engine

def actAll (engine : Engine) : List Action → Run Engine
  | [] => return engine
  | action :: rest => do (← engine.act action).actAll rest

end Engine

theorem Scope.transport_withFiles (scope : Scope) (files : List ProjectFile) :
    (scope.withFiles files).transport = scope.transport := by
  induction files using List.reverseRecOn with
  | nil => rfl
  | append_singleton files file ih => rw [withFiles_append]; exact ih

theorem Engine.transport_accept {engine : Engine} {outcome : Except ProjectError Engine}
    (same : ∀ next, outcome = .ok next → next.scope.transport = engine.scope.transport) :
    (engine.accept outcome).scope.transport = engine.scope.transport := by
  cases outcome with
  | ok next => exact same next rfl
  | error _ => rfl

theorem Engine.transport_load {engine next : Engine} {project : Project} (loaded : engine.load project = .ok next) :
    next.scope.transport = engine.scope.transport := by
  unfold Engine.load at loaded
  cases valid : project.validated with
  | ok project => rw [valid] at loaded; cases loaded; rfl
  | error error => rw [valid] at loaded; cases loaded

theorem Engine.transport_act (engine : Engine) (action : Action) :
    (engine.act action).Yields fun next => next.scope.transport = engine.scope.transport := by
  cases action with
  | evaluateFile name =>
    rw [Engine.act]
    split
    · exact .behind _ fun _ => .pure rfl
    · exact .pure rfl
  | reviseFile file =>
    have loads : (engine.reviseFile file).Yields fun outcome => ∃ project, outcome = engine.load project :=
      .behind _ fun files => .pure ⟨_, rfl⟩
    exact .bind loads fun _ ⟨_, same⟩ => .pure (transport_accept fun next loaded => transport_load (same ▸ loaded))
  | addFile file => exact .pure (transport_accept fun next loaded => transport_load loaded)
  | load project => exact .pure (transport_accept fun next loaded => transport_load loaded)
  | _ => exact .behind _ fun _ => .pure rfl

section

variable {P : World → Prop} {transport : Option Transport} {engine : Engine}

namespace World.Invariant

variable (invariant : World.Invariant transport P)

include invariant

theorem reviseFiles {scope : Scope} (host : scope.transport = transport) (files : List ProjectFile) (changed : ProjectFile) :
    Run.Keeps P (scope.reviseFiles files changed) := by
  refine (invariant.reviseOperation ((scope.transport_withFiles _).trans host) _ _).bind fun content => ?_
  refine .mapM fun file _ => ?_
  dsimp only
  split
  · exact .pure _
  · exact (invariant.reviseOperation ((scope.transport_withFiles _).trans host) _ _).bind fun _ => .pure _

theorem act (host : engine.scope.transport = transport) (action : Action) : Run.Keeps P (engine.act action) := by
  have inside : engine.projectScope.transport = transport := (engine.scope.transport_withFiles _).trans host
  cases action with
  | evaluate statements => exact .bind (.bind (invariant.evaluateAll inside statements) fun _ => .pure _) fun _ => .pure _
  | evaluateFile name =>
    rw [Engine.act]
    unfold Engine.evaluateFile
    cases engine.project.file name with
    | ok file => exact (invariant.call inside file.content []).bind fun _ => .pure _
    | error error => exact .pure _
  | revise statements edit => exact (invariant.revise inside statements edit).bind fun _ => .pure _
  | reviseFile file => exact .bind (.bind (invariant.reviseFiles host _ file) fun _ => .pure _) fun _ => .pure _
  | addFile file => exact .pure _
  | load project => exact .pure _
  | createCall data name => exact (invariant.createCall inside data name).bind fun _ => .pure _
  | sweep => exact .bind (fun _ holds => invariant.results _ holds) fun _ => .pure _

theorem actAll (host : engine.scope.transport = transport) (session : List Action) : Run.Keeps P (engine.actAll session) := by
  induction session generalizing engine with
  | nil => exact .pure _
  | cons action rest ih =>
    exact (invariant.act host action).bindYields (engine.transport_act action) fun next same => ih (same.trans host)

end World.Invariant

end

end LivePipeline
