import LivePipeline.Project.Codec
import LivePipeline.Proofs.Files

/-! An engine has a valid project at all times. Whatever replaces the project is validated first, and a change that is
refused leaves the engine as it was; so every file can be seen and evaluated under its name. -/

namespace LivePipeline

/-! ## Valid projects -/

namespace ProjectFile

/-- Both the type and the value of the content are those of an operation. -/
theorem holdsOperation_iff {file : ProjectFile} : file.holdsOperation = true ↔
    (∃ parameters result, file.content.type.dereference = .operation parameters result)
      ∧ ∃ name parameters body, file.content.value = .operation name parameters body := by
  unfold holdsOperation Data.isOperation
  split
  · next parameters result typed =>
    split
    · next name parameters' body valued => simp [typed, valued]
    · next other =>
      constructor
      · intro absurdity
        cases absurdity
      · rintro ⟨_, name, parameters', body, valued⟩
        exact absurd valued (other name parameters' body)
  · next other =>
    constructor
    · intro absurdity
      cases absurdity
    · rintro ⟨⟨parameters, result, typed⟩, _⟩
      exact absurd typed (other parameters result)

/-- No fault is found in operations under names that are new. -/
theorem firstFault?_eq_none_iff {taken : List String} {files : List ProjectFile} : firstFault? taken files = none ↔
    (∀ file ∈ files, file.holdsOperation = true ∧ file.name ∉ taken) ∧ (files.map (·.name)).Nodup := by
  induction files generalizing taken with
  | nil => simp [firstFault?]
  | cons file rest ih =>
    rw [firstFault?]
    by_cases holds : file.holdsOperation = true
    · by_cases old : file.name ∈ taken
      · simp [holds, old]
      · rw [holds, Bool.not_true, if_neg Bool.false_ne_true, if_neg (by simpa using old), ih, List.forall_mem_cons,
          List.map_cons, List.nodup_cons]
        constructor
        · rintro ⟨others, distinct⟩
          refine ⟨⟨⟨holds, old⟩, ?_⟩, ?_, distinct⟩
          · intro other among
            exact ⟨(others other among).1, fun within => (others other among).2 (List.mem_cons_of_mem _ within)⟩
          · intro within
            obtain ⟨other, among, same⟩ := List.mem_map.mp within
            exact (others other among).2 (same ▸ List.mem_cons_self)
        · rintro ⟨⟨_, others⟩, new, distinct⟩
          refine ⟨?_, distinct⟩
          intro other among
          refine ⟨(others other among).1, ?_⟩
          intro within
          rcases List.mem_cons.mp within with same | earlier
          · exact new (List.mem_map.mpr ⟨other, among, same⟩)
          · exact (others other among).2 earlier
    · simp [holds]

end ProjectFile

/-- Every file holds an operation, and no two files share a name. -/
structure Project.Valid (project : Project) : Prop where
  operations : ∀ file ∈ project.files, file.holdsOperation = true
  distinct : (project.files.map (·.name)).Nodup

/-- A project passes validation unchanged when it is valid, and only then. -/
theorem Project.validated_eq_ok_iff {project result : Project} : project.validated = .ok result ↔ result = project ∧ project.Valid := by
  have faultless : ProjectFile.firstFault? [] project.files = none ↔ project.Valid := by
    rw [ProjectFile.firstFault?_eq_none_iff]
    constructor
    · rintro ⟨each, distinct⟩
      exact ⟨fun file among => (each file among).1, distinct⟩
    · intro valid
      exact ⟨fun file among => ⟨valid.operations file among, List.not_mem_nil⟩, valid.distinct⟩
  unfold Project.validated
  split
  · next fault found =>
    have invalid : ¬ project.Valid := fun valid => by simp [faultless.mpr valid] at found
    simp [invalid]
  · next none => simp [faultless.mp none, eq_comm]

/-! ## The scope of a project -/

/-- Files of different names are declared one after the other. -/
theorem Scope.withFiles_bindings {scope : Scope} (bare : scope.bindings = []) {files : List ProjectFile}
    (distinct : (files.map (·.name)).Nodup) :
    (scope.withFiles files).bindings = files.map fun file => (file.name, ⟨file.id, file.content⟩) := by
  induction files using List.reverseRecOn with
  | nil => exact bare
  | append_singleton before file ih =>
    rw [List.map_append, List.nodup_append] at distinct
    have new : file.name ∉ Table.keys (scope.withFiles before).bindings := by
      rw [mem_keys_withFiles, bare]
      rintro (outside | inside)
      · cases outside
      · exact distinct.2.2 _ inside _ List.mem_cons_self rfl
    rw [withFiles_append, Scope.declare, Table.insert_of_notMem new, ih distinct.1, List.map_append, List.map_singleton]

namespace Project

variable {project : Project} {file : ProjectFile}

theorem Valid.file_eq (valid : project.Valid) (among : file ∈ project.files) : project.file file.name = .ok file := by
  have found : project.files.find? (·.name == file.name) = some file := by
    cases first : project.files.find? (·.name == file.name) with
    | none => exact absurd (List.find?_eq_none.mp first file among) (by simp)
    | some other =>
      have named : other.name = file.name := by simpa using List.find?_some first
      exact congrArg some (List.inj_on_of_nodup_map valid.distinct (List.mem_of_find?_eq_some first) among named)
  rw [Project.file, found]

end Project

/-! ## Commands -/

namespace Engine

/-- What a host can do with an engine. -/
inductive Command where
  | load (text : String)
  | addFile (file : ProjectFile)
  | reviseFile (file : ProjectFile)
  | addExtension (extension : Extension)
  | connect (transport : Transport)
  | evaluateFile (name : String)
  | evaluate (statements : List Statement)
  | revise (statements : List Statement) (edit : Option Edit)
  | createCall (data : Data) (name : String)
  | sweep

/-- Why a command was refused. -/
inductive Refusal where
  | unreadable (error : DecodeError)
  | project (error : ProjectError)
  | extension (error : DuplicateExtension)
  | operation (error : UnavailableOperation)

/-- A command that is refused leaves the engine as it is. -/
def settle (engine : Engine) (refuse : ε → Refusal) : Except ε Engine → Engine × Option Refusal
  | .ok next => (next, none)
  | .error error => (engine, some (refuse error))

/-- Reads a project from text and exchanges the project of the engine for it. -/
def loadText (engine : Engine) (text : String) : Run (Engine × Option Refusal) := fun world =>
  match (Project.parse text).run world.nextId with
  | .error error => ((engine, some (.unreadable error)), world)
  | .ok (project, next) => (engine.settle .project (engine.load project), { world with nextId := next })

/-- Carries a command out. Evaluations happen in the world only. -/
def obey (engine : Engine) : Command → Run (Engine × Option Refusal)
  | .load text => engine.loadText text
  | .addFile file => return engine.settle .project (engine.addFile file)
  | .reviseFile file => return engine.settle .project (← engine.reviseFile file)
  | .addExtension extension => return engine.settle .extension (engine.addExtension extension)
  | .connect transport => return (engine.withTransport transport, none)
  | .evaluateFile name =>
    match engine.evaluateFile name with
    | .error error => return (engine, some (.project error))
    | .ok run => do
      let _ ← run
      return (engine, none)
  | .evaluate statements => do
    let _ ← engine.evaluateStatements statements
    return (engine, none)
  | .revise statements edit => do
    let _ ← engine.projectScope.revise statements edit
    return (engine, none)
  | .createCall data name => do
    match ← engine.projectScope.createCall data name with
    | .error error => return (engine, some (.operation error))
    | .ok _ => return (engine, none)
  | .sweep => do
    Engine.sweep
    return (engine, none)

/-- Carries commands out in order; those that are refused are passed over. -/
def obeyAll (engine : Engine) : List Command → Run Engine
  | [] => return engine
  | command :: rest => do
    let (next, _) ← engine.obey command
    next.obeyAll rest

/-- The project is valid, no two host operations share a name, and nothing but the files is declared. -/
structure Sound (engine : Engine) : Prop where
  valid : engine.project.Valid
  extensions : (engine.scope.extensions.map (·.name)).Nodup
  bare : engine.scope.bindings = []

/-- What a command comes to: a sound engine, and the old one if it was refused. -/
def Upheld (engine : Engine) (outcome : Engine × Option Refusal) : Prop :=
  outcome.1.Sound ∧ (outcome.2.isSome → outcome.1 = engine)

namespace Sound

variable {engine : Engine}

theorem make (options : Options) (start : Nat) : ((Engine.make options).run start).1.Sound := by
  refine ⟨⟨?_, List.nodup_nil⟩, List.nodup_nil, rfl⟩
  intro file among
  cases among

theorem unchanged (sound : engine.Sound) (refusal : Option Refusal) : engine.Upheld (engine, refusal) :=
  ⟨sound, fun _ => rfl⟩

theorem settle (sound : engine.Sound) {refuse : ε → Refusal} {outcome : Except ε Engine}
    (accepted : ∀ next, outcome = .ok next → next.Sound) : engine.Upheld (engine.settle refuse outcome) := by
  cases outcome with
  | error error => exact sound.unchanged _
  | ok next =>
    refine ⟨accepted next rfl, ?_⟩
    intro refused
    cases refused

/-- A project is exchanged for valid ones only. -/
theorem load (sound : engine.Sound) {project : Project} {next : Engine} (loaded : engine.load project = .ok next) : next.Sound := by
  unfold Engine.load at loaded
  cases passed : project.validated with
  | error error =>
    rw [passed] at loaded
    cases loaded
  | ok result =>
    rw [passed] at loaded
    cases loaded
    obtain ⟨same, valid⟩ := Project.validated_eq_ok_iff.mp passed
    exact ⟨same ▸ valid, sound.extensions, sound.bare⟩

/-- Host operations are added under new names only. -/
theorem addExtension (sound : engine.Sound) {extension : Extension} {next : Engine}
    (added : engine.addExtension extension = .ok next) : next.Sound := by
  unfold Engine.addExtension at added
  split at added
  · cases added
  · next free =>
    cases added
    refine ⟨sound.valid, ?_, sound.bare⟩
    rw [List.map_append, List.nodup_append]
    refine ⟨sound.extensions, List.nodup_singleton _, ?_⟩
    intro name earlier last isLast same
    subst same
    obtain ⟨other, among, named⟩ := List.mem_map.mp earlier
    have same : other.name = extension.name := named.trans (List.mem_singleton.mp isLast)
    apply free
    rw [Scope.extension?, List.find?_isSome]
    exact ⟨other, among, beq_iff_eq.mpr same⟩

/-- What one command preserves, and what it leaves alone when it is refused. -/
theorem obey (sound : engine.Sound) (command : Command) : (engine.obey command).Yields engine.Upheld := by
  cases command with
  | load text =>
    intro world
    change engine.Upheld (engine.loadText text world).1
    unfold loadText
    split
    · exact sound.unchanged _
    · exact sound.settle fun next loaded => sound.load loaded
  | addFile file => exact .pure (sound.settle fun next loaded => sound.load loaded)
  | reviseFile file =>
    have loads : (engine.reviseFile file).Yields fun outcome => ∃ project, outcome = engine.load project :=
      .behind _ fun files => .pure ⟨_, rfl⟩
    refine .bind loads ?_
    rintro outcome ⟨project, rfl⟩
    exact .pure (sound.settle fun next loaded => sound.load loaded)
  | addExtension extension => exact .pure (sound.settle fun next added => sound.addExtension added)
  | connect transport =>
    apply Run.Yields.pure
    refine ⟨⟨sound.valid, sound.extensions, sound.bare⟩, ?_⟩
    intro refused
    cases refused
  | evaluateFile name =>
    rw [Engine.obey]
    split
    · exact .pure (sound.unchanged _)
    · exact .behind _ fun _ => .pure (sound.unchanged _)
  | createCall data name =>
    apply Run.Yields.behind
    intro outcome
    cases outcome with
    | error error => exact .pure (sound.unchanged _)
    | ok call => exact .pure (sound.unchanged _)
  | evaluate statements => exact .behind _ fun _ => .pure (sound.unchanged _)
  | revise statements edit => exact .behind _ fun _ => .pure (sound.unchanged _)
  | sweep => exact .behind _ fun _ => .pure (sound.unchanged _)

/-- What a whole session preserves. -/
theorem obeyAll (sound : engine.Sound) (commands : List Command) : (engine.obeyAll commands).Yields Sound := by
  induction commands generalizing engine with
  | nil => exact .pure sound
  | cons command rest ih =>
    refine .bind (sound.obey command) ?_
    rintro ⟨next, refusal⟩ upheld
    exact ih upheld.1

theorem projectScope_bindings (sound : engine.Sound) : engine.projectScope.bindings
    = engine.project.files.map fun file => (file.name, ⟨file.id, file.content⟩) :=
  Scope.withFiles_bindings sound.bare sound.valid.distinct

theorem evaluateFile (sound : engine.Sound) {file : ProjectFile} (among : file ∈ engine.project.files) :
    engine.evaluateFile file.name = .ok (engine.projectScope.call file.content []) := by
  rw [Engine.evaluateFile, sound.valid.file_eq among]
  rfl

end Sound

/-- Whatever was asked of a new engine, every file of its project holds an operation, no two files share a name, and
neither do two host operations. The scope of the project declares the files and nothing else, each under its name, and
a file is evaluated by its name. A command that is refused has changed neither the project nor
the host operations. -/
theorem obeyAll_valid (options : Options) (start : Nat) (commands : List Command) (world : World) :
    let engine := (((Engine.make options).run start).1.obeyAll commands world).1
    (∀ file ∈ engine.project.files,
      (∃ parameters result, file.content.type.dereference = .operation parameters result)
        ∧ ∃ name parameters body, file.content.value = .operation name parameters body)
    ∧ (engine.project.files.map (·.name)).Nodup
    ∧ (engine.scope.extensions.map (·.name)).Nodup
    ∧ engine.projectScope.bindings = engine.project.files.map (fun file => (file.name, ⟨file.id, file.content⟩))
    ∧ (∀ file ∈ engine.project.files, engine.projectScope.variableNamed? file.name = some ⟨file.id, file.content⟩
      ∧ engine.evaluateFile file.name = .ok (engine.projectScope.call file.content []))
    ∧ ∀ command refusal world', ((engine.obey command world').1).2 = some refusal →
      ((engine.obey command world').1).1.project = engine.project
        ∧ ((engine.obey command world').1).1.scope.extensions = engine.scope.extensions := by
  intro engine
  have sound : engine.Sound := (Sound.make options start).obeyAll commands world
  refine ⟨?_, sound.valid.distinct, sound.extensions, sound.projectScope_bindings, ?_, ?_⟩
  · intro file among
    exact ProjectFile.holdsOperation_iff.mp (sound.valid.operations file among)
  · intro file among
    refine ⟨?_, sound.evaluateFile among⟩
    have distinct : (Table.keys engine.projectScope.bindings).Nodup := Scope.nodup_withFiles (by simp [sound.bare, Table.keys])
    apply Table.get?_of_mem distinct
    rw [sound.projectScope_bindings]
    exact List.mem_map.mpr ⟨file, among, rfl⟩
  · intro command refusal world' refused
    have upheld : engine.Upheld (engine.obey command world').1 := sound.obey command world'
    have same := upheld.2 (by rw [refused, Option.isSome_some])
    rw [same]
    exact ⟨rfl, rfl⟩

end Engine

end LivePipeline
