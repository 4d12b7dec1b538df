import Mathlib.Data.List.Perm.Basic
import LivePipeline.Proofs.Validity

/-! When an edited file is refused. All files are brought up to date before the project is validated anew; that keeps the
identities, the names, and which files hold operations, so a fault that validation finds was brought in by the edited file. -/

namespace LivePipeline

/-! ## Operations stay operations -/

/-- Both the type and the value are those of an operation. -/
structure Data.IsCallable (data : Data) : Prop where
  typed : ∃ parameters result, data.type.dereference = .operation parameters result
  valued : data.isOperation = true

theorem ProjectFile.holdsOperation_iff_isCallable {file : ProjectFile} : file.holdsOperation = true ↔ file.content.IsCallable := by
  unfold holdsOperation
  constructor
  · intro holds
    split at holds
    · next parameters result typed => exact ⟨⟨parameters, result, typed⟩, holds⟩
    · cases holds
  · rintro ⟨⟨parameters, result, typed⟩, valued⟩
    rw [typed]
    exact valued

/-- Whatever its type was, an operation comes out with the type of one. -/
theorem Scope.reviseOperation_callable (scope : Scope) {operation : Data} (holds : operation.isOperation = true) :
    (scope.reviseOperation operation none).Yields Data.IsCallable := by
  unfold Scope.reviseOperation
  split
  · next name parameters body value =>
    refine .behind _ fun bound => .behind _ fun body => ?_
    exact fun world => ⟨⟨_, _, rfl⟩, rfl⟩
  · next other =>
    unfold Data.isOperation at holds
    split at holds
    · next name parameters body value => exact absurd value (other name parameters body)
    · cases holds

/-- Other data is kept. -/
theorem Scope.reviseOperation_kept (scope : Scope) {operation : Data} (other : operation.isOperation = false) :
    scope.reviseOperation operation none = pure operation := by
  unfold Scope.reviseOperation
  split
  · next name parameters body value => simp [Data.isOperation, value] at other
  · rfl

theorem Scope.reviseOperation_isOperation (scope : Scope) (operation : Data) (world : World) :
    (scope.reviseOperation operation none world).1.isOperation = operation.isOperation := by
  cases holds : operation.isOperation with
  | true => exact (scope.reviseOperation_callable holds world).valued
  | false =>
    rw [scope.reviseOperation_kept holds]
    exact holds

/-! ## Places and names -/

namespace ProjectFile

variable {file : ProjectFile} {files : List ProjectFile}

theorem upsert_of_absent (absent : ∀ other ∈ files, other.id ≠ file.id) : file.upsert files = files ++ [file] := by
  induction files with
  | nil => rfl
  | cons other rest ih =>
    rw [List.forall_mem_cons] at absent
    rw [upsert, if_neg absent.1, ih absent.2, List.cons_append]

/-- A file without its like in the list is put where it belongs. -/
theorem map_eq_upsert (present : file.id ∈ files.map (·.id)) (single : (files.map (·.id)).count file.id ≤ 1) :
    (files.map fun other => if other.id = file.id then file else other) = file.upsert files := by
  induction files with
  | nil => cases present
  | cons other rest ih =>
    rw [List.map_cons] at present single ⊢
    rw [upsert]
    by_cases own : other.id = file.id
    · rw [if_pos own, if_pos own]
      rw [own, List.count_cons_self] at single
      have gone : file.id ∉ rest.map (·.id) := List.count_eq_zero.mp (by omega)
      congr 1
      refine (List.map_congr_left fun other among => ?_).trans (List.map_id rest)
      exact if_neg fun same => gone (List.mem_map.mpr ⟨other, among, same⟩)
    · rw [if_neg own, if_neg own]
      rw [List.count_cons_of_ne own] at single
      rw [ih ((List.mem_cons.mp present).resolve_left (Ne.symm own)) single]

theorem replaceAll_eq_upsert (single : (files.map (·.id)).count file.id ≤ 1) : file.replaceAll files = file.upsert files := by
  unfold replaceAll
  split
  · next some =>
    obtain ⟨other, member, same⟩ := List.any_eq_true.mp some
    exact map_eq_upsert (List.mem_map.mpr ⟨other, member, by simpa using same⟩) single
  · next none =>
    refine (upsert_of_absent ?_).symm
    intro other member same
    exact none (List.any_eq_true.mpr ⟨other, member, by simpa using same⟩)

/-- The others stay in their order. -/
theorem filter_replaceAll (file : ProjectFile) (files : List ProjectFile) :
    (file.replaceAll files).filter (·.id ≠ file.id) = files.filter (·.id ≠ file.id) := by
  unfold replaceAll
  split
  · rw [List.filter_map]
    have kept : files.filter ((fun other => decide (other.id ≠ file.id)) ∘ fun other => if other.id = file.id then file else other)
        = files.filter (·.id ≠ file.id) := by
      refine List.filter_congr fun other _ => ?_
      by_cases own : other.id = file.id
      · simp [own]
      · simp [own]
    rw [kept]
    refine (List.map_congr_left fun other among => ?_).trans (List.map_id _)
    exact if_neg (by simpa using (List.mem_filter.mp among).2)
  · simp

/-- The names of the others, and that of the new file for each file that it replaces, or once. -/
theorem names_replaceAll (file : ProjectFile) (files : List ProjectFile) : ((file.replaceAll files).map (·.name)).Perm
    ((files.filter (·.id ≠ file.id)).map (·.name) ++ List.replicate (max 1 ((files.map (·.id)).count file.id)) file.name) := by
  unfold replaceAll
  split
  · next some =>
    obtain ⟨other, member, same⟩ := List.any_eq_true.mp some
    have present : 0 < (files.map (·.id)).count file.id :=
      List.count_pos_iff.mpr (List.mem_map.mpr ⟨other, member, by simpa using same⟩)
    have apart := List.filter_append_perm (fun other : ProjectFile => decide (other.id ≠ file.id)) files
    refine ((apart.symm.map _).map _).trans (List.Perm.of_eq ?_)
    rw [List.map_append, List.map_append, List.map_map, List.map_map, Nat.max_eq_right present]
    congr 1
    · refine List.map_congr_left fun other among => ?_
      have others : other.id ≠ file.id := by simpa using (List.mem_filter.mp among).2
      exact congrArg ProjectFile.name (if_neg others)
    · refine List.eq_replicate_iff.mpr ⟨?_, ?_⟩
      · rw [List.length_map, List.count, List.countP_map, List.countP_eq_length_filter]
        congr 1
        refine List.filter_congr fun other _ => ?_
        simp only [Function.comp, beq_eq_decide, decide_not, Bool.not_not]
      · intro name among
        obtain ⟨other, member, rfl⟩ := List.mem_map.mp among
        have own : other.id = file.id := by simpa using (List.mem_filter.mp member).2
        exact congrArg ProjectFile.name (if_pos own)
  · next none =>
    have absent : ∀ other ∈ files, other.id ≠ file.id := fun other member same =>
      none (List.any_eq_true.mpr ⟨other, member, by simpa using same⟩)
    have gone : (files.map (·.id)).count file.id = 0 := by
      refine List.count_eq_zero.mpr fun among => ?_
      obtain ⟨other, member, same⟩ := List.mem_map.mp among
      exact absent other member same
    have all : files.filter (·.id ≠ file.id) = files := List.filter_eq_self.mpr (by simpa using absent)
    rw [gone, all, List.map_append]
    exact List.Perm.refl _

end ProjectFile

/-! ## Faults -/

/-- The first fault of a list: behind operations stands a file that is none, or one whose name was there before. -/
theorem ProjectFile.firstFault?_eq_some {taken : List String} {files : List ProjectFile} {fault : ProjectError}
    (found : firstFault? taken files = some fault) : ∃ before file after, files = before ++ file :: after
      ∧ (∀ earlier ∈ before, earlier.holdsOperation = true)
      ∧ (file.holdsOperation = false ∧ fault = .notAnOperation file.name
        ∨ file.holdsOperation = true ∧ file.name ∈ taken ++ before.map (·.name) ∧ fault = .duplicateName file.name) := by
  induction files generalizing taken with
  | nil => cases found
  | cons file rest ih =>
    rw [firstFault?] at found
    by_cases holds : file.holdsOperation = true
    · rw [holds, Bool.not_true, if_neg Bool.false_ne_true] at found
      by_cases old : file.name ∈ taken
      · rw [if_pos (by simpa using old)] at found
        exact ⟨[], file, rest, rfl, by simp, .inr ⟨holds, by simpa using old, (Option.some.inj found).symm⟩⟩
      · rw [if_neg (by simpa using old)] at found
        obtain ⟨before, fault, after, rfl, earlier, kind⟩ := ih found
        refine ⟨file :: before, fault, after, rfl, List.forall_mem_cons.mpr ⟨holds, earlier⟩, ?_⟩
        simpa [or_assoc, or_comm, or_left_comm] using kind
    · have other : file.holdsOperation = false := by simpa using holds
      rw [other] at found
      exact ⟨[], file, rest, rfl, by simp, .inl ⟨other, (Option.some.inj found).symm⟩⟩

/-! ## The files that an edit leaves -/

/-- The edited file comes out as `edited`, and every file of the list holds an operation. -/
theorem Scope.reviseFiles_passes {scope : Scope} {files : List ProjectFile} (operations : ∀ file ∈ files, file.holdsOperation = true)
    (changed : ProjectFile) (world : World) :
    let edited := { changed with content := ((scope.withFiles files).reviseOperation changed.content none world).1 }
    List.Forall₂ (ProjectFile.Passes edited.id Data.IsCallable) (edited.replaceAll files) (scope.reviseFiles files changed world).1 := by
  intro edited
  refine Run.Yields.mapM_forall₂ (fun file among => ProjectFile.passes fun apart => ?_) _
  obtain ⟨-, member⟩ := (ProjectFile.of_mem_replaceAll among).resolve_left fun same => apart (congrArg ProjectFile.id same)
  exact Scope.reviseOperation_callable _ (ProjectFile.holdsOperation_iff_isCallable.mp (operations file member)).valued

section

variable {edited : ProjectFile} {files returned : List ProjectFile}

namespace ProjectFile

/-- The file can only be refused for its name: another file has it, or it would stand in several places. -/
def Clashes (file : ProjectFile) (files : List ProjectFile) : Prop :=
  (∃ other ∈ files, other.id ≠ file.id ∧ other.name = file.name) ∨ 1 < (files.map (·.id)).count file.id

variable (passed : List.Forall₂ (Passes edited.id Data.IsCallable) (edited.replaceAll files) returned)

include passed

theorem names_of_passed : returned.map (·.name) = (edited.replaceAll files).map (·.name) :=
  map_eq_of_forall₂ (passed.imp fun _ _ pass => pass.name)

theorem others_of_passed : (returned.filter (·.id ≠ edited.id)).map (·.name) = (files.filter (·.id ≠ edited.id)).map (·.name) := by
  have frames : returned.map (fun file => (file.id, file.name)) = (edited.replaceAll files).map (fun file => (file.id, file.name)) :=
    map_eq_of_forall₂ (passed.imp fun _ _ pass => Prod.ext pass.id pass.name)
  have told (list : List ProjectFile) : (list.filter (·.id ≠ edited.id)).map (·.name)
      = ((list.map fun file => (file.id, file.name)).filter (·.1 ≠ edited.id)).map (·.2) := by
    rw [List.filter_map, List.map_map]
    rfl
  rw [told, frames, ← told, filter_replaceAll]

theorem edited_of_passed {file : ProjectFile} (among : file ∈ returned) (own : file.id = edited.id) : file = edited := by
  obtain ⟨before, member, pass⟩ := exists_of_mem_right passed among
  have same : before.id = edited.id := pass.id.symm.trans own
  rw [pass.edited same]
  exact (of_mem_replaceAll member).resolve_right fun other => other.1 same

theorem holds_of_passed {file : ProjectFile} (among : file ∈ returned) (apart : file.id ≠ edited.id) : file.holdsOperation = true := by
  obtain ⟨before, member, pass⟩ := exists_of_mem_right passed among
  exact holdsOperation_iff_isCallable.mpr (pass.others fun same => apart (pass.id.trans same))

theorem mem_of_passed : edited ∈ returned := by
  obtain ⟨file, among, pass⟩ := exists_of_mem_right passed.flip (mem_replaceAll edited files)
  rwa [← edited_of_passed passed among pass.id]

/-- A name that is there twice is that of the edited file. -/
theorem name_of_passed (distinct : (files.map (·.name)).Nodup) {name : String} (twice : 1 < (returned.map (·.name)).count name) :
    name = edited.name := by
  rw [names_of_passed passed, (names_replaceAll edited files).count_eq, List.count_append] at twice
  have once : ((files.filter (·.id ≠ edited.id)).map (·.name)).count name ≤ 1 :=
    List.nodup_iff_count_le_one.mp (distinct.sublist (List.filter_sublist.map _)) name
  by_contra other
  rw [List.count_replicate, if_neg (by simpa using Ne.symm other)] at twice
  omega

theorem nodup_of_passed (distinct : (files.map (·.name)).Nodup) : (returned.map (·.name)).Nodup ↔ ¬ edited.Clashes files := by
  have others : ((files.filter (·.id ≠ edited.id)).map (·.name)).Nodup := distinct.sublist (List.filter_sublist.map _)
  rw [names_of_passed passed, (names_replaceAll edited files).nodup_iff, List.nodup_append, List.nodup_replicate, Clashes, not_or,
    Nat.not_lt]
  constructor
  · rintro ⟨-, single, apart⟩
    refine ⟨?_, by omega⟩
    rintro ⟨other, member, elsewhere, named⟩
    have among : other.name ∈ (files.filter (·.id ≠ edited.id)).map (·.name) :=
      List.mem_map.mpr ⟨other, List.mem_filter.mpr ⟨member, by simpa using elsewhere⟩, rfl⟩
    exact apart other.name among edited.name (List.mem_replicate.mpr ⟨by omega, rfl⟩) named
  · rintro ⟨free, single⟩
    refine ⟨others, by omega, ?_⟩
    intro name among own same named
    obtain ⟨other, member, rfl⟩ := List.mem_map.mp among
    obtain ⟨member, elsewhere⟩ := List.mem_filter.mp member
    exact free ⟨other, member, by simpa using elsewhere, named.trans (List.mem_replicate.mp same).2⟩

/-- Where the edited file holds no operation, that is the fault. -/
theorem fault_of_other (distinct : (files.map (·.name)).Nodup) (other : edited.content.isOperation = false) :
    firstFault? [] returned = some (.notAnOperation edited.name) := by
  have refused : edited.holdsOperation ≠ true := fun holds => by
    simp [(holdsOperation_iff_isCallable.mp holds).valued] at other
  cases found : firstFault? [] returned with
  | none => exact absurd ((firstFault?_eq_none_iff.mp found).1 edited (mem_of_passed passed)).1 refused
  | some fault =>
    obtain ⟨before, file, after, whole, earlier, ⟨fails, rfl⟩ | ⟨holds, twice, -⟩⟩ := firstFault?_eq_some found
    · have among : file ∈ returned := by simp [whole]
      have own : file.id = edited.id := by
        by_contra apart
        simp [holds_of_passed passed among apart] at fails
      rw [edited_of_passed passed among own]
    · -- The names of the files up to here are names of others, which differ.
      have apart : ∀ listed ∈ before ++ [file], listed.id ≠ edited.id := by
        intro listed inside own
        have among : listed ∈ returned := by
          rw [whole]
          rcases List.mem_append.mp inside with first | last
          · exact List.mem_append_left _ first
          · exact List.mem_append_right _ (List.mem_singleton.mp last ▸ List.mem_cons_self)
        have operation : listed.holdsOperation = true := by
          rcases List.mem_append.mp inside with first | last
          · exact earlier listed first
          · rwa [List.mem_singleton.mp last]
        exact refused (edited_of_passed passed among own ▸ operation)
      have prefixOf : ((before ++ [file]).map (·.name)).Sublist ((returned.filter (·.id ≠ edited.id)).map (·.name)) := by
        have all : (before ++ [file]).filter (·.id ≠ edited.id) = before ++ [file] :=
          List.filter_eq_self.mpr fun listed inside => decide_eq_true (apart listed inside)
        have first : (before ++ [file]).Sublist returned := by
          rw [whole, List.append_cons before file after]
          exact List.sublist_append_left _ _
        rw [← all]
        exact (first.filter _).map _
      have names : ((before ++ [file]).map (·.name)).Nodup := by
        refine List.Nodup.sublist prefixOf ?_
        rw [others_of_passed passed]
        exact distinct.sublist (List.filter_sublist.map _)
      rw [List.map_append, List.nodup_append] at names
      exact absurd rfl (names.2.2 file.name (by simpa using twice) file.name (by simp))

/-- An operation is refused for its name only. -/
theorem fault_of_operation (distinct : (files.map (·.name)).Nodup) (callable : edited.content.IsCallable) :
    (edited.Clashes files → firstFault? [] returned = some (.duplicateName edited.name))
      ∧ (¬ edited.Clashes files → firstFault? [] returned = none) := by
  have all : ∀ file ∈ returned, file.holdsOperation = true := by
    intro file among
    by_cases own : file.id = edited.id
    · rw [edited_of_passed passed among own]
      exact holdsOperation_iff_isCallable.mpr callable
    · exact holds_of_passed passed among own
  constructor
  · intro clashes
    cases found : firstFault? [] returned with
    | none => exact absurd clashes ((nodup_of_passed passed distinct).mp (firstFault?_eq_none_iff.mp found).2)
    | some fault =>
      obtain ⟨before, file, after, whole, -, ⟨fails, -⟩ | ⟨-, twice, rfl⟩⟩ := firstFault?_eq_some found
      · simp [all file (by simp [whole])] at fails
      · have repeated : 1 < (returned.map (·.name)).count file.name := by
          have earlier : 0 < (before.map (·.name)).count file.name := List.count_pos_iff.mpr (by simpa using twice)
          rw [whole, List.map_append, List.map_cons, List.count_append, List.count_cons_self]
          omega
        rw [name_of_passed passed distinct repeated]
  · intro free
    exact firstFault?_eq_none_iff.mpr ⟨fun file among => ⟨all file among, List.not_mem_nil⟩, (nodup_of_passed passed distinct).mpr free⟩

end ProjectFile

end

/-! ## Updating a file of an engine -/

namespace Engine

theorem load_eq (engine : Engine) (project : Project) : engine.load project
    = match ProjectFile.firstFault? [] project.files with
      | some fault => .error fault
      | none => .ok { engine with project := project } := by
  unfold load Project.validated
  cases ProjectFile.firstFault? [] project.files with
  | some fault => rfl
  | none => rfl

/-- An update of a file is refused exactly when the file holds no operation, when another file has its name, or when its
identity is that of several files. Otherwise it stands, brought up to date, in the place of the file with its identity,
or at the end, and all other files keep their places, identities and names. -/
theorem reviseFile_refused_iff {engine : Engine} (valid : engine.project.Valid) (file : ProjectFile) (world : World) :
    let outcome := (engine.reviseFile file world).1
    let files := engine.project.files
    let content := ((engine.scope.withFiles files).reviseOperation file.content none world).1
    ((∃ error, outcome = .error error) ↔ file.content.isOperation = false
      ∨ (∃ other ∈ files, other.id ≠ file.id ∧ other.name = file.name) ∨ 1 < (files.map (·.id)).count file.id)
    ∧ (file.content.isOperation = false → outcome = .error (.notAnOperation file.name))
    ∧ (file.content.isOperation = true →
      (∃ other ∈ files, other.id ≠ file.id ∧ other.name = file.name) ∨ 1 < (files.map (·.id)).count file.id →
      outcome = .error (.duplicateName file.name))
    ∧ ∀ next, outcome = .ok next → next.scope = engine.scope
      ∧ next.project.id = engine.project.id ∧ next.project.name = engine.project.name
      ∧ List.Forall₂ (fun before after => after.id = before.id ∧ after.name = before.name ∧ (before.id = file.id → after = before))
        (ProjectFile.upsert { file with content := content } files) next.project.files := by
  intro outcome files content
  let edited : ProjectFile := { file with content := content }
  let returned := (engine.scope.reviseFiles files file world).1
  have loaded : outcome = engine.load { engine.project with files := returned } := rfl
  rw [load_eq] at loaded
  have passed : List.Forall₂ (ProjectFile.Passes edited.id Data.IsCallable) (edited.replaceAll files) returned :=
    Scope.reviseFiles_passes valid.operations file world
  have other (data : file.content.isOperation = false) : outcome = .error (.notAnOperation file.name) := by
    have unchanged : edited.content.isOperation = false := (Scope.reviseOperation_isOperation _ _ world).trans data
    rw [loaded, ProjectFile.fault_of_other passed valid.distinct unchanged]
  have operation (data : file.content.isOperation = true) :
      (edited.Clashes files → outcome = .error (.duplicateName file.name))
        ∧ (¬ edited.Clashes files → outcome = .ok { engine with project := { engine.project with files := returned } }) := by
    have callable : edited.content.IsCallable := Scope.reviseOperation_callable _ data world
    obtain ⟨refused, accepted⟩ := ProjectFile.fault_of_operation passed valid.distinct callable
    refine ⟨fun clashes => ?_, fun free => ?_⟩
    · rw [loaded, refused clashes]
    · rw [loaded, accepted free]
  have decided : (∃ error, outcome = .error error) ↔ file.content.isOperation = false ∨ edited.Clashes files := by
    constructor
    · rintro ⟨error, refused⟩
      by_contra neither
      rw [not_or, Bool.not_eq_false] at neither
      rw [(operation neither.1).2 neither.2] at refused
      cases refused
    · rintro (data | clashes)
      · exact ⟨_, other data⟩
      · cases data : file.content.isOperation with
        | true => exact ⟨_, (operation data).1 clashes⟩
        | false => exact ⟨_, other data⟩
  refine ⟨decided, other, fun data => (operation data).1, ?_⟩
  intro next accepted
  have sound : ¬ ∃ error, outcome = .error error := by
    rintro ⟨error, refused⟩
    rw [accepted] at refused
    cases refused
  rw [decided, not_or, Bool.not_eq_false] at sound
  obtain ⟨data, free⟩ := sound
  rw [(operation data).2 free] at accepted
  cases accepted
  have single : (files.map (·.id)).count edited.id ≤ 1 := Nat.not_lt.mp fun several => free (.inr several)
  rw [ProjectFile.replaceAll_eq_upsert single] at passed
  exact ⟨rfl, rfl, rfl, passed.imp fun _ _ pass => ⟨pass.id, pass.name, pass.edited⟩⟩

/-- A file cannot take the name of another one. -/
theorem reviseFile_refused_taken :
    let file (id name : String) : ProjectFile := ⟨id, name, ⟨id ++ "-content", .operation [] .unknown, .operation none [] []⟩⟩
    let engine : Engine := ⟨{}, ⟨"p", "shop", [file "a" "prices", file "b" "orders"]⟩⟩
    engine.project.Valid ∧ (engine.reviseFile (file "a" "orders") {}).1 = .error (.duplicateName "orders") := by
  intro file engine
  have valid : engine.project.Valid := ⟨by decide, by decide⟩
  refine ⟨valid, (reviseFile_refused_iff valid (file "a" "orders") {}).2.2.1 rfl (.inl ⟨file "b" "orders", ?_, by decide, rfl⟩)⟩
  exact List.mem_cons_of_mem _ List.mem_cons_self

/-- Two files that share an identity: neither of them can be updated, not even to what it is, although no file of another
identity has its name. Adding that file again is accepted and changes nothing. -/
theorem shared_identity_refused :
    let file (name : String) : ProjectFile := ⟨"a", name, ⟨"content", .operation [] .unknown, .operation none [] []⟩⟩
    let engine : Engine := ⟨{}, ⟨"p", "shop", [file "prices", file "orders"]⟩⟩
    engine.project.Valid ∧ (file "prices").content.isOperation = true
      ∧ (¬ ∃ other ∈ engine.project.files, other.id ≠ "a" ∧ other.name = "prices")
      ∧ (engine.reviseFile (file "prices") {}).1 = .error (.duplicateName "prices")
      ∧ engine.addFile (file "prices") = .ok engine := by
  intro file engine
  have valid : engine.project.Valid := ⟨by decide, by decide⟩
  have alone : ¬ ∃ other ∈ engine.project.files, other.id ≠ "a" ∧ other.name = "prices" := by simp [engine, file]
  exact ⟨valid, rfl, alone, rfl, rfl⟩

end Engine

end LivePipeline
