import Mathlib.Data.List.Induction
import Mathlib.Data.List.Nodup
import LivePipeline.Engine
import LivePipeline.Proofs.Loading.Types
import LivePipeline.Proofs.Rebinding
import LivePipeline.Proofs.Runs

/-! The scope of a project's files, and what an edit of one of them leaves of the others. -/

namespace LivePipeline

namespace Table

variable {α : Type u}

theorem get?_eq_none {table : Table α} {key : String} (absent : get? table key = none) : key ∉ keys table := by
  induction table with
  | nil => simp [keys]
  | cons entry rest ih =>
    simp only [get?] at absent
    split at absent
    · cases absent
    · next apart =>
      rw [keys, List.map_cons, List.mem_cons, not_or]
      exact ⟨fun same => apart same.symm, ih absent⟩

theorem get?_of_not_mem {table : Table α} {key : String} (absent : key ∉ keys table) : get? table key = none := by
  cases found : get? table key with
  | none => rfl
  | some value => exact absurd (List.mem_map_of_mem (mem_of_get? found)) absent

/-- In a table with distinct keys every entry is found under its key. -/
theorem get?_of_mem {table : Table α} (distinct : (keys table).Nodup) {key : String} {value : α} (among : (key, value) ∈ table) :
    get? table key = some value := by
  induction table with
  | nil => cases among
  | cons entry rest ih =>
    obtain ⟨name, found⟩ := entry
    rw [keys, List.map_cons, List.nodup_cons] at distinct
    rcases List.mem_cons.mp among with same | behind
    · cases same
      simp [get?]
    · have apart : name ≠ key := fun same => distinct.1 (List.mem_map.mpr ⟨(key, value), behind, same.symm⟩)
      simp only [get?, apart, if_false]
      exact ih distinct.2 behind

end Table

namespace Scope

variable {scope : Scope} {files : List ProjectFile}

theorem withFiles_append (scope : Scope) (files : List ProjectFile) (file : ProjectFile) :
    scope.withFiles (files ++ [file]) = (scope.withFiles files).declare file.name file.id file.content := by
  rw [withFiles, List.foldl_append]
  rfl

/-- What is visible in the scope of the files is a file or was visible before. -/
theorem of_mem_withFiles {entry : String × Variable} (among : entry ∈ (scope.withFiles files).bindings) :
    entry ∈ scope.bindings ∨ ∃ file ∈ files, entry = (file.name, ⟨file.id, file.content⟩) := by
  induction files using List.reverseRecOn with
  | nil => exact .inl among
  | append_singleton before file ih =>
    rw [withFiles_append] at among
    rcases Table.of_mem_insert among with same | within
    · exact .inr ⟨file, by simp, same⟩
    · rcases ih within with outside | ⟨other, member, same⟩
      · exact .inl outside
      · exact .inr ⟨other, by simp [member], same⟩

theorem nodup_withFiles (distinct : (Table.keys scope.bindings).Nodup) : (Table.keys (scope.withFiles files).bindings).Nodup := by
  induction files using List.reverseRecOn with
  | nil => exact distinct
  | append_singleton before file ih =>
    rw [withFiles_append]
    exact Table.nodup_insert ih _ _

theorem mem_keys_withFiles {name : String} :
    name ∈ Table.keys (scope.withFiles files).bindings ↔ name ∈ Table.keys scope.bindings ∨ name ∈ files.map (·.name) := by
  induction files using List.reverseRecOn with
  | nil => simp [withFiles, child]
  | append_singleton before file ih =>
    rw [withFiles_append, List.map_append, List.mem_append, ← or_assoc, ← ih, List.map_singleton, List.mem_singleton]
    exact Table.mem_keys_insert

end Scope

namespace ProjectFile

variable {changed file : ProjectFile} {files : List ProjectFile}

theorem mem_replaceAll (changed : ProjectFile) (files : List ProjectFile) : changed ∈ changed.replaceAll files := by
  unfold replaceAll
  split
  · next some =>
    obtain ⟨other, member, same⟩ := List.any_eq_true.mp some
    exact List.mem_map.mpr ⟨other, member, if_pos (by simpa using same)⟩
  · exact List.mem_append_right _ (List.mem_singleton_self _)

/-- Every file with the identity is the new one, and the others are as they were. -/
theorem of_mem_replaceAll (among : file ∈ changed.replaceAll files) : file = changed ∨ file.id ≠ changed.id ∧ file ∈ files := by
  unfold replaceAll at among
  split at among
  · obtain ⟨other, member, placed⟩ := List.mem_map.mp among
    split at placed
    · exact .inl placed.symm
    · next apart => exact .inr ⟨placed ▸ apart, placed ▸ member⟩
  · next none =>
    rcases List.mem_append.mp among with before | last
    · exact .inr ⟨fun same => none (List.any_eq_true.mpr ⟨file, before, by simpa using same⟩), before⟩
    · exact .inl (List.mem_singleton.mp last)

theorem nodup_replaceAll (distinct : (files.map (·.id)).Nodup) : ((changed.replaceAll files).map (·.id)).Nodup := by
  unfold replaceAll
  split
  · have same : (files.map fun other => if other.id = changed.id then changed else other).map (·.id) = files.map (·.id) := by
      rw [List.map_map]
      refine List.map_congr_left fun other _ => ?_
      simp only [Function.comp]
      split
      · next own => exact own.symm
      · rfl
    rwa [same]
  · next none =>
    rw [List.map_append, List.nodup_append]
    refine ⟨distinct, by simp, fun id among own last => ?_⟩
    obtain ⟨file, member, rfl⟩ := List.mem_map.mp among
    cases List.mem_singleton.mp last
    intro same
    exact none (List.any_eq_true.mpr ⟨file, member, by simpa using same⟩)

end ProjectFile

/-! ## Statements in order -/

theorem Run.Yields.mapM_forall₂ {work : α → Run β} {relates : α → β → Prop} {items : List α}
    (each : ∀ item ∈ items, Yields (work item) (relates item)) : Yields (items.mapM work) (List.Forall₂ relates items) := by
  induction items with
  | nil => exact .pure .nil
  | cons item rest ih =>
    rw [List.forall_mem_cons] at each
    rw [List.mapM_cons]
    exact .bind each.1 fun value first => .bind (ih each.2) fun values others => .pure (.cons first others)

theorem map_eq_of_forall₂ {frame : α → γ} {frame' : β → γ} {items : List α} {values : List β}
    (all : List.Forall₂ (fun item value => frame' value = frame item) items values) : values.map frame' = items.map frame := by
  induction all with
  | nil => rfl
  | cons first _ ih => rw [List.map_cons, List.map_cons, first, ih]

theorem reviseEach_yields (known : Scope → Prop) {good : Statement → Prop} {revisables : List Revisable}
    (each : ∀ revisable ∈ revisables, ∀ scope, known scope → (revisable.revise scope).Yields fun outcome =>
      good outcome.1 ∧ known (scope.publish outcome.1.name outcome.1.id outcome.2)) {scope : Scope} (holds : known scope) :
    (reviseEach revisables scope).Yields fun outcome => (∀ statement ∈ outcome.1, good statement) ∧ known outcome.2 := by
  have ensured (revisable : Revisable) (among : revisable ∈ revisables) (scope : Scope) (holds : known scope) :
      Run.Ensures (fun _ => True) (revisable.revise scope) fun outcome =>
        good outcome.1 ∧ known (scope.publish outcome.1.name outcome.1.id outcome.2) :=
    fun world _ => ⟨trivial, each revisable among scope holds world⟩
  exact fun world => (reviseEach_ensures ensured holds world trivial).2

theorem Scope.revise_yields {scope : Scope} {body : List Statement} (good : List Statement → Prop)
    (all : (reviseEach (revisables body) scope.child).Yields fun outcome => good outcome.1) : (scope.revise body none).Yields good :=
  fun world => all world

/-! ## The pass over the files -/

theorem exists_of_mem_right {relates : α → β → Prop} {items : List α} {values : List β} (all : List.Forall₂ relates items values)
    {value : β} (among : value ∈ values) : ∃ item ∈ items, relates item value := by
  induction all with
  | nil => cases among
  | cons first _ ih =>
    rcases List.mem_cons.mp among with rfl | behind
    · exact ⟨_, List.mem_cons_self, first⟩
    · obtain ⟨item, member, related⟩ := ih behind
      exact ⟨item, List.mem_cons_of_mem _ member, related⟩

/-- What the pass returns for a file. The edited one was brought up to date before and stays as it is. -/
structure ProjectFile.Passes (changed : EntityId) (rebuilt : Data → Prop) (file returned : ProjectFile) : Prop where
  id : returned.id = file.id
  name : returned.name = file.name
  edited : file.id = changed → returned = file
  others : file.id ≠ changed → rebuilt returned.content

/-- The turn of one file in the pass. -/
theorem ProjectFile.passes {scope : Scope} {file : ProjectFile} {changed : EntityId} {rebuilt : Data → Prop}
    (others : file.id ≠ changed → (scope.reviseOperation file.content none).Yields rebuilt) : Run.Yields (do
      if file.id = changed then return file
      return { file with content := ← scope.reviseOperation file.content none }) (ProjectFile.Passes changed rebuilt file) := by
  split
  · next own => exact .pure ⟨rfl, rfl, fun _ => rfl, fun apart => absurd own apart⟩
  · next apart => exact .bind (others apart) fun _ good => .pure ⟨rfl, rfl, fun own => absurd own apart, fun _ => good⟩

/-- The edited file is brought up to date in the scope of the files before the edit, all others in the scope of the files
with that one in its place. -/
theorem Scope.reviseFiles_yields {scope : Scope} {files : List ProjectFile} {changed : ProjectFile} (edited : Data → Prop)
    (rebuilt : List ProjectFile → Data → Prop) (first : ((scope.withFiles files).reviseOperation changed.content none).Yields edited)
    (others : ∀ content, ∀ file ∈ ProjectFile.replaceAll { changed with content := content } files, file.id ≠ changed.id →
      ((scope.withFiles (ProjectFile.replaceAll { changed with content := content } files)).reviseOperation file.content none).Yields
        (rebuilt (ProjectFile.replaceAll { changed with content := content } files))) :
    (scope.reviseFiles files changed).Yields fun returned => ∃ content, edited content
      ∧ let placed := ProjectFile.replaceAll { changed with content := content } files
        List.Forall₂ (ProjectFile.Passes changed.id (rebuilt placed)) placed returned := by
  refine .bind first fun content holds world => ?_
  exact ⟨content, holds, Run.Yields.mapM_forall₂ (fun file among => ProjectFile.passes (others content file among)) world⟩

end LivePipeline
