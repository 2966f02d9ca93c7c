import Mathlib.Data.List.Find
import ColumnQuery.Command.Run

/-!
# Files of a run

A run looks at the file of settings that its request names, at the usual ones, and at the file of
its input. Whatever stands at other paths does not matter (`run_eq_of_paths`), so these files can be
taken up before the run.
-/
namespace ColumnQuery.Command

namespace Surroundings

variable (surroundings : Surroundings) {file : String → Except FileFault String} {path : String}

/-- Surroundings with other files. -/
def withFiles (file : String → Except FileFault String) : Surroundings := { surroundings with file }

/-- The expression of a path is looked up in its file only. -/
theorem exprOf_withFiles (same : file path = surroundings.file path) :
    (surroundings.withFiles file).exprOf path = surroundings.exprOf path := by
  simp only [exprOf, withFiles, same]

/-- The settings of a path are looked up in its file only. -/
theorem settingsOf_withFiles (same : file path = surroundings.file path) :
    (surroundings.withFiles file).settingsOf path = surroundings.settingsOf path := by
  simp only [settingsOf, withFiles, same]

/-- Whether there is something at a path is seen there. -/
theorem hasPath_withFiles (same : file path = surroundings.file path) :
    (surroundings.withFiles file).hasPath path = surroundings.hasPath path := by
  simp only [hasPath, withFiles, same]

/-- The settings of a run come from the named file or one of the usual files. -/
theorem settings_withFiles {request : Request}
    (same : ∀ path ∈ request.config.toList ++ usualSettings surroundings.configHome,
      file path = surroundings.file path) :
    (surroundings.withFiles file).settings request = surroundings.settings request := by
  have usual : (usualSettings surroundings.configHome).find? (surroundings.withFiles file).hasPath =
      (usualSettings surroundings.configHome).find? surroundings.hasPath := by
    refine List.find?_congr fun path listed => ?_
    exact surroundings.hasPath_withFiles (same path (List.mem_append_right _ listed))
  have home : (surroundings.withFiles file).configHome = surroundings.configHome := rfl
  have named (path : String)
      (found : request.config.or
        ((usualSettings surroundings.configHome).find? surroundings.hasPath) = some path) :
      (surroundings.withFiles file).settingsOf path = surroundings.settingsOf path := by
    apply surroundings.settingsOf_withFiles
    apply same
    cases given : request.config with
    | some own =>
      rw [given] at found
      cases found
      exact List.mem_append_left _ (List.mem_singleton_self _)
    | none =>
      rw [given] at found
      exact List.mem_append_right _ (List.mem_of_find?_eq_some found)
  unfold settings
  rw [home, usual]
  cases place : request.config.or
      ((usualSettings surroundings.configHome).find? surroundings.hasPath) with
  | none => simp only [place]
  | some path => simp only [place, named path place]

end Surroundings

/-- A query looks at the file of its input. -/
theorem chain_withFiles (surroundings : Surroundings) {input : QueryInput}
    {file : String → Except FileFault String}
    (same : ∀ path, input = .file path → file path = surroundings.file path) :
    input.chain (surroundings.withFiles file) = input.chain surroundings := by
  cases input with
  | written source conditions selection => rfl
  | file path => exact surroundings.exprOf_withFiles (same path rfl)

/-- An index lookup looks at the file of its input. -/
theorem expr_withFiles (surroundings : Surroundings) {input : PredicateInput}
    {file : String → Except FileFault String}
    (same : ∀ path, input = .file path → file path = surroundings.file path) :
    input.expr (surroundings.withFiles file) = input.expr surroundings := by
  cases input with
  | written text => rfl
  | file path => exact surroundings.exprOf_withFiles (same path rfl)

/-- **A run looks at the files of its request only.** -/
theorem run_eq_of_paths (surroundings : Surroundings) (request : Request)
    {file : String → Except FileFault String}
    (same : ∀ path ∈ request.paths surroundings.configHome, file path = surroundings.file path) :
    run (surroundings.withFiles file) request = run surroundings request := by
  have settings : (surroundings.withFiles file).settings request =
      surroundings.settings request := by
    refine surroundings.settings_withFiles fun path listed => ?_
    exact same path (List.mem_append_left _ listed)
  have color : (surroundings.withFiles file).color = surroundings.color := rfl
  cases task : request.task with
  | query input =>
    have chain : input.chain (surroundings.withFiles file) = input.chain surroundings := by
      refine chain_withFiles surroundings fun path own => ?_
      apply same
      simp [Request.paths, task, own]
    simp only [run, answer, answerQuery, settings, task, chain]
  | index startKey limit input =>
    have expr : input.expr (surroundings.withFiles file) = input.expr surroundings := by
      refine expr_withFiles surroundings fun path own => ?_
      apply same
      simp [Request.paths, task, own]
    simp only [run, answer, answerIndex, settings, task, expr, color]
  | explain text => simp only [run, answer, settings, task, color]

end ColumnQuery.Command
