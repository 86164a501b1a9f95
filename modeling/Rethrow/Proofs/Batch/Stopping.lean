import Rethrow.Proofs.Batch.Frame

/-!
# Stopping at the first failure

A batch that stops at its first failure runs the same units over the same workspaces as one
that attempts them all, only not all of them. `transformUntilFailure_cases` follows the two
runs side by side: they stay together to the end, or up to and including the unit that
fails. What one run reports can therefore be read off the other.
-/

namespace Rethrow.Job

/-- Both runs come to the end of the units, or the stopping one is a run of the other over
the units up to the first that fails. -/
theorem transformUntilFailure_cases (job : Job) (space : Workspace) (units : List UnitId) :
    let stopped := job.transformUntilFailure space units
    (∃ ids, stopped.2 = .ok ids ∧
        job.transformAll space units = (stopped.1, ids.map .ok)) ∨
      ∃ (done : List UnitId) (unit : UnitId) (rest ids : List UnitId) (failure : Failure),
        stopped.2 = .error failure ∧ units = done ++ unit :: rest ∧
        job.transformAll space (done ++ [unit]) =
          (stopped.1, ids.map .ok ++ [.error failure]) := by
  induction units generalizing space with
  | nil => exact .inl ⟨[], rfl, rfl⟩
  | cons unit rest ih =>
      -- A first unit that fails ends the stopping run; behind one that succeeds the rest decides.
      rcases answer : job.transform space unit with ⟨next, outcome⟩
      cases outcome with
      | error failure =>
          refine .inr ⟨[], unit, rest, [], failure, ?_, rfl, ?_⟩
          · simp only [transformUntilFailure, answer]
          · simp only [transformUntilFailure, answer, List.nil_append, transformAll_singleton,
              List.map_nil]
      | ok output =>
          rcases ih next with
            ⟨ids, result, run⟩ | ⟨done, failing, later, ids, failure, result, rfl, run⟩
          · refine .inl ⟨output :: ids, ?_, ?_⟩
            · simp only [transformUntilFailure, answer, result, Except.map]
            · simp only [transformUntilFailure, transformAll, answer, run, List.map_cons]
          · refine .inr ⟨unit :: done, failing, later, output :: ids, failure, ?_, rfl, ?_⟩
            · simp only [transformUntilFailure, answer, result, Except.map]
            · simp only [transformUntilFailure, List.cons_append, transformAll, answer, run,
                List.map_cons]

/-- Stopping at the first failure agrees with attempting every unit: it succeeds exactly when
all outcomes are successes, and then with their identifiers and the same workspace. Else it
reports the first failure among the outcomes, and the workspace is the one of a run over the
units up to and including that one. -/
theorem transformUntilFailure_agrees (job : Job) (space : Workspace) (units : List UnitId) :
    let all := job.transformAll space units
    let stopped := job.transformUntilFailure space units
    ((∃ ids, stopped.2 = .ok ids) ↔ ∀ outcome ∈ all.2, ∃ id, outcome = .ok id) ∧
      match stopped.2 with
      | .ok ids => all.2 = ids.map .ok ∧ stopped.1 = all.1
      | .error failure =>
        ∃ (done : List UnitId) (unit : UnitId) (rest ids : List UnitId) (later : List Outcome),
          units = done ++ unit :: rest ∧ ids.length = done.length ∧
          all.2 = ids.map .ok ++ .error failure :: later ∧
          stopped.1 = (job.transformAll space (done ++ [unit])).1 := by
  intro all stopped
  rcases job.transformUntilFailure_cases space units with
    ⟨ids, result, run⟩ | ⟨done, unit, rest, ids, failure, result, split, run⟩
  · have outcomes : all.2 = ids.map .ok := congrArg Prod.snd run
    rw [result]
    refine ⟨⟨fun _ => ?_, fun _ => ⟨ids, rfl⟩⟩, outcomes, (congrArg Prod.fst run).symm⟩
    rw [outcomes]
    simp
  · let later := (job.transformAll stopped.1 rest).2
    have outcomes : all.2 = ids.map .ok ++ .error failure :: later :=
      calc all.2
          = (job.transformAll space (done ++ [unit] ++ rest)).2 := by simp [all, split]
        _ = ids.map .ok ++ [.error failure] ++ later := by rw [transformAll_append, run]
        _ = ids.map .ok ++ .error failure :: later := by simp
    have attempted : ids.length = done.length := by
      have count := job.length_transformAll space (done ++ [unit])
      simpa [run] using count
    rw [result]
    refine ⟨⟨by simp, fun fine => ?_⟩, done, unit, rest, ids, later, split, attempted,
      outcomes, (congrArg Prod.fst run).symm⟩
    obtain ⟨id, contradiction⟩ := fine (.error failure) (by simp [outcomes])
    cases contradiction

end Rethrow.Job
