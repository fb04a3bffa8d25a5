import FilterSql.Command.Run
import FilterSql.Proofs.Results

/-! What commands answer, and what a run makes of the answer. -/

namespace FilterSql

theorem CommandError.exitCode_ne_zero (e : CommandError) : e.exitCode ≠ 0 := by
  cases e <;> simp [exitCode]

namespace Command

variable {file : Option SettingsFile}

/-- The answer to a creation of settings is an order to write, and without force it takes a path where
nothing is seen. -/
theorem answer_init {force : Bool} {a : Answer} (h : (initSettings force).answer file = .ok a) :
    ∃ f, file = some f ∧ a = .create f.path ∧ (force = false → f.entry = .missing) := by
  simp only [answer] at h
  obtain ⟨f, found, answered⟩ := bind_ok_iff.mp h
  cases file with
  | none => cases found
  | some g =>
    cases found
    split at answered
    · cases answered
    · rename_i free
      cases answered
      refine ⟨f, rfl, rfl, ?_⟩
      rintro rfl
      cases entry : f.entry with
      | missing => rfl
      | directory => simp [entry, Entry.isPresent] at free
      | file content => simp [entry, Entry.isPresent] at free

theorem eq_init_of_answer_create {command : Command} {path : String}
    (h : command.answer file = .ok (.create path)) : ∃ force, command = .initSettings force := by
  cases command with
  | overview => cases h
  | completions shell => cases h
  | tokens filter => obtain ⟨_, -, ⟨⟩⟩ := map_ok_iff.mp h
  | parse filter precedence =>
    cases precedence with
    | some p => obtain ⟨_, -, ⟨⟩⟩ := map_ok_iff.mp h
    | none =>
      obtain ⟨_, -, answered⟩ := bind_ok_iff.mp h
      obtain ⟨_, -, ⟨⟩⟩ := map_ok_iff.mp answered
  | convert request =>
    obtain ⟨_, -, answered⟩ := bind_ok_iff.mp h
    obtain ⟨_, -, ⟨⟩⟩ := map_ok_iff.mp answered
  | showSettings =>
    obtain ⟨_, -, answered⟩ := bind_ok_iff.mp h
    obtain ⟨_, -, ⟨⟩⟩ := map_ok_iff.mp answered
  | settingsPath => obtain ⟨_, -, ⟨⟩⟩ := map_ok_iff.mp h
  | initSettings force => exact ⟨force, rfl⟩

end Command

/-- What is printed for a result. -/
def Outcome.ofResult (mode : Mode) : Except CommandError Answer → Outcome
  | .ok a => done mode a
  | .error e => failed mode e

namespace Invocation

variable {i : Invocation} {env : Environment} {fs : FileStore}

/-- The settings file of a run on these files. -/
def located (i : Invocation) (env : Environment) (fs : FileStore) : Option SettingsFile :=
  (i.file? env).map fun path => ⟨path, fs.look (.ofText path)⟩

def result (i : Invocation) (env : Environment) (fs : FileStore) : Except CommandError Answer :=
  i.command.answer (i.located env fs)

/-- A run acts on what it has seen of the settings file. -/
theorem run_eq_act (i : Invocation) (env : Environment) (fs : FileStore) :
    i.run env fs = (i.act env (i.located env fs)).on fs := by
  simp only [run, plan, located]
  cases i.file? env <;> rfl

/-- A run that is not to create settings prints its result and leaves everything as it was. -/
theorem run_of_result (h : ∀ path, i.result env fs ≠ .ok (.create path)) :
    i.run env fs = (.ofResult (i.mode env) (i.result env fs), fs) := by
  simp only [result] at h ⊢
  rw [run_eq_act, act]
  split
  · rename_i e failed
    rw [failed]
    rfl
  · rename_i path creates
    exact absurd creates (h path)
  · rename_i a _ answered
    rw [answered]
    rfl

section Creation

variable {path : String} (h : i.result env fs = .ok (.create path))
include h

theorem run_of_written {written : FileStore}
    (done : fs.write (.ofText path) Settings.defaultText = (written, .ok ())) :
    i.run env fs = (.done (i.mode env) (.create path), written) := by
  rw [result] at h
  simp only [run_eq_act, act, h, Plan.on, done]

theorem run_of_unwritten {changed : FileStore} {e : WriteError}
    (failed : fs.write (.ofText path) Settings.defaultText = (changed, .error e)) :
    i.run env fs = (.failed (i.mode env) (.settings (.unwritable e)), changed) := by
  rw [result] at h
  simp only [run_eq_act, act, h, Plan.on, failed]

end Creation

end Invocation

end FilterSql
