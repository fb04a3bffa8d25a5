import FilterSql.Proofs.CommandRuns
import FilterSql.Proofs.Converted
import FilterSql.Proofs.LexedTokens
import FilterSql.Proofs.ReaderStops

/-!
The commands that show the tokens and the tree of a filter, beside the command that converts it: they
fail together and for the same reason, and the tree shown is the one that is converted.
-/

namespace FilterSql

/-! ## Errors of a reading -/

theorem Progress.Refuses.stage {p : Progress} {next : Option (Placed Token)} {e : FilterError}
    (h : p.Refuses next e) : e.stage = .phrase := by
  cases h <;> rfl

/-- Once a text is cut into tokens, nothing is left that is wrong with its characters. -/
theorem Phrase.ofTokens_stage {ts : List (Placed Token)} {e : FilterError}
    (h : ofTokens ts = .error e) : e.stage = .phrase := by
  obtain ⟨_, _, _, _, _, refused⟩ := Progress.exists_refused h
  exact refused.stage

section Solid

variable {s : String} (solid : Text.allBlank s = false)
include solid

theorem ofText_of_mistakes (wrong : (Tokens.ofText s).mistakes ≠ []) (p : Precedence) :
    Filter.ofText p s = .error (.lexical (Tokens.ofText s).mistakes) := by
  rw [Filter.ofText, Filter.lexed_of_mistakes wrong solid]
  rfl

theorem stage_of_clean (clean : (Tokens.ofText s).mistakes = []) {p : Precedence} {e : FilterError}
    (h : Filter.ofText p s = .error e) : e.stage = .phrase := by
  rw [ofText_of_clean clean solid, Filter.ofTokens_eq, map_error_iff] at h
  exact Phrase.ofTokens_stage h

end Solid

/-! ## Results -/

/-- The result of a conversion without a sort key, once its filter is rendered. -/
def Answer.ofRendered : Except FilterError Predicate × Bindings → Except CommandError Answer
  | (.ok predicate, bindings) => .ok (.query ⟨some predicate, none, bindings⟩)
  | (.error e, _) => .error (.filter e)

namespace Command

variable {filter : String} {p : Precedence}

theorem tokensOf_of_clean (clean : (Tokens.ofText filter).mistakes = []) :
    tokensOf filter = .ok (Tokens.ofText filter).tokens := by
  simp [tokensOf, clean]

theorem tokensOf_of_mistakes (wrong : (Tokens.ofText filter).mistakes ≠ []) :
    tokensOf filter = .error (.filter (.lexical (Tokens.ofText filter).mistakes)) := by
  have some : (Tokens.ofText filter).mistakes.isEmpty = false := by simpa using wrong
  simp [tokensOf, some]

/-- A filter that can be read has tokens to show. -/
theorem tokensOf_of_read (solid : Text.allBlank filter = false) {tree : Filter}
    (read : Filter.ofText p filter = .ok tree) :
    tokensOf filter = .ok (Tokens.ofText filter).tokens := by
  by_cases clean : (Tokens.ofText filter).mistakes = []
  · exact tokensOf_of_clean clean
  · rw [ofText_of_mistakes solid clean] at read
    cases read

/-- Where a filter cannot be read, its tokens cannot be shown exactly if mistakes are the reason. -/
theorem tokensOf_error_iff (solid : Text.allBlank filter = false) {cause : FilterError}
    (unread : Filter.ofText p filter = .error cause) (e : CommandError) :
    tokensOf filter = .error e ↔ e = .filter cause ∧ ∃ mistakes, cause = .lexical mistakes := by
  by_cases clean : (Tokens.ofText filter).mistakes = []
  · have stage := stage_of_clean solid clean unread
    rw [tokensOf_of_clean clean]
    constructor
    · rintro ⟨⟩
    · rintro ⟨-, mistakes, rfl⟩
      cases stage
  · rw [ofText_of_mistakes solid clean] at unread
    cases unread
    rw [tokensOf_of_mistakes clean]
    constructor
    · rintro ⟨⟩
      exact ⟨rfl, _, rfl⟩
    · rintro ⟨rfl, -⟩
      rfl

end Command

/-- The converter that settings with these rules ask for, under a precedence that may stand in for the
one that is set. -/
def Settings.applied (s : Settings) (mapping : Mapping) (precedence : Option Precedence) :
    Converter :=
  ⟨mapping.apply, { s.options with precedence := precedence.getD s.options.precedence }⟩

theorem Conversion.run_plain {settings : Settings} {mapping : Mapping}
    (compiles : Mapping.ofPairs settings.mappings = .ok mapping) (filter : Option String)
    (direction : Direction) (precedence : Option Precedence) :
    run ⟨filter, none, direction, [], precedence⟩ settings =
      ((settings.applied mapping precedence).convert filter none direction).mapError .filter := by
  have converter : settings.converter [] precedence = .ok (settings.applied mapping precedence) := by
    rw [Settings.converter, List.append_nil, compiles]
    rfl
  calc run ⟨filter, none, direction, [], precedence⟩ settings
    _ = ((settings.converter [] precedence).mapError CommandError.mapping).bind fun c =>
          (c.convert filter none direction).mapError CommandError.filter := rfl
    _ = ((settings.applied mapping precedence).convert filter none direction).mapError .filter := by
      rw [converter]
      rfl

namespace Command

section Loaded

variable {file : SettingsFile} {settings : Settings} (loads : file.load = .ok settings)
include loads

theorem settings_of_load : answer.settings (some file) = .ok settings := by
  have loaded : answer.settings (some file) = file.load.mapError CommandError.settings := rfl
  rw [loaded, loads]
  rfl

/-- Without a precedence of its own, a filter is read under the one that is set. -/
theorem answer_parse (filter : String) (precedence : Option Precedence) :
    (parse filter precedence).answer (some file) =
      ((Filter.ofText (precedence.getD settings.options.precedence) filter).mapError .filter).map
        .filter := by
  cases precedence with
  | some p => rfl
  | none =>
    simp only [answer, settings_of_load loads]
    rfl

theorem answer_convert (request : Conversion) :
    (convert request).answer (some file) = (request.run settings).map .query := by
  simp only [answer, settings_of_load loads]
  rfl

end Loaded

end Command

/-! ## Agreement -/

/-- A filter that can be read is converted by rendering the tree that is read. -/
theorem Converter.convert_of_read {c : Converter} {filter : String} {tree : Filter}
    (solid : Text.allBlank filter = false)
    (read : Filter.ofText c.options.precedence filter = .ok tree) (direction : Direction) :
    ((c.convert (some filter) none direction).mapError CommandError.filter).map Answer.query =
      Answer.ofRendered (c.renderer.render tree .empty) := by
  cases rendered : c.renderer.render tree .empty with
  | mk outcome bindings =>
    cases outcome with
    | error e =>
      rw [convert_of_error (@predicate_of_render_error c (some filter) solid _ _ _ read rendered)]
      rfl
    | ok predicate =>
      rw [convert_of_ok (@predicate_of_render_ok c (some filter) solid _ _ _ read rendered)]
      rfl

theorem Converter.convert_of_unread {c : Converter} {filter : String} {e : FilterError}
    (solid : Text.allBlank filter = false)
    (unread : Filter.ofText c.options.precedence filter = .error e) (direction : Direction) :
    ((c.convert (some filter) none direction).mapError CommandError.filter).map Answer.query =
      .error (.filter e) := by
  rw [convert_of_error (@predicate_of_error c (some filter) solid _ unread)]
  rfl

namespace Invocation

/-- The same invocation with another command. -/
def asking (i : Invocation) (command : Command) : Invocation :=
  { i with command }

theorem run_asking (i : Invocation) (env : Environment) (fs : FileStore) {command : Command}
    (reads : ∀ force, command ≠ .initSettings force) :
    (i.asking command).run env fs =
      (.ofResult (i.mode env) ((i.asking command).result env fs), fs) := by
  apply run_of_result
  intro path creates
  obtain ⟨force, same⟩ := Command.eq_init_of_answer_create creates
  exact reads force same

section Agreement

variable {i : Invocation} {env : Environment} {fs : FileStore} {file : SettingsFile}
  {settings : Settings} {mapping : Mapping} (located : i.located env fs = some file)
  (loads : file.load = .ok settings)
include located loads

theorem result_parse (filter : String) (precedence : Option Precedence) :
    (i.asking (.parse filter precedence)).result env fs =
      ((Filter.ofText (precedence.getD settings.options.precedence) filter).mapError .filter).map
        .filter := by
  have answered : (i.asking (.parse filter precedence)).result env fs =
      (Command.parse filter precedence).answer (i.located env fs) := rfl
  rw [answered, located, Command.answer_parse loads]

theorem result_convert (compiles : Mapping.ofPairs settings.mappings = .ok mapping)
    (filter : String) (direction : Direction) (precedence : Option Precedence) :
    (i.asking (.convert ⟨some filter, none, direction, [], precedence⟩)).result env fs =
      (((settings.applied mapping precedence).convert (some filter) none direction).mapError
        .filter).map .query := by
  have answered (request : Conversion) : (i.asking (.convert request)).result env fs =
      (Command.convert request).answer (i.located env fs) := rfl
  rw [answered, located, Command.answer_convert loads, Conversion.run_plain compiles]

end Agreement

theorem result_tokens (i : Invocation) (env : Environment) (fs : FileStore) (filter : String) :
    (i.asking (.tokens filter)).result env fs = (Command.tokensOf filter).map .tokens := rfl

end Invocation

end FilterSql
