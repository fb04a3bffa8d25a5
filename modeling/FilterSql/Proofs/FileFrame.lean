import FilterSql.Proofs.CommandRuns

/-!
What the program does to files. Only the creation of settings writes, it writes one file and always the
same text, and whatever fails leaves every file as it was.
-/

namespace FilterSql

/-! ## Stores -/

namespace FileStore

variable {fs : FileStore} {path : Path} {l : Location}

def contentAt (fs : FileStore) (l : Location) : Option String :=
  fs.files.lookup l

theorem contentAt_of_files {a b : FileStore} (h : a.files = b.files) (l : Location) :
    a.contentAt l = b.contentAt l := by
  rw [contentAt, contentAt, h]

theorem contentAt_put_self (fs : FileStore) (l : Location) (content : String) :
    (fs.put l content).contentAt l = some content := by
  simp [contentAt, put]

theorem lookup_filter_ne {files : List (Location × String)} {l other : Location} (h : other ≠ l) :
    (files.filter fun file => file.1 != l).lookup other = files.lookup other := by
  induction files with
  | nil => rfl
  | cons file files ih =>
    obtain ⟨place, content⟩ := file
    by_cases gone : place = l
    · subst gone
      have apart : (other == place) = false := beq_false_of_ne h
      simp [List.lookup_cons, apart, ih]
    · simp [gone, List.lookup_cons, ih]

theorem contentAt_put_of_ne (fs : FileStore) {l other : Location} (h : other ≠ l)
    (content : String) : (fs.put l content).contentAt other = fs.contentAt other := by
  have apart : (other == l) = false := beq_false_of_ne h
  simp only [contentAt, put, List.lookup_cons, apart, lookup_filter_ne h]

/-- Where a path leads depends on the names alone; the store only tells whether it gets there. -/
theorem follow?_eq {start : Location} {names : List String}
    (h : fs.follow? start names = some l) : l = names.foldl enter start := by
  induction names generalizing start with
  | nil =>
    cases h
    rfl
  | cons name names ih =>
    rw [follow?] at h
    split at h
    · exact ih h
    · cases h

theorem follow?_of_directories {a b : FileStore} (h : a.directories = b.directories)
    (start : Location) (names : List String) : a.follow? start names = b.follow? start names := by
  induction names generalizing start with
  | nil => rfl
  | cons name names ih =>
    have here : a.isDirectory start = b.isDirectory start := by rw [isDirectory, isDirectory, h]
    rw [follow?, follow?, here, ih]

/-- Making directories touches no file. -/
theorem makeDirectories_files (fs : FileStore) (start : Location) (names : List String) :
    (fs.makeDirectories start names).1.files = fs.files ∧
      (fs.makeDirectories start names).1.working = fs.working := by
  induction names generalizing fs start with
  | nil => exact ⟨rfl, rfl⟩
  | cons name names ih =>
    rw [makeDirectories]
    split
    · exact ih ..
    · exact ih ..
    · exact ⟨rfl, rfl⟩

theorem locate?_put (fs : FileStore) (l : Location) (content : String) (path : Path) :
    (fs.put l content).locate? path = fs.locate? path := by
  have same : (fs.put l content).directories = fs.directories := rfl
  exact follow?_of_directories same _ _

/-- A path leads to one place, before and after directories are made. -/
theorem locate?_unique {a b : FileStore} (same : a.working = b.working) {k l : Location}
    (ha : a.locate? path = some k) (hb : b.locate? path = some l) : k = l := by
  have start : a.start path = b.start path := by rw [start, start, same]
  rw [follow?_eq ha, follow?_eq hb, start]

/-- What writing can do: it fails and touches no file, or it puts the content where the path leads. -/
theorem write_cases (fs : FileStore) (path : Path) (content : String) :
    ∃ made : FileStore, made.files = fs.files ∧ made.working = fs.working ∧
      ((∃ e, fs.write path content = (made, .error e)) ∨
        ∃ l, made.locate? path = some l ∧ fs.write path content = (made.put l content, .ok ())) := by
  obtain ⟨files, working⟩ := makeDirectories_files fs (fs.start path) path.parents
  refine ⟨_, files, working, ?_⟩
  unfold write
  split
  · rename_i made failed
    rw [failed]
    exact .inl ⟨_, rfl⟩
  · rename_i made succeeded
    rw [succeeded]
    split
    · rename_i l proper found
      split
      · exact .inl ⟨_, rfl⟩
      · exact .inr ⟨l, found, rfl⟩
    · exact .inl ⟨_, rfl⟩

/-- Where nothing is seen, no file is; unless the path leads nowhere. -/
theorem contentAt_of_missing (h : fs.look path = .missing) :
    fs.locate? path = none ∨ ∃ l, fs.locate? path = some l ∧ fs.contentAt l = none := by
  unfold look at h
  cases found : fs.locate? path with
  | none => exact .inl rfl
  | some l =>
    rw [found] at h
    refine .inr ⟨l, rfl, ?_⟩
    dsimp only [entryAt] at h
    cases content : fs.files.lookup l with
    | none => exact content
    | some text =>
      rw [content] at h
      cases h

end FileStore

/-! ## Calls -/

/-- The program run once, with its variables and its arguments. -/
structure Call where
  env : Environment
  args : List String

namespace Call

def on (c : Call) (fs : FileStore) : Outcome × FileStore :=
  run c.env c.args fs

/-- The call is to create settings at the path, by force or not. -/
def Creates (c : Call) (force : Bool) (path : Path) : Prop :=
  ∃ i text, Invocation.ofArguments c.env c.args = .ok i ∧ i.command = .initSettings force ∧
    i.file? c.env = some text ∧ path = .ofText text

variable {c : Call} {fs : FileStore}

/-- A call that does not create settings: files stay, and nothing is printed by a failure. -/
structure Spares (c : Call) (fs : FileStore) : Prop where
  files : (c.on fs).2.files = fs.files
  silent : (c.on fs).1.exitCode ≠ 0 → (c.on fs).1.stdout = ""
  fails : ∀ force path, c.Creates force path → (c.on fs).1.exitCode ≠ 0

/-- A call that has created settings: they are where its path leads once the directories are made. -/
structure Wrote (c : Call) (fs : FileStore) (force : Bool) (path : Path) (l : Location) : Prop where
  creates : c.Creates force path
  unseen : force = false → fs.look path = .missing
  succeeded : (c.on fs).1.exitCode = 0
  effect : ∃ made : FileStore, made.files = fs.files ∧ made.working = fs.working ∧
    made.locate? path = some l ∧ (c.on fs).2 = made.put l Settings.defaultText

theorem spares_of_halt {halt : Halt} (read : Invocation.ofArguments c.env c.args = .error halt) :
    c.Spares fs := by
  have ran : c.on fs = (.halted halt, fs) := by simp only [on, run, program, read, Plan.on]
  refine ⟨by rw [ran], ?_, ?_⟩
  · rw [ran]
    cases halt <;> simp [Outcome.halted]
  · rintro force path ⟨i, text, read', -⟩
    rw [read] at read'
    cases read'

section Read

variable {i : Invocation} (read : Invocation.ofArguments c.env c.args = .ok i)
include read

theorem on_eq_run : c.on fs = i.run c.env fs := by
  simp only [on, run, program, read, Invocation.run]

theorem spares_of_result (h : ∀ path, i.result c.env fs ≠ .ok (.create path)) : c.Spares fs := by
  have ran := (on_eq_run read).trans (Invocation.run_of_result h)
  refine ⟨by rw [ran], ?_, ?_⟩
  · rw [ran]
    cases i.result c.env fs <;> simp [Outcome.ofResult, Outcome.done, Outcome.failed]
  · rintro force path ⟨j, text, read', command, -⟩
    rw [read] at read'
    cases read'
    rw [ran]
    cases result : i.result c.env fs with
    | error e => exact e.exitCode_ne_zero
    | ok a =>
      -- The answer to this command is an order to write, if there is one.
      rw [Invocation.result, command] at result
      obtain ⟨f, -, rfl, -⟩ := Command.answer_init result
      rw [← command] at result
      exact absurd result (h _)

theorem spares_or_wrote_of_create {text : String}
    (result : i.result c.env fs = .ok (.create text)) :
    c.Spares fs ∨ ∃ force l, c.Wrote fs force (.ofText text) l := by
  obtain ⟨force, command⟩ := Command.eq_init_of_answer_create result
  have answered := result
  rw [Invocation.result, command] at answered
  obtain ⟨f, located, same, unseen⟩ := Command.answer_init answered
  cases same
  obtain ⟨path, named, rfl⟩ := Option.map_eq_some_iff.mp located
  obtain ⟨made, files, working, ⟨e, failed⟩ | ⟨l, leads, done⟩⟩ :=
    fs.write_cases (.ofText path) Settings.defaultText
  · have ran := (on_eq_run read).trans (Invocation.run_of_unwritten result failed)
    refine .inl ⟨by rw [ran, files], ?_, ?_⟩
    · intro _
      rw [ran]
      rfl
    · intro _ _ _
      rw [ran]
      exact CommandError.exitCode_ne_zero (.settings (.unwritable e))
  · have ran := (on_eq_run read).trans (Invocation.run_of_written result done)
    refine .inr ⟨force, l, ⟨i, path, read, command, named, rfl⟩, unseen, ?_, ?_⟩
    · rw [ran]
      rfl
    · exact ⟨made, files, working, leads, by rw [ran]⟩

end Read

/-- A call spares the files or has created settings. -/
theorem spares_or_wrote (c : Call) (fs : FileStore) :
    c.Spares fs ∨ ∃ force path l, c.Wrote fs force path l := by
  cases read : Invocation.ofArguments c.env c.args with
  | error halt => exact .inl (spares_of_halt read)
  | ok i =>
    by_cases creates : ∃ text, i.result c.env fs = .ok (.create text)
    · obtain ⟨text, result⟩ := creates
      rcases spares_or_wrote_of_create read result with spares | ⟨force, l, wrote⟩
      · exact .inl spares
      · exact .inr ⟨force, _, l, wrote⟩
    · exact .inl (spares_of_result read fun path result => creates ⟨path, result⟩)

theorem Creates.unique {force other : Bool} {path path' : Path} (h : c.Creates force path)
    (h' : c.Creates other path') : path = path' := by
  obtain ⟨i, text, read, -, named, rfl⟩ := h
  obtain ⟨j, text', read', -, named', rfl⟩ := h'
  rw [read] at read'
  cases read'
  rw [named] at named'
  cases named'
  rfl

namespace Wrote

variable {force : Bool} {path : Path} {l : Location} (h : c.Wrote fs force path l)
include h

theorem content : (c.on fs).2.contentAt l = some Settings.defaultText := by
  obtain ⟨made, -, -, -, after⟩ := h.effect
  rw [after, FileStore.contentAt_put_self]

theorem leads : (c.on fs).2.locate? path = some l := by
  obtain ⟨made, -, -, found, after⟩ := h.effect
  rw [after, FileStore.locate?_put, found]

theorem keeps {other : Location} (apart : other ≠ l) :
    (c.on fs).2.contentAt other = fs.contentAt other := by
  obtain ⟨made, files, -, -, after⟩ := h.effect
  rw [after, FileStore.contentAt_put_of_ne made apart, FileStore.contentAt_of_files files]

/-- Without force a file is only hit by a path that led nowhere before its directories were made. -/
theorem excused : force = true ∨ fs.contentAt l = none ∨ fs.locate? path = none := by
  cases force with
  | true => exact .inl rfl
  | false =>
    obtain ⟨made, -, working, found, -⟩ := h.effect
    rcases FileStore.contentAt_of_missing (h.unseen rfl) with nowhere | ⟨k, before, free⟩
    · exact .inr (.inr nowhere)
    · obtain rfl := FileStore.locate?_unique working found before
      exact .inr (.inl free)

end Wrote

/-- What a call may do to files: a creation of settings that succeeds leaves the default text where its
path leads, nothing else changes or makes a file, and a failure leaves all files and prints nothing. -/
structure Frame (c : Call) (fs : FileStore) : Prop where
  created : ∀ force path, c.Creates force path → (c.on fs).1.exitCode = 0 →
    ∃ l, (c.on fs).2.locate? path = some l ∧
      (c.on fs).2.contentAt l = some Settings.defaultText
  changed : ∀ l, (c.on fs).2.contentAt l ≠ fs.contentAt l →
    (c.on fs).1.exitCode = 0 ∧ (c.on fs).2.contentAt l = some Settings.defaultText ∧
      ∃ force path, c.Creates force path ∧ (c.on fs).2.locate? path = some l ∧
        (force = true ∨ fs.contentAt l = none ∨ fs.locate? path = none)
  failed : (c.on fs).1.exitCode ≠ 0 →
    (∀ l, (c.on fs).2.contentAt l = fs.contentAt l) ∧ (c.on fs).1.stdout = ""

theorem Spares.frame (h : c.Spares fs) : c.Frame fs := by
  have same := FileStore.contentAt_of_files h.files
  refine ⟨?_, ?_, fun failed => ⟨same, h.silent failed⟩⟩
  · intro force path creates succeeded
    exact absurd succeeded (h.fails force path creates)
  · intro l differs
    exact absurd (same l) differs

theorem Wrote.frame {force : Bool} {path : Path} {l : Location} (h : c.Wrote fs force path l) :
    c.Frame fs := by
  refine ⟨?_, ?_, fun failed => absurd h.succeeded failed⟩
  · intro other path' creates _
    obtain rfl := h.creates.unique creates
    exact ⟨l, h.leads, h.content⟩
  · intro k differs
    by_cases here : k = l
    · subst here
      exact ⟨h.succeeded, h.content, force, path, h.creates, h.leads, h.excused⟩
    · exact absurd (h.keeps here) differs

theorem frame (c : Call) (fs : FileStore) : c.Frame fs := by
  rcases c.spares_or_wrote fs with spares | ⟨force, path, l, wrote⟩
  · exact spares.frame
  · exact wrote.frame

end Call

/-! ## Sequences of calls -/

/-- The files after some calls, one after another. -/
def runAll (fs : FileStore) (calls : List Call) : FileStore :=
  calls.foldl (fun fs c => (c.on fs).2) fs

/-- Over any calls a file that is not as it was at the start holds the default settings, and one of the
calls was a creation of settings that succeeded there. -/
theorem runAll_changed {fs : FileStore} {calls : List Call} {l : Location}
    (differs : (runAll fs calls).contentAt l ≠ fs.contentAt l) :
    (runAll fs calls).contentAt l = some Settings.defaultText ∧
      ∃ before c rest force path, calls = before ++ c :: rest ∧ c.Creates force path ∧
        (c.on (runAll fs before)).1.exitCode = 0 ∧
        (c.on (runAll fs before)).2.locate? path = some l := by
  induction calls generalizing fs with
  | nil => exact absurd rfl differs
  | cons c rest ih =>
    by_cases later : (runAll (c.on fs).2 rest).contentAt l = (c.on fs).2.contentAt l
    · -- No later call touches the file, so it is this one that did.
      have here : (c.on fs).2.contentAt l ≠ fs.contentAt l := later ▸ differs
      obtain ⟨succeeded, written, force, path, creates, leads, -⟩ := (c.frame fs).changed l here
      exact ⟨later.trans written, [], c, rest, force, path, rfl, creates, succeeded, leads⟩
    · obtain ⟨written, before, c', rest', force, path, rfl, creates, succeeded, leads⟩ := ih later
      exact ⟨written, c :: before, c', rest', force, path, rfl, creates, succeeded, leads⟩

/-- In any sequence of calls on any files, each call keeps to its frame; so all that the program ever
leaves in a file is what was there or the default settings, where the path of a creation leads. -/
theorem only_created_settings_are_written (fs : FileStore) (calls : List Call) :
    (∀ before c rest, calls = before ++ c :: rest → c.Frame (runAll fs before)) ∧
      ∀ l, (runAll fs calls).contentAt l ≠ fs.contentAt l →
        (runAll fs calls).contentAt l = some Settings.defaultText ∧
          ∃ before c rest force path, calls = before ++ c :: rest ∧ c.Creates force path ∧
            (c.on (runAll fs before)).1.exitCode = 0 ∧
            (c.on (runAll fs before)).2.locate? path = some l := by
  constructor
  · intro before c rest _
    exact c.frame _
  · intro l differs
    exact runAll_changed differs

/-- A creation without force overwrites a file when its path goes through a directory that is missing:
nothing is seen there until the directory has been made. -/
theorem unforced_creation_overwrites :
    let fs : FileStore := ⟨[(["home", "f"], "mine")], [["home"]], ["home"]⟩
    let c : Call := ⟨⟨none, none, none, false⟩, ["--config", "q/../f", "config", "init"]⟩
    c.Creates false (.ofText "q/../f") ∧ fs.contentAt ["home", "f"] = some "mine" ∧
      (c.on fs).1.exitCode = 0 ∧ (c.on fs).2.contentAt ["home", "f"] = some Settings.defaultText ∧
      Settings.defaultText ≠ "mine" := by
  refine ⟨?_, ?_, ?_, ?_, ?_⟩
  · exact ⟨⟨false, false, false, some "q/../f", .initSettings false⟩, "q/../f", rfl, rfl, rfl, rfl⟩
  · rfl
  · decide +kernel
  · decide +kernel
  · decide +kernel

end FilterSql
