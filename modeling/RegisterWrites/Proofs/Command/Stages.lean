import RegisterWrites.Command.Run
import RegisterWrites.Proofs.Conversion.Strictness
import RegisterWrites.Proofs.FileTree.Writing

/-!
# All or nothing

A conversion passes through stages: the options file, the register document, its instructions,
their descriptors, the output file. The first stage that fails is the one that is reported, and
then no file has changed (`Job.FailsFirst`); if none fails, the whole text is in one place
(`Outcome.Delivers`). The stages are described here one by one, in terms of files and texts
(`Job.Reads`, `Job.Renders`), and `run_all_or_nothing` says that a run is what they say, at
every level of reports.
-/

namespace RegisterWrites.Command

variable {job : Job} {tree : FileTree} {o : Options} {is : List Instruction}
  {text path words : String} {f : Failure} {e : Error}

/-- The lines that are shown of `log` at a `level`: those of the entries that are at least as
severe, each with its level, its speaker and its message. -/
def logText (level : Level) (log : List Entry) : String :=
  String.join ((log.filter fun entry => entry.level.rank ≤ level.rank).map fun entry =>
    Text.padRight 5 entry.level.name ++ " [" ++ entry.speaker.name ++ "] " ++ entry.message ++ "\n")

/-! ## The stages -/

namespace Job

/-- The options that the options file of `job` holds, or those by default if none is named. -/
inductive FileOptions (job : Job) (tree : FileTree) : Options → Prop
  | default (hfile : job.optionsFile = none) : FileOptions job tree {}
  | loaded {path text : String} {o : Options} (hfile : job.optionsFile = some path)
      (hread : tree.readText path = .ok text) (hload : Options.read text = .ok o) :
      FileOptions job tree o

/-- The options that are in effect: those of the command line before those of the file. -/
def InEffect (job : Job) (tree : FileTree) (o : Options) : Prop :=
  ∃ fileOptions, job.FileOptions tree fileOptions ∧ o = job.override fileOptions

/-- The options `o` in effect, and the instructions `is` of the register document under them. -/
structure Reads (job : Job) (tree : FileTree) (o : Options) (is : List Instruction) : Prop where
  inEffect : job.InEffect tree o
  parsed : ∃ text, tree.readText job.file = .ok text ∧
    (Document.parse text o.dialect).result = .ok is

/-- What the instructions `is` become in the form for which `job` asks. -/
inductive Renders (job : Job) (o : Options) (is : List Instruction) : String → Prop
  | records (hformat : job.format = .records) : Renders job o is (Instruction.renderAll is)
  | initializers {ds : List Descriptor} (hformat : job.format = .initializer)
      (hencode : (encodeAll o is).result = .ok ds) :
      Renders job o is (Descriptor.initializers o.emission ds)
  | table {ds : List Descriptor} (hformat : job.format = .table)
      (hencode : (encodeAll o is).result = .ok ds) :
      Renders job o is (Comparison.render o.emission is ds)

def Produces (job : Job) (tree : FileTree) (text : String) : Prop :=
  ∃ o is, job.Reads tree o is ∧ job.Renders o is text

/-- What `job.FailsFirst tree words` says: one stage of `job` fails, every stage before it has been
passed, and the `words` are those for this stage. -/
inductive FailsFirst (job : Job) (tree : FileTree) : String → Prop
  | optionsUnreadable {path : String} {cause : FileError} (hfile : job.optionsFile = some path)
      (hread : tree.readText path = .error cause) :
      FailsFirst job tree ("failed to read options file '" ++ path ++ "': " ++ cause.message)
  | optionsInvalid {path text : String} {cause : OptionsError} (hfile : job.optionsFile = some path)
      (hread : tree.readText path = .ok text) (hload : Options.read text = .error cause) :
      FailsFirst job tree ("failed to load options file '" ++ path ++
        "': invalid options file: " ++ cause.message)
  | registersUnreadable {o : Options} {cause : FileError} (heffect : job.InEffect tree o)
      (hread : tree.readText job.file = .error cause) :
      FailsFirst job tree ("failed to read register file '" ++ job.file ++ "': " ++ cause.message)
  | registersInvalid {o : Options} {text : String} {cause : Error} (heffect : job.InEffect tree o)
      (hread : tree.readText job.file = .ok text)
      (hparse : (Document.parse text o.dialect).result = .error cause) :
      FailsFirst job tree ("'" ++ job.file ++ "' is not a valid register file: " ++ cause.message)
  | encodingFailed {o : Options} {is : List Instruction} {cause : Error}
      (hreads : job.Reads tree o is) (hformat : job.format ≠ .records)
      (hencode : (encodeAll o is).result = .error cause) :
      FailsFirst job tree cause.message
  | outputUnwritable {text path : String} {cause : FileError} (hproduces : job.Produces tree text)
      (houtput : job.output = some path) (hwrite : tree.write path text.toUTF8 = .error cause) :
      FailsFirst job tree ("failed to write '" ++ path ++ "': " ++ cause.message)

end Job

/-- The `job` with another level of reports. -/
def Job.atLevel (job : Job) (verbosity : Nat) (quiet : Bool) : Job := { job with verbosity, quiet }

/-! ## What a run leaves -/

namespace Outcome

/-- The `outcome` of a run that stops without having changed a file of `tree`: the lines of the log
that are `shown`, and on the standard error the `words` for what stopped it. -/
structure Fails (outcome : Outcome) (tree : FileTree) (shown words : String) : Prop where
  exitCode : outcome.exitCode = 1
  stdout : outcome.stdout = shown
  stderr : outcome.stderr = "Error: " ++ words ++ "\n"
  files : outcome.files = tree

/-- The `outcome` of a run whose `text` is in one place: behind what was `shown`, where `job` names
no output file, and in the output file otherwise, of which it is the whole content. -/
structure Delivers (outcome : Outcome) (job : Job) (tree : FileTree) (shown text : String) :
    Prop where
  exitCode : outcome.exitCode = 0
  stderr : outcome.stderr = ""
  printed : job.output = none → outcome.stdout = shown ++ text ∧ outcome.files = tree
  written : ∀ path ∈ job.output, outcome.stdout = shown ∧
    outcome.files.readText path = .ok text ∧
    ∃ route, outcome.files.follow path = .ok (.within route) ∧
      (∀ other, other ≠ route → outcome.files.content? other = tree.content? other) ∧
      ∀ other, outcome.files.isDirectory other = tree.isDirectory other

end Outcome

namespace Job

/-! ## Stage by stage -/

theorem loadOptions_eq_ok_iff : job.loadOptions tree.readText = .ok o ↔ job.FileOptions tree o := by
  unfold loadOptions
  constructor
  · intro h
    cases hfile : job.optionsFile with
    | none =>
      rw [hfile] at h
      cases h
      exact .default hfile
    | some path =>
      simp only [hfile] at h
      cases hread : tree.readText path with
      | error cause => rw [hread] at h; cases h
      | ok text =>
        rw [hread] at h
        exact .loaded hfile hread (mapError_eq_ok_iff.mp h)
  · rintro (hfile | ⟨hfile, hread, hload⟩)
    · rw [hfile]
    · simp only [hfile, hread]
      exact mapError_eq_ok_iff.mpr hload

theorem failsFirst_of_loadOptions (h : job.loadOptions tree.readText = .error f) :
    job.FailsFirst tree f.message := by
  unfold loadOptions at h
  cases hfile : job.optionsFile with
  | none => rw [hfile] at h; cases h
  | some path =>
    simp only [hfile] at h
    cases hread : tree.readText path with
    | error cause =>
      rw [hread] at h
      cases h
      exact .optionsUnreadable hfile hread
    | ok text =>
      rw [hread] at h
      obtain ⟨cause, hload, rfl⟩ := mapError_eq_error_iff.mp h
      exact .optionsInvalid hfile hread hload

theorem result_render_eq_ok_iff : (job.render o is).result = .ok text ↔ job.Renders o is text := by
  unfold render
  constructor
  · intro h
    cases hformat : job.format with
    | records =>
      rw [hformat] at h
      cases h
      exact .records hformat
    | initializer =>
      simp only [hformat, Logged.result_bind] at h
      obtain ⟨ds, hencode, hds⟩ := bind_eq_ok_iff.mp h
      cases hds
      exact .initializers hformat hencode
    | table =>
      simp only [hformat, Logged.result_bind] at h
      obtain ⟨ds, hencode, hds⟩ := bind_eq_ok_iff.mp h
      cases hds
      exact .table hformat hencode
  · rintro (hformat | ⟨hformat, hencode⟩ | ⟨hformat, hencode⟩)
    · rw [hformat]; rfl
    · simp only [hformat, Logged.result_bind, hencode]; rfl
    · simp only [hformat, Logged.result_bind, hencode]; rfl

theorem result_render_eq_error_iff : (job.render o is).result = .error e ↔
    job.format ≠ .records ∧ (encodeAll o is).result = .error e := by
  unfold render
  constructor
  · intro h
    cases hformat : job.format with
    | records => rw [hformat] at h; cases h
    | initializer | table =>
      simp only [hformat, Logged.result_bind] at h
      rcases bind_eq_error_iff.mp h with hencode | ⟨ds, -, hds⟩
      · exact ⟨nofun, hencode⟩
      · cases hds
  · rintro ⟨hformat, hencode⟩
    cases hcase : job.format with
    | records => exact absurd hcase hformat
    | initializer | table =>
      simp only [Logged.result_bind]
      exact bind_eq_error_iff.mpr (.inl hencode)

/-- Records are rendered in any case, and the other forms if all of `is` are encoded. -/
theorem exists_renders_iff : (∃ text, job.Renders o is text) ↔
    (job.format ≠ .records → ∃ ds, (encodeAll o is).result = .ok ds) := by
  constructor
  · rintro ⟨_, hformat | ⟨_, hencode⟩ | ⟨_, hencode⟩⟩ hne
    · exact absurd hformat hne
    · exact ⟨_, hencode⟩
    · exact ⟨_, hencode⟩
  · intro h
    cases hformat : job.format with
    | records => exact ⟨_, .records hformat⟩
    | initializer =>
      obtain ⟨ds, hencode⟩ := h (by rw [hformat]; nofun)
      exact ⟨_, .initializers hformat hencode⟩
    | table =>
      obtain ⟨ds, hencode⟩ := h (by rw [hformat]; nofun)
      exact ⟨_, .table hformat hencode⟩

/-! ## The stages in a row -/

theorem result_convert_eq (job : Job) (tree : FileTree) : (job.convert tree.readText).result = (do
    let o ← (job.loadOptions tree.readText).map job.override
    let text ← (tree.readText job.file).mapError (.registersUnreadable job.file)
    let is ← (Document.parse text o.dialect).result.mapError (.registersInvalid job.file)
    (job.render o is).result.mapError .encodingFailed) := by
  unfold convert
  simp only [Logged.result_bind]
  cases job.loadOptions tree.readText with
  | error f => rfl
  | ok fileOptions => rfl

theorem map_override_eq_ok_iff :
    (job.loadOptions tree.readText).map job.override = .ok o ↔ job.InEffect tree o := by
  unfold InEffect
  simp only [← loadOptions_eq_ok_iff]
  cases job.loadOptions tree.readText with
  | error f => exact ⟨nofun, fun ⟨_, h, _⟩ => nomatch h⟩
  | ok fileOptions =>
    constructor
    · rintro ⟨⟩
      exact ⟨fileOptions, rfl, rfl⟩
    · rintro ⟨_, ⟨⟩, rfl⟩
      rfl

/-- What `job.convert` has left to do once the document has been read. -/
theorem result_convert_of_read (ho : job.InEffect tree o)
    (hread : tree.readText job.file = .ok text) : (job.convert tree.readText).result = (do
      let is ← (Document.parse text o.dialect).result.mapError (.registersInvalid job.file)
      (job.render o is).result.mapError .encodingFailed) := by
  rw [result_convert_eq, map_override_eq_ok_iff.mpr ho, hread]
  rfl

theorem result_convert_eq_ok_iff :
    (job.convert tree.readText).result = .ok text ↔ job.Produces tree text := by
  simp only [result_convert_eq, bind_eq_ok_iff, mapError_eq_ok_iff, map_override_eq_ok_iff,
    result_render_eq_ok_iff]
  constructor
  · rintro ⟨o, heffect, document, hread, is, hparse, hrenders⟩
    exact ⟨o, is, ⟨heffect, document, hread, hparse⟩, hrenders⟩
  · rintro ⟨o, is, ⟨heffect, document, hread, hparse⟩, hrenders⟩
    exact ⟨o, heffect, document, hread, is, hparse, hrenders⟩

theorem failsFirst_of_result_convert (h : (job.convert tree.readText).result = .error f) :
    job.FailsFirst tree f.message := by
  rw [result_convert_eq] at h
  rcases bind_eq_error_iff.mp h with hoptions | ⟨o, hoptions, h⟩
  · cases hload : job.loadOptions tree.readText with
    | error g =>
      rw [hload] at hoptions
      cases hoptions
      exact failsFirst_of_loadOptions hload
    | ok fileOptions => rw [hload] at hoptions; cases hoptions
  have heffect := map_override_eq_ok_iff.mp hoptions
  rcases bind_eq_error_iff.mp h with hread | ⟨document, hread, h⟩
  · obtain ⟨cause, hcause, rfl⟩ := mapError_eq_error_iff.mp hread
    exact .registersUnreadable heffect hcause
  rw [mapError_eq_ok_iff] at hread
  rcases bind_eq_error_iff.mp h with hparse | ⟨is, hparse, h⟩
  · obtain ⟨cause, hcause, rfl⟩ := mapError_eq_error_iff.mp hparse
    exact .registersInvalid heffect hread hcause
  rw [mapError_eq_ok_iff] at hparse
  obtain ⟨cause, hrender, rfl⟩ := mapError_eq_error_iff.mp h
  obtain ⟨hformat, hencode⟩ := result_render_eq_error_iff.mp hrender
  exact .encodingFailed ⟨heffect, document, hread, hparse⟩ hformat hencode

/-! ## The run -/

/-- A conversion depends on nothing but its files: `read` and `read'` need not agree on others. -/
theorem convert_congr {read read' : String → Except FileError String}
    (h : ∀ path ∈ job.optionsFile.toList ++ [job.file], read path = read' path) :
    job.convert read = job.convert read' := by
  have hfile : read job.file = read' job.file := h _ (by simp)
  have hload : job.loadOptions read = job.loadOptions read' := by
    unfold loadOptions
    cases hoptions : job.optionsFile with
    | none => rfl
    | some path =>
      have hpath : read path = read' path := h _ (by simp [hoptions])
      simp only [hpath]
  unfold convert
  rw [hload, hfile]

/-- What `job.plan` reads ahead is what the conversion would read by itself. -/
theorem run_plan (job : Job) (tree : FileTree) :
    job.plan.run tree = (job.conclude (job.convert tree.readText)).run tree := by
  rw [plan, Plan.run_readAll]
  refine congrArg (fun x => (job.conclude x).run tree) (convert_congr fun path hpath => ?_)
  rw [List.lookup_graph tree.readText hpath]
  rfl

/-- What a run leaves if nothing of its log is shown. -/
def silent (job : Job) (tree : FileTree) : Outcome :=
  match (job.convert tree.readText).result with
  | .error f => ⟨1, "", failureLine f, tree⟩
  | .ok text =>
    match job.output with
    | none => ⟨0, text, "", tree⟩
    | some path =>
      match tree.write path text.toUTF8 with
      | .ok tree' => ⟨0, "", "", tree'⟩
      | .error cause => ⟨1, "", failureLine (.outputUnwritable path cause), tree⟩

/-- The log is shown first, and does not bear on anything else: but for it, a run is `silent`. -/
theorem run_eq (job : Job) (tree : FileTree) : job.plan.run tree =
    { job.silent tree with
      stdout := logText job.threshold (job.convert tree.readText).log ++
        (job.silent tree).stdout } := by
  have hlog : job.logLines (job.convert tree.readText) =
      logText job.threshold (job.convert tree.readText).log := rfl
  rw [run_plan]
  unfold conclude silent
  cases (job.convert tree.readText).result with
  | error f => simp only [Plan.run, hlog, String.append_empty]
  | ok text =>
    cases job.output with
    | none => simp only [Plan.run, hlog, String.append_empty]
    | some path =>
      cases hwrite : tree.write path text.toUTF8 with
      | error cause => simp only [Plan.run, hlog, hwrite, String.append_empty]
      | ok tree' => simp only [Plan.run, hlog, hwrite]

/-- The `text` that the stages produce is delivered, if the output file can be written. -/
theorem delivers_of_produces (h : job.Produces tree text)
    (hwritable : ∀ path ∈ job.output, tree.IsWritable path) :
    (job.plan.run tree).Delivers job tree (logText job.threshold (job.convert tree.readText).log)
      text := by
  rw [run_eq]
  unfold silent
  rw [result_convert_eq_ok_iff.mpr h]
  cases houtput : job.output with
  | none =>
    refine ⟨rfl, rfl, fun _ => ⟨rfl, rfl⟩, ?_⟩
    rw [houtput]
    nofun
  | some path =>
    have hwrite : ∃ tree', tree.write path text.toUTF8 = .ok tree' :=
      FileTree.isWritable_iff.mp (hwritable path houtput)
    obtain ⟨tree', hwrite⟩ := hwrite
    obtain ⟨route, hfollow, hcontent, hothers, hdirectories⟩ := FileTree.write_eq_ok hwrite
    simp only [hwrite]
    refine ⟨rfl, rfl, ?_, ?_⟩
    · rw [houtput]
      nofun
    · rw [houtput]
      rintro _ ⟨⟩
      exact ⟨String.append_empty, FileTree.readText_of_follow hfollow hcontent, route, hfollow,
        hothers, hdirectories⟩

theorem fails_of_result_convert (h : (job.convert tree.readText).result = .error f) :
    (job.plan.run tree).Fails tree (logText job.threshold (job.convert tree.readText).log)
      f.message := by
  rw [run_eq, silent, h]
  exact ⟨rfl, String.append_empty, rfl, rfl⟩

/-- **The stage that fails first** is the one that a run fails with, in its `words`. -/
theorem fails_of_failsFirst (h : job.FailsFirst tree words) :
    (job.plan.run tree).Fails tree (logText job.threshold (job.convert tree.readText).log)
      words := by
  cases h with
  | optionsUnreadable hfile hread =>
    refine fails_of_result_convert (f := .optionsUnreadable _ _) ?_
    rw [result_convert_eq, loadOptions, hfile]
    simp only [hread]
    rfl
  | optionsInvalid hfile hread hload =>
    refine fails_of_result_convert (f := .optionsInvalid _ _) ?_
    rw [result_convert_eq, loadOptions, hfile]
    simp only [hread, hload]
    rfl
  | registersUnreadable heffect hread =>
    refine fails_of_result_convert (f := .registersUnreadable _ _) ?_
    rw [result_convert_eq, map_override_eq_ok_iff.mpr heffect, hread]
    rfl
  | registersInvalid heffect hread hparse =>
    refine fails_of_result_convert (f := .registersInvalid _ _) ?_
    rw [result_convert_of_read heffect hread, hparse]
    rfl
  | encodingFailed hreads hformat hencode =>
    obtain ⟨heffect, document, hread, hparse⟩ := hreads
    have hrender := result_render_eq_error_iff.mpr ⟨hformat, hencode⟩
    refine fails_of_result_convert (f := .encodingFailed _) ?_
    rw [result_convert_of_read heffect hread, hparse]
    exact mapError_eq_error_iff.mpr ⟨_, hrender, rfl⟩
  | outputUnwritable hproduces houtput hwrite =>
    rw [run_eq, silent, result_convert_eq_ok_iff.mpr hproduces, houtput]
    simp only [hwrite]
    exact ⟨rfl, String.append_empty, rfl, rfl⟩

/-- All stages are passed, or one of them is the first that fails: `Produces` and `FailsFirst` leave
no third case. -/
theorem produces_or_failsFirst (job : Job) (tree : FileTree) :
    (∃ text, job.Produces tree text ∧ ∀ path ∈ job.output, tree.IsWritable path) ∨
      ∃ words, job.FailsFirst tree words := by
  cases hresult : (job.convert tree.readText).result with
  | error f => exact .inr ⟨f.message, failsFirst_of_result_convert hresult⟩
  | ok text =>
    have hproduces := result_convert_eq_ok_iff.mp hresult
    cases houtput : job.output with
    | none => exact .inl ⟨text, hproduces, nofun⟩
    | some path =>
      cases hwrite : tree.write path text.toUTF8 with
      | error cause => exact .inr ⟨_, .outputUnwritable hproduces houtput hwrite⟩
      | ok tree' =>
        refine .inl ⟨text, hproduces, ?_⟩
        rintro _ ⟨⟩
        exact FileTree.isWritable_iff.mpr ⟨tree', hwrite⟩

end Job

theorem run_of_ofArguments {arguments : List String}
    (h : Request.ofArguments arguments = .ok (.convert job)) (tree : FileTree) :
    run arguments tree = job.plan.run tree := by
  rw [run, plan, h]

/-- **All or nothing.** A conversion succeeds exactly if the options load and the register document
is read (`Job.Reads`), its instructions are encoded where the form asks for that, and the output
file can be written. Then the whole `text` is in one place (`Delivers`); otherwise the first stage
that fails is named on the standard error, with its cause, and no file has changed (`Fails`). How
much is reported decides which lines of `log`, that of the conversion, are shown before the text,
and nothing else. -/
theorem run_all_or_nothing {arguments : List String} {job : Job}
    (h : Request.ofArguments arguments = .ok (.convert job)) (tree : FileTree) :
    let log := (job.convert tree.readText).log
    ((run arguments tree).exitCode = 0 ↔ ∃ o is, job.Reads tree o is ∧
      (job.format ≠ .records → ∃ ds, (encodeAll o is).result = .ok ds) ∧
      ∀ path ∈ job.output, tree.IsWritable path) ∧
    ((run arguments tree).exitCode = 0 → ∃ text, job.Produces tree text ∧
      (run arguments tree).Delivers job tree (logText job.threshold log) text) ∧
    ((run arguments tree).exitCode ≠ 0 → ∃ words, job.FailsFirst tree words) ∧
    (∀ words, job.FailsFirst tree words →
      (run arguments tree).Fails tree (logText job.threshold log) words) ∧
    ∃ rest, (run arguments tree).stdout = logText job.threshold log ++ rest ∧
      ∀ arguments' verbosity quiet,
        Request.ofArguments arguments' = .ok (.convert (job.atLevel verbosity quiet)) →
        run arguments' tree = { run arguments tree with
          stdout := logText (job.atLevel verbosity quiet).threshold log ++ rest } := by
  intro log
  rw [run_of_ofArguments h]
  have hfails := fun words (hwords : job.FailsFirst tree words) => Job.fails_of_failsFirst hwords
  refine ⟨?_, ?_, ?_, hfails, (job.silent tree).stdout, ?_, ?_⟩
  · constructor
    · intro hcode
      rcases job.produces_or_failsFirst tree with ⟨text, hproduces, hwritable⟩ | ⟨words, hwords⟩
      · obtain ⟨o, is, hreads, hrenders⟩ := hproduces
        exact ⟨o, is, hreads, Job.exists_renders_iff.mp ⟨text, hrenders⟩, hwritable⟩
      · cases (hfails words hwords).exitCode.symm.trans hcode
    · rintro ⟨o, is, hreads, hencode, hwritable⟩
      obtain ⟨text, hrenders⟩ := Job.exists_renders_iff.mpr hencode
      exact (Job.delivers_of_produces ⟨o, is, hreads, hrenders⟩ hwritable).exitCode
  · intro hcode
    rcases job.produces_or_failsFirst tree with ⟨text, hproduces, hwritable⟩ | ⟨words, hwords⟩
    · exact ⟨text, hproduces, Job.delivers_of_produces hproduces hwritable⟩
    · cases (hfails words hwords).exitCode.symm.trans hcode
  · intro hcode
    rcases job.produces_or_failsFirst tree with ⟨text, hproduces, hwritable⟩ | hfirst
    · exact absurd (Job.delivers_of_produces hproduces hwritable).exitCode hcode
    · exact hfirst
  · rw [job.run_eq]
  · intro arguments' verbosity quiet h'
    rw [run_of_ofArguments h', Job.run_eq, job.run_eq]
    rfl

/-- An output file that is the register document itself takes its place: the records of the
document are in it afterwards. If the directory of the output file is missing, or the document is
cut off, the standard error says so. -/
theorem run_all_or_nothing_in_place :
    let arguments := ["-f", "r.txt", "--format=records", "-o", "r.txt"]
    let tree : FileTree := ⟨[(["r.txt"], "Size:1,Offset:2,Data:F".toUTF8)], []⟩
    let cut : FileTree := ⟨[(["r.txt"], "Size:1,Offset".toUTF8)], []⟩
    ((run arguments tree).exitCode = 0 ∧
      (run arguments tree).files.readText "r.txt" = .ok "Size: 1, Offset: 2, Data: F\n") ∧
    (run ["-f", "r.txt", "--format=records", "-o", "d/r.txt"] tree).stderr =
      "Error: failed to write 'd/r.txt': No such file or directory (os error 2)\n" ∧
    (run arguments cut).stderr =
      "Error: 'r.txt' is not a valid register file: syntax error on line 1, column 1: expected " ++
        "an instruction, a blank line, or a comment (instruction failed in its offset clause)\n" ++
        "  | Size:1,Offset\n" := by
  intro arguments tree cut
  let job (output : String) : Job :=
    ⟨"r.txt", .records, some output, none, false, false, false, none, none, 0, false⟩
  let is : List Instruction := [⟨1, 1, ⟨"1"⟩, ⟨"2"⟩, ⟨"F"⟩⟩]
  have hjob : Request.ofArguments arguments = .ok (.convert (job "r.txt")) := by
    with_unfolding_all rfl
  have hfollow : tree.follow "r.txt" = .ok (.within ["r.txt"]) := by with_unfolding_all rfl
  have hread : tree.readText "r.txt" = .ok "Size:1,Offset:2,Data:F" :=
    FileTree.readText_of_follow hfollow rfl
  have hreads : ∀ output, (job output).Reads tree {} is := fun output =>
    ⟨⟨{}, .default rfl, rfl⟩, _, hread, by with_unfolding_all rfl⟩
  have hproduces : ∀ output, (job output).Produces tree (Instruction.renderAll is) :=
    fun output => ⟨_, _, hreads output, .records rfl⟩
  refine ⟨?_, ?_, ?_⟩
  · obtain ⟨hiff, hzero, -⟩ := run_all_or_nothing hjob tree
    have hcode : (run arguments tree).exitCode = 0 := by
      refine hiff.mpr ⟨_, _, hreads "r.txt", fun h => absurd rfl h, ?_⟩
      rintro _ ⟨⟩
      exact ⟨["r.txt"], by with_unfolding_all rfl⟩
    obtain ⟨text, htext, hdelivers⟩ := hzero hcode
    refine ⟨hcode, (hdelivers.written "r.txt" rfl).2.1.trans ?_⟩
    have hrecords := hproduces "r.txt"
    rw [← Job.result_convert_eq_ok_iff] at htext hrecords
    obtain rfl := Except.ok.inj (htext.symm.trans hrecords)
    with_unfolding_all rfl
  · have hjob' : Request.ofArguments ["-f", "r.txt", "--format=records", "-o", "d/r.txt"] =
        .ok (.convert (job "d/r.txt")) := by
      with_unfolding_all rfl
    obtain ⟨-, -, -, hfails, -⟩ := run_all_or_nothing hjob' tree
    have hwrite : tree.write "d/r.txt" (Instruction.renderAll is).toUTF8 = .error .notFound := by
      with_unfolding_all rfl
    exact (hfails _ (.outputUnwritable (hproduces "d/r.txt") rfl hwrite)).stderr
  · obtain ⟨-, -, -, hfails, -⟩ := run_all_or_nothing hjob cut
    have hfollow' : cut.follow "r.txt" = .ok (.within ["r.txt"]) := by with_unfolding_all rfl
    have hparse : (Document.parse "Size:1,Offset" .commented).result =
        .error (.unreadable ⟨1, 1, 0, "Size:1,Offset", some "offset clause"⟩) := by
      with_unfolding_all rfl
    have hcut : (job "r.txt").FailsFirst cut _ :=
      .registersInvalid (o := {}) ⟨{}, .default rfl, rfl⟩ (FileTree.readText_of_follow hfollow' rfl)
        hparse
    have hline : toString 1 = "1" := rfl
    rw [(hfails _ hcut).stderr]
    unfold Error.message SyntaxError.message
    simp only [hline, String.reduceAppend, job]

end RegisterWrites.Command
