import RegisterWrites.Proofs.Command.Arguments
import RegisterWrites.Proofs.Command.Stages
import RegisterWrites.Proofs.Descriptor.Comparison
import RegisterWrites.Proofs.Document.Records
import RegisterWrites.Proofs.Options.Entries

/-!
# The forms of a conversion

A command line does in each form what the library does with the document, under options that
are settled one by one: by the items that it spells, by the options file, or by default
(`Settles`). The main statement, `run_forms`, says for each form when a run succeeds and
what it then delivers. A table succeeds as initializers do and shows what they say; records
need nothing but a document that can be read.
-/

namespace RegisterWrites

theorem result_convert (text : String) (o : Options) : (convert text o).result =
    (Document.parse text o.dialect).result >>= fun is => (encodeAll o is).result := by
  unfold convert
  simp only [Logged.result_bind]
  rfl

namespace Command

open Options (IsChosen value? emissionValue?)

variable {job : Job} {items : List Item} {tree : FileTree} {o file : Options}
  {entries : List (String × Toml.Value)} {α : Type} {a b byDefault : α} {given : α → Prop}
  {value : Option Toml.Value} {decode : Toml.Value → Except OptionsError α}

/-! ## Options -/

/-- The option `a` is what is `given` on the command line, or else what the `value` in the options
file says, or else as it is `byDefault`. -/
def IsSettled (given : α → Prop) (decode : Toml.Value → Except OptionsError α) (byDefault : α)
    (value : Option Toml.Value) (a : α) : Prop :=
  (∀ b, given b → a = b) ∧ ((∀ b, ¬given b) → IsChosen decode byDefault value a)

theorem isSettled_iff {own : Option α} (hgiven : ∀ b, given b ↔ own = some b)
    (h : IsChosen decode byDefault value b) :
    IsSettled given decode byDefault value a ↔ a = own.getD b := by
  unfold IsSettled
  simp only [hgiven]
  cases own with
  | none =>
    constructor
    · intro ha
      exact (ha.2 nofun).unique h
    · rintro rfl
      exact ⟨nofun, fun _ => h⟩
  | some c =>
    constructor
    · intro ha
      exact ha.1 c rfl
    · rintro rfl
      exact ⟨fun b hb => Option.some.inj hb, fun hnone => absurd rfl (hnone _)⟩

/-- The options `o` of a run, each settled on its own by the `items` of the command line and the
`entries` of the options file. -/
structure Settles (items : List Item) (entries : List (String × Toml.Value)) (o : Options) :
    Prop where
  dialect : IsSettled (fun b => .flag .bare ∈ items ∧ b = .bare) Options.decodeDialect .commented
    (value? entries "grammar") o.dialect
  offsetStyle : IsSettled (fun b => .flag .prefixOffset ∈ items ∧ b = .prefixed)
    Options.decodeOffsetStyle .verbatim (emissionValue? entries "offset_style")
    o.emission.offsetStyle
  bytePrefix : IsSettled (fun b => .flag .prefixBytes ∈ items ∧ b = true) Options.decodeFlag false
    (emissionValue? entries "byte_prefix") o.emission.bytePrefix
  strictness : IsSettled (fun b => .setting .strictness b.name ∈ items)
    Options.decodeStrictness .off (value? entries "strictness") o.strictness
  maxLength : IsSettled
    (fun b => ∃ text n, .setting .maxLength text ∈ items ∧ IsCount text n ∧ b = some n)
    (fun v => (Options.decodeCount v).map some) none (value? entries "max_length") o.maxLength

theorem given_flag_iff {f : Flag} {up : Bool} (h : items.count (.flag f) = up.toNat) (a b : α) :
    .flag f ∈ items ∧ b = a ↔ (if up then some a else none) = some b := by
  rw [← List.count_pos_iff, h]
  cases up with
  | false => simp
  | true => simp [eq_comm]

theorem mem_values_iff {s : Setting} {text : String} :
    text ∈ values s items ↔ .setting s text ∈ items := by
  unfold values
  rw [List.mem_filterMap]
  constructor
  · rintro ⟨item, hitem, htext⟩
    cases item with
    | flag f => cases htext
    | setting s' text' =>
      by_cases h : s' = s
      · simp only [if_pos h, Option.some.injEq] at htext
        rwa [← h, ← htext]
      · simp only [if_neg h] at htext
        cases htext
  · intro h
    exact ⟨_, h, if_pos rfl⟩

/-- Where `R` determines the value of a text, the value of one of `texts` is the one that is
given. -/
theorem exists_mem_iff_of_forall₂ {R : String → α → Prop} {texts : List String} {own : Option α}
    (h : List.Forall₂ R texts own.toList) (hunique : ∀ text a b, R text a → R text b → a = b) :
    (∃ text ∈ texts, R text b) ↔ own = some b := by
  cases own with
  | none =>
    obtain rfl := List.forall₂_nil_right_iff.mp h
    simp
  | some a =>
    obtain ⟨text, _, ha, hnil, rfl⟩ := List.forall₂_cons_right_iff.mp h
    obtain rfl := List.forall₂_nil_right_iff.mp hnil
    rw [Option.some.injEq]
    constructor
    · rintro ⟨_, hmem, hb⟩
      obtain rfl := List.mem_singleton.mp hmem
      exact hunique _ _ _ ha hb
    · rintro rfl
      exact ⟨text, List.mem_singleton_self text, ha⟩

theorem given_strictness_iff (h : job.Takes items) (b : Strictness) :
    .setting .strictness b.name ∈ items ↔ job.strictness = some b := by
  have hunique : ∀ (text : String) (a b : Strictness), text = a.name → text = b.name → a = b := by
    rintro _ a b rfl hab
    cases a <;> cases b <;> first | rfl | exact absurd hab (by decide)
  rw [← exists_mem_iff_of_forall₂ h.strictness hunique, ← mem_values_iff]
  simp

theorem given_maxLength_iff (h : job.Takes items) (b : Option Nat) :
    (∃ text n, .setting .maxLength text ∈ items ∧ IsCount text n ∧ b = some n) ↔
      job.maxLength.map some = some b := by
  have hunique : ∀ text m n, IsCount text m → IsCount text n → m = n := by
    intro text m n hm hn
    rw [← count?_eq_some_iff] at hm hn
    exact Option.some.inj (hm.symm.trans hn)
  have hcount : ∀ n, (∃ text, .setting .maxLength text ∈ items ∧ IsCount text n) ↔
      job.maxLength = some n := by
    intro n
    rw [← exists_mem_iff_of_forall₂ h.maxLength hunique]
    simp only [mem_values_iff]
  constructor
  · rintro ⟨text, n, hmem, hn, rfl⟩
    rw [(hcount n).mp ⟨text, hmem, hn⟩]
    rfl
  · intro hb
    obtain ⟨n, hn, rfl⟩ := Option.map_eq_some_iff.mp hb
    obtain ⟨text, hmem, hn⟩ := (hcount n).mpr hn
    exact ⟨text, n, hmem, hn, rfl⟩

namespace Job

/-- **The options of a job** are those that the command line and the options file settle: `Settles`
holds of `job.override file` alone. -/
theorem settles_iff (htakes : job.Takes items) (hload : Options.ofEntries entries = .ok file) :
    Settles items entries o ↔ o = job.override file := by
  have hgives := Options.gives_of_ofEntries hload
  have hdialect := isSettled_iff (a := o.dialect) (given_flag_iff htakes.bare .bare)
    hgives.dialect
  have hoffsetStyle := isSettled_iff (a := o.emission.offsetStyle)
    (given_flag_iff htakes.prefixOffset .prefixed) hgives.offsetStyle
  have hbytePrefix := isSettled_iff (a := o.emission.bytePrefix)
    (given_flag_iff htakes.prefixBytes true) hgives.bytePrefix
  have hstrictness := isSettled_iff (a := o.strictness) (given_strictness_iff htakes)
    hgives.strictness
  have hmaxLength := isSettled_iff (a := o.maxLength) (given_maxLength_iff htakes)
    hgives.maxLength
  have hoverride : job.override file =
      ⟨(if job.bare then some .bare else none).getD file.dialect,
        ⟨(if job.prefixOffset then some .prefixed else none).getD file.emission.offsetStyle,
          (if job.prefixBytes then some true else none).getD file.emission.bytePrefix⟩,
        job.strictness.getD file.strictness, (job.maxLength.map some).getD file.maxLength⟩ := by
    unfold override
    cases job.bare <;> cases job.prefixOffset <;> cases job.prefixBytes <;>
      cases job.maxLength <;> rfl
  rw [hoverride]
  constructor
  · intro ho
    obtain ⟨dialect, ⟨offsetStyle, bytePrefix⟩, strictness, maxLength⟩ := o
    obtain rfl := hdialect.mp ho.dialect
    obtain rfl := hoffsetStyle.mp ho.offsetStyle
    obtain rfl := hbytePrefix.mp ho.bytePrefix
    obtain rfl := hstrictness.mp ho.strictness
    obtain rfl := hmaxLength.mp ho.maxLength
    rfl
  · rintro rfl
    exact ⟨hdialect.mpr rfl, hoffsetStyle.mpr rfl, hbytePrefix.mpr rfl, hstrictness.mpr rfl,
      hmaxLength.mpr rfl⟩

/-- The keys and values of the options file of `job`, or none if no file is named. -/
inductive Entries (job : Job) (tree : FileTree) : List (String × Toml.Value) → Prop
  | none (hfile : job.optionsFile = none) : Entries job tree []
  | read {path text : String} {entries : List (String × Toml.Value)}
      (hfile : job.optionsFile = some path) (hread : tree.readText path = .ok text)
      (hdocument : Toml.Document.read? text = some entries) : Entries job tree entries

theorem inEffect_override (hentries : job.Entries tree entries)
    (hload : Options.ofEntries entries = .ok file) : job.InEffect tree (job.override file) := by
  refine ⟨file, ?_, rfl⟩
  cases hentries with
  | none hfile =>
    cases hload
    exact .default hfile
  | read hfile hread hdocument =>
    refine .loaded hfile hread ?_
    rw [Options.read, hdocument]
    exact hload

/-! ## Forms -/

variable {text : String} {e : Error}

/-- Where `RegisterWrites.convert` fails, the run fails in every form but that of records. -/
theorem exitCode_run_of_convert_error (ho : job.InEffect tree o)
    (hread : tree.readText job.file = .ok text) (hformat : job.format ≠ .records)
    (hconvert : (RegisterWrites.convert text o).result = .error e) :
    (job.plan.run tree).exitCode = 1 := by
  rw [result_convert] at hconvert
  rcases bind_eq_error_iff.mp hconvert with hparse | ⟨is, hparse, hencode⟩
  · exact (fails_of_failsFirst (.registersInvalid ho hread hparse)).exitCode
  · have hreads : job.Reads tree o is := ⟨ho, text, hread, hparse⟩
    exact (fails_of_failsFirst (.encodingFailed hreads hformat hencode)).exitCode

end Job

/-- **What a command line gives in each form.** The `arguments` ask for a conversion exactly if they
spell items of which a job can be made. Let the options file of such a `job` load, the register
document be read, and the output file be one that can be written; then the items and the options
file settle the options `o` one by one (`Settles`). The initializers are those of the conversion of
the document under `o`, and where that fails the run fails. A table is delivered in the same cases,
and stands beside these initializers line by line (`IsBeside`). The records are those of the
document, and nothing but its reading decides about them. -/
theorem run_forms (arguments : List String) :
    (∀ job, Request.ofArguments arguments = .ok (.convert job) ↔
      ∃ items, Spells arguments items ∧ job.Takes items) ∧
    ∀ {items : List Item} {job : Job} {tree : FileTree} {entries : List (String × Toml.Value)}
      {file : Options} {text : String}, Spells arguments items → job.Takes items →
      job.Entries tree entries → Options.ofEntries entries = .ok file →
      tree.readText job.file = .ok text → (∀ path ∈ job.output, tree.IsWritable path) →
      ∃ o, (∀ o', Settles items entries o' ↔ o' = o) ∧
        let shown := logText job.threshold (job.convert tree.readText).log
        (job.format = .initializer →
          (∀ ds, (convert text o).result = .ok ds →
            (run arguments tree).Delivers job tree shown
              (Descriptor.initializers o.emission ds)) ∧
          ∀ e, (convert text o).result = .error e → (run arguments tree).exitCode = 1) ∧
        (job.format = .table →
          (∀ ds, (convert text o).result = .ok ds → ∃ table,
            (run arguments tree).Delivers job tree shown table ∧
            Comparison.IsBeside o.emission ds table (Descriptor.initializers o.emission ds)) ∧
          ∀ e, (convert text o).result = .error e → (run arguments tree).exitCode = 1) ∧
        (job.format = .records →
          (∀ is, (Document.parse text o.dialect).result = .ok is →
            (run arguments tree).Delivers job tree shown (Instruction.renderAll is)) ∧
          ∀ e, (Document.parse text o.dialect).result = .error e →
            (run arguments tree).exitCode = 1) := by
  refine ⟨fun job => ofArguments_eq_convert_iff, ?_⟩
  intro items job tree entries file text hspells htakes hentries hload hread hwritable
  have heffect := Job.inEffect_override hentries hload
  refine ⟨job.override file, fun o' => Job.settles_iff htakes hload, ?_⟩
  rw [run_of_ofArguments (ofArguments_eq_convert_iff.mpr ⟨items, hspells, htakes⟩)]
  generalize job.override file = o at heffect ⊢
  have hdelivers : ∀ {is : List Instruction} {rendered : String},
      (Document.parse text o.dialect).result = .ok is → job.Renders o is rendered →
        (job.plan.run tree).Delivers job tree
          (logText job.threshold (job.convert tree.readText).log) rendered := by
    intro is rendered hparse hrenders
    exact Job.delivers_of_produces ⟨o, is, ⟨heffect, text, hread, hparse⟩, hrenders⟩ hwritable
  intro shown
  refine ⟨?_, ?_, ?_⟩
  · intro hformat
    refine ⟨fun ds hconvert => ?_, fun e => ?_⟩
    · rw [result_convert] at hconvert
      obtain ⟨is, hparse, hencode⟩ := bind_eq_ok_iff.mp hconvert
      exact hdelivers hparse (.initializers hformat hencode)
    · exact Job.exitCode_run_of_convert_error heffect hread (by rw [hformat]; nofun)
  · intro hformat
    refine ⟨fun ds hconvert => ?_, fun e => ?_⟩
    · rw [result_convert] at hconvert
      obtain ⟨is, hparse, hencode⟩ := bind_eq_ok_iff.mp hconvert
      refine ⟨_, hdelivers hparse (.table hformat hencode), ?_⟩
      obtain ⟨-, rfl⟩ := result_encodeAll_eq_ok_iff.mp hencode
      exact Comparison.isBeside_render (Document.isGrammatical_of_parse hparse) o.emission
    · exact Job.exitCode_run_of_convert_error heffect hread (by rw [hformat]; nofun)
  · intro hformat
    refine ⟨fun is hparse => ?_, fun e hparse => ?_⟩
    · exact hdelivers hparse (.records hformat)
    · exact (Job.fails_of_failsFirst (.registersInvalid heffect hread hparse)).exitCode

/-- The options file asks for a strict check, which the command line turns off, and the payload is
written under marks; so a table is delivered of a document with a wrong size. -/
theorem run_forms_lenient :
    let arguments :=
      ["-f", "r.txt", "-c", "c.toml", "--format=table", "--strict", "off", "--prefix-bytes"]
    let tree : FileTree := ⟨[(["r.txt"], "Size:2,Offset:1,Data:F".toUTF8),
      (["c.toml"], "strictness = \"deny\"".toUTF8)], []⟩
    (run arguments tree).exitCode = 0 ∧
      ∃ shown table, (run arguments tree).stdout = shown ++ table ∧
        Comparison.IsBeside ⟨.verbatim, true⟩ [⟨1, 3, ⟨"1"⟩, [⟨'F', '0'⟩], true⟩] table
          "\x7b3, \x7b1, 0xF0\x7d\x7d,\n" := by
  intro arguments tree
  let entries : List (String × Toml.Value) := [("strictness", .string "deny")]
  let job : Job :=
    ⟨"r.txt", .table, none, some "c.toml", false, false, true, some .off, none, 0, false⟩
  let o : Options := ⟨.commented, ⟨.verbatim, true⟩, .off, none⟩
  have hjob : Request.ofArguments arguments = .ok (.convert job) := by with_unfolding_all rfl
  have hfollow : tree.follow "r.txt" = .ok (.within ["r.txt"]) := by with_unfolding_all rfl
  have hfollow' : tree.follow "c.toml" = .ok (.within ["c.toml"]) := by with_unfolding_all rfl
  have hdocument : Toml.Document.read? "strictness = \"deny\"" = some entries := by
    have hlines : Toml.readLines? 20 "strictness = \"deny\"".toList =
        some [.pair [] "strictness" (.string "deny")] := by
      with_unfolding_all rfl
    change (Toml.readLines? 20 "strictness = \"deny\"".toList >>= _) = _
    rw [hlines]
    with_unfolding_all rfl
  have hentries : job.Entries tree entries :=
    .read rfl (FileTree.readText_of_follow hfollow' rfl) hdocument
  have hload : Options.ofEntries entries = .ok ⟨.commented, {}, .deny, none⟩ := rfl
  have hconvert : (convert "Size:2,Offset:1,Data:F" o).result =
      .ok [⟨1, 3, ⟨"1"⟩, [⟨'F', '0'⟩], true⟩] := by
    with_unfolding_all rfl
  obtain ⟨harguments, hforms⟩ := run_forms arguments
  obtain ⟨items, hspells, htakes⟩ := (harguments job).mp hjob
  obtain ⟨o', ho', -, htable, -⟩ := hforms hspells htakes hentries hload
    (FileTree.readText_of_follow hfollow rfl) nofun
  obtain rfl : o = o' := (ho' o).mp ((Job.settles_iff htakes hload).mpr rfl)
  obtain ⟨table, hdelivers, hbeside⟩ := (htable rfl).1 _ hconvert
  exact ⟨hdelivers.exitCode, _, table, (hdelivers.printed rfl).1, hbeside⟩

end Command

end RegisterWrites
