import RegisterWrites.Command.Arguments
import RegisterWrites.Proofs.Except
import RegisterWrites.Proofs.Text.Run

/-!
# Command lines, spelled out

A command line described without its reader: an `Item` is a flag, or a setting with the text of its
value, and `Spells arguments items` says that `arguments` give `items`, by long names, by letters
in one argument, with values attached or behind. The main statement, `takeArguments_eq_convert_iff`,
is that the reader takes up the items that are spelled, one after another (`Draft.take`), and
finishes the draft.
-/

namespace RegisterWrites.Command

/-- What a command line gives at one place: a flag, or a setting with the text of its value. -/
inductive Item
  | flag (f : Flag)
  | setting (s : Setting) (text : String)
  deriving DecidableEq, Repr

variable {argument text : String} {arguments : List String} {item : Item} {items : List Item}
  {waiting : Option Setting} {cs : List Char} {c : Char} {f : Flag} {s : Setting}
  {d d' : Draft} {job : Job}

/-! ## Names -/

/-- The name of the flag behind two dashes. -/
def Flag.name : Flag → String
  | bare => "bare"
  | prefixOffset => "prefix-offset"
  | prefixBytes => "prefix-bytes"
  | verbose => "verbose"
  | quiet => "quiet"

/-- The letter of the flag behind one dash, if it has one. -/
def Flag.letter? : Flag → Option Char
  | verbose => some 'v'
  | quiet => some 'q'
  | bare | prefixOffset | prefixBytes => none

/-- The name of the setting behind two dashes. -/
def Setting.name : Setting → String
  | file => "file"
  | format => "format"
  | output => "output"
  | optionsFile => "config"
  | strictness => "strict"
  | maxLength => "max-length"

/-- The letter of the setting behind one dash, if it has one. -/
def Setting.letter? : Setting → Option Char
  | file => some 'f'
  | output => some 'o'
  | optionsFile => some 'c'
  | format | strictness | maxLength => none

theorem mem_of_lookup_eq_some {α β : Type} [BEq α] [LawfulBEq α] {table : List (α × β)} {a : α}
    {b : β} (h : table.lookup a = some b) : (a, b) ∈ table := by
  obtain ⟨before, after, rfl, -⟩ := List.lookup_eq_some_iff.mp h
  simp

theorem lookup_longNames_flag_iff {name : String} :
    longNames.lookup name = some (.flag f) ↔ name = f.name := by
  constructor
  · intro h
    have hmem := mem_of_lookup_eq_some h
    simp only [longNames, List.mem_cons, Prod.mk.injEq, Switch.flag.injEq, reduceCtorEq, and_false,
      false_or, List.not_mem_nil, or_false] at hmem
    rcases hmem with ⟨rfl, rfl⟩ | ⟨rfl, rfl⟩ | ⟨rfl, rfl⟩ | ⟨rfl, rfl⟩ | ⟨rfl, rfl⟩ <;> rfl
  · rintro rfl
    cases f <;> rfl

theorem lookup_longNames_setting_iff {name : String} :
    longNames.lookup name = some (.setting s) ↔ name = s.name := by
  constructor
  · intro h
    have hmem := mem_of_lookup_eq_some h
    simp only [longNames, List.mem_cons, Prod.mk.injEq, Switch.setting.injEq, reduceCtorEq,
      and_false, false_or, List.not_mem_nil, or_false] at hmem
    rcases hmem with ⟨rfl, rfl⟩ | ⟨rfl, rfl⟩ | ⟨rfl, rfl⟩ | ⟨rfl, rfl⟩ | ⟨rfl, rfl⟩ | ⟨rfl, rfl⟩ <;>
      rfl
  · rintro rfl
    cases s <;> rfl

theorem lookup_shortNames_flag_iff :
    shortNames.lookup c = some (.flag f) ↔ f.letter? = some c := by
  constructor
  · intro h
    have hmem := mem_of_lookup_eq_some h
    simp only [shortNames, List.mem_cons, Prod.mk.injEq, Switch.flag.injEq, reduceCtorEq, and_false,
      false_or, List.not_mem_nil, or_false] at hmem
    rcases hmem with ⟨rfl, rfl⟩ | ⟨rfl, rfl⟩ <;> rfl
  · intro h
    cases f <;> cases h <;> rfl

theorem lookup_shortNames_setting_iff :
    shortNames.lookup c = some (.setting s) ↔ s.letter? = some c := by
  constructor
  · intro h
    have hmem := mem_of_lookup_eq_some h
    simp only [shortNames, List.mem_cons, Prod.mk.injEq, Switch.setting.injEq, reduceCtorEq,
      and_false, List.not_mem_nil, or_false] at hmem
    rcases hmem with ⟨rfl, rfl⟩ | ⟨rfl, rfl⟩ | ⟨rfl, rfl⟩ <;> rfl
  · intro h
    cases s <;> cases h <;> rfl

/-! ## Spelling -/

/-- What `Long cs items waiting` says: the long option `cs`, behind its two dashes, gives the
`items`, and the setting that is `waiting` takes its value from the next argument. -/
inductive Long : List Char → List Item → Option Setting → Prop
  | flag (f : Flag) : Long f.name.toList [.flag f] none
  | value (s : Setting) (text : String) :
      Long (s.name.toList ++ '=' :: text.toList) [.setting s text] none
  | await (s : Setting) : Long s.name.toList [] (some s)

/-- What `Cluster cs items waiting` says: the letters `cs` behind one dash are any number of flags,
and behind them perhaps a setting, its value in the same argument or in the next. -/
inductive Cluster : List Char → List Item → Option Setting → Prop
  | nil : Cluster [] [] none
  | flag {f : Flag} {c : Char} {cs : List Char} {items : List Item} {waiting : Option Setting}
      (hletter : f.letter? = some c) (hrest : Cluster cs items waiting) :
      Cluster (c :: cs) (.flag f :: items) waiting
  | equals {s : Setting} {c : Char} (text : String) (hletter : s.letter? = some c) :
      Cluster (c :: '=' :: text.toList) [.setting s text] none
  | attached {s : Setting} {c : Char} {text : String} (hletter : s.letter? = some c)
      (hne : text.toList ≠ []) (hequals : text.toList.head? ≠ some '=') :
      Cluster (c :: text.toList) [.setting s text] none
  | await {s : Setting} {c : Char} (hletter : s.letter? = some c) : Cluster [c] [] (some s)

/-- What one `argument` gives, and the setting that is `waiting` for the next. -/
inductive Means (argument : String) (items : List Item) (waiting : Option Setting) : Prop
  | long {cs : List Char} (hargument : argument.toList = '-' :: '-' :: cs)
      (h : Long cs items waiting)
  | short {cs : List Char} (hargument : argument.toList = '-' :: cs) (hne : cs ≠ [])
      (h : Cluster cs items waiting)

/-- What `Spells arguments items` says: the `arguments` of a command line give the `items`, in this
order. -/
inductive Spells : List String → List Item → Prop
  | nil : Spells [] []
  | dashes : Spells ["--"] []
  | argument {argument : String} {arguments : List String} {items more : List Item}
      (h : Means argument items none) (hrest : Spells arguments more) :
      Spells (argument :: arguments) (items ++ more)
  | value {argument text : String} {arguments : List String} {items more : List Item}
      {s : Setting} (h : Means argument items (some s))
      (htext : text = "-" ∨ text.toList.head? ≠ some '-') (hrest : Spells arguments more) :
      Spells (argument :: text :: arguments) (items ++ .setting s text :: more)

/-! ## Reading arguments -/

/-- Takes up one item: raises its flag, or assigns its text to its setting. -/
def Draft.take (d : Draft) : Item → Except ArgumentError Draft
  | .flag f => d.raise f
  | .setting s text => d.assign s text

/-- What an argument leads to that has made the draft `d` and leaves a setting waiting, or none. -/
def Step.after (d : Draft) : Option Setting → Step
  | none => .go d
  | some s => .await d s

theorem go_eq_after_iff : Step.go d = .after d' waiting ↔ d' = d ∧ waiting = none := by
  cases waiting <;> simp [Step.after, eq_comm]

theorem await_eq_after_iff : Step.await d s = .after d' waiting ↔ d' = d ∧ waiting = some s := by
  cases waiting <;> simp [Step.after, eq_comm]

theorem stop_ne_after {r : Request} : Step.stop r ≠ .after d' waiting := by
  cases waiting <;> simp [Step.after]

/-- A long option is split at its first equals sign: the `name` has none, and the `value`, if there
is one, may have any. -/
theorem splitLong_eq_iff {name : String} {value : Option String} :
    splitLong cs = (name, value) ↔ '=' ∉ name.toList ∧
      cs = name.toList ++ value.elim [] fun text => '=' :: text.toList := by
  constructor
  · intro h
    obtain ⟨happ, hname, hends⟩ := Text.takeWhile_dropWhile_iff.mp
      (⟨rfl, rfl⟩ : cs.takeWhile (· ≠ '=') = _ ∧ cs.dropWhile (· ≠ '=') = _)
    have hequals : '=' ∉ cs.takeWhile (· ≠ '=') := fun hmem => absurd (hname _ hmem) (by decide)
    unfold splitLong at h
    cases hdrop : cs.dropWhile (· ≠ '=') with
    | nil =>
      rw [hdrop] at h happ
      obtain ⟨rfl, rfl⟩ := Prod.mk.inj h
      rw [String.toList_ofList]
      exact ⟨hequals, happ.symm⟩
    | cons c rest =>
      rw [hdrop] at h happ hends
      obtain rfl : c = '=' := by simpa using hends
      obtain ⟨rfl, rfl⟩ := Prod.mk.inj h
      simp only [String.toList_ofList, Option.elim_some]
      exact ⟨hequals, happ.symm⟩
  · rintro ⟨hname, rfl⟩
    have hall : ∀ c ∈ name.toList, decide (c ≠ '=') = true :=
      fun c hc => decide_eq_true (ne_of_mem_of_not_mem hc hname)
    have hends : Text.EndsRun (fun c => decide (c ≠ '='))
        (value.elim [] fun text => '=' :: text.toList) := by
      cases value <;> simp
    obtain ⟨htake, hdrop⟩ := Text.takeWhile_dropWhile_iff.mpr ⟨rfl, hall, hends⟩
    unfold splitLong
    rw [htake, hdrop]
    cases value <;> simp

theorem Flag.equals_notMem_name (f : Flag) : '=' ∉ f.name.toList := by
  cases f <;> decide

theorem Setting.equals_notMem_name (s : Setting) : '=' ∉ s.name.toList := by
  cases s <;> decide

theorem foldlM_take_flag : [Item.flag f].foldlM Draft.take d = d.raise f := by
  rw [List.foldlM_cons]
  exact bind_pure _

theorem foldlM_take_setting : [Item.setting s text].foldlM Draft.take d = d.assign s text := by
  rw [List.foldlM_cons]
  exact bind_pure _

theorem takeLong_eq_ok_iff : takeLong argument d cs = .ok (.after d' waiting) ↔
    ∃ items, Long cs items waiting ∧ items.foldlM Draft.take d = .ok d' := by
  constructor
  · intro h
    cases hsplit : splitLong cs with
    | mk name value =>
      obtain ⟨-, rfl⟩ := splitLong_eq_iff.mp hsplit
      simp only [takeLong, hsplit] at h
      cases hname : longNames.lookup name with
      | none => rw [hname] at h; cases h
      | some switch =>
        rw [hname] at h
        cases switch with
        | setting s =>
          obtain rfl := lookup_longNames_setting_iff.mp hname
          cases value with
          | none =>
            obtain ⟨rfl, rfl⟩ := await_eq_after_iff.mp (Except.ok.inj h)
            exact ⟨[], by simpa using Long.await s, rfl⟩
          | some text =>
            obtain ⟨e, hassign, hstep⟩ := bind_eq_ok_iff.mp h
            obtain ⟨rfl, rfl⟩ := go_eq_after_iff.mp (Except.ok.inj hstep)
            exact ⟨_, .value s text, foldlM_take_setting.trans hassign⟩
        | flag f =>
          obtain rfl := lookup_longNames_flag_iff.mp hname
          cases value with
          | none =>
            obtain ⟨e, hraise, hstep⟩ := bind_eq_ok_iff.mp h
            obtain ⟨rfl, rfl⟩ := go_eq_after_iff.mp (Except.ok.inj hstep)
            exact ⟨_, by simpa using Long.flag f, foldlM_take_flag.trans hraise⟩
          | some text => cases h
        | version | help =>
          cases value with
          | none => exact absurd (Except.ok.inj h) stop_ne_after
          | some text => cases h
  · rintro ⟨items, h, hfold⟩
    unfold takeLong
    cases h with
    | flag f =>
      have hsplit : splitLong f.name.toList = (f.name, none) :=
        splitLong_eq_iff.mpr ⟨f.equals_notMem_name, by simp⟩
      rw [foldlM_take_flag] at hfold
      simp only [hsplit, lookup_longNames_flag_iff.mpr rfl, hfold]
      rfl
    | value s text =>
      have hsplit : splitLong (s.name.toList ++ '=' :: text.toList) = (s.name, some text) :=
        splitLong_eq_iff.mpr ⟨s.equals_notMem_name, rfl⟩
      rw [foldlM_take_setting] at hfold
      simp only [hsplit, lookup_longNames_setting_iff.mpr rfl, hfold]
      rfl
    | await s =>
      have hsplit : splitLong s.name.toList = (s.name, none) :=
        splitLong_eq_iff.mpr ⟨s.equals_notMem_name, by simp⟩
      cases hfold
      simp only [hsplit, lookup_longNames_setting_iff.mpr rfl]
      rfl

/-- The `text` attached to a letter stands behind it, or behind an equals sign. -/
theorem attachedValue_eq_iff (hne : cs ≠ []) : attachedValue cs = text ↔
    cs = '=' :: text.toList ∨ cs = text.toList ∧ cs.head? ≠ some '=' := by
  cases cs with
  | nil => exact absurd rfl hne
  | cons c cs =>
    by_cases hc : c = '='
    · subst hc
      rw [attachedValue]
      constructor
      · rintro rfl
        exact .inl (by rw [String.toList_ofList])
      · rintro (h | ⟨-, h⟩)
        · rw [(List.cons.inj h).2, String.ofList_toList]
        · exact absurd rfl h
    · have hvalue : attachedValue (c :: cs) = String.ofList (c :: cs) := by
        unfold attachedValue
        split
        · next heq => exact absurd (List.cons.inj heq).1 hc
        · rfl
      rw [hvalue]
      constructor
      · rintro rfl
        refine .inr ⟨by rw [String.toList_ofList], ?_⟩
        simpa using hc
      · rintro (h | ⟨h, -⟩)
        · exact absurd (List.cons.inj h).1 hc
        · rw [h, String.ofList_toList]

theorem takeCluster_eq_ok_iff : takeCluster argument d cs = .ok (.after d' waiting) ↔
    ∃ items, Cluster cs items waiting ∧ items.foldlM Draft.take d = .ok d' := by
  induction cs generalizing d with
  | nil =>
    constructor
    · intro h
      obtain ⟨rfl, rfl⟩ := go_eq_after_iff.mp (Except.ok.inj h)
      exact ⟨[], .nil, rfl⟩
    · rintro ⟨_, ⟨⟩, hfold⟩
      cases hfold
      rfl
  | cons c cs ih =>
    constructor
    · intro h
      rw [takeCluster] at h
      cases hletter : shortNames.lookup c with
      | none => rw [hletter] at h; cases h
      | some switch =>
        rw [hletter] at h
        cases switch with
        | setting s =>
          have hs := lookup_shortNames_setting_iff.mp hletter
          by_cases hcs : cs = []
          · subst hcs
            obtain ⟨rfl, rfl⟩ := await_eq_after_iff.mp (Except.ok.inj h)
            exact ⟨[], .await hs, rfl⟩
          · simp only [if_neg hcs] at h
            obtain ⟨e, hassign, hstep⟩ := bind_eq_ok_iff.mp h
            obtain ⟨rfl, rfl⟩ := go_eq_after_iff.mp (Except.ok.inj hstep)
            obtain ⟨text, htext⟩ : ∃ text, attachedValue cs = text := ⟨_, rfl⟩
            rw [htext] at hassign
            refine ⟨[.setting s text], ?_, foldlM_take_setting.trans hassign⟩
            rcases (attachedValue_eq_iff hcs).mp htext with rfl | ⟨rfl, hequals⟩
            · exact .equals text hs
            · exact .attached hs hcs hequals
        | flag f =>
          have hf := lookup_shortNames_flag_iff.mp hletter
          obtain ⟨e, hraise, hrest⟩ := bind_eq_ok_iff.mp h
          obtain ⟨items, hitems, hfold⟩ := ih.mp hrest
          refine ⟨.flag f :: items, .flag hf hitems, ?_⟩
          rw [List.foldlM_cons]
          exact bind_eq_ok_iff.mpr ⟨e, hraise, hfold⟩
        | version | help => exact absurd (Except.ok.inj h) stop_ne_after
    · rintro ⟨items, h, hfold⟩
      rw [takeCluster]
      cases h with
      | flag hletter hrest =>
        simp only [lookup_shortNames_flag_iff.mpr hletter]
        rw [List.foldlM_cons] at hfold
        obtain ⟨e, hraise, hfold⟩ := bind_eq_ok_iff.mp hfold
        exact bind_eq_ok_iff.mpr ⟨e, hraise, ih.mpr ⟨_, hrest, hfold⟩⟩
      | equals text hletter =>
        simp only [lookup_shortNames_setting_iff.mpr hletter]
        rw [if_neg (List.cons_ne_nil _ _),
          (attachedValue_eq_iff (List.cons_ne_nil _ _)).mpr (.inl rfl)]
        rw [foldlM_take_setting] at hfold
        exact bind_eq_ok_iff.mpr ⟨d', hfold, rfl⟩
      | attached hletter hne hequals =>
        simp only [lookup_shortNames_setting_iff.mpr hletter]
        rw [if_neg hne, (attachedValue_eq_iff hne).mpr (.inr ⟨rfl, hequals⟩)]
        rw [foldlM_take_setting] at hfold
        exact bind_eq_ok_iff.mpr ⟨d', hfold, rfl⟩
      | await hletter =>
        simp only [lookup_shortNames_setting_iff.mpr hletter]
        cases hfold
        rfl

theorem Flag.letter?_ne_dash (f : Flag) : f.letter? ≠ some '-' := by
  cases f <;> decide

theorem Setting.letter?_ne_dash (s : Setting) : s.letter? ≠ some '-' := by
  cases s <;> decide

theorem Cluster.ne_dash (h : Cluster (c :: cs) items waiting) : c ≠ '-' := by
  rintro rfl
  cases h with
  | flag hletter => exact Flag.letter?_ne_dash _ hletter
  | equals _ hletter => exact Setting.letter?_ne_dash _ hletter
  | attached hletter => exact Setting.letter?_ne_dash _ hletter
  | await hletter => exact Setting.letter?_ne_dash _ hletter

/-- **What an argument means** to the reader: `takeArgument` takes up the items that `argument`
means, in their order. -/
theorem takeArgument_eq_ok_iff : takeArgument d argument = .ok (.after d' waiting) ↔
    ∃ items, Means argument items waiting ∧ items.foldlM Draft.take d = .ok d' := by
  unfold takeArgument
  constructor
  · intro h
    split at h
    · next cs hargument =>
      obtain ⟨items, hitems, hfold⟩ := takeLong_eq_ok_iff.mp h
      exact ⟨items, .long hargument hitems, hfold⟩
    · next c cs _ hargument =>
      obtain ⟨items, hitems, hfold⟩ := takeCluster_eq_ok_iff.mp h
      exact ⟨items, .short hargument (List.cons_ne_nil _ _) hitems, hfold⟩
    · cases h
  · rintro ⟨items, ⟨hargument, hitems⟩ | ⟨hargument, hne, hitems⟩, hfold⟩
    · rw [hargument]
      exact takeLong_eq_ok_iff.mpr ⟨items, hitems, hfold⟩
    · obtain ⟨c, cs, rfl⟩ := List.exists_cons_of_ne_nil hne
      have hc := hitems.ne_dash
      rw [hargument]
      split
      · next heq => exact absurd (List.cons.inj (List.cons.inj heq).2).1 hc
      · next heq =>
        obtain ⟨rfl, rfl⟩ := List.cons.inj (List.cons.inj heq).2
        exact takeCluster_eq_ok_iff.mpr ⟨items, hitems, hfold⟩
      · next hnot => exact absurd rfl (hnot c cs)

theorem takeLong_ne_convert : takeLong argument d cs ≠ .ok (.stop (.convert job)) := by
  intro h
  unfold takeLong at h
  cases hsplit : splitLong cs with
  | mk name value =>
    simp only [hsplit] at h
    split at h
    · cases h
    · obtain ⟨_, -, hstep⟩ := bind_eq_ok_iff.mp h
      cases hstep
    · cases h
    · cases h
    · obtain ⟨_, -, hstep⟩ := bind_eq_ok_iff.mp h
      cases hstep
    · cases h
    · cases h

theorem takeCluster_ne_convert : takeCluster argument d cs ≠ .ok (.stop (.convert job)) := by
  induction cs generalizing d with
  | nil => nofun
  | cons c cs ih =>
    intro h
    rw [takeCluster] at h
    cases hletter : shortNames.lookup c with
    | none => rw [hletter] at h; cases h
    | some switch =>
      rw [hletter] at h
      cases switch with
      | setting s =>
        by_cases hcs : cs = []
        · simp only [if_pos hcs] at h
          cases h
        · simp only [if_neg hcs] at h
          obtain ⟨_, -, hstep⟩ := bind_eq_ok_iff.mp h
          cases hstep
      | flag f =>
        obtain ⟨_, -, hrest⟩ := bind_eq_ok_iff.mp h
        exact ih hrest
      | version | help => cases h

/-- Only a request for the version or for help stops the reader at an argument. -/
theorem takeArgument_ne_convert : takeArgument d argument ≠ .ok (.stop (.convert job)) := by
  unfold takeArgument
  split
  · exact takeLong_ne_convert
  · exact takeCluster_ne_convert
  · nofun

theorem Flag.toList_name_ne_nil (f : Flag) : f.name.toList ≠ [] := by
  cases f <;> decide

theorem Setting.toList_name_ne_nil (s : Setting) : s.name.toList ≠ [] := by
  cases s <;> decide

theorem Long.ne_nil (h : Long cs items waiting) : cs ≠ [] := by
  cases h with
  | flag f => exact f.toList_name_ne_nil
  | value s text => exact List.append_ne_nil_of_right_ne_nil _ (List.cons_ne_nil _ _)
  | await s => exact s.toList_name_ne_nil

theorem Means.ne_dashes (h : Means argument items waiting) : argument ≠ "--" := by
  rintro rfl
  rcases h with ⟨hargument, hitems⟩ | ⟨hargument, -, hitems⟩
  · exact hitems.ne_nil (List.cons.inj (List.cons.inj hargument).2).2.symm
  · obtain rfl := (List.cons.inj hargument).2
    exact hitems.ne_dash rfl

theorem isValue_iff : isValue text = true ↔ text = "-" ∨ text.toList.head? ≠ some '-' := by
  simp [isValue]

theorem finish_of_convert (h : (do return Request.convert (← d.finish)) = .ok (.convert job)) :
    d.finish = .ok job := by
  obtain ⟨job', hfinish, hjob⟩ := bind_eq_ok_iff.mp h
  cases hjob
  exact hfinish

theorem finish_foldlM_append_iff {more : List Item} :
    ((items ++ more).foldlM Draft.take d >>= Draft.finish) = .ok job ↔
      ∃ d', items.foldlM Draft.take d = .ok d' ∧
        (more.foldlM Draft.take d' >>= Draft.finish) = .ok job := by
  rw [List.foldlM_append, bind_assoc]
  exact bind_eq_ok_iff

theorem finish_foldlM_cons_iff : ((item :: items).foldlM Draft.take d >>= Draft.finish) = .ok job ↔
    ∃ d', d.take item = .ok d' ∧ (items.foldlM Draft.take d' >>= Draft.finish) = .ok job := by
  rw [List.foldlM_cons, bind_assoc]
  exact bind_eq_ok_iff

/-- **A command line is read** exactly if it spells items that can be taken up one after another
(`Draft.take`) into a draft that `Draft.finish` accepts. -/
theorem takeArguments_eq_convert_iff : takeArguments d arguments = .ok (.convert job) ↔
    ∃ items, Spells arguments items ∧ (items.foldlM Draft.take d >>= Draft.finish) = .ok job := by
  constructor
  · intro h
    fun_induction takeArguments d arguments with
    | case1 d => exact ⟨[], .nil, finish_of_convert h⟩
    | case2 d => exact ⟨[], .dashes, finish_of_convert h⟩
    | case3 => cases h
    | case4 => cases h
    | case5 d argument rest hdashes r hstop =>
      cases h
      exact absurd hstop takeArgument_ne_convert
    | case6 d argument rest hdashes d' hgo ih =>
      have hafter : takeArgument d argument = .ok (.after d' none) := hgo
      obtain ⟨items, hmeans, hfold⟩ := takeArgument_eq_ok_iff.mp hafter
      obtain ⟨more, hrest, hjob⟩ := ih h
      exact ⟨items ++ more, .argument hmeans hrest, finish_foldlM_append_iff.mpr ⟨d', hfold, hjob⟩⟩
    | case7 => cases h
    | case8 => cases h
    | case9 d argument hdashes e s hawait text rest htext d' hassign ih =>
      have hafter : takeArgument d argument = .ok (.after e (some s)) := hawait
      obtain ⟨items, hmeans, hfold⟩ := takeArgument_eq_ok_iff.mp hafter
      obtain ⟨more, hrest, hjob⟩ := ih h
      refine ⟨_, .value hmeans (isValue_iff.mp htext) hrest, ?_⟩
      exact finish_foldlM_append_iff.mpr
        ⟨e, hfold, finish_foldlM_cons_iff.mpr ⟨d', hassign, hjob⟩⟩
    | case10 => cases h
  · rintro ⟨items, h, hjob⟩
    induction h generalizing d with
    | nil =>
      rw [takeArguments, show d.finish = .ok job from hjob]
      rfl
    | dashes =>
      rw [takeArguments, if_pos rfl, show d.finish = .ok job from hjob]
      rfl
    | argument hmeans hrest ih =>
      obtain ⟨d', hfold, hjob⟩ := finish_foldlM_append_iff.mp hjob
      have hafter := takeArgument_eq_ok_iff.mpr ⟨_, hmeans, hfold⟩
      rw [takeArguments.eq_def]
      simp only [if_neg hmeans.ne_dashes, hafter]
      exact ih hjob
    | value hmeans htext hrest ih =>
      obtain ⟨e, hfold, hjob⟩ := finish_foldlM_append_iff.mp hjob
      obtain ⟨d', hassign, hjob⟩ := finish_foldlM_cons_iff.mp hjob
      have hafter := takeArgument_eq_ok_iff.mpr ⟨_, hmeans, hfold⟩
      rw [takeArguments, if_neg hmeans.ne_dashes, hafter]
      simp only [Step.after, isValue_iff.mpr htext, if_true]
      rw [show e.assign _ _ = .ok d' from hassign]
      exact ih hjob

end RegisterWrites.Command
