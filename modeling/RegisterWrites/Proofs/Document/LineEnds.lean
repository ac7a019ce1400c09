import RegisterWrites.Proofs.Document.Expected
import RegisterWrites.Proofs.Document.Occurrence
import RegisterWrites.Proofs.Text.Position

/-!
# Line ends of two characters

A text may end its lines with a carriage return and a line feed (`withReturns`). Between the
instructions and behind a comment both are blanks, and nothing changes (`Written.withReturns`).
Beside a colon or a comma there is room for one blank only: an instruction with a line feed there
is read no more (`readPiece?_withReturns`). The main statement is `parse_withReturns`.
-/

namespace RegisterWrites

open Text

namespace Text

variable {p : Char → Bool} {c : Char} {a text : List Char}

/-! ## Carriage returns in front of line feeds -/

/-- The `text` with a carriage return in front of every line feed. -/
def withReturns (text : List Char) : List Char :=
  text.flatMap fun c => if c = '\n' then ['\r', '\n'] else [c]

theorem withReturns_append (a b : List Char) :
    withReturns (a ++ b) = withReturns a ++ withReturns b :=
  List.flatMap_append

theorem withReturns_lineFeed (text : List Char) :
    withReturns ('\n' :: text) = '\r' :: '\n' :: withReturns text :=
  rfl

theorem withReturns_cons (h : c ≠ '\n') (text : List Char) :
    withReturns (c :: text) = c :: withReturns text := by
  rw [withReturns, List.flatMap_cons, if_neg h]
  rfl

theorem withReturns_of_notMem (h : '\n' ∉ a) : withReturns a = a := by
  induction a with
  | nil => rfl
  | cons c a ih =>
    rw [List.mem_cons, not_or] at h
    rw [withReturns_cons (Ne.symm h.1), ih h.2]

theorem withReturns_append_of_notMem (h : '\n' ∉ a) (text : List Char) :
    withReturns (a ++ text) = a ++ withReturns text := by
  rw [withReturns_append, withReturns_of_notMem h]

theorem lineBreaks_withReturns (text : List Char) :
    lineBreaks (withReturns text) = lineBreaks text := by
  induction text with
  | nil => rfl
  | cons c text ih =>
    unfold lineBreaks at ih ⊢
    by_cases hc : c = '\n'
    · subst hc
      simp [withReturns_lineFeed, ih]
    · rw [withReturns_cons hc, List.count_cons, List.count_cons, ih]

/-- What stands on a line stays in its columns. -/
theorem lastLine_withReturns (text : List Char) : lastLine (withReturns text) = lastLine text := by
  by_cases h : '\n' ∈ text
  · obtain ⟨front, hfront⟩ := exists_append_lastLine h
    have hline := notMem_lastLine text
    have hsplit : withReturns text = (withReturns front ++ ['\r', '\n']) ++ lastLine text := by
      conv => lhs; rw [← hfront]
      rw [withReturns_append, withReturns_lineFeed, withReturns_of_notMem hline]
      simp
    rw [hsplit, lastLine_append (.inr (by simp)), lastLine_of_notMem hline]
  · rw [withReturns_of_notMem h]

/-- A run of the class `p` ends in front of a carriage return if it does in front of a line feed. -/
theorem EndsRun.withReturns (h : EndsRun p text) (hp : p '\r' = p '\n') :
    EndsRun p (withReturns text) := by
  cases text with
  | nil => exact h
  | cons c text =>
    rw [endsRun_cons] at h
    by_cases hc : c = '\n'
    · subst hc
      rw [withReturns_lineFeed, endsRun_cons, hp, h]
    · rw [withReturns_cons hc, endsRun_cons, h]

end Text

theorem HexLiteral.EndsBefore.withReturns {l : HexLiteral} {rest : List Char}
    (h : l.EndsBefore rest) : l.EndsBefore (withReturns rest) :=
  ⟨h.1.withReturns rfl, fun hl => (h.2 hl).withReturns rfl⟩

namespace Document

variable {dialect : Dialect} {symbol : Char} {field : Field} {sep sep' comma comma' : Separator}
  {c c' : Clause} {s s' : Statement} {ss earlier : List Statement}
  {text rest rest' more tail before : List Char}

/-! ## Reading with carriage returns -/

/-- A slot in front of `symbol` takes up the carriage return, and the line feed is no symbol. -/
theorem Separator.before_ne_of_withReturns (hs : isBlank symbol = false)
    (heq : sep'.chars symbol ++ tail = withReturns (sep.chars symbol ++ more)) :
    sep.before ≠ some '\n' := by
  obtain ⟨slot, slot'⟩ := sep
  obtain ⟨front, back⟩ := sep'
  rintro rfl
  cases front with
  | none =>
    obtain ⟨rfl, -⟩ := List.cons.inj heq
    exact absurd hs (by decide)
  | some d =>
    obtain ⟨-, hrest⟩ := List.cons.inj heq
    obtain ⟨rfl, -⟩ := List.cons.inj hrest
    exact absurd hs (by decide)

/-- A slot behind `symbol` takes up the carriage return, and leaves the line feed. -/
theorem Separator.after_ne_of_withReturns (hs : isBlank symbol = false) (h : sep.IsAdmitted)
    (hbefore : sep.before ≠ some '\n') (h' : sep'.IsAdmitted) (htail : EndsRun isBlank tail)
    (heq : sep'.chars symbol ++ tail = withReturns (sep.chars symbol ++ more)) :
    sep.after ≠ some '\n' := by
  have hread := (readSeparator?_eq_some_iff hs).mpr ⟨h', fun _ => htail, heq⟩
  obtain ⟨slot, slot'⟩ := sep
  rintro rfl
  have hfront : '\n' ∉ slot.toList ++ [symbol] := by
    rw [List.mem_append, Option.mem_toList, List.mem_singleton, not_or]
    exact ⟨hbefore, ne_of_class (by decide) hs⟩
  have hreturn : (Separator.mk slot (some '\r')).IsAdmitted :=
    ⟨h.1, fun c hc => by cases hc; decide⟩
  have hchars : withReturns ((Separator.mk slot (some '\n')).chars symbol ++ more) =
      (Separator.mk slot (some '\r')).chars symbol ++ '\n' :: withReturns more := by
    have hsplit := withReturns_append_of_notMem hfront ('\n' :: more)
    simpa [Separator.chars, withReturns_lineFeed] using hsplit
  have hread' := (readSeparator?_eq_some_iff hs).mpr ⟨hreturn, by rintro ⟨⟩, hchars.symm⟩
  rw [hread, Option.some.injEq, Prod.mk.injEq] at hread'
  rw [hread'.2, endsRun_cons] at htail
  exact absurd htail (by decide)

/-- A separator `sep` that is still read held no line feed, and is the same. -/
theorem Separator.of_withReturns (hs : isBlank symbol = false) (h : sep.IsAdmitted)
    (hmore : EndsRun isBlank more) (h' : sep'.IsAdmitted) (htail : EndsRun isBlank tail)
    (heq : sep'.chars symbol ++ tail = withReturns (sep.chars symbol ++ more)) :
    ¬ sep.Holds '\n' ∧ tail = withReturns more := by
  have hbefore := Separator.before_ne_of_withReturns hs heq
  have hafter := Separator.after_ne_of_withReturns hs h hbefore h' htail heq
  have hnot : ¬ sep.Holds '\n' := not_or.mpr ⟨hbefore, hafter⟩
  have hchars : withReturns (sep.chars symbol ++ more) = sep.chars symbol ++ withReturns more := by
    apply withReturns_append_of_notMem
    rw [Separator.mem_chars_iff, not_or]
    exact ⟨ne_of_class (by decide) hs, hnot⟩
  have hread := (readSeparator?_eq_some_iff hs).mpr ⟨h', fun _ => htail, heq⟩
  have hread' := (readSeparator?_eq_some_iff hs).mpr
    ⟨h, fun _ => hmore.withReturns rfl, hchars.symm⟩
  rw [hread, Option.some.injEq, Prod.mk.injEq] at hread'
  exact ⟨hnot, hread'.2⟩

/-- A clause without line feeds beside its colon is read as before. -/
theorem readClause?_withReturns_of_not (hcolon : ¬ c.colon.Holds '\n')
    (h : readClause? field text = some (c, rest)) :
    readClause? field (withReturns text) = some (c, withReturns rest) := by
  obtain ⟨hc, hrest, rfl⟩ := readClause?_eq_some_iff.mp h
  refine readClause?_eq_some_iff.mpr ⟨hc, hrest.withReturns, ?_⟩
  refine (withReturns_append_of_notMem (fun hmem => ?_) rest).symm
  rcases hc.mem_chars hmem with hsolid | hslot
  · exact absurd hsolid (by decide)
  · exact hcolon hslot

theorem readClause?_withReturns (h : readClause? field text = some (c, rest))
    (h' : readClause? field (withReturns text) = some (c', rest')) :
    ¬ c.colon.Holds '\n' ∧ rest' = withReturns rest := by
  obtain ⟨hc, hrest, rfl⟩ := readClause?_eq_some_iff.mp h
  obtain ⟨hc', hrest', heq⟩ := readClause?_eq_some_iff.mp h'
  have hkey : '\n' ∉ field.keyword.toList := by
    cases field <;> decide
  have hcolon : ¬ c.colon.Holds '\n' := by
    simp only [Clause.chars, List.append_assoc] at heq
    rw [withReturns_append_of_notMem hkey] at heq
    exact (Separator.of_withReturns (by decide) hc.1 (endsRun_isBlank_literal hc.2) hc'.1
      (endsRun_isBlank_literal hc'.2) (List.append_cancel_left heq)).1
  rw [readClause?_withReturns_of_not hcolon h, Option.some.injEq, Prod.mk.injEq] at h'
  exact ⟨hcolon, h'.2.symm⟩

theorem readNextClause?_withReturns (h : readNextClause? field text = some ((comma, c), rest))
    (h' : readNextClause? field (withReturns text) = some ((comma', c'), rest')) :
    (¬ comma.Holds '\n' ∧ ¬ c.colon.Holds '\n') ∧ rest' = withReturns rest := by
  obtain ⟨⟨hcomma, hc⟩, hrest, rfl⟩ := readNextClause?_eq_some_iff.mp h
  obtain ⟨⟨hcomma', hc'⟩, hrest', heq⟩ := readNextClause?_eq_some_iff.mp h'
  obtain ⟨hnot, htail⟩ := Separator.of_withReturns (by decide) hcomma endsRun_isBlank_clause
    hcomma' endsRun_isBlank_clause heq
  have hclause : readClause? field (c.chars field ++ rest) = some (c, rest) :=
    readClause?_eq_some_iff.mpr ⟨hc, hrest, rfl⟩
  have hclause' := readClause?_eq_some_iff.mpr ⟨hc', hrest', htail⟩
  obtain ⟨hcolon, htail'⟩ := readClause?_withReturns hclause hclause'
  exact ⟨⟨hnot, hcolon⟩, htail'⟩

/-- **An instruction that is still read** held no line feed beside a colon or a comma. -/
theorem not_holds_of_readStatement_withReturns (h : readStatement text = .ok (s, rest))
    (h' : readStatement (withReturns text) = .ok (s', rest')) : ¬ s.Holds '\n' := by
  obtain ⟨text₁, text₂, hsize, hoffset, hdata⟩ := readStatement_eq_ok.mp h
  obtain ⟨text₁', text₂', hsize', hoffset', hdata'⟩ := readStatement_eq_ok.mp h'
  obtain ⟨hcolon, rfl⟩ := readClause?_withReturns hsize hsize'
  obtain ⟨⟨hcomma, hcolon'⟩, rfl⟩ := readNextClause?_withReturns hoffset hoffset'
  obtain ⟨⟨hcomma', hcolon''⟩, -⟩ := readNextClause?_withReturns hdata hdata'
  have hall : ∀ sep ∈ s.separators, ¬ sep.Holds '\n' := by
    simp only [Statement.separators, List.forall_mem_cons]
    exact ⟨hcolon, hcomma, hcolon', hcomma', hcolon'', List.forall_mem_nil _⟩
  rintro ⟨sep, hsep, hfeed⟩
  exact hall sep hsep hfeed

/-! ## Documents with carriage returns -/

/-- What is read of a text that begins with the letter of an instruction is an instruction. -/
theorem exists_readStatement_of_readPiece? {p : Piece}
    (h : readPiece? dialect ('S' :: text) = some (p, rest)) :
    ∃ s, readStatement ('S' :: text) = .ok (s, rest) := by
  obtain ⟨hp, hends, hchars⟩ := readPiece?_eq_some_iff.mp h
  cases p with
  | instruction s => exact ⟨s, readStatement_eq_ok_iff.mpr ⟨hp, hends, hchars⟩⟩
  | blanks run =>
    obtain ⟨c, run, rfl⟩ := List.exists_cons_of_ne_nil hp.1
    obtain ⟨rfl, -⟩ := List.cons.inj hchars
    exact absurd (hp.2 'S' List.mem_cons_self) (by decide)
  | comment hashes remark stop =>
    obtain ⟨-, hhashes, -⟩ := hp
    obtain ⟨hashes, rfl⟩ := hashes_eq_cons hhashes
    exact absurd (List.cons.inj hchars).1 (by decide)

/-- An instruction with a line feed beside a colon or a comma is no piece any more. -/
theorem readPiece?_withReturns (h : readStatement text = .ok (s, rest)) (hfeed : s.Holds '\n') :
    readPiece? dialect (withReturns text) = none := by
  obtain ⟨-, -, hchars⟩ := readStatement_eq_ok_iff.mp h
  obtain ⟨tail, htail⟩ := s.chars_eq_cons
  have hfront : withReturns text = 'S' :: withReturns (tail ++ rest) := by
    rw [← hchars, htail]
    rfl
  cases hpiece : readPiece? dialect (withReturns text) with
  | none => rfl
  | some reading =>
    obtain ⟨p, rest'⟩ := reading
    rw [hfront] at hpiece
    obtain ⟨s', hs'⟩ := exists_readStatement_of_readPiece? hpiece
    rw [← hfront] at hs'
    exact absurd hfeed (not_holds_of_readStatement_withReturns h hs')

theorem Statement.IsAdmitted.notMem_lineFeed (h : s.IsAdmitted) (hfeed : ¬ s.Holds '\n') :
    '\n' ∉ s.chars := by
  intro hmem
  rcases h.mem_chars hmem with hsolid | hslot
  · exact absurd hsolid (by decide)
  · exact hfeed hslot

theorem Piece.notMem_lineFeed_comment {hashes remark : List Char} {stop : Char}
    (h : (Piece.comment hashes remark stop).IsAdmitted dialect) : '\n' ∉ hashes ++ remark := by
  obtain ⟨-, ⟨-, hhash⟩, hremark, -⟩ := h
  rw [List.mem_append, not_or]
  exact ⟨fun hmem => absurd (hhash '\n' hmem) (by decide), notMem_of_class hremark (by decide)⟩

theorem isBlank_of_mem_withReturns {c : Char} (hc : isBlank c = true) :
    ∀ d ∈ withReturns [c], isBlank d = true := by
  by_cases hfeed : c = '\n'
  · subst hfeed
    exact List.all_eq_true.mp (by decide)
  · rw [withReturns_cons hfeed]
    exact List.forall_mem_singleton.mpr hc

/-- Between instructions and behind comments there is room for carriage returns. -/
theorem Written.withReturns (h : Written dialect text ss) (hss : ∀ s ∈ ss, ¬ s.Holds '\n') :
    Written dialect (withReturns text) ss := by
  induction h with
  | nil => exact .nil
  | @instruction s text ss hs h ih =>
    rw [List.forall_mem_cons] at hss
    rw [withReturns_append_of_notMem (hs.notMem_lineFeed hss.1)]
    exact .instruction hs (ih hss.2)
  | @blank c text ss hc h ih =>
    rw [← List.singleton_append, withReturns_append]
    exact (ih hss).run_append (isBlank_of_mem_withReturns hc)
  | @comment hashes remark stop text ss hdialect hhashes hremark hstop h ih =>
    have hpiece : Piece.IsAdmitted dialect (.comment hashes remark stop) :=
      ⟨hdialect, hhashes, hremark, hstop⟩
    rw [withReturns_append_of_notMem (Piece.notMem_lineFeed_comment hpiece)]
    by_cases hfeed : stop = '\n'
    · subst hfeed
      exact .comment hdialect hhashes hremark (by decide) (.blank hstop.1 (ih hss))
    · rw [withReturns_cons hfeed]
      exact .comment hdialect hhashes hremark hstop (ih hss)

/-- With carriage returns a document holds the same instructions, on the same lines. -/
theorem map_found_withReturns (h : Written dialect text ss) (hss : ∀ s ∈ ss, ¬ s.Holds '\n')
    (offset offset' line : Nat) :
    (found dialect offset line (withReturns text)).map Located.unplaced =
      (found dialect offset' line text).map Located.unplaced := by
  -- behind the first line feed the offsets differ, the lines never do
  induction h generalizing offset offset' line with
  | nil =>
    have hnil : Text.withReturns [] = [] := rfl
    rw [hnil, found_nil, found_nil]
  | @instruction s text ss hs h ih =>
    rw [List.forall_mem_cons] at hss
    rw [withReturns_append_of_notMem (hs.notMem_lineFeed hss.1),
      (readPieces_instruction hs (h.withReturns hss.2)).2, (readPieces_instruction hs h).2,
      List.map_cons, List.map_cons, ih hss.2]
    rfl
  | @blank c text ss hc h ih =>
    have hrun := isBlank_of_mem_withReturns hc
    rw [(readPieces_blank dialect hc text).2, ← List.singleton_append, withReturns_append,
      (readPieces_run_append dialect (withReturns text) hrun).2, lineBreaks_withReturns, ih hss]
  | @comment hashes remark stop text ss hdialect hhashes hremark hstop h ih =>
    have hpiece : Piece.IsAdmitted dialect (.comment hashes remark stop) :=
      ⟨hdialect, hhashes, hremark, hstop⟩
    rw [withReturns_append_of_notMem (Piece.notMem_lineFeed_comment hpiece),
      (readPieces_comment hpiece text).2]
    by_cases hfeed : stop = '\n'
    · subst hfeed
      have hreturn : Piece.IsAdmitted dialect (.comment hashes remark '\r') :=
        ⟨hdialect, hhashes, hremark, by decide⟩
      rw [withReturns_lineFeed, (readPieces_comment hreturn _).2,
        (readPieces_blank dialect hstop.1 _).2, ih hss]
      rfl
    · rw [withReturns_cons hfeed, (readPieces_comment hpiece _).2, ih hss]

/-- The reader stops in front of the first instruction `s` that holds a line feed beside a colon or
a comma, and takes it for an instruction that has begun. -/
theorem left_withReturns (h : StandsBehind dialect text before earlier s)
    (hearlier : ∀ r ∈ earlier, ¬ r.Holds '\n') (hs : s.Holds '\n') :
    withReturns before ++ left dialect (withReturns text) = withReturns text ∧
      left dialect (withReturns text) ≠ [] ∧
      failedField? (left dialect (withReturns text)) ≠ none := by
  obtain ⟨hadmitted, hbefore, after, later, rfl, hafter⟩ := h
  obtain ⟨tail, htail⟩ := s.chars_eq_cons
  have hread : readStatement (s.chars ++ after) = .ok (s, after) :=
    readStatement_eq_ok_iff.mpr ⟨hadmitted, hafter.endsBefore _, rfl⟩
  have hnone : readPiece? dialect (withReturns (s.chars ++ after)) = none :=
    readPiece?_withReturns hread hs
  have hfront : withReturns (s.chars ++ after) = 'S' :: withReturns (tail ++ after) := by
    rw [htail]
    rfl
  have hdetached : Detached (withReturns before) (withReturns (s.chars ++ after)) := by
    refine .inr fun l => ?_
    rw [hfront]
    exact HexLiteral.endsBefore_cons rfl rfl
  have hleft : left dialect (withReturns (before ++ (s.chars ++ after))) =
      withReturns (s.chars ++ after) := by
    rw [withReturns_append,
      (readPieces_append (hbefore.withReturns hearlier).readPieces.1 hdetached).1, left,
      readPieces_of_none hnone]
  have hkey : Field.size.keyword.toList <+: withReturns (s.chars ++ after) := by
    have hkeyword : '\n' ∉ Field.size.keyword.toList := by decide
    simp only [Statement.chars, Clause.chars, List.append_assoc]
    rw [withReturns_append_of_notMem hkeyword]
    exact List.prefix_append _ _
  rw [hleft]
  refine ⟨(withReturns_append _ _).symm, ?_, ?_⟩
  · rw [hfront]
    exact List.cons_ne_nil _ _
  · exact fun hfield => (failedField?_eq_none_iff hnone).mp hfield hkey

theorem exists_first_holds {feed : Char} (h : ∃ s ∈ ss, s.Holds feed) : ∃ earlier s later,
    ss = earlier ++ s :: later ∧ (∀ r ∈ earlier, ¬ r.Holds feed) ∧ s.Holds feed := by
  obtain ⟨s, hs, hfeed⟩ := h
  cases hfind : ss.find? fun s => decide (s.Holds feed) with
  | none =>
    have hnot := List.find?_eq_none.mp hfind s hs
    exact absurd (decide_eq_true hfeed) hnot
  | some first =>
    obtain ⟨hfirst, earlier, later, hss, hearlier⟩ := List.find?_eq_some_iff_append.mp hfind
    refine ⟨earlier, first, later, hss, fun r hr => ?_, of_decide_eq_true hfirst⟩
    simpa using hearlier r hr

/-- **Line ends of two characters.** Let `text` have been read, and every line feed of it have a
carriage return in front (`withReturns`). If no instruction holds a line feed beside a colon or a
comma, the same instructions are read, on the same lines. Else there is an error on the line and in
the column at which the first of those instructions begins, and it names one of the clauses. -/
theorem parse_withReturns {dialect : Dialect} {text : String} {is : List Instruction}
    (h : (parse text dialect).result = .ok is) :
    (∃ ss, Written dialect text.toList ss) ∧ ∀ ss, Written dialect text.toList ss →
      ((∀ s ∈ ss, ¬ s.Holds '\n') →
        (parse (String.ofList (withReturns text.toList)) dialect).result = .ok is) ∧
      ((∃ s ∈ ss, s.Holds '\n') → ∃ before earlier s later place,
        ss = earlier ++ s :: later ∧ (∀ r ∈ earlier, ¬ r.Holds '\n') ∧ s.Holds '\n' ∧
        StandsBehind dialect text.toList before earlier s ∧
        (parse (String.ofList (withReturns text.toList)) dialect).result =
          .error (.unreadable place) ∧
        (∀ expected, (SyntaxError.at? text (byteLength before) expected).map
          (fun start => (start.line, start.column)) = some (place.line, place.column)) ∧
        place.expected ≠ none) := by
  obtain ⟨hleft, his⟩ := result_parse_eq_ok_iff.mp h
  refine ⟨exists_written_of_left_eq_nil hleft, fun ss hss => ⟨fun hnot => ?_, fun hfeed => ?_⟩⟩
  · have hwritten := hss.withReturns hnot
    rw [result_parse_eq_ok_iff, String.toList_ofList, ← mapM_unplaced,
      map_found_withReturns hss hnot 0 0 1, mapM_unplaced]
    exact ⟨hwritten.readPieces.1, his⟩
  · obtain ⟨earlier, s, later, rfl, hearlier, hs⟩ := exists_first_holds hfeed
    obtain ⟨before, hstands⟩ := exists_standsBehind hss
    obtain ⟨hbefore, hne, hfield⟩ := left_withReturns hstands hearlier hs
    rw [← String.toList_ofList (l := withReturns text.toList)] at hbefore hne hfield
    refine ⟨before, earlier, s, later, _, rfl, hearlier, hs, hstands,
      result_parse_of_left_ne_nil hne hbefore, fun expected => ?_, ?_⟩
    · obtain ⟨after, -, htext, -⟩ := hstands.behind
      rw [SyntaxError.at?_eq_some_iff.mpr ⟨before, s.chars ++ after, htext, rfl, rfl⟩]
      simp only [Option.map_some, SyntaxError.between, lineBreaks_withReturns,
        lastLine_withReturns]
    · exact fun hnone => hfield (Option.map_eq_none_iff.mp hnone)

/-- Behind a comment the carriage return is one blank more, in front of a colon one too many. -/
theorem parse_withReturns_slot :
    (parse "#a\r\nSize:1,Offset:2,Data:3\r\n" .commented).result =
        .ok [⟨2, 1, ⟨"1"⟩, ⟨"2"⟩, ⟨"3"⟩⟩] ∧
      ∃ place, (parse "\r\nSize\r\n:1,Offset:2,Data:3" .bare).result =
          .error (.unreadable place) ∧
        (place.line, place.column) = (2, 1) ∧ place.expected ≠ none := by
  let s : Statement := ⟨⟨⟨none, none⟩, ⟨"1"⟩⟩, ⟨none, none⟩, ⟨⟨none, none⟩, ⟨"2"⟩⟩,
    ⟨none, none⟩, ⟨⟨none, none⟩, ⟨"3"⟩⟩⟩
  let fed : Statement := { s with size := ⟨⟨some '\n', none⟩, ⟨"1"⟩⟩ }
  have hs : "#a\nSize:1,Offset:2,Data:3\n".toList =
      ['#'] ++ ['a'] ++ '\n' :: (s.chars ++ ['\n']) := by
    decide
  have hfed : "\nSize\n:1,Offset:2,Data:3".toList = '\n' :: (fed.chars ++ []) := by decide
  have hwritten : Written .commented "#a\nSize:1,Offset:2,Data:3\n".toList [s] := by
    rw [hs]
    exact .comment rfl ⟨by decide, by simp⟩ (List.all_eq_true.mp (by decide)) (by decide)
      (.instruction (by decide) (.blank (by decide) .nil))
  have hwritten' : Written .bare "\nSize\n:1,Offset:2,Data:3".toList [fed] := by
    rw [hfed]
    exact .blank (by decide) (.instruction (by decide) .nil)
  have hread : (parse "#a\nSize:1,Offset:2,Data:3\n" .commented).result =
      .ok [⟨2, 1, ⟨"1"⟩, ⟨"2"⟩, ⟨"3"⟩⟩] := by
    with_unfolding_all rfl
  have hread' : (parse "\nSize\n:1,Offset:2,Data:3" .bare).result =
      .ok [⟨2, 1, ⟨"1"⟩, ⟨"2"⟩, ⟨"3"⟩⟩] := by
    with_unfolding_all rfl
  have hplace : (parse "\r\nSize\r\n:1,Offset:2,Data:3" .bare).result =
      .error (.unreadable ⟨2, 1, 2, "Size", some "size clause"⟩) := by
    with_unfolding_all rfl
  refine ⟨((parse_withReturns hread).2 _ hwritten).1 (by decide), ?_⟩
  obtain ⟨_, _, _, _, place, -, -, -, -, herror, -, hexpected⟩ :=
    ((parse_withReturns hread').2 _ hwritten').2 (by decide)
  have htext : String.ofList (withReturns "\nSize\n:1,Offset:2,Data:3".toList) =
      "\r\nSize\r\n:1,Offset:2,Data:3" := by
    decide
  rw [htext] at herror
  refine ⟨place, herror, ?_, hexpected⟩
  rw [hplace] at herror
  cases herror
  rfl

end Document

end RegisterWrites
