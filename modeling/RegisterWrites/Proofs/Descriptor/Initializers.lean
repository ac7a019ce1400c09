import Mathlib.Data.List.Forall2
import RegisterWrites.Descriptor
import RegisterWrites.Proofs.Reading.Result

/-!
# Initializers tell what is sent

Initializers are written without any loss of what a device is sent, and depend on nothing
else. A text of initializers falls into its tokens in one way only, because every token ends at
a comma or a brace, which no token holds (`append_inj_of_endsRun`); hence each descriptor can be
told from the text it begins (`initializer_append_inj`), and so can all of them
(`initializers_inj`). The main statement, `initializers_encode_eq_iff`, says of two documents
which of their instructions have to agree, and in what (`Instruction.SameWrite`).
-/

namespace RegisterWrites

open Text Document

/-! ## Digits and bytes -/

namespace ByteToken

variable {ds es : List Char}

/-- The digits `ds` with a zero behind them if their number is odd. -/
def completed (ds : List Char) : List Char :=
  if ds.length % 2 = 1 then ds ++ ['0'] else ds

theorem completed_cons_cons (c d : Char) (ds : List Char) :
    completed (c :: d :: ds) = c :: d :: completed ds := by
  have hparity : (c :: d :: ds).length % 2 = ds.length % 2 := by
    simp only [List.length_cons]
    omega
  unfold completed
  rw [hparity]
  split <;> rfl

/-- The digits of the bytes that `ofDigits` makes, in a row, are `completed` ones. -/
theorem flatMap_ofDigits (ds : List Char) :
    (ofDigits ds).flatMap (fun b => [b.high, b.low]) = completed ds := by
  induction ds using ofDigits.induct with
  | case1 => rfl
  | case2 c => rfl
  | case3 c d ds ih =>
    rw [ofDigits, List.flatMap_cons, ih, completed_cons_cons]
    rfl

theorem ofDigits_completed (ds : List Char) : ofDigits (completed ds) = ofDigits ds := by
  induction ds using ofDigits.induct with
  | case1 => rfl
  | case2 c => rfl
  | case3 c d ds ih => rw [completed_cons_cons, ofDigits, ofDigits, ih]

theorem ofDigits_inj : ofDigits ds = ofDigits es ↔ completed ds = completed es := by
  constructor
  · intro h
    rw [← flatMap_ofDigits, ← flatMap_ofDigits, h]
  · intro h
    rw [← ofDigits_completed ds, ← ofDigits_completed es, h]

theorem isHexDigit_of_mem_completed (h : ∀ c ∈ ds, isHexDigit c = true) :
    ∀ c ∈ completed ds, isHexDigit c = true := by
  unfold completed
  split
  · intro c hc
    rcases List.mem_append.mp hc with hc | hc
    · exact h c hc
    · obtain rfl := List.mem_singleton.mp hc
      decide
  · exact h

theorem digits_injective : Function.Injective digits := by
  rintro ⟨high, low⟩ ⟨high', low'⟩ h
  have hchars := String.ofList_injective h
  simp only [List.cons.injEq, and_true] at hchars
  obtain ⟨rfl, rfl⟩ := hchars
  rfl

end ByteToken

/-! ## Tokens -/

namespace Descriptor

variable {e : Emission} {d d' : Descriptor} {ds ds' : List Descriptor} {ts us : List String}
  {t : String} {i j : Instruction} {r s : List Char}

/-- Whether `c` can stand in a token: it is none of the two characters that may follow one. -/
def isTokenChar (c : Char) : Bool := c ≠ ',' && c ≠ '}'

def IsToken (t : String) : Prop := ∀ c ∈ t.toList, isTokenChar c = true

theorem isTokenChar_of_class {p : Char → Bool} {c : Char} (h : p c = true)
    (hcomma : p ',' = false) (hbrace : p '}' = false) : isTokenChar c = true := by
  rw [isTokenChar, Bool.and_eq_true, decide_eq_true_eq, decide_eq_true_eq]
  exact ⟨ne_of_class h hcomma, ne_of_class h hbrace⟩

theorem isToken_repr (n : Nat) : IsToken n.repr := by
  intro c hc
  rw [Nat.toList_repr] at hc
  have hdigit := Nat.isDigit_of_mem_toDigits (by decide) (by decide) hc
  exact isTokenChar_of_class hdigit (by decide) (by decide)

theorem repr_inj {m n : Nat} : m.repr = n.repr ↔ m = n := by
  constructor
  · intro h
    rw [← String.toList_inj, Nat.toList_repr, Nat.toList_repr] at h
    -- reading the digits back
    rw [← Nat.ofDigitChars_ten_toDigits (n := m), h, Nat.ofDigitChars_ten_toDigits]
  · rintro rfl
    rfl

theorem isToken_of_isHex (h : IsHex ⟨t⟩) : IsToken t := by
  intro c hc
  rcases mem_literal h hc with hdigit | hmark
  · exact isTokenChar_of_class hdigit (by decide) (by decide)
  · exact isTokenChar_of_class hmark (by decide) (by decide)

/-- The address and the bytes of `d` are written as literals. -/
theorem isHex_of_mem_tokens (haddress : IsHex d.address)
    (hpayload : ∀ b ∈ d.payload, ∀ c ∈ [b.high, b.low], isHexDigit c = true) :
    ∀ t ∈ d.tokens e, IsHex ⟨t⟩ := by
  have hmarked : "0x".toList ∈ HexLiteral.marks := by decide
  have hplain : [] ∈ HexLiteral.marks := by decide
  intro t ht
  rcases List.mem_cons.mp ht with rfl | ht
  · unfold addressToken
    split
    · exact haddress
    · refine isHex_iff.mpr ⟨_, hmarked, _, ?_, haddress⟩
      simp only [HexLiteral.marked, String.toList_append, String.toList_ofList]
  · obtain ⟨b, hb, rfl⟩ := List.mem_map.mp ht
    unfold payloadToken
    split
    · refine isHex_iff.mpr ⟨_, hmarked, _, ?_, List.cons_ne_nil _ _, hpayload b hb⟩
      simp only [ByteToken.digits, String.toList_append, String.toList_ofList]
    · refine isHex_iff.mpr ⟨_, hplain, _, ?_, List.cons_ne_nil _ _, hpayload b hb⟩
      rw [ByteToken.digits, String.toList_ofList, List.nil_append]

theorem payloadToken_injective (e : Emission) : Function.Injective (payloadToken e) := by
  intro b b' h
  unfold payloadToken at h
  split at h
  · exact ByteToken.digits_injective ((String.append_right_inj "0x").mp h)
  · exact ByteToken.digits_injective h

theorem tokens_inj : d.tokens e = d'.tokens e ↔
    d.addressToken e = d'.addressToken e ∧ d.payload = d'.payload := by
  rw [tokens, tokens, List.cons.injEq,
    (List.map_injective_iff.mpr (payloadToken_injective e)).eq_iff]

/-! ## The text of an initializer -/

/-- What follows the first token of a list: the others, `ts`, each behind a comma, and a brace. -/
def closing (ts : List String) (rest : List Char) : List Char :=
  ts.flatMap (fun t => ',' :: ' ' :: t.toList) ++ '}' :: rest

theorem closing_cons (t : String) (ts : List String) (rest : List Char) :
    closing (t :: ts) rest = ',' :: ' ' :: (t.toList ++ closing ts rest) := by
  rw [closing, List.flatMap_cons, List.append_assoc]
  rfl

theorem toList_intercalate_append (t : String) (ts : List String) (rest : List Char) :
    (", ".intercalate (t :: ts)).toList ++ '}' :: rest = t.toList ++ closing ts rest := by
  induction ts generalizing t with
  | nil => rw [String.intercalate_singleton]; rfl
  | cons u us ih =>
    rw [String.intercalate_cons_cons, String.toList_append, String.toList_append,
      List.append_assoc, List.append_assoc, ih, closing_cons]
    rfl

theorem endsRun_closing (ts : List String) (rest : List Char) :
    EndsRun isTokenChar (closing ts rest) := by
  cases ts with
  | nil => exact endsRun_cons.mpr (by decide)
  | cons t ts => rw [closing_cons]; exact endsRun_cons.mpr (by decide)

/-- The tokens `ts` can be told from the text that their `closing` begins. -/
theorem closing_inj (hts : ∀ t ∈ ts, IsToken t) (hus : ∀ u ∈ us, IsToken u) :
    closing ts r = closing us s ↔ ts = us ∧ r = s := by
  -- a list that ends shows a brace where one that goes on shows a comma
  induction ts generalizing us with
  | nil =>
    cases us with
    | nil => simp [closing]
    | cons u us => simp [closing]
  | cons t ts ih =>
    cases us with
    | nil => simp [closing]
    | cons u us =>
      rw [List.forall_mem_cons] at hts hus
      -- both first tokens end where the rest begins, so the texts fall apart there
      rw [closing_cons, closing_cons, List.cons.injEq, List.cons.injEq,
        append_inj_of_endsRun hts.1 hus.1 (endsRun_closing ts r) (endsRun_closing us s),
        ih hts.2 hus.2, String.toList_inj, List.cons.injEq]
      simp only [true_and, and_assoc]

theorem toList_initializer_append (e : Emission) (d : Descriptor) (rest : List Char) :
    (d.initializer e).toList ++ rest = '{' :: (d.length.repr.toList ++
      ',' :: ' ' :: '{' :: ((d.addressToken e).toList ++
        closing (d.payload.map (payloadToken e)) ('}' :: ',' :: rest))) := by
  have hopen : "\x7b".toList = ['{'] := rfl
  have hmiddle : ", \x7b".toList = [',', ' ', '{'] := rfl
  have hclose : "\x7d\x7d,".toList = ['}', '}', ','] := rfl
  rw [← toList_intercalate_append, initializer, tokens, Nat.toString_eq_repr]
  simp only [String.toList_append, hopen, hmiddle, hclose, List.append_assoc, List.cons_append,
    List.nil_append]

/-- **A descriptor can be told** from the text that its initializer begins: its length and its
tokens, and what follows it. -/
theorem initializer_append_inj (hd : ∀ t ∈ d.tokens e, IsToken t)
    (hd' : ∀ t ∈ d'.tokens e, IsToken t) :
    (d.initializer e).toList ++ r = (d'.initializer e).toList ++ s ↔
      (d.length = d'.length ∧ d.tokens e = d'.tokens e) ∧ r = s := by
  have hcomma : ∀ text, EndsRun isTokenChar (',' :: text) :=
    fun text => endsRun_cons.mpr (by decide)
  rw [tokens, List.forall_mem_cons] at hd hd'
  rw [toList_initializer_append, toList_initializer_append, List.cons.injEq,
    append_inj_of_endsRun (isToken_repr _) (isToken_repr _) (hcomma _) (hcomma _)]
  simp only [List.cons.injEq, true_and]
  rw [append_inj_of_endsRun hd.1 hd'.1 (endsRun_closing _ _) (endsRun_closing _ _),
    closing_inj hd.2 hd'.2, String.toList_inj, String.toList_inj, repr_inj, tokens, tokens]
  simp only [List.cons.injEq, true_and, and_assoc]

theorem toList_initializers_cons (e : Emission) (d : Descriptor) (ds : List Descriptor) :
    (initializers e (d :: ds)).toList =
      (d.initializer e).toList ++ '\n' :: (initializers e ds).toList := by
  rw [initializers, List.map_cons, String.join_cons, String.toList_append, String.toList_append,
    List.append_assoc]
  rfl

/-- **Descriptors can be told from their initializers**: how many there are, and the length and the
tokens of each. -/
theorem initializers_inj (hds : ∀ d ∈ ds, ∀ t ∈ d.tokens e, IsToken t)
    (hds' : ∀ d ∈ ds', ∀ t ∈ d.tokens e, IsToken t) :
    initializers e ds = initializers e ds' ↔
      List.Forall₂ (fun d d' => d.length = d'.length ∧ d.tokens e = d'.tokens e) ds ds' := by
  have hnil : (initializers e []).toList = [] := rfl
  rw [← String.toList_inj]
  induction ds generalizing ds' with
  | nil =>
    cases ds' with
    | nil => simp
    | cons d' ds' => simp [hnil, toList_initializers_cons]
  | cons d ds ih =>
    cases ds' with
    | nil => simp [hnil, toList_initializers_cons]
    | cons d' ds' =>
      rw [List.forall_mem_cons] at hds hds'
      rw [toList_initializers_cons, toList_initializers_cons,
        initializer_append_inj hds.1 hds'.1, List.cons.injEq, List.forall₂_cons]
      simp only [true_and, ih hds.2 hds'.2]

end Descriptor

/-! ## Instructions -/

/-- What `i` and `j` have in common if they are sent to a device in the same way: the size as a
number, the address as it is written under `e`, and the digits of the data. -/
structure Instruction.SameWrite (e : Emission) (i j : Instruction) : Prop where
  size : i.size = j.size
  verbatim : e.offsetStyle = .verbatim → i.offset.text = j.offset.text
  prefixed : e.offsetStyle = .prefixed → i.offset.digits = j.offset.digits
  data : ByteToken.completed i.data.digits = ByteToken.completed j.data.digits

namespace Instruction

variable {e : Emission} {i j : Instruction} {is js : List Instruction}

theorem isHex_of_mem_tokens_encode (hoffset : IsHex i.offset) (hdata : IsHex i.data) :
    ∀ t ∈ i.encode.tokens e, IsHex ⟨t⟩ := by
  refine Descriptor.isHex_of_mem_tokens hoffset fun b hb c hc => ?_
  refine ByteToken.isHexDigit_of_mem_completed hdata.2 c ?_
  rw [← ByteToken.flatMap_ofDigits]
  exact List.mem_flatMap.mpr ⟨b, List.mem_reverse.mp hb, hc⟩

theorem IsGrammatical.isToken_of_mem_tokens (h : i.IsGrammatical) :
    ∀ t ∈ i.encode.tokens e, Descriptor.IsToken t :=
  fun t ht => Descriptor.isToken_of_isHex (isHex_of_mem_tokens_encode h.offset h.data t ht)

theorem addressToken_encode_inj : i.encode.addressToken e = j.encode.addressToken e ↔
    (e.offsetStyle = .verbatim → i.offset.text = j.offset.text) ∧
      (e.offsetStyle = .prefixed → i.offset.digits = j.offset.digits) := by
  unfold Descriptor.addressToken
  cases e.offsetStyle with
  | verbatim => simp [encode]
  | prefixed => simp [encode, HexLiteral.marked, String.ofList_inj]

theorem sameWrite_iff : i.SameWrite e j ↔
    i.encode.length = j.encode.length ∧ i.encode.tokens e = j.encode.tokens e := by
  have hlength : i.encode.length = j.encode.length ↔ i.size = j.size := by
    rw [← UInt32.toNat_inj]
    exact Nat.add_right_cancel_iff
  have hpayload : i.encode.payload = j.encode.payload ↔
      ByteToken.completed i.data.digits = ByteToken.completed j.data.digits := by
    rw [← ByteToken.ofDigits_inj]
    exact List.reverse_inj
  rw [Descriptor.tokens_inj, hlength, hpayload, addressToken_encode_inj]
  constructor
  · rintro ⟨hsize, hverbatim, hprefixed, hdata⟩
    exact ⟨hsize, ⟨hverbatim, hprefixed⟩, hdata⟩
  · rintro ⟨hsize, ⟨hverbatim, hprefixed⟩, hdata⟩
    exact ⟨hsize, hverbatim, hprefixed, hdata⟩

end Instruction

/-- **Initializers say what is sent, and nothing else.** The initializers of the instructions `is`
and `js` of two documents are the same text exactly if there are as many instructions in both, and
one by one they are the `SameWrite`. Lines, blanks, comments and the spelling of sizes and of marks
are lost; whatever else differs can be seen. -/
theorem initializers_encode_eq_iff {text text' : String} {dialect dialect' : Dialect}
    {is js : List Instruction} (his : (parse text dialect).result = .ok is)
    (hjs : (parse text' dialect').result = .ok js) (e : Emission) :
    Descriptor.initializers e (is.map Instruction.encode) =
        Descriptor.initializers e (js.map Instruction.encode) ↔
      List.Forall₂ (Instruction.SameWrite e) is js := by
  have hi := isGrammatical_of_parse his
  have hj := isGrammatical_of_parse hjs
  have hsame : Instruction.SameWrite e = fun i j =>
      i.encode.length = j.encode.length ∧ i.encode.tokens e = j.encode.tokens e := by
    funext i j
    exact propext Instruction.sameWrite_iff
  rw [hsame, Descriptor.initializers_inj
    (List.forall_mem_map.mpr fun i hmem => (hi i hmem).isToken_of_mem_tokens)
    (List.forall_mem_map.mpr fun j hmem => (hj j hmem).isToken_of_mem_tokens),
    List.forall₂_map_left_iff, List.forall₂_map_right_iff]

/-- Two spellings of one write, in documents of different dialects, are written in the same way
under marks of their own; without these the mark of the offset shows. -/
theorem initializers_encode_eq_iff_spelling :
    ∃ is js, (parse "# a\tSize:0X2,Offset:0x1C,Data:abc" .commented).result = .ok is ∧
      (parse "\nSize :02, Offset:1C,Data:0xabc0" .bare).result = .ok js ∧
      Descriptor.initializers ⟨.prefixed, true⟩ (is.map Instruction.encode) =
        Descriptor.initializers ⟨.prefixed, true⟩ (js.map Instruction.encode) ∧
      Descriptor.initializers ⟨.verbatim, true⟩ (is.map Instruction.encode) ≠
        Descriptor.initializers ⟨.verbatim, true⟩ (js.map Instruction.encode) := by
  have his : (parse "# a\tSize:0X2,Offset:0x1C,Data:abc" .commented).result =
      .ok [⟨1, 2, ⟨"0X2"⟩, ⟨"0x1C"⟩, ⟨"abc"⟩⟩] := by
    with_unfolding_all rfl
  have hjs : (parse "\nSize :02, Offset:1C,Data:0xabc0" .bare).result =
      .ok [⟨2, 2, ⟨"02"⟩, ⟨"1C"⟩, ⟨"0xabc0"⟩⟩] := by
    with_unfolding_all rfl
  refine ⟨_, _, his, hjs, ?_, ?_⟩
  · refine (initializers_encode_eq_iff his hjs _).mpr (.cons ⟨rfl, nofun, ?_, ?_⟩ .nil)
    · decide
    · decide
  · intro h
    obtain ⟨hsame, -⟩ := List.forall₂_cons.mp ((initializers_encode_eq_iff his hjs _).mp h)
    exact absurd (hsame.verbatim rfl) (by decide)

end RegisterWrites
