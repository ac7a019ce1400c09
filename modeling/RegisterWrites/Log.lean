import RegisterWrites.Text.Line

/-!
# Computations that report

What a computation reports while it works. A computation that may fail and that
speaks is a value `Logged ε α`: the entries in the order in which they were
written, beside the result. Nothing is printed here; whoever runs the
computation chooses how much of its log to show (`Entry.isShown`).
-/

namespace RegisterWrites

/-- How severe an entry is, the most severe first. -/
inductive Level
  | error
  | warn
  | info
  | debug
  | trace
  deriving DecidableEq, Repr

namespace Level

/-- The place of a level in the order of severity; the most severe has the least. -/
def rank : Level → Nat
  | error => 1
  | warn => 2
  | info => 3
  | debug => 4
  | trace => 5

def name : Level → String
  | error => "ERROR"
  | warn => "WARN"
  | info => "INFO"
  | debug => "DEBUG"
  | trace => "TRACE"

end Level

/-- The part of the program that speaks. -/
inductive Speaker
  /-- The conversion as a whole. -/
  | conversion
  /-- The reader of register documents. -/
  | reader
  /-- The checks of descriptors against their declared size and the buffer. -/
  | checks
  deriving DecidableEq, Repr

/-- The name under which a speaker signs its entries. -/
def Speaker.name : Speaker → String
  | conversion => "regseq"
  | reader => "regseq::register::grammar"
  | checks => "regseq::register::descriptor"

structure Entry where
  level : Level
  speaker : Speaker
  message : String
  deriving DecidableEq, Repr

namespace Entry

/-- Whether `entry` is at least as severe as `threshold`; no threshold shows nothing. -/
def isShown (threshold : Option Level) (entry : Entry) : Bool :=
  match threshold with
  | none => false
  | some level => entry.level.rank ≤ level.rank

/-- The entry as a line of text, with its level filled up to five columns. -/
def line (entry : Entry) : String :=
  Text.padRight 5 entry.level.name ++ " [" ++ entry.speaker.name ++ "] " ++ entry.message ++ "\n"

end Entry

/-- The `result` of a computation together with what it reported on the way. A computation that
fails keeps the entries that it wrote before it failed. -/
@[ext]
structure Logged (ε α : Type) where
  log : List Entry
  result : Except ε α

namespace Logged

variable {ε ε' α β : Type}

def tell (entries : List Entry) : Logged ε Unit := ⟨entries, .ok ()⟩

/-- Fails without a report. -/
def fail (e : ε) : Logged ε α := ⟨[], .error e⟩

/-- Takes over an outcome without a report. -/
def ofExcept (x : Except ε α) : Logged ε α := ⟨[], x⟩

/-- Runs `f` on the value of `x`, if it has one; the logs follow each other. -/
protected def bind (x : Logged ε α) (f : α → Logged ε β) : Logged ε β :=
  match x.result with
  | .error e => ⟨x.log, .error e⟩
  | .ok a => ⟨x.log ++ (f a).log, (f a).result⟩

instance : Monad (Logged ε) where
  pure a := ⟨[], .ok a⟩
  bind := Logged.bind

/-- Restates the cause of a failure by `f`; the log stays. -/
def mapError (f : ε → ε') (x : Logged ε α) : Logged ε' α :=
  ⟨x.log, x.result.mapError f⟩

/-- The entries of `x` that `threshold` shows. -/
def shown (threshold : Option Level) (x : Logged ε α) : List Entry :=
  x.log.filter (Entry.isShown threshold)

/-! ## What a sequence of computations reports -/

@[simp] theorem log_pure (a : α) : (pure a : Logged ε α).log = [] := rfl

@[simp] theorem result_pure (a : α) : (pure a : Logged ε α).result = .ok a := rfl

/-- After a success of `x`, the log of `f` follows that of `x`. -/
theorem bind_of_ok {x : Logged ε α} {a : α} (h : x.result = .ok a) (f : α → Logged ε β) :
    x >>= f = ⟨x.log ++ (f a).log, (f a).result⟩ := by
  change Logged.bind x f = _
  rw [Logged.bind, h]

/-- After a failure of `x`, nothing of `f` happens or is reported. -/
theorem bind_of_error {x : Logged ε α} {e : ε} (h : x.result = .error e) (f : α → Logged ε β) :
    x >>= f = ⟨x.log, .error e⟩ := by
  change Logged.bind x f = _
  rw [Logged.bind, h]

instance : LawfulMonad (Logged ε) := LawfulMonad.mk' (Logged ε)
  (by
    intro α x
    change x >>= (fun a => pure (id a)) = x
    cases h : x.result with
    | error e => rw [bind_of_error h, ← h]
    | ok a =>
      rw [bind_of_ok h]
      ext1
      · simp
      · simp [h])
  (by
    intro α β a f
    rw [bind_of_ok (result_pure a)]
    simp)
  (by
    intro α β γ x f g
    cases hx : x.result with
    | error e => rw [bind_of_error hx, bind_of_error hx, bind_of_error rfl]
    | ok a =>
      rw [bind_of_ok hx, bind_of_ok hx]
      cases hf : (f a).result with
      | error e => rw [bind_of_error hf, bind_of_error rfl]
      | ok b => rw [bind_of_ok hf, bind_of_ok rfl, List.append_assoc])

end Logged

end RegisterWrites
