/-!
Log records: what the library reports besides its results.

Nothing in the library prints. An operation that has something to report returns
it, either as a `Logged` value or, for the processor, in the log that the machine
carries along. What a program shows of these records is for its environment to say
(`LogSettings`).
-/

namespace DmgCore

/-- How urgent a log record is, most urgent first. -/
inductive LogLevel where
  | error
  | warn
  | info
  | debug
  | trace
  deriving DecidableEq, Repr

/-- One line of a log. -/
structure LogRecord where
  level : LogLevel
  text : String
  deriving DecidableEq, Repr

/-- A value together with the records sent while it was made, oldest first. -/
structure Logged (α : Type) where
  value : α
  records : List LogRecord := []
  deriving DecidableEq, Repr

namespace Logged

variable {α β : Type}

/-- The records of the second computation follow those of the first. -/
def bind (x : Logged α) (f : α → Logged β) : Logged β :=
  let y := f x.value
  ⟨y.value, x.records ++ y.records⟩

instance : Monad Logged where
  pure a := ⟨a, []⟩
  bind := Logged.bind

@[simp] theorem value_pure (a : α) : (pure a : Logged α).value = a := rfl

@[simp] theorem records_pure (a : α) : (pure a : Logged α).records = [] := rfl

@[simp] theorem value_bind (x : Logged α) (f : α → Logged β) :
    (x >>= f).value = (f x.value).value := rfl

@[simp] theorem records_bind (x : Logged α) (f : α → Logged β) :
    (x >>= f).records = x.records ++ (f x.value).records := rfl

end Logged

/-- What an environment asks to be shown of the log. -/
structure LogSettings where
  /-- Whether a record is shown. -/
  admits : LogRecord → Bool
  /-- The line that it is shown as. -/
  line : LogRecord → String

namespace LogSettings

/-- Errors are shown and nothing else, as where the environment asks for nothing. -/
def errorsOnly (line : LogRecord → String) : LogSettings where
  admits record := record.level = .error
  line := line

/-- The lines that are shown of some records. -/
def lines (settings : LogSettings) (records : List LogRecord) : List String :=
  (records.filter settings.admits).map settings.line

/-- No record of a level is shown. -/
def Silences (settings : LogSettings) (level : LogLevel) : Prop :=
  ∀ record, record.level = level → settings.admits record = false

@[simp] theorem lines_nil (settings : LogSettings) : settings.lines [] = [] := rfl

theorem Silences.lines_singleton {settings : LogSettings} {record : LogRecord}
    (h : settings.Silences record.level) : settings.lines [record] = [] := by
  rw [lines, List.filter_cons_of_neg (by simp [h record rfl]), List.filter_nil, List.map_nil]

theorem errorsOnly_silences {line : LogRecord → String} {level : LogLevel} (h : level ≠ .error) :
    (errorsOnly line).Silences level := by
  rintro record rfl
  exact decide_eq_false h

end LogSettings

end DmgCore
