import ClaimRelay.Text.Quoted

/-! Notices: what the program reports about its work, one line each. -/

namespace ClaimRelay

/-- How serious a notice is, the most serious first. -/
inductive Notice.Level where
  | error
  | warn
  | info
  | debug
deriving DecidableEq, Repr

/-- The name of a level. -/
def Notice.Level.label : Notice.Level → String
  | .error => "ERROR"
  | .warn => "WARN"
  | .info => "INFO"
  | .debug => "DEBUG"

/-- A place of a level in the order of seriousness. -/
def Notice.Level.rank : Notice.Level → Nat
  | .error => 0
  | .warn => 1
  | .info => 2
  | .debug => 3

/-- A notice: its level, the part of the program that gives it, its text, and named values. -/
structure Notice where
  level : Notice.Level
  source : String
  text : String
  fields : List (String × String) := []
deriving DecidableEq, Repr

namespace Notice

/-- The first characters of a key: notices show no more of it. -/
def shortKey (key : String) : String := String.ofList (key.toList.take 12)

/-- How a notice shows a key. -/
def keyText (key : String) : String := Text.quote (shortKey key)

/-- The level and the text. -/
def summary (notice : Notice) : String := s!"{notice.level.label} {notice.text}"

/-- How a line shows a named value. -/
def fieldText (field : String × String) : String := s!" {field.1}={field.2}"

/-- The whole line. -/
def line (notice : Notice) : String :=
  s!"{notice.level.label} {notice.source}: {notice.text}" ++
    String.join (notice.fields.map fieldText)

end Notice

end ClaimRelay
