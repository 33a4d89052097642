import ClaimRelay.Notice
import ClaimRelay.Text.Blank
import ClaimRelay.Text.Split

/-! Which notices are shown.  A filter is a list of rules, each for the parts of the program whose
names begin in a certain way; of the rules for a part the one with the longest beginning decides. -/

namespace ClaimRelay.Notice

/-- A rule: which parts it is for, and the greatest rank of a level that it shows, if any. -/
structure Rule where
  source : List Char
  shown : Option Nat
deriving DecidableEq, Repr

/-- The rules that decide what is shown. -/
abbrev Filter := List Rule

namespace Filter

/-- What is shown unless something else is asked for. -/
def standard : Filter := [⟨[], some Level.info.rank⟩]

/-- The greatest rank that a word for a level stands for, `none` within for nothing at all. -/
def level? (word : List Char) : Option (Option Nat) :=
  let lower := String.ofList (word.map Char.toLower)
  if lower = "off" ∨ lower = "0" then some none
  else if lower = "error" ∨ lower = "1" then some (some Level.error.rank)
  else if lower = "warn" ∨ lower = "2" then some (some Level.warn.rank)
  else if lower = "info" ∨ lower = "3" then some (some Level.info.rank)
  else if lower = "debug" ∨ lower = "4" then some (some Level.debug.rank)
  else if lower = "trace" ∨ lower = "5" then some (some Level.debug.rank)
  else none

/-- The rule that a text describes: a level, a part of the program, or both. -/
def rule? (text : List Char) : Option Rule :=
  match Text.split '=' text with
  | [word] =>
    match level? word with
    | some shown => some ⟨[], shown⟩
    | none => some ⟨word, some Level.debug.rank⟩
  | [source, word] => (level? word).map fun shown => ⟨source, shown⟩
  | _ => none

/-- The rules that a text describes, separated by commas. -/
def rules? (text : String) : Option Filter :=
  ((Text.split ',' text.toList).filter (· ≠ [])).mapM rule?

/-- The filter that the text of a variable asks for. -/
def ofVariable (text : Option String) : Filter :=
  match text.bind rules? with
  | none => standard
  | some [] => [⟨[], some Level.error.rank⟩]
  | some rules => rules

/-- The rule that decides about a part of the program, the later one of two with the same
beginning. -/
def deciding? (filter : Filter) (source : String) : Option Rule :=
  (filter.filter fun rule => rule.source.isPrefixOf source.toList).foldl (fun best rule =>
    match best with
    | some found => if rule.source.length < found.source.length then some found else some rule
    | none => some rule) none

/-- Whether a notice is shown. -/
def shows (filter : Filter) (notice : Notice) : Bool :=
  match (filter.deciding? notice.source).bind (·.shown) with
  | some rank => notice.level.rank ≤ rank
  | none => false

/-- The lines of the notices that are shown. -/
def lines (filter : Filter) (notices : List Notice) : List String :=
  (notices.filter filter.shows).map Notice.line

end Filter

end ClaimRelay.Notice
