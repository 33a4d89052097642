import ClaimRelay.Json.Reader

/-! Readers of whole values: the reader that keeps a value, with a limit on its nesting, and the one
that skips it, without a limit. -/

namespace ClaimRelay.Json

/-- How many lists and objects may enclose each other, less one. -/
def nestingLimit : Nat := 128

/-- What comes next in a list or an object that is being read. -/
inductive Turn where
  | item
  | done
deriving DecidableEq

/-- Decides between the next item of a list and its end, which is taken away. -/
def listTurn (first : Bool) : Reader Turn := do
  match ← peek with
  | none => fail .endInList
  | some b =>
    if b = byte ']' then
      advance
      return .done
    else if first then return .item
    else if b = byte ',' then
      advance
      match ← peek with
      | none => fail .endInValue
      | some c => if c = byte ']' then fail .trailingComma else return .item
    else fail .expectedListCommaOrEnd

/-- Decides between the next member of an object and its end, which is taken away. -/
def objectTurn (first : Bool) : Reader Turn := do
  match ← peek with
  | none => fail .endInObject
  | some b =>
    if b = byte '\x7d' then
      advance
      return .done
    else if first then
      if b = byte '"' then return .item else fail .nameNotString
    else if b = byte ',' then
      advance
      match ← peek with
      | none => fail .endInValue
      | some c =>
        if c = byte '"' then return .item
        else if c = byte '\x7d' then fail .trailingComma
        else fail .nameNotString
    else fail .expectedObjectCommaOrEnd

/-- Reads the colon after the name of a member. -/
def readColon : Reader Unit := do
  match ← peek with
  | none => fail .endInObject
  | some b => if b = byte ':' then advance else fail .expectedColon

mutual

/-- Reads a value inside which `depth - 1` lists and objects may enclose each other. -/
def readValue (fuel depth : Nat) : Reader Json :=
  match fuel with
  | 0 => fail .tooDeep
  | fuel + 1 => do
    match ← peek with
    | none => fail .endInValue
    | some b =>
      if b = byte 'n' then
        advance
        readWord [byte 'u', byte 'l', byte 'l']
        return .null
      else if b = byte 't' then
        advance
        readWord [byte 'r', byte 'u', byte 'e']
        return .bool true
      else if b = byte 'f' then
        advance
        readWord [byte 'a', byte 'l', byte 's', byte 'e']
        return .bool false
      else if b = byte '-' then
        advance
        return (← readNumber true).toJson
      else if isDigit b then return (← readNumber false).toJson
      else if b = byte '"' then return .string (← readString)
      else if b = byte '[' then
        if depth ≤ 1 then fail .tooDeep
        else
          advance
          readItems fuel (depth - 1) []
      else if b = byte '\x7b' then
        if depth ≤ 1 then fail .tooDeep
        else
          advance
          readMembers fuel (depth - 1) true []
      else fail .expectedValue

/-- Reads the rest of a list.  `items` holds those found so far, the latest first. -/
def readItems (fuel depth : Nat) (items : List Json) : Reader Json :=
  match fuel with
  | 0 => fail .tooDeep
  | fuel + 1 => do
    match ← listTurn items.isEmpty with
    | .done => return .array items.reverse
    | .item =>
      let item ← readValue fuel depth
      readItems fuel depth (item :: items)

/-- Reads the rest of an object.  A later member replaces an earlier one of the same name. -/
def readMembers (fuel depth : Nat) (first : Bool) (members : List (String × Json)) : Reader Json :=
  match fuel with
  | 0 => fail .tooDeep
  | fuel + 1 => do
    match ← objectTurn first with
    | .done => return .object members
    | .item =>
      let name ← readString
      readColon
      let value ← readValue fuel depth
      readMembers fuel depth false (insertMember name value members)

end

/-- A list or an object that is being skipped. -/
inductive Frame where
  | list
  | object
deriving DecidableEq

/-- Skips the name of a member and its colon. -/
def skipName : Reader Unit := do
  match ← peek with
  | none => fail .endInObject
  | some b => if b = byte '"' then skipString else fail .nameNotString
  readColon

/-- Skips what must come before the next value of an open list or object. -/
def Frame.lead : Frame → Reader Unit
  | .list => return
  | .object => skipName

/-- The byte that ends a list or an object. -/
def Frame.close : Frame → UInt8
  | .list => byte ']'
  | .object => byte '\x7d'

/-- The fault of a text that ends inside a list or an object. -/
def Frame.unfinished : Frame → Fault
  | .list => .endInList
  | .object => .endInObject

/-- The fault of a text with neither a comma nor an end where one must be. -/
def Frame.unseparated : Frame → Fault
  | .list => .expectedListCommaOrEnd
  | .object => .expectedObjectCommaOrEnd

mutual

/-- Skips a value and everything up to the end of the outermost of `frames`. -/
def skipValue (fuel : Nat) (frames : List Frame) : Reader Unit :=
  match fuel with
  | 0 => fail .tooDeep
  | fuel + 1 => do
    match ← peek with
    | none => fail .endInValue
    | some b =>
      if b = byte 'n' then
        advance
        readWord [byte 'u', byte 'l', byte 'l']
        skipRest fuel frames
      else if b = byte 't' then
        advance
        readWord [byte 'r', byte 'u', byte 'e']
        skipRest fuel frames
      else if b = byte 'f' then
        advance
        readWord [byte 'a', byte 'l', byte 's', byte 'e']
        skipRest fuel frames
      else if b = byte '-' then
        advance
        skipNumber
        skipRest fuel frames
      else if isDigit b then
        skipNumber
        skipRest fuel frames
      else if b = byte '"' then
        skipString
        skipRest fuel frames
      else if b = byte '[' then
        advance
        skipInside fuel .list frames
      else if b = byte '\x7b' then
        advance
        skipInside fuel .object frames
      else fail .expectedValue

/-- Skips a list or an object just opened. -/
def skipInside (fuel : Nat) (frame : Frame) (frames : List Frame) : Reader Unit :=
  match fuel with
  | 0 => fail .tooDeep
  | fuel + 1 => do
    match ← peek with
    | none => fail frame.unfinished
    | some b =>
      if b = frame.close then
        advance
        skipRest fuel frames
      else
        frame.lead
        skipValue fuel (frame :: frames)

/-- Skips what follows a value inside `frames`. -/
def skipRest (fuel : Nat) (frames : List Frame) : Reader Unit :=
  match fuel, frames with
  | _, [] => return
  | 0, _ => fail .tooDeep
  | fuel + 1, frame :: outer => do
    match ← peek with
    | none => fail frame.unfinished
    | some b =>
      if b = frame.close then
        advance
        skipRest fuel outer
      else if b = byte ',' then
        advance
        frame.lead
        skipValue fuel (frame :: outer)
      else fail frame.unseparated

end

/-- Reads a whole document: nothing but white space may follow. -/
def readDocument {α : Type} (reader : Reader α) (bytes : List UInt8) : Except ReadError α :=
  match (do
    let value ← reader
    match ← peek with
    | none => return value
    | some _ => fail .trailingCharacters : Reader α).run bytes with
  | .ok (value, _) => .ok value
  | .error e => .error e

/-- The value that a document holds. -/
def read (bytes : List UInt8) : Except ReadError Json :=
  readDocument (do readValue (← steps) nestingLimit) bytes

end ClaimRelay.Json
