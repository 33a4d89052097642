import ClaimRelay.Proofs.Json.Found

/-! What is skipped.  Members that no field of a record has are skipped by other readers than those that
keep a value.  Where a number, a string or a value was read, skipping it leaves the same rest. -/

namespace ClaimRelay.Json

variable {input rest last : List UInt8}

/-! ### Numbers -/

open Reads in
theorem rest_of_toDouble {negative : Bool} {n : Nat} {exponent : Int} {x : Number}
    (h : Reads (toDouble negative n exponent) input x rest) : rest = input := by
  unfold toDouble at h
  split at h
  · exact absurd h not_fail
  · exact (of_pure h).2

open Reads in
theorem rest_of_ofMagnitude {negative : Bool} {n : Nat} {x : Number}
    (h : Reads (ofMagnitude negative n) input x rest) : rest = input := by
  unfold ofMagnitude at h
  extract_lets value at h
  split at h
  · exact (of_pure h).2
  · exact rest_of_toDouble h

theorem not_isEmpty_takeDigits {b : UInt8} (hb : isDigit b = true) :
    ¬(((b :: input).takeWhile isDigit).isEmpty = true) := by
  simp [hb]

/-- Digits that are read can be skipped. -/
theorem skips_digits {f : List UInt8 → Reader Number} {x : Number}
    (hf : ∀ {digits after}, Reads (f digits) after x rest → rest = after)
    (h : Reads (do
      match ← peekByte with
      | none => fail .endInValue
      | some b => if ¬isDigit b then fail .badNumber else f (← takeDigits)) input x rest) :
    Reads (do if (← takeDigits).isEmpty then fail .badNumber) input () rest := by
  rw [Reads.peekByte_bind] at h
  rw [Reads.takeDigits_bind]
  cases input with
  | nil => exact absurd h Reads.not_fail
  | cons b input =>
    obtain ⟨hb, hread⟩ := Reads.of_if_fail h
    rw [Reads.takeDigits_bind] at hread
    obtain rfl := hf hread
    rw [if_neg (not_isEmpty_takeDigits (not_not.mp hb))]
    exact .pure () _

/-- An exponent that is read can be skipped. -/
theorem skips_exponent {negative : Bool} {n : Nat} {start : Int} {x : Number}
    (h : Reads (readExponent negative n start) input x rest) : Reads skipExponent input () rest := by
  have hend {p q : Prop} [Decidable p] [Decidable q] {a : Int} {after : List UInt8}
      (h : Reads (if p then if q then fail .numberOutOfRange else toDouble negative 0 0
        else toDouble negative n a) after x rest) : rest = after := by
    split at h
    · exact rest_of_toDouble (Reads.of_if_fail h).2
    · exact rest_of_toDouble h
  unfold readExponent at h
  unfold skipExponent
  rw [Reads.advance_bind, Reads.peekByte_bind] at h ⊢
  split at h
  · rename_i hsign
    rw [if_pos hsign]
    exact skips_digits hend h
  · rename_i hsign
    rw [if_neg hsign]
    exact skips_digits hend h

/-- What may follow the digits of a number, after a fraction if it has one. -/
theorem skips_tail {x : Number} {r : Reader Number} {negative : Bool} {n : Nat} {start : Int}
    (hr : ∀ {after}, Reads r after x rest → rest = after)
    (h : Reads (if input.head? = some (byte 'e') ∨ input.head? = some (byte 'E') then
      readExponent negative n start else r) input x rest) :
    Reads (do
      let after ← peekByte
      if after = some (byte 'e') ∨ after = some (byte 'E') then skipExponent) input () rest := by
  rw [Reads.peekByte_bind]
  split at h
  · rename_i hletter
    rw [if_pos hletter]
    exact skips_exponent h
  · rename_i hletter
    rw [if_neg hletter, hr h]
    exact .pure () input

theorem skips_fraction {negative : Bool} {n dropped : Nat} {x : Number}
    (h : Reads (readFraction negative n dropped) input x rest) :
    Reads (do
      advance
      if (← takeDigits).isEmpty then fail .badNumber
      let after ← peekByte
      if after = some (byte 'e') ∨ after = some (byte 'E') then skipExponent) input () rest := by
  unfold readFraction at h
  rw [Reads.advance_bind, Reads.takeDigits_bind, Reads.peekByte_bind] at h
  rw [Reads.advance_bind, Reads.takeDigits_bind]
  obtain ⟨hdigits, h⟩ := Reads.of_if_fail h
  rw [if_neg hdigits]
  exact skips_tail rest_of_toDouble h

theorem skips_number {negative : Bool} {x : Number} (h : Reads (readNumber negative) input x rest) :
    Reads skipNumber input () rest := by
  unfold readNumber at h
  unfold skipNumber
  rw [Reads.peekByte_bind] at h
  rw [Reads.takeDigits_bind]
  cases input with
  | nil => exact absurd h Reads.not_fail
  | cons b input =>
    obtain ⟨hb, h⟩ := Reads.of_if_fail h
    rw [Reads.takeDigits_bind] at h
    obtain ⟨hlead, h⟩ := Reads.of_if_fail h
    have hhead : ((b :: input).takeWhile isDigit).head? = some b := by simp [not_not.mp hb]
    rw [if_neg, Reads.peekByte_bind]
    · dsimp only at h ⊢
      rw [Reads.peekByte_bind] at h
      generalize (b :: input).dropWhile isDigit = after at h ⊢
      split at h
      · rename_i hpoint
        rw [if_pos hpoint]
        exact skips_fraction h
      · rename_i hpoint
        rw [if_neg hpoint]
        refine skips_tail (fun h => ?_) h
        split at h
        · exact rest_of_ofMagnitude h
        · exact rest_of_toDouble h
    · rintro (hempty | ⟨hzero, hlength⟩)
      · exact not_isEmpty_takeDigits (not_not.mp hb) hempty
      · exact hlead ⟨Option.some.inj (hhead.symm.trans hzero), hlength⟩

/-! ### Strings -/

theorem of_if_throw {α : Type} {p : Prop} [Decidable p] {fault : Fault} {x : Except Fault α} {value : α}
    (h : (if p then throw fault else x) = .ok value) : ¬p ∧ x = .ok value := by
  split at h
  · contradiction
  · exact ⟨‹_›, h⟩

/-- A code point is one escape, or a leading surrogate and a trailing one. -/
theorem escapedCodePoint_eq_ok {bytes : List UInt8} {n : Nat}
    (h : escapedCodePoint bytes = .ok (n, rest)) :
    (∃ m, hex4 bytes = .ok (m, rest)) ∨
      ∃ m more k, hex4 bytes = .ok (m, byte '\\' :: byte 'u' :: more) ∧ hex4 more = .ok (k, rest) := by
  unfold escapedCodePoint at h
  cases hfirst : hex4 bytes with
  | error e => simp [hfirst, bind, Except.bind] at h
  | ok found =>
    obtain ⟨m, after⟩ := found
    rw [hfirst] at h
    change (if _ then _ else _) = _ at h
    obtain ⟨-, h⟩ := of_if_throw h
    split at h
    · obtain ⟨rfl, rfl⟩ := Prod.mk.inj (Except.ok.inj h)
      exact .inl ⟨_, rfl⟩
    · right
      match after with
      | [] => contradiction
      | [b] =>
        obtain ⟨-, h⟩ := of_if_throw h
        contradiction
      | b :: u :: more =>
        obtain ⟨hb, h⟩ := of_if_throw h
        obtain ⟨hu, h⟩ := of_if_throw h
        rw [not_not.mp hb, not_not.mp hu]
        cases hsecond : hex4 more with
        | error e => simp [hsecond, bind, Except.bind] at h
        | ok found =>
          rw [hsecond] at h
          change (if _ then _ else _) = _ at h
          obtain ⟨-, h⟩ := of_if_throw h
          obtain ⟨-, rfl⟩ := Prod.mk.inj (Except.ok.inj h)
          exact ⟨_, _, _, rfl, hsecond⟩

/-- One step of a string that is skipped, at an escape of a code point. -/
theorem afterString_hex {fuel n : Nat} {bytes after : List UInt8}
    (h : afterString fuel (byte '\\' :: byte 'u' :: bytes) = .ok rest)
    (hhex : hex4 bytes = .ok (n, after)) : ∃ fuel', afterString fuel' after = .ok rest := by
  cases fuel with
  | zero => contradiction
  | succ fuel =>
    rw [afterString, if_neg (by decide), if_pos rfl] at h
    dsimp only at h
    rw [if_neg (by decide), if_pos rfl, hhex] at h
    exact ⟨fuel, h⟩

/-- A string ends at the same place whether it is read or skipped. -/
theorem rest_of_afterString {fuel fuel' : Nat} {acc bytes content rest' : List UInt8}
    (h : stringBytes fuel acc bytes = .ok (content, rest)) (h' : afterString fuel' bytes = .ok rest') :
    rest' = rest := by
  induction fuel generalizing fuel' acc bytes with
  | zero => contradiction
  | succ fuel ih =>
    cases bytes with
    | nil => contradiction
    | cons b bytes =>
      cases fuel' with
      | zero => contradiction
      | succ fuel' =>
        rw [stringBytes.eq_def] at h
        rw [afterString.eq_def] at h'
        dsimp only at h h'
        by_cases hquote : b = byte '"'
        · rw [if_pos hquote] at h h'
          obtain ⟨-, rfl⟩ := Prod.mk.inj (Except.ok.inj h)
          exact (Except.ok.inj h').symm
        rw [if_neg hquote] at h h'
        by_cases hbackslash : b = byte '\\'
        · rw [if_pos hbackslash] at h h'
          cases bytes with
          | nil => contradiction
          | cons e bytes =>
            dsimp only at h h'
            cases hsimple : simpleEscape? e with
            | some c =>
              rw [hsimple] at h h'
              exact ih h h'
            | none =>
              rw [hsimple] at h h'
              rw [if_neg (by simp)] at h'
              by_cases hu : e = byte 'u'
              · rw [if_pos hu] at h h'
                cases hcode : escapedCodePoint bytes with
                | error e => simp [hcode, bind, Except.bind] at h
                | ok found =>
                  rw [hcode] at h
                  change stringBytes fuel _ found.2 = _ at h
                  -- Two surrogates are one code point where they are read, and two escapes where they
                  -- are skipped.
                  rcases escapedCodePoint_eq_ok hcode with ⟨m, hhex⟩ | ⟨m, more, k, hfirst, hsecond⟩
                  · rw [hhex] at h'
                    exact ih h h'
                  · rw [hfirst] at h'
                    obtain ⟨_, h'⟩ := afterString_hex h' hsecond
                    exact ih h h'
              · rw [if_neg hu] at h
                contradiction
        rw [if_neg hbackslash] at h h'
        by_cases hcontrol : b < 0x20
        · rw [if_pos hcontrol] at h
          contradiction
        rw [if_neg hcontrol] at h h'
        exact ih h h'

theorem rest_of_skipString {s : String} {u : Unit} {rest' : List UInt8}
    (h : Reads readString input s rest) (h' : Reads skipString input u rest') : rest' = rest := by
  unfold readString at h
  unfold skipString at h'
  rw [Reads.advance_bind, Reads.get_bind] at h h'
  cases hread : stringBytes ((input.drop 1).length + 1) [] (input.drop 1) with
  | error e =>
    rw [hread] at h
    exact absurd h Reads.not_fail
  | ok found =>
    obtain ⟨content, after⟩ := found
    rw [hread] at h
    cases hskip : afterString ((input.drop 1).length + 1) (input.drop 1) with
    | error e =>
      rw [hskip] at h'
      exact absurd h' Reads.not_fail
    | ok after' =>
      rw [hskip] at h'
      obtain ⟨-, rfl⟩ := Prod.mk.inj (Except.ok.inj h')
      dsimp only at h
      rw [Reads.set_bind] at h
      rw [rest_of_afterString hread hskip]
      split at h
      · exact (Reads.of_pure h).2.symm
      · exact absurd h Reads.not_fail

/-! ### Values -/

variable {fuel depth n : Nat} {frame : Frame} {frames : List Frame}

/-- What comes next in an open list or object. -/
def Frame.turn : Frame → Bool → Reader Turn
  | .list => listTurn
  | .object => objectTurn

/-- How the next turn is found. -/
inductive Frame.Turns (frame : Frame) : Bool → List UInt8 → Turn → List UInt8 → Prop
  | done {first : Bool} {input : List UInt8}
      (h : (input.dropWhile isSpace).head? = some frame.close) :
      Turns frame first input .done ((input.dropWhile isSpace).drop 1)
  | first {input : List UInt8} {b : UInt8} (h : (input.dropWhile isSpace).head? = some b)
      (hb : b ≠ frame.close) : Turns frame true input .item (input.dropWhile isSpace)
  | next {input : List UInt8} (h : (input.dropWhile isSpace).head? = some (byte ',')) :
      Turns frame false input .item (((input.dropWhile isSpace).drop 1).dropWhile isSpace)

theorem Frame.turns {first : Bool} {turn : Turn} (h : Reads (frame.turn first) input turn rest) :
    frame.Turns first input turn rest := by
  cases frame with
  | list =>
    unfold Frame.turn listTurn at h
    rw [Reads.peek_bind] at h
    cases hhead : (input.dropWhile isSpace).head? with
    | none =>
      rw [hhead] at h
      exact absurd h Reads.not_fail
    | some b =>
      rw [hhead] at h
      dsimp only at h
      split at h
      · rename_i hb
        rw [Reads.advance_bind] at h
        obtain ⟨rfl, rfl⟩ := Reads.of_pure h
        exact .done (hhead.trans (congrArg some hb))
      · rename_i hb
        split at h
        · rename_i hfirst
          obtain ⟨rfl, rfl⟩ := Reads.of_pure h
          exact hfirst ▸ .first hhead hb
        · rename_i hfirst
          split at h
          · rename_i hcomma
            rw [Reads.advance_bind, Reads.peek_bind] at h
            split at h
            · exact absurd h Reads.not_fail
            · obtain ⟨rfl, rfl⟩ := Reads.of_pure (Reads.of_if_fail h).2
              rw [Bool.not_eq_true] at hfirst
              exact hfirst ▸ .next (hcomma ▸ hhead)
          · exact absurd h Reads.not_fail
  | object =>
    unfold Frame.turn objectTurn at h
    rw [Reads.peek_bind] at h
    cases hhead : (input.dropWhile isSpace).head? with
    | none =>
      rw [hhead] at h
      exact absurd h Reads.not_fail
    | some b =>
      rw [hhead] at h
      dsimp only at h
      split at h
      · rename_i hb
        rw [Reads.advance_bind] at h
        obtain ⟨rfl, rfl⟩ := Reads.of_pure h
        exact .done (hhead.trans (congrArg some hb))
      · rename_i hb
        split at h
        · rename_i hfirst
          split at h
          · obtain ⟨rfl, rfl⟩ := Reads.of_pure h
            exact hfirst ▸ .first hhead hb
          · exact absurd h Reads.not_fail
        · rename_i hfirst
          split at h
          · rename_i hcomma
            rw [Reads.advance_bind, Reads.peek_bind] at h
            split at h
            · exact absurd h Reads.not_fail
            · split at h
              · obtain ⟨rfl, rfl⟩ := Reads.of_pure h
                rw [Bool.not_eq_true] at hfirst
                exact hfirst ▸ .next (hcomma ▸ hhead)
              · exact absurd (Reads.of_if_fail h).2 Reads.not_fail
          · exact absurd h Reads.not_fail

/-- Skips what is left of a list or an object, of which nothing was read yet if it is the `first` turn. -/
def skipOpen (fuel : Nat) (first : Bool) (frame : Frame) (frames : List Frame) : Reader Unit :=
  if first then skipInside fuel frame frames else skipRest fuel (frame :: frames)

/-- White space before a value does not matter. -/
theorem Reads.skipValue_dropWhile :
    Reads (skipValue fuel frames) (input.dropWhile isSpace) () last ↔
      Reads (skipValue fuel frames) input () last := by
  cases fuel with
  | zero => rw [skipValue]; exact ⟨fun h => absurd h not_fail, fun h => absurd h not_fail⟩
  | succ fuel => rw [skipValue, peek_bind, peek_bind, List.dropWhile_idempotent]

theorem Reads.skipName_dropWhile :
    Reads skipName (input.dropWhile isSpace) () last ↔ Reads skipName input () last := by
  unfold skipName
  rw [peek_bind, peek_bind, List.dropWhile_idempotent]

/-- What is left to skip, from the end of one turn of a list or an object. -/
def SkipsTurn (frame : Frame) (frames : List Frame) (last input : List UInt8) : Turn → Prop
  | .done => ∃ fuel, Reads (skipRest fuel frames) input () last
  | .item => input.dropWhile isSpace = input ∧
      ∃ fuel, Reads (do frame.lead; skipValue fuel (frame :: frames)) input () last

theorem skips_turn {first : Bool} {turn : Turn} (h : Reads (frame.turn first) input turn rest)
    (hskip : Reads (skipOpen fuel first frame frames) input () last) :
    SkipsTurn frame frames last rest turn := by
  cases fuel with
  | zero => cases first <;> exact absurd hskip Reads.not_fail
  | succ fuel =>
    cases Frame.turns h with
    | done hhead =>
      refine ⟨fuel, ?_⟩
      cases first with
      | true =>
        rw [skipOpen, if_pos rfl, skipInside, Reads.peek_bind, hhead] at hskip
        dsimp only at hskip
        rwa [if_pos rfl, Reads.advance_bind] at hskip
      | false =>
        rw [skipOpen, if_neg (by simp), skipRest, Reads.peek_bind, hhead] at hskip
        dsimp only at hskip
        rwa [if_pos rfl, Reads.advance_bind] at hskip
    | first hhead hb =>
      refine ⟨List.dropWhile_idempotent .., fuel, ?_⟩
      rw [skipOpen, if_pos rfl, skipInside, Reads.peek_bind, hhead] at hskip
      dsimp only at hskip
      rwa [if_neg hb] at hskip
    | next hhead =>
      have hclose : byte ',' ≠ frame.close := by cases frame <;> decide
      refine ⟨List.dropWhile_idempotent .., fuel, ?_⟩
      rw [skipOpen, if_neg (by simp), skipRest, Reads.peek_bind, hhead] at hskip
      dsimp only at hskip
      rw [if_neg hclose, if_pos rfl, Reads.advance_bind] at hskip
      cases frame with
      | list => exact Reads.skipValue_dropWhile.mpr hskip
      | object =>
        obtain ⟨_, _, hname, hvalue⟩ := Reads.of_bind hskip
        exact (Reads.skipName_dropWhile.mpr hname).bind hvalue

/-- The name of a member ends at the same place whether it is read or skipped. -/
theorem rest_of_skipName {name : String} {mid : List UInt8} (hspace : input.dropWhile isSpace = input)
    (h : Reads readString input name mid) (h' : Reads skipName input () last) :
    Reads readColon mid () last := by
  unfold skipName at h'
  rw [Reads.peek_bind, hspace] at h'
  split at h'
  · obtain ⟨_, _, hfail, -⟩ := Reads.of_bind h'
    exact absurd hfail Reads.not_fail
  · split at h'
    · obtain ⟨_, mid', hname, hcolon⟩ := Reads.of_bind h'
      obtain rfl := rest_of_skipString h hname
      exact hcolon
    · obtain ⟨_, _, hfail, -⟩ := Reads.of_bind h'
      exact absurd hfail Reads.not_fail

/-- Where a value, or the rest of a list or an object, was read, skipping goes on behind it. -/
structure Skips (fuel : Nat) : Prop where
  value : ∀ {depth n : Nat} {frames : List Frame} {input rest last : List UInt8} {v : Json},
    Reads (readValue fuel depth) input v rest → Reads (skipValue n frames) input () last →
      ∃ n', Reads (skipRest n' frames) rest () last
  items : ∀ {depth n : Nat} {frames : List Frame} {input rest last : List UInt8} {v : Json}
    {found : List Json}, Reads (readItems fuel depth found) input v rest →
      Reads (skipOpen n found.isEmpty .list frames) input () last →
        ∃ n', Reads (skipRest n' frames) rest () last
  members : ∀ {depth n : Nat} {frames : List Frame} {input rest last : List UInt8} {v : Json}
    {found : List (String × Json)} {first : Bool},
      Reads (readMembers fuel depth first found) input v rest →
        Reads (skipOpen n first .object frames) input () last →
          ∃ n', Reads (skipRest n' frames) rest () last

variable {v : Json}

theorem Skips.items_succ (ih : Skips fuel) {found : List Json}
    (h : Reads (readItems (fuel + 1) depth found) input v rest)
    (hskip : Reads (skipOpen n found.isEmpty .list frames) input () last) :
    ∃ n', Reads (skipRest n' frames) rest () last := by
  rw [readItems] at h
  obtain ⟨turn, mid, hturn, h⟩ := Reads.of_bind h
  have hleft : SkipsTurn .list frames last mid turn := skips_turn hturn hskip
  cases turn with
  | done =>
    obtain ⟨-, rfl⟩ := Reads.of_pure h
    exact hleft
  | item =>
    obtain ⟨-, n', hvalue⟩ := hleft
    obtain ⟨item, mid', hitem, hmore⟩ := Reads.of_bind h
    obtain ⟨n', hrest⟩ := ih.value hitem hvalue
    exact ih.items hmore hrest

theorem Skips.members_succ (ih : Skips fuel) {found : List (String × Json)} {first : Bool}
    (h : Reads (readMembers (fuel + 1) depth first found) input v rest)
    (hskip : Reads (skipOpen n first .object frames) input () last) :
    ∃ n', Reads (skipRest n' frames) rest () last := by
  rw [readMembers] at h
  obtain ⟨turn, mid, hturn, h⟩ := Reads.of_bind h
  have hleft : SkipsTurn .object frames last mid turn := skips_turn hturn hskip
  cases turn with
  | done =>
    obtain ⟨-, rfl⟩ := Reads.of_pure h
    exact hleft
  | item =>
    obtain ⟨hspace, n', hmember⟩ := hleft
    obtain ⟨_, _, hname', hvalue'⟩ := Reads.of_bind hmember
    obtain ⟨name, _, hname, hcolon⟩ := Reads.of_bind h
    have hvalue := (rest_of_skipName hspace hname hname').after hcolon
    obtain ⟨value, _, hread, hmore⟩ := Reads.of_bind hvalue
    obtain ⟨n', hrest⟩ := ih.value hread hvalue'
    exact ih.members hmore hrest

theorem skips_word {word : List UInt8} {r : Reader Unit} {found : Json}
    (h : Reads (do advance; readWord word; return found) input v rest)
    (hskip : Reads (do advance; readWord word; r) input () last) : Reads r rest () last := by
  obtain ⟨_, _, hadvance, h⟩ := Reads.of_bind h
  obtain ⟨_, _, hword, h⟩ := Reads.of_bind h
  obtain ⟨-, rfl⟩ := Reads.of_pure h
  exact hword.after (hadvance.after hskip)

theorem Skips.value_succ (ih : Skips fuel) (h : Reads (readValue (fuel + 1) depth) input v rest)
    (hskip : Reads (skipValue n frames) input () last) :
    ∃ n', Reads (skipRest n' frames) rest () last := by
  cases n with
  | zero => exact absurd hskip Reads.not_fail
  | succ n =>
    rw [readValue, Reads.peek_bind] at h
    rw [skipValue, Reads.peek_bind] at hskip
    generalize (input.dropWhile isSpace).head? = first at h hskip
    generalize input.dropWhile isSpace = input at h hskip
    cases first with
    | none => exact absurd h Reads.not_fail
    | some b =>
      dsimp only at h hskip
      by_cases hnull : b = byte 'n'
      · rw [if_pos hnull] at h hskip
        exact ⟨n, skips_word h hskip⟩
      rw [if_neg hnull] at h hskip
      by_cases htrue : b = byte 't'
      · rw [if_pos htrue] at h hskip
        exact ⟨n, skips_word h hskip⟩
      rw [if_neg htrue] at h hskip
      by_cases hfalse : b = byte 'f'
      · rw [if_pos hfalse] at h hskip
        exact ⟨n, skips_word h hskip⟩
      rw [if_neg hfalse] at h hskip
      by_cases hminus : b = byte '-'
      · rw [if_pos hminus, Reads.advance_bind] at h hskip
        obtain ⟨_, _, hnumber, hlast⟩ := Reads.of_bind h
        obtain ⟨-, rfl⟩ := Reads.of_pure hlast
        exact ⟨n, (skips_number hnumber).after hskip⟩
      rw [if_neg hminus] at h hskip
      by_cases hdigit : isDigit b = true
      · rw [if_pos hdigit] at h hskip
        obtain ⟨_, _, hnumber, hlast⟩ := Reads.of_bind h
        obtain ⟨-, rfl⟩ := Reads.of_pure hlast
        exact ⟨n, (skips_number hnumber).after hskip⟩
      rw [if_neg hdigit] at h hskip
      by_cases hquote : b = byte '"'
      · rw [if_pos hquote] at h hskip
        obtain ⟨_, _, hstring, hlast⟩ := Reads.of_bind h
        obtain ⟨-, rfl⟩ := Reads.of_pure hlast
        obtain ⟨_, _, hstring', hrest⟩ := Reads.of_bind hskip
        obtain rfl := rest_of_skipString hstring hstring'
        exact ⟨n, hrest⟩
      rw [if_neg hquote] at h hskip
      by_cases hlist : b = byte '['
      · rw [if_pos hlist] at h hskip
        rw [Reads.advance_bind] at hskip
        have hitems := (Reads.of_if_fail h).2
        rw [Reads.advance_bind] at hitems
        exact ih.items hitems hskip
      rw [if_neg hlist] at h hskip
      by_cases hobject : b = byte '\x7b'
      · rw [if_pos hobject] at h hskip
        rw [Reads.advance_bind] at hskip
        have hmembers := (Reads.of_if_fail h).2
        rw [Reads.advance_bind] at hmembers
        exact ih.members hmembers hskip
      rw [if_neg hobject] at h
      exact absurd h Reads.not_fail

theorem skips (fuel : Nat) : Skips fuel := by
  induction fuel with
  | zero =>
    constructor
    · intro _ _ _ _ _ _ _ h
      exact absurd h Reads.not_fail
    · intro _ _ _ _ _ _ _ _ h
      exact absurd h Reads.not_fail
    · intro _ _ _ _ _ _ _ _ _ h
      exact absurd h Reads.not_fail
  | succ fuel ih => exact ⟨ih.value_succ, ih.items_succ, ih.members_succ⟩

/-- A value ends at the same place whether it is read or skipped. -/
theorem rest_of_skipValue (h : Reads (readValue fuel depth) input v rest)
    (hskip : Reads (skipValue n []) input () last) : last = rest := by
  obtain ⟨n', hrest⟩ := (skips fuel).value h hskip
  rw [skipRest] at hrest
  exact (Reads.of_pure hrest).2

end ClaimRelay.Json
