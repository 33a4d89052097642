import ClaimRelay.Json.Printer
import ClaimRelay.Json.Reader
import ClaimRelay.Proofs.Text.Utf8

/-! What readers do to the bytes in front of them.  `Reads` says of a reader that it succeeds; from its
lemmas about the steps of a reader follows what a reader finds where a string or an integer was printed. -/

namespace ClaimRelay.Json

open Text.Utf8

variable {α β : Type} {r : Reader α} {input rest : List UInt8}

/-- The reader finds a value in front of the input, and leaves the rest. -/
def Reads (r : Reader α) (input : List UInt8) (value : α) (rest : List UInt8) : Prop :=
  r.run input = .ok (value, rest)

namespace Reads

theorem pure (value : α) (input : List UInt8) : Reads (pure value) input value input := rfl

theorem bind {f : α → Reader β} {a : α} {b : β} {mid : List UInt8} (h : Reads r input a mid)
    (h' : Reads (f a) mid b rest) : Reads (r >>= f) input b rest := by
  unfold Reads at *
  rw [StateT.run_bind, h]
  exact h'

/-- What a sequence of two readers finds. -/
theorem of_bind {f : α → Reader β} {b : β} (h : Reads (r >>= f) input b rest) :
    ∃ a mid, Reads r input a mid ∧ Reads (f a) mid b rest := by
  unfold Reads at *
  rw [StateT.run_bind] at h
  cases hr : r.run input with
  | error e => simp [hr, Bind.bind, Except.bind] at h
  | ok found =>
    rw [hr] at h
    exact ⟨found.1, found.2, rfl, h⟩

theorem of_pure {a b : α} (h : Reads (Pure.pure a) input b rest) : b = a ∧ rest = input := by
  obtain ⟨rfl, rfl⟩ := Prod.mk.inj (Except.ok.inj h)
  exact ⟨rfl, rfl⟩

theorem not_fail {fault : Fault} {a : α} : ¬Reads (fail fault) input a rest := by
  intro h
  simp [Reads, fail, throw, throwThe, MonadExceptOf.throw, StateT.run, StateT.lift, Bind.bind,
    Except.bind] at h

theorem not_throw {e : ReadError} {a : α} : ¬Reads (throw e) input a rest := by
  intro h
  simp [Reads, throw, throwThe, MonadExceptOf.throw, StateT.run, StateT.lift, Bind.bind,
    Except.bind] at h

/-! ### Bytes -/

theorem peek {b : UInt8} (h : isSpace b = false) (input : List UInt8) :
    Reads peek (b :: input) (some b) (b :: input) := by
  show Except.ok (((b :: input).dropWhile isSpace).head?, (b :: input).dropWhile isSpace) = _
  rw [List.dropWhile_cons_of_neg (by simp [h])]
  rfl

theorem advance (b : UInt8) (input : List UInt8) : Reads advance (b :: input) () input := rfl

theorem peekByte (input : List UInt8) : Reads peekByte input input.head? input := rfl

theorem steps (input : List UInt8) : Reads steps input (2 * input.length + 2) input := rfl

theorem word (word input : List UInt8) : Reads (readWord word) (word ++ input) () input := by
  induction word with
  | nil => exact pure () input
  | cons b word ih =>
    have hnext : Reads next (b :: (word ++ input)) (some b) (word ++ input) := rfl
    refine hnext.bind ?_
    dsimp only
    rw [if_pos rfl]
    exact ih

/-! ### One step after another -/

theorem unique {r : Reader α} {a a' : α} {rest' : List UInt8} (h : Reads r input a rest)
    (h' : Reads r input a' rest') : a' = a ∧ rest' = rest := by
  obtain ⟨rfl, rfl⟩ := Prod.mk.inj (Except.ok.inj (h.symm.trans h'))
  exact ⟨rfl, rfl⟩

/-- What follows a reader that has read. -/
theorem after {last : List UInt8} {r : Reader α} {f : α → Reader β} {a : α} {b : β} (h : Reads r input a rest)
    (h' : Reads (r >>= f) input b last) : Reads (f a) rest b last := by
  obtain ⟨_, _, hfirst, hlast⟩ := of_bind h'
  obtain ⟨rfl, rfl⟩ := h.unique hfirst
  exact hlast

theorem peek_bind {f : Option UInt8 → Reader β} {b : β} : Reads (Json.peek >>= f) input b rest ↔
    Reads (f (input.dropWhile isSpace).head?) (input.dropWhile isSpace) b rest := Iff.rfl

theorem peekByte_bind {f : Option UInt8 → Reader β} {b : β} :
    Reads (Json.peekByte >>= f) input b rest ↔ Reads (f input.head?) input b rest := Iff.rfl

theorem advance_bind {f : Unit → Reader β} {b : β} :
    Reads (Json.advance >>= f) input b rest ↔ Reads (f ()) (input.drop 1) b rest := Iff.rfl

theorem takeDigits_bind {f : List UInt8 → Reader β} {b : β} : Reads (takeDigits >>= f) input b rest ↔
    Reads (f (input.takeWhile isDigit)) (input.dropWhile isDigit) b rest := Iff.rfl

theorem get_bind {f : List UInt8 → Reader β} {b : β} :
    Reads (get >>= f) input b rest ↔ Reads (f input) input b rest := Iff.rfl

theorem set_bind {f : PUnit → Reader β} {b : β} {after : List UInt8} :
    Reads (set after >>= f) input b rest ↔ Reads (f ⟨⟩) after b rest := Iff.rfl

end Reads

/-! ### Strings -/

/-- Bytes that stand for themselves in a string. -/
def IsPlain (b : UInt8) : Prop := b ≠ byte '"' ∧ b ≠ byte '\\' ∧ ¬b < 0x20

theorem stringBytes_plain {bytes : List UInt8} (h : ∀ b ∈ bytes, IsPlain b) (fuel : Nat)
    (acc more : List UInt8) : stringBytes (fuel + bytes.length) acc (bytes ++ more) =
      stringBytes fuel (bytes.reverse ++ acc) more := by
  induction bytes generalizing acc with
  | nil => rfl
  | cons b bytes ih =>
    obtain ⟨⟨hquote, hbackslash, hcontrol⟩, hrest⟩ := List.forall_mem_cons.mp h
    show stringBytes (fuel + bytes.length + 1) acc (b :: (bytes ++ more)) = _
    rw [stringBytes.eq_def]
    dsimp only
    rw [if_neg hquote, if_neg hbackslash, if_neg hcontrol, ih hrest, List.reverse_cons,
      List.append_assoc, List.singleton_append]

theorem hexValue?_digitChar {n : Nat} (h : n < 16) : hexValue? (byte (Nat.digitChar n)) = some n := by
  have hall : ∀ n < 16, hexValue? (byte (Nat.digitChar n)) = some n := by decide
  exact hall n h

theorem escapedCodePoint_hex {n : Nat} (h : n < 0x20) (more : List UInt8) :
    escapedCodePoint (byte '0' :: byte '0' :: byte (Nat.digitChar (n / 16)) ::
      byte (Nat.digitChar (n % 16)) :: more) = .ok (n, more) := by
  have hzero : hexValue? (byte '0') = some 0 := by decide
  have hhex : hex4 (byte '0' :: byte '0' :: byte (Nat.digitChar (n / 16)) ::
      byte (Nat.digitChar (n % 16)) :: more) = .ok (n, more) := by
    rw [hex4, hzero, hexValue?_digitChar (show n / 16 < 16 by omega),
      hexValue?_digitChar (show n % 16 < 16 by omega)]
    dsimp only
    rw [show ((0 * 16 + 0) * 16 + n / 16) * 16 + n % 16 = n by omega]
  rw [escapedCodePoint, hhex]
  show (if _ then _ else if _ then _ else _) = _
  rw [if_neg (by omega), if_pos (by omega)]
  rfl

/-- How a character is printed. -/
inductive Printed (c : Char) : List Char → Prop
  | escape (e : Char) (he : simpleEscape? (byte e) = some (byte c)) (hascii : e.toNat < 128)
      (hc : c.toNat < 128) : Printed c ['\\', e]
  | control (h : c.toNat < 0x20) : Printed c
      ['\\', 'u', '0', '0', Nat.digitChar (c.toNat / 16), Nat.digitChar (c.toNat % 16)]
  | plain (hquote : c ≠ '"') (hbackslash : c ≠ '\\') (h : 0x20 ≤ c.toNat) : Printed c [c]

theorem printChar_printed (c : Char) : Printed c (printChar c) := by
  have hescape {e d : Char} (hd : c = d) (he : simpleEscape? (byte e) = some (byte d))
      (hascii : e.toNat < 128) (hd' : d.toNat < 128) : Printed c ['\\', e] := by
    subst hd
    exact .escape e he hascii hd'
  unfold printChar
  split
  · exact hescape ‹_› rfl (by decide) (by decide)
  · split
    · exact hescape ‹_› rfl (by decide) (by decide)
    · split
      · exact hescape ‹_› rfl (by decide) (by decide)
      · split
        · exact hescape ‹_› rfl (by decide) (by decide)
        · split
          · exact hescape ‹_› rfl (by decide) (by decide)
          · split
            · exact hescape ‹_› rfl (by decide) (by decide)
            · split
              · exact hescape ‹_› rfl (by decide) (by decide)
              · split
                · exact .control ‹_›
                · exact .plain ‹_› ‹_› (Nat.not_lt.mp ‹_›)

theorem byte_injective {c d : Char} (hc : c.toNat < 128) (hd : d.toNat < 128)
    (h : byte c = byte d) : c = d := by
  have hnat := congrArg UInt8.toNat h
  rw [byte, byte, UInt8.toNat_ofNat', UInt8.toNat_ofNat', Nat.mod_eq_of_lt (by omega),
    Nat.mod_eq_of_lt (by omega)] at hnat
  rw [← Char.ofNat_toNat c, hnat, Char.ofNat_toNat]

theorem isPlain_of_mem {c : Char} (hquote : c ≠ '"') (hbackslash : c ≠ '\\') (h : 0x20 ≤ c.toNat)
    {b : UInt8} (hb : b ∈ String.utf8EncodeChar c) : IsPlain b := by
  by_cases hascii : c.toNat < 128
  · rw [utf8EncodeChar_of_lt hascii, List.mem_singleton] at hb
    subst hb
    refine ⟨fun hb => hquote (byte_injective hascii (by decide) hb),
      fun hb => hbackslash (byte_injective hascii (by decide) hb), ?_⟩
    rw [UInt8.lt_iff_toNat_lt, UInt8.toNat_ofNat', Nat.mod_eq_of_lt (by omega)]
    exact Nat.not_lt.mpr h
  · have hle := le_of_mem_utf8EncodeChar (Nat.not_lt.mp hascii) hb
    refine ⟨?_, ?_, ?_⟩
    · rintro rfl
      exact absurd hle (by decide)
    · rintro rfl
      exact absurd hle (by decide)
    · intro hlt
      exact absurd (Std.lt_of_le_of_lt hle hlt) (by decide)

/-- A character is read as it was printed. -/
theorem stringBytes_printChar (c : Char) (fuel : Nat) (acc more : List UInt8) :
    ∃ fuel' ≥ fuel, stringBytes (fuel + (spell (printChar c)).length) acc
        (spell (printChar c) ++ more) =
      stringBytes fuel' ((String.utf8EncodeChar c).reverse ++ acc) more := by
  have hprinted := printChar_printed c
  generalize printChar c = cs at hprinted
  cases hprinted with
  | escape e he hascii hc =>
    refine ⟨fuel + 1, Nat.le_succ fuel, ?_⟩
    rw [spell_cons_of_lt (by decide), spell_cons_of_lt hascii, utf8EncodeChar_of_lt hc]
    show stringBytes (fuel + 1 + 1) acc (byte '\\' :: byte e :: more) = _
    rw [stringBytes, if_neg (by decide), if_pos rfl, he]
    rfl
  | control h =>
    refine ⟨fuel + 5, Nat.le_add_right fuel 5, ?_⟩
    have hdigit {n : Nat} (hn : n < 16) : (Nat.digitChar n).toNat < 128 := by
      have hall : ∀ n < 16, (Nat.digitChar n).toNat < 128 := by decide
      exact hall n hn
    rw [spell_cons_of_lt (by decide), spell_cons_of_lt (by decide), spell_cons_of_lt (by decide),
      spell_cons_of_lt (by decide), spell_cons_of_lt (hdigit (by omega)),
      spell_cons_of_lt (hdigit (by omega))]
    show stringBytes (fuel + 5 + 1) acc (byte '\\' :: byte 'u' :: byte '0' :: byte '0' ::
      byte (Nat.digitChar (c.toNat / 16)) :: byte (Nat.digitChar (c.toNat % 16)) :: more) = _
    rw [stringBytes, if_neg (by decide), if_pos rfl, show simpleEscape? (byte 'u') = none by decide]
    dsimp only
    rw [if_pos rfl, escapedCodePoint_hex h]
    show stringBytes (fuel + 5) ((String.utf8EncodeChar (Char.ofNat c.toNat)).reverse ++ acc) more = _
    rw [Char.ofNat_toNat]
  | plain hquote hbackslash h =>
    refine ⟨fuel, Nat.le_refl fuel, ?_⟩
    rw [spell_cons, spell_nil, List.append_nil]
    exact stringBytes_plain (fun b hb => isPlain_of_mem hquote hbackslash h hb) fuel acc more

theorem stringBytes_spell (cs : List Char) {fuel : Nat} (acc more : List UInt8)
    (h : (spell (cs.flatMap printChar)).length < fuel) :
    stringBytes fuel acc (spell (cs.flatMap printChar) ++ byte '"' :: more) =
      .ok (acc.reverse ++ spell cs, more) := by
  induction cs generalizing fuel acc with
  | nil =>
    obtain ⟨fuel, rfl⟩ := Nat.exists_eq_succ_of_ne_zero (Nat.ne_of_gt h)
    show stringBytes (fuel + 1) acc (byte '"' :: more) = _
    rw [stringBytes.eq_def]
    dsimp only
    rw [if_pos rfl, spell_nil, List.append_nil]
  | cons c cs ih =>
    rw [List.flatMap_cons, spell_append, List.length_append] at h
    obtain ⟨rest, rfl⟩ : ∃ rest, fuel = rest + (spell (printChar c)).length :=
      ⟨fuel - (spell (printChar c)).length, by omega⟩
    rw [List.flatMap_cons, spell_append, List.append_assoc]
    obtain ⟨fuel', hle, hstep⟩ := stringBytes_printChar c rest acc
      (spell (cs.flatMap printChar) ++ byte '"' :: more)
    rw [hstep, ih _ (by omega), spell_cons]
    simp

/-- A string is read as it was printed. -/
theorem reads_printString (s : String) (rest : List UInt8) :
    Reads readString (spell (printString s) ++ rest) s rest := by
  have hinput : spell (printString s) ++ rest =
      byte '"' :: (spell (s.toList.flatMap printChar) ++ byte '"' :: rest) := by
    rw [printString, List.cons_append, spell_cons_of_lt (by decide), spell_append]
    simp [spell_cons_of_lt (show '"'.toNat < 128 by decide), byte]
  rw [hinput]
  refine (Reads.advance _ _).bind ?_
  have hget (input : List UInt8) : Reads get input input input := rfl
  have hset (after input : List UInt8) : Reads (set after) input () after := rfl
  refine (hget _).bind ?_
  rw [stringBytes_spell s.toList [] rest (by rw [List.length_append, List.length_cons]; omega)]
  dsimp only
  refine (hset rest _).bind ?_
  rw [List.reverse_nil, List.nil_append, ← encode_eq_spell, decode_encode]
  exact Reads.pure s rest

/-! ### Numbers -/

/-- What may stand after a value: nothing, or what ends it. -/
def Ends (rest : List UInt8) : Prop :=
  ∀ b ∈ rest.head?, b = byte ',' ∨ b = byte ']' ∨ b = byte '\x7d'

theorem spell_eq_map {cs : List Char} (h : ∀ c ∈ cs, c.toNat < 128) : spell cs = cs.map byte := by
  induction cs with
  | nil => rfl
  | cons c cs ih =>
    obtain ⟨hc, hrest⟩ := List.forall_mem_cons.mp h
    rw [spell_cons_of_lt hc, ih hrest, List.map_cons]
    rfl

theorem toNat_of_isDigit {c : Char} (h : c.isDigit = true) : 48 ≤ c.toNat ∧ c.toNat ≤ 57 := by
  simpa [Char.isDigit, UInt32.le_iff_toNat_le] using h

theorem toNat_byte {c : Char} (h : c.toNat < 128) : (byte c).toNat = c.toNat := by
  rw [byte, UInt8.toNat_ofNat', Nat.mod_eq_of_lt (by omega)]

theorem isDigit_byte {c : Char} (h : c.isDigit = true) : isDigit (byte c) = true := by
  obtain ⟨hlow, hhigh⟩ := toNat_of_isDigit h
  have hbyte := toNat_byte (show c.toNat < 128 by omega)
  simp only [isDigit, Bool.and_eq_true, decide_eq_true_eq, UInt8.le_iff_toNat_le, hbyte]
  exact ⟨hlow, hhigh⟩

theorem isSpace_of_isDigit {b : UInt8} (h : isDigit b = true) : isSpace b = false := by
  rw [Bool.eq_false_iff]
  intro hspace
  simp only [isSpace, Bool.or_eq_true, decide_eq_true_eq] at hspace
  rcases hspace with ((rfl | rfl) | rfl) | rfl <;> exact absurd h (by decide)

theorem foldl_map_byte {cs : List Char} (h : ∀ c ∈ cs, c.isDigit = true) (start : Nat) :
    (cs.map byte).foldl (fun n d => 10 * n + (d.toNat - 48)) start = Nat.ofDigitChars 10 cs start := by
  induction cs generalizing start with
  | nil => rfl
  | cons c cs ih =>
    obtain ⟨hc, hrest⟩ := List.forall_mem_cons.mp h
    obtain ⟨-, hhigh⟩ := toNat_of_isDigit hc
    rw [List.map_cons, List.foldl_cons, ih hrest, toNat_byte (by omega), Nat.ofDigitChars_cons]
    rfl

theorem le_foldl_digits (digits : List UInt8) (start : Nat) :
    start ≤ digits.foldl (fun n d => 10 * n + (d.toNat - 48)) start := by
  induction digits generalizing start with
  | nil => exact Nat.le_refl start
  | cons d digits ih =>
    have hstep : start ≤ 10 * start + (d.toNat - 48) := by omega
    exact Nat.le_trans hstep (ih _)

/-- No digit is dropped from a number that fits. -/
theorem significand_eq {digits : List UInt8} {start : Nat}
    (h : digits.foldl (fun n d => 10 * n + (d.toNat - 48)) start ≤ greatestSignificand) :
    significand start digits = (digits.foldl (fun n d => 10 * n + (d.toNat - 48)) start, 0) := by
  induction digits generalizing start with
  | nil => rfl
  | cons d digits ih =>
    have hstep : 10 * start + (d.toNat - 48) ≤ greatestSignificand :=
      Nat.le_trans (le_foldl_digits digits _) h
    rw [significand, if_pos hstep]
    exact ih h

/-- Only zero begins with the digit zero. -/
theorem eq_zero_of_head?_toDigits {n : Nat} (h : (Nat.toDigits 10 n).head? = some '0') : n = 0 := by
  induction n using Nat.strongRecOn with
  | ind n ih =>
    by_cases hn : n < 10
    · rw [Nat.toDigits_of_lt_base hn] at h
      have hall : ∀ n < 10, Nat.digitChar n = '0' → n = 0 := by decide
      exact hall n hn (Option.some.inj h)
    · rw [Nat.toDigits_of_base_le (by decide) (Nat.not_lt.mp hn)] at h
      have hzero : n / 10 = 0 := by
        apply ih (n / 10) (by omega)
        obtain ⟨c, cs, hcs⟩ := List.exists_cons_of_ne_nil (Nat.toDigits_ne_nil (n := n / 10) (b := 10))
        rw [hcs] at h ⊢
        exact h
      omega

theorem takeDigits_append {digits : List UInt8} (h : ∀ d ∈ digits, isDigit d = true)
    (hrest : Ends rest) : Reads takeDigits (digits ++ rest) digits rest := by
  have hstop : rest.takeWhile isDigit = [] ∧ rest.dropWhile isDigit = rest := by
    cases rest with
    | nil => exact ⟨rfl, rfl⟩
    | cons b rest =>
      have hb : isDigit b = false := by
        rcases hrest b rfl with rfl | rfl | rfl <;> rfl
      simp [hb]
  show Except.ok ((digits ++ rest).takeWhile isDigit, (digits ++ rest).dropWhile isDigit) = _
  rw [List.takeWhile_append_of_pos h, List.dropWhile_append_of_pos h, hstop.1, hstop.2,
    List.append_nil]

/-- A number is read as its digits were printed. -/
theorem reads_toDigits {negative : Bool} {n : Nat} {value : Integer}
    (hvalue : value.val = if negative then -(n : Int) else n) (hzero : negative = true → n ≠ 0)
    (hrest : Ends rest) :
    Reads (readNumber negative) (spell (Nat.toDigits 10 n) ++ rest) (.integer value) rest := by
  have hdigits : ∀ c ∈ Nat.toDigits 10 n, c.isDigit = true := fun c hc =>
    Nat.isDigit_of_mem_toDigits (by decide) (by decide) hc
  have hascii : ∀ c ∈ Nat.toDigits 10 n, c.toNat < 128 := fun c hc =>
    Nat.lt_of_le_of_lt (toNat_of_isDigit (hdigits c hc)).2 (by decide)
  have hfold := foldl_map_byte hdigits 0
  rw [Nat.ofDigitChars_ten_toDigits] at hfold
  obtain ⟨v, hfits⟩ := value
  dsimp only at hvalue
  subst hvalue
  have hsignificand : significand 0 ((Nat.toDigits 10 n).map byte) = (n, 0) := by
    have hle : n ≤ greatestSignificand := by
      unfold greatestSignificand
      cases negative <;> simp at hfits <;> omega
    rw [← hfold] at hle
    rw [significand_eq hle, hfold]
  have hlead : ¬((Nat.toDigits 10 n).head? = some '0' ∧ 1 < (Nat.toDigits 10 n).length) := by
    rintro ⟨hhead, hlength⟩
    rw [eq_zero_of_head?_toDigits hhead] at hlength
    exact absurd hlength (by decide)
  obtain ⟨c, cs, hcs⟩ := List.exists_cons_of_ne_nil (Nat.toDigits_ne_nil (n := n) (b := 10))
  have htake : Reads takeDigits (spell (Nat.toDigits 10 n) ++ rest) ((Nat.toDigits 10 n).map byte)
      rest := by
    rw [spell_eq_map hascii]
    refine takeDigits_append (List.forall_mem_map.mpr fun c hc => isDigit_byte (hdigits c hc)) hrest
  rw [hcs] at hdigits hascii hlead hsignificand htake ⊢
  have hc : c.toNat < 128 := hascii c (.head _)
  have hdot : rest.head? ≠ some (byte '.') ∧ rest.head? ≠ some (byte 'e') ∧
      rest.head? ≠ some (byte 'E') := by
    refine ⟨?_, ?_, ?_⟩ <;>
      · intro hhead
        rcases hrest _ hhead with hb | hb | hb <;> exact absurd hb (by decide)
  rw [spell_cons_of_lt hc] at htake ⊢
  unfold readNumber
  refine (Reads.peekByte _).bind ?_
  show Reads (if ¬isDigit (byte c) then _ else _) _ _ _
  rw [if_neg (by simp [isDigit_byte (hdigits c (.head _))])]
  refine htake.bind ?_
  rw [if_neg, hsignificand]
  · refine (Reads.peekByte rest).bind ?_
    rw [if_neg hdot.1, if_neg (not_or.mpr hdot.2), if_pos rfl, ofMagnitude]
    rw [dif_pos ⟨fun h => hzero h.1 h.2, hfits⟩]
    exact Reads.pure _ rest
  · rintro ⟨hb, hlength⟩
    rw [List.length_map] at hlength
    exact hlead ⟨congrArg some (byte_injective hc (by decide) hb), hlength⟩

theorem reads_printInt_neg {n : Integer} (h : n.val < 0) (hrest : Ends rest) :
    ∃ digits, spell (printInt n.val) ++ rest = byte '-' :: digits ∧
      Reads (readNumber true) digits (.integer n) rest := by
  refine ⟨spell (Nat.toDigits 10 n.val.natAbs) ++ rest, ?_, ?_⟩
  · rw [printInt, if_pos h, spell_cons_of_lt (by decide)]
    rfl
  · exact reads_toDigits (by simp only [if_true]; omega) (fun _ => by omega) hrest

theorem reads_printInt_nonneg {n : Integer} (h : ¬n.val < 0) (hrest : Ends rest) :
    ∃ b digits, isDigit b = true ∧ spell (printInt n.val) ++ rest = b :: digits ∧
      Reads (readNumber false) (b :: digits) (.integer n) rest := by
  obtain ⟨c, cs, hcs⟩ :=
    List.exists_cons_of_ne_nil (Nat.toDigits_ne_nil (n := n.val.natAbs) (b := 10))
  have hc : c.isDigit = true :=
    Nat.isDigit_of_mem_toDigits (by decide) (by decide) (hcs ▸ List.mem_cons_self)
  have hinput : spell (printInt n.val) ++ rest = byte c :: (spell cs ++ rest) := by
    have hhigh := (toNat_of_isDigit hc).2
    rw [printInt, if_neg h, hcs, spell_cons_of_lt (by omega)]
    rfl
  refine ⟨byte c, spell cs ++ rest, isDigit_byte hc, hinput, ?_⟩
  rw [← hinput, printInt, if_neg h]
  exact reads_toDigits (by simp only [Bool.false_eq_true, if_false]; omega) (by simp) hrest

end ClaimRelay.Json
