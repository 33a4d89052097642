import ClaimRelay.Text.Utf8

/-! How characters are spelled in UTF-8, one after another.  An ASCII character is one byte below 128, and
every byte of another character is at least 128. -/

namespace ClaimRelay.Text.Utf8

/-- The bytes of characters. -/
def spell (cs : List Char) : List UInt8 := cs.flatMap String.utf8EncodeChar

theorem encode_ofList (cs : List Char) : encode (String.ofList cs) = spell cs := by
  rw [encode, String.toUTF8_eq_toByteArray, String.toByteArray_ofList, List.utf8Encode,
    List.data_toByteArray]
  rfl

theorem encode_eq_spell (s : String) : encode s = spell s.toList := by
  rw [← encode_ofList, String.ofList_toList]

@[simp] theorem spell_nil : spell [] = [] := rfl

theorem spell_cons (c : Char) (cs : List Char) :
    spell (c :: cs) = String.utf8EncodeChar c ++ spell cs := rfl

@[simp] theorem spell_append (cs ds : List Char) : spell (cs ++ ds) = spell cs ++ spell ds :=
  List.flatMap_append

/-- Every character has at least one byte. -/
theorem length_le_spell (cs : List Char) : cs.length ≤ (spell cs).length := by
  induction cs with
  | nil => exact Nat.le_refl 0
  | cons c cs ih =>
    have hpos := Char.utf8Size_pos c
    rw [spell_cons, List.length_append, List.length_cons, String.length_utf8EncodeChar]
    omega

/-! ### One character -/

theorem utf8EncodeChar_of_lt {c : Char} (h : c.toNat < 128) :
    String.utf8EncodeChar c = [UInt8.ofNat c.toNat] :=
  if_pos (Nat.le_of_lt_succ h)

theorem spell_cons_of_lt {c : Char} (h : c.toNat < 128) (cs : List Char) :
    spell (c :: cs) = UInt8.ofNat c.toNat :: spell cs := by
  rw [spell_cons, utf8EncodeChar_of_lt h]
  rfl

theorem length_spell_of_lt {cs : List Char} (h : ∀ c ∈ cs, c.toNat < 128) :
    (spell cs).length = cs.length := by
  induction cs with
  | nil => rfl
  | cons c cs ih =>
    obtain ⟨hc, hcs⟩ := List.forall_mem_cons.mp h
    rw [spell_cons_of_lt hc, List.length_cons, List.length_cons, ih hcs]

/-- A byte that is the sum of a lead and less than that is at least the lead. -/
theorem le_ofNat_add {n lead : Nat} (hlead : 128 ≤ lead) (hfits : n + lead < 256) :
    128 ≤ UInt8.ofNat (n + lead) := by
  rw [UInt8.le_iff_toNat_le, UInt8.toNat_ofNat', Nat.mod_eq_of_lt hfits]
  exact Nat.le_trans hlead (Nat.le_add_left lead n)

theorem le_of_mem_utf8EncodeChar {c : Char} (h : 128 ≤ c.toNat) {b : UInt8}
    (hb : b ∈ String.utf8EncodeChar c) : 128 ≤ b := by
  have hascii : ¬c.val.toNat ≤ 127 := Nat.not_le.mpr h
  unfold String.utf8EncodeChar at hb
  dsimp only at hb
  rw [if_neg hascii] at hb
  split at hb
  · simp only [List.mem_cons, List.not_mem_nil, or_false] at hb
    rcases hb with rfl | rfl <;> exact le_ofNat_add (by decide) (by omega)
  · split at hb
    · simp only [List.mem_cons, List.not_mem_nil, or_false] at hb
      rcases hb with rfl | rfl | rfl <;> exact le_ofNat_add (by decide) (by omega)
    · simp only [List.mem_cons, List.not_mem_nil, or_false] at hb
      rcases hb with rfl | rfl | rfl | rfl <;> exact le_ofNat_add (by decide) (by omega)

/-! ### ASCII texts -/

/-- The characters of ASCII bytes. -/
def asciiChars (bytes : List UInt8) : List Char := bytes.map fun b => Char.ofNat b.toNat

theorem toNat_ofNat_of_lt {n : Nat} (h : n < 128) : (Char.ofNat n).toNat = n := by
  have hall : ∀ n < 128, (Char.ofNat n).toNat = n := by decide
  exact hall n h

theorem spell_asciiChars {bytes : List UInt8} (h : ∀ b ∈ bytes, b < 128) :
    spell (asciiChars bytes) = bytes := by
  induction bytes with
  | nil => rfl
  | cons b rest ih =>
    obtain ⟨hb, hrest⟩ := List.forall_mem_cons.mp h
    have hchar : (Char.ofNat b.toNat).toNat = b.toNat :=
      toNat_ofNat_of_lt (UInt8.lt_iff_toNat_lt.mp hb)
    show spell (Char.ofNat b.toNat :: asciiChars rest) = b :: rest
    rw [spell_cons_of_lt (by rw [hchar]; exact UInt8.lt_iff_toNat_lt.mp hb), hchar, ih hrest,
      UInt8.ofNat_toNat]

end ClaimRelay.Text.Utf8
