import ClaimRelay.Encoding.Base64Url

/-! Reading a text in base 64 gives the bytes that were written.  Writing goes through six-bit values,
which `sextets` lists, and reading goes back through the same ones. -/

namespace ClaimRelay.Encoding

theorem eq_of_bits {x y : UInt8}
    (h : x.toBitVec[0] = y.toBitVec[0] ∧ x.toBitVec[1] = y.toBitVec[1] ∧
      x.toBitVec[2] = y.toBitVec[2] ∧ x.toBitVec[3] = y.toBitVec[3] ∧
      x.toBitVec[4] = y.toBitVec[4] ∧ x.toBitVec[5] = y.toBitVec[5] ∧
      x.toBitVec[6] = y.toBitVec[6] ∧ x.toBitVec[7] = y.toBitVec[7]) : x = y := by
  obtain ⟨h0, h1, h2, h3, h4, h5, h6, h7⟩ := h
  apply UInt8.eq_of_toBitVec_eq
  ext i hi
  have hcases : i = 0 ∨ i = 1 ∨ i = 2 ∨ i = 3 ∨ i = 4 ∨ i = 5 ∨ i = 6 ∨ i = 7 := by omega
  rcases hcases with rfl | rfl | rfl | rfl | rfl | rfl | rfl | rfl <;> assumption

theorem lt_of_and_eq {v bound : UInt8} (mask : UInt8) (h : v &&& mask = v) (hmask : mask < bound) :
    v < bound := by
  rw [← h]
  exact UInt8.lt_of_le_of_lt UInt8.and_le_right hmask

namespace Base64Url

/-- The six-bit values that a byte string is written as. -/
def sextets : List UInt8 → List UInt8
  | a :: b :: c :: rest =>
    (a >>> 2) :: ((a &&& 3) <<< 4 ||| b >>> 4) :: ((b &&& 15) <<< 2 ||| c >>> 6) :: (c &&& 63) ::
      sextets rest
  | [a, b] => [a >>> 2, (a &&& 3) <<< 4 ||| b >>> 4, (b &&& 15) <<< 2]
  | [a] => [a >>> 2, (a &&& 3) <<< 4]
  | [] => []

theorem encode_eq_map (bytes : List UInt8) : encode bytes = (sextets bytes).map symbol := by
  induction bytes using sextets.induct with
  | case1 a b c rest ih => simp [encode, sextets, ih]
  | case2 a b => rfl
  | case3 a => rfl
  | case4 => rfl

/-! ### Bits -/

theorem first_byte (a b : UInt8) :
    (a >>> 2) <<< 2 ||| ((a &&& 3) <<< 4 ||| b >>> 4) >>> 4 = a := by
  apply eq_of_bits
  simp

theorem second_byte (a b c : UInt8) :
    ((a &&& 3) <<< 4 ||| b >>> 4) <<< 4 ||| ((b &&& 15) <<< 2 ||| c >>> 6) >>> 2 = b := by
  apply eq_of_bits
  simp

theorem third_byte (b c : UInt8) : ((b &&& 15) <<< 2 ||| c >>> 6) <<< 6 ||| (c &&& 63) = c := by
  apply eq_of_bits
  simp

theorem last_of_one (a : UInt8) :
    (a >>> 2) <<< 2 ||| ((a &&& 3) <<< 4) >>> 4 = a ∧ (a &&& 3) <<< 4 &&& 15 = 0 := by
  constructor
  · apply eq_of_bits
    simp
  · apply eq_of_bits
    simp

theorem last_of_two (a b : UInt8) :
    ((a &&& 3) <<< 4 ||| b >>> 4) <<< 4 ||| ((b &&& 15) <<< 2) >>> 2 = b ∧
      (b &&& 15) <<< 2 &&& 3 = 0 := by
  constructor
  · apply eq_of_bits
    simp
  · apply eq_of_bits
    simp

theorem pack_sextets (bytes : List UInt8) : pack (sextets bytes) = some bytes := by
  induction bytes using sextets.induct with
  | case1 a b c rest ih => simp [sextets, pack, ih, first_byte, second_byte, third_byte]
  | case2 a b => simp [sextets, pack, first_byte, last_of_two a b]
  | case3 a => simp [sextets, pack, last_of_one a]
  | case4 => rfl

/-! ### Symbols -/

theorem sextets_lt (bytes : List UInt8) : ∀ v ∈ sextets bytes, v < 64 := by
  have hfirst (a : UInt8) : a >>> 2 < 64 :=
    lt_of_and_eq 63 (eq_of_bits (by simp)) (by decide)
  have hsecond (a b : UInt8) : (a &&& 3) <<< 4 ||| b >>> 4 < 64 :=
    lt_of_and_eq 63 (eq_of_bits (by simp)) (by decide)
  have hthird (b c : UInt8) : (b &&& 15) <<< 2 ||| c >>> 6 < 64 :=
    lt_of_and_eq 63 (eq_of_bits (by simp)) (by decide)
  have hfourth (c : UInt8) : c &&& 63 < 64 :=
    lt_of_and_eq 63 (eq_of_bits (by simp)) (by decide)
  have hsingle (a : UInt8) : (a &&& 3) <<< 4 < 64 :=
    lt_of_and_eq 63 (eq_of_bits (by simp)) (by decide)
  have hdouble (b : UInt8) : (b &&& 15) <<< 2 < 64 :=
    lt_of_and_eq 63 (eq_of_bits (by simp)) (by decide)
  induction bytes using sextets.induct with
  | case1 a b c rest ih =>
    simp only [sextets, List.forall_mem_cons]
    exact ⟨hfirst a, hsecond a b, hthird b c, hfourth c, ih⟩
  | case2 a b => simp [sextets, hfirst, hsecond, hdouble]
  | case3 a => simp [sextets, hfirst, hsingle]
  | case4 => simp [sextets]

/-- A symbol is an ASCII letter or digit, a hyphen or a low line, and has the value that it is for. -/
theorem symbol_symbols {v : UInt8} (h : v < 64) :
    value? (symbol v) = some v ∧ symbol v < 128 ∧ symbol v ≠ 0x2E ∧ symbol v ≠ 0x3D ∧
      0x20 < symbol v := by
  have hall : ∀ n < 64, value? (symbol (UInt8.ofNat n)) = some (UInt8.ofNat n) ∧
      symbol (UInt8.ofNat n) < 128 ∧ symbol (UInt8.ofNat n) ≠ 0x2E ∧
      symbol (UInt8.ofNat n) ≠ 0x3D ∧ 0x20 < symbol (UInt8.ofNat n) := by decide
  have hv := hall v.toNat (UInt8.lt_iff_toNat_lt.mp h)
  rwa [UInt8.ofNat_toNat] at hv

theorem mem_encode {bytes : List UInt8} {b : UInt8} (h : b ∈ encode bytes) :
    (value? b).isSome ∧ b < 128 ∧ b ≠ 0x2E ∧ b ≠ 0x3D ∧ 0x20 < b := by
  rw [encode_eq_map] at h
  obtain ⟨v, hv, rfl⟩ := List.mem_map.mp h
  obtain ⟨hvalue, hrest⟩ := symbol_symbols (sextets_lt bytes v hv)
  exact ⟨by simp [hvalue], hrest⟩

theorem filterMap_symbols {vs : List UInt8} (h : ∀ v ∈ vs, v < 64) :
    (vs.map symbol).filterMap value? = vs := by
  induction vs with
  | nil => rfl
  | cons v rest ih =>
    obtain ⟨hv, hrest⟩ := List.forall_mem_cons.mp h
    rw [List.map_cons, List.filterMap_cons, (symbol_symbols hv).1]
    exact congrArg (v :: ·) (ih hrest)

/-! ### Reading -/

theorem firstBad_eq_none {text : List UInt8} (h : ∀ b ∈ text, (value? b).isSome) (offset : Nat) :
    firstBad offset text = none := by
  induction text generalizing offset with
  | nil => rfl
  | cons b rest ih =>
    obtain ⟨hb, hrest⟩ := List.forall_mem_cons.mp h
    rw [firstBad, if_pos hb]
    exact ih hrest (offset + 1)

theorem length_encode_mod (bytes : List UInt8) : (encode bytes).length % 4 ≠ 1 := by
  induction bytes using encode.induct with
  | case1 a b c rest ih =>
    simp only [encode, List.length_cons]
    omega
  | case2 a b => simp [encode]
  | case3 a => simp [encode]
  | case4 => simp [encode]

/-- What is read is what was written. -/
theorem decode_encode (bytes : List UInt8) : decode (encode bytes) = .ok bytes := by
  have hvalues : (encode bytes).filterMap value? = sextets bytes := by
    rw [encode_eq_map]
    exact filterMap_symbols (sextets_lt bytes)
  have hlength := length_encode_mod bytes
  have hgood : firstBad 0 (encode bytes) = none := firstBad_eq_none (fun b hb => (mem_encode hb).1) 0
  unfold decode
  dsimp only
  split
  · rename_i hnone
    rw [List.getLast?_eq_none_iff] at hnone
    rw [hnone] at hvalues
    have hpack := pack_sextets bytes
    rw [← hvalues] at hpack
    exact congrArg Except.ok (Option.some.inj hpack)
  · rw [if_neg (fun h => hlength h.1), hgood]
    dsimp only
    rw [if_neg hlength, hvalues, pack_sextets]

end Base64Url

end ClaimRelay.Encoding
