import ClaimRelay.Encoding.Base32
import ClaimRelay.Proofs.Encoding.Base64Url

/-! What texts in base 32 look like: symbols of the alphabet, as many as it takes to hold the bits, and then
padding up to a whole group.  Byte strings of one length are never written alike. -/

namespace ClaimRelay.Encoding.Base32

variable {a b c d e a' b' c' d' e' : UInt8} {bytes other : List UInt8}

/-- A capital letter or a digit from two to seven. -/
def InAlphabet (c : Char) : Prop := 'A' ≤ c ∧ c ≤ 'Z' ∨ '2' ≤ c ∧ c ≤ '7'

instance (c : Char) : Decidable (InAlphabet c) := inferInstanceAs (Decidable (_ ∨ _))

theorem symbol_inAlphabet {v : UInt8} (h : v < 32) : InAlphabet (symbol v) := by
  have hall : ∀ n < 32, InAlphabet (symbol (UInt8.ofNat n)) := by decide
  have hv := hall v.toNat (UInt8.lt_iff_toNat_lt.mp h)
  rwa [UInt8.ofNat_toNat] at hv

theorem symbol_injective {v w : UInt8} (hv : v < 32) (hw : w < 32) (h : symbol v = symbol w) : v = w := by
  have hall : ∀ m < 32, ∀ n < 32, symbol (UInt8.ofNat m) = symbol (UInt8.ofNat n) → m = n := by decide
  have heq := hall v.toNat (UInt8.lt_iff_toNat_lt.mp hv) w.toNat (UInt8.lt_iff_toNat_lt.mp hw)
  rw [UInt8.ofNat_toNat, UInt8.ofNat_toNat] at heq
  exact UInt8.toNat_inj.mp (heq h)

/-! ### Groups -/

/-- The five-bit values of five bytes. -/
def quintets (a b c d e : UInt8) : List UInt8 :=
  [a >>> 3, (a &&& 7) <<< 2 ||| b >>> 6, (b >>> 1) &&& 31, (b &&& 1) <<< 4 ||| c >>> 4,
   (c &&& 15) <<< 1 ||| d >>> 7, (d >>> 2) &&& 31, (d &&& 3) <<< 3 ||| e >>> 5, e &&& 31]

theorem quintets_lt (a b c d e : UInt8) : ∀ v ∈ quintets a b c d e, v < 32 := by
  have hmasked : ∀ v ∈ quintets a b c d e, v &&& 31 = v := by
    simp only [quintets, List.forall_mem_cons]
    refine ⟨?_, ?_, ?_, ?_, ?_, ?_, ?_, ?_, by simp⟩ <;> exact eq_of_bits (by simp)
  intro v hv
  exact lt_of_and_eq 31 (hmasked v hv) (by decide)

theorem quintets_injective (h : quintets a b c d e = quintets a' b' c' d' e') :
    a = a' ∧ b = b' ∧ c = c' ∧ d = d' ∧ e = e' := by
  have hread (a b c d e : UInt8) :
      a = (a >>> 3) <<< 3 ||| ((a &&& 7) <<< 2 ||| b >>> 6) >>> 2 ∧
      b = ((a &&& 7) <<< 2 ||| b >>> 6) <<< 6 ||| ((b >>> 1) &&& 31) <<< 1 |||
        ((b &&& 1) <<< 4 ||| c >>> 4) >>> 4 ∧
      c = ((b &&& 1) <<< 4 ||| c >>> 4) <<< 4 ||| ((c &&& 15) <<< 1 ||| d >>> 7) >>> 1 ∧
      d = ((c &&& 15) <<< 1 ||| d >>> 7) <<< 7 ||| ((d >>> 2) &&& 31) <<< 2 |||
        ((d &&& 3) <<< 3 ||| e >>> 5) >>> 3 ∧
      e = ((d &&& 3) <<< 3 ||| e >>> 5) <<< 5 ||| (e &&& 31) := by
    refine ⟨?_, ?_, ?_, ?_, ?_⟩ <;> exact eq_of_bits (by simp)
  simp only [quintets, List.cons.injEq] at h
  obtain ⟨h0, h1, h2, h3, h4, h5, h6, h7, -⟩ := h
  obtain ⟨ha, hb, hc, hd, he⟩ := hread a b c d e
  obtain ⟨ha', hb', hc', hd', he'⟩ := hread a' b' c' d' e'
  rw [h0, h1, ← ha'] at ha
  rw [h1, h2, h3, ← hb'] at hb
  rw [h3, h4, ← hc'] at hc
  rw [h4, h5, h6, ← hd'] at hd
  rw [h6, h7, ← he'] at he
  exact ⟨ha, hb, hc, hd, he⟩

theorem group_eq_map (a b c d e : UInt8) : group a b c d e = (quintets a b c d e).map symbol := rfl

theorem mem_group {s : Char} (h : s ∈ group a b c d e) : InAlphabet s := by
  rw [group_eq_map] at h
  obtain ⟨v, hv, rfl⟩ := List.mem_map.mp h
  exact symbol_inAlphabet (quintets_lt a b c d e v hv)

theorem map_symbol_injective {vs ws : List UInt8} (hvs : ∀ v ∈ vs, v < 32) (hws : ∀ w ∈ ws, w < 32)
    (h : vs.map symbol = ws.map symbol) : vs = ws := by
  induction vs generalizing ws with
  | nil => exact (List.map_eq_nil_iff.mp h.symm).symm
  | cons v vs ih =>
    cases ws with
    | nil => simp at h
    | cons w ws =>
      obtain ⟨hv, hvs⟩ := List.forall_mem_cons.mp hvs
      obtain ⟨hw, hws⟩ := List.forall_mem_cons.mp hws
      rw [List.map_cons, List.map_cons, List.cons.injEq] at h
      rw [symbol_injective hv hw h.1, ih hvs hws h.2]

theorem group_injective (h : group a b c d e = group a' b' c' d' e') :
    a = a' ∧ b = b' ∧ c = c' ∧ d = d' ∧ e = e' :=
  quintets_injective (map_symbol_injective (quintets_lt a b c d e) (quintets_lt a' b' c' d' e') h)

theorem padded_group {used : Nat} (hused : used ≤ 8) (a b c d e : UInt8) :
    ∃ symbols : List Char, symbols.length = used ∧ (∀ s ∈ symbols, InAlphabet s) ∧
      padded used (group a b c d e) = symbols ++ List.replicate (8 - used) '=' := by
  refine ⟨(group a b c d e).take used, ?_, fun s hs => mem_group (List.mem_of_mem_take hs), rfl⟩
  rw [List.length_take, show (group a b c d e).length = 8 from rfl, Nat.min_eq_left hused]

/-- The symbols that padding replaces are those of zeros, so they are the same in every text. -/
theorem padded_injective {used : Nat} {symbols others : List Char}
    (h : padded used symbols = padded used others) (hdrop : symbols.drop used = others.drop used) :
    symbols = others := by
  have htake : symbols.take used = others.take used := List.append_cancel_right h
  rw [← List.take_append_drop used symbols, htake, hdrop, List.take_append_drop]

/-! ### Texts -/

/-- A text is made of symbols that hold the bits, and of padding up to a whole group. -/
theorem encode_eq_append (bytes : List UInt8) :
    ∃ symbols : List Char, symbols.length = (8 * bytes.length + 4) / 5 ∧ (∀ s ∈ symbols, InAlphabet s) ∧
      encode bytes = symbols ++ List.replicate ((8 - symbols.length % 8) % 8) '=' := by
  induction bytes using encode.induct with
  | case1 a b c d e rest ih =>
    obtain ⟨symbols, hlength, hsymbols, htext⟩ := ih
    refine ⟨group a b c d e ++ symbols, ?_, ?_, ?_⟩
    · simp only [List.length_append, List.length_cons, hlength, show (group a b c d e).length = 8 from rfl]
      omega
    · intro s hs
      rcases List.mem_append.mp hs with hs | hs
      · exact mem_group hs
      · exact hsymbols s hs
    · rw [encode, htext, List.append_assoc, List.length_append, show (group a b c d e).length = 8 from rfl,
        Nat.add_mod_left]
  | case2 a b c d =>
    obtain ⟨symbols, hlength, hsymbols, htext⟩ := padded_group (show 7 ≤ 8 by decide) a b c d 0
    exact ⟨symbols, by simp [hlength], hsymbols, by rw [encode, htext, hlength]⟩
  | case3 a b c =>
    obtain ⟨symbols, hlength, hsymbols, htext⟩ := padded_group (show 5 ≤ 8 by decide) a b c 0 0
    exact ⟨symbols, by simp [hlength], hsymbols, by rw [encode, htext, hlength]⟩
  | case4 a b =>
    obtain ⟨symbols, hlength, hsymbols, htext⟩ := padded_group (show 4 ≤ 8 by decide) a b 0 0 0
    exact ⟨symbols, by simp [hlength], hsymbols, by rw [encode, htext, hlength]⟩
  | case5 a =>
    obtain ⟨symbols, hlength, hsymbols, htext⟩ := padded_group (show 2 ≤ 8 by decide) a 0 0 0 0
    exact ⟨symbols, by simp [hlength], hsymbols, by rw [encode, htext, hlength]⟩
  | case6 => exact ⟨[], rfl, by simp, rfl⟩

/-- Byte strings of one length are told apart by their texts. -/
theorem encode_injective (hlength : bytes.length = other.length) (h : encode bytes = encode other) :
    bytes = other := by
  induction bytes using encode.induct generalizing other with
  | case1 a b c d e rest ih =>
    match other, hlength with
    | a' :: b' :: c' :: d' :: e' :: rest', hlength =>
      obtain ⟨hgroup, hrest⟩ := List.append_inj h rfl
      obtain ⟨rfl, rfl, rfl, rfl, rfl⟩ := group_injective hgroup
      rw [ih (by simpa using hlength) hrest]
  | case2 a b c d =>
    match other, hlength with
    | [a', b', c', d'], _ =>
      simp only [encode] at h
      obtain ⟨rfl, rfl, rfl, rfl, -⟩ := group_injective (padded_injective h rfl)
      rfl
  | case3 a b c =>
    match other, hlength with
    | [a', b', c'], _ =>
      simp only [encode] at h
      obtain ⟨rfl, rfl, rfl, -⟩ := group_injective (padded_injective h rfl)
      rfl
  | case4 a b =>
    match other, hlength with
    | [a', b'], _ =>
      simp only [encode] at h
      obtain ⟨rfl, rfl, -⟩ := group_injective (padded_injective h rfl)
      rfl
  | case5 a =>
    match other, hlength with
    | [a'], _ =>
      simp only [encode] at h
      obtain ⟨rfl, -⟩ := group_injective (padded_injective h rfl)
      rfl
  | case6 => exact (List.length_eq_zero_iff.mp hlength.symm).symm

end ClaimRelay.Encoding.Base32
