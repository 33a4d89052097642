/-! Texts as bytes.  `encode` writes a text in UTF-8, and `decode` reads back exactly the byte
strings that `encode` writes. -/

namespace ClaimRelay.Text.Utf8

/-- The bytes of a text. -/
def encode (s : String) : List UInt8 := s.toUTF8.data.toList

/-- The text that `bytes` encodes, if they are well-formed UTF-8. -/
def decode (bytes : List UInt8) : Option String := String.fromUTF8? bytes.toByteArray

theorem decode_encode (s : String) : decode (encode s) = some s := by
  have bytes : (encode s).toByteArray = s.toUTF8 := by
    apply ByteArray.ext
    rw [encode, List.data_toByteArray, Array.toArray_toList]
  rw [decode, bytes, String.fromUTF8?, String.toUTF8_eq_toByteArray, dif_pos s.isValidUTF8]
  rfl

theorem encode_of_decode {bytes : List UInt8} {s : String} (h : decode bytes = some s) :
    encode s = bytes := by
  unfold decode String.fromUTF8? at h
  split at h
  · rw [Option.some.injEq] at h
    subst h
    simp [encode, String.fromUTF8, List.data_toByteArray]
  · contradiction

/-- A byte string is read as `s` exactly when it is what `s` is written as. -/
theorem decode_eq_some_iff {bytes : List UInt8} {s : String} :
    decode bytes = some s ↔ bytes = encode s :=
  ⟨fun h => (encode_of_decode h).symm, fun h => h ▸ decode_encode s⟩

end ClaimRelay.Text.Utf8
