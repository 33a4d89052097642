import ClaimRelay.Claim.HashId
import ClaimRelay.Proofs.Claim.Document
import ClaimRelay.Proofs.Encoding.Base64Url
import ClaimRelay.Proofs.Token.Envelope

/-! A token that carries a claim is read back as that claim.  The segments of a token are ASCII and hold
neither a period nor white space, so they are found again, and the document in the second one is the one
that the claim was written as. -/

namespace ClaimRelay.Token

open Text.Utf8

/-! ### Segments -/

/-- A byte of a segment: a visible ASCII character that is no period. -/
def InSegment (b : UInt8) : Prop := 0x20 < b ∧ b < 128 ∧ b ≠ 0x2E

instance (b : UInt8) : Decidable (InSegment b) := inferInstanceAs (Decidable (_ ∧ _))

variable {bytes : List UInt8} {σ : Type}

theorem inSegment_of_mem {b : UInt8} (h : b ∈ Encoding.Base64Url.encode bytes) : InSegment b := by
  obtain ⟨-, hascii, hperiod, -, hvisible⟩ := Encoding.Base64Url.mem_encode h
  exact ⟨hvisible, hascii, hperiod⟩

theorem inSegment_signature : ∀ b ∈ Text.Utf8.encode signature, InSegment b := by decide +kernel

theorem not_mem_asciiChars {c : Char} (hascii : ∀ b ∈ bytes, b < 128)
    (h : ∀ b ∈ bytes, b.toNat ≠ c.toNat) : c ∉ asciiChars bytes := by
  intro hc
  obtain ⟨b, hb, rfl⟩ := List.mem_map.mp hc
  exact h b hb (toNat_ofNat_of_lt (UInt8.lt_iff_toNat_lt.mp (hascii b hb))).symm

theorem period_not_mem (h : ∀ b ∈ bytes, InSegment b) : '.' ∉ asciiChars bytes := by
  apply not_mem_asciiChars fun b hb => (h b hb).2.1
  intro b hb hperiod
  exact (h b hb).2.2 (UInt8.toNat_inj.mp hperiod)

theorem not_isBlank_asciiChars (h : ∀ b ∈ bytes, InSegment b) :
    ∀ c ∈ asciiChars bytes, Text.isBlank c = false := by
  intro c hc
  obtain ⟨b, hb, rfl⟩ := List.mem_map.mp hc
  obtain ⟨hvisible, hascii, -⟩ := h b hb
  have hchar := toNat_ofNat_of_lt (UInt8.lt_iff_toNat_lt.mp hascii)
  apply Text.isBlank_of_visible
  · rw [hchar]
    exact UInt8.lt_iff_toNat_lt.mp hvisible
  · rw [hchar]
    exact UInt8.lt_iff_toNat_lt.mp hascii

/-- Three segments are found in the token that they make. -/
theorem segments_join {first second third : List UInt8} (hfirst : ∀ b ∈ first, InSegment b)
    (hsecond : ∀ b ∈ second, InSegment b) (hthird : ∀ b ∈ third, InSegment b) :
    segments (first ++ 0x2E :: second ++ 0x2E :: third) = .ok (asciiChars first, asciiChars second) := by
  have hascii : ∀ b ∈ first ++ 0x2E :: second ++ 0x2E :: third, b < 128 := by
    simp only [List.mem_append, List.mem_cons]
    rintro b ((hb | rfl | hb) | rfl | hb)
    · exact (hfirst b hb).2.1
    · decide
    · exact (hsecond b hb).2.1
    · decide
    · exact (hthird b hb).2.1
  have htext : asciiChars (first ++ 0x2E :: second ++ 0x2E :: third) =
      [] ++ (asciiChars first ++ '.' :: (asciiChars second ++ '.' :: (asciiChars third ++ []))) := by
    simp [asciiChars]
  rw [← spell_asciiChars hascii, htext, ← encode_ofList,
    segments_of_text (by simp) (by simp) (period_not_mem hfirst) (period_not_mem hsecond)
      (period_not_mem hthird),
    Text.trimStart_eq_self (not_isBlank_asciiChars hfirst)]

/-- A segment holds no padding, so nothing is dropped from its end. -/
theorem segmentBytes_encode (segment : Segment) (bytes : List UInt8) :
    segmentBytes segment (asciiChars (Encoding.Base64Url.encode bytes)) = .ok bytes := by
  have hascii : ∀ b ∈ Encoding.Base64Url.encode bytes, b < 128 := fun b hb => (inSegment_of_mem hb).2.1
  have hpadding : '=' ∉ asciiChars (Encoding.Base64Url.encode bytes) := by
    apply not_mem_asciiChars hascii
    intro b hb heq
    exact (Encoding.Base64Url.mem_encode hb).2.2.2.1 (UInt8.toNat_inj.mp heq)
  have hdrop : Text.dropSuffix (· = '=') (asciiChars (Encoding.Base64Url.encode bytes)) =
      asciiChars (Encoding.Base64Url.encode bytes) := by
    apply Text.dropSuffix_eq_self
    intro c hc
    exact decide_eq_false (ne_of_mem_of_not_mem hc hpadding)
  unfold segmentBytes
  dsimp only
  rw [hdrop, encode_ofList, spell_asciiChars hascii, Encoding.Base64Url.decode_encode]

/-- The header of a token is read as that of a JWT, and the claim is read from its document. -/
theorem readClaim_encode {schema : Json.Schema σ} {start record : σ} {claims : Json}
    (h : schema.readDocument start claims.bytes = .ok record) :
    readClaim schema start (encode claims) = .ok record := by
  have hsegments : segments (encode claims) =
      .ok (asciiChars (Encoding.Base64Url.encode (Text.Utf8.encode header)),
        asciiChars (Encoding.Base64Url.encode claims.bytes)) :=
    segments_join (fun _ => inSegment_of_mem) (fun _ => inSegment_of_mem) inSegment_signature
  have hheader : headerSchema.readDocument "" (Text.Utf8.encode header) = .ok "jwt" := rfl
  have hjwt : isJwt "jwt" = true := by decide
  rw [readClaim, hsegments]
  simp only [bind, Except.bind, readSegment, segmentBytes_encode]
  rw [hheader]
  dsimp only
  rw [if_pos hjwt, h]

theorem exists_of_bind {α β : Type} {x : Except Error α} {f : α → Except Error β} {b : β}
    (h : x >>= f = .ok b) : ∃ a, x = .ok a ∧ f a = .ok b := by
  cases x with
  | error e => contradiction
  | ok a => exact ⟨a, rfl, h⟩

/-- The bytes of the claim segment. -/
def payload (token : List UInt8) : Except Error (List UInt8) := do
  let (_, payload) ← segments token
  segmentBytes .payload payload

/-- A claim that was read was read from the payload. -/
theorem exists_readDocument {schema : Json.Schema σ} {start record : σ} {token : List UInt8}
    (h : readClaim schema start token = .ok record) :
    ∃ bytes, payload token = .ok bytes ∧ schema.readDocument start bytes = .ok record := by
  obtain ⟨⟨headerText, payloadText⟩, hsegments, h⟩ := exists_of_bind h
  obtain ⟨type, -, h⟩ := exists_of_bind h
  split at h
  · obtain ⟨bytes, hbytes, h⟩ := exists_of_bind h
    refine ⟨bytes, ?_, ?_⟩
    · rw [payload, hsegments]
      exact hbytes
    · cases hread : schema.readDocument start bytes with
      | error e => simp [hread] at h
      | ok found => simpa [hread] using h
  · contradiction

/-! ### Claims -/

variable {α : Type} {x : Except Error α} {kind : α → Option String} {expected : String} {claim : α}

theorem checkKind_eq_ok {declared : Option String} :
    checkKind expected declared = .ok () ↔ declared = none ∨ declared = some expected := by
  cases declared with
  | none => simp [checkKind]
  | some found => simp [checkKind]

/-- A claim passes if it declares the expected kind or none. -/
theorem checked_eq_ok :
    (do let claim ← x; checkKind expected (kind claim); return claim) = .ok claim ↔
      x = .ok claim ∧ (kind claim = none ∨ kind claim = some expected) := by
  rw [← checkKind_eq_ok]
  constructor
  · intro h
    obtain ⟨found, hx, h⟩ := exists_of_bind h
    obtain ⟨⟨⟩, hkind, hlast⟩ := exists_of_bind h
    obtain rfl := Except.ok.inj hlast
    exact ⟨hx, hkind⟩
  · rintro ⟨rfl, hkind⟩
    show (checkKind expected (kind claim) >>= fun _ => pure claim) = _
    rw [hkind]
    rfl

/-- What a token can carry of an account claim.  The members of an object are in the order of their names,
as they are wherever an object is read. -/
structure Encodable (c : AccountClaim) : Prop where
  kind : AccountClaim.declaredKind c = none ∨ AccountClaim.declaredKind c = some "account"
  ne_null : c.details ≠ some .null
  exact : ∀ v ∈ c.details, v.IsExact
  ordered : ∀ v ∈ c.details, v.IsOrdered
  depth_le : (AccountClaim.toJson c).depth ≤ 127

theorem Encodable.sound {c : AccountClaim} (h : Encodable c) :
    Json.SoundOption (Json.nestingLimit - 1) c.details := by
  intro v hv
  refine ⟨⟨h.ordered v hv, ?_⟩, fun hnull => h.ne_null (hnull ▸ hv)⟩
  exact Nat.lt_succ_of_le (Claim.account_depth_le.mp h.depth_le v hv)

theorem decodeAccount_encode {c : AccountClaim} (h : Encodable c) :
    decodeAccount (encode (AccountClaim.toJson c)) = .ok c := by
  apply checked_eq_ok.mpr
  exact ⟨readClaim_encode (Claim.accountSchema_reads h.exact h.sound), h.kind⟩

theorem decodeActivation_encode {c : ActivationClaim}
    (h : ActivationClaim.declaredKind c = none ∨ ActivationClaim.declaredKind c = some "activation") :
    decodeActivation (encode (ActivationClaim.toJson c)) = .ok c := by
  apply checked_eq_ok.mpr
  exact ⟨readClaim_encode (Claim.activationSchema_reads c), h⟩

/-- What a token carries, a token can carry. -/
theorem encodable_of_decodeAccount {token : List UInt8} {c : AccountClaim}
    (h : decodeAccount token = .ok c) (hexact : ∀ v ∈ c.details, v.IsExact) : Encodable c := by
  obtain ⟨hread, hkind⟩ := checked_eq_ok.mp h
  obtain ⟨bytes, -, hdocument⟩ := exists_readDocument hread
  have hsound := Claim.accountSchema_sound hdocument
  refine ⟨hkind, fun hnull => (hsound .null hnull).2 rfl, hexact, fun v hv => (hsound v hv).1.ordered, ?_⟩
  exact Claim.account_depth_le.mpr fun v hv => Nat.le_of_lt_succ (hsound v hv).1.depth_lt

/-- Reading a token undoes writing it, for every claim that a token can carry.  A claim that was read is one
of them, if it has no double in its section, so it survives being written and read again. -/
theorem reading_undoes_writing :
    (∀ c : AccountClaim, Encodable c → decodeAccount (encode (AccountClaim.toJson c)) = .ok c) ∧
    (∀ c : ActivationClaim,
      ActivationClaim.declaredKind c = none ∨ ActivationClaim.declaredKind c = some "activation" →
        decodeActivation (encode (ActivationClaim.toJson c)) = .ok c ∧
        (decodeActivation (encode (ActivationClaim.toJson c))).map ActivationClaim.hashId =
          .ok (ActivationClaim.hashId c)) ∧
    (∀ (token : List UInt8) (c : AccountClaim), decodeAccount token = .ok c →
      (∀ v ∈ c.details, v.IsExact) →
        Encodable c ∧ decodeAccount (encode (AccountClaim.toJson c)) = .ok c) ∧
    (∀ (token : List UInt8) (c : ActivationClaim), decodeActivation token = .ok c →
      (ActivationClaim.declaredKind c = none ∨ ActivationClaim.declaredKind c = some "activation") ∧
        decodeActivation (encode (ActivationClaim.toJson c)) = .ok c) := by
  refine ⟨fun c hc => decodeAccount_encode hc, fun c hc => ?_, fun token c h hexact => ?_,
    fun token c h => ?_⟩
  · have hread := decodeActivation_encode hc
    refine ⟨hread, ?_⟩
    rw [hread]
    rfl
  · have hc := encodable_of_decodeAccount h hexact
    exact ⟨hc, decodeAccount_encode hc⟩
  · obtain ⟨-, hkind⟩ := checked_eq_ok.mp h
    exact ⟨hkind, decodeActivation_encode hkind⟩

/-- An account claim with names that are escaped, a section of its own and times at both ends. -/
def nestedAccount : AccountClaim where
  subject := "AC\"C\\\n\x01"
  issuer := "OPÉRATEUR 😀"
  issuedAt := Int64.minValue
  expires := Int64.maxValue
  name := ""
  details := some (.object [("limits", .array [.integer ⟨-1, by decide⟩, .null, .object []]),
    ("type", .string "account")])

/-- An activation claim that declares its kind in the section of the import. -/
def streamActivation : ActivationClaim where
  subject := "IMPORTER"
  issuer := "EXPORTER"
  details := { subject := "orders.>", kind := "stream", declared := some "activation" }

theorem nestedAccount_encodable : Encodable nestedAccount where
  kind := by decide
  ne_null := by simp [nestedAccount]
  exact := by decide
  ordered := by decide
  depth_le := Claim.account_depth_le.mpr (by decide)

theorem nestedAccount_survives :
    decodeAccount (encode (AccountClaim.toJson nestedAccount)) = .ok nestedAccount ∧
      Encodable nestedAccount ∧
      (decodeActivation (encode (ActivationClaim.toJson streamActivation))).map
        ActivationClaim.hashId = .ok (ActivationClaim.hashId streamActivation) ∧
      decodeActivation (encode (ActivationClaim.toJson streamActivation)) = .ok streamActivation := by
  obtain ⟨haccount, hactivation, hreadAccount, hreadActivation⟩ := reading_undoes_writing
  have hfirst := haccount nestedAccount nestedAccount_encodable
  obtain ⟨hsecond, hhash⟩ := hactivation streamActivation (by decide)
  exact ⟨hfirst, (hreadAccount _ _ hfirst nestedAccount_encodable.exact).1, hhash,
    (hreadActivation _ _ hsecond).2⟩

end ClaimRelay.Token
