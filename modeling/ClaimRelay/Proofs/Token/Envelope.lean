import ClaimRelay.Ingest
import Mathlib.Data.List.Basic

/-! What a token says depends on its header and its claim alone.  Blank characters around the token, padding
at the end of a segment and the signature are taken off before anything is read, so no result and no error
tells how a token was wrapped. -/

namespace ClaimRelay.Token

/-! ### Segments -/

section Segments

variable {before header payload signature after : List Char}
  (hbefore : ∀ c ∈ before, Text.isBlank c = true) (hafter : ∀ c ∈ after, Text.isBlank c = true)
  (hheader : '.' ∉ header) (hpayload : '.' ∉ payload) (hsignature : '.' ∉ signature)

include hbefore hafter hheader hpayload hsignature

/-- The first segment loses the blank characters in front of it, and the second is left as it stands. -/
theorem segments_of_text :
    segments (Text.Utf8.encode (String.ofList
        (before ++ (header ++ '.' :: (payload ++ '.' :: (signature ++ after)))))) =
      .ok (Text.trimStart header, payload) := by
  have hperiod : Text.isBlank '.' = false := by decide
  have hstops (rest : List Char) : Text.trimStart ('.' :: rest) = '.' :: rest :=
    List.dropWhile_cons_of_neg (by simp [hperiod])
  have htrim : Text.trim (before ++ (header ++ '.' :: (payload ++ '.' :: (signature ++ after)))) =
      Text.trimStart header ++ '.' :: (payload ++ '.' :: Text.dropSuffix Text.isBlank signature) := by
    rw [Text.trim, Text.trimStart_append hbefore, Text.trimStart_append_of_eq (hstops _),
      Text.dropSuffix_append_cons hperiod, Text.dropSuffix_append_cons hperiod,
      Text.dropSuffix_append hafter]
  have hfirst : '.' ∉ Text.trimStart header := fun h => hheader (Text.mem_of_mem_trimStart h)
  have hlast : '.' ∉ Text.dropSuffix Text.isBlank signature :=
    fun h => hsignature (Text.mem_of_mem_dropSuffix h)
  unfold segments
  rw [Text.Utf8.decode_encode]
  dsimp only
  rw [String.toList_ofList, htrim, Text.split_append hfirst, Text.split_append hpayload,
    Text.split_of_not_mem hlast]

end Segments

/-! ### Padding -/

theorem period_not_mem_padded {cs : List Char} (h : '.' ∉ cs) (count : Nat) :
    '.' ∉ cs ++ List.replicate count '=' := by
  rw [List.mem_append, not_or]
  refine ⟨h, fun hmem => ?_⟩
  exact absurd (List.eq_of_mem_replicate hmem) (by decide)

theorem segmentBytes_padded (segment : Segment) (text : List Char) (count : Nat) :
    segmentBytes segment (text ++ List.replicate count '=') = segmentBytes segment text := by
  have hpadding : ∀ c ∈ List.replicate count '=', decide (c = '=') = true := by
    intro c hc
    exact decide_eq_true (List.eq_of_mem_replicate hc)
  unfold segmentBytes
  rw [Text.dropSuffix_append hpadding]

/-- Blank characters in front of the padding of an empty segment are gone as well. -/
theorem trimStart_padded (text : List Char) (count : Nat) :
    Text.trimStart (text ++ List.replicate count '=') =
      Text.trimStart text ++ List.replicate count '=' := by
  apply Text.trimStart_append_of_eq
  unfold Text.trimStart
  rw [List.dropWhile_replicate, if_neg (by decide)]

theorem readSegment_congr {σ : Type} {segment : Segment} {text text' : List Char}
    (h : segmentBytes segment text = segmentBytes segment text') (schema : Json.Schema σ) (start : σ) :
    readSegment segment schema start text = readSegment segment schema start text' := by
  unfold readSegment
  rw [h]

/-- What is read from a token is read from the bytes of its two segments. -/
theorem readClaim_congr {σ : Type} {token token' : List UInt8} {header header' payload payload' : List Char}
    (h : segments token = .ok (header, payload)) (h' : segments token' = .ok (header', payload'))
    (hheader : segmentBytes .header header = segmentBytes .header header')
    (hpayload : segmentBytes .payload payload = segmentBytes .payload payload')
    (schema : Json.Schema σ) (start : σ) :
    readClaim schema start token = readClaim schema start token' := by
  unfold readClaim
  rw [h, h']
  simp only [bind, Except.bind]
  rw [readSegment_congr hheader, readSegment_congr hpayload]

/-! ### Wrapped tokens -/

/-- A token with its signature and what may stand around its parts. -/
structure Envelope where
  before : String := ""
  headerPadding : Nat := 0
  payloadPadding : Nat := 0
  signature : String := ""
  after : String := ""

/-- The bytes of a token in an envelope. -/
def Envelope.wrap (e : Envelope) (header payload : String) : List UInt8 :=
  Text.Utf8.encode (e.before ++ header ++ String.ofList (List.replicate e.headerPadding '=') ++ "." ++
    payload ++ String.ofList (List.replicate e.payloadPadding '=') ++ "." ++ e.signature ++ e.after)

/-- The signature is one segment, and white space alone stands around the token. -/
structure Envelope.IsPlain (e : Envelope) : Prop where
  blank_before : ∀ c ∈ e.before.toList, Text.isBlank c = true
  blank_after : ∀ c ∈ e.after.toList, Text.isBlank c = true
  one_segment : '.' ∉ e.signature.toList

section Wrapped

variable {e e' : Envelope} {header payload : String} (hplain : e.IsPlain) (hplain' : e'.IsPlain)
  (hheader : '.' ∉ header.toList) (hpayload : '.' ∉ payload.toList)

include hplain hheader hpayload

theorem segments_wrap :
    segments (e.wrap header payload) =
      .ok (Text.trimStart header.toList ++ List.replicate e.headerPadding '=',
        payload.toList ++ List.replicate e.payloadPadding '=') := by
  have hsegments := segments_of_text hplain.blank_before hplain.blank_after
    (period_not_mem_padded hheader e.headerPadding) (period_not_mem_padded hpayload e.payloadPadding)
    hplain.one_segment
  rw [trimStart_padded] at hsegments
  rw [← hsegments]
  refine congrArg (fun text => segments (Text.Utf8.encode text)) ?_
  apply String.toList_injective
  simp

include hplain'

theorem readClaim_wrap {σ : Type} (schema : Json.Schema σ) (start : σ) :
    readClaim schema start (e.wrap header payload) = readClaim schema start (e'.wrap header payload) := by
  apply readClaim_congr (segments_wrap hplain hheader hpayload) (segments_wrap hplain' hheader hpayload)
  · rw [segmentBytes_padded, segmentBytes_padded]
  · rw [segmentBytes_padded, segmentBytes_padded]

theorem decodeAccount_wrap :
    decodeAccount (e.wrap header payload) = decodeAccount (e'.wrap header payload) := by
  unfold decodeAccount
  rw [readClaim_wrap hplain hplain' hheader hpayload]

theorem decodeActivation_wrap :
    decodeActivation (e.wrap header payload) = decodeActivation (e'.wrap header payload) := by
  unfold decodeActivation
  rw [readClaim_wrap hplain hplain' hheader hpayload]

end Wrapped

/-- A bare token has no white space around it and no padding. -/
theorem wrap_signature (header payload signature : String) :
    ({ signature } : Envelope).wrap header payload =
      Text.Utf8.encode (header ++ "." ++ payload ++ "." ++ signature) := by
  refine congrArg Text.Utf8.encode ?_
  apply String.toList_injective
  simp

theorem isPlain_signature {signature : String} (h : '.' ∉ signature.toList) :
    ({ signature } : Envelope).IsPlain :=
  ⟨by simp, by simp, h⟩

/-- White space around a token, padding and the signature never change what is read from it.  The claim is
the same, or the error, for both kinds of claim, and so is the id under which a notification that brings
the token is saved, or the reason for which it is dropped. -/
theorem decoding_ignores_envelope {e : Envelope} {header payload signature : String} (hplain : e.IsPlain)
    (hheader : '.' ∉ header.toList) (hpayload : '.' ∉ payload.toList)
    (hsignature : '.' ∉ signature.toList) :
    let bare := Text.Utf8.encode (header ++ "." ++ payload ++ "." ++ signature)
    decodeAccount (e.wrap header payload) = decodeAccount bare ∧
    decodeActivation (e.wrap header payload) = decodeActivation bare ∧
    ∀ kind, Ingest.identify kind (e.wrap header payload) = Ingest.identify kind bare := by
  intro bare
  have hbare : ({ signature } : Envelope).wrap header payload = bare := wrap_signature ..
  have haccount := decodeAccount_wrap hplain (isPlain_signature hsignature) hheader hpayload
  have hactivation := decodeActivation_wrap hplain (isPlain_signature hsignature) hheader hpayload
  rw [hbare] at haccount hactivation
  refine ⟨haccount, hactivation, fun kind => ?_⟩
  cases kind with
  | accountUpdate =>
    show Ingest.accountId _ = Ingest.accountId _
    unfold Ingest.accountId
    rw [haccount]
  | activation =>
    show Ingest.activationId _ = Ingest.activationId _
    unfold Ingest.activationId
    rw [hactivation]

/-- A token between an em space and a line end, with padding at both segments. -/
theorem wrapped_token_identified :
    let e : Envelope := ⟨"\u2003", 2, 1, "=sig", "\r\n"⟩
    e.IsPlain ∧ '.' ∉ "eyJ0eXAiOiJqd3QifQ".toList ∧ '.' ∉ "eyJzdWIiOiJBIn0".toList ∧
      '.' ∉ "".toList ∧
      (decodeAccount (e.wrap "eyJ0eXAiOiJqd3QifQ" "eyJzdWIiOiJBIn0")).map (·.subject) = .ok "A" ∧
      Ingest.identify .accountUpdate (e.wrap "eyJ0eXAiOiJqd3QifQ" "eyJzdWIiOiJBIn0") = .ok "A" := by
  intro e
  have hbefore : e.before.toList.all Text.isBlank = true := by decide
  have hafter : e.after.toList.all Text.isBlank = true := by decide
  have hplain : e.IsPlain := ⟨List.all_eq_true.mp hbefore, List.all_eq_true.mp hafter, by decide⟩
  have hheader : '.' ∉ "eyJ0eXAiOiJqd3QifQ".toList := by decide
  have hpayload : '.' ∉ "eyJzdWIiOiJBIn0".toList := by decide
  have hsignature : '.' ∉ "".toList := by decide
  obtain ⟨haccount, -, hid⟩ := decoding_ignores_envelope hplain hheader hpayload hsignature
  refine ⟨hplain, hheader, hpayload, hsignature, ?_, ?_⟩
  · rw [haccount]
    decide +kernel
  · rw [hid]
    decide +kernel

end ClaimRelay.Token
