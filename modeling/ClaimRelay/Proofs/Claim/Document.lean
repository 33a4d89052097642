import ClaimRelay.Claim.Basic
import ClaimRelay.Proofs.Json.Found

/-! The documents that claims are written as.  Their members are in the order of their names, each of them is
a field, and together they set every field back to what the claim has. -/

namespace ClaimRelay

namespace Claim

open Json Text.Utf8

variable {Details σ : Type} {depth : Nat} {record : σ} {c : Claim Details}

/-- The members of a claim whose own section is `details`, in the order of their names. -/
def document (c : Claim Details) (details : Option Json) : List (String × Json) :=
  ("exp", Json.ofInt64 c.expires) :: ("iat", Json.ofInt64 c.issuedAt) :: ("iss", .string c.issuer) ::
    ("jti", .string c.tokenId) :: ("name", .string c.name) ::
    (optional "nats" details ++ ("sub", .string c.subject) :: optional "type" (c.declared.map .string))

theorem ofMembers_registered (c : Claim Details) (details : Option Json) :
    Json.ofMembers (c.registered ++ optional "nats" details) = .object (c.document details) := by
  unfold registered document Json.ofMembers
  cases c.declared <;> cases details <;>
    simp only [optional, Option.map_none, Option.map_some, List.cons_append, List.nil_append,
      List.append_nil, List.foldl_cons, List.foldl_nil, insertMember, String.reduceLT, String.reduceEq,
      reduceIte]

/-- The members of the section of an import, in the order of their names. -/
def importDocument (i : Import) : List (String × Json) :=
  optional "kind" (if i.kind = "" then none else some (.string i.kind)) ++
    ("subject", .string i.subject) :: optional "type" (i.declared.map .string)

theorem import_toJson (i : Import) : i.toJson = .object (importDocument i) := by
  unfold Import.toJson importDocument Json.ofMembers
  cases i.declared <;> split <;>
    simp only [optional, Option.map_none, Option.map_some, List.cons_append, List.nil_append,
      List.append_nil, List.foldl_cons, List.foldl_nil, insertMember, String.reduceLT, String.reduceEq,
      reduceIte]

/-! ### Fields -/

theorem textField_sets (name s : String) (set : σ → String → σ) :
    (textField name set).Sets depth record (.string s) (set record s) := by
  intro rest _
  exact (Reads.text _ s rest).bind (.pure _ rest)

theorem optionalField_sets (name s : String) (set : σ → Option String → σ) :
    (optionalField name set).Sets depth record (.string s) (set record (some s)) := by
  intro rest _
  obtain ⟨more, hprint⟩ : ∃ more, spell (printString s) = byte '"' :: more :=
    ⟨_, spell_cons_of_lt (by decide) _⟩
  have hread := Reads.text "a string" s rest
  rw [printChars]
  rw [hprint] at hread ⊢
  exact (Reads.some (by decide) (by decide) hread).bind (.pure _ rest)

theorem timeField_sets (name : String) (t : Int64) (set : σ → Int64 → σ) :
    (timeField name set).Sets depth record (Json.ofInt64 t) (set record t) := by
  intro rest hrest
  have hrange : Range.i64.least ≤ t.toInt ∧ t.toInt ≤ Range.i64.greatest := by
    have hle := t.le_toInt
    have hlt := t.toInt_lt
    show -9223372036854775808 ≤ _ ∧ _ ≤ 9223372036854775807
    omega
  rw [Json.ofInt64, printChars]
  refine (Reads.integer hrange hrest).bind ?_
  rw [Int64.ofInt_toInt]
  exact .pure _ rest

/-- A value is read into a section that may be missing, if it is not what stands for a missing one. -/
theorem section_sets {v : Json} (hexact : v.IsExact) (hordered : v.IsOrdered) (hdepth : v.depth < depth)
    (hnull : v ≠ .null) (hrest : Ends rest) :
    Reads (readOption (do readValue (← steps) depth)) (spell (printChars v) ++ rest) (some v) rest := by
  obtain ⟨b, more, hprint, hspace, -, hb⟩ := exists_head_printChars (isDouble_of_isExact hexact)
  have hread : Reads (do readValue (← steps) depth) (spell (printChars v) ++ rest) v rest := by
    refine (Reads.steps _).bind ?_
    apply readable hexact hordered hdepth _ _ _ hrest
    have hlength := length_le_spell (printChars v)
    rw [List.length_append]
    omega
  rw [hprint] at hread ⊢
  exact Reads.some hspace (fun h => hnull (hb h)) hread

/-- Reading a field that both kinds of claim have keeps what depends only on the claim's own section. -/
theorem registeredFields_keeps {P : Details → Prop} :
    ∀ field ∈ registeredFields Details, field.Keeps depth fun record => P record.details := by
  unfold registeredFields
  simp only [List.forall_mem_cons]
  refine ⟨?_, ?_, ?_, ?_, ?_, ?_, ?_, List.forall_mem_nil _⟩
  all_goals exact .of_set fun _ _ h => h

/-! ### Members -/

theorem fills_optional {schema : Schema σ} {field : RecordField σ} {seen : List String}
    {name : String} {value : Option Json} {members : List (String × Json)} {after last : σ}
    (hfield : schema.fields.find? (·.name == name) = some field) (hseen : name ∉ seen)
    (hnone : value = none → after = record) (hsome : ∀ v ∈ value, field.Sets depth record v after)
    (hmore : schema.Fills depth (name :: seen) after members last) :
    schema.Fills depth seen record (optional name value ++ members) last := by
  cases value with
  | none =>
    rw [← hnone rfl]
    exact hmore.weaken (List.subset_cons_self name seen)
  | some v => exact .cons hfield hseen (hsome v rfl) hmore

theorem fills_declared {schema : Schema σ} {seen : List String} {set : σ → Option String → σ}
    {declared : Option String} {last : σ}
    (hfield : schema.fields.find? (·.name == "type") = some (optionalField "type" set))
    (hseen : "type" ∉ seen) (hnone : set record none = record) (hlast : last = set record declared) :
    schema.Fills depth seen record (optional "type" (declared.map .string)) last := by
  rw [← List.append_nil (optional _ _)]
  refine fills_optional hfield hseen (fun hvalue => ?_) (fun v hv => ?_) .nil
  · rw [hlast, Option.map_eq_none_iff.mp hvalue, hnone]
  · obtain ⟨kind, rfl, rfl⟩ := Option.map_eq_some_iff.mp hv
    rw [hlast]
    exact optionalField_sets "type" kind set

/-- The members of a claim fill it, whatever its own section is, if that section is set from its value. -/
theorem fills_document {title : String} {read : Nat → Claim Details → Reader (Claim Details)}
    {start : Details} {details : Option Json} (c : Claim Details)
    (hnone : details = none → c.details = start)
    (hsome : ∀ v ∈ details, ∀ record : Claim Details, RecordField.Sets ⟨"nats", read⟩ depth record v
      { record with details := c.details }) :
    Schema.Fills ⟨title, registeredFields Details ++ [⟨"nats", read⟩]⟩ depth [] { details := start }
      (c.document details) c := by
  refine .cons rfl (by decide) (timeField_sets "exp" c.expires _) ?_
  refine .cons rfl (by decide) (timeField_sets "iat" c.issuedAt _) ?_
  refine .cons rfl (by decide) (textField_sets "iss" c.issuer _) ?_
  refine .cons rfl (by decide) (textField_sets "jti" c.tokenId _) ?_
  refine .cons rfl (by decide) (textField_sets "name" c.name _) ?_
  refine fills_optional rfl (by decide) (fun h => ?_) (fun v hv => hsome v hv _) ?_
  · rw [hnone h]
  refine .cons rfl (by decide) (textField_sets "sub" c.subject _) ?_
  exact fills_declared rfl (by decide) rfl rfl

theorem fills_import (i : Import) : importSchema.Fills depth [] {} (importDocument i) i := by
  have hmore : importSchema.Fills depth ["kind"] { kind := i.kind }
      (("subject", .string i.subject) :: optional "type" (i.declared.map .string)) i := by
    refine .cons rfl (by decide) (textField_sets "subject" i.subject _) ?_
    exact fills_declared rfl (by decide) rfl rfl
  refine fills_optional rfl List.not_mem_nil (fun h => ?_) (fun v hv => ?_) hmore
  · split at h
    · rw [‹i.kind = ""›]
    · contradiction
  · split at hv
    · contradiction
    · obtain rfl := Option.some.inj hv
      exact textField_sets "kind" i.kind _

/-! ### Claims -/

theorem account_toJson (c : AccountClaim) : AccountClaim.toJson c = .object (c.document c.details) :=
  ofMembers_registered c c.details

theorem activation_toJson (c : ActivationClaim) :
    ActivationClaim.toJson c = .object (c.document (some c.details.toJson)) :=
  ofMembers_registered c (some c.details.toJson)

theorem account_depth_le {c : AccountClaim} {n : Nat} :
    (AccountClaim.toJson c).depth ≤ n + 1 ↔ ∀ v ∈ c.details, v.depth ≤ n := by
  rw [account_toJson, depth_object_le]
  unfold document
  cases c.declared with
  | none => cases c.details <;> simp [optional, Json.depth, Json.ofInt64]
  | some kind => cases c.details <;> simp [optional, Json.depth, Json.ofInt64]

theorem accountSchema_reads {c : AccountClaim}
    (hexact : ∀ v ∈ c.details, v.IsExact) (hsound : SoundOption (nestingLimit - 1) c.details) :
    accountSchema.readDocument { details := none } (AccountClaim.toJson c).bytes = .ok c := by
  rw [account_toJson]
  apply Schema.Fills.readDocument
  refine fills_document c id fun v hv record rest hrest => ?_
  obtain ⟨hv', hnull⟩ := hsound v hv
  refine (section_sets (hexact v hv) hv'.ordered hv'.depth_lt hnull hrest).bind ?_
  rw [Option.mem_def.mp hv]
  exact .pure _ rest

theorem activationSchema_reads (c : ActivationClaim) :
    activationSchema.readDocument { details := {} } (ActivationClaim.toJson c).bytes = .ok c := by
  rw [activation_toJson]
  apply Schema.Fills.readDocument
  refine fills_document c nofun fun v hv record rest _ => ?_
  obtain rfl := Option.some.inj hv
  rw [import_toJson]
  exact ((fills_import c.details).reads (by decide) rest).bind (.pure _ rest)

/-- The section of an account claim that was read is a value as a document can hold it, and never `null`. -/
theorem accountSchema_sound {c : AccountClaim} {bytes : List UInt8}
    (h : accountSchema.readDocument { details := none } bytes = .ok c) :
    SoundOption (nestingLimit - 1) c.details := by
  have hkeeps : ∀ field ∈ accountSchema.fields, field.Keeps (nestingLimit - 1)
      fun record => SoundOption (nestingLimit - 1) record.details := by
    intro field hfield
    rcases List.mem_append.mp hfield with hregistered | hsection
    · exact registeredFields_keeps field hregistered
    · obtain rfl := List.mem_singleton.mp hsection
      intro record after input rest _ hread
      obtain ⟨details, mid, hoption, hlast⟩ := Reads.of_bind hread
      obtain ⟨rfl, -⟩ := Reads.of_pure hlast
      exact found_option (by decide) hoption
  have hkept := Schema.readDocument_keeps hkeeps (fun v hv => absurd hv (Option.not_mem_none v)) h
  exact hkept

end Claim

end ClaimRelay
