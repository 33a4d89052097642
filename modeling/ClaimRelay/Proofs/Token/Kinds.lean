import ClaimRelay.Proofs.Json.Agreement
import ClaimRelay.Proofs.Token.RoundTrip

/-! Tokens that are read as a claim of either kind.  The two claims have the same registered fields, and what
their sections declare is the same if the section is an object.  The fields of an import may also stand in a
list, in which an account claim declares nothing. -/

namespace ClaimRelay

namespace Claim

open Json

variable {σ : Type} {depth : Nat} {record after : σ} {v : Json} {a : AccountClaim} {b : ActivationClaim}
  {i : Import} {items : List Json}

/-! ### Fields -/

theorem textField_setBy {name : String} {set : σ → String → σ}
    (h : (textField name set).SetBy depth record v after) : ∃ s, v = .string s ∧ after = set record s := by
  obtain ⟨fuel, depth', input, rest, rest', hread, hvalue⟩ := h
  obtain ⟨s, mid, htext, hlast⟩ := Reads.of_bind hread
  obtain ⟨rfl, -⟩ := Reads.of_pure hlast
  exact ⟨s, (agree_text _ htext hvalue).2, rfl⟩

theorem optionalField_setBy {name : String} {set : σ → Option String → σ}
    (h : (optionalField name set).SetBy depth record v after) :
    ∃ o : Option String, v = o.elim .null .string ∧ after = set record o := by
  obtain ⟨fuel, depth', input, rest, rest', hread, hvalue⟩ := h
  obtain ⟨o, mid, htext, hlast⟩ := Reads.of_bind hread
  obtain ⟨rfl, -⟩ := Reads.of_pure hlast
  exact ⟨o, (agree_optional _ htext hvalue).2, rfl⟩

theorem textField_ends (name : String) (set : σ → String → σ) : (textField name set).EndsAsValue depth := by
  intro record fuel depth' input rest rest' after v hread hvalue
  obtain ⟨s, mid, htext, hlast⟩ := Reads.of_bind hread
  obtain ⟨rfl, rfl⟩ := Reads.of_pure hlast
  exact ⟨(agree_text _ htext hvalue).1, trivial⟩

theorem optionalField_ends (name : String) (set : σ → Option String → σ) :
    (optionalField name set).EndsAsValue depth := by
  intro record fuel depth' input rest rest' after v hread hvalue
  obtain ⟨o, mid, htext, hlast⟩ := Reads.of_bind hread
  obtain ⟨rfl, rfl⟩ := Reads.of_pure hlast
  exact ⟨(agree_optional _ htext hvalue).1, trivial⟩

/-! ### Sections -/

/-- The members of an object declare the same kind as the import. -/
def Declares (members : List (String × Json)) (i : Import) : Prop :=
  (members.lookup "type").bind Json.text? = i.declared

/-- An open section and the import that stand in the same place. -/
inductive SameSection : Option Json → Import → Prop
  | missing : SameSection none {}
  | object {members : List (String × Json)} {i : Import}
      (h : Declares members i) : SameSection (some (.object members)) i
  | list {items : List Json} {i : Import}
      (h : ∀ {kind}, i.declared = some kind → items = [.string i.subject, .string i.kind, .string kind]) :
      SameSection (some (.array items)) i

theorem importSchema_ends : ∀ field ∈ importSchema.fields, field.EndsAsValue depth := by
  unfold importSchema
  simp only [List.forall_mem_cons]
  refine ⟨?_, ?_, ?_, List.forall_mem_nil _⟩
  · exact textField_ends _ _
  · exact textField_ends _ _
  · exact optionalField_ends _ _

/-- A list that declares a kind has all the fields. -/
theorem items_of_declared (h : ListSets depth importSchema.fields {} items i) {kind : String}
    (hkind : i.declared = some kind) : items = [.string i.subject, .string i.kind, .string kind] := by
  cases h with
  | nil => contradiction
  | cons hsubject h =>
    obtain ⟨subject, rfl, rfl⟩ := textField_setBy hsubject
    cases h with
    | nil => contradiction
    | cons hname h =>
      obtain ⟨name, rfl, rfl⟩ := textField_setBy hname
      cases h with
      | nil => contradiction
      | cons hdeclared h =>
        obtain ⟨declared, rfl, rfl⟩ := optionalField_setBy hdeclared
        cases h with
        | nil =>
          obtain rfl : declared = some kind := hkind
          rfl

theorem Declares.nil : Declares [] {} := rfl

theorem Declares.set {field : RecordField Import} {members : List (String × Json)} {i i' : Import}
    (hfield : field ∈ importSchema.fields) (hset : field.SetBy depth i v i')
    (h : Declares members i) : Declares (insertMember field.name v members) i' := by
  unfold Declares
  rw [lookup_insertMember]
  simp only [importSchema, List.mem_cons, List.not_mem_nil, or_false] at hfield
  rcases hfield with rfl | rfl | rfl
  · obtain ⟨s, rfl, rfl⟩ := textField_setBy hset
    rw [if_neg (by decide)]
    exact h
  · obtain ⟨s, rfl, rfl⟩ := textField_setBy hset
    rw [if_neg (by decide)]
    exact h
  · obtain ⟨o, rfl, rfl⟩ := optionalField_setBy hset
    show (if "type" = "type" then some (o.elim .null .string) else members.lookup "type").bind
      Json.text? = o
    rw [if_pos rfl]
    cases o <;> rfl

theorem Declares.skip {name : String} {members : List (String × Json)} {i : Import}
    (hname : ∀ field ∈ importSchema.fields, field.name ≠ name) (h : Declares members i) :
    Declares (insertMember name v members) i := by
  have htype : "type" ≠ name := hname _ (.tail _ (.tail _ (.head _)))
  unfold Declares
  rw [lookup_insertMember, if_neg htype]
  exact h

theorem agree_section : Agree (readOption (do readValue (← steps) (depth + 1)))
    (importSchema.read (depth + 1) {}) SameSection := by
  intro input rest rest' value i hread himport
  unfold readOption at hread
  rw [Reads.peek_bind] at hread
  split at hread
  · rename_i hnull
    rcases Schema.of_read himport with ⟨hhead, -⟩ | ⟨hhead, -⟩
    · exact absurd (Option.some.inj (hhead.symm.trans hnull)) (by decide)
    · exact absurd (Option.some.inj (hhead.symm.trans hnull)) (by decide)
  · obtain ⟨v, mid, hvalue, hread⟩ := Reads.of_bind hread
    obtain ⟨rfl, rfl⟩ := Reads.of_pure hread
    obtain ⟨_, _, hsteps, hvalue⟩ := Reads.of_bind hvalue
    obtain ⟨rfl, rfl⟩ := Prod.mk.inj (Except.ok.inj hsteps)
    obtain ⟨rfl, ⟨items, rfl, hsets⟩ | ⟨members, rfl, h⟩⟩ :=
      importSchema.agree_value (R := Declares) importSchema_ends .set .skip .nil himport
        (Reads.readValue_dropWhile.mp hvalue)
    · exact ⟨rfl, .list fun hkind => items_of_declared hsets hkind⟩
    · exact ⟨rfl, .object h⟩

/-! ### Claims -/

/-- A claim of each kind that stand in the same place. -/
structure SameClaim (a : AccountClaim) (b : ActivationClaim) : Prop where
  subject : b.subject = a.subject
  issuer : b.issuer = a.issuer
  issuedAt : b.issuedAt = a.issuedAt
  expires : b.expires = a.expires
  tokenId : b.tokenId = a.tokenId
  name : b.name = a.name
  declared : b.declared = a.declared
  details : SameSection a.details b.details

theorem agree_fields : List.Forall₂ (RecordField.Agrees (depth + 1) SameClaim) accountSchema.fields
    activationSchema.fields := by
  unfold accountSchema activationSchema registeredFields
  simp only [List.cons_append, List.nil_append]
  refine .cons ?_ (.cons ?_ (.cons ?_ (.cons ?_ (.cons ?_ (.cons ?_ (.cons ?_ (.cons ?_ .nil)))))))
  · exact .of_set fun s h => { h with subject := rfl }
  · exact .of_set fun s h => { h with issuer := rfl }
  · exact .of_set fun t h => { h with issuedAt := rfl }
  · exact .of_set fun t h => { h with expires := rfl }
  · exact .of_set fun s h => { h with tokenId := rfl }
  · exact .of_set fun s h => { h with name := rfl }
  · exact .of_set fun o h => { h with declared := rfl }
  · refine ⟨rfl, fun h input rest rest' a b hread hread' => ?_⟩
    obtain ⟨details, mid, hdetails, hlast⟩ := Reads.of_bind hread
    obtain ⟨details', mid', hdetails', hlast'⟩ := Reads.of_bind hread'
    obtain ⟨rfl, rfl⟩ := Reads.of_pure hlast
    obtain ⟨rfl, rfl⟩ := Reads.of_pure hlast'
    obtain ⟨rfl, hsame⟩ := agree_section hdetails hdetails'
    exact ⟨rfl, { h with details := hsame }⟩

theorem same_claim {bytes : List UInt8} (ha : accountSchema.readDocument { details := none } bytes = .ok a)
    (hb : activationSchema.readDocument { details := {} } bytes = .ok b) : SameClaim a b := by
  refine Schema.agree_readDocument agree_fields ?_ ha hb
  exact ⟨rfl, rfl, rfl, rfl, rfl, rfl, rfl, .missing⟩

/-- Both claims declare the same, unless the account claim declares nothing and the import is a list. -/
theorem SameClaim.declaredKind (h : SameClaim a b) :
    ActivationClaim.declaredKind b = AccountClaim.declaredKind a ∨
      AccountClaim.declaredKind a = none ∧ b.declared = none ∧
        ∃ kind, ActivationClaim.declaredKind b = some kind ∧
          a.details = some (.array [.string b.details.subject, .string b.details.kind, .string kind]) := by
  have hdetails := h.details
  unfold ActivationClaim.declaredKind AccountClaim.declaredKind
  rw [h.declared]
  cases a.declared with
  | some kind => exact .inl rfl
  | none =>
    generalize a.details = value at hdetails ⊢
    generalize b.details = i at hdetails ⊢
    cases hdetails with
    | missing => exact .inl rfl
    | object hsame => exact .inl hsame.symm
    | list hitems =>
      cases hdeclared : i.declared with
      | none => exact .inl rfl
      | some kind => exact .inr ⟨rfl, rfl, kind, rfl, congrArg (some ∘ Json.array) (hitems hdeclared)⟩

end Claim

namespace Token

variable {token : List UInt8} {a : AccountClaim} {b : ActivationClaim}

/-- What a token is read as in both ways is the same claim. -/
theorem same_claim (ha : decodeAccount token = .ok a) (hb : decodeActivation token = .ok b) :
    Claim.SameClaim a b := by
  obtain ⟨hread, -⟩ := checked_eq_ok.mp ha
  obtain ⟨hread', -⟩ := checked_eq_ok.mp hb
  obtain ⟨bytes, hbytes, hdocument⟩ := exists_readDocument hread
  obtain ⟨bytes', hbytes', hdocument'⟩ := exists_readDocument hread'
  obtain rfl : bytes = bytes' := Except.ok.inj (hbytes.symm.trans hbytes')
  exact Claim.same_claim hdocument hdocument'

theorem declares_nothing_or_list (ha : decodeAccount token = .ok a) (hb : decodeActivation token = .ok b) :
    AccountClaim.declaredKind a = none ∧ (ActivationClaim.declaredKind b = none ∨ b.declared = none ∧
      a.details = some (.array
        [.string b.details.subject, .string b.details.kind, .string "activation"])) := by
  obtain ⟨-, haccount⟩ := checked_eq_ok.mp ha
  obtain ⟨-, hactivation⟩ := checked_eq_ok.mp hb
  rcases (same_claim ha hb).declaredKind with hsame | ⟨hnone, htop, kind, hkind, hlist⟩
  · rw [hsame] at hactivation ⊢
    rcases haccount with hnone | haccount
    · exact ⟨hnone, .inl hnone⟩
    · rw [haccount] at hactivation
      simp at hactivation
  · rw [hkind] at hactivation
    obtain rfl : kind = "activation" := by simpa using hactivation
    exact ⟨hnone, .inr ⟨htop, hlist⟩⟩

/-- A token whose account claim declares its kind is no activation claim.  A token whose activation claim
declares its kind is an account claim only if the kind is declared in the section of the import, and this
section is a list. -/
theorem kinds_apart (token : List UInt8) :
    (∀ a, decodeAccount token = .ok a → AccountClaim.declaredKind a ≠ none →
      ∃ e, decodeActivation token = .error e) ∧
    (∀ b, decodeActivation token = .ok b → ActivationClaim.declaredKind b ≠ none →
      (∃ e, decodeAccount token = .error e) ∨ b.declared = none ∧
        ∃ a, decodeAccount token = .ok a ∧ a.details = some (.array
          [.string b.details.subject, .string b.details.kind, .string "activation"])) := by
  constructor
  · intro a ha hdeclares
    cases hb : decodeActivation token with
    | error e => exact ⟨e, rfl⟩
    | ok b => exact absurd (declares_nothing_or_list ha hb).1 hdeclares
  · intro b hb hdeclares
    cases ha : decodeAccount token with
    | error e => exact .inl ⟨e, rfl⟩
    | ok a =>
      obtain ⟨htop, hlist⟩ := (declares_nothing_or_list ha hb).2.resolve_left hdeclares
      exact .inr ⟨htop, a, rfl, hlist⟩

/-- An account claim that declares its kind in its section, and an activation claim that declares its kind at
its top level. -/
theorem kinds_apart_declared :
    (∃ e, decodeActivation (encode (AccountClaim.toJson nestedAccount)) = .error e) ∧
    ∃ e, decodeAccount (encode (ActivationClaim.toJson
      { streamActivation with declared := some "activation" })) = .error e := by
  obtain ⟨haccount, -⟩ := kinds_apart (encode (AccountClaim.toJson nestedAccount))
  obtain ⟨-, hactivation⟩ := kinds_apart (encode (ActivationClaim.toJson
    { streamActivation with declared := some "activation" }))
  refine ⟨haccount _ (decodeAccount_encode nestedAccount_encodable) (by decide), ?_⟩
  rcases hactivation _ (decodeActivation_encode (by decide)) (by decide) with herror | ⟨htop, -⟩
  · exact herror
  · contradiction

/-- An activation claim whose import is a list. -/
def listImport : Json := .object [("iss", .string "B"),
  ("nats", .array [.string "orders", .string "stream", .string "activation"]), ("sub", .string "A")]

theorem exists_of_map {ε α β : Type} {x : Except ε α} {f : α → β} {b : β} (h : x.map f = .ok b) :
    ∃ a, x = .ok a ∧ f a = b := by
  cases x with
  | error e => contradiction
  | ok a => exact ⟨a, rfl, Except.ok.inj h⟩

/-- An activation claim that declares its kind may be read as an account claim. -/
theorem kinds_meet : ¬∀ token b, decodeActivation token = .ok b →
    ActivationClaim.declaredKind b ≠ none → ∃ e, decodeAccount token = .error e := by
  intro h
  have hactivation : (Claim.activationSchema.readDocument { details := {} } listImport.bytes).map
      ActivationClaim.declaredKind = .ok (some "activation") := by decide +kernel
  have haccount : (Claim.accountSchema.readDocument { details := none } listImport.bytes).map
      AccountClaim.declaredKind = .ok none := by decide +kernel
  obtain ⟨b, hb, hkind⟩ := exists_of_map hactivation
  obtain ⟨a, ha, hnone⟩ := exists_of_map haccount
  have hread : decodeActivation (encode listImport) = .ok b :=
    checked_eq_ok.mpr ⟨readClaim_encode hb, .inr hkind⟩
  have hread' : decodeAccount (encode listImport) = .ok a :=
    checked_eq_ok.mpr ⟨readClaim_encode ha, .inl hnone⟩
  obtain ⟨e, he⟩ := h (encode listImport) b hread (by simp [hkind])
  exact absurd (hread'.symm.trans he) nofun

end Token

end ClaimRelay
