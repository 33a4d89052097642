import ClaimRelay.Proofs.Encoding.Base32
import ClaimRelay.Proofs.Ingest.Handling
import ClaimRelay.Proofs.Notification
import ClaimRelay.Proofs.Store.Directory
import ClaimRelay.Proofs.Text.Utf8

/-! Ids of activations.  An activation has an id unless a part of it is empty, and the id can stand wherever
it has to: as a key, as the name of a file, and as a token of a subject.  It tells activations apart as far
as the texts that are digested do.  Such a text joins three fields with periods, and does not show where one
ends and the next begins if a field may hold periods itself. -/

namespace ClaimRelay.HashId

open Encoding.Base32 (InAlphabet)

variable {claim c d : ActivationClaim} {id other : String}

/-- The bytes that are digested. -/
def input (claim : ActivationClaim) : List UInt8 := Text.Utf8.encode (base claim)

theorem missing?_eq_none_iff : missing? claim = none ↔
    claim.issuer ≠ "" ∧ claim.subject ≠ "" ∧ claim.details.subject ≠ "" := by
  unfold missing?
  split_ifs with hissuer hsubject himport
  · simp [hissuer]
  · simp [hsubject]
  · simp [himport]
  · exact iff_of_true rfl ⟨hissuer, hsubject, himport⟩

theorem hashId_eq_ok_iff : claim.hashId = .ok id ↔
    (claim.issuer ≠ "" ∧ claim.subject ≠ "" ∧ claim.details.subject ≠ "") ∧
      id = String.ofList (Encoding.Base32.encode (Digest.Sha256.digest (input claim))) := by
  rw [← missing?_eq_none_iff, ActivationClaim.hashId]
  cases missing? claim with
  | some part => simp
  | none => simp [input, eq_comm]

/-! ### The form of an id -/

/-- The symbols for a digest, and padding. -/
def IsId (id : String) : Prop :=
  ∃ symbols : List Char, symbols.length = 52 ∧ (∀ s ∈ symbols, InAlphabet s) ∧
    id.toList = symbols ++ ['=', '=', '=', '=']

theorem isId_of_hashId (h : claim.hashId = .ok id) : IsId id := by
  obtain ⟨-, rfl⟩ := hashId_eq_ok_iff.mp h
  obtain ⟨symbols, hlength, hsymbols, htext⟩ :=
    Encoding.Base32.encode_eq_append (Digest.Sha256.digest (input claim))
  rw [Digest.Sha256.length_digest] at hlength
  refine ⟨symbols, hlength, hsymbols, ?_⟩
  rw [String.toList_ofList, htext, hlength]
  rfl

section Form

variable (h : IsId id)

include h

theorem IsId.mem {c : Char} (hc : c ∈ id.toList) : InAlphabet c ∨ c = '=' := by
  obtain ⟨symbols, -, hsymbols, htext⟩ := h
  rw [htext, List.mem_append] at hc
  exact hc.imp (hsymbols c) (by simp)

theorem IsId.not_mem {c : Char} (hc : ¬(InAlphabet c ∨ c = '=')) : c ∉ id.toList := mt h.mem hc

theorem IsId.visible {c : Char} (hc : c ∈ id.toList) : 0x20 < c.toNat ∧ c.toNat < 128 := by
  rcases h.mem hc with (⟨hlow, hhigh⟩ | ⟨hlow, hhigh⟩) | rfl
  · have hlow : 65 ≤ c.toNat := hlow
    have hhigh : c.toNat ≤ 90 := hhigh
    omega
  · have hlow : 50 ≤ c.toNat := hlow
    have hhigh : c.toNat ≤ 55 := hhigh
    omega
  · decide

theorem IsId.length_toList : id.toList.length = 56 := by
  obtain ⟨symbols, hlength, -, htext⟩ := h
  rw [htext, List.length_append, hlength]
  rfl

theorem IsId.utf8ByteSize : id.utf8ByteSize = 56 := by
  have hbytes : (Text.Utf8.encode id).length = id.toList.length := by
    rw [Text.Utf8.encode_eq_spell]
    exact Text.Utf8.length_spell_of_lt fun c hc => (h.visible hc).2
  exact hbytes.trans h.length_toList

theorem IsId.toList_ne_nil : id.toList ≠ [] := by
  intro hnil
  have hlength := h.length_toList
  simp [hnil] at hlength

theorem IsId.isName : Subject.IsName id.toList where
  ne_nil := h.toList_ne_nil
  no_period := h.not_mem (by decide)
  no_blank _ hc := Text.isBlank_of_visible (h.visible hc).1 (h.visible hc).2
  ne_single hsame := h.not_mem (show ¬(InAlphabet '*' ∨ _) by decide) (hsame ▸ List.mem_singleton_self '*')
  ne_rest hsame := h.not_mem (show ¬(InAlphabet '>' ∨ _) by decide) (hsame ▸ List.mem_singleton_self '>')

theorem IsId.isKey : Store.isKey id = true := by
  have hperiod : '.' ∉ id.toList := h.not_mem (by decide)
  have hhead : id.toList.head? ≠ some '.' := fun hhead => hperiod (List.mem_of_head? hhead)
  have hchars : ¬id.toList.any (fun c => c = '/' || c = '\\' || c = '\x00') = true := by
    rw [List.any_eq_true]
    rintro ⟨c, hc, hbad⟩
    have hin := h.mem hc
    simp only [Bool.or_eq_true, decide_eq_true_eq] at hbad
    rcases hbad with (rfl | rfl) | rfl <;> exact absurd hin (by decide)
  have hempty : id.toList.isEmpty = false := List.isEmpty_eq_false_iff.mpr h.toList_ne_nil
  simp only [Store.isKey, hempty, hhead, hchars, Store.hasDoublePeriod_of_not_mem hperiod, decide_false,
    Bool.or_false, Bool.not_false]

end Form

/-! ### Where ids are used -/

theorem IsId.run_save_directory (h : IsId id) {dir : Store.Directory} (hwritable : dir.readOnly = false)
    (payload : List UInt8) (files : FileSystem) :
    (Store.save id payload).run (.directory dir, files) =
      if files.node? (dir.path id) = some .directory then
        (.error (.files .isDirectory), .directory dir, files)
      else (.ok (), .directory dir, files.put (dir.path id) (.file payload)) := by
  have hshort : id.utf8ByteSize ≤ 251 := by
    rw [h.utf8ByteSize]
    decide
  rw [Store.run_save_directory, Store.Directory.save_eq hwritable h.isKey hshort]
  split <;> rfl

/-- An activation has an id unless its issuer, its subject or its import is empty, and an id can be used
everywhere.  It is made of symbols in base 32 and padding.  It is a key, so a store in memory never refuses
it, and a directory that can be written to does so only if a directory is in the place of the file.  It is a
token of a subject too: with any account that is one, the subject of the notification can be published on
and is covered by the pattern for activations, even if the account has a placeholder. -/
theorem ids_usable (claim : ActivationClaim) :
    ((∃ id, claim.hashId = .ok id) ↔
      claim.issuer ≠ "" ∧ claim.subject ≠ "" ∧ claim.details.subject ≠ "") ∧
    ∀ id, claim.hashId = .ok id →
      (∃ symbols : List Char, symbols.length = 52 ∧ (∀ s ∈ symbols, InAlphabet s) ∧
        id.toList = symbols ++ ['=', '=', '=', '=']) ∧
      Store.checkKey id = .ok () ∧ Subject.IsName id.toList ∧
      (∀ payload claims files, (Store.save id payload).run (.memory claims, files) =
        (.ok (), .memory (claims.put id payload), files)) ∧
      (∀ (dir : Store.Directory) payload files, dir.readOnly = false →
        (Store.save id payload).run (.directory dir, files) =
          if files.node? (dir.path id) = some .directory then
            (.error (.files .isDirectory), .directory dir, files)
          else (.ok (), .directory dir, files.put (dir.path id) (.file payload))) ∧
      ∀ account : String, Subject.IsName account.toList →
        Bus.checkSubject (Notification.activationSubject account id) = .ok () ∧
        Subject.isMatch Notification.activation.pattern
          (Notification.activationSubject account id) = true := by
  constructor
  · constructor
    · rintro ⟨id, hid⟩
      exact (hashId_eq_ok_iff.mp hid).1
    · intro hparts
      exact ⟨_, hashId_eq_ok_iff.mpr ⟨hparts, rfl⟩⟩
  · intro id hid
    have h := isId_of_hashId hid
    refine ⟨h, if_pos h.isKey, h.isName, ?_, ?_, ?_⟩
    · intro payload claims files
      rw [Store.run_save_memory, if_pos h.isKey]
    · intro dir payload files hwritable
      exact h.run_save_directory hwritable payload files
    · intro account haccount
      refine ⟨Notification.checkSubject_activationSubject haccount h.isName, ?_⟩
      rw [Notification.isMatch_activationSubject]
      exact ⟨rfl, haccount.no_period, h.isName.no_period⟩

/-- An activation with the given parts and nothing else. -/
def grant (issuer subject imported : String) : ActivationClaim :=
  { issuer, subject, details := { subject := imported } }

/-- An account that is a placeholder takes the id in. -/
theorem ids_usable_for_placeholder :
    let id := "7RBMXB46V5BPDDZT7MWVOQAKDBOX54JXH6CPNAHMPTGS7V2QVFUA===="
    (grant "AEXPORTER" "AIMPORTER" "orders.*").hashId = .ok id ∧
      Bus.checkSubject (Notification.activationSubject "%s" id) = .ok () ∧
      Subject.isMatch Notification.activation.pattern (Notification.activationSubject "%s" id) = true := by
  intro id
  have hid : (grant "AEXPORTER" "AIMPORTER" "orders.*").hashId = .ok id := by decide +kernel
  obtain ⟨-, -, -, -, -, hsubject⟩ := (ids_usable _).2 id hid
  exact ⟨hid, hsubject "%s" (by decide +kernel)⟩

/-! ### What ids tell apart -/

/-- The text of an activation, between the periods. -/
def pieces (claim : ActivationClaim) : List Subject.Token :=
  Text.split '.' claim.issuer.toList ++ Text.split '.' claim.subject.toList ++
    (Subject.tokens claim.details.subject).map cleanToken

/-- Activations that grant the same, when wildcards count as `_`. -/
def SameGrant (c d : ActivationClaim) : Prop :=
  c.issuer = d.issuer ∧ c.subject = d.subject ∧
    cleanSubject c.details.subject = cleanSubject d.details.subject

/-- Two byte strings with one digest. -/
def Collide (m n : List UInt8) : Prop := m ≠ n ∧ Digest.Sha256.digest m = Digest.Sha256.digest n

theorem split_cleanSubject (subject : String) :
    Text.split '.' (cleanSubject subject) = (Subject.tokens subject).map cleanToken := by
  apply Text.split_join
  · simp [Subject.tokens_ne_nil]
  · intro piece hpiece
    obtain ⟨t, ht, rfl⟩ := List.mem_map.mp hpiece
    unfold cleanToken
    split
    · decide
    · exact Text.not_mem_of_mem_split ht

theorem split_base (claim : ActivationClaim) :
    Text.split '.' (base claim).toList = pieces claim := by
  rw [base, String.toList_ofList, Text.split_append_cons, Text.split_append_cons, split_cleanSubject]
  rfl

theorem base_eq_iff : base c = base d ↔ pieces c = pieces d := by
  rw [← split_base, ← split_base]
  exact ⟨fun h => by rw [h], fun h => String.toList_injective (Text.split_injective h)⟩

/-- The fields can be read off a text by one who knows how many periods are in the first two. -/
theorem sameGrant_iff : SameGrant c d ↔ base c = base d ∧
    c.issuer.toList.count '.' = d.issuer.toList.count '.' ∧
      c.subject.toList.count '.' = d.subject.toList.count '.' := by
  constructor
  · rintro ⟨hissuer, hsubject, himport⟩
    unfold base
    rw [hissuer, hsubject, himport]
    exact ⟨rfl, rfl, rfl⟩
  · rintro ⟨hbase, hissuer, hsubject⟩
    have hpieces := base_eq_iff.mp hbase
    unfold pieces at hpieces
    obtain ⟨hfront, himport⟩ := List.append_inj hpieces (by simp [Text.length_split, hissuer, hsubject])
    obtain ⟨hissuer, hsubject⟩ := List.append_inj hfront (by simp [Text.length_split, hissuer])
    refine ⟨String.toList_injective (Text.split_injective hissuer),
      String.toList_injective (Text.split_injective hsubject), ?_⟩
    rw [cleanSubject, himport, cleanSubject]

theorem input_eq_iff : input c = input d ↔ base c = base d := by
  constructor
  · intro h
    have hdecoded := congrArg Text.Utf8.decode h
    rw [input, input, Text.Utf8.decode_encode, Text.Utf8.decode_encode] at hdecoded
    exact Option.some.inj hdecoded
  · intro h
    rw [input, h, input]

theorem id_eq_iff (hc : c.hashId = .ok id) (hd : d.hashId = .ok other) :
    id = other ↔ base c = base d ∨ Collide (input c) (input d) := by
  obtain ⟨-, rfl⟩ := hashId_eq_ok_iff.mp hc
  obtain ⟨-, rfl⟩ := hashId_eq_ok_iff.mp hd
  rw [← input_eq_iff]
  constructor
  · intro h
    have hlength : (Digest.Sha256.digest (input c)).length = (Digest.Sha256.digest (input d)).length := by
      rw [Digest.Sha256.length_digest, Digest.Sha256.length_digest]
    have hdigest := Encoding.Base32.encode_injective hlength (String.ofList_injective h)
    by_cases hinput : input c = input d
    · exact .inl hinput
    · exact .inr ⟨hinput, hdigest⟩
  · rintro (hinput | ⟨-, hdigest⟩)
    · rw [hinput]
    · rw [hdigest]

theorem activationId_of_decode {payload : List UInt8} (hdecode : Token.decodeActivation payload = .ok claim)
    (hid : claim.hashId = .ok id) : Ingest.activationId payload = .ok id := by
  have hsubject : claim.isEmpty = false := by
    simpa [Claim.isEmpty] using (hashId_eq_ok_iff.mp hid).1.2.1
  unfold Ingest.activationId
  rw [hdecode]
  dsimp only
  rw [hsubject, hid]
  rfl

/-- How far ids tell activations apart.  The same text is digested for two activations exactly if their
issuers, subjects and imports are the same pieces between periods, taken together.  They grant the same
exactly if, besides, there are as many periods in the issuers and in the subjects, as there are in keys,
which have none.  They share an id exactly if the same text is digested for them or there is a collision.
If they do not share it, taking in one of them changes nothing that is loaded under the id of the other,
in any store. -/
theorem ids_tell_apart (hc : c.hashId = .ok id) (hd : d.hashId = .ok other) :
    (base c = base d ↔ pieces c = pieces d) ∧
    (SameGrant c d ↔ base c = base d ∧
      c.issuer.toList.count '.' = d.issuer.toList.count '.' ∧
      c.subject.toList.count '.' = d.subject.toList.count '.') ∧
    (id = other ↔ base c = base d ∨ Collide (input c) (input d)) ∧
    (id ≠ other → ∀ payload, Token.decodeActivation payload = .ok d →
      ∀ (now : Nat) (ingest : Ingest) (store : Store) (files : FileSystem),
        let after := ((Ingest.handle Store.save now .activation payload).run (ingest, store, files)).2.2
        after.1.load id after.2 = store.load id files) := by
  refine ⟨base_eq_iff, sameGrant_iff, id_eq_iff hc hd, ?_⟩
  intro hne payload hdecode now ingest store files
  have hhandles := Ingest.handle_handles Store.save now .activation payload ingest (store, files)
  refine hhandles.load_of_other fun id' hid' => ?_
  have hsame := (activationId_of_decode hdecode hd).symm.trans hid'
  rw [← Except.ok.inj hsame]
  exact hne.symm

/-- Two grants of one account to another, for different imports. -/
theorem ids_tell_imports_apart :
    let id := "PXPLC54SIJ7Z5ETIEPPTHMS2DTX2TKUQTFWTO32ANZQKOVQSPMSA===="
    let other := "5VCGNUUVVQSUUJIEOALRWNFT2P7N4NK7KXLTB6DWQA3HFTQGUF2Q===="
    let payload := Text.Utf8.encode
      "eyJ0eXAiOiJqd3QifQ.eyJpc3MiOiJBIiwic3ViIjoiQiIsIm5hdHMiOnsic3ViamVjdCI6ImQifX0."
    (grant "A" "B" "c").hashId = .ok id ∧
    ∃ d, Token.decodeActivation payload = .ok d ∧ d.hashId = .ok other ∧ base (grant "A" "B" "c") ≠ base d ∧
      ∀ (now : Nat) (ingest : Ingest) (store : Store) (files : FileSystem),
        let after := ((Ingest.handle Store.save now .activation payload).run (ingest, store, files)).2.2
        after.1.load id after.2 = store.load id files := by
  intro id other payload
  have hc : (grant "A" "B" "c").hashId = .ok id := by decide +kernel
  have hread : (Token.decodeActivation payload).map (·.hashId) = .ok (.ok other) := by decide +kernel
  cases hdecode : Token.decodeActivation payload with
  | error e =>
    rw [hdecode] at hread
    contradiction
  | ok d =>
    rw [hdecode] at hread
    have hd : d.hashId = .ok other := Except.ok.inj hread
    have hne : id ≠ other := by decide
    obtain ⟨-, -, hshared, hkept⟩ := ids_tell_apart hc hd
    exact ⟨hc, d, rfl, hd, fun hbase => hne (hshared.mpr (.inl hbase)), hkept hne payload hdecode⟩

/-- An account that is named in the import of one activation and is the subject of another one.  They have
one id, and where the token of the first one was kept, that of the second one takes its place. -/
theorem id_shared_across_fields :
    let id := "YOVZBN5JPBDSSVDRZLBHCNSGKE36POQYGHDBI3YZ7HFACJ47JWUQ===="
    let first := Text.Utf8.encode
      "eyJ0eXAiOiJqd3QifQ.eyJpc3MiOiJBIiwic3ViIjoiQiIsIm5hdHMiOnsic3ViamVjdCI6IkMuZCJ9fQ."
    let second := Text.Utf8.encode
      "eyJ0eXAiOiJqd3QifQ.eyJpc3MiOiJBLkIiLCJzdWIiOiJDIiwibmF0cyI6eyJzdWJqZWN0IjoiZCJ9fQ."
    (grant "A" "B" "C.d").hashId = .ok id ∧ (grant "A.B" "C" "d").hashId = .ok id ∧
      base (grant "A" "B" "C.d") = base (grant "A.B" "C" "d") ∧
      ¬SameGrant (grant "A" "B" "C.d") (grant "A.B" "C" "d") ∧
      Ingest.identify .activation first = .ok id ∧ Ingest.identify .activation second = .ok id ∧
      ∀ (now : Nat) (ingest : Ingest) (claims : Store.Memory) (files : FileSystem),
        ((Ingest.handle Store.save now .activation second).run
            (ingest, .memory (claims.put id first), files)).2.2 =
          (.memory (claims.put id second), files) := by
  intro id first second
  have hid : (grant "A" "B" "C.d").hashId = .ok id := by decide +kernel
  have hid' : (grant "A.B" "C" "d").hashId = .ok id := by decide +kernel
  have hfirst : Ingest.identify .activation first = .ok id := by decide +kernel
  have hsecond : Ingest.identify .activation second = .ok id := by decide +kernel
  refine ⟨hid, hid', by decide +kernel, ?_, hfirst, hsecond, fun now ingest claims files => ?_⟩
  · rintro ⟨hissuer, -⟩
    exact absurd hissuer (by decide)
  · have hhandles := Ingest.handle_handles Store.save now .activation second ingest
      (.memory (claims.put id first), files)
    have hafter := hhandles.after_eq_put hsecond (isId_of_hashId hid).isKey
    rwa [Table.put_put] at hafter

end ClaimRelay.HashId
