import ClaimRelay.Json.Record
import ClaimRelay.Proofs.Json.RoundTrip

/-! Records are read from objects whose members are fields.  `Fills` says of the members of an object that
each of them is a field, that none is repeated, and which record they give. -/

namespace ClaimRelay.Json

open Text.Utf8

variable {σ : Type} {schema : Schema σ} {depth fuel : Nat} {input rest : List UInt8} {seen : List String}
  {record last : σ} {members : List (String × Json)}

/-! ### Fields -/

theorem Reads.text (expected s : String) (rest : List UInt8) :
    Reads (readText expected) (spell (printString s) ++ rest) s rest := by
  obtain ⟨more, hprint⟩ : ∃ more, spell (printString s) = byte '"' :: more :=
    ⟨_, spell_cons_of_lt (by decide) _⟩
  have hread := reads_printString s rest
  rw [hprint] at hread ⊢
  refine (Reads.peek (by decide) _).bind ?_
  dsimp only
  rw [if_pos rfl]
  exact hread

theorem Reads.integer {range : Range} {n : Integer}
    (hrange : range.least ≤ n.val ∧ n.val ≤ range.greatest) (hrest : Ends rest) :
    Reads (readInteger range) (spell (printInt n.val) ++ rest) n.val rest := by
  unfold readInteger
  by_cases hn : n.val < 0
  · obtain ⟨digits, hprint, hread⟩ := reads_printInt_neg hn hrest
    rw [hprint]
    refine (Reads.peek (by decide) _).bind ?_
    dsimp only
    rw [if_pos rfl]
    refine (Reads.advance _ _).bind ?_
    refine hread.bind ?_
    dsimp only
    rw [if_pos hrange]
    exact .pure _ rest
  · obtain ⟨b, digits, hb, hprint, hread⟩ := reads_printInt_nonneg hn hrest
    have hne : b ≠ byte '-' := by
      rintro rfl
      exact absurd hb (by decide)
    rw [hprint]
    refine (Reads.peek (isSpace_of_isDigit hb) _).bind ?_
    dsimp only
    rw [if_neg hne, if_pos hb]
    refine hread.bind ?_
    dsimp only
    rw [if_pos hrange]
    exact .pure _ rest

/-- A value that is there is read if it does not begin like `null`. -/
theorem Reads.some {α : Type} {r : Reader α} {b : UInt8} {value : α} (hspace : isSpace b = false)
    (hnull : b ≠ byte 'n') (h : Reads r (b :: input) value rest) :
    Reads (readOption r) (b :: input) (some value) rest := by
  refine (Reads.peek hspace _).bind ?_
  rw [if_neg (fun hb => hnull (Option.some.inj hb))]
  exact h.bind (.pure _ rest)

/-! ### Objects -/

/-- A field is set from a value. -/
def RecordField.Sets (field : RecordField σ) (depth : Nat) (record : σ) (value : Json) (after : σ) :
    Prop :=
  ∀ rest, Ends rest → Reads (field.read depth record) (spell (printChars value) ++ rest) after rest

/-- The record that the members of an object give.  `seen` holds the fields that were set before. -/
inductive Schema.Fills (schema : Schema σ) (depth : Nat) :
    List String → σ → List (String × Json) → σ → Prop
  | nil {seen : List String} {record : σ} : Fills schema depth seen record [] record
  | cons {seen : List String} {record after last : σ} {name : String} {value : Json}
      {members : List (String × Json)} {field : RecordField σ}
      (hfield : schema.fields.find? (·.name == name) = some field) (hseen : name ∉ seen)
      (hset : field.Sets depth record value after)
      (hmore : Fills schema depth (name :: seen) after members last) :
      Fills schema depth seen record ((name, value) :: members) last

/-- With fewer fields set before, no more members are repeated. -/
theorem Schema.Fills.weaken {seen' : List String} (h : schema.Fills depth seen record members last)
    (hseen : seen' ⊆ seen) : schema.Fills depth seen' record members last := by
  induction h generalizing seen' with
  | nil => exact .nil
  | cons hfield hnew hset _ ih =>
    exact .cons hfield (fun hmem => hnew (hseen hmem)) hset (ih (List.cons_subset_cons _ hseen))

theorem reads_field {field : RecordField σ} {m : String × Json} {after : σ}
    (hfield : schema.fields.find? (·.name == m.1) = some field) (hseen : m.1 ∉ seen)
    (hset : field.Sets depth record m.2 after) (hrest : Ends rest) {f : String → σ → Reader σ}
    {end' : List UInt8} (hnext : Reads (f m.1 after) rest last end')
    {skip : String → Reader σ} {repeated : String → Reader σ} :
    Reads (do
      let name ← readString
      match schema.fields.find? (·.name == name) with
      | none => skip name
      | some field =>
        if name ∈ seen then repeated name
        else
          readColon
          let record ← field.read depth record
          f name record) (spell (printMember m) ++ rest) last end' := by
  rw [printMember, spell_append, spell_cons_of_lt (by decide), List.append_assoc]
  refine (reads_printString m.1 _).bind ?_
  rw [hfield]
  dsimp only
  rw [if_neg hseen]
  refine (Reads.colon _).bind ?_
  exact (hset rest hrest).bind hnext

theorem Schema.Fills.reads_next (h : schema.Fills depth seen record members last)
    (hfuel : members.length < fuel) (rest : List UInt8) :
    Reads (schema.readObject depth fuel false seen record)
      (spell (printNextMembers members) ++ byte '\x7d' :: rest) last rest := by
  induction h generalizing fuel with
  | nil =>
    obtain ⟨fuel, rfl⟩ := Nat.exists_eq_succ_of_ne_zero (Nat.ne_of_gt hfuel)
    rw [readObject]
    exact (Reads.objectDone false rest).bind (.pure _ rest)
  | @cons seen record after last name value members field hfield hseen hset hmore ih =>
    obtain ⟨fuel, rfl⟩ := Nat.exists_eq_succ_of_ne_zero (show fuel ≠ 0 from Nat.ne_of_gt
      (Nat.lt_of_le_of_lt (Nat.zero_le _) hfuel))
    rw [spell_nextMembers_cons, readObject]
    refine (Reads.nextMember (name, value) _).bind ?_
    refine reads_field hfield hseen hset (ends_spell_nextMembers members rest) ?_
    exact ih (Nat.lt_of_succ_lt_succ hfuel)

theorem Schema.Fills.reads_members (h : schema.Fills depth seen record members last)
    (hfuel : members.length < fuel) (rest : List UInt8) :
    Reads (schema.readObject depth fuel true seen record)
      (spell (printMembers members) ++ byte '\x7d' :: rest) last rest := by
  obtain ⟨fuel, rfl⟩ := Nat.exists_eq_succ_of_ne_zero (show fuel ≠ 0 from Nat.ne_of_gt
    (Nat.lt_of_le_of_lt (Nat.zero_le _) hfuel))
  cases h with
  | nil =>
    rw [readObject]
    exact (Reads.objectDone true rest).bind (.pure _ rest)
  | @cons _ _ after _ name value members field hfield hseen hset hmore =>
    rw [printMembers_cons, spell_append, List.append_assoc, readObject]
    refine (Reads.firstMember (name, value) _).bind ?_
    refine reads_field hfield hseen hset (ends_spell_nextMembers members rest) ?_
    exact hmore.reads_next (Nat.lt_of_succ_lt_succ hfuel) rest

/-- A record is read from an object that fills it. -/
theorem Schema.Fills.reads (h : schema.Fills depth [] record members last) (hdepth : 0 < depth)
    (rest : List UInt8) :
    Reads (schema.read (depth + 1) record) (spell (printChars (.object members)) ++ rest) last rest := by
  rw [spell_object, Schema.read]
  refine (Reads.peek (by decide) _).bind ?_
  dsimp only
  rw [if_neg (by decide), if_pos rfl, if_neg (by omega)]
  refine (Reads.advance _ _).bind ?_
  refine (Reads.steps _).bind ?_
  apply h.reads_members
  have hlength := length_le_spell_members members
  rw [List.length_append]
  omega

/-! ### Documents -/

theorem readDocument_of_reads {α : Type} {r : Reader α} {bytes : List UInt8} {value : α}
    (h : Reads r bytes value []) : readDocument r bytes = .ok value := by
  unfold Reads at h
  rw [readDocument, StateT.run_bind, h]
  rfl

theorem reads_of_readDocument {α : Type} {r : Reader α} {bytes : List UInt8} {value : α}
    (h : readDocument r bytes = .ok value) : ∃ rest, Reads r bytes value rest := by
  unfold readDocument at h
  split at h
  · rename_i found after hrun
    obtain rfl := Except.ok.inj h
    obtain ⟨first, mid, hfirst, hmore⟩ := Reads.of_bind hrun
    obtain ⟨next, mid', -, hlast⟩ := Reads.of_bind hmore
    cases next with
    | none =>
      obtain ⟨rfl, -⟩ := Reads.of_pure hlast
      exact ⟨mid, hfirst⟩
    | some b => exact absurd hlast Reads.not_fail
  · contradiction

theorem Schema.Fills.readDocument (h : schema.Fills (nestingLimit - 1) [] record members last) :
    schema.readDocument record (Json.object members).bytes = .ok last := by
  have hread := h.reads (by decide) []
  rw [List.append_nil] at hread
  rw [Schema.readDocument, bytes, print, encode_ofList]
  exact readDocument_of_reads hread

end ClaimRelay.Json
