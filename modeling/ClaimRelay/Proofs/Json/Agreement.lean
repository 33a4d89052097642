import ClaimRelay.Proofs.Json.Skipping

/-! Two readers of the same bytes.  Records whose fields agree are read together, whatever form they have,
and so are a record and the value that stands for it. -/

namespace ClaimRelay.Json

variable {α β σ τ : Type} {input rest : List UInt8} {depth depth' fuel fuel' : Nat} {first : Bool}

/-- Where both readers succeed they leave the same rest, and what they find is related. -/
def Agree (r : Reader α) (s : Reader β) (P : α → β → Prop) : Prop :=
  ∀ ⦃input rest rest' a b⦄, Reads r input a rest → Reads s input b rest' → rest' = rest ∧ P a b

/-! ### Two records -/

variable {P : σ → τ → Prop} {schema : Schema σ} {schema' : Schema τ} {fields : List (RecordField σ)}
  {fields' : List (RecordField τ)} {record : σ} {record' : τ}

/-- Fields of the same name that keep two records related. -/
structure RecordField.Agrees (depth : Nat) (P : σ → τ → Prop) (field : RecordField σ)
    (field' : RecordField τ) : Prop where
  name : field'.name = field.name
  read : ∀ {record record'}, P record record' →
    Agree (field.read depth record) (field'.read depth record') P

/-- The same reader sets both. -/
theorem RecordField.Agrees.of_set {name : String} {reader : Nat → Reader α} {set : σ → α → σ}
    {set' : τ → α → τ} (h : ∀ {record record'} a, P record record' → P (set record a) (set' record' a)) :
    RecordField.Agrees depth P ⟨name, fun depth record => do return set record (← reader depth)⟩
      ⟨name, fun depth record => do return set' record (← reader depth)⟩ := by
  refine ⟨rfl, fun hP input rest rest' after after' hread hread' => ?_⟩
  obtain ⟨a, mid, ha, hlast⟩ := Reads.of_bind hread
  have hlast' : Reads (pure (set' _ a)) mid after' rest' := ha.after hread'
  obtain ⟨rfl, rfl⟩ := Reads.of_pure hlast
  obtain ⟨rfl, rfl⟩ := Reads.of_pure hlast'
  exact ⟨rfl, h a hP⟩

theorem Reads.of_noFields {last : σ} (h : Reads (readFields depth [] first record) input last rest) :
    last = record ∧ (input.dropWhile isSpace).head? = Option.some (byte ']') ∧
      rest = (input.dropWhile isSpace).drop 1 := by
  rw [readFields, peek_bind] at h
  split at h
  · exact absurd h not_fail
  · rename_i b hb
    split at h
    · rename_i hend
      rw [advance_bind] at h
      obtain ⟨rfl, rfl⟩ := of_pure h
      exact ⟨rfl, hb.trans (congrArg _ hend), rfl⟩
    · split at h
      · obtain ⟨_, _, _, hcomma⟩ := of_bind h
        obtain ⟨_, _, _, hfail⟩ := of_bind hcomma
        exact absurd (of_if_fail hfail).2 not_fail
      · exact absurd h not_fail

theorem agree_readFields (h : List.Forall₂ (RecordField.Agrees depth P) fields fields')
    (hP : P record record') :
    Agree (readFields depth fields first record) (readFields depth fields' first record') P := by
  intro input rest rest' last last' hread hread'
  induction h generalizing first record record' input with
  | nil =>
    obtain ⟨rfl, -, rfl⟩ := hread.of_noFields
    obtain ⟨rfl, -, rfl⟩ := hread'.of_noFields
    exact ⟨rfl, hP⟩
  | @cons field field' fields fields' hfield hfields ih =>
    rw [readFields] at hread hread'
    obtain ⟨turn, mid, hturn, hread⟩ := Reads.of_bind hread
    have hread' := hturn.after hread'
    cases turn with
    | done =>
      obtain ⟨rfl, rfl⟩ := Reads.of_pure hread
      obtain ⟨rfl, rfl⟩ := Reads.of_pure hread'
      exact ⟨rfl, hP⟩
    | item =>
      obtain ⟨after, mid, hset, hmore⟩ := Reads.of_bind hread
      obtain ⟨after', mid', hset', hmore'⟩ := Reads.of_bind hread'
      obtain ⟨rfl, hafter⟩ := hfield.read hP hset hset'
      exact ih hafter hmore hmore'

theorem find?_agrees (h : List.Forall₂ (RecordField.Agrees depth P) fields fields') (name : String) :
    Option.Rel (RecordField.Agrees depth P) (fields.find? (·.name == name))
      (fields'.find? (·.name == name)) := by
  induction h with
  | nil => exact .none
  | cons hfield _ ih =>
    rw [List.find?_cons, List.find?_cons, hfield.name]
    split
    · exact .some hfield
    · exact ih

theorem agree_readObject {seen : List String}
    (h : List.Forall₂ (RecordField.Agrees depth P) schema.fields schema'.fields) (hP : P record record') :
    Agree (schema.readObject depth fuel first seen record)
      (schema'.readObject depth fuel first seen record') P := by
  intro input rest rest' last last' hread hread'
  induction fuel generalizing first seen record record' input with
  | zero => exact absurd hread Reads.not_fail
  | succ fuel ih =>
    rw [Schema.readObject] at hread hread'
    obtain ⟨turn, mid, hturn, hread⟩ := Reads.of_bind hread
    have hread' := hturn.after hread'
    cases turn with
    | done =>
      obtain ⟨rfl, rfl⟩ := Reads.of_pure hread
      obtain ⟨rfl, rfl⟩ := Reads.of_pure hread'
      exact ⟨rfl, hP⟩
    | item =>
      obtain ⟨name, _, hname, hread⟩ := Reads.of_bind hread
      have hread' := hname.after hread'
      have hfound := find?_agrees h name
      generalize schema.fields.find? (·.name == name) = field at hread hfound
      generalize schema'.fields.find? (·.name == name) = field' at hread' hfound
      cases hfound with
      | none =>
        obtain ⟨_, _, hcolon, hread⟩ := Reads.of_bind hread
        obtain ⟨_, _, hsteps, hread⟩ := Reads.of_bind hread
        obtain ⟨_, _, hskip, hmore⟩ := Reads.of_bind hread
        exact ih hP hmore (hskip.after (hsteps.after (hcolon.after hread')))
      | some hfield =>
        dsimp only at hread hread'
        split at hread
        · exact absurd hread Reads.not_throw
        · rename_i hnew
          rw [if_neg hnew] at hread'
          obtain ⟨_, _, hcolon, hread⟩ := Reads.of_bind hread
          obtain ⟨after, _, hset, hmore⟩ := Reads.of_bind hread
          obtain ⟨after', _, hset', hmore'⟩ := Reads.of_bind (hcolon.after hread')
          obtain ⟨rfl, hafter⟩ := hfield.read hP hset hset'
          exact ih hafter hmore hmore'

/-- Records with fields that agree are read together, in either form. -/
theorem Schema.agree_read (h : List.Forall₂ (RecordField.Agrees depth P) schema.fields schema'.fields)
    (hP : P record record') : Agree (schema.read (depth + 1) record) (schema'.read (depth + 1) record') P := by
  intro input rest rest' last last' hread hread'
  rcases of_read hread with ⟨hhead, hlist⟩ | ⟨hhead, hobject⟩ <;>
    rcases of_read hread' with ⟨hhead', hlist'⟩ | ⟨hhead', hobject'⟩
  · exact agree_readFields h hP hlist hlist'
  · exact absurd (Option.some.inj (hhead.symm.trans hhead')) (by decide)
  · exact absurd (Option.some.inj (hhead.symm.trans hhead')) (by decide)
  · exact agree_readObject h hP hobject hobject'

theorem Schema.agree_readDocument {bytes : List UInt8} {last : σ} {last' : τ}
    (h : List.Forall₂ (RecordField.Agrees (nestingLimit - 1) P) schema.fields schema'.fields)
    (hP : P record record') (hread : schema.readDocument record bytes = .ok last)
    (hread' : schema'.readDocument record' bytes = .ok last') : P last last' := by
  obtain ⟨_, hread⟩ := reads_of_readDocument hread
  obtain ⟨_, hread'⟩ := reads_of_readDocument hread'
  exact (agree_read h hP hread hread').2

/-! ### The first byte of a value -/

variable {v : Json}

namespace Reads

theorem of_null (h : Reads (readValue fuel depth) input v rest)
    (hb : (input.dropWhile isSpace).head? = Option.some (byte 'n')) : v = .null ∧
      Reads (do Json.advance; readWord [byte 'u', byte 'l', byte 'l']) (input.dropWhile isSpace) () rest := by
  cases fuel with
  | zero => exact absurd h not_fail
  | succ fuel =>
    rw [readValue, peek_bind, hb] at h
    dsimp only at h
    rw [if_pos rfl] at h
    obtain ⟨_, mid, hadvance, h⟩ := of_bind h
    obtain ⟨_, mid', hword, h⟩ := of_bind h
    obtain ⟨rfl, rfl⟩ := of_pure h
    exact ⟨rfl, hadvance.bind hword⟩

theorem of_quote (h : Reads (readValue fuel depth) input v rest)
    (hb : (input.dropWhile isSpace).head? = Option.some (byte '"')) :
    ∃ s, v = .string s ∧ Reads readString (input.dropWhile isSpace) s rest := by
  cases fuel with
  | zero => exact absurd h not_fail
  | succ fuel =>
    rw [readValue, peek_bind, hb] at h
    dsimp only at h
    iterate 5 rw [if_neg (by decide)] at h
    rw [if_pos rfl] at h
    obtain ⟨s, mid, hstring, h⟩ := of_bind h
    obtain ⟨rfl, rfl⟩ := of_pure h
    exact ⟨s, rfl, hstring⟩

theorem of_bracket (h : Reads (readValue fuel depth) input v rest)
    (hb : (input.dropWhile isSpace).head? = Option.some (byte '[')) :
    ∃ fuel, Reads (readItems fuel (depth - 1) []) ((input.dropWhile isSpace).drop 1) v rest := by
  cases fuel with
  | zero => exact absurd h not_fail
  | succ fuel =>
    rw [readValue, peek_bind, hb] at h
    dsimp only at h
    iterate 6 rw [if_neg (by decide)] at h
    rw [if_pos rfl] at h
    exact ⟨fuel, (of_if_fail h).2⟩

theorem of_brace (h : Reads (readValue fuel depth) input v rest)
    (hb : (input.dropWhile isSpace).head? = Option.some (byte '\x7b')) :
    ∃ fuel, Reads (readMembers fuel (depth - 1) true []) ((input.dropWhile isSpace).drop 1) v rest := by
  cases fuel with
  | zero => exact absurd h not_fail
  | succ fuel =>
    rw [readValue, peek_bind, hb] at h
    dsimp only at h
    iterate 7 rw [if_neg (by decide)] at h
    rw [if_pos rfl] at h
    exact ⟨fuel, (of_if_fail h).2⟩

/-- White space before a value does not matter. -/
theorem readValue_dropWhile : Reads (readValue fuel depth) (input.dropWhile isSpace) v rest ↔
    Reads (readValue fuel depth) input v rest := by
  cases fuel with
  | zero => exact ⟨fun h => absurd h not_fail, fun h => absurd h not_fail⟩
  | succ fuel => rw [readValue, peek_bind, peek_bind, List.dropWhile_idempotent]

end Reads

theorem agree_text (expected : String) :
    Agree (readText expected) (readValue fuel depth) fun s v => v = .string s := by
  intro input rest rest' s v hread hvalue
  unfold readText at hread
  rw [Reads.peek_bind] at hread
  split at hread
  · exact absurd hread Reads.not_fail
  · rename_i b hb
    split at hread
    · rename_i hquote
      obtain ⟨s', rfl, hstring⟩ := hvalue.of_quote (hb.trans (congrArg some hquote))
      obtain ⟨rfl, rfl⟩ := hread.unique hstring
      exact ⟨rfl, rfl⟩
    · exact absurd hread not_mismatch

theorem agree_optional (expected : String) : Agree (readOption (readText expected)) (readValue fuel depth)
    fun o v => v = o.elim .null .string := by
  intro input rest rest' o v hread hvalue
  unfold readOption at hread
  rw [Reads.peek_bind] at hread
  split at hread
  · rename_i hnull
    obtain ⟨rfl, hword⟩ := hvalue.of_null hnull
    obtain ⟨_, mid, hadvance, hread⟩ := Reads.of_bind hread
    obtain ⟨_, mid', hword', hread⟩ := Reads.of_bind hread
    obtain ⟨rfl, rfl⟩ := Reads.of_pure hread
    exact ⟨((hadvance.bind hword').unique hword).2, rfl⟩
  · obtain ⟨s, mid, htext, hread⟩ := Reads.of_bind hread
    obtain ⟨rfl, rfl⟩ := Reads.of_pure hread
    exact agree_text expected htext (Reads.readValue_dropWhile.mpr hvalue)

/-! ### A record and a value -/

/-- Some text sets the field and is read as the value. -/
def RecordField.SetBy (field : RecordField σ) (depth : Nat) (record : σ) (v : Json) (after : σ) : Prop :=
  ∃ fuel depth' input rest rest', Reads (field.read depth record) input after rest ∧
    Reads (readValue fuel depth') input v rest'

/-- What sets the field ends where a value ends. -/
def RecordField.EndsAsValue (field : RecordField σ) (depth : Nat) : Prop :=
  ∀ (record : σ) (fuel depth' : Nat),
    Agree (field.read depth record) (readValue fuel depth') fun _ _ => True

/-- The record that a list gives. -/
inductive ListSets (depth : Nat) : List (RecordField σ) → σ → List Json → σ → Prop
  | nil {fields : List (RecordField σ)} {record : σ} : ListSets depth fields record [] record
  | cons {field : RecordField σ} {fields : List (RecordField σ)} {record after last : σ} {v : Json}
      {items : List Json} (hset : field.SetBy depth record v after)
      (hmore : ListSets depth fields after items last) :
      ListSets depth (field :: fields) record (v :: items) last

theorem agree_items {found : List Json} (hends : ∀ field ∈ fields, field.EndsAsValue depth)
    (hfirst : found.isEmpty = first) :
    Agree (readFields depth fields first record) (readItems fuel depth' found) fun last v =>
      ∃ items, v = .array (found.reverse ++ items) ∧ ListSets depth fields record items last := by
  intro input rest rest' last v hread hvalue
  induction fields generalizing record fuel found first input with
  | nil =>
    cases fuel with
    | zero => exact absurd hvalue Reads.not_fail
    | succ fuel =>
      obtain ⟨rfl, hend, rfl⟩ := hread.of_noFields
      rw [readItems, hfirst] at hvalue
      obtain ⟨turn, mid, hturn, hvalue⟩ := Reads.of_bind hvalue
      have hturns : Frame.Turns .list first input turn mid := Frame.turns hturn
      cases hturns with
      | done =>
        obtain ⟨rfl, rfl⟩ := Reads.of_pure hvalue
        exact ⟨rfl, [], by rw [List.append_nil], .nil⟩
      | first hhead hb => exact absurd (Option.some.inj (hhead.symm.trans hend)) hb
      | next hhead => exact absurd (Option.some.inj (hhead.symm.trans hend)) (by decide)
  | cons field fields ih =>
    obtain ⟨hfield, hfields⟩ := List.forall_mem_cons.mp hends
    cases fuel with
    | zero => exact absurd hvalue Reads.not_fail
    | succ fuel =>
      rw [readFields] at hread
      rw [readItems, hfirst] at hvalue
      obtain ⟨turn, mid, hturn, hread⟩ := Reads.of_bind hread
      have hvalue := hturn.after hvalue
      cases turn with
      | done =>
        obtain ⟨rfl, rfl⟩ := Reads.of_pure hread
        obtain ⟨rfl, rfl⟩ := Reads.of_pure hvalue
        exact ⟨rfl, [], by rw [List.append_nil], .nil⟩
      | item =>
        obtain ⟨after, mid, hset, hmore⟩ := Reads.of_bind hread
        obtain ⟨item, mid', hitem, hmore'⟩ := Reads.of_bind hvalue
        obtain ⟨rfl, -⟩ := hfield _ _ _ hset hitem
        obtain ⟨rfl, items, rfl, hsets⟩ := ih hfields List.isEmpty_cons hmore hmore'
        refine ⟨rfl, item :: items, ?_, .cons ⟨_, _, _, _, _, hset, hitem⟩ hsets⟩
        rw [List.reverse_cons, List.append_assoc]
        rfl

variable {R : List (String × Json) → σ → Prop} {members : List (String × Json)}

theorem agree_members {seen : List String} (hends : ∀ field ∈ schema.fields, field.EndsAsValue depth)
    (hset : ∀ {field members record v after}, field ∈ schema.fields →
      field.SetBy depth record v after → R members record → R (insertMember field.name v members) after)
    (hskip : ∀ {name members record v}, (∀ field ∈ schema.fields, field.name ≠ name) →
      R members record → R (insertMember name v members) record)
    (hR : R members record) :
    Agree (schema.readObject depth fuel first seen record) (readMembers fuel' depth' first members)
      fun last v => ∃ members, v = .object members ∧ R members last := by
  intro input rest rest' last v hread hvalue
  induction fuel generalizing fuel' first seen record members input with
  | zero => exact absurd hread Reads.not_fail
  | succ fuel ih =>
    cases fuel' with
    | zero => exact absurd hvalue Reads.not_fail
    | succ fuel' =>
      rw [Schema.readObject] at hread
      rw [readMembers] at hvalue
      obtain ⟨turn, mid, hturn, hread⟩ := Reads.of_bind hread
      have hvalue := hturn.after hvalue
      cases turn with
      | done =>
        obtain ⟨rfl, rfl⟩ := Reads.of_pure hread
        obtain ⟨rfl, rfl⟩ := Reads.of_pure hvalue
        exact ⟨rfl, members, rfl, hR⟩
      | item =>
        obtain ⟨name, _, hname, hread⟩ := Reads.of_bind hread
        have hvalue := hname.after hvalue
        split at hread
        · rename_i hnone
          obtain ⟨_, _, hcolon, hread⟩ := Reads.of_bind hread
          obtain ⟨_, _, hsteps, hread⟩ := Reads.of_bind hread
          obtain ⟨_, _, hskipped, hmore⟩ := Reads.of_bind hread
          obtain ⟨item, _, hitem, hmore'⟩ := Reads.of_bind (hcolon.after hvalue)
          obtain ⟨rfl, rfl⟩ := Prod.mk.inj (Except.ok.inj hsteps)
          obtain rfl := rest_of_skipValue hitem hskipped
          refine ih (hskip ?_ hR) hmore hmore'
          simpa using List.find?_eq_none.mp hnone
        · rename_i field hfound
          obtain rfl : field.name = name := by simpa using List.find?_some hfound
          have hmem := List.mem_of_find?_eq_some hfound
          split at hread
          · exact absurd hread Reads.not_throw
          · obtain ⟨_, _, hcolon, hread⟩ := Reads.of_bind hread
            obtain ⟨after, _, hsets, hmore⟩ := Reads.of_bind hread
            obtain ⟨item, _, hitem, hmore'⟩ := Reads.of_bind (hcolon.after hvalue)
            obtain ⟨rfl, -⟩ := hends field hmem _ _ _ hsets hitem
            exact ih (hset hmem ⟨_, _, _, _, _, hsets, hitem⟩ hR) hmore hmore'

/-- A record and a value that are read from the same text. -/
theorem Schema.agree_value (hends : ∀ field ∈ schema.fields, field.EndsAsValue depth)
    (hset : ∀ {field members record v after}, field ∈ schema.fields →
      field.SetBy depth record v after → R members record → R (insertMember field.name v members) after)
    (hskip : ∀ {name members record v}, (∀ field ∈ schema.fields, field.name ≠ name) →
      R members record → R (insertMember name v members) record)
    (hR : R [] record) :
    Agree (schema.read (depth + 1) record) (readValue fuel depth') fun last v =>
      (∃ items, v = .array items ∧ ListSets depth schema.fields record items last) ∨
        ∃ members, v = .object members ∧ R members last := by
  intro input rest rest' last v hread hvalue
  rcases of_read hread with ⟨hhead, hlist⟩ | ⟨hhead, hobject⟩
  · obtain ⟨_, hitems⟩ := hvalue.of_bracket hhead
    obtain ⟨hrest, items, hv, hsets⟩ := agree_items hends List.isEmpty_nil hlist hitems
    exact ⟨hrest, .inl ⟨items, hv, hsets⟩⟩
  · obtain ⟨_, hmembers⟩ := hvalue.of_brace hhead
    obtain ⟨hrest, hfound⟩ := agree_members hends hset hskip hR hobject hmembers
    exact ⟨hrest, .inr hfound⟩

end ClaimRelay.Json
