import ClaimRelay.Proofs.Json.Record
import Mathlib.Data.List.DropRight

/-! What readers find, whatever the bytes are: a value that is read has the members of its objects in order,
nests no deeper than it may, and is `null` only if it begins so.  What every field of a record keeps, reading
the record keeps. -/

namespace ClaimRelay.Json

variable {input rest : List UInt8} {depth fuel : Nat} {v : Json}

theorem Reads.of_peek {b : Option UInt8} (h : Reads Json.peek input b rest) :
    rest = input.dropWhile isSpace ∧ b = rest.head? := by
  obtain ⟨rfl, rfl⟩ := Prod.mk.inj (Except.ok.inj h)
  exact ⟨rfl, rfl⟩

/-! ### Values -/

/-- A value that can be read inside `depth - 1` lists and objects. -/
structure Sound (depth : Nat) (v : Json) : Prop where
  ordered : v.IsOrdered
  depth_lt : v.depth < depth

theorem Sound.of_flat (hdepth : 0 < depth) (h : v.parts = [v]) (hnames : v.names = [])
    (hflat : v.depth = 0) : Sound depth v where
  ordered w hw := by
    rw [h, List.mem_singleton] at hw
    rw [hw, hnames]
    exact .nil
  depth_lt := by rw [hflat]; exact hdepth

theorem Sound.array {items : List Json} (hdepth : 0 < depth) (h : ∀ item ∈ items, Sound depth item) :
    Sound (depth + 1) (.array items) where
  ordered := isOrdered_array.mpr fun item hitem => (h item hitem).ordered
  depth_lt := by
    obtain ⟨n, rfl⟩ := Nat.exists_eq_succ_of_ne_zero (Nat.ne_of_gt hdepth)
    exact Nat.lt_succ_of_le
      (depth_array_le.mpr fun item hitem => Nat.le_of_lt_succ (h item hitem).depth_lt)

theorem Sound.object {members : List (String × Json)} (hdepth : 0 < depth)
    (h : ∀ m ∈ members, Sound depth m.2) (hordered : (members.map (·.1)).Pairwise (· < ·)) :
    Sound (depth + 1) (.object members) where
  ordered := isOrdered_object.mpr ⟨hordered, fun m hm => (h m hm).ordered⟩
  depth_lt := by
    obtain ⟨n, rfl⟩ := Nat.exists_eq_succ_of_ne_zero (Nat.ne_of_gt hdepth)
    exact Nat.lt_succ_of_le (depth_object_le.mpr fun m hm => Nat.le_of_lt_succ (h m hm).depth_lt)

/-- What is found with some fuel: inside a list or an object, the result is one. -/
structure Finds (fuel : Nat) : Prop where
  value : ∀ {depth : Nat} {input rest : List UInt8} {v : Json}, 0 < depth →
    Reads (readValue fuel depth) input v rest →
      Sound depth v ∧ (v = .null → (input.dropWhile isSpace).head? = some (byte 'n'))
  items : ∀ {depth : Nat} {input rest : List UInt8} {v : Json} {found : List Json}, 0 < depth →
    (∀ item ∈ found, Sound depth item) → Reads (readItems fuel depth found) input v rest →
      Sound (depth + 1) v ∧ v ≠ .null
  members : ∀ {depth : Nat} {input rest : List UInt8} {v : Json} {found : List (String × Json)}
    {first : Bool}, 0 < depth → (∀ m ∈ found, Sound depth m.2) →
      (found.map (·.1)).Pairwise (· < ·) → Reads (readMembers fuel depth first found) input v rest →
        Sound (depth + 1) v ∧ v ≠ .null

theorem Reads.of_word {α : Type} {word : List UInt8} {r : Reader α} {value : α}
    (h : Reads (do Json.advance; readWord word; r) input value rest) : ∃ mid, Reads r mid value rest := by
  obtain ⟨_, _, _, hword⟩ := Reads.of_bind h
  obtain ⟨_, mid, _, hlast⟩ := Reads.of_bind hword
  exact ⟨mid, hlast⟩

theorem Reads.of_if_fail {α : Type} {r : Reader α} {value : α} {fault : Fault} {p : Prop}
    [Decidable p] (h : Reads (if p then fail fault else r) input value rest) :
    ¬p ∧ Reads r input value rest := by
  split at h
  · exact absurd h Reads.not_fail
  · exact ⟨‹_›, h⟩

theorem Sound.of_number (hdepth : 0 < depth) (n : Number) : Sound depth n.toJson ∧ n.toJson ≠ .null := by
  cases n with
  | integer n => exact ⟨.of_flat hdepth rfl rfl rfl, nofun⟩
  | double bits => exact ⟨.of_flat hdepth rfl rfl rfl, nofun⟩

theorem Finds.value_succ (ih : Finds fuel) (hdepth : 0 < depth)
    (h : Reads (readValue (fuel + 1) depth) input v rest) :
    Sound depth v ∧ (v = .null → (input.dropWhile isSpace).head? = some (byte 'n')) := by
  rw [readValue] at h
  obtain ⟨b, mid, hpeek, h⟩ := Reads.of_bind h
  obtain ⟨rfl, hb⟩ := Reads.of_peek hpeek
  cases b with
  | none => exact absurd h Reads.not_fail
  | some b =>
    dsimp only at h
    rw [← hb]
    by_cases hnull : b = byte 'n'
    · rw [if_pos hnull] at h
      obtain ⟨_, hlast⟩ := Reads.of_word h
      obtain ⟨rfl, -⟩ := Reads.of_pure hlast
      exact ⟨.of_flat hdepth rfl rfl rfl, fun _ => congrArg some hnull⟩
    -- No other first byte begins a null.
    suffices hsound : Sound depth v ∧ v ≠ .null from ⟨hsound.1, fun hv => absurd hv hsound.2⟩
    rw [if_neg hnull] at h
    by_cases htrue : b = byte 't'
    · rw [if_pos htrue] at h
      obtain ⟨_, hlast⟩ := Reads.of_word h
      obtain ⟨rfl, -⟩ := Reads.of_pure hlast
      exact ⟨.of_flat hdepth rfl rfl rfl, by simp⟩
    rw [if_neg htrue] at h
    by_cases hfalse : b = byte 'f'
    · rw [if_pos hfalse] at h
      obtain ⟨_, hlast⟩ := Reads.of_word h
      obtain ⟨rfl, -⟩ := Reads.of_pure hlast
      exact ⟨.of_flat hdepth rfl rfl rfl, by simp⟩
    rw [if_neg hfalse] at h
    by_cases hminus : b = byte '-'
    · rw [if_pos hminus] at h
      obtain ⟨_, _, _, hnumber⟩ := Reads.of_bind h
      obtain ⟨n, _, _, hlast⟩ := Reads.of_bind hnumber
      obtain ⟨rfl, -⟩ := Reads.of_pure hlast
      exact Sound.of_number hdepth n
    rw [if_neg hminus] at h
    by_cases hdigit : isDigit b = true
    · rw [if_pos hdigit] at h
      obtain ⟨n, _, _, hlast⟩ := Reads.of_bind h
      obtain ⟨rfl, -⟩ := Reads.of_pure hlast
      exact Sound.of_number hdepth n
    rw [if_neg hdigit] at h
    by_cases hquote : b = byte '"'
    · rw [if_pos hquote] at h
      obtain ⟨s, _, _, hlast⟩ := Reads.of_bind h
      obtain ⟨rfl, -⟩ := Reads.of_pure hlast
      exact ⟨.of_flat hdepth rfl rfl rfl, by simp⟩
    rw [if_neg hquote] at h
    by_cases hlist : b = byte '['
    · rw [if_pos hlist] at h
      obtain ⟨hlt, hopen⟩ := Reads.of_if_fail h
      obtain ⟨_, _, _, hitems⟩ := Reads.of_bind hopen
      have hfound := ih.items (by omega) (List.forall_mem_nil _) hitems
      rwa [Nat.sub_add_cancel hdepth] at hfound
    rw [if_neg hlist] at h
    by_cases hobject : b = byte '\x7b'
    · rw [if_pos hobject] at h
      obtain ⟨hlt, hopen⟩ := Reads.of_if_fail h
      obtain ⟨_, _, _, hmembers⟩ := Reads.of_bind hopen
      have hfound := ih.members (by omega) (List.forall_mem_nil _) .nil hmembers
      rwa [Nat.sub_add_cancel hdepth] at hfound
    rw [if_neg hobject] at h
    exact absurd h Reads.not_fail

theorem Finds.items_succ (ih : Finds fuel) {found : List Json} (hdepth : 0 < depth)
    (hfound : ∀ item ∈ found, Sound depth item)
    (h : Reads (readItems (fuel + 1) depth found) input v rest) :
    Sound (depth + 1) v ∧ v ≠ .null := by
  rw [readItems] at h
  obtain ⟨turn, mid, -, h⟩ := Reads.of_bind h
  cases turn with
  | done =>
    obtain ⟨rfl, -⟩ := Reads.of_pure h
    refine ⟨.array hdepth fun item hitem => ?_, by simp⟩
    exact hfound item (List.mem_reverse.mp hitem)
  | item =>
    obtain ⟨item, mid', hitem, hmore⟩ := Reads.of_bind h
    refine ih.items hdepth ?_ hmore
    exact List.forall_mem_cons.mpr ⟨(ih.value hdepth hitem).1, hfound⟩

theorem Finds.members_succ (ih : Finds fuel) {found : List (String × Json)} {first : Bool}
    (hdepth : 0 < depth) (hfound : ∀ m ∈ found, Sound depth m.2)
    (hordered : (found.map (·.1)).Pairwise (· < ·))
    (h : Reads (readMembers (fuel + 1) depth first found) input v rest) :
    Sound (depth + 1) v ∧ v ≠ .null := by
  rw [readMembers] at h
  obtain ⟨turn, mid, -, h⟩ := Reads.of_bind h
  cases turn with
  | done =>
    obtain ⟨rfl, -⟩ := Reads.of_pure h
    exact ⟨.object hdepth hfound hordered, by simp⟩
  | item =>
    obtain ⟨name, _, _, hcolon⟩ := Reads.of_bind h
    obtain ⟨_, _, _, hvalue⟩ := Reads.of_bind hcolon
    obtain ⟨value, _, hread, hmore⟩ := Reads.of_bind hvalue
    refine ih.members hdepth (fun m hm => ?_) (pairwise_insertMember hordered) hmore
    rcases mem_insertMember hm with rfl | hm
    · exact (ih.value hdepth hread).1
    · exact hfound m hm

theorem finds (fuel : Nat) : Finds fuel := by
  induction fuel with
  | zero =>
    constructor
    · intro depth input rest v _ h
      exact absurd h Reads.not_fail
    · intro depth input rest v found _ _ h
      exact absurd h Reads.not_fail
    · intro depth input rest v found first _ _ _ h
      exact absurd h Reads.not_fail
  | succ fuel ih => exact ⟨ih.value_succ, ih.items_succ, ih.members_succ⟩

/-- A value that may be missing, which `null` says. -/
def SoundOption (depth : Nat) (value : Option Json) : Prop := ∀ v ∈ value, Sound depth v ∧ v ≠ .null

theorem found_option {value : Option Json} (hdepth : 0 < depth)
    (h : Reads (readOption (do readValue (← steps) depth)) input value rest) :
    SoundOption depth value := by
  obtain ⟨b, mid, hpeek, h⟩ := Reads.of_bind h
  obtain ⟨rfl, hb⟩ := Reads.of_peek hpeek
  split at h
  · obtain ⟨_, hlast⟩ := Reads.of_word h
    obtain ⟨rfl, -⟩ := Reads.of_pure hlast
    exact nofun
  · rename_i hnull
    obtain ⟨found, _, hread, hlast⟩ := Reads.of_bind h
    obtain ⟨rfl, -⟩ := Reads.of_pure hlast
    obtain ⟨fuel, _, hsteps, hread⟩ := Reads.of_bind hread
    obtain ⟨rfl, rfl⟩ := Prod.mk.inj (Except.ok.inj hsteps)
    obtain ⟨hsound, hhead⟩ := (finds _).value hdepth hread
    -- White space was skipped before the value was looked at.
    rw [List.dropWhile_idempotent, ← hb] at hhead
    rintro v ⟨⟩
    exact ⟨hsound, fun hv => hnull (hhead hv)⟩

/-! ### Records -/

variable {σ : Type} {schema : Schema σ} {Inv : σ → Prop} {record last : σ}

/-- What holds of a record holds after the field was read. -/
def RecordField.Keeps (field : RecordField σ) (depth : Nat) (Inv : σ → Prop) : Prop :=
  ∀ ⦃record after : σ⦄ ⦃input rest : List UInt8⦄, Inv record →
    Reads (field.read depth record) input after rest → Inv after

/-- What holds after any value is set is kept. -/
theorem RecordField.Keeps.of_set {α : Type} {name : String} {reader : Nat → Reader α} {set : σ → α → σ}
    (h : ∀ record a, Inv record → Inv (set record a)) :
    RecordField.Keeps ⟨name, fun depth record => do return set record (← reader depth)⟩ depth Inv := by
  intro record after input rest hrecord hread
  obtain ⟨a, mid, -, hlast⟩ := Reads.of_bind hread
  obtain ⟨rfl, -⟩ := Reads.of_pure hlast
  exact h record a hrecord

theorem readFields_keeps {fields : List (RecordField σ)} {first : Bool}
    (hkeeps : ∀ field ∈ fields, field.Keeps depth Inv) (hrecord : Inv record)
    (h : Reads (readFields depth fields first record) input last rest) : Inv last := by
  induction fields generalizing first record input with
  | nil =>
    rw [readFields] at h
    obtain ⟨b, mid, -, h⟩ := Reads.of_bind h
    cases b with
    | none => exact absurd h Reads.not_fail
    | some b =>
      dsimp only at h
      split at h
      · obtain ⟨_, _, _, hlast⟩ := Reads.of_bind h
        obtain ⟨rfl, -⟩ := Reads.of_pure hlast
        exact hrecord
      · split at h
        · obtain ⟨_, _, _, hcomma⟩ := Reads.of_bind h
          obtain ⟨next, _, _, hfail⟩ := Reads.of_bind hcomma
          exact absurd (Reads.of_if_fail hfail).2 Reads.not_fail
        · exact absurd h Reads.not_fail
  | cons field fields ih =>
    obtain ⟨hfield, hfields⟩ := List.forall_mem_cons.mp hkeeps
    rw [readFields] at h
    obtain ⟨turn, mid, -, h⟩ := Reads.of_bind h
    cases turn with
    | done =>
      obtain ⟨rfl, -⟩ := Reads.of_pure h
      exact hrecord
    | item =>
      obtain ⟨after, _, hread, hmore⟩ := Reads.of_bind h
      exact ih hfields (hfield hrecord hread) hmore

theorem Schema.readObject_keeps {first : Bool} {seen : List String}
    (hkeeps : ∀ field ∈ schema.fields, field.Keeps depth Inv) (hrecord : Inv record)
    (h : Reads (schema.readObject depth fuel first seen record) input last rest) : Inv last := by
  induction fuel generalizing first seen record input with
  | zero => exact absurd h Reads.not_fail
  | succ fuel ih =>
    rw [readObject] at h
    obtain ⟨turn, mid, -, h⟩ := Reads.of_bind h
    cases turn with
    | done =>
      obtain ⟨rfl, -⟩ := Reads.of_pure h
      exact hrecord
    | item =>
      obtain ⟨name, _, _, hmember⟩ := Reads.of_bind h
      split at hmember
      · -- A member that is no field is skipped.
        obtain ⟨_, _, _, hskip⟩ := Reads.of_bind hmember
        obtain ⟨_, _, _, hskip⟩ := Reads.of_bind hskip
        obtain ⟨_, _, _, hmore⟩ := Reads.of_bind hskip
        exact ih hrecord hmore
      · rename_i field hfield
        split at hmember
        · exact absurd hmember Reads.not_throw
        · obtain ⟨_, _, _, hvalue⟩ := Reads.of_bind hmember
          obtain ⟨after, _, hread, hmore⟩ := Reads.of_bind hvalue
          exact ih (hkeeps field (List.mem_of_find?_eq_some hfield) hrecord hread) hmore

theorem not_mismatch {α : Type} {expected : String} {b : UInt8} {a : α} :
    ¬Reads (mismatch expected b) input a rest := by
  intro h
  have hword {word : List UInt8} {e : ReadError} :
      ¬Reads (do advance; readWord word; throw e : Reader α) input a rest := fun h => by
    obtain ⟨_, hlast⟩ := Reads.of_word h
    exact Reads.not_throw hlast
  unfold mismatch at h
  split at h
  · exact hword h
  · split at h
    · exact hword h
    · split at h
      · exact hword h
      · split at h
        · obtain ⟨_, _, _, hnumber⟩ := Reads.of_bind h
          obtain ⟨_, _, _, hlast⟩ := Reads.of_bind hnumber
          exact Reads.not_throw hlast
        · split at h
          · obtain ⟨_, _, _, hlast⟩ := Reads.of_bind h
            exact Reads.not_throw hlast
          · split at h
            · obtain ⟨_, _, _, hlast⟩ := Reads.of_bind h
              exact Reads.not_throw hlast
            · split at h
              · exact Reads.not_throw h
              · split at h
                · exact Reads.not_throw h
                · exact Reads.not_fail h

/-- A record is read from a list or from an object. -/
theorem Schema.of_read (h : Reads (schema.read (depth + 1) record) input last rest) :
    ((input.dropWhile isSpace).head? = some (byte '[') ∧
      Reads (readFields depth schema.fields true record) ((input.dropWhile isSpace).drop 1) last rest) ∨
    ((input.dropWhile isSpace).head? = some (byte '\x7b') ∧
      Reads (schema.readObject depth (2 * ((input.dropWhile isSpace).drop 1).length + 2) true [] record)
        ((input.dropWhile isSpace).drop 1) last rest) := by
  unfold Schema.read at h
  rw [Reads.peek_bind] at h
  split at h
  · exact absurd h Reads.not_fail
  · rename_i b hb
    by_cases hlist : b = byte '['
    · rw [if_pos hlist] at h
      exact .inl ⟨hb.trans (congrArg some hlist), (Reads.of_if_fail h).2⟩
    rw [if_neg hlist] at h
    by_cases hobject : b = byte '\x7b'
    · rw [if_pos hobject] at h
      exact .inr ⟨hb.trans (congrArg some hobject), (Reads.of_if_fail h).2⟩
    rw [if_neg hobject] at h
    exact absurd h not_mismatch

/-- What every field keeps, the record keeps, in either form. -/
theorem Schema.read_keeps (hkeeps : ∀ field ∈ schema.fields, field.Keeps depth Inv)
    (hrecord : Inv record) (h : Reads (schema.read (depth + 1) record) input last rest) :
    Inv last := by
  rcases of_read h with ⟨-, hlist⟩ | ⟨-, hobject⟩
  · exact readFields_keeps hkeeps hrecord hlist
  · exact readObject_keeps hkeeps hrecord hobject

theorem Schema.readDocument_keeps {bytes : List UInt8}
    (hkeeps : ∀ field ∈ schema.fields, field.Keeps (nestingLimit - 1) Inv) (hrecord : Inv record)
    (h : schema.readDocument record bytes = .ok last) : Inv last := by
  obtain ⟨rest, hread⟩ := reads_of_readDocument h
  exact read_keeps hkeeps hrecord hread

end ClaimRelay.Json
