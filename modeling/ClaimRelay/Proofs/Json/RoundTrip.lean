import ClaimRelay.Json.Value
import ClaimRelay.Proofs.Json.Nesting
import ClaimRelay.Proofs.Json.Reads

/-! Values are read as they were printed, if they have no double inside and nest no deeper than the reader
allows. -/

namespace ClaimRelay.Json

open Text.Utf8

variable {input rest : List UInt8} {b : UInt8} {depth fuel : Nat} {items : List Json}
  {members : List (String × Json)}

/-! ### Turns -/

theorem Reads.listItem_first (hspace : isSpace b = false) (hend : b ≠ byte ']') :
    Reads (listTurn true) (b :: input) .item (b :: input) := by
  refine (Reads.peek hspace input).bind ?_
  dsimp only
  rw [if_neg hend, if_pos rfl]
  exact .pure _ _

theorem Reads.listItem_next (hspace : isSpace b = false) (hend : b ≠ byte ']') :
    Reads (listTurn false) (byte ',' :: b :: input) .item (b :: input) := by
  refine (Reads.peek (by decide) _).bind ?_
  dsimp only
  rw [if_neg (by decide), if_neg Bool.false_ne_true, if_pos rfl]
  refine (Reads.advance _ _).bind ?_
  refine (Reads.peek hspace input).bind ?_
  dsimp only
  rw [if_neg hend]
  exact .pure _ _

theorem Reads.listDone (first : Bool) (input : List UInt8) :
    Reads (listTurn first) (byte ']' :: input) .done input := by
  refine (Reads.peek (by decide) _).bind ?_
  dsimp only
  rw [if_pos rfl]
  exact (Reads.advance _ _).bind (.pure _ _)

theorem Reads.objectItem_first (input : List UInt8) :
    Reads (objectTurn true) (byte '"' :: input) .item (byte '"' :: input) := by
  refine (Reads.peek (by decide) _).bind ?_
  dsimp only
  rw [if_neg (by decide), if_pos rfl, if_pos rfl]
  exact .pure _ _

theorem Reads.objectItem_next (input : List UInt8) :
    Reads (objectTurn false) (byte ',' :: byte '"' :: input) .item (byte '"' :: input) := by
  refine (Reads.peek (by decide) _).bind ?_
  dsimp only
  rw [if_neg (by decide), if_neg Bool.false_ne_true, if_pos rfl]
  refine (Reads.advance _ _).bind ?_
  refine (Reads.peek (by decide) input).bind ?_
  dsimp only
  rw [if_pos rfl]
  exact .pure _ _

theorem Reads.objectDone (first : Bool) (input : List UInt8) :
    Reads (objectTurn first) (byte '\x7d' :: input) .done input := by
  refine (Reads.peek (by decide) _).bind ?_
  dsimp only
  rw [if_pos rfl]
  exact (Reads.advance _ _).bind (.pure _ _)

theorem Reads.colon (input : List UInt8) : Reads readColon (byte ':' :: input) () input := by
  refine (Reads.peek (by decide) _).bind ?_
  dsimp only
  rw [if_pos rfl]
  exact .advance _ _

/-! ### What is printed -/

/-- A member as it is printed. -/
def printMember (m : String × Json) : List Char := printString m.1 ++ ':' :: printChars m.2

/-- The items of a list after the first one, as they are printed. -/
def printNextItems (items : List Json) : List Char := items.flatMap fun item => ',' :: printChars item

/-- The members of an object after the first one, as they are printed. -/
def printNextMembers (members : List (String × Json)) : List Char :=
  members.flatMap fun m => ',' :: printMember m

theorem printItems_cons (item : Json) (items : List Json) :
    printItems (item :: items) = printChars item ++ printNextItems items := by
  induction items generalizing item with
  | nil => simp [printItems, printNextItems]
  | cons next items ih => simp [printItems, ih, printNextItems]

theorem printMembers_cons (m : String × Json) (members : List (String × Json)) :
    printMembers (m :: members) = printMember m ++ printNextMembers members := by
  induction members generalizing m with
  | nil => simp [printMembers, printNextMembers, printMember]
  | cons next members ih =>
    obtain ⟨name, value⟩ := m
    simp [printMembers, ih, printNextMembers, printMember]

theorem spell_nextItems_cons (item : Json) (items : List Json) (rest : List UInt8) :
    spell (printNextItems (item :: items)) ++ rest =
      byte ',' :: (spell (printChars item) ++ (spell (printNextItems items) ++ rest)) := by
  show spell (',' :: printChars item ++ printNextItems items) ++ _ = _
  rw [List.cons_append, spell_cons_of_lt (by decide), spell_append, ← List.append_assoc]
  rfl

theorem spell_nextMembers_cons (m : String × Json) (members : List (String × Json))
    (rest : List UInt8) : spell (printNextMembers (m :: members)) ++ rest =
      byte ',' :: (spell (printMember m) ++ (spell (printNextMembers members) ++ rest)) := by
  show spell (',' :: printMember m ++ printNextMembers members) ++ _ = _
  rw [List.cons_append, spell_cons_of_lt (by decide), spell_append, ← List.append_assoc]
  rfl

theorem spell_array (items : List Json) (rest : List UInt8) :
    spell (printChars (.array items)) ++ rest =
      byte '[' :: (spell (printItems items) ++ byte ']' :: rest) := by
  rw [printChars, List.cons_append, spell_cons_of_lt (by decide), spell_append, List.cons_append,
    List.append_assoc]
  rfl

theorem spell_object (members : List (String × Json)) (rest : List UInt8) :
    spell (printChars (.object members)) ++ rest =
      byte '\x7b' :: (spell (printMembers members) ++ byte '\x7d' :: rest) := by
  rw [printChars, List.cons_append, spell_cons_of_lt (by decide), spell_append, List.cons_append,
    List.append_assoc]
  rfl

theorem length_le_spell_members (members : List (String × Json)) :
    members.length ≤ (spell (printMembers members)).length := by
  have hnext (members : List (String × Json)) :
      members.length ≤ (spell (printNextMembers members)).length := by
    induction members with
    | nil => exact Nat.le_refl 0
    | cons m members ih =>
      have hcons := congrArg List.length (spell_nextMembers_cons m members [])
      simp only [List.append_nil, List.length_cons, List.length_append] at hcons
      rw [List.length_cons, hcons]
      omega
  cases members with
  | nil => exact Nat.zero_le _
  | cons m members =>
    have hpos : 0 < (spell (printMember m)).length := by
      rw [printMember, printString, List.cons_append, List.cons_append,
        spell_cons_of_lt (by decide)]
      exact Nat.zero_lt_succ _
    have hrest := hnext members
    rw [printMembers_cons, spell_append, List.length_append, List.length_cons]
    omega

theorem ends_spell_nextItems (items : List Json) (rest : List UInt8) :
    Ends (spell (printNextItems items) ++ byte ']' :: rest) := by
  cases items with
  | nil => simp [printNextItems, Ends]
  | cons item items =>
    simp [printNextItems, Ends, spell_cons_of_lt (show ','.toNat < 128 by decide), byte]

theorem ends_spell_nextMembers (members : List (String × Json)) (rest : List UInt8) :
    Ends (spell (printNextMembers members) ++ byte '\x7d' :: rest) := by
  cases members with
  | nil => simp [printNextMembers, Ends]
  | cons m members =>
    simp [printNextMembers, Ends, spell_cons_of_lt (show ','.toNat < 128 by decide), byte]

/-- What is printed of a value begins neither with white space nor with the end of a list, and only `null`
begins with its letter. -/
theorem exists_head_printChars {v : Json} (h : v.isDouble = false) :
    ∃ b more, spell (printChars v) = b :: more ∧ isSpace b = false ∧ b ≠ byte ']' ∧
      (b = byte 'n' → v = .null) := by
  cases v with
  | null => exact ⟨byte 'n', spell ['u', 'l', 'l'], rfl, by decide, by decide, fun _ => rfl⟩
  | bool value =>
    cases value with
    | true =>
      exact ⟨byte 't', spell ['r', 'u', 'e'], rfl, by decide, by decide, fun h => absurd h (by decide)⟩
    | false =>
      exact ⟨byte 'f', spell ['a', 'l', 's', 'e'], rfl, by decide, by decide,
        fun h => absurd h (by decide)⟩
  | integer n =>
    have hend : Ends [] := fun b hb => by simp at hb
    by_cases hn : n.val < 0
    · obtain ⟨digits, hprint, -⟩ := reads_printInt_neg hn hend
      rw [List.append_nil] at hprint
      exact ⟨byte '-', digits, hprint, by decide, by decide, fun h => absurd h (by decide)⟩
    · obtain ⟨b, digits, hb, hprint, -⟩ := reads_printInt_nonneg hn hend
      rw [List.append_nil] at hprint
      refine ⟨b, digits, hprint, isSpace_of_isDigit hb, ?_, ?_⟩
      · rintro rfl
        exact absurd hb (by decide)
      · rintro rfl
        exact absurd hb (by decide)
  | double => simp [isDouble] at h
  | string s =>
    exact ⟨byte '"', _, spell_cons_of_lt (by decide) _, by decide, by decide,
      fun h => absurd h (by decide)⟩
  | array items =>
    exact ⟨byte '[', _, spell_cons_of_lt (by decide) _, by decide, by decide,
      fun h => absurd h (by decide)⟩
  | object members =>
    exact ⟨byte '\x7b', _, spell_cons_of_lt (by decide) _, by decide, by decide,
      fun h => absurd h (by decide)⟩

theorem Reads.firstItem {item : Json} (h : item.isDouble = false) (tail : List UInt8) :
    Reads (listTurn true) (spell (printChars item) ++ tail) .item (spell (printChars item) ++ tail) := by
  obtain ⟨b, more, hprint, hspace, hend, -⟩ := exists_head_printChars h
  rw [hprint]
  exact .listItem_first hspace hend

theorem Reads.nextItem {item : Json} (h : item.isDouble = false) (tail : List UInt8) :
    Reads (listTurn false) (byte ',' :: (spell (printChars item) ++ tail)) .item
      (spell (printChars item) ++ tail) := by
  obtain ⟨b, more, hprint, hspace, hend, -⟩ := exists_head_printChars h
  rw [hprint]
  exact .listItem_next hspace hend

theorem Reads.firstMember (m : String × Json) (tail : List UInt8) :
    Reads (objectTurn true) (spell (printMember m) ++ tail) .item (spell (printMember m) ++ tail) := by
  rw [printMember, printString, List.cons_append, List.cons_append, spell_cons_of_lt (by decide)]
  exact .objectItem_first _

theorem Reads.nextMember (m : String × Json) (tail : List UInt8) :
    Reads (objectTurn false) (byte ',' :: (spell (printMember m) ++ tail)) .item
      (spell (printMember m) ++ tail) := by
  rw [printMember, printString, List.cons_append, List.cons_append, spell_cons_of_lt (by decide)]
  exact .objectItem_next _

/-! ### Values -/

/-- A value is read as it was printed, with enough fuel, inside `depth - 1` lists and objects. -/
def Readable (depth : Nat) (v : Json) : Prop :=
  ∀ fuel rest, (printChars v).length ≤ fuel → Ends rest →
    Reads (readValue fuel depth) (spell (printChars v) ++ rest) v rest

theorem length_pos {v : Json} (h : v.isDouble = false) : 0 < (printChars v).length := by
  obtain ⟨b, more, hprint, -⟩ := exists_head_printChars h
  apply List.length_pos_iff.mpr
  intro hnil
  simp [hnil] at hprint

/-- There is fuel for a value that is not empty. -/
theorem Readable.of_succ {v : Json} (hdouble : v.isDouble = false)
    (h : ∀ fuel rest, (printChars v).length ≤ fuel + 1 → Ends rest →
      Reads (readValue (fuel + 1) depth) (spell (printChars v) ++ rest) v rest) : Readable depth v := by
  intro fuel rest hfuel hrest
  have hpos := length_pos hdouble
  obtain ⟨fuel, rfl⟩ := Nat.exists_eq_succ_of_ne_zero (show fuel ≠ 0 by omega)
  exact h fuel rest hfuel hrest

theorem reads_nextItems (h : ∀ item ∈ items, Readable depth item ∧ item.isDouble = false)
    {found : List Json} (hfound : found ≠ []) (hfuel : (printNextItems items).length < fuel) :
    Reads (readItems fuel depth found) (spell (printNextItems items) ++ byte ']' :: rest)
      (.array (found.reverse ++ items)) rest := by
  have hempty {l : List Json} (hl : l ≠ []) : l.isEmpty = false := by simpa using hl
  induction items generalizing found fuel with
  | nil =>
    obtain ⟨fuel, rfl⟩ := Nat.exists_eq_succ_of_ne_zero (Nat.ne_of_gt hfuel)
    rw [readItems, hempty hfound, List.append_nil]
    exact (Reads.listDone false rest).bind (.pure _ rest)
  | cons item items ih =>
    obtain ⟨⟨hread, hdouble⟩, hrest⟩ := List.forall_mem_cons.mp h
    have hlength : (printNextItems (item :: items)).length =
        (printChars item).length + (printNextItems items).length + 1 := by
      simp [printNextItems]
    rw [hlength] at hfuel
    obtain ⟨fuel, rfl⟩ := Nat.exists_eq_succ_of_ne_zero (show fuel ≠ 0 by omega)
    rw [spell_nextItems_cons, readItems, hempty hfound]
    refine (Reads.nextItem hdouble _).bind ?_
    refine (hread fuel _ (by omega) (ends_spell_nextItems items rest)).bind ?_
    have hmore := ih hrest (List.cons_ne_nil item found) (show _ < fuel by omega)
    rw [List.reverse_cons, List.append_assoc] at hmore
    exact hmore

theorem readable_array (hdepth : 1 < depth)
    (h : ∀ item ∈ items, Readable (depth - 1) item ∧ item.isDouble = false) :
    Readable depth (.array items) := by
  refine .of_succ rfl fun fuel rest hfuel _ => ?_
  rw [spell_array, readValue]
  refine (Reads.peek (by decide) _).bind ?_
  dsimp only
  rw [if_neg (by decide), if_neg (by decide), if_neg (by decide), if_neg (by decide),
    if_neg (by decide), if_neg (by decide), if_pos rfl, if_neg (Nat.not_le.mpr hdepth)]
  refine (Reads.advance _ _).bind ?_
  rw [printChars, List.length_append, List.length_cons] at hfuel
  obtain ⟨fuel, rfl⟩ := Nat.exists_eq_succ_of_ne_zero (show fuel ≠ 0 by simp at hfuel; omega)
  cases items with
  | nil =>
    rw [printItems, spell_nil, List.nil_append, readItems]
    exact (Reads.listDone true rest).bind (.pure _ rest)
  | cons item items =>
    obtain ⟨⟨hread, hdouble⟩, hrest⟩ := List.forall_mem_cons.mp h
    have hpos := length_pos hdouble
    rw [printItems_cons, List.length_append, List.length_singleton] at hfuel
    rw [printItems_cons, spell_append, List.append_assoc, readItems]
    refine (Reads.firstItem hdouble _).bind ?_
    refine (hread fuel _ (by omega) (ends_spell_nextItems items rest)).bind ?_
    exact reads_nextItems hrest (List.cons_ne_nil item []) (by omega)

theorem reads_member {m : String × Json} (h : Readable depth m.2) (hfuel : (printMember m).length ≤ fuel)
    {f : String → Json → Reader Json} {found : Json} {last : List UInt8} (hrest : Ends rest)
    (hnext : Reads (f m.1 m.2) rest found last) :
    Reads (do
      let name ← readString
      readColon
      let value ← readValue fuel depth
      f name value) (spell (printMember m) ++ rest) found last := by
  rw [printMember, List.length_append, List.length_cons] at hfuel
  rw [printMember, spell_append, spell_cons_of_lt (by decide), List.append_assoc]
  refine (reads_printString m.1 _).bind ?_
  refine (Reads.colon _).bind ?_
  exact (h fuel rest (by omega) hrest).bind hnext

theorem reads_nextMembers (h : ∀ m ∈ members, Readable depth m.2) {found : List (String × Json)}
    (hordered : ((found ++ members).map (·.1)).Pairwise (· < ·))
    (hfuel : (printNextMembers members).length < fuel) :
    Reads (readMembers fuel depth false found) (spell (printNextMembers members) ++ byte '\x7d' :: rest)
      (.object (found ++ members)) rest := by
  induction members generalizing found fuel with
  | nil =>
    obtain ⟨fuel, rfl⟩ := Nat.exists_eq_succ_of_ne_zero (Nat.ne_of_gt hfuel)
    rw [readMembers, List.append_nil]
    exact (Reads.objectDone false rest).bind (.pure _ rest)
  | cons m members ih =>
    obtain ⟨hread, hrest⟩ := List.forall_mem_cons.mp h
    have hlength : (printNextMembers (m :: members)).length =
        (printMember m).length + (printNextMembers members).length + 1 := by
      simp [printNextMembers]
    rw [hlength] at hfuel
    obtain ⟨fuel, rfl⟩ := Nat.exists_eq_succ_of_ne_zero (show fuel ≠ 0 by omega)
    have hlast : insertMember m.1 m.2 found = found ++ [m] := by
      apply insertMember_of_lt
      intro k hk
      rw [List.map_append, List.pairwise_append] at hordered
      exact hordered.2.2 k.1 (List.mem_map_of_mem hk) m.1 (.head _)
    rw [spell_nextMembers_cons, readMembers]
    refine (Reads.nextMember m _).bind ?_
    have hfits : (printMember m).length ≤ fuel := by omega
    refine reads_member hread hfits (ends_spell_nextMembers members rest) ?_
    rw [List.append_cons] at hordered
    have hmore := ih hrest hordered (show _ < fuel by omega)
    rw [List.append_assoc] at hmore
    rw [hlast]
    exact hmore

theorem readable_object (hdepth : 1 < depth) (h : ∀ m ∈ members, Readable (depth - 1) m.2)
    (hordered : (members.map (·.1)).Pairwise (· < ·)) : Readable depth (.object members) := by
  refine .of_succ rfl fun fuel rest hfuel _ => ?_
  rw [printChars, List.length_append, List.length_cons, List.length_singleton] at hfuel
  rw [spell_object, readValue]
  refine (Reads.peek (by decide) _).bind ?_
  dsimp only
  rw [if_neg (by decide), if_neg (by decide), if_neg (by decide), if_neg (by decide),
    if_neg (by decide), if_neg (by decide), if_neg (by decide), if_pos rfl,
    if_neg (Nat.not_le.mpr hdepth)]
  refine (Reads.advance _ _).bind ?_
  obtain ⟨fuel, rfl⟩ := Nat.exists_eq_succ_of_ne_zero (show fuel ≠ 0 by omega)
  cases members with
  | nil =>
    rw [printMembers, spell_nil, List.nil_append, readMembers]
    exact (Reads.objectDone true rest).bind (.pure _ rest)
  | cons m members =>
    obtain ⟨hread, hrest⟩ := List.forall_mem_cons.mp h
    rw [printMembers_cons, List.length_append] at hfuel
    rw [printMembers_cons, spell_append, List.append_assoc, readMembers]
    have hpos : 0 < (printMember m).length := by simp [printMember, printString]
    have hfits : (printMember m).length ≤ fuel := by omega
    refine (Reads.firstMember m _).bind ?_
    refine reads_member hread hfits (ends_spell_nextMembers members rest) ?_
    exact reads_nextMembers hrest hordered (by omega)

theorem isDouble_of_isExact {v : Json} (h : v.IsExact) : v.isDouble = false := by
  cases v <;> exact h _ (.head _)

/-- A number is read as it was printed. -/
theorem readable_integer (n : Integer) : Readable depth (.integer n) := by
  refine .of_succ rfl fun fuel rest _ hrest => ?_
  rw [printChars, readValue]
  by_cases hn : n.val < 0
  · obtain ⟨digits, hprint, hread⟩ := reads_printInt_neg hn hrest
    rw [hprint]
    refine (Reads.peek (by decide) _).bind ?_
    dsimp only
    rw [if_neg (by decide), if_neg (by decide), if_neg (by decide), if_pos rfl]
    refine (Reads.advance _ _).bind ?_
    exact hread.bind (.pure _ rest)
  · obtain ⟨b, digits, hb, hprint, hread⟩ := reads_printInt_nonneg hn hrest
    have hne {c : Char} (hc : isDigit (byte c) = false) : b ≠ byte c := by
      rintro rfl
      exact absurd (hb.symm.trans hc) (by decide)
    rw [hprint]
    refine (Reads.peek (isSpace_of_isDigit hb) _).bind ?_
    dsimp only
    rw [if_neg (hne (by decide)), if_neg (hne (by decide)), if_neg (hne (by decide)),
      if_neg (hne (by decide)), if_pos hb]
    exact hread.bind (.pure _ rest)

theorem readable_string (s : String) : Readable depth (.string s) := by
  refine .of_succ rfl fun fuel rest _ _ => ?_
  obtain ⟨more, hprint⟩ : ∃ more, spell (printString s) = byte '"' :: more :=
    ⟨_, spell_cons_of_lt (by decide) _⟩
  have hread := reads_printString s rest
  rw [printChars, readValue]
  rw [hprint] at hread ⊢
  refine (Reads.peek (by decide) _).bind ?_
  dsimp only
  rw [if_neg (by decide), if_neg (by decide), if_neg (by decide), if_neg (by decide),
    if_neg (by decide), if_pos rfl]
  exact hread.bind (.pure _ rest)

theorem readable_null : Readable depth .null := by
  refine .of_succ rfl fun fuel rest _ _ => ?_
  show Reads (readValue (fuel + 1) depth) (byte 'n' :: ([byte 'u', byte 'l', byte 'l'] ++ rest)) .null rest
  rw [readValue]
  refine (Reads.peek (by decide) _).bind ?_
  dsimp only
  rw [if_pos rfl]
  refine (Reads.advance _ _).bind ?_
  exact (Reads.word _ rest).bind (.pure _ rest)

theorem readable_bool (value : Bool) : Readable depth (.bool value) := by
  refine .of_succ rfl fun fuel rest _ _ => ?_
  cases value with
  | true =>
    show Reads (readValue (fuel + 1) depth)
      (byte 't' :: ([byte 'r', byte 'u', byte 'e'] ++ rest)) (.bool true) rest
    rw [readValue]
    refine (Reads.peek (by decide) _).bind ?_
    dsimp only
    rw [if_neg (by decide), if_pos rfl]
    refine (Reads.advance _ _).bind ?_
    exact (Reads.word _ rest).bind (.pure _ rest)
  | false =>
    show Reads (readValue (fuel + 1) depth)
      (byte 'f' :: ([byte 'a', byte 'l', byte 's', byte 'e'] ++ rest)) (.bool false) rest
    rw [readValue]
    refine (Reads.peek (by decide) _).bind ?_
    dsimp only
    rw [if_neg (by decide), if_neg (by decide), if_pos rfl]
    refine (Reads.advance _ _).bind ?_
    exact (Reads.word _ rest).bind (.pure _ rest)

/-- A value without doubles is read as it was printed. -/
theorem readable {v : Json} (hexact : v.IsExact) (hordered : v.IsOrdered) (hdepth : v.depth < depth) :
    Readable depth v := by
  induction v using Json.induction generalizing depth with
  | null => exact readable_null
  | bool value => exact readable_bool value
  | integer n => exact readable_integer n
  | double bits => exact absurd (isDouble_of_isExact hexact) (by simp [isDouble])
  | string s => exact readable_string s
  | array items ih =>
    rw [isExact_array] at hexact
    rw [isOrdered_array] at hordered
    have hlt : 1 < depth := Nat.lt_of_le_of_lt (Nat.le_add_left 1 _) hdepth
    obtain ⟨n, rfl⟩ : ∃ n, depth = n + 2 := ⟨depth - 2, by omega⟩
    have hle := depth_array_le.mp (Nat.le_of_lt_succ hdepth)
    refine readable_array hlt fun item hitem => ⟨?_, isDouble_of_isExact (hexact item hitem)⟩
    exact ih item hitem (hexact item hitem) (hordered item hitem) (Nat.lt_succ_of_le (hle item hitem))
  | object members ih =>
    rw [isExact_object] at hexact
    obtain ⟨hnames, hordered⟩ := isOrdered_object.mp hordered
    have hlt : 1 < depth := Nat.lt_of_le_of_lt (Nat.le_add_left 1 _) hdepth
    obtain ⟨n, rfl⟩ : ∃ n, depth = n + 2 := ⟨depth - 2, by omega⟩
    have hle := depth_object_le.mp (Nat.le_of_lt_succ hdepth)
    refine readable_object hlt (fun m hm => ?_) hnames
    exact ih m hm (hexact m hm) (hordered m hm) (Nat.lt_succ_of_le (hle m hm))

end ClaimRelay.Json
