import ClaimRelay.Json.Basic

/-! What is inside a value: how deeply lists and objects enclose each other, and which values there are.
`induction` goes from the items of a list and the members of an object to the value that they make. -/

namespace ClaimRelay.Json

theorem induction {P : Json → Prop} (null : P .null) (bool : ∀ b, P (.bool b))
    (integer : ∀ n, P (.integer n)) (double : ∀ bits, P (.double bits))
    (string : ∀ s, P (.string s)) (array : ∀ items, (∀ item ∈ items, P item) → P (.array items))
    (object : ∀ members, (∀ m ∈ members, P m.2) → P (.object members)) (v : Json) : P v :=
  match v with
  | .null => null
  | .bool b => bool b
  | .integer n => integer n
  | .double bits => double bits
  | .string s => string s
  | .array items => array items fun item _ =>
      induction null bool integer double string array object item
  | .object members => object members fun m _ =>
      induction null bool integer double string array object m.2
termination_by v
decreasing_by
  · rename_i hitem
    have hlt := List.sizeOf_lt_of_mem hitem
    rw [Json.array.sizeOf_spec]
    omega
  · rename_i hm
    have hlt := List.sizeOf_lt_of_mem hm
    obtain ⟨name, value⟩ := m
    rw [Prod.mk.sizeOf_spec] at hlt
    rw [Json.object.sizeOf_spec]
    show sizeOf value < _
    omega

/-! ### Depth -/

mutual

/-- How many lists and objects enclose each other. -/
def depth : Json → Nat
  | .array items => depthOfItems items + 1
  | .object members => depthOfMembers members + 1
  | _ => 0

/-- The greatest depth of some items. -/
def depthOfItems : List Json → Nat
  | [] => 0
  | item :: rest => max (depth item) (depthOfItems rest)

/-- The greatest depth of the values of some members. -/
def depthOfMembers : List (String × Json) → Nat
  | [] => 0
  | (_, value) :: rest => max (depth value) (depthOfMembers rest)

end

variable {items : List Json} {members : List (String × Json)} {n : Nat}

theorem depthOfItems_le : depthOfItems items ≤ n ↔ ∀ item ∈ items, item.depth ≤ n := by
  induction items with
  | nil => simp [depthOfItems]
  | cons item rest ih => rw [depthOfItems, Nat.max_le, ih, List.forall_mem_cons]

theorem depthOfMembers_eq (members : List (String × Json)) :
    depthOfMembers members = depthOfItems (members.map (·.2)) := by
  induction members with
  | nil => rfl
  | cons m rest ih => rw [depthOfMembers, ih, List.map_cons, depthOfItems]

theorem depth_array_le : (Json.array items).depth ≤ n + 1 ↔ ∀ item ∈ items, item.depth ≤ n := by
  rw [depth, Nat.add_le_add_iff_right, depthOfItems_le]

theorem depth_object_le : (Json.object members).depth ≤ n + 1 ↔ ∀ m ∈ members, m.2.depth ≤ n := by
  rw [depth, Nat.add_le_add_iff_right, depthOfMembers_eq, depthOfItems_le, List.forall_mem_map]

/-! ### Parts -/

mutual

/-- The values inside a value, and the value itself. -/
def parts : Json → List Json
  | .array items => .array items :: partsOfItems items
  | .object members => .object members :: partsOfMembers members
  | v => [v]

/-- The values inside some items. -/
def partsOfItems : List Json → List Json
  | [] => []
  | item :: rest => parts item ++ partsOfItems rest

/-- The values inside the values of some members. -/
def partsOfMembers : List (String × Json) → List Json
  | [] => []
  | (_, value) :: rest => parts value ++ partsOfMembers rest

end

/-- Whether a value is a number that is kept as a double. -/
def isDouble : Json → Bool
  | .double _ => true
  | _ => false

/-- The names of the members of an object. -/
def names : Json → List String
  | .object members => members.map (·.1)
  | _ => []

/-- There is no double inside a value. -/
def IsExact (v : Json) : Prop := ∀ w ∈ v.parts, w.isDouble = false

/-- The members of each object inside a value are in ascending order of their names. -/
def IsOrdered (v : Json) : Prop := ∀ w ∈ v.parts, w.names.Pairwise (· < ·)

instance (v : Json) : Decidable v.IsExact := inferInstanceAs (Decidable (∀ w ∈ v.parts, _))

instance (v : Json) : Decidable v.IsOrdered := inferInstanceAs (Decidable (∀ w ∈ v.parts, _))

variable {P : Json → Prop}

theorem forall_partsOfItems :
    (∀ w ∈ partsOfItems items, P w) ↔ ∀ item ∈ items, ∀ w ∈ item.parts, P w := by
  induction items with
  | nil => simp [partsOfItems]
  | cons item rest ih => rw [partsOfItems, List.forall_mem_append, ih, List.forall_mem_cons]

theorem partsOfMembers_eq (members : List (String × Json)) :
    partsOfMembers members = partsOfItems (members.map (·.2)) := by
  induction members with
  | nil => rfl
  | cons m rest ih => rw [partsOfMembers, ih, List.map_cons, partsOfItems]

theorem forall_parts_array : (∀ w ∈ (Json.array items).parts, P w) ↔
    P (.array items) ∧ ∀ item ∈ items, ∀ w ∈ item.parts, P w := by
  rw [parts, List.forall_mem_cons, forall_partsOfItems]

theorem forall_parts_object : (∀ w ∈ (Json.object members).parts, P w) ↔
    P (.object members) ∧ ∀ m ∈ members, ∀ w ∈ m.2.parts, P w := by
  rw [parts, List.forall_mem_cons, partsOfMembers_eq, forall_partsOfItems, List.forall_mem_map]

theorem isExact_array : (Json.array items).IsExact ↔ ∀ item ∈ items, item.IsExact :=
  forall_parts_array.trans (and_iff_right rfl)

theorem isExact_object : (Json.object members).IsExact ↔ ∀ m ∈ members, m.2.IsExact :=
  forall_parts_object.trans (and_iff_right rfl)

theorem isOrdered_array : (Json.array items).IsOrdered ↔ ∀ item ∈ items, item.IsOrdered :=
  forall_parts_array.trans (and_iff_right .nil)

theorem isOrdered_object : (Json.object members).IsOrdered ↔
    (members.map (·.1)).Pairwise (· < ·) ∧ ∀ m ∈ members, m.2.IsOrdered :=
  forall_parts_object

/-! ### Members -/

theorem insertMember_of_lt {name : String} {value : Json} (h : ∀ m ∈ members, m.1 < name) :
    insertMember name value members = members ++ [(name, value)] := by
  induction members with
  | nil => rfl
  | cons m rest ih =>
    obtain ⟨k, v⟩ := m
    obtain ⟨hk, hrest⟩ := List.forall_mem_cons.mp h
    have hk' : k < name := hk
    rw [insertMember, if_neg (String.lt_asymm hk'), if_neg (String.ne_of_lt hk').symm, ih hrest]
    rfl

theorem mem_insertMember {name : String} {value : Json} {m : String × Json}
    (h : m ∈ insertMember name value members) : m = (name, value) ∨ m ∈ members := by
  induction members with
  | nil => exact .inl (List.mem_singleton.mp h)
  | cons first rest ih =>
    obtain ⟨k, v⟩ := first
    rw [insertMember] at h
    split at h
    · exact List.mem_cons.mp h
    · split at h
      · exact (List.mem_cons.mp h).imp_right (List.mem_cons_of_mem _)
      · rcases List.mem_cons.mp h with rfl | h
        · exact .inr List.mem_cons_self
        · exact (ih h).imp_right (List.mem_cons_of_mem _)

theorem pairwise_insertMember {name : String} {value : Json}
    (h : (members.map (·.1)).Pairwise (· < ·)) :
    ((insertMember name value members).map (·.1)).Pairwise (· < ·) := by
  induction members with
  | nil => simp [insertMember]
  | cons first rest ih =>
    obtain ⟨k, v⟩ := first
    obtain ⟨hfirst, hrest⟩ := List.pairwise_cons.mp h
    rw [List.forall_mem_map] at hfirst
    rw [insertMember]
    split
    · rename_i hlt
      refine List.pairwise_cons.mpr ⟨?_, h⟩
      rw [List.forall_mem_map, List.forall_mem_cons]
      exact ⟨hlt, fun m hm => String.lt_trans hlt (hfirst m hm)⟩
    · split
      · rename_i heq
        subst heq
        exact List.pairwise_cons.mpr ⟨List.forall_mem_map.mpr hfirst, hrest⟩
      · rename_i hle hne
        have hlt : k < name := Std.lt_of_le_of_ne (String.not_lt.mp hle) (Ne.symm hne)
        refine List.pairwise_cons.mpr ⟨?_, ih hrest⟩
        rw [List.forall_mem_map]
        intro m hm
        rcases mem_insertMember hm with rfl | hm
        · exact hlt
        · exact hfirst m hm

theorem lookup_insertMember (name other : String) (value : Json) (members : List (String × Json)) :
    (insertMember name value members).lookup other =
      if other = name then some value else members.lookup other := by
  have hcons (k : String) (v : Json) (rest : List (String × Json)) :
      ((k, v) :: rest).lookup other = if other = k then some v else rest.lookup other := by
    rw [List.lookup_cons]
    by_cases h : other = k
    · simp [h]
    · simp [h, beq_eq_false_iff_ne.mpr h]
  induction members with
  | nil => exact hcons name value []
  | cons first rest ih =>
    obtain ⟨k, v⟩ := first
    rw [insertMember]
    split
    · exact hcons name value _
    · split
      · rename_i heq
        subst heq
        rw [hcons, hcons]
        split <;> rfl
      · rename_i hne
        rw [hcons, ih, hcons]
        by_cases hother : other = name
        · rw [if_neg (hother ▸ hne), if_pos hother, if_pos hother]
        · rw [if_neg hother, if_neg hother]

end ClaimRelay.Json
