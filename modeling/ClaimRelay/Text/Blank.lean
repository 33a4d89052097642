/-! Blank characters and trimming.  A character is blank when it has the White_Space property, so
trimming removes line ends, tabs and every kind of space, but no zero-width character. -/

namespace ClaimRelay.Text

/-- A character with the White_Space property. -/
def isBlank (c : Char) : Bool :=
  let n := c.toNat
  (9 ≤ n && n ≤ 13) || n == 0x20 || n == 0x85 || n == 0xA0 || n == 0x1680 ||
  (0x2000 ≤ n && n ≤ 0x200A) || n == 0x2028 || n == 0x2029 || n == 0x202F || n == 0x205F ||
  n == 0x3000

/-- `cs` without the blank characters at its front. -/
def trimStart (cs : List Char) : List Char := cs.dropWhile isBlank

/-- `cs` without its longest suffix of characters that satisfy `drop`. -/
def dropSuffix (drop : Char → Bool) (cs : List Char) : List Char :=
  (cs.reverse.dropWhile drop).reverse

/-- `cs` without the blank characters at either end. -/
def trim (cs : List Char) : List Char := dropSuffix isBlank (trimStart cs)

/-- No ASCII character behind the space is blank. -/
theorem isBlank_of_visible {c : Char} (hvisible : 0x20 < c.toNat) (hascii : c.toNat < 128) :
    isBlank c = false := by
  simp only [isBlank, Bool.or_eq_false_iff, Bool.and_eq_false_iff, decide_eq_false_iff_not,
    beq_eq_false_iff_ne]
  omega

theorem dropSuffix_eq_self {drop : Char → Bool} {cs : List Char} (h : ∀ c ∈ cs, drop c = false) :
    dropSuffix drop cs = cs := by
  have hreverse : cs.reverse.dropWhile drop = cs.reverse := by
    cases hcs : cs.reverse with
    | nil => rfl
    | cons c more =>
      have hc : c ∈ cs := List.mem_reverse.mp (hcs ▸ List.mem_cons_self)
      rw [List.dropWhile_cons_of_neg (by simp [h c hc])]
  rw [dropSuffix, hreverse, List.reverse_reverse]

theorem trimStart_eq_self {cs : List Char} (h : ∀ c ∈ cs, isBlank c = false) : trimStart cs = cs := by
  cases cs with
  | nil => rfl
  | cons c more => exact List.dropWhile_cons_of_neg (by simp [h c List.mem_cons_self])

theorem trimStart_append {front : List Char} (h : ∀ c ∈ front, isBlank c = true) (cs : List Char) :
    trimStart (front ++ cs) = trimStart cs :=
  List.dropWhile_append_of_pos h

/-- Trimming stops where what follows is not trimmed. -/
theorem trimStart_append_of_eq {cs : List Char} (h : trimStart cs = cs) (front : List Char) :
    trimStart (front ++ cs) = trimStart front ++ cs := by
  unfold trimStart at h ⊢
  rw [List.dropWhile_append]
  split
  · rename_i hempty
    rw [List.isEmpty_iff.mp hempty, h]
    rfl
  · rfl

theorem dropSuffix_append {drop : Char → Bool} {back : List Char} (h : ∀ c ∈ back, drop c = true)
    (cs : List Char) : dropSuffix drop (cs ++ back) = dropSuffix drop cs := by
  have hback : ∀ c ∈ back.reverse, drop c = true := fun c hc => h c (List.mem_reverse.mp hc)
  rw [dropSuffix, List.reverse_append, List.dropWhile_append_of_pos hback]
  rfl

/-- Only what stands after a character that stays can be dropped. -/
theorem dropSuffix_append_cons {drop : Char → Bool} {c : Char} (h : drop c = false)
    (front back : List Char) :
    dropSuffix drop (front ++ c :: back) = front ++ c :: dropSuffix drop back := by
  have hstays : (c :: front.reverse).dropWhile drop = c :: front.reverse :=
    List.dropWhile_cons_of_neg (by simp [h])
  have hreverse : (front ++ c :: back).reverse = back.reverse ++ c :: front.reverse := by simp
  rw [dropSuffix, hreverse, List.dropWhile_append, hstays]
  split
  · rename_i hempty
    rw [dropSuffix, List.isEmpty_iff.mp hempty]
    simp
  · simp [dropSuffix]

theorem mem_of_mem_trimStart {c : Char} {cs : List Char} (h : c ∈ trimStart cs) : c ∈ cs :=
  (List.dropWhile_sublist isBlank).mem h

theorem mem_of_mem_dropSuffix {drop : Char → Bool} {c : Char} {cs : List Char}
    (h : c ∈ dropSuffix drop cs) : c ∈ cs := by
  have hmem := (List.dropWhile_sublist drop).mem (List.mem_reverse.mp h)
  exact List.mem_reverse.mp hmem

/-- Whether `cs` holds nothing but blank characters. -/
def allBlank (cs : List Char) : Bool := cs.all isBlank

/-- A text that is left by trimming ends with a character that is not blank. -/
theorem allBlank_trim {cs : List Char} (h : trim cs ≠ []) : allBlank (trim cs) = false := by
  have hkept : (trimStart cs).reverse.dropWhile isBlank ≠ [] := by
    intro hnone
    exact h (congrArg List.reverse hnone)
  have hlast := List.head_dropWhile_not isBlank hkept
  rw [allBlank, List.all_eq_false]
  refine ⟨_, List.mem_reverse.mpr (List.head_mem hkept), ?_⟩
  simp [hlast]

end ClaimRelay.Text
