/-! Splitting a text at a separator.  `split sep` and `join sep` are inverse to each other on lists
of pieces that do not hold the separator. -/

namespace ClaimRelay.Text

/-- Puts a character in front of the pieces found so far: the separator opens a new piece, any
other character joins the first one. -/
def splitStep (sep c : Char) : List (List Char) → List (List Char)
  | [] => if c = sep then [[], []] else [[c]]
  | piece :: rest => if c = sep then [] :: piece :: rest else (c :: piece) :: rest

/-- The pieces of `cs` between the occurrences of `sep`, in order.  There is always at least one;
two neighbouring separators enclose an empty piece. -/
def split (sep : Char) (cs : List Char) : List (List Char) := cs.foldr (splitStep sep) [[]]

/-- The pieces, with `sep` between any two neighbours. -/
def join (sep : Char) (pieces : List (List Char)) : List Char := List.intercalate [sep] pieces

@[simp] theorem split_nil (sep : Char) : split sep [] = [[]] := rfl

theorem split_cons (sep c : Char) (cs : List Char) :
    split sep (c :: cs) = splitStep sep c (split sep cs) := rfl

theorem split_ne_nil (sep : Char) (cs : List Char) : split sep cs ≠ [] := by
  cases cs with
  | nil => simp
  | cons c cs =>
    rw [split_cons]
    cases split sep cs <;> simp only [splitStep] <;> split <;> simp

theorem split_of_not_mem {sep : Char} {piece : List Char} (h : sep ∉ piece) :
    split sep piece = [piece] := by
  induction piece with
  | nil => rfl
  | cons c piece ih =>
    rw [List.mem_cons, not_or] at h
    rw [split_cons, ih h.2, splitStep, if_neg (Ne.symm h.1)]

theorem split_append {sep : Char} {piece : List Char} (h : sep ∉ piece) (cs : List Char) :
    split sep (piece ++ sep :: cs) = piece :: split sep cs := by
  induction piece with
  | nil =>
    rw [List.nil_append, split_cons]
    cases hs : split sep cs with
    | nil => exact absurd hs (split_ne_nil sep cs)
    | cons first rest => rw [splitStep, if_pos rfl]
  | cons c piece ih =>
    rw [List.mem_cons, not_or] at h
    rw [List.cons_append, split_cons, ih h.2, splitStep, if_neg (Ne.symm h.1)]

/-- A text is split on both sides of a separator on its own. -/
theorem split_append_cons (sep : Char) (cs ds : List Char) :
    split sep (cs ++ sep :: ds) = split sep cs ++ split sep ds := by
  induction cs with
  | nil => exact split_append List.not_mem_nil ds
  | cons c cs ih =>
    rw [List.cons_append, split_cons, split_cons, ih]
    cases hs : split sep cs with
    | nil => exact absurd hs (split_ne_nil sep cs)
    | cons piece rest => by_cases hc : c = sep <;> simp [splitStep, hc]

theorem length_split (sep : Char) (cs : List Char) :
    (split sep cs).length = cs.count sep + 1 := by
  induction cs with
  | nil => rfl
  | cons c cs ih =>
    rw [split_cons]
    cases hs : split sep cs with
    | nil => exact absurd hs (split_ne_nil sep cs)
    | cons piece rest =>
      rw [hs] at ih
      by_cases hc : c = sep
      · simpa [splitStep, hc] using ih
      · simpa [splitStep, hc] using ih

/-- Splitting undoes joining, if no piece holds the separator. -/
theorem split_join {sep : Char} {pieces : List (List Char)} (hne : pieces ≠ [])
    (h : ∀ piece ∈ pieces, sep ∉ piece) : split sep (join sep pieces) = pieces := by
  induction pieces with
  | nil => exact absurd rfl hne
  | cons piece rest ih =>
    cases rest with
    | nil =>
      rw [join, List.intercalate_singleton]
      exact split_of_not_mem (h piece List.mem_cons_self)
    | cons next rest =>
      have hrest := ih (List.cons_ne_nil next rest) fun p hp => h p (List.mem_cons_of_mem _ hp)
      rw [join, List.intercalate_cons_cons, List.append_assoc, List.singleton_append,
        split_append (h piece List.mem_cons_self)]
      exact congrArg (piece :: ·) hrest

/-- Joining undoes splitting. -/
theorem join_split (sep : Char) (cs : List Char) : join sep (split sep cs) = cs := by
  induction cs with
  | nil => rfl
  | cons c cs ih =>
    rw [split_cons]
    cases hs : split sep cs with
    | nil => exact absurd hs (split_ne_nil sep cs)
    | cons piece rest =>
      rw [hs] at ih
      by_cases hc : c = sep
      · rw [splitStep, if_pos hc, join, List.intercalate_cons_cons, hc]
        exact congrArg (sep :: ·) ih
      · rw [splitStep, if_neg hc, ← ih]
        cases rest <;> simp [join, List.intercalate_cons_cons, List.intercalate_singleton]

theorem split_injective {sep : Char} {cs ds : List Char} (h : split sep cs = split sep ds) :
    cs = ds := by
  rw [← join_split sep cs, h, join_split]

/-- No piece holds the separator. -/
theorem not_mem_of_mem_split {sep : Char} {cs piece : List Char} (h : piece ∈ split sep cs) :
    sep ∉ piece := by
  induction cs generalizing piece with
  | nil => simp_all
  | cons c cs ih =>
    rw [split_cons] at h
    cases hs : split sep cs with
    | nil => exact absurd hs (split_ne_nil sep cs)
    | cons first rest =>
      rw [hs] at h ih
      by_cases hc : c = sep
      · rw [splitStep, if_pos hc, List.mem_cons] at h
        rcases h with rfl | h
        · exact List.not_mem_nil
        · exact ih h
      · rw [splitStep, if_neg hc, List.mem_cons] at h
        rcases h with rfl | h
        · rw [List.mem_cons, not_or]
          exact ⟨Ne.symm hc, ih List.mem_cons_self⟩
        · exact ih (List.mem_cons_of_mem _ h)

/-- A character of a joined text is a separator, or it comes from a piece. -/
theorem eq_or_mem_of_mem_join {sep c : Char} {pieces : List (List Char)}
    (h : c ∈ join sep pieces) : c = sep ∨ ∃ piece ∈ pieces, c ∈ piece := by
  induction pieces with
  | nil => simp [join] at h
  | cons piece rest ih =>
    cases rest with
    | nil =>
      rw [join, List.intercalate_singleton] at h
      exact .inr ⟨piece, List.mem_cons_self, h⟩
    | cons next rest =>
      rw [join, List.intercalate_cons_cons, List.append_assoc, List.singleton_append,
        List.mem_append, List.mem_cons] at h
      rcases h with hpiece | hsep | hrest
      · exact .inr ⟨piece, List.mem_cons_self, hpiece⟩
      · exact .inl hsep
      · rcases ih hrest with hsep | ⟨p, hp, hc⟩
        · exact .inl hsep
        · exact .inr ⟨p, List.mem_cons_of_mem _ hp, hc⟩

/-- The pieces hold nothing but characters of the text. -/
theorem mem_of_mem_split {sep c : Char} {cs piece : List Char} (h : piece ∈ split sep cs)
    (hc : c ∈ piece) : c ∈ cs := by
  induction cs generalizing piece with
  | nil => simp_all
  | cons d cs ih =>
    rw [split_cons] at h
    cases hs : split sep cs with
    | nil => exact absurd hs (split_ne_nil sep cs)
    | cons first rest =>
      rw [hs] at h ih
      by_cases hd : d = sep
      · rw [splitStep, if_pos hd, List.mem_cons] at h
        rcases h with rfl | h
        · simp at hc
        · exact List.mem_cons_of_mem _ (ih h hc)
      · rw [splitStep, if_neg hd, List.mem_cons] at h
        rcases h with rfl | h
        · rw [List.mem_cons] at hc ⊢
          exact hc.imp_right (ih List.mem_cons_self)
        · exact List.mem_cons_of_mem _ (ih (List.mem_cons_of_mem _ h) hc)

end ClaimRelay.Text
