import ClaimRelay.Bus.Error
import Mathlib.Data.List.Forall2

/-! What a pattern matches, and which texts are subjects and patterns.  A pattern without the wildcard for
the rest matches a subject token by token; with it at its end, it matches the subjects that go on after the
tokens before it.  Both kinds of text are tokens joined by periods, and each text is so in one way. -/

namespace ClaimRelay

namespace Subject

/-! ### Matching -/

/-- A token of a pattern stands for a token of a subject. -/
def StandsFor (p t : Token) : Prop := p = single ∨ p = t

theorem covers_cons {p t : Token} (hp : p ≠ rest) (ps ts : List Token) :
    covers (p :: ps) (t :: ts) = true ↔ StandsFor p t ∧ covers ps ts = true := by
  rw [covers, if_neg hp]
  by_cases h : p = single ∨ p = t
  · rw [if_pos h]
    exact (and_iff_right h).symm
  · rw [if_neg h]
    exact iff_of_false Bool.false_ne_true fun hboth => h hboth.1

theorem covers_iff_forall₂ {pattern : List Token} (h : rest ∉ pattern) (subject : List Token) :
    covers pattern subject = true ↔ List.Forall₂ StandsFor pattern subject := by
  induction pattern generalizing subject with
  | nil => cases subject <;> simp [covers]
  | cons p ps ih =>
    rw [List.mem_cons, not_or] at h
    cases subject with
    | nil => simp [covers]
    | cons t ts => rw [covers_cons (Ne.symm h.1), ih h.2, List.forall₂_cons]

/-- Where only the rest of the pattern is left, there must be a token left of the subject. -/
theorem covers_append_rest {init : List Token} (h : rest ∉ init) (subject : List Token) :
    covers (init ++ [rest]) subject = true ↔
      init.length + 1 ≤ subject.length ∧
        List.Forall₂ StandsFor init (subject.take init.length) := by
  induction init generalizing subject with
  | nil => cases subject <;> simp [covers]
  | cons p ps ih =>
    rw [List.mem_cons, not_or] at h
    cases subject with
    | nil => simp [covers]
    | cons t ts =>
      rw [List.cons_append, covers_cons (Ne.symm h.1), ih h.2, List.length_cons, List.length_cons,
        List.take_succ_cons, List.forall₂_cons]
      constructor
      · rintro ⟨hfirst, hlength, hrest⟩
        exact ⟨by omega, hfirst, hrest⟩
      · rintro ⟨hlength, hfirst, hrest⟩
        exact ⟨hfirst, by omega, hrest⟩

/-! ### Grammars -/

/-- A token as it may stand in a pattern. -/
structure IsToken (t : Token) : Prop where
  ne_nil : t ≠ []
  no_period : '.' ∉ t
  no_blank : ∀ c ∈ t, Text.isBlank c = false

/-- A token as it may stand in a subject. -/
structure IsName (t : Token) : Prop extends IsToken t where
  ne_single : t ≠ single
  ne_rest : t ≠ rest

theorem isName_iff {t : Token} : IsName t ↔
    (t ≠ [] ∧ '.' ∉ t ∧ t.all (!Text.isBlank ·) = true) ∧ t ≠ single ∧ t ≠ rest := by
  rw [List.all_eq_true]
  simp only [Bool.not_eq_true']
  constructor
  · intro h
    exact ⟨⟨h.ne_nil, h.no_period, h.no_blank⟩, h.ne_single, h.ne_rest⟩
  · rintro ⟨⟨hne, hperiod, hblank⟩, hsingle, hrest⟩
    exact ⟨⟨hne, hperiod, hblank⟩, hsingle, hrest⟩

instance (t : Token) : Decidable (IsName t) := decidable_of_iff' _ isName_iff

/-- A text that is made of the given tokens, joined by periods. -/
structure MadeOf (s : String) (ts : List Token) : Prop where
  ne_nil : ts ≠ []
  joined : s.toList = Text.join '.' ts
  isToken : ∀ t ∈ ts, IsToken t

variable {s : String} {ts : List Token}

/-- A text is made of its own tokens or of none. -/
theorem MadeOf.tokens_eq (h : MadeOf s ts) : tokens s = ts := by
  rw [tokens, h.joined]
  exact Text.split_join h.ne_nil fun t ht => (h.isToken t ht).no_period

theorem MadeOf.not_blank (h : MadeOf s ts) : ∀ c ∈ s.toList, Text.isBlank c = false := by
  intro c hc
  rw [h.joined] at hc
  rcases Text.eq_or_mem_of_mem_join hc with rfl | ⟨t, ht, hct⟩
  · decide
  · exact (h.isToken t ht).no_blank c hct

theorem tokens_ne_nil (s : String) : tokens s ≠ [] := Text.split_ne_nil '.' s.toList

theorem tokenFlaw?_eq_none_iff : tokenFlaw? s = none ↔ MadeOf s (tokens s) := by
  constructor
  · intro h
    unfold tokenFlaw? at h
    split at h
    · simp at h
    · split at h
      · simp at h
      · rename_i hblank
        split at h
        · simp at h
        · rename_i hempty
          rw [List.any_eq_true, not_exists] at hblank hempty
          refine ⟨tokens_ne_nil s, (Text.join_split '.' s.toList).symm, fun t ht => ?_⟩
          refine ⟨?_, Text.not_mem_of_mem_split ht, fun c hc => ?_⟩
          · intro hnil
            exact hempty t ⟨ht, by simpa using hnil⟩
          · have hmem : c ∈ s.toList := Text.mem_of_mem_split ht hc
            simpa using fun hc' => hblank c ⟨hmem, hc'⟩
  · intro h
    have hchars : s.toList ≠ [] := by
      intro hnil
      have htokens : tokens s = [[]] := by rw [tokens, hnil, Text.split_nil]
      exact (h.isToken [] (htokens ▸ List.mem_singleton_self [])).ne_nil rfl
    have hblank : ¬s.toList.any Text.isBlank = true := by
      rw [List.any_eq_true]
      rintro ⟨c, hc, hc'⟩
      simp [h.not_blank c hc] at hc'
    have hempty : ¬(tokens s).any (· = []) = true := by
      rw [List.any_eq_true]
      rintro ⟨t, ht, hnil⟩
      exact (h.isToken t ht).ne_nil (by simpa using hnil)
    rw [tokenFlaw?, if_neg hchars, if_neg hblank, if_neg hempty]

theorem subjectFlaw?_eq_none_iff :
    subjectFlaw? s = none ↔ MadeOf s (tokens s) ∧ ∀ t ∈ tokens s, t ≠ single ∧ t ≠ rest := by
  rw [← tokenFlaw?_eq_none_iff, subjectFlaw?]
  cases tokenFlaw? s with
  | some flaw => simp
  | none => simp [not_or]

theorem patternFlaw?_eq_none_iff :
    patternFlaw? s = none ↔ MadeOf s (tokens s) ∧ rest ∉ (tokens s).dropLast := by
  rw [← tokenFlaw?_eq_none_iff, patternFlaw?]
  cases tokenFlaw? s with
  | some flaw => simp
  | none => simp

/-! ### The checks of a bus -/

theorem checkSubject_eq_ok_iff : Bus.checkSubject s = .ok () ↔ subjectFlaw? s = none := by
  unfold Bus.checkSubject
  cases subjectFlaw? s <;> simp

theorem checkSubject_of_isName (h : ∀ t ∈ tokens s, IsName t) : Bus.checkSubject s = .ok () := by
  have hmade : MadeOf s (tokens s) :=
    ⟨tokens_ne_nil s, (Text.join_split '.' s.toList).symm, fun t ht => (h t ht).toIsToken⟩
  rw [checkSubject_eq_ok_iff, subjectFlaw?_eq_none_iff]
  exact ⟨hmade, fun t ht => ⟨(h t ht).ne_single, (h t ht).ne_rest⟩⟩

theorem checkPattern_eq_ok_iff : Bus.checkPattern s = .ok () ↔ patternFlaw? s = none := by
  unfold Bus.checkPattern
  cases patternFlaw? s <;> simp

/-- The checks accept what the grammars say and nothing else, for any text.  A subject is one or more names,
joined by periods.  In a pattern `*` may stand at any place, and `>` at the last one.  So a subject is a
pattern without wildcards.  As there is always a last token, those before it are well defined. -/
theorem checks_accept_grammars (s : String) :
    (Bus.checkSubject s = .ok () ↔
      ∃ ts : List Token, ts ≠ [] ∧ s.toList = Text.join '.' ts ∧ ∀ t ∈ ts, IsName t) ∧
    (Bus.checkPattern s = .ok () ↔
      ∃ ts : List Token, ts ≠ [] ∧ s.toList = Text.join '.' ts ∧ (∀ t ∈ ts, IsToken t) ∧
        rest ∉ ts.dropLast) ∧
    (Bus.checkSubject s = .ok () ↔
      Bus.checkPattern s = .ok () ∧ ∀ t ∈ tokens s, t ≠ single ∧ t ≠ rest) ∧
    ∃ last, (tokens s).length = last + 1 ∧ (tokens s).dropLast = (tokens s).take last := by
  rw [checkSubject_eq_ok_iff, checkPattern_eq_ok_iff, subjectFlaw?_eq_none_iff,
    patternFlaw?_eq_none_iff]
  refine ⟨?_, ?_, ?_, ?_⟩
  · constructor
    · rintro ⟨hmade, hnames⟩
      refine ⟨tokens s, hmade.ne_nil, hmade.joined, fun t ht => ?_⟩
      exact { toIsToken := hmade.isToken t ht, ne_single := (hnames t ht).1, ne_rest := (hnames t ht).2 }
    · rintro ⟨ts, hne, hjoined, hnames⟩
      have hmade : MadeOf s ts := ⟨hne, hjoined, fun t ht => (hnames t ht).toIsToken⟩
      rw [hmade.tokens_eq]
      exact ⟨hmade, fun t ht => ⟨(hnames t ht).ne_single, (hnames t ht).ne_rest⟩⟩
  · constructor
    · rintro ⟨hmade, hlast⟩
      exact ⟨tokens s, hmade.ne_nil, hmade.joined, hmade.isToken, hlast⟩
    · rintro ⟨ts, hne, hjoined, htokens, hlast⟩
      have hmade : MadeOf s ts := ⟨hne, hjoined, htokens⟩
      rw [hmade.tokens_eq]
      exact ⟨hmade, hlast⟩
  · constructor
    · rintro ⟨hmade, hnames⟩
      exact ⟨⟨hmade, fun hmem => (hnames rest (List.dropLast_subset _ hmem)).2 rfl⟩, hnames⟩
    · rintro ⟨⟨hmade, -⟩, hnames⟩
      exact ⟨hmade, hnames⟩
  · have hlength : 0 < (tokens s).length := List.length_pos_iff.mpr (tokens_ne_nil s)
    exact ⟨(tokens s).length - 1, by omega, List.dropLast_eq_take⟩

/-- An accepted pattern matches a subject in one of two ways.  Without `>`, it has as many tokens as the
subject, and each stands for the one at its place.  With `>` after `n` tokens, the subject has more than
`n` tokens, and its first `n` are matched in the same way. -/
theorem isMatch_iff {pattern : String} (h : Bus.checkPattern pattern = .ok ()) (subject : String) :
    isMatch pattern subject = true ↔
      (rest ∉ tokens pattern ∧ List.Forall₂ StandsFor (tokens pattern) (tokens subject)) ∨
      ∃ init, tokens pattern = init ++ [rest] ∧ init.length + 1 ≤ (tokens subject).length ∧
        List.Forall₂ StandsFor init ((tokens subject).take init.length) := by
  have hlast : rest ∉ (tokens pattern).dropLast :=
    (patternFlaw?_eq_none_iff.mp (checkPattern_eq_ok_iff.mp h)).2
  rw [isMatch]
  by_cases hrest : rest ∈ tokens pattern
  · -- The wildcard for the rest can only be the last token.
    obtain ⟨init, hsplit, hinit⟩ : ∃ init, tokens pattern = init ++ [rest] ∧ rest ∉ init := by
      have hwhole := List.dropLast_append_getLast (tokens_ne_nil pattern)
      rw [← hwhole, List.mem_append, List.mem_singleton] at hrest
      refine ⟨(tokens pattern).dropLast, ?_, hlast⟩
      rw [hrest.resolve_left hlast, hwhole]
    rw [hsplit, covers_append_rest hinit]
    constructor
    · intro hmatch
      exact .inr ⟨init, rfl, hmatch⟩
    · rintro (⟨hnone, -⟩ | ⟨init', hsame, hmatch⟩)
      · exact absurd (by simp) hnone
      · obtain rfl := List.append_cancel_right hsame
        exact hmatch
  · rw [covers_iff_forall₂ hrest]
    constructor
    · intro hmatch
      exact .inl ⟨hrest, hmatch⟩
    · rintro (⟨-, hmatch⟩ | ⟨init, hsplit, -⟩)
      · exact hmatch
      · exact absurd (hsplit ▸ by simp) hrest

/-- Both wildcards in one pattern. -/
theorem isMatch_both_wildcards :
    Bus.checkPattern "SYS.*.>" = .ok () ∧ isMatch "SYS.*.>" "SYS.ACCOUNT.A.CLAIMS" = true := by
  have h : Bus.checkPattern "SYS.*.>" = .ok () := by decide +kernel
  have hpattern : tokens "SYS.*.>" = ["SYS".toList, single] ++ [rest] := by decide +kernel
  have hsubject : tokens "SYS.ACCOUNT.A.CLAIMS" =
      ["SYS".toList, "ACCOUNT".toList, "A".toList, "CLAIMS".toList] := by decide +kernel
  refine ⟨h, (isMatch_iff h _).mpr (.inr ⟨_, hpattern, ?_, ?_⟩)⟩
  · rw [hsubject]
    decide
  · rw [hsubject]
    exact .cons (.inr rfl) (.cons (.inl rfl) .nil)

end Subject

end ClaimRelay
