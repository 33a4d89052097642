import ClaimRelay.Notification
import ClaimRelay.Proofs.Subject

/-! The subjects of notifications.  A placeholder is filled within the text between two periods, so a
subject has the tokens of its template, with those of the given texts in the place of the placeholders.
The pattern of a kind covers the subjects of that kind whose texts are single tokens, and no others.  What
a subject was made from can be read off it, unless the account brings a placeholder with it. -/

namespace ClaimRelay.Notification

/-- Whether a text has a placeholder. -/
def hasPlaceholder : List Char → Bool
  | c :: d :: rest => (c = '%' ∧ d = 's') || hasPlaceholder (d :: rest)
  | _ => false

/-- A placeholder does not reach over a period. -/
theorem fillFirst_append (value cs rest : List Char) :
    fillFirst value (cs ++ '.' :: rest) =
      if hasPlaceholder cs then fillFirst value cs ++ '.' :: rest
      else cs ++ '.' :: fillFirst value rest := by
  have hperiod : fillFirst value ('.' :: rest) = '.' :: fillFirst value rest := by
    cases rest <;> simp [fillFirst]
  fun_induction fillFirst value cs with
  | case1 => exact hperiod
  | case2 c => simp [fillFirst, hasPlaceholder, hperiod]
  | case3 c d cs hplace => simp [fillFirst, hasPlaceholder, hplace]
  | case4 c d cs hplace ih =>
    rw [List.cons_append] at ih
    have hsame : hasPlaceholder (c :: d :: cs) = hasPlaceholder (d :: cs) := by
      simp [hasPlaceholder, hplace]
    rw [List.cons_append, List.cons_append, fillFirst, if_neg hplace, ih, hsame]
    split <;> rfl

theorem period_mem_fillFirst (value cs : List Char) :
    '.' ∈ fillFirst value cs ↔ '.' ∈ cs ∨ hasPlaceholder cs = true ∧ '.' ∈ value := by
  fun_induction fillFirst value cs with
  | case1 => simp [hasPlaceholder]
  | case2 c => simp [hasPlaceholder]
  | case3 c d cs hplace =>
    obtain ⟨rfl, rfl⟩ := hplace
    simp [hasPlaceholder, or_comm]
  | case4 c d cs hplace ih => simp [hasPlaceholder, hplace, ih, or_assoc]

theorem fillFirst_of_hasPlaceholder {cs : List Char} (h : hasPlaceholder cs = true) :
    ∃ front back, cs = front ++ '%' :: 's' :: back ∧
      ∀ value, fillFirst value cs = front ++ value ++ back := by
  fun_induction hasPlaceholder cs with
  | case1 c d cs ih =>
    by_cases hplace : c = '%' ∧ d = 's'
    · obtain ⟨rfl, rfl⟩ := hplace
      exact ⟨[], cs, rfl, fun value => by simp [fillFirst]⟩
    · obtain ⟨front, back, hcs, hfill⟩ := ih (by simpa [hplace] using h)
      refine ⟨c :: front, back, by rw [hcs, List.cons_append], fun value => ?_⟩
      rw [fillFirst, if_neg hplace, hfill, List.cons_append, List.cons_append]
  | case2 => simp at h

theorem fillFirst_of_not_hasPlaceholder {cs : List Char} (h : hasPlaceholder cs = false)
    (value : List Char) : fillFirst value cs = cs := by
  fun_induction fillFirst value cs with
  | case1 => rfl
  | case2 => rfl
  | case3 c d cs hplace => simp [hasPlaceholder, hplace] at h
  | case4 c d cs hplace ih => rw [ih (by simpa [hasPlaceholder, hplace] using h)]

/-- A name that is put into a name makes a name, as what is left of the other one adds to it. -/
theorem isName_fillFirst {value cs : List Char} (hvalue : Subject.IsName value)
    (hcs : Subject.IsName cs) : Subject.IsName (fillFirst value cs) := by
  cases hplace : hasPlaceholder cs with
  | false =>
    rw [fillFirst_of_not_hasPlaceholder hplace]
    exact hcs
  | true =>
    obtain ⟨front, back, hparts, hfill⟩ := fillFirst_of_hasPlaceholder hplace
    have hmem {c : Char} (hc : c ∈ front ++ value ++ back) : c ∈ value ∨ c ∈ cs := by
      simp only [List.mem_append, hparts, List.mem_cons] at hc ⊢
      tauto
    have hsingleton {c : Char} (hfilled : front ++ value ++ back = [c]) : value = [c] := by
      have hpositive : 0 < value.length := List.length_pos_iff.mpr hvalue.ne_nil
      have hlength := congrArg List.length hfilled
      simp only [List.length_append, List.length_singleton] at hlength
      obtain rfl := List.length_eq_zero_iff.mp (show front.length = 0 by omega)
      obtain rfl := List.length_eq_zero_iff.mp (show back.length = 0 by omega)
      rwa [List.nil_append, List.append_nil] at hfilled
    rw [hfill]
    refine ⟨⟨?_, ?_, ?_⟩, ?_, ?_⟩
    · simp [hvalue.ne_nil]
    · intro hperiod
      exact (hmem hperiod).elim hvalue.no_period hcs.no_period
    · intro c hc
      exact (hmem hc).elim (hvalue.no_blank c) (hcs.no_blank c)
    · exact fun hfilled => hvalue.ne_single (hsingleton hfilled)
    · exact fun hfilled => hvalue.ne_rest (hsingleton hfilled)

/-! ### Tokens -/

theorem tokens_pattern (kind : Notification) :
    Subject.tokens kind.pattern =
      match kind with
      | .accountUpdate =>
        ["SYS".toList, "ACCOUNT".toList, Subject.single, "CLAIMS".toList, "UPDATE".toList]
      | .activation =>
        ["SYS".toList, "ACCOUNT".toList, Subject.single, "CLAIMS".toList, "ACTIVATE".toList,
          Subject.single] := by
  cases kind <;> decide +kernel

/-- A text between the account and the rest of a subject. -/
theorem fill_template (value rest : List Char) :
    fillFirst value ("SYS.ACCOUNT.%s".toList ++ '.' :: rest) =
      "SYS".toList ++ '.' :: ("ACCOUNT".toList ++ '.' :: (value ++ '.' :: rest)) := by
  rw [fillFirst_append, if_pos (by decide)]
  simp [fillFirst]

theorem tokens_accountSubject (account : String) :
    Subject.tokens (accountSubject account) =
      "SYS".toList :: "ACCOUNT".toList ::
        (Text.split '.' account.toList ++ ["CLAIMS".toList, "UPDATE".toList]) := by
  have htemplate : accountUpdate.template = "SYS.ACCOUNT.%s".toList ++ '.' :: "CLAIMS.UPDATE".toList := by
    decide +kernel
  rw [Subject.tokens, accountSubject, String.toList_ofList, htemplate, fill_template,
    Text.split_append_cons, Text.split_append_cons, Text.split_append_cons]
  rfl

/-- The hash id goes to a placeholder that the account brings with it, if there is one. -/
theorem tokens_activationSubject (account hash : String) :
    Subject.tokens (activationSubject account hash) =
      "SYS".toList :: "ACCOUNT".toList ::
        if hasPlaceholder account.toList then
          Text.split '.' (fillFirst hash.toList account.toList) ++
            ["CLAIMS".toList, "ACTIVATE".toList, ['%', 's']]
        else
          Text.split '.' account.toList ++
            "CLAIMS".toList :: "ACTIVATE".toList :: Text.split '.' hash.toList := by
  have htemplate : activation.template =
      "SYS.ACCOUNT.%s".toList ++ '.' :: "CLAIMS.ACTIVATE.%s".toList := by decide +kernel
  have hend : "CLAIMS.ACTIVATE.%s".toList =
      "CLAIMS".toList ++ '.' :: ("ACTIVATE".toList ++ '.' :: ['%', 's']) := by decide +kernel
  have hhash : fillFirst hash.toList ['%', 's'] = hash.toList := by simp [fillFirst]
  rw [Subject.tokens, activationSubject, String.toList_ofList, htemplate, fill_template,
    fillFirst_append, if_neg (by decide), fillFirst_append, if_neg (by decide), fillFirst_append]
  split
  · rw [Text.split_append_cons, Text.split_append_cons, Text.split_append_cons]
    rfl
  · rw [hend, fillFirst_append, if_neg (by decide), fillFirst_append, if_neg (by decide), hhash,
      Text.split_append_cons, Text.split_append_cons, Text.split_append_cons, Text.split_append_cons,
      Text.split_append_cons]
    rfl

/-! ### Patterns -/

theorem pattern_injective {kind other : Notification} (h : kind.pattern = other.pattern) :
    kind = other := by
  revert h
  cases kind <;> cases other <;> decide +kernel

theorem patternFlaw?_pattern (kind : Notification) : Subject.patternFlaw? kind.pattern = none := by
  cases kind <;> decide +kernel

/-- A pattern covers subjects with as many tokens, unless it may end in any number of them. -/
theorem length_eq_of_covers {pattern subject : List Subject.Token}
    (h : Subject.covers pattern subject = true) (hrest : Subject.rest ∉ pattern) :
    pattern.length = subject.length :=
  ((Subject.covers_iff_forall₂ hrest subject).mp h).length_eq

theorem rest_not_mem_pattern (kind : Notification) :
    Subject.rest ∉ Subject.tokens kind.pattern := by
  rw [tokens_pattern]
  cases kind <;> decide

/-- No subject is covered by the patterns of both kinds. -/
theorem eq_of_isMatch {kind other : Notification} {subject : String}
    (h : Subject.isMatch kind.pattern subject = true)
    (h' : Subject.isMatch other.pattern subject = true) : kind = other := by
  have hlength : (Subject.tokens kind.pattern).length = (Subject.tokens other.pattern).length :=
    (length_eq_of_covers h (rest_not_mem_pattern kind)).trans
      (length_eq_of_covers h' (rest_not_mem_pattern other)).symm
  rw [tokens_pattern, tokens_pattern] at hlength
  cases kind <;> cases other <;> simp at hlength ⊢

/-- The subject for an update is covered if the account is a single token, and by its own kind only. -/
theorem isMatch_accountSubject (account : String) (kind : Notification) :
    Subject.isMatch kind.pattern (accountSubject account) = true ↔
      kind = .accountUpdate ∧ '.' ∉ account.toList := by
  constructor
  · intro h
    have hlength := length_eq_of_covers h (rest_not_mem_pattern kind)
    rw [Subject.isMatch] at h
    rw [tokens_pattern, tokens_accountSubject] at h hlength
    cases kind with
    | accountUpdate =>
      refine ⟨rfl, List.count_eq_zero.mp ?_⟩
      simpa [Text.length_split] using hlength
    | activation =>
      -- There is room for one period, with the end of the subject in the place of the verb.
      have htwo : (Text.split '.' account.toList).length = 2 := by simpa using hlength.symm
      obtain ⟨first, second, htokens⟩ := List.length_eq_two.mp htwo
      rw [htokens] at h
      simp [Subject.covers, Subject.single, Subject.rest] at h
  · rintro ⟨rfl, h⟩
    rw [Subject.isMatch, tokens_pattern, tokens_accountSubject, Text.split_of_not_mem h]
    simp [Subject.covers, Subject.single, Subject.rest]

/-- The subject for an activation is covered if the account and the hash id are single tokens, and by its
own kind only. -/
theorem isMatch_activationSubject (account hash : String) (kind : Notification) :
    Subject.isMatch kind.pattern (activationSubject account hash) = true ↔
      kind = .activation ∧ '.' ∉ account.toList ∧ '.' ∉ hash.toList := by
  constructor
  · intro h
    have hlength := length_eq_of_covers h (rest_not_mem_pattern kind)
    rw [tokens_pattern, tokens_activationSubject] at hlength
    by_cases hplace : hasPlaceholder account.toList = true
    · rw [if_pos hplace] at hlength
      have hperiod := period_mem_fillFirst hash.toList account.toList
      cases kind with
      | accountUpdate => simp [Text.length_split] at hlength
      | activation =>
        have hnone : (fillFirst hash.toList account.toList).count '.' = 0 := by
          simpa [Text.length_split] using hlength
        refine ⟨rfl, ?_⟩
        simpa [hperiod, hplace] using List.count_eq_zero.mp hnone
    · rw [if_neg hplace] at hlength
      cases kind with
      | accountUpdate => simp [Text.length_split] at hlength; omega
      | activation =>
        simp [Text.length_split] at hlength
        exact ⟨rfl, List.count_eq_zero.mp (by omega), List.count_eq_zero.mp (by omega)⟩
  · rintro ⟨rfl, haccount, hhash⟩
    have hfilled : '.' ∉ fillFirst hash.toList account.toList := by
      simp [period_mem_fillFirst, haccount, hhash]
    rw [Subject.isMatch, tokens_pattern, tokens_activationSubject, Text.split_of_not_mem haccount,
      Text.split_of_not_mem hhash, Text.split_of_not_mem hfilled, List.singleton_append,
      List.singleton_append]
    by_cases hplace : hasPlaceholder account.toList = true
    · rw [if_pos hplace]
      simp [Subject.covers, Subject.single, Subject.rest]
    · rw [if_neg hplace]
      simp [Subject.covers, Subject.single, Subject.rest]

/-- Whatever the account and the hash id are, no subject reaches the subscribers to the other kind, and it
reaches those to its own kind exactly if it is made from single tokens. -/
theorem routed_by_kind (account hash : String) :
    Subject.isMatch accountUpdate.pattern (activationSubject account hash) = false ∧
    Subject.isMatch activation.pattern (accountSubject account) = false ∧
    (Subject.isMatch accountUpdate.pattern (accountSubject account) = true ↔
      '.' ∉ account.toList) ∧
    (Subject.isMatch activation.pattern (activationSubject account hash) = true ↔
      '.' ∉ account.toList ∧ '.' ∉ hash.toList) := by
  refine ⟨?_, ?_, ?_, ?_⟩
  · rw [Bool.eq_false_iff, Ne, isMatch_activationSubject]
    rintro ⟨hkind, -⟩
    exact absurd hkind (by decide)
  · rw [Bool.eq_false_iff, Ne, isMatch_accountSubject]
    rintro ⟨hkind, -⟩
    exact absurd hkind (by decide)
  · rw [isMatch_accountSubject]
    exact and_iff_right rfl
  · rw [isMatch_activationSubject]
    exact and_iff_right rfl

/-! ### What a subject was made from -/

/-- A placeholder may be filled with itself. -/
theorem fillFirst_placeholder (cs : List Char) : fillFirst ['%', 's'] cs = cs := by
  fun_induction fillFirst ['%', 's'] cs with
  | case1 => rfl
  | case2 c => rfl
  | case3 c d cs hplace =>
    obtain ⟨rfl, rfl⟩ := hplace
    rfl
  | case4 c d cs hplace ih => rw [ih]

theorem accountSubject_injective {account other : String}
    (h : accountSubject account = accountSubject other) : account = other := by
  have htokens := congrArg Subject.tokens h
  rw [tokens_accountSubject, tokens_accountSubject, List.cons.injEq, List.cons.injEq,
    List.append_left_inj] at htokens
  exact String.toList_injective (Text.split_injective htokens.2.2)

section Names

variable {account hash : String} (haccount : Subject.IsName account.toList)
  (hhash : Subject.IsName hash.toList)

include haccount

theorem tokens_accountSubject_of_isName :
    Subject.tokens (accountSubject account) =
      ["SYS".toList, "ACCOUNT".toList, account.toList, "CLAIMS".toList, "UPDATE".toList] := by
  rw [tokens_accountSubject, Text.split_of_not_mem haccount.no_period]
  rfl

include hhash

theorem tokens_activationSubject_of_isName :
    Subject.tokens (activationSubject account hash) =
      if hasPlaceholder account.toList then
        ["SYS".toList, "ACCOUNT".toList, fillFirst hash.toList account.toList, "CLAIMS".toList,
          "ACTIVATE".toList, ['%', 's']]
      else
        ["SYS".toList, "ACCOUNT".toList, account.toList, "CLAIMS".toList, "ACTIVATE".toList,
          hash.toList] := by
  have hfilled : '.' ∉ fillFirst hash.toList account.toList := by
    simp [period_mem_fillFirst, haccount.no_period, hhash.no_period]
  rw [tokens_activationSubject, Text.split_of_not_mem haccount.no_period,
    Text.split_of_not_mem hhash.no_period, Text.split_of_not_mem hfilled]
  split <;> rfl

/-- A subject made from names can be published on. -/
theorem checkSubject_activationSubject : Bus.checkSubject (activationSubject account hash) = .ok () := by
  apply Subject.checkSubject_of_isName
  rw [tokens_activationSubject_of_isName haccount hhash]
  have hfilled := isName_fillFirst hhash haccount
  have hsys : Subject.IsName "SYS".toList := by decide +kernel
  have haccounts : Subject.IsName "ACCOUNT".toList := by decide +kernel
  have hclaims : Subject.IsName "CLAIMS".toList := by decide +kernel
  have hactivate : Subject.IsName "ACTIVATE".toList := by decide +kernel
  have hplaceholder : Subject.IsName ['%', 's'] := by decide +kernel
  split
  · simp only [List.forall_mem_cons]
    exact ⟨hsys, haccounts, hfilled, hclaims, hactivate, hplaceholder, by simp⟩
  · simp only [List.forall_mem_cons]
    exact ⟨hsys, haccounts, haccount, hclaims, hactivate, hhash, by simp⟩

/-- The parts of a subject for an activation are what it was made from, unless the account has a
placeholder: the hash id goes there then, and the placeholder at the end stays. -/
theorem tokens_activationSubject_eq_iff :
    Subject.tokens (activationSubject account hash) =
        ["SYS".toList, "ACCOUNT".toList, account.toList, "CLAIMS".toList, "ACTIVATE".toList,
          hash.toList] ↔
      hasPlaceholder account.toList = false ∨ hash.toList = ['%', 's'] := by
  rw [tokens_activationSubject_of_isName haccount hhash]
  cases hplace : hasPlaceholder account.toList with
  | false => simp
  | true =>
    constructor
    · intro h
      simp only [if_true, List.cons.injEq] at h
      exact .inr h.2.2.2.2.2.1.symm
    · intro h
      have hsame : hash.toList = ['%', 's'] := h.resolve_left (by simp)
      rw [if_pos rfl, hsame, fillFirst_placeholder]

end Names

/-- Subjects tell what they were made from.  If the account and the hash id are single tokens, the subject
for an update has the account at its place, and so has the subject for an activation, with the hash id at
its end, unless the account has a placeholder.  So different accounts never share the subject for an
update, and different pairs of an account without a placeholder and a hash id never share the subject for
an activation. -/
theorem subjects_faithful {account hash : String} (haccount : Subject.IsName account.toList)
    (hhash : Subject.IsName hash.toList) :
    (Subject.tokens (activationSubject account hash) =
        ["SYS".toList, "ACCOUNT".toList, account.toList, "CLAIMS".toList, "ACTIVATE".toList,
          hash.toList] ↔
      hasPlaceholder account.toList = false ∨ hash.toList = ['%', 's']) ∧
    Subject.tokens (accountSubject account) =
      ["SYS".toList, "ACCOUNT".toList, account.toList, "CLAIMS".toList, "UPDATE".toList] ∧
    (∀ other, accountSubject account = accountSubject other → account = other) ∧
    ∀ other otherHash : String, Subject.IsName other.toList → Subject.IsName otherHash.toList →
      hasPlaceholder account.toList = false → hasPlaceholder other.toList = false →
      activationSubject account hash = activationSubject other otherHash →
        account = other ∧ hash = otherHash := by
  refine ⟨tokens_activationSubject_eq_iff haccount hhash, tokens_accountSubject_of_isName haccount,
    fun _ => accountSubject_injective, ?_⟩
  intro other otherHash hother hotherHash hplace hotherPlace hsame
  have htokens := (tokens_activationSubject_eq_iff haccount hhash).mpr (.inl hplace)
  rw [hsame, (tokens_activationSubject_eq_iff hother hotherHash).mpr (.inl hotherPlace)] at htokens
  simp only [List.cons.injEq] at htokens
  exact ⟨(String.toList_injective htokens.2.2.1).symm,
    (String.toList_injective htokens.2.2.2.2.2.1).symm⟩

/-- Two activations for one account. -/
theorem subjects_faithful_of_keys :
    Subject.IsName "AKEY".toList ∧ Subject.IsName "H%s".toList ∧
      Subject.tokens (activationSubject "AKEY" "H%s") =
        ["SYS".toList, "ACCOUNT".toList, "AKEY".toList, "CLAIMS".toList, "ACTIVATE".toList,
          "H%s".toList] ∧
      activationSubject "AKEY" "H%s" ≠ activationSubject "AKEY" "H" := by
  have haccount : Subject.IsName "AKEY".toList := by decide +kernel
  have hhash : Subject.IsName "H%s".toList := by decide +kernel
  have hplain : hasPlaceholder "AKEY".toList = false := by decide +kernel
  obtain ⟨hparts, -, -, hinjective⟩ := subjects_faithful haccount hhash
  refine ⟨haccount, hhash, hparts.mpr (.inl hplain), fun hsame => ?_⟩
  have hequal := hinjective "AKEY" "H" haccount (by decide +kernel) hplain hplain hsame
  exact absurd hequal.2 (by decide)

/-- An account with a placeholder takes the hash id in, and shares its subject with another account. -/
theorem subject_shared_through_placeholder :
    Subject.IsName "%s".toList ∧ Subject.IsName "H".toList ∧
      Subject.tokens (activationSubject "%s" "H") =
        ["SYS".toList, "ACCOUNT".toList, "H".toList, "CLAIMS".toList, "ACTIVATE".toList,
          "%s".toList] ∧
      activationSubject "%s" "H" = activationSubject "H" "%s" := by
  decide +kernel

end ClaimRelay.Notification
