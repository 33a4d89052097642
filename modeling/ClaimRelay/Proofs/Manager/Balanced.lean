import ClaimRelay.Proofs.Manager.Tuned
import Mathlib.Data.List.Nodup

/-! The subscriptions that the readers of a manager hold.  `Balanced` holds in every run in which nobody but
the managers subscribes: the subscriptions on the bus are those of the readers and those of the `others`,
each once. -/

namespace ClaimRelay.Manager

open Bus

namespace Reception

variable {r t : Reception} {others : List Nat} {n next : Nat}
  {registry : Registry}

/-- The subscriptions of the readers. -/
def numbers (r : Reception) : List Nat := r.dispatchers.map (·.subscription)

/-- The subscriptions that are held are those of the readers and `others`, each once, and none has a number
that is still to be given. -/
structure Balanced (others : List Nat) (r : Reception) : Prop where
  held : (r.subscriptions.map (·.1)).Perm (r.numbers ++ others)
  nodup : (r.subscriptions.map (·.1)).Nodup
  counted : ∀ n ∈ r.subscriptions.map (·.1), n ≤ r.subscribed

theorem Balanced.nodup_numbers (h : r.Balanced others) : r.numbers.Nodup :=
  (List.nodup_append.mp (h.held.nodup_iff.mp h.nodup)).1

theorem Balanced.not_mem_others (h : r.Balanced others) (hn : n ∈ r.numbers) : n ∉ others := by
  intro hmem
  exact (List.nodup_append.mp (h.held.nodup_iff.mp h.nodup)).2.2 n hn n hmem rfl

/-- Only the subscriptions and the readers count. -/
theorem Balanced.of_eq (h : r.Balanced others)
    (hkeys : t.subscriptions.map (·.1) = r.subscriptions.map (·.1)) (hnumbers : t.numbers = r.numbers)
    (hsubscribed : r.subscribed ≤ t.subscribed) : t.Balanced others where
  held := by
    rw [hkeys, hnumbers]
    exact h.held
  nodup := hkeys ▸ h.nodup
  counted n hn := Nat.le_trans (h.counted n (hkeys ▸ hn)) hsubscribed

theorem Balanced.tune (h : r.Balanced others) (c : Nat) (kind : Notification) :
    (r.tune c kind).Balanced others := by
  have hnew : r.subscribed + 1 ∉ r.subscriptions.map (·.1) := by
    intro hmem
    have hle := h.counted _ hmem
    omega
  have hkeys : (r.tune c kind).subscriptions.map (·.1) =
      r.subscriptions.map (·.1) ++ [r.subscribed + 1] := by
    rw [← Table.isSome_get?, Bool.not_eq_true] at hnew
    rw [Reception.tune, Table.keys_put, if_neg (by simp [hnew])]
  have hnumbers : (r.tune c kind).numbers = r.numbers ++ [r.subscribed + 1] := List.map_append
  constructor
  · rw [hkeys, hnumbers, List.append_assoc]
    refine (h.held.append_right _).trans ?_
    rw [List.append_assoc]
    exact List.perm_append_comm.append_left _
  · exact Table.nodup_put h.nodup _ _
  · intro n hn
    rw [hkeys, List.mem_append, List.mem_singleton] at hn
    show n ≤ r.subscribed + 1
    rcases hn with hold | rfl
    · exact Nat.le_succ_of_le (h.counted n hold)
    · exact Nat.le_refl _

theorem Balanced.drop (h : r.Balanced others) (hn : n ∉ others) : (r.drop n).Balanced others := by
  have hkeys : (r.drop n).subscriptions.map (·.1) = (r.subscriptions.map (·.1)).filter (· ≠ n) :=
    Table.keys_erase ..
  have hnumbers : (r.drop n).numbers = r.numbers.filter (· ≠ n) := by
    rw [numbers, numbers, List.filter_map]
    rfl
  have hothers : others.filter (· ≠ n) = others := by
    rw [List.filter_eq_self]
    rintro m hm
    simpa using fun heq : m = n => hn (heq ▸ hm)
  constructor
  · rw [hkeys, hnumbers]
    have hheld := h.held.filter (· ≠ n)
    rwa [List.filter_append, hothers] at hheld
  · rw [hkeys]
    exact h.nodup.filter _
  · intro m hm
    rw [hkeys] at hm
    exact h.counted m (List.mem_filter.mp hm).1

/-! ### Steps -/

theorem Balanced.renew (h : r.Balanced others) (c : Nat) : (r.renew c).Balanced others := by
  have hfold : (if r.primary then Notification.all.foldl (Reception.tune c) r else r).Balanced others := by
    split
    · exact (h.tune c .accountUpdate).tune c .activation
    · exact h
  exact hfold.of_eq rfl rfl (Nat.le_refl _)

theorem Tunes.balanced (h : r.Tunes next t) (hbalanced : r.Balanced others) : t.Balanced others := by
  cases h with
  | keeps => exact hbalanced
  | quits => exact hbalanced.of_eq rfl rfl (Nat.le_refl _)
  | sends => exact hbalanced.of_eq rfl rfl (Nat.le_refl _)
  | renews => exact hbalanced.renew next

theorem Balanced.of_put (h : r.Balanced others) {s : Subscription} (cursor : Nat)
    (hs : r.subscriptions.get? n = some s) :
    ({ r with subscriptions := r.subscriptions.put n { s with cursor } } : Reception).Balanced others := by
  have hsame : (r.subscriptions.put n { s with cursor }).map (·.1) = r.subscriptions.map (·.1) := by
    rw [Table.keys_put, hs]
    rfl
  exact h.of_eq hsame rfl (Nat.le_refl _)

theorem mem_numbers_of_find? {d : Dispatcher}
    (hd : r.dispatchers.find? (·.subscription = n) = some d) : n ∈ r.numbers :=
  List.mem_map.mpr ⟨d, List.mem_of_find?_eq_some hd, by simpa using List.find?_some hd⟩

theorem Takes.balanced {receipt : Receipt} {outcome : Outcome}
    (h : r.Takes registry n receipt outcome t) (hbalanced : r.Balanced others) :
    t.Balanced others ∧ n ∉ others := by
  cases h with
  | intro hd hs =>
    refine ⟨?_, hbalanced.not_mem_others (mem_numbers_of_find? hd)⟩
    exact (hbalanced.of_put _ hs).of_eq rfl rfl (Nat.le_refl _)

theorem Dispatches.balanced {receipt : Option Receipt} (h : r.Dispatches registry n receipt t)
    (hbalanced : r.Balanced others) : t.Balanced others := by
  cases h with
  | starts =>
    refine hbalanced.of_eq rfl ?_ (Nat.le_refl _)
    unfold numbers Scene.markStarted
    rw [List.map_map]
    refine List.map_congr_left fun d _ => ?_
    dsimp only [Function.comp_apply]
    split <;> rfl
  | skips _ hs => exact hbalanced.of_put _ hs
  | ends hd => exact hbalanced.drop (hbalanced.not_mem_others (mem_numbers_of_find? hd))
  | takes h => exact (h.balanced hbalanced).1
  | departs h =>
    obtain ⟨hkept, hn⟩ := h.balanced hbalanced
    exact hkept.drop hn

theorem balanced_quit (h : r.Balanced others) : r.quit.Balanced others := by
  have hfold (ds : List Dispatcher) (hds : ∀ d ∈ ds, d.subscription ∉ others) :
      (ds.foldl (fun r d => r.drop d.subscription) r).Balanced others := by
    induction ds generalizing r with
    | nil => exact h
    | cons d ds ih =>
      obtain ⟨hfirst, hrest⟩ := List.forall_mem_cons.mp hds
      exact ih (h.drop hfirst) hrest
  have hdropped := hfold (r.dispatchers.filter fun d => some d.connection = r.connection) fun d hd =>
    h.not_mem_others (List.mem_map_of_mem (List.mem_filter.mp hd).1)
  exact hdropped.of_eq rfl rfl (Nat.le_refl _)

end Reception

/-- A dispatcher that has nothing to do waits for a message. -/
theorem Scene.dispatch_waits {s : Scene} {d : Dispatcher}
    (h : s.dispatch d.subscription = none) (hd : d ∈ s.manager.dispatchers)
    (hnodup : (s.manager.dispatchers.map (·.subscription)).Nodup) :
    d.started = true ∧ ∃ sub, s.around.bus.subscriptions.get? d.subscription = some sub ∧
      s.around.bus.isOver sub.connection = false := by
  cases hfind : s.manager.dispatchers.find? (·.subscription = d.subscription) with
  | none => simpa using List.find?_eq_none.mp hfind d hd
  | some other =>
    obtain rfl : other = d := by
      have hsame : other.subscription = d.subscription := by simpa using List.find?_some hfind
      exact List.inj_on_of_nodup_map hnodup (List.mem_of_find?_eq_some hfind) hd hsame
    obtain ⟨hstarted, -, bus, hreceive⟩ := dispatch_waiting h hfind
    refine ⟨hstarted, ?_⟩
    cases Bus.receive_receives hreceive with
    | pending hs hopen => exact ⟨_, hs, hopen⟩

end ClaimRelay.Manager
