import ClaimRelay.Proofs.Network.Sound

/-! Connections that are kept.  A manager lets go of its current connection only as it ends, and nobody else
does, so that the current connection of a manager is lost only by being closed. -/

namespace ClaimRelay

open Manager Bus

namespace Bus.Registry

variable {r r' r'' : Registry}

/-- No connection is discarded. -/
structure Retains (before after : Registry) : Prop where
  discarded : ∀ {id c}, after.connections.get? id = some c → c.discarded = true →
    ∃ c', before.connections.get? id = some c' ∧ c'.discarded = true

theorem Retains.of_connections (h : r'.connections = r.connections) : Retains r r' :=
  ⟨fun hc hdiscarded => ⟨_, h ▸ hc, hdiscarded⟩⟩

theorem Retains.refl (r : Registry) : Retains r r := .of_connections rfl

theorem Retains.trans (h1 : Retains r r') (h2 : Retains r' r'') : Retains r r'' where
  discarded hc hdiscarded := by
    obtain ⟨c', hc', hdiscarded'⟩ := h2.discarded hc hdiscarded
    exact h1.discarded hc' hdiscarded'

theorem retains_enter {c : Connection} (h : c.discarded = false) (r : Registry) :
    Retains r (r.enter c) := by
  refine ⟨fun {id c'} hc' hdiscarded => ?_⟩
  rw [get?_enter] at hc'
  split at hc'
  · obtain rfl := Option.some.inj hc'
    simp [h] at hdiscarded
  · exact ⟨c', hc', hdiscarded⟩

theorem retains_close (r : Registry) (id : Nat) : Retains r (r.close id) := by
  refine ⟨fun {other c'} hc' hdiscarded => ?_⟩
  rw [get?_close] at hc'
  obtain ⟨c, hc, rfl⟩ := Option.map_eq_some_iff.mp hc'
  refine ⟨c, hc, ?_⟩
  split at hdiscarded <;> exact hdiscarded

theorem retains_closeAny (r : Registry) (id : Option Nat) : Retains r (r.closeAny id) := by
  cases id with
  | none => exact .refl r
  | some id => exact retains_close r id

theorem retains_foldl {f : Bus → Nat → Bus}
    (hf : ∀ bus id, Retains bus.toRegistry (f bus id).toRegistry) (ids : List Nat) (bus : Bus) :
    Retains bus.toRegistry (ids.foldl f bus).toRegistry := by
  induction ids generalizing bus with
  | nil => exact .refl _
  | cons id ids ih => exact (hf bus id).trans (ih (f bus id))

end Bus.Registry

/-! ### What a manager does -/

namespace Manager.Link

variable {s t : Link} {w : Waiter}

theorem Serves.retains (h : Serves w s t) : Registry.Retains s.registry t.registry := by
  cases h with
  | stop | lose => exact Registry.retains_closeAny _ _
  | _ => exact .refl _

theorem Ends.retains (h : Ends w s t) : Registry.Retains s.registry t.registry := by
  cases h with
  | connected => exact Registry.retains_enter rfl _
  | replaced => exact (Registry.retains_enter rfl _).trans (Registry.retains_closeAny _ _)
  | _ => exact .refl _

theorem Served.retains (h : Served w s t) : Registry.Retains s.registry t.registry :=
  h.lift (P := fun u => Registry.Retains s.registry u.registry) Serves.retains
    fun hmid _ hends => hmid.trans hends.retains

/-- A manager discards no connection but its current one, and that one as it ends. -/
theorem Change.retains (h : Change s t) :
    Registry.Retains s.registry t.registry ∨
      t.control.connection = none ∧
        ∃ id, s.control.connection = some id ∧ t.registry = s.registry.discard id := by
  cases h with
  | grant _ _ hserved => exact .inl hserved.retains
  | aside haside =>
    cases haside with
    | finish _ hends => exact .inl hends.retains
    | reap _ _ _ hregistry =>
      rcases hregistry with rfl | ⟨id, hid, rfl⟩
      · exact .inl (.refl _)
      · exact .inr ⟨rfl, id, hid, rfl⟩
    | _ => exact .inl (.of_connections rfl)

end Manager.Link

namespace Network

variable {start net : Network} {i : Nat} {m : Manager} {t : Turn} {turns : List Turn}
  {around : Surroundings}

/-! ### What others do -/

theorem Outside.retains (h : Outside net around) :
    Registry.Retains net.around.bus.toRegistry around.bus.toRegistry ∨
      ∃ id, (∀ m ∈ net.managers, m.connection ≠ some id) ∧
        around.bus.toRegistry = net.around.bus.toRegistry.discard id := by
  cases h with
  | beginConnect options =>
    rw [toRegistry_beginConnect]
    exact .inl (.refl _)
  | finishConnect options =>
    rw [toRegistry_finishConnect]
    split
    · exact .inl (.refl _)
    · exact .inl (Registry.retains_enter rfl _)
  | close id => exact .inl (Registry.retains_close _ id)
  | closeAll => exact .inl (Registry.retains_foldl (fun bus id => Registry.retains_close _ id) _ _)
  | report event id => exact .inl (.of_connections (Registry.connections_report event _ id))
  | reportAll event =>
    exact .inl (Registry.retains_foldl
      (fun bus id => .of_connections (Registry.connections_report event _ id)) _ _)
  | announce servers =>
    have hreport (bus : Bus) (id : Nat) :
        Registry.Retains bus.toRegistry (bus.reportServers id).toRegistry := by
      unfold reportServers
      split
      · exact .of_connections (Registry.connections_report _ _ id)
      · exact .refl _
    exact .inl (Registry.retains_foldl hreport _ { net.around.bus with discovered := servers })
  | publish id message =>
    rw [toRegistry_publish]
    exact .inl (.refl _)
  | subscribe id pattern =>
    rw [toRegistry_subscribe]
    exact .inl (.refl _)
  | receive number first =>
    rw [toRegistry_receive]
    exact .inl (.refl _)
  | letGo id =>
    unfold Network.letGo
    dsimp only
    split
    · exact .inl (.refl _)
    · rename_i hfree
      refine .inr ⟨id, fun m hm hid => ?_, rfl⟩
      exact hfree (.inr (List.any_eq_true.mpr ⟨m, hm, by simpa using hid⟩))
  | _ => exact .inl (.refl _)

/-! ### Every run -/

/-- The current connections of the managers are not discarded. -/
structure Kept (net : Network) : Prop where
  current : ∀ {i : Nat} {m : Manager} {id c}, net.managers[i]? = some m → m.connection = some id →
    net.around.bus.connections.get? id = some c → c.discarded = false

theorem Turn.Valid.kept (valid : t.Valid Outside) (h : t.before.Registered) (hkept : t.before.Kept) :
    t.after.Kept := by
  refine ⟨fun {i m' id c} hm' hid hc => ?_⟩
  obtain ⟨m, hm, hdoes⟩ := valid.done hm'
  -- The connection was the current one before, or it is new.
  have hbefore {c₀ : Connection} (hc₀ : t.before.around.bus.connections.get? id = some c₀) :
      m.connection = some id := by
    rcases hdoes.change with ⟨-, hchange⟩ | ⟨-, rfl⟩
    · obtain ⟨-, hfollows⟩ := hchange.owns_follows (h.control hm) (h.registry hm).toOwns
      refine (hfollows.current hid).resolve_right fun hnew => ?_
      exact Nat.not_lt.mpr ((h.registry hm).numbered.le_length hc₀) hnew
    · exact hid
  have hretained (hretains : Registry.Retains t.before.around.bus.toRegistry
      t.after.around.bus.toRegistry) : c.discarded = false := by
    cases hflag : c.discarded with
    | false => rfl
    | true =>
      obtain ⟨c₀, hc₀, hbad⟩ := hretains.discarded hc hflag
      simp [hkept.current hm (hbefore hc₀) hc₀] at hbad
  have hother {other : Nat} (hne : m.connection ≠ some other)
      (hdiscard : t.after.around.bus.toRegistry = t.before.around.bus.toRegistry.discard other) :
      c.discarded = false := by
    rw [hdiscard, Registry.get?_discard] at hc
    obtain ⟨c₀, hc₀, rfl⟩ := Option.map_eq_some_iff.mp hc
    have hid₀ := hbefore hc₀
    rw [if_neg (by rintro rfl; exact hne hid₀)]
    exact hkept.current hm hid₀ hc₀
  cases hturn : t.move.manager? with
  | some j =>
    obtain ⟨o, ho⟩ := valid.manager hturn
    obtain ⟨o', ho', hdoes'⟩ := valid.does ho
    rcases hdoes'.change with ⟨-, hchange⟩ | ⟨hnot, -⟩
    · rcases hchange.retains with hretains | ⟨hnone, other, hcurrent, hdiscard⟩
      · exact hretained hretains
      · -- A manager that ends discards a connection of its own.
        refine hother (fun hsame => ?_) hdiscard
        obtain ⟨x, hx, hlistener⟩ := (h.registry hm).current hsame
        obtain ⟨x', hx', hlistener'⟩ := (h.registry ho).current hcurrent
        obtain rfl := Option.some.inj (hx.symm.trans hx')
        have hij : i = j := (h.listener hm).symm.trans
          (hlistener.symm.trans (hlistener'.trans (h.listener ho)))
        subst hij
        obtain rfl : m' = o' := Option.some.inj (hm'.symm.trans ho')
        have hnone' : m'.connection = none := hnone
        simp [hnone'] at hid
    · exact absurd hturn hnot
  | none =>
    rcases valid.idles hturn with ⟨around, hothers, hafter⟩ | ⟨now, -, hafter⟩
    · rcases hothers.retains with hretains | ⟨other, hfree, hdiscard⟩
      · exact hretained (hafter ▸ hretains)
      · exact hother (hfree m (List.mem_of_getElem? hm)) (hafter ▸ hdiscard)
    · exact hretained (hafter ▸ .refl _)

theorem Run.kept (run : Run Outside start turns net) (hnew : start.IsNew) : net.Kept := by
  induction run with
  | start =>
    refine ⟨fun hm hid => ?_⟩
    obtain ⟨settings, hcontrol⟩ := hnew.control hm
    simp [hcontrol] at hid
  | turn run valid ih => exact valid.kept (run.registered hnew.registered) ih

/-- Messages reach the subscriptions of a current connection that is not closed. -/
theorem Run.isOver_eq_false {id : Nat} (run : Run Outside start turns net) (hnew : start.IsNew)
    (hm : net.managers[i]? = some m) (hid : m.connection = some id)
    (hopen : net.around.bus.isClosed id = false) : net.around.bus.isOver id = false := by
  obtain ⟨c, hget, -⟩ := ((run.registered hnew.registered).registry hm).current hid
  have hc : net.around.bus.connections.get? id = some c := hget
  have hkept := (run.kept hnew).current hm hid hc
  rw [Registry.isClosed_of_get? hc] at hopen
  simp [Registry.isOver, hc, Connection.isOpen, hopen, hkept]

end Network

end ClaimRelay
