import ClaimRelay.Proofs.Network.Run

/-! What holds of every run of a network.  Whatever others do, the control of each manager is sound.
If they do only what can be done on the bus inside the process, then the registry also agrees with what
each manager holds. -/

namespace ClaimRelay

open Manager Bus

/-- A manager that could be made has valid settings, and nothing has happened to it. -/
theorem Manager.create_cases {settings : Settings} {listener : Nat} {store : Store} {m : Manager}
    (h : create settings listener store = .ok m) :
    settings.validate = .ok () ∧
      m = { settings, listener, store,
            ingest := { cache := { ttl := 1000 * settings.cacheTtl.toNat } } } := by
  unfold create at h
  split at h
  · simp at h
  · rename_i hvalid
    exact ⟨hvalid, (Except.ok.inj h).symm⟩

theorem Manager.create_eq_ok {settings : Settings} {listener : Nat} {store : Store} {m : Manager}
    (h : create settings listener store = .ok m) : m.toControl = { settings, listener } := by
  obtain ⟨-, rfl⟩ := create_cases h
  rfl

/-- The control of a manager that was just made. -/
theorem Manager.Control.sound_new (settings : Settings) (listener : Nat) :
    ({ settings, listener } : Control).Sound where
  retries := rfl
  apart _ := rfl
  waiting := by simp
  stopped _ := rfl
  disabled _ := ⟨rfl, rfl, rfl, rfl⟩
  provided _ _ hwanted := by simp [Wanted] at hwanted
  resting _ := by simp
  held a ha := by simp at ha

namespace Network

/-- A network of new managers with valid settings, each reporting to its own place, on a new bus. -/
structure IsNew (net : Network) : Prop where
  managers : ∀ {i : Nat} {m : Manager}, net.managers[i]? = some m →
    ∃ settings store, Manager.create settings i store = .ok m
  bus : ∃ capacity, net.around.bus = .ofCapacity capacity

/-- New managers with the given settings, that keep their claims in memory, on a new bus. -/
def ofSettings (settings : List Settings) : Network where
  around := { files := {}, bus := .ofCapacity .standard }
  managers := settings.mapIdx fun i s =>
    { settings := s, listener := i, store := .memory {},
      ingest := { cache := { ttl := 1000 * s.cacheTtl.toNat } } }

theorem isNew_ofSettings {settings : List Settings} (h : ∀ s ∈ settings, s.validate = .ok ()) :
    (ofSettings settings).IsNew where
  managers {i m} hm := by
    rw [ofSettings, List.getElem?_mapIdx] at hm
    obtain ⟨s, hs, rfl⟩ := Option.map_eq_some_iff.mp hm
    refine ⟨s, .memory {}, ?_⟩
    unfold Manager.create
    rw [h s (List.mem_of_getElem? hs)]
  bus := ⟨.standard, rfl⟩

/-- Each manager hears its own events, those that are sent to its place, and its control is sound. -/
structure Sound (net : Network) : Prop where
  listener : ∀ {i : Nat} {m : Manager}, net.managers[i]? = some m → m.listener = i
  control : ∀ {i : Nat} {m : Manager}, net.managers[i]? = some m → m.toControl.Sound

/-- The registry agrees with what each manager holds. -/
structure Registered (net : Network) : Prop extends Sound net where
  registry : ∀ {i : Nat} {m : Manager}, net.managers[i]? = some m → (net.link m).Registered

variable {Others : Network → Surroundings → Prop} {start net : Network} {i : Nat} {m m' : Manager}
  {t : Turn} {turns : List Turn} {around : Surroundings}

theorem IsNew.control (h : start.IsNew) (hm : start.managers[i]? = some m) :
    ∃ settings, m.toControl = { settings, listener := i } := by
  obtain ⟨settings, store, hcreate⟩ := h.managers hm
  exact ⟨settings, Manager.create_eq_ok hcreate⟩

theorem IsNew.sound (h : start.IsNew) : start.Sound where
  listener hm := by
    obtain ⟨settings, hcontrol⟩ := h.control hm
    rw [hcontrol]
  control hm := by
    obtain ⟨settings, hcontrol⟩ := h.control hm
    rw [hcontrol]
    exact Control.sound_new ..

theorem IsNew.registered (h : start.IsNew) : start.Registered where
  toSound := h.sound
  registry hm := by
    obtain ⟨settings, hcontrol⟩ := h.control hm
    obtain ⟨capacity, hbus⟩ := h.bus
    rw [link, hcontrol, hbus]
    exact {
      numbered := Registry.numbered_empty
      current := fun hid => by simp at hid
      only := fun _ {_ c} (hget : none = some c) => nomatch hget
      told := fun ⟨id, hid, _⟩ => by simp at hid }

/-! ### The managers -/

theorem Turn.Valid.sound (valid : t.Valid Others) (h : t.before.Sound) : t.after.Sound where
  listener hm' := by
    obtain ⟨m, hm, hdoes⟩ := valid.done hm'
    rcases hdoes.change with ⟨-, hchange⟩ | ⟨-, rfl⟩
    · exact hchange.constant.2.trans (h.listener hm)
    · exact h.listener hm
  control hm' := by
    obtain ⟨m, hm, hdoes⟩ := valid.done hm'
    rcases hdoes.change with ⟨-, hchange⟩ | ⟨-, rfl⟩
    · exact hchange.sound (h.control hm)
    · exact h.control hm

theorem Run.sound (run : Run Others start turns net) (h : start.Sound) : net.Sound := by
  induction run with
  | start => exact h
  | turn _ valid ih => exact valid.sound ih

/-! ### The registry -/

theorem Outside.byOthers (h : Outside net around) (hn : net.around.bus.Numbered)
    (hi : i < net.managers.length) :
    Registry.ByOthers i net.around.bus.toRegistry around.bus.toRegistry := by
  cases h with
  | fail => exact .refl i _
  | delay => exact .refl i _
  | refuse => exact .refl i _
  | files => exact .refl i _
  | beginConnect options =>
    rw [toRegistry_beginConnect]
    exact .refl i _
  | finishConnect options =>
    rw [toRegistry_finishConnect]
    split
    · exact .refl i _
    · exact Registry.byOthers_enter hn (Nat.ne_of_gt hi)
  | close id => exact Registry.byOthers_close i _ id
  | closeAll => exact Registry.byOthers_foldl (fun bus id => Registry.byOthers_close i _ id) _ _ hn
  | report event id => exact Registry.byOthers_report i event _ id
  | reportAll event =>
    exact Registry.byOthers_foldl (fun bus id => Registry.byOthers_report i event _ id) _ _ hn
  | announce servers =>
    have hreport (bus : Bus) (id : Nat) :
        Registry.ByOthers i bus.toRegistry (bus.reportServers id).toRegistry := by
      unfold reportServers
      split
      · exact Registry.byOthers_report i _ _ id
      · exact .refl i _
    exact Registry.byOthers_foldl hreport _ { net.around.bus with discovered := servers } hn
  | abandon => exact .refl i _
  | publish id message =>
    rw [toRegistry_publish]
    exact .refl i _
  | subscribe id pattern =>
    rw [toRegistry_subscribe]
    exact .refl i _
  | receive number first =>
    rw [toRegistry_receive]
    exact .refl i _
  | unsubscribe => exact .refl i _
  | hold => exact .refl i _
  | letGo id =>
    unfold Network.letGo
    dsimp only
    split
    · exact .refl i _
    · exact Registry.byOthers_discard i _ id

/-- What a turn of anybody but the manager at place `i` does on the bus. -/
theorem Turn.Valid.byOthers (valid : t.Valid Outside) (h : t.before.Registered)
    (hm : t.before.managers[i]? = some m) (hmove : t.move.manager? ≠ some i) :
    Registry.ByOthers i t.before.around.bus.toRegistry t.after.around.bus.toRegistry := by
  cases hturn : t.move.manager? with
  | none =>
    rcases valid.idles hturn with ⟨around, hothers, hafter⟩ | ⟨now, -, hafter⟩
    · rw [hafter]
      exact hothers.byOthers (h.registry hm).numbered (List.getElem?_eq_some_iff.mp hm).1
    · rw [hafter]
      exact .refl i _
  | some j =>
    obtain ⟨other, hother⟩ := valid.manager hturn
    obtain ⟨other', -, hdoes⟩ := valid.does hother
    have hne : other.listener ≠ i := by
      rw [h.listener hother]
      rintro rfl
      exact hmove hturn
    rcases hdoes.change with ⟨-, hchange⟩ | ⟨hnot, -⟩
    · exact (hchange.owns_follows (h.control hother) (h.registry hother).toOwns).2.byOthers hne
    · exact absurd hturn hnot

theorem Turn.Valid.registered (valid : t.Valid Outside) (h : t.before.Registered) :
    t.after.Registered where
  toSound := valid.sound h.toSound
  registry hm' := by
    obtain ⟨m, hm, hdoes⟩ := valid.done hm'
    rcases hdoes.change with ⟨-, hchange⟩ | ⟨hmove, rfl⟩
    · exact hchange.registered (h.control hm) (h.registry hm)
    · have hothers := valid.byOthers h hm hmove
      rw [← h.listener hm] at hothers
      exact (h.registry hm).of_byOthers hothers

theorem Run.registered (run : Run Outside start turns net) (h : start.Registered) :
    net.Registered := by
  induction run with
  | start => exact h
  | turn _ valid ih => exact valid.registered ih

end Network

end ClaimRelay
