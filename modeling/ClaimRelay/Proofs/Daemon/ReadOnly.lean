import ClaimRelay.Daemon.Assembly
import ClaimRelay.Proofs.Network.Clock
import ClaimRelay.Proofs.Network.Run
import ClaimRelay.Proofs.Store.Directory

/-! Servers that only read their claims.  The settings may ask for a store that is not written to.  Where
they also name a directory, the server drops whatever it receives and leaves the directory as it is.
Without a directory the wish is passed over. -/

namespace ClaimRelay

open Manager Manager.Scene

/-- The store is a directory that is not written to. -/
def Store.IsReadOnly (store : Store) : Prop :=
  ∃ dir : Store.Directory, store = .directory dir ∧ dir.readOnly = true

theorem Store.IsReadOnly.save {store : Store} (h : store.IsReadOnly) (key : String)
    (payload : List UInt8) (files : FileSystem) :
    (Store.save key payload).run (store, files) = (.error .readOnly, store, files) := by
  obtain ⟨dir, rfl, hreadOnly⟩ := h
  show Store.save key payload (.directory dir, files) = _
  simp only [Store.save, Directory.save_readOnly hreadOnly]

/-- With a store that is not written to, every notification is dropped. -/
theorem Ingest.Handles.dropped {now : Nat} {kind : Notification} {payload : List UInt8}
    {ingest ingest' : Ingest} {store store' : Store} {files files' : FileSystem} {outcome : Outcome}
    (h : Handles Store.save now kind payload ingest (store, files) outcome (ingest', store', files'))
    (hstore : store.IsReadOnly) :
    outcome.isDropped = true ∧ ingest' = { ingest with dropped := ingest.dropped + 1 } ∧
      store' = store ∧ files' = files := by
  have hrefuse (id : String) := hstore.save id payload files
  cases h with
  | stored _ hsave =>
    have hresult := congrArg Prod.fst ((hrefuse _).symm.trans hsave)
    contradiction
  | unidentified => exact ⟨rfl, rfl, rfl, rfl⟩
  | refused _ hsave =>
    obtain ⟨-, hafter⟩ := Prod.mk.inj ((hrefuse _).symm.trans hsave)
    obtain ⟨hstore', hfiles'⟩ := Prod.mk.inj hafter
    exact ⟨rfl, rfl, hstore'.symm, hfiles'.symm⟩
  | crashed _ hsave =>
    have hresult := congrArg Prod.fst ((hrefuse _).symm.trans hsave)
    contradiction

namespace Network

variable {Others : Network → Surroundings → Prop} {start net : Network} {i : Nat} {m m' m₀ : Manager}
  {t : Turn} {turns : List Turn}

/-- What a manager holds in a network. -/
def holdings (net : Network) (m : Manager) : Holdings := (⟨m, net.around⟩ : Scene).holdings

/-- A turn of a manager leaves what it holds, or it takes in one message. -/
theorem Turn.Valid.holdings (valid : t.Valid Others) (hm : t.before.managers[i]? = some m)
    (hm' : t.after.managers[i]? = some m') (hmove : t.move.manager? = some i) :
    t.after.holdings m' = t.before.holdings m ∨ ∃ kind payload outcome,
      Ingest.Handles Store.save t.before.around.now kind payload m.ingest
        (m.store, t.before.around.files) outcome (m'.ingest, m'.store, t.after.around.files) := by
  by_cases hdispatch : ∃ n first, t.move = .step (.dispatch i n first)
  · obtain ⟨n, first, hn⟩ := hdispatch
    have hstep := valid.step?_eq hn
    simp only [step?] at hstep
    exact holdings_dispatch (onManager_scene hstep hm hm')
  · left
    have hstill := valid.still hm hm' hmove fun n first hn => hdispatch ⟨n, first, hn⟩
    exact congrArg Prod.fst hstill

/-- What a manager with a store that is not written to keeps. -/
structure Keeps (m m' : Manager) : Prop where
  store : m'.store = m.store
  stored : m'.ingest.stored = m.ingest.stored
  cache : m'.ingest.cache = m.ingest.cache

theorem Keeps.trans {m'' : Manager} (h : Keeps m m') (h' : Keeps m' m'') : Keeps m m'' :=
  ⟨h'.store.trans h.store, h'.stored.trans h.stored, h'.cache.trans h.cache⟩

/-- A turn of such a manager leaves the files alone, too. -/
theorem Turn.Valid.keeps (valid : t.Valid Others) (hm : t.before.managers[i]? = some m)
    (hm' : t.after.managers[i]? = some m') (hstore : m.store.IsReadOnly) :
    Keeps m m' ∧
      (t.move.manager? = some i → t.after.around.files = t.before.around.files) := by
  by_cases hmove : t.move.manager? = some i
  · rcases valid.holdings hm hm' hmove with hsame | ⟨kind, payload, outcome, hhandles⟩
    · obtain ⟨hingest, hstore', hfiles⟩ := Holdings.mk.inj hsame
      have hingest' : m'.ingest = m.ingest := hingest
      exact ⟨⟨hstore', by rw [hingest'], by rw [hingest']⟩, fun _ => hfiles⟩
    · obtain ⟨-, hingest, hstore', hfiles⟩ := hhandles.dropped hstore
      exact ⟨⟨hstore', by rw [hingest], by rw [hingest]⟩, fun _ => hfiles⟩
  · obtain ⟨m₁, hm₁, hdoes⟩ := valid.does hm
    obtain rfl : m₁ = m' := Option.some.inj (hm₁.symm.trans hm')
    rcases hdoes.change with ⟨hturn, -⟩ | ⟨-, rfl⟩
    · exact absurd hturn hmove
    · exact ⟨⟨rfl, rfl, rfl⟩, fun hturn => absurd hturn hmove⟩

theorem Run.keeps (run : Run Others start turns net) (hm₀ : start.managers[i]? = some m₀)
    (hstore : m₀.store.IsReadOnly) (hm : net.managers[i]? = some m) :
    Keeps m₀ m ∧ ∀ t ∈ turns, t.move.manager? = some i →
      t.after.around.files = t.before.around.files := by
  induction run generalizing m with
  | start =>
    obtain rfl := Option.some.inj (hm₀.symm.trans hm)
    exact ⟨⟨rfl, rfl, rfl⟩, by simp⟩
  | @turn turns t run valid ih =>
    obtain ⟨m₁, hm₁, -⟩ := valid.done hm
    obtain ⟨hkeeps, hfiles⟩ := ih hm₁
    obtain ⟨hlast, hleaves⟩ := valid.keeps hm₁ hm (hkeeps.store ▸ hstore)
    exact ⟨hkeeps.trans hlast, List.forall_mem_cons.mpr ⟨hleaves, hfiles⟩⟩

theorem Run.files_eq (run : Run Others start turns net)
    (h : ∀ t ∈ turns, t.after.around.files = t.before.around.files) :
    net.around.files = start.around.files := by
  induction run with
  | start => rfl
  | turn run valid ih =>
    obtain ⟨hlast, hearlier⟩ := List.forall_mem_cons.mp h
    exact hlast.trans (ih hearlier)

end Network

/-! ### Assembled servers -/

namespace Daemon.Settings

variable {settings : Settings} {listener : Nat} {first files : FileSystem} {m : Manager}

theorem assemble_eq_ok (h : settings.assemble listener first = (.ok m, files)) :
    settings.openStore first = (.ok m.store, files) ∧ m.ingest.stored = 0 := by
  unfold assemble at h
  split at h
  · simp at h
  · rename_i store opened hopen
    split at h
    · simp at h
    · rename_i made hcreate
      obtain ⟨hm, rfl⟩ := Prod.mk.inj h
      obtain rfl := Except.ok.inj hm
      unfold Manager.create at hcreate
      split at hcreate
      · contradiction
      · obtain rfl := Except.ok.inj hcreate
        exact ⟨hopen, rfl⟩

theorem openStore_readOnly {store : Store} (hreadOnly : settings.storeReadOnly = true)
    (hdirectory : settings.storeDirectory ≠ none)
    (h : settings.openStore first = (.ok store, files)) : store.IsReadOnly ∧ files = first := by
  unfold openStore at h
  split at h
  · contradiction
  · rename_i path _
    rw [hreadOnly] at h
    split at h
    · rename_i opened after hopen
      obtain ⟨hstore, rfl⟩ := Prod.mk.inj h
      obtain rfl := Except.ok.inj hstore
      obtain ⟨rfl, dir, hdir, rfl, -⟩ := Store.openDirectory_readOnly hopen
      exact ⟨⟨dir, rfl, hdir⟩, rfl⟩
    · simp at h

end Daemon.Settings

namespace Network

variable {Others : Network → Surroundings → Prop} {start net : Network} {i : Nat} {m m₀ : Manager}
  {turns : List Turn}

/-- A server whose settings ask for a store that is not written to.  If they name a directory, then nothing
can ever be saved in its store, nothing that it receives is stored or made fresh, and none of its turns
changes a file, so that its claims stay as they are if the turns of others change no file either.  If they
name no directory, then the server is the same that it would be without the wish. -/
theorem Run.read_only {settings : Daemon.Settings} {listener : Nat} {first files : FileSystem}
    (hreadOnly : settings.storeReadOnly = true)
    (hassemble : settings.assemble listener first = (.ok m₀, files))
    (run : Run Others start turns net) (hm₀ : start.managers[i]? = some m₀)
    (hm : net.managers[i]? = some m) :
    (settings.storeDirectory ≠ none → files = first ∧ m.store = m₀.store ∧
      m.ingest.stored = 0 ∧ m.ingest.cache = m₀.ingest.cache ∧
      (∀ key payload now, (Store.save key payload).run (m.store, now) =
        (.error .readOnly, m.store, now)) ∧
      (∀ t ∈ turns, t.move.manager? = some i → t.after.around.files = t.before.around.files) ∧
      ((∀ t ∈ turns, t.move.manager? ≠ some i → t.after.around.files = t.before.around.files) →
        net.around.files = start.around.files ∧
          ∀ id, m.store.load id net.around.files = m₀.store.load id start.around.files)) ∧
    (settings.storeDirectory = none →
      settings.assemble listener first =
          { settings with storeReadOnly := false }.assemble listener first ∧
        m₀.store = .memory []) := by
  obtain ⟨hopen, hcount⟩ := Daemon.Settings.assemble_eq_ok hassemble
  constructor
  · intro hdirectory
    obtain ⟨hstore, hfiles⟩ := Daemon.Settings.openStore_readOnly hreadOnly hdirectory hopen
    obtain ⟨hkeeps, hturns⟩ := run.keeps hm₀ hstore hm
    refine ⟨hfiles, hkeeps.store, hkeeps.stored.trans hcount, hkeeps.cache, ?_, hturns, ?_⟩
    · intro key payload now
      rw [hkeeps.store]
      exact hstore.save key payload now
    · intro hothers
      have hnet : net.around.files = start.around.files := by
        apply run.files_eq
        intro t ht
        by_cases hmove : t.move.manager? = some i
        · exact hturns t ht hmove
        · exact hothers t ht hmove
      refine ⟨hnet, fun id => ?_⟩
      rw [hnet, hkeeps.store]
  · intro hnone
    unfold Daemon.Settings.assemble Daemon.Settings.openStore at *
    rw [hnone] at hopen ⊢
    refine ⟨rfl, ?_⟩
    obtain ⟨hstore, -⟩ := Prod.mk.inj hopen
    exact (Except.ok.inj hstore).symm

/-! ### Servers with and without a directory -/

/-- A manager alone on a new bus. -/
def alone (m : Manager) (files : FileSystem) : Network where
  around := { files, bus := .ofCapacity .standard }
  managers := [m]

/-- A new primary with the given store. -/
def primary (store : Store) : Manager where
  settings := { servers := ["bus://a"], primary := true }
  listener := 0
  store := store
  ingest := { cache := { ttl := 3600000 } }

/-- The steps in which a server connects, and is sent an account claim by itself. -/
def sent (token : List UInt8) : List Action :=
  [.request 0 0 .start, .grant 0, .dispatch 0 1, .request 0 1 (.accountUpdate token "A"), .grant 0,
    .dispatch 0 1]

/-- A server without a directory stores a claim, though its settings ask for a store that is not written
to. -/
theorem Run.stored_in_memory : ∃ (settings : Daemon.Settings) (m₀ m : Manager) (turns : List Turn)
    (net : Network), settings.storeReadOnly = true ∧ settings.assemble 0 {} = (.ok m₀, {}) ∧
      Run Outside (alone m₀ {}) turns net ∧ net.managers[0]? = some m ∧ m.ingest.stored = 1 ∧
      m₀.store.load "A" {} = .ok none ∧ m.store.load "A" net.around.files ≠ .ok none := by
  let settings : Daemon.Settings :=
    { server := { servers := ["bus://a"], primary := true }, storeReadOnly := true }
  -- The reader reads a token, which only the kernel evaluates.
  obtain ⟨⟨turns, net⟩, hrun, m, hm, hstored, hload⟩ :
      ∃ x ∈ (alone (primary (.memory [])) {}).replay
          (sent (Text.Utf8.encode "eyJ0eXAiOiJqd3QifQ.eyJzdWIiOiJBIn0.")),
        ∃ m ∈ x.2.managers[0]?, m.ingest.stored = 1 ∧ m.store.load "A" x.2.around.files ≠ .ok none := by
    decide +kernel
  exact ⟨settings, primary (.memory []), m, turns, net, rfl, rfl, .of_replay hrun, hm, hstored, rfl, hload⟩

/-- A server whose settings ask for a store that is not written to may store claims. -/
theorem Run.stores_without_directory :
    ¬∀ (settings : Daemon.Settings) (m₀ m : Manager) (turns : List Turn) (net : Network),
      settings.storeReadOnly = true → settings.assemble 0 {} = (.ok m₀, {}) →
        Run Outside (alone m₀ {}) turns net → net.managers[0]? = some m →
        m.ingest.stored = 0 ∧
          ∀ id, m.store.load id net.around.files = m₀.store.load id {} := by
  intro h
  obtain ⟨settings, m₀, m, turns, net, hreadOnly, hassemble, run, hm, hstored, -⟩ := stored_in_memory
  obtain ⟨hnone, -⟩ := h settings m₀ m turns net hreadOnly hassemble run hm
  rw [hstored] at hnone
  contradiction

/-- A server with a directory drops the same claim, and the directory stays empty. -/
theorem Run.dropped_with_directory : ∃ (m : Manager) (turns : List Turn) (net : Network),
    Run Outside (alone (primary (.directory ⟨["claims"], true⟩))
        { nodes := [(["claims"], .directory)] }) turns net ∧
      net.managers[0]? = some m ∧ m.ingest.dropped = 1 ∧ m.ingest.stored = 0 ∧
      net.around.files = { nodes := [(["claims"], .directory)] } := by
  let files : FileSystem := { nodes := [(["claims"], .directory)] }
  let settings : Daemon.Settings :=
    { server := { servers := ["bus://a"], primary := true }
      storeDirectory := some "claims", storeReadOnly := true }
  have hassemble : settings.assemble 0 files =
      (.ok (primary (.directory ⟨["claims"], true⟩)), files) := rfl
  obtain ⟨⟨turns, net⟩, hrun, hturns, m, hm, hdropped⟩ :
      ∃ x ∈ (alone (primary (.directory ⟨["claims"], true⟩)) files).replay
          (sent (Text.Utf8.encode "eyJ0eXAiOiJqd3QifQ.eyJzdWIiOiJBIn0.")),
        (∀ t ∈ x.1, t.move.manager? = some 0) ∧ ∃ m ∈ x.2.managers[0]?, m.ingest.dropped = 1 := by
    decide +kernel
  have hreadOnly : settings.storeReadOnly = true := rfl
  have run : Run Outside _ turns net := .of_replay hrun
  obtain ⟨-, -, hstored, -, -, -, hothers⟩ :=
    (Run.read_only hreadOnly hassemble run rfl hm).1 (by simp [settings])
  obtain ⟨hfiles, -⟩ := hothers fun t ht hnot => absurd (hturns t ht) hnot
  exact ⟨m, turns, net, run, hm, hdropped, hstored, hfiles⟩

end Network

end ClaimRelay
