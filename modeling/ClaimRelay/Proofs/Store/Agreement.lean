import ClaimRelay.Proofs.Store.Directory

/-! A store in memory and one in a directory answer the same calls alike.  What a directory holds after any
calls is what it held at first and one file for each claim that a store in memory would hold. -/

namespace ClaimRelay.Store

/-! ### Calls -/

/-- What is asked of a store. -/
inductive Call where
  | save (key : String) (payload : List UInt8)
  | load (key : String)

/-- The key that a call names, which it alone reads or writes. -/
def Call.key : Call → String
  | .save key _ => key
  | .load key => key

/-- What a store answers. -/
inductive Answer where
  | saved (result : Except Error Unit)
  | loaded (result : Except Error (Option (List UInt8)))

/-- Answers a call. -/
def perform (call : Call) : StateM (Store × FileSystem) Answer := fun (store, files) =>
  match call with
  | .save key payload =>
    let (result, after) := (save key payload).run (store, files)
    (.saved result, after)
  | .load key => (.loaded (store.load key files), store, files)

/-- The store and the files after calls. -/
def performAll (calls : List Call) (before : Store × FileSystem) : Store × FileSystem :=
  calls.foldl (fun s call => ((perform call).run s).2) before

/-- How the answer of a store in memory and that of one in a directory to the same call belong together.
A store in memory may be asked for any text, and has nothing under one that cannot be a key. -/
inductive Agree : Call → Answer → Answer → Prop
  | same {call : Call} (answer : Answer) (h : ∀ key, call = .load key → isKey key = true) :
      Agree call answer answer
  | noKey {key : String} (h : isKey key = false) :
      Agree (.load key) (.loaded (.ok none)) (.loaded (.error (.invalidKey key)))

namespace Directory

variable {dir : Directory} {key : String} {files : FileSystem}

/-! ### What a directory holds -/

/-- The files in which the directory also holds the given claims. -/
def filled (dir : Directory) (first : FileSystem) (claims : Memory) : FileSystem :=
  { first with nodes := first.nodes ++ claims.map fun c => (dir.path c.1, .file c.2) }

/-- The directory holds one file for each claim, with its payload, and nothing else has changed. -/
structure Mirrors (dir : Directory) (first : FileSystem) (claims : Memory) (files : FileSystem) :
    Prop where
  names : (files.names dir.root).Perm (claims.map fun c => fileName c.1)
  distinct : (files.names dir.root).Nodup
  content : ∀ {key payload}, claims.get? key = some payload →
    files.node? (dir.path key) = some (.file payload)
  elsewhere : ∀ {path}, (∀ key, (claims.get? key).isSome → dir.path key ≠ path) →
    files.node? path = first.node? path

variable {first : FileSystem} {claims : Memory}

theorem get?_map_path (dir : Directory) (claims : Memory) (key : String) :
    Table.get? (claims.map fun c => (dir.path c.1, FileSystem.Node.file c.2)) (dir.path key) =
      (claims.get? key).map .file := by
  induction claims with
  | nil => rfl
  | cons claim rest ih =>
    obtain ⟨k, payload⟩ := claim
    by_cases hk : k = key
    · simp [Table.get?, hk]
    · have hpath : dir.path k ≠ dir.path key := fun h => hk (path_injective h)
      simp only [List.map_cons, Table.get?, if_neg hk, if_neg hpath, ih]

theorem put_map_path (dir : Directory) (claims : Memory) (key : String) (payload : List UInt8) :
    Table.put (dir.path key) (.file payload)
        (claims.map fun c => (dir.path c.1, FileSystem.Node.file c.2)) =
      (claims.put key payload).map fun c => (dir.path c.1, .file c.2) := by
  induction claims with
  | nil => rfl
  | cons claim rest ih =>
    obtain ⟨k, v⟩ := claim
    by_cases hk : k = key
    · simp [Table.put, hk]
    · have hpath : dir.path k ≠ dir.path key := fun h => hk (path_injective h)
      simp only [List.map_cons, Table.put, if_neg hk, if_neg hpath, ih]

theorem node?_filled (path : FileSystem.Path) (hpath : path ≠ []) :
    (dir.filled first claims).node? path = (first.node? path).or
      (Table.get? (claims.map fun c => (dir.path c.1, FileSystem.Node.file c.2)) path) := by
  cases path with
  | nil => exact absurd rfl hpath
  | cons name rest => exact Table.get?_append ..

/-- Nothing is at the paths of an empty directory. -/
theorem node?_path_of_names_eq_nil (hempty : first.names dir.root = []) (key : String) :
    first.node? (dir.path key) = none := by
  cases hnode : first.node? (dir.path key) with
  | none => rfl
  | some node =>
    have hmem : fileName key ∈ first.names dir.root := by
      rw [FileSystem.mem_names]
      exact hnode ▸ rfl
    simp [hempty] at hmem

theorem node?_filled_path (hempty : first.names dir.root = []) (key : String) :
    (dir.filled first claims).node? (dir.path key) = (claims.get? key).map .file := by
  rw [node?_filled _ (dir.path_ne_nil key), node?_path_of_names_eq_nil hempty, get?_map_path]
  rfl

/-- What is put at the path of a key is put there as in memory. -/
theorem put_filled (hempty : first.names dir.root = []) (key : String) (payload : List UInt8) :
    (dir.filled first claims).put (dir.path key) (.file payload) =
      dir.filled first (claims.put key payload) := by
  have hnone : Table.get? first.nodes (dir.path key) = none := by
    have hnode := node?_path_of_names_eq_nil hempty key
    obtain ⟨name, rest, hpath⟩ := List.exists_cons_of_ne_nil (dir.path_ne_nil key)
    rw [hpath] at hnode ⊢
    exact hnode
  unfold FileSystem.put filled
  dsimp only
  rw [Table.put_append hnone, put_map_path]

theorem mirrors_filled (hempty : first.names dir.root = []) (hnodup : (claims.map (·.1)).Nodup) :
    dir.Mirrors first claims (dir.filled first claims) := by
  have hnames : ((dir.filled first claims).names dir.root).Perm (claims.map fun c => fileName c.1) := by
    have hfirst : first.nodes.filterMap (fun entry => FileSystem.nameIn? dir.root entry.1) = [] := by
      apply List.eq_nil_of_length_eq_zero
      rw [← List.length_mergeSort]
      exact List.length_eq_zero_iff.mpr hempty
    have hclaims : (claims.map fun c => (dir.path c.1, FileSystem.Node.file c.2)).filterMap
        (fun entry => FileSystem.nameIn? dir.root entry.1) = claims.map fun c => fileName c.1 := by
      rw [List.filterMap_map, ← List.filterMap_eq_map]
      apply List.filterMap_congr
      intro c _
      exact FileSystem.nameIn?_eq_some.mpr rfl
    unfold FileSystem.names filled
    dsimp only
    rw [List.filterMap_append, hfirst, hclaims, List.nil_append]
    exact List.mergeSort_perm ..
  constructor
  · exact hnames
  · rw [hnames.nodup_iff]
    have hinjective := hnodup.map (f := fileName) fun _ _ => fileName_injective
    rwa [List.map_map] at hinjective
  · intro key payload hget
    rw [node?_filled_path hempty, hget]
    rfl
  · intro path helsewhere
    by_cases hpath : path = []
    · rw [hpath]
      rfl
    · rw [node?_filled path hpath]
      cases hget : Table.get? (claims.map fun c => (dir.path c.1, FileSystem.Node.file c.2)) path with
      | none => exact Option.or_none
      | some node =>
        obtain ⟨⟨key, payload⟩, hmem, heq⟩ := List.mem_map.mp (Table.mem_of_get? hget)
        have hsome : (claims.get? key).isSome := by
          rw [Table.isSome_get?]
          exact List.mem_map_of_mem hmem
        exact absurd (Prod.mk.inj heq).1 (helsewhere key hsome)

end Directory

/-! ### Calls one after another -/

/-- What a store in memory holds after any calls. -/
structure Memory.Keyed (claims : Memory) : Prop where
  distinct : (claims.map (·.1)).Nodup
  keys : ∀ {key}, (claims.get? key).isSome → isKey key = true

theorem Memory.Keyed.put {claims : Memory} (h : claims.Keyed) {key : String}
    (hkey : isKey key = true) (payload : List UInt8) : Memory.Keyed (claims.put key payload) := by
  constructor
  · exact Table.nodup_put h.distinct key payload
  · intro other hother
    rw [Table.get?_put] at hother
    split at hother
    · rename_i hsame
      exact hsame ▸ hkey
    · exact h.keys hother

variable {dir : Directory} {first : FileSystem} {claims : Memory}

section Calls

variable (hempty : first.names dir.root = []) (hwritable : dir.readOnly = false)

include hempty hwritable

/-- A call is answered in a directory as in memory, and leaves the same there. -/
theorem perform_agrees (h : claims.Keyed) (call : Call) (hshort : call.key.utf8ByteSize ≤ 251)
    (files : FileSystem) :
    ∃ claims' answer answer', Memory.Keyed claims' ∧ Agree call answer answer' ∧
      (perform call).run (.memory claims, files) = (answer, .memory claims', files) ∧
      (perform call).run (.directory dir, dir.filled first claims) =
        (answer', .directory dir, dir.filled first claims') := by
  cases call with
  | save key payload =>
    have hmemory := run_save_memory key payload claims files
    change save key payload (.memory claims, files) = _ at hmemory
    have hsame (answer : Answer) : Agree (.save key payload) answer answer :=
      .same answer fun _ h => nomatch h
    cases hkey : isKey key with
    | true =>
      have hfile : (dir.filled first claims).node? (dir.path key) ≠ some .directory := by
        rw [Directory.node?_filled_path hempty]
        cases claims.get? key <;> simp
      have hsave := Directory.save_eq_put hwritable hkey hshort hfile payload
      rw [Directory.put_filled hempty] at hsave
      rw [if_pos hkey] at hmemory
      refine ⟨claims.put key payload, _, _, h.put hkey payload, hsame (.saved (.ok ())), ?_, ?_⟩
      · simp only [perform, StateT.run, hmemory]
      · simp only [perform, StateT.run, save, hsave]
    | false =>
      have hsave := Directory.save_noKey hwritable hkey payload (dir.filled first claims)
      rw [hkey, if_neg Bool.false_ne_true] at hmemory
      refine ⟨claims, _, _, h, hsame (.saved (.error (.invalidKey key))), ?_, ?_⟩
      · simp only [perform, StateT.run, hmemory]
      · simp only [perform, StateT.run, save, hsave]
  | load key =>
    cases hkey : isKey key with
    | true =>
      have hload : dir.load key (dir.filled first claims) = .ok (claims.get? key) :=
        Directory.load_of_node? hkey hshort (Directory.node?_filled_path hempty key)
      have hsame : Agree (.load key) (.loaded (.ok (claims.get? key)))
          (.loaded (.ok (claims.get? key))) := by
        apply Agree.same
        intro other hother
        rw [← Call.load.inj hother, hkey]
      refine ⟨claims, _, _, h, hsame, rfl, ?_⟩
      simp only [perform, StateT.run, load, hload]
    | false =>
      have hnone : claims.get? key = none := by
        rw [← Option.not_isSome_iff_eq_none]
        intro hsome
        exact absurd (hkey.symm.trans (h.keys hsome)) (by decide)
      refine ⟨claims, _, _, h, .noKey hkey, ?_, ?_⟩
      · simp only [perform, StateT.run, load, Memory.load, hnone]
      · simp only [perform, StateT.run, load, Directory.load_noKey hkey]

/-- After any calls a directory holds what is in memory. -/
theorem performAll_agrees (h : claims.Keyed) (calls : List Call)
    (hshort : ∀ call ∈ calls, call.key.utf8ByteSize ≤ 251) (files : FileSystem) :
    ∃ claims' : Memory, claims'.Keyed ∧
      performAll calls (.memory claims, files) = (.memory claims', files) ∧
      performAll calls (.directory dir, dir.filled first claims) =
        (.directory dir, dir.filled first claims') := by
  induction calls generalizing claims with
  | nil => exact ⟨claims, h, rfl, rfl⟩
  | cons call calls ih =>
    obtain ⟨middle, _, _, hmiddle, -, hmemory, hdirectory⟩ :=
      perform_agrees hempty hwritable h call (hshort call (.head _)) files
    obtain ⟨claims', h', hmemory', hdirectory'⟩ := ih hmiddle fun c hc => hshort c (.tail _ hc)
    refine ⟨claims', h', ?_, ?_⟩
    · rw [← hmemory', performAll, List.foldl_cons, hmemory]
      rfl
    · rw [← hdirectory', performAll, List.foldl_cons, hdirectory]
      rfl

end Calls

/-! ### Agreement -/

/-- After any calls, a store in memory and one that was opened on an empty directory answer every call alike,
and the directory holds one file for each claim in memory.  A directory that is opened for reading only is
not changed by that, refuses every save, and finds whatever it would find if it was opened for writing. -/
theorem memory_and_directory_agree :
    (∀ {path : String} {files first : FileSystem} {dir : Directory},
      openDirectory path false files = (.ok (.directory dir), first) → first.names dir.root = [] →
        ∀ (calls : List Call), (∀ call ∈ calls, call.key.utf8ByteSize ≤ 251) → ∀ others : FileSystem,
          ∃ (claims : Memory) (after : FileSystem),
            performAll calls (.memory [], others) = (.memory claims, others) ∧
            performAll calls (.directory dir, first) = (.directory dir, after) ∧
            dir.Mirrors first claims after ∧
            ∀ call : Call, call.key.utf8ByteSize ≤ 251 →
              Agree call ((perform call).run (.memory claims, others)).1
                ((perform call).run (.directory dir, after)).1) ∧
    (∀ {path : String} {files after : FileSystem} {store : Store},
      openDirectory path true files = (.ok store, after) → after = files ∧
        ∃ writable, openDirectory path false files = (.ok writable, files) ∧ ∀ now : FileSystem,
          (∀ key payload, (save key payload).run (store, now) = (.error .readOnly, store, now)) ∧
          ∀ key, store.load key now = writable.load key now) := by
  constructor
  · intro path files first dir hopen hempty calls hshort others
    obtain ⟨dir', hwritable, hdir⟩ := openDirectory_writable hopen
    obtain rfl := Store.directory.inj hdir
    have hnone : Memory.Keyed [] := ⟨List.nodup_nil, fun h => by simp at h⟩
    have hfirst : dir.filled first [] = first := by simp [Directory.filled]
    obtain ⟨claims, hclaims, hmemory, hdirectory⟩ :=
      performAll_agrees hempty hwritable hnone calls hshort others
    rw [hfirst] at hdirectory
    refine ⟨claims, _, hmemory, hdirectory, Directory.mirrors_filled hempty hclaims.distinct, ?_⟩
    intro call hcall
    obtain ⟨_, answer, answer', -, hagree, hanswer, hanswer'⟩ :=
      perform_agrees hempty hwritable hclaims call hcall others
    rw [hanswer, hanswer']
    exact hagree
  · intro path files after store hopen
    obtain ⟨rfl, dir, hreadOnly, rfl, hwritable⟩ := openDirectory_readOnly hopen
    refine ⟨rfl, _, hwritable, fun now => ⟨fun key payload => ?_, fun key => rfl⟩⟩
    show save key payload (.directory dir, now) = _
    simp only [save, Directory.save_readOnly hreadOnly]

/-- A claim is saved twice in an empty directory, between saves under a text that leads out of it.  The
directory holds the second claim alone, and opened for reading only it refuses a third one. -/
theorem agree_after_four_calls : ∃ (claims : Memory) (after : FileSystem) (store : Store),
    performAll [.save "A" [1], .save "../A" [2], .save "A" [3], .load "../A"] (.memory [], {}) =
      (.memory claims, {}) ∧
    performAll [.save "A" [1], .save "../A" [2], .save "A" [3], .load "../A"]
        (.directory ⟨["claims"], false⟩, { nodes := [(["claims"], .directory)] }) =
      (.directory ⟨["claims"], false⟩, after) ∧
    after.node? ["claims", "A.jwt"] = some (.file [3]) ∧
    (after.names ["claims"]).Perm ["A.jwt"] ∧
    Agree (.load "A") (.loaded (.ok (some [3])))
      ((perform (.load "A")).run (.directory ⟨["claims"], false⟩, after)).1 ∧
    openDirectory "claims" true after = (.ok store, after) ∧
    (save "A" [4]).run (store, after) = (.error .readOnly, store, after) := by
  let calls : List Call := [.save "A" [1], .save "../A" [2], .save "A" [3], .load "../A"]
  let first : FileSystem := { nodes := [(["claims"], .directory)] }
  have hopen : openDirectory "claims" false first = (.ok (.directory ⟨["claims"], false⟩), first) := rfl
  have hempty : first.names ["claims"] = [] := by decide +kernel
  have hshort : ∀ call ∈ calls, call.key.utf8ByteSize ≤ 251 := by decide
  obtain ⟨claims, after, hmemory, hdirectory, hmirrors, hanswers⟩ :=
    memory_and_directory_agree.1 hopen hempty calls hshort {}
  have hclaims : performAll calls (.memory [], {}) = (.memory [("A", [3])], {}) := rfl
  obtain rfl := Store.memory.inj (Prod.mk.inj (hclaims.symm.trans hmemory)).1
  have hfile : Table.get? [("A", [(3 : UInt8)])] "A" = some [3] := rfl
  have hanswer := hanswers (.load "A") (by decide)
  have hafter : performAll calls (.directory ⟨["claims"], false⟩, first) =
      (.directory ⟨["claims"], false⟩,
        { nodes := [(["claims"], .directory), (["claims", "A.jwt"], .file [3])] }) := rfl
  obtain rfl := (Prod.mk.inj (hafter.symm.trans hdirectory)).2
  have hreadOnly : openDirectory "claims" true
      { nodes := [(["claims"], .directory), (["claims", "A.jwt"], .file [3])] } =
        (.ok (.directory ⟨["claims"], true⟩), _) := rfl
  obtain ⟨-, _, -, hnow⟩ := memory_and_directory_agree.2 hreadOnly
  exact ⟨_, _, _, hmemory, hdirectory, hmirrors.content hfile, hmirrors.names, hanswer, hreadOnly,
    (hnow _).1 "A" [4]⟩

end ClaimRelay.Store
