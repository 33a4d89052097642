import ClaimRelay.Proofs.Store.Interleaving
import Mathlib.Data.List.Nodup
import Mathlib.Data.List.Perm.Subperm

/-! A directory that nobody else uses.  A save there does nothing but put the claim at the path of its key,
and succeeds unless the text cannot be a key.  A directory that is opened for reading only is found as it
would be found for writing, and is not changed. -/

namespace ClaimRelay.Store

/-! ### Saves in a directory -/

theorem temporaryName_injective : Function.Injective Saving.temporaryName := by
  intro m n h
  have hdigits := congrArg String.toList h
  simp only [Saving.temporaryName, String.toList_append] at hdigits
  have hnumber := congrArg (fun cs => Nat.ofDigitChars 10 cs 0) (List.append_cancel_left hdigits)
  simpa [Nat.toString_eq_ofList_toDigits] using hnumber

/-- There is always a path for one more temporary file. -/
theorem unusedPath?_isSome (root : FileSystem.Path) (files : FileSystem) :
    (Saving.unusedPath? root files).isSome := by
  unfold Saving.unusedPath?
  rw [List.find?_isSome]
  by_contra hnone
  -- Otherwise every one of the paths is in use, but there are more of them than files and directories.
  have hused : (List.range (files.nodes.length + 1)).map (fun n => root ++ [Saving.temporaryName n]) ⊆
      files.nodes.map (·.1) := by
    intro path hpath
    have hsome : (files.node? path).isSome := by
      cases hnode : files.node? path with
      | none => exact absurd ⟨path, hpath, by simp [hnode]⟩ hnone
      | some => rfl
    obtain ⟨n, -, rfl⟩ := List.mem_map.mp hpath
    rw [← Table.isSome_get?]
    cases root <;> exact hsome
  have hdistinct : ((List.range (files.nodes.length + 1)).map
      fun n => root ++ [Saving.temporaryName n]).Nodup := by
    apply List.nodup_range.map
    intro m n h
    exact temporaryName_injective (by simpa using h)
  have hle := (List.subperm_of_subset hdistinct hused).length_le
  rw [List.length_map, List.length_map, List.length_range] at hle
  omega

namespace Directory

variable {dir : Directory} {key : String} {files : FileSystem}

theorem utf8ByteSize_fileName (key : String) :
    (fileName key).utf8ByteSize = key.utf8ByteSize + 4 := by
  rw [fileName, String.utf8ByteSize_append]
  rfl

/-- A save puts the claim at the path of its key and changes nothing else, unless a directory is there. -/
theorem save_eq (hwritable : dir.readOnly = false) (hkey : isKey key = true)
    (hshort : key.utf8ByteSize ≤ 251) (payload : List UInt8) (files : FileSystem) :
    dir.save key payload files =
      if files.node? (dir.path key) = some .directory then (.error (.files .isDirectory), files)
      else (.ok (), files.put (dir.path key) (.file payload)) := by
  obtain ⟨temporary, hunused⟩ := Option.isSome_iff_exists.mp (unusedPath?_isSome dir.root files)
  obtain ⟨hfresh, number, htemporary⟩ := Saving.unusedPath?_eq_some hunused
  have hpath : temporary ≠ [] := by simp [htemporary]
  have hstart : Saving.start dir key payload files =
      .ok (⟨key, temporary, payload, false⟩, files.put temporary (.file [])) := by
    unfold Saving.start checkKey
    rw [hwritable, if_pos hkey, hunused]
    rfl
  have hother : temporary ≠ dir.path key :=
    htemporary ▸ (path_ne_of_dotted hkey (head?_temporaryName number)).symm
  have hremoved : (files.put temporary (.file payload)).remove temporary = files := by
    rw [FileSystem.remove_put, FileSystem.remove_of_node?_eq_none hfresh]
  have hrename : (files.put temporary (.file payload)).rename temporary (dir.path key) =
      if files.node? (dir.path key) = some .directory then .error .isDirectory
      else .ok (files.put (dir.path key) (.file payload)) := by
    have hname : ¬FileSystem.longestName < ((dir.path key).getLast?.getD "").utf8ByteSize := by
      rw [getLast?_path, utf8ByteSize_fileName]
      exact Nat.not_lt.mpr (Nat.add_le_add_right hshort 4)
    unfold FileSystem.rename
    rw [FileSystem.node?_put hpath, if_pos rfl, FileSystem.node?_put hpath, if_neg hother, hremoved]
    simp only [gt_iff_lt, if_neg hname]
  unfold save
  rw [hstart]
  dsimp only
  rw [Saving.write_all hpath]
  dsimp only [Saving.sync, Saving.commit, Saving.abandon]
  rw [hrename, hremoved]
  by_cases hfile : files.node? (dir.path key) = some .directory
  · rw [if_pos hfile, if_pos hfile]
  · rw [if_neg hfile, if_neg hfile]

theorem save_eq_put (hwritable : dir.readOnly = false) (hkey : isKey key = true)
    (hshort : key.utf8ByteSize ≤ 251) (hfile : files.node? (dir.path key) ≠ some .directory)
    (payload : List UInt8) :
    dir.save key payload files = (.ok (), files.put (dir.path key) (.file payload)) := by
  rw [save_eq hwritable hkey hshort, if_neg hfile]

theorem save_noKey (hwritable : dir.readOnly = false) (hkey : isKey key = false)
    (payload : List UInt8) (files : FileSystem) :
    dir.save key payload files = (.error (.invalidKey key), files) := by
  unfold save Saving.start checkKey
  rw [hwritable, hkey]
  rfl

theorem save_readOnly (hreadOnly : dir.readOnly = true) (key : String) (payload : List UInt8)
    (files : FileSystem) : dir.save key payload files = (.error .readOnly, files) := by
  unfold save Saving.start
  rw [hreadOnly]
  rfl

theorem load_noKey (hkey : isKey key = false) (files : FileSystem) :
    dir.load key files = .error (.invalidKey key) := by
  unfold load checkKey
  rw [hkey]
  rfl

end Directory

/-! ### Opening -/

namespace Directory

variable {files : FileSystem} {here root : FileSystem.Path} {names : List String} {path : String}

/-- A path that leads to a directory goes through directories only. -/
theorem node?_of_walk (hwalk : files.walk here names = .ok root)
    (hroot : files.node? root = some .directory) : files.node? here = some .directory := by
  cases names with
  | nil =>
    obtain rfl := Except.ok.inj hwalk
    exact hroot
  | cons name rest =>
    unfold FileSystem.walk at hwalk
    split at hwalk
    · contradiction
    · contradiction
    · assumption

/-- Nothing has to be made on the way to a directory that is there. -/
theorem makeAlong_of_walk (hwalk : files.walk here names = .ok root)
    (hroot : files.node? root = some .directory) :
    files.makeAlong here (names.filter (· ≠ "")) = (.ok root, files) := by
  induction names generalizing here with
  | nil =>
    obtain rfl := Except.ok.inj hwalk
    rfl
  | cons name rest ih =>
    have hhere := node?_of_walk hwalk hroot
    unfold FileSystem.walk at hwalk
    rw [hhere] at hwalk
    dsimp only at hwalk
    by_cases hname : name = ""
    · rw [if_pos (.inl hname)] at hwalk
      rw [List.filter_cons_of_neg (by simpa using hname)]
      exact ih hwalk
    · rw [List.filter_cons_of_pos (by simpa using hname), FileSystem.makeAlong]
      by_cases hdot : name = "."
      · rw [if_pos (.inr hdot)] at hwalk
        rw [if_pos hdot]
        exact ih hwalk
      · rw [if_neg (by simp [hname, hdot])] at hwalk
        rw [if_neg hdot]
        by_cases hup : name = ".."
        · rw [if_pos hup] at hwalk ⊢
          exact ih hwalk
        · rw [if_neg hup] at hwalk ⊢
          split at hwalk
          · contradiction
          · rename_i hshort
            dsimp only
            rw [if_neg hshort, node?_of_walk hwalk hroot]
            exact ih hwalk

/-- A directory that can be opened for reading only can be opened for writing, and is not changed by
that. -/
theorem create_of_openReadOnly {dir : Directory} (h : openReadOnly path files = .ok dir) :
    dir.readOnly = true ∧ create path files = (.ok { dir with readOnly := false }, files) := by
  unfold openReadOnly at h
  cases hlocate : files.locate path with
  | error e => simp [hlocate] at h
  | ok root =>
    rw [hlocate] at h
    dsimp only at h
    split at h
    · rename_i hroot
      obtain rfl := Except.ok.inj h
      refine ⟨rfl, ?_⟩
      unfold FileSystem.locate at hlocate
      cases hcheck : FileSystem.checkPath path with
      | error e => simp [hcheck, bind, Except.bind] at hlocate
      | ok =>
        rw [hcheck] at hlocate
        have hpath : path ≠ "" := by
          rintro rfl
          simp [FileSystem.checkPath] at hcheck
        unfold create FileSystem.makeDirectories
        rw [if_neg hpath, hcheck]
        dsimp only
        rw [makeAlong_of_walk hlocate hroot]
    · contradiction

end Directory

/-- Opening for reading only changes nothing and finds what opening for writing finds. -/
theorem openDirectory_readOnly {path : String} {files after : FileSystem} {store : Store}
    (h : openDirectory path true files = (.ok store, after)) :
    after = files ∧ ∃ dir : Directory, dir.readOnly = true ∧ store = .directory dir ∧
      openDirectory path false files = (.ok (.directory { dir with readOnly := false }), files) := by
  unfold openDirectory at h
  rw [if_pos rfl] at h
  obtain ⟨hopened, rfl⟩ := Prod.mk.inj h
  cases hdir : Directory.openReadOnly path files with
  | error e => simp [hdir, Except.map] at hopened
  | ok dir =>
    rw [hdir] at hopened
    obtain ⟨hreadOnly, hcreate⟩ := Directory.create_of_openReadOnly hdir
    refine ⟨rfl, dir, hreadOnly, (Except.ok.inj hopened).symm, ?_⟩
    unfold openDirectory
    rw [if_neg Bool.false_ne_true, hcreate]
    rfl

theorem openDirectory_writable {path : String} {files after : FileSystem} {store : Store}
    (h : openDirectory path false files = (.ok store, after)) :
    ∃ dir : Directory, dir.readOnly = false ∧ store = .directory dir := by
  unfold openDirectory Directory.create at h
  rw [if_neg Bool.false_ne_true] at h
  cases hmade : files.makeDirectories path with
  | mk result made =>
    rw [hmade] at h
    cases result with
    | error e => simp [Except.map] at h
    | ok root =>
      obtain ⟨hstore, -⟩ := Prod.mk.inj h
      exact ⟨⟨root, false⟩, rfl, (Except.ok.inj hstore).symm⟩

end ClaimRelay.Store
