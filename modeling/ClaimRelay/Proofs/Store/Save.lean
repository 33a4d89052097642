import ClaimRelay.Store

/-! What a save leaves behind in any store.  A save that succeeds can be loaded, and no save touches what is
under another key.  A save that is refused changes neither the store nor the files. -/

namespace ClaimRelay.Store

variable {key : String} {payload : List UInt8} {e : Error}

theorem checkKey_ok (h : checkKey key = .ok ()) : isKey key = true := by
  unfold checkKey at h
  split at h
  · assumption
  · simp at h

theorem hasDoublePeriod_of_not_mem {cs : List Char} (h : '.' ∉ cs) : hasDoublePeriod cs = false := by
  induction cs with
  | nil => rfl
  | cons c cs ih =>
    obtain ⟨hc, hcs⟩ := not_or.mp (mt List.mem_cons.mpr h)
    rw [hasDoublePeriod, ih hcs]
    intro rest hperiod
    exact absurd hperiod.symm hc

/-! ### A store in memory -/

/-- A store in memory refuses nothing but texts that cannot be keys. -/
theorem run_save_memory (key : String) (payload : List UInt8) (memory : Memory) (files : FileSystem) :
    (save key payload).run (.memory memory, files) =
      if isKey key then (.ok (), .memory (memory.put key payload), files)
      else (.error (.invalidKey key), .memory memory, files) := by
  change save key payload (.memory memory, files) = _
  unfold save Memory.save checkKey
  by_cases hkey : isKey key = true
  · simp only [hkey, if_true]
    rfl
  · simp only [hkey]
    rfl

/-! ### A store in a directory -/

namespace Directory

variable (dir : Directory)

theorem path_ne_nil (key : String) : dir.path key ≠ [] := by simp [path]

theorem getLast?_path (key : String) : (dir.path key).getLast?.getD "" = fileName key := by
  simp [path]

theorem fileName_injective {other : String} (h : fileName key = fileName other) : key = other := by
  have htoList := congrArg String.toList h
  simp only [fileName, String.toList_append] at htoList
  exact String.toList_injective (List.append_cancel_right htoList)

variable {dir} in
theorem path_injective {other : String} (h : dir.path key = dir.path other) : key = other :=
  fileName_injective (by simpa [path] using h)

end Directory

namespace Saving

variable {dir : Directory} {files after : FileSystem} {saving : Saving}

theorem unusedPath?_eq_some {root path : FileSystem.Path} (h : unusedPath? root files = some path) :
    files.node? path = none ∧ ∃ number, path = root ++ [temporaryName number] := by
  obtain ⟨number, -, rfl⟩ := List.mem_map.mp (List.mem_of_find?_eq_some h)
  exact ⟨by simpa using List.find?_some h, number, rfl⟩

theorem start_ok (h : start dir key payload files = .ok (saving, after)) :
    dir.readOnly = false ∧ isKey key = true ∧ ∃ number,
      files.node? (dir.root ++ [temporaryName number]) = none ∧
      saving = ⟨key, dir.root ++ [temporaryName number], payload, false⟩ ∧
      after = files.put saving.temporary (.file []) := by
  unfold start at h
  cases hread : dir.readOnly with
  | true => simp [hread, bind, Except.bind, throw, throwThe, MonadExceptOf.throw] at h
  | false =>
    cases hkey : checkKey key with
    | error e => simp [hread, hkey, bind, Except.bind] at h
    | ok =>
      rw [hread, hkey] at h
      cases hunused : unusedPath? dir.root files with
      | none => simp [hunused, bind, Except.bind, throw, throwThe, MonadExceptOf.throw] at h
      | some path =>
        rw [hunused] at h
        obtain ⟨rfl, rfl⟩ := Prod.mk.inj (Except.ok.inj h)
        obtain ⟨hnone, number, rfl⟩ := unusedPath?_eq_some hunused
        exact ⟨rfl, checkKey_ok hkey, number, hnone, rfl, rfl⟩

theorem write_eq {content : List UInt8} (h : files.node? saving.temporary = some (.file content))
    (count : Nat) :
    saving.write count files = ({ saving with unwritten := saving.unwritten.drop count },
      files.put saving.temporary (.file (content ++ saving.unwritten.take count))) := by
  unfold write
  rw [h]

/-- A whole claim may be written at once. -/
theorem write_all {temporary : FileSystem.Path} (hpath : temporary ≠ []) (key : String)
    (payload : List UInt8) (files : FileSystem) :
    write payload.length ⟨key, temporary, payload, false⟩ (files.put temporary (.file [])) =
      (⟨key, temporary, [], false⟩, files.put temporary (.file payload)) := by
  have hempty : (files.put temporary (.file [])).node? temporary = some (.file []) := by
    rw [FileSystem.node?_put hpath, if_pos rfl]
  rw [write_eq hempty, FileSystem.put_put, List.drop_length, List.take_length, List.nil_append]

end Saving

namespace Directory

variable {dir : Directory} {files after : FileSystem}

/-- What a save does: it is refused before it begins, or its temporary file is filled and then takes the
place of the file of the key or is removed. -/
inductive Saves (dir : Directory) (key : String) (payload : List UInt8) (files : FileSystem) :
    Except Error Unit → FileSystem → Prop
  | refused {e : Error} : Saves dir key payload files (.error e) files
  | saved {temporary : FileSystem.Path} {after : FileSystem} (hkey : isKey key = true)
      (hfresh : files.node? temporary = none)
      (h : (files.put temporary (.file payload)).rename temporary (dir.path key) = .ok after) :
      Saves dir key payload files (.ok ()) after
  | abandoned {temporary : FileSystem.Path} {e : Error} (hfresh : files.node? temporary = none) :
      Saves dir key payload files (.error e) ((files.put temporary (.file payload)).remove temporary)

theorem save_saves (dir : Directory) (key : String) (payload : List UInt8) (files : FileSystem) :
    Saves dir key payload files (dir.save key payload files).1 (dir.save key payload files).2 := by
  unfold save
  cases hstart : Saving.start dir key payload files with
  | error e => exact .refused
  | ok begun =>
    obtain ⟨saving, started⟩ := begun
    obtain ⟨-, hkey, number, hfresh, rfl, rfl⟩ := Saving.start_ok hstart
    dsimp only
    rw [Saving.write_all (by simp)]
    dsimp only [Saving.sync, Saving.commit, Saving.abandon]
    split
    · rename_i after hrename
      exact .saved hkey hfresh hrename
    · exact .abandoned hfresh

/-- A save that succeeds puts the claim at the path of its key and changes nothing else. -/
theorem Saves.eq_put (h : Saves dir key payload files (.ok ()) after) :
    isKey key = true ∧ (fileName key).utf8ByteSize ≤ FileSystem.longestName ∧
      after = files.put (dir.path key) (.file payload) := by
  cases h with
  | @saved temporary _ hkey hfresh hrename =>
    have hpath : temporary ≠ [] := by
      rintro rfl
      simp [FileSystem.node?] at hfresh
    obtain ⟨node, hnode, -, hname, rfl⟩ := FileSystem.rename_ok hrename
    rw [FileSystem.node?_put hpath, if_pos rfl] at hnode
    obtain rfl := Option.some.inj hnode
    rw [getLast?_path] at hname
    rw [FileSystem.remove_put, FileSystem.remove_of_node?_eq_none hfresh]
    exact ⟨hkey, hname, rfl⟩

/-- What was saved can be loaded. -/
theorem Saves.load (h : Saves dir key payload files (.ok ()) after) :
    dir.load key after = .ok (some payload) := by
  obtain ⟨hkey, hname, rfl⟩ := h.eq_put
  unfold Directory.load checkKey
  rw [if_pos hkey]
  simp [FileSystem.node?_put (dir.path_ne_nil key), Nat.not_lt.mpr hname, bind, Except.bind, pure,
    Except.pure]

/-- A save that is refused changes no file. -/
theorem Saves.unchanged (h : Saves dir key payload files (.error e) after) : after = files := by
  cases h with
  | refused => rfl
  | abandoned hfresh => rw [FileSystem.remove_put, FileSystem.remove_of_node?_eq_none hfresh]

/-- What a directory holds under a key is not touched by saves under other keys. -/
theorem Saves.load_of_other {result : Except Error Unit} {other : String} (hother : other ≠ key)
    (h : Saves dir other payload files result after) : dir.load key after = dir.load key files := by
  cases result with
  | error e => rw [h.unchanged]
  | ok =>
    obtain ⟨-, -, rfl⟩ := h.eq_put
    have hpath : dir.path other ≠ dir.path key := fun hsame => hother (path_injective hsame)
    unfold Directory.load
    rw [FileSystem.node?_put (dir.path_ne_nil other), if_neg hpath]

end Directory

/-! ### Any store -/

variable {store after : Store} {files files' : FileSystem}

theorem run_save_directory (key : String) (payload : List UInt8) (dir : Directory) (files : FileSystem) :
    (save key payload).run (.directory dir, files) =
      ((dir.save key payload files).1, .directory dir, (dir.save key payload files).2) := rfl

/-- What was saved in a store can be loaded. -/
theorem load_of_save (h : (save key payload).run (store, files) = (.ok (), after, files')) :
    after.load key files' = .ok (some payload) := by
  cases store with
  | memory claims =>
    rw [run_save_memory] at h
    split at h
    · obtain ⟨-, rfl, rfl⟩ := h
      simp [load, Memory.load, Table.get?_put]
    · exact absurd (Prod.mk.inj h).1 (by simp)
  | directory dir =>
    have hsaves := dir.save_saves key payload files
    rw [run_save_directory, Prod.mk.injEq, Prod.mk.injEq] at h
    obtain ⟨hok, rfl, rfl⟩ := h
    rw [hok] at hsaves
    exact hsaves.load
  | outOfOrder reason => exact absurd (Prod.mk.inj h).1 (by simp)

/-- What is loaded under a key is not touched by saves under other keys. -/
theorem load_of_other {result : Except Error Unit} {other : String} (hother : other ≠ key)
    (h : (save other payload).run (store, files) = (result, after, files')) :
    after.load key files' = store.load key files := by
  cases store with
  | memory claims =>
    rw [run_save_memory] at h
    split at h
    · obtain ⟨-, rfl, rfl⟩ := h
      simp only [load, Memory.load, Table.get?_put, if_neg hother]
    · obtain ⟨-, rfl, rfl⟩ := h
      rfl
  | directory dir =>
    obtain ⟨-, rfl, rfl⟩ := h
    exact (dir.save_saves other payload files).load_of_other hother
  | outOfOrder reason =>
    obtain ⟨-, rfl, rfl⟩ := h
    rfl

/-- A save that is refused changes neither the store nor the files. -/
theorem unchanged_of_save (h : (save key payload).run (store, files) = (.error e, after, files')) :
    after = store ∧ files' = files := by
  cases store with
  | memory claims =>
    rw [run_save_memory] at h
    split at h
    · exact absurd (Prod.mk.inj h).1 (by simp)
    · obtain ⟨-, rfl, rfl⟩ := h
      exact ⟨rfl, rfl⟩
  | directory dir =>
    have hsaves := dir.save_saves key payload files
    rw [run_save_directory, Prod.mk.injEq, Prod.mk.injEq] at h
    obtain ⟨herror, rfl, rfl⟩ := h
    rw [herror] at hsaves
    exact ⟨rfl, hsaves.unchanged⟩
  | outOfOrder reason =>
    obtain ⟨-, rfl, rfl⟩ := h
    exact ⟨rfl, rfl⟩

end ClaimRelay.Store
