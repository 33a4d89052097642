import ClaimRelay.Proofs.Store.Save

/-! Saves in one directory that go on at the same time, step by step and in any order, with loads between
their steps.  `Sound` says what the directory holds at every moment: the temporary files of the saves in
progress, each with a part of its claim, and apart from them only what was there at first and what was saved
last.  A key's file is therefore never seen in part. -/

namespace ClaimRelay.Store.Directory

/-- A save in progress, with the claim that it saves. -/
structure Writer where
  claim : List UInt8
  saving : Saving

/-- The files, and the saves in progress.  Saves are numbered as they begin. -/
structure Sharing where
  files : FileSystem
  writers : Table Nat Writer := []
  begun : Nat := 0

/-- What a save or a load does at a time. -/
inductive Action where
  /-- A save makes its temporary file. -/
  | start (writer : Nat) (key : String) (claim : List UInt8)
  /-- It writes a part of its claim. -/
  | write (writer count : Nat)
  | sync (writer : Nat)
  /-- It puts the temporary file in the place of the key's file, and succeeds. -/
  | commit (writer : Nat) (key : String) (claim : List UInt8)
  /-- It fails and removes the temporary file. -/
  | abandon (writer : Nat)
  /-- A save fails before it has a temporary file. -/
  | refuse
  | load (key : String) (result : Except Error (Option (List UInt8)))

/-- The save that takes a step. -/
def Action.writer? : Action → Option Nat
  | .start w _ _ | .write w _ | .sync w | .commit w _ _ | .abandon w => some w
  | .refuse | .load _ _ => none

/-- What may happen.  The name of a temporary file begins with a period and is not in use. -/
inductive Step (dir : Directory) (s : Sharing) : Action → Sharing → Prop
  | start {key name : String} {claim : List UInt8} (hwritable : dir.readOnly = false)
      (hkey : isKey key = true) (hname : name.toList.head? = some '.')
      (hfresh : s.files.node? (dir.root ++ [name]) = none) :
      Step dir s (.start (s.begun + 1) key claim)
        { files := s.files.put (dir.root ++ [name]) (.file [])
          writers := s.writers.put (s.begun + 1) ⟨claim, key, dir.root ++ [name], claim, false⟩
          begun := s.begun + 1 }
  | write {w : Nat} {writer : Writer} (hw : s.writers.get? w = some writer) (count : Nat) :
      Step dir s (.write w count)
        { s with
          files := (writer.saving.write count s.files).2
          writers := s.writers.put w { writer with saving := (writer.saving.write count s.files).1 } }
  | sync {w : Nat} {writer : Writer} (hw : s.writers.get? w = some writer) :
      Step dir s (.sync w)
        { s with writers := s.writers.put w { writer with saving := writer.saving.sync } }
  | commit {w : Nat} {writer : Writer} {files : FileSystem} (hw : s.writers.get? w = some writer)
      (hsynced : writer.saving.synced = true) (hcommit : writer.saving.commit dir s.files = .ok files) :
      Step dir s (.commit w writer.saving.key writer.claim)
        { s with files, writers := s.writers.erase w }
  | abandon {w : Nat} {writer : Writer} (hw : s.writers.get? w = some writer) :
      Step dir s (.abandon w)
        { s with files := writer.saving.abandon s.files, writers := s.writers.erase w }
  | refuse : Step dir s .refuse s
  | load (key : String) : Step dir s (.load key (dir.load key s.files)) s

/-- A turn of a run. -/
structure Turn where
  before : Sharing
  action : Action
  after : Sharing

/-- A run that begins with the files `first` and no saves, with its turns, the latest first. -/
inductive Run (dir : Directory) (first : FileSystem) : List Turn → Sharing → Prop
  | start : Run dir first [] { files := first }
  | turn {log : List Turn} {t : Turn} (run : Run dir first log t.before)
      (valid : Step dir t.before t.action t.after) : Run dir first (t :: log) t.after

variable {dir : Directory} {first files files' : FileSystem} {s s' : Sharing} {t : Turn}
  {log later earlier : List Turn} {action : Action} {key name : String} {claim : List UInt8}
  {path : FileSystem.Path} {w : Nat} {writer : Writer}

theorem Run.step (run : Run dir first log s) (h : Step dir s action s') :
    Run dir first (⟨s, action, s'⟩ :: log) s' :=
  run.turn (t := ⟨s, action, s'⟩) h

/-- A run may be cut before any of its turns. -/
theorem Run.cut (run : Run dir first (later ++ t :: earlier) s) :
    Run dir first earlier t.before ∧ Step dir t.before t.action t.after := by
  induction later generalizing s with
  | nil =>
    cases run with
    | turn run valid => exact ⟨run, valid⟩
  | cons last later ih =>
    cases run with
    | turn run valid => exact ih run

/-! ### A save on its own -/

theorem head?_temporaryName (number : Nat) :
    (Saving.temporaryName number).toList.head? = some '.' := by
  rw [Saving.temporaryName, String.toList_append]
  rfl

/-- A single save in progress. -/
def Sharing.alone (files : FileSystem) (writer : Writer) : Sharing := ⟨files, [(1, writer)], 1⟩

/-- A save that nothing comes between is a run, in which it is committed if it succeeds and only then. -/
theorem save_runs (dir : Directory) (key : String) (claim : List UInt8) (files : FileSystem) :
    ∃ log s, Run dir files log s ∧ s.files = (dir.save key claim files).2 ∧ s.writers = [] ∧
      ((dir.save key claim files).1 = .ok () ↔ ∃ t ∈ log, ∃ w, t.action = .commit w key claim) := by
  unfold save
  cases hstart : Saving.start dir key claim files with
  | error e => exact ⟨_, _, Run.start.step .refuse, rfl, rfl, by simp⟩
  | ok begun =>
    obtain ⟨saving, started⟩ := begun
    obtain ⟨hwritable, hkey, number, hfresh, rfl, rfl⟩ := Saving.start_ok hstart
    have hstarts : Step dir { files } (.start 1 key claim)
        (.alone (files.put (dir.root ++ [Saving.temporaryName number]) (.file []))
          ⟨claim, key, dir.root ++ [Saving.temporaryName number], claim, false⟩) :=
      .start hwritable hkey (head?_temporaryName number) hfresh
    dsimp only
    generalize htemporary : dir.root ++ [Saving.temporaryName number] = temporary at hstarts ⊢
    have hpath : temporary ≠ [] := by simp [← htemporary]
    have hwrite := Saving.write_all hpath key claim files
    have hwrites : Step dir (.alone (files.put temporary (.file [])) ⟨claim, key, temporary, claim, false⟩)
        (.write 1 claim.length)
        (.alone (files.put temporary (.file claim)) ⟨claim, key, temporary, [], false⟩) := by
      have h : Step dir (.alone (files.put temporary (.file [])) ⟨claim, key, temporary, claim, false⟩)
        (.write 1 claim.length) _ := .write rfl claim.length
      dsimp only [Sharing.alone] at h
      rw [hwrite] at h
      exact h
    have hsyncs : Step dir (.alone (files.put temporary (.file claim)) ⟨claim, key, temporary, [], false⟩)
        (.sync 1) (.alone (files.put temporary (.file claim)) ⟨claim, key, temporary, [], true⟩) := by
      have h : Step dir (.alone (files.put temporary (.file claim)) ⟨claim, key, temporary, [], false⟩)
        (.sync 1) _ := .sync rfl
      exact h
    have run := ((Run.start.step hstarts).step hwrites).step hsyncs
    have hwriter : (Sharing.alone (files.put temporary (.file claim))
        ⟨claim, key, temporary, [], true⟩).writers.get? 1 = some ⟨claim, key, temporary, [], true⟩ := rfl
    rw [hwrite]
    dsimp only [Saving.sync, List.isEmpty_nil]
    cases hcommit : Saving.commit dir ⟨key, temporary, [], true⟩ (files.put temporary (.file claim)) with
    | ok after =>
      have hend := Step.commit hwriter rfl hcommit
      exact ⟨_, ⟨after, [], 1⟩, run.step hend, rfl, rfl, iff_of_true rfl ⟨_, .head _, 1, rfl⟩⟩
    | error e =>
      have hend : Step dir _ _ _ := .abandon hwriter
      exact ⟨_, ⟨_, [], 1⟩, run.step hend, rfl, rfl, by simp⟩

/-! ### The names of files -/

/-- The file of a key is no temporary file. -/
theorem path_ne_of_dotted (hkey : isKey key = true) (hname : name.toList.head? = some '.') :
    dir.path key ≠ dir.root ++ [name] := by
  intro h
  have hfile : fileName key = name := by simpa [Directory.path] using h
  unfold isKey at hkey
  rw [← hfile, fileName, String.toList_append] at hname
  cases hcs : key.toList with
  | nil => simp [hcs] at hkey
  | cons c cs => simp_all

/-! ### What was saved -/

/-- What an action puts at a path. -/
def Action.saved? (dir : Directory) (path : FileSystem.Path) : Action → Option (List UInt8)
  | .commit _ key claim => if dir.path key = path then some claim else none
  | _ => none

/-- The claim that was put at a path last. -/
def lastSaved (dir : Directory) (path : FileSystem.Path) (log : List Turn) : Option (List UInt8) :=
  log.findSome? (·.action.saved? dir path)

theorem Action.saved?_path {action : Action} :
    action.saved? dir (dir.path key) = some claim ↔ ∃ w, action = .commit w key claim := by
  constructor
  · intro h
    unfold saved? at h
    split at h
    · rename_i w other found
      split at h
      · rename_i hpath
        obtain rfl := Option.some.inj h
        exact ⟨w, by rw [path_injective hpath]⟩
      · simp at h
    · simp at h
  · rintro ⟨w, rfl⟩
    rw [saved?, if_pos rfl]

/-- A claim was saved last under a key if it was committed, and no other was committed after it. -/
theorem lastSaved_path :
    lastSaved dir (dir.path key) log = some claim ↔
      ∃ later t earlier, log = later ++ t :: earlier ∧ (∃ w, t.action = .commit w key claim) ∧
        ∀ u ∈ later, ∀ w other, u.action ≠ .commit w key other := by
  rw [lastSaved, List.findSome?_eq_some_iff]
  refine exists_congr fun later => exists_congr fun t => exists_congr fun earlier =>
    and_congr_right fun _ => ?_
  rw [Action.saved?_path]
  refine and_congr_right fun _ => forall_congr' fun u => forall_congr' fun _ => ?_
  constructor
  · intro hnone w other haction
    have hsaved : u.action.saved? dir (dir.path key) = some other := Action.saved?_path.mpr ⟨w, haction⟩
    simp [hnone] at hsaved
  · intro hnot
    cases hsaved : u.action.saved? dir (dir.path key) with
    | none => rfl
    | some other =>
      obtain ⟨w, haction⟩ := Action.saved?_path.mp hsaved
      exact absurd haction (hnot w other)

/-- What is at a path, temporary files apart: the claim that was put there last, or what was at first. -/
def outcome (dir : Directory) (first : FileSystem) (log : List Turn) (path : FileSystem.Path) :
    Option FileSystem.Node :=
  ((lastSaved dir path log).map .file).or (first.node? path)

theorem outcome_cons (t : Turn) (log : List Turn) (path : FileSystem.Path) :
    outcome dir first (t :: log) path =
      ((t.action.saved? dir path).map .file).or (outcome dir first log path) := by
  unfold outcome lastSaved
  rw [List.findSome?_cons]
  cases t.action.saved? dir path <;> rfl

/-! ### At every moment -/

/-- A save in progress has its temporary file, which was not there at first.  What it has not written yet is
missing from it. -/
structure Writer.Sound (dir : Directory) (first files : FileSystem) (writer : Writer) : Prop where
  isKey : isKey writer.saving.key = true
  dotted : ∃ name, writer.saving.temporary = dir.root ++ [name] ∧ name.toList.head? = some '.'
  fresh : first.node? writer.saving.temporary = none
  content : ∃ content, files.node? writer.saving.temporary = some (.file content) ∧
    content ++ writer.saving.unwritten = writer.claim
  synced : writer.saving.synced = true → writer.saving.unwritten = []

/-- What holds after any turns. -/
structure Sharing.Sound (dir : Directory) (first : FileSystem) (log : List Turn) (s : Sharing) : Prop where
  counted : ∀ {w writer}, s.writers.get? w = some writer → w ≤ s.begun
  writers : ∀ {w writer}, s.writers.get? w = some writer → writer.Sound dir first s.files
  apart : ∀ {v w x y}, s.writers.get? v = some x → s.writers.get? w = some y →
    x.saving.temporary = y.saving.temporary → v = w
  elsewhere : ∀ {path}, (∀ w writer, s.writers.get? w = some writer → writer.saving.temporary ≠ path) →
    s.files.node? path = outcome dir first log path
  /-- Nothing is put in the place of a temporary file. -/
  keys : ∀ {name}, name.toList.head? = some '.' → lastSaved dir (dir.root ++ [name]) log = none

theorem Writer.Sound.of_node? (h : writer.Sound dir first files)
    (hsame : files'.node? writer.saving.temporary = files.node? writer.saving.temporary) :
    writer.Sound dir first files' :=
  { h with content := hsame ▸ h.content }

theorem Writer.Sound.temporary_ne_nil (h : writer.Sound dir first files) :
    writer.saving.temporary ≠ [] := by
  obtain ⟨name, hname, -⟩ := h.dotted
  simp [hname]

namespace Sharing.Sound

theorem outcome_dotted (h : s.Sound dir first log) (hname : name.toList.head? = some '.') :
    outcome dir first log (dir.root ++ [name]) = first.node? (dir.root ++ [name]) := by
  rw [outcome, h.keys hname]
  rfl

/-- No save has its temporary file where there is nothing. -/
theorem temporary_ne (h : s.Sound dir first log) (hnone : s.files.node? path = none)
    (hw : s.writers.get? w = some writer) : writer.saving.temporary ≠ path := by
  rintro rfl
  obtain ⟨content, hcontent, -⟩ := (h.writers hw).content
  simp [hnone] at hcontent

/-- A turn in which nothing is put anywhere and nothing changes. -/
theorem silent (h : s.Sound dir first log) (hsilent : ∀ path, t.action.saved? dir path = none) :
    s.Sound dir first (t :: log) :=
  { h with
    elsewhere := fun {path} hpath => by
      rw [outcome_cons, hsilent]
      exact h.elsewhere hpath
    keys := fun hname => by
      rw [lastSaved, List.findSome?_cons, hsilent]
      exact h.keys hname }

theorem start (h : s.Sound dir first log) (hkey : Store.isKey key = true)
    (hname : name.toList.head? = some '.') (hfresh : s.files.node? (dir.root ++ [name]) = none) :
    Sharing.Sound dir first log
      { files := s.files.put (dir.root ++ [name]) (.file [])
        writers := s.writers.put (s.begun + 1) ⟨claim, key, dir.root ++ [name], claim, false⟩
        begun := s.begun + 1 } := by
  have hpath : dir.root ++ [name] ≠ [] := by simp
  have hfirst : first.node? (dir.root ++ [name]) = none := by
    rw [← h.outcome_dotted hname, ← h.elsewhere fun w writer hw => h.temporary_ne hfresh hw, hfresh]
  have hothers {w : Nat} {writer : Writer} (hw : s.writers.get? w = some writer) :
      (s.files.put (dir.root ++ [name]) (.file [])).node? writer.saving.temporary =
        s.files.node? writer.saving.temporary := by
    rw [FileSystem.node?_put hpath, if_neg (h.temporary_ne hfresh hw).symm]
  refine ⟨fun {w writer} hw => ?_, fun {w writer} hw => ?_, fun {v w x y} hv hw htemporary => ?_,
    fun {path} helsewhere => ?_, h.keys⟩
  · rw [Table.get?_put] at hw
    split at hw
    · rename_i hnew
      exact Nat.le_of_eq hnew.symm
    · exact Nat.le_succ_of_le (h.counted hw)
  · rw [Table.get?_put] at hw
    split at hw
    · obtain rfl := Option.some.inj hw
      refine ⟨hkey, ⟨name, rfl, hname⟩, hfirst, ⟨[], ?_, rfl⟩, by simp⟩
      rw [FileSystem.node?_put hpath, if_pos rfl]
    · exact (h.writers hw).of_node? (hothers hw)
  · rw [Table.get?_put] at hv hw
    split at hv <;> split at hw
    · rename_i hv' hw'
      exact hv'.symm.trans hw'
    · obtain rfl := Option.some.inj hv
      exact absurd htemporary.symm (h.temporary_ne hfresh hw)
    · obtain rfl := Option.some.inj hw
      exact absurd htemporary (h.temporary_ne hfresh hv)
    · exact h.apart hv hw htemporary
  · have hnew : dir.root ++ [name] ≠ path :=
      helsewhere (s.begun + 1) _ (by rw [Table.get?_put, if_pos rfl])
    rw [FileSystem.node?_put hpath, if_neg hnew]
    refine h.elsewhere fun w writer hw => helsewhere w writer ?_
    have hcounted := h.counted hw
    rw [Table.get?_put, if_neg (by omega), hw]

/-- A save goes on, in its own temporary file. -/
theorem update {next : Writer} (h : s.Sound dir first log) (hw : s.writers.get? w = some writer)
    (htemporary : next.saving.temporary = writer.saving.temporary) (hnext : next.Sound dir first files)
    (hsame : ∀ path, writer.saving.temporary ≠ path → files.node? path = s.files.node? path) :
    Sharing.Sound dir first log { s with files, writers := s.writers.put w next } := by
  -- Every save has the temporary file that it had before.
  have hbefore {v : Nat} {x : Writer} (hv : (s.writers.put w next).get? v = some x) :
      ∃ x', s.writers.get? v = some x' ∧ x'.saving.temporary = x.saving.temporary := by
    rw [Table.get?_put] at hv
    split at hv
    · rename_i hvw
      obtain rfl := Option.some.inj hv
      exact ⟨writer, hvw ▸ hw, htemporary.symm⟩
    · exact ⟨x, hv, rfl⟩
  refine ⟨fun hv => ?_, fun {v x} hv => ?_, fun {v v' x y} hv hv' hsaving => ?_, fun {path} helsewhere => ?_,
    h.keys⟩
  · obtain ⟨x', hv', -⟩ := hbefore hv
    exact h.counted hv'
  · rw [Table.get?_put] at hv
    split at hv
    · obtain rfl := Option.some.inj hv
      exact hnext
    · rename_i hvw
      exact (h.writers hv).of_node? (hsame _ fun heq => hvw (h.apart hw hv heq))
  · obtain ⟨x', hx, hxsaving⟩ := hbefore hv
    obtain ⟨y', hy, hysaving⟩ := hbefore hv'
    exact h.apart hx hy (hxsaving.trans (hsaving.trans hysaving.symm))
  · have hown : writer.saving.temporary ≠ path :=
      htemporary ▸ helsewhere w next (by rw [Table.get?_put, if_pos rfl])
    rw [hsame path hown]
    refine h.elsewhere fun v x hv => ?_
    by_cases hvw : w = v
    · subst hvw
      exact Option.some.inj (hw.symm.trans hv) ▸ hown
    · exact helsewhere v x (by rw [Table.get?_put, if_neg hvw, hv])

/-- A save ends, and its temporary file is gone. -/
theorem finish (h : s.Sound dir first log) (hw : s.writers.get? w = some writer)
    (hgone : files.node? writer.saving.temporary = none)
    (hothers : ∀ path, writer.saving.temporary ≠ path →
      files.node? path = ((t.action.saved? dir path).map .file).or (s.files.node? path))
    (hkeys : ∀ {name}, name.toList.head? = some '.' → t.action.saved? dir (dir.root ++ [name]) = none) :
    Sharing.Sound dir first (t :: log) { s with files, writers := s.writers.erase w } := by
  have hbefore {v : Nat} {x : Writer} (hv : (s.writers.erase w).get? v = some x) :
      w ≠ v ∧ s.writers.get? v = some x := by
    rw [Table.get?_erase] at hv
    split at hv
    · simp at hv
    · rename_i hvw
      exact ⟨hvw, hv⟩
  refine ⟨fun hv => h.counted (hbefore hv).2, fun {v x} hv => ?_,
    fun hv hv' => h.apart (hbefore hv).2 (hbefore hv').2, fun {path} helsewhere => ?_, fun hname => ?_⟩
  · obtain ⟨hvw, hv⟩ := hbefore hv
    obtain ⟨name, htemporary, hname⟩ := (h.writers hv).dotted
    refine (h.writers hv).of_node? ?_
    rw [hothers _ fun heq => hvw (h.apart hw hv heq), htemporary, hkeys hname]
    rfl
  · show files.node? path = _
    rw [outcome_cons]
    by_cases hown : writer.saving.temporary = path
    · subst hown
      obtain ⟨name, htemporary, hname⟩ := (h.writers hw).dotted
      have hfresh := (h.writers hw).fresh
      rw [hgone]
      rw [htemporary] at hfresh ⊢
      rw [hkeys hname, h.outcome_dotted hname, hfresh]
      rfl
    · rw [hothers path hown, h.elsewhere fun v x hv => ?_]
      by_cases hvw : w = v
      · subst hvw
        exact Option.some.inj (hw.symm.trans hv) ▸ hown
      · exact helsewhere v x (by rw [Table.get?_erase, if_neg hvw, hv])
  · rw [lastSaved, List.findSome?_cons, hkeys hname]
    exact h.keys hname

end Sharing.Sound

/-- What a commit does: the whole claim is at the path of its key. -/
theorem Writer.Sound.commit (h : writer.Sound dir first files) (hsynced : writer.saving.synced = true)
    (hcommit : writer.saving.commit dir files = .ok files') :
    files' = (files.remove writer.saving.temporary).put (dir.path writer.saving.key)
      (.file writer.claim) := by
  obtain ⟨node, hnode, -, -, rfl⟩ := FileSystem.rename_ok hcommit
  obtain ⟨content, hcontent, hclaim⟩ := h.content
  rw [h.synced hsynced, List.append_nil] at hclaim
  rw [Option.some.inj (hnode.symm.trans hcontent), hclaim]

theorem Step.sound (valid : Step dir t.before t.action t.after) (h : t.before.Sound dir first log) :
    t.after.Sound dir first (t :: log) := by
  obtain ⟨s, action, s'⟩ := t
  dsimp only at valid h ⊢
  cases valid with
  | start _ hkey hname hfresh => exact (h.start hkey hname hfresh).silent fun _ => rfl
  | @write w writer hw count =>
    obtain ⟨content, hcontent, hclaim⟩ := (h.writers hw).content
    rw [Saving.write_eq hcontent]
    have hpath := (h.writers hw).temporary_ne_nil
    have hnext : Writer.Sound dir first
        (s.files.put writer.saving.temporary (.file (content ++ writer.saving.unwritten.take count)))
        { writer with saving.unwritten := writer.saving.unwritten.drop count } :=
      { h.writers hw with
        content := ⟨_, by rw [FileSystem.node?_put hpath, if_pos rfl], by simpa using hclaim⟩
        synced := fun hsynced => by simp [(h.writers hw).synced hsynced] }
    refine Sharing.Sound.silent (h.update hw rfl hnext fun path hother => ?_) fun _ => rfl
    rw [FileSystem.node?_put hpath, if_neg hother]
  | @sync w writer hw =>
    have hnext : Writer.Sound dir first s.files { writer with saving := writer.saving.sync } :=
      { h.writers hw with synced := fun hsynced => List.isEmpty_iff.mp hsynced }
    exact Sharing.Sound.silent (h.update hw rfl hnext fun _ _ => rfl) fun _ => rfl
  | @commit w writer files hw hsynced hcommit =>
    have hwriter := h.writers hw
    obtain ⟨name, htemporary, hname⟩ := hwriter.dotted
    have hne : dir.path writer.saving.key ≠ writer.saving.temporary :=
      htemporary ▸ path_ne_of_dotted hwriter.isKey hname
    obtain rfl := hwriter.commit hsynced hcommit
    refine h.finish hw ?_ (fun path hother => ?_) fun hname => ?_
    · rw [FileSystem.node?_put (dir.path_ne_nil _), if_neg hne,
        FileSystem.node?_remove hwriter.temporary_ne_nil, if_pos rfl]
    · rw [FileSystem.node?_put (dir.path_ne_nil _), FileSystem.node?_remove hwriter.temporary_ne_nil,
        if_neg hother, Action.saved?]
      split <;> rfl
    · rw [Action.saved?, if_neg (path_ne_of_dotted hwriter.isKey hname)]
  | @abandon w writer hw =>
    have hpath := (h.writers hw).temporary_ne_nil
    refine h.finish hw ?_ (fun path hother => ?_) fun _ => rfl
    · rw [Saving.abandon, FileSystem.node?_remove hpath, if_pos rfl]
    · rw [Saving.abandon, FileSystem.node?_remove hpath, if_neg hother]
      rfl
  | refuse => exact h.silent fun _ => rfl
  | load => exact h.silent fun _ => rfl

theorem Run.sound (run : Run dir first log s) : s.Sound dir first log := by
  induction run with
  | start => exact ⟨by simp, by simp, by simp, fun _ => rfl, fun _ => rfl⟩
  | turn _ valid ih => exact valid.sound ih

/-! ### Saves from their beginning to their end -/

/-- What a save in progress saves is what it began with. -/
theorem Run.started (run : Run dir first log s) (hw : s.writers.get? w = some writer) :
    ∃ t ∈ log, t.action = .start w writer.saving.key writer.claim := by
  induction run generalizing w writer with
  | start => simp at hw
  | @turn log t run valid ih =>
    obtain ⟨s, action, s'⟩ := t
    dsimp only at valid hw ih
    have hearlier {v : Nat} {x : Writer} (hv : s.writers.get? v = some x) :
        ∃ u ∈ (⟨s, action, s'⟩ : Turn) :: log, u.action = .start v x.saving.key x.claim := by
      obtain ⟨u, hu, hstart⟩ := ih hv
      exact ⟨u, .tail _ hu, hstart⟩
    cases valid with
    | start =>
      rw [Table.get?_put] at hw
      split at hw
      · rename_i hnew
        obtain rfl := Option.some.inj hw
        exact ⟨_, .head _, hnew ▸ rfl⟩
      · exact hearlier hw
    | @write v x hv count =>
      have hkey : (x.saving.write count s.files).1.key = x.saving.key := by
        unfold Saving.write
        split <;> rfl
      rw [Table.get?_put] at hw
      split at hw
      · rename_i hsame
        obtain rfl := Option.some.inj hw
        simpa [hkey, hsame] using hearlier hv
      · exact hearlier hw
    | @sync v x hv =>
      rw [Table.get?_put] at hw
      split at hw
      · rename_i hsame
        obtain rfl := Option.some.inj hw
        exact hsame ▸ hearlier (x := x) hv
      · exact hearlier hw
    | commit | abandon =>
      rw [Table.get?_erase] at hw
      split at hw
      · simp at hw
      · exact hearlier hw
    | refuse | load => exact hearlier hw

/-- The save that an action ends. -/
def Action.ended? : Action → Option Nat
  | .commit w _ _ | .abandon w => some w
  | _ => none

theorem Step.ends (valid : Step dir s action s') (h : action.ended? = some w) :
    (∃ writer, s.writers.get? w = some writer) ∧ s'.begun = s.begun ∧
      s'.writers = s.writers.erase w := by
  cases valid with
  | commit hw | abandon hw =>
    obtain rfl := Option.some.inj h
    exact ⟨⟨_, hw⟩, rfl, rfl⟩
  | _ => simp [Action.ended?] at h

/-- A save that has ended takes no more steps. -/
theorem Run.ended (run : Run dir first log s) (ht : t ∈ log) (hended : t.action.ended? = some w) :
    w ≤ s.begun ∧ s.writers.get? w = none := by
  induction run with
  | start => simp at ht
  | @turn log u run valid ih =>
    rcases List.mem_cons.mp ht with rfl | ht
    · obtain ⟨⟨writer, hw⟩, hbegun, hwriters⟩ := valid.ends hended
      rw [hbegun, hwriters, Table.get?_erase, if_pos rfl]
      exact ⟨run.sound.counted hw, rfl⟩
    · obtain ⟨hle, hnone⟩ := ih ht
      obtain ⟨s, action, s'⟩ := u
      dsimp only at valid hle hnone ⊢
      cases valid with
      | start =>
        refine ⟨Nat.le_succ_of_le hle, ?_⟩
        rw [Table.get?_put, if_neg (by omega), hnone]
      | write hv | sync hv =>
        refine ⟨hle, ?_⟩
        rw [Table.get?_put, if_neg, hnone]
        rintro rfl
        simp [hnone] at hv
      | commit | abandon =>
        refine ⟨hle, ?_⟩
        rw [Table.get?_erase, hnone, ite_self]
      | refuse | load => exact ⟨hle, hnone⟩

/-- A save ends once. -/
theorem Run.ends_once {u : Turn} (run : Run dir first log s) (ht : t ∈ log) (hu : u ∈ log)
    (htended : t.action.ended? = some w) (huended : u.action.ended? = some w) : t = u := by
  induction run with
  | start => simp at ht
  | @turn log last run valid ih =>
    have honce {v : Turn} (hv : v ∈ log) (hvended : v.action.ended? = some w) :
        last.action.ended? ≠ some w := by
      intro hended
      obtain ⟨⟨writer, hw⟩, -⟩ := valid.ends hended
      simp [(run.ended hv hvended).2] at hw
    rcases List.mem_cons.mp ht with hlast | htlog
    · rcases List.mem_cons.mp hu with hlast' | hulog
      · exact hlast.trans hlast'.symm
      · exact absurd (hlast ▸ htended) (honce hulog huended)
    · rcases List.mem_cons.mp hu with hlast | hulog
      · exact absurd (hlast ▸ huended) (honce htlog htended)
      · exact ih htlog hulog

/-! ### What is loaded -/

/-- At every moment a key's file holds what was saved last, or what it held at first. -/
theorem Sharing.Sound.node?_path (h : s.Sound dir first log) (hkey : isKey key = true) :
    s.files.node? (dir.path key) = outcome dir first log (dir.path key) := by
  refine h.elsewhere fun w writer hw => ?_
  obtain ⟨name, htemporary, hname⟩ := (h.writers hw).dotted
  exact htemporary ▸ (path_ne_of_dotted hkey hname).symm

/-- A load of a key whose name is not too long finds what is in its file. -/
theorem load_of_node? {content : Option (List UInt8)} (hkey : isKey key = true)
    (hshort : key.utf8ByteSize ≤ 251) (h : files.node? (dir.path key) = content.map .file) :
    dir.load key files = .ok content := by
  have hname : (fileName key).utf8ByteSize ≤ FileSystem.longestName := by
    rw [fileName, String.utf8ByteSize_append]
    exact Nat.add_le_add_right hshort 4
  unfold load checkKey
  rw [h, if_pos hkey]
  cases content <;> simp [Nat.not_lt.mpr hname, bind, Except.bind, pure, Except.pure]

/-- A step that puts nothing at the path of a key leaves its file alone. -/
theorem Run.node?_path_eq (run : Run dir first (later ++ t :: earlier) s) (hkey : isKey key = true)
    (hnone : t.action.saved? dir (dir.path key) = none) :
    t.after.files.node? (dir.path key) = t.before.files.node? (dir.path key) := by
  obtain ⟨hbefore, valid⟩ := run.cut
  rw [(valid.sound hbefore.sound).node?_path hkey, hbefore.sound.node?_path hkey, outcome_cons, hnone]
  rfl

theorem lastSaved_isSome :
    (lastSaved dir path log).isSome ↔
      ∃ t ∈ log, ∃ w key claim, t.action = .commit w key claim ∧ dir.path key = path := by
  rw [lastSaved, List.findSome?_isSome_iff]
  refine exists_congr fun t => and_congr_right fun _ => ?_
  constructor
  · intro h
    unfold Action.saved? at h
    split at h
    · rename_i w key claim haction
      exact ⟨w, key, claim, haction, by simpa using h⟩
    · simp at h
  · rintro ⟨w, key, claim, haction, rfl⟩
    simp [haction, Action.saved?]

/-! ### Atomicity -/

/-- A load finds what was saved last before it, or what was there at first. -/
theorem Run.loaded {result : Except Error (Option (List UInt8))}
    (run : Run dir first (later ++ t :: earlier) s) (haction : t.action = .load key result)
    (hflat : first.node? (dir.path key) ≠ some .directory) (hkey : isKey key = true)
    (hshort : key.utf8ByteSize ≤ 251) :
    ∃ initial, dir.load key first = .ok initial ∧
      result = .ok ((lastSaved dir (dir.path key) earlier).or initial) := by
  obtain ⟨hbefore, valid⟩ := run.cut
  obtain ⟨initial, hinitial⟩ : ∃ initial : Option (List UInt8),
      first.node? (dir.path key) = initial.map .file := by
    cases hnode : first.node? (dir.path key) with
    | none => exact ⟨none, rfl⟩
    | some node =>
      cases node with
      | file content => exact ⟨some content, rfl⟩
      | directory => exact absurd hnode hflat
  refine ⟨initial, load_of_node? hkey hshort hinitial, ?_⟩
  rw [haction] at valid
  generalize t.after = after at valid
  cases valid with
  | load =>
    refine load_of_node? hkey hshort ?_
    rw [hbefore.sound.node?_path hkey, outcome, hinitial]
    cases lastSaved dir (dir.path key) earlier <;> rfl

theorem Run.commits_started (run : Run dir first (later ++ t :: earlier) s)
    (haction : t.action = .commit w key claim) : ∃ u ∈ earlier, u.action = .start w key claim := by
  obtain ⟨hbefore, valid⟩ := run.cut
  generalize t.action = action at haction valid
  generalize t.after = after at valid
  cases valid with
  | commit hw =>
    obtain ⟨rfl, rfl, rfl⟩ := Action.commit.inj haction
    exact hbefore.started hw
  | _ => simp at haction

/-- A save that fails leaves the files of all keys alone. -/
theorem Run.failed_keeps (run : Run dir first log s) (ht : t ∈ log)
    (hfails : t.action = .refuse ∨ ∃ w, t.action.writer? = some w ∧ ∃ u ∈ log, u.action = .abandon w)
    (hkey : isKey key = true) :
    t.after.files.node? (dir.path key) = t.before.files.node? (dir.path key) := by
  have hnone : t.action.saved? dir (dir.path key) = none := by
    rcases hfails with hrefuse | ⟨w, hw, u, hu, habandon⟩
    · rw [hrefuse]
      rfl
    · cases haction : t.action with
      | commit v other claim =>
        obtain rfl : v = w := by simpa [haction, Action.writer?] using hw
        obtain rfl := run.ends_once ht hu (by rw [haction]; rfl) (by rw [habandon]; rfl)
        simp [haction] at habandon
      | _ => rfl
  obtain ⟨later, earlier, rfl⟩ := List.append_of_mem ht
  exact run.node?_path_eq hkey hnone

/-- Saves in a directory are atomic, however their steps and those of loads come one after another.  A load
finds the whole claim of the save that was committed last before, which is the claim that this save began
with, or what was there at first.  A save that fails changes the file of no key at any moment.  When no save
is in progress, the directory has the names that it had at first and those of the keys that were saved, and
nothing else has changed. -/
theorem Run.saves_atomic (run : Run dir first log s)
    (hflat : ∀ name, first.node? (dir.root ++ [name]) ≠ some .directory) :
    (∀ {later t earlier key result}, log = later ++ t :: earlier → t.action = .load key result →
      isKey key = true → key.utf8ByteSize ≤ 251 → ∃ initial, dir.load key first = .ok initial ∧
        result = .ok ((lastSaved dir (dir.path key) earlier).or initial)) ∧
    (∀ {later t earlier w key claim}, log = later ++ t :: earlier → t.action = .commit w key claim →
      ∃ u ∈ earlier, u.action = .start w key claim) ∧
    (∀ t ∈ log, (t.action = .refuse ∨
        ∃ w, t.action.writer? = some w ∧ ∃ u ∈ log, u.action = .abandon w) →
      ∀ {key}, isKey key = true →
        t.after.files.node? (dir.path key) = t.before.files.node? (dir.path key)) ∧
    (s.writers = [] → (∀ path, s.files.node? path = outcome dir first log path) ∧
      ∀ name, name ∈ s.files.names dir.root ↔ name ∈ first.names dir.root ∨
        ∃ t ∈ log, ∃ w key claim, t.action = .commit w key claim ∧ name = fileName key) := by
  refine ⟨?_, ?_, fun t ht hfails key hkey => run.failed_keeps ht hfails hkey, fun hdone => ?_⟩
  · rintro later t earlier key result rfl haction hkey hshort
    exact run.loaded haction (hflat (fileName key)) hkey hshort
  · rintro later t earlier w key claim rfl haction
    exact run.commits_started haction
  · have hpaths (path : FileSystem.Path) : s.files.node? path = outcome dir first log path :=
      run.sound.elsewhere fun w writer hw => by simp [hdone] at hw
    refine ⟨hpaths, fun name => ?_⟩
    rw [FileSystem.mem_names, FileSystem.mem_names, hpaths, outcome, Option.isSome_or, Option.isSome_map,
      Bool.or_eq_true, lastSaved_isSome, or_comm]
    refine or_congr_right (exists_congr fun t => and_congr_right fun _ => ?_)
    simp [Directory.path, eq_comm]

/-- Two saves of one key at the same time.  One is committed and then loaded, and the other fails when it has
written a part of its claim, of which nothing is left. -/
theorem Run.two_saves : ∃ first later t earlier s,
    Run ⟨["claims"], false⟩ first (later ++ t :: earlier) s ∧ s.writers = [] ∧
      first.node? ["claims", "A.jwt"] = some (.file [1]) ∧ t.action = .load "A" (.ok (some [4])) ∧
      s.files.node? ["claims", "A.jwt"] = some (.file [4]) ∧
      s.files.node? ["claims", ".tmp0"] = none ∧ s.files.node? ["claims", ".tmp1"] = none := by
  let dir : Directory := ⟨["claims"], false⟩
  let first : FileSystem :=
    { nodes := [(["claims"], .directory), (["claims", "A.jwt"], .file [1])] }
  have hflat (name : String) : first.node? (dir.root ++ [name]) ≠ some .directory := by
    simp only [first, dir, FileSystem.node?, Table.get?, List.cons_append, List.nil_append]
    split <;> simp_all
  obtain ⟨result, later, t, earlier, s, run, haction, hsaved, hdone, houtcomes⟩ :
      ∃ result later t earlier s, Run dir first (later ++ t :: earlier) s ∧ t.action = .load "A" result ∧
        lastSaved dir (dir.path "A") earlier = some [4] ∧ s.writers = [] ∧
        outcome dir first (later ++ t :: earlier) ["claims", "A.jwt"] = some (.file [4]) ∧
        outcome dir first (later ++ t :: earlier) ["claims", ".tmp0"] = none ∧
        outcome dir first (later ++ t :: earlier) ["claims", ".tmp1"] = none := by
    have hkey : isKey "A" = true := rfl
    have hname : ".tmp0".toList.head? = some '.' := rfl
    have hname' : ".tmp1".toList.head? = some '.' := rfl
    have run : Run dir first _ _ := (((((((Run.start.step
      (.start rfl hkey hname rfl : Step dir _ (.start 1 "A" [2, 3]) _)).step
      (.start rfl hkey hname' rfl : Step dir _ (.start 2 "A" [4]) _)).step
      (.write (w := 1) rfl 1)).step (.write (w := 2) rfl 1)).step (.sync (w := 2) rfl)).step
      (.commit (w := 2) rfl rfl rfl)).step (.load "A")).step (.abandon (w := 1) rfl)
    exact ⟨_, [_], _, _, _, run, rfl, rfl, rfl, rfl, rfl, rfl⟩
  obtain ⟨hloads, -, -, hend⟩ := run.saves_atomic hflat
  obtain ⟨hpaths, -⟩ := hend hdone
  obtain ⟨initial, hinitial, hresult⟩ := hloads rfl haction rfl (by decide)
  rw [hsaved] at hresult
  exact ⟨first, later, t, earlier, s, run, hdone, rfl, hresult ▸ haction, (hpaths _).trans houtcomes.1,
    (hpaths _).trans houtcomes.2.1, (hpaths _).trans houtcomes.2.2⟩

end ClaimRelay.Store.Directory
