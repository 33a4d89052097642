import ClaimRelay.Table
import ClaimRelay.Text.Split

/-! A file system: a tree of directories that hold files.  Paths are resolved name by name from the
root or the working directory, with `.` for the directory itself and `..` for its parent. -/

namespace ClaimRelay

/-- Why an operation on files fails. -/
inductive FileSystem.Error where
  | notFound
  | alreadyExists
  | notDirectory
  | isDirectory
  | nameTooLong
  /-- A path with a NUL in it names nothing. -/
  | nulInPath
deriving DecidableEq, Repr

/-- The message for a failure. -/
def FileSystem.Error.message : FileSystem.Error → String
  | .notFound => "No such file or directory (os error 2)"
  | .alreadyExists => "File exists (os error 17)"
  | .notDirectory => "Not a directory (os error 20)"
  | .isDirectory => "Is a directory (os error 21)"
  | .nameTooLong => "File name too long (os error 36)"
  | .nulInPath => "file name contained an unexpected NUL byte"

/-- What a path leads to. -/
inductive FileSystem.Node where
  | file (content : List UInt8)
  | directory
deriving DecidableEq, Repr

/-- The names from the root to a file or a directory. -/
abbrev FileSystem.Path := List String

/-- A file system and the directory that relative paths start from. -/
structure FileSystem where
  nodes : Table FileSystem.Path FileSystem.Node := []
  working : FileSystem.Path := []

namespace FileSystem

/-- The greatest number of bytes in a name. -/
def longestName : Nat := 255

/-- The greatest number of bytes in a path. -/
def longestPath : Nat := 4095

/-- What is at a path.  The root is always a directory. -/
def node? (fs : FileSystem) : Path → Option Node
  | [] => some .directory
  | path => fs.nodes.get? path

/-- The file system in which `node` is at `path`. -/
def put (path : Path) (node : Node) (fs : FileSystem) : FileSystem :=
  { fs with nodes := fs.nodes.put path node }

/-- The file system with nothing at `path`. -/
def remove (path : Path) (fs : FileSystem) : FileSystem :=
  { fs with nodes := fs.nodes.erase path }

theorem node?_put {path : Path} (h : path ≠ []) (node : Node) (fs : FileSystem) (other : Path) :
    (fs.put path node).node? other = if path = other then some node else fs.node? other := by
  cases other with
  | nil => rw [if_neg h]; rfl
  | cons name rest => exact Table.get?_put ..

theorem node?_remove {path : Path} (h : path ≠ []) (fs : FileSystem) (other : Path) :
    (fs.remove path).node? other = if path = other then none else fs.node? other := by
  cases other with
  | nil => rw [if_neg h]; rfl
  | cons name rest => exact Table.get?_erase ..

theorem put_put (path : Path) (first second : Node) (fs : FileSystem) :
    (fs.put path first).put path second = fs.put path second := by
  simp only [put, Table.put_put]

theorem remove_put (path : Path) (node : Node) (fs : FileSystem) :
    (fs.put path node).remove path = fs.remove path := by
  simp only [remove, put, Table.erase_put]

theorem remove_of_node?_eq_none {path : Path} {fs : FileSystem} (h : fs.node? path = none) :
    fs.remove path = fs := by
  cases path with
  | nil => simp [node?] at h
  | cons name rest => simp only [remove, Table.erase_of_get?_eq_none (show fs.nodes.get? _ = none from h)]

/-- The names that a written path goes through; two neighbouring slashes enclose an empty one. -/
def parts (path : String) : List String := (Text.split '/' path.toList).map String.ofList

/-- The directory that a written path starts from. -/
def origin (fs : FileSystem) (path : String) : Path :=
  if path.toList.head? = some '/' then [] else fs.working

/-- Refuses texts that cannot be paths. -/
def checkPath (path : String) : Except Error Unit :=
  if path.toList.contains '\x00' then .error .nulInPath
  else if path = "" then .error .notFound
  else if longestPath < path.utf8ByteSize then .error .nameTooLong
  else .ok ()

/-- Follows names from `here`.  Only a directory can be followed further. -/
def walk (fs : FileSystem) (here : Path) : List String → Except Error Path
  | [] => .ok here
  | name :: rest =>
    match fs.node? here with
    | none => .error .notFound
    | some (.file _) => .error .notDirectory
    | some .directory =>
      if name = "" ∨ name = "." then walk fs here rest
      else if name = ".." then walk fs here.dropLast rest
      else if longestName < name.utf8ByteSize then .error .nameTooLong
      else walk fs (here ++ [name]) rest

/-- Where a written path ends, whether or not there is anything. -/
def locate (fs : FileSystem) (path : String) : Except Error Path := do
  checkPath path
  walk fs (fs.origin path) (parts path)

/-- What a written path leads to. -/
def resolve (fs : FileSystem) (path : String) : Except Error Node := do
  match fs.node? (← fs.locate path) with
  | some node => return node
  | none => throw .notFound

/-- Whether a written path leads to a file. -/
def isFile (fs : FileSystem) (path : String) : Bool :=
  match fs.resolve path with
  | .ok (.file _) => true
  | _ => false

/-- Whether a written path leads to a directory. -/
def isDirectory (fs : FileSystem) (path : String) : Bool :=
  match fs.resolve path with
  | .ok .directory => true
  | _ => false

/-- The content of a node, which must be a file. -/
def Node.content : Node → Except Error (List UInt8)
  | .file content => .ok content
  | .directory => .error .isDirectory

/-- The content of the file that a written path leads to. -/
def read (fs : FileSystem) (path : String) : Except Error (List UInt8) := do
  (← fs.resolve path).content

/-- Follows names from the directory `here` and makes the directories that are missing.  What was
made stays when a later name cannot be followed. -/
def makeAlong (fs : FileSystem) (here : Path) : List String → Except Error Path × FileSystem
  | [] => (.ok here, fs)
  | name :: rest =>
    if name = "." then makeAlong fs here rest
    else if name = ".." then makeAlong fs here.dropLast rest
    else if longestName < name.utf8ByteSize then (.error .nameTooLong, fs)
    else
      let next := here ++ [name]
      match fs.node? next with
      | some .directory => makeAlong fs next rest
      | some (.file _) => (.error (if rest = [] then .alreadyExists else .notDirectory), fs)
      | none =>
        if rest ≠ [] ∧ rest.all (· = ".") then (.error .notFound, fs)
        else makeAlong (fs.put next .directory) next rest

/-- Makes the directory that a written path leads to, with every directory on the way, and returns
where it is.  The empty path is the working directory. -/
def makeDirectories (fs : FileSystem) (path : String) : Except Error Path × FileSystem :=
  if path = "" then (.ok fs.working, fs)
  else match checkPath path with
    | .error e => (.error e, fs)
    | .ok () => makeAlong fs (fs.origin path) ((parts path).filter (· ≠ ""))

/-- The name of an entry of `directory`, or `none` for what is elsewhere. -/
def nameIn? (directory path : Path) : Option String :=
  match path.getLast? with
  | some name => if path.dropLast = directory then some name else none
  | none => none

/-- The names in a directory, in ascending order. -/
def names (fs : FileSystem) (directory : Path) : List String :=
  (fs.nodes.filterMap fun entry => nameIn? directory entry.1).mergeSort fun a b => !(b < a)

theorem nameIn?_eq_some {directory path : Path} {name : String} :
    nameIn? directory path = some name ↔ path = directory ++ [name] := by
  rcases path.eq_nil_or_concat with rfl | ⟨front, last, rfl⟩
  · simp [nameIn?]
  · simp [nameIn?, and_comm]

/-- A directory has the names at which there is something. -/
theorem mem_names {fs : FileSystem} {directory : Path} {name : String} :
    name ∈ fs.names directory ↔ (fs.node? (directory ++ [name])).isSome := by
  have hnode : fs.node? (directory ++ [name]) = fs.nodes.get? (directory ++ [name]) := by
    cases directory <;> rfl
  rw [names, List.mem_mergeSort, List.mem_filterMap, hnode, Table.isSome_get?, List.mem_map]
  exact exists_congr fun entry => and_congr_right fun _ => nameIn?_eq_some

/-- Moves a file to `target`, where it replaces any file; a directory it does not replace. -/
def rename (source target : Path) (fs : FileSystem) : Except Error FileSystem :=
  match fs.node? source with
  | none => .error .notFound
  | some node =>
    if (target.getLast?.getD "").utf8ByteSize > longestName then .error .nameTooLong
    else if fs.node? target = some .directory then .error .isDirectory
    else .ok ((fs.remove source).put target node)

theorem rename_ok {source target : Path} {fs after : FileSystem}
    (h : fs.rename source target = .ok after) :
    ∃ node, fs.node? source = some node ∧ fs.node? target ≠ some .directory ∧
      (target.getLast?.getD "").utf8ByteSize ≤ longestName ∧
      after = (fs.remove source).put target node := by
  unfold rename at h
  split at h
  · simp at h
  · rename_i node hnode
    split at h
    · simp at h
    · rename_i hname
      split at h
      · simp at h
      · rename_i htarget
        exact ⟨node, hnode, htarget, Nat.le_of_not_lt hname, (Except.ok.inj h).symm⟩

end FileSystem

end ClaimRelay
