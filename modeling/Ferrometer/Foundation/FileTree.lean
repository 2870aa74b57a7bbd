import Ferrometer.Foundation.Text
import Mathlib.Tactic.Common

/-!
Contract: a tree of directories and regular files, and the `std::fs` calls that
read and change it.

Owns: paths as lists of names with their parent and extension, the location a
path denotes, trees in which whatever exists lies in a directory, and for each
call what it needs, what it changes and how it fails.

Does not own: links, permissions and mounts. A name leads to one place, and the
two names `.` and `..` are resolved on the text of the path. A relative path
starts at the root, which is the working directory of a service. Nor the two
texts that say more than their components: an empty one, at which nothing is
ever found, and one that ends in a slash, which leads to directories only.
-/

set_option autoImplicit false

namespace Ferrometer.Foundation

/-! ## Paths -/

/-- The names from the root to a place. -/
abbrev Location := List String

/-- A path as its components, which is how paths are compared. -/
structure Path where
  absolute : Bool
  components : List String
deriving DecidableEq, Repr

namespace Path

def ofString (text : String) : Path where
  absolute := text.toList.head? = some '/'
  components :=
    ((text.toList.splitOn '/').map String.ofList).filter fun name => name ≠ "" ∧ name ≠ "."

/-- `Path::parent`, which takes the last component away. -/
def parent (path : Path) : Path :=
  { path with components := path.components.dropLast }

/-- `Path::file_name`. A path that ends in `..` has none. -/
def fileName (path : Path) : Option String :=
  path.components.getLast?.filter (· ≠ "..")

/-- A name without its last dot and what follows it, unless nothing precedes the
dot. -/
def fileStem (name : String) : String :=
  match name.toList.reverse.dropWhile (· ≠ '.') with
  | [] | [_] => name
  | _ :: stem => String.ofList stem.reverse

def withExtension (path : Path) (extension : String) : Path :=
  match path.fileName with
  | none => path
  | some name =>
      { path with
        components := path.components.dropLast ++ [fileStem name ++ "." ++ extension] }

def location (path : Path) : Location :=
  path.components.foldl
    (fun place name => if name = ".." then place.dropLast else place ++ [name]) []

/-- A file is in the directory its path's parent denotes. -/
theorem location_eq_of_fileName {path : Path} {name : String} (named : path.fileName = some name) :
    path.location = path.parent.location ++ [name] := by
  obtain ⟨isLast, notUp⟩ := Option.filter_eq_some_iff.mp named
  have ends : path.components = path.components.dropLast ++ [name] :=
    (List.dropLast_append_getLast? name isLast).symm
  rw [location, ends, List.foldl_append]
  simp only [List.foldl_cons, List.foldl_nil]
  rw [if_neg (by simpa using notUp)]
  rfl

/-- A path without a file name denotes a directory on the way to its parent. -/
theorem location_isPrefix_of_noFileName {path : Path} (unnamed : path.fileName = none) :
    path.location <+: path.parent.location := by
  rcases List.eq_nil_or_concat path.components with isEmpty | ⟨front, name, ends⟩
  · simp [location, isEmpty]
  · rw [List.concat_eq_append] at ends
    have up : name = ".." := by
      by_contra notUp
      simp [fileName, ends, notUp, Option.filter] at unnamed
    have place : path.location = path.parent.location.dropLast := by
      simp [location, parent, ends, up]
    rw [place]
    exact List.dropLast_prefix _

theorem withExtension_location {path : Path} {name extension : String}
    (named : path.fileName = some name) (proper : fileStem name ++ "." ++ extension ≠ "..") :
    (path.withExtension extension).location =
      path.parent.location ++ [fileStem name ++ "." ++ extension] := by
  rw [withExtension, named, location]
  simp only [List.foldl_append, List.foldl_cons, List.foldl_nil]
  rw [if_neg proper]
  rfl

end Path

/-! ## Trees -/

inductive Node where
  | directory
  | file (content : List UInt8)
deriving DecidableEq

def Node.isFile : Node → Bool
  | .directory => false
  | .file _ => true

/-- What is at every location. The root is a directory, and so is the place in
which anything lies. -/
structure FileTree where
  node : Location → Option Node
  root : node [] = some .directory
  nested : ∀ {place name}, node (place ++ [name]) ≠ none → node place = some .directory

inductive IoError where
  | notFound
  | notADirectory
  | isADirectory
  | alreadyExists
  | invalidData
  | other (message : String)
deriving DecidableEq, Repr

namespace FileTree

/-- The tree of an empty disk. -/
def empty : FileTree where
  node place := if place = [] then some .directory else none
  root := rfl
  nested := by simp

/-- A file stands where a directory would have to be. -/
def Obstructed (tree : FileTree) (place : Location) : Prop :=
  ∃ above ∈ place.inits, (tree.node above).any Node.isFile

instance (tree : FileTree) (place : Location) : Decidable (tree.Obstructed place) :=
  inferInstanceAs (Decidable (∃ above ∈ place.inits, (tree.node above).any Node.isFile))

theorem obstructed_iff {tree : FileTree} {place : Location} :
    tree.Obstructed place ↔ ∃ above, above <+: place ∧ (tree.node above).any Node.isFile := by
  simp only [Obstructed, List.mem_inits]

/-- The error of a walk to a place where nothing is. -/
def missing (tree : FileTree) (place : Location) : IoError :=
  if tree.Obstructed place then .notADirectory else .notFound

/-- `std::fs::read_to_string`. -/
def readToString (tree : FileTree) (place : Location) : Except IoError String :=
  match tree.node place with
  | none => .error (tree.missing place)
  | some .directory => .error .isADirectory
  | some (.file content) =>
      match Text.ofUtf8 content with
      | none => .error .invalidData
      | some text => .ok text

/-- What lies above an existing place is a directory. -/
theorem node_above {tree : FileTree} {above place : Location} (isAbove : above <+: place)
    (different : above ≠ place) (present : tree.node place ≠ none) :
    tree.node above = some .directory := by
  obtain ⟨rest, rfl⟩ := isAbove
  induction rest using List.reverseRecOn with
  | nil => exact absurd (List.append_nil above).symm different
  | append_singleton rest name inductionHypothesis =>
      rw [← List.append_assoc] at present
      have place := tree.nested present
      by_cases direct : rest = []
      · rwa [direct, List.append_nil] at place
      · exact inductionHypothesis (by simp [direct]) (by simp [place])

/-! ## Creating directories -/

/-- The tree with a directory at `place` and everywhere above it. -/
def withDirectories (tree : FileTree) (place : Location) : FileTree where
  node other := if other <+: place then some .directory else tree.node other
  root := by simp
  nested := by
    intro other name present
    by_cases below : other ++ [name] <+: place
    · rw [if_pos ((List.prefix_append other [name]).trans below)]
    · rw [if_neg below] at present
      split
      · rfl
      · exact tree.nested present

/-- `std::fs::create_dir_all`. -/
def createDirAll (tree : FileTree) (place : Location) : Except IoError FileTree :=
  if (tree.node place).any Node.isFile then .error .alreadyExists
  else if tree.Obstructed place then .error .notADirectory
  else .ok (tree.withDirectories place)

/-! ## Writing -/

/-- A place where a file can be put: its parent is a directory and it is not. -/
structure Writable (tree : FileTree) (place : Location) : Prop where
  parent : tree.node place.dropLast = some .directory
  notDirectory : tree.node place ≠ some .directory

instance (tree : FileTree) (place : Location) : Decidable (tree.Writable place) :=
  decidable_of_iff
    (tree.node place.dropLast = some .directory ∧ tree.node place ≠ some .directory)
    ⟨fun both => ⟨both.1, both.2⟩, fun writable => ⟨writable.parent, writable.notDirectory⟩⟩

theorem Writable.ne_nil {tree : FileTree} {place : Location} (writable : tree.Writable place) :
    place ≠ [] := by
  rintro rfl
  exact writable.notDirectory tree.root

/-- The tree with a file at a place where one can be put. -/
def withFile (tree : FileTree) (place : Location) (content : List UInt8)
    (writable : tree.Writable place) : FileTree where
  node other := if other = place then some (.file content) else tree.node other
  root := by
    rw [if_neg writable.ne_nil.symm]
    exact tree.root
  nested := by
    intro other name present
    by_cases here : other ++ [name] = place
    · have parent := writable.parent
      rw [← here, List.dropLast_concat] at parent
      rw [if_neg (by rw [← here]; simp)]
      exact parent
    · rw [if_neg here] at present
      have directory := tree.nested present
      have notHere : other ≠ place := fun same => writable.notDirectory (same ▸ directory)
      rw [if_neg notHere]
      exact directory

/-- `std::fs::write`. A write that fails under way leaves the first bytes, so the
content given here may be part of what was to be written. -/
def write (tree : FileTree) (place : Location) (content : List UInt8) : Except IoError FileTree :=
  if writable : tree.Writable place then .ok (tree.withFile place content writable)
  else if tree.node place = some .directory then .error .isADirectory
  else .error (tree.missing place)

/-! ## Renaming -/

/-- The tree with the file at `source` moved to `target`. -/
def withMoved (tree : FileTree) (source target : Location) (content : List UInt8)
    (isFile : tree.node source = some (.file content)) (writable : tree.Writable target) :
    FileTree where
  node other :=
    if other = target then some (.file content)
    else if other = source then none
    else tree.node other
  root := by
    have notSource : ([] : Location) ≠ source := by
      rintro rfl
      simp [tree.root] at isFile
    rw [if_neg writable.ne_nil.symm, if_neg notSource]
    exact tree.root
  nested := by
    intro other name present
    have directory : tree.node other = some .directory := by
      by_cases here : other ++ [name] = target
      · have parent := writable.parent
        rwa [← here, List.dropLast_concat] at parent
      · rw [if_neg here] at present
        split at present
        · exact absurd rfl present
        · exact tree.nested present
    have notTarget : other ≠ target := fun same => writable.notDirectory (same ▸ directory)
    have notSource : other ≠ source := by
      rintro rfl
      simp [directory] at isFile
    rw [if_neg notTarget, if_neg notSource]
    exact directory

/-- `std::fs::rename` of a file. A target that is there already is replaced. -/
def rename (tree : FileTree) (source target : Location) : Except IoError FileTree :=
  match isFile : tree.node source with
  | none => .error (tree.missing source)
  | some .directory => .error (.other "not a regular file")
  | some (.file content) =>
      if writable : tree.Writable target then
        .ok (tree.withMoved source target content isFile writable)
      else if tree.node target = some .directory then .error .isADirectory
      else .error (tree.missing target)

theorem rename_isOk {tree : FileTree} {source target : Location} {content : List UInt8}
    (isFile : tree.node source = some (.file content)) (writable : tree.Writable target) :
    ∃ next, tree.rename source target = .ok next := by
  unfold rename
  split
  · rename_i absent
    simp [isFile] at absent
  · rename_i isDirectory
    simp [isFile] at isDirectory
  · exact ⟨_, dif_pos writable⟩

/-! ## What a call leaves alone -/

/-- A place reads the same in two trees that agree there and on which of the
places above it are files. -/
theorem readToString_congr {tree other : FileTree} {place : Location}
    (here : tree.node place = other.node place)
    (above : ∀ above, above <+: place →
      (tree.node above).any Node.isFile = (other.node above).any Node.isFile) :
    tree.readToString place = other.readToString place := by
  have sameMissing : tree.missing place = other.missing place := by
    have sameObstructed : tree.Obstructed place ↔ other.Obstructed place := by
      rw [obstructed_iff, obstructed_iff]
      exact exists_congr fun place => and_congr_right fun isAbove => by rw [above place isAbove]
    simp only [missing, sameObstructed]
  rw [readToString, readToString, here, sameMissing]

/-! ## The empty disk -/

theorem empty_not_obstructed (place : Location) : ¬ empty.Obstructed place := by
  rw [obstructed_iff]
  rintro ⟨above, -, isFile⟩
  by_cases atRoot : above = []
  · simp [empty, atRoot, Node.isFile] at isFile
  · simp [empty, atRoot] at isFile

theorem empty_createDirAll (place : Location) :
    empty.createDirAll place = .ok (empty.withDirectories place) := by
  have notFile : (empty.node place).any Node.isFile = false := by
    by_cases atRoot : place = [] <;> simp [empty, atRoot, Node.isFile]
  rw [createDirAll, notFile, if_neg (by simp), if_neg (empty_not_obstructed place)]

theorem empty_readToString {place : Location} (notRoot : place ≠ []) :
    empty.readToString place = .error .notFound := by
  have absent : empty.node place = none := if_neg notRoot
  rw [readToString, absent, missing, if_neg (empty_not_obstructed place)]

/-- A fresh directory has room for a file of any name. -/
theorem empty_writable (place : Location) (name : String) :
    (empty.withDirectories place).Writable (place ++ [name]) where
  parent := by
    rw [List.dropLast_concat]
    exact if_pos (List.prefix_refl place)
  notDirectory := by
    have notAbove : ¬ place ++ [name] <+: place := fun isAbove =>
      absurd isAbove.length_le (by simp)
    have absent : (empty.withDirectories place).node (place ++ [name]) = none :=
      (if_neg notAbove).trans (if_neg (by simp))
    simp [absent]

/-- A disk with one file, in directories of its own. -/
def only (place : Location) (name : String) (content : List UInt8) : FileTree :=
  (empty.withDirectories place).withFile (place ++ [name]) content (empty_writable place name)

end FileTree

end Ferrometer.Foundation
