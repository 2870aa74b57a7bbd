import Ferrometer.Error

/-!
Contract: the file in which a log source keeps its cursor.

Owns: `persistCursor` with every point at which it can fail, `readSavedCursor`,
and what each of them does to the files of others.

Does not own: what a cursor means, or when one is saved.
-/

set_option autoImplicit false

namespace Ferrometer.Log

open Ferrometer.Foundation

abbrev Cursor := String

/-- `char::is_whitespace`, the Unicode property `White_Space`. -/
def isWhitespace (symbol : Char) : Bool :=
  let code := symbol.toNat
  (9 ≤ code && code ≤ 13) || code == 0x20 || code == 0x85 || code == 0xA0 || code == 0x1680 ||
    (0x2000 ≤ code && code ≤ 0x200A) || code == 0x2028 || code == 0x2029 || code == 0x202F ||
    code == 0x205F || code == 0x3000

def trim (text : String) : String :=
  String.ofList (Text.trim isWhitespace text.toList)

/-- The cursor in the text of a cursor file. -/
def savedCursor (text : String) : Option Cursor :=
  let trimmed := trim text
  if trimmed = "" then none else some trimmed

def readSavedCursor (tree : FileTree) (path : Path) : Except Error (Option Cursor) :=
  match tree.readToString path.location with
  | .ok text => .ok (savedCursor text)
  | .error .notFound => .ok none
  | .error source => .error (.fileRead path source)

/-! ## Saving -/

/-- Where `persistCursor` fails or the process dies, apart from what the tree
itself does not allow: with some of the directories made, before the temporary
file is there, with the first bytes of it written, or before the rename. -/
inductive Fault where
  | createDirAll (made : Nat) (source : IoError)
  | create (source : IoError)
  | write (written : Nat) (source : IoError)
  | rename (source : IoError)
deriving DecidableEq, Repr

theorem tmp_ne_up (stem : String) : stem ++ "." ++ "tmp" ≠ ".." := by
  intro same
  have ends := congrArg (fun name => name.toList.getLast?) same
  simp at ends

section Persist

variable (fault : Option Fault)

/-- The first step of `persistCursor`. -/
def createParent (tree : FileTree) (parent : Path) : FileTree × Except IoError Unit :=
  match fault with
  | some (.createDirAll made source) =>
      match tree.createDirAll (parent.location.take made) with
      | .ok tree => (tree, .error source)
      | .error source => (tree, .error source)
  | _ =>
      match tree.createDirAll parent.location with
      | .ok tree => (tree, .ok ())
      | .error source => (tree, .error source)

/-- The second step. -/
def writeTemporary (tree : FileTree) (tmp : Path) (cursor : Cursor) :
    FileTree × Except IoError Unit :=
  match fault with
  | some (.create source) => (tree, .error source)
  | some (.write written source) =>
      match tree.write tmp.location ((Text.utf8Bytes cursor).take written) with
      | .ok tree => (tree, .error source)
      | .error source => (tree, .error source)
  | _ =>
      match tree.write tmp.location (Text.utf8Bytes cursor) with
      | .ok tree => (tree, .ok ())
      | .error source => (tree, .error source)

/-- The third step. -/
def renameTemporary (tree : FileTree) (tmp cursorFile : Path) :
    FileTree × Except IoError Unit :=
  match fault with
  | some (.rename source) => (tree, .error source)
  | _ =>
      match tree.rename tmp.location cursorFile.location with
      | .ok tree => (tree, .ok ())
      | .error source => (tree, .error source)

/-- The tree is what is on the disk when the call returns or the process dies. -/
def persistCursor (tree : FileTree) (cursorFile : Path) (cursor : Cursor) :
    FileTree × Except Error Unit :=
  match createParent fault tree cursorFile.parent with
  | (tree, .error source) => (tree, .error (.fileRead cursorFile.parent source))
  | (tree, .ok ()) =>
      let tmp := cursorFile.withExtension "tmp"
      match writeTemporary fault tree tmp cursor with
      | (tree, .error source) => (tree, .error (.fileRead tmp source))
      | (tree, .ok ()) =>
          match renameTemporary fault tree tmp cursorFile with
          | (tree, .error source) => (tree, .error (.fileRead cursorFile source))
          | (tree, .ok ()) => (tree, .ok ())

end Persist

/-! ## What saving changes -/

section Changes

variable {fault : Option Fault} {tree : FileTree}

/-- Directories appear at or above `parent`, and nothing else happens. -/
def OnlyMakes (tree next : FileTree) (parent : Location) : Prop :=
  ∀ place, next.node place = tree.node place ∨
    place <+: parent ∧ tree.node place = none ∧ next.node place = some .directory

private theorem createDirAll_onlyMakes {next : FileTree} {place parent : Location}
    (isAbove : place <+: parent) (created : tree.createDirAll place = .ok next) :
    OnlyMakes tree next parent ∧ ∀ above, above <+: place → next.node above = some .directory := by
  unfold FileTree.createDirAll at created
  split at created
  · exact absurd created (by simp)
  · split at created
    · exact absurd created (by simp)
    · rename_i clear
      obtain rfl := Except.ok.inj created
      refine ⟨fun other => ?_, fun above below => if_pos below⟩
      by_cases below : other <+: place
      · have node : (tree.withDirectories place).node other = some .directory := if_pos below
        cases old : tree.node other with
        | none => exact Or.inr ⟨below.trans isAbove, rfl, node⟩
        | some kind =>
            cases kind with
            | directory => exact Or.inl node
            | file content =>
                exact absurd (FileTree.obstructed_iff.mpr
                  ⟨other, below, by simp [old, Node.isFile]⟩) clear
      · exact Or.inl (if_neg below)

private theorem createParent_onlyMakes (fault : Option Fault) (tree : FileTree) (parent : Path) :
    OnlyMakes tree (createParent fault tree parent).1 parent.location := by
  have unchanged : OnlyMakes tree tree parent.location := fun _ => Or.inl rfl
  unfold createParent
  split
  · split
    · rename_i created
      exact (createDirAll_onlyMakes (List.take_prefix _ _) created).1
    · exact unchanged
  · split
    · rename_i created
      exact (createDirAll_onlyMakes (List.prefix_refl _) created).1
    · exact unchanged

private theorem createParent_directories {parent : Path} {next : FileTree}
    (created : createParent fault tree parent = (next, .ok ())) :
    ∀ above, above <+: parent.location → next.node above = some .directory := by
  unfold createParent at created
  split at created
  · split at created <;> simp at created
  · split at created
    · rename_i made
      obtain ⟨rfl, -⟩ := Prod.mk.inj created
      exact (createDirAll_onlyMakes (List.prefix_refl _) made).2
    · simp at created

private theorem write_node {next : FileTree} {place : Location} {content : List UInt8}
    (written : tree.write place content = .ok next) :
    tree.Writable place ∧ next.node place = some (.file content) ∧
      ∀ other, other ≠ place → next.node other = tree.node other := by
  unfold FileTree.write at written
  split at written
  · rename_i writable
    obtain rfl := Except.ok.inj written
    exact ⟨writable, if_pos rfl, fun other different => if_neg different⟩
  · split at written <;> exact absurd written (by simp)

private theorem rename_node {next : FileTree} {source target : Location}
    (renamed : tree.rename source target = .ok next) :
    next.node target = tree.node source ∧
      ∀ other, other ≠ source → other ≠ target → next.node other = tree.node other := by
  unfold FileTree.rename at renamed
  split at renamed
  · exact absurd renamed (by simp)
  · exact absurd renamed (by simp)
  · rename_i isFile
    split at renamed
    · obtain rfl := Except.ok.inj renamed
      refine ⟨(if_pos rfl).trans isFile.symm, ?_⟩
      intro other notSource notTarget
      exact (if_neg notTarget).trans (if_neg notSource)
    · split at renamed <;> exact absurd renamed (by simp)

/-- The temporary file is the only place that the second step changes, and only
where a file can be put. -/
private theorem writeTemporary_node (fault : Option Fault) (tree : FileTree) (tmp : Path)
    (cursor : Cursor) :
    (writeTemporary fault tree tmp cursor).1 = tree ∨
      tree.Writable tmp.location ∧ ∀ other, other ≠ tmp.location →
        (writeTemporary fault tree tmp cursor).1.node other = tree.node other := by
  unfold writeTemporary
  split
  · exact Or.inl rfl
  · split
    · rename_i written
      exact Or.inr ⟨(write_node written).1, (write_node written).2.2⟩
    · exact Or.inl rfl
  · split
    · rename_i written
      exact Or.inr ⟨(write_node written).1, (write_node written).2.2⟩
    · exact Or.inl rfl

private theorem writeTemporary_ok {tmp : Path} {cursor : Cursor} {next : FileTree}
    (written : writeTemporary fault tree tmp cursor = (next, .ok ())) :
    next.node tmp.location = some (.file (Text.utf8Bytes cursor)) := by
  unfold writeTemporary at written
  split at written
  · simp at written
  · split at written <;> simp at written
  · split at written
    · rename_i done
      obtain ⟨rfl, -⟩ := Prod.mk.inj written
      exact (write_node done).2.1
    · simp at written

private theorem renameTemporary_node (fault : Option Fault) (tree : FileTree)
    (tmp cursorFile : Path) {other : Location}
    (notSource : other ≠ tmp.location) (notTarget : other ≠ cursorFile.location) :
    (renameTemporary fault tree tmp cursorFile).1.node other = tree.node other := by
  unfold renameTemporary
  split
  · rfl
  · split
    · rename_i renamed
      exact (rename_node renamed).2 other notSource notTarget
    · rfl

private theorem renameTemporary_ok {tmp cursorFile : Path} {next : FileTree}
    (renamed : renameTemporary fault tree tmp cursorFile = (next, .ok ())) :
    next.node cursorFile.location = tree.node tmp.location := by
  unfold renameTemporary at renamed
  split at renamed
  · simp at renamed
  · split at renamed
    · rename_i done
      obtain ⟨rfl, -⟩ := Prod.mk.inj renamed
      exact (rename_node done).1
    · simp at renamed

/-- Once the parent is there, a path that names no file is a directory, and saving
to it stops at the temporary file. -/
private theorem unnamed_stops {cursorFile : Path} (unnamed : cursorFile.fileName = none)
    (directories : ∀ above, above <+: cursorFile.parent.location →
      tree.node above = some .directory) (cursor : Cursor) :
    (writeTemporary fault tree (cursorFile.withExtension "tmp") cursor).1 = tree ∧
      (writeTemporary fault tree (cursorFile.withExtension "tmp") cursor).2 ≠ .ok () := by
  have itself : cursorFile.withExtension "tmp" = cursorFile := by
    rw [Path.withExtension, unnamed]
  have isDirectory := directories _ (Path.location_isPrefix_of_noFileName unnamed)
  rw [itself]
  have kept : (writeTemporary fault tree cursorFile cursor).1 = tree := by
    rcases writeTemporary_node fault tree cursorFile cursor with kept | ⟨writable, -⟩
    · exact kept
    · exact absurd isDirectory writable.notDirectory
  refine ⟨kept, ?_⟩
  intro done
  have written := writeTemporary_ok (Prod.ext kept done :
    writeTemporary fault tree cursorFile cursor = (tree, .ok ()))
  simp [isDirectory] at written

/-- A save stops at the parent, or at the temporary file, or comes to the rename. -/
private theorem persistCursor_cases (fault : Option Fault) (tree : FileTree)
    (cursorFile : Path) (cursor : Cursor) :
    ((persistCursor fault tree cursorFile cursor).1 =
        (createParent fault tree cursorFile.parent).1 ∧
      (persistCursor fault tree cursorFile cursor).2 ≠ .ok ()) ∨
    ∃ middle, createParent fault tree cursorFile.parent = (middle, .ok ()) ∧
      (((persistCursor fault tree cursorFile cursor).1 =
          (writeTemporary fault middle (cursorFile.withExtension "tmp") cursor).1 ∧
        (persistCursor fault tree cursorFile cursor).2 ≠ .ok ()) ∨
      ∃ written,
        writeTemporary fault middle (cursorFile.withExtension "tmp") cursor =
          (written, .ok ()) ∧
        (persistCursor fault tree cursorFile cursor).1 =
          (renameTemporary fault written (cursorFile.withExtension "tmp") cursorFile).1 ∧
        ((persistCursor fault tree cursorFile cursor).2 = .ok () →
          (renameTemporary fault written (cursorFile.withExtension "tmp") cursorFile).2 =
            .ok ())) := by
  rcases created : createParent fault tree cursorFile.parent with ⟨middle, failed | ⟨⟩⟩
  · left
    simp [persistCursor, created]
  · refine Or.inr ⟨middle, rfl, ?_⟩
    rcases done : writeTemporary fault middle (cursorFile.withExtension "tmp") cursor with
      ⟨written, failed | ⟨⟩⟩
    · left
      simp [persistCursor, created, done]
    · refine Or.inr ⟨written, rfl, ?_⟩
      rcases renamed : renameTemporary fault written (cursorFile.withExtension "tmp") cursorFile
        with ⟨final, failed | ⟨⟩⟩
      · simp [persistCursor, created, done, renamed]
      · simp [persistCursor, created, done, renamed]

/-- Whatever goes wrong, saving a cursor makes directories up to the parent and
touches the two files, if the path names a file at all. -/
theorem persistCursor_node (fault : Option Fault) (tree : FileTree) (cursorFile : Path)
    (cursor : Cursor) {place : Location}
    (notFile : ∀ name, cursorFile.fileName = some name →
      place ≠ cursorFile.location ∧ place ≠ (cursorFile.withExtension "tmp").location) :
    (persistCursor fault tree cursorFile cursor).1.node place = tree.node place ∨
      place <+: cursorFile.parent.location ∧ tree.node place = none ∧
        (persistCursor fault tree cursorFile cursor).1.node place = some .directory := by
  have made := createParent_onlyMakes fault tree cursorFile.parent place
  rcases persistCursor_cases fault tree cursorFile cursor with
    ⟨stopped, -⟩ | ⟨middle, created, later⟩
  · rwa [stopped]
  · rw [created] at made
    have directories := createParent_directories created
    have tmpKept : (writeTemporary fault middle (cursorFile.withExtension "tmp")
        cursor).1.node place = middle.node place := by
      cases named : cursorFile.fileName with
      | none => rw [(unnamed_stops named directories cursor).1]
      | some name =>
          rcases writeTemporary_node fault middle (cursorFile.withExtension "tmp") cursor with
            kept | ⟨-, kept⟩
          · rw [kept]
          · exact kept place (notFile name named).2
    rcases later with ⟨stopped, -⟩ | ⟨written, done, final, -⟩
    · rwa [stopped, tmpKept]
    · rw [done] at tmpKept
      obtain ⟨name, named⟩ : ∃ name, cursorFile.fileName = some name := by
        cases named : cursorFile.fileName with
        | none => exact absurd (congrArg Prod.snd done) (unnamed_stops named directories cursor).2
        | some name => exact ⟨name, rfl⟩
      have renameKept := renameTemporary_node fault written
        (cursorFile.withExtension "tmp") cursorFile (notFile name named).2 (notFile name named).1
      rwa [final, renameKept, tmpKept]

/-- A save that reports success has left the cursor in the file. -/
theorem persistCursor_ok {cursorFile : Path} {cursor : Cursor}
    (saved : (persistCursor fault tree cursorFile cursor).2 = .ok ()) :
    (persistCursor fault tree cursorFile cursor).1.node cursorFile.location =
      some (.file (Text.utf8Bytes cursor)) := by
  rcases persistCursor_cases fault tree cursorFile cursor with
    ⟨-, fails⟩ | ⟨middle, created, ⟨-, fails⟩ | ⟨written, done, final, succeeds⟩⟩
  · exact absurd saved fails
  · exact absurd saved fails
  · rw [final, renameTemporary_ok (Prod.ext rfl (succeeds saved)), writeTemporary_ok done]

private theorem writeTemporary_file {tmp : Path} {cursor : Cursor} {place : Location}
    {content : List UInt8} (whole : fault = none ∨ tmp.location ≠ place)
    (isFile : (writeTemporary fault tree tmp cursor).1.node place = some (.file content)) :
    tree.node place = some (.file content) ∨ content = Text.utf8Bytes cursor := by
  by_cases other : tmp.location = place
  · obtain rfl : fault = none := whole.resolve_right (not_not_intro other)
    unfold writeTemporary at isFile
    simp only at isFile
    cases wrote : tree.write tmp.location (Text.utf8Bytes cursor) with
    | error source =>
        rw [wrote] at isFile
        exact Or.inl isFile
    | ok next =>
        rw [wrote, ← other, (write_node wrote).2.1] at isFile
        exact Or.inr (Node.file.inj (Option.some.inj isFile)).symm
  · left
    rcases writeTemporary_node fault tree tmp cursor with kept | ⟨-, kept⟩
    · rwa [kept] at isFile
    · rwa [kept place (Ne.symm other)] at isFile

/-- What the third step leaves under the name of the cursor file. -/
private theorem renameTemporary_target (fault : Option Fault) (tree : FileTree)
    (tmp cursorFile : Path) :
    (renameTemporary fault tree tmp cursorFile).1.node cursorFile.location =
        tree.node cursorFile.location ∨
      (renameTemporary fault tree tmp cursorFile).1.node cursorFile.location =
        tree.node tmp.location := by
  unfold renameTemporary
  split
  · exact Or.inl rfl
  · split
    · rename_i renamed
      exact Or.inr (rename_node renamed).1
    · exact Or.inl rfl

/-- A file that is there after a save is the one from before or holds the cursor,
unless the save was cut short and its temporary file is the cursor file. -/
theorem persistCursor_file {cursorFile : Path} {cursor : Cursor} {content : List UInt8}
    (whole : fault = none ∨ (cursorFile.withExtension "tmp").location ≠ cursorFile.location)
    (isFile : (persistCursor fault tree cursorFile cursor).1.node cursorFile.location =
      some (.file content)) :
    tree.node cursorFile.location = some (.file content) ∨ content = Text.utf8Bytes cursor := by
  have made := createParent_onlyMakes fault tree cursorFile.parent cursorFile.location
  have before : (createParent fault tree cursorFile.parent).1.node cursorFile.location =
      some (.file content) → tree.node cursorFile.location = some (.file content) := by
    intro there
    rcases made with kept | ⟨-, -, directory⟩
    · exact kept.symm.trans there
    · exact absurd (directory.symm.trans there) (by simp)
  rcases persistCursor_cases fault tree cursorFile cursor with
    ⟨stopped, -⟩ | ⟨middle, created, later⟩
  · rw [stopped] at isFile
    exact Or.inl (before isFile)
  · rw [created] at before
    rcases later with ⟨stopped, -⟩ | ⟨written, done, final, -⟩
    · rw [stopped] at isFile
      exact (writeTemporary_file whole isFile).imp_left before
    · rw [final] at isFile
      rcases renameTemporary_target fault written (cursorFile.withExtension "tmp") cursorFile with
        kept | moved
      · have there : (writeTemporary fault middle (cursorFile.withExtension "tmp")
            cursor).1.node cursorFile.location = some (.file content) := by
          rw [done]
          exact kept.symm.trans isFile
        exact (writeTemporary_file whole there).imp_left before
      · rw [moved, writeTemporary_ok done] at isFile
        exact Or.inr (Node.file.inj (Option.some.inj isFile)).symm

/-- Whatever goes wrong, the cursor file stays what it is or becomes the new one,
if the temporary file is another. -/
theorem persistCursor_target (fault : Option Fault) (tree : FileTree) {cursorFile : Path}
    (cursor : Cursor) {name : String} (named : cursorFile.fileName = some name)
    (apart : (cursorFile.withExtension "tmp").location ≠ cursorFile.location) :
    (persistCursor fault tree cursorFile cursor).1.node cursorFile.location =
        tree.node cursorFile.location ∨
      (persistCursor fault tree cursorFile cursor).1.node cursorFile.location =
        some (.file (Text.utf8Bytes cursor)) := by
  have made : (createParent fault tree cursorFile.parent).1.node cursorFile.location =
      tree.node cursorFile.location := by
    rcases createParent_onlyMakes fault tree cursorFile.parent cursorFile.location with
      kept | ⟨onTheWay, -, -⟩
    · exact kept
    · rw [Path.location_eq_of_fileName named] at onTheWay
      exact absurd onTheWay.length_le (by simp)
  rcases persistCursor_cases fault tree cursorFile cursor with
    ⟨stopped, -⟩ | ⟨middle, created, later⟩
  · rw [stopped]
    exact Or.inl made
  · rw [created] at made
    have unwritten : (writeTemporary fault middle (cursorFile.withExtension "tmp")
        cursor).1.node cursorFile.location = middle.node cursorFile.location := by
      rcases writeTemporary_node fault middle (cursorFile.withExtension "tmp") cursor with
        kept | ⟨-, kept⟩
      · rw [kept]
      · exact kept _ apart.symm
    rcases later with ⟨stopped, -⟩ | ⟨written, done, final, -⟩
    · rw [stopped]
      exact Or.inl (unwritten.trans made)
    · rw [done] at unwritten
      rw [final]
      rcases renameTemporary_target fault written (cursorFile.withExtension "tmp") cursorFile with
        kept | moved
      · exact Or.inl (kept.trans (unwritten.trans made))
      · exact Or.inr (moved.trans (writeTemporary_ok done))

end Changes

/-! ## Reading back -/

theorem readSavedCursor_of_file {tree : FileTree} {path : Path} {text : String}
    (isFile : tree.node path.location = some (.file (Text.utf8Bytes text))) :
    readSavedCursor tree path = .ok (savedCursor text) := by
  have read : tree.readToString path.location = .ok text := by
    rw [FileTree.readToString, isFile]
    simp
  rw [readSavedCursor, read]

/-- A cursor is read back only from a file. -/
theorem readSavedCursor_eq_some {tree : FileTree} {path : Path} {saved : Cursor} :
    readSavedCursor tree path = .ok (some saved) ↔
      ∃ content text, tree.node path.location = some (.file content) ∧
        Text.ofUtf8 content = some text ∧ savedCursor text = some saved := by
  unfold readSavedCursor FileTree.readToString
  cases node : tree.node path.location with
  | none => cases absent : tree.missing path.location <;> simp
  | some kind =>
      cases kind with
      | directory => simp
      | file content =>
          cases decoded : Text.ofUtf8 content with
          | none => simp [decoded]
          | some text => simp [decoded]

/-- Strictly below a file the walk to the cursor file fails. -/
theorem readSavedCursor_below_file {tree : FileTree} {path : Path} {above : Location}
    {content : List UInt8} (isFile : tree.node above = some (.file content))
    (isAbove : above <+: path.location) (different : above ≠ path.location) :
    readSavedCursor tree path = .error (.fileRead path .notADirectory) := by
  have absent : tree.node path.location = none := by
    by_contra present
    rw [FileTree.node_above isAbove different present] at isFile
    simp at isFile
  have obstructed : tree.Obstructed path.location :=
    FileTree.obstructed_iff.mpr ⟨above, isAbove, by simp [isFile, Node.isFile]⟩
  have read : tree.readToString path.location = .error .notADirectory := by
    rw [FileTree.readToString, absent, FileTree.missing, if_pos obstructed]
  rw [readSavedCursor, read]

theorem readSavedCursor_of_directory {tree : FileTree} {path : Path}
    (isDirectory : tree.node path.location = some .directory) :
    readSavedCursor tree path = .error (.fileRead path .isADirectory) := by
  have read : tree.readToString path.location = .error .isADirectory := by
    rw [FileTree.readToString, isDirectory]
  rw [readSavedCursor, read]

/-- What a save leaves to be read back: the cursor from before, or the new one. -/
theorem readSavedCursor_persistCursor {fault : Option Fault} {tree : FileTree}
    {cursorFile : Path} {cursor saved : Cursor}
    (whole : fault = none ∨ (cursorFile.withExtension "tmp").location ≠ cursorFile.location)
    (read : readSavedCursor (persistCursor fault tree cursorFile cursor).1 cursorFile =
      .ok (some saved)) :
    readSavedCursor tree cursorFile = .ok (some saved) ∨ savedCursor cursor = some saved := by
  obtain ⟨content, text, isFile, decoded, isSaved⟩ := readSavedCursor_eq_some.mp read
  rcases persistCursor_file whole isFile with kept | new
  · exact Or.inl (readSavedCursor_eq_some.mpr ⟨content, text, kept, decoded, isSaved⟩)
  · rw [new, Text.ofUtf8_utf8Bytes] at decoded
    exact Or.inr (Option.some.inj decoded ▸ isSaved)

/-- A cursor with something in it and no blank at either end. -/
structure Solid (cursor : Cursor) : Prop where
  nonempty : cursor ≠ ""
  first : ∀ symbol ∈ cursor.toList.head?, isWhitespace symbol = false
  last : ∀ symbol ∈ cursor.toList.getLast?, isWhitespace symbol = false

private theorem solid_iff {cursor : Cursor} :
    Solid cursor ↔ cursor ≠ "" ∧ cursor.toList.head?.any isWhitespace = false ∧
      cursor.toList.getLast?.any isWhitespace = false := by
  rw [Option.any_eq_false, Option.any_eq_false]
  constructor
  · intro solid
    exact ⟨solid.nonempty, solid.first, solid.last⟩
  · rintro ⟨nonempty, first, last⟩
    exact ⟨nonempty, first, last⟩

instance (cursor : Cursor) : Decidable (Solid cursor) :=
  decidable_of_iff _ solid_iff.symm

/-- Nothing of it is trimmed. -/
theorem savedCursor_of_solid {cursor : Cursor} (solid : Solid cursor) :
    savedCursor cursor = some cursor := by
  have trimmed : trim cursor = cursor := by
    rw [trim, Text.trim_of_solid isWhitespace solid.first solid.last, String.ofList_toList]
  rw [savedCursor, trimmed]
  exact if_neg solid.nonempty

end Ferrometer.Log
