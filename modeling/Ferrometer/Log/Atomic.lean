import Ferrometer.Log.Source.Batches

/-!
Contract: what a save that is cut short leaves to be read on the next start.

Owns: the paths for which that is the old cursor or the new one, which are the ones
whose temporary file is another file.

Does not own: the steps of a save, and what several shippers do to each other.
-/

set_option autoImplicit false

namespace Ferrometer.Log

open Ferrometer.Foundation

/-- A path that names a file with the extension `tmp` is its own temporary file. -/
def IsOwnTemporary (cursorFile : Path) : Prop :=
  cursorFile.fileName ≠ none ∧ cursorFile.withExtension "tmp" = cursorFile

instance (cursorFile : Path) : Decidable (IsOwnTemporary cursorFile) :=
  inferInstanceAs (Decidable (cursorFile.fileName ≠ none ∧
    cursorFile.withExtension "tmp" = cursorFile))

/-- Wherever a save stops, what is read back is the old cursor or the new one, and
an ack changes the source if and only if the new cursor has been saved. -/
structure SavesAtomically (cursorFile : Path) : Prop where
  oldOrNew : ∀ (tree : FileTree) (fault : Option Fault) (old new : Cursor), Solid new →
    readSavedCursor tree cursorFile = .ok (some old) →
    readSavedCursor (persistCursor fault tree cursorFile new).1 cursorFile = .ok (some old) ∨
      readSavedCursor (persistCursor fault tree cursorFile new).1 cursorFile = .ok (some new)
  /-- Before there is a cursor, on a path that names a file. -/
  noneOrNew : ∀ (tree : FileTree) (fault : Option Fault) (new : Cursor), Solid new →
    cursorFile.fileName ≠ none → readSavedCursor tree cursorFile = .ok none →
    readSavedCursor (persistCursor fault tree cursorFile new).1 cursorFile = .ok none ∨
      readSavedCursor (persistCursor fault tree cursorFile new).1 cursorFile = .ok (some new)
  acked : ∀ (api : JournalApi) (source next : JournaldSource api) (tree left : FileTree)
    (fault : Option Fault) (new : Cursor), source.cursorFile = cursorFile → Solid new →
    JournaldSource.ack new fault (source, tree) = ((next, left), .ok ()) →
    readSavedCursor left cursorFile = .ok (some new)
  refused : ∀ (api : JournalApi) (source next : JournaldSource api) (tree left : FileTree)
    (fault : Option Fault) (new : Cursor) (failure : Error), source.cursorFile = cursorFile →
    JournaldSource.ack new fault (source, tree) = ((next, left), .error failure) →
    next.lastAcked = source.lastAcked ∧ next.inFlight = source.inFlight

/-! ## Another temporary file -/

section Apart

variable {cursorFile : Path} {name : String}

theorem tmp_location (named : cursorFile.fileName = some name) :
    (cursorFile.withExtension "tmp").location =
      cursorFile.parent.location ++ [Path.fileStem name ++ "." ++ "tmp"] :=
  Path.withExtension_location named (tmp_ne_up (Path.fileStem name))

/-- Two files in one directory are the same file only under the same name. -/
private theorem tmp_apart (named : cursorFile.fileName = some name)
    (other : ¬ IsOwnTemporary cursorFile) :
    (cursorFile.withExtension "tmp").location ≠ cursorFile.location := by
  intro same
  rw [tmp_location named, Path.location_eq_of_fileName named] at same
  have sameName : Path.fileStem name ++ "." ++ "tmp" = name := by simpa using same
  have isLast := (Option.filter_eq_some_iff.mp named).1
  have ends := List.dropLast_append_getLast? name isLast
  apply other
  refine ⟨by simp [named], ?_⟩
  rw [Path.withExtension, named]
  simp only [sameName, ends]

/-- What is there above the cursor file before a save is there after it, as far as
the walk to the file goes. -/
private theorem above_kept (named : cursorFile.fileName = some name) (tree : FileTree)
    (fault : Option Fault) (cursor : Cursor) {above : Foundation.Location}
    (isAbove : above <+: cursorFile.location) (different : above ≠ cursorFile.location) :
    ((persistCursor fault tree cursorFile cursor).1.node above).any Node.isFile =
      (tree.node above).any Node.isFile := by
  have shorter : above.length ≤ cursorFile.parent.location.length := by
    have le := isAbove.length_le
    have ne : above.length ≠ cursorFile.location.length :=
      fun same => different (isAbove.eq_of_length same)
    rw [Path.location_eq_of_fileName named] at le ne
    simp only [List.length_append, List.length_singleton] at le ne
    omega
  have notTmp : above ≠ (cursorFile.withExtension "tmp").location := by
    intro same
    rw [tmp_location named] at same
    have length := congrArg List.length same
    simp only [List.length_append, List.length_singleton] at length
    omega
  rcases persistCursor_node fault tree cursorFile cursor
    fun _ _ => ⟨different, notTmp⟩ with kept | ⟨-, absent, made⟩
  · rw [kept]
  · rw [made, absent]
    rfl

/-- Whatever goes wrong, the file reads as before or holds the new cursor. -/
private theorem readSavedCursor_apart (named : cursorFile.fileName = some name)
    (other : ¬ IsOwnTemporary cursorFile) (tree : FileTree) (fault : Option Fault)
    {new : Cursor} (solid : Solid new) :
    readSavedCursor (persistCursor fault tree cursorFile new).1 cursorFile =
        readSavedCursor tree cursorFile ∨
      readSavedCursor (persistCursor fault tree cursorFile new).1 cursorFile =
        .ok (some new) := by
  rcases persistCursor_target fault tree new named (tmp_apart named other) with kept | isNew
  · have read : (persistCursor fault tree cursorFile new).1.readToString cursorFile.location =
        tree.readToString cursorFile.location := by
      apply FileTree.readToString_congr kept
      intro above isAbove
      by_cases here : above = cursorFile.location
      · rw [here, kept]
      · exact above_kept named tree fault new isAbove here
    left
    rw [readSavedCursor, readSavedCursor, read]
  · right
    rw [readSavedCursor_of_file isNew, savedCursor_of_solid solid]

end Apart

/-- A cursor can have been saved only under a path that names a file, or else
nothing is ever saved there. -/
private theorem readSavedCursor_unnamed {cursorFile : Path} (unnamed : cursorFile.fileName = none)
    (tree : FileTree) (fault : Option Fault) {old : Cursor} (new : Cursor)
    (read : readSavedCursor tree cursorFile = .ok (some old)) :
    readSavedCursor (persistCursor fault tree cursorFile new).1 cursorFile = .ok (some old) := by
  obtain ⟨content, text, isFile, decoded, isSaved⟩ := readSavedCursor_eq_some.mp read
  apply readSavedCursor_eq_some.mpr
  refine ⟨content, text, ?_, decoded, isSaved⟩
  rcases persistCursor_node fault tree cursorFile new
    fun name named => by simp [unnamed] at named with kept | ⟨-, absent, -⟩
  · rwa [kept]
  · simp [isFile] at absent

/-! ## An ack -/

section Ack

variable {api : JournalApi} {source next : JournaldSource api} {tree left : FileTree}
  {fault : Option Fault} {new : Cursor}

private theorem saved_of_acked (solid : Solid new)
    (acked : JournaldSource.ack new fault (source, tree) = ((next, left), .ok ())) :
    readSavedCursor left source.cursorFile = .ok (some new) := by
  rw [JournaldSource.ack_eq] at acked
  rcases saved : persistCursor fault tree source.cursorFile new with ⟨final, failure | ⟨⟩⟩
  · simp [saved] at acked
  · simp only [saved, Prod.mk.injEq, and_true] at acked
    obtain ⟨-, rfl⟩ := acked
    have isNew := persistCursor_ok (congrArg Prod.snd saved)
    rw [saved] at isNew
    rw [readSavedCursor_of_file isNew, savedCursor_of_solid solid]

private theorem kept_of_refused {failure : Error}
    (refused : JournaldSource.ack new fault (source, tree) = ((next, left), .error failure)) :
    next = source := by
  rw [JournaldSource.ack_eq] at refused
  rcases saved : persistCursor fault tree source.cursorFile new with ⟨final, error | ⟨⟩⟩
  · simp only [saved, Prod.mk.injEq] at refused
    exact refused.1.1.symm
  · simp [saved] at refused

end Ack

/-! ## The same temporary file -/

section Torn

variable {cursorFile : Path} {name : String}

/-- On a tree that has the cursor file, a write that stops under way leaves what it
has written under the name of the cursor file. -/
private theorem persistCursor_torn (own : IsOwnTemporary cursorFile) {tree : FileTree}
    {content : List UInt8} (isFile : tree.node cursorFile.location = some (.file content))
    (written : Nat) (source : IoError) (new : Cursor) :
    (persistCursor (some (.write written source)) tree cursorFile new).1.node
      cursorFile.location = some (.file ((Text.utf8Bytes new).take written)) := by
  obtain ⟨name, named⟩ := Option.ne_none_iff_exists'.mp own.1
  have place := Path.location_eq_of_fileName named
  have directories : ∀ above, above <+: cursorFile.parent.location →
      tree.node above = some .directory := by
    intro above isAbove
    have aboveFile : above <+: cursorFile.location := isAbove.trans ⟨[name], place.symm⟩
    apply FileTree.node_above aboveFile
    · rintro rfl
      rw [place] at isAbove
      exact absurd isAbove.length_le (by simp)
    · simp [isFile]
  have clear : ¬ tree.Obstructed cursorFile.parent.location := by
    rw [FileTree.obstructed_iff]
    rintro ⟨above, isAbove, obstacle⟩
    simp [directories above isAbove, Node.isFile] at obstacle
  have created : tree.createDirAll cursorFile.parent.location =
      .ok (tree.withDirectories cursorFile.parent.location) := by
    rw [FileTree.createDirAll, directories _ (List.prefix_refl _), if_neg (by simp [Node.isFile]),
      if_neg clear]
  have writable : (tree.withDirectories cursorFile.parent.location).Writable
      cursorFile.location := by
    constructor
    · rw [place, List.dropLast_concat]
      exact if_pos (List.prefix_refl _)
    · have notAbove : ¬ cursorFile.location <+: cursorFile.parent.location := by
        intro isAbove
        rw [place] at isAbove
        exact absurd isAbove.length_le (by simp)
      have kept : (tree.withDirectories cursorFile.parent.location).node cursorFile.location =
          tree.node cursorFile.location := if_neg notAbove
      rw [kept, isFile]
      simp
  simp only [persistCursor, createParent, created, own.2, writeTemporary, FileTree.write,
    dif_pos writable]
  exact if_pos rfl

/-- A save that has truncated the file and written nothing loses the old cursor. -/
private theorem torn_loses (own : IsOwnTemporary cursorFile) {tree : FileTree} {old : Cursor}
    (read : readSavedCursor tree cursorFile = .ok (some old)) (source : IoError) (new : Cursor) :
    readSavedCursor (persistCursor (some (.write 0 source)) tree cursorFile new).1 cursorFile =
      .ok none := by
  obtain ⟨content, text, isFile, -, -⟩ := readSavedCursor_eq_some.mp read
  have torn : (persistCursor (some (.write 0 source)) tree cursorFile new).1.node
      cursorFile.location = some (.file (Text.utf8Bytes "")) :=
    persistCursor_torn own isFile 0 source new
  exact readSavedCursor_of_file torn

private theorem not_savesAtomically (own : IsOwnTemporary cursorFile) :
    ¬ SavesAtomically cursorFile := by
  intro atomic
  obtain ⟨name, named⟩ := Option.ne_none_iff_exists'.mp own.1
  have isFile : (FileTree.only cursorFile.parent.location name (Text.utf8Bytes "old")).node
      cursorFile.location = some (.file (Text.utf8Bytes "old")) := by
    rw [Path.location_eq_of_fileName named]
    exact if_pos rfl
  have read := readSavedCursor_of_file isFile
  rw [savedCursor_of_solid (by decide)] at read
  rcases atomic.oldOrNew _ (some (.write 0 .notFound)) "old" "new" (by decide) read with
    old | new
  · rw [torn_loses own read] at old
    exact absurd old (by simp)
  · rw [torn_loses own read] at new
    exact absurd new (by simp)

end Torn

/-! ## The paths -/

/-- Saves are atomic under every path but those that are their own temporary file. -/
theorem savesAtomically_iff (cursorFile : Path) :
    SavesAtomically cursorFile ↔ ¬ IsOwnTemporary cursorFile := by
  constructor
  · intro atomic own
    exact not_savesAtomically own atomic
  · intro other
    constructor
    · intro tree fault old new solid read
      cases named : cursorFile.fileName with
      | none => exact Or.inl (readSavedCursor_unnamed named tree fault new read)
      | some name =>
          rw [← read]
          exact readSavedCursor_apart named other tree fault solid
    · intro tree fault new solid namesFile read
      obtain ⟨name, named⟩ := Option.ne_none_iff_exists'.mp namesFile
      rw [← read]
      exact readSavedCursor_apart named other tree fault solid
    · rintro api source next tree left fault new rfl solid acked
      exact saved_of_acked solid acked
    · intro api source next tree left fault new failure _ refused
      rw [kept_of_refused refused]
      exact ⟨rfl, rfl⟩

/-- A service that is killed while it writes to `/state/journal.tmp` starts again
with half a cursor. -/
theorem savesAtomically_journalTmp :
    let cursorFile := Path.ofString "/state/journal.tmp"
    let tree := FileTree.only ["state"] "journal.tmp" (Text.utf8Bytes "s=1;i=41")
    readSavedCursor tree cursorFile = .ok (some "s=1;i=41") ∧
      readSavedCursor (persistCursor (some (.write 7 (.other "killed"))) tree cursorFile
        "s=1;i=42").1 cursorFile = .ok (some "s=1;i=4") ∧
      ¬ SavesAtomically cursorFile := by
  intro cursorFile tree
  have old : readSavedCursor tree cursorFile = .ok (some "s=1;i=41") := by decide +kernel
  have torn : readSavedCursor (persistCursor (some (.write 7 (.other "killed"))) tree cursorFile
      "s=1;i=42").1 cursorFile = .ok (some "s=1;i=4") := by decide +kernel
  refine ⟨old, torn, ?_⟩
  intro atomic
  rcases atomic.oldOrNew tree (some (.write 7 (.other "killed"))) "s=1;i=41" "s=1;i=42"
    (by decide) old with isOld | isNew
  · rw [torn] at isOld
    exact absurd isOld (by decide)
  · rw [torn] at isNew
    exact absurd isNew (by decide)

end Ferrometer.Log
