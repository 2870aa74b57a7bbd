import Ferrometer.Config.Load
import Ferrometer.Foundation.Machine
import Ferrometer.Log.CursorFile
import Mathlib.Logic.Function.Basic

/-!
Contract: the cursor files of several shippers on one disk.

Owns: the machine whose steps are the acks and the restarts of any number of
shippers, what it means that they do not interfere, and the condition on their
paths under which they do not.

Does not own: what a shipper ships. An ack saves whatever cursor it is given.

The shippers run on one thread and `persist_cursor` does not await, so an ack is
one step. It can fail, and a restart can follow it, at any point of it.
-/

set_option autoImplicit false

namespace Ferrometer.Log

open Ferrometer.Foundation

/-- The cursor file of every configured shipper. -/
def cursorFiles (config : Config) : List Path :=
  config.logs.shippers.entries.map fun entry =>
    match entry.2.source with
    | .journald source => Path.ofString source.cursorFile

/-! ## The machine -/

inductive ShipperEvent where
  | ack (shipper : Nat) (cursor : Cursor) (fault : Option Fault)
  | restart (shipper : Nat)

structure Shippers where
  tree : FileTree
  /-- Where each running source has resumed from or acked last. -/
  lastAcked : Nat → Option Cursor
  /-- History: what reading its file gave each shipper after its own last ack, or
  at the start when it has acked nothing. After an ack that succeeded this is the
  cursor of the ack. -/
  own : Nat → Except Error (Option Cursor)

namespace Shippers

variable (files : List Path)

/-- Shippers that find some disk. -/
def start (tree : FileTree) : Shippers where
  tree := tree
  lastAcked := fun _ => none
  own := fun shipper =>
    match files[shipper]? with
    | none => .ok none
    | some file => readSavedCursor tree file

def step (state : Shippers) : ShipperEvent → Option Shippers
  | .ack shipper cursor fault => do
      let file ← files[shipper]?
      match persistCursor fault state.tree file cursor with
      | (tree, .ok ()) =>
          some {
            tree
            lastAcked := Function.update state.lastAcked shipper (some cursor)
            own := Function.update state.own shipper (.ok (savedCursor cursor)) }
      | (tree, .error _) =>
          some { state with
            tree
            own := Function.update state.own shipper (readSavedCursor tree file) }
  | .restart shipper => do
      let file ← files[shipper]?
      match readSavedCursor state.tree file with
      | .ok saved =>
          some { state with lastAcked := Function.update state.lastAcked shipper saved }
      | .error _ => none

def machine : Machine Shippers ShipperEvent where
  step := step files

end Shippers

/-- In every run from every disk, what a shipper reads is what it has left there
itself, and that is where a restart resumes. -/
structure Independent (files : List Path) : Prop where
  keeps : ∀ (tree : FileTree) (events : List ShipperEvent) (state : Shippers),
    (Shippers.machine files).run (Shippers.start files tree) events = some state →
    ∀ shipper file, files[shipper]? = some file →
      readSavedCursor state.tree file = state.own shipper
  resumes : ∀ (tree : FileTree) (events : List ShipperEvent) (state next : Shippers)
    (shipper : Nat),
    (Shippers.machine files).run (Shippers.start files tree) events = some state →
    Shippers.step files state (.restart shipper) = some next →
    state.own shipper = .ok (next.lastAcked shipper)

/-- Saving at `path` leaves the file at `other` alone: that file is no directory on
the way to `path`, and neither of the two files that a save writes is that file
or a directory on the way to it. (Nothing is ever saved at the root.) -/
def Separate (path other : Path) : Prop :=
  other.location = [] ∨
    ¬ other.location <+: path.parent.location ∧
      ∀ name, path.fileName = some name →
        ¬ path.location <+: other.location ∧
          ¬ (path.withExtension "tmp").location <+: other.location

/-- The cursor files of any two shippers are separate. -/
def Separated (files : List Path) : Prop :=
  ∀ (shipper neighbour : Nat) (path other : Path), shipper ≠ neighbour →
    files[shipper]? = some path → files[neighbour]? = some other → Separate path other

/-! ## Separate files are independent -/

theorem readSavedCursor_of_separate {path other : Path} (separate : Separate path other)
    (tree : FileTree) (cursor : Cursor) (fault : Option Fault) :
    readSavedCursor (persistCursor fault tree path cursor).1 other =
      readSavedCursor tree other := by
  have kept : (persistCursor fault tree path cursor).1.readToString other.location =
      tree.readToString other.location := by
    rcases separate with atRoot | ⟨notOnTheWay, notFiles⟩
    · rw [atRoot]
      apply FileTree.readToString_congr
      · rw [FileTree.root, FileTree.root]
      · intro above isAbove
        rw [List.prefix_nil.mp isAbove, FileTree.root, FileTree.root]
    · have node : ∀ above, above <+: other.location →
          (persistCursor fault tree path cursor).1.node above = tree.node above ∨
            above <+: path.parent.location ∧ tree.node above = none ∧
              (persistCursor fault tree path cursor).1.node above = some .directory := by
        intro above isAbove
        apply persistCursor_node
        intro name named
        exact ⟨fun same => (notFiles name named).1 (same ▸ isAbove),
          fun same => (notFiles name named).2 (same ▸ isAbove)⟩
      apply FileTree.readToString_congr
      · rcases node _ (List.prefix_refl _) with same | ⟨onTheWay, -, -⟩
        · exact same
        · exact absurd onTheWay notOnTheWay
      · intro above isAbove
        rcases node above isAbove with same | ⟨-, absent, made⟩
        · rw [same]
        · simp [absent, made, Node.isFile]
  rw [readSavedCursor, readSavedCursor, kept]

/-- What `keeps` says of one state. -/
def Keeps (files : List Path) (state : Shippers) : Prop :=
  ∀ shipper file, files[shipper]? = some file →
    readSavedCursor state.tree file = state.own shipper

private theorem step_keeps {files : List Path} (separated : Separated files)
    {state next : Shippers} {event : ShipperEvent} (keeps : Keeps files state)
    (stepped : Shippers.step files state event = some next) : Keeps files next := by
  cases event with
  | ack shipper cursor fault =>
      obtain ⟨path, listed, taken⟩ := Option.bind_eq_some_iff.mp stepped
      -- What the others read is the same whether or not the save has succeeded.
      have others : ∀ neighbour other, neighbour ≠ shipper → files[neighbour]? = some other →
          readSavedCursor (persistCursor fault state.tree path cursor).1 other =
            state.own neighbour := by
        intro neighbour other different listedOther
        rw [readSavedCursor_of_separate
          (separated shipper neighbour path other different.symm listed listedOther)]
        exact keeps neighbour other listedOther
      have ownFile : (persistCursor fault state.tree path cursor).2 = .ok () →
          readSavedCursor (persistCursor fault state.tree path cursor).1 path =
            .ok (savedCursor cursor) :=
        fun saved => readSavedCursor_of_file (persistCursor_ok saved)
      rcases saved : persistCursor fault state.tree path cursor with ⟨tree, failed | done⟩
      · rw [saved] at taken others
        obtain rfl := Option.some.inj taken
        intro neighbour other listedOther
        by_cases same : neighbour = shipper
        · subst same
          obtain rfl := Option.some.inj (listed.symm.trans listedOther)
          simp
        · exact (others neighbour other same listedOther).trans
            (Function.update_of_ne same _ _).symm
      · rw [saved] at taken others ownFile
        obtain rfl := Option.some.inj taken
        intro neighbour other listedOther
        by_cases same : neighbour = shipper
        · subst same
          obtain rfl := Option.some.inj (listed.symm.trans listedOther)
          simpa using ownFile rfl
        · exact (others neighbour other same listedOther).trans
            (Function.update_of_ne same _ _).symm
  | restart shipper =>
      obtain ⟨path, listed, taken⟩ := Option.bind_eq_some_iff.mp stepped
      split at taken
      · obtain rfl := Option.some.inj taken
        exact keeps
      · exact absurd taken (by simp)

private theorem start_keeps (files : List Path) (tree : FileTree) :
    Keeps files (Shippers.start files tree) := by
  intro shipper file listed
  simp [Shippers.start, listed]

private theorem independent_of_separated {files : List Path} (separated : Separated files) :
    Independent files := by
  have keeps : ∀ (tree : FileTree) (events : List ShipperEvent) (state : Shippers),
      (Shippers.machine files).run (Shippers.start files tree) events = some state →
      Keeps files state := fun tree events state ran =>
    (Shippers.machine files).run_invariant
      (fun keeps stepped => step_keeps separated keeps stepped) (start_keeps files tree) ran
  refine ⟨keeps, ?_⟩
  intro tree events state next shipper ran restarted
  obtain ⟨path, listed, taken⟩ := Option.bind_eq_some_iff.mp restarted
  rw [← keeps tree events state ran shipper path listed]
  split at taken
  · rename_i saved read
    obtain rfl := Option.some.inj taken
    simp [read]
  · exact absurd taken (by simp)

/-! ## Files that are not separate interfere -/

section Conflicts

variable {path : Path} {cursor : Cursor}

private theorem createParent_empty {fault : Option Fault} (parent : Path)
    (noFault : ∀ made source, fault ≠ some (.createDirAll made source)) :
    createParent fault FileTree.empty parent =
      (FileTree.empty.withDirectories parent.location, .ok ()) := by
  unfold createParent
  split
  · rename_i made source
    exact absurd rfl (noFault made source)
  · rw [FileTree.empty_createDirAll]

/-- The disk after a first save that stops before the temporary file. -/
private theorem persist_stopped_at_create (source : IoError) :
    (persistCursor (some (.create source)) FileTree.empty path cursor).1 =
      FileTree.empty.withDirectories path.parent.location := by
  rw [persistCursor, createParent_empty _ (by simp)]
  rfl

private theorem writeTemporary_empty (fault : Option Fault) (cursor : Cursor) {name : String}
    (named : path.fileName = some name) (noCreate : ∀ source, fault ≠ some (.create source))
    (noWrite : ∀ written source, fault ≠ some (.write written source)) :
    ∃ tree, writeTemporary fault (FileTree.empty.withDirectories path.parent.location)
        (path.withExtension "tmp") cursor = (tree, .ok ()) ∧
      tree.node (path.withExtension "tmp").location =
        some (.file (Text.utf8Bytes cursor)) ∧
      ∀ other, other ≠ (path.withExtension "tmp").location →
        tree.node other =
          (FileTree.empty.withDirectories path.parent.location).node other := by
  have place := Path.withExtension_location named (tmp_ne_up (Path.fileStem name))
  have writable := FileTree.empty_writable path.parent.location
    (Path.fileStem name ++ "." ++ "tmp")
  rw [← place] at writable
  refine ⟨FileTree.withFile _ _ (Text.utf8Bytes cursor) writable, ?_, if_pos rfl,
    fun other different => if_neg different⟩
  unfold writeTemporary
  split
  · rename_i source
    exact absurd rfl (noCreate source)
  · rename_i written source
    exact absurd rfl (noWrite written source)
  · rw [FileTree.write, dif_pos writable]

private theorem persist_empty_tmp (source : IoError) {name : String}
    (named : path.fileName = some name) :
    (persistCursor (some (.rename source)) FileTree.empty path cursor).1.node
      (path.withExtension "tmp").location = some (.file (Text.utf8Bytes cursor)) := by
  obtain ⟨tree, written, isFile, -⟩ := writeTemporary_empty (some (.rename source)) cursor named
    (by simp) (by simp)
  rw [persistCursor, createParent_empty _ (by simp)]
  simp only [written]
  exact isFile

private theorem persist_empty_target {name : String} (named : path.fileName = some name) :
    (persistCursor none FileTree.empty path cursor).1.node path.location =
      some (.file (Text.utf8Bytes cursor)) := by
  obtain ⟨tree, written, isFile, kept⟩ := writeTemporary_empty none cursor named (by simp) (by simp)
  have place := Path.withExtension_location named (tmp_ne_up (Path.fileStem name))
  have fresh := FileTree.empty_writable path.parent.location name
  rw [← Path.location_eq_of_fileName named] at fresh
  have writable : tree.Writable path.location := by
    constructor
    · rw [Path.location_eq_of_fileName named, List.dropLast_concat, kept]
      · exact if_pos (List.prefix_refl _)
      · rw [place]
        simp
    · by_cases same : path.location = (path.withExtension "tmp").location
      · rw [same, isFile]
        simp
      · rw [kept _ same]
        exact fresh.notDirectory
  obtain ⟨final, renamed⟩ := FileTree.rename_isOk isFile writable
  have moved : renameTemporary none tree (path.withExtension "tmp") path = (final, .ok ()) := by
    simp [renameTemporary, renamed]
  have saved : (persistCursor none FileTree.empty path cursor).2 = .ok () := by
    rw [persistCursor, createParent_empty _ (by simp)]
    simp only [written, moved]
  exact persistCursor_ok saved

/-- Where two paths conflict, one save on an empty disk changes what the other
path reads. -/
private theorem conflict_changes {other : Path} (conflict : ¬ Separate path other) :
    readSavedCursor FileTree.empty other = .ok none ∧
      ∃ fault, readSavedCursor (persistCursor fault FileTree.empty path "c").1 other ≠
        .ok none := by
  rw [Separate, not_or, not_and_or] at conflict
  obtain ⟨notRoot, conflict⟩ := conflict
  refine ⟨by rw [readSavedCursor, FileTree.empty_readToString notRoot], ?_⟩
  have ofFile : ∀ {tree : FileTree} {above : Location},
      tree.node above = some (.file (Text.utf8Bytes "c")) → above <+: other.location →
      readSavedCursor tree other ≠ .ok none := by
    intro tree above isFile isAbove
    by_cases here : above = other.location
    · rw [readSavedCursor_of_file (here ▸ isFile)]
      decide
    · rw [readSavedCursor_below_file isFile isAbove here]
      simp
  rcases conflict with onTheWay | conflict
  · have onTheWay := not_not.mp onTheWay
    refine ⟨some (.create (.other "")), ?_⟩
    have isDirectory : (persistCursor (some (.create (.other ""))) FileTree.empty path
        "c").1.node other.location = some .directory := by
      rw [persist_stopped_at_create]
      exact if_pos onTheWay
    rw [readSavedCursor_of_directory isDirectory]
    simp
  · push Not at conflict
    obtain ⟨name, named, conflict⟩ := conflict
    by_cases target : path.location <+: other.location
    · exact ⟨none, ofFile (persist_empty_target named) target⟩
    · exact ⟨some (.rename (.other "")), ofFile (persist_empty_tmp _ named) (conflict target)⟩

end Conflicts

/-- An ack can always be taken, and it is nobody else's history. -/
private theorem step_ack {files : List Path} (state : Shippers) {shipper : Nat} {path : Path}
    (cursor : Cursor) (fault : Option Fault) (listed : files[shipper]? = some path) :
    ∃ next, Shippers.step files state (.ack shipper cursor fault) = some next ∧
      next.tree = (persistCursor fault state.tree path cursor).1 ∧
      ∀ neighbour, neighbour ≠ shipper → next.own neighbour = state.own neighbour := by
  simp only [Shippers.step, listed, Option.bind_eq_bind, Option.bind_some]
  rcases persistCursor fault state.tree path cursor with ⟨tree, failed | done⟩
  · exact ⟨_, rfl, rfl, fun neighbour different => Function.update_of_ne different _ _⟩
  · exact ⟨_, rfl, rfl, fun neighbour different => Function.update_of_ne different _ _⟩

private theorem separated_of_independent {files : List Path} (independent : Independent files) :
    Separated files := by
  intro shipper neighbour path other different listed listedOther
  by_contra conflict
  obtain ⟨before, fault, after⟩ := conflict_changes conflict
  obtain ⟨state, taken, tree, own⟩ := 
    step_ack (Shippers.start files FileTree.empty) "c" fault listed
  have ran : (Shippers.machine files).run (Shippers.start files FileTree.empty)
      [.ack shipper "c" fault] = some state :=
    (Shippers.machine files).run_cons_eq_some.mpr ⟨state, taken, rfl⟩
  have kept := independent.keeps FileTree.empty _ state ran neighbour other listedOther
  rw [tree, own neighbour different.symm] at kept
  have start : (Shippers.start files FileTree.empty).own neighbour =
      readSavedCursor FileTree.empty other := by
    simp [Shippers.start, listedOther]
  exact after (kept.trans (start.trans before))

/-- The shippers of a configuration do not interfere exactly when their cursor
files are separate. -/
theorem cursorFiles_independent_iff (config : Config) :
    Independent (cursorFiles config) ↔ Separated (cursorFiles config) :=
  ⟨separated_of_independent, independent_of_separated⟩

/-! ## Two shippers with the default cursor file -/

/-- Two shippers that leave `cursor-file` out, or the same two once loaded. -/
def twoShippers (cursorFile : Config.PathBuf) : Config where
  instanceConfig := ⟨"myhost"⟩
  metrics := {
    collectors := { entries := [("system", .unix {})] }
    forwarders := { entries := [("vm", .otlphttp { endpoint := "http://localhost:8428" })] } }
  logs := {
    shippers := {
      entries := [
        ("near", {
          source := .journald { cursorFile }
          sink := .loki { endpoint := "http://near:3100" } }),
        ("far", {
          source := .journald { cursorFile }
          sink := .loki { endpoint := "http://far:3100" } })] } }

def defaultShippers : Config :=
  twoShippers Config.defaultJournaldCursorFile

/-- The service's environment, as systemd sets it up. -/
def serviceHost : Config.Host where
  environment := fun name =>
    if name = "STATE_DIRECTORY" then some "/var/lib/ferrometer" else none
  readToString := fun _ => .ok ""
  fromStr := fun _ => .ok defaultShippers
  regexNew := fun _ => .ok ()

def defaultCursorFile : Config.PathBuf := "/var/lib/ferrometer/journal.cursor"

private theorem default_expands :
    Config.expandPath serviceHost.environment "myhost" Config.defaultJournaldCursorFile =
      .ok defaultCursorFile := by
  rw [Config.expandPath, Config.expandPlaceholders,
    Config.expandLoop_placeholder [] "env:STATE_DIRECTORY".toList "/journal.cursor".toList
      rfl rfl]
  show (Config.expandLoop _ _ _ "/var/lib/ferrometer".toList _).map String.ofList = _
  rw [Config.expandLoop_end rfl]
  rfl

/-- The configuration loads, and the second shipper's ack moves the first one's
cursor. -/
theorem defaultCursorFiles_interfere :
    Config.load serviceHost "/etc/ferrometer/config.toml" =
        .ok (twoShippers defaultCursorFile) ∧
      (∃ state, (Shippers.machine (cursorFiles (twoShippers defaultCursorFile))).run
          (Shippers.start (cursorFiles (twoShippers defaultCursorFile)) FileTree.empty)
          [.ack 0 "s=0;i=1" none, .ack 1 "s=0;i=9" none, .restart 0] = some state ∧
        state.own 0 = .ok (some "s=0;i=1") ∧ state.lastAcked 0 = some "s=0;i=9") ∧
      ¬ Independent (cursorFiles (twoShippers defaultCursorFile)) := by
  refine ⟨?_, ⟨_, rfl, rfl, rfl⟩, fun independent => ?_⟩
  · have resolved : Config.resolvePlaceholders serviceHost.environment defaultShippers =
        .ok (twoShippers defaultCursorFile) := by
      simp only [Config.resolvePlaceholders, defaultShippers, twoShippers,
        Config.HashMap.mapValuesM, mapEntries, Config.resolveShipper, Config.resolveSource,
        default_expands]
      rfl
    exact resolved
  · have kept := independent.keeps FileTree.empty
      [.ack 0 "s=0;i=1" none, .ack 1 "s=0;i=9" none] _ rfl 0
      (Path.ofString defaultCursorFile) rfl
    exact absurd kept (by decide)

end Ferrometer.Log
