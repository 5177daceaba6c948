import BankLedger.Command.Rehearsal
import BankLedger.Command.Run
import BankLedger.Proofs.Settings.Documents

/-!
# Configurations on disk

A file that was written holds its content until it is written again: writing another file changes
neither it nor the directories on the way to it.  A directory gets two files, a document and the
schema of documents, which lie at different places whatever path names the directory.
-/

namespace BankLedger.Command

open BankLedger.Settings

namespace FileTree

variable {tree after : FileTree} {place other : List String} {entry : FileEntry}
  {content held : Octets}

/-! ## Files -/

theorem find?_put_self (named : place ≠ []) : (tree.put place entry).find? place = some entry := by
  rw [find?, if_neg (by simpa using named), put, List.lookup_cons_self]

theorem lookup_filter_of_ne {entries : List (List String × FileEntry)} (apart : other ≠ place) :
    (entries.filter fun entry => entry.1 ≠ place).lookup other = entries.lookup other := by
  induction entries with
  | nil => rfl
  | cons entry entries inductionHypothesis =>
      by_cases same : entry.1 = place
      · have differs : (other == entry.1) = false := by
          rw [same]
          exact beq_eq_false_iff_ne.mpr apart
        rw [List.filter_cons_of_neg (by simpa using same), inductionHypothesis, List.lookup_cons,
          differs]
      · rw [List.filter_cons_of_pos (by simpa using same), List.lookup_cons, List.lookup_cons,
          inductionHypothesis]

theorem find?_put_of_ne (apart : other ≠ place) :
    (tree.put place entry).find? other = tree.find? other := by
  have differs : (other == place) = false := beq_eq_false_iff_ne.mpr apart
  have kept : (tree.put place entry).entries.lookup other = tree.entries.lookup other := by
    rw [put, List.lookup_cons, differs]
    exact lookup_filter_of_ne apart
  rw [find?, find?, kept]

/-- A place is in a directory that is there if there are directories all the way to it. -/
theorem checkParent_eq_ok_iff : tree.checkParent place = .ok () ↔
    ∀ count < place.length, tree.find? (place.take count) = some .directory := by
  have all : ((List.range place.length).map fun count => tree.find? (place.take count)).all
      (· = some .directory) = true ↔
      ∀ count < place.length, tree.find? (place.take count) = some .directory := by
    simp
  rw [← all, checkParent]
  split
  next there => exact ⟨fun _ => there, fun _ => rfl⟩
  next missing =>
    refine ⟨?_, fun there => absurd there missing⟩
    intro fine
    split at fine <;> cases fine

theorem write_eq_ok (written : tree.write place content = .ok after) :
    tree.checkParent place = .ok () ∧ tree.find? place ≠ some .directory ∧
      after = tree.put place (.file content) := by
  rw [write] at written
  cases checked : tree.checkParent place with
  | error fault =>
      rw [checked] at written
      cases written
  | ok _ =>
      rw [checked] at written
      dsimp only [bind, Except.bind] at written
      split at written
      next => cases written
      next file =>
        cases written
        exact ⟨rfl, file, rfl⟩

theorem read_eq_ok_iff : tree.read place = .ok content ↔
    tree.checkParent place = .ok () ∧ tree.find? place = some (.file content) := by
  rw [read]
  cases tree.checkParent place with
  | error fault => exact ⟨nofun, nofun⟩
  | ok _ =>
      dsimp only [bind, Except.bind]
      cases tree.find? place with
      | none => exact ⟨nofun, nofun⟩
      | some entry =>
          cases entry with
          | directory => exact ⟨nofun, nofun⟩
          | file held =>
              simp only [Except.ok.injEq, Option.some.injEq, FileEntry.file.injEq, true_and]

/-- Writing a file keeps the directories on the way to any place. -/
theorem checkParent_of_write (written : tree.write place content = .ok after)
    (there : tree.checkParent other = .ok ()) : after.checkParent other = .ok () := by
  obtain ⟨_, noDirectory, rfl⟩ := write_eq_ok written
  rw [checkParent_eq_ok_iff] at there ⊢
  intro count inside
  have parent := there count inside
  rw [find?_put_of_ne, parent]
  intro same
  rw [same] at parent
  exact noDirectory parent

theorem read_of_write (written : tree.write place content = .ok after) :
    after.read place = .ok content := by
  obtain ⟨there, noDirectory, rfl⟩ := write_eq_ok written
  have named : place ≠ [] := by
    rintro rfl
    exact noDirectory rfl
  exact read_eq_ok_iff.mpr ⟨checkParent_of_write written there, find?_put_self named⟩

/-- Writing a file leaves every other file as it is. -/
theorem read_of_write_of_ne (written : tree.write place content = .ok after) (apart : other ≠ place)
    (read : tree.read other = .ok held) : after.read other = .ok held := by
  obtain ⟨there, found⟩ := read_eq_ok_iff.mp read
  have kept := checkParent_of_write written there
  obtain ⟨_, _, rfl⟩ := write_eq_ok written
  exact read_eq_ok_iff.mpr ⟨kept, by rw [find?_put_of_ne apart, found]⟩

/-! ## Paths -/

/-- A name of a file, without a slash. -/
def IsName (name : String) : Prop :=
  '/' ∉ name.toList ∧ name ≠ "" ∧ name ≠ "."

instance (name : String) : Decidable (IsName name) :=
  inferInstanceAs (Decidable (_ ∧ _ ∧ _))

theorem parts_append_slash (path name : String) :
    parts (path ++ "/" ++ name) = parts path ++ parts name := by
  have slash : (path ++ "/" ++ name).toList = path.toList ++ '/' :: name.toList := by
    rw [String.toList_append, String.toList_append, List.append_assoc]
    rfl
  rw [parts, slash, List.splitOn_append_cons_self, List.map_append, List.filter_append, parts,
    parts]

theorem parts_name {name : String} (solid : IsName name) : parts name = [name] := by
  rw [parts, List.splitOn_eq_singleton solid.1, List.map_singleton, String.ofList_toList,
    List.filter_cons_of_pos (by simpa using solid.2)]
  rfl

/-- The path of a file in a directory leads through the directory to the name of the file. -/
theorem parts_pathIn (directory : String) {name : String} (solid : IsName name) :
    parts (pathIn directory name) = parts directory ++ [name] := by
  rw [pathIn]
  split
  next closed =>
    obtain ⟨front, text⟩ := String.Slice.endsWith_string_iff.mp closed
    rw [String.copy_toSlice] at text
    have whole : directory = String.ofList front ++ "/" := by
      rw [← String.toList_inj, String.toList_append, String.toList_ofList, text]
    have none : parts "" = [] := rfl
    have outer := parts_append_slash (String.ofList front) ""
    rw [String.append_empty, none, List.append_nil] at outer
    rw [whole, parts_append_slash, parts_name solid, outer]
  next => rw [parts_append_slash, parts_name solid]

theorem names_pathIn_ne (home directory : String) {name another : String} (solid : IsName name)
    (other : IsName another) (apart : name ≠ another) :
    names home (pathIn directory name) ≠ names home (pathIn directory another) := by
  rw [names, names, parts_pathIn directory solid, parts_pathIn directory other]
  cases parts directory with
  | nil =>
      simp only [List.nil_append, List.head?_cons, Option.some.injEq]
      grind
  | cons first others =>
      have leads (last : String) : (first :: others ++ [last]).head? = some home ↔ first = home :=
        Option.some_inj
      by_cases start : first = home
      · rw [if_pos ((leads name).mpr start), if_pos ((leads another).mpr start)]
        simpa using apart
      · rw [if_neg (mt (leads name).mp start), if_neg (mt (leads another).mp start)]
        simpa using apart

end FileTree

/-! ## Documents -/

theorem isName_configurationFile : FileTree.IsName configurationFile := by
  decide

theorem isName_schemaFile : FileTree.IsName schemaFile := by
  decide

/-- The system that is a file tree, without other effects. -/
abbrev treeHost (home : String) (environment : Environment) (time : String) :
    Host (StateT FileTree Id) :=
  FileTree.host home environment time

theorem FileTree.act_eq_ok_of_change (act : FileTree → Except FileFault FileTree)
    {tree after : FileTree}
    (changed : (change act : StateT FileTree Id _).run tree = (.ok (), after)) :
    act tree = .ok after := by
  cases done : act tree with
  | ok later =>
      have run : (change act : StateT FileTree Id _).run tree = (.ok (), later) := by
        simp [change, done]
        rfl
      rw [run] at changed
      cases changed
      rfl
  | error fault =>
      have run : (change act : StateT FileTree Id _).run tree = (.error fault.message, tree) := by
        simp [change, done]
        rfl
      rw [run] at changed
      cases changed

/-- An action that goes on only after another one has succeeded. -/
theorem exists_between {first next : StateT FileTree Id (Except String Unit)}
    {tree after : FileTree}
    (done : (first >>= fun answer => match answer with
      | .error reason => pure (.error reason)
      | .ok () => next).run tree = (.ok (), after)) :
    ∃ between, first.run tree = (.ok (), between) ∧ next.run between = (.ok (), after) := by
  rw [StateT.run_bind] at done
  cases ran : first.run tree with
  | mk answer between =>
      rw [ran] at done
      cases answer with
      | error reason => cases done
      | ok _ => exact ⟨between, rfl, done⟩

section

variable {home directory time : String} {environment : Environment} {tree after : FileTree}
  {document : Document}

theorem write_of_writeFile {path text : String}
    (written : ((treeHost home environment time).writeFile path text).run tree = (.ok (), after)) :
    tree.write (FileTree.names home path) (Octets.ofText text) = .ok after :=
  FileTree.act_eq_ok_of_change
    (fun tree => tree.write (FileTree.names home path) (Octets.ofText text)) written

/-- A document that was written is in its file. -/
theorem read_of_writeDocument
    (written : (writeDocument (treeHost home environment time) directory document).run tree =
      (.ok (), after)) :
    after.read (FileTree.names home (pathIn directory configurationFile)) =
      .ok (Octets.ofText document.text) := by
  obtain ⟨made, _, others⟩ := exists_between written
  obtain ⟨between, documentWritten, schemaWritten⟩ := exists_between others
  have held := FileTree.read_of_write (write_of_writeFile documentWritten)
  have apart := FileTree.names_pathIn_ne home directory isName_configurationFile isName_schemaFile
    (by decide)
  exact FileTree.read_of_write_of_ne (write_of_writeFile schemaWritten) apart held

theorem run_readDocument {content : Octets}
    (held : tree.read (FileTree.names home (pathIn directory configurationFile)) = .ok content) :
    (readDocument (treeHost home environment time) directory).run tree =
      (Document.ofFile (pathIn directory configurationFile) (.ok content), tree) := by
  have read : ((treeHost home environment time).readFile
      (pathIn directory configurationFile)).run tree = (.ok content, tree) := by
    change (((tree.read _).mapError FileFault.message, tree) : Except String Octets × FileTree) = _
    rw [held]
    rfl
  rw [readDocument, StateT.run_bind, read]
  rfl

/-- A document of the current version is read back from the file that it was written to, whatever
its settings are, and has the same text again. -/
theorem documents_survive_the_disk (document : Document)
    (current : document.version = Document.currentVersion) :
    (∀ path, ∃ read, Document.ofFile path (.ok (Octets.ofText document.text)) = .ok read ∧
      read = document ∧ read.text = document.text) ∧
    (∀ home environment time directory tree after,
      (writeDocument (treeHost home environment time) directory document).run tree =
        (.ok (), after) →
      (readDocument (treeHost home environment time) directory).run after =
        (.ok document, after)) := by
  have reads (path : String) :
      Document.ofFile path (.ok (Octets.ofText document.text)) = .ok document := by
    rw [Document.ofFile, Octets.toText?_ofText]
    exact Document.ofText_text path document current
  constructor
  · intro path
    exact ⟨document, reads path, rfl, rfl⟩
  · intro home environment time directory tree after written
    rw [run_readDocument (read_of_writeDocument written), reads]

/-- A document whose texts have to be escaped, with numbers at the ends of their ranges. -/
def awkwardDocument : Document where
  version := Document.currentVersion
  vendor := .postgres
  connection := {
    host := .plain "\"\\/\t\x00\x1f\x7f\u2028é𝄞"
    port := none
    database := .variable "\x7b\"variable\": \"DB\"\x7d"
    user := .plain ""
    password := some (.variable "")
    role := none }
  pool := ⟨0, 18446744073709551615, 10, 30000⟩
  ledger := ⟨-9223372036854775808, 9223372036854775807⟩

theorem documents_survive_the_disk_of_awkward :
    awkwardDocument.version = Document.currentVersion ∧
    Document.ofFile "" (.ok (Octets.ofText awkwardDocument.text)) = .ok awkwardDocument ∧
    ∃ after, (writeDocument (treeHost "" .empty "") "out" awkwardDocument).run ⟨[]⟩ =
        (.ok (), after) ∧
      (readDocument (treeHost "" .empty "") "out").run after = (.ok awkwardDocument, after) := by
  have current : awkwardDocument.version = Document.currentVersion := rfl
  obtain ⟨everywhere, onDisk⟩ := documents_survive_the_disk awkwardDocument current
  obtain ⟨read, found, same, _⟩ := everywhere ""
  rw [same] at found
  obtain ⟨⟨answer, after⟩, written⟩ : ∃ result : Except String Unit × FileTree,
      (writeDocument (treeHost "" .empty "") "out" awkwardDocument).run ⟨[]⟩ = result := ⟨_, rfl⟩
  have possible : ((writeDocument (treeHost "" .empty "") "out" awkwardDocument).run
      ⟨[]⟩).1.isOk = true := by decide +kernel
  rw [written] at possible
  cases answer with
  | error reason => exact absurd possible Bool.false_ne_true
  | ok _ => exact ⟨current, found, after, written, onDisk "" .empty "" "out" ⟨[]⟩ after written⟩

end

end BankLedger.Command
