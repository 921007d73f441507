import ChatBlocks.FileTree

/-!
# A file that was written is read back

Writing puts one entry at a place that is no directory, and every place on the
way there is one. So the way is found again afterwards, and it leads to the
bytes that were written. Whether a file can be written does not depend on them.
-/

namespace ChatBlocks.SavedFiles

open FileTree

theorem entry_put_same (tree : FileTree) {place : List String} (below : place ≠ [])
    (entry : TreeEntry) : FileTree.entry? (tree.put place entry) place = some entry := by
  have others : (tree.entries.filter fun other => other.1 != place).find?
      (fun entry => entry.1 == place) = none := by
    simp
  cases place with
  | nil => exact absurd rfl below
  | cons => simp [ entry?, put, others]

theorem entry_put_other (tree : FileTree) {place other : List String} (differs : other ≠ place)
    (entry : TreeEntry) : FileTree.entry? (tree.put place entry) other = tree.entry? other := by
  have kept : (tree.entries.filter fun entry => entry.1 != place).find?
      (fun entry => entry.1 == other) = tree.entries.find? fun entry => entry.1 == other := by
    rw [List.find?_filter]
    congr 1
    funext entry
    by_cases same : entry.1 = other <;> simp [same, differs]
  cases other with
  | nil => rfl
  | cons => simp [ entry?, put, List.find?_append, kept, Ne.symm differs]

def nextPlace (place : List String) (part : String) : List String :=
  if part = "." then place else if part = ".." then place.dropLast else place ++ [part]

theorem follow_cons {tree : FileTree} {place : List String}
    (directory : tree.entry? place = some .directory) (part : String) (rest : List String) :
    tree.follow place (part :: rest) = tree.follow (nextPlace place part) rest := by
  simp only [follow, directory, nextPlace]
  split
  · rfl
  split <;> rfl

theorem directory_of_follow {tree : FileTree} {place reached : List String} {part : String}
    {rest : List String} (follows : tree.follow place (part :: rest) = .ok reached) :
    tree.entry? place = some .directory := by
  rw [follow] at follows
  split at follows
  · cases follows
  · cases follows
  · assumption

/-- A way leads through directories only, so it does not pass the place of
anything else. -/
theorem follow_put {tree : FileTree} {place : List String}
    (noDirectory : tree.entry? place ≠ some .directory) (entry : TreeEntry)
    {reached : List String} (parts : List String) :
    ∀ start, tree.follow start parts = .ok reached →
      (tree.put place entry).follow start parts = .ok reached := by
  induction parts with
  | nil => exact fun _ follows => follows
  | cons part rest ih =>
      intro start follows
      have directory := directory_of_follow follows
      have differs : start ≠ place := by
        rintro rfl
        exact noDirectory directory
      have directoryStill := (entry_put_other tree differs entry).trans directory
      rw [follow_cons directory] at follows
      rw [follow_cons directoryStill]
      exact ih (nextPlace start part) follows

theorem follow_append {tree : FileTree} {reached : List String} (rest parts : List String) :
    ∀ start, tree.follow start parts = .ok reached →
      tree.follow start (parts ++ rest) = tree.follow reached rest := by
  induction parts with
  | nil =>
      intro start follows
      cases follows
      rfl
  | cons part more ih =>
      intro start follows
      have directory := directory_of_follow follows
      rw [follow_cons directory] at follows
      rw [List.cons_append, follow_cons directory]
      exact ih (nextPlace start part) follows

theorem write_file_cases {tree saved : FileTree} {path : String} {content : ByteArray}
    (written : tree.writeFile path content = .ok saved) :
    ∃ front directory name, partsOfPath path = front ++ [name] ∧
      tree.follow (tree.startOf path) front = .ok directory ∧
      tree.entry? directory = some .directory ∧ name ≠ "." ∧ name ≠ ".." ∧
      tree.entry? (directory ++ [name]) ≠ some .directory ∧
      saved = tree.put (directory ++ [name]) (.file content) := by
  simp only [writeFile] at written
  split at written
  · split at written <;> cases written
  rename_i name last
  obtain ⟨front, parts⟩ := List.getLast?_eq_some_iff.mp last
  rw [parts, List.dropLast_concat] at written
  cases follows : tree.follow (tree.startOf path) front with
  | error => simp [follows, bind, Except.bind] at written
  | ok directory =>
      simp only [follows, bind, Except.bind] at written
      split at written
      · cases written
      · cases written
      rename_i isDirectory
      split at written
      · cases written
      rename_i named
      rw [not_or] at named
      split at written
      · cases written
      rename_i free
      cases written
      exact ⟨front, directory, name, parts, follows, isDirectory, named.1, named.2, free, rfl⟩

theorem files_of_write {tree saved : FileTree} {path : String} {content : ByteArray}
    (written : tree.writeFile path content = .ok saved) :
    saved.files path = some (.ok content) := by
  obtain ⟨front, directory, name, parts, follows, isDirectory, notDot, notUp, free, rfl⟩ :=
    write_file_cases written
  have someText : path.isEmpty = false := by
    rw [String.isEmpty_eq_false_iff]
    rintro rfl
    rw [show partsOfPath "" = [] by rfl] at parts
    exact absurd parts (by simp)
  -- The directory is found as before, and its last step leads to the new entry.
  have apart : directory ≠ directory ++ [name] := by simp
  have directoryStill := (entry_put_other tree apart (.file content)).trans isDirectory
  have way : (tree.put (directory ++ [name]) (.file content)).follow (tree.startOf path)
      (partsOfPath path) = .ok (directory ++ [name]) := by
    rw [parts, follow_append [name] _ _ (follow_put free _ _ _ follows),
      follow_cons directoryStill, nextPlace, if_neg notDot, if_neg notUp]
    rfl
  have found : (tree.put (directory ++ [name]) (.file content)).locate path =
      .ok (directory ++ [name]) := by
    rw [locate, if_neg (by simp [someText])]
    exact way
  have below : directory ++ [name] ≠ [] := by simp
  have entry := entry_put_same tree below (.file content)
  simp only [files, found, entry]

/-- The same path is refused whatever is to be written. -/
theorem write_refusal {tree : FileTree} {path : String} {content : ByteArray}
    {refusal : SystemError} (refused : tree.writeFile path content = .error refusal)
    (other : ByteArray) : tree.writeFile path other = .error refusal := by
  simp only [writeFile, bind, Except.bind] at refused ⊢
  cases last : (partsOfPath path).getLast? with
  | none => simpa only [last] using refused
  | some name =>
      cases follows : tree.follow (tree.startOf path) (partsOfPath path).dropLast with
      | error => simpa only [last, follows] using refused
      | ok directory =>
          simp only [last, follows] at refused ⊢
          split at refused
          · exact refused
          · exact refused
          by_cases reserved : name = "." ∨ name = ".."
          · rw [if_pos reserved] at refused ⊢
            exact refused
          rw [if_neg reserved] at refused ⊢
          split at refused
          · exact refused
          · cases refused

theorem files_of_save {tree saved : FileTree} {path : String} {content : ByteArray}
    (written : tree.saveFile path content = .ok saved) :
    saved.files path = some (.ok content) := by
  simp only [saveFile] at written
  cases made : tree.makeDirectories (tree.startOf path)
      ((partsOfPath path).filter (· != ".")).dropLast with
  | error => simp [made, bind, Except.bind] at written
  | ok prepared =>
      simp only [made, bind, Except.bind] at written
      exact files_of_write written

theorem save_refusal {tree : FileTree} {path : String} {content : ByteArray}
    {refusal : SystemError} (refused : tree.saveFile path content = .error refusal)
    (other : ByteArray) : tree.saveFile path other = .error refusal := by
  simp only [saveFile] at refused ⊢
  cases made : tree.makeDirectories (tree.startOf path)
      ((partsOfPath path).filter (· != ".")).dropLast with
  | error => simpa [made, bind, Except.bind] using refused
  | ok prepared =>
      simp only [made, bind, Except.bind] at refused ⊢
      exact write_refusal refused other

end ChatBlocks.SavedFiles
