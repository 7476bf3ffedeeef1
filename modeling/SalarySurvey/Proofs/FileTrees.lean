import SalarySurvey.Proofs.Layers

/-!
# Trees of files

Writing a file into a tree changes nothing that was there: whatever a path led to, it leads to
afterwards, if nothing stood where the file is written. The file itself is found by the path that
it was written with, if no other file stands on the way. So settings that are written into the
working folder are the base of a run when no place before it has any.
-/
namespace SalarySurvey

namespace FileTree

variable {tree : FileTree} {path : String} {bytes : List UInt8} {place : Path} {entry : FileEntry}

/-- The end of a walk leads to what is there. -/
theorem walk_nil_eq_ok : tree.walk place [] = .ok entry ↔ tree.lookup? place = some entry := by
  rw [walk]
  cases tree.lookup? place <;> simp

/-- A step from a folder goes where its component leads. -/
theorem walk_cons {name : String} {next rest : Path} (here : tree.lookup? place = some .folder)
    (leads : place.next name = .ok next) : tree.walk place (name :: rest) = tree.walk next rest := by
  rw [walk, here, leads]
  rfl

/-- A walk goes on step by step, each from a folder. -/
theorem walk_cons_eq_ok {name : String} {rest : Path} : tree.walk place (name :: rest) = .ok entry ↔
    tree.lookup? place = some .folder ∧
      ∃ next, place.next name = .ok next ∧ tree.walk next rest = .ok entry := by
  rw [walk]
  cases tree.lookup? place with
  | none => simp
  | some known =>
    cases known with
    | file _ => simp
    | folder => cases place.next name <;> simp [Except.bind]

/-- A path that can be walked. -/
structure IsPath (path : String) : Prop where
  /-- It has no NUL character. -/
  noNul : '\x00' ∉ path.toList
  /-- It has a character. -/
  filled : path ≠ ""
  /-- It has fewer than 4096 bytes. -/
  short : path.utf8ByteSize < 4096

/-- A path leads to what a walk along its components leads to. -/
theorem find_eq_ok : tree.find path = .ok entry ↔ IsPath path ∧
    tree.walk (if path.toList.head? = some '/' then [] else tree.working) (Path.ofText path) =
      .ok entry := by
  constructor
  · intro found
    unfold find at found
    split at found
    · contradiction
    · next noNul =>
      split at found
      · contradiction
      · next filled =>
        split at found
        · contradiction
        · next short => exact ⟨⟨by simpa using noNul, filled, Nat.not_le.mp short⟩, found⟩
  · rintro ⟨⟨noNul, filled, short⟩, found⟩
    rw [find, if_neg (by simpa using noNul), if_neg filled, if_neg (Nat.not_le.mpr short)]
    exact found

/-- The working folder stays what it is. -/
@[simp]
theorem working_withFile : (tree.withFile path bytes).working = tree.working := rfl

section Kept

/-- Folders stay folders. -/
theorem isFolder_withFile (folder : tree.isFolder place = true) :
    (tree.withFile path bytes).isFolder place = true := by
  simp only [isFolder, withFile, List.map_append, List.any_append, List.any_cons,
    Bool.or_eq_true] at folder ⊢
  rcases folder with empty | (working | folders) | files
  · exact .inl empty
  · exact .inr (.inl (.inl working))
  · exact .inr (.inl (.inr folders))
  · exact .inr (.inr (.inl files))

/-- What is at a path stays there. -/
theorem lookup?_withFile (free : tree.lookup? (tree.below path) = none)
    (found : tree.lookup? place = some entry) :
    (tree.withFile path bytes).lookup? place = some entry := by
  have other : (tree.below path == place) = false := by
    rw [beq_eq_false_iff_ne]
    rintro rfl
    rw [free] at found
    contradiction
  have search : (tree.withFile path bytes).files.find? (·.1 == place) =
      tree.files.find? (·.1 == place) := by
    simp [withFile, List.find?_append, other]
  rw [lookup?] at found ⊢
  rw [search]
  cases known : tree.files.find? (·.1 == place) with
  | some file =>
    rw [known] at found
    exact found
  | none =>
    rw [known] at found
    dsimp only at found ⊢
    split at found
    · next folder => rw [if_pos (isFolder_withFile folder), found]
    · contradiction

/-- What a walk leads to, it leads to afterwards. -/
theorem walk_withFile (free : tree.lookup? (tree.below path) = none) {rest : Path}
    (found : tree.walk place rest = .ok entry) :
    (tree.withFile path bytes).walk place rest = .ok entry := by
  induction rest generalizing place with
  | nil => exact walk_nil_eq_ok.mpr (lookup?_withFile free (walk_nil_eq_ok.mp found))
  | cons name rest ih =>
    obtain ⟨here, next, leads, found⟩ := walk_cons_eq_ok.mp found
    exact walk_cons_eq_ok.mpr ⟨lookup?_withFile free here, next, leads, ih found⟩

/-- What a path leads to, it leads to afterwards. -/
theorem find_withFile_of_ok (free : tree.lookup? (tree.below path) = none) {other : String}
    (found : tree.find other = .ok entry) :
    (tree.withFile path bytes).find other = .ok entry := by
  rw [find_eq_ok] at found ⊢
  exact ⟨found.1, walk_withFile free found.2⟩

end Kept

/-- No file stands at a path from the root or on the way to it. -/
def Clear (tree : FileTree) (place : Path) : Prop :=
  ∀ part, part <+: place → ∀ file ∈ tree.files, file.1 ≠ part

/-- A path that leads down from the working folder to a file. -/
structure LeadsDown (path : String) : Prop extends IsPath path where
  /-- It does not begin at the root. -/
  relative : path.toList.head? ≠ some '/'
  /-- Its names neither go up nor are too long. -/
  down : ∀ name ∈ (Path.ofText path).names, name ≠ ".." ∧ name.utf8ByteSize ≤ 255
  /-- It ends with a name. -/
  last : ∃ front name, Path.ofText path = front ++ [name] ∧ name ≠ "" ∧ name ≠ "."

section Written

variable {name : String} {front rest : Path}

/-- A component that is no name is left out of the names. -/
theorem names_cons_of_still (still : name = "" ∨ name = ".") :
    Path.names (name :: front) = Path.names front := by
  rcases still with rfl | rfl <;> simp [Path.names]

theorem names_cons_of_name (moves : ¬(name = "" ∨ name = ".")) :
    Path.names (name :: front) = name :: Path.names front := by
  rw [not_or] at moves
  simp [Path.names, moves]

/-- A name goes one folder down. -/
theorem next_of_name (moves : ¬(name = "" ∨ name = ".")) (down : name ≠ ".." ∧
    name.utf8ByteSize ≤ 255) : place.next name = .ok (place ++ [name]) := by
  rw [Path.next, if_neg moves, if_neg down.1, if_neg (Nat.not_lt.mpr down.2)]

/-- Names are walked down along folders. -/
theorem walk_append (down : ∀ name ∈ Path.names front, name ≠ ".." ∧ name.utf8ByteSize ≤ 255)
    (folders : ∀ part, part <+: Path.names front → tree.lookup? (place ++ part) = some .folder) :
    tree.walk place (front ++ rest) = tree.walk (place ++ Path.names front) rest := by
  induction front generalizing place with
  | nil => rw [List.nil_append, Path.names, List.filter_nil, List.append_nil]
  | cons name front ih =>
    have here : tree.lookup? place = some .folder := by
      simpa using folders [] List.nil_prefix
    rw [List.cons_append]
    by_cases still : name = "" ∨ name = "."
    · rw [names_cons_of_still still] at down folders ⊢
      rw [walk_cons here (if_pos still)]
      exact ih down folders
    · rw [names_cons_of_name still] at down folders ⊢
      rw [List.forall_mem_cons] at down
      have deeper : ∀ part, part <+: Path.names front →
          tree.lookup? (place ++ [name] ++ part) = some .folder := by
        intro part begins
        have found := folders (name :: part) (List.cons_prefix_cons.mpr ⟨rfl, begins⟩)
        rwa [List.append_assoc]
      rw [walk_cons here (next_of_name still down.1), ih down.2 deeper, List.append_assoc]
      rfl

/-- The written file is where it was written. -/
theorem lookup?_below (clear : tree.Clear (tree.below path)) :
    (tree.withFile path bytes).lookup? (tree.below path) = some (.file bytes) := by
  have none_before : tree.files.find? (·.1 == tree.below path) = none := by
    rw [List.find?_eq_none]
    intro file listed
    simpa using clear _ (List.prefix_refl _) file listed
  simp [lookup?, withFile, List.find?_append, none_before]

/-- On the way to it there are folders. -/
theorem lookup?_way (clear : tree.Clear (tree.below path)) (begins : place <+: tree.below path)
    (shorter : place ≠ tree.below path) :
    (tree.withFile path bytes).lookup? place = some .folder := by
  have search : (tree.withFile path bytes).files.find? (·.1 == place) = none := by
    rw [List.find?_eq_none]
    intro file listed
    rcases List.mem_append.mp listed with before | written
    · simpa using clear _ begins file before
    · rw [List.mem_singleton.mp written]
      simpa using shorter.symm
  have folder : (tree.withFile path bytes).isFolder place = true := by
    simp [isFolder, withFile, begins]
  rw [lookup?, search, if_pos folder]

/-- The written file is found by its path. -/
theorem find_withFile (leads : LeadsDown path) (clear : tree.Clear (tree.below path)) :
    (tree.withFile path bytes).find path = .ok (.file bytes) := by
  obtain ⟨front, name, split, filled, noDot⟩ := leads.last
  have moves : ¬(name = "" ∨ name = ".") := not_or.mpr ⟨filled, noDot⟩
  have names : (Path.ofText path).names = Path.names front ++ [name] := by
    rw [split, Path.names, List.filter_append]
    exact congrArg _ (names_cons_of_name moves)
  have down := leads.down
  rw [names, List.forall_mem_append, List.forall_mem_singleton] at down
  have place_eq : tree.below path = tree.working ++ Path.names front ++ [name] := by
    rw [below, names, List.append_assoc]
  have way (part : Path) (begins : part <+: Path.names front) :
      (tree.withFile path bytes).lookup? (tree.working ++ part) = some .folder := by
    have prefixes : tree.working ++ part <+: tree.working ++ Path.names front :=
      (List.prefix_append_right_inj _).mpr begins
    apply lookup?_way clear
    · rw [place_eq]
      exact prefixes.trans (List.prefix_append _ _)
    · intro same
      have short := prefixes.length_le
      rw [same, place_eq, List.length_append, List.length_singleton] at short
      omega
  rw [find_eq_ok]
  refine ⟨leads.toIsPath, ?_⟩
  rw [if_neg leads.relative, working_withFile, split, walk_append down.1 way]
  have written : (tree.withFile path bytes).lookup? (tree.below path) = some (.file bytes) :=
    lookup?_below clear
  rw [place_eq] at written
  exact walk_cons_eq_ok.mpr ⟨way _ (List.prefix_refl _), _, next_of_name moves down.2,
    walk_nil_eq_ok.mpr written⟩

end Written

end FileTree

namespace Command

variable {surroundings : Surroundings Id} {tree : FileTree} {text : String} {settings : Settings}

/-- Settings in a file that is written into the working folder are the base of a run, if no place
that is looked at before has any. -/
theorem base_of_withFile
    (files : surroundings.openFile =
      (tree.withFile "./config.toml" (Text.Utf8.encode text.toList)).find)
    (clear : tree.Clear (tree.working ++ ["config.toml"]))
    (understood : Settings.ofText? text = some settings)
    (silent : ∀ path ∈ Settings.candidatePaths surroundings.userFolder, path ≠ "./config.toml" →
      ∀ other, ¬surroundings.Gives path other) :
    Base surroundings none settings := by
  have leads : FileTree.LeadsDown "./config.toml" := by
    refine ⟨⟨by decide, by decide, by decide⟩, by decide, by decide, ["."], "config.toml", ?_⟩
    decide
  have gives : surroundings.Gives "./config.toml" settings := by
    refine ⟨text, ?_, understood⟩
    rw [files]
    exact FileTree.find_withFile leads clear
  have system : ∀ other, ¬surroundings.Gives "/etc/compensation-api/config.toml" other :=
    silent _ (by simp [Settings.candidatePaths]) (by decide)
  cases known : surroundings.userFolder with
  | none => exact .noUser known (.later system (.here gives))
  | some folder =>
    have user : ∀ other, ¬surroundings.Gives (folder ++ "/compensation-api/config.toml") other := by
      refine silent _ (by simp [Settings.candidatePaths, known]) fun same => ?_
      have longer := congrArg String.length same
      rw [String.length_append] at longer
      have long : "/compensation-api/config.toml".length = 29 := by decide
      have short : "./config.toml".length = 13 := by decide
      omega
    exact .user known (.later user (.later system (.here gives)))

end Command

end SalarySurvey
