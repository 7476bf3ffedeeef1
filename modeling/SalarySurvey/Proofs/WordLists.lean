import SalarySurvey.Proofs.Faults
import SalarySurvey.Proofs.Fields
import SalarySurvey.Proofs.Keys
import Mathlib.Data.List.Forall2
import Mathlib.Data.List.Nodup

/-!
# Word lists

The words of a text are its pieces between commas, each without the blanks at its ends and each in
the place where it occurs first. Here this is said by relations that do not cut, trim or drop
anything, and they leave no choice: a text has one list of words. The words can be joined by commas
and are read back. They are columns when each piece is a canonical name, and any columns can be
named this way, however the names are padded and whichever of them are named again.
-/
namespace SalarySurvey

namespace Text

/-- What is left of a text without the blanks at its ends. -/
structure Trims (text word : String) : Prop where
  /-- All that stands in front of it and behind it is blank. -/
  between : ∃ front back : List Char, (∀ c ∈ front, isBlank c = true) ∧
    (∀ c ∈ back, isBlank c = true) ∧ text.toList = front ++ word.toList ++ back
  /-- It does not begin with a blank. -/
  first : ∀ c ∈ word.toList.head?, isBlank c = false
  /-- It does not end with a blank. -/
  last : ∀ c ∈ word.toList.getLast?, isBlank c = false

/-- The pieces of a text between the occurrences of a separator. -/
structure Splits (separator : Char) (text : String) (found : List String) : Prop where
  /-- There is at least one. -/
  filled : found ≠ []
  /-- None has the separator in it. -/
  plain : ∀ piece ∈ found, separator ∉ piece.toList
  /-- With the separator between them they are the text. -/
  joined : (String.singleton separator).intercalate found = text

section Trimming

variable {text word : String}

/-- Trimming keeps what has no blank at its ends. -/
theorem trimChars_eq_self {chars : List Char} (first : ∀ c ∈ chars.head?, isBlank c = false)
    (last : ∀ c ∈ chars.getLast?, isBlank c = false) : trimChars chars = chars := by
  cases chars with
  | nil => rfl
  | cons c rest =>
    have whole := List.dropLast_concat_getLast (List.cons_ne_nil c rest)
    have solid : Solid (c :: rest) :=
      ⟨⟨c, rest, rfl, first c rfl⟩, _, _, whole.symm, last _ (List.getLast?_eq_some_getLast _)⟩
    exact solid.trimChars_eq

/-- Only trimming gives what is left without the blanks. -/
theorem Trims.eq_trim (trims : Trims text word) : word = trim text := by
  obtain ⟨front, back, frontBlank, backBlank, split⟩ := trims.between
  rw [trim, split, trimChars_blanks frontBlank backBlank, trimChars_eq_self trims.first trims.last,
    String.ofList_toList]

/-- Blanks at the front of a text and what they leave. -/
theorem trimStart_split (chars : List Char) :
    ∃ front, (∀ c ∈ front, isBlank c = true) ∧ chars = front ++ trimStart chars ∧
      ∀ c ∈ (trimStart chars).head?, isBlank c = false := by
  refine ⟨chars.takeWhile isBlank, fun c listed => List.mem_takeWhile_imp listed,
    List.takeWhile_append_dropWhile.symm, ?_⟩
  intro c first
  have stopped := List.head?_dropWhile_not isBlank chars
  rw [trimStart] at first
  rw [Option.mem_def.mp first] at stopped
  simpa using stopped

/-- Blanks at the end of a text and what they leave. -/
theorem trimEnd_split (chars : List Char) :
    ∃ back, (∀ c ∈ back, isBlank c = true) ∧ chars = trimEnd chars ++ back ∧
      ∀ c ∈ (trimEnd chars).getLast?, isBlank c = false := by
  obtain ⟨front, blank, split, first⟩ := trimStart_split chars.reverse
  refine ⟨front.reverse, fun c listed => blank c (List.mem_reverse.mp listed), ?_, ?_⟩
  · have turned := congrArg List.reverse split
    rwa [List.reverse_reverse, List.reverse_append] at turned
  · rwa [trimEnd, List.getLast?_reverse]

/-- Trimming leaves what has no blank at its ends. -/
theorem trims_trim (text : String) : Trims text (trim text) := by
  obtain ⟨front, frontBlank, split, first⟩ := trimStart_split text.toList
  obtain ⟨back, backBlank, rest, last⟩ := trimEnd_split (trimStart text.toList)
  have word : (trim text).toList = trimEnd (trimStart text.toList) := String.toList_ofList
  refine ⟨⟨front, back, frontBlank, backBlank, ?_⟩, ?_, by rwa [word]⟩
  · rw [word, List.append_assoc, ← rest, ← split]
  · -- The first character of the text is that of the trimmed text, unless nothing is left.
    rw [word]
    intro c found
    apply first c
    rw [rest, List.head?_append, Option.mem_def.mp found]
    rfl

/-- What trimming leaves stays as it is. -/
theorem Trims.trim_eq_self (trims : Trims text word) : trim word = word := by
  rw [trim, trimChars_eq_self trims.first trims.last, String.ofList_toList]

/-- Trimming adds no character. -/
theorem Trims.mem (trims : Trims text word) {c : Char} (listed : c ∈ word.toList) :
    c ∈ text.toList := by
  obtain ⟨front, back, -, -, split⟩ := trims.between
  rw [split]
  exact List.mem_append_left _ (List.mem_append_right _ listed)

/-- A character that is not blank and not in the word was not there before. -/
theorem Trims.not_mem (trims : Trims text word) {c : Char} (solid : isBlank c = false)
    (absent : c ∉ word.toList) : c ∉ text.toList := by
  obtain ⟨front, back, frontBlank, backBlank, split⟩ := trims.between
  rw [split, List.mem_append, List.mem_append]
  rintro ((blank | inside) | blank)
  · simp [frontBlank c blank] at solid
  · exact absent inside
  · simp [backBlank c blank] at solid

end Trimming

section Splitting

variable {separator : Char} {text : String} {found : List String}

/-- No piece of a list has what the list is split at. -/
theorem not_mem_of_mem_splitOn {α : Type} [DecidableEq α] {mark : α} {values piece : List α}
    (listed : piece ∈ values.splitOn mark) : mark ∉ piece := by
  induction values generalizing piece with
  | nil =>
    rw [List.splitOn_nil, List.mem_singleton] at listed
    simp [listed]
  | cons value values ih =>
    rw [List.splitOn_cons_eq_if_modifyHead] at listed
    split at listed
    · rcases List.mem_cons.mp listed with rfl | behind
      · exact List.not_mem_nil
      · exact ih behind
    · next other =>
      obtain ⟨first, rest, split⟩ := List.exists_cons_of_ne_nil (List.splitOn_ne_nil mark values)
      rw [split] at listed ih
      rcases List.mem_cons.mp listed with rfl | behind
      · rw [List.mem_cons, not_or]
        exact ⟨fun same => other (by simp [same]), ih List.mem_cons_self⟩
      · exact ih (List.mem_cons_of_mem _ behind)

/-- The pieces of a text are what it splits into. -/
theorem splits_pieces (separator : Char) (text : String) :
    Splits separator text (pieces separator text) := by
  refine ⟨?_, ?_, ?_⟩
  · simp [pieces]
  · intro piece listed
    obtain ⟨chars, inside, rfl⟩ := List.mem_map.mp listed
    rw [String.toList_ofList]
    exact not_mem_of_mem_splitOn inside
  · apply String.toList_injective
    rw [String.toList_intercalate, pieces, List.map_map]
    have kept : String.toList ∘ String.ofList = id := funext fun _ => String.toList_ofList
    rw [kept, List.map_id, String.toList_singleton]
    exact List.intercalate_splitOn separator

/-- A text splits into its pieces only. -/
theorem Splits.eq_pieces (splits : Splits separator text found) :
    found = pieces separator text := by
  obtain ⟨filled, plain, rfl⟩ := splits
  have cut : ([separator].intercalate (found.map String.toList)).splitOn separator =
      found.map String.toList := by
    apply List.splitOn_intercalate
    · intro chars listed
      obtain ⟨piece, inside, rfl⟩ := List.mem_map.mp listed
      exact plain piece inside
    · simpa using filled
  have kept : String.ofList ∘ String.toList = id := funext fun _ => String.ofList_toList
  rw [pieces, String.toList_intercalate, String.toList_singleton, cut, List.map_map, kept,
    List.map_id]

end Splitting

end Text

namespace Query

section Occurrences

variable {α : Type} {all kept : List α} {a : α}

/-- The first occurrences in a list. -/
inductive FirstOccurrences : List α → List α → Prop where
  /-- An empty list has none. -/
  | nil : FirstOccurrences [] []
  /-- What did not occur before is kept. -/
  | first {all kept : List α} {a : α} (before : FirstOccurrences all kept) (new : a ∉ all) :
    FirstOccurrences (all ++ [a]) (kept ++ [a])
  /-- What occurred before is dropped. -/
  | again {all kept : List α} {a : α} (before : FirstOccurrences all kept) (known : a ∈ all) :
    FirstOccurrences (all ++ [a]) kept

/-- What tells the members apart keeps the first occurrences. -/
theorem FirstOccurrences.map {β : Type} {change : α → β} (injective : Function.Injective change)
    (occurrences : FirstOccurrences all kept) :
    FirstOccurrences (all.map change) (kept.map change) := by
  have mapped {a : α} {all : List α} : change a ∈ all.map change ↔ a ∈ all :=
    List.mem_map_of_injective injective
  induction occurrences with
  | nil => exact .nil
  | first _ new ih =>
    rw [List.map_append, List.map_append, List.map_singleton]
    exact ih.first (mt mapped.mp new)
  | again _ known ih =>
    rw [List.map_append, List.map_singleton]
    exact ih.again (mapped.mpr known)

/-- A list without repetition is kept. -/
theorem firstOccurrences_self (distinct : all.Nodup) : FirstOccurrences all all := by
  induction all using List.reverseRecOn with
  | nil => exact .nil
  | append_singleton all a ih =>
    rw [List.nodup_append] at distinct
    exact (ih distinct.1).first fun known =>
      distinct.2.2 a known a (List.mem_singleton_self a) rfl

variable [DecidableEq α]

/-- Dropping repeats keeps the first occurrences. -/
theorem firstOccurrences_eraseDups (all : List α) : FirstOccurrences all all.eraseDups := by
  induction all using List.reverseRecOn with
  | nil => exact .nil
  | append_singleton all a ih =>
    rw [List.eraseDups_append]
    by_cases known : a ∈ all
    · simpa [List.removeAll, known] using ih.again known
    · simpa [List.removeAll, known, List.eraseDups_cons] using ih.first known

/-- Nothing else keeps them. -/
theorem FirstOccurrences.eq_eraseDups (occurrences : FirstOccurrences all kept) :
    kept = all.eraseDups := by
  induction occurrences with
  | nil => rfl
  | first _ new ih => simp [ih, List.eraseDups_append, List.removeAll, new, List.eraseDups_cons]
  | again _ known ih => simp [ih, List.eraseDups_append, List.removeAll, known]

/-- Whatever occurs is kept, and nothing else. -/
theorem FirstOccurrences.mem_iff (occurrences : FirstOccurrences all kept) :
    a ∈ kept ↔ a ∈ all := by
  rw [occurrences.eq_eraseDups, List.mem_eraseDups]

/-- Nothing is kept twice, and what is kept stands in the order in which it occurs first. -/
theorem FirstOccurrences.ordered (occurrences : FirstOccurrences all kept) :
    kept.Pairwise fun a b => all.idxOf a < all.idxOf b := by
  induction occurrences with
  | nil => exact .nil
  | @first all kept a before new ih =>
    rw [List.pairwise_append]
    refine ⟨ih.imp_of_mem ?_, List.pairwise_singleton _ _, ?_⟩
    · intro b c left right earlier
      rwa [List.idxOf_append_of_mem (before.mem_iff.mp left),
        List.idxOf_append_of_mem (before.mem_iff.mp right)]
    · intro b listed c last
      rw [List.mem_singleton.mp last, List.idxOf_append_of_mem (before.mem_iff.mp listed),
        List.idxOf_append_of_notMem new]
      exact Nat.lt_add_right _ (List.idxOf_lt_length_of_mem (before.mem_iff.mp listed))
  | again before known ih =>
    refine ih.imp_of_mem ?_
    intro b c left right earlier
    rwa [List.idxOf_append_of_mem (before.mem_iff.mp left),
      List.idxOf_append_of_mem (before.mem_iff.mp right)]

end Occurrences

/-- The words of a text: its pieces between commas, trimmed, in the places where they occur
first. -/
def Lists (text : String) (found : List String) : Prop :=
  ∃ pieces trimmed, Text.Splits ',' text pieces ∧ List.Forall₂ Text.Trims pieces trimmed ∧
    FirstOccurrences trimmed found

/-- A text lists its words and no others. -/
theorem lists_iff {text : String} {found : List String} :
    Lists text found ↔ found = words text := by
  constructor
  · rintro ⟨pieces, trimmed, splits, trims, occurrences⟩
    have each : pieces.map Text.trim = trimmed := by
      rw [← List.forall₂_eq_eq_eq, List.forall₂_map_left_iff]
      exact trims.imp fun _ _ trims => trims.eq_trim.symm
    rw [occurrences.eq_eraseDups, ← each, splits.eq_pieces, words]
  · rintro rfl
    refine ⟨_, _, Text.splits_pieces ',' text, ?_, firstOccurrences_eraseDups _⟩
    rw [List.forall₂_map_right_iff, List.forall₂_same]
    exact fun piece _ => Text.trims_trim piece

/-- A word is what is left of a piece. -/
theorem mem_words {text word : String} :
    word ∈ words text ↔ ∃ piece ∈ Text.pieces ',' text, Text.trim piece = word := by
  rw [words, List.mem_eraseDups, List.mem_map]

/-- Every list of texts without commas is what its texts joined by commas split into. -/
theorem pieces_intercalate {found : List String} (filled : found ≠ [])
    (plain : ∀ word ∈ found, ',' ∉ word.toList) :
    Text.pieces ',' (",".intercalate found) = found :=
  (Text.Splits.eq_pieces ⟨filled, plain, rfl⟩).symm

/-- A list of words is not empty. -/
theorem words_ne_nil (text : String) : words text ≠ [] := by
  have filled := (Text.splits_pieces ',' text).filled
  obtain ⟨piece, rest, split⟩ := List.exists_cons_of_ne_nil filled
  have listed : Text.trim piece ∈ words text :=
    mem_words.mpr ⟨piece, by simp [split], rfl⟩
  exact List.ne_nil_of_mem listed

/-- A word has no comma, and no blank at its ends. -/
theorem plain_of_mem_words {text word : String} (listed : word ∈ words text) :
    ',' ∉ word.toList ∧ Text.trim word = word := by
  obtain ⟨piece, inside, rfl⟩ := mem_words.mp listed
  have trims := Text.trims_trim piece
  exact ⟨fun comma => (Text.splits_pieces ',' text).plain piece inside (trims.mem comma),
    trims.trim_eq_self⟩

/-- Words joined by commas split into themselves. -/
theorem pieces_words (text : String) :
    Text.pieces ',' (",".intercalate (words text)) = words text :=
  pieces_intercalate (words_ne_nil text) fun _ listed => (plain_of_mem_words listed).1

/-- Words joined by commas are a list of these words. -/
theorem words_words (text : String) : words (",".intercalate (words text)) = words text := by
  have kept : (words text).map Text.trim = words text := by
    conv_rhs => rw [← List.map_id (words text)]
    exact List.map_congr_left fun _ listed => (plain_of_mem_words listed).2
  rw [words, pieces_words, kept]
  exact (firstOccurrences_self (nodup_eraseDups _)).eq_eraseDups.symm

/-- Words are columns when they are the names of these. -/
theorem columnsOf_map_name (found : List Column) :
    columnsOf (found.map Column.name) = .ok found := by
  induction found with
  | nil => rfl
  | cons column found ih => simp [columnsOf, Column.ofName?_name, ih, Except.map]

/-- The columns of a text are those with its words as their names. -/
theorem columns_eq_ok {text : String} {found : List Column} :
    columns text = .ok found ↔ found.map Column.name = words text := by
  constructor
  · exact map_name_columnsOf
  · intro named
    rw [columns, ← named, columnsOf_map_name]

/-- Words that are names of columns are those of a list of columns. -/
theorem exists_map_name {texts : List String}
    (named : ∀ word ∈ texts, ∃ column : Column, column.name = word) :
    ∃ found : List Column, found.map Column.name = texts := by
  induction texts with
  | nil => exact ⟨[], rfl⟩
  | cons word texts ih =>
    rw [List.forall_mem_cons] at named
    obtain ⟨⟨column, rfl⟩, rest⟩ := named
    obtain ⟨found, rfl⟩ := ih rest
    exact ⟨column :: found, rfl⟩

/-- Words that are refused are so for one reason. -/
theorem eq_unsupportedColumn {texts : List String} {reason : Refusal}
    (refused : columnsOf texts = .error reason) : reason = .unsupportedColumn := by
  induction texts with
  | nil => contradiction
  | cons word texts ih =>
    unfold columnsOf at refused
    split at refused
    · exact (Except.error.inj refused).symm
    · exact ih (map_eq_error.mp refused)

/-- What the words of a text are. -/
structure IsWordList (text : String) (found : List String) : Prop where
  /-- The text lists them. -/
  lists : Lists text found
  /-- It lists nothing else. -/
  unique : ∀ other, Lists text other → other = found
  /-- There is at least one. -/
  filled : found ≠ []
  /-- None occurs twice. -/
  nodup : found.Nodup
  /-- Every trimmed piece is among them. -/
  complete : ∀ piece ∈ Text.pieces ',' text, Text.trim piece ∈ found
  /-- They stand in the order in which they occur first. -/
  ordered : found.Pairwise fun a b =>
    ((Text.pieces ',' text).map Text.trim).idxOf a < ((Text.pieces ',' text).map Text.trim).idxOf b
  /-- Joined by commas they split into themselves. -/
  rejoined : Text.pieces ',' (",".intercalate found) = found
  /-- Joined by commas they are listed again. -/
  relisted : words (",".intercalate found) = found

/-- Which columns a text names. -/
structure NamesColumns (text : String) : Prop where
  /-- It names some when each trimmed piece is a canonical name, and only then. -/
  resolves : (∃ found, columns text = .ok found) ↔
    ∀ piece ∈ Text.pieces ',' text, ∃ column : Column, column.name = Text.trim piece
  /-- They have the words for their names, in the same order, and none is named twice. -/
  named : ∀ found, columns text = .ok found → found.map Column.name = words text ∧ found.Nodup
  /-- Otherwise there is one reason to refuse it. -/
  refused : ∀ reason, columns text = .error reason → reason = .unsupportedColumn

/-- The words of any text are what they should be. -/
theorem isWordList_words (text : String) : IsWordList text (words text) where
  lists := lists_iff.mpr rfl
  unique _ listed := lists_iff.mp listed
  filled := words_ne_nil text
  nodup := nodup_eraseDups _
  complete piece listed := mem_words.mpr ⟨piece, listed, rfl⟩
  ordered := (firstOccurrences_eraseDups _).ordered
  rejoined := pieces_words text
  relisted := words_words text

/-- Any text names the columns that it should. -/
theorem namesColumns (text : String) : NamesColumns text where
  resolves := by
    have each : (∀ word ∈ words text, ∃ column : Column, column.name = word) ↔
        ∀ piece ∈ Text.pieces ',' text, ∃ column : Column, column.name = Text.trim piece := by
      constructor
      · intro named piece listed
        exact named _ (mem_words.mpr ⟨piece, listed, rfl⟩)
      · rintro named word listed
        obtain ⟨piece, inside, rfl⟩ := mem_words.mp listed
        exact named piece inside
    simp only [columns_eq_ok, ← each]
    constructor
    · rintro ⟨found, named⟩ word listed
      rw [← named] at listed
      obtain ⟨column, -, name⟩ := List.mem_map.mp listed
      exact ⟨column, name⟩
    · exact exists_map_name
  named found resolved :=
    ⟨columns_eq_ok.mp resolved, List.Nodup.of_map _ (nodup_columns resolved)⟩
  refused _ refused := eq_unsupportedColumn refused

/-- Columns are named by their names in any padding, joined by commas, and naming some of them
again later changes nothing. -/
theorem columns_intercalate {found asked : List Column} {pieces : List String} (filled : found ≠ [])
    (occurrences : FirstOccurrences asked found)
    (padded : List.Forall₂ (fun piece column => Text.Trims piece column.name) pieces asked) :
    columns (",".intercalate pieces) = .ok found := by
  have injective : Function.Injective Column.name := by
    intro column other same
    have found := Column.ofName?_name column
    rw [same, Column.ofName?_name] at found
    exact (Option.some.inj found).symm
  have some_pieces : pieces ≠ [] := by
    rintro rfl
    obtain rfl := List.forall₂_nil_left_iff.mp padded
    obtain ⟨column, listed⟩ := List.exists_mem_of_ne_nil _ filled
    exact List.not_mem_nil (occurrences.mem_iff.mp listed)
  -- Neither a canonical name nor what is blank around it has a comma.
  have plain : List.Forall₂ (fun piece column =>
      ',' ∉ piece.toList ∧ Text.Trims piece column.name) pieces asked :=
    padded.imp fun piece column trims =>
      ⟨trims.not_mem (by decide) (column.not_mem_name (by decide)), trims⟩
  rw [columns_eq_ok, ← lists_iff]
  refine ⟨pieces, asked.map Column.name, ⟨some_pieces, ?_, rfl⟩, ?_, occurrences.map injective⟩
  · exact ((List.forall₂_and_left pieces asked).mp plain).1
  · rwa [List.forall₂_map_right_iff]

/-- The words of every text are its trimmed pieces between commas, each once, in the places where
they occur first, and the text names columns when all pieces are canonical names. Any columns
without repetition can be named, in any order and padding and with later repetitions. -/
theorem isWordList_namesColumns :
    (∀ text, IsWordList text (words text) ∧ NamesColumns text) ∧
    ∀ found : List Column, found ≠ [] → found.Nodup →
      FirstOccurrences found found ∧
      ∀ (asked : List Column) (pieces : List String), FirstOccurrences asked found →
        List.Forall₂ (fun piece column => Text.Trims piece column.name) pieces asked →
          columns (",".intercalate pieces) = .ok found :=
  ⟨fun text => ⟨isWordList_words text, namesColumns text⟩, fun _ filled distinct =>
    ⟨firstOccurrences_self distinct, fun _ _ occurrences padded =>
      columns_intercalate filled occurrences padded⟩⟩

/-- Two columns are named in a padding of other blanks than spaces, one of them twice. -/
theorem isWordList_namesColumns_padded :
    columns "\u2003salary\t, city\u00A0,salary" = .ok [.salary, .city] := by
  have occurrences : FirstOccurrences [Column.salary, .city, .salary] [.salary, .city] := by
    have one : FirstOccurrences [Column.salary] [.salary] := .first .nil (by decide)
    have two : FirstOccurrences [Column.salary, .city] [.salary, .city] := .first one (by decide)
    exact .again two (by decide)
  have padded : List.Forall₂ (fun piece column => Text.Trims piece column.name)
      ["\u2003salary\t", " city\u00A0", "salary"] [Column.salary, .city, .salary] := by
    have trims {piece : String} {column : Column} (named : Text.trim piece = column.name) :
        Text.Trims piece column.name := named ▸ Text.trims_trim piece
    exact .cons (trims (by decide)) (.cons (trims (by decide)) (.cons (trims (by decide)) .nil))
  have joined : ",".intercalate ["\u2003salary\t", " city\u00A0", "salary"] =
      "\u2003salary\t, city\u00A0,salary" := by
    decide
  rw [← joined]
  exact (isWordList_namesColumns.2 [.salary, .city] (by decide) (by decide)).2 _ _ occurrences
    padded

end Query

end SalarySurvey
