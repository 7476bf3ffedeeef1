import SalarySurvey.Cell
import SalarySurvey.Proofs.Calendar

/-!
# Rendered timestamps

A rendered timestamp is read back as the timestamp without its fraction. Every year of the
calendar has a rendering of its own: four digits, or a sign and all digits. Of the layouts tried
before the one with the letter T, two have slashes, which a rendering lacks, and one has an hour
where the letter stands.
-/
namespace SalarySurvey

namespace Layout

/-- A given character is read where it stands. -/
theorem mark?_cons (c : Char) (rest : List Char) : mark? c (c :: rest) = some rest :=
  if_pos rfl

/-- A padded number is read back when the reader goes no further, or no digit follows. -/
theorem number?_padded {most width n : Nat} {rest : List Char}
    (fits : (Timestamp.padded width n).length ≤ most)
    (ends : (Timestamp.padded width n).length = most ∨ ∀ c ∈ rest.head?, c.isDigit = false) :
    number? most (Timestamp.padded width n ++ rest) = some (n, rest) := by
  have taken := digitsUpTo_append Timestamp.isDigit_of_mem_padded fits ends
  simp [number?, taken, Timestamp.padded_ne_nil, Timestamp.value_padded]

/-- A number of two digits is read back. -/
theorem field?_padded {n : Nat} (fits : n < 100) (rest : List Char) :
    field? (Timestamp.padded 2 n ++ rest) = some (n, rest) := by
  have width := @Timestamp.length_padded 2 n (by decide) fits
  rw [field?, trimStart_digits Timestamp.padded_ne_nil Timestamp.isDigit_of_mem_padded]
  exact number?_padded (Nat.le_of_eq width) (.inl width)

/-- A year of four digits is read back, whatever follows. -/
theorem year?_padded {n : Nat} (fits : n < 10000) (rest : List Char) :
    year? (Timestamp.padded 4 n ++ rest) = some ((n : Int), rest) := by
  have filled := @Timestamp.padded_ne_nil 4 n
  have numeric := @Timestamp.isDigit_of_mem_padded 4 n
  have width := @Timestamp.length_padded 4 n (by decide) fits
  rw [year?, trimStart_digits filled numeric]
  split
  · next tail signed =>
    have minus := isDigit_of_append_eq_cons filled numeric signed
    contradiction
  · next tail signed =>
    have plus := isDigit_of_append_eq_cons filled numeric signed
    contradiction
  · rw [number?_padded (Nat.le_of_eq width) (.inl width)]
    rfl

/-- A written year is read back when no digit follows. -/
theorem year?_writeYear (year : Int) {rest : List Char}
    (ends : ∀ c ∈ rest.head?, c.isDigit = false) :
    year? (Timestamp.writeYear year ++ rest) = some (year, rest) := by
  have long : (Timestamp.padded 4 year.natAbs).length ≤
      (Timestamp.padded 4 year.natAbs ++ rest).length := by
    rw [List.length_append]
    omega
  have digits := number?_padded long (.inr ends)
  unfold Timestamp.writeYear
  by_cases short : 0 ≤ year ∧ year ≤ 9999
  · have few : year.natAbs < 10000 := by omega
    rw [if_pos short, year?_padded few, Int.natAbs_of_nonneg short.1]
  · rw [if_neg short]
    by_cases negative : year < 0
    · rw [if_pos negative, List.cons_append, year?, Text.trimStart_cons (by decide)]
      have value : -(year.natAbs : Int) = year := by omega
      simp only [digits, Option.map_some, value]
    · rw [if_neg negative, List.cons_append, year?, Text.trimStart_cons (by decide)]
      have value : (year.natAbs : Int) = year := by omega
      simp only [digits, Option.map_some, value]

/-- What a number leaves is the end of the text. -/
theorem number?_suffix {most n : Nat} {text rest : List Char}
    (found : number? most text = some (n, rest)) : rest <:+ text := by
  have suffix := digitsUpTo_suffix most text
  unfold number? at found
  dsimp only at found
  split at found
  · contradiction
  · simp only [Option.some.injEq, Prod.mk.injEq] at found
    rwa [found.2] at suffix

/-- What a number behind blanks leaves is the end of the text. -/
theorem field?_suffix {n : Nat} {text rest : List Char} (found : field? text = some (n, rest)) :
    rest <:+ text :=
  (number?_suffix found).trans (List.dropWhile_suffix _)

/-- What a reader leaves is the end of the text, whatever is made of its value. -/
theorem suffix_of_map {α β : Type} {read : Option (α × List Char)} {text rest : List Char}
    {change : α × List Char → β × List Char} {result : β}
    (suffix : ∀ value after, read = some (value, after) → after <:+ text)
    (kept : ∀ value after, (change (value, after)).2 = after)
    (found : read.map change = some (result, rest)) : rest <:+ text := by
  obtain ⟨⟨value, after⟩, taken, changed⟩ := Option.map_eq_some_iff.mp found
  have same := kept value after
  rw [changed] at same
  dsimp only at same
  rw [same]
  exact suffix value after taken

/-- What a year leaves is the end of the text. -/
theorem year?_suffix {year : Int} {text rest : List Char}
    (found : year? text = some (year, rest)) : rest <:+ text := by
  have skipped : Text.trimStart text <:+ text := List.dropWhile_suffix _
  have behind (c : Char) {digits : List Char} (signed : Text.trimStart text = c :: digits) :
      digits <:+ text := by
    rw [signed] at skipped
    exact (List.suffix_cons c digits).trans skipped
  unfold year? at found
  split at found
  · next digits signed =>
    exact suffix_of_map (fun _ _ taken => (number?_suffix taken).trans (behind '-' signed))
      (fun _ _ => rfl) found
  · next digits signed =>
    exact suffix_of_map (fun _ _ taken => (number?_suffix taken).trans (behind '+' signed))
      (fun _ _ => rfl) found
  · exact suffix_of_map (fun _ _ taken => (number?_suffix taken).trans skipped)
      (fun _ _ => rfl) found

/-- What a fraction leaves is the end of the text. -/
theorem fraction?_suffix {n : Nat} {text rest : List Char}
    (found : fraction? text = some (n, rest)) : rest <:+ text := by
  unfold fraction? at found
  split at found
  · next digits =>
    dsimp only at found
    split at found
    · contradiction
    · simp only [Option.some.injEq, Prod.mk.injEq] at found
      rw [← found.2]
      exact (List.dropWhile_suffix _).trans (List.suffix_cons '.' digits)
  · simp only [Option.some.injEq, Prod.mk.injEq] at found
    obtain ⟨-, rfl⟩ := found
    exact List.suffix_refl _

/-- A given character is read only where it stands. -/
theorem mark?_eq_some {c : Char} {text rest : List Char} (found : mark? c text = some rest) :
    text = c :: rest := by
  cases text with
  | nil => contradiction
  | cons d text =>
    rw [mark?] at found
    split at found
    · next same => rw [same, Option.some.inj found]
    · contradiction

/-- What a part of a layout leaves is the end of the text. -/
theorem Part.read?_suffix {part : Part} {fields result : Fields} {text rest : List Char}
    (found : part.read? fields text = some (result, rest)) : rest <:+ text := by
  cases part with
  | year => exact suffix_of_map (fun _ _ => year?_suffix) (fun _ _ => rfl) found
  | month | day | hour | minute | second =>
    exact suffix_of_map (fun _ _ => field?_suffix) (fun _ _ => rfl) found
  | fraction => exact suffix_of_map (fun _ _ => fraction?_suffix) (fun _ _ => rfl) found
  | gap =>
    simp only [Part.read?, Option.some.injEq, Prod.mk.injEq] at found
    rw [← found.2]
    exact List.dropWhile_suffix _
  | mark c =>
    obtain ⟨after, taken, built⟩ := Option.map_eq_some_iff.mp found
    rw [Prod.mk.injEq] at built
    rw [mark?_eq_some taken, built.2]
    exact List.suffix_cons c rest

/-- A text of a layout has every mark of it. -/
theorem mem_of_readParts? {parts : List Part} {fields result : Fields} {text : List Char} {c : Char}
    (found : readParts? parts fields text = some result) (listed : Part.mark c ∈ parts) :
    c ∈ text := by
  induction parts generalizing fields text with
  | nil => contradiction
  | cons part parts ih =>
    rw [readParts?] at found
    simp only [bind, Option.bind_eq_some_iff] at found
    obtain ⟨⟨next, rest⟩, first, others⟩ := found
    rcases List.mem_cons.mp listed with here | later
    · rw [← here] at first
      obtain ⟨after, taken, -⟩ := Option.map_eq_some_iff.mp first
      rw [mark?_eq_some taken]
      exact List.mem_cons_self
    · exact (Part.read?_suffix first).subset (ih others later)

/-- A written date is read back by the layout of its hyphens, with the rest of a layout to
follow. -/
theorem readParts?_date (date : Date) (parts : List Part) (rest : List Char) :
    readParts? (yearFirst '-' ++ parts) {}
        (Timestamp.writeYear date.year ++ '-' :: (Timestamp.padded 2 date.month ++
          '-' :: (Timestamp.padded 2 date.day ++ rest))) =
      readParts? parts { year := date.year, month := date.month, day := date.day } rest := by
  have month := date.month_le
  have day := date.day_le
  have year := @year?_writeYear date.year ('-' :: (Timestamp.padded 2 date.month ++
    '-' :: (Timestamp.padded 2 date.day ++ rest))) (by simp)
  simp [yearFirst, readParts?, Part.read?, mark?_cons, year,
    field?_padded (show date.month < 100 by omega), field?_padded (show date.day < 100 by omega)]

/-- A written time is read back by the layout with seconds. -/
theorem readParts?_time (time : TimeOfDay) (fields : Fields) :
    readParts? clockWithSecond fields (Timestamp.padded 2 time.hour ++
        ':' :: (Timestamp.padded 2 time.minute ++ ':' :: Timestamp.padded 2 time.second)) =
      some { fields with hour := time.hour, minute := time.minute, second := time.second } := by
  have hour := time.hour_lt
  have minute := time.minute_lt
  have second := time.second_le
  have last := field?_padded (show time.second < 100 by omega) []
  rw [List.append_nil] at last
  simp [clockWithSecond, clock, readParts?, Part.read?, mark?_cons,
    field?_padded (show time.hour < 100 by omega),
    field?_padded (show time.minute < 100 by omega), last]

end Layout

namespace Timestamp

/-- A timestamp without its fraction. -/
def wholeSecond (t : Timestamp) : Timestamp :=
  { t with time := { t.time with nano := 0, nano_lt := TimeOfDay.midnight.nano_lt } }

/-- A rendering is a date, the letter T and a time. -/
theorem writeChars_eq (t : Timestamp) :
    t.writeChars = writeYear t.date.year ++ '-' :: (padded 2 t.date.month ++
      '-' :: (padded 2 t.date.day ++ 'T' :: (padded 2 t.time.hour ++
        ':' :: (padded 2 t.time.minute ++ ':' :: padded 2 t.time.second)))) := by
  simp [writeChars]

/-- A written year consists of digits and signs. -/
theorem mem_writeYear {year : Int} {c : Char} (listed : c ∈ writeYear year) :
    c.isDigit = true ∨ c = '-' ∨ c = '+' := by
  unfold writeYear at listed
  split at listed
  · exact .inl (isDigit_of_mem_padded c listed)
  · rcases List.mem_cons.mp listed with sign | digit
    · right
      split at sign
      · exact .inl sign
      · exact .inr sign
    · exact .inl (isDigit_of_mem_padded c digit)

/-- A rendering consists of digits, signs, colons and the letter T. -/
theorem mem_writeChars {t : Timestamp} {c : Char} (listed : c ∈ t.writeChars) :
    c.isDigit = true ∨ c ∈ ['-', '+', ':', 'T'] := by
  have number {n : Nat} (digit : c ∈ padded 2 n) : c.isDigit = true :=
    isDigit_of_mem_padded c digit
  rw [writeChars_eq] at listed
  simp only [List.mem_append, List.mem_cons] at listed
  rcases listed with year | rfl | month | rfl | day | rfl | hour | rfl | minute | rfl | second
  · rcases mem_writeYear year with digit | rfl | rfl
    · exact .inl digit
    · exact .inr (by decide)
    · exact .inr (by decide)
  · exact .inr (by decide)
  · exact .inl (number month)
  · exact .inr (by decide)
  · exact .inl (number day)
  · exact .inr (by decide)
  · exact .inl (number hour)
  · exact .inr (by decide)
  · exact .inl (number minute)
  · exact .inr (by decide)
  · exact .inl (number second)

/-- A rendering has no blanks and no slash. -/
theorem isBlank_of_mem_writeChars {t : Timestamp} {c : Char} (listed : c ∈ t.writeChars) :
    Text.isBlank c = false ∧ c ≠ '/' := by
  rcases mem_writeChars listed with digit | mark
  · refine ⟨Text.isBlank_of_isDigit digit, ?_⟩
    rintro rfl
    contradiction
  · have each : ['-', '+', ':', 'T'].all (fun d => !Text.isBlank d && d != '/') = true := by
      decide
    simpa using List.all_eq_true.mp each c mark

/-- The fields of a rendering name the timestamp without its fraction. -/
theorem timestamp?_fields {t : Timestamp} (ranged : t.InCalendar) :
    Layout.Fields.timestamp? ⟨t.date.year, t.date.month, t.date.day, t.time.hour, t.time.minute,
      t.time.second, 0⟩ = some t.wholeSecond := by
  have year : ¬(t.date.year < -262143 ∨ 262142 < t.date.year) := by
    have bounds := ranged
    rw [InCalendar] at bounds
    omega
  have time : TimeOfDay.ofParts? t.time.hour t.time.minute t.time.second 0 =
      some t.wholeSecond.time :=
    dif_pos ⟨t.time.hour_lt, t.time.minute_lt, t.time.second_le, by decide⟩
  rw [Layout.Fields.timestamp?, if_neg year]
  simp only [Date.ofParts?_self, time]
  rfl

/-- A rendering is read back without the fraction. -/
theorem readChars?_writeChars {t : Timestamp} (ranged : t.InCalendar) :
    readChars? t.writeChars = some t.wholeSecond := by
  have trimmed : Text.trimChars t.writeChars = t.writeChars :=
    Text.trimChars_of_forall fun c listed => (isBlank_of_mem_writeChars listed).1
  have slashed {parts : List Layout.Part} (marked : .mark '/' ∈ parts) :
      Layout.read? parts t.writeChars = none := by
    cases fields : Layout.readParts? parts {} t.writeChars with
    | none => simp [Layout.read?, fields]
    | some result =>
      exact absurd rfl (isBlank_of_mem_writeChars (Layout.mem_of_readParts? fields marked)).2
  have spaced : Layout.read? (Layout.yearFirst '-' ++ .gap :: Layout.clockWithSecond)
      t.writeChars = none := by
    -- The gap is empty, and the hour cannot start with the letter.
    rw [Layout.read?, writeChars_eq, Layout.readParts?_date]
    have letter : Text.isBlank 'T' = false := by decide
    simp [Layout.readParts?, Layout.Part.read?, Layout.clockWithSecond, Layout.clock,
      Layout.field?, Layout.number?, Layout.digitsUpTo, Text.trimStart_cons letter]
  have lettered : Layout.read? (Layout.yearFirst '-' ++ .mark 'T' :: Layout.clockWithSecond)
      t.writeChars = some t.wholeSecond := by
    rw [Layout.read?, writeChars_eq, Layout.readParts?_date]
    simp only [Layout.readParts?, Layout.Part.read?, Layout.mark?_cons, Option.map_some]
    simp only [bind, Option.bind_some, Layout.readParts?_time, timestamp?_fields ranged]
  rw [readChars?, trimmed, Layout.withTime]
  simp [slashed, spaced, lettered, Layout.monthFirst]

/-- A timestamp that was read from a text is read back from the text its cell is written as,
without its fraction, a leap second included. So two of them are written as one text exactly when
they differ in their fractions at most. -/
theorem read?_render :
    (∀ text t, read? text = some t →
      (Cell.timestamp t).json = .string t.render ∧ read? t.render = some t.wholeSecond) ∧
    ∀ text₁ text₂ t u, read? text₁ = some t → read? text₂ = some u →
      (t.render = u.render ↔ t.wholeSecond = u.wholeSecond) := by
  have back (text : String) (t : Timestamp) (read : read? text = some t) :
      read? t.render = some t.wholeSecond := by
    rw [read?, render, String.toList_ofList]
    exact readChars?_writeChars (Layout.inCalendar_of_read? read)
  refine ⟨fun text t read => ⟨rfl, back text t read⟩, ?_⟩
  intro text₁ text₂ t u first second
  constructor
  · intro same
    have again := back text₁ t first
    rw [same, back text₂ u second] at again
    exact (Option.some.inj again).symm
  · intro same
    have rendered (v : Timestamp) : v.render = v.wholeSecond.render := rfl
    rw [rendered t, rendered u, same]

/-- A leap second of the year before year zero, reached by an offset, and the same second without
its fraction in a layout of its own. -/
theorem read?_render_leapSecond :
    ∃ t u, read? "0000-01-01T00:30:60.123456789+01:00" = some t ∧
      read? "12/31/-1 23:30:60" = some u ∧ t ≠ u ∧ read? t.render = some t.wholeSecond ∧
      (t.render = u.render ↔ t.wholeSecond = u.wholeSecond) := by
  let date : Date := { year := -1, month := 12, day := 31 }
  let t : Timestamp :=
    { date, time := { hour := 23, minute := 30, second := 60, nano := 123456789 } }
  let u : Timestamp := { date, time := { hour := 23, minute := 30, second := 60, nano := 0 } }
  have first : read? "0000-01-01T00:30:60.123456789+01:00" = some t := by decide +kernel
  have second : read? "12/31/-1 23:30:60" = some u := by decide +kernel
  exact ⟨t, u, first, second, by decide +kernel, (read?_render.1 _ t first).2,
    read?_render.2 _ _ t u first second⟩

end Timestamp

end SalarySurvey
