import SalarySurvey.Proofs.Spellings

/-!
# Moments and their spellings

Every spelling of a moment is read as that moment. Its digits are joined by single characters, and
these are its shape, so the layouts of another shape are out. Where two layouts have the shape of a
spelling, one of them would need a day or a month of four digits, or the two differ in a fraction
that may be missing and agree. So it does not matter that the layouts are tried in a row: all
spellings of a moment name one timestamp, an offset moves it across the ends of days and years, and
no layout saves a spelling of a day or a time that does not exist.
-/
namespace SalarySurvey

namespace Timestamp

/-- No minutes do not move a moment. -/
theorem backMinutes_zero (t : Timestamp) : t.backMinutes 0 = t := by
  have minute := t.minutes_backMinutes 0
  rw [Int.sub_zero] at minute
  exact eq_of_minutes minute rfl rfl

end Timestamp

namespace Layout

open Timestamp (padded readChars?)

/-- Runs of digits with one character between each two of them. -/
inductive Joined : List Char → List Char → Prop where
  /-- One run. -/
  | run {run : List Char} (isRun : IsRun run) : Joined [] run
  /-- A run in front of a character and the others. -/
  | join {run marks text : List Char} {c : Char} (isRun : IsRun run) (others : Joined marks text) :
      Joined (c :: marks) (run ++ c :: text)

/-- The layouts of a shape, in the order in which they are tried. -/
def layoutsOf (form : List Char) : List (List Part) :=
  (withTime ++ dateOnly).filter fun parts => form ∈ shapes parts

section Shapes

variable {marks text run : List Char} {parts other : List Part}

/-- A run has characters that are not blank at both ends. -/
theorem IsRun.solid (isRun : IsRun run) : Text.Solid run := by
  have blank {c : Char} (listed : c ∈ run) : Text.isBlank c = false :=
    Text.isBlank_of_isDigit (isRun.numeric c listed)
  constructor
  · obtain ⟨c, rest, rfl⟩ := List.exists_cons_of_ne_nil isRun.filled
    exact ⟨c, rest, rfl, blank List.mem_cons_self⟩
  · have whole := (List.dropLast_concat_getLast isRun.filled).symm
    exact ⟨_, _, whole, blank (List.getLast_mem isRun.filled)⟩

/-- So do runs that are joined. -/
theorem Joined.solid (joined : Joined marks text) : Text.Solid text := by
  induction joined with
  | run isRun => exact isRun.solid
  | join isRun others ih => exact isRun.solid.around [_] ih

/-- Runs that are joined have the shape of what joins them. -/
theorem Joined.shape_eq (joined : Joined marks text) : shape text = shape marks := by
  induction joined with
  | run isRun => exact shape_digits isRun.numeric
  | @join run marks text c isRun others ih =>
    rw [shape_append, shape_digits isRun.numeric, List.nil_append, shape_cons, ih, ← shape_cons]

/-- A text of a shape that no layout has is read in the internet format only. -/
theorem readChars?_of_foreign (solid : Text.Solid text) (foreign : layoutsOf (shape text) = []) :
    readChars? text = internet? text := by
  rw [layoutsOf, List.filter_append, List.append_eq_nil_iff] at foreign
  rw [readChars?, solid.trimChars_eq, findSome?_read?, foreign.1, findSome?_read? dateOnly,
    foreign.2]
  exact Option.or_none

/-- A text that is not in the internet format is tried in the layouts of its shape. -/
theorem readChars?_of_joined (joined : Joined marks text) (foreign : shape marks ∉ internetShapes) :
    readChars? text = (layoutsOf (shape marks)).findSome? fun parts => read? parts text := by
  rw [← joined.shape_eq] at foreign ⊢
  rw [readChars?, joined.solid.trimChars_eq, internet?_eq_none foreign, Option.none_or,
    ← List.findSome?_append, findSome?_read?]
  rfl

/-- The only layout of a shape gives the answer. -/
theorem readChars?_of_layout (joined : Joined marks text) (foreign : shape marks ∉ internetShapes)
    (only : layoutsOf (shape marks) = [parts]) {result : Option Timestamp}
    (own : read? parts text = result) : readChars? text = result := by
  rw [readChars?_of_joined joined foreign, only, List.findSome?_singleton, own]

/-- The two layouts of a shape give the answer one after the other. -/
theorem readChars?_of_layouts (joined : Joined marks text) (foreign : shape marks ∉ internetShapes)
    (both : layoutsOf (shape marks) = [parts, other]) {result second : Option Timestamp}
    (own : read? parts text = result) (next : read? other text = second) :
    readChars? text = result.or second := by
  rw [readChars?_of_joined joined foreign, both, List.findSome?_cons, List.findSome?_singleton,
    own, next]
  cases result <;> rfl

end Shapes

section Ends

variable {nano : Nat} {offset : Int} {f z : List Char}

/-- A fraction is less than a second. -/
theorem Fraction.nano_lt (fraction : Fraction nano f) : nano < 1000000000 := by
  cases fraction with
  | none => decide
  | @digits digits filled numeric fits =>
    have filledUp : ∀ c ∈ digits ++ List.replicate (9 - digits.length) '0', c.isDigit = true := by
      intro c listed
      rcases List.mem_append.mp listed with digit | zero
      · exact numeric c digit
      · exact Numeral.isDigit_of_mem_zeros c zero
    have bound := Numeral.value_lt filledUp
    have nine : (digits ++ List.replicate (9 - digits.length) '0').length = 9 := by
      rw [List.length_append, List.length_replicate]
      omega
    rwa [nine, Numeral.value_eq] at bound

/-- Every spelling has nanoseconds of less than a second. -/
theorem Spells.nano_lt {year month day hour minute second : Nat} {text : List Char}
    (spelled : Spells year month day hour minute second nano offset text) :
    nano < 1000000000 := by
  cases spelled with
  | hyphens listed monthRun dayRun hourRun minuteRun secondRun fraction => exact fraction.nano_lt
  | internet month_lt day_lt hour_lt minute_lt second_lt fraction zone => exact fraction.nano_lt
  | _ => decide

/-- A fraction has its point as its shape. -/
theorem Fraction.shape_mem (fraction : Fraction nano f) : shape f ∈ [[], ['.']] := by
  cases fraction with
  | none => decide
  | digits filled numeric fits =>
    rw [shape_cons, shape_digits numeric]
    decide

/-- An offset has its letter, or its sign and colon, as its shape. -/
theorem Zone.shape_mem (zone : Zone offset z) :
    shape z ∈ [['Z'], ['+', ':'], ['-', ':']] := by
  have signed (c : Char) (hours minutes : Nat) :
      shape (c :: padded 2 hours ++ ':' :: padded 2 minutes) = shape [c] ++ [':'] := by
    rw [shape_append, shape_cons c, shape_cons ':', shape_digits isRun_padded.numeric,
      shape_digits isRun_padded.numeric, List.append_nil]
    rfl
  cases zone with
  | universal => decide
  | ahead | behind =>
    rw [signed]
    decide

/-- An offset has characters that are not blank at both ends. -/
theorem Zone.solid (zone : Zone offset z) : Text.Solid z := by
  have signed {c : Char} (sign : Text.isBlank c = false) (hours minutes : Nat) :
      Text.Solid (c :: padded 2 hours ++ ':' :: padded 2 minutes) := by
    have alone : Text.Solid [c] := ⟨⟨c, [], rfl, sign⟩, [], c, rfl, sign⟩
    have whole := alone.around (padded 2 hours ++ [':']) (@isRun_padded minutes 2).solid
    rwa [List.append_assoc] at whole
  cases zone with
  | universal => exact ⟨⟨'Z', [], rfl, by decide⟩, [], 'Z', rfl, by decide⟩
  | ahead | behind => exact signed (by decide) _ _

end Ends

section Spelled

variable {year month day hour minute second nano : Nat} {offset : Int}
  {m d h i s f z text rest : List Char} {between : Char} {joint : Part}
  {parts timed : List Part}

/-- A layout names what the date in front and the time behind it name. -/
theorem read?_dated {short : Prop} [Decidable short]
    (date : readParts? parts {} text =
      if month < 100 ∧ day < 100 then readParts? timed { year, month, day } rest else none)
    (time : readParts? timed { year, month, day } rest =
      if short then some ⟨year, month, day, hour, minute, second, nano⟩ else none)
    (enough : hour < 100 ∧ minute < 100 ∧ second < 100 → short) :
    read? parts text = Fields.timestamp? ⟨year, month, day, hour, minute, second, nano⟩ := by
  rw [time, ← ite_and] at date
  exact read?_of_short date (And.imp_right enough)

/-- A layout without a time names the midnight of its date. -/
theorem read?_date (date : readParts? parts {} text =
    if month < 100 ∧ day < 100 then some { year, month, day } else none) :
    read? parts text = Fields.timestamp? ⟨year, month, day, 0, 0, 0, 0⟩ :=
  read?_of_short date And.left

/-- A layout that does not fit names nothing. -/
theorem read?_eq_none (refused : readParts? parts {} text = none) : read? parts text = none := by
  rw [read?, refused]
  rfl

/-- Month, day, year and the time up to the second. -/
theorem readChars?_monthFirst (fits : year < 10000) (monthRun : Written month m)
    (dayRun : Written day d) (hourRun : Written hour h) (minuteRun : Written minute i)
    (secondRun : Written second s) :
    readChars? (m ++ '/' :: (d ++ '/' :: (padded 4 year ++ ' ' :: (h ++ ':' ::
        (i ++ ':' :: s))))) =
      Fields.timestamp? ⟨year, month, day, hour, minute, second, 0⟩ := by
  have joined : Joined ['/', '/', ' ', ':', ':'] _ := .join monthRun.isRun <|
    .join dayRun.isRun <| .join (@isRun_padded year 4) <| .join hourRun.isRun <|
    .join minuteRun.isRun <| .run secondRun.isRun
  have layouts : layoutsOf ['/', '/', ':', ':'] =
      [monthFirst ++ .gap :: clockWithSecond, yearFirst '/' ++ .gap :: clockWithSecond] := rfl
  rw [readChars?_of_layouts joined (by decide) layouts
    (read?_dated (readParts?_monthFirst_gap fits monthRun dayRun hourRun)
      (readParts?_clockWithSecond hourRun minuteRun secondRun) id)
    (read?_eq_none (readParts?_slashes monthRun dayRun fun _ =>
      readParts?_gap_of_year fits rfl hourRun)), Option.or_none]

/-- Month, day, year and the time up to the minute. -/
theorem readChars?_monthFirstMinute (fits : year < 10000) (monthRun : Written month m)
    (dayRun : Written day d) (hourRun : Written hour h) (minuteRun : Written minute i) :
    readChars? (m ++ '/' :: (d ++ '/' :: (padded 4 year ++ ' ' :: (h ++ ':' :: i)))) =
      Fields.timestamp? ⟨year, month, day, hour, minute, 0, 0⟩ := by
  have joined : Joined ['/', '/', ' ', ':'] _ := .join monthRun.isRun <|
    .join dayRun.isRun <| .join (@isRun_padded year 4) <| .join hourRun.isRun <|
    .run minuteRun.isRun
  have layout : layoutsOf ['/', '/', ':'] = [monthFirst ++ .gap :: clock] := rfl
  exact readChars?_of_layout joined (by decide) layout
    (read?_dated (readParts?_monthFirst_gap fits monthRun dayRun hourRun)
      (readParts?_clock hourRun minuteRun) fun short => ⟨short.1, short.2.1⟩)

/-- Year, month and day with slashes and the time up to the second. -/
theorem readChars?_yearFirst (fits : year < 10000) (monthRun : Written month m)
    (dayRun : Written day d) (hourRun : Written hour h) (minuteRun : Written minute i)
    (secondRun : Written second s) :
    readChars? (padded 4 year ++ '/' :: (m ++ '/' :: (d ++ ' ' :: (h ++ ':' ::
        (i ++ ':' :: s))))) =
      Fields.timestamp? ⟨year, month, day, hour, minute, second, 0⟩ := by
  have joined : Joined ['/', '/', ' ', ':', ':'] _ := .join (@isRun_padded year 4) <|
    .join monthRun.isRun <| .join dayRun.isRun <| .join hourRun.isRun <|
    .join minuteRun.isRun <| .run secondRun.isRun
  have layouts : layoutsOf ['/', '/', ':', ':'] =
      [monthFirst ++ .gap :: clockWithSecond, yearFirst '/' ++ .gap :: clockWithSecond] := rfl
  rw [readChars?_of_layouts joined (by decide) layouts
    (read?_eq_none (readParts?_mark_of_year fits rfl (by decide)))
    (read?_dated (readParts?_yearFirst_gap fits (by decide) monthRun dayRun hourRun)
      (readParts?_clockWithSecond hourRun minuteRun secondRun) id), Option.none_or]

/-- Year, month and day with hyphens, a blank or the letter, and the time up to a fraction. -/
theorem readChars?_hyphens (fits : year < 10000)
    (gapped : between = ' ' ∧ joint = .gap ∨ between = 'T' ∧ joint = .mark 'T')
    (monthRun : Written month m) (dayRun : Written day d) (hourRun : Written hour h)
    (minuteRun : Written minute i) (secondRun : Written second s) (fraction : Fraction nano f) :
    readChars? (padded 4 year ++ '-' :: (m ++ '-' :: (d ++ between :: (h ++ ':' ::
        (i ++ ':' :: (s ++ f)))))) =
      Fields.timestamp? ⟨year, month, day, hour, minute, second, nano⟩ := by
  have date {parts : List Part} {rest : List Char} :
      readParts? (yearFirst '-' ++ joint :: .hour :: .mark ':' :: parts) {}
          (padded 4 year ++ '-' :: (m ++ '-' :: (d ++ between :: (h ++ rest)))) =
        if month < 100 ∧ day < 100 then
          readParts? (.hour :: .mark ':' :: parts) { year, month, day } (h ++ rest)
        else none := by
    rcases gapped with ⟨rfl, rfl⟩ | ⟨rfl, rfl⟩
    · exact readParts?_yearFirst_gap fits (by decide) monthRun dayRun hourRun
    · exact readParts?_yearFirst_mark fits (by decide) (by decide) monthRun dayRun
  have own : read? (yearFirst '-' ++ joint :: clockWithSecond ++ [.fraction]) _ = _ :=
    read?_dated date (readParts?_clockWithFraction hourRun minuteRun secondRun fraction) id
  cases fraction with
  | none =>
    rw [List.append_nil] at own ⊢
    have joined : Joined ['-', '-', between, ':', ':'] _ := .join (@isRun_padded year 4) <|
      .join monthRun.isRun <| .join dayRun.isRun <| .join hourRun.isRun <|
      .join minuteRun.isRun <| .run secondRun.isRun
    have layouts : shape ['-', '-', between, ':', ':'] ∉ internetShapes ∧
        layoutsOf (shape ['-', '-', between, ':', ':']) =
          [yearFirst '-' ++ joint :: clockWithSecond,
           yearFirst '-' ++ joint :: clockWithSecond ++ [.fraction]] := by
      rcases gapped with ⟨rfl, rfl⟩ | ⟨rfl, rfl⟩ <;> exact ⟨by decide, rfl⟩
    rw [readChars?_of_layouts joined layouts.1 layouts.2
      (read?_dated date (readParts?_clockWithSecond hourRun minuteRun secondRun) id) own,
      Option.or_self]
  | digits filled numeric few =>
    have joined : Joined ['-', '-', between, ':', ':', '.'] _ := .join (@isRun_padded year 4) <|
      .join monthRun.isRun <| .join dayRun.isRun <| .join hourRun.isRun <|
      .join minuteRun.isRun <| .join secondRun.isRun <| .run ⟨filled, numeric⟩
    have layout : shape ['-', '-', between, ':', ':', '.'] ∉ internetShapes ∧
        layoutsOf (shape ['-', '-', between, ':', ':', '.']) =
          [yearFirst '-' ++ joint :: clockWithSecond ++ [.fraction]] := by
      rcases gapped with ⟨rfl, rfl⟩ | ⟨rfl, rfl⟩ <;> exact ⟨by decide, rfl⟩
    exact readChars?_of_layout joined layout.1 layout.2 own

/-- Year, month and day with hyphens, alone. -/
theorem readChars?_hyphensDate (fits : year < 10000) (monthRun : Written month m)
    (dayRun : Written day d) :
    readChars? (padded 4 year ++ '-' :: (m ++ '-' :: d)) =
      Fields.timestamp? ⟨year, month, day, 0, 0, 0, 0⟩ := by
  have joined : Joined ['-', '-'] _ := .join (@isRun_padded year 4) <|
    .join monthRun.isRun <| .run dayRun.isRun
  have layout : layoutsOf ['-', '-'] = [yearFirst '-'] := rfl
  exact readChars?_of_layout joined (by decide) layout
    (read?_date (readParts?_yearFirst fits (by decide) monthRun dayRun))

/-- Month, day and year, alone. -/
theorem readChars?_monthFirstDate (fits : year < 10000) (monthRun : Written month m)
    (dayRun : Written day d) :
    readChars? (m ++ '/' :: (d ++ '/' :: padded 4 year)) =
      Fields.timestamp? ⟨year, month, day, 0, 0, 0, 0⟩ := by
  have joined : Joined ['/', '/'] _ := .join monthRun.isRun <| .join dayRun.isRun <|
    .run (@isRun_padded year 4)
  have layouts : layoutsOf ['/', '/'] = [monthFirst, yearFirst '/'] := rfl
  rw [readChars?_of_layouts joined (by decide) layouts
    (read?_date (readParts?_monthFirst fits monthRun dayRun))
    (read?_eq_none (readParts?_slashes monthRun dayRun fun _ => readParts?_end_of_year fits rfl)),
    Option.or_none]

/-- Year, month and day with slashes, alone. -/
theorem readChars?_yearFirstDate (fits : year < 10000) (monthRun : Written month m)
    (dayRun : Written day d) :
    readChars? (padded 4 year ++ '/' :: (m ++ '/' :: d)) =
      Fields.timestamp? ⟨year, month, day, 0, 0, 0, 0⟩ := by
  have joined : Joined ['/', '/'] _ := .join (@isRun_padded year 4) <|
    .join monthRun.isRun <| .run dayRun.isRun
  have layouts : layoutsOf ['/', '/'] = [monthFirst, yearFirst '/'] := rfl
  rw [readChars?_of_layouts joined (by decide) layouts
    (read?_eq_none (readParts?_mark_of_year fits rfl (by decide)))
    (read?_date (readParts?_yearFirst fits (by decide) monthRun dayRun)), Option.none_or]

/-- A number of a fixed width is read when it is filled up to that width. -/
theorem exactly?_padded {width n : Nat} (wide : 0 < width) (fits : n < Nat.pow 10 width) :
    exactly? width (padded width n ++ rest) = some (n, rest) := by
  have length := Timestamp.length_padded wide fits
  rw [exactly?, digitsUpTo_append Timestamp.isDigit_of_mem_padded (Nat.le_of_eq length)
    (.inl length)]
  simp [length, Timestamp.value_padded]

/-- An offset is read as its minutes. -/
theorem offset?_zone (zone : Zone offset z) : offset? z = some (offset, []) := by
  have hour {n : Nat} (few : n < 24) (rest : List Char) :
      exactly? 2 (padded 2 n ++ rest) = some (n, rest) :=
    exactly?_padded (by decide) (Nat.lt_trans few (by decide))
  have minute {n : Nat} (few : n < 60) : exactly? 2 (padded 2 n) = some (n, []) := by
    have padded_nil := @exactly?_padded [] 2 n (by decide) (Nat.lt_trans few (by decide))
    rwa [List.append_nil] at padded_nil
  cases zone with
  | universal => rfl
  | ahead hours_lt minutes_lt =>
    simp [offset?, hour hours_lt, mark?_cons, minute minutes_lt, hours_lt, minutes_lt]
  | behind hours_lt minutes_lt =>
    simp [offset?, hour hours_lt, mark?_cons, minute minutes_lt, hours_lt, minutes_lt]

/-- The internet format is read as its fields moved by the offset. -/
theorem internet?_padded (year_lt : year < 10000) (month_lt : month < 100) (day_lt : day < 100)
    (hour_lt : hour < 100) (minute_lt : minute < 100) (second_lt : second < 100)
    (fraction : Fraction nano f) (zone : Zone offset z) :
    internet? (padded 4 year ++ '-' :: (padded 2 month ++ '-' :: (padded 2 day ++ 'T' ::
        (padded 2 hour ++ ':' :: (padded 2 minute ++ ':' :: (padded 2 second ++ (f ++ z))))))) =
      (Fields.timestamp? ⟨year, month, day, hour, minute, second, nano⟩).map
        (·.backMinutes offset) := by
  have two {n : Nat} (few : n < 100) (rest : List Char) :
      exactly? 2 (padded 2 n ++ rest) = some (n, rest) :=
    exactly?_padded (by decide) few
  have ends : ∀ c ∈ z.head?, c.isDigit = false ∧ c ≠ '.' := by
    cases zone <;> simp
  simp only [internet?, exactly?_padded (show 0 < 4 by decide) year_lt, two month_lt, two day_lt,
    two hour_lt, two minute_lt, two second_lt, mark?_cons, fraction?_append fraction ends,
    offset?_zone zone, bind, Option.bind_some, Option.some_or]
  cases Fields.timestamp? ⟨year, month, day, hour, minute, second, nano⟩ <;> rfl

/-- No layout has the shape of the internet format. -/
theorem readChars?_zoned (joined : Joined ['-', '-', 'T', ':', ':'] text)
    (fraction : Fraction nano f) (zone : Zone offset z) :
    readChars? (text ++ (f ++ z)) = internet? (text ++ (f ++ z)) := by
  have foreign : ∀ point ∈ [[], ['.']], ∀ sign ∈ [['Z'], ['+', ':'], ['-', ':']],
      layoutsOf (shape ['-', '-', 'T', ':', ':'] ++ (point ++ sign)) = [] := by
    decide
  apply readChars?_of_foreign (joined.solid.around f zone.solid)
  rw [shape_append, joined.shape_eq, shape_append]
  exact foreign _ fraction.shape_mem _ zone.shape_mem

/-- The internet format is read as its fields moved by the offset. -/
theorem readChars?_internet (year_lt : year < 10000) (month_lt : month < 100) (day_lt : day < 100)
    (hour_lt : hour < 100) (minute_lt : minute < 100) (second_lt : second < 100)
    (fraction : Fraction nano f) (zone : Zone offset z) :
    readChars? (padded 4 year ++ '-' :: (padded 2 month ++ '-' :: (padded 2 day ++ 'T' ::
        (padded 2 hour ++ ':' :: (padded 2 minute ++ ':' :: (padded 2 second ++ (f ++ z))))))) =
      (Fields.timestamp? ⟨year, month, day, hour, minute, second, nano⟩).map
        (·.backMinutes offset) := by
  have joined : Joined ['-', '-', 'T', ':', ':'] _ := .join (@isRun_padded year 4) <|
    .join (@isRun_padded month 2) <| .join (@isRun_padded day 2) <|
    .join (@isRun_padded hour 2) <| .join (@isRun_padded minute 2) <|
    .run (@isRun_padded second 2)
  have read := readChars?_zoned joined fraction zone
  simp only [List.append_assoc, List.cons_append] at read
  rw [read]
  exact internet?_padded year_lt month_lt day_lt hour_lt minute_lt second_lt fraction zone

/-- Every spelling is read as the fields that it spells, moved by its offset. -/
theorem readChars?_of_spells (fits : year < 10000)
    (spelled : Spells year month day hour minute second nano offset text) :
    readChars? text =
      (Fields.timestamp? ⟨year, month, day, hour, minute, second, nano⟩).map
        (·.backMinutes offset) := by
  have still (named : Option Timestamp) : named.map (·.backMinutes 0) = named := by
    cases named with
    | none => rfl
    | some t => exact congrArg some t.backMinutes_zero
  cases spelled with
  | monthFirst monthRun dayRun hourRun minuteRun secondRun =>
    simp only [List.append_assoc, List.cons_append, still]
    exact readChars?_monthFirst fits monthRun dayRun hourRun minuteRun secondRun
  | monthFirstMinute monthRun dayRun hourRun minuteRun =>
    simp only [List.append_assoc, List.cons_append, still]
    exact readChars?_monthFirstMinute fits monthRun dayRun hourRun minuteRun
  | hyphens listed monthRun dayRun hourRun minuteRun secondRun fraction =>
    simp only [List.append_assoc, List.cons_append, still]
    rcases listed with rfl | rfl
    · exact readChars?_hyphens fits (.inl ⟨rfl, rfl⟩) monthRun dayRun hourRun minuteRun secondRun
        fraction
    · exact readChars?_hyphens fits (.inr ⟨rfl, rfl⟩) monthRun dayRun hourRun minuteRun secondRun
        fraction
  | yearFirst monthRun dayRun hourRun minuteRun secondRun =>
    simp only [List.append_assoc, List.cons_append, still]
    exact readChars?_yearFirst fits monthRun dayRun hourRun minuteRun secondRun
  | hyphensDate monthRun dayRun =>
    simp only [List.append_assoc, List.cons_append, still]
    exact readChars?_hyphensDate fits monthRun dayRun
  | monthFirstDate monthRun dayRun =>
    simp only [List.append_assoc, List.cons_append, still]
    exact readChars?_monthFirstDate fits monthRun dayRun
  | yearFirstDate monthRun dayRun =>
    simp only [List.append_assoc, List.cons_append, still]
    exact readChars?_yearFirstDate fits monthRun dayRun
  | internet month_lt day_lt hour_lt minute_lt second_lt fraction zone =>
    simp only [List.append_assoc, List.cons_append]
    exact readChars?_internet fits month_lt day_lt hour_lt minute_lt second_lt fraction zone

end Spelled

end Layout

namespace Timestamp

/-- Blanks around a text do not change what it names. -/
theorem read?_blanks {front back : List Char} (frontBlank : ∀ c ∈ front, Text.isBlank c = true)
    (backBlank : ∀ c ∈ back, Text.isBlank c = true) (text : List Char) :
    read? (String.ofList (front ++ text ++ back)) = read? (String.ofList text) := by
  simp only [read?, String.toList_ofList, readChars?,
    Text.trimChars_blanks frontBlank backBlank text]

/-- Every spelling of a moment, with any blanks around it, is read as that moment: the only
timestamp of its minute, moved back by the offset, with its second and its nanoseconds, and the
parts that were written when there is no offset. A spelling of a day or a time that does not exist
is refused. -/
theorem read?_of_spells {year month day hour minute second nano : Nat} {offset : Int}
    {text front back : List Char} (fits : year < 10000)
    (spelled : Layout.Spells year month day hour minute second nano offset text)
    (frontBlank : ∀ c ∈ front, Text.isBlank c = true)
    (backBlank : ∀ c ∈ back, Text.isBlank c = true) :
    (dayExists year month day = true ∧ hour < 24 ∧ minute < 60 ∧ second ≤ 60 →
      ∃ t, read? (String.ofList (front ++ text ++ back)) = some t ∧
        (∀ u : Timestamp, u = t ↔
          u.minutes = dayNumber year month day * 1440 + hour * 60 + minute - offset ∧
            u.time.second = second ∧ u.time.nano = nano) ∧
        (offset = 0 → t.date.year = year ∧ t.date.month = month ∧ t.date.day = day ∧
          t.time.hour = hour ∧ t.time.minute = minute)) ∧
    (¬(dayExists year month day = true ∧ hour < 24 ∧ minute < 60 ∧ second ≤ 60) →
      read? (String.ofList (front ++ text ++ back)) = none) := by
  rw [read?_blanks frontBlank backBlank, read?, String.toList_ofList,
    Layout.readChars?_of_spells fits spelled]
  constructor
  · rintro ⟨day_exists, hour_lt, minute_lt, second_le⟩
    let t : Timestamp :=
      ⟨⟨year, month, day, day_exists⟩,
        ⟨hour, minute, second, nano, hour_lt, minute_lt, second_le, spelled.nano_lt⟩⟩
    have named : Layout.Fields.timestamp? ⟨year, month, day, hour, minute, second, nano⟩ = some t :=
      Layout.timestamp?_eq_some.mpr ⟨by dsimp only; omega, ⟨rfl, rfl, rfl⟩, rfl, rfl, rfl, rfl⟩
    have moved : (t.backMinutes offset).minutes =
        dayNumber year month day * 1440 + hour * 60 + minute - offset :=
      t.minutes_backMinutes offset
    refine ⟨t.backMinutes offset, by rw [named]; rfl, fun u => ⟨?_, ?_⟩, ?_⟩
    · rintro rfl
      exact ⟨moved, rfl, rfl⟩
    · rintro ⟨same, seconds, nanos⟩
      exact eq_of_minutes (same.trans moved.symm) seconds nanos
    · rintro rfl
      rw [t.backMinutes_zero]
      exact ⟨rfl, rfl, rfl, rfl, rfl⟩
  · intro invalid
    cases named : Layout.Fields.timestamp? ⟨year, month, day, hour, minute, second, nano⟩ with
    | none => rfl
    | some t => exact absurd (Layout.exists_of_timestamp? named) invalid

/-- Half an hour before the end of a year, in a zone that is an hour behind, universal time has the
next year. The leap second and the fraction stay. -/
theorem read?_of_spells_newYear :
    ∃ t, read? " 2023-12-31T23:30:60.5-01:00\n" = some t ∧
      t.date = { year := 2024, month := 1, day := 1 } ∧
      t.time = { hour := 0, minute := 30, second := 60, nano := 500000000 } := by
  let moment : Timestamp :=
    ⟨{ year := 2024, month := 1, day := 1 },
      { hour := 0, minute := 30, second := 60, nano := 500000000 }⟩
  have fraction : Layout.Fraction 500000000 ".5".toList :=
    @Layout.Fraction.digits ['5'] (by decide) (List.all_eq_true.mp (by decide)) (by decide)
  have zone : Layout.Zone (-(1 * 60 + 0)) "-01:00".toList :=
    @Layout.Zone.behind 1 0 (by decide) (by decide)
  have spelled : Layout.Spells 2023 12 31 23 30 60 500000000 (-(1 * 60 + 0))
      "2023-12-31T23:30:60.5-01:00".toList :=
    .internet (by decide) (by decide) (by decide) (by decide) (by decide) fraction zone
  have space : ∀ c ∈ [' '], Text.isBlank c = true := List.all_eq_true.mp (by decide)
  have newline : ∀ c ∈ ['\n'], Text.isBlank c = true := List.all_eq_true.mp (by decide)
  obtain ⟨t, read, only, -⟩ :=
    (read?_of_spells (by decide) spelled space newline).1 (by decide)
  have same : moment = t := (only moment).mpr (by decide)
  exact ⟨t, read, by rw [← same], by rw [← same]⟩

end Timestamp

end SalarySurvey
