import SalarySurvey.Proofs.Rendering

/-!
# Shapes of layouts

The shape of a text is what is left of it without its digits and blanks. A layout fits texts of a
few shapes only: they have its marks in order, perhaps with the sign of a year or the point of a
fraction among them. So the shape of a text rules out most layouts, whatever its numbers are and
however they are padded, and only the layouts of that shape are left to be tried.
-/
namespace SalarySurvey.Layout

/-- A text without its digits and blanks. -/
def shape (text : List Char) : List Char :=
  text.filter fun c => !c.isDigit && !Text.isBlank c

@[simp] theorem shape_nil : shape [] = [] := rfl

@[simp] theorem shape_append (front back : List Char) :
    shape (front ++ back) = shape front ++ shape back :=
  List.filter_append ..

/-- The first character of a text is the first one of the shape, if it belongs to it. -/
theorem shape_cons (c : Char) (rest : List Char) : shape (c :: rest) = shape [c] ++ shape rest :=
  shape_append [c] rest

/-- Digits have no shape. -/
theorem shape_digits {digits : List Char} (numeric : ∀ c ∈ digits, c.isDigit = true) :
    shape digits = [] := by
  rw [shape, List.filter_eq_nil_iff]
  intro c listed
  simp [numeric c listed]

/-- Blanks in front do not change the shape. -/
theorem shape_trimStart (text : List Char) : shape (Text.trimStart text) = shape text := by
  have blanks : shape (text.takeWhile Text.isBlank) = [] := by
    rw [shape, List.filter_eq_nil_iff]
    intro c listed
    simp [List.mem_takeWhile_imp listed]
  calc
    shape (Text.trimStart text) = shape (text.takeWhile Text.isBlank ++ Text.trimStart text) := by
      rw [shape_append, blanks, List.nil_append]
    _ = shape text := congrArg shape List.takeWhile_append_dropWhile

section Readers

variable {text rest : List Char}

/-- A reader of digits keeps the characters of a text. -/
theorem digitsUpTo_append_self (most : Nat) (text : List Char) :
    (digitsUpTo most text).1 ++ (digitsUpTo most text).2 = text := by
  induction most, text using digitsUpTo.induct with
  | case1 text => simp [digitsUpTo]
  | case2 most => simp [digitsUpTo]
  | case3 most c rest numeric digits after taken ih => simpa [digitsUpTo, numeric, taken] using ih
  | case4 most c rest other => simp [digitsUpTo, other]

/-- What a reader of digits leaves has the shape of the text. -/
theorem shape_digitsUpTo (most : Nat) (text : List Char) :
    shape (digitsUpTo most text).2 = shape text := by
  have whole := congrArg shape (digitsUpTo_append_self most text)
  rwa [shape_append, shape_digits isDigit_of_mem_digitsUpTo, List.nil_append] at whole

/-- What a number leaves has the shape of the text. -/
theorem shape_of_number? {most n : Nat} (found : number? most text = some (n, rest)) :
    shape text = shape rest := by
  have kept := shape_digitsUpTo most text
  unfold number? at found
  dsimp only at found
  split at found
  · contradiction
  · simp only [Option.some.injEq, Prod.mk.injEq] at found
    rw [← kept, found.2]

/-- What a number of a fixed width leaves has the shape of the text. -/
theorem shape_of_exactly? {width n : Nat} (found : exactly? width text = some (n, rest)) :
    shape text = shape rest := by
  have kept := shape_digitsUpTo width text
  unfold exactly? at found
  dsimp only at found
  split at found
  · simp only [Option.some.injEq, Prod.mk.injEq] at found
    rw [← kept, found.2]
  · contradiction

/-- What a number behind blanks leaves has the shape of the text. -/
theorem shape_of_field? {n : Nat} (found : field? text = some (n, rest)) :
    shape text = shape rest := by
  rw [← shape_trimStart text]
  exact shape_of_number? found

/-- A year takes its sign from the shape. -/
theorem shape_of_year? {year : Int} (found : year? text = some (year, rest)) :
    ∃ front ∈ [[], ['-'], ['+']], shape text = front ++ shape rest := by
  rw [← shape_trimStart text]
  unfold year? at found
  split at found
  · next digits signed =>
    obtain ⟨⟨n, after⟩, taken, built⟩ := Option.map_eq_some_iff.mp found
    rw [Prod.mk.injEq] at built
    rw [signed, shape_cons, shape_of_number? taken, built.2]
    exact ⟨['-'], by decide, rfl⟩
  · next digits signed =>
    obtain ⟨⟨n, after⟩, taken, built⟩ := Option.map_eq_some_iff.mp found
    rw [Prod.mk.injEq] at built
    rw [signed, shape_cons, shape_of_number? taken, built.2]
    exact ⟨['+'], by decide, rfl⟩
  · obtain ⟨⟨n, after⟩, taken, built⟩ := Option.map_eq_some_iff.mp found
    rw [Prod.mk.injEq] at built
    rw [shape_of_number? taken, built.2]
    exact ⟨[], by decide, rfl⟩

/-- A fraction takes its point from the shape. -/
theorem shape_of_fraction? {n : Nat} (found : fraction? text = some (n, rest)) :
    ∃ front ∈ [[], ['.']], shape text = front ++ shape rest := by
  unfold fraction? at found
  split at found
  · next digits =>
    dsimp only at found
    split at found
    · contradiction
    · simp only [Option.some.injEq, Prod.mk.injEq] at found
      refine ⟨['.'], by decide, ?_⟩
      have numeric : ∀ c ∈ digits.takeWhile Char.isDigit, c.isDigit = true := fun c listed =>
        List.mem_takeWhile_imp listed
      calc
        shape ('.' :: digits) = '.' :: shape digits := shape_cons ..
        _ = '.' :: shape (digits.takeWhile Char.isDigit ++ digits.dropWhile Char.isDigit) := by
          rw [List.takeWhile_append_dropWhile]
        _ = '.' :: shape rest := by
          rw [shape_append, shape_digits numeric, found.2, List.nil_append]
  · simp only [Option.some.injEq, Prod.mk.injEq] at found
    rw [found.2]
    exact ⟨[], by decide, rfl⟩

/-- A mark takes itself from the shape. -/
theorem shape_of_mark? {c : Char} (found : mark? c text = some rest) :
    shape text = shape [c] ++ shape rest := by
  rw [mark?_eq_some found, shape_cons]

end Readers

/-- What a part of a layout may take from the shape of a text. -/
def Part.shapes : Part → List (List Char)
  | .year => [[], ['-'], ['+']]
  | .fraction => [[], ['.']]
  | .mark c => [shape [c]]
  | .month | .day | .hour | .minute | .second | .gap => [[]]

/-- The shapes of the texts of a layout. -/
def shapes : List Part → List (List Char)
  | [] => [[]]
  | part :: parts => part.shapes.flatMap fun front => (shapes parts).map (front ++ ·)

/-- A part takes one of its shapes from that of the text. -/
theorem Part.shape_of_read? {part : Part} {fields result : Fields} {text rest : List Char}
    (found : part.read? fields text = some (result, rest)) :
    ∃ front ∈ part.shapes, shape text = front ++ shape rest := by
  cases part with
  | year =>
    obtain ⟨⟨year, after⟩, taken, built⟩ := Option.map_eq_some_iff.mp found
    rw [← (Prod.mk.inj built).2]
    exact shape_of_year? taken
  | month | day | hour | minute | second =>
    obtain ⟨⟨n, after⟩, taken, built⟩ := Option.map_eq_some_iff.mp found
    rw [← (Prod.mk.inj built).2]
    exact ⟨[], List.mem_singleton_self _, shape_of_field? taken⟩
  | fraction =>
    obtain ⟨⟨n, after⟩, taken, built⟩ := Option.map_eq_some_iff.mp found
    rw [← (Prod.mk.inj built).2]
    exact shape_of_fraction? taken
  | gap =>
    rw [← (Prod.mk.inj (Option.some.inj found)).2, shape_trimStart]
    exact ⟨[], List.mem_singleton_self _, rfl⟩
  | mark c =>
    obtain ⟨after, taken, built⟩ := Option.map_eq_some_iff.mp found
    rw [← (Prod.mk.inj built).2]
    exact ⟨shape [c], List.mem_singleton_self _, shape_of_mark? taken⟩

/-- A text of a layout has one of its shapes. -/
theorem shape_mem_of_readParts? {parts : List Part} {fields result : Fields} {text : List Char}
    (found : readParts? parts fields text = some result) : shape text ∈ shapes parts := by
  induction parts generalizing fields text with
  | nil =>
    cases text with
    | nil => exact List.mem_singleton_self _
    | cons c rest => contradiction
  | cons part parts ih =>
    obtain ⟨⟨next, rest⟩, first, others⟩ := Option.bind_eq_some_iff.mp found
    obtain ⟨front, listed, whole⟩ := part.shape_of_read? first
    rw [whole]
    exact List.mem_flatMap.mpr ⟨front, listed, List.mem_map.mpr ⟨shape rest, ih others, rfl⟩⟩

/-- Only the layouts of its shape are left for a text. -/
theorem findSome?_read? (layouts : List (List Part)) (text : List Char) :
    layouts.findSome? (fun parts => read? parts text) =
      (layouts.filter fun parts => shape text ∈ shapes parts).findSome? fun parts =>
        read? parts text := by
  induction layouts with
  | nil => rfl
  | cons parts layouts ih =>
    rw [List.findSome?_cons]
    by_cases fits : shape text ∈ shapes parts
    · rw [List.filter_cons_of_pos (by simpa using fits), List.findSome?_cons, ih]
    · have refused : read? parts text = none := by
        cases found : readParts? parts {} text with
        | none => simp [read?, found]
        | some fields => exact absurd (shape_mem_of_readParts? found) fits
      rw [List.filter_cons_of_neg (by simpa using fits), refused, ih]

/-- The shapes of an offset from universal time. -/
def offsetShapes : List (List Char) :=
  [['Z'], ['z'], ['+', ':'], ['-', ':'], ['\u2212', ':']]

/-- The shapes of the internet format. -/
def internetShapes : List (List Char) :=
  [['T'], ['t'], []].flatMap fun gap => [[], ['.']].flatMap fun point =>
    offsetShapes.map fun offset => '-' :: '-' :: (gap ++ ':' :: ':' :: (point ++ offset))

/-- An offset takes one of its shapes from that of the text. -/
theorem shape_of_offset? {text rest : List Char} {minutes : Int}
    (found : offset? text = some (minutes, rest)) :
    ∃ front ∈ offsetShapes, shape text = front ++ shape rest := by
  cases text with
  | nil => contradiction
  | cons c text =>
    rw [offset?] at found
    split at found
    · next universal =>
      simp only [Option.some.injEq, Prod.mk.injEq] at found
      rw [shape_cons, found.2]
      rcases universal with rfl | rfl
      · exact ⟨['Z'], by decide, rfl⟩
      · exact ⟨['z'], by decide, rfl⟩
    · split at found
      · next signed =>
        obtain ⟨⟨hours, _⟩, hour, found⟩ := Option.bind_eq_some_iff.mp found
        obtain ⟨_, colon, found⟩ := Option.bind_eq_some_iff.mp found
        obtain ⟨⟨minutes, after⟩, minute, found⟩ := Option.bind_eq_some_iff.mp found
        dsimp only at found
        split at found
        · rw [← (Prod.mk.inj (Option.some.inj found)).2, shape_cons, shape_of_exactly? hour,
            shape_of_mark? colon, shape_of_exactly? minute, ← List.append_assoc]
          rcases signed with rfl | rfl | rfl
          · exact ⟨['+', ':'], by decide, rfl⟩
          · exact ⟨['-', ':'], by decide, rfl⟩
          · exact ⟨['\u2212', ':'], by decide, rfl⟩
        · contradiction
      · contradiction

/-- A text of the internet format has one of its shapes. -/
theorem shape_mem_of_internet? {text : List Char} {t : Timestamp}
    (found : internet? text = some t) : shape text ∈ internetShapes := by
  obtain ⟨⟨_, _⟩, year, found⟩ := Option.bind_eq_some_iff.mp found
  obtain ⟨_, hyphen, found⟩ := Option.bind_eq_some_iff.mp found
  obtain ⟨⟨_, _⟩, month, found⟩ := Option.bind_eq_some_iff.mp found
  obtain ⟨_, second_hyphen, found⟩ := Option.bind_eq_some_iff.mp found
  obtain ⟨⟨_, before⟩, day, found⟩ := Option.bind_eq_some_iff.mp found
  obtain ⟨behind, gap, found⟩ := Option.bind_eq_some_iff.mp found
  obtain ⟨⟨_, _⟩, hour, found⟩ := Option.bind_eq_some_iff.mp found
  obtain ⟨_, colon, found⟩ := Option.bind_eq_some_iff.mp found
  obtain ⟨⟨_, _⟩, minute, found⟩ := Option.bind_eq_some_iff.mp found
  obtain ⟨_, second_colon, found⟩ := Option.bind_eq_some_iff.mp found
  obtain ⟨⟨_, _⟩, second, found⟩ := Option.bind_eq_some_iff.mp found
  obtain ⟨⟨_, _⟩, fraction, found⟩ := Option.bind_eq_some_iff.mp found
  obtain ⟨⟨_, rest⟩, offset, found⟩ := Option.bind_eq_some_iff.mp found
  obtain ⟨_, -, ended⟩ := Option.bind_eq_some_iff.mp found
  have separator : ∃ front ∈ [['T'], ['t'], []], shape before = front ++ shape behind := by
    rw [Option.or_eq_some_iff, Option.or_eq_some_iff] at gap
    rcases gap with upper | ⟨-, lower | ⟨-, blank⟩⟩
    · exact ⟨['T'], by decide, shape_of_mark? upper⟩
    · exact ⟨['t'], by decide, shape_of_mark? lower⟩
    · exact ⟨[], by decide, shape_of_mark? blank⟩
  obtain ⟨gapShape, gapListed, gapWhole⟩ := separator
  obtain ⟨point, pointListed, pointWhole⟩ := shape_of_fraction? fraction
  obtain ⟨zone, zoneListed, zoneWhole⟩ := shape_of_offset? offset
  have ended_here : rest = [] := by
    split at ended
    · next empty => exact List.isEmpty_iff.mp empty
    · contradiction
  have whole : shape text = '-' :: '-' :: (gapShape ++ ':' :: ':' :: (point ++ zone)) := by
    rw [shape_of_exactly? year, shape_of_mark? hyphen, shape_of_exactly? month,
      shape_of_mark? second_hyphen, shape_of_exactly? day, gapWhole, shape_of_exactly? hour,
      shape_of_mark? colon, shape_of_exactly? minute, shape_of_mark? second_colon,
      shape_of_exactly? second, pointWhole, zoneWhole, ended_here, shape_nil, List.append_nil]
    rfl
  rw [whole]
  exact List.mem_flatMap.mpr ⟨gapShape, gapListed,
    List.mem_flatMap.mpr ⟨point, pointListed, List.mem_map.mpr ⟨zone, zoneListed, rfl⟩⟩⟩

/-- A text of another shape is not in the internet format. -/
theorem internet?_eq_none {text : List Char} (other : shape text ∉ internetShapes) :
    internet? text = none := by
  cases found : internet? text with
  | none => rfl
  | some t => exact absurd (shape_mem_of_internet? found) other

end SalarySurvey.Layout
