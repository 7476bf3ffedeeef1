import SalarySurvey.Command.Arguments
import SalarySurvey.Proofs.Associations
import SalarySurvey.Proofs.Loading

/-!
# Command lines

A command line spells options, each at most once. A value stands behind an equals sign, in the next
argument if that does not begin with a dash, or right behind the letter of its option. However the
options are spelled and ordered, the arguments read are what each of them gives, and nothing else.
-/
namespace SalarySurvey.Command

namespace ValueOption

/-- The long name of an option. -/
def name : ValueOption → String
  | config => "config"
  | host => "host"
  | port => "port"
  | dataset => "dataset"

/-- The letter of an option. -/
def letter? : ValueOption → Option Char
  | config => some 'c'
  | host => none
  | port => some 'p'
  | dataset => some 'd'

/-- Whether an option takes a value: no empty path, and a number of 16 bits as the port. -/
def Takes (option : ValueOption) (value : String) : Prop :=
  match option with
  | config | dataset => value ≠ ""
  | host => True
  | port => (Arguments.port? value).isSome

instance (option : ValueOption) (value : String) : Decidable (option.Takes value) :=
  match option with
  | config | dataset => inferInstanceAs (Decidable (value ≠ ""))
  | host => inferInstanceAs (Decidable True)
  | port => inferInstanceAs (Decidable ((Arguments.port? value).isSome = true))

end ValueOption

/-- Whether an argument is a value of the option before it: it begins with no dash, or is one. -/
def StandsAlone (value : String) : Prop :=
  value.toList.head? ≠ some '-' ∨ value = "-"
  deriving Decidable

/-- The ways to give an option a value. -/
inductive Spelling (option : ValueOption) (value : String) : List String → Prop where
  /-- Behind the name and an equals sign. -/
  | joined : Spelling option value ["--" ++ option.name ++ "=" ++ value]
  /-- As the argument behind the name. -/
  | apart (alone : StandsAlone value) : Spelling option value ["--" ++ option.name, value]
  /-- Right behind the letter. -/
  | attached {letter : Char} (short : option.letter? = some letter) (filled : value ≠ "")
    (plain : value.toList.head? ≠ some '=') :
    Spelling option value ["-" ++ letter.toString ++ value]
  /-- Behind the letter and an equals sign. -/
  | equated {letter : Char} (short : option.letter? = some letter) :
    Spelling option value ["-" ++ letter.toString ++ "=" ++ value]
  /-- As the argument behind the letter. -/
  | next {letter : Char} (short : option.letter? = some letter) (alone : StandsAlone value) :
    Spelling option value ["-" ++ letter.toString, value]

theorem Spelling.length_pos {option : ValueOption} {value : String} {texts : List String}
    (spelling : Spelling option value texts) : 0 < texts.length := by
  cases spelling <;> simp

/-- An option with its value. -/
abbrev Given := ValueOption × String

/-- The command lines of some options. Two dashes may end them. -/
inductive CommandLine : List String → List Given → Prop where
  /-- No arguments. -/
  | empty : CommandLine [] []
  /-- The end of the options. -/
  | ended : CommandLine ["--"] []
  /-- An option in front of others. -/
  | option {option : ValueOption} {value : String} {texts rest : List String}
    {others : List Given} (spelling : Spelling option value texts) (taken : option.Takes value)
    (once : option ∉ others.map Prod.fst) (line : CommandLine rest others) :
    CommandLine (texts ++ rest) ((option, value) :: others)

namespace Arguments

/-- The arguments that some options give on top of others. -/
def give (arguments : Arguments) (options : List Given) : Arguments where
  config := arguments.config.or (options.lookup .config)
  host := arguments.host.or (options.lookup .host)
  port := arguments.port.or ((options.lookup .port).bind port?)
  dataset := arguments.dataset.or (options.lookup .dataset)
  printConfig := arguments.printConfig

/-- Whether an option has no value yet. -/
def Lacks (arguments : Arguments) : ValueOption → Prop
  | .config => arguments.config = none
  | .host => arguments.host = none
  | .port => arguments.port = none
  | .dataset => arguments.dataset = none

variable {arguments : Arguments} {option : ValueOption} {value : String} {texts rest : List String}
  {final : Arguments}

/-- A setting is given once exactly when there was none and there is one now. -/
theorem once_eq_ok {α : Type} {current found next : Option α} :
    once current found = .ok next ↔ current = none ∧ found.isSome ∧ found = next := by
  cases current with
  | some value => simp [once]
  | none => cases found <;> simp [once]

theorem isSome_path? : (path? value).isSome ↔ value ≠ "" := by
  by_cases empty : value = "" <;> simp [path?, empty]

/-- An option that lacks a value gets one that it takes. -/
theorem set_of_lacks (lacks : arguments.Lacks option) (taken : option.Takes value) :
    arguments.set option value = .ok (arguments.give [(option, value)]) := by
  cases option with
  | config =>
    simp_all [Lacks, ValueOption.Takes, set, give, once, path?, Except.map, lookup_cons_eq_ite]
  | host => simp_all [Lacks, set, give, once, Except.map, lookup_cons_eq_ite]
  | port => simp_all [Lacks, ValueOption.Takes, set, give, once, Except.map, lookup_cons_eq_ite]
  | dataset =>
    simp_all [Lacks, ValueOption.Takes, set, give, once, path?, Except.map, lookup_cons_eq_ite]

/-- A value is set exactly for an option that lacks one and takes this one. -/
theorem set_eq_ok : arguments.set option value = .ok final ↔
    arguments.Lacks option ∧ option.Takes value ∧ final = arguments.give [(option, value)] := by
  constructor
  · intro accepted
    have fine : arguments.Lacks option ∧ option.Takes value := by
      cases option <;>
        simp only [set, map_eq_ok, once_eq_ok, isSome_path?] at accepted <;>
        obtain ⟨_, ⟨lacks, taken, -⟩, -⟩ := accepted
      · exact ⟨lacks, taken⟩
      · exact ⟨lacks, trivial⟩
      · exact ⟨lacks, taken⟩
      · exact ⟨lacks, taken⟩
    rw [set_of_lacks fine.1 fine.2] at accepted
    exact ⟨fine.1, fine.2, (Except.ok.inj accepted).symm⟩
  · rintro ⟨lacks, taken, rfl⟩
    exact set_of_lacks lacks taken

/-- A value that stands alone is set for the option in front of it. -/
theorem readFrom_alone (alone : StandsAlone value) :
    readFrom (arguments, some option) (value :: rest) =
      (do readFrom (← arguments.set option value, none) rest) := by
  rcases alone with plain | rfl
  · match chars : value.toList with
    | [] => simp [readFrom, chars]
    | [_] => simp [readFrom, chars]
    | first :: second :: others =>
      have other : first ≠ '-' := by simpa [chars] using plain
      simp [readFrom, chars, other]
  · rfl

section Long

/-- An argument behind two dashes is read by its name. -/
theorem readFrom_long {written : String} (text : List Char)
    (spelled : written.toList = '-' :: '-' :: text) (named : text ≠ []) :
    readFrom (arguments, none) (written :: rest) =
      (do readFrom (← readLong arguments text) rest) := by
  match text with
  | [] => contradiction
  | c :: more => simp [readFrom, spelled]

theorem name_ne_nil (option : ValueOption) : option.name.toList ≠ [] := by
  cases option <;> decide

theorem longOption?_name (option : ValueOption) : longOption? option.name = some option := by
  cases option <;> rfl

/-- No name has an equals sign. -/
theorem ne_equals_of_mem_name : ∀ c ∈ option.name.toList, (c != '=') = true := by
  rw [← List.all_eq_true]
  cases option <;> rfl

/-- A name alone waits for its value. -/
theorem readLong_name : readLong arguments option.name.toList = .ok (arguments, some option) := by
  cases option <;> rfl

/-- A value behind the name and an equals sign is set. -/
theorem readLong_joined : readLong arguments (option.name.toList ++ '=' :: value.toList) =
    (arguments.set option value).map fun arguments => (arguments, none) := by
  rw [readLong, List.takeWhile_append_of_pos ne_equals_of_mem_name,
    List.dropWhile_append_of_pos ne_equals_of_mem_name]
  simp [longOption?_name]

end Long

section Short

variable {letter : Char}

/-- An argument behind one dash is read by its letter. -/
theorem readFrom_short {written : String} (text : List Char) (other : letter ≠ '-')
    (spelled : written.toList = '-' :: letter :: text) :
    readFrom (arguments, none) (written :: rest) =
      (do readFrom (← readShort arguments letter text) rest) := by
  simp [readFrom, spelled, other]

theorem ne_dash_of_letter? (short : option.letter? = some letter) : letter ≠ '-' := by
  cases option <;> cases short <;> decide

theorem shortOption?_letter (short : option.letter? = some letter) :
    shortOption? letter = some option := by
  cases option <;> cases short <;> rfl

/-- A letter alone waits for its value. -/
theorem readShort_letter (short : option.letter? = some letter) :
    readShort arguments letter [] = .ok (arguments, some option) := by
  simp [readShort, shortOption?_letter short]

/-- A value behind the letter and an equals sign is set. -/
theorem readShort_equated (short : option.letter? = some letter) :
    readShort arguments letter ('=' :: value.toList) =
      (arguments.set option value).map fun arguments => (arguments, none) := by
  simp [readShort, shortOption?_letter short]

/-- A value right behind the letter is set. -/
theorem readShort_attached (short : option.letter? = some letter) (filled : value ≠ "")
    (plain : value.toList.head? ≠ some '=') :
    readShort arguments letter value.toList =
      (arguments.set option value).map fun arguments => (arguments, none) := by
  match chars : value.toList with
  | [] => exact absurd (String.toList_eq_nil_iff.mp chars) filled
  | first :: others =>
    have other : first ≠ '=' := by simpa [chars] using plain
    have whole : String.ofList (first :: others) = value := by rw [← chars, String.ofList_toList]
    simp [readShort, shortOption?_letter short, other, whole]

end Short

/-- A spelled option is read, whatever follows it. -/
theorem readFrom_spelling (spelling : Spelling option value texts) :
    readFrom (arguments, none) (texts ++ rest) =
      (do readFrom (← arguments.set option value, none) rest) := by
  have placed : (do
        readFrom (← (arguments.set option value).map fun arguments => (arguments, none)) rest) =
      (do readFrom (← arguments.set option value, none) rest) := by
    cases arguments.set option value <;> rfl
  cases spelling with
  | joined =>
    rw [List.singleton_append, readFrom_long (option.name.toList ++ '=' :: value.toList) (by simp)
      (by simp), readLong_joined, placed]
  | apart alone =>
    rw [List.cons_append, List.singleton_append, readFrom_long option.name.toList (by simp)
      (name_ne_nil option), readLong_name]
    exact readFrom_alone alone
  | attached short filled plain =>
    rw [List.singleton_append, readFrom_short value.toList (ne_dash_of_letter? short) (by simp),
      readShort_attached short filled plain, placed]
  | equated short =>
    rw [List.singleton_append,
      readFrom_short ('=' :: value.toList) (ne_dash_of_letter? short) (by simp),
      readShort_equated short, placed]
  | next short alone =>
    rw [List.cons_append, List.singleton_append,
      readFrom_short [] (ne_dash_of_letter? short) (by simp), readShort_letter short]
    exact readFrom_alone alone

variable {options : List Given}

/-- What is given later is added to what is given first. -/
theorem give_cons (others : List Given) (taken : option.Takes value) :
    arguments.give ((option, value) :: others) =
      (arguments.give [(option, value)]).give others := by
  cases option with
  | port =>
    obtain ⟨port, known⟩ := Option.isSome_iff_exists.mp taken
    simp [give, lookup_cons_eq_ite, known]
  | _ => simp [give, lookup_cons_eq_ite]

/-- An option that is not given lacks a value as before. -/
theorem lacks_give {other : ValueOption} (different : other ≠ option) :
    (arguments.give [(option, value)]).Lacks other ↔ arguments.Lacks other := by
  cases other <;> simp [Lacks, give, lookup_cons_eq_ite, different]

/-- An option that is given does not lack a value. -/
theorem not_lacks_give (taken : option.Takes value) :
    ¬(arguments.give [(option, value)]).Lacks option := by
  cases option with
  | port =>
    obtain ⟨port, known⟩ := Option.isSome_iff_exists.mp taken
    simp [Lacks, give, lookup_cons_eq_ite, known]
  | _ => simp [Lacks, give, lookup_cons_eq_ite]

/-- The arguments of a command line are those that its options give. -/
theorem readFrom_commandLine (line : CommandLine texts options)
    (lacks : ∀ option ∈ options.map Prod.fst, arguments.Lacks option) :
    readFrom (arguments, none) texts = .ok (arguments.give options) := by
  induction line generalizing arguments with
  | empty => simp [readFrom, give]
  | ended => simp [readFrom, give]
  | @option option value _ _ others spelling taken once line ih =>
    rw [readFrom_spelling spelling, set_of_lacks (lacks option (by simp)) taken,
      give_cons others taken]
    apply ih
    intro other listed
    have different : other ≠ option := fun same => once (same ▸ listed)
    exact (lacks_give different).mpr (lacks other (List.mem_cons_of_mem _ listed))

section Converse

theorem eq_name_of_longOption? {name : String} (known : longOption? name = some option) :
    name = option.name := by
  have listed := mem_of_lookup known
  simp only [List.mem_cons, Prod.mk.injEq, List.not_mem_nil, or_false] at listed
  rcases listed with ⟨rfl, rfl⟩ | ⟨rfl, rfl⟩ | ⟨rfl, rfl⟩ | ⟨rfl, rfl⟩ <;> rfl

theorem letter?_of_shortOption? {letter : Char} (known : shortOption? letter = some option) :
    option.letter? = some letter := by
  have listed := mem_of_lookup known
  simp only [List.mem_cons, Prod.mk.injEq, List.not_mem_nil, or_false] at listed
  rcases listed with ⟨rfl, rfl⟩ | ⟨rfl, rfl⟩ | ⟨rfl, rfl⟩ <;> rfl

/-- What an argument behind two dashes can be. -/
theorem readLong_eq_ok {text : List Char} {reading : Reading}
    (accepted : readLong arguments text = .ok reading) :
    (∃ option : ValueOption, text = option.name.toList ∧ reading = (arguments, some option)) ∨
    (∃ (option : ValueOption) (value : String) (next : Arguments),
      text = option.name.toList ++ '=' :: value.toList ∧ arguments.set option value = .ok next ∧
        reading = (next, none)) ∨
    reading = ({ arguments with printConfig := true }, none) := by
  have whole : (String.ofList (text.takeWhile (· != '='))).toList ++ text.dropWhile (· != '=') =
      text := by
    rw [String.toList_ofList, List.takeWhile_append_dropWhile]
  rw [readLong] at accepted
  split at accepted
  · next option known ends =>
    rw [eq_name_of_longOption? known, ends, List.append_nil] at whole
    exact .inl ⟨option, whole.symm, (Except.ok.inj accepted).symm⟩
  · next option mark value known behind =>
    have sign : mark = '=' := by
      have head := List.head?_dropWhile_not (· != '=') text
      simpa [behind] using head
    obtain ⟨next, placed, rfl⟩ := map_eq_ok.mp accepted
    rw [eq_name_of_longOption? known, behind, sign] at whole
    exact .inr (.inl ⟨option, String.ofList value, next, by simp [← whole], placed, rfl⟩)
  · obtain ⟨next, flagged, rfl⟩ := map_eq_ok.mp accepted
    unfold setFlag at flagged
    split at flagged
    · cases flagged
    · split at flagged
      · cases flagged
      · split at flagged
        · cases flagged
          exact .inr (.inr rfl)
        · cases flagged
  · cases accepted

/-- What an argument behind one dash can be. -/
theorem readShort_eq_ok {letter : Char} {text : List Char} {reading : Reading}
    (accepted : readShort arguments letter text = .ok reading) :
    ∃ option : ValueOption, option.letter? = some letter ∧
      (text = [] ∧ reading = (arguments, some option) ∨
      ∃ (value : String) (next : Arguments),
        (text = '=' :: value.toList ∨
          text = value.toList ∧ value ≠ "" ∧ value.toList.head? ≠ some '=') ∧
        arguments.set option value = .ok next ∧ reading = (next, none)) := by
  unfold readShort at accepted
  split at accepted
  · next option known =>
    exact ⟨option, letter?_of_shortOption? known, .inl ⟨rfl, (Except.ok.inj accepted).symm⟩⟩
  · next option c rest known =>
    obtain ⟨next, placed, rfl⟩ := map_eq_ok.mp accepted
    refine ⟨option, letter?_of_shortOption? known, .inr ⟨_, next, ?_, placed, rfl⟩⟩
    by_cases sign : c = '='
    · simp [sign]
    · simp [sign]
  · split at accepted
    · cases accepted
    · split at accepted <;> cases accepted

/-- A value that is waited for stands alone. -/
theorem readFrom_pending_eq_ok (accepted : readFrom (arguments, some option) texts = .ok final) :
    ∃ value rest next, texts = value :: rest ∧ StandsAlone value ∧
      arguments.set option value = .ok next ∧ readFrom (next, none) rest = .ok final := by
  match texts with
  | [] => simp [readFrom] at accepted
  | value :: rest =>
    have alone : StandsAlone value := by
      by_cases dashed : value.toList.head? = some '-'
      · obtain ⟨more, chars⟩ := List.head?_eq_some_iff.mp dashed
        cases more with
        | nil => exact .inr (String.toList_injective chars)
        | cons c more => simp [readFrom, chars] at accepted
      · exact .inl dashed
    rw [readFrom_alone alone] at accepted
    obtain ⟨next, placed, behind⟩ := bind_eq_ok.mp accepted
    exact ⟨value, rest, next, rfl, alone, placed, behind⟩

/-- A spelled option stands in front of what is read. -/
def Spells (arguments : Arguments) (texts : List String) (final : Arguments) : Prop :=
  ∃ option value next front behind, texts = front ++ behind ∧ Spelling option value front ∧
    arguments.set option value = .ok next ∧ readFrom (next, none) behind = .ok final

/-- An argument behind two dashes is part of a spelled option or asks for the default settings. -/
theorem spells_of_readLong {text : String} {name : List Char} {reading : Reading}
    (chars : text.toList = '-' :: '-' :: name) (here : readLong arguments name = .ok reading)
    (behind : readFrom reading rest = .ok final) :
    arguments.Spells (text :: rest) final ∨
      readFrom ({ arguments with printConfig := true }, none) rest = .ok final := by
  rcases readLong_eq_ok here with ⟨option, named, rfl⟩ | ⟨option, value, next, named, placed, rfl⟩ |
    rfl
  · obtain ⟨value, others, next, rfl, alone, placed, behind⟩ := readFrom_pending_eq_ok behind
    have spelled : text = "--" ++ option.name :=
      String.toList_injective (by simp [chars, named])
    exact .inl ⟨option, value, next, [text, value], others, rfl, spelled ▸ .apart alone, placed,
      behind⟩
  · have spelled : text = "--" ++ option.name ++ "=" ++ value :=
      String.toList_injective (by simp [chars, named])
    exact .inl ⟨option, value, next, [text], rest, rfl, spelled ▸ .joined, placed, behind⟩
  · exact .inr behind

/-- An argument behind one dash is part of a spelled option. -/
theorem spells_of_readShort {text : String} {letter : Char} {more : List Char} {reading : Reading}
    (chars : text.toList = '-' :: letter :: more)
    (here : readShort arguments letter more = .ok reading)
    (behind : readFrom reading rest = .ok final) : arguments.Spells (text :: rest) final := by
  obtain ⟨option, short, ⟨rfl, rfl⟩ | ⟨value, next, rfl | ⟨rfl, filled, plain⟩, placed, rfl⟩⟩ :=
    readShort_eq_ok here
  · obtain ⟨value, others, next, rfl, alone, placed, behind⟩ := readFrom_pending_eq_ok behind
    have spelled : text = "-" ++ letter.toString :=
      String.toList_injective (by simp [chars])
    exact ⟨option, value, next, [text, value], others, rfl, spelled ▸ .next short alone, placed,
      behind⟩
  · have spelled : text = "-" ++ letter.toString ++ "=" ++ value :=
      String.toList_injective (by simp [chars])
    exact ⟨option, value, next, [text], rest, rfl, spelled ▸ .equated short, placed, behind⟩
  · have spelled : text = "-" ++ letter.toString ++ value :=
      String.toList_injective (by simp [chars])
    exact ⟨option, value, next, [text], rest, rfl, spelled ▸ .attached short filled plain, placed,
      behind⟩

/-- What the reader does with the first argument. -/
theorem spells_of_readFrom {text : String}
    (accepted : readFrom (arguments, none) (text :: rest) = .ok final) :
    text = "--" ∧ rest = [] ∧ final = arguments ∨ arguments.Spells (text :: rest) final ∨
      readFrom ({ arguments with printConfig := true }, none) rest = .ok final := by
  match chars : text.toList with
  | [] => simp [readFrom, chars] at accepted
  | first :: more =>
    by_cases dashed : first = '-'
    · subst dashed
      match more with
      | [] => simp [readFrom, chars] at accepted
      | letter :: more =>
        by_cases long : letter = '-'
        · subst long
          match more with
          | [] =>
            simp only [readFrom, chars, List.isEmpty_iff] at accepted
            split at accepted
            · next ends =>
              exact .inl ⟨String.toList_injective chars, ends, (Except.ok.inj accepted).symm⟩
            · cases accepted
          | c :: name =>
            rw [readFrom_long (c :: name) chars (by simp)] at accepted
            obtain ⟨reading, here, behind⟩ := bind_eq_ok.mp accepted
            exact .inr (spells_of_readLong chars here behind)
        · rw [readFrom_short more long chars] at accepted
          obtain ⟨reading, here, behind⟩ := bind_eq_ok.mp accepted
          exact .inr (.inl (spells_of_readShort chars here behind))
    · simp [readFrom, chars, dashed] at accepted

/-- Arguments that are read, except for a request of the default settings, are those that the
options of a command line give. -/
theorem commandLine_of_readFrom (serves : final.printConfig = false) :
    ∀ texts arguments, readFrom (arguments, none) texts = .ok final →
      ∃ options, CommandLine texts options ∧
        (∀ option ∈ options.map Prod.fst, arguments.Lacks option) ∧
        final = arguments.give options
  | [], arguments, accepted => by
    refine ⟨[], .empty, by simp, ?_⟩
    simpa [readFrom, give] using accepted.symm
  | text :: rest, arguments, accepted => by
    rcases spells_of_readFrom accepted with ⟨rfl, rfl, rfl⟩ |
      ⟨option, value, next, front, behind, parts, spelling, placed, accepted⟩ | accepted
    · exact ⟨[], .ended, by simp, by simp [give]⟩
    · have shorter : behind.length < (text :: rest).length := by
        have filled := spelling.length_pos
        rw [parts, List.length_append]
        omega
      obtain ⟨lacks, taken, rfl⟩ := set_eq_ok.mp placed
      obtain ⟨options, line, others, same⟩ := commandLine_of_readFrom serves behind _ accepted
      have once : option ∉ options.map Prod.fst := fun listed =>
        not_lacks_give taken (others option listed)
      refine ⟨(option, value) :: options, parts ▸ .option spelling taken once line, ?_, ?_⟩
      · intro other listed
        rcases List.mem_cons.mp listed with rfl | listed
        · exact lacks
        · have different : other ≠ option := fun same => once (same ▸ listed)
          exact (lacks_give different).mp (others other listed)
      · rw [same, give_cons options taken]
    · obtain ⟨options, -, -, same⟩ := commandLine_of_readFrom serves rest _ accepted
      rw [same] at serves
      cases serves
termination_by texts => texts.length
decreasing_by
  · exact shorter
  · exact Nat.lt_succ_self rest.length

end Converse

/-- A command line is read, but for a request of the default settings, exactly when it is one of
some options, and the arguments are those that they give. -/
theorem read_eq_ok_iff (serves : final.printConfig = false) :
    read texts = .ok final ↔ ∃ options, CommandLine texts options ∧ final = give {} options := by
  constructor
  · intro accepted
    obtain ⟨options, line, -, same⟩ := commandLine_of_readFrom serves texts {} accepted
    exact ⟨options, line, same⟩
  · rintro ⟨options, line, rfl⟩
    apply readFrom_commandLine line
    rintro option -
    cases option <;> rfl

end Arguments

end SalarySurvey.Command
