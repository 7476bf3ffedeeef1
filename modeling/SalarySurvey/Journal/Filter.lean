import SalarySurvey.Journal.Directive

/-!
# Filters of the journal

A filter is a list of directives with commas between them, such as `warn,compensation_api=debug`.
The most special directive that can decide about an event does; of two that are as special as each
other the later one does. An event that none decides about is not shown.
-/
namespace SalarySurvey

/-- A filter. -/
structure Filter where
  /-- The directives, in order. -/
  directives : List Directive
  deriving DecidableEq

namespace Filter

/-- The filter that shows nothing. -/
def nothing : Filter := ⟨[]⟩

/-- The filter that shows errors only. -/
def errors : Filter := ⟨[{ verbosity := Verbosity.errors }]⟩

/-- The texts of the directives. -/
def pieces (text : String) : List (List Char) :=
  (text.toList.splitOn ',').filter fun piece => !piece.isEmpty

/-- The filter of a text, or what is wrong with its first bad directive. Without any directive,
errors are shown. -/
def ofText (text : String) : Except DirectiveError Filter := do
  match ← (pieces text).mapM Directive.ofText with
  | [] => .ok errors
  | directives => .ok ⟨directives⟩

/-- What is said about a text that is no directive. -/
def remark (piece : List Char) (error : DirectiveError) : String :=
  "ignoring `" ++ String.ofList piece ++ "`: " ++ error.message

/-- The directives among some texts, and what is said about the others. There are none if one of
the texts would be cut inside a character. -/
def readPieces? : List (List Char) → Option (List Directive × List String)
  | [] => some ([], [])
  | piece :: rest => do
    let (directives, remarks) ← readPieces? rest
    match Directive.ofText piece with
    | .ok directive => some (directive :: directives, remarks)
    | .error .cutCharacter => none
    | .error error => some (directives, remark piece error :: remarks)

/-- The filter for a level of the settings, which bad directives are left out of, and what is said
about those. -/
def ofLevel? (level : String) : Option (Filter × List String) :=
  (readPieces? (pieces ("compensation_api=" ++ level))).map fun (directives, remarks) =>
    (⟨directives⟩, remarks)

/-- The filter in force, with remarks: that of the environment if it can be understood, else the
one for the level of the settings. There is none if a directive would be cut inside a character. -/
def choose? (environment : Option String) (level : String) : Option (Filter × List String) :=
  match environment.map ofText with
  | some (.ok filter) => some (filter, [])
  | some (.error .cutCharacter) => none
  | _ => ofLevel? level

/-- The more special of two directives that decide, the second one if they are as special as each
other. -/
def moreSpecial (best : Option Directive) (directive : Directive) : Option Directive :=
  match best with
  | none => some directive
  | some kept => if (kept.compare directive).isLE then some directive else some kept

/-- The directive that decides about an event. -/
def decider? (filter : Filter) (event : Event) : Option Directive :=
  (filter.directives.filter fun directive => directive.decidesAbout event).foldl moreSpecial none

/-- Whether an event is shown. -/
def shows (filter : Filter) (event : Event) : Bool :=
  (filter.decider? event).any fun directive => event.level.detail ≤ directive.verbosity

/-- The events that are shown. -/
def apply (filter : Filter) (journal : Journal) : Journal :=
  journal.filter filter.shows

end Filter

end SalarySurvey
