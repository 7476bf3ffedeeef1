import SalarySurvey.Csv.Writer
import SalarySurvey.Json.Reader
import SalarySurvey.Main
import SalarySurvey.Proofs.Answers
import SalarySurvey.Proofs.Associations
import SalarySurvey.Proofs.Cells
import SalarySurvey.Proofs.CommandLine
import SalarySurvey.Proofs.CrossOrigin
import SalarySurvey.Proofs.DateFilters
import SalarySurvey.Proofs.DayNumbers
import SalarySurvey.Proofs.Decimals
import SalarySurvey.Proofs.Documents
import SalarySurvey.Proofs.Faults
import SalarySurvey.Proofs.Fields
import SalarySurvey.Proofs.FileTrees
import SalarySurvey.Proofs.Filters
import SalarySurvey.Proofs.FirstRefusal
import SalarySurvey.Proofs.Forms
import SalarySurvey.Proofs.KeyGrammar
import SalarySurvey.Proofs.Layers
import SalarySurvey.Proofs.Loading
import SalarySurvey.Proofs.Lookup
import SalarySurvey.Proofs.Membership
import SalarySurvey.Proofs.MixedCells
import SalarySurvey.Proofs.Moments
import SalarySurvey.Proofs.NumericFilters
import SalarySurvey.Proofs.Numerals
import SalarySurvey.Proofs.PartialSettings
import SalarySurvey.Proofs.Plans
import SalarySurvey.Proofs.Quoting
import SalarySurvey.Proofs.Rendering
import SalarySurvey.Proofs.Requests
import SalarySurvey.Proofs.Runs
import SalarySurvey.Proofs.Shapes
import SalarySurvey.Proofs.Sorting
import SalarySurvey.Proofs.Spellings
import SalarySurvey.Proofs.Toml.Gaps
import SalarySurvey.Proofs.Toml.Integers
import SalarySurvey.Proofs.Toml.Lines
import SalarySurvey.Proofs.Toml.Strings
import SalarySurvey.Proofs.Toml.Tables
import SalarySurvey.Proofs.Toml.Values
import SalarySurvey.Proofs.Utf8
import SalarySurvey.Proofs.WordLists
