/-!
# The columns of the survey

The survey has 27 columns, each with one canonical name. The order of the columns is the order in
the source file; headers there may be any texts, and the canonical names stand for them by
position.
-/
namespace SalarySurvey

/-- A column of the survey. -/
inductive Column where
  /-- When the answer was given. -/
  | timestamp
  /-- The kind of employment. -/
  | employmentType
  /-- The employer. -/
  | companyName
  /-- The number of employees of the employer. -/
  | companySize
  /-- The country of work. -/
  | country
  /-- The city of work. -/
  | city
  /-- The industry of the employer. -/
  | industry
  /-- Whether the employer is public or private. -/
  | companyType
  /-- Years of experience in the industry. -/
  | industryYears
  /-- Years of experience at the employer. -/
  | currentYears
  /-- The title of the job. -/
  | jobTitle
  /-- The career ladder of the job. -/
  | jobLadder
  /-- The level on the ladder. -/
  | jobLevel
  /-- Hours of work expected in a week. -/
  | requiredHours
  /-- Hours of work done in a week. -/
  | actualHours
  /-- The highest degree. -/
  | education
  /-- The base salary of a year. -/
  | salary
  /-- The bonus of a year. -/
  | bonus
  /-- The value of stock given in a year. -/
  | stock
  /-- Whether health insurance is offered. -/
  | insurance
  /-- Weeks of vacation in a year. -/
  | vacation
  /-- Whether the job is a happy one. -/
  | happyOnCurrentPosition
  /-- Whether a resignation is planned. -/
  | resignInTheNext12Months
  /-- Thoughts about the direction of the industry. -/
  | thoughts
  /-- The gender. -/
  | gender
  /-- The last question of the form. -/
  | finalQuestion
  /-- Whether a boot camp was attended. -/
  | bootcampAttend
  deriving DecidableEq

namespace Column

/-- The canonical name. -/
def name : Column → String
  | timestamp => "timestamp"
  | employmentType => "employment_type"
  | companyName => "company_name"
  | companySize => "company_size"
  | country => "country"
  | city => "city"
  | industry => "industry"
  | companyType => "company_type"
  | industryYears => "industry_years"
  | currentYears => "current_years"
  | jobTitle => "job_title"
  | jobLadder => "job_ladder"
  | jobLevel => "job_level"
  | requiredHours => "required_hours"
  | actualHours => "actual_hours"
  | education => "education"
  | salary => "salary"
  | bonus => "bonus"
  | stock => "stock"
  | insurance => "insurance"
  | vacation => "vacation"
  | happyOnCurrentPosition => "happy_on_current_position"
  | resignInTheNext12Months => "resign_in_the_next_12_months"
  | thoughts => "thoughts"
  | gender => "gender"
  | finalQuestion => "final_question"
  | bootcampAttend => "bootcamp_attend"

/-- Every column, in the order of the source file. -/
def all : List Column :=
  [timestamp, employmentType, companyName, companySize, country, city, industry, companyType,
   industryYears, currentYears, jobTitle, jobLadder, jobLevel, requiredHours, actualHours,
   education, salary, bonus, stock, insurance, vacation, happyOnCurrentPosition,
   resignInTheNext12Months, thoughts, gender, finalQuestion, bootcampAttend]

/-- The number of columns. -/
abbrev count : Nat := 27

/-- The position of a column in the source file. -/
def index (column : Column) : Fin count :=
  ⟨column.ctorIdx, by cases column <;> decide⟩

/-- The column with a canonical name. -/
def ofName? (name : String) : Option Column :=
  all.find? fun column => column.name == name

/-- A canonical name belongs to one column. -/
theorem ofName?_name (column : Column) : ofName? column.name = some column := by
  cases column <;> decide

/-- Only the canonical name of a column finds it. -/
theorem name_of_ofName? {name : String} {column : Column} (found : ofName? name = some column) :
    column.name = name := by
  simpa using List.find?_some found

end Column

/-- One value for each column, by position. -/
abbrev PerColumn (α : Type) := Vector α Column.count

/-- The value for a column. -/
def PerColumn.at {α : Type} (values : PerColumn α) (column : Column) : α :=
  values[column.index]

end SalarySurvey
