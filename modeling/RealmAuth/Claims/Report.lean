import RealmAuth.Json.Equality
import RealmAuth.Platform

namespace RealmAuth

/-!
Reports on values that were checked.  A check either gives a value or says what is
wrong, at least one thing, each with its place; checks put side by side report
everything that is wrong in any of them, in order.  A report is told with a title and
an entry for each fault, in which the platform shows what was given there.
-/

/-- What can be wrong with a value. -/
inductive ValueFault where
  | missing
  | notInteger
  | belowRange
  | aboveRange
  | notText
  | notTruth
  | notList
  | notDictionary
  /-- A value is not even an object of the named kind. -/
  | notObject (kind : String)
  deriving DecidableEq

namespace ValueFault

def code : ValueFault → String
  | missing => "missing"
  | notInteger => "int_type"
  | belowRange => "greater_than_equal"
  | aboveRange => "less_than_equal"
  | notText => "string_type"
  | notTruth => "bool_type"
  | notList => "list_type"
  | notDictionary => "dict_type"
  | notObject _ => "model_type"

def message : ValueFault → String
  | missing => "Field required"
  | notInteger => "Input should be a valid integer"
  | belowRange => "Input should be greater than or equal to -9223372036854775808"
  | aboveRange => "Input should be less than or equal to 9223372036854775807"
  | notText => "Input should be a valid string"
  | notTruth => "Input should be a valid boolean"
  | notList => "Input should be a valid list"
  | notDictionary => "Input should be a valid dictionary"
  | notObject kind => "Input should be a valid dictionary or instance of " ++ kind

end ValueFault

/-- A fault and its place: the names and positions that lead to it. -/
structure Detail where
  location : List String
  fault : ValueFault
  deriving DecidableEq

def Detail.within (step : String) (detail : Detail) : Detail :=
  { detail with location := step :: detail.location }

namespace Detail

/-- A step as it is shown between points; one with a point of its own is marked off. -/
def shownStep (step : String) : String :=
  if step.toList.contains '.' then "\x60" ++ step ++ "\x60" else step

/-- The line that tells the place of a fault; the value as a whole has none. -/
def place (detail : Detail) : String :=
  if detail.location.isEmpty then ""
  else ".".intercalate (detail.location.map shownStep) ++ "\n"

def message [Platform] (input : Json) (detail : Detail) : String :=
  let code := detail.fault.code
  detail.place ++ "  " ++ detail.fault.message ++ " [type=" ++ code ++
    Platform.excerpt input detail.location code ++ "]" ++ Platform.hint code

end Detail

/-- All that is wrong with a value, which was to be of some kind. -/
structure Report where
  kind : String
  input : Json
  details : List Detail
  deriving DecidableEq

namespace Report

def title (report : Report) : String :=
  let count := report.details.length
  toString count ++ " validation error" ++ (if count = 1 then "" else "s") ++ " for " ++ report.kind

def message [Platform] (report : Report) : String :=
  "\n".intercalate (report.title :: report.details.map (Detail.message report.input))

end Report

/-- A checked value: good, or faulty for at least one reason. -/
inductive Checked (α : Type) where
  | good (value : α)
  | faulty (first : Detail) (others : List Detail)

namespace Checked

variable {α β : Type}

def details : Checked α → List Detail
  | good _ => []
  | faulty first others => first :: others

def value? : Checked α → Option α
  | good value => some value
  | faulty _ _ => none

def fault (fault : ValueFault) : Checked α :=
  faulty ⟨[], fault⟩ []

def within (step : String) : Checked α → Checked α
  | good value => good value
  | faulty first others => faulty (first.within step) (others.map (Detail.within step))

def map (f : α → β) : Checked α → Checked β
  | good value => good (f value)
  | faulty first others => faulty first others

/-- A checked function at a checked value; what is wrong with either is reported. -/
def ap (f : Checked (α → β)) (x : Checked α) : Checked β :=
  match f, x with
  | good f, good value => good (f value)
  | good _, faulty first others => faulty first others
  | faulty first others, x => faulty first (others ++ x.details)

instance : Functor Checked where
  map f x := Checked.map f x

instance : Applicative Checked where
  pure := good
  seq f x := ap f (x ())

/-- A checked value, or the report on what is wrong with it. -/
def result (kind : String) (input : Json) : Checked α → Except Report α
  | good value => .ok value
  | faulty first others => .error ⟨kind, input, first :: others⟩

@[simp] theorem details_map (f : α → β) (x : Checked α) : (f <$> x).details = x.details := by
  cases x <;> rfl

/-- Side by side, the reports follow one another. -/
@[simp] theorem details_seq (f : Checked (α → β)) (x : Checked α) :
    (f <*> x).details = f.details ++ x.details := by
  cases f <;> cases x <;> simp [Seq.seq, ap, details]

/-- Side by side, there is a value exactly when both sides have one. -/
theorem value?_seq (f : Checked (α → β)) (x : Checked α) :
    (f <*> x).value? = (f.value?).bind fun f => x.value?.map f := by
  cases f <;> cases x <;> rfl

@[simp] theorem value?_map (f : α → β) (x : Checked α) : (f <$> x).value? = x.value?.map f := by
  cases x <;> rfl

theorem details_within (step : String) (x : Checked α) :
    (x.within step).details = x.details.map (Detail.within step) := by
  cases x <;> rfl

theorem value?_within (step : String) (x : Checked α) : (x.within step).value? = x.value? := by
  cases x <;> rfl

end Checked
end RealmAuth
