import MarkdownCheck.Text.Quoted

/-!
# Issues with settings

A setting that cannot be used is refused with an `Issue`: where it stands and what is wrong with it.
All issues of one subject make up a `Rejection`, and `Rejection.message` lists them.
-/

namespace MarkdownCheck

/-- What is wrong with a setting. -/
inductive Problem where
  /-- It is none of the accepted words. -/
  | notAccepted (words : List String)
  /-- It is no integer, nor anything that could be read as one. -/
  | notInteger
  | notNumeral
  | notFinite
  | fractional
  | tooLarge
  | belowOne
  /-- It is no switch, nor anything that could be read as one. -/
  | notSwitch
  | unclearSwitch
  | notObject
  /-- Two names of rules differ in case only. -/
  | repeatedRule (name : String)
deriving DecidableEq, Repr

namespace Problem

/-- The words in single quotes, with commas between them and `or` before the last. -/
def alternatives : List String → String
  | [] => ""
  | [w] => "'" ++ w ++ "'"
  | [v, w] => "'" ++ v ++ "' or '" ++ w ++ "'"
  | w :: rest => "'" ++ w ++ "', " ++ alternatives rest

def text : Problem → String
  | notAccepted words => "Input should be " ++ alternatives words
  | notInteger => "Input should be a valid integer"
  | notNumeral => "Input should be a valid integer, unable to parse string as an integer"
  | notFinite => "Input should be a finite number"
  | fractional => "Input should be a valid integer, got a number with a fractional part"
  | tooLarge => "Unable to parse input string as an integer, exceeded maximum size"
  | belowOne => "Input should be greater than or equal to 1"
  | notSwitch => "Input should be a valid boolean"
  | unclearSwitch => "Input should be a valid boolean, unable to interpret input"
  | notObject => "Input should be a valid dictionary"
  | repeatedRule name => "Value error, Rule " ++ quoted name ++ " is configured more than once"

/-- The short name of the problem. -/
def label : Problem → String
  | notAccepted _ => "literal_error"
  | notInteger => "int_type"
  | notNumeral => "int_parsing"
  | notFinite => "finite_number"
  | fractional => "int_from_float"
  | tooLarge => "int_parsing_size"
  | belowOne => "greater_than_equal"
  | notSwitch => "bool_type"
  | unclearSwitch => "bool_parsing"
  | notObject => "dict_type"
  | repeatedRule _ => "value_error"

end Problem

/-- A problem and the way to the setting that has it, from the outside in. -/
structure Issue where
  path : List String
  problem : Problem
deriving DecidableEq, Repr

namespace Issue

/-- The path with points between its steps. A step with a point in it stands in backticks. -/
def location (i : Issue) : String :=
  ".".intercalate (i.path.map fun step => if '.' ∈ step.toList then "`" ++ step ++ "`" else step)

def lines (i : Issue) : List String :=
  [i.location, "  " ++ i.problem.text ++ " [type=" ++ i.problem.label ++ "]"]

end Issue

/-- Settings of `subject` refused for one or more issues. -/
structure Rejection where
  subject : String
  issues : List Issue
deriving DecidableEq, Repr

/-- The issues of a rejection under a heading that counts them. -/
def Rejection.message (r : Rejection) : String :=
  let noun := if r.issues.length = 1 then " validation error for " else " validation errors for "
  "\n".intercalate ((toString r.issues.length ++ noun ++ r.subject) :: r.issues.flatMap Issue.lines)

end MarkdownCheck
