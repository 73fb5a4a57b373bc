/-!
# Diagnostic text of records and options

A record is shown with its name and its fields between braces, a record whose other
fields stay hidden with two dots at the end, and an option as `None` or `Some`.
-/

namespace ChainRpc.Text

/-- The fields of a record with their values. -/
private def shownFields (fields : List (String × String)) : String :=
  ", ".intercalate (fields.map fun (field, value) => field ++ ": " ++ value)

/-- A record: its name, and the fields with their values. -/
def record (name : String) (fields : List (String × String)) : String :=
  name ++ " \x7b " ++ shownFields fields ++ " \x7d"

/-- A record that has more fields than it shows. -/
def openRecord (name : String) (fields : List (String × String)) : String :=
  name ++ " \x7b " ++ shownFields fields ++ ", .. \x7d"

/-- A value in parentheses behind a name. -/
def wrapped (name value : String) : String := name ++ "(" ++ value ++ ")"

/-- An option of a value that is already shown. -/
def shownOption : Option String → String
  | none => "None"
  | some value => wrapped "Some" value

/-- A list of values that are already shown. -/
def shownList (values : List String) : String := "[" ++ ", ".intercalate values ++ "]"

end ChainRpc.Text
