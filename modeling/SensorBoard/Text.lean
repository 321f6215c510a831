/-!
# Texts of values

How numbers, lists and records are spelled in the board's messages and debug texts: decimal
numbers, `[a, b]` for a list, `Name` and the fields in braces for a record.
-/

namespace SensorBoard.Text

def list (values : List String) : String := "[" ++ ", ".intercalate values ++ "]"

/-- A record: its name, then each field's name and value. -/
def record (name : String) (fields : List (String × String)) : String :=
  name ++ " \x7b " ++ ", ".intercalate (fields.map fun (field, value) => field ++ ": " ++ value)
    ++ " \x7d"

def option : Option String → String
  | none => "None"
  | some value => "Some(" ++ value ++ ")"

/-- A number in binary, without leading zeros. -/
def binary (n : Nat) : String := String.ofList (Nat.toDigits 2 n)

end SensorBoard.Text
