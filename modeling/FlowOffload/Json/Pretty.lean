/-!
# JSON objects on lines of their own

The written form of an object whose values are written already: every member on a line of its own,
indented by two blanks, and no line break behind the closing brace.
-/

namespace FlowOffload.Json

/-- A string in quotes.  It is for names and addresses, which hold nothing that needs an escape. -/
def quoted (s : String) : String := "\"" ++ s ++ "\""

/-- A member on a line. -/
def member (name value : String) : String := "  " ++ quoted name ++ ": " ++ value

/-- An object with at least one member. -/
def object (members : List (String × String)) : String :=
  "\x7b\n" ++ ",\n".intercalate (members.map fun m => member m.1 m.2) ++ "\n\x7d"

end FlowOffload.Json
