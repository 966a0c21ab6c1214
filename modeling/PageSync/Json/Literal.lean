import PageSync.Json.Printer
import PageSync.Text.Quoted

/-!
# Json/Literal — values as messages and representations show them

Inside a container a string stands in quotes; a string alone stands for itself.
-/

namespace PageSync.Json

mutual

/-- A value with its strings in quotes. -/
def literal : Json → String
  | .null => "None"
  | .bool true => "True"
  | .bool false => "False"
  | .int n => String.ofList (intText n)
  | .float x => x.text
  | .str s => Text.quoted s
  | .arr items => "[" ++ ", ".intercalate (literalItems items) ++ "]"
  | .obj fields => "\x7b" ++ ", ".intercalate (literalFields fields) ++ "\x7d"

/-- The items of an array with their strings in quotes. -/
def literalItems : List Json → List String
  | [] => []
  | j :: rest => literal j :: literalItems rest

/-- The entries of an object with their strings in quotes. -/
def literalFields : List (String × Json) → List String
  | [] => []
  | (k, j) :: rest => (Text.quoted k ++ ": " ++ literal j) :: literalFields rest

end

/-- A value in a running text: a string as it is, anything else as a literal. -/
def display : Json → String
  | .str s => s
  | j => j.literal

end PageSync.Json
