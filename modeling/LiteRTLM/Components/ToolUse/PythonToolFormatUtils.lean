import LiteRTLM.Components.ToolUse.PythonParserUtils
import LiteRTLM.Util.Json

/-!
Contract: `FormatValueAsPython`, which writes a JSON value in Python's notation.

Owns: the texts of values, of the pairs of a dict and of the arguments of an instance.

Does not own: the declarations of tools. The text of a double is a parameter. Every value
here has a supported type, so formatting does not fail; a `StatusOr` that is OK is streamed
as its value.
-/

namespace LiteRTLM.Components.ToolUse

open LiteRTLM.Util

def dumpNumber {Double : Type} (dumpDouble : Double → Text) : PythonNumber Double → Text
  | .int value => dumpInt value
  | .double value => dumpDouble value

/-- A text between quotes, as it is. -/
def inQuotes (text : Text) : Text := '"' :: (text ++ ['"'])

def typeKey : Text := ['t', 'y', 'p', 'e']

/-- The texts of a loop with `", "` between its rounds. -/
def joinItems (items : List Text) : Text := [',', ' '].intercalate items

/-- `value["type"]`, if it is a string. -/
def instanceType {Number : Type} (members : List (Text × Json Number)) : Option Text :=
  match members.find? fun member => member.1 = typeKey with
  | some (_, .string name) => some name
  | _ => none

/-- `FormatObjectAsPythonDict` on the texts of the values. -/
def formatObjectAsPythonDict (members : List (Text × Text)) : Text :=
  ['{'] ++ joinItems (members.map fun member => inQuotes member.1 ++ ([':', ' '] ++ member.2)) ++
    ['}']

/-- `FormatObjectAsPythonInstance` on the texts of the values. -/
def formatObjectAsPythonInstance (name : Text) (kwargs : List (Text × Text)) : Text :=
  name ++ ['('] ++ joinItems (kwargs.map fun member => member.1 ++ (['='] ++ member.2)) ++ [')']

/-- `FormatArrayAsPython` on the texts of the elements. -/
def formatArrayAsPython (elements : List Text) : Text :=
  ['['] ++ joinItems elements ++ [']']

section Values

variable {Double : Type} (dumpDouble : Double → Text)

mutual

def formatValueAsPython : Json (PythonNumber Double) → Text
  | .null => ['N', 'o', 'n', 'e']
  | .string value => inQuotes value
  | .number value => dumpNumber dumpDouble value
  | .boolean value => if value then ['T', 'r', 'u', 'e'] else ['F', 'a', 'l', 's', 'e']
  | .object members =>
      match instanceType members with
      | some name =>
          formatObjectAsPythonInstance name
            ((formatMembers members).filter fun member => member.1 ≠ typeKey)
      | none => formatObjectAsPythonDict (formatMembers members)
  | .array elements => formatArrayAsPython (formatElements elements)

def formatElements : List (Json (PythonNumber Double)) → List Text
  | [] => []
  | element :: rest => formatValueAsPython element :: formatElements rest

/-- The texts of the values of an object. -/
def formatMembers : List (Text × Json (PythonNumber Double)) → List (Text × Text)
  | [] => []
  | (key, value) :: rest => (key, formatValueAsPython value) :: formatMembers rest

end

theorem formatElements_eq_map (elements : List (Json (PythonNumber Double))) :
    formatElements dumpDouble elements = elements.map (formatValueAsPython dumpDouble) := by
  induction elements with
  | nil => rw [formatElements, List.map_nil]
  | cons element rest inductionHypothesis =>
      rw [formatElements, inductionHypothesis, List.map_cons]

theorem formatMembers_eq_map (members : List (Text × Json (PythonNumber Double))) :
    formatMembers dumpDouble members =
      members.map fun member => (member.1, formatValueAsPython dumpDouble member.2) := by
  induction members with
  | nil => rw [formatMembers, List.map_nil]
  | cons member rest inductionHypothesis =>
      rw [formatMembers, inductionHypothesis, List.map_cons]

/-- An instance within a dict. -/
example : formatValueAsPython (fun _ : Nat => [])
    (.object [(['k'], .array [.number (.int (-12)), .null]),
      (['o'], .object [(['t', 'y', 'p', 'e'], .string ['T']), (['a'], .boolean true)])]) =
    "\x7b\"k\": [-12, None], \"o\": T(a=True)\x7d".toList := by
  decide +kernel

end Values

end LiteRTLM.Components.ToolUse
