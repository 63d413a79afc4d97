import CodeGraph.Text.Blank

/-!
# Names of requirements
-/

namespace CodeGraph.Manifest

/-- A code point of a requirement's name after the first one. -/
def isRequirementChar (c : Char) : Bool :=
  c.isAlphanum || c = '.' || c = '_' || c = '-'

/-- The name that a requirement starts with. -/
def requirementName? (requirement : String) : Option String :=
  let cs := requirement.toList.dropWhile Text.isBlank
  match cs with
  | c :: _ => if c.isAlphanum then some (String.ofList (cs.takeWhile isRequirementChar)) else none
  | [] => none

end CodeGraph.Manifest
