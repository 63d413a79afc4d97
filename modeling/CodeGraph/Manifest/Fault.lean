import CodeGraph.Text.CodeText

/-!
# Why a configuration file gives no definitions

A document that is not well formed is described to the user. A well-formed one can still hold
values that cannot be used; what is wrong with them is only told apart.
-/

namespace CodeGraph.Manifest

/-- What is wrong with a value of a configuration file. -/
inductive Fault where
  /-- A table was asked for. -/
  | notTable
  /-- A sequence or a text was asked for. -/
  | wrongType
  /-- A name with a value was asked for. -/
  | notPair
  /-- A whole number has too many digits. -/
  | tooManyDigits
  /-- Values are nested too deep. -/
  | tooDeep
  /-- A name cannot be encoded, and so cannot be identified. -/
  | unencodable (part : Unencodable)
deriving DecidableEq, Repr, Inhabited

/-- Why a file gives no definitions. -/
inductive Failure where
  | malformed (reason : String)
  | unusable (fault : Fault)
deriving DecidableEq, Repr, Inhabited

/-- An outcome whose faults stop a file. -/
def Failure.lift {α : Type} : Except Fault α → Except Failure α
  | .ok a => .ok a
  | .error fault => .error (.unusable fault)

/-- How many digits a decimal whole number may have: the interpreter's limit on conversions. -/
def maxDigits : Nat := 4300

end CodeGraph.Manifest
