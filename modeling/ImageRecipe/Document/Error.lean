/-!
# What can be wrong with a document

Each cause with what its message names; the wording is in `DocumentError.message`.
-/

namespace ImageRecipe

/-- Why a document, or a file of variables, cannot be used. -/
inductive DocumentError where
  /-- The text is not YAML. -/
  | invalidYaml (reason : String)
  /-- The text of a file of variables is not YAML. -/
  | invalidVariables (reason : String)
  /-- A whole number needs more than 64 bits with its sign. -/
  | numberOutOfRange (number : String)
  /-- A key of a mapping is no scalar. -/
  | keyNotScalar (kind : String)
  /-- The root is neither a sequence nor a mapping. -/
  | rootNotCollection (kind : String)
  /-- The entry with the instructions is no sequence. -/
  | instructionsNotSequence (kind : String)
  /-- A file of variables holds no mapping. -/
  | variablesNotMapping (kind : String)
  deriving DecidableEq, Repr

namespace DocumentError

/-- The wording of each cause. -/
def message : DocumentError → String
  | .invalidYaml reason => "invalid YAML: " ++ reason
  | .invalidVariables reason => "invalid variables YAML: " ++ reason
  | .numberOutOfRange number => "number " ++ number ++ " does not fit a 64-bit integer"
  | .keyNotScalar kind => "mapping keys must be scalars, found " ++ kind
  | .rootNotCollection kind =>
    "document root must be a sequence or a mapping, got a " ++ kind
  | .instructionsNotSequence kind => "\"instructions\" must be a sequence, got a " ++ kind
  | .variablesNotMapping kind => "variables must be a mapping, got a " ++ kind

end DocumentError

end ImageRecipe
