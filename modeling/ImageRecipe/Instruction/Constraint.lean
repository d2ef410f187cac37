import ImageRecipe.Value
import ImageRecipe.Instruction.Error
import ImageRecipe.Instruction.Pattern

/-!
# Constraints on arguments

What a handler asks of its argument before its body runs, as data.

* `Constraint.checkDefinition` : whether a constraint makes sense for a shape
* `Constraint.apply` : one constraint on an argument
* `Constraint.applyAll` : a list of them, up to the first failure
-/

namespace ImageRecipe

/-- A condition on the argument of an instruction. -/
inductive Constraint where
  /-- The argument is given and has the shape. -/
  | required (argument : String) (shape : Shape)
  /-- The mapping has the key, not null, with a value of one of the shapes. -/
  | requiredKey (key : String) (shapes : List Shape)
  /-- If the key is there and not null, its value has one of the shapes and the other key has no
  entry. -/
  | optionalKey (key : String) (shapes : List Shape) (exclusiveWith : Option String)
  /-- The integer lies within the bounds, both included. -/
  | bounds (argument : String) (lower upper : Int64)
  /-- The text has the form of the pattern, which captures its groups. -/
  | pattern (argument : String) (form : Pattern)
  /-- The sequence or mapping has exactly so many members. -/
  | members (argument : String) (count : Nat)

namespace Constraint

/-- The constraint replaces the argument by captures. -/
def isPattern : Constraint → Bool
  | .pattern _ _ => true
  | _ => false

/-- How messages call a constraint. -/
def description : Constraint → String
  | .required argument shape => "required " ++ shape.text ++ " " ++ Layout.wrapInQuotes argument
  | .requiredKey key _ => "required key " ++ Layout.wrapInQuotes key
  | .optionalKey key _ _ => "optional key " ++ Layout.wrapInQuotes key
  | .bounds argument _ _ => "numeric bounds on " ++ Layout.wrapInQuotes argument
  | .pattern argument _ => "regex match on " ++ Layout.wrapInQuotes argument
  | .members argument _ => "collection length on " ++ Layout.wrapInQuotes argument

/-! ## Definitions -/

/-- Why a constraint can never hold for arguments of a shape, if so. -/
def fault? (c : Constraint) (shape : Shape) : Option DefinitionFault :=
  match c with
  | .required _ wanted => if wanted = shape then none else some (.neverHolds c.description shape)
  | .requiredKey _ _ => if shape = .mapping then none else some (.needs c.description "a mapping")
  | .optionalKey key _ exclusiveWith =>
    if shape ≠ .mapping then some (.needs c.description "a mapping")
    else if exclusiveWith = some key then some (.excludesItself key)
    else none
  | .bounds _ lower upper =>
    if shape ≠ .integer then some (.needs c.description "an integer")
    else if upper < lower then some (.emptyBounds lower upper)
    else none
  | .pattern _ _ => if shape = .string then none else some (.needs c.description "a string")
  | .members _ _ => if shape.isCollection then none else some (.needs c.description "a collection")

/-- Refuses a constraint that can never hold for the shape, or that follows a pattern. -/
def checkDefinition (c : Constraint) (instruction : String) (shape : Shape)
    (afterPattern : Bool) : Except InstructionError Unit :=
  if afterPattern then .error (.definition instruction (.afterPattern c.description))
  else match c.fault? shape with
    | some fault => .error (.definition instruction fault)
    | none => .ok ()

/-! ## Arguments -/

/-- The mapping in which a key is looked up. -/
def mappingFor (instruction key : String) (v : Value) : Except InstructionError (Mapping Value) :=
  match v with
  | .mapping m => .ok m
  | other => .error (.argumentType instruction key Shape.mapping.text other.kind)

/-- The value of a key has one of the shapes. -/
def checkShapes (instruction key : String) (shapes : List Shape) (found : Value) :
    Except InstructionError Unit :=
  match found.shape? with
  | some shape =>
    if shape ∈ shapes then .ok ()
    else .error (.argumentType instruction key
      (Layout.joinWith " or " (shapes.map Shape.text)) found.kind)
  | none =>
    .error (.argumentType instruction key
      (Layout.joinWith " or " (shapes.map Shape.text)) found.kind)

/-- The value of a key, unless it is null. -/
def givenKey? (m : Mapping Value) (key : String) : Option Value :=
  match m.get? key with
  | some .null => none
  | found => found

/-- Puts an argument to a constraint, and gives the captures made so far.  Only a pattern makes
captures; no constraint changes the argument. -/
def apply (c : Constraint) (instruction usage : String) (v : Value) (captures : Option Captures) :
    Except InstructionError (Option Captures) :=
  match c with
  | .required argument shape =>
    if !v.truthy then .error (.argumentMissing instruction argument usage)
    else if v.shape? = some shape then .ok captures
    else .error (.argumentType instruction argument shape.text v.kind)
  | .requiredKey key shapes => do
    let m ← mappingFor instruction key v
    match givenKey? m key with
    | none => .error (.argumentMissing instruction key usage)
    | some found =>
      checkShapes instruction key shapes found
      .ok captures
  | .optionalKey key shapes exclusiveWith => do
    let m ← mappingFor instruction key v
    match givenKey? m key with
    | none => .ok captures
    | some found =>
      checkShapes instruction key shapes found
      match exclusiveWith with
      | none => .ok captures
      | some other =>
        if m.contains other then .error (.argumentsExclusive instruction key other)
        else .ok captures
  | .bounds argument lower upper =>
    match v with
    | .integer n =>
      if n < lower ∨ upper < n then .error (.outOfBounds instruction argument n lower upper)
      else .ok captures
    | other => .error (.argumentType instruction argument Shape.integer.text other.kind)
  | .pattern argument form =>
    match v with
    | .string s =>
      match form.match? s with
      | some made => .ok (some made)
      | none => .error (.patternMismatch instruction argument s form.source)
    | other => .error (.argumentType instruction argument Shape.string.text other.kind)
  | .members argument count =>
    let check := fun (received : Nat) =>
      if received = count then .ok captures
      else .error (.wrongLength instruction argument count received)
    match v with
    | .sequence items => check items.length
    | .mapping m => check m.size
    | other => .error (.argumentType instruction argument "sequence or mapping" other.kind)

/-- Puts an argument to each constraint in turn, up to the first that fails. -/
def applyAll (instruction usage : String) (v : Value) (captures : Option Captures) :
    List Constraint → Except InstructionError (Option Captures)
  | [] => .ok captures
  | c :: rest =>
    match c.apply instruction usage v captures with
    | .ok captures => applyAll instruction usage v captures rest
    | .error e => .error e

end Constraint

end ImageRecipe
