import ImageRecipe.Instruction.Error
import ImageRecipe.Document.Error
import ImageRecipe.Template.Number

/-!
# What can go wrong while a template is rendered

Each cause with what its message names.  A cause may have a further cause behind it; messages tell
the whole chain, except that arithmetic keeps only the first link.

* `Fault` : the causes
* `Fault.headline`, `Fault.message` : the first link, and the whole chain
* `Fault.instruction?` : the instruction that has no line, if that is behind it
-/

namespace ImageRecipe.Template

/-- Why a template cannot be rendered. -/
inductive Fault where
  /-- A path leads nowhere.  `resolved` is the path without brackets, if it had some. -/
  | missing (path template : String) (resolved : Option String)
  /-- A path in the brackets of another one leads nowhere. -/
  | unresolved (path : String) (cause : Fault)
  /-- A path in brackets leads to something that names no part. -/
  | notAName (inner path : String)
  /-- There is no such filter. -/
  | unknownFilter (name : String)
  /-- There is no such test. -/
  | unknownTest (name : String)
  /-- There is no such function. -/
  | unknownFunction (name : String)
  /-- A filter, or one of its arguments, failed. -/
  | inFilter (name : String) (cause : Fault)
  /-- A test, or one of its arguments, failed. -/
  | inTest (name : String) (cause : Fault)
  /-- A function, or one of its arguments, failed. -/
  | inFunction (name : String) (cause : Fault)
  /-- A filter got a value of a wrong kind. -/
  | filteredValue (filter got expected : String)
  /-- A filter got an argument of a wrong kind. -/
  | filterArgument (filter argument got expected : String)
  /-- A filter lacks an argument. -/
  | filterNeeds (filter argument : String)
  /-- A default was asked for and not given. -/
  | defaultNeedsValue
  /-- The value has no length. -/
  | noLength
  /-- The value has no reverse. -/
  | noReverse (got : String)
  /-- Values of this kind have no order. -/
  | unordered (kind : String)
  /-- Not all values that are to be sorted are of one kind. -/
  | unlike (expected got : String)
  /-- Values are to be sorted by a field that one of them lacks. -/
  | noField (field : String)
  /-- A test got arguments and takes none. -/
  | testArguments (test : String)
  /-- A test needs a value, and there is none. -/
  | testUndefined (test : String)
  /-- A test needs a number. -/
  | testNotNumber (test : String)
  /-- A bound of a range is no natural number. -/
  | rangeBound (argument got shown : String)
  /-- A range has no end. -/
  | rangeEndless
  /-- A range ends before it starts. -/
  | rangeReversed
  /-- A template gave up, in its own words. -/
  | thrown (words : String)
  /-- A template gave up with something that is no string. -/
  | thrownNoText (got : String)
  /-- A template gave up without words. -/
  | thrownNothing
  /-- The function for instruction lines got no instruction. -/
  | noInstruction (function argument : String)
  /-- The function for instruction lines got something that is no value. -/
  | notAValue (cause : DocumentError)
  /-- An instruction has no line. -/
  | instruction (cause : InstructionError)
  /-- A variable that is no number was used as one. -/
  | variableNotNumber (path : String)
  /-- A function that gives no number was used as one. -/
  | functionNotNumber (name : String)
  /-- The result of filters was used as a number. -/
  | resultNotNumber
  /-- A string was used as a number. -/
  | stringNotNumber (s : String)
  /-- A truth value was used as a number. -/
  | boolNotNumber (b : Bool)
  /-- A joined text was used as a number. -/
  | textNotNumber (parts : String)
  /-- A test was used as a number. -/
  | testUsedAsNumber (test : String)
  /-- A condition was used as a number. -/
  | conditionNotNumber
  /-- An operation on whole numbers has a result of more than 64 bits. -/
  | outOfBounds (left sign right word : String)
  /-- A whole number was to be divided by zero. -/
  | moduloByZero (left right : String)
  /-- Arithmetic whose result is wanted as a value failed. -/
  | arithmetic (cause : Fault)
  /-- Something that is no number was compared by size. -/
  | comparedToNaN
  /-- A function that gives no truth value was used as a condition. -/
  | functionNotTruth (name : String)
  /-- A variable that is neither string nor number was joined to a text. -/
  | variableNotText (path : String)
  /-- A function whose result is neither string nor number was joined to a text. -/
  | functionNotText (name : String)
  /-- Something that is no string was looked for where only strings are. -/
  | memberNotString (item container : String)
  /-- Something was looked for in a value that has no members. -/
  | noMembers
  /-- A loop goes through an expression that is neither a variable nor a function nor an array. -/
  | loopOver (container : String)
  /-- A loop names keys, and what it goes through has none. -/
  | loopWithoutKeys (container : String)
  /-- A loop names no keys, and what it goes through has some. -/
  | loopNeedsKeys (container : String)
  /-- A loop goes through something that cannot be gone through. -/
  | loopUnsupported (container : String)
  /-- A loop was to be left, and there is none. -/
  | leftNoLoop
  /-- A next round was asked for, and there is no loop. -/
  | nextOfNoLoop
  /-- None of the templates that may be inserted is known. -/
  | unknownInsertion (names : List String)
  /-- An inserted template fills blocks of another one. -/
  | insertedParent (parent : String)
  /-- Templates are inserted into each other without end. -/
  | nestedTooDeep

namespace Fault

/-- The wording of the first link. -/
def headline : Fault → String
  | .missing path template none =>
    "Variable `" ++ path ++ "` not found in context while rendering '" ++ template ++ "'"
  | .missing path template (some resolved) =>
    "Variable `" ++ path ++ "` not found in context while rendering '" ++ template ++
      "': the evaluated version was `" ++ resolved ++ "`. Maybe the index is out of bounds?"
  | .unresolved path cause =>
    "Variable " ++ path ++ " can not be evaluated because: " ++ cause.headline
  | .notAName inner path =>
    "Only variables evaluating to String or Number can be used as index (`" ++ inner ++ "` of `" ++
      path ++ "`)"
  | .unknownFilter name => "Filter '" ++ name ++ "' not found"
  | .unknownTest name => "Test '" ++ name ++ "' not found"
  | .unknownFunction name => "Function '" ++ name ++ "' not found"
  | .inFilter name _ => "Filter call '" ++ name ++ "' failed"
  | .inTest name _ => "Test call '" ++ name ++ "' failed"
  | .inFunction name _ => "Function call '" ++ name ++ "' failed"
  | .filteredValue filter got expected =>
    "Filter `" ++ filter ++ "` was called on an incorrect value: got `" ++ got ++
      "` but expected a " ++ expected
  | .filterArgument filter argument got expected =>
    "Filter `" ++ filter ++ "` received an incorrect type for arg `" ++ argument ++ "`: got `" ++
      got ++ "` but expected a " ++ expected
  | .filterNeeds filter argument =>
    "Filter `" ++ filter ++ "` expected an arg called `" ++ argument ++ "`"
  | .defaultNeedsValue => "The `default` filter requires a `value` argument."
  | .noLength =>
    "Filter `length` was used on a value that isn't an array, an object, or a string."
  | .noReverse got =>
    "Filter `reverse` received an incorrect type for arg `value`: got `" ++ got ++
      "` but expected Array|String"
  | .unordered kind => kind ++ " is not a sortable value"
  | .unlike expected got => "expected " ++ expected ++ " got " ++ got
  | .noField field => "attribute '" ++ field ++ "' does not reference a field"
  | .testArguments test =>
    "Tester `" ++ test ++ "` was called with some args but this test doesn't take args"
  | .testUndefined test => "Tester `" ++ test ++ "` was called on an undefined variable"
  | .testNotNumber test => "Tester `" ++ test ++ "` was called on a variable that isn't a number"
  | .rangeBound argument got shown =>
    "Function `range` received " ++ argument ++ "=" ++ got ++ " but `" ++ shown ++
      "` can only be a number"
  | .rangeEndless => "Function `range` was called without a `end` argument"
  | .rangeReversed =>
    "Function `range` was called with a `start` argument greater than the `end` one"
  | .thrown words => words
  | .thrownNoText got =>
    "Function `throw` received message=" ++ got ++ " but `message` can only be a string"
  | .thrownNothing => "Function `throw` was called without a `message` argument"
  | .noInstruction function argument => function ++ " needs the argument '" ++ argument ++ "'"
  | .notAValue cause => "document error: " ++ cause.message
  | .instruction cause => cause.message
  | .variableNotNumber path =>
    "Variable `" ++ path ++ "` was used in a math operation but is not a number"
  | .functionNotNumber name =>
    "Function `" ++ name ++ "` was used in a math operation but is not returning a number"
  | .resultNotNumber => "Tried to do math with an expression not resulting in a number"
  | .stringNotNumber s => "Tried to do math with a string: `" ++ s ++ "`"
  | .boolNotNumber b =>
    "Tried to do math with a boolean: `" ++ (if b then "true" else "false") ++ "`"
  | .textNotNumber parts => "Tried to do math with a string concatenation: " ++ parts
  | .testUsedAsNumber test => "Tried to do math with a test: " ++ test
  | .conditionNotNumber => "Tried to do math with a condition"
  | .outOfBounds left sign right word =>
    left ++ " " ++ sign ++ " " ++ right ++ " results in an out of bounds " ++ word
  | .moduloByZero left right => "Tried to do a modulo by zero: " ++ left ++ "/" ++ right
  | .arithmetic cause => cause.headline
  | .comparedToNaN => "Comparison to NaN"
  | .functionNotTruth name =>
    "Function `" ++ name ++ "` was used in a logic operation but is not returning a bool"
  | .variableNotText path =>
    "Tried to concat a value that is not a string or a number from ident " ++ path
  | .functionNotText name =>
    "Tried to concat a value that is not a string or a number from function call " ++ name
  | .memberNotString item container =>
    "Tried to check if " ++ item ++ " is in a " ++ container ++ ", but it isn't a string"
  | .noMembers => "The `in` operator only supports strings, arrays and objects."
  | .loopOver container =>
    "Forloop containers have to be an ident or a function call (tried to iterate on '" ++
      container ++ "')"
  | .loopWithoutKeys container =>
    "Tried to iterate using key value on variable `" ++ container ++
      "`, but it isn't an object/map"
  | .loopNeedsKeys container =>
    "Tried to iterate using key value on variable `" ++ container ++ "`, but it is missing a key"
  | .loopUnsupported container =>
    "Tried to iterate on a container (`" ++ container ++ "`) that has a unsupported type"
  | .leftNoLoop => "Attempted `break` while not in `for loop`"
  | .nextOfNoLoop => "Attempted `continue` while not in `for loop`"
  | .unknownInsertion names => "Template '[" ++ String.intercalate ", " names ++ "]' not found"
  | .insertedParent parent =>
    "Inheritance in included templates is currently not supported: extended `" ++ parent ++ "`"
  | .nestedTooDeep => "Templates are nested too deeply"

/-- The links of a chain, the first one in front. -/
def message : Fault → String
  | .inFilter name cause => headline (.inFilter name cause) ++ ": " ++ cause.message
  | .inTest name cause => headline (.inTest name cause) ++ ": " ++ cause.message
  | .inFunction name cause => headline (.inFunction name cause) ++ ": " ++ cause.message
  | other => other.headline

/-- The instruction without a line that is behind a fault. -/
def instruction? : Fault → Option InstructionError
  | .instruction cause => some cause
  | .inFilter _ cause | .inTest _ cause | .inFunction _ cause => cause.instruction?
  | _ => none

end Fault

end ImageRecipe.Template
