import ImageRecipe.Text.Blank
import ImageRecipe.Text.Letters
import ImageRecipe.Json.Comparison
import ImageRecipe.Template.Scope
import ImageRecipe.Template.Printed

/-!
# Filters, tests and functions of templates

What every template can use, by name.

* `filter?` : from a value and arguments to a value
* `test?` : a question about a value that may be missing
* `range`, `throwMessage` : natural numbers in equal steps, and a way to give up
-/

namespace ImageRecipe

namespace Template

/-! ## Filters -/

/-- Arguments by name. -/
abbrev Arguments := Mapping Json

/-- A string, or the fault of a filter that got something else. -/
def stringOf (filter : String) : Json → Except Fault String
  | .string s => .ok s
  | other => .error (.filteredValue filter other.text "String")

/-- The items of an array, or the fault of a filter that got something else. -/
def itemsOf (filter : String) : Json → Except Fault (List Json)
  | .array items => .ok items
  | other => .error (.filteredValue filter other.text "Vec<Value>")

/-- A string argument, if it is given. -/
def stringArgument? (filter argument : String) (arguments : Arguments) :
    Except Fault (Option String) :=
  match arguments.get? argument with
  | none => .ok none
  | some (.string s) => .ok (some s)
  | some other => .error (.filterArgument filter argument other.text "String")

/-- A string argument that must be given. -/
def stringArgument (filter argument : String) (arguments : Arguments) : Except Fault String :=
  match stringArgument? filter argument arguments with
  | .error e => .error e
  | .ok (some s) => .ok s
  | .ok none => .error (.filterNeeds filter argument)

/-- How many parts a value has. -/
def lengthOf : Json → Except Fault Json
  | .array items => .ok (.ofNat items.length)
  | .object members => .ok (.ofNat members.size)
  | .string s => .ok (.ofNat s.length)
  | _ => .error .noLength

/-- A value from its end to its front. -/
def reverseOf : Json → Except Fault Json
  | .array items => .ok (.array items.reverse)
  | .string s => .ok (.string (String.ofList s.toList.reverse))
  | other => .error (.noReverse other.text)

/-- The items as texts, joined.  A backslash with the letter `n` or `t` in the separator is a line
feed or a tab. -/
def joined (value : Json) (arguments : Arguments) : Except Fault Json :=
  match itemsOf "join" value with
  | .error e => .error e
  | .ok items =>
    match stringArgument? "truncate" "sep" arguments with
    | .error e => .error e
    | .ok sep =>
      let sep := Text.replaceText (Text.replaceText (sep.getD "") "\\n" "\n") "\\t" "\t"
      .ok (.string (String.intercalate sep (items.map Json.printed)))

/-! ### Sorting -/

/-- What items are sorted by. -/
inductive SortKey where
  | truth (b : Bool)
  | number (x : Float)
  | text (s : String)
  | length (n : Nat)

/-- The place of a double in the order in which a negative zero stands before zero. -/
def orderPlace (x : Float) : Int :=
  let bits : Int := x.toBits.toNat
  if bits < 9223372036854775808 then bits else 9223372036854775807 - bits

/-- The key does not stand behind the other one. -/
def SortKey.le : SortKey → SortKey → Bool
  | .truth a, .truth b => !a || b
  | .number a, .number b => orderPlace a ≤ orderPlace b
  | .text a, .text b => !(b < a)
  | .length a, .length b => a ≤ b
  | _, _ => true

/-- The key of a value, if it is of the same kind as the first one. -/
def SortKey.ofJson (first key : Json) : Except Fault SortKey :=
  match first, key with
  | .bool _, .bool b => .ok (.truth b)
  | .string _, .string s => .ok (.text s)
  | .array _, .array items => .ok (.length items.length)
  | .bool _, other => .error (.unlike "bool" other.text)
  | .string _, other => .error (.unlike "string" other.text)
  | .array _, other => .error (.unlike "array" other.text)
  | .null, _ => .error (.unordered "Null")
  | .object _, _ => .error (.unordered "Object")
  | .whole _, other | .real _, other =>
    match Number.ofJson? other with
    | some n => .ok (.number n.toFloat)
    | none => .error (.unlike "number" other.text)

/-- What an item is sorted by: itself, or the part that a pointer leads to. -/
def sortField (field : String) (item : Json) : Except Fault Json :=
  match item.at? field with
  | some j => .ok j
  | none => .error (.noField field)

/-- The items in ascending order; equal ones keep their order. -/
def sorted (value : Json) (arguments : Arguments) : Except Fault Json := do
  match ← itemsOf "sort" value with
  | [] => return .array []
  | item :: rest =>
    let field := (← stringArgument? "sort" "attribute" arguments).getD ""
    let first ← sortField field item
    let _ ← SortKey.ofJson first first
    let keyed ← (item :: rest).mapM fun item => do
      return (← SortKey.ofJson first (← sortField field item), item)
    return .array ((keyed.mergeSort fun a b => a.1.le b.1).map Prod.snd)

/-- The filter of a name. -/
def filter? : String → Option (Json → Arguments → Except Fault Json)
  | "upper" => some fun v _ => (stringOf "upper" v).map fun s => .string (Text.upper s)
  | "lower" => some fun v _ => (stringOf "lower" v).map fun s => .string (Text.lower s)
  | "trim" => some fun v _ => (stringOf "trim" v).map fun s => .string (Text.trim s)
  | "length" => some fun v _ => lengthOf v
  | "reverse" => some fun v _ => reverseOf v
  | "first" => some fun v _ => (itemsOf "first" v).map fun items => items.head?.getD (.string "")
  | "last" => some fun v _ => (itemsOf "last" v).map fun items => items.getLast?.getD (.string "")
  | "join" => some joined
  | "sort" => some sorted
  | "replace" => some fun v arguments => do
    let s ← stringOf "replace" v
    let old ← stringArgument "replace" "from" arguments
    let new ← stringArgument "replace" "to" arguments
    return .string (Text.replaceText s old new)
  | "json_encode" => some fun v arguments =>
    match arguments.get? "pretty" with
    | some (.bool true) => .ok (.string (String.ofList (v.prettyChars [])))
    | _ => .ok (.string v.text)
  | _ => none

/-! ## Tests -/

/-- The test of a name: it looks at a value, if there is one, and at arguments. -/
def test? : String → Option (Option Json → List Json → Except Fault Bool)
  | "defined" => some fun v arguments =>
    if arguments.isEmpty then .ok v.isSome else .error (.testArguments "defined")
  | "undefined" => some fun v arguments =>
    if arguments.isEmpty then .ok v.isNone else .error (.testArguments "undefined")
  | "odd" => some fun v arguments =>
    if !arguments.isEmpty then .error (.testArguments "odd")
    else match v with
      | none => .error (.testUndefined "odd")
      | some j =>
        match Number.ofJson? j with
        | some n => .ok (remainder n.toFloat 2 != 0)
        | none => .error (.testNotNumber "odd")
  | _ => none

/-! ## Functions -/

/-- A function of templates. -/
abbrev Function := Arguments → Except Fault Json

/-- A natural number that is an argument of a range, if it is given. -/
def rangeBound? (argument shown : String) (arguments : Arguments) : Except Fault (Option Nat) :=
  match arguments.get? argument with
  | none => .ok none
  | some (.whole n) =>
    if 0 ≤ n.value then .ok (some n.value.toNat)
    else .error (.rangeBound argument (Decimal.integerText n.value) shown)
  | some other => .error (.rangeBound argument other.text shown)

/-- The natural numbers from a start up to an end, in equal steps. -/
def range : Function := fun arguments => do
  let start := (← rangeBound? "start" "start" arguments).getD 0
  let step := (← rangeBound? "step_by" "step" arguments).getD 1
  match ← rangeBound? "end" "end" arguments with
  | none => throw .rangeEndless
  | some stop =>
    if stop < start then throw .rangeReversed
    else
      let count := (stop - start + step - 1) / step
      return .array ((List.range count).map fun i => .ofNat (start + i * step))

/-- Gives up with a message. -/
def throwMessage : Function := fun arguments =>
  match arguments.get? "message" with
  | none => .error .thrownNothing
  | some (.string words) => .error (.thrown words)
  | some other => .error (.thrownNoText other.text)

end Template

end ImageRecipe
