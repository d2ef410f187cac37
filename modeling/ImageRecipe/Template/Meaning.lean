import ImageRecipe.Template.Outline
import ImageRecipe.Template.Filter

/-!
# Meanings

An expression can be asked for in three ways: as a value, as a condition, and as a number.  The
three differ in what they tolerate, so a meaning holds the answers to all of them.

* `Verdict` : what a condition turns out to be
* `Meaning` : the three answers, and how each kind of atom gives them
* `Setting` : what expressions are evaluated in
* `comparisonVerdict`, `connectiveVerdict`, `membershipVerdict` : conditions from their parts
-/

namespace ImageRecipe.Template

/-- What a condition turns out to be. -/
inductive Verdict where
  /-- A truth value. -/
  | truth (b : Bool)
  /-- A number was compared with something else; this never holds, even when it is denied. -/
  | incomparable
  deriving DecidableEq, Repr

namespace Verdict

/-- The condition holds. -/
def holds : Verdict → Bool
  | .truth b => b
  | .incomparable => false

/-- The verdict when the condition is denied. -/
def denyIf (denied : Bool) : Verdict → Verdict
  | .truth b => .truth (b != denied)
  | .incomparable => .incomparable

end Verdict

/-- The answers of an expression. -/
structure Meaning where
  /-- As a value that is written, passed on or compared. -/
  value : Except Fault Json
  /-- As a condition. -/
  truth : Except Fault Verdict
  /-- As an operand of arithmetic; nothing if it is no number. -/
  number : Except Fault (Option Number)

/-- What expressions are evaluated in. -/
structure Setting where
  scope : Scope
  functions : String → Option Function

/-! ## Paths and calls -/

/-- What a call gives, once its arguments are known. -/
def Setting.call (s : Setting) (name : String) (arguments : Except Fault Arguments) :
    Except Fault Json :=
  match s.functions name with
  | none => .error (.unknownFunction name)
  | some f => (arguments.bind f).mapError (.inFunction name)

/-- What a filter gives, once its arguments are known. -/
def applyFilter (name : String) (arguments : Except Fault Arguments) (value : Json) :
    Except Fault Json :=
  match filter? name with
  | none => .error (.unknownFilter name)
  | some f => (arguments.bind (f value)).mapError (.inFilter name)

/-- The answer of a test, once its arguments are known. -/
def Setting.test (s : Setting) (subject : Path) (denied : Bool) (name : String)
    (arguments : Except Fault (List Json)) : Except Fault Bool :=
  match test? name with
  | none => .error (.unknownTest name)
  | some f =>
    match (arguments.bind (f (s.scope.lookUp subject).toOption)).mapError (.inTest name) with
    | .error e => .error e
    | .ok b => .ok (b != denied)

/-- A value as a number, or the given fault. -/
def numberOf (fault : Fault) (value : Json) : Except Fault (Option Number) :=
  match Number.ofJson? value with
  | some n => .ok (some n)
  | none => .error fault

/-- A value as a part of a text, or the given fault. -/
def textOf (fault : Fault) : Json → Except Fault String
  | .string t => .ok t
  | .whole n => .ok (Decimal.integerText n.value)
  | .real x => .ok (Decimal.scientific.text x.value)
  | _ => .error fault

/-! ## Arithmetic, comparison and membership -/

/-- The result of an operation, once the operands are known. -/
def arithmeticResult (op : Arithmetic) (left right : Expression)
    (l r : Except Fault (Option Number)) : Except Fault (Option Number) :=
  match l with
  | .error e => .error e
  | .ok l =>
    match r with
    | .error e => .error e
    | .ok r =>
      match l, r with
      | some l, some r =>
        match Number.apply op l r with
        | .ok n => .ok n
        | .error (.outOfBounds a sign b signed) =>
          .error (.outOfBounds (Decimal.integerText a) sign (Decimal.integerText b)
            (if signed then "i64" else "u64"))
        | .error .moduloByZero => .error (.moduloByZero left.outline right.outline)
      | _, _ => .ok none

/-- A number as a value; what is no number is written as such. -/
def numberValue : Option Number → Json
  | some n => n.toJson
  | none => .string "NaN"

/-- Two numbers compared by size. -/
def orderVerdict (holds : Float → Float → Bool) (l r : Except Fault (Option Number)) :
    Except Fault Verdict :=
  match l with
  | .error e => .error e
  | .ok l =>
    match r with
    | .error e => .error e
    | .ok r =>
      match l, r with
      | some l, some r => .ok (.truth (holds l.toFloat r.toFloat))
      | _, _ => .error .comparedToNaN

/-- Two values compared for equality; numbers are compared as doubles. -/
def equalityVerdict (equal : Bool) (l r : Except Fault Json) : Except Fault Verdict :=
  match l with
  | .error e => .error e
  | .ok l =>
    match r with
    | .error e => .error e
    | .ok r =>
      match Number.ofJson? l, Number.ofJson? r with
      | some a, some b => .ok (.truth ((a.toFloat == b.toFloat) == equal))
      | none, none => .ok (.truth (l.same r == equal))
      | _, _ => .ok .incomparable

/-- The verdict of a comparison. -/
def comparisonVerdict (op : Comparison) (l r : Meaning) : Except Fault Verdict :=
  match op with
  | .lt => orderVerdict (· < ·) l.number r.number
  | .le => orderVerdict (· ≤ ·) l.number r.number
  | .gt => orderVerdict (· > ·) l.number r.number
  | .ge => orderVerdict (· ≥ ·) l.number r.number
  | .eq => equalityVerdict true l.value r.value
  | .ne => equalityVerdict false l.value r.value

/-- The verdict of two conditions; the second one is not asked if the first one decides. -/
def connectiveVerdict (op : Connective) (l r : Except Fault Verdict) : Except Fault Verdict :=
  match l with
  | .error e => .error e
  | .ok l =>
    match op, l.holds with
    | .and, false => .ok (.truth false)
    | .or, true => .ok (.truth true)
    | _, _ => r.map fun r => .truth r.holds

/-- Whether a container has an item: an array an equal one, an object a key, a string a part. -/
def contains (item container : Json) : Except Fault Bool :=
  match container with
  | .array items => .ok (items.any fun j => j.same item)
  | .string s =>
    match item with
    | .string part => .ok (Text.occursIn part.toList s.toList)
    | other => .error (.memberNotString other.outline "string")
  | .object members =>
    match item with
    | .string key => .ok (members.contains key)
    | other => .error (.memberNotString other.outline "object")
  | _ => .error .noMembers

/-- Whether a container has an item, once both are known. -/
def membershipVerdict (denied : Bool) (item container : Except Fault Json) :
    Except Fault Verdict :=
  match item with
  | .error e => .error e
  | .ok item =>
    match container with
    | .error e => .error e
    | .ok container => (contains item container).map fun b => .truth (b != denied)

/-! ## Meanings by kind -/

namespace Meaning

/-- A number. -/
def ofNumber (n : Except Fault (Option Number)) : Meaning where
  value := (n.map numberValue).mapError .arithmetic
  truth := n.map fun n => .truth (n.any Number.isTruthy)
  number := n

/-- A number that is written out. -/
def ofLiteral (n : Option Number) : Meaning where
  value := .ok (numberValue n)
  truth := .ok (.truth (n.any Number.isTruthy))
  number := .ok n

/-- A condition; as a number it is refused. -/
def ofVerdict (v : Except Fault Verdict) (fault : Fault) : Meaning where
  value := v.map fun v => .bool v.holds
  truth := v
  number := .error fault

/-- A text; as a number it is refused. -/
def ofText (t : Except Fault String) (fault : Fault) : Meaning where
  value := t.map .string
  truth := t.map fun t => .truth !t.isEmpty
  number := .error fault

/-- A variable; as a condition, one that is missing does not hold. -/
def ofVariable (p : Path) (j : Except Fault Json) : Meaning where
  value := j
  truth := .ok (.truth ((j.map Json.isTruthy).toOption.getD false))
  number := j.bind (numberOf (.variableNotNumber p.written))

/-- The result of a function; as a condition it must be a truth value. -/
def ofCall (name : String) (j : Except Fault Json) : Meaning where
  value := j
  truth := j.bind fun j => match j with
    | .bool b => .ok (.truth b)
    | _ => .error (.functionNotTruth name)
  number := j.bind (numberOf (.functionNotNumber name))

/-- A list of values. -/
def ofItems (items : Except Fault (List Json)) : Meaning where
  value := items.map .array
  truth := items.map fun items => .truth !items.isEmpty
  number := .error .conditionNotNumber

end Meaning

end ImageRecipe.Template
