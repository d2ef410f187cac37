import ImageRecipe.Template.Meaning

/-!
# Evaluating expressions

* `Atom.meaning`, `Expression.meaning` : what expressions mean, by recursion
* `Expression.value`, `Expression.holds` : as a value, and as a condition
-/

namespace ImageRecipe.Template

/-! ## Parts -/

/-- How messages show the parts of a joined text. -/
def partsText (parts : List Atom) : String :=
  String.intercalate " ~ " (parts.map fun part => match part with
    | .string s => "'" ++ s ++ "'"
    | .path p => p.written
    | _ => "unknown")

/-- The text of an atom that is joined to others. -/
def partText (a : Atom) (m : Meaning) : Except Fault String :=
  match a with
  | .string t => .ok t
  | .integer n => .ok (Decimal.integerText n)
  | .real x => .ok (Decimal.plain.text x)
  | .path p => m.value.bind (textOf (.variableNotText p.written))
  | .call name _ => m.value.bind (textOf (.functionNotText name))
  | _ => .error .conditionNotNumber

/-! ## Filters and denial -/

/-- The value that a first filter `default` gives. -/
def defaultValue (given : List (String × Meaning)) : Except Fault Json :=
  match given.find? fun e => e.1 = "value" with
  | some (_, m) => m.value
  | none => .error .defaultNeedsValue

/-- The values of named arguments, or the first fault. -/
def argumentValues : List (String × Meaning) → Arguments → Except Fault Arguments
  | [], done => .ok done
  | (name, m) :: rest, done =>
    match m.value with
    | .error e => .error e
    | .ok j => argumentValues rest (done.insert name j)

/-- The values of expressions, or the first fault. -/
def values : List Meaning → Except Fault (List Json)
  | [] => .ok []
  | m :: rest =>
    match m.value with
    | .error e => .error e
    | .ok j => (values rest).map (j :: ·)

/-- Passes a value through filters.  A `default` has done its work before, and `safe` has none. -/
def passFilters : List (String × List (String × Meaning)) → Json → Except Fault Json
  | [], j => .ok j
  | (name, given) :: rest, j =>
    if name = "default" ∨ name = "safe" then passFilters rest j
    else match applyFilter name (argumentValues given .empty) j with
      | .error e => .error e
      | .ok j => passFilters rest j

/-- The value of an atom before it passes filters.  A first filter `default` stands in for a
variable that is missing or null. -/
def baseValue (a : Atom) (m : Meaning) (filters : List (String × List (String × Meaning))) :
    Except Fault Json :=
  match a, filters with
  | .path _, ("default", given) :: _ =>
    match m.value with
    | .ok .null | .error _ => defaultValue given
    | .ok j => .ok j
  | _, _ => m.value

/-- An atom is a comparison or a connective. -/
def Atom.isLogic : Atom → Bool
  | .comparison _ _ _ | .connective _ _ _ => true
  | _ => false

/-- An atom is a path. -/
def Atom.isPath : Atom → Bool
  | .path _ => true
  | _ => false

/-- An atom joins a text. -/
def Atom.isConcat : Atom → Bool
  | .concat _ => true
  | _ => false

/-- The value of an expression.  Denied logic is denied twice where a value is wanted, and a denied
variable that is missing holds. -/
def expressionValue (a : Atom) (m : Meaning) (filters : List (String × List (String × Meaning)))
    (denied : Bool) : Except Fault Json :=
  if a.isLogic then
    match m.truth with
    | .error e => .error e
    | .ok v => .ok (.bool ((v.denyIf denied).holds != denied))
  else match baseValue a m filters with
    | .error e =>
      let hasDefault : Bool := match filters with
        | ("default", _) :: _ => true
        | _ => false
      if a.isPath && denied && !hasDefault then .ok (.bool true) else .error e
    | .ok j =>
      match passFilters filters j with
      | .error e => .error e
      | .ok j => .ok (if denied then .bool !j.isTruthy else j)

/-- The meaning of an expression from that of its atom and of the arguments of its filters.  As a
condition, a denied text of several parts is denied twice. -/
def expressionMeaning (a : Atom) (m : Meaning)
    (filters : List (String × List (String × Meaning))) (denied : Bool) : Meaning :=
  let value := expressionValue a m filters denied
  { value
    truth :=
      if a.isPath then .ok (.truth ((value.map Json.isTruthy).toOption.getD false))
      else if a.isConcat then value.map fun j => .truth (j.isTruthy != denied)
      else m.truth.map (·.denyIf denied)
    number :=
      if filters.isEmpty then m.number else value.bind (numberOf .resultNotNumber) }

/-! ## Recursion -/

mutual

/-- The meaning of an atom. -/
def Atom.meaning (s : Setting) : Atom → Meaning
  | .integer n => .ofLiteral (Number.ofInt? n)
  | .real x => .ofLiteral (Number.ofFloat? x)
  | .bool b => .ofVerdict (.ok (.truth b)) (.boolNotNumber b)
  | .string t => .ofText (.ok t) (.stringNotNumber t)
  | .array items => .ofItems (values (itemMeanings s items))
  | .path p => .ofVariable p (s.scope.lookUp p)
  | .call name arguments =>
    .ofCall name (s.call name (argumentValues (argumentMeanings s arguments) .empty))
  | .test subject denied name arguments =>
    .ofVerdict ((s.test subject denied name (values (itemMeanings s arguments))).map .truth)
      (.testUsedAsNumber name)
  | .concat parts =>
    .ofText ((partTexts s parts).map String.join) (.textNotNumber (partsText parts))
  | .arithmetic op left right =>
    .ofNumber (arithmeticResult op left right (left.meaning s).number (right.meaning s).number)
  | .comparison op left right =>
    .ofVerdict (comparisonVerdict op (left.meaning s) (right.meaning s)) .conditionNotNumber
  | .connective op left right =>
    .ofVerdict (connectiveVerdict op (left.meaning s).truth (right.meaning s).truth)
      .conditionNotNumber
  | .membership item container denied =>
    .ofVerdict (membershipVerdict denied (item.meaning s).value (container.meaning s).value)
      .conditionNotNumber

/-- The meaning of an expression. -/
def Expression.meaning (s : Setting) : Expression → Meaning
  | .mk atom filters denied =>
    expressionMeaning atom (atom.meaning s) (filterMeanings s filters) denied

/-- The meanings of expressions. -/
def itemMeanings (s : Setting) : List Expression → List Meaning
  | [] => []
  | e :: rest => e.meaning s :: itemMeanings s rest

/-- The meanings of named arguments.  Of two arguments with one name the later one counts, and the
other one is not even evaluated. -/
def argumentMeanings (s : Setting) : List (String × Expression) → List (String × Meaning)
  | [] => []
  | (name, e) :: rest =>
    if rest.any fun later => later.1 = name then argumentMeanings s rest
    else (name, e.meaning s) :: argumentMeanings s rest

/-- The texts of atoms that are joined, or the first fault. -/
def partTexts (s : Setting) : List Atom → Except Fault (List String)
  | [] => .ok []
  | a :: rest =>
    match partText a (a.meaning s) with
    | .error e => .error e
    | .ok t => (partTexts s rest).map (t :: ·)

/-- The meanings of the arguments of filters. -/
def filterMeanings (s : Setting) :
    List (String × List (String × Expression)) → List (String × List (String × Meaning))
  | [] => []
  | (name, arguments) :: rest =>
    (name, argumentMeanings s arguments) :: filterMeanings s rest

end

/-- The value of an expression. -/
def Expression.value (e : Expression) (s : Setting) : Except Fault Json := (e.meaning s).value

/-- Whether a condition holds. -/
def Expression.holds (e : Expression) (s : Setting) : Except Fault Bool :=
  (e.meaning s).truth.map Verdict.holds

end ImageRecipe.Template
