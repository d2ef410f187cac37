import ImageRecipe.Json.Printer
import ImageRecipe.Template.Expression

/-!
# Outlines

How messages show the structure of a value or of an expression: each part under the name of its
kind.

* `Json.outline` : a JSON tree
* `Atom.outline`, `Expression.outline` : an expression
-/

namespace ImageRecipe

/-- Texts between marks, with commas between them. -/
def Template.listed (front : String) (items : List String) (back : String) : String :=
  front ++ String.intercalate ", " items ++ back

/-- The fields of a record under its name. -/
def Template.fields (name : String) (entries : List (String × String)) : String :=
  name ++ listed " \x7b " (entries.map fun e => e.1 ++ ": " ++ e.2) " \x7d"

/-- A truth value. -/
def Template.truthText (b : Bool) : String := if b then "true" else "false"

mutual

/-- The outline of a JSON tree. -/
def Json.outline : Json → String
  | .null => "Null"
  | .bool b => "Bool(" ++ Template.truthText b ++ ")"
  | .whole n => "Number(" ++ Decimal.integerText n.value ++ ")"
  | .real x => "Number(" ++ Decimal.scientific.text x.value ++ ")"
  | .string s => "String(" ++ Text.quoted s ++ ")"
  | .array items => "Array " ++ Template.listed "[" (itemOutlines items) "]"
  | .object ⟨entries⟩ => "Object " ++ Template.listed "\x7b" (memberOutlines entries) "\x7d"

/-- The outlines of items. -/
def itemOutlines : List Json → List String
  | [] => []
  | item :: rest => item.outline :: itemOutlines rest

/-- The outlines of members. -/
def memberOutlines : List (String × Json) → List String
  | [] => []
  | (key, value) :: rest => (Text.quoted key ++ ": " ++ value.outline) :: memberOutlines rest

end

namespace Template

/-- The name of an operation. -/
def Arithmetic.outline : Arithmetic → String
  | .add => "Add"
  | .sub => "Sub"
  | .mul => "Mul"
  | .div => "Div"
  | .mod => "Modulo"

/-- The name of a comparison. -/
def Comparison.outline : Comparison → String
  | .lt => "Lt"
  | .le => "Lte"
  | .gt => "Gt"
  | .ge => "Gte"
  | .eq => "Eq"
  | .ne => "NotEq"

/-- The name of a connective. -/
def Connective.outline : Connective → String
  | .and => "And"
  | .or => "Or"

/-- The outline of a call. -/
def callOutline (name : String) (arguments : List String) : String :=
  fields "FunctionCall" [("name", Text.quoted name), ("args", listed "\x7b" arguments "\x7d")]

mutual

/-- The outline of an atom. -/
def Atom.outline : Atom → String
  | .integer n => "Int(" ++ Decimal.integerText n ++ ")"
  | .real x => "Float(" ++ Decimal.named.text x ++ ")"
  | .bool b => "Bool(" ++ truthText b ++ ")"
  | .string s => "String(" ++ Text.quoted s ++ ")"
  | .array items => "Array(" ++ listed "[" (expressionOutlines items) "]" ++ ")"
  | .path p => "Ident(" ++ Text.quoted p.written ++ ")"
  | .call name arguments =>
    "FunctionCall(" ++ callOutline name (argumentOutlines arguments) ++ ")"
  | .test subject denied name arguments =>
    "Test(" ++ fields "Test"
      [("ident", Text.quoted subject.written), ("negated", truthText denied),
        ("name", Text.quoted name), ("args", listed "[" (expressionOutlines arguments) "]")] ++ ")"
  | .concat parts =>
    "StringConcat(" ++
      fields "StringConcat" [("values", listed "[" (atomOutlines parts) "]")] ++ ")"
  | .arithmetic op left right =>
    "Math(" ++ fields "MathExpr"
      [("lhs", left.outline), ("rhs", right.outline), ("operator", op.outline)] ++ ")"
  | .comparison op left right =>
    "Logic(" ++ fields "LogicExpr"
      [("lhs", left.outline), ("rhs", right.outline), ("operator", op.outline)] ++ ")"
  | .connective op left right =>
    "Logic(" ++ fields "LogicExpr"
      [("lhs", left.outline), ("rhs", right.outline), ("operator", op.outline)] ++ ")"
  | .membership item container denied =>
    "In(" ++ fields "In"
      [("lhs", item.outline), ("rhs", container.outline), ("negated", truthText denied)] ++ ")"

/-- The outline of an expression. -/
def Expression.outline : Expression → String
  | .mk atom filters denied =>
    fields "Expr" [("val", atom.outline), ("negated", truthText denied),
      ("filters", listed "[" (filterOutlines filters) "]")]

/-- The outlines of expressions. -/
def expressionOutlines : List Expression → List String
  | [] => []
  | e :: rest => e.outline :: expressionOutlines rest

/-- The outlines of atoms. -/
def atomOutlines : List Atom → List String
  | [] => []
  | a :: rest => a.outline :: atomOutlines rest

/-- The outlines of named arguments; of two with one name the later one counts. -/
def argumentOutlines : List (String × Expression) → List String
  | [] => []
  | (name, e) :: rest =>
    if rest.any fun later => later.1 = name then argumentOutlines rest
    else (Text.quoted name ++ ": " ++ e.outline) :: argumentOutlines rest

/-- The outlines of filters. -/
def filterOutlines : List (String × List (String × Expression)) → List String
  | [] => []
  | (name, arguments) :: rest =>
    callOutline name (argumentOutlines arguments) :: filterOutlines rest

end

end Template

end ImageRecipe
