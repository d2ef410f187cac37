import ImageRecipe.Decimal.Reader
import ImageRecipe.Text.Occurrence

/-!
# Paths

A path is the text by which a template names a value: the name of a variable, then names behind
points and names or places in brackets.  What stands in brackets without quotes is a path of its
own, and its value takes its place before the whole path is followed.

* `Path` : a path as it is written
* `Path.inner` : the paths in its brackets
* `Path.pointed` : brackets turned into points
-/

namespace ImageRecipe.Template

/-- A path as it is written. -/
structure Path where
  written : String
  deriving DecidableEq, Repr

namespace Path

/-- There is a bracket in the text. -/
def isBracketed (text : String) : Bool := text.toList.contains '['

/-- The digits of a place in an array, which needs no looking up. -/
def isPlace (text : List Char) : Bool :=
  let digits := match text with
    | '+' :: rest => rest
    | cs => cs
  !digits.isEmpty && digits.all Char.isDigit && Decimal.digitsValue digits < 18446744073709551616

/-- What is in front of the bracket that closes the last of `depth` open ones, and what is behind
it. -/
def upToClosing : Nat → List Char → Option (List Char × List Char)
  | _, [] => none
  | depth, c :: rest =>
    if c = ']' && depth ≤ 1 then some ([], rest)
    else
      let depth := if c = '[' then depth + 1 else if c = ']' then depth - 1 else depth
      (upToClosing depth rest).map fun (inside, left) => (c :: inside, left)

/-- The texts in brackets that are neither quoted nor places; the text is not longer than
`bound`. -/
def innerUpTo : Nat → List Char → List String
  | 0, _ | _, [] => []
  | bound + 1, '[' :: c :: rest =>
    if c = '"' || c = '\'' then innerUpTo bound rest
    else match upToClosing 1 rest with
      | none => []
      | some (inside, left) =>
        let found := innerUpTo bound left
        if isPlace (c :: inside) then found else String.ofList (c :: inside) :: found
  | bound + 1, _ :: rest => innerUpTo bound rest

/-- The texts in the brackets of a path that are paths of their own, in order.  A quote right behind
a bracket does not hide the brackets that follow it. -/
def inner (text : String) : List String := innerUpTo text.toList.length text.toList

/-- The marks that are replaced one after the other before a path is followed. -/
def replacements : List (String × String) :=
  [("/", "~1"), ("['", ".\""), ("[\"", ".\""), ("[", "."), ("']", "\""), ("\"]", "\""), ("]", "")]

/-- A path with points in place of brackets, and double quotes in place of single ones. -/
def pointed (text : String) : String :=
  replacements.foldl (fun text r => Text.replaceText text r.1 r.2) text

/-- The text with `[name]` replaced by a point and a value where it stands first. -/
def fill (text name value : String) : String :=
  String.ofList (Text.replaceFirst ('[' :: (name.toList ++ [']'])) ('.' :: value.toList)
    text.toList)

/-- The name in front of the first point, and what is behind the point, if there is one. -/
def splitAtPoint (text : String) : String × Option String :=
  let cs := text.toList
  match cs.dropWhile (· != '.') with
  | [] => (text, none)
  | _ :: rest => (String.ofList (cs.takeWhile (· != '.')), some (String.ofList rest))

end Path

end ImageRecipe.Template
