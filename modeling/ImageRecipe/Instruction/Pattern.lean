import ImageRecipe.Text.Blank

/-!
# Patterns of arguments

The forms that a string argument may be asked to have.

* `Pattern` : a written form, for messages, and named groups; matching a text gives the groups
  that took part
* `Pattern.imageReference` : an image with an optional tag or digest
* `Pattern.assignment` : a name with an optional default
* `Pattern.word` : lower-case letters only
-/

namespace ImageRecipe

/-- Which characters a name may have. -/
inductive NameStyle where
  /-- ASCII letters, digits and underscores, no digit in front. -/
  | identifier
  /-- Lower-case ASCII letters. -/
  | lowercase
  deriving DecidableEq, Repr

/-- The named groups that took part in a match, with their texts. -/
structure Captures where
  groups : List (String × String)
  deriving DecidableEq, Repr

/-- The text of a group, if it took part. -/
def Captures.get? (captures : Captures) (name : String) : Option String :=
  (captures.groups.find? fun g => g.1 = name).map Prod.snd

/-- A form of string arguments. -/
structure Pattern where
  /-- The written form. -/
  source : String
  /-- The names of the groups, in the order of the written form. -/
  groupNames : List String
  /-- The captures of a text, if the pattern matches it. -/
  match? : String → Option Captures

/-! ## Names -/

namespace NameStyle

/-- The written form of a name. -/
def source : NameStyle → String
  | .identifier => "[A-Za-z_][A-Za-z0-9_]*"
  | .lowercase => "[a-z]+"

/-- A character that may open a name. -/
def isFirst : NameStyle → Char → Bool
  | .identifier, c => ('A' ≤ c && c ≤ 'Z') || ('a' ≤ c && c ≤ 'z') || c == '_'
  | .lowercase, c => 'a' ≤ c && c ≤ 'z'

/-- A character that may follow in a name. -/
def isNext : NameStyle → Char → Bool
  | .identifier, c =>
    ('A' ≤ c && c ≤ 'Z') || ('a' ≤ c && c ≤ 'z') || c == '_' || ('0' ≤ c && c ≤ '9')
  | .lowercase, c => 'a' ≤ c && c ≤ 'z'

/-- The longest name at the front, empty if there is none, and what follows it. -/
def split (style : NameStyle) : List Char → List Char × List Char
  | [] => ([], [])
  | c :: rest =>
    if style.isFirst c then (c :: rest.takeWhile style.isNext, rest.dropWhile style.isNext)
    else ([], c :: rest)

end NameStyle

namespace Pattern

/-! ## Image references -/

/-- A character of an image's name. -/
def isImageChar (c : Char) : Bool := !Text.isBlank c && c != ':' && c != '@'

/-- A character of a tag or digest. -/
def isReferenceChar (c : Char) : Bool := !Text.isBlank c && c != '@'

/-- A port and a path, `:5000/app`, at the front, and what follows it. -/
def splitPort? : List Char → Option (List Char × List Char)
  | ':' :: rest =>
    let digits := rest.takeWhile Char.isDigit
    match rest.dropWhile Char.isDigit with
    | '/' :: after =>
      let path := after.takeWhile isImageChar
      if digits.isEmpty || path.isEmpty then none
      else some (':' :: (digits ++ '/' :: path), after.dropWhile isImageChar)
    | _ => none
  | _ => none

/-- Nothing, or a delimiter with a tag or digest that reaches to the end. -/
def referenceTail? : List Char → Option (Option (Char × List Char))
  | [] => some none
  | c :: rest =>
    if (c == ':' || c == '@') && !rest.isEmpty && rest.all isReferenceChar then
      some (some (c, rest))
    else none

/-- The image of a reference, its delimiter and what the delimiter introduces.  A port is taken as
part of the image if the rest allows it. -/
def splitReference? (cs : List Char) : Option (List Char × Option (Char × List Char)) :=
  let host := cs.takeWhile isImageChar
  let rest := cs.dropWhile isImageChar
  if host.isEmpty then none
  else
    let plain := (referenceTail? rest).map (host, ·)
    match splitPort? rest with
    | none => plain
    | some (port, after) =>
      match referenceTail? after with
      | some tail => some (host ++ port, tail)
      | none => plain

/-! ## Assignments -/

/-- The name and the default of an assignment.  A default stays on one line. -/
def splitAssignment? (style : NameStyle) (cs : List Char) :
    Option (List Char × Option (List Char)) :=
  let (name, rest) := style.split cs
  if name.isEmpty then none
  else match rest with
    | [] => some (name, none)
    | c :: value => if c = '=' ∧ value.all (· != '\n') then some (name, some value) else none

/-! ## Forms -/

/-- `image`, `image:tag` or `image@digest`, the image possibly behind a registry's port. -/
def imageReference : Pattern where
  source :=
    "^(?P<image>[^\\s:@]+(?::[0-9]+/[^\\s:@]+)?)(?:(?P<delimiter>[:@])(?P<reference>[^\\s@]+))?$"
  groupNames := ["image", "delimiter", "reference"]
  match? s :=
    (splitReference? s.toList).map fun (image, tail) =>
      match tail with
      | none => ⟨[("image", String.ofList image)]⟩
      | some (delimiter, reference) =>
        ⟨[("image", String.ofList image), ("delimiter", String.singleton delimiter),
          ("reference", String.ofList reference)]⟩

/-- `name` or `name=default`. -/
def assignment (style : NameStyle) : Pattern where
  source := "^(?P<name>" ++ style.source ++ ")(?:=(?P<default>.*))?$"
  groupNames := ["name", "default"]
  match? s :=
    (splitAssignment? style s.toList).map fun (name, value) =>
      match value with
      | none => ⟨[("name", String.ofList name)]⟩
      | some value => ⟨[("name", String.ofList name), ("default", String.ofList value)]⟩

/-- One word of lower-case letters. -/
def word : Pattern where
  source := "^[a-z]+$"
  groupNames := []
  match? s :=
    if !s.isEmpty && s.toList.all (NameStyle.isFirst .lowercase) then some ⟨[]⟩ else none

end Pattern

end ImageRecipe
