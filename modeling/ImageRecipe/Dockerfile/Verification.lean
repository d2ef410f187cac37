import ImageRecipe.Dockerfile.Grammar
import ImageRecipe.Dockerfile.LineIndex

/-!
# Verification of a Dockerfile

Reads a text as a Dockerfile, the way a build would, and tells which instructions stand where.

* `DockerfileError` : why a text is none
* `statements` : the instructions of a text with their spans
* `verify` : keywords, lines and the number of stages
-/

namespace ImageRecipe.Dockerfile

/-- Why a text is not a Dockerfile. -/
inductive DockerfileError where
  /-- The text does not follow the grammar; this much of it does. -/
  | malformed (offset : Nat)
  /-- A quoted word cannot be read. -/
  | unquote (cause : UnquoteError)
  /-- The digest of an image is none. -/
  | invalidDigest
  deriving DecidableEq

/-- The wording of each cause. -/
def DockerfileError.message : DockerfileError → String
  | .malformed offset =>
    "could not parse Dockerfile: stopped at byte " ++ Decimal.naturalText offset
  | .unquote cause => "error unescaping string: " ++ cause.message
  | .invalidDigest => "unable to parse Dockerfile: image reference digest is invalid"

/-! ## Fields -/

/-- The text without the backslashes that stand before a line feed, and without these. -/
def joinLines : List Char → List Char
  | '\\' :: '\n' :: rest => joinLines rest
  | c :: rest => c :: joinLines rest
  | [] => []

/-- A field can be read. -/
def Field.check (field : Field) : Except DockerfileError Unit :=
  match unquote (if field.joinsLines then joinLines field.text else field.text) with
  | .ok _ => .ok ()
  | .error cause => .error (.unquote cause)

/-- The part of an image behind its registry, which is a host with a dot or a port, or the local
host. -/
def withoutRegistry (image : List Char) : List Char :=
  let host := image.takeWhile (· != '/')
  match image.dropWhile (· != '/') with
  | [] => image
  | _ :: rest =>
    if host == "localhost".toList || host.contains '.' || host.contains ':' then rest else image

/-- The digest of an image, if it has one, names its algorithm and has the right length. -/
def checkDigest (image : List Char) : Except DockerfileError Unit :=
  match (withoutRegistry image).dropWhile (· != '@') with
  | [] => .ok ()
  | _ :: digest =>
    let hex := digest.drop 7
    if digest.take 7 == "sha256:".toList && hex.length == 64 && !hex.contains ':' &&
        hex.any (fun c => (Json.hexValue? c).isSome) then .ok ()
    else .error .invalidDigest

/-- Every field of a statement can be read, and its image is sound. -/
def Statement.check (s : Statement) : Except DockerfileError Unit := do
  s.fields.forM Field.check
  match s.image with
  | some image => checkDigest image
  | none => .ok ()

/-! ## Texts -/

/-- How many bytes characters take. -/
def byteLength (cs : List Char) : Nat := cs.foldr (fun c bytes => c.utf8Size + bytes) 0

/-- A statement, the place where it starts, and the place behind it. -/
structure Placed where
  statement : Statement
  span : Span

/-- The statements of a text from an offset on, up to its end. -/
def statementsFrom : Nat → Nat → Rest → List Placed → Except DockerfileError (List Placed)
  | 0, offset, _, _ => .error (.malformed offset)
  | fuel + 1, offset, cs, done =>
    let start := skipSpaces cs
    let startOffset := offset + byteLength (consumed cs start)
    let (found, rest) : Option Statement × Rest :=
      match statement start with
      | some (s, rest) => (some s, rest)
      | none => (none, (comment start).getD start)
    let stopOffset := startOffset + byteLength (consumed start rest)
    let done := match found with
      | some s => ⟨s, ⟨startOffset, stopOffset⟩⟩ :: done
      | none => done
    let left := skipSpaces rest
    let leftOffset := stopOffset + byteLength (consumed rest left)
    match left with
    | [] => .ok done.reverse
    | _ =>
      match newline left with
      | some next => statementsFrom fuel (leftOffset + byteLength (consumed left next)) next done
      | none => .error (.malformed leftOffset)

/-- The statements of a text. -/
def statements (s : String) : Except DockerfileError (List Placed) :=
  statementsFrom (s.toList.length + 1) 0 s.toList []

/-- An instruction and the lines it stands on. -/
structure VerifiedInstruction where
  keyword : String
  startLine : Nat
  endLine : Nat
  deriving DecidableEq, Repr

/-- What verification finds. -/
structure Verification where
  instructions : List VerifiedInstruction
  stages : Nat
  deriving DecidableEq, Repr

/-- The report on one statement. -/
def Placed.report (index : LineIndex) (p : Placed) : VerifiedInstruction :=
  let (startLine, endLine) := p.span.lines index
  ⟨p.statement.keyword, startLine, endLine⟩

/-- Verifies a text.  Each statement that starts from an image opens a stage. -/
def verify (s : String) : Except DockerfileError Verification := do
  let placed ← statements s
  placed.forM fun p => p.statement.check
  return {
    instructions := placed.map (Placed.report (.ofText s))
    stages := (placed.filter fun p => p.statement.image.isSome).length }

end ImageRecipe.Dockerfile
