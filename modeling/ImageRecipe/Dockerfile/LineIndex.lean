/-!
# Lines of byte offsets

Which line a byte offset of a text lies on.  Only line feeds end lines, and each still belongs to
the line that it ends.
-/

namespace ImageRecipe.Dockerfile

/-- The byte offsets of the line feeds of a text, in order. -/
structure LineIndex where
  newlines : List Nat
  deriving DecidableEq, Repr

namespace LineIndex

/-- The offsets of the line feeds among characters that start at an offset. -/
def newlinesFrom : Nat → List Char → List Nat
  | _, [] => []
  | offset, c :: rest =>
    if c = '\n' then offset :: newlinesFrom (offset + c.utf8Size) rest
    else newlinesFrom (offset + c.utf8Size) rest

/-- The index of a text. -/
def ofText (s : String) : LineIndex := ⟨newlinesFrom 0 s.toList⟩

/-- The line of an offset, counted from one: the line feeds before it, and one more. -/
def lineAt (index : LineIndex) (offset : Nat) : Nat :=
  (index.newlines.takeWhile (· < offset)).length + 1

end LineIndex

/-- Bytes from `start` up to, and without, `stop`. -/
structure Span where
  start : Nat
  stop : Nat
  deriving DecidableEq, Repr

/-- The line of the first byte of a span and that of its last; an empty span has one line. -/
def Span.lines (index : LineIndex) (span : Span) : Nat × Nat :=
  let first := index.lineAt span.start
  (first, if span.start < span.stop then index.lineAt (span.stop - 1) else first)

end ImageRecipe.Dockerfile
