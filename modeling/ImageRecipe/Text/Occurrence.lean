/-!
# Occurrences

One text inside of another.

* `occursIn` : there is an occurrence
* `replaceText` : each occurrence replaced
* `replaceFirst` : the first occurrence replaced
-/

namespace ImageRecipe.Text

/-- A text occurs in another one. -/
def occursIn (part : List Char) : List Char → Bool
  | [] => part.isEmpty
  | c :: rest => part.isPrefixOf (c :: rest) || occursIn part rest

/-- Replaces what stands at the front by `new`, wherever it is `old`; `old` is not empty. -/
def replaceChars (old new : List Char) : Nat → List Char → List Char
  | 0, cs => cs
  | _, [] => []
  | bound + 1, c :: rest =>
    if old.isPrefixOf (c :: rest) then
      new ++ replaceChars old new bound ((c :: rest).drop old.length)
    else c :: replaceChars old new bound rest

/-- Replaces each occurrence of a text, from the left.  The empty text occurs around every
character. -/
def replaceText (s old new : String) : String :=
  if old.isEmpty then
    String.ofList (new.toList ++ s.toList.flatMap fun c => c :: new.toList)
  else String.ofList (replaceChars old.toList new.toList (s.toList.length + 1) s.toList)

/-- Replaces the first occurrence of a text, or puts the new one at the end if there is none. -/
def replaceFirst (old new : List Char) : List Char → List Char
  | [] => new
  | c :: rest =>
    if old.isPrefixOf (c :: rest) then new ++ (c :: rest).drop old.length
    else c :: replaceFirst old new rest

end ImageRecipe.Text
