/-!
# White space

The characters of the Unicode property `White_Space`, and what is cut away or split at them.

* `isBlank` : membership
* `trim` : a text without the blanks at its ends
* `words` : the maximal runs of other characters
-/

namespace ImageRecipe.Text

/-- The character is white space.  Tab to carriage return, the plain space, the next-line and
no-break characters, and the typographic spaces belong to it; zero-width characters do not. -/
def isBlank (c : Char) : Bool :=
  let n := c.toNat
  (0x09 ≤ n && n ≤ 0x0D) || n == 0x20 || n == 0x85 || n == 0xA0 || n == 0x1680 ||
    (0x2000 ≤ n && n ≤ 0x200A) || n == 0x2028 || n == 0x2029 || n == 0x202F || n == 0x205F ||
    n == 0x3000

/-- The characters without leading and trailing blanks. -/
def trimChars (cs : List Char) : List Char :=
  ((cs.dropWhile isBlank).reverse.dropWhile isBlank).reverse

/-- The text without leading and trailing blanks. -/
def trim (s : String) : String := String.ofList (trimChars s.toList)

/-- There is nothing but blanks. -/
def isBlankText (s : String) : Bool := s.toList.all isBlank

/-- Puts a word in front of the others, unless it is empty. -/
def consWord (word : List Char) (rest : List (List Char)) : List (List Char) :=
  if word.isEmpty then rest else word :: rest

/-- The run of non-blanks at the front, which may be empty, and the words after it. -/
def splitWords : List Char → List Char × List (List Char)
  | [] => ([], [])
  | c :: rest =>
    let (word, others) := splitWords rest
    if isBlank c then ([], consWord word others) else (c :: word, others)

/-- The maximal runs of non-blanks. -/
def words (s : String) : List String :=
  let (word, others) := splitWords s.toList
  (consWord word others).map String.ofList

end ImageRecipe.Text
