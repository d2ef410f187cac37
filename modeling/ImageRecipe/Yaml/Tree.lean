import ImageRecipe.Yaml.Token

/-!
# The structure of a YAML text

From tokens to a tree: which scalars and collections there are, what is tagged and anchored, and
where an alias stands.  What a scalar means and which node an alias repeats is not decided here.

* `Tree` : the structure
* `treeOf` : the tree of the one document of a text
-/

namespace ImageRecipe.Yaml

/-- What a node carries besides its content. -/
structure Marks where
  anchor : Option String := none
  tag : Option String := none
  deriving DecidableEq, Repr

/-- The structure of a document; `ref` is how an alias names its node. -/
inductive Tree (ref : Type) where
  | scalar (marks : Marks) (text : String) (plain : Bool)
  | sequence (marks : Marks) (items : List (Tree ref))
  | mapping (marks : Marks) (entries : List (Tree ref × Tree ref))
  | alias (target : ref)

namespace Tree

/-- A scalar that is not written out. -/
def missing : Tree String := .scalar {} "" true

end Tree

/-! ## Directives -/

/-- What the handles of tags stand for. -/
abbrev Handles := List (String × String)

/-- The handles that need no directive. -/
def standardHandles : Handles := [("!", "!"), ("!!", "tag:yaml.org,2002:")]

/-- Reads directives: whether a version was given, and the handles so far. -/
def readDirectives (version : Bool) (handles : Handles) :
    List Token → Except Problem (Handles × List Token)
  | .versionDirective major minor :: rest =>
    if version then .error .badDirective
    else if major == 1 && (minor == 1 || minor == 2) then readDirectives true handles rest
    else .error .badDirective
  | .tagDirective handle expansion :: rest =>
    if handles.any fun h => h.1 == handle then .error .badDirective
    else readDirectives version (handles ++ [(handle, expansion)]) rest
  | rest => .ok (handles ++ standardHandles, rest)

/-- The tag for a handle and a suffix; a verbatim tag has an empty handle. -/
def expandTag (handles : Handles) (handle suffix : String) : Except Problem String :=
  if handle.isEmpty then .ok suffix
  else match handles.find? fun h => h.1 == handle with
    | some h => .ok (h.2 ++ suffix)
    | none => .error .undefinedTagHandle

/-- An anchor and a tag, in either order, neither needed. -/
def readMarks (handles : Handles) : List Token → Except Problem (Marks × List Token)
  | .anchor name :: .tag handle suffix :: rest =>
    (expandTag handles handle suffix).map fun tag => (⟨some name, some tag⟩, rest)
  | .anchor name :: rest => .ok (⟨some name, none⟩, rest)
  | .tag handle suffix :: .anchor name :: rest =>
    (expandTag handles handle suffix).map fun tag => (⟨some name, some tag⟩, rest)
  | .tag handle suffix :: rest =>
    (expandTag handles handle suffix).map fun tag => (⟨none, some tag⟩, rest)
  | rest => .ok ({}, rest)

/-! ## Nodes -/

/-- A node of a block mapping is missing before these tokens. -/
def endsBlockNode : List Token → Bool
  | .key :: _ | .value :: _ | .blockEnd :: _ => true
  | _ => false

/-- The marks of a scalar; the tag that only asks for the usual meaning is dropped. -/
def scalarMarks (marks : Marks) : Marks :=
  if marks.tag == some "!" then { marks with tag := none } else marks

mutual

/-- A node and the tokens behind it.  `block` allows block collections, `indentless` a sequence
that is not indented. -/
def readNode (handles : Handles) :
    Nat → (block indentless : Bool) → List Token → Except Problem (Tree String × List Token)
  | 0, _, _, _ => .error .outOfFuel
  | _ + 1, _, _, .alias name :: rest => .ok (.alias name, rest)
  | fuel + 1, block, indentless, tokens => do
    let (marks, rest) ← readMarks handles tokens
    match rest, block, indentless with
    | .blockEntry :: _, _, true =>
      let (items, rest) ← readIndentless handles fuel rest
      return (.sequence marks items, rest)
    | .scalar text plain :: rest, _, _ =>
      return (.scalar (scalarMarks marks) text plain, rest)
    | .flowSequenceStart :: rest, _, _ =>
      let (items, rest) ← readFlowItems handles fuel true rest
      return (.sequence marks items, rest)
    | .flowMappingStart :: rest, _, _ =>
      let (entries, rest) ← readFlowEntries handles fuel true rest
      return (.mapping marks entries, rest)
    | .blockSequenceStart :: rest, true, _ =>
      let (items, rest) ← readBlockItems handles fuel rest
      return (.sequence marks items, rest)
    | .blockMappingStart :: rest, true, _ =>
      let (entries, rest) ← readBlockEntries handles fuel rest
      return (.mapping marks entries, rest)
    | rest, _, _ =>
      if marks == {} then throw .missingNode
      else return (.scalar marks "" true, rest)

/-- The items of a block sequence up to its end. -/
def readBlockItems (handles : Handles) :
    Nat → List Token → Except Problem (List (Tree String) × List Token)
  | 0, _ => .error .outOfFuel
  | fuel + 1, .blockEntry :: rest => do
    let (item, rest) ← match rest with
      | .blockEntry :: _ | .blockEnd :: _ => pure (.missing, rest)
      | rest => readNode handles fuel true false rest
    let (items, rest) ← readBlockItems handles fuel rest
    return (item :: items, rest)
  | _ + 1, .blockEnd :: rest => .ok ([], rest)
  | _ + 1, _ => .error .missingEntryMark

/-- The items of a sequence that is not indented; what ends it is left. -/
def readIndentless (handles : Handles) :
    Nat → List Token → Except Problem (List (Tree String) × List Token)
  | 0, _ => .error .outOfFuel
  | fuel + 1, .blockEntry :: rest => do
    let (item, rest) ← match rest with
      | .blockEntry :: _ | .key :: _ | .value :: _ | .blockEnd :: _ => pure (.missing, rest)
      | rest => readNode handles fuel true false rest
    let (items, rest) ← readIndentless handles fuel rest
    return (item :: items, rest)
  | _ + 1, rest => .ok ([], rest)

/-- The entries of a block mapping up to its end. -/
def readBlockEntries (handles : Handles) :
    Nat → List Token → Except Problem (List (Tree String × Tree String) × List Token)
  | 0, _ => .error .outOfFuel
  | fuel + 1, .key :: rest => do
    let (key, rest) ←
      if endsBlockNode rest then pure (.missing, rest) else readNode handles fuel true true rest
    let (value, rest) ← match rest with
      | .value :: rest =>
        if endsBlockNode rest then pure (.missing, rest)
        else readNode handles fuel true true rest
      | rest => pure (.missing, rest)
    let (entries, rest) ← readBlockEntries handles fuel rest
    return ((key, value) :: entries, rest)
  | _ + 1, .blockEnd :: rest => .ok ([], rest)
  | _ + 1, _ => .error .missingKey

/-- The items between brackets; a comma stands before each but the first. -/
def readFlowItems (handles : Handles) :
    Nat → (first : Bool) → List Token → Except Problem (List (Tree String) × List Token)
  | 0, _, _ => .error .outOfFuel
  | _ + 1, _, .flowSequenceEnd :: rest => .ok ([], rest)
  | fuel + 1, first, tokens => do
    let rest ← match first, tokens with
      | true, rest => pure rest
      | false, .flowEntry :: rest => pure rest
      | false, _ => throw Problem.unclosedSequence
    match rest with
    | .flowSequenceEnd :: rest => return ([], rest)
    | .key :: rest =>
      let (entry, rest) ← readFlowPair handles fuel rest
      let (items, rest) ← readFlowItems handles fuel false rest
      return (.mapping {} [entry] :: items, rest)
    | rest =>
      let (item, rest) ← readNode handles fuel false false rest
      let (items, rest) ← readFlowItems handles fuel false rest
      return (item :: items, rest)

/-- A key and its value that stand between brackets as one item.  Where the key is missing, the
token before which it is missing goes with it. -/
def readFlowPair (handles : Handles) :
    Nat → List Token → Except Problem ((Tree String × Tree String) × List Token)
  | 0, _ => .error .outOfFuel
  | fuel + 1, tokens => do
    let (key, rest) ← match tokens with
      | .value :: rest | .flowEntry :: rest | .flowSequenceEnd :: rest => pure (.missing, rest)
      | rest => readNode handles fuel false false rest
    match rest with
    | .value :: rest =>
      match rest with
      | .flowEntry :: _ | .flowSequenceEnd :: _ => return ((key, .missing), rest)
      | rest =>
        let (value, rest) ← readNode handles fuel false false rest
        return ((key, value), rest)
    | rest => return ((key, .missing), rest)

/-- The entries between braces; a comma stands before each but the first. -/
def readFlowEntries (handles : Handles) :
    Nat → (first : Bool) → List Token →
      Except Problem (List (Tree String × Tree String) × List Token)
  | 0, _, _ => .error .outOfFuel
  | _ + 1, _, .flowMappingEnd :: rest => .ok ([], rest)
  | fuel + 1, first, tokens => do
    let rest ← match first, tokens with
      | true, rest => pure rest
      | false, .flowEntry :: rest => pure rest
      | false, _ => throw Problem.unclosedMapping
    match rest with
    | .flowMappingEnd :: rest => return ([], rest)
    | .key :: rest =>
      let (key, rest) ← match rest with
        | .value :: _ | .flowEntry :: _ | .flowMappingEnd :: _ => pure (.missing, rest)
        | rest => readNode handles fuel false false rest
      let (value, rest) ← match rest with
        | .value :: rest =>
          match rest with
          | .flowEntry :: _ | .flowMappingEnd :: _ => pure (.missing, rest)
          | rest => readNode handles fuel false false rest
        | rest => pure (.missing, rest)
      let (entries, rest) ← readFlowEntries handles fuel false rest
      return ((key, value) :: entries, rest)
    | rest =>
      let (key, rest) ← readNode handles fuel false false rest
      let (entries, rest) ← readFlowEntries handles fuel false rest
      return ((key, .missing) :: entries, rest)

end

/-! ## Documents -/

/-- The content of a document that was opened by a mark may be missing. -/
def readContent (handles : Handles) (tokens : List Token) :
    Except Problem (Tree String × List Token) :=
  match tokens with
  | .versionDirective _ _ :: _ | .tagDirective _ _ :: _ | .documentStart :: _
  | .documentEnd :: _ | .endOfText :: _ => .ok (.missing, tokens)
  | _ => readNode handles (4 * tokens.length + 4) true false tokens

/-- Nothing but marks that close the document may follow it. -/
def checkEnd (tokens : List Token) : Except Problem Unit :=
  match tokens.dropWhile (· == .documentEnd) with
  | [.endOfText] => .ok ()
  | .documentStart :: _ | .versionDirective _ _ :: _ | .tagDirective _ _ :: _ =>
    .error .severalDocuments
  | _ => .error .missingDocumentStart

/-- The one document among the tokens, if there is any. -/
def documentOf (tokens : List Token) : Except Problem (Option (Tree String)) := do
  match tokens with
  | [.endOfText] => return none
  | .versionDirective _ _ :: _ | .tagDirective _ _ :: _ | .documentStart :: _ =>
    let (handles, rest) ← readDirectives false [] tokens
    match rest with
    | .documentStart :: rest =>
      let (tree, rest) ← readContent handles rest
      checkEnd rest
      return some tree
    | _ => throw .missingDocumentStart
  | _ =>
    let (tree, rest) ← readNode standardHandles (4 * tokens.length + 4) true false tokens
    checkEnd rest
    return some tree

/-- The tree of the one document of a text, if there is any. -/
def treeOf (s : String) : Except Problem (Option (Tree String)) := do documentOf (← tokensOf s)

end ImageRecipe.Yaml
