/-!
# What is wrong with a YAML text

The causes for which a text is refused, from its characters up to its nodes.
-/

namespace ImageRecipe.Yaml

/-- Why a text is not YAML, or not YAML that this library takes. -/
inductive Problem where
  | controlCharacter
  | unexpectedCharacter
  | tabIndentation
  | unclosedQuote
  | documentMarkInQuotes
  | badEscape
  | badBlockHeader
  | badDirective
  | badAnchor
  | badTag
  | misplacedColon
  | misplacedEntry
  | misplacedKey
  | misplacedValue
  | missingColon
  | missingNode
  | missingEntryMark
  | missingKey
  | unclosedSequence
  | unclosedMapping
  | missingDocumentStart
  | undefinedTagHandle
  | unknownAnchor
  | contentUnlikeTag
  | wideNumber
  | duplicateKey
  | tooDeep
  | tooManyRepetitions
  | severalDocuments
  | outOfFuel
  deriving DecidableEq, Repr

/-- The wording of each cause. -/
def Problem.message : Problem → String
  | .controlCharacter => "control characters are not allowed"
  | .unexpectedCharacter => "found a character that cannot start any token"
  | .tabIndentation => "found a tab where indentation is expected"
  | .unclosedQuote => "found the end of the text inside quotes"
  | .documentMarkInQuotes => "found a document mark inside quotes"
  | .badEscape => "found an unknown escape"
  | .badBlockHeader => "found an unknown header of a block scalar"
  | .badDirective => "found an unknown directive"
  | .badAnchor => "found an anchor without a name"
  | .badTag => "found a tag that cannot be read"
  | .misplacedColon => "found a colon in a plain scalar"
  | .misplacedEntry => "sequence entries are not allowed here"
  | .misplacedKey => "mapping keys are not allowed here"
  | .misplacedValue => "mapping values are not allowed here"
  | .missingColon => "could not find the colon after a key"
  | .missingNode => "did not find any content"
  | .missingEntryMark => "did not find the next sequence entry"
  | .missingKey => "did not find the next key"
  | .unclosedSequence => "did not find a comma or the end of a sequence"
  | .unclosedMapping => "did not find a comma or the end of a mapping"
  | .missingDocumentStart => "did not find the start of a document"
  | .undefinedTagHandle => "found an undefined tag handle"
  | .unknownAnchor => "found an unknown anchor"
  | .contentUnlikeTag => "the content does not suit its tag"
  | .wideNumber => "a whole number needs more than 64 bits"
  | .duplicateKey => "found a key twice"
  | .tooDeep => "the nesting is too deep"
  | .tooManyRepetitions => "there are too many repetitions"
  | .severalDocuments => "there is more than one document"
  | .outOfFuel => "the text could not be read to its end"

end ImageRecipe.Yaml
