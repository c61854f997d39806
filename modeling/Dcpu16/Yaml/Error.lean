import Dcpu16.Numeral.Integer

/-!
What can be wrong with a document.
-/

namespace Dcpu16.Yaml

/-- Why a text is not a document. -/
inductive Error where
  /-- A character that no document holds. -/
  | forbiddenCharacter
  /-- A character that starts nothing. -/
  | unexpectedCharacter
  /-- A line that starts like a key has no colon. -/
  | unfinishedKey
  /-- A key, a value or an entry where none is allowed. -/
  | misplaced
  /-- An anchor or alias without a name. -/
  | badName
  /-- A quoted text without its end, or with a document marker inside. -/
  | unfinishedText
  /-- An unknown escape in a quoted text. -/
  | badEscape
  /-- The first line of a block text is malformed. -/
  | badHeader
  /-- The tokens of the text do not form a document. -/
  | badStructure
  /-- An alias without an anchor. -/
  | undefinedAlias
  /-- Two anchors of one name. -/
  | duplicateAnchor
  /-- More than one document. -/
  | severalDocuments
  /-- A list or a map as a key. -/
  | badKey
  /-- A plain text that has no value. -/
  | noValue
  /-- A date, a kind of value that is left out here. -/
  | date
  /-- Entries to be merged that are not maps. -/
  | badMerge
  /-- An escape for a number past the last code point. -/
  | codeRange
  /-- An escape for a number that has more than 31 bits. -/
  | codeWidth
  /-- A place in base sixty that is worth more than the greatest number with a fraction. -/
  | placeRange
  /-- A number that cannot be read. -/
  | integer (e : Numeral.IntegerError)
  deriving DecidableEq, Repr

end Dcpu16.Yaml
