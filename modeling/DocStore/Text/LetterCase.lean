import DocStore.Text.CaseMapping
import DocStore.Text.CaseContext

/-!
Contract: lower case of whole texts and equality without regard to case.

Lower-casing goes character by character, except that capital sigma takes its
final form at the end of a word and capital I with a dot becomes two
characters. ASCII letters are mapped one by one, so two ASCII texts can be
compared without the tables.

Owns: `lowercase`, `equalIgnoringCase`.
-/

namespace DocStore.Text

/-- The lower-case form of a character that maps on its own. -/
def lowerChar (character : Char) : List Char :=
  if character.toNat < 128 then [character.toLower]
  else if character = 'İ' then ['i', '\u0307']
  else [lowerBeyondAscii character]

/-- Whether the first character that is not skipped is a cased letter. -/
def startsCased (characters : List Char) : Bool :=
  match characters.dropWhile isSkipped with
  | [] => false
  | character :: _ => isCased character

/-- Lower case of `rest`, which follows `before` read backwards. -/
def lowerFrom (before : List Char) : List Char → List Char
  | [] => []
  | character :: rest =>
      let lowered :=
        if character = 'Σ' then
          if startsCased before && !startsCased rest then ['ς'] else ['σ']
        else lowerChar character
      lowered ++ lowerFrom (character :: before) rest

/-- The lower-case form of a text. -/
def lowercase (text : String) : String :=
  String.ofList (lowerFrom [] text.toList)

def isAscii (text : String) : Bool := text.toList.all fun character => character.toNat < 128

/-- Equality of ASCII texts letter by letter. -/
def equalIgnoringAsciiCase (left right : String) : Bool :=
  left.toList.map Char.toLower == right.toList.map Char.toLower

/-- Equality without regard to case: letter by letter on ASCII, by lower-cased texts otherwise. -/
def equalIgnoringCase (left right : String) : Bool :=
  if isAscii left && isAscii right then equalIgnoringAsciiCase left right
  else lowercase left == lowercase right

end DocStore.Text
