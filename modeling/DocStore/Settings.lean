import DocStore.Text.Blank
import DocStore.Text.LetterCase

/-!
Contract: the settings of query evaluation.

Indexes are used unless they are switched off, and an operand of a text join is
literal when it begins with the literal mark. Both can be set through the
environment: indexes are switched off by one of four words in any case, and the
first character of a text replaces the mark.

Owns: `Settings` and its reading from an environment.
-/

namespace DocStore

/-- How queries are evaluated. -/
structure Settings where
  usesIndexes : Bool := true
  literalMark : Char := '-'
deriving DecidableEq, Repr, Inhabited

namespace Settings

/-- The variable that switches indexes off. -/
def indexVariable : String := "FLATBASE_USE_INDEXES"

/-- The variable whose first character is the literal mark. -/
def markVariable : String := "FLATBASE_LITERAL_PREFIX"

/-- The words that switch indexes off. -/
def offWords : List String := ["0", "false", "off", "no"]

/-- The settings of an environment. -/
def ofEnvironment (lookup : String → Option String) : Settings :=
  let defaults : Settings := ⟨true, '-'⟩
  let usesIndexes :=
    match lookup indexVariable with
    | some text => !offWords.contains (Text.lowercase (Text.trim text))
    | none => defaults.usesIndexes
  let literalMark :=
    match lookup markVariable with
    | some text => text.toList.head?.getD defaults.literalMark
    | none => defaults.literalMark
  ⟨usesIndexes, literalMark⟩

end Settings

end DocStore
