/-!
Contract: endings of texts.

Owns: stripping one ending, or every repetition of it.
-/

namespace DocStore.Text

/-- A text without an ending, if it has that ending. -/
def withoutSuffix? (suffix text : String) : Option String :=
  let kept := text.toList.length - suffix.toList.length
  if suffix.toList.isSuffixOf text.toList then some (String.ofList (text.toList.take kept))
  else none

def endsWith (text suffix : String) : Bool := suffix.toList.isSuffixOf text.toList

/-- A text without any repetition of an ending; the first argument bounds the repetitions. -/
def withoutSuffixes (suffix : String) : Nat → String → String
  | 0, text => text
  | bound + 1, text =>
      match withoutSuffix? suffix text with
      | some shorter => withoutSuffixes suffix bound shorter
      | none => text

end DocStore.Text
