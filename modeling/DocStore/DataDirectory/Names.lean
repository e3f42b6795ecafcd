import DocStore.Text.Suffix

/-!
Contract: the names of the files that hold a collection.

The documents of a collection stand in one file and its indexed fields in
another, both named after the collection. A file is first written beside its
place, under its own name with one more ending.

Owns: file names of collections and collection names of files.
-/

namespace DocStore.DataDirectory

def documentsEnding : String := ".json"

def indexesEnding : String := ".indexes.json"

def draftEnding : String := ".tmp"

/-- The file of a collection's documents. -/
def documentsFile (collection : String) : String := collection ++ documentsEnding

/-- The file of a collection's indexed fields. -/
def indexesFile (collection : String) : String := collection ++ indexesEnding

/-- Whether a file is read as the documents of a collection. A file that has nothing before the
ending is not. -/
def isDocumentsFile (name : String) : Bool :=
  Text.endsWith name documentsEnding && name != documentsEnding &&
    !Text.endsWith name indexesEnding

/-- The collection that a file of documents is read as: its name without any such ending. -/
def collectionRead (name : String) : String :=
  Text.withoutSuffixes documentsEnding name.toList.length name

/-- The collection that a file is kept for; files of neither kind are kept for none. -/
def collectionKept? (name : String) : Option String :=
  match Text.withoutSuffix? indexesEnding name with
  | some collection => some collection
  | none => Text.withoutSuffix? documentsEnding name

end DocStore.DataDirectory
