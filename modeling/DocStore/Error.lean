import DocStore.Value.Basic

/-!
Contract: everything that can go wrong, by cause.

An operation on documents, stores, requests or files fails with one of these
causes. The wording belongs to this module alone.

Owns: `DiskFault`, `Error` and their messages.
-/

namespace DocStore

/-- Why a disk refused an action. -/
inductive DiskFault where
  | notFound
  | alreadyExists
  | notADirectory
  | isADirectory
  | nameTooLong
  | invalidName
  | invalidText
deriving DecidableEq, Repr

/-- The system's text for a fault. -/
def DiskFault.message : DiskFault → String
  | notFound => "No such file or directory (os error 2)"
  | alreadyExists => "File exists (os error 17)"
  | notADirectory => "Not a directory (os error 20)"
  | isADirectory => "Is a directory (os error 21)"
  | nameTooLong => "File name too long (os error 36)"
  | invalidName => "file name contained an unexpected NUL byte"
  | invalidText => "stream did not contain valid UTF-8"

/-- The cause of a failed operation. -/
inductive Error where
  | disk (fault : DiskFault)
  | malformedText
  | databaseNotFound (database : String)
  | collectionNotFound (database collection : String)
  | duplicateKey (key : String)
  | notADocument (kind : Kind)
  | keyNotString (written : String)
  | malformedPredicate
  | malformedRequest
  | groupFieldTaken (step : Nat) (field : String)
  | emptyIndexField
deriving DecidableEq, Repr

/-- The wording of an error. -/
def Error.message : Error → String
  | disk fault => "I/O error: " ++ fault.message
  | malformedText => "Serialization error"
  | databaseNotFound database => "Database not found: " ++ database
  | collectionNotFound database collection =>
      "Collection not found: " ++ database ++ "." ++ collection
  | duplicateKey key => "Duplicate key: " ++ key
  | notADocument kind => "Invalid document: document must be an object, got " ++ kind.name
  | keyNotString written => "Invalid document: _id must be a string, got " ++ written
  | malformedPredicate => "Invalid query: malformed predicate tree"
  | malformedRequest => "Aggregation error: malformed aggregate request"
  | groupFieldTaken step field =>
      "Aggregation error: step " ++ toString step ++ ": GROUP_BY field '" ++ field ++
        "' collides with the 'group' member field"
  | emptyIndexField => "Index error: index field must not be empty"

end DocStore
