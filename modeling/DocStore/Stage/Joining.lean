import DocStore.Document
import DocStore.Request.Basic

/-!
Contract: joining the documents of another collection.

The remote documents are listed by the canonical key of their remote field; one
without that field is left out. A document whose local field has the same
canonical key as some of them is given their list.

Owns: the table of partners, and writing them into documents.
-/

namespace DocStore.Stage

/-- The remote documents, in their order, under the canonical keys of their remote field. -/
abbrev Partners := SortedMap String (List Document)

/-- Lists a remote document under its key. -/
def addPartner (remoteField : String) (partners : Partners) (remote : Document) : Partners :=
  match remote.get? remoteField with
  | some value =>
      let key := value.canonicalKey
      partners.insert key ((partners.find? key).getD [] ++ [remote])
  | none => partners

/-- The table of partners among remote documents. -/
def partnersOf (remoteField : String) (remote : List Document) : Partners :=
  remote.foldl (addPartner remoteField) SortedMap.empty

/-- Writes the partners of a document into it; without partners it stays as it is. -/
def withPartners (spec : JoinSpec) (partners : Partners) (document : Document) : Document :=
  match (document.get? spec.localField).bind fun value => partners.find? value.canonicalKey with
  | some found => document.set spec.asField (.array (found.map Document.toValue))
  | none => document

end DocStore.Stage
