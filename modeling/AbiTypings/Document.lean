import AbiTypings.Json.Reader
import AbiTypings.Member.Json

/-!
# Documents

A document is the JSON text of a list of members, or of an object that has such a list under the key
`abi`.
-/

namespace AbiTypings
namespace Document

/-- The list of members in a document. -/
def memberList : Json → Except DocumentFault (List Json)
  | .arr items => .ok items
  | .obj members =>
    match members.lookup "abi" with
    | some (.arr items) => .ok items
    | some _ => .error .abiNotList
    | none => .error .abiMissing
  | _ => .error .notMembers

/-- Decode members in order, up to the first that is malformed. -/
def decodeMembers (items : List Json) : Except DocumentFault (List Member) :=
  (items.mapM Member.ofJson).mapError .malformedMember

/-- Read a document into its members. -/
def read (document : String) : Except DocumentFault (List Member) :=
  match Json.read document with
  | none => .error .notJson
  | some j => (memberList j).bind decodeMembers

end Document

/-- The members of a document. -/
def Member.listOfText (document : String) : Except Fault (List Member) :=
  (Document.read document).mapError .document

end AbiTypings
