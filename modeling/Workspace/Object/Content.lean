/-
# Notebook content

The answer to an export holds the notebook in base64, under the key `content`; an answer without
that key holds an empty notebook.  `encode` and `decode` lead from bytes to content and back.
-/
import Workspace.Bytes.Base64
import Workspace.Error
namespace Workspace

/-- A notebook in base64. -/
structure Content where
  base64 : String
  deriving DecidableEq, Repr

namespace Content

/-- The content that an answer of the service holds. -/
def ofJson (v : Json) : Except Error Content :=
  match v with
  | .object members =>
    match Json.Members.get? members "content" with
    | none => .ok ⟨""⟩
    | some (.string s) => .ok ⟨s⟩
    | some _ => .error (.malformed "Export content is not a string" v)
  | _ => .error (.malformed "Export response is not a JSON object" v)

/-- The content of a byte sequence. -/
def encode (bytes : Bytes) : Content := ⟨String.ofList (Base64.encode bytes)⟩

/-- The bytes of a content. -/
def decode (content : Content) : Except Error Bytes :=
  match Base64.decode content.base64.toList with
  | .ok bytes => .ok bytes
  | .error fault =>
    .error (.malformed s!"Export content is not valid base64: {fault.message}"
      (.string content.base64))

end Content

end Workspace
