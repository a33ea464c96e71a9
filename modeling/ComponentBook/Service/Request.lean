import ComponentBook.Json.Bytes
import ComponentBook.Service.Call
import ComponentBook.Text.Lower

/-! # Requests

A **`Request`** has a method, a target, and maybe a body with its media type, both as the bytes that
arrive. The target names a path; what follows a question mark is not part of it (**`Request.path`**).
**`Request.payload`** reads the body. -/

namespace ComponentBook.Service

/-- A request to the service. -/
structure Request where
  method : Text
  target : Text
  /-- The type of the body, as it is declared. -/
  mediaType : List UInt8 := []
  body : List UInt8 := []
  deriving DecidableEq, Repr

/-- The path that a request is for, as it is written. -/
def Request.path (r : Request) : Text := r.target.takeWhile (· ≠ '?')

/-- The text of bytes each of which is a character by itself. -/
def textOfBytes (bytes : List UInt8) : Text := bytes.map fun b => Char.ofNat b.toNat

/-- The declared type of a body is that of JSON. -/
def isJson (mediaType : Text) : Bool :=
  match Text.fields '/' (Text.strip (mediaType.takeWhile (· ≠ ';'))).lower with
  | [group, kind] =>
    group = "application".toList && (kind = "json".toList || kind.endsWith "+json".toList)
  | _ => false

/-- What the body of a request holds. -/
def Request.payload (r : Request) : Except Json.Fault Payload :=
  if r.body.isEmpty then .ok .absent
  else if r.mediaType.isEmpty || isJson (textOfBytes r.mediaType) then
    (Json.ofBytes r.body).map .json
  else
    match Text.ofUtf8 r.body with
    | .ok t => .ok (.foreign t)
    | .error _ => .error .unreadable

end ComponentBook.Service
