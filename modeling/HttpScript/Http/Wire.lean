/-
Module: HttpScript.Http.Wire
Purpose: Requests and responses as JSON, the form in which a client reports what it has sent and
  received.
Main exports: Request.toJson, Request.ofJson, Response.toJson, Response.ofJson
-/
import HttpScript.Http.Message
import HttpScript.Json.Decode

namespace HttpScript.Http

open Json

def Method.toJson (m : Method) : Value :=
  .string m.name

def Method.ofJson : Value → Except DecodeError Method :=
  Decode.variant (Method.all.map (fun m => (m.name, m)))

/-- A file name, which is text on the wire. -/
def pathOfJson : Value → Except DecodeError FilePath
  | .string s => .ok (FilePath.ofString s)
  | v => Decode.wrongType v "path string"

def Request.toJson (r : Request) : Value :=
  .ofMembers [
    ("id", .string r.id),
    ("method", r.method.toJson),
    ("url", .string r.url),
    ("http_version", .optional r.httpVersion),
    ("headers", .ofDict r.headers),
    ("body", .optional r.body),
    ("line_number", .nat r.lineNumber),
    ("file_path", .string r.filePath.text)]

def Request.record : Record Request :=
  Record.pure Request.mk
    |>.field (.required "id" Decode.text)
    |>.field (.required "method" Method.ofJson)
    |>.field (.required "url" Decode.text)
    |>.field (.optional "http_version" Decode.text)
    |>.field (.required "headers" Decode.dictionary)
    |>.field (.optional "body" Decode.text)
    |>.field (.required "line_number" Decode.count)
    |>.field (.required "file_path" pathOfJson)

def Request.ofJson : Value → Except DecodeError Request :=
  Request.record.decode "HttpRequest"

def Response.toJson (r : Response) : Value :=
  .ofMembers [
    ("status_code", .nat r.statusCode.toNat),
    ("status_text", .string r.statusText),
    ("headers", .ofDict r.headers),
    ("body", .string r.body)]

def statusOfJson (v : Value) : Except DecodeError UInt16 :=
  (Decode.natural "u16" UInt16.size v).map UInt16.ofNat

/-- Headers and body may be left out. -/
def Response.record : Record Response :=
  Record.pure Response.mk
    |>.field (.required "status_code" statusOfJson)
    |>.field (.required "status_text" Decode.text)
    |>.field (.withDefault "headers" Decode.dictionary {})
    |>.field (.withDefault "body" Decode.text "")

def Response.ofJson : Value → Except DecodeError Response :=
  Response.record.decode "HttpResponse"

end HttpScript.Http
