/-
# Results of downloads as documents

Main definitions:

* `Download.Result.toDocument`, `Download.Result.ofDocument?`.
-/
import Reachability.Config.Document
import Reachability.Download.Result

namespace Reachability.Download.Result

open Document

/-- A result as a document. -/
def toDocument (r : Result) : Document :=
  .table
    [("connect_success", .bool r.connectSuccess),
     ("transfer_success", .bool r.transferSuccess),
     ("file_exists", .bool r.fileExists),
     ("delete_success", .bool r.deleteSuccess),
     ("valid", .bool r.valid),
     ("stopped", .bool r.stopped),
     ("http_codes", .list (r.httpCodes.map fun code => .integer code.toNat)),
     ("http_messages", .list (r.httpMessages.map .text)),
     ("diagnostics", .list (r.diagnostics.map .text)),
     ("file_name", (r.fileName.map Document.text).getD .null),
     ("url", .text r.url),
     ("bytes_transferred", .integer r.bytesTransferred.toNat),
     ("duration", r.duration.toDocument),
     ("error", (r.error.map ProbeError.toDocument).getD .null)]

/-- The names of the fields. -/
def fieldNames : List String :=
  ["connect_success", "transfer_success", "file_exists", "delete_success", "valid", "stopped",
    "http_codes", "http_messages", "diagnostics", "file_name", "url", "bytes_transferred",
    "duration", "error"]

/-- The code that a document is. -/
def code? (d : Document) : Option UInt16 := (d.asNatBelow? UInt16.size).map UInt16.ofNat

/-- The result that a document is. -/
def ofDocument? (d : Document) : Option Result :=
  match d.fields? .json fieldNames with
  | some [connectSuccess, transferSuccess, fileExists, deleteSuccess, valid, stopped, httpCodes,
      httpMessages, diagnostics, fileName, url, bytesTransferred, duration, error] => do
      return {
        connectSuccess := ← required asBool? connectSuccess
        transferSuccess := ← required asBool? transferSuccess
        fileExists := ← required asBool? fileExists
        deleteSuccess := ← required asBool? deleteSuccess
        valid := ← required asBool? valid
        stopped := ← required asBool? stopped
        httpCodes := ← required (asListOf? code?) httpCodes
        httpMessages := ← required (asListOf? asText?) httpMessages
        diagnostics := ← required (asListOf? asText?) diagnostics
        fileName := ← optional asText? d.isPositional fileName
        url := ← required asText? url
        bytesTransferred := ← required asUInt64? bytesTransferred
        duration := ← required (Duration.ofDocument? .json) duration
        error := ← optional ProbeError.ofDocument? d.isPositional error }
  | _ => none

end Reachability.Download.Result
