/-
# Responses

What is kept of the answer to a request: its status, the phrase that came with it, and the
headers that matter to a download.

Main definitions:

* `Http.Status` : a status code with the ranges that it falls into;
* `Http.HeaderValue` : the bytes of a header, with `HeaderValue.text?`;
* `Http.Response` : an answer.
-/
import Reachability.Number.Decimal
import Reachability.Text.Utf8

namespace Reachability.Http

/-! ## Status codes -/

/-- A status code of three digits. -/
structure Status where
  code : UInt16
  lower : 100 ≤ code
  upper : code ≤ 999
deriving DecidableEq, Repr

namespace Status

/-- The status of a code, if it has three digits. -/
def ofCode? (code : UInt16) : Option Status :=
  if h : 100 ≤ code ∧ code ≤ 999 then some ⟨code, h.1, h.2⟩ else none

/-- The request was carried out. -/
def isSuccess (s : Status) : Bool := 200 ≤ s.code && s.code < 300

/-- The codes that name another place to ask. -/
def redirectCodes : List UInt16 := [301, 302, 303, 307, 308]

/-- The answer is to be had at another place. -/
def isRedirect (s : Status) : Bool := redirectCodes.contains s.code

/-- The usual phrases of the codes. -/
def phrases : List (UInt16 × String) :=
  [(100, "Continue"), (101, "Switching Protocols"), (102, "Processing"), (200, "OK"),
   (201, "Created"), (202, "Accepted"), (203, "Non Authoritative Information"),
   (204, "No Content"), (205, "Reset Content"), (206, "Partial Content"),
   (207, "Multi-Status"), (208, "Already Reported"), (226, "IM Used"),
   (300, "Multiple Choices"), (301, "Moved Permanently"), (302, "Found"),
   (303, "See Other"), (304, "Not Modified"), (305, "Use Proxy"),
   (307, "Temporary Redirect"), (308, "Permanent Redirect"), (400, "Bad Request"),
   (401, "Unauthorized"), (402, "Payment Required"), (403, "Forbidden"),
   (404, "Not Found"), (405, "Method Not Allowed"), (406, "Not Acceptable"),
   (407, "Proxy Authentication Required"), (408, "Request Timeout"), (409, "Conflict"),
   (410, "Gone"), (411, "Length Required"), (412, "Precondition Failed"),
   (413, "Payload Too Large"), (414, "URI Too Long"), (415, "Unsupported Media Type"),
   (416, "Range Not Satisfiable"), (417, "Expectation Failed"), (418, "I'm a teapot"),
   (421, "Misdirected Request"), (422, "Unprocessable Entity"), (423, "Locked"),
   (424, "Failed Dependency"), (425, "Too Early"), (426, "Upgrade Required"),
   (428, "Precondition Required"), (429, "Too Many Requests"),
   (431, "Request Header Fields Too Large"), (451, "Unavailable For Legal Reasons"),
   (500, "Internal Server Error"), (501, "Not Implemented"), (502, "Bad Gateway"),
   (503, "Service Unavailable"), (504, "Gateway Timeout"),
   (505, "HTTP Version Not Supported"), (506, "Variant Also Negotiates"),
   (507, "Insufficient Storage"), (508, "Loop Detected"), (510, "Not Extended"),
   (511, "Network Authentication Required")]

/-- The usual phrase of a code, empty if there is none. -/
def phrase (s : Status) : String := (phrases.lookup s.code).getD ""

end Status

/-! ## Headers -/

/-- The bytes of a header's value. -/
structure HeaderValue where
  bytes : List UInt8
deriving DecidableEq, Repr

namespace HeaderValue

/-- The bytes that a value may have: no control characters but the tab. -/
def isAllowed (b : UInt8) : Bool := b == 0x09 || (0x20 ≤ b && b != 0x7f)

/-- The value of some bytes. -/
def ofBytes? (bytes : List UInt8) : Option HeaderValue :=
  if bytes.all isAllowed then some ⟨bytes⟩ else none

/-- The bytes that are read as text: visible ASCII, blanks and tabs. -/
def isReadable (b : UInt8) : Bool := b == 0x09 || (0x20 ≤ b && b < 0x7f)

/-- The text of a value, if all of its bytes can be read. -/
def text? (v : HeaderValue) : Option String :=
  if v.bytes.all isReadable then
    some (String.ofList (v.bytes.map fun b => Char.ofNat b.toNat))
  else none

end HeaderValue

/-! ## Responses -/

/-- The answer to a request. -/
structure Response where
  status : Status
  /-- The phrase that came with the status, if it differs from the usual one. -/
  reason : Option (List UInt8) := none
  location : Option HeaderValue := none
  disposition : Option HeaderValue := none
  contentType : Option HeaderValue := none
deriving DecidableEq, Repr

namespace Response

/-- The phrase of the status. -/
def phrase (r : Response) : String :=
  match r.reason with
  | some bytes => String.ofList (Utf8.decodeLossy bytes)
  | none => r.status.phrase

/-- The status in one line. -/
def statusLine (r : Response) : String :=
  Decimal.ofNat r.status.code.toNat ++ " " ++ r.phrase

end Response
end Reachability.Http
