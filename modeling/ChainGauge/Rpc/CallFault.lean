import ChainGauge.Json.Printer
import ChainGauge.Net.Url
import ChainGauge.Text.Hex
import ChainGauge.Text.Message

/-!
# Failed calls

Why a call to a node brings no answer.
-/

namespace ChainGauge

/-- The usual name of a status of an exchange. -/
def statusReason (code : Nat) : Option String :=
  [(100, "Continue"), (101, "Switching Protocols"), (102, "Processing"), (103, "Early Hints"),
    (200, "OK"), (201, "Created"), (202, "Accepted"), (203, "Non Authoritative Information"),
    (204, "No Content"), (205, "Reset Content"), (206, "Partial Content"), (207, "Multi-Status"),
    (208, "Already Reported"), (226, "IM Used"), (300, "Multiple Choices"),
    (301, "Moved Permanently"), (302, "Found"), (303, "See Other"), (304, "Not Modified"),
    (305, "Use Proxy"), (307, "Temporary Redirect"), (308, "Permanent Redirect"),
    (400, "Bad Request"), (401, "Unauthorized"), (402, "Payment Required"), (403, "Forbidden"),
    (404, "Not Found"), (405, "Method Not Allowed"), (406, "Not Acceptable"),
    (407, "Proxy Authentication Required"), (408, "Request Timeout"), (409, "Conflict"),
    (410, "Gone"), (411, "Length Required"), (412, "Precondition Failed"),
    (413, "Payload Too Large"), (414, "URI Too Long"), (415, "Unsupported Media Type"),
    (416, "Range Not Satisfiable"), (417, "Expectation Failed"), (418, "I'm a teapot"),
    (421, "Misdirected Request"), (422, "Unprocessable Entity"), (423, "Locked"),
    (424, "Failed Dependency"), (425, "Too Early"), (426, "Upgrade Required"),
    (428, "Precondition Required"), (429, "Too Many Requests"),
    (431, "Request Header Fields Too Large"), (451, "Unavailable For Legal Reasons"),
    (500, "Internal Server Error"), (501, "Not Implemented"), (502, "Bad Gateway"),
    (503, "Service Unavailable"), (504, "Gateway Timeout"), (505, "HTTP Version Not Supported"),
    (506, "Variant Also Negotiates"), (507, "Insufficient Storage"), (508, "Loop Detected"),
    (510, "Not Extended"), (511, "Network Authentication Required")].lookup code

/-- Why a call to a node brings no answer. -/
inductive CallFault where
  /-- In the words of whoever answers. -/
  | reported (text : String)
  | endpoint (text : String) (cause : Url.Fault)
  /-- The URL is none to send requests to. -/
  | request (method url : String)
  /-- The exchange broke off, was refused or took too long. -/
  | exchange (method url : String)
  | status (method : String) (code : Nat)
  /-- The body is no answer to this call. -/
  | body (method : String)
  /-- The node answers with an error. -/
  | answer (method : String) (code : Int) (text : String) (data : Option Json)
  /-- The answer holds neither a result nor an error. -/
  | empty (method : String)
  | rootLength (text : String)
  | rootOddLength (text : String)
  | rootDigit (text : String) (index : Nat) (c : Char)
  deriving BEq

/-- The wording of a failed call. -/
def CallFault.message : CallFault → String
  | .reported s => s
  | .endpoint s e => s!"invalid endpoint {s}: {e.message}"
  | .request m u => s!"{m}: builder error for url ({u})"
  | .exchange m u => s!"{m}: error sending request for url ({u})"
  | .status m code => s!"{m}: http status {code} " ++
      (statusReason code).getD "<unknown status code>"
  | .body m => s!"{m}: bad response: error decoding response body"
  | .answer m code text none => s!"{m}: {code} {text}"
  | .answer m code text (some data) => s!"{m}: {code} {text} ({data.render})"
  | .empty m => s!"{m}: empty result"
  | .rootLength s => s!"getstateroot: bad root hash {s}: invalid string length"
  | .rootOddLength s => s!"getstateroot: bad root hash {s}: odd number of digits"
  | .rootDigit s i c =>
    s!"getstateroot: bad root hash {s}: invalid character " ++ Quoted.char c ++
      s!" at position {i}"

end ChainGauge
