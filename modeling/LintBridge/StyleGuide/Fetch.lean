/-!
Fetching the style guide, and why that may fail.
-/

set_option autoImplicit false
set_option relaxedAutoImplicit false

namespace LintBridge.StyleGuide

/-- Why a document cannot be fetched. -/
inductive FetchFault
  /-- There is no answer. -/
  | unreachable (url : String)
  /-- The answer has a status that is no success. -/
  | status (code : Nat)
  /-- The answer is cut short. -/
  | cutShort
  deriving DecidableEq, Repr

def reasons : List (Nat × String) :=
  [(100, "Continue"), (101, "Switching Protocols"), (102, "Processing"), (200, "OK"), (201, "Created"),
   (202, "Accepted"), (203, "Non Authoritative Information"), (204, "No Content"), (205, "Reset Content"),
   (206, "Partial Content"), (207, "Multi-Status"), (208, "Already Reported"), (226, "IM Used"),
   (300, "Multiple Choices"), (301, "Moved Permanently"), (302, "Found"), (303, "See Other"),
   (304, "Not Modified"), (305, "Use Proxy"), (307, "Temporary Redirect"), (308, "Permanent Redirect"),
   (400, "Bad Request"), (401, "Unauthorized"), (402, "Payment Required"), (403, "Forbidden"),
   (404, "Not Found"), (405, "Method Not Allowed"), (406, "Not Acceptable"),
   (407, "Proxy Authentication Required"), (408, "Request Timeout"), (409, "Conflict"), (410, "Gone"),
   (411, "Length Required"), (412, "Precondition Failed"), (413, "Payload Too Large"),
   (414, "URI Too Long"), (415, "Unsupported Media Type"), (416, "Range Not Satisfiable"),
   (417, "Expectation Failed"), (418, "I'm a teapot"), (421, "Misdirected Request"),
   (422, "Unprocessable Entity"), (423, "Locked"), (424, "Failed Dependency"), (425, "Too Early"),
   (426, "Upgrade Required"), (428, "Precondition Required"), (429, "Too Many Requests"),
   (431, "Request Header Fields Too Large"), (451, "Unavailable For Legal Reasons"),
   (500, "Internal Server Error"), (501, "Not Implemented"), (502, "Bad Gateway"),
   (503, "Service Unavailable"), (504, "Gateway Timeout"), (505, "HTTP Version Not Supported"),
   (506, "Variant Also Negotiates"), (507, "Insufficient Storage"), (508, "Loop Detected"),
   (510, "Not Extended"), (511, "Network Authentication Required")]

def FetchFault.message : FetchFault → String
  | unreachable url => "error sending request for url (" ++ url ++ ")"
  | status code => (reasons.lookup code).getD (toString code)
  | cutShort => "error decoding response body"

def FetchFault.placeholder (f : FetchFault) : String :=
  "***\nError retrieving documentation: " ++ f.message

abbrev Fetched := Except FetchFault String

def isSuccess (code : Nat) : Bool := 200 ≤ code && code < 300

def Fetched.ofAnswer (code : Nat) (document : String) : Fetched :=
  if isSuccess code then .ok document else .error (.status code)

end LintBridge.StyleGuide
