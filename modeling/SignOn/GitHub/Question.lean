import SignOn.Error
import SignOn.Url.Parser

/-!
Questions to GitHub. A question is a request, if one can be made at all, with the meaning of each
answer to it; `ask` joins the two by a rule that carries requests.
-/
namespace SignOn.GitHub

structure Request where
  method : String
  url : Url
  headers : List (String × String)
  body : Option (List Char)
  deriving DecidableEq

/-- The last answer to a request, after all redirections. -/
structure Response where
  status : Nat
  body : List UInt8
  deriving DecidableEq, Repr

/-- Answers to requests; nothing where a request fails or is not answered in time. -/
abbrev Carrier := Request → Option Response

/-- Whether a text can be the value of a header. -/
def isHeaderText (s : String) : Bool :=
  s.toList.all fun c => c = '\t' || (' ' ≤ c && c ≠ '\x7f')

/-- A request for a web page with a host, if its headers can be written. -/
def request? (method url : String) (headers : List (String × String)) (body : Option (List Char)) :
    Option Request :=
  match Url.parse? url with
  | some u =>
    if u.isWeb && headers.all fun h => isHeaderText h.2 then some ⟨method, u, headers, body⟩
    else none
  | none => none

/-- A question and what an answer to it means. -/
structure Question (α : Type) where
  request? : Option Request
  read : Option Response → Except Error α

def Question.ask {α : Type} (q : Question α) (carry : Carrier) : Except Error α :=
  q.read (q.request?.bind carry)

def failed {α : Type} (detail : String) : Except Error α := .error ⟨.externalService, detail⟩

/-- The words that come with a status in an answer. -/
def reasons : List (Nat × String) :=
  [(100, "Continue"), (101, "Switching Protocols"), (102, "Processing"), (200, "OK"),
    (201, "Created"), (202, "Accepted"), (203, "Non Authoritative Information"),
    (204, "No Content"), (205, "Reset Content"), (206, "Partial Content"), (207, "Multi-Status"),
    (208, "Already Reported"), (226, "IM Used"), (300, "Multiple Choices"),
    (301, "Moved Permanently"), (302, "Found"), (303, "See Other"), (304, "Not Modified"),
    (305, "Use Proxy"), (307, "Temporary Redirect"), (308, "Permanent Redirect"),
    (400, "Bad Request"), (401, "Unauthorized"), (402, "Payment Required"), (403, "Forbidden"),
    (404, "Not Found"), (405, "Method Not Allowed"), (406, "Not Acceptable"),
    (407, "Proxy Authentication Required"), (408, "Request Timeout"), (409, "Conflict"),
    (410, "Gone"), (411, "Length Required"), (412, "Precondition Failed"),
    (413, "Payload Too Large"), (414, "URI Too Long"), (415, "Unsupported Media Type"),
    (416, "Range Not Satisfiable"), (417, "Expectation Failed"), (418, "I'm a teapot"),
    (421, "Misdirected Request"), (422, "Unprocessable Entity"), (423, "Locked"),
    (424, "Failed Dependency"), (426, "Upgrade Required"), (428, "Precondition Required"),
    (429, "Too Many Requests"), (431, "Request Header Fields Too Large"),
    (451, "Unavailable For Legal Reasons"), (500, "Internal Server Error"),
    (501, "Not Implemented"), (502, "Bad Gateway"), (503, "Service Unavailable"),
    (504, "Gateway Timeout"), (505, "HTTP Version Not Supported"), (506, "Variant Also Negotiates"),
    (507, "Insufficient Storage"), (508, "Loop Detected"), (510, "Not Extended"),
    (511, "Network Authentication Required")]

def Response.statusLine (r : Response) : String :=
  let reason := (reasons.lookup r.status).getD "<unknown status code>"
  s!"HTTP {r.status} {reason}"

def Response.isSuccess (r : Response) : Bool := 200 ≤ r.status && r.status < 300

/-- The name by which the service makes itself known. -/
def userAgent : String := "identity-auth-backend/0.1.0"

end SignOn.GitHub
