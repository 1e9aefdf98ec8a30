/-
HTTP status codes and their texts.

A status code is a number from 100 to 999. It reads as the number and the standard reason
phrase (`404 Not Found`), or `<unknown status code>` for a code without one. The short reason
names of API error answers (`NotFound`, `Conflict`, ...) are a separate table; codes without
one are `Unknown`.
-/
namespace OlmProvision

/-- An HTTP status code. -/
structure StatusCode where
  code : Nat
deriving DecidableEq, Repr, Inhabited

namespace StatusCode

/-- Not found. -/
def notFound : StatusCode := ⟨404⟩

/-- Conflict. -/
def conflict : StatusCode := ⟨409⟩

/-- Internal server error. -/
def internalError : StatusCode := ⟨500⟩

/-- The status code of a number, when it is one (100 to 999). -/
def ofNat? (n : Nat) : Option StatusCode := if 100 ≤ n ∧ n ≤ 999 then some ⟨n⟩ else none

/-- The standard reason phrases. -/
def reasonPhrases : List (Nat × String) :=
  [(100, "Continue"), (101, "Switching Protocols"), (102, "Processing"), (200, "OK"),
   (201, "Created"), (202, "Accepted"), (203, "Non Authoritative Information"),
   (204, "No Content"), (205, "Reset Content"), (206, "Partial Content"), (207, "Multi-Status"),
   (208, "Already Reported"), (226, "IM Used"), (300, "Multiple Choices"),
   (301, "Moved Permanently"), (302, "Found"), (303, "See Other"), (304, "Not Modified"),
   (305, "Use Proxy"), (307, "Temporary Redirect"), (308, "Permanent Redirect"),
   (400, "Bad Request"), (401, "Unauthorized"), (402, "Payment Required"), (403, "Forbidden"),
   (404, "Not Found"), (405, "Method Not Allowed"), (406, "Not Acceptable"),
   (407, "Proxy Authentication Required"), (408, "Request Timeout"), (409, "Conflict"),
   (410, "Gone"), (411, "Length Required"), (412, "Precondition Failed"),
   (413, "Payload Too Large"), (414, "URI Too Long"), (415, "Unsupported Media Type"),
   (416, "Range Not Satisfiable"), (417, "Expectation Failed"), (418, "I'm a teapot"),
   (421, "Misdirected Request"), (422, "Unprocessable Entity"), (423, "Locked"),
   (424, "Failed Dependency"), (426, "Upgrade Required"), (428, "Precondition Required"),
   (429, "Too Many Requests"), (431, "Request Header Fields Too Large"),
   (451, "Unavailable For Legal Reasons"), (500, "Internal Server Error"),
   (501, "Not Implemented"), (502, "Bad Gateway"), (503, "Service Unavailable"),
   (504, "Gateway Timeout"), (505, "HTTP Version Not Supported"),
   (506, "Variant Also Negotiates"), (507, "Insufficient Storage"), (508, "Loop Detected"),
   (510, "Not Extended"), (511, "Network Authentication Required")]

/-- The reason phrase of a code, if it has one. -/
def reasonPhrase? (s : StatusCode) : Option String :=
  (reasonPhrases.find? (fun p => p.1 == s.code)).map Prod.snd

/-- The text of a status: the number and its reason phrase. -/
def display (s : StatusCode) : String :=
  toString s.code ++ " " ++ (s.reasonPhrase?.getD "<unknown status code>")

/-- The short reason names of API error answers. -/
def reasonNames : List (Nat × String) :=
  [(400, "BadRequest"), (401, "Unauthorized"), (403, "Forbidden"), (404, "NotFound"),
   (405, "MethodNotAllowed"), (409, "Conflict"), (410, "Gone"), (422, "Invalid"),
   (429, "TooManyRequests"), (500, "InternalError"), (503, "ServiceUnavailable"),
   (504, "Timeout")]

/-- The short reason name of a code. -/
def reasonName (code : Nat) : String :=
  ((reasonNames.find? (fun p => p.1 == code)).map Prod.snd).getD "Unknown"

example : display ⟨599⟩ = "599 <unknown status code>" := by decide

end StatusCode

end OlmProvision
