-- SUMMARY: Status codes of answers, and their phrases.
/-!
# Status codes

Which status codes say success and which say failure, and the phrase that goes
with each code of failure.
-/

namespace ClusterAudit.Web

/-- Whether a status says that all is well. -/
def isSuccess (status : Nat) : Bool := 200 ≤ status && status ≤ 299

/-- Whether a status blames the one who asks or the one who answers. -/
def isFailure (status : Nat) : Bool := 400 ≤ status && status ≤ 599

/-- The phrases of the codes of failure. -/
def statusPhrases : List (Nat × String) :=
  [ (400, "Bad Request"), (401, "Unauthorized"), (402, "Payment Required"), (403, "Forbidden"),
    (404, "Not Found"), (405, "Method Not Allowed"), (406, "Not Acceptable"),
    (407, "Proxy Authentication Required"), (408, "Request Timeout"), (409, "Conflict"),
    (410, "Gone"), (411, "Length Required"), (412, "Precondition Failed"),
    (413, "Payload Too Large"), (414, "URI Too Long"), (415, "Unsupported Media Type"),
    (416, "Range Not Satisfiable"), (417, "Expectation Failed"), (418, "I'm a teapot"),
    (421, "Misdirected Request"), (422, "Unprocessable Entity"), (423, "Locked"),
    (424, "Failed Dependency"), (425, "Too Early"), (426, "Upgrade Required"),
    (428, "Precondition Required"), (429, "Too Many Requests"),
    (431, "Request Header Fields Too Large"), (451, "Unavailable For Legal Reasons"),
    (500, "Internal Server Error"), (501, "Not Implemented"), (502, "Bad Gateway"),
    (503, "Service Unavailable"), (504, "Gateway Timeout"), (505, "HTTP Version Not Supported"),
    (506, "Variant Also Negotiates"), (507, "Insufficient Storage"), (508, "Loop Detected"),
    (510, "Not Extended"), (511, "Network Authentication Required") ]

def statusText (status : Nat) : String :=
  let phrase := (statusPhrases.find? (·.1 == status)).map (·.2)
  toString status ++ " " ++ phrase.getD "<unknown status code>"

end ClusterAudit.Web
