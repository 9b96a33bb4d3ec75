import SourceAtlas.Json.Value

/-! The wire to a server: requests that were sent, and the replies that will come. -/

namespace SourceAtlas

/-- A request to a server; one with a body posts it. -/
structure Request where
  url : String
  body : Option Json

/-- What comes back for a request. -/
inductive Reply where
  | response (status : Int) (body : String)
  /-- The exchange fails in a known way. -/
  | lost (kind message : String)
  /-- Something else breaks. -/
  | broken (message : String)

/-- The replies that will come, in order, and the requests that were sent, in order. -/
structure Wire where
  replies : List Reply
  sent : List Request := []

namespace Wire

/-- The reply when there is none. -/
def silence : Reply :=
  .lost "ConnectError" "no response left"

/-- Sends a request and takes the next reply. -/
def send (request : Request) (wire : Wire) : Reply × Wire :=
  -- The request is noted even where no reply is left.
  (wire.replies.headD silence, ⟨wire.replies.tail, wire.sent ++ [request]⟩)

end Wire

/-! ## Statuses -/

namespace Status

/-- The phrases that go with statuses. -/
def phrases : List (Int × String) :=
  [(100, "Continue"), (101, "Switching Protocols"), (102, "Processing"), (103, "Early Hints"),
    (200, "OK"), (201, "Created"), (202, "Accepted"), (203, "Non-Authoritative Information"),
    (204, "No Content"), (205, "Reset Content"), (206, "Partial Content"), (207, "Multi-Status"),
    (208, "Already Reported"), (226, "IM Used"),
    (300, "Multiple Choices"), (301, "Moved Permanently"), (302, "Found"), (303, "See Other"),
    (304, "Not Modified"), (305, "Use Proxy"), (307, "Temporary Redirect"),
    (308, "Permanent Redirect"),
    (400, "Bad Request"), (401, "Unauthorized"), (402, "Payment Required"), (403, "Forbidden"),
    (404, "Not Found"), (405, "Method Not Allowed"), (406, "Not Acceptable"),
    (407, "Proxy Authentication Required"), (408, "Request Timeout"), (409, "Conflict"),
    (410, "Gone"),
    (411, "Length Required"), (412, "Precondition Failed"), (413, "Request Entity Too Large"),
    (414, "Request-URI Too Long"), (415, "Unsupported Media Type"),
    (416, "Requested Range Not Satisfiable"), (417, "Expectation Failed"), (418, "I'm a teapot"),
    (421, "Misdirected Request"), (422, "Unprocessable Entity"), (423, "Locked"),
    (424, "Failed Dependency"), (425, "Too Early"), (426, "Upgrade Required"),
    (428, "Precondition Required"), (429, "Too Many Requests"),
    (431, "Request Header Fields Too Large"), (451, "Unavailable For Legal Reasons"),
    (500, "Internal Server Error"), (501, "Not Implemented"), (502, "Bad Gateway"),
    (503, "Service Unavailable"), (504, "Gateway Timeout"), (505, "HTTP Version Not Supported"),
    (506, "Variant Also Negotiates"), (507, "Insufficient Storage"), (508, "Loop Detected"),
    (510, "Not Extended"), (511, "Network Authentication Required")]

/-- The words for the hundreds of statuses. -/
def kinds : List (Int × String) :=
  [(1, "Informational response"), (3, "Redirect response"), (4, "Client error"),
    (5, "Server error")]

/-- Whether a status tells of success. -/
def isSuccess (status : Int) : Bool :=
  -- Redirects are not followed, so they tell of no success either.
  200 ≤ status && status ≤ 299

/-- The text about a status that tells of no success. -/
def message (status : Int) (url : String) : String :=
  -- Statuses beyond those that are known have no phrase, and odd ones no word for their kind.
  (kinds.lookup (status / 100)).getD "Invalid status code" ++ " '" ++ toString status ++ " " ++
    (phrases.lookup status).getD "" ++ "' for url '" ++ url ++ "'\nFor more information check: " ++
    "https://developer.mozilla.org/en-US/docs/Web/HTTP/Status/" ++ toString status

end Status

end SourceAtlas
