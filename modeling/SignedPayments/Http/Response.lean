import SignedPayments.Http.Head
import SignedPayments.Time.Span

/-!
# SignedPayments.Http.Response

What comes back when a request is sent. A transport keeps a record of all that it receives, so
that one can tell how often it was used.
-/

namespace SignedPayments

namespace Status

/-- The names of status codes. -/
def names : List (Nat × String) :=
  [(100, "Continue"), (101, "Switching Protocols"), (102, "Processing"), (103, "Early Hints"),
   (200, "OK"), (201, "Created"), (202, "Accepted"), (203, "Non Authoritative Information"),
   (204, "No Content"), (205, "Reset Content"), (206, "Partial Content"), (207, "Multi-Status"),
   (208, "Already Reported"), (226, "IM Used"),
   (300, "Multiple Choices"), (301, "Moved Permanently"), (302, "Found"), (303, "See Other"),
   (304, "Not Modified"), (305, "Use Proxy"), (307, "Temporary Redirect"),
   (308, "Permanent Redirect"),
   (400, "Bad Request"), (401, "Unauthorized"), (402, "Payment Required"), (403, "Forbidden"),
   (404, "Not Found"), (405, "Method Not Allowed"), (406, "Not Acceptable"),
   (407, "Proxy Authentication Required"), (408, "Request Timeout"), (409, "Conflict"),
   (410, "Gone"), (411, "Length Required"), (412, "Precondition Failed"),
   (413, "Payload Too Large"), (414, "URI Too Long"), (415, "Unsupported Media Type"),
   (416, "Range Not Satisfiable"), (417, "Expectation Failed"), (418, "I'm a teapot"),
   (421, "Misdirected Request"), (422, "Unprocessable Entity"), (423, "Locked"),
   (424, "Failed Dependency"), (425, "Too Early"), (426, "Upgrade Required"),
   (428, "Precondition Required"), (429, "Too Many Requests"),
   (431, "Request Header Fields Too Large"), (451, "Unavailable For Legal Reasons"),
   (500, "Internal Server Error"), (501, "Not Implemented"), (502, "Bad Gateway"),
   (503, "Service Unavailable"), (504, "Gateway Timeout"), (505, "HTTP Version Not Supported"),
   (506, "Variant Also Negotiates"), (507, "Insufficient Storage"), (508, "Loop Detected"),
   (510, "Not Extended"), (511, "Network Authentication Required")]

/-- A status as text: its code and its name. -/
def text (s : Status) : String :=
  Digits.text s.code ++ " " ++ (names.lookup s.code).getD "<unknown status code>"

end Status

namespace Http

/-- What happens to a request that is sent. -/
inductive Reply
  /-- An answer arrives, after a time or at once. The time begins this many nanoseconds after a
  timer has counted a millisecond. -/
  | answer (status : Status) (body : Bytes) (delay : Option Span) (begun : Fin 1000000 := 0)
  /-- Sending fails. -/
  | failure (error : Error)
  /-- Nothing ever happens. -/
  | silence

/-- What sends requests. -/
structure Transport where
  /-- How it is shown. -/
  name : String
  /-- What happens to a request that it receives. -/
  send : Request → Reply

namespace Transport

/-- Hands a request to a transport, which puts it on the record. -/
def hand (transport : Transport) (request : Request) : StateM (List Request) Reply := do
  modify (· ++ [request])
  return transport.send request

/-- Sends nothing. -/
def missing : Transport where
  name := "NoopHttpSend"
  send _ := .failure
    { kind := .transport, message := "HTTP sending not supported: no HTTP client configured" }

end Transport

end Http

end SignedPayments
