import Gatehouse.Text.Digits

namespace Gatehouse

structure Status where
  code : Nat
deriving DecidableEq, Repr

namespace Status

/-- A status has three digits and its first is not zero. -/
def ofCode? (code : Nat) : Option Status :=
  if 100 ≤ code ∧ code ≤ 999 then some ⟨code⟩ else none

def ok : Status := ⟨200⟩
def switchingProtocols : Status := ⟨101⟩
def noContent : Status := ⟨204⟩
def notModified : Status := ⟨304⟩
def badRequest : Status := ⟨400⟩
def unauthorized : Status := ⟨401⟩
def notFound : Status := ⟨404⟩
def methodNotAllowed : Status := ⟨405⟩
def requestTimeout : Status := ⟨408⟩
def payloadTooLarge : Status := ⟨413⟩
def fieldsTooLarge : Status := ⟨431⟩
def internalError : Status := ⟨500⟩
def badGateway : Status := ⟨502⟩
def serviceUnavailable : Status := ⟨503⟩
def gatewayTimeout : Status := ⟨504⟩

def isSuccess (s : Status) : Bool := 200 ≤ s.code && s.code < 300

/-- Whether the answer is to be had elsewhere, at the place that the response gives. -/
def isRedirection (s : Status) : Bool := [301, 302, 303, 307, 308].contains s.code

/-- An interim status announces that the final answer is still to come. -/
def isInterim (s : Status) : Bool := s.code < 200

def phrases : List (Nat × String) :=
  [(100, "Continue"), (101, "Switching Protocols"), (102, "Processing"), (103, "Early Hints"),
   (200, "OK"), (201, "Created"), (202, "Accepted"), (203, "Non Authoritative Information"),
   (204, "No Content"), (205, "Reset Content"), (206, "Partial Content"), (207, "Multi-Status"),
   (208, "Already Reported"), (226, "IM Used"),
   (300, "Multiple Choices"), (301, "Moved Permanently"), (302, "Found"), (303, "See Other"),
   (304, "Not Modified"), (305, "Use Proxy"), (307, "Temporary Redirect"),
   (308, "Permanent Redirect"),
   (400, "Bad Request"), (401, "Unauthorized"), (402, "Payment Required"), (403, "Forbidden"),
   (404, "Not Found"), (405, "Method Not Allowed"), (406, "Not Acceptable"),
   (407, "Proxy Authentication Required"), (408, "Request Timeout"), (409, "Conflict"),
   (410, "Gone"), (411, "Length Required"), (412, "Precondition Failed"),
   (413, "Payload Too Large"), (414, "URI Too Long"), (415, "Unsupported Media Type"),
   (416, "Range Not Satisfiable"), (417, "Expectation Failed"), (418, "I'm a teapot"),
   (421, "Misdirected Request"), (422, "Unprocessable Entity"), (423, "Locked"),
   (424, "Failed Dependency"), (425, "Too Early"), (426, "Upgrade Required"),
   (428, "Precondition Required"), (429, "Too Many Requests"),
   (431, "Request Header Fields Too Large"), (451, "Unavailable For Legal Reasons"),
   (500, "Internal Server Error"), (501, "Not Implemented"), (502, "Bad Gateway"),
   (503, "Service Unavailable"), (504, "Gateway Timeout"), (505, "HTTP Version Not Supported"),
   (506, "Variant Also Negotiates"), (507, "Insufficient Storage"), (508, "Loop Detected"),
   (510, "Not Extended"), (511, "Network Authentication Required")]

def phrase? (s : Status) : Option String := phrases.lookup s.code

/-- The code and its phrase, or a stand-in where no phrase is registered. -/
def text (s : Status) : String :=
  decimalText s.code ++ " " ++ s.phrase?.getD "<unknown status code>"

end Status

end Gatehouse
