import JobConsole.Socket.Digest
import JobConsole.Socket.Fault
import JobConsole.Text.Blank
import JobConsole.Text.Lowercase

namespace JobConsole.Handshake

/-- What the server's key is derived with. -/
def magic : String := "258EAFA5-E914-47DA-95CA-C5AB0DC85B11"

/-- The key that a server answers a client's key with. -/
def acceptKey (key : String) : String := Base64.encode (Sha1.digest (key ++ magic).toUTF8.toList)

/-- The text that asks the host for a socket at a target, with the client's key. -/
def request (host target key : String) : String :=
  "GET " ++ target ++ " HTTP/1.1\r\nHost: " ++ host ++
    "\r\nConnection: Upgrade\r\nUpgrade: websocket\r\nSec-WebSocket-Version: 13\r\n" ++
    "Sec-WebSocket-Key: " ++ key ++ "\r\n\r\n"

/-- The head of an answer and the octets behind it, if its end is there; `rev` is the head so far,
last octet first. -/
def head? (rev : List UInt8) : List UInt8 → Option (List UInt8 × List UInt8)
  | [] => none
  | b :: rest =>
    match b :: rev with
    | 0x0A :: 0x0D :: 0x0A :: 0x0D :: before => some (before.reverse, rest)
    | rev => head? rev rest

def reasons : List (Nat × String) := [
  (100, "Continue"), (101, "Switching Protocols"), (102, "Processing"), (200, "OK"),
  (201, "Created"), (202, "Accepted"), (203, "Non Authoritative Information"),
  (204, "No Content"), (205, "Reset Content"), (206, "Partial Content"), (207, "Multi-Status"),
  (208, "Already Reported"), (226, "IM Used"), (300, "Multiple Choices"),
  (301, "Moved Permanently"), (302, "Found"), (303, "See Other"), (304, "Not Modified"),
  (305, "Use Proxy"), (307, "Temporary Redirect"), (308, "Permanent Redirect"),
  (400, "Bad Request"), (401, "Unauthorized"), (402, "Payment Required"), (403, "Forbidden"),
  (404, "Not Found"), (405, "Method Not Allowed"), (406, "Not Acceptable"),
  (407, "Proxy Authentication Required"), (408, "Request Timeout"), (409, "Conflict"),
  (410, "Gone"), (411, "Length Required"), (412, "Precondition Failed"),
  (413, "Payload Too Large"), (414, "URI Too Long"), (415, "Unsupported Media Type"),
  (416, "Range Not Satisfiable"), (417, "Expectation Failed"), (418, "I'm a teapot"),
  (421, "Misdirected Request"), (422, "Unprocessable Entity"), (423, "Locked"),
  (424, "Failed Dependency"), (425, "Too Early"), (426, "Upgrade Required"),
  (428, "Precondition Required"), (429, "Too Many Requests"),
  (431, "Request Header Fields Too Large"), (451, "Unavailable For Legal Reasons"),
  (500, "Internal Server Error"), (501, "Not Implemented"), (502, "Bad Gateway"),
  (503, "Service Unavailable"), (504, "Gateway Timeout"), (505, "HTTP Version Not Supported"),
  (506, "Variant Also Negotiates"), (507, "Insufficient Storage"), (508, "Loop Detected"),
  (510, "Not Extended"), (511, "Network Authentication Required")]

def reason (status : Nat) : String := (reasons.lookup status).getD "<unknown status code>"

/-- The head of an answer: its status and its header fields, with names in small letters. -/
structure Head where
  status : Nat
  fields : List (String × String)
  deriving DecidableEq, Repr

def readField? (line : List Char) : Option (String × String) :=
  match line.dropWhile (· != ':') with
  | ':' :: value =>
    some (lowercase (String.ofList (line.takeWhile (· != ':'))), trim (String.ofList value))
  | _ => none

def lines (rev : List Char) : List Char → List (List Char)
  | [] => [rev.reverse]
  | '\n' :: rest => (rev.dropWhile (· == '\r')).reverse :: lines [] rest
  | c :: rest => lines (c :: rev) rest

def readStatus? (line : List Char) : Option Nat :=
  let digits := ((line.dropWhile (· != ' ')).drop 1).takeWhile Char.isDigit
  if digits.length = 3 then
    some (digits.foldl (fun n c => n * 10 + (c.toNat - '0'.toNat)) 0)
  else none

/-- The head that octets stand for; other octets than those of ASCII are taken one by one. -/
def readHead? (bytes : List UInt8) : Option Head :=
  match lines [] (bytes.map fun b => Char.ofNat b.toNat) with
  | [] => none
  | first :: rest => (readStatus? first).map fun status => ⟨status, rest.filterMap readField?⟩

/-- Whether a field has a value, in letters of any case. -/
def Head.has (head : Head) (name value : String) : Bool :=
  (head.fields.lookup name).any fun v => lowercase v == value

/-- The first reason why an answer does not open a socket that was asked for with this key. -/
def check (key : String) (head : Head) : Except TransportFault Unit :=
  if head.status ≠ 101 then .error (.status head.status (reason head.status))
  else if !head.has "upgrade" "websocket" then .error (.protocol .missingUpgradeHeader)
  else if !head.has "connection" "upgrade" then .error (.protocol .missingConnectionHeader)
  else if head.fields.lookup "sec-websocket-accept" ≠ some (acceptKey key) then
    .error (.protocol .acceptKeyMismatch)
  else .ok ()

end JobConsole.Handshake
