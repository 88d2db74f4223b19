import JobConsole.Text.Utf8

namespace JobConsole

inductive ProtocolFault
  | handshakeIncomplete
  | missingUpgradeHeader
  | missingConnectionHeader
  | acceptKeyMismatch
  | resetWithoutClosing
  | reservedBits
  | invalidOpcode (code : Nat)
  | maskedFrame
  | unexpectedContinuation
  | expectedFragment (kind : String)
  | fragmentedControl
  | controlTooLong
  | invalidCloseSequence
  deriving DecidableEq, Repr

def ProtocolFault.message : ProtocolFault → String
  | .handshakeIncomplete => "Handshake not finished"
  | .missingUpgradeHeader => "No \"Upgrade: websocket\" header"
  | .missingConnectionHeader => "No \"Connection: upgrade\" header"
  | .acceptKeyMismatch => "Key mismatch in \"Sec-WebSocket-Accept\" header"
  | .resetWithoutClosing => "Connection reset without closing handshake"
  | .reservedBits => "Reserved bits are non-zero"
  | .invalidOpcode code => "Encountered invalid opcode: " ++ toString code
  | .maskedFrame => "Received a masked frame from server"
  | .unexpectedContinuation => "Continue frame but nothing to continue"
  | .expectedFragment kind => "While waiting for more fragments received: " ++ kind
  | .fragmentedControl => "Fragmented control frame"
  | .controlTooLong => "Control frame too big (payload must be 125 bytes or less)"
  | .invalidCloseSequence => "Invalid close sequence"

inductive AddressFault
  | invalidCharacter
  | invalidAuthority
  | noAuthority
  | tooLong
  deriving DecidableEq, Repr

def AddressFault.message : AddressFault → String
  | .invalidCharacter => "invalid uri character"
  | .invalidAuthority => "invalid authority"
  | .noAuthority => "invalid format"
  | .tooLong => "uri too long"

inductive TransportFault
  | connectionClosed
  | alreadyClosed
  | attackAttempt
  | noHostName
  | address (fault : AddressFault)
  /-- A failure of the operating system, with its description and number. -/
  | system (description : String) (number : Nat)
  /-- The server answered with another status than the one that opens a socket. -/
  | status (code : Nat) (reason : String)
  | protocol (fault : ProtocolFault)
  | messageTooLong (size max : Nat)
  | encoding (description : String)
  deriving DecidableEq, Repr

namespace TransportFault

def message : TransportFault → String
  | .connectionClosed => "Connection closed normally"
  | .alreadyClosed => "Trying to work with closed connection"
  | .attackAttempt => "Attack attempt detected"
  | .noHostName => "URL error: No host name in the URL"
  | .address fault => "HTTP format error: " ++ fault.message
  | .system description number =>
    "IO error: " ++ description ++ " (os error " ++ toString number ++ ")"
  | .status code reason => "HTTP error: " ++ toString code ++ " " ++ reason
  | .protocol fault => "WebSocket protocol error: " ++ fault.message
  | .messageTooLong size max =>
    "Space limit exceeded: Message too long: " ++ toString size ++ " > " ++ toString max
  | .encoding description => "UTF-8 encoding error: " ++ description

/-- No route leads to the server. -/
def networkUnreachable : TransportFault := .system "Network is unreachable" 101

/-- Nothing listens at the server's port. -/
def connectionRefused : TransportFault := .system "Connection refused" 111

end TransportFault

end JobConsole
