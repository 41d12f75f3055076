import ThresholdDaemon.Call
import ThresholdDaemon.Text.Utf8

/-!
# Frames

A frame is the token of a call, followed, only when there is a payload, by one line feed and the
payload. Nothing marks the end of a frame: one read of a connection is one frame. A reader is
lenient where the writer is strict: it takes one carriage return off the token and every line end
off the end of the payload, and a payload with nothing left is no payload.
-/
namespace ThresholdDaemon

/-- The byte between a token and a payload. -/
def delimiter : UInt8 := 0x0A

/-- The bytes of a call and its payload. -/
def encodeFrame (call : Call) (payload : Option Bytes) : Bytes :=
  match payload with
  | none => Bytes.ofString call.token
  | some bytes => Bytes.ofString call.token ++ delimiter :: bytes

/-- A frame to be sent: a call and the text of its payload. -/
structure Frame where
  /-- The call that names the frame. -/
  call : Call
  /-- The text after the delimiter. -/
  payload : Option String
  deriving DecidableEq, Repr

/-- The bytes of a frame. -/
def Frame.encode (frame : Frame) : Bytes :=
  encodeFrame frame.call (frame.payload.map Bytes.ofString)

/-- A frame as received: its token may name no call. -/
structure RawFrame where
  /-- The text before the delimiter. -/
  token : String
  /-- The text after the delimiter, if any is left. -/
  payload : Option String
  deriving DecidableEq, Repr

/-- The call that a received token names. -/
def RawFrame.call (frame : RawFrame) : Call := .ofToken frame.token

/-- Why some bytes are not a frame. -/
inductive FramingError where
  /-- The token is empty. -/
  | emptyCall
  /-- The bytes are not text. -/
  | notUtf8 (fault : Utf8.Fault)
  deriving DecidableEq, Repr

/-- The text of a framing error. -/
def FramingError.message : FramingError → String
  | emptyCall => "unexpected: call was empty"
  | notUtf8 fault => "frame is not valid UTF-8: " ++ fault.message

namespace RawFrame

/-- A character that ends a line. -/
def isLineEnd (c : Char) : Bool := c = '\r' || c = '\n'

/-- The text in front of the first line feed, and the text after it if there is one. -/
def splitAtDelimiter : List Char → List Char × Option (List Char)
  | [] => ([], none)
  | c :: rest =>
    if c = '\n' then ([], some rest)
    else
      let (token, payload) := splitAtDelimiter rest
      (c :: token, payload)

/-- A text without one carriage return at its end. -/
def dropReturn : List Char → List Char
  | [] => []
  | ['\r'] => []
  | c :: rest => c :: dropReturn rest

/-- A text without the line ends at its end. -/
def dropLineEnds (text : List Char) : List Char :=
  (text.reverse.dropWhile isLineEnd).reverse

/-- The payload left of the text after the delimiter. -/
def keepPayload (text : List Char) : Option String :=
  match dropLineEnds text with
  | [] => none
  | kept => some (String.ofList kept)

/-- The frame of some bytes. -/
def decode (bytes : Bytes) : Except FramingError RawFrame :=
  match Utf8.decode bytes with
  | .error fault => .error (.notUtf8 fault)
  | .ok text =>
    let (before, after) := splitAtDelimiter text
    match dropReturn before with
    | [] => .error .emptyCall
    | token => .ok ⟨String.ofList token, after.bind keepPayload⟩

end RawFrame

end ThresholdDaemon
