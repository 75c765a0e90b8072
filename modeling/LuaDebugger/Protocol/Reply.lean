import LuaDebugger.Text.Bytes
/-!
# Replies to the client

A reply is the text answered to one request, built line by line. Every line ends in a line
feed. Blocks of an answer are framed by `--- <name>-resposta ---` and
`--- fim-<name>-resposta ---`, an error by `--- erro ---` and `--- fim-erro ---`.

A reply may be sent in parts: when the connection takes early parts, `flush` hands over the
text built so far and the reply goes on from empty, so a client learns that a long request was
received before it completes. Without such a connection `flush` changes nothing. The whole
answer is always the early parts followed by the text that is left (`sent`).
-/

namespace LuaDebugger

/-- A reply under construction. -/
structure Reply where
  /-- Whether the connection takes early parts. -/
  early : Bool := false
  /-- The parts handed over early, oldest first. -/
  flushed : List ByteArray := []
  /-- The text built since the last early part. -/
  text : ByteArray := ByteArray.empty
  /-- Whether the connection is to be closed after the reply. -/
  close : Bool := false
  deriving Inhabited

namespace Reply

/-- The reply with one more line. -/
def line (r : Reply) (b : ByteArray) : Reply :=
  { r with text := r.text ++ b ++ "\n".toUTF8 }

/-- The reply with one more line of text. -/
def lineText (r : Reply) (s : String) : Reply := r.line s.toUTF8

/-- The receipt of a request: `Recebido comando '<name>'`. -/
def receiptLine (name : ByteArray) : ByteArray :=
  "Recebido comando '".toUTF8 ++ name ++ "'".toUTF8

/-- The line that opens the answer block of a request: `--- <name>-resposta ---`. -/
def openingLine (name : ByteArray) : ByteArray := "--- ".toUTF8 ++ name ++ "-resposta ---".toUTF8

/-- The line that closes the answer block of a request: `--- fim-<name>-resposta ---`. -/
def closingLine (name : ByteArray) : ByteArray :=
  "--- fim-".toUTF8 ++ name ++ "-resposta ---".toUTF8

/-- The line that opens an error frame. -/
def errorOpening : ByteArray := "--- erro ---".toUTF8

/-- The line that closes an error frame. -/
def errorClosing : ByteArray := "--- fim-erro ---".toUTF8

/-- The receipt of a request. -/
def ack (r : Reply) (name : ByteArray) : Reply := r.line (receiptLine name)

/-- An error frame around a message. -/
def error (r : Reply) (msg : ByteArray) : Reply :=
  ((r.line errorOpening).line msg).line errorClosing

/-- Opens the answer block of a request. -/
def begin (r : Reply) (name : ByteArray) : Reply := r.line (openingLine name)

/-- Closes the answer block of a request. -/
def «end» (r : Reply) (name : ByteArray) : Reply := r.line (closingLine name)

/-- Hands the text built so far over as an early part, when the connection takes one and
there is text. -/
def flush (r : Reply) : Reply :=
  if r.early ∧ r.text.size > 0 then { r with flushed := r.flushed ++ [r.text], text := .empty }
  else r

/-- Everything the reply sends, early parts included. -/
def sent (r : Reply) : ByteArray := Text.joinBytes .empty (r.flushed ++ [r.text])

/-- Whether the reply sends nothing. -/
def isEmpty (r : Reply) : Bool := r.sent.size = 0

end Reply

end LuaDebugger
