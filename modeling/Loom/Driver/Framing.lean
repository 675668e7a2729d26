import Loom.JsonText
import Mathlib.Data.List.DropRight

/-!
# Lines of JSON

`_send` and `_read_message` of `loom_v2/coding_agents/codex.py`: messages are lines of JSON on the
pipes of the app-server.  `_read_message` reads the output in chunks and keeps what it has not used
in a buffer; an empty chunk is the end of the output.
-/

namespace Loom

namespace Framing

open JsonText

/-! ### Errors -/

/-- `RuntimeError("coding_agent_message_too_large")`. -/
def tooLarge : Exc := ⟨.runtimeError, "coding_agent_message_too_large"⟩

/-- `RuntimeError("coding_agent_protocol_error")`. -/
def protocolError : Exc := ⟨.runtimeError, "coding_agent_protocol_error"⟩

/-- `RuntimeError("coding_agent_unavailable")`. -/
def unavailable : Exc := ⟨.runtimeError, "coding_agent_unavailable"⟩

/-! ### Lines -/

/-- `b"\n"`. -/
def newline : UInt8 := 10

/-- `line.rstrip(b"\r")`. -/
def stripReturns (line : List UInt8) : List UInt8 := line.rdropWhile (· = 13)

/-- `not line.strip()`. -/
def isBlankLine (line : List UInt8) : Bool :=
  line.all fun byte => byte = 32 || 9 ≤ byte && byte ≤ 13

section Reading

variable (python : Python) (limit : Nat)

/-- The message of a line that is not blank. -/
def parse (line : List UInt8) : Except Exc Dict :=
  match loads python (stripReturns line) with
  | .ok (.obj message) => .ok message
  | .ok _ => .error protocolError
  | .error .malformed => .error protocolError
  | .error (.raises error) => .error error

/-- What the buffer holds. -/
inductive Scan where
  /-- A line that ends the call, and the buffer after it. -/
  | stops (result : Except Exc Dict) (buffer : List UInt8)
  /-- No line that ends the call: the buffer that is left has no separator. -/
  | more (buffer : List UInt8)
  deriving Repr, DecidableEq

/-- The loop over the lines of the buffer; `line` is what is in front of the bytes still to be
looked at. -/
def scan (line : List UInt8) : List UInt8 → Scan
  | [] => .more line
  | byte :: rest =>
      if byte = newline then
        if limit < line.length then .stops (.error tooLarge) (line ++ byte :: rest)
        else if isBlankLine (stripReturns line) then scan [] rest
        else .stops (parse python line) rest
      else scan (line ++ [byte]) rest

/-- What `stdout.read(64 * 1024)` returns before the end of the output. -/
abbrev Chunk : Type := { bytes : List UInt8 // bytes ≠ [] ∧ bytes.length ≤ 64 * 1024 }

/-- `_read_message`: the result, the buffer, and the chunks that have not been read. -/
def readMessage (buffer : List UInt8) :
    List Chunk → Except Exc Dict × List UInt8 × List Chunk
  | [] =>
      match scan python limit [] buffer with
      | .stops result buffer => (result, buffer, [])
      | .more buffer =>
          if limit < buffer.length then (.error tooLarge, buffer, [])
          else (.error unavailable, buffer, [])
  | chunk :: chunks =>
      match scan python limit [] buffer with
      | .stops result buffer => (result, buffer, chunk :: chunks)
      | .more buffer =>
          if limit < buffer.length then (.error tooLarge, buffer, chunk :: chunks)
          else readMessage (buffer ++ chunk.val) chunks

/-- The results of successive calls. -/
def results : Nat → List UInt8 → List Chunk → List (Except Exc Dict)
  | 0, _, _ => []
  | calls + 1, buffer, chunks =>
      let read := readMessage python limit buffer chunks
      read.1 :: results calls read.2.1 read.2.2

end Reading

/-- What `_send` writes. -/
def sent (python : Python) (message : Dict) : List UInt8 :=
  encode (dumps python.floats (.obj message)) ++ [newline]

end Framing

end Loom
