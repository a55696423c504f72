/-
Module: OwnerSwitch.Button.Serial
Layer: Button
Purpose: The serial press source (input.ts): the chunks of a device are decoded one by one and collected, each whole line
  is compared with the trigger and with the fault line, and what is left is kept up to a cap.
Imports: Lib.JsTrim, Lib.Utf8Chunks
Trusted boundary: none
Main exports: SerialSource, createSerialSource, SerialSource.feed, SerialSource.events
Open obligations: none
-/
import OwnerSwitch.Lib.JsTrim
import OwnerSwitch.Lib.Utf8Chunks

namespace OwnerSwitch

/-- `DEFAULT_SERIAL_TRIGGER` -/
def defaultSerialTrigger : JsString := js "KILL"

/-- `DEFAULT_SERIAL_FAULT_LINE` -/
def defaultSerialFaultLine : JsString := js "FAULT"

/-- `SERIAL_BUFFER_CAP` -/
def serialBufferCap : Nat := 4096

/-- A trimmed text that is not empty and has no line break in it. -/
structure SingleLine (text : JsString) : Prop where
  trimmed : JsString.trim text = text
  nonempty : text ≠ []
  carriageReturn : 0x0D ∉ text
  lineFeed : 0x0A ∉ text

/-- A source: one line, one meaning. -/
structure SerialSource where
  trigger : JsString
  faultLine : JsString
  trigger_line : SingleLine trigger
  faultLine_line : SingleLine faultLine
  distinct : faultLine ≠ trigger

/-- The texts of the options, trimmed, or the error of `createSerialSource`. -/
def createSerialSource (trigger faultLine : Option JsString) : Except JsString SerialSource :=
  let trigger := JsString.trim (trigger.getD defaultSerialTrigger)
  let faultLine := JsString.trim (faultLine.getD defaultSerialFaultLine)
  if htrigger : trigger = [] ∨ 0x0D ∈ trigger ∨ 0x0A ∈ trigger then
    .error (js "serial trigger must be a non-empty single line")
  else if hfault : faultLine = [] ∨ 0x0D ∈ faultLine ∨ 0x0A ∈ faultLine then
    .error (js "serial fault line must be a non-empty single line")
  else if hdistinct : faultLine = trigger then
    .error (js "serial fault line and trigger must differ (both \"" ++ trigger ++ js "\")")
  else
    .ok
      { trigger, faultLine
        trigger_line := by
          rw [not_or, not_or] at htrigger
          exact ⟨JsString.trim_trim _, htrigger.1, htrigger.2.1, htrigger.2.2⟩
        faultLine_line := by
          rw [not_or, not_or] at hfault
          exact ⟨JsString.trim_trim _, hfault.1, hfault.2.1, hfault.2.2⟩
        distinct := hdistinct }

/-- What a line can set off: a press, or a call of `onFault`. -/
inductive SerialEvent where
  | press
  | fault
  deriving DecidableEq, Repr

/-- What `feed` takes. -/
inductive SerialChunk where
  | buffer (octets : Bytes)
  | string (text : JsString)

def SerialChunk.toText : SerialChunk → JsString
  | .buffer octets => Utf8.decode octets
  | .string text => text

/-- `s.slice(-n)` -/
def sliceEnd (n : Nat) (s : JsString) : JsString :=
  s.drop (s.length - n)

namespace SerialSource

variable (s : SerialSource)

/-- What a whole line sets off. -/
def lineEvent (line : JsString) : Option SerialEvent :=
  let line := JsString.trim line
  if line = s.trigger then some .press
  else if line = s.faultLine then some .fault
  else none

/-- The `while` of `feed`: the whole lines of the buffer, and what is left of it. -/
def scan (buffer : JsString) : List SerialEvent × JsString :=
  if 0x0A ∈ buffer then
    let line := buffer.takeWhile (· ≠ 0x0A)
    let (events, rest) := scan (buffer.drop (line.length + 1))
    ((s.lineEvent line).toList ++ events, rest)
  else ([], buffer)
termination_by buffer.length
decreasing_by
  rename_i hbreak
  have hpos := List.length_pos_of_mem hbreak
  rw [List.length_drop]
  omega

/-- `feed`: what a chunk sets off, and the buffer it leaves. -/
def feed (buffer : JsString) (chunk : SerialChunk) : List SerialEvent × JsString :=
  let (events, rest) := s.scan (buffer ++ chunk.toText)
  (events, if serialBufferCap < rest.length then sliceEnd serialBufferCap rest else rest)

/-- What the chunks of one connection set off, in order. -/
def events (buffer : JsString) : List SerialChunk → List SerialEvent
  | [] => []
  | chunk :: chunks => (s.feed buffer chunk).1 ++ events (s.feed buffer chunk).2 chunks

end SerialSource

end OwnerSwitch
