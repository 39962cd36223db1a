import Blockbook.Text.Basic

/-!
# Positions and spans

A position counts the bytes of the UTF-8 form, the lines and the characters of the current line that
lie before it. A span is a stretch of source text: its first and last byte offset, and the line and
column where it starts. A scanner carries a position and steps it over each character it takes.
Lines and columns are numbers of 32 bits and wrap around.
-/

namespace Blockbook

/-- The number of bytes of a text in UTF-8. -/
def Text.byteLength (s : Text) : Nat := s.foldl (fun n c => n + c.utf8Size) 0

/-- A place in a source text. Lines and columns count from one, columns in characters. -/
structure Position where
  offset : Nat
  line : UInt32
  column : UInt32
deriving DecidableEq, Repr

namespace Position

/-- The place before the first character. -/
def start : Position := ⟨0, 1, 1⟩

/-- The place after one more character. -/
def step (p : Position) (c : Char) : Position :=
  if c = '\n' then ⟨p.offset + c.utf8Size, p.line + 1, 1⟩
  else ⟨p.offset + c.utf8Size, p.line, p.column + 1⟩

/-- The place after more text. -/
def advance (p : Position) (s : Text) : Position := s.foldl step p

end Position

/-- A stretch of source text, from byte `start` up to byte `stop`. -/
structure Span where
  start : Nat
  stop : Nat
  line : UInt32
  column : UInt32
deriving DecidableEq, Repr

namespace Span

/-- The span from a position up to a byte offset. -/
def of (p : Position) (stop : Nat) : Span := ⟨p.offset, stop, p.line, p.column⟩

/-- The span that the characters of `s` take up from `p` on. -/
def covering (p : Position) (s : Text) : Span := .of p (p.advance s).offset

/-- The position at a byte offset, or the end of the text if that comes first. There is none inside
a character of several bytes. -/
def positionAt? (offset : Nat) : Position → Text → Option Position
  | p, [] => some p
  | p, c :: cs =>
    if p.offset = offset then some p
    else if offset < p.offset then none
    else positionAt? offset (p.step c) cs

/-- The span of the bytes `start` to `stop` of a source text. -/
def locate? (source : Text) (start stop : Nat) : Option Span :=
  match positionAt? start .start source with
  | some p => if p.offset ≤ start then some { of p stop with start } else none
  | none => none

/-- Where a span starts, for people. -/
def message (s : Span) : Text :=
  "line " ++ Text.ofNat s.line.toNat ++ ", column " ++ Text.ofNat s.column.toNat

end Span

end Blockbook
