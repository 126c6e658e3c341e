/-!
Reading bytes as UTF-8, with the position and the cause of the first fault.
-/

namespace CrossRef.Text

/-- The ways in which a byte sequence leaves the encoding. -/
inductive Utf8Cause
  | invalidStart
  | invalidContinuation
  | unexpectedEnd
  deriving DecidableEq, Repr

/-- A fault covers the bytes from its start up to its stop, the stop not included. -/
structure Utf8Fault where
  start : Nat
  stop : Nat
  firstByte : UInt8
  cause : Utf8Cause
  deriving DecidableEq, Repr

/-- A lead byte announces how many bytes follow, which values the first of them may take, and
its own share of the code point. -/
structure Utf8Lead where
  following : Nat
  least : UInt8
  greatest : UInt8
  share : Nat
  deriving DecidableEq, Repr

/-- The lead bytes of two, three and four byte characters. Shorter spellings, surrogates and code
points beyond the last plane are ruled out by the byte after the lead. -/
def utf8Lead? (byte : UInt8) : Option Utf8Lead :=
  if 0xC2 ≤ byte ∧ byte ≤ 0xDF then some ⟨1, 0x80, 0xBF, byte.toNat - 0xC0⟩
  else if byte = 0xE0 then some ⟨2, 0xA0, 0xBF, 0⟩
  else if byte = 0xED then some ⟨2, 0x80, 0x9F, 0xD⟩
  else if 0xE1 ≤ byte ∧ byte ≤ 0xEF then some ⟨2, 0x80, 0xBF, byte.toNat - 0xE0⟩
  else if byte = 0xF0 then some ⟨3, 0x90, 0xBF, 0⟩
  else if byte = 0xF4 then some ⟨3, 0x80, 0x8F, 4⟩
  else if 0xF1 ≤ byte ∧ byte ≤ 0xF3 then some ⟨3, 0x80, 0xBF, byte.toNat - 0xF0⟩
  else none

/-- A character in progress: where it starts, its first byte, and what may come next. -/
structure Utf8Pending where
  start : Nat
  firstByte : UInt8
  lead : Utf8Lead

/-- The position counts the bytes read so far. -/
def decodeUtf8From (position : Nat) : Option Utf8Pending → List UInt8 → Except Utf8Fault (List Char)
  | none, [] => .ok []
  | some pending, [] => .error ⟨pending.start, position, pending.firstByte, .unexpectedEnd⟩
  | none, byte :: rest =>
    if byte < 0x80 then
      (decodeUtf8From (position + 1) none rest).map (Char.ofNat byte.toNat :: ·)
    else match utf8Lead? byte with
      | none => .error ⟨position, position + 1, byte, .invalidStart⟩
      | some lead => decodeUtf8From (position + 1) (some ⟨position, byte, lead⟩) rest
  | some ⟨start, firstByte, lead⟩, byte :: rest =>
    if lead.least ≤ byte ∧ byte ≤ lead.greatest then
      let share := lead.share * 64 + (byte.toNat - 0x80)
      if lead.following ≤ 1 then
        (decodeUtf8From (position + 1) none rest).map (Char.ofNat share :: ·)
      else
        decodeUtf8From (position + 1)
          (some ⟨start, firstByte, ⟨lead.following - 1, 0x80, 0xBF, share⟩⟩) rest
    else .error ⟨start, position, firstByte, .invalidContinuation⟩

/-- The text that the bytes spell. -/
def decodeUtf8 (bytes : List UInt8) : Except Utf8Fault (List Char) :=
  decodeUtf8From 0 none bytes

end CrossRef.Text
