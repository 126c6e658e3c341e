import CrossRef.Text.Hex

/-!
Percent encoding: a text becomes a component of an address, byte by byte.
-/

namespace CrossRef.Text

/-- Letters, digits and the marks of a component stand for themselves. -/
def isUnreserved (byte : UInt8) : Bool :=
  let c := Char.ofNat byte.toNat
  byte < 0x80 && (c.isAlphanum || "-_.!~*'()".toList.contains c)

/-- Every other byte is written as a percent sign and two digits. -/
def percentByte (byte : UInt8) : List Char :=
  if isUnreserved byte then [Char.ofNat byte.toNat] else '%' :: upperHex 2 byte.toNat

/-- The bytes of the text in UTF-8 are encoded one after the other. -/
def percentEncoded (text : String) : String :=
  String.ofList ((text.toList.flatMap String.utf8EncodeChar).flatMap percentByte)

end CrossRef.Text
