import CrossRef.Text.Table

/-!
Scripts written without spaces between words: the blocks of Han, kana and hangul characters.
-/

namespace CrossRef.Text

/-- Han ideographs, their radicals, numerals, iteration marks and compatibility forms. -/
def hanBlocks : Intervals :=
  [(0x2E80, 0x2E99), (0x2E9B, 0x2EF3), (0x2F00, 0x2FD5), (0x3005, 0x3005), (0x3007, 0x3007),
   (0x3021, 0x3029), (0x3038, 0x303B), (0x3400, 0x4DBF), (0x4E00, 0x9FFF), (0xF900, 0xFA6D),
   (0xFA70, 0xFAD9), (0x20000, 0x2A6DF), (0x2A700, 0x2EBE0), (0x2F800, 0x2FA1D),
   (0x30000, 0x3134A)]

/-- Hiragana letters and iteration marks. -/
def hiraganaBlocks : Intervals :=
  [(0x3041, 0x3096), (0x309D, 0x309F)]

/-- Katakana letters, iteration marks, circled, squared and half-width forms. -/
def katakanaBlocks : Intervals :=
  [(0x30A1, 0x30FA), (0x30FD, 0x30FF), (0x31F0, 0x31FF), (0x32D0, 0x32FE), (0x3300, 0x3357),
   (0xFF66, 0xFF6F), (0xFF71, 0xFF9D)]

/-- Hangul letters, tone marks, enclosed forms, syllables and half-width forms. -/
def hangulBlocks : Intervals :=
  [(0x1100, 0x11FF), (0x302E, 0x302F), (0x3131, 0x318E), (0x3200, 0x321E), (0x3260, 0x327E),
   (0xA960, 0xA97C), (0xAC00, 0xD7A3), (0xD7B0, 0xD7FB), (0xFFA0, 0xFFDC)]

/-- Punctuation that goes with these scripts, full-width forms included. -/
def punctuationBlocks : Intervals :=
  [(0x3000, 0x303F), (0xFF00, 0xFF60)]

/-- A Han character belongs to one of the Han blocks. -/
def isHan (c : Char) : Bool :=
  covers hanBlocks c.toNat

/-- The letters that need no space next to each other. -/
def isUnspacedLetter (c : Char) : Bool :=
  isHan c || covers hiraganaBlocks c.toNat || covers katakanaBlocks c.toNat ||
    covers hangulBlocks c.toNat

/-- The characters that take no inserted space, punctuation included. -/
def isUnspaced (c : Char) : Bool :=
  isUnspacedLetter c || covers punctuationBlocks c.toNat

end CrossRef.Text
