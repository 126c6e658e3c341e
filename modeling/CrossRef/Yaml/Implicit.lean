import CrossRef.Text.Pattern

/-!
Plain words of YAML 1.1 that are not texts: truth values, null, numbers, dates and signs with a
meaning of their own. A text that looks like one of them has to be quoted.
-/

namespace CrossRef.Yaml

open Text

/-- Truth values, in three cases each. -/
def truthValue : Pattern :=
  .words
    ["yes", "Yes", "YES", "no", "No", "NO", "true", "True", "TRUE", "false", "False", "FALSE",
     "on", "On", "ON", "off", "Off", "OFF"]

/-- The words for null; the empty word is one of them. -/
def nullValue : Pattern :=
  .words ["", "~", "null", "Null", "NULL"]

/-- Signs that merge mappings, stand for a default, or start a tag, an anchor or an alias. -/
def specialSign : Pattern :=
  .words ["<<", "=", "!", "&", "*"]

/-- A sign may stand before a number. -/
def sign : Pattern :=
  .optional (.oneOf "-+")

/-- Digits after the first one may be set apart by low lines. -/
def digits : Pattern :=
  .seq .digit (.many (.oneOf "0123456789_"))

/-- Groups to the base of sixty, each after a colon. -/
def sexagesimalGroups : Pattern :=
  .some (.row [.word ":", .optional (.oneOf "012345"), .digit])

/-- Whole numbers: binary, octal, decimal, hexadecimal, and to the base of sixty. -/
def wholeNumber : Pattern :=
  let nonzero : Pattern := .seq (.oneOf "123456789") (.many (.oneOf "0123456789_"))
  .seq sign (.anyOf
    [.seq (.word "0b") (.some (.oneOf "01_")),
     .seq (.word "0") (.some (.oneOf "01234567_")),
     .word "0",
     nonzero,
     .seq (.word "0x") (.some (.oneOf "0123456789abcdefABCDEF_")),
     .seq nonzero sexagesimalGroups])

/-- Numbers with a point, and the numbers that are not finite. -/
def pointNumber : Pattern :=
  let exponent : Pattern := .optional (.row [.oneOf "eE", .oneOf "-+", .some .digit])
  let fraction : Pattern := .many (.oneOf "0123456789_")
  .anyOf
    [.row [sign, digits, .word ".", fraction, exponent],
     .row [.word ".", digits, exponent],
     .row [sign, digits, sexagesimalGroups, .word ".", fraction],
     .row [sign, .word ".", .words ["inf", "Inf", "INF"]],
     .row [.word ".", .words ["nan", "NaN", "NAN"]]]

/-- Dates, and dates with a time of day. -/
def timestamp : Pattern :=
  let two : Pattern := .seq .digit .digit
  let oneOrTwo : Pattern := .seq .digit (.optional .digit)
  let year : Pattern := .seq two two
  let gap : Pattern := .many (.oneOf " \t")
  let zone : Pattern :=
    .either (.word "Z") (.row [.oneOf "-+", oneOrTwo, .optional (.seq (.word ":") two)])
  .either
    (.row [year, .word "-", two, .word "-", two])
    (.row [year, .word "-", oneOrTwo, .word "-", oneOrTwo,
      .either (.oneOf "Tt") (.some (.oneOf " \t")), oneOrTwo, .word ":", two, .word ":", two,
      .optional (.seq (.word ".") (.many .digit)), .optional (.seq gap zone)])

/-- A plain word with one of these meanings is read as something else than its text. -/
def hasOtherMeaning (text : List Char) : Bool :=
  (Pattern.anyOf
    [truthValue, nullValue, specialSign, wholeNumber, pointNumber, timestamp]).matchesText text

end CrossRef.Yaml
