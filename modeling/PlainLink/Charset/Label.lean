/-
# Character sets by their labels

A page names its character set by one of the labels of the Web's encoding standard.  A
mark at the front of the page counts more than the label, and a page without a known
label is read as UTF-8.
-/
import PlainLink.Charset.SingleByte
import PlainLink.Charset.Utf16

namespace PlainLink

inductive Charset where
  | utf8
  | utf16 (order : Utf16.ByteOrder)
  | singleByte (upper : Charset.UpperHalf)
  /-- Bytes past ASCII stand for private characters. -/
  | userDefined
  /-- Encodings that are refused, because pages abuse them. -/
  | refused

namespace Charset

/-- The encodings with their labels. -/
def labels : List (Charset × List String) :=
  [ (utf8, ["unicode-1-1-utf-8", "unicode11utf8", "unicode20utf8", "utf-8", "utf8",
      "x-unicode20utf8"]),
    (singleByte latin2, ["csisolatin2", "iso-8859-2", "iso-ir-101", "iso8859-2", "iso88592",
      "iso_8859-2", "iso_8859-2:1987", "l2", "latin2"]),
    (singleByte latin9, ["csisolatin9", "iso-8859-15", "iso8859-15", "iso885915", "iso_8859-15",
      "l9"]),
    (singleByte koi8r, ["cskoi8r", "koi", "koi8", "koi8-r", "koi8_r"]),
    (singleByte macintosh, ["csmacintosh", "mac", "macintosh", "x-mac-roman"]),
    (singleByte windows1251, ["cp1251", "windows-1251", "x-cp1251"]),
    (singleByte windows1252,
      ["ansi_x3.4-1968", "ascii", "cp1252", "cp819", "csisolatin1", "ibm819",
      "iso-8859-1", "iso-ir-100", "iso8859-1", "iso88591", "iso_8859-1", "iso_8859-1:1987", "l1",
      "latin1", "us-ascii", "windows-1252", "x-cp1252"]),
    (refused, ["csiso2022kr", "hz-gb-2312", "iso-2022-cn", "iso-2022-cn-ext", "iso-2022-kr",
      "replacement"]),
    (utf16 .bigEndian, ["unicodefffe", "utf-16be"]),
    (utf16 .littleEndian, ["csunicode", "iso-10646-ucs-2", "ucs-2", "unicode", "unicodefeff",
      "utf-16", "utf-16le"]),
    (userDefined, ["x-user-defined"]) ]

/-- Blanks that may stand around a label. -/
def isLabelBlank (c : Char) : Bool :=
  c == ' ' || c == '\t' || c == '\n' || c == '\x0c' || c == '\r'

def ofLabel? (label : Text) : Option Charset :=
  let label := Text.lower (Text.strip isLabelBlank label)
  (labels.find? fun entry => entry.2.any (·.toList == label)).map (·.1)

/-- The text of bytes in an encoding. -/
def decode (c : Charset) (bytes : Bytes) : Text :=
  match c with
  | utf8 => Utf8.decode bytes
  | utf16 order => Utf16.decode order bytes
  | singleByte upper => decodeSingle upper bytes
  | userDefined =>
    bytes.map fun b => if b < 0x80 then Char.ofNat b.toNat else Char.ofNat (0xF700 + b.toNat)
  | refused => if bytes.isEmpty then [] else ['\uFFFD']

/-- The encoding that a mark at the front names, and the bytes after the mark. -/
def ofMark? (bytes : Bytes) : Option (Charset × Bytes) :=
  match bytes with
  | 0xEF :: 0xBB :: 0xBF :: rest => some (utf8, rest)
  | 0xFF :: 0xFE :: rest => some (utf16 .littleEndian, rest)
  | 0xFE :: 0xFF :: rest => some (utf16 .bigEndian, rest)
  | _ => none

end Charset

/-- The text of a page whose header gives the label. -/
def pageText (label : Option Text) (bytes : Bytes) : Text :=
  match Charset.ofMark? bytes with
  | some (charset, rest) => charset.decode rest
  | none => ((label.bind Charset.ofLabel?).getD .utf8).decode bytes

end PlainLink
