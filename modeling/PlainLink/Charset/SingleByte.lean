/-
# Encodings of one byte a character

The lower half of each table is ASCII; a row of a table below holds sixteen characters
of the upper half.
-/
import PlainLink.Text.Utf8

namespace PlainLink.Charset

abbrev UpperHalf := List Char

def ofRows (rows : List String) : UpperHalf :=
  rows.flatMap String.toList

/-- The control characters that open the upper half of the standard tables. -/
def controls : List Char :=
  (List.range 32).map fun i => Char.ofNat (0x80 + i)

/-- Western European letters and typographic marks. -/
def windows1252 : UpperHalf := ofRows
  [ "€\u0081‚ƒ„…†‡ˆ‰Š‹Œ\u008dŽ\u008f",
    "\u0090‘’“”•–—˜™š›œ\u009džŸ",
    "\u00a0¡¢£¤¥¦§¨©ª«¬\u00ad®¯",
    "°±²³´µ¶·¸¹º»¼½¾¿",
    "ÀÁÂÃÄÅÆÇÈÉÊËÌÍÎÏ",
    "ÐÑÒÓÔÕÖ×ØÙÚÛÜÝÞß",
    "àáâãäåæçèéêëìíîï",
    "ðñòóôõö÷øùúûüýþÿ" ]

def windows1251 : UpperHalf := ofRows
  [ "ЂЃ‚ѓ„…†‡€‰Љ‹ЊЌЋЏ",
    "ђ‘’“”•–—\u0098™љ›њќћџ",
    "\u00a0ЎўЈ¤Ґ¦§Ё©Є«¬\u00ad®Ї",
    "°±Ііґµ¶·ё№є»јЅѕї",
    "АБВГДЕЖЗИЙКЛМНОП",
    "РСТУФХЦЧШЩЪЫЬЭЮЯ",
    "абвгдежзийклмноп",
    "рстуфхцчшщъыьэюя" ]

def latin2 : UpperHalf := controls ++ ofRows
  [ "\u00a0Ą˘Ł¤ĽŚ§¨ŠŞŤŹ\u00adŽŻ",
    "°ą˛ł´ľśˇ¸šşťź˝žż",
    "ŔÁÂĂÄĹĆÇČÉĘËĚÍÎĎ",
    "ĐŃŇÓÔŐÖ×ŘŮÚŰÜÝŢß",
    "ŕáâăäĺćçčéęëěíîď",
    "đńňóôőö÷řůúűüýţ˙" ]

/-- Western European letters with the euro sign. -/
def latin9 : UpperHalf := controls ++ ofRows
  [ "\u00a0¡¢£€¥Š§š©ª«¬\u00ad®¯",
    "°±²³Žµ¶·ž¹º»ŒœŸ¿",
    "ÀÁÂÃÄÅÆÇÈÉÊËÌÍÎÏ",
    "ÐÑÒÓÔÕÖ×ØÙÚÛÜÝÞß",
    "àáâãäåæçèéêëìíîï",
    "ðñòóôõö÷øùúûüýþÿ" ]

/-- Cyrillic, placed so that it can be read without the eighth bit. -/
def koi8r : UpperHalf := ofRows
  [ "─│┌┐└┘├┤┬┴┼▀▄█▌▐",
    "░▒▓⌠■∙√≈≤≥\u00a0⌡°²·÷",
    "═║╒ё╓╔╕╖╗╘╙╚╛╜╝╞",
    "╟╠╡Ё╢╣╤╥╦╧╨╩╪╫╬©",
    "юабцдефгхийклмно",
    "пярстужвьызшэщчъ",
    "ЮАБЦДЕФГХИЙКЛМНО",
    "ПЯРСТУЖВЬЫЗШЭЩЧЪ" ]

/-- Western European letters as early desktop computers ordered them. -/
def macintosh : UpperHalf := ofRows
  [ "ÄÅÇÉÑÖÜáàâäãåçéè",
    "êëíìîïñóòôöõúùûü",
    "†°¢£§•¶ß®©™´¨≠ÆØ",
    "∞±≤≥¥µ∂∑∏π∫ªºΩæø",
    "¿¡¬√ƒ≈∆«»…\u00a0ÀÃÕŒœ",
    "–—“”‘’÷◊ÿŸ⁄€‹›ﬁﬂ",
    "‡·‚„‰ÂÊÁËÈÍÎÏÌÓÔ",
    "\uf8ffÒÚÛÙıˆ˜¯˘˙˚¸˝˛ˇ" ]

def charOf (upper : UpperHalf) (b : UInt8) : Char :=
  if b < 0x80 then Char.ofNat b.toNat else upper.getD (b.toNat - 0x80) '\uFFFD'

def decodeSingle (upper : UpperHalf) (bytes : Bytes) : Text :=
  bytes.map (charOf upper)

end PlainLink.Charset
