import Courier.Unicode.Property
import Courier.Unicode.Script

/-! The classes of characters that tell where clusters, words and sentences end. Most follow from
categories and properties, and are kept as what sets them apart from these. -/
namespace Courier.Unicode

def codes (ns : List Nat) : CharSet := ns.map fun n => (n, n)

def table (lines : List String) : CharSet := ranges 0 (unpack lines)

def joiner : CharSet := codes [0x200D]

def graphemeExtend : CharSet := (property? "graphemeextend").getD []

def emojiModifiers : CharSet := (plain? "emojimodifier").getD []

def prepended : CharSet :=
  table ["BQgmG3hBxhMgiCwhBDrhCAbuhvhH0iQthBLthhhH4hCpmV8hN7h"]

def clusterExtend : CharSet := graphemeExtend.union emojiModifiers

/-- Syllables of two letters; the ones of three stand between them. -/
def openSyllables : CharSet := (List.range 399).map fun i => (0xAC00 + 28 * i, 0xAC00 + 28 * i)

def clusterClasses : List (List String × CharSet) :=
  let breaks := codes [0x0A, 0x0D]
  [(["cr"], codes [0x0D]), (["lf"], codes [0x0A]), (["zwj"], joiner),
    (["cn", "control"],
      ((ofCategories [23, 24, 25, 26]).union
        ((ofCategories [29]).inter ((plain? "defaultignorablecodepoint").getD []))).diff
          (((breaks.union joiner).union clusterExtend).union prepended)),
    (["ex", "extend"], clusterExtend),
    (["l"], [(0x1100, 0x115F), (0xA960, 0xA97C)]),
    (["v"], [(0x1160, 0x11A7), (0xD7B0, 0xD7C6), (0x16D63, 0x16D63), (0x16D67, 0x16D6A)]),
    (["t"], [(0x11A8, 0x11FF), (0xD7CB, 0xD7FB)]),
    (["lv"], openSyllables),
    (["lvt"], CharSet.diff [(0xAC00, 0xD7A3)] openSyllables),
    (["pp", "prepend"], prepended),
    (["ri", "regionalindicator"], (plain? "regionalindicator").getD []),
    (["sm", "spacingmark"],
      changed ((ofCategories [6]).diff clusterExtend)
        ["DRzhD+hL3irhBpjin1hjmihqjCOkhhiBEA2hhhbFii"])]

/-- Signs that belong to the character before them. -/
def marks : CharSet := graphemeExtend.union (ofCategories [6])

def katakana : CharSet :=
  ((script? "kana").getD []).union
    ([(0x3031, 0x3035), (0x309B, 0x309C)] ++ codes [0x30A0, 0x30FC, 0xFF70])

def hebrewLetters : CharSet := ((script? "hebr").getD []).inter (ofCategories [4])

/-- Scripts whose words stand without gaps, so that their letters tell nothing. -/
def unspaced : CharSet :=
  ["thai", "laoo", "mymr", "khmr", "tale", "talu", "lana", "tavt", "ahom", "hira"].foldl
    (fun s name => s.union ((script? name).getD [])) []

def wordLetters : CharSet :=
  let others := [(plain? "ideographic").getD [], katakana, hebrewLetters, unspaced, marks]
  changed (others.foldl CharSet.diff alphabetic)
    ["WiksmmilnhhhxS6jhhBrhDohBII0vpiDniewh"]

/-- Digits, and the mark that parts them from decimals in Arabic. -/
def numerals : CharSet := decimalDigits.union (codes [0x66B])

def wordClasses : List (List String × CharSet) :=
  [(["cr"], codes [0x0D]), (["lf"], codes [0x0A]), (["zwj"], joiner),
    (["nl", "newline"], [(0x0B, 0x0C), (0x85, 0x85), (0x2028, 0x2029)]),
    (["extend"], (marks.union emojiModifiers).diff joiner),
    (["fo", "format"],
      (ofCategories [26]).diff [(0x200B, 0x200D), (0xE0020, 0xE007F)]),
    (["ka", "katakana"], katakana),
    (["hl", "hebrewletter"], hebrewLetters),
    (["le", "aletter"], wordLetters),
    (["sq", "singlequote"], codes [0x27]),
    (["dq", "doublequote"], codes [0x22]),
    (["mb", "midnumlet"], codes [0x2E, 0x2018, 0x2019, 0x2024, 0xFE52, 0xFF07, 0xFF0E]),
    (["ml", "midletter"],
      codes [0x3A, 0xB7, 0x387, 0x55F, 0x5F4, 0x2027, 0xFE13, 0xFE55, 0xFF1A]),
    (["mn", "midnum"], table ["BshuhaihQqhEiiC-hMrhGCrhBXOrhjhB7hjhF3huh"]),
    (["nu", "numeric"], numerals),
    (["ex", "extendnumlet"], (ofCategories [11]).union (codes [0x202F])),
    (["ri", "regionalindicator"], (plain? "regionalindicator").getD []),
    (["wsegspace"], (ofCategories [22]).diff (codes [0xA0, 0x2007, 0x202F]))]

def fullStops : CharSet := codes [0x2E, 0x2024, 0xFE52, 0xFF0E]

def sentenceLower : CharSet :=
  ((lowercase.diff marks).diff [(0x10D0, 0x10FA), (0x10FD, 0x10FF)]).union (codes [0x295])

def sentenceUpper : CharSet :=
  (uppercase.union (ofCategories [2])).diff [(0x1C90, 0x1CBA), (0x1CBD, 0x1CBF)]

def sentenceClasses : List (List String × CharSet) :=
  let separators : CharSet := [(0x85, 0x85), (0x2028, 0x2029)]
  [(["cr"], codes [0x0D]), (["lf"], codes [0x0A]),
    (["ex", "extend"], marks.union joiner),
    (["se", "sep"], separators),
    (["fo", "format"],
      (ofCategories [26]).diff [(0x200C, 0x200D), (0xE0020, 0xE007F)]),
    (["sp"], (blanks.diff separators).diff (codes [0x0A, 0x0D])),
    (["lo", "lower"], sentenceLower),
    (["up", "upper"], sentenceUpper),
    (["le", "oletter"],
      (((alphabetic.diff sentenceLower).diff sentenceUpper).diff marks).union (codes [0x5F3])),
    (["nu", "numeric"], numerals.union (codes [0x66C])),
    (["at", "aterm"], fullStops),
    (["sc", "scontinue"], table ["BsishghaihO-hFuiPqhEAphlhCAqiDfshBTQuihhgh8i9iiiihqhFoisiCoh"]),
    (["st", "sterm"], ((plain? "sentenceterminal").getD []).diff fullStops),
    (["cl", "close"], changed (ofCategories [13, 14, 15, 16]) ["BihkhJZzmBU+ikjihDSDqj"])]

def ofClass? (classes : List (List String × CharSet)) (name : String) : Option CharSet :=
  (classes.find? fun (names, _) => names.contains name).map (·.2)

end Courier.Unicode
