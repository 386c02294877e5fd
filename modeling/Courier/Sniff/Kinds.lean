import Courier.Sniff.Sign

/-! The kinds of content that are told by their first bytes, with their extensions. The first kind
whose sign is there counts. -/
namespace Courier.Sniff

/-- Compiled classes and the binaries that share their mark are told apart by a version. -/
def classFile : Sign := every [hex 0 "cafebabe", longer 7, fun c => bigEndian c 4 4 ≥ 45,
  fun c => bigEndian c 6 2 ≥ 45]

def fatBinary : Sign := every [hex 0 "cafebabe", longer 7, fun c => bigEndian c 4 4 < 45]

/-- A container of boxes with a box of brands in front, which has to be there as a whole. -/
def brandBox : Sign := every [text 4 "ftyp", longer 15, fun c => bigEndian c 0 4 ≤ c.size]

def majorBrand (brands : List String) : Sign := either (brands.map (text 8))

/-- One of the brands that a container is compatible with. -/
def compatibleBrand (brands : List String) : Sign := fun content =>
  (List.range (bigEndian content 0 4 / 4 - 4)).any fun i =>
    brands.any fun brand => text (16 + 4 * i) brand content

def heif : Sign := both brandBox (either [majorBrand ["heic", "heix"],
  both (majorBrand ["mif1", "msf1"]) (compatibleBrand ["heic"])])

def avif : Sign := both brandBox (either [majorBrand ["avif", "avis"],
  compatibleBrand ["avif", "avis"]])

def movieBrands : List String :=
  ["avc1", "dash", "iso2", "iso3", "iso4", "iso5", "iso6", "isom", "mmp4", "mp41", "mp42", "mp4v",
    "mp71", "MSNV", "NDAS", "NDSC", "NSDC", "NDSH", "NDSM", "NDSP", "NDSS", "NDXC", "NDXH", "NDXM",
    "NDXP", "NDXS", "F4V ", "F4P "]

def tiffHead : Sign := either [hex 0 "49492a00", hex 0 "4d4d002a"]
def zipHead : Sign := hex 0 "504b0304"

/-- A frame with a mark of its own, also after frames that are to be skipped. -/
def frame (mark : Sign) : (frames : Nat) → Sign
  | 0, content => mark content
  | frames + 1, content =>
    if mark content then true
    else if content.size ≥ 8 && littleEndian content 0 4 / 16 == 0x184d2a5 then
      let next := 8 + littleEndian content 4 4
      content.size > next && frame mark frames (content.extract next content.size)
    else false

/-- Frames to skip are eight bytes long at least. -/
def framed (mark : Sign) : Sign := fun content => frame mark (content.size / 8) content

def isBlank (b : UInt8) : Bool :=
  [0x09, 0x0a, 0x0c, 0x0d, 0x20].contains b

def lower (b : UInt8) : UInt8 :=
  if 0x41 ≤ b && b ≤ 0x5a then b + 0x20 else b

/-- Whether bytes start with a word in any case, and what follows it. -/
def startsWith? (word : String) (bytes : List UInt8) : Option (List UInt8) :=
  let w := word.toUTF8.toList
  if (bytes.take w.length).map lower == w.map lower then some (bytes.drop w.length) else none

def pageTags : List String :=
  ["<!DOCTYPE HTML", "<HTML", "<HEAD", "<SCRIPT", "<IFRAME", "<H1", "<DIV", "<FONT", "<TABLE", "<A",
    "<STYLE", "<TITLE", "<B", "<BODY", "<BR", "<P", "<!--"]

/-- A page starts with one of some tags, which ends or has more in it. -/
def page : Sign := fun content =>
  let bytes := content.toList.dropWhile isBlank
  pageTags.any fun tag =>
    match startsWith? tag bytes with
    | some (b :: _) => b == 0x20 || b == 0x3e
    | _ => false

def dropMarks : List UInt8 → List UInt8
  | 0xef :: 0xbb :: 0xbf :: rest => dropMarks rest
  | 0xfe :: 0xff :: rest => dropMarks rest
  | 0xff :: 0xfe :: rest => dropMarks rest
  | bytes => bytes

def markup : Sign := fun content =>
  (startsWith? "<?xml" (dropMarks (content.toList.dropWhile isBlank))).isSome

def openDocument (kind : String) : Sign :=
  every [zipHead, text 30 "mimetype", text 50 ("vnd.oasis.opendocument." ++ kind)]

def applications : List (String × Sign) :=
  [("wasm", hex 0 "0061736d01000000"), ("elf", both (hex 0 "7f454c46") (longer 52)),
    ("exe", hex 0 "4d5a"), ("class", classFile), ("bc", hex 0 "4243"),
    ("mach", either [hex 0 "cffaedfe", hex 0 "cefaedfe", hex 0 "feedfacf", hex 0 "feedface",
      fatBinary]),
    ("dex", every [hex 0 "6465780a", hex 36 "70", longer 36]),
    ("der", both (hex 0 "3082") (longer 2)),
    ("obj", both (either [hex 0 "6486", hex 0 "4c01", hex 0 "0002"]) (longer 2)),
    ("pem", both (text 0 "-----BEGIN ") (longer 11))]

def books : List (String × Sign) :=
  [("epub", both zipHead (text 30 "mimetypeapplication/epub+zip")), ("mobi", text 60 "BOOKMOBI")]

def images : List (String × Sign) :=
  [("jpg", hex 0 "ffd8ff"), ("jp2", hex 0 "0000000c6a5020200d0a870a00"), ("png", hex 0 "89504e47"),
    ("gif", hex 0 "474946"), ("webp", text 8 "WEBP"), ("cr2", both tiffHead (hex 8 "435202")),
    ("tif", every [tiffHead, unlike (hex 8 "43"), unlike (hex 9 "52"), longer 9]),
    ("bmp", hex 0 "424d"), ("jxr", hex 0 "4949bc"), ("psd", hex 0 "38425053"),
    ("ico", hex 0 "00000100"), ("heif", heif), ("avif", avif),
    ("jxl", either [both (hex 0 "ff0a") (longer 2),
      both (hex 0 "0000000c4a584c200d0a870a") (longer 12)]),
    ("ora", every [zipHead, text 30 "mimetypeimage/openraster", longer 57]),
    ("djvu", both (hex 0 "41542654464f524d") (hex 12 "444a56"))]

def videos : List (String × Sign) :=
  [("mp4", both (text 4 "ftyp") (majorBrand movieBrands)), ("m4v", text 4 "ftypM4V"),
    ("mkv", either [hex 0 "1a45dfa3934282886d6174726f736b61", text 31 "matroska"]),
    ("webm", hex 0 "1a45dfa3"),
    ("mov", both (longer 15) (either [text 4 "ftypqt  ", text 4 "moov", text 4 "mdat",
      text 12 "mdat"])),
    ("avi", both (text 0 "RIFF") (text 8 "AVI")), ("wmv", hex 0 "3026b2758e66cf11a6d9"),
    ("mpg", both (hex 0 "000001") fun c => c.size > 3 && byteAt c 3 / 16 == 0xb),
    ("flv", hex 0 "464c5601")]

def audio : List (String × Sign) :=
  [("midi", text 0 "MThd"), ("mp3", both (longer 2) (either [text 0 "ID3", hex 0 "fffb"])),
    ("m4a", both (longer 10) (either [text 4 "ftypM4A", text 0 "M4A "])),
    ("opus", both (text 0 "OggS") (text 28 "OpusHead")), ("ogg", text 0 "OggS"),
    ("flac", text 0 "fLaC"), ("wav", both (text 0 "RIFF") (text 8 "WAVE")),
    ("amr", both (text 0 "#!AMR\n") (longer 11)), ("aac", either [hex 0 "fff1", hex 0 "fff9"]),
    ("aiff", both (text 0 "FORM") (text 8 "AIFF")), ("dsf", both (text 0 "DSD ") (longer 4)),
    ("ape", both (text 0 "MAC ") (longer 4))]

def fonts : List (String × Sign) :=
  [("woff", hex 0 "774f464600010000"), ("woff2", hex 0 "774f463200010000"),
    ("ttf", hex 0 "0001000000"), ("otf", hex 0 "4f54544f00")]

def documents : List (String × Sign) :=
  [("docx", both zipHead (text 30 "word/")), ("xlsx", both zipHead (text 30 "xl/")),
    ("pptx", both zipHead (text 30 "ppt/")), ("odt", openDocument "text"),
    ("ods", openDocument "spreadsheet"), ("odp", openDocument "presentation")]

def archives : List (String × Sign) :=
  [("zip", either [hex 0 "504b0304", hex 0 "504b0506", hex 0 "504b0708",
      hex 0 "504b3030504b0304"]),
    ("tar", text 257 "ustar"), ("par2", both (hex 0 "5041523200504b54") (longer 8)),
    ("rar", either [hex 0 "526172211a0700", hex 0 "526172211a0701"]), ("gz", hex 0 "1f8b08"),
    ("bz2", hex 0 "425a68"), ("bz3", text 0 "BZ3v1"), ("7z", hex 0 "377abcaf271c"),
    ("xz", hex 0 "fd377a585a00"), ("pdf", text 0 "%PDF"),
    ("swf", either [text 0 "CWS", text 0 "FWS"]), ("rtf", hex 0 "7b5c727466"),
    ("eot", both (hex 34 "4c50") (either [hex 8 "020001", hex 8 "010000", hex 8 "020002"])),
    ("ps", text 0 "%!"), ("sqlite", text 0 "SQLi"), ("nes", hex 0 "4e45531a"),
    ("crx", text 0 "Cr24"), ("cab", either [text 0 "MSCF", hex 0 "49536328"]),
    ("deb", text 0 "!<arch>\ndebian-binary"), ("ar", text 0 "!<arch>"),
    ("Z", either [hex 0 "1fa0", hex 0 "1f9d"]), ("lz", text 0 "LZIP"),
    ("rpm", both (hex 0 "edabeedb") (longer 96)), ("dcm", text 128 "DICM"),
    ("zst", framed (hex 0 "28b52ffd")), ("lz4", framed (hex 0 "04224d18")),
    ("msi", hex 0 "d0cf11e0a1b11ae1"),
    ("cpio", either [hex 0 "c771", hex 0 "71c7", both (text 0 "070701") (longer 6)])]

def texts : List (String × Sign) :=
  [("html", page), ("xml", markup), ("sh", both (text 0 "#!") (longer 2))]

def kinds : List (String × Sign) :=
  applications ++ books ++ images ++ videos ++ audio ++ fonts ++ documents ++ archives ++ texts

/-- The extension that the first bytes of a content call for, without its dot. -/
def extension? (head : ByteArray) : Option String :=
  (kinds.find? fun (_, sign) => sign head).map (·.1)

end Courier.Sniff
