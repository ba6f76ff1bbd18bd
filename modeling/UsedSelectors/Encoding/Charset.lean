import UsedSelectors.Encoding.Codec
import UsedSelectors.Text.CodePoint

/-!
# Character encodings by name

The encodings that are built in, the names they go by, and how each of them treats a byte order
mark. Names are compared without regard to case and punctuation. Every other encoding comes from a
registry.
-/

namespace UsedSelectors.Encoding

inductive Charset where
  | utf8
  /-- UTF-8 with an optional mark at the front, which is not part of the text. -/
  | utf8Signed
  | ascii
  | latin1
  | windows1252
  | utf16
  | utf16Little
  | utf16Big
  deriving DecidableEq

structure CodecFault where
  /-- The fault is about bytes that cannot be decoded, as those of the built-in encodings are. -/
  isUndecodable : Bool
  message : String
  deriving DecidableEq

abbrev Registry := String → Option (List UInt8 → Except CodecFault Text)

inductive DecodeFailure where
  | undecodable (error : DecodeError)
  | noByteOrder
  | registered (fault : CodecFault)
  deriving DecidableEq

def DecodeFailure.message : DecodeFailure → String
  | undecodable error => error.message
  | noByteOrder => "UTF-16 stream does not start with BOM"
  | registered fault => fault.message

def utf8Mark : List UInt8 := [0xEF, 0xBB, 0xBF]

/-- Decodes UTF-8 after its mark, if it has one. A text that is no more than the beginning of a
mark is empty. -/
def decodeUtf8Signed (bytes : List UInt8) : Except DecodeError (List Char) :=
  if bytes.length < 3 && bytes.isPrefixOf utf8Mark then .ok []
  else if utf8Mark.isPrefixOf bytes then Utf8.codec.decode (bytes.drop 3)
  else Utf8.codec.decode bytes

/-- Decodes UTF-16 in the order that its mark tells. Without a mark the order is not known; a fault
in the little-endian reading of the bytes is then reported first. -/
def decodeUtf16 : List UInt8 → Except DecodeFailure (List Char)
  | [] => .ok []
  | 0xFF :: 0xFE :: rest =>
    ((Utf16.codec .little).decodeFrom 2 [] rest).mapError .undecodable
  | 0xFE :: 0xFF :: rest =>
    ((Utf16.codec .big).decodeFrom 2 [] rest).mapError .undecodable
  | bytes =>
    match (Utf16.codec .little).decode bytes with
    | .error error => .error (.undecodable error)
    | .ok _ => .error .noByteOrder

def Charset.decode (charset : Charset) (bytes : List UInt8) : Except DecodeFailure (List Char) :=
  match charset with
  | utf8 => (Utf8.codec.decode bytes).mapError .undecodable
  | utf8Signed => (decodeUtf8Signed bytes).mapError .undecodable
  | ascii => (SingleByte.ascii.decode bytes).mapError .undecodable
  | latin1 => (SingleByte.latin1.decode bytes).mapError .undecodable
  | windows1252 => (SingleByte.windows1252.decode bytes).mapError .undecodable
  | utf16 => decodeUtf16 bytes
  | utf16Little => ((Utf16.codec .little).decode bytes).mapError .undecodable
  | utf16Big => ((Utf16.codec .big).decode bytes).mapError .undecodable

inductive UnknownCharset where
  | unknown (name : String)
  /-- The name belongs to a transformation that does not give text. -/
  | notText (name : String)
  | zeroInName
  deriving DecidableEq

def UnknownCharset.message : UnknownCharset → String
  | unknown name => s!"unknown encoding: {name}"
  | notText name =>
    s!"'{name}' is not a text encoding; use codecs.open() to handle arbitrary codecs"
  | zeroInName => "embedded null character"

/-- Adds one character to a name in its compared form: letters in small case, digits and dots
stay, and one underscore stands for all that separates two of them. -/
def foldNameStep (folded : List Char × Bool) (c : Char) : List Char × Bool :=
  if c.isAlphanum || c == '.' then
    let before := if folded.2 && !folded.1.isEmpty then '_' :: folded.1 else folded.1
    (c.toLower :: before, false)
  else (folded.1, true)

def foldName (name : String) : String :=
  String.ofList (name.toList.foldl foldNameStep ([], false)).1.reverse

def Charset.names : List (Charset × List String) := [
  (.utf8, ["utf_8", "cp65001", "u8", "utf", "utf8", "utf8_ucs2", "utf8_ucs4"]),
  (.utf8Signed, ["utf_8_sig"]),
  (.ascii, ["ascii", "646", "ansi_x3.4_1968", "ansi_x3.4_1986", "ansi_x3_4_1968", "cp367",
    "csascii", "ibm367", "iso646_us", "iso_646.irv_1991", "iso_ir_6", "us", "us_ascii"]),
  (.latin1, ["latin_1", "8859", "cp819", "csisolatin1", "ibm819", "iso8859", "iso8859_1",
    "iso_8859_1", "iso_8859_1_1987", "iso_ir_100", "l1", "latin", "latin1"]),
  (.windows1252, ["cp1252", "1252", "windows_1252"]),
  (.utf16, ["utf_16", "u16", "utf16"]),
  (.utf16Little, ["utf_16_le", "unicodelittleunmarked", "utf_16le"]),
  (.utf16Big, ["utf_16_be", "unicodebigunmarked", "utf_16be"])]

/-- Names of transformations that do not give text, in their compared form. -/
def transformationNames : List String :=
  ["base64_codec", "base64", "base_64", "bz2_codec", "bz2", "hex_codec", "hex", "quopri_codec",
    "quopri", "quoted_printable", "quotedprintable", "rot_13", "rot13", "uu_codec", "uu",
    "zlib_codec", "zip", "zlib"]

/-- The names that an encoding is mainly known by; only other names may be written with dots in
place of separators. -/
def mainNames : List String :=
  ["utf_8", "utf_8_sig", "ascii", "latin_1", "cp1252", "utf_16", "utf_16_le", "utf_16_be",
    "base64_codec", "bz2_codec", "hex_codec", "quopri_codec", "rot_13", "uu_codec", "zlib_codec"]

/-- The name in its compared form, with dots as separators where that gives a known name. -/
def lookupName (name : String) : String :=
  let folded := foldName name
  let undotted := folded.map (fun c => if c == '.' then '_' else c)
  let isKnown := fun n =>
    Charset.names.any (fun entry => entry.2.contains n) || transformationNames.contains n
  if isKnown folded then folded
  else if isKnown undotted && !mainNames.contains undotted then undotted
  else folded

def Charset.ofName (name : String) : Except UnknownCharset Charset :=
  if name.toList.contains '\x00' then .error .zeroInName
  else
    let known := lookupName name
    match names.find? (fun entry => entry.2.contains known) with
    | some entry => .ok entry.1
    | none =>
      if transformationNames.contains known then .error (.notText name)
      else .error (.unknown name)

end UsedSelectors.Encoding
