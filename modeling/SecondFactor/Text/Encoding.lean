import SecondFactor.Decimal
import SecondFactor.Text
import SecondFactor.Text.Quoted

/-!
# Encodings

Texts are written as UTF-8. A file that was written so may be read in another encoding.
-/
namespace SecondFactor.Text

/-!
## UTF-8

UTF-8 has no place for surrogates, so a text that holds one cannot be written. The variables of a
process are bytes: a byte that is no UTF-8 comes in as one of 128 surrogates, and such a surrogate
goes out as its byte.
-/

/-- Surrogates side by side that cannot be written. -/
structure SurrogateRun where
  /-- The place of the first one in its text. -/
  start : Nat
  first : Fin 0x800
  /-- How many stand behind the first one. -/
  more : Nat
deriving DecidableEq, Repr

def SurrogateRun.message (r : SurrogateRun) : String :=
  let place := if r.more = 0 then
      " '" ++ String.ofList (codeEscape (CodePoint.surrogate r.first).toNat) ++
        "' in position " ++ Decimal.ofNat r.start
    else "s in position " ++ Decimal.ofNat r.start ++ "-" ++ Decimal.ofNat (r.start + r.more)
  "'utf-8' codec can't encode character" ++ place ++ ": surrogates not allowed"

/-- The byte that a code point stands for. -/
def CodePoint.byte? : CodePoint → Option UInt8
  | char _ => none
  | surrogate n => if 0x480 ≤ n.val ∧ n.val < 0x500 then some (.ofNat (n - 0x400)) else none

/-- The first surrogate from a place on that does not pass, with those right behind it. -/
def firstRun? (passes : CodePoint → Bool) : (start : Nat) → List CodePoint → Option SurrogateRun
  | _, [] => none
  | i, .char _ :: ps => firstRun? passes (i + 1) ps
  | i, .surrogate n :: ps =>
    if passes (.surrogate n) then firstRun? passes (i + 1) ps
    else some ⟨i, n, (ps.takeWhile CodePoint.isSurrogate).length⟩

/-- The surrogates for which a text cannot be written. -/
def unwritable? (s : String) : Option SurrogateRun :=
  firstRun? (fun _ => false) 0 (codePoints s.toList)

/-- The text of a file without the mark of its byte order. -/
def withoutByteOrderMark : List Char → List Char
  | '\ufeff' :: cs => cs
  | cs => cs

/-- The character that the bytes at the start of a text make up. -/
def byteCharacter? (ps : List CodePoint) : Option Char :=
  let bytes := ((ps.take 4).map CodePoint.byte?).takeWhile Option.isSome
  (ByteArray.mk (bytes.filterMap id).toArray).utf8DecodeChar? 0

/-- A text with the characters that its bytes make up. A byte that may be part of a character but
not its first stays alone until its first one comes in front. -/
def joinBytes (ps : List CodePoint) : List CodePoint :=
  ps.foldr (fun p ps =>
    match byteCharacter? (p :: ps) with
    | some c => .char c :: ps.drop (c.utf8Size - 1)
    | none => p :: ps) []

/-- A text as it comes back from a process, unless it holds a surrogate that is no byte. -/
def throughBytes (s : String) : Except SurrogateRun String :=
  let ps := codePoints s.toList
  match firstRun? (fun p => p.byte?.isSome) 0 ps with
  | some r => .error r
  | none => .ok (String.ofList (ofCodePoints (joinBytes ps)))

/-!
## Reading a file

The bytes of a file stand for other characters in another encoding, or for none, and reading ends at
the first byte that stands for none.
-/

inductive Encoding
  | utf8
  /-- UTF-8 with a mark at the start, which is dropped. -/
  | markedUtf8
  | ascii
  | latin1
  | windows1252
  | utf16
deriving DecidableEq, Repr

/-- Why bytes cannot be read as text. -/
inductive EncodingFault
  /-- The name holds surrogates. -/
  | unwritable (run : SurrogateRun)
  /-- The name holds the character that ends names. -/
  | nullByte
  /-- No encoding has the name. -/
  | unknown (name : String)
  /-- The name stands for a conversion of another kind. -/
  | noText (name : String)
  | notAscii (byte : UInt8) (place : Nat)
  /-- The byte stands for no character. -/
  | undefined (byte : UInt8) (place : Nat)
  /-- The byte is the first half of a character and the last of the file. -/
  | cutOff (byte : UInt8) (place : Nat)
  /-- The mark that tells the order of the bytes is missing. -/
  | noByteOrder
deriving DecidableEq, Repr

namespace EncodingFault

def className : EncodingFault → String
  | unwritable _ => "UnicodeEncodeError"
  | nullByte => "ValueError"
  | unknown _ | noText _ => "LookupError"
  | notAscii .. | undefined .. | cutOff .. => "UnicodeDecodeError"
  | noByteOrder => "UnicodeError"

/-- What is said about a byte that cannot be read. -/
def unreadable (codec : String) (byte : UInt8) (place : Nat) (reason : String) : String :=
  "'" ++ codec ++ "' codec can't decode byte 0x" ++ String.ofList (hexDigits 2 byte.toNat) ++
    " in position " ++ Decimal.ofNat place ++ ": " ++ reason

def message : EncodingFault → String
  | unwritable run => run.message
  | nullByte => "embedded null character"
  | unknown name => "unknown encoding: " ++ name
  | noText name =>
    "'" ++ name ++ "' is not a text encoding; use codecs.open() to handle arbitrary codecs"
  | notAscii byte place => unreadable "ascii" byte place "ordinal not in range(128)"
  | undefined byte place => unreadable "charmap" byte place "character maps to <undefined>"
  | cutOff byte place => unreadable "utf-16-le" byte place "truncated data"
  | noByteOrder => "UTF-16 stream does not start with BOM"

end EncodingFault

namespace Encoding

/-- The names of the encodings. -/
def names : List (Encoding × List String) :=
  [(utf8, ["utf_8", "utf8", "u8", "utf", "utf8_ucs2", "utf8_ucs4", "cp65001"]),
    (markedUtf8, ["utf_8_sig"]),
    (ascii, ["ascii", "us_ascii", "us", "646", "ansi_x3.4_1968", "ansi_x3_4_1968",
      "ansi_x3.4_1986", "cp367", "csascii", "ibm367", "iso646_us", "iso_646.irv_1991",
      "iso_ir_6"]),
    (latin1, ["latin_1", "latin1", "latin", "l1", "iso_8859_1", "iso8859_1", "iso8859", "8859",
      "cp819", "csisolatin1", "ibm819", "iso_8859_1_1987", "iso_ir_100"]),
    (windows1252, ["cp1252", "1252", "windows_1252"]),
    (utf16, ["utf_16", "utf16", "u16"])]

/-- The names of conversions that are no encodings of text. -/
def otherNames : List String :=
  ["base64", "base_64", "base64_codec", "bz2", "bz2_codec", "hex", "hex_codec", "quopri",
    "quoted_printable", "quotedprintable", "quopri_codec", "rot13", "rot_13", "uu", "uu_codec",
    "zip", "zlib", "zlib_codec"]

/-- The words of a name: letters, digits and points. -/
def words : (word : List Char) → List Char → List (List Char)
  | word, [] => if word.isEmpty then [] else [word.reverse]
  | word, c :: cs =>
    if c.isAlphanum || c == '.' then words (c :: word) cs
    else if word.isEmpty then words [] cs
    else word.reverse :: words [] cs

/-- A name in the form in which names are compared: in lower case, its words joined by
underscores. -/
def normalName (name : String) : String :=
  "_".intercalate ((words [] (lower name).toList).map String.ofList)

/-- The encoding of a name. -/
def ofName (name : String) : Except EncodingFault Encoding := do
  if let some run := unwritable? name then throw (.unwritable run)
  if name.toList.contains '\x00' then throw .nullByte
  match names.find? fun entry => entry.2.contains (normalName name) with
  | some entry => return entry.1
  | none => throw (if otherNames.contains (normalName name) then .noText name else .unknown name)

/-- The characters of the bytes 80 to 9F; zero stands for none. -/
def windowsLetters : List Nat :=
  [0x20ac, 0, 0x201a, 0x192, 0x201e, 0x2026, 0x2020, 0x2021, 0x2c6, 0x2030, 0x160, 0x2039, 0x152,
    0, 0x17d, 0, 0, 0x2018, 0x2019, 0x201c, 0x201d, 0x2022, 0x2013, 0x2014, 0x2dc, 0x2122, 0x161,
    0x203a, 0x153, 0, 0x17e, 0x178]

/-- The character of a byte in a file where each byte is one. -/
def byteLetter (e : Encoding) (place : Nat) (byte : UInt8) : Except EncodingFault Char :=
  let n := byte.toNat
  match e with
  | ascii => if n < 0x80 then .ok (Char.ofNat n) else .error (.notAscii byte place)
  | windows1252 =>
    if n < 0x80 ∨ 0xa0 ≤ n then .ok (Char.ofNat n)
    else match windowsLetters[n - 0x80]? with
      | none | some 0 => .error (.undefined byte place)
      | some letter => .ok (Char.ofNat letter)
  | _ => .ok (Char.ofNat n)

/-- The characters of a file where each byte is one. -/
def byteLetters (e : Encoding) (bytes : List UInt8) : Except EncodingFault (List Char) :=
  bytes.zipIdx.mapM fun (byte, place) => e.byteLetter place byte

/-- The bytes of a text; surrogates have none. -/
def bytes (s : String) : List UInt8 :=
  (String.ofList ((codePoints s.toList).filterMap CodePoint.char?)).toUTF8.data.toList

/-- The text of a file, which was written as UTF-8, in an encoding. -/
def read (e : Encoding) (file : String) : Except EncodingFault String :=
  match e with
  | utf8 => .ok file
  | markedUtf8 => .ok (String.ofList (withoutByteOrderMark file.toList))
  | utf16 =>
    match (bytes file).getLast? with
    | none => .ok ""
    | some byte =>
      let last := (bytes file).length - 1
      if last % 2 = 0 then .error (.cutOff byte last) else .error .noByteOrder
  | e => String.ofList <$> e.byteLetters (bytes file)

end Encoding

end SecondFactor.Text
