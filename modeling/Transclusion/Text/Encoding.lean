/-! Encoded text.

Files hold bytes; a site names the encoding that its texts are written in. Four
encodings are known, by any of their usual names: UTF-8 (with or without a byte
order mark that is dropped), ASCII, Latin-1 and Windows-1252. Decoding stops at
the first byte sequence that is no character and reports where it stands, how
long it is and what is wrong with it. -/
namespace Transclusion.Text

inductive Encoding where
  | utf8
  /-- UTF-8 after an optional byte order mark. -/
  | utf8Marked
  | ascii
  | latin1
  | windows1252
  deriving DecidableEq, Repr

/-- What is wrong with an undecodable byte sequence. -/
inductive DecodeReason where
  | startByte
  | continuationByte
  | endOfData
  | beyondAscii
  | unassigned
  deriving DecidableEq, Repr

/-- An undecodable sequence: its first byte, its position and its length. -/
structure DecodeError where
  encoding : Encoding
  byte : UInt8
  position : Nat
  length : Nat
  reason : DecodeReason
  deriving DecidableEq, Repr

namespace Encoding

/-- The name under which errors report the encoding. -/
def codec : Encoding → String
  | utf8 | utf8Marked => "utf-8"
  | ascii => "ascii"
  | latin1 => "latin-1"
  | windows1252 => "charmap"

/-- The usual names, in lower case with underscores for punctuation. -/
def names : List (String × Encoding) :=
  [("utf_8", utf8), ("utf8", utf8), ("utf", utf8), ("u8", utf8), ("cp65001", utf8),
   ("utf8_ucs2", utf8), ("utf8_ucs4", utf8),
   ("utf_8_sig", utf8Marked),
   ("ascii", ascii), ("us_ascii", ascii), ("us", ascii), ("646", ascii), ("ansi_x3.4_1968", ascii),
   ("ansi_x3_4_1968", ascii), ("ansi_x3.4_1986", ascii), ("cp367", ascii), ("csascii", ascii),
   ("ibm367", ascii), ("iso646_us", ascii), ("iso_646.irv_1991", ascii), ("iso_ir_6", ascii),
   ("latin_1", latin1), ("latin1", latin1), ("latin", latin1), ("l1", latin1), ("8859", latin1),
   ("iso8859", latin1), ("iso8859_1", latin1), ("iso_8859_1", latin1), ("iso_8859_1_1987", latin1),
   ("iso_ir_100", latin1), ("cp819", latin1), ("csisolatin1", latin1), ("ibm819", latin1),
   ("cp1252", windows1252), ("windows_1252", windows1252), ("1252", windows1252)]

/-- A name in the form that `names` lists: lower case, a run of punctuation as one underscore. -/
def canonicalName (name : List Char) : List Char :=
  go false name
where
  /-- `pending` tells that punctuation has been passed over. -/
  go (pending : Bool) : List Char → List Char
  | [] => []
  | c :: cs =>
    if c.isAlphanum || c == '.' then (if pending then ['_', c.toLower] else [c.toLower]) ++ go false cs
    else go true cs

def ofName? (name : String) : Option Encoding :=
  names.lookup (String.ofList (canonicalName name.toList))

end Encoding

/-- The code points of the bytes 0x80 to 0x9F in Windows-1252; zero where none is assigned. -/
def windows1252High : List Nat :=
  [0x20ac, 0, 0x201a, 0x192, 0x201e, 0x2026, 0x2020, 0x2021, 0x2c6, 0x2030, 0x160, 0x2039, 0x152, 0,
   0x17d, 0, 0, 0x2018, 0x2019, 0x201c, 0x201d, 0x2022, 0x2013, 0x2014, 0x2dc, 0x2122, 0x161, 0x203a,
   0x153, 0, 0x17e, 0x178]

/-- How many bytes follow a start byte, and the range that the first of them lies in. -/
def followers? (b : UInt8) : Option (Nat × UInt8 × UInt8) :=
  if b < 0x80 then some (0, 0, 0)
  else if b < 0xc2 then none
  else if b < 0xe0 then some (1, 0x80, 0xbf)
  else if b = 0xe0 then some (2, 0xa0, 0xbf)
  else if b = 0xed then some (2, 0x80, 0x9f)
  else if b < 0xf0 then some (2, 0x80, 0xbf)
  else if b = 0xf0 then some (3, 0x90, 0xbf)
  else if b < 0xf4 then some (3, 0x80, 0xbf)
  else if b = 0xf4 then some (3, 0x80, 0x8f)
  else none

/-- How a sequence goes on after its start byte. -/
inductive Continuation where
  /-- Complete: the bits of the following bytes appended, and the rest. -/
  | complete (value : Nat) (rest : List UInt8)
  /-- Broken after so many good bytes. -/
  | broken (reason : DecodeReason) (good : Nat)

/-- Reads `count` following bytes, the first within the given range. -/
def continueWith (value good : Nat) : (count : Nat) → (low high : UInt8) → List UInt8 → Continuation
  | 0, _, _, rest => .complete value rest
  | _ + 1, _, _, [] => .broken .endOfData good
  | count + 1, low, high, b :: rest =>
    if low ≤ b ∧ b ≤ high then
      continueWith (value * 64 + b.toNat % 64) (good + 1) count 0x80 0xbf rest
    else .broken .continuationByte good

theorem continueWith_length {value good count low high bytes v rest}
    (h : continueWith value good count low high bytes = .complete v rest) :
    rest.length ≤ bytes.length := by
  induction count generalizing value good low high bytes with
  | zero => simp_all [continueWith]
  | succ n ih =>
    cases bytes with
    | nil => simp [continueWith] at h
    | cons b bs =>
      simp only [continueWith] at h
      split at h
      · have := ih h; simp; omega
      · simp at h

def leadBits (b : UInt8) (count : Nat) : Nat :=
  if count = 0 then b.toNat else b.toNat % Nat.pow 2 (6 - count)

/-- Decodes UTF-8; `position` counts the bytes already read. -/
def decodeUtf8 (position : Nat) (bytes : List UInt8) : Except DecodeError (List Char) :=
  match bytes with
  | [] => .ok []
  | b :: bs =>
    match followers? b with
    | none => .error ⟨.utf8, b, position, 1, .startByte⟩
    | some (count, low, high) =>
      match h : continueWith (leadBits b count) 1 count low high bs with
      | .broken reason good => .error ⟨.utf8, b, position, good, reason⟩
      | .complete value rest =>
        (decodeUtf8 (position + 1 + count) rest).map (Char.ofNat value :: ·)
termination_by bytes.length
decreasing_by
  have := continueWith_length h
  simp only [List.length_cons]
  omega

/-- Decodes an encoding of one byte a character. -/
def decodeBytewise (encoding : Encoding) (image : UInt8 → Option Char) (reason : DecodeReason)
    (position : Nat) : List UInt8 → Except DecodeError (List Char)
  | [] => .ok []
  | b :: bs =>
    match image b with
    | none => .error ⟨encoding, b, position, 1, reason⟩
    | some c => (decodeBytewise encoding image reason (position + 1) bs).map (c :: ·)

/-- The bytes without a leading byte order mark. -/
def dropMark : List UInt8 → List UInt8
  | 0xef :: 0xbb :: 0xbf :: rest => rest
  | bytes => bytes

def windows1252Char (b : UInt8) : Option Char :=
  if 0x80 ≤ b ∧ b < 0xa0 then
    match windows1252High[b.toNat - 0x80]? with
    | some (n + 1) => some (Char.ofNat (n + 1))
    | _ => none
  else some (Char.ofNat b.toNat)

def decode : Encoding → List UInt8 → Except DecodeError (List Char)
  | .utf8, bytes => decodeUtf8 0 bytes
  | .utf8Marked, bytes => decodeUtf8 0 (dropMark bytes)
  | .ascii, bytes =>
    decodeBytewise .ascii (fun b => if b < 0x80 then some (Char.ofNat b.toNat) else none) .beyondAscii 0
      bytes
  | .latin1, bytes => decodeBytewise .latin1 (fun b => some (Char.ofNat b.toNat)) .beyondAscii 0 bytes
  | .windows1252, bytes => decodeBytewise .windows1252 windows1252Char .unassigned 0 bytes

/-- The text of a stream that ends after the bytes. A reader of marked UTF-8 waits for a whole mark,
so a stream that ends within one reads as empty. -/
def decodeStream (encoding : Encoding) (bytes : List UInt8) : Except DecodeError (List Char) :=
  if encoding = .utf8Marked ∧ (bytes = [0xef] ∨ bytes = [0xef, 0xbb]) then .ok []
  else decode encoding bytes

def encodeUtf8 (s : String) : List UInt8 := s.toUTF8.toList

end Transclusion.Text
