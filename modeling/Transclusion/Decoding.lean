import Transclusion.Fault

/-! Decoding by name.

A site names its encoding. The bytes of a partial are decoded as a whole, and no
bytes are no text whatever the name; the bytes of a document are read as a
stream, for which the name must be known, and its line ends are unified. Beside the
encodings that are known by themselves there may be others, which are found by their
names and decode in their own way. -/
namespace Transclusion

/-- Further encodings, by their names. -/
def Codecs : Type := String → Option (List UInt8 → Except Fault (List Char))

/-- No further encodings. -/
def Codecs.none : Codecs := fun _ => Option.none

/-- How bytes are decoded in the encoding of a name: `decode` is for those that are known by themselves. -/
def decoderOf (name : String) (further : Codecs)
    (decode : Text.Encoding → List UInt8 → Except Text.DecodeError (List Char)) :
    Except Fault (List UInt8 → Except Fault (List Char)) :=
  match Text.Encoding.ofName? name, further name with
  | some encoding, _ => .ok fun bytes => (decode encoding bytes).mapError .undecodable
  | none, some decodeFurther => .ok decodeFurther
  | none, none => .error (.unknownEncoding name)

/-- The text of bytes. -/
def decodeBytes (name : String) (bytes : List UInt8) (further : Codecs := .none) : Except Fault (List Char) :=
  if bytes.isEmpty then .ok []
  else (decoderOf name further Text.decode).bind (· bytes)

/-- The text of a stream of bytes. -/
def decodeLines (name : String) (bytes : List UInt8) (further : Codecs := .none) : Except Fault (List Char) :=
  (decoderOf name further Text.decodeStream).bind fun decode => (decode bytes).map Text.unifyLineEnds

end Transclusion
