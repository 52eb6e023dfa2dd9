/-!
# UTF-8

Reading bytes as characters. A byte sequence is read from the left in `Chunk`s: a character, or a
longest start of a character that breaks off, which strict reading refuses and lossy reading
replaces by U+FFFD.
-/
namespace FoxScript.Text.Utf8

/-- What stands at the front of a byte sequence. -/
inductive Chunk
  /-- A character that takes `width` bytes. -/
  | char (c : Char) (width : Nat)
  /-- `width` bytes that begin a character and do not finish it, or one byte that begins none. -/
  | broken (width : Nat)
  deriving DecidableEq, Repr

/-- Whether the byte continues a character. -/
def isTail (b : UInt8) : Bool := 0x80 ≤ b && b ≤ 0xBF

/-- The six bits that a continuing byte carries. -/
def tailBits (b : UInt8) : Nat := b.toNat % 64

/-- Reads a character of two bytes, of which `b` is the first. -/
def two (b : UInt8) : List UInt8 → Chunk
  | c :: _ => if isTail c then .char (Char.ofNat (b.toNat % 32 * 64 + tailBits c)) 2 else .broken 1
  | [] => .broken 1

/-- Reads a character of three bytes. The second byte lies between `low` and `high`, which leaves
out overlong forms and surrogates. -/
def three (b low high : UInt8) : List UInt8 → Chunk
  | c :: rest =>
    if low ≤ c && c ≤ high then
      match rest with
      | d :: _ =>
        if isTail d then
          .char (Char.ofNat ((b.toNat % 16 * 64 + tailBits c) * 64 + tailBits d)) 3
        else .broken 2
      | [] => .broken 2
    else .broken 1
  | [] => .broken 1

/-- Reads a character of four bytes. The second byte lies between `low` and `high`, which leaves
out overlong forms and numbers above U+10FFFF. -/
def four (b low high : UInt8) : List UInt8 → Chunk
  | c :: rest =>
    if low ≤ c && c ≤ high then
      match rest with
      | d :: rest =>
        if isTail d then
          match rest with
          | e :: _ =>
            if isTail e then
              .char (Char.ofNat
                (((b.toNat % 8 * 64 + tailBits c) * 64 + tailBits d) * 64 + tailBits e)) 4
            else .broken 3
          | [] => .broken 3
        else .broken 2
      | [] => .broken 2
    else .broken 1
  | [] => .broken 1

/-- The chunk that begins with the byte `b`. -/
def chunk (b : UInt8) (rest : List UInt8) : Chunk :=
  if b < 0x80 then .char (Char.ofNat b.toNat) 1
  else if b < 0xC2 then .broken 1
  else if b < 0xE0 then two b rest
  else if b == 0xE0 then three b 0xA0 0xBF rest
  else if b == 0xED then three b 0x80 0x9F rest
  else if b < 0xF0 then three b 0x80 0xBF rest
  else if b == 0xF0 then four b 0x90 0xBF rest
  else if b < 0xF4 then four b 0x80 0xBF rest
  else if b == 0xF4 then four b 0x80 0x8F rest
  else .broken 1

/-- All chunks of a byte sequence. Every chunk has at least one byte, so as many rounds as there
are bytes are enough. -/
def chunks : Nat → List UInt8 → List Chunk
  | 0, _ => []
  | _, [] => []
  | n + 1, b :: rest =>
    let c := chunk b rest
    let width := match c with
      | .char _ w => w
      | .broken w => w
    c :: chunks n (rest.drop (width - 1))

/-- The characters of a byte sequence, if all of it is UTF-8. -/
def decode? (bytes : List UInt8) : Option (List Char) :=
  (chunks bytes.length bytes).mapM fun
    | .char c _ => some c
    | .broken _ => none

/-- The characters of a byte sequence, where each broken chunk becomes U+FFFD. -/
def decodeLossy (bytes : List UInt8) : List Char :=
  (chunks bytes.length bytes).map fun
    | .char c _ => c
    | .broken _ => '\ufffd'

end FoxScript.Text.Utf8
