/-!
# UTF-8

Texts as bytes and bytes as texts. `decode` accepts exactly the well-formed sequences;
`decodeLossy` puts the replacement character for each longest part that cannot be continued to one.
-/

namespace PackageSweep

abbrev Bytes := List UInt8

namespace Utf8

def encode (cs : List Char) : Bytes := cs.flatMap String.utf8EncodeChar

def ofString (s : String) : Bytes := encode s.toList

def isTail (b : UInt8) : Bool := 0x80 ≤ b && b ≤ 0xbf

/-- A lead byte and a second byte that together begin a sequence of three. -/
def beginsThree (a b : UInt8) : Bool :=
  (a == 0xe0 && 0xa0 ≤ b && b ≤ 0xbf) || (0xe1 ≤ a && a ≤ 0xec && isTail b) ||
    (a == 0xed && 0x80 ≤ b && b ≤ 0x9f) || (0xee ≤ a && a ≤ 0xef && isTail b)

/-- A lead byte and a second byte that together begin a sequence of four. -/
def beginsFour (a b : UInt8) : Bool :=
  (a == 0xf0 && 0x90 ≤ b && b ≤ 0xbf) || (0xf1 ≤ a && a ≤ 0xf3 && isTail b) ||
    (a == 0xf4 && 0x80 ≤ b && b ≤ 0x8f)

def low (b : UInt8) : Nat := b.toNat % 64

/-- The character at the front and the bytes after it, or how many bytes at the front are the
longest part that cannot be continued. -/
inductive Front where
  | char (c : Char) (width : Nat)
  | broken (width : Nat)

def front (a : UInt8) : Bytes → Front
  | [] => if a ≤ 0x7f then .char (Char.ofNat a.toNat) 0 else .broken 0
  | b :: rest =>
    if a ≤ 0x7f then .char (Char.ofNat a.toNat) 0
    else if 0xc2 ≤ a && a ≤ 0xdf then
      if isTail b then .char (Char.ofNat ((a.toNat % 32) * 64 + low b)) 1 else .broken 0
    else if beginsThree a b then
      match rest with
      | c :: _ =>
        if isTail c then .char (Char.ofNat (((a.toNat % 16) * 64 + low b) * 64 + low c)) 2
        else .broken 1
      | [] => .broken 1
    else if beginsFour a b then
      match rest with
      | c :: d :: _ =>
        if isTail c && isTail d then
          .char (Char.ofNat ((((a.toNat % 8) * 64 + low b) * 64 + low c) * 64 + low d)) 3
        else if isTail c then .broken 2
        else .broken 1
      | [c] => if isTail c then .broken 2 else .broken 1
      | [] => .broken 1
    else .broken 0

/-- The text of well-formed bytes, once the first `k` bytes are passed over. -/
def decodeAfter : Nat → Bytes → Option (List Char)
  | _, [] => some []
  | k + 1, _ :: rest => decodeAfter k rest
  | 0, a :: rest =>
    match front a rest with
    | .char c k => (decodeAfter k rest).map (c :: ·)
    | .broken _ => none

def decode (bs : Bytes) : Option (List Char) := decodeAfter 0 bs

/-- The text of any bytes, once the first `k` bytes are passed over. -/
def decodeLossyAfter : Nat → Bytes → List Char
  | _, [] => []
  | k + 1, _ :: rest => decodeLossyAfter k rest
  | 0, a :: rest =>
    match front a rest with
    | .char c k => c :: decodeLossyAfter k rest
    | .broken k => '\ufffd' :: decodeLossyAfter k rest

/-- The text of any bytes, with `U+FFFD` where they are not well formed. -/
def decodeLossy (bs : Bytes) : List Char := decodeLossyAfter 0 bs

@[simp] theorem decode_nil : decode [] = some [] := rfl

@[simp] theorem encode_nil : encode [] = [] := rfl

theorem encode_append (s t : List Char) : encode (s ++ t) = encode s ++ encode t := by
  simp [encode]

end Utf8

end PackageSweep
