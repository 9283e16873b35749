import DocIndex.Text.Basic

/-!
Texts from UTF-8 bytes. Bytes that encode no character are replaced: one U+FFFD stands for the
longest start of a character that breaks off, or for one byte that starts no character.
-/
namespace DocIndex.Text

/-- The number of bytes of the characters whose first byte this is; 0 if there are none. -/
def encodedLength (lead : UInt8) : Nat :=
  if lead < 0x80 then 1
  else if lead < 0xC2 then 0
  else if lead < 0xE0 then 2
  else if lead < 0xF0 then 3
  else if lead < 0xF5 then 4
  else 0

/-- Whether a byte can follow the first one. The bounds leave out longer encodings than needed,
surrogates, and what is above the last code point. -/
def isSecond (lead b : UInt8) : Bool :=
  (if lead = 0xE0 then 0xA0 else if lead = 0xF0 then 0x90 else 0x80) ≤ b &&
    b ≤ (if lead = 0xED then 0x9F else if lead = 0xF4 then 0x8F else 0xBF)

def continuation (lead : UInt8) : List UInt8 → List UInt8
  | [] => []
  | b :: rest =>
    if 2 ≤ encodedLength lead && isSecond lead b then
      b :: (rest.take (encodedLength lead - 2)).takeWhile fun b => 0x80 ≤ b && b ≤ 0xBF
    else []

def leadBits (lead : UInt8) : Nat :=
  match encodedLength lead with
  | 2 => lead.toNat - 0xC0
  | 3 => lead.toNat - 0xE0
  | 4 => lead.toNat - 0xF0
  | _ => lead.toNat

def decoded (lead : UInt8) (bytes : List UInt8) : Char :=
  Char.ofNat (bytes.foldl (fun n b => n * 64 + (b.toNat - 0x80)) (leadBits lead))

def ofUtf8 : List UInt8 → Text
  | [] => []
  | lead :: rest =>
    let bytes := continuation lead rest
    let c := if bytes.length + 1 = encodedLength lead then decoded lead bytes else '\uFFFD'
    c :: ofUtf8 (rest.drop bytes.length)
termination_by bytes => bytes.length

end DocIndex.Text
