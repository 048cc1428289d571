/-!
# UTF-8 on lists of bytes

`encode` writes a text as its bytes. `characters` reads bytes back with a machine that takes one byte at
a time: it yields each character that is complete, and `none` once for each ill-formed part, a part being
as long as it could still have become a character. Decoding (`decode?`) refuses an ill-formed part and
repair (`repair`) puts the replacement character in its place, so both read the same list.
-/

namespace SymbolRules.Utf8

/-- The UTF-8 bytes of a text. -/
def encode (s : String) : List UInt8 :=
  s.toList.flatMap String.utf8EncodeChar

/-- An inclusive range of bytes. -/
structure ByteRange where
  low : UInt8
  high : UInt8
deriving DecidableEq

/-- Whether a byte lies in the range. -/
def ByteRange.contains (r : ByteRange) (b : UInt8) : Bool :=
  r.low ≤ b && b ≤ r.high

/-- The continuation bytes. -/
def continuation : ByteRange := ⟨0x80, 0xBF⟩

/-- A character whose first bytes have been read. -/
structure Begun where
  /-- The value that the bytes so far spell. -/
  value : Nat
  /-- Where the next byte must lie. -/
  next : ByteRange
  /-- How many continuation bytes follow the next one. -/
  more : Nat
deriving DecidableEq

/-- What a byte ends (characters, and ill-formed parts as `none`), and the character that it leaves begun. -/
abbrev Effect := List (Option Char) × Option Begun

/-- A byte read between characters. The range after it excludes overlong forms, surrogates and values
above U+10FFFF, so that every completed value is a character. -/
def first (b : UInt8) : Effect :=
  if b ≤ 0x7F then ([some (Char.ofNat b.toNat)], none)
  else if b < 0xC2 then ([none], none)
  else if b ≤ 0xDF then ([], some ⟨b.toNat - 0xC0, continuation, 0⟩)
  else if b = 0xE0 then ([], some ⟨0, ⟨0xA0, 0xBF⟩, 1⟩)
  else if b = 0xED then ([], some ⟨0xD, ⟨0x80, 0x9F⟩, 1⟩)
  else if b ≤ 0xEF then ([], some ⟨b.toNat - 0xE0, continuation, 1⟩)
  else if b = 0xF0 then ([], some ⟨0, ⟨0x90, 0xBF⟩, 2⟩)
  else if b ≤ 0xF3 then ([], some ⟨b.toNat - 0xF0, continuation, 2⟩)
  else if b = 0xF4 then ([], some ⟨4, ⟨0x80, 0x8F⟩, 2⟩)
  else ([none], none)

/-- A byte that continues a begun character: six more bits of its value. -/
def Begun.advance (p : Begun) (b : UInt8) : Effect :=
  let value := p.value * 64 + (b.toNat - 0x80)
  match p.more with
  | 0 => ([some (Char.ofNat value)], none)
  | n + 1 => ([], some ⟨value, continuation, n⟩)

/-- One byte: it continues the begun character, or ends it as ill-formed and is read anew. -/
def step : Option Begun → UInt8 → Effect
  | none, b => first b
  | some p, b => if p.next.contains b then p.advance b else (none :: (first b).1, (first b).2)

/-- The characters that a machine in the given state reads; a character cut off by the end is ill-formed. -/
def run : Option Begun → List UInt8 → List (Option Char)
  | none, [] => []
  | some _, [] => [none]
  | pending, b :: bs => (step pending b).1 ++ run (step pending b).2 bs

/-- The characters of a byte string, with `none` for each ill-formed part. -/
def characters (bs : List UInt8) : List (Option Char) :=
  run none bs

/-- The text that bytes spell, if every part of them is well formed. -/
def decode? (bs : List UInt8) : Option String :=
  let cs := characters bs
  if cs.all Option.isSome then some (String.ofList (cs.filterMap id)) else none

/-- The character that stands for an ill-formed part. -/
def replacement : Char := '\uFFFD'

/-- The text that bytes spell, with a replacement character for each ill-formed part. -/
def repair (bs : List UInt8) : String :=
  String.ofList ((characters bs).map (·.getD replacement))

theorem encode_append (s t : String) : encode (s ++ t) = encode s ++ encode t := by
  simp [encode]

/-- The number of bytes is the size that the text reports. -/
theorem length_encode (s : String) : (encode s).length = s.utf8ByteSize := by
  have h := congrArg ByteArray.size (String.utf8Encode_toList (b := s))
  simpa [encode, List.utf8Encode] using h

end SymbolRules.Utf8
