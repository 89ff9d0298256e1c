/-
  TestScaffold.Text.ByteString — the names and paths of a system, which are bytes.

  A system keeps a name as it was given: any bytes but a zero and a slash.  Most names are texts in
  UTF-8, and a program that needs a text reads every name as one.  Where the bytes are no UTF-8 that
  reading is lossy: a replacement character stands for what cannot be read.

    * `ByteString` — a string of bytes, ordered as its bytes are;
    * `ByteString.ofText` — the bytes of a text; texts are used as byte strings without further ado;
    * `ByteString.text` — the lossy reading of bytes as a text.
-/

namespace TestScaffold

/-! ## §1. Strings of bytes -/

/-- The bytes of a text. -/
def utf8 (s : String) : List UInt8 :=
  s.toUTF8.data.toList

/-- A string of bytes. -/
structure ByteString where
  /-- The string of a list of bytes. -/
  ofList ::
  /-- Its bytes. -/
  toList : List UInt8
  deriving DecidableEq, Repr, Inhabited

/-- The byte between the names of a path. -/
def slash : UInt8 := 47

/-- The byte before an extension. -/
def dot : UInt8 := 46

namespace ByteString

/-- A text as a string of bytes. -/
def ofText (s : String) : ByteString :=
  ⟨utf8 s⟩

instance : Coe String ByteString := ⟨ofText⟩

instance : Append ByteString := ⟨fun a b => ⟨a.toList ++ b.toList⟩⟩

instance : LT ByteString := ⟨fun a b => a.toList < b.toList⟩

instance (a b : ByteString) : Decidable (a < b) :=
  inferInstanceAs (Decidable (a.toList < b.toList))

/-- Whether there are no bytes. -/
def isEmpty (b : ByteString) : Bool :=
  b.toList.isEmpty

/-- How many bytes there are. -/
def size (b : ByteString) : Nat :=
  b.toList.length

/-! ## §2. The lossy reading -/

/-- A character whose first bytes have been read. -/
structure Pending where
  /-- How many bytes come after the next one. -/
  more : Nat
  /-- The least that the next byte can be. -/
  least : UInt8
  /-- The greatest that the next byte can be. -/
  greatest : UInt8
  /-- What has been read of its number. -/
  value : Nat
  /-- A byte below 128 continues no character. -/
  not_ascii : 0x80 ≤ least
  deriving DecidableEq

/-- What stands for bytes that are no character. -/
def replacement : Char := Char.ofNat 0xFFFD

/-- What a character leaves if no byte continues it. -/
def broken : Option Pending → List Char
  | some _ => [replacement]
  | none => []

/-- A byte that continues no character: a character of its own, the begin of one, or nothing. -/
def start (b : UInt8) : List Char × Option Pending :=
  let low (n : Nat) : Nat := b.toNat % n
  if b < 0x80 then ([Char.ofNat b.toNat], none)
  else if b < 0xC2 then ([replacement], none)
  else if b < 0xE0 then ([], some ⟨0, 0x80, 0xBF, low 32, by decide⟩)
  else if b = 0xE0 then ([], some ⟨1, 0xA0, 0xBF, low 16, by decide⟩)
  else if b = 0xED then ([], some ⟨1, 0x80, 0x9F, low 16, by decide⟩)
  else if b < 0xF0 then ([], some ⟨1, 0x80, 0xBF, low 16, by decide⟩)
  else if b = 0xF0 then ([], some ⟨2, 0x90, 0xBF, low 8, by decide⟩)
  else if b < 0xF4 then ([], some ⟨2, 0x80, 0xBF, low 8, by decide⟩)
  else if b = 0xF4 then ([], some ⟨2, 0x80, 0x8F, low 8, by decide⟩)
  else ([replacement], none)

/-- Reads one byte: the characters that are complete with it, and the one that is not. -/
def readByte (pending : Option Pending) (b : UInt8) : List Char × Option Pending :=
  match pending with
  | some p =>
    if p.least ≤ b ∧ b ≤ p.greatest then
      let value := p.value * 64 + b.toNat % 64
      match p.more with
      | 0 => ([Char.ofNat value], none)
      | more + 1 => ([], some ⟨more, 0x80, 0xBF, value, by decide⟩)
    else
      let (chars, next) := start b
      (replacement :: chars, next)
  | none => start b

/-- Reads bytes from the middle of a character on. -/
def readFrom (pending : Option Pending) : List UInt8 → List Char
  | [] => broken pending
  | b :: bs =>
    let (chars, next) := readByte pending b
    chars ++ readFrom next bs

/-- The bytes read as UTF-8.  Where they are none, a replacement character stands for as many as might
    have begun a character, or else for one. -/
def text (b : ByteString) : String :=
  String.ofList (readFrom none b.toList)

/-- Whether the bytes are those of a text. -/
def isText (b : ByteString) : Bool :=
  b == ofText b.text

end ByteString

end TestScaffold
