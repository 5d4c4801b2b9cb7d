import ComponentFile.Text.Basic

/-!
# Texts as bytes

Offsets into a component file count the bytes of its UTF-8 form, and files and programs exchange
bytes.  This file measures and cuts texts by bytes, encodes them, and decodes bytes strictly,
naming the place of the first fault, or leniently, with a replacement character for each fault.

## Main definitions

* `Text.byteLength`, `Text.splitBytes?`, `Text.slice?` : offsets in bytes.
* `Text.encode` : the UTF-8 form of a text.
* `Text.decode`, `Text.decodeLossy` : reading bytes as UTF-8.

## Main results

* `Text.splitBytes?_append` : a text is cut where its first part ends.
-/

namespace ComponentFile

/-- A sequence of bytes. -/
abbrev Bytes := List UInt8

namespace Text

/-! ### Offsets -/

/-- The number of bytes of the UTF-8 form. -/
def byteLength : Text → Nat
  | [] => 0
  | c :: t => c.utf8Size + byteLength t

@[simp] theorem byteLength_nil : byteLength [] = 0 := rfl

@[simp] theorem byteLength_cons (c : Char) (t : Text) :
    byteLength (c :: t) = c.utf8Size + byteLength t := rfl

@[simp] theorem byteLength_append (s t : Text) :
    byteLength (s ++ t) = byteLength s + byteLength t := by
  induction s with
  | nil => simp
  | cons c s ih => simp [ih, Nat.add_assoc]

/-- The text before and the text behind a byte offset; `none` beyond the end of the text and
inside a character. -/
def splitBytes? : Nat → Text → Option (Text × Text)
  | 0, t => some ([], t)
  | _ + 1, [] => none
  | n + 1, c :: t =>
    if c.utf8Size ≤ n + 1 then
      (splitBytes? (n + 1 - c.utf8Size) t).map fun parts => (c :: parts.1, parts.2)
    else none

/-- A text is cut where its first part ends. -/
@[simp] theorem splitBytes?_append (s t : Text) :
    splitBytes? (byteLength s) (s ++ t) = some (s, t) := by
  induction s with
  | nil => simp [splitBytes?]
  | cons c s ih =>
    have hc : 0 < c.utf8Size := Char.utf8Size_pos c
    obtain ⟨n, hn⟩ : ∃ n, byteLength (c :: s) = n + 1 :=
      ⟨byteLength (c :: s) - 1, by simp only [byteLength_cons]; omega⟩
    have hle : c.utf8Size ≤ n + 1 := by rw [← hn, byteLength_cons]; omega
    have hsub : n + 1 - c.utf8Size = byteLength s := by rw [← hn, byteLength_cons]; omega
    rw [hn, List.cons_append, splitBytes?, if_pos hle, hsub, ih]
    rfl

/-- The text from byte offset `start` to byte offset `stop`; `none` when the offsets are out of
order, out of range or inside a character. -/
def slice? (t : Text) (start stop : Nat) : Option Text := do
  let (head, _) ← splitBytes? stop t
  let (_, middle) ← splitBytes? start head
  return middle

/-! ### Encoding -/

/-- The UTF-8 form of a text. -/
def encode (t : Text) : Bytes :=
  t.flatMap String.utf8EncodeChar

@[simp] theorem encode_nil : encode [] = [] := rfl

@[simp] theorem encode_append (s t : Text) : encode (s ++ t) = encode s ++ encode t :=
  List.flatMap_append

/-! ### Decoding -/

/-- A character of which some bytes have been read: its bits so far, the number of bytes read, the
number of bytes still to come, and the bounds of the next one. -/
structure Unfinished where
  bits : Nat
  read : Nat
  missing : Nat
  low : UInt8
  high : UInt8

/-- What a byte does: it ends a character, leaves one unfinished, or cannot stand here. -/
inductive ByteRole where
  | character (c : Char)
  | unfinished (u : Unfinished)
  | misplaced

/-- The role of a byte at the start of a character. -/
def leadRole (b : UInt8) : ByteRole :=
  if b < 0x80 then .character (Char.ofNat b.toNat)
  else if b < 0xC2 then .misplaced
  else if b < 0xE0 then .unfinished ⟨b.toNat - 0xC0, 1, 1, 0x80, 0xBF⟩
  else if b < 0xF0 then
    .unfinished ⟨b.toNat - 0xE0, 1, 2, if b = 0xE0 then 0xA0 else 0x80,
      if b = 0xED then 0x9F else 0xBF⟩
  else if b < 0xF5 then
    .unfinished ⟨b.toNat - 0xF0, 1, 3, if b = 0xF0 then 0x90 else 0x80,
      if b = 0xF4 then 0x8F else 0xBF⟩
  else .misplaced

/-- The role of a byte inside an unfinished character. -/
def Unfinished.role (u : Unfinished) (b : UInt8) : ByteRole :=
  if u.low ≤ b ∧ b ≤ u.high then
    let bits := u.bits * 64 + (b.toNat - 0x80)
    if u.missing ≤ 1 then .character (Char.ofNat bits)
    else .unfinished ⟨bits, u.read + 1, u.missing - 1, 0x80, 0xBF⟩
  else .misplaced

/-- The first fault of a byte sequence: the number of good bytes before it, and the length of the
faulty part; no length when the sequence ends inside a character. -/
structure Malformed where
  validUpTo : Nat
  faultLength : Option Nat
  deriving DecidableEq, Repr

/-- The wording of a fault. -/
def Malformed.message (m : Malformed) : Text :=
  match m.faultLength with
  | some n => s!"invalid utf-8 sequence of {n} bytes from index {m.validUpTo}".toList
  | none => s!"incomplete utf-8 byte sequence from index {m.validUpTo}".toList

/-- Read on after the characters `done`, given in reverse, which take `index` bytes. -/
def decodeFrom (done : Text) (index : Nat) : Option Unfinished → Bytes → Except Malformed Text
  | none, [] => .ok done.reverse
  | some _, [] => .error ⟨index, none⟩
  | none, b :: bs =>
    match leadRole b with
    | .character c => decodeFrom (c :: done) (index + 1) none bs
    | .unfinished u => decodeFrom done index (some u) bs
    | .misplaced => .error ⟨index, some 1⟩
  | some u, b :: bs =>
    match u.role b with
    | .character c => decodeFrom (c :: done) (index + u.read + 1) none bs
    | .unfinished u' => decodeFrom done index (some u') bs
    | .misplaced => .error ⟨index, some u.read⟩

/-- The text whose UTF-8 form the bytes are, or the first fault. -/
def decode (bytes : Bytes) : Except Malformed Text :=
  decodeFrom [] 0 none bytes

/-- The character that stands for a faulty part. -/
def replacement : Char := '\ufffd'

/-- Read on leniently after the characters `done`, given in reverse. -/
def decodeLossyFrom (done : Text) : Option Unfinished → Bytes → Text
  | none, [] => done.reverse
  | some _, [] => (replacement :: done).reverse
  | none, b :: bs =>
    match leadRole b with
    | .character c => decodeLossyFrom (c :: done) none bs
    | .unfinished u => decodeLossyFrom done (some u) bs
    | .misplaced => decodeLossyFrom (replacement :: done) none bs
  | some u, b :: bs =>
    match u.role b, leadRole b with
    | .character c, _ => decodeLossyFrom (c :: done) none bs
    | .unfinished u', _ => decodeLossyFrom done (some u') bs
    | .misplaced, .character c => decodeLossyFrom (c :: replacement :: done) none bs
    | .misplaced, .unfinished u' => decodeLossyFrom (replacement :: done) (some u') bs
    | .misplaced, .misplaced => decodeLossyFrom (replacement :: replacement :: done) none bs

/-- The bytes read as UTF-8, with a replacement character for each faulty part. -/
def decodeLossy (bytes : Bytes) : Text :=
  decodeLossyFrom [] none bytes

end Text

end ComponentFile
