import Refactory.Fault
import Refactory.Text.Lower

/-! # Encodings

How text is stored in bytes. Files are read and written through a codec, which is found by its name.
Which names have a codec, and what it does, is a parameter of all that touches files (`Codecs`); four
encodings are defined here and stand in for it where nothing else is given (`Codecs.common`).
Reading turns every line end into a line feed; writing changes nothing.

* `Codec`: what a file in an encoding holds, and what there is to know about its faults.
* `Encoding.encode`, `Encoding.decode`: the four encodings, from text to bytes and back.
* `Text.unifyNewlines`: line ends of all kinds as line feeds. -/

namespace Refactory

/-- The contents of a file. -/
abbrev Bytes := List UInt8

/-! ## Codecs -/

/-- An encoding as files see it. -/
structure Codec where
  /-- Whether it is between text and bytes; some codecs are not, and no file of text can have them. -/
  isText : Bool := true
  /-- The text that bytes store. -/
  decode : Bytes → Except FileFault Text
  /-- The bytes that store a text. -/
  encode : Text → Except FileFault Bytes
  /-- The bytes of a file to which a text has been written. They can be less than those that store the
  text, since a codec can wait for the end of what it has begun and is never told of it. -/
  write : Text → Except FileFault Bytes
  decode_fault : ∀ {bytes : Bytes} {f : FileFault}, decode bytes = .error f → f.isOfDecoding = true
  write_fault : ∀ {t : Text} {f : FileFault}, write t = .error f → f.isOfEncoding = true

/-- The codecs that there are, by their names. -/
class Codecs where
  find? : Text → Option Codec

/-- The codec of files of text in an encoding. -/
def Codecs.named [Codecs] (name : Text) : Except FileFault Codec :=
  match Codecs.find? name with
  | none => .error (.unknownEncoding name)
  | some c => if c.isText then .ok c else .error (.notOfText name)

/-! ## Four encodings -/

/-- The encodings that are defined here. -/
inductive Encoding
  | utf8
  /-- UTF-8 after a byte order mark. -/
  | utf8Marked
  | ascii
  | latin1
deriving DecidableEq, Inhabited

namespace Encoding

/-- The names of an encoding, in small letters and with underscores. -/
def names : Encoding → List Text
  | utf8 => ["utf_8", "utf8", "u8", "utf", "utf8_ucs2", "utf8_ucs4", "cp65001"]
  | utf8Marked => ["utf_8_sig"]
  | ascii => ["ascii", "us_ascii", "646", "ansi_x3.4_1968", "ansi_x3_4_1968", "ansi_x3.4_1986",
      "cp367", "csascii", "ibm367", "iso646_us", "iso_646.irv_1991", "iso_ir_6", "us"]
  | latin1 => ["latin_1", "latin1", "iso8859_1", "iso_8859_1", "iso8859", "8859", "cp819",
      "csisolatin1", "ibm819", "iso_8859_1_1987", "iso_ir_100", "l1", "latin"]

/-- The encoding of a name; case, hyphens and blanks do not matter. -/
def named? (t : Text) : Option Encoding :=
  let key : Text := t.lower.map fun c : CodePoint => if c = '-' ∨ c = ' ' then '_' else c
  [utf8, utf8Marked, ascii, latin1].find? (·.names.contains key)

/-! ## Writing -/

/-- The byte order mark. -/
def mark : Bytes := [0xEF, 0xBB, 0xBF]

/-- The bytes of a code point in UTF-8. -/
def utf8Bytes (c : CodePoint) : Bytes :=
  let n := c.val
  let tail (shift : Nat) : UInt8 := UInt8.ofNat (0x80 + (n >>> shift) % 0x40)
  if n < 0x80 then [UInt8.ofNat n]
  else if n < 0x800 then [UInt8.ofNat (0xC0 + n / 0x40), tail 0]
  else if n < 0x10000 then [UInt8.ofNat (0xE0 + n / 0x1000), tail 6, tail 0]
  else [UInt8.ofNat (0xF0 + n / 0x40000), tail 12, tail 6, tail 0]

/-- UTF-8 writes all but surrogates. -/
def encodeUtf8 (t : Text) : Except FileFault Bytes :=
  match t.firstRun CodePoint.isSurrogate with
  | some (first, start, stop) =>
    .error (.unencodable "utf-8" first start stop "surrogates not allowed")
  | none => .ok (t.flatMap utf8Bytes)

/-- One byte for each code point below a limit. -/
def encodeBelow (limit : Nat) (codec : Text) (t : Text) : Except FileFault Bytes :=
  match t.firstRun (limit ≤ ·.val) with
  | some (first, start, stop) =>
    .error (.unencodable codec first start stop (DecodeReason.outOfRange limit).message)
  | none => .ok (t.map fun c => UInt8.ofNat c.val)

/-- The bytes of a text. -/
def encode : Encoding → Text → Except FileFault Bytes
  | utf8, t => encodeUtf8 t
  | utf8Marked, t => (encodeUtf8 t).map (mark ++ ·)
  | ascii, t => encodeBelow 128 "ascii" t
  | latin1, t => encodeBelow 256 "latin-1" t

/-! ## Reading -/

/-- Whether a byte continues a sequence. -/
def continues (b : UInt8) : Bool := 0x80 ≤ b && b < 0xC0

/-- The bounds of the second byte of a sequence that begins with `b`, which rule out overlong forms,
surrogates and numbers past the last code point. -/
def secondInRange (b second : UInt8) : Bool :=
  continues second &&
    (b != 0xE0 || 0xA0 ≤ second) && (b != 0xED || second < 0xA0) &&
    (b != 0xF0 || 0x90 ≤ second) && (b != 0xF4 || second < 0x90)

/-- The code point of a lead byte, with its first `bits` dropped, and continuation bytes. -/
def assemble (lead : UInt8) (dropped : Nat) (rest : Bytes) : CodePoint :=
  let n := rest.foldl (fun n b => n * 0x40 + (b.toNat - 0x80)) (lead.toNat - dropped)
  .scalar (Char.ofNat n)

/-- Reads UTF-8 from the byte at `pos` on. -/
def decodeUtf8 (pos : Nat) : Bytes → Except FileFault Text
  | [] => .ok []
  | b :: rest =>
    let stop (length : Nat) (reason : DecodeReason) : Except FileFault Text :=
      .error (.undecodable "utf-8" b.toNat pos (pos + length) reason)
    if b < 0x80 then do
      return .scalar (Char.ofNat b.toNat) :: (← decodeUtf8 (pos + 1) rest)
    else if b < 0xC2 || 0xF5 ≤ b then stop 1 .invalidStart
    else if b < 0xE0 then
      match rest with
      | [] => stop 1 .unexpectedEnd
      | c :: rest =>
        if !continues c then stop 1 .invalidContinuation
        else do return assemble b 0xC0 [c] :: (← decodeUtf8 (pos + 2) rest)
    else if b < 0xF0 then
      match rest with
      | [] => stop 1 .unexpectedEnd
      | [c] => if !secondInRange b c then stop 1 .invalidContinuation else stop 2 .unexpectedEnd
      | c :: d :: rest =>
        if !secondInRange b c then stop 1 .invalidContinuation
        else if !continues d then stop 2 .invalidContinuation
        else do return assemble b 0xE0 [c, d] :: (← decodeUtf8 (pos + 3) rest)
    else
      match rest with
      | [] => stop 1 .unexpectedEnd
      | [c] => if !secondInRange b c then stop 1 .invalidContinuation else stop 2 .unexpectedEnd
      | [c, d] =>
        if !secondInRange b c then stop 1 .invalidContinuation
        else if !continues d then stop 2 .invalidContinuation
        else stop 3 .unexpectedEnd
      | c :: d :: e :: rest =>
        if !secondInRange b c then stop 1 .invalidContinuation
        else if !continues d then stop 2 .invalidContinuation
        else if !continues e then stop 3 .invalidContinuation
        else do return assemble b 0xF0 [c, d, e] :: (← decodeUtf8 (pos + 4) rest)

/-- Reads one code point from each byte below a limit. -/
def decodeBelow (limit : Nat) (codec : Text) (pos : Nat) : Bytes → Except FileFault Text
  | [] => .ok []
  | b :: rest =>
    if b.toNat < limit then do
      return .scalar (Char.ofNat b.toNat) :: (← decodeBelow limit codec (pos + 1) rest)
    else .error (.undecodable codec b.toNat pos (pos + 1) (.outOfRange limit))

/-- The text that bytes store. Positions count from after the byte order mark; a mark cut short
holds no text. -/
def decode : Encoding → Bytes → Except FileFault Text
  | utf8, bytes => decodeUtf8 0 bytes
  | utf8Marked, bytes =>
    if bytes.length < mark.length ∧ bytes.isPrefixOf mark then .ok []
    else if mark.isPrefixOf bytes then decodeUtf8 0 (bytes.drop mark.length)
    else decodeUtf8 0 bytes
  | ascii, bytes => decodeBelow 128 "ascii" 0 bytes
  | latin1, bytes => decodeBelow 256 "latin-1" 0 bytes

/-! ## Their faults -/

/-- What follows a first part fails only if its rest does. -/
theorem fault_of_cons {r : Except FileFault Text} {c : CodePoint} {f : FileFault}
    (h : (do return c :: (← r)) = (.error f : Except FileFault Text)) : r = .error f := by
  cases r with
  | ok t => cases h
  | error g =>
    cases h
    rfl

theorem decodeUtf8_fault {pos : Nat} {bytes : Bytes} {f : FileFault}
    (h : decodeUtf8 pos bytes = .error f) : f.isOfDecoding = true := by
  fun_induction decodeUtf8 pos bytes
  case case1 => cases h
  case case2 ih | case6 ih | case12 ih | case22 ih => exact ih (fault_of_cons h)
  -- In all other cases reading stops here.
  all_goals
    cases h
    rfl

theorem decodeBelow_fault {limit : Nat} {codec : Text} {pos : Nat} {bytes : Bytes} {f : FileFault}
    (h : decodeBelow limit codec pos bytes = .error f) : f.isOfDecoding = true := by
  fun_induction decodeBelow limit codec pos bytes with
  | case1 => cases h
  | case2 pos b rest hb ih => exact ih (fault_of_cons h)
  | case3 pos b rest hb =>
    cases h
    rfl

theorem decode_fault {e : Encoding} {bytes : Bytes} {f : FileFault} (h : e.decode bytes = .error f) :
    f.isOfDecoding = true := by
  cases e with
  | utf8 => exact decodeUtf8_fault h
  | utf8Marked =>
    rw [decode] at h
    split at h
    · cases h
    · split at h <;> exact decodeUtf8_fault h
  | ascii => exact decodeBelow_fault h
  | latin1 => exact decodeBelow_fault h

theorem encodeUtf8_fault {t : Text} {f : FileFault} (h : encodeUtf8 t = .error f) :
    f.isOfEncoding = true := by
  unfold encodeUtf8 at h
  split at h <;> cases h
  rfl

theorem encodeBelow_fault {limit : Nat} {codec t : Text} {f : FileFault}
    (h : encodeBelow limit codec t = .error f) : f.isOfEncoding = true := by
  unfold encodeBelow at h
  split at h <;> cases h
  rfl

theorem encode_fault {e : Encoding} {t : Text} {f : FileFault} (h : e.encode t = .error f) :
    f.isOfEncoding = true := by
  cases e with
  | utf8 => exact encodeUtf8_fault h
  | utf8Marked =>
    rw [encode] at h
    cases hbytes : encodeUtf8 t with
    | ok bytes =>
      rw [hbytes] at h
      cases h
    | error f' =>
      rw [hbytes] at h
      cases h
      exact encodeUtf8_fault hbytes
  | ascii => exact encodeBelow_fault h
  | latin1 => exact encodeBelow_fault h

/-- The codec of an encoding that is defined here. Nothing is held back. -/
def codec (e : Encoding) : Codec where
  decode := e.decode
  encode := e.encode
  write := e.encode
  decode_fault := e.decode_fault
  write_fault := e.encode_fault

end Encoding

/-- The codecs of the encodings that are defined here. -/
instance Codecs.common : Codecs := ⟨fun name => (Encoding.named? name).map Encoding.codec⟩

/-- A text with every line end as a line feed. -/
def Text.unifyNewlines : Text → Text
  | [] => []
  | .scalar '\r' :: .scalar '\n' :: rest => .scalar '\n' :: unifyNewlines rest
  | .scalar '\r' :: rest => .scalar '\n' :: unifyNewlines rest
  | c :: rest => c :: unifyNewlines rest

end Refactory
