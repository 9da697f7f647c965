import UsbSerial.Eeprom.Codec

/-! Images written and read in place, in one buffer of 256 bytes: fixed addresses as they are, and
those that a cursor or a pointer leads to wrapped around by the mask of the size. -/

namespace UsbSerial.Eeprom

namespace Size

def mask (s : Size) : Nat := s.bytes - 1

theorem and_mask_lt (s : Size) (address : Nat) : address &&& s.mask < 256 := by
  have hand : address &&& s.mask ≤ s.mask := Nat.and_le_right
  have hbytes := s.bytes_le
  rw [mask] at hand ⊢
  omega

theorem words_le (s : Size) : s.words ≤ 128 := by cases s <;> decide

end Size

def Buffer := Vector UInt8 256

namespace Buffer

def list (b : Buffer) : List UInt8 := Vector.toList b

def zeros : Buffer := Vector.replicate 256 0

def byte (b : Buffer) (address : Fin 256) : UInt8 := Vector.get b address

def word (b : Buffer) (address : Fin 255) : UInt16 :=
  Word.ofBytes (b.byte ⟨address, by omega⟩) (b.byte ⟨address + 1, by omega⟩)

def put (address : Fin 256) (byte : UInt8) (b : Buffer) : Buffer := Vector.set b address byte

def mark (address : Fin 256) (mask : UInt8) (on : Bool) (b : Buffer) : Buffer :=
  if on then b.put address (b.byte address ||| mask) else b

def putWord (address : Fin 128) (w : UInt16) (b : Buffer) : Buffer :=
  (b.put ⟨2 * address, by omega⟩ (Word.low w)).put ⟨2 * address + 1, by omega⟩ (Word.high w)

def wrapped (size : Size) (b : Buffer) (address : Nat) : UInt8 :=
  b.byte ⟨address &&& size.mask, size.and_mask_lt address⟩

def bytes (size : Size) (b : Buffer) : List UInt8 := b.list.take size.bytes

def sumFrom (sum : UInt16) : List UInt8 → UInt16
  | low :: high :: bytes => sumFrom (Word.rotateLeft (sum ^^^ Word.ofBytes low high)) bytes
  | _ => sum

def checksum (size : Size) (b : Buffer) : UInt16 :=
  sumFrom Image.checksumSeed (b.list.take (size.bytes - 2))

def storedChecksum (size : Size) (b : Buffer) : UInt16 :=
  b.word ⟨2 * (size.words - 1), by have := size.words_le; omega⟩

end Buffer

def Image.raw (img : Image) : Buffer := img.buffer

/-- Writes one byte behind the other; addresses beyond the size wrap around. -/
structure Cursor where
  buffer : Buffer
  size : Size
  position : Nat

namespace Cursor

def put (byte : UInt8) (c : Cursor) : Cursor where
  buffer := c.buffer.put ⟨c.position &&& c.size.mask, c.size.and_mask_lt c.position⟩ byte
  size := c.size
  position := c.position + 1

def putText (text : String) (c : Cursor) : UInt8 × Cursor :=
  let length := (text.utf8ByteSize * 2 + 2).toUInt8
  let c := (c.put length).put Texts.descriptorType
  (length, text.toUTF8.data.toList.foldl (fun c byte => (c.put byte).put 0) c)

def putSlot (slot : Fin 3) (text : Option String) (c : Cursor) : (UInt8 × UInt8) × Cursor :=
  let start := c.position.toUInt8 ||| if slot = 0 then 0 else 0x80
  match text with
  | none => ((start, 0), c)
  | some text =>
      let (length, c) := c.putText text
      ((start, length), c)

def putSlots (c : Cursor) : List (Fin 3 × Option String) → List (Fin 3 × UInt8 × UInt8) × Cursor
  | [] => ([], c)
  | (slot, text) :: slots =>
      let (entry, c) := c.putSlot slot text
      let (entries, c) := putSlots c slots
      ((slot, entry) :: entries, c)

def putBlock (chip : Chip) (notPlugAndPlay : Bool) (c : Cursor) : Cursor :=
  if Texts.hasBlock chip then
    ((c.put 0x02).put 0x03).put (if notPlugAndPlay then 1 else 0)
  else c

end Cursor

namespace Settings

def putShared (s : Settings) (b : Buffer) : Buffer :=
  b.putWord 1 s.vendor |>.putWord 2 s.product |>.putWord 3 s.release
    |>.put 0x08 (Header.attributes s) |>.put 0x09 (Header.power s)

def putFeatures (chip : Chip) (s : Settings) (b : Buffer) : Buffer :=
  if chip = .am then b
  else
    b.mark 0x0A 0x01 s.isochronousIn |>.mark 0x0A 0x02 s.isochronousOut
      |>.mark 0x0A 0x04 s.suspendPullDowns |>.mark 0x0A 0x08 s.useSerial
      |>.mark 0x0A 0x10 (s.useUsbVersion && (chip = .bm || chip = .ft2232C))

def putEntry (b : Buffer) : Fin 3 × UInt8 × UInt8 → Buffer
  | (slot, start, length) =>
      b.put ⟨0x0E + 2 * slot, by omega⟩ start |>.put ⟨0x0F + 2 * slot, by omega⟩ length

def putDrives (s : Settings) (b : Buffer) : Buffer :=
  let n := s.drives.map Drive.nibble
  b.put 0x0C (n[0] ||| (n[1] <<< 4)) |>.put 0x0D (n[2] ||| (n[3] <<< 4))

def putCbus (s : Settings) (b : Buffer) : Buffer :=
  let n := s.cbus.map (· &&& 0x0F)
  b.put 0x14 (n[0] ||| (n[1] <<< 4)) |>.put 0x15 (n[2] ||| (n[3] <<< 4)) |>.put 0x16 n[4]

def putDrivers (s : Settings) (b : Buffer) : Buffer :=
  (List.finRange 4).foldl
    (fun b (port : Fin 4) =>
      b.mark ⟨port % 2, by omega⟩ ((0x08 : UInt8) <<< (4 * (port.val / 2)).toUInt8)
        s.serialDriver[port])
    b

def putRs485 (s : Settings) (b : Buffer) : Buffer :=
  (List.finRange 4).foldl
    (fun b (port : Fin 4) => b.mark 0x0B ((0x10 : UInt8) <<< port.val.toUInt8) s.rs485[port]) b

def putOwn (chip : Chip) (s : Settings) (b : Buffer) : Buffer :=
  match chip with
  | .am => b
  | .bm => b.putWord 6 s.usbVersion
  | .ft2232C =>
      b.put 0 (s.channelTypeA &&& 0x07) |>.put 1 (s.channelTypeB &&& 0x07)
        |>.mark 0 0x08 s.serialDriver[0] |>.mark 0 0x10 s.highCurrentA
        |>.mark 1 0x08 s.serialDriver[1] |>.mark 1 0x10 s.highCurrentB
        |>.putWord 6 s.usbVersion |>.put 0x14 (s.part.getD 0)
  | .ft232R =>
      b.put 0 0 |>.mark 0 0x04 s.highCurrent |>.mark 0 0x08 (!s.serialDriver[0])
        |>.mark 0 0x02 s.externalOscillator |>.put 1 0x40 |>.put 0x0B s.inverted
        |>.putWord 6 s.usbVersion |> s.putCbus
  | .ft2232H =>
      b.put 0 (s.channelTypeA &&& 0x07) |>.put 1 (s.channelTypeB &&& 0x07)
        |>.mark 0 0x08 s.serialDriver[0] |>.mark 1 0x08 s.serialDriver[1]
        |>.mark 1 0x80 s.suspendDbus7 |> s.putDrives |>.put 0x18 (s.part.getD 0)
  | .ft4232H =>
      s.putDrives (s.putRs485 (s.putDrivers b)) |>.put 0x18 (s.part.getD 0)

def slots (s : Settings) : List (Fin 3 × Option String) :=
  [(0, s.manufacturerText), (1, s.productText), (2, s.serialText)]

def cursor (chip : Chip) (size : Size) (s : Settings) : Cursor where
  buffer := s.putFeatures chip (s.putShared .zeros)
  size
  position := Texts.start chip

def described (chip : Chip) (size : Size) (s : Settings) :
    List (Fin 3 × UInt8 × UInt8) × Cursor :=
  let (entries, c) := (s.cursor chip size).putSlots s.slots
  (entries, c.putBlock chip s.notPlugAndPlay)

def written (chip : Chip) (size : Size) (s : Settings) : Buffer :=
  let (entries, c) := s.described chip size
  s.putOwn chip (entries.foldl putEntry c.buffer)

def sealed (chip : Chip) (size : Size) (b : Buffer) : Image where
  chip
  size
  buffer := b.putWord ⟨size.words - 1, by have := size.words_le; omega⟩ (b.checksum size)

def textBytes (s : Settings) : Nat :=
  (s.texts.filterMap id).foldr (fun text bytes => text.utf8ByteSize * 2 + 2 + bytes) 0

def write (chip : Chip) (s : Settings) : Except Error Image :=
  match s.imageSize? chip with
  | none => .error (.invalidArgument .eepromSize)
  | some size =>
      let front := Texts.start chip &&& size.mask
      let footprint := s.textBytes + if Texts.hasBlock chip then 3 else 0
      if s.texts.any (·.any fun text => !Texts.isAscii text) then
        .error (.invalidArgument .eepromTexts)
      else if size.bytes - 2 < front + footprint then
        .error (.eepromFull footprint (size.bytes - 2 - front))
      else .ok (sealed chip size (s.written chip size))

end Settings

namespace Reader

theorem slotIndex_le (slot : Slot) : Texts.slotIndex slot ≤ 2 := by cases slot <;> decide

def length (b : Buffer) (slot : Slot) : Nat :=
  (b.byte ⟨0x0F + 2 * Texts.slotIndex slot, by have := slotIndex_le slot; omega⟩).toNat

def start (size : Size) (b : Buffer) (slot : Slot) : Nat :=
  (b.byte ⟨0x0E + 2 * Texts.slotIndex slot, by have := slotIndex_le slot; omega⟩).toNat &&&
    size.mask

theorem start_lt (size : Size) (b : Buffer) (slot : Slot) : start size b slot < 256 :=
  size.and_mask_lt _

def text (size : Size) (b : Buffer) (slot : Slot) : Except ImageFault (Option String) :=
  let len := length b slot
  let first := start size b slot
  if len = 0 then .ok none
  else if len < 2 ∨ len % 2 ≠ 0 ∨ size.bytes - 2 < len then .error (.textLength slot len)
  else if (b.byte ⟨first, start_lt size b slot⟩).toNat ≠ len ∨
      b.wrapped size (first + 1) ≠ Texts.descriptorType then
    .error (.descriptor slot first)
  else
    let characters := (List.range ((len - 2) / 2)).map fun j =>
      Char.ofNat (b.wrapped size (first + 2 + 2 * j)).toNat
    .ok (some (String.ofList characters))

def notPlugAndPlay (chip : Chip) (size : Size) (b : Buffer) : Bool :=
  let present := [Slot.manufacturer, .product, .serial].filter fun slot => length b slot ≠ 0
  let ends := present.map fun slot => start size b slot + length b slot
  b.wrapped size (ends.max?.getD (Texts.start chip &&& size.mask) + 2) != 0

def drives (b : Buffer) : Vector Drive 4 :=
  #v[.ofNibble (b.byte 0x0C &&& 0x0F), .ofNibble (b.byte 0x0C >>> 4),
    .ofNibble (b.byte 0x0D &&& 0x0F), .ofNibble (b.byte 0x0D >>> 4)]

def shared (size : Size) (b : Buffer) (manufacturer product serial : Option String) :
    Settings where
  vendor := b.word 0x02
  product := b.word 0x04
  release := b.word 0x06
  selfPowered := hasFlag (b.byte 0x08) 0x40
  remoteWakeup := hasFlag (b.byte 0x08) 0x20
  maxPower := (b.byte 0x09).toUInt16 * 2
  manufacturerText := manufacturer
  productText := product
  serialText := serial
  size := size.bytes

def features (chip : Chip) (b : Buffer) (s : Settings) : Settings :=
  if chip = .am then s
  else
    { s with
      isochronousIn := hasFlag (b.byte 0x0A) 0x01
      isochronousOut := hasFlag (b.byte 0x0A) 0x02
      suspendPullDowns := hasFlag (b.byte 0x0A) 0x04
      useSerial := hasFlag (b.byte 0x0A) 0x08
      useUsbVersion := hasFlag (b.byte 0x0A) 0x10 }

def block (chip : Chip) (size : Size) (b : Buffer) (s : Settings) : Settings :=
  if chip = .am ∨ chip = .bm then s
  else { s with notPlugAndPlay := notPlugAndPlay chip size b }

def drivers (b : Buffer) : Vector Bool 4 :=
  .ofFn fun port : Fin 4 =>
    hasFlag (b.byte ⟨port % 2, by omega⟩ >>> (4 * (port.val / 2)).toUInt8) 0x08

def own (chip : Chip) (b : Buffer) (s : Settings) : Settings :=
  match chip with
  | .am => s
  | .bm => { s with usbVersion := b.word 0x0C }
  | .ft2232C =>
      { s with
        channelTypeA := b.byte 0 &&& 0x07
        channelTypeB := b.byte 1 &&& 0x07
        serialDriver :=
          (s.serialDriver.set 0 (hasFlag (b.byte 0) 0x08)).set 1 (hasFlag (b.byte 1) 0x08)
        highCurrentA := hasFlag (b.byte 0) 0x10
        highCurrentB := hasFlag (b.byte 1) 0x10
        usbVersion := b.word 0x0C
        part := some (b.byte 0x14) }
  | .ft232R =>
      { s with
        serialDriver := s.serialDriver.set 0 (!hasFlag (b.byte 0) 0x08)
        highCurrent := hasFlag (b.byte 0) 0x04
        externalOscillator := hasFlag (b.byte 0) 0x02
        inverted := b.byte 0x0B
        usbVersion := b.word 0x0C
        cbus := #v[b.byte 0x14 &&& 0x0F, b.byte 0x14 >>> 4, b.byte 0x15 &&& 0x0F,
          b.byte 0x15 >>> 4, b.byte 0x16 &&& 0x0F] }
  | .ft2232H =>
      { s with
        channelTypeA := b.byte 0 &&& 0x07
        channelTypeB := b.byte 1 &&& 0x07
        serialDriver :=
          (s.serialDriver.set 0 (hasFlag (b.byte 0) 0x08)).set 1 (hasFlag (b.byte 1) 0x08)
        suspendDbus7 := hasFlag (b.byte 1) 0x80
        drives := drives b
        part := some (b.byte 0x18) }
  | .ft4232H =>
      { s with
        serialDriver := drivers b
        rs485 := .ofFn fun port : Fin 4 =>
          hasFlag (b.byte 0x0B) ((0x10 : UInt8) <<< port.val.toUInt8)
        drives := drives b
        part := some (b.byte 0x18) }

def settings (chip : Chip) (size : Size) (b : Buffer) : Except ImageFault Settings := do
  let manufacturer ← text size b .manufacturer
  let product ← text size b .product
  let serial ← text size b .serial
  let s := features chip b (shared size b manufacturer product serial)
  return own chip b (block chip size b s)

end Reader

def Image.decodeInPlace (img : Image) : Except Error Decoded :=
  let stored := img.raw.storedChecksum img.size
  let computed := img.raw.checksum img.size
  if (img.raw.bytes img.size).all (· = 0xFF) then .error (.image .blank)
  else if computed ≠ stored then .error (.checksum stored computed)
  else
    match Reader.settings img.chip img.size img.raw with
    | .error fault => .error (.image fault)
    | .ok settings => .ok { image := img, settings }

end UsbSerial.Eeprom
