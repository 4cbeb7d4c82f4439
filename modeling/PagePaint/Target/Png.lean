import PagePaint.Target.Pixmap

set_option autoImplicit false

/-!
# PNG files

A pixmap is written as an eight-bit straight RGBA image. The pixel data is stored without
compression, which the format allows.
-/

namespace PagePaint.Png

private def bigEndian (value : Nat) : List UInt8 :=
  [UInt8.ofNat (value >>> 24), UInt8.ofNat (value >>> 16), UInt8.ofNat (value >>> 8),
    UInt8.ofNat value]

private def append (bytes : ByteArray) (tail : List UInt8) : ByteArray :=
  tail.foldl ByteArray.push bytes

/-- One entry of the table of the cyclic redundancy check. -/
def checkEntry (index : UInt32) : UInt32 :=
  (List.range 8).foldl
    (fun (value : UInt32) _ =>
      if value &&& 1 = 1 then (0xEDB88320 : UInt32) ^^^ (value >>> 1) else value >>> 1)
    index

def checkTable : Array UInt32 := Array.ofFn (n := 256) fun index => checkEntry index.val.toUInt32

/-- The cyclic redundancy check of a chunk's name and data. -/
def check (bytes : ByteArray) : UInt32 :=
  let final := bytes.foldl
    (fun (value : UInt32) byte =>
      (checkTable[((value ^^^ byte.toUInt32) &&& 0xFF).toNat]?.getD 0) ^^^ (value >>> 8))
    0xFFFFFFFF
  final ^^^ 0xFFFFFFFF

def chunk (name : String) (data : ByteArray) : ByteArray :=
  let body := name.toUTF8 ++ data
  append (append ByteArray.empty (bigEndian data.size) ++ body) (bigEndian (check body).toNat)

def signature : List UInt8 := [0x89, 0x50, 0x4E, 0x47, 0x0D, 0x0A, 0x1A, 0x0A]

/-- Size, eight bits a channel, colour with alpha, no interlacing. -/
def header (width height : UInt32) : ByteArray :=
  chunk "IHDR"
    (append ByteArray.empty
      (bigEndian width.toNat ++ bigEndian height.toNat ++ [8, 6, 0, 0, 0]))

/-- Every row behind the number of its filter, which is none. -/
def scanlines (pixmap : Pixmap) : ByteArray :=
  (List.range pixmap.height.toNat).foldl
    (fun collected index =>
      (pixmap.row index).foldl
        (fun line pixel =>
          let color := pixel.straight
          append line [color.red, color.green, color.blue, color.alpha])
        (collected.push 0))
    ByteArray.empty

/-- The two running sums over a byte sequence, modulo 65521. -/
def runningSums (bytes : ByteArray) : Nat × Nat :=
  bytes.foldl
    (fun sums byte =>
      let low := (sums.1 + byte.toNat) % 65521
      (low, (sums.2 + low) % 65521))
    (1, 0)

/-- The largest stored block. -/
def blockSize : Nat := 65535

/-- A data stream of stored blocks. An empty stream is one empty block. -/
def storedStream (data : ByteArray) : ByteArray :=
  let count := max 1 ((data.size + blockSize - 1) / blockSize)
  let blocks := (List.range count).foldl
    (fun collected index =>
      let part := data.extract (index * blockSize) ((index + 1) * blockSize)
      let last : UInt8 := if index + 1 = count then 1 else 0
      let length := part.size
      let complement := 65535 - length
      append collected
        [last, UInt8.ofNat length, UInt8.ofNat (length / 256), UInt8.ofNat complement,
          UInt8.ofNat (complement / 256)] ++ part)
    (append ByteArray.empty [0x78, 0x01])
  let (low, high) := runningSums data
  append blocks (bigEndian (high * 65536 + low))

def opening (pixmap : Pixmap) : ByteArray :=
  append ByteArray.empty signature ++ header pixmap.width pixmap.height

def encode (pixmap : Pixmap) : ByteArray :=
  opening pixmap ++ chunk "IDAT" (storedStream (scanlines pixmap)) ++
    chunk "IEND" ByteArray.empty

end PagePaint.Png
