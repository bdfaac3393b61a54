import SiteBuilder.Site.Archive

/-!
# The bytes of an archive

An archive is written as a zip file: for every entry a header and its packed bytes, then a directory of
all entries, and at the end where the directory is. Entries are packed as blocks that hold their bytes
unchanged, which every reader of packed bytes takes. No field is wider than in the first version of the
format, so an archive has at most 65535 entries and 4 GiB.
-/

namespace SiteBuilder.Zip

/-- A number in a given count of bytes, the lowest byte first. -/
def littleEndian : (width n : Nat) → List UInt8
  | 0, _ => []
  | width + 1, n => .ofNat (n % 256) :: littleEndian width (n / 256)

/-- A number has as many bytes as are asked for. -/
@[simp] theorem length_littleEndian (width n : Nat) : (littleEndian width n).length = width := by
  induction width generalizing n with
  | zero => rfl
  | succ width ih => simp [littleEndian, ih]

/-- The most bytes of a block. -/
def blockSize : Nat := 65535

/-- A block of bytes as they are. -/
def block (isLast : Bool) (bytes : List UInt8) : List UInt8 :=
  (if isLast then 1 else 0) :: littleEndian 2 bytes.length ++ littleEndian 2 (blockSize - bytes.length) ++ bytes

/-- Pack bytes into blocks. -/
def pack (bytes : List UInt8) : List UInt8 :=
  if bytes.length ≤ blockSize then block true bytes
  else block false (bytes.take blockSize) ++ pack (bytes.drop blockSize)
termination_by bytes.length
decreasing_by simp_all [blockSize]; omega

/-- The fields that an entry has both in its header and in the directory. -/
def entryFields (name content packed : List UInt8) : List UInt8 :=
  let namesAreText : Nat := 0x800
  let deflated := 8
  let firstDay := 0x21
  littleEndian 2 20 ++ littleEndian 2 namesAreText ++ littleEndian 2 deflated ++ littleEndian 2 0 ++
    littleEndian 2 firstDay ++ littleEndian 4 (Checksum.crc32 content).toNat ++ littleEndian 4 packed.length ++
    littleEndian 4 content.length ++ littleEndian 2 name.length ++ littleEndian 2 0

/-- An entry with its header. -/
def entry (name content : List UInt8) : List UInt8 :=
  let packed := pack content
  littleEndian 4 0x04034B50 ++ entryFields name content packed ++ name ++ packed

/-- The line of the directory for an entry that starts at an offset. Everyone may read what is unpacked,
and its owner may write it. -/
def directoryLine (name content : List UInt8) (offset : Nat) : List UInt8 :=
  let permissions := 0o100644
  littleEndian 4 0x02014B50 ++ littleEndian 2 0x0314 ++ entryFields name content (pack content) ++
    littleEndian 6 0 ++ littleEndian 4 (permissions * 65536) ++ littleEndian 4 offset ++ name

/-- The entries and the lines of the directory for files, the first of which starts at an offset. -/
def parts (offset : Nat) : List (String × String) → List UInt8 × List UInt8
  | [] => ([], [])
  | file :: files =>
    let name := Text.Utf8.encodeText file.1
    let content := Text.Utf8.encodeText file.2
    let written := entry name content
    let (entries, directory) := parts (offset + written.length) files
    (written ++ entries, directoryLine name content offset ++ directory)

/-- The end of an archive. -/
def ending (count directoryLength directoryOffset : Nat) : List UInt8 :=
  littleEndian 4 0x06054B50 ++ littleEndian 4 0 ++ littleEndian 2 count ++ littleEndian 2 count ++
    littleEndian 4 directoryLength ++ littleEndian 4 directoryOffset ++ littleEndian 2 0

/-- The bytes of an archive. -/
def bytes (archive : Archive) : List UInt8 :=
  let (entries, directory) := parts 0 archive.entries
  entries ++ directory ++ ending archive.entries.length directory.length entries.length

end SiteBuilder.Zip
