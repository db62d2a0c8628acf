import FixtureMatrix.Encoder.Request

/-!
# Writer properties

The settings under which a file is written.  Page limits are only looked at
between mini-batches of rows, so a small row limit asks for small batches.
-/

namespace FixtureMatrix

/-- A codec with its level. -/
inductive Codec where
  | uncompressed
  | snappy
  | lz4
  | lz4Raw
  | zstd (level : Nat)
  | gzip (level : Nat)
deriving DecidableEq

def Codec.text : Codec → String
  | .uncompressed => "UNCOMPRESSED"
  | .snappy => "SNAPPY"
  | .lz4 => "LZ4"
  | .lz4Raw => "LZ4_RAW"
  | .zstd level => s!"ZSTD(ZstdLevel({level}))"
  | .gzip level => s!"GZIP(GzipLevel({level}))"

/-- The codec of a compression, at its usual level. -/
def Compression.codec : Compression → Codec
  | .none => .uncompressed
  | .snappy => .snappy
  | .lz4 => .lz4
  | .lz4Raw => .lz4Raw
  | .zstd => .zstd 1
  | .gzip => .gzip 6

/-- The settings under which a file is written. -/
structure WriterProperties where
  writerVersion : PageVersion
  dictionary : Bool
  codec : Codec
  dataPageSizeLimit : Nat
  dataPageRowLimit : Nat
  writeBatchSize : Nat
  maxRowGroupSize : Nat
  /-- Whether statistics are kept for every page, or none at all. -/
  pageStatistics : Bool
deriving DecidableEq

/-- A row group size that no fixture exceeds. -/
def maxRowGroupSize : Nat := Nat.pow 2 40

/-- The rows of a mini-batch where no limit asks for fewer. -/
def defaultBatchSize : Nat := 1024

/-- The largest word of 64 bits, which stands for no limit. -/
def noLimit : Nat := Nat.pow 2 64 - 1

/-- The settings of a request, or nothing for row groups without rows. -/
def EncodeRequest.properties? (r : EncodeRequest) (rowGroupSize : Nat) :
    Option WriterProperties :=
  if rowGroupSize = 0 then none
  else
    let (rowLimit, batch) := match r.sizing.rowLimit with
      | some limit => (max limit 1, min (max limit 1) defaultBatchSize)
      | none => (noLimit, defaultBatchSize)
    some {
      writerVersion := r.pageVersion
      dictionary := r.dictionary
      codec := r.compression.codec
      dataPageSizeLimit := r.sizing.dataPageSize
      dataPageRowLimit := rowLimit
      writeBatchSize := batch
      maxRowGroupSize := rowGroupSize
      pageStatistics := r.writeStatistics }

end FixtureMatrix
