import CodecReport.Fault
import CodecReport.Table.Basic

/-!
# The results table

A record is shown as its plugin and codec and three quantities relative to the uncompressed size: how
often the compressed size goes into it, and how many KiB a second are compressed and decompressed. The
quantities are rounded to hundredths. Division follows the rules of doubles, so a time of zero gives an
infinite speed; each cell that is not finite is warned about once, column by column.
-/

namespace CodecReport

/-- A quantity that a record gives relative to a size. -/
structure Quantity where
  column : Column
  of : (total : Double) → Measurement → Double

namespace Quantity

def kib : Double := Double.ofInt 1024

def ratio : Quantity where
  column := ⟨"ratio", "Compression Ratio", .number⟩
  of total m := total / m.size

def compressSpeed : Quantity where
  column := ⟨"compress_speed", "Compression Speed (KB/s)", .number⟩
  of total m := total / m.compressCpu / kib

def decompressSpeed : Quantity where
  column := ⟨"decompress_speed", "Decompress Speed (KB/s)", .number⟩
  of total m := total / m.decompressCpu / kib

/-- The quantities in the order of their columns. -/
def all : List Quantity := [ratio, compressSpeed, decompressSpeed]

def cell (q : Quantity) (ds : Dataset) (m : Measurement) : Except Fault Double :=
  match (q.of ds.uncompressedSize m).toHundredths? with
  | some d => .ok d
  | none => .error .precision

def cells (q : Quantity) (ds : Dataset) : Except Fault (List Double) :=
  ds.records.mapM (q.cell ds)

end Quantity

def nonFiniteCells (dataset column : String) (cells : List Double) : List NonFiniteCell :=
  (cells.zipIdx.filter fun (d, _) => !d.isFinite).map fun (d, i) => ⟨dataset, i, column, d⟩

def resultColumns : List Column :=
  [⟨"plugin", "Plugin", .text⟩, ⟨"codec", "Codec", .text⟩] ++ Quantity.all.map (·.column)

def Dataset.results (ds : Dataset) : Except Fault Table := do
  let measured ← Quantity.all.mapM fun q => do return (q.column.name, ← q.cells ds)
  return {
    dataset := ds.name
    columns := resultColumns
    frame :=
      [("plugin", ds.records.map fun m => .text m.plugin),
       ("codec", ds.records.map fun m => .text m.codec)]
      ++ measured.map fun (name, cells) => (name, cells.map .float)
    warnings := measured.flatMap fun (name, cells) => nonFiniteCells ds.name name cells
  }

end CodecReport
