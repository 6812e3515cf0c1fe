import ColumnScan.Storage.File

/-!
# Row sinks

Where rows go: memory or a file.
-/

namespace ColumnScan

/-- Where rows go. -/
inductive RowSink where
  | memory (sink : MemorySink)
  | file (sink : FileSink)

namespace RowSink

/-- Adds a row. -/
def write (cells : Cells) : RowSink → Except StorageError Unit × RowSink
  | .memory s =>
    match s.write cells with
    | .ok s => (.ok (), .memory s)
    | .error e => (.error e, .memory s)
  | .file s => ((s.write cells).1, .file (s.write cells).2)

/-- Finishes the store; nothing can be written to it afterwards. -/
def close : RowSink → Except StorageError Unit × RowSink
  | .memory s => (.ok (), .memory s.close)
  | .file s => (s.close.1, .file s.close.2)

end RowSink

end ColumnScan
