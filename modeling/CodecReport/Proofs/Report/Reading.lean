import CodecReport.Proofs.Number.Numeral
import CodecReport.Proofs.Output.Leaving
import CodecReport.Proofs.Report.Csv
import CodecReport.Proofs.Table.Alignment

/-!
# Reading a report back

What is written of a report is found on the disk again: read as comma-separated values it gives the names of
its columns and a row for each record, the texts as they are and the numbers without any loss, and the matrix
file has the same columns with the same numbers. Only the disk, or a path without a name, can keep a report
from being written.
-/

namespace CodecReport

theorem Path.exists_withEnding {p : Path} (hparts : p.parts ≠ []) (ending : String) :
    ∃ path, p.withEnding? ending = some path := by
  obtain ⟨name, hname⟩ := Option.ne_none_iff_exists'.mp (mt List.getLast?_eq_none_iff.mp hparts)
  rw [Path.withEnding?, hname]
  exact ⟨_, rfl⟩

namespace Report

/-! ### What writing leaves behind -/

/-- The files of a report. -/
def products (sheet : Sheet) (base : Path) (format : ReportFormat) (variableName : String) : Products where
  files := if format.hasCsv then
      (base.withEnding? ".csv").toList.map fun path => (path, (ofSheet sheet).csv sheet.dataset.records.length)
    else []
  matrices := if format.hasMatrix then
      (base.withEnding? ".mat").toList.map fun path =>
        { path, variableName, fields := (ofSheet sheet).matrixFields }
    else []

variable {faults : Fault → Prop} {base : Path}

theorem pathWithEnding_eq_ok {ending : String} {path : Path} (hpath : pathWithEnding base ending = .ok path) :
    base.withEnding? ending = some path := by
  rw [pathWithEnding] at hpath
  split at hpath
  next found hfound => exact hfound.trans (congrArg some (Except.ok.inj hpath))
  next => cases hpath

theorem pathWithEnding_failsWithin (hname : faults (.unnamedPath base.text)) (ending : String) :
    FailsWithin faults (pathWithEnding base ending) := by
  rw [pathWithEnding]
  split
  · exact .ok _
  · exact .error hname

theorem writes_writeCsv (hdisk : ∀ f, faults (.disk f)) (hname : faults (.unnamedPath base.text)) (sheet : Sheet) :
    Act.Writes faults (writeCsv sheet base) { files := (base.withEnding? ".csv").toList.map fun path =>
      (path, (ofSheet sheet).csv sheet.dataset.records.length) } := by
  refine .ofResult_bind (pathWithEnding_failsWithin hname ".csv") fun path hpath => ?_
  rw [pathWithEnding_eq_ok hpath]
  refine (Act.Writes.makeFolders hdisk _).andThen fun _ _ => ?_
  refine (Act.Writes.writeFile hdisk path _).followed fun _ => ?_
  exact (Act.Writes.print _).andThen fun _ _ => .pure path

theorem writes_writeMatrix (hdisk : ∀ f, faults (.disk f)) (hname : faults (.unnamedPath base.text)) (sheet : Sheet)
    (variableName : String) :
    Act.Writes faults (writeMatrix sheet base variableName) {
      matrices := (base.withEnding? ".mat").toList.map fun path =>
        { path, variableName, fields := (ofSheet sheet).matrixFields } } := by
  refine .ofResult_bind (pathWithEnding_failsWithin hname ".mat") fun path hpath => ?_
  rw [pathWithEnding_eq_ok hpath]
  refine (Act.Writes.makeFolders hdisk _).andThen fun _ _ => ?_
  refine (Act.Writes.writeMatrix _).followed fun _ => ?_
  exact (Act.Writes.print _).andThen fun _ _ => .pure path

theorem writes_write (hdisk : ∀ f, faults (.disk f)) (hname : faults (.unnamedPath base.text)) (sheet : Sheet)
    (format : ReportFormat) (variableName : String) :
    Act.Writes faults (write sheet base format variableName) (products sheet base format variableName) := by
  have hcsv := writes_writeCsv hdisk hname sheet
  have hmatrix := writes_writeMatrix hdisk hname sheet variableName
  cases format with
  | csv =>
    exact hcsv.followed fun path => (Act.Writes.pure [path]).andThen fun _ _ =>
      (Act.Writes.pure []).andThen fun _ _ => .pure _
  | mat =>
    refine (Act.Writes.pure []).andThen fun csvPaths _ => ?_
    exact hmatrix.followed fun path => (Act.Writes.pure [path]).andThen fun _ _ => .pure _
  | both =>
    have hboth : Act.Writes faults (write sheet base .both variableName) _ :=
      hcsv.bind fun path _ => (Act.Writes.pure [path]).andThen fun csvPaths _ =>
        hmatrix.followed fun path => (Act.Writes.pure [path]).andThen fun _ _ => .pure _
    rw [Products.append_def, List.append_nil] at hboth
    exact hboth

/-- A report that was written has a path with a name. -/
theorem parts_ne_nil_of_write {sheet : Sheet} {format : ReportFormat} {variableName : String} {session : Session}
    {paths : List Path} {later : Session}
    (hrun : Act.runOn session (write sheet base format variableName) = (.ok paths, later)) : base.parts ≠ [] := by
  intro hparts
  have hpath (ending : String) : pathWithEnding base ending = .error (.unnamedPath base.text) := by
    rw [pathWithEnding, Path.withEnding?, hparts]
    rfl
  have hcsv (s : Session) : Steps.runOn s (writeCsv sheet base) = (.error (.unnamedPath base.text), s) := by
    rw [writeCsv, hpath]
    rfl
  have hmatrix (s : Session) :
      Steps.runOn s (writeMatrix sheet base variableName) = (.error (.unnamedPath base.text), s) := by
    rw [writeMatrix, hpath]
    rfl
  have hfails : Steps.runOn session (write sheet base format variableName) =
      (.error (.unnamedPath base.text), session) := by
    cases format with
    | csv | both => exact Steps.runOn_bind_error (hcsv session) _
    | mat => exact Steps.runOn_bind_error (hmatrix session) _
  cases hrun.symm.trans hfails

/-! ### Fields and numbers -/

/-- A field is empty where there is no number, and reads as the number otherwise. -/
structure FieldReads (field : String) (number : Option Double) : Prop where
  empty : field = "" ↔ number = none ∨ number = some .nan
  reads : ∀ d, number = some d → d ≠ .nan → Double.ofText? field = some d

theorem text_ne_empty (d : Double) : d.text ≠ "" := by
  intro hempty
  have hreads := ofText?_text d
  rw [hempty] at hreads
  have hnone : Double.ofText? "" = none := by decide
  rw [hnone] at hreads
  cases hreads

theorem numberField_of_ne {d : Double} (hd : d ≠ .nan) : numberField d = d.text := by
  cases d with
  | nan => exact absurd rfl hd
  | infinite => rfl
  | finite => rfl

theorem fieldReads_numberField (number : Option Double) :
    FieldReads (numberField (number.getD .nan)) number := by
  by_cases hnone : number = none ∨ number = some .nan
  · refine ⟨iff_of_true ?_ hnone, fun d hd hnot => ?_⟩
    · rcases hnone with rfl | rfl <;> rfl
    · rcases hnone with rfl | rfl
      · cases hd
      · exact absurd (Option.some.inj hd).symm hnot
  · obtain ⟨d, rfl⟩ := Option.ne_none_iff_exists'.mp fun h => hnone (.inl h)
    have hd : d ≠ .nan := fun h => hnone (.inr (congrArg some h))
    rw [Option.getD_some, numberField_of_ne hd]
    refine ⟨iff_of_false (text_ne_empty d) hnone, fun found hfound _ => ?_⟩
    obtain rfl := Option.some.inj hfound
    exact ofText?_text d

end Report

/-- The numbers among cells. -/
def numbersOf (cells : List Value) : List Double :=
  cells.filterMap fun
    | .float d => some d
    | _ => none

/-- The numbers that belong to a record and its row in the results table: those of the row, and those it was
computed from. -/
def rowNumbers (entry : Measurement × List Value) : List (Option Double) :=
  (numbersOf entry.2).map some ++ [some entry.1.size, some entry.1.compressCpu, some entry.1.decompressCpu,
    entry.1.compressWall, entry.1.decompressWall]

/-- The fields of a row are the texts of a record as they are, and behind them its numbers. -/
structure RowReads (entry : Measurement × List Value) (fields : List String) : Prop where
  texts : fields.take 2 = [entry.1.plugin, entry.1.codec]
  numbers : List.Forall₂ Report.FieldReads (fields.drop 2) (rowNumbers entry)
  ten : fields.length = 10

namespace Dataset

variable {ds : Dataset} {table : Table}

theorem rowReads_reportRow (ds : Dataset) (m : Measurement) : RowReads (m, ds.row m) (ds.reportRow m) where
  texts := rfl
  numbers := by
    have hfields : (ds.reportRow m).drop 2 =
        (rowNumbers (m, ds.row m)).map fun number => Report.numberField (number.getD .nan) := rfl
    rw [hfields, List.forall₂_map_left_iff, List.forall₂_same]
    exact fun number _ => Report.fieldReads_numberField number
  ten := rfl

/-- The columns of numbers in a report. -/
def numberColumns (ds : Dataset) : List (List Double) :=
  (Quantity.all.map fun q => ds.records.map (q.value ds)) ++
    [ds.records.map (·.size), ds.records.map (·.compressCpu), ds.records.map (·.decompressCpu),
      ds.records.map fun m => m.compressWall.getD .nan, ds.records.map fun m => m.decompressWall.getD .nan]

theorem matrixFields_reportColumns (ds : Dataset) : ds.reportColumns.matrixFields =
    Report.columnNames.zip ([.texts (ds.records.map (·.plugin)), .texts (ds.records.map (·.codec))]
      ++ ds.numberColumns.map .numbers) := rfl

theorem numberColumns_getElem? (ds : Dataset) {i : Nat} {m : Measurement} (hm : ds.records[i]? = some m) :
    ds.numberColumns.map (·[i]?) =
      (rowNumbers (m, ds.row m)).map fun number => some (number.getD .nan) := by
  simp [numberColumns, Quantity.all, rowNumbers, numbersOf, row, hm]

section Written

variable {id : String} {base : Path} {format : ReportFormat} {variableName : String} {session later : Session}

/-- The comma-separated values that the disk holds are those of the dataset. -/
theorem csv_of_leaves (htable : ds.results = .ok table)
    (hleaves : session.Leaves (Report.products { dataset := ds, table, id } base format variableName) later)
    (hcsv : format.hasCsv = true) {path : Path} (hpath : base.withEnding? ".csv" = some path) :
    ∃ loc content, later.disk.locate path = .ok loc ∧ later.disk.node? loc = some (.file content.toUTF8) ∧
      Csv.read content = some (Report.columnNames :: ds.records.map ds.reportRow) := by
  have hwrote := hleaves.disk
  rw [Report.products, if_pos hcsv, hpath] at hwrote
  obtain ⟨loc, hloc, hnode⟩ := Disk.Wrote.stands hwrote
  refine ⟨loc, _, hloc, hnode, ?_⟩
  rw [ofSheet_eq htable, Report.csv, rows_reportColumns]
  apply Csv.read_write
  intro row hrow
  rcases List.mem_cons.mp hrow with rfl | hrow
  · exact List.cons_ne_nil _ _
  · obtain ⟨m, _, rfl⟩ := List.mem_map.mp hrow
    exact List.cons_ne_nil _ _

/-- The matrix file has the columns of the dataset. -/
theorem matrices_of_leaves (htable : ds.results = .ok table)
    (hleaves : session.Leaves (Report.products { dataset := ds, table, id } base format variableName) later)
    (hmatrix : format.hasMatrix = true) {path : Path} (hpath : base.withEnding? ".mat" = some path) :
    later.matrices = session.matrices ++ [{
      path, variableName
      fields := Report.columnNames.zip ([.texts (ds.records.map (·.plugin)),
        .texts (ds.records.map (·.codec))] ++ ds.numberColumns.map .numbers) }] := by
  have hmatrices := hleaves.matrices
  rw [Report.products, if_pos hmatrix, hpath] at hmatrices
  rw [hmatrices]
  dsimp only
  rw [ofSheet_eq htable, ← matrixFields_reportColumns]
  rfl

end Written

theorem length_of_mem_numberColumns (ds : Dataset) :
    ∀ column ∈ ds.numberColumns, column.length = ds.records.length := by
  intro column hcolumn
  simp only [numberColumns, Quantity.all, List.map_cons, List.map_nil, List.cons_append, List.nil_append,
    List.mem_cons, List.not_mem_nil, or_false] at hcolumn
  rcases hcolumn with rfl | rfl | rfl | rfl | rfl | rfl | rfl | rfl <;> exact List.length_map ..

/-- Whatever texts and numbers a dataset has, its report is read back without any loss: from the comma-separated
values that the disk holds afterwards, and from the matrix file. Writing fails only where the path has no name
or the disk refuses. -/
theorem results_reported (htable : ds.results = .ok table) (id : String) (base : Path) (format : ReportFormat)
    (variableName : String) (session : Session) :
    Report.columnNames = ["plugin", "codec", "ratio", "compress_speed", "decompress_speed", "size",
      "compress_cpu", "decompress_cpu", "compress_wall", "decompress_wall"] ∧
    table.rows.length = ds.records.length ∧
    match Act.runOn session (Report.write { dataset := ds, table, id } base format variableName) with
    | (.error fault, _) => fault = .unnamedPath base.text ∨ ∃ f, fault = .disk f
    | (.ok _, later) =>
      (format.hasCsv = true → ∃ path loc content rows, base.withEnding? ".csv" = some path ∧
        later.disk.locate path = .ok loc ∧ later.disk.node? loc = some (.file content.toUTF8) ∧
        Csv.read content = some (Report.columnNames :: rows) ∧
        List.Forall₂ RowReads (ds.records.zip table.rows) rows) ∧
      (format.hasMatrix = true → ∃ path, ∃ columns : List (List Double), base.withEnding? ".mat" = some path ∧
        later.matrices = session.matrices ++ [{
          path, variableName
          fields := Report.columnNames.zip ([.texts (ds.records.map (·.plugin)),
            .texts (ds.records.map (·.codec))] ++ columns.map .numbers) }] ∧
        columns.length = 8 ∧ (∀ column ∈ columns, column.length = ds.records.length) ∧
        ∀ (i : Nat) entry, (ds.records.zip table.rows)[i]? = some entry →
          columns.map (·[i]?) = (rowNumbers entry).map fun number => some (number.getD .nan)) := by
  have hrows := rows_of_results htable
  have hzip : ds.records.zip table.rows = ds.records.map fun m => (m, ds.row m) := by
    rw [hrows, List.zip_map_right, List.zip_eq_zipWith, List.zipWith_self, List.map_map]
    rfl
  have hwrites : Act.Writes (fun fault => fault = .unnamedPath base.text ∨ ∃ f, fault = .disk f)
      (Report.write { dataset := ds, table, id } base format variableName)
      (Report.products { dataset := ds, table, id } base format variableName) :=
    Report.writes_write (fun f => .inr ⟨f, rfl⟩) (.inl rfl) _ format variableName
  refine ⟨rfl, by rw [hrows, List.length_map], ?_⟩
  split
  next fault _ hrun => exact hwrites.fails session fault (congrArg Prod.fst hrun)
  next paths later hrun =>
    have hleaves := hwrites.leaves hrun
    have hnamed := Report.parts_ne_nil_of_write hrun
    refine ⟨fun hcsv => ?_, fun hmatrix => ?_⟩
    · obtain ⟨path, hpath⟩ := Path.exists_withEnding hnamed ".csv"
      obtain ⟨loc, content, hloc, hnode, hread⟩ := csv_of_leaves htable hleaves hcsv hpath
      refine ⟨path, loc, content, _, hpath, hloc, hnode, hread, ?_⟩
      rw [hzip, List.forall₂_map_left_iff, List.forall₂_map_right_iff, List.forall₂_same]
      exact fun m _ => ds.rowReads_reportRow m
    · obtain ⟨path, hpath⟩ := Path.exists_withEnding hnamed ".mat"
      refine ⟨path, ds.numberColumns, hpath, matrices_of_leaves htable hleaves hmatrix hpath, rfl,
        ds.length_of_mem_numberColumns, fun i entry hentry => ?_⟩
      rw [hzip, List.getElem?_map, Option.map_eq_some_iff] at hentry
      obtain ⟨m, hm, rfl⟩ := hentry
      exact ds.numberColumns_getElem? hm

/-- A dataset with texts that need quotes, texts that are empty, and numbers that are none or infinite. -/
def quotedTexts : Dataset where
  name := "d"
  uncompressedSize := Double.ofInt 0
  records := [⟨"a,b", "say \"x\"\n", Double.ofInt 0, Double.ofInt 2, Double.ofInt 5, none, some .nan⟩,
    ⟨"", "\"", Double.ofInt 100, Double.ofInt 0, - Double.ofInt 0, some (.infinite true), none⟩]

theorem results_reported_quotedTexts : ∃ table paths later, quotedTexts.results = .ok table ∧
    Act.runOn { disk := { home := [] } } (Report.write { dataset := quotedTexts, table, id := "ds0-d" }
      (Path.ofText "out/report") .both "report") = (.ok paths, later) ∧
    ∃ loc content rows, later.disk.locate (Path.ofText "out/report.csv") = .ok loc ∧
      later.disk.node? loc = some (.file content.toUTF8) ∧ Csv.read content = some (Report.columnNames :: rows) ∧
      List.Forall₂ RowReads (quotedTexts.records.zip table.rows) rows := by
  obtain ⟨table, htable⟩ : ∃ table, quotedTexts.results = .ok table := exists_ok_of_isOk (by decide +kernel)
  obtain ⟨_, _, hreported⟩ := results_reported htable "ds0-d" (Path.ofText "out/report") .both "report"
    { disk := { home := [] } }
  -- whether the files are written does not depend on what is in them
  have hwritten (ds : Dataset) : (Act.runOn { disk := { home := [] } } (Report.write
      { dataset := ds, table, id := "ds0-d" } (Path.ofText "out/report") .both "report")).1.isOk = true := by
    with_unfolding_all rfl
  have hrun := hwritten quotedTexts
  rcases hcase : Act.runOn { disk := { home := [] } } (Report.write ⟨quotedTexts, table, "ds0-d"⟩
      (Path.ofText "out/report") .both "report") with ⟨fault | paths, later⟩
  · rw [hcase] at hrun
    cases hrun
  · rw [hcase] at hreported
    obtain ⟨path, loc, content, rows, hpath, hloc, hnode, hread, hrows⟩ := hreported.1 rfl
    obtain rfl : Path.ofText "out/report.csv" = path := Option.some.inj hpath
    exact ⟨table, paths, later, htable, hcase, loc, content, rows, hloc, hnode, hread, hrows⟩

end Dataset

end CodecReport
