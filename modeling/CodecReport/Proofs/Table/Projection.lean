import CodecReport.Proofs.Number.Hundredths
import CodecReport.Proofs.Outcome
import CodecReport.Workbook

/-!
# Which documents have tables

A workbook is made of the tables of all datasets of a document, so one cell that cannot be computed leaves
the document without any. The only step that can fail is rounding to hundredths, and it fails exactly for
finite quantities from 10²⁶ on; zero sizes and times, infinities and what is not a number do no harm.
-/

namespace CodecReport

open Double

/-- A dataset all of whose finite quantities are below 10²⁶. -/
def Dataset.WithinPrecision (ds : Dataset) : Prop :=
  ∀ q ∈ Quantity.all, ∀ m ∈ ds.records, ∀ units,
    (q.of ds.uncompressedSize m).units? = some units → units < hundredthsLimit

namespace Quantity

variable {q : Quantity} {ds : Dataset} {m : Measurement}

theorem cell_failsOnlyWith (q : Quantity) (ds : Dataset) (m : Measurement) :
    FailsOnlyWith .precision (q.cell ds m) := by
  rw [cell]
  split
  · exact .ok _
  · intro fault h
    exact (Except.error.inj h).symm

theorem exists_cell_iff : (∃ d, q.cell ds m = .ok d) ↔
    ∀ units, (q.of ds.uncompressedSize m).units? = some units → units < hundredthsLimit := by
  have hcell : (∃ d, q.cell ds m = .ok d) ↔ (q.of ds.uncompressedSize m).toHundredths? ≠ none := by
    rw [cell]
    split
    · rename_i d hd
      exact iff_of_true ⟨d, rfl⟩ (by rw [hd]; exact Option.some_ne_none d)
    · rename_i hd
      exact iff_of_false (fun ⟨_, h⟩ => nomatch h) (not_not.mpr hd)
  rw [hcell, Ne, toHundredths?_eq_none_iff]
  simp only [not_exists, not_and, Nat.not_le]

theorem cells_failsOnlyWith (q : Quantity) (ds : Dataset) : FailsOnlyWith .precision (q.cells ds) :=
  .mapM (cell_failsOnlyWith q ds) ds.records

theorem exists_cells_iff : (∃ cells, q.cells ds = .ok cells) ↔ ∀ m ∈ ds.records, ∀ units,
    (q.of ds.uncompressedSize m).units? = some units → units < hundredthsLimit := by
  rw [cells, exists_mapM_ok_iff]
  exact forall₂_congr fun m _ => exists_cell_iff

end Quantity

namespace Dataset

theorem results_failsOnlyWith (ds : Dataset) : FailsOnlyWith .precision ds.results :=
  (FailsOnlyWith.mapM (fun q => (q.cells_failsOnlyWith ds).bind fun _ => .ok _) _).bind fun _ => .ok _

theorem exists_results_iff {ds : Dataset} : (∃ table, ds.results = .ok table) ↔ ds.WithinPrecision := by
  rw [results, exists_bind_pure_ok_iff, exists_mapM_ok_iff]
  refine forall₂_congr fun q _ => ?_
  rw [exists_bind_pure_ok_iff]
  exact Quantity.exists_cells_iff

end Dataset

namespace Workbook

theorem ofDocument_failsOnlyWith (doc : Document) : FailsOnlyWith .precision (ofDocument doc) :=
  .mapM (fun ((_, ds), _) => (ds.results_failsOnlyWith.bind fun _ => .ok _).bind fun _ => .ok _) _

theorem exists_ofDocument_iff {doc : Document} :
    (∃ book, ofDocument doc = .ok book) ↔ ∀ entry ∈ doc, entry.2.WithinPrecision := by
  have hentries : doc.zipIdx.map Prod.fst = doc := List.zipIdx_map_fst 0 doc
  rw [ofDocument, exists_mapM_ok_iff, ← hentries, List.forall_mem_map, hentries]
  refine forall₂_congr fun ((name, ds), index) _ => ?_
  rw [exists_bind_pure_ok_iff, sheet, exists_bind_pure_ok_iff]
  exact Dataset.exists_results_iff

/-- A sheet under the name of its dataset, with the table of that dataset. -/
def IsSheetOf (entry : String × Dataset) (sheet : String × Sheet) : Prop :=
  sheet.1 = entry.1 ∧ sheet.2.dataset = entry.2 ∧ entry.2.results = .ok sheet.2.table

theorem forall₂_isSheetOf {doc : Document} {book : Workbook} (hbook : ofDocument doc = .ok book) :
    List.Forall₂ IsSheetOf doc book := by
  have hentries : doc.zipIdx.map Prod.fst = doc := List.zipIdx_map_fst 0 doc
  rw [ofDocument, mapM_eq_ok_iff] at hbook
  rw [← hentries, List.forall₂_map_left_iff]
  refine hbook.imp fun ((name, ds), index) entry hentry => ?_
  obtain ⟨s, hs, heq⟩ := bind_eq_ok_iff.mp hentry
  obtain ⟨table, htable, hsheet⟩ := bind_eq_ok_iff.mp hs
  obtain rfl := Except.ok.inj heq
  obtain rfl := Except.ok.inj hsheet
  exact ⟨rfl, rfl, htable⟩

theorem results_of_isSheetOf {document : Document} {book : Workbook}
    (hsheets : List.Forall₂ IsSheetOf document book) :
    (book.map fun (name, sheet) => (name, sheet.dataset)) = document ∧
      ∀ entry ∈ book, entry.2.dataset.results = .ok entry.2.table := by
  induction hsheets with
  | nil => exact ⟨rfl, fun _ hentry => absurd hentry List.not_mem_nil⟩
  | @cons entry sheet _ _ hfirst _ ih =>
    obtain ⟨hname, hdataset, htable⟩ := hfirst
    refine ⟨?_, List.forall_mem_cons.mpr ⟨hdataset ▸ htable, ih.2⟩⟩
    rw [List.map_cons, ih.1]
    exact congrArg (· :: _) (Prod.ext hname hdataset)

/-- A document has a workbook, with a table for every dataset, exactly when all its finite quantities are
below 10²⁶. Otherwise rounding to hundredths fails. -/
theorem ofDocument_exact (doc : Document) :
    ((∃ book, ofDocument doc = .ok book) ↔ ∀ entry ∈ doc, entry.2.WithinPrecision) ∧
      (∀ book, ofDocument doc = .ok book → List.Forall₂ IsSheetOf doc book) ∧
      (∀ fault, ofDocument doc = .error fault → fault = .precision) :=
  ⟨exists_ofDocument_iff, fun _ => forall₂_isSheetOf, ofDocument_failsOnlyWith doc⟩

/-- A document of one record whose ratio is 10²⁶. -/
def largeRatio : Document.Raw :=
  .text <| "\x7b\"d\":\x7b\"uncompressed-size\":1e26,\"data\":[\x7b\"plugin\":\"p\",\"codec\":\"c\","
    ++ "\"size\":1.0,\"compress_cpu\":1e10,\"decompress_cpu\":1e10\x7d]\x7d\x7d"

set_option maxRecDepth 4000 in
theorem ofDocument_fails_on_largeRatio :
    ∃ doc, Document.read largeRatio = .ok doc ∧ ofDocument doc = .error .precision := by
  have hread : Document.read largeRatio = .ok [("d", {
      name := "d"
      uncompressedSize := Decimal.toDouble ⟨false, 1, 26⟩
      records := [{
        plugin := "p"
        codec := "c"
        size := Decimal.toDouble ⟨false, 10, -1⟩
        compressCpu := Decimal.toDouble ⟨false, 1, 10⟩
        decompressCpu := Decimal.toDouble ⟨false, 1, 10⟩
        compressWall := none
        decompressWall := none }] })] := by
    rfl
  refine ⟨_, hread, ?_⟩
  have hratio :
      (Decimal.toDouble ⟨false, 1, 26⟩ / Decimal.toDouble ⟨false, 10, -1⟩).toHundredths? = none := by
    decide +kernel
  obtain ⟨units, hunits, hlarge⟩ := toHundredths?_eq_none_iff.mp hratio
  cases hbook : ofDocument _ with
  | error fault => rw [ofDocument_failsOnlyWith _ fault hbook]
  | ok book =>
    have hwithin := exists_ofDocument_iff.mp ⟨book, hbook⟩ _ (List.mem_singleton.mpr rfl)
    have hlt := hwithin Quantity.ratio List.mem_cons_self _ (List.mem_singleton.mpr rfl) units
      (by simpa only [Quantity.ratio] using hunits)
    exact absurd hlarge (Nat.not_le.mpr hlt)

end Workbook

end CodecReport
