import CodecReport.Fault
import CodecReport.Proofs.Number.Decimal
import CodecReport.Proofs.Outcome

/-!
# What the reader of documents admits

`Admissible` says of a value what a document has to be, and `Describes` ties a value to the document that
it stands for, field by field. Neither mentions an order of checks. Reading gives a document exactly for
the admissible values, the one document that the value describes; everything else is a fault of loading.
-/

namespace CodecReport

open Double

/-- The double that a number of a document stands for: a float itself, an integer its nearest double if
that is finite. -/
inductive Value.IsNumber : Value → Double → Prop
  | float (d : Double) : IsNumber (.float d) d
  | int {i : Int} {n : Nat} (hn : Representable n) (hnear : IsNearest (|(i : ℚ)| * unitsPerOne) n) :
    IsNumber (.int i) (.finite (decide (i < 0)) n hn)

/-- An optional number: absent and null are both none. -/
inductive IsOptionalNumber : Option Value → Option Double → Prop
  | absent : IsOptionalNumber none none
  | null : IsOptionalNumber (some .null) none
  | number {v : Value} {d : Double} (hv : v.IsNumber d) : IsOptionalNumber (some v) (some d)

/-- The fields of an object, as the fields of a measurement. -/
structure IsMeasurement (fields : Entries Value) (m : Measurement) : Prop where
  plugin : fields.get? "plugin" = some (.text m.plugin)
  codec : fields.get? "codec" = some (.text m.codec)
  size : ∃ v, fields.get? "size" = some v ∧ v.IsNumber m.size
  compressCpu : ∃ v, fields.get? "compress_cpu" = some v ∧ v.IsNumber m.compressCpu
  decompressCpu : ∃ v, fields.get? "decompress_cpu" = some v ∧ v.IsNumber m.decompressCpu
  compressWall : IsOptionalNumber (fields.get? "compress_wall") m.compressWall
  decompressWall : IsOptionalNumber (fields.get? "decompress_wall") m.decompressWall

def IsRecord (v : Value) (m : Measurement) : Prop :=
  ∃ fields, v = .map fields ∧ IsMeasurement fields m

/-- The member of a document, as a dataset: one record for each element, in order. -/
structure IsDataset (name : String) (fields : Entries Value) (ds : Dataset) : Prop where
  name : ds.name = name
  size : ∃ v, fields.get? sizeKey = some v ∧ v.IsNumber ds.uncompressedSize
  records : ∃ items, fields.get? dataKey = some (.list items) ∧ List.Forall₂ IsRecord items ds.records

/-- A member of a document under its key, as the dataset of that name. -/
def IsMember (entry : String × Value) (sheet : String × Dataset) : Prop :=
  sheet.1 = entry.1 ∧ ∃ fields, entry.2 = .map fields ∧ IsDataset entry.1 fields sheet.2

/-- The value of a document, as its datasets: one for each key, in order. -/
def Describes (v : Value) (doc : Document) : Prop :=
  ∃ entries, v = .map entries ∧ List.Forall₂ IsMember entries doc

/-- A number that a document may hold: any float, and an integer with a finite nearest double. -/
def Value.Numeric : Value → Prop
  | .float _ => True
  | .int i => ∃ n, IsNearest (|(i : ℚ)| * unitsPerOne) n ∧ n < 2 ^ 2098
  | _ => False

theorem Value.numeric_iff {v : Value} : v.Numeric ↔ ∃ d, v.IsNumber d := by
  cases v with
  | float d => exact iff_of_true trivial ⟨d, .float d⟩
  | int i =>
    constructor
    · intro h
      obtain ⟨n, hnear, hlt⟩ := h
      exact ⟨_, .int (representable_iff.mpr ⟨hlt, hnear.short⟩) hnear⟩
    · intro h
      obtain ⟨d, hd⟩ := h
      cases hd with
      | int hn hnear => exact ⟨_, hnear, (representable_iff.mp hn).1⟩
  | _ => exact iff_of_false id fun ⟨d, hd⟩ => nomatch hd

structure Value.IsAdmissibleRecord (fields : Entries Value) : Prop where
  plugin : ∃ s, fields.get? "plugin" = some (.text s)
  codec : ∃ s, fields.get? "codec" = some (.text s)
  size : ∃ v, fields.get? "size" = some v ∧ v.Numeric
  compressCpu : ∃ v, fields.get? "compress_cpu" = some v ∧ v.Numeric
  decompressCpu : ∃ v, fields.get? "decompress_cpu" = some v ∧ v.Numeric
  compressWall : ∀ v, fields.get? "compress_wall" = some v → v = .null ∨ v.Numeric
  decompressWall : ∀ v, fields.get? "decompress_wall" = some v → v = .null ∨ v.Numeric

structure Value.IsAdmissibleDataset (fields : Entries Value) : Prop where
  size : ∃ v, fields.get? sizeKey = some v ∧ v.Numeric
  records : ∃ items, fields.get? dataKey = some (.list items) ∧
    ∀ item ∈ items, ∃ record, item = .map record ∧ IsAdmissibleRecord record

def Value.IsAdmissible (v : Value) : Prop :=
  ∃ entries, v = .map entries ∧
    ∀ entry ∈ entries, ∃ fields, entry.2 = .map fields ∧ IsAdmissibleDataset fields

theorem Value.exists_nearest (i : Int) : ∃ n, IsNearest (|(i : ℚ)| * unitsPerOne) n :=
  exists_isNearest (mul_nonneg (abs_nonneg _) (Nat.cast_nonneg _))

namespace Document

theorem number_eq_ok_iff {site : Site} {key : String} {v : Value} {d : Double} :
    number site key v = .ok d ↔ v.IsNumber d := by
  cases v with
  | float c =>
    rw [number, Except.ok.injEq]
    constructor
    · intro h
      obtain rfl := h
      exact .float c
    · intro h
      cases h
      rfl
  | int i =>
    obtain ⟨n, hnear⟩ := Value.exists_nearest i
    by_cases hn : Representable n
    · have hread : ofInt? i = some (.finite (decide (i < 0)) n hn) := by
        rw [ofInt?, ofInt_eq_finite hn hnear]
        exact if_pos rfl
      rw [number, hread, Option.elim_some, Except.ok.injEq]
      constructor
      · intro h
        obtain rfl := h
        exact .int hn hnear
      · intro h
        cases h with
        | int hm hm' =>
          obtain rfl := hm'.unique hnear
          rfl
    · have hread : ofInt? i = none := by
        rw [ofInt?, ofInt_eq_infinite hn hnear]
        exact if_neg Bool.false_ne_true
      rw [number, hread, Option.elim_none]
      refine iff_of_false (fun h => nomatch h) fun h => ?_
      cases h with
      | int hm hm' =>
        obtain rfl := hm'.unique hnear
        exact hn hm
  | _ => exact iff_of_false (fun h => nomatch h) fun h => nomatch h

theorem textField_eq_ok_iff {site : Site} {fields : Entries Value} {key s : String} :
    textField site fields key = .ok s ↔ fields.get? key = some (.text s) := by
  rw [textField]
  cases fields.get? key with
  | none => exact iff_of_false (fun h => nomatch h) fun h => nomatch h
  | some v =>
    cases v with
    | text t => simp
    | _ => simp

theorem numberField_eq_ok_iff {site : Site} {fields : Entries Value} {key : String} {d : Double} :
    numberField site fields key = .ok d ↔ ∃ v, fields.get? key = some v ∧ v.IsNumber d := by
  rw [numberField, number_eq_ok_iff]
  cases fields.get? key with
  | none => exact iff_of_false (fun h => nomatch h) fun h => nomatch h
  | some v => simp

theorem isOptionalNumber_of_ne_null {v : Value} {d : Option Double} (hv : v ≠ .null) :
    IsOptionalNumber (some v) d ↔ ∃ c, v.IsNumber c ∧ some c = d := by
  constructor
  · intro h
    cases h with
    | null => exact absurd rfl hv
    | number hnumber => exact ⟨_, hnumber, rfl⟩
  · intro h
    obtain ⟨c, hnumber, rfl⟩ := h
    exact .number hnumber

theorem numberField?_eq_ok_iff {site : Site} {fields : Entries Value} {key : String}
    {d : Option Double} :
    numberField? site fields key = .ok d ↔ IsOptionalNumber (fields.get? key) d := by
  rw [numberField?]
  split
  · rename_i hget
    rw [hget, Except.ok.injEq]
    constructor
    · intro h
      obtain rfl := h
      exact .absent
    · intro h
      cases h
      rfl
  · rename_i hget
    rw [hget, Except.ok.injEq]
    constructor
    · intro h
      obtain rfl := h
      exact .null
    · intro h
      cases h with
      | null => rfl
      | number hnumber => nomatch hnumber
  · rename_i v hnull hget
    rw [hget, map_eq_ok_iff, isOptionalNumber_of_ne_null hnull]
    simp only [number_eq_ok_iff]

theorem measurement_eq_ok_iff {site : Site} {v : Value} {m : Measurement} :
    measurement site v = .ok m ↔ IsRecord v m := by
  cases v with
  | map fields =>
    rw [measurement]
    simp only [bind_eq_ok_iff, textField_eq_ok_iff, numberField_eq_ok_iff, numberField?_eq_ok_iff]
    constructor
    · intro h
      obtain ⟨plugin, hplugin, codec, hcodec, size, hsize, compressCpu, hcompress, decompressCpu,
        hdecompress, compressWall, hcompressWall, decompressWall, hdecompressWall, heq⟩ := h
      obtain rfl := Except.ok.inj heq
      exact ⟨fields, rfl, hplugin, hcodec, hsize, hcompress, hdecompress, hcompressWall, hdecompressWall⟩
    · intro h
      obtain ⟨_, hfields, h⟩ := h
      obtain rfl := Value.map.inj hfields
      exact ⟨_, h.plugin, _, h.codec, _, h.size, _, h.compressCpu, _, h.decompressCpu, _, h.compressWall, _,
        h.decompressWall, rfl⟩
  | _ => exact iff_of_false (fun h => nomatch h) fun ⟨_, h, _⟩ => nomatch h

theorem measurements_eq_ok_iff {name : String} {index : Nat} {items : List Value}
    {records : List Measurement} :
    measurements name index items = .ok records ↔ List.Forall₂ IsRecord items records := by
  induction items generalizing index records with
  | nil =>
    rw [measurements, Except.ok.injEq, List.forall₂_nil_left_iff, eq_comm]
  | cons item rest ih =>
    rw [measurements, List.forall₂_cons_left_iff]
    simp only [bind_eq_ok_iff, measurement_eq_ok_iff, ih, pure_eq_ok, Except.ok.injEq]
    constructor
    · intro h
      obtain ⟨first, hfirst, more, hmore, heq⟩ := h
      exact ⟨first, more, hfirst, hmore, heq.symm⟩
    · intro h
      obtain ⟨first, more, hfirst, hmore, heq⟩ := h
      exact ⟨first, hfirst, more, hmore, heq.symm⟩

theorem dataset_map_eq_ok_iff {name : String} {fields : Entries Value} {ds : Dataset} :
    dataset name (.map fields) = .ok ds ↔ IsDataset name fields ds := by
  rw [dataset]
  constructor
  · intro h
    split at h
    · exact nomatch h
    · rename_i size hsize
      obtain ⟨uncompressedSize, hnumber, h⟩ := bind_eq_ok_iff.mp h
      split at h
      · rename_i items hitems
        obtain ⟨records, hrecords, h⟩ := bind_eq_ok_iff.mp h
        obtain rfl := Except.ok.inj h
        exact ⟨rfl, ⟨size, hsize, number_eq_ok_iff.mp hnumber⟩,
          ⟨items, hitems, measurements_eq_ok_iff.mp hrecords⟩⟩
      · exact nomatch h
  · intro h
    obtain ⟨rfl, ⟨size, hsize, hnumber⟩, ⟨items, hitems, hrecords⟩⟩ := h
    rw [hsize]
    refine bind_eq_ok_iff.mpr ⟨ds.uncompressedSize, number_eq_ok_iff.mpr hnumber, ?_⟩
    rw [hitems]
    exact bind_eq_ok_iff.mpr ⟨ds.records, measurements_eq_ok_iff.mpr hrecords, rfl⟩

theorem dataset_eq_ok_iff {name : String} {v : Value} {ds : Dataset} :
    dataset name v = .ok ds ↔ ∃ fields, v = .map fields ∧ IsDataset name fields ds := by
  cases v with
  | map fields =>
    rw [dataset_map_eq_ok_iff]
    constructor
    · exact fun h => ⟨fields, rfl, h⟩
    · intro h
      obtain ⟨_, hfields, h⟩ := h
      obtain rfl := Value.map.inj hfields
      exact h
  | _ => exact iff_of_false (fun h => nomatch h) fun ⟨_, h, _⟩ => nomatch h

theorem datasets_eq_ok_iff {entries : Entries Value} {doc : Document} :
    datasets entries = .ok doc ↔ List.Forall₂ IsMember entries doc := by
  induction entries generalizing doc with
  | nil =>
    rw [datasets, Except.ok.injEq, List.forall₂_nil_left_iff, eq_comm]
  | cons entry rest ih =>
    obtain ⟨name, v⟩ := entry
    rw [datasets, List.forall₂_cons_left_iff]
    simp only [bind_eq_ok_iff, dataset_eq_ok_iff, ih, pure_eq_ok, Except.ok.injEq]
    constructor
    · intro h
      obtain ⟨ds, hds, more, hmore, heq⟩ := h
      exact ⟨(name, ds), more, ⟨rfl, hds⟩, hmore, heq.symm⟩
    · intro h
      obtain ⟨⟨_, ds⟩, more, ⟨rfl, hds⟩, hmore, heq⟩ := h
      exact ⟨ds, hds, more, hmore, heq.symm⟩

theorem ofValue_eq_ok_iff {v : Value} {doc : Document} : ofValue v = .ok doc ↔ Describes v doc := by
  cases v with
  | map entries =>
    rw [ofValue, datasets_eq_ok_iff]
    constructor
    · exact fun h => ⟨entries, rfl, h⟩
    · intro h
      obtain ⟨_, hentries, h⟩ := h
      obtain rfl := Value.map.inj hentries
      exact h
  | _ => exact iff_of_false (fun h => nomatch h) fun ⟨_, h, _⟩ => nomatch h

end Document

namespace Value

theorem exists_isNumber_iff {found : Option Value} :
    (∃ d v, found = some v ∧ v.IsNumber d) ↔ ∃ v, found = some v ∧ v.Numeric := by
  constructor
  · intro h
    obtain ⟨d, v, hfound, hd⟩ := h
    exact ⟨v, hfound, numeric_iff.mpr ⟨d, hd⟩⟩
  · intro h
    obtain ⟨v, hfound, hv⟩ := h
    obtain ⟨d, hd⟩ := numeric_iff.mp hv
    exact ⟨d, v, hfound, hd⟩

theorem exists_isOptionalNumber_iff {found : Option Value} :
    (∃ d, IsOptionalNumber found d) ↔ ∀ v, found = some v → v = .null ∨ v.Numeric := by
  constructor
  · rintro ⟨d, hd⟩ v rfl
    cases hd with
    | null => exact .inl rfl
    | number hv => exact .inr (numeric_iff.mpr ⟨_, hv⟩)
  · intro h
    cases found with
    | none => exact ⟨none, .absent⟩
    | some v =>
      rcases h v rfl with rfl | hv
      · exact ⟨none, .null⟩
      · obtain ⟨d, hd⟩ := numeric_iff.mp hv
        exact ⟨some d, .number hd⟩

theorem exists_isMeasurement_iff {fields : Entries Value} :
    (∃ m, IsMeasurement fields m) ↔ IsAdmissibleRecord fields := by
  constructor
  · intro h
    obtain ⟨m, h⟩ := h
    exact ⟨⟨_, h.plugin⟩, ⟨_, h.codec⟩, exists_isNumber_iff.mp ⟨_, h.size⟩,
      exists_isNumber_iff.mp ⟨_, h.compressCpu⟩, exists_isNumber_iff.mp ⟨_, h.decompressCpu⟩,
      exists_isOptionalNumber_iff.mp ⟨_, h.compressWall⟩,
      exists_isOptionalNumber_iff.mp ⟨_, h.decompressWall⟩⟩
  · intro h
    obtain ⟨plugin, hplugin⟩ := h.plugin
    obtain ⟨codec, hcodec⟩ := h.codec
    obtain ⟨size, hsize⟩ := exists_isNumber_iff.mpr h.size
    obtain ⟨compressCpu, hcompress⟩ := exists_isNumber_iff.mpr h.compressCpu
    obtain ⟨decompressCpu, hdecompress⟩ := exists_isNumber_iff.mpr h.decompressCpu
    obtain ⟨compressWall, hcompressWall⟩ := exists_isOptionalNumber_iff.mpr h.compressWall
    obtain ⟨decompressWall, hdecompressWall⟩ := exists_isOptionalNumber_iff.mpr h.decompressWall
    exact ⟨⟨plugin, codec, size, compressCpu, decompressCpu, compressWall, decompressWall⟩,
      hplugin, hcodec, hsize, hcompress, hdecompress, hcompressWall, hdecompressWall⟩

theorem exists_isRecord_iff {v : Value} :
    (∃ m, IsRecord v m) ↔ ∃ record, v = .map record ∧ IsAdmissibleRecord record := by
  constructor
  · intro h
    obtain ⟨m, fields, hfields, hm⟩ := h
    exact ⟨fields, hfields, exists_isMeasurement_iff.mp ⟨m, hm⟩⟩
  · intro h
    obtain ⟨fields, hfields, hadmissible⟩ := h
    obtain ⟨m, hm⟩ := exists_isMeasurement_iff.mpr hadmissible
    exact ⟨m, fields, hfields, hm⟩

theorem exists_isDataset_iff {name : String} {fields : Entries Value} :
    (∃ ds, IsDataset name fields ds) ↔ IsAdmissibleDataset fields := by
  constructor
  · intro h
    obtain ⟨ds, h⟩ := h
    obtain ⟨items, hitems, hrecords⟩ := h.records
    refine ⟨exists_isNumber_iff.mp ⟨_, h.size⟩, items, hitems, fun item hitem => ?_⟩
    exact exists_isRecord_iff.mp (exists_forall₂_iff.mp ⟨_, hrecords⟩ item hitem)
  · intro h
    obtain ⟨size, hsize⟩ := exists_isNumber_iff.mpr h.size
    obtain ⟨items, hitems, hrecords⟩ := h.records
    obtain ⟨records, hall⟩ := exists_forall₂_iff.mpr
      fun item hitem => exists_isRecord_iff.mpr (hrecords item hitem)
    exact ⟨⟨name, size, records⟩, rfl, hsize, items, hitems, hall⟩

theorem exists_isMember_iff {entry : String × Value} :
    (∃ sheet, IsMember entry sheet) ↔ ∃ fields, entry.2 = .map fields ∧ IsAdmissibleDataset fields := by
  constructor
  · intro h
    obtain ⟨sheet, -, fields, hfields, hds⟩ := h
    exact ⟨fields, hfields, exists_isDataset_iff.mp ⟨_, hds⟩⟩
  · intro h
    obtain ⟨fields, hfields, hadmissible⟩ := h
    obtain ⟨ds, hds⟩ := exists_isDataset_iff.mpr hadmissible
    exact ⟨(entry.1, ds), rfl, fields, hfields, hds⟩

/-- The admissible values are those that describe a document. -/
theorem exists_describes_iff {v : Value} : (∃ doc, Describes v doc) ↔ v.IsAdmissible := by
  constructor
  · intro h
    obtain ⟨doc, entries, hentries, hmembers⟩ := h
    refine ⟨entries, hentries, fun entry hentry => ?_⟩
    exact exists_isMember_iff.mp (exists_forall₂_iff.mp ⟨doc, hmembers⟩ entry hentry)
  · intro h
    obtain ⟨entries, hentries, hmembers⟩ := h
    obtain ⟨doc, hall⟩ := exists_forall₂_iff.mpr
      fun entry hentry => exists_isMember_iff.mpr (hmembers entry hentry)
    exact ⟨doc, entries, hentries, hall⟩

end Value

namespace Document

/-- A source is read as a document exactly when its value is admissible, as the datasets that the value
describes. All else is a fault of loading. -/
theorem read_exact {raw : Raw} {v : Value} (hvalue : valueOf raw = .ok v) :
    ((∃ doc, read raw = .ok doc) ↔ v.IsAdmissible) ∧
      (∀ doc, read raw = .ok doc → Describes v doc) ∧
      (¬ v.IsAdmissible → ∃ fault, read raw = .error (.load fault)) := by
  have hread : read raw = (ofValue v).mapError fun f => .load (.layout f) := by
    rw [read, hvalue]
    rfl
  have hdescribes : ∀ doc, read raw = .ok doc ↔ Describes v doc := by
    intro doc
    rw [hread, mapError_eq_ok_iff, ofValue_eq_ok_iff]
  have hadmissible : (∃ doc, read raw = .ok doc) ↔ v.IsAdmissible := by
    rw [← Value.exists_describes_iff]
    exact exists_congr hdescribes
  refine ⟨hadmissible, fun doc => (hdescribes doc).mp, fun hnot => ?_⟩
  rw [hread]
  cases hresult : ofValue v with
  | error f => exact ⟨.layout f, rfl⟩
  | ok doc => exact absurd (Value.exists_describes_iff.mp ⟨doc, ofValue_eq_ok_iff.mp hresult⟩) hnot

/-- The value of a document with one record. -/
def oneRecord : Value :=
  .map [("d", .map [
    ("uncompressed-size", .float (Decimal.toDouble ⟨false, 15, -1⟩)),
    ("data", .list [.map [
      ("plugin", .text "p"), ("codec", .text "c"), ("size", .float (Decimal.toDouble ⟨true, 5, -1⟩)),
      ("compress_cpu", .float .nan), ("decompress_cpu", .float .nan), ("compress_wall", .null)]])])]

theorem isAdmissible_oneRecord : oneRecord.IsAdmissible := by
  refine ⟨_, rfl, fun entry hentry => ?_⟩
  obtain rfl := List.mem_singleton.mp hentry
  refine ⟨_, rfl, ⟨_, rfl, trivial⟩, _, rfl, fun item hitem => ?_⟩
  obtain rfl := List.mem_singleton.mp hitem
  exact ⟨_, rfl, ⟨_, rfl⟩, ⟨_, rfl⟩, ⟨_, rfl, trivial⟩, ⟨_, rfl, trivial⟩, ⟨_, rfl, trivial⟩,
    fun _ h => .inl (Option.some.inj h).symm, fun _ h => nomatch h⟩

def oneRecordText : Raw :=
  .text <| "\x7b\"d\":\x7b\"uncompressed-size\":1.5,\"data\":[\x7b\"plugin\":\"p\",\"codec\":\"c\","
    ++ "\"size\":-0.5,\"compress_cpu\":NaN,\"decompress_cpu\":NaN,\"compress_wall\":null\x7d]\x7d\x7d"

set_option maxRecDepth 4000 in
theorem read_exact_oneRecord : valueOf oneRecordText = .ok oneRecord ∧
    ∃ doc, read oneRecordText = .ok doc ∧ Describes oneRecord doc := by
  have hvalue : valueOf oneRecordText = .ok oneRecord := by
    rfl
  obtain ⟨hiff, hdescribes, -⟩ := read_exact hvalue
  obtain ⟨doc, hdoc⟩ := hiff.mpr isAdmissible_oneRecord
  exact ⟨hvalue, doc, hdoc, hdescribes doc hdoc⟩

end Document

end CodecReport
