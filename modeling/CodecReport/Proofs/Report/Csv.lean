import CodecReport.Report.Basic

/-!
# Reading comma-separated values

A reader goes through a text character by character: fields are separated by commas and rows end with a line
feed, and in a field that starts with a quote all characters belong to it up to the quote that closes it, a
doubled quote being one of them. What is read of rows that were written are these rows, whatever characters
their fields have.
-/

namespace CodecReport.Csv

/-- Where a reader is, with what it read of the field: in a field that stands as it is, between the quotes of
one, or behind a quote that closes it unless another one follows. -/
inductive Place
  | plain (field : List Char)
  | quoted (field : List Char)
  | closing (field : List Char)

/-- A reader: the rows it is done with, the fields of the row it is in, and its place. -/
structure Reader where
  rows : List (List String) := []
  fields : List String := []
  place : Place := .plain []

namespace Reader

/-- Behind the end of a field. -/
def endField (r : Reader) (field : List Char) : Reader :=
  { r with fields := r.fields ++ [String.ofList field], place := .plain [] }

/-- Behind the end of a row. -/
def endRow (r : Reader) (field : List Char) : Reader where
  rows := r.rows ++ [r.fields ++ [String.ofList field]]

/-- One more character of a field that does not stand between quotes. -/
def outside (r : Reader) (field : List Char) (c : Char) : Reader :=
  if c = ',' then r.endField field
  else if c = '\n' then r.endRow field
  else { r with place := .plain (field ++ [c]) }

def next (r : Reader) (c : Char) : Reader :=
  match r.place with
  | .plain field => if field = [] ∧ c = '"' then { r with place := .quoted [] } else r.outside field c
  | .quoted field => { r with place := if c = '"' then .closing field else .quoted (field ++ [c]) }
  | .closing field => if c = '"' then { r with place := .quoted (field ++ ['"']) } else r.outside field c

/-- A reader behind some characters. -/
def after (r : Reader) (cs : List Char) : Reader :=
  cs.foldl next r

@[simp] theorem after_nil (r : Reader) : r.after [] = r := rfl

@[simp] theorem after_cons (r : Reader) (c : Char) (cs : List Char) : r.after (c :: cs) = (r.next c).after cs := rfl

@[simp] theorem after_append (r : Reader) (cs more : List Char) : r.after (cs ++ more) = (r.after cs).after more :=
  List.foldl_append

end Reader

/-- The rows of a text, if its last one is ended. -/
def read (text : String) : Option (List (List String)) :=
  match Reader.after {} text.toList with
  | ⟨rows, [], .plain []⟩ => some rows
  | _ => none

/-! ### What is written is what is read -/

variable {rows : List (List String)} {fields : List String}

/-- A reader behind a whole field, which a comma or a line feed ends. -/
def Behind (r : Reader) (rows : List (List String)) (fields : List String) (field : List Char) : Prop :=
  r = ⟨rows, fields, .plain field⟩ ∨ r = ⟨rows, fields, .closing field⟩

theorem Behind.comma {r : Reader} {field : List Char} (h : Behind r rows fields field) :
    r.next ',' = ⟨rows, fields ++ [String.ofList field], .plain []⟩ := by
  rcases h with rfl | rfl
  · exact if_neg fun hquote => absurd hquote.2 (by decide)
  · rfl

theorem Behind.lineFeed {r : Reader} {field : List Char} (h : Behind r rows fields field) :
    r.next '\n' = ⟨rows ++ [fields ++ [String.ofList field]], [], .plain []⟩ := by
  rcases h with rfl | rfl
  · exact if_neg fun hquote => absurd hquote.2 (by decide)
  · rfl

/-- The characters of a field that needs no quotes are read as they stand. -/
theorem after_plain {before cs : List Char} (hplain : needsQuotes cs = false) :
    Reader.after ⟨rows, fields, .plain before⟩ cs = ⟨rows, fields, .plain (before ++ cs)⟩ := by
  induction cs generalizing before with
  | nil => rw [Reader.after_nil, List.append_nil]
  | cons c rest ih =>
    rw [needsQuotes, List.any_cons, Bool.or_eq_false_iff] at hplain
    obtain ⟨hfirst, hrest⟩ := hplain
    simp only [Bool.or_eq_false_iff, beq_eq_false_iff_ne] at hfirst
    obtain ⟨⟨hcomma, hquote⟩, hfeed⟩ := hfirst
    have hstep : Reader.next ⟨rows, fields, .plain before⟩ c = ⟨rows, fields, .plain (before ++ [c])⟩ := by
      rw [Reader.next]
      dsimp only
      rw [if_neg (fun h => hquote h.2), Reader.outside, if_neg hcomma, if_neg hfeed]
    rw [Reader.after_cons, hstep, ih hrest, List.append_assoc]
    rfl

/-- Between quotes the characters of a field are read with its quotes doubled. -/
theorem after_doubled (before cs : List Char) :
    Reader.after ⟨rows, fields, .quoted before⟩ (doubleQuotes cs) = ⟨rows, fields, .quoted (before ++ cs)⟩ := by
  induction cs generalizing before with
  | nil => rw [List.append_nil]; rfl
  | cons c rest ih =>
    rw [doubleQuotes, List.flatMap_cons, Reader.after_append, ← doubleQuotes]
    have hfirst : Reader.after ⟨rows, fields, .quoted before⟩ (if c = '"' then ['"', '"'] else [c]) =
        ⟨rows, fields, .quoted (before ++ [c])⟩ := by
      by_cases hc : c = '"'
      · subst hc
        rfl
      · rw [if_neg hc, Reader.after_cons, Reader.after_nil, Reader.next]
        dsimp only
        rw [if_neg hc]
    rw [hfirst, ih, List.append_assoc]
    rfl

theorem after_field (field : List Char) :
    Behind (Reader.after ⟨rows, fields, .plain []⟩ (writeField field)) rows fields field := by
  rw [writeField]
  split
  next =>
    have hopened : Reader.next ⟨rows, fields, .plain []⟩ '"' = ⟨rows, fields, .quoted []⟩ := rfl
    rw [List.cons_append, Reader.after_cons, hopened, Reader.after_append, after_doubled]
    exact .inr rfl
  next hplain =>
    rw [after_plain (Bool.eq_false_iff.mpr hplain)]
    exact .inl rfl

/-- A row that was written is read field by field. -/
theorem after_row {row : List String} (hrow : row ≠ []) :
    Reader.after ⟨rows, fields, .plain []⟩ (writeRow (row.map String.toList)) =
      ⟨rows ++ [fields ++ row], [], .plain []⟩ := by
  induction row generalizing fields with
  | nil => exact absurd rfl hrow
  | cons field rest ih =>
    have hfield : Behind (Reader.after ⟨rows, fields, .plain []⟩ (writeField field.toList)) rows fields field.toList :=
      after_field field.toList
    cases rest with
    | nil =>
      rw [writeRow, List.map_singleton, List.map_singleton, Text.joinWith, Reader.after_append, Reader.after_cons,
        hfield.lineFeed, String.ofList_toList, Reader.after_nil]
    | cons next more =>
      have hsplit : writeRow ((field :: next :: more).map String.toList) =
          writeField field.toList ++ ',' :: writeRow ((next :: more).map String.toList) := by
        simp [writeRow, Text.joinWith]
      rw [hsplit, Reader.after_append, Reader.after_cons, hfield.comma, ih (List.cons_ne_nil _ _),
        String.ofList_toList, List.append_assoc]
      rfl

/-- Rows that are written are read back, whatever characters their fields have. -/
theorem read_write {table : List (List String)} (hrows : ∀ row ∈ table, row ≠ []) :
    read (write table) = some table := by
  have hafter : ∀ done : List (List String),
      Reader.after ⟨done, [], .plain []⟩ (table.flatMap fun row => writeRow (row.map String.toList)) =
        ⟨done ++ table, [], .plain []⟩ := by
    induction table with
    | nil =>
      intro done
      rw [List.append_nil]
      rfl
    | cons row rest ih =>
      intro done
      obtain ⟨hfirst, hrest⟩ := List.forall_mem_cons.mp hrows
      rw [List.flatMap_cons, Reader.after_append, after_row hfirst, ih hrest, List.append_assoc]
      rfl
  rw [read, write, String.toList_ofList]
  have hall := hafter []
  rw [List.nil_append] at hall
  rw [hall]

end CodecReport.Csv
