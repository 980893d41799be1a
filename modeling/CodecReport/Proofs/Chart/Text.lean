import CodecReport.Chart.Figure
import CodecReport.Proofs.Document.Nesting
import CodecReport.Proofs.Number.Numeral
import CodecReport.Proofs.Text.Split

/-!
# Reading the text of a figure

Lists and objects are read off a text by their commas: those outside of brackets and strings stand between the items
of a list, or between the members of an object, whose names end at the first colon. Nothing else of the format is
known to the reader. Whatever a figure writes is `Whole`: no such comma is inside of it, wherever it stands. So the
lists and objects that are read are those that were written, down to the traces of the figure, their coordinates and
the rows that they have selected.
-/

namespace CodecReport

open Text

namespace Json

/-! ### Parts of a text -/

/-- The parts of a text between the commas that stand outside of brackets and strings, `place` being the place where
the text begins. -/
def partsFrom (place : Nesting) : List Char → List (List Char)
  | [] => [[]]
  | c :: rest =>
    if place = ⟨0, .plain⟩ ∧ c = ',' then [] :: partsFrom place rest
    else (partsFrom (place.step c) rest).modifyHead (c :: ·)

def parts (cs : List Char) : List (List Char) :=
  if cs.isEmpty then [] else partsFrom ⟨0, .plain⟩ cs

/-- What stands between two marks at the ends of a text; nothing if they do not stand there. -/
def inside (opening closing : Char) (cs : List Char) : List Char :=
  if cs.head? = some opening ∧ cs.getLast? = some closing then (cs.drop 1).dropLast else []

/-- The items of a list. -/
def items (s : String) : List String :=
  (parts (inside '[' ']' s.toList)).map String.ofList

/-- A member of an object: its name without the quotes, and its value. -/
def member? (part : List Char) : Option (String × String) :=
  match cutAt ':' part with
  | (name, some value) => some (String.ofList (inside '"' '"' name), String.ofList value)
  | (_, none) => none

def members (s : String) : Entries String :=
  (parts (inside '\x7b' '\x7d' s.toList)).filterMap member?

/-- The items of the list that an object has under a name, if it has one. -/
def listAt? (key object : String) : Option (List String) :=
  (Entries.get? (members object) key).map items

/-- Reading goes through a text, from a place to another one, and splits it nowhere. -/
def Passes (start stop : Nesting) (cs : List Char) : Prop :=
  ∀ rest, partsFrom start (cs ++ rest) = (partsFrom stop rest).modifyHead (cs ++ ·)

namespace Passes

variable {start place stop : Nesting} {cs ds : List Char}

theorem nil (place : Nesting) : Passes place place [] :=
  fun rest => (congrFun List.modifyHead_id (partsFrom place rest)).symm

theorem append (hcs : Passes start place cs) (hds : Passes place stop ds) : Passes start stop (cs ++ ds) := by
  intro rest
  rw [List.append_assoc, hcs, hds, List.modifyHead_modifyHead]
  congr 1
  funext part
  exact (List.append_assoc ..).symm

theorem step {c : Char} (hsplit : ¬ (start = ⟨0, .plain⟩ ∧ c = ',')) : Passes start (start.step c) [c] := by
  intro rest
  exact if_neg hsplit

theorem quoted {c : Char} (depth : Nat) (hquote : c ≠ '"') (hescape : c ≠ '\\') :
    Passes ⟨depth, .quoted⟩ ⟨depth, .quoted⟩ [c] := by
  have hone : Passes ⟨depth, .quoted⟩ (Nesting.step ⟨depth, .quoted⟩ c) [c] := step (by simp)
  rwa [Nesting.step_quoted hquote hescape] at hone

theorem flat {c : Char} (depth : Nat) (hflat : isFlat c = true) (hcomma : c ≠ ',') :
    Passes ⟨depth, .plain⟩ ⟨depth, .plain⟩ [c] := by
  have hone : Passes ⟨depth, .plain⟩ (Nesting.step ⟨depth, .plain⟩ c) [c] := step fun h => hcomma h.2
  rwa [Nesting.step_of_isFlat hflat] at hone

/-- Reading goes through characters that it goes through one by one. -/
theorem of_forall (hcs : ∀ c ∈ cs, Passes place place [c]) : Passes place place cs := by
  induction cs with
  | nil => exact nil place
  | cons c rest ih =>
    obtain ⟨hfirst, hrest⟩ := List.forall_mem_cons.mp hcs
    exact hfirst.append (ih hrest)

theorem flatMap {α : Type} {f : α → List Char} {as : List α} (has : ∀ a ∈ as, Passes place place (f a)) :
    Passes place place (as.flatMap f) := by
  induction as with
  | nil => exact nil place
  | cons a rest ih =>
    obtain ⟨hfirst, hrest⟩ := List.forall_mem_cons.mp has
    exact hfirst.append (ih hrest)

/-- Inside of brackets commas split nothing. -/
theorem joinWith {depth : Nat} {pieces : List (List Char)}
    (hpieces : ∀ piece ∈ pieces, Passes ⟨depth + 1, .plain⟩ ⟨depth + 1, .plain⟩ piece) :
    Passes ⟨depth + 1, .plain⟩ ⟨depth + 1, .plain⟩ (Text.joinWith ',' pieces) := by
  induction pieces with
  | nil => exact nil _
  | cons piece more ih =>
    obtain ⟨hpiece, hmore⟩ := List.forall_mem_cons.mp hpieces
    by_cases hlast : more = []
    · rwa [hlast]
    · have hcomma : Passes ⟨depth + 1, .plain⟩ ⟨depth + 1, .plain⟩ [','] := step (by simp)
      rw [joinWith_cons_of_ne_nil piece hlast]
      exact hpiece.append (hcomma.append (ih hmore))

end Passes

/-- Outside of brackets the pieces that commas join are the parts. -/
theorem partsFrom_joinWith {pieces : List (List Char)}
    (hpieces : ∀ piece ∈ pieces, Passes ⟨0, .plain⟩ ⟨0, .plain⟩ piece) (hne : pieces ≠ []) :
    partsFrom ⟨0, .plain⟩ (joinWith ',' pieces) = pieces := by
  induction pieces with
  | nil => exact absurd rfl hne
  | cons piece more ih =>
    obtain ⟨hpiece, hmore⟩ := List.forall_mem_cons.mp hpieces
    by_cases hlast : more = []
    · subst hlast
      have hend := hpiece []
      rw [List.append_nil] at hend
      rw [joinWith, hend, partsFrom, List.modifyHead_cons, List.append_nil]
    · have hcomma : partsFrom ⟨0, .plain⟩ (',' :: joinWith ',' more) =
          [] :: partsFrom ⟨0, .plain⟩ (joinWith ',' more) := if_pos ⟨rfl, rfl⟩
      rw [joinWith_cons_of_ne_nil piece hlast, hpiece, hcomma, ih hmore hlast, List.modifyHead_cons, List.append_nil]

theorem inside_append (opening closing : Char) (cs : List Char) :
    inside opening closing (opening :: cs ++ [closing]) = cs := by
  rw [inside, if_pos ⟨rfl, List.getLast?_concat⟩]
  exact List.dropLast_concat

/-! ### Whole texts -/

/-- A text that reading never splits, wherever it stands. -/
structure Whole (s : String) : Prop where
  ne_nil : s.toList ≠ []
  passes : ∀ depth, Passes ⟨depth, .plain⟩ ⟨depth, .plain⟩ s.toList

theorem Whole.of_flat {s : String} (hne : s.toList ≠ [])
    (hflat : (s.toList.all fun c => isFlat c && c != ',') = true) : Whole s where
  ne_nil := hne
  passes depth := by
    refine .of_forall fun c hc => ?_
    obtain ⟨hplain, hcomma⟩ := Bool.and_eq_true_iff.mp (List.all_eq_true.mp hflat c hc)
    exact .flat depth hplain (bne_iff_ne.mp hcomma)

theorem parts_joinWith {texts : List String} (htexts : ∀ text ∈ texts, Whole text) :
    parts (joinWith ',' (texts.map String.toList)) = texts.map String.toList := by
  cases texts with
  | nil => rfl
  | cons first rest =>
    have hne : joinWith ',' ((first :: rest).map String.toList) ≠ [] := by
      obtain ⟨c, hc⟩ := List.exists_mem_of_ne_nil _ (htexts first List.mem_cons_self).ne_nil
      exact List.ne_nil_of_mem (mem_joinWith_of_mem (List.mem_map_of_mem List.mem_cons_self) hc)
    rw [parts, if_neg (by simpa using hne)]
    refine partsFrom_joinWith (fun piece hpiece => ?_) (List.cons_ne_nil _ _)
    obtain ⟨text, htext, rfl⟩ := List.mem_map.mp hpiece
    exact (htexts text htext).passes 0

end Json

/-! ### Lists and objects -/

namespace Figure

open Json

/-- The properties of an object with their texts; what is left open is no property. -/
def properties (entries : List (String × Option String)) : Entries String :=
  entries.filterMap fun (key, value) => value.map fun text => (key, text)

/-- A property of an object, as it is written. -/
def propertyText (property : String × String) : String :=
  string property.1 ++ ":" ++ property.2

theorem toList_array (texts : List String) :
    (array texts).toList = '[' :: joinWith ',' (texts.map String.toList) ++ [']'] := by
  rw [array, String.toList_append, String.toList_append, String.toList_intercalate]
  exact congrArg (fun cs => '[' :: cs ++ [']']) (intercalate_eq_joinWith _)

theorem toList_object (entries : List (String × Option String)) : (object entries).toList =
    '\x7b' :: joinWith ',' (((properties entries).map propertyText).map String.toList) ++ ['\x7d'] := by
  have hproperties : (entries.filterMap fun (key, value) => value.map fun text => string key ++ ":" ++ text) =
      (properties entries).map propertyText := by
    rw [properties, List.map_filterMap]
    simp only [Option.map_map]
    rfl
  rw [object, hproperties, String.toList_append, String.toList_append, String.toList_intercalate]
  exact congrArg (fun cs => '\x7b' :: cs ++ ['\x7d']) (intercalate_eq_joinWith _)

theorem toList_string (s : String) : (string s).toList = '"' :: s.toList.flatMap escapeChar ++ ['"'] :=
  String.toList_ofList

/-- The digits of a control character neither end a string nor escape what follows. -/
theorem digit_of_control {code : Nat} (hcontrol : code < 0x20) {d : Char} (hd : d ∈ hexDigits 4 code) :
    d ≠ '"' ∧ d ≠ '\\' := by
  have hall : ((List.range 0x20).all fun code => (hexDigits 4 code).all fun d => d != '"' && d != '\\') = true := by
    decide
  have hcode := List.all_eq_true.mp hall code (List.mem_range.mpr hcontrol)
  obtain ⟨hquote, hmark⟩ := Bool.and_eq_true_iff.mp (List.all_eq_true.mp hcode d hd)
  exact ⟨bne_iff_ne.mp hquote, bne_iff_ne.mp hmark⟩

/-- A character of a string is written without an end to the string. -/
theorem passes_escapeChar (depth : Nat) (c : Char) :
    Passes ⟨depth, .quoted⟩ ⟨depth, .quoted⟩ (escapeChar c) := by
  have hescape (d : Char) : Passes ⟨depth, .quoted⟩ ⟨depth, .quoted⟩ ['\\', d] := by
    have hmark : Passes ⟨depth, .quoted⟩ ⟨depth, .escaped⟩ ['\\'] := .step (by simp)
    have hescaped : Passes ⟨depth, .escaped⟩ ⟨depth, .quoted⟩ [d] := .step (by simp)
    exact hmark.append hescaped
  have hplain (hquote : c ≠ '"') (hmark : c ≠ '\\') : Passes ⟨depth, .quoted⟩ ⟨depth, .quoted⟩ [c] :=
    .quoted depth hquote hmark
  have hcode (hcontrol : c.toNat < 0x20) :
      Passes ⟨depth, .quoted⟩ ⟨depth, .quoted⟩ ('\\' :: 'u' :: hexDigits 4 c.toNat) :=
    (hescape 'u').append (.of_forall fun _ hd =>
      .quoted depth (digit_of_control hcontrol hd).1 (digit_of_control hcontrol hd).2)
  simp only [escapeChar, Bool.or_eq_true, beq_iff_eq]
  split_ifs with hquoted
  case neg => exact hplain (fun hquote => hquoted (.inl hquote)) fun hmark => hquoted (.inr hmark)
  all_goals first | exact hescape _ | exact hcode ‹_›

@[simp] theorem whole_string (s : String) : Whole (string s) where
  ne_nil := by
    rw [toList_string]
    exact List.cons_ne_nil _ _
  passes depth := by
    have hopen : Passes ⟨depth, .plain⟩ ⟨depth, .quoted⟩ ['"'] := .step (by simp)
    have hclose : Passes ⟨depth, .quoted⟩ ⟨depth, .plain⟩ ['"'] := .step (by simp)
    rw [toList_string]
    exact (hopen.append (.flatMap fun c _ => passes_escapeChar depth c)).append hclose

@[simp] theorem whole_nat (n : Nat) : Whole (toString n) := by
  have hdigits : ∀ c ∈ (toString n).toList, isAsciiDigit c = true := by
    rw [toList_toString]
    exact isAsciiDigit_of_mem_decimalDigits
  have hne : (toString n).toList ≠ [] := by
    rw [toList_toString]
    exact decimalDigits_ne_nil n
  refine .of_flat hne (List.all_eq_true.mpr fun c hc => Bool.and_eq_true_iff.mpr
    ⟨isFlat_of_isAsciiDigit (hdigits c hc), bne_iff_ne.mpr ?_⟩)
  rintro rfl
  exact absurd (hdigits _ hc) (by decide)

@[simp] theorem whole_int (i : Int) : Whole (toString i) := by
  cases i with
  | ofNat n => exact whole_nat n
  | negSucc n =>
    have hsign : Whole "-" := .of_flat (by decide) (by decide)
    have htext : (toString (Int.negSucc n)).toList = "-".toList ++ (toString (n + 1)).toList := String.toList_append
    refine ⟨?_, fun depth => ?_⟩
    · rw [htext]
      exact List.cons_ne_nil _ _
    · rw [htext]
      exact (hsign.passes depth).append ((whole_nat (n + 1)).passes depth)

@[simp] theorem whole_bool (b : Bool) : Whole (bool b) := by
  cases b <;> exact .of_flat (by decide) (by decide)

@[simp] theorem whole_coordinate (value : Option Double) : Whole (coordinate value) := by
  cases value with
  | none => exact .of_flat (by decide) (by decide)
  | some d => exact whole_string d.text

/-- What stands in brackets is whole if its items are. -/
theorem whole_array {texts : List String} (htexts : ∀ text ∈ texts, Whole text) : Whole (array texts) where
  ne_nil := by
    rw [toList_array]
    exact List.cons_ne_nil _ _
  passes depth := by
    have hopen : Passes ⟨depth, .plain⟩ ⟨depth + 1, .plain⟩ ['['] := .step (by simp)
    have hclose : Passes ⟨depth + 1, .plain⟩ ⟨depth, .plain⟩ [']'] := .step (by simp)
    rw [toList_array]
    refine (hopen.append (.joinWith fun piece hpiece => ?_)).append hclose
    obtain ⟨text, htext, rfl⟩ := List.mem_map.mp hpiece
    exact (htexts text htext).passes (depth + 1)

theorem whole_array_map {α : Type} {f : α → String} (hf : ∀ a, Whole (f a)) (as : List α) :
    Whole (array (as.map f)) := by
  refine whole_array fun text htext => ?_
  obtain ⟨a, _, rfl⟩ := List.mem_map.mp htext
  exact hf a

theorem whole_propertyText {property : String × String} (htext : Whole property.2) : Whole (propertyText property) := by
  have hcolon : Whole ":" := .of_flat (by decide) (by decide)
  have hproperty : (propertyText property).toList = (string property.1).toList ++ ":".toList ++ property.2.toList := by
    rw [propertyText, String.toList_append, String.toList_append]
  refine ⟨?_, fun depth => ?_⟩
  · rw [hproperty, toList_string]
    exact List.cons_ne_nil _ _
  · rw [hproperty]
    exact (((whole_string property.1).passes depth).append (hcolon.passes depth)).append (htext.passes depth)

theorem mem_properties {entries : List (String × Option String)} {property : String × String} :
    property ∈ properties entries ↔ (property.1, some property.2) ∈ entries := by
  simp only [properties, List.mem_filterMap, Prod.exists, Option.map_eq_some_iff]
  constructor
  · rintro ⟨key, value, hentry, text, rfl, rfl⟩
    exact hentry
  · intro hentry
    exact ⟨property.1, some property.2, hentry, property.2, rfl, rfl⟩

theorem keys_properties_sublist (entries : List (String × Option String)) :
    (Entries.keys (properties entries)).Sublist (entries.map Prod.fst) := by
  induction entries with
  | nil => exact .slnil
  | cons entry rest ih =>
    obtain ⟨key, _ | text⟩ := entry
    · exact ih.cons key
    · exact ih.cons_cons key

/-! ### What is read of lists and objects -/

/-- The items that are read are the items that were written. -/
theorem items_array {texts : List String} (htexts : ∀ text ∈ texts, Whole text) : items (array texts) = texts := by
  rw [items, toList_array, inside_append, parts_joinWith htexts, List.map_map]
  exact (List.map_congr_left fun text _ => String.ofList_toList).trans (List.map_id texts)

theorem items_array_map {α : Type} {f : α → String} (hf : ∀ a, Whole (f a)) (as : List α) :
    items (array (as.map f)) = as.map f := by
  refine items_array fun text htext => ?_
  obtain ⟨a, _, rfl⟩ := List.mem_map.mp htext
  exact hf a

theorem escapeChar_of_isAlpha {c : Char} (hletter : c.isAlpha = true) : escapeChar c = [c] := by
  have hupper (h : c.isUpper = true) : 65 ≤ c.toNat := (of_decide_eq_true h).1
  have hlower (h : c.isLower = true) : 97 ≤ c.toNat := of_decide_eq_true (Bool.and_eq_true_iff.mp h).1
  have hcode : 65 ≤ c.toNat :=
    (Bool.or_eq_true_iff.mp hletter).elim hupper fun h => Nat.le_trans (by decide) (hlower h)
  have hne {d : Char} (hd : d.isAlpha = false) : (c == d) = false := by
    rw [beq_eq_false_iff_ne]
    rintro rfl
    exact absurd hletter (by simp [hd])
  rw [escapeChar, hne rfl, hne rfl, hne rfl, hne rfl, hne rfl, hne rfl, hne rfl]
  simp only [Bool.or_false, Bool.false_eq_true, if_false]
  exact if_neg (Nat.not_lt.mpr (Nat.le_trans (by decide) hcode))

/-- A name of letters stands between its quotes as it is. -/
theorem toList_string_of_letters {name : String} (hname : name.toList.all Char.isAlpha = true) :
    (string name).toList = '"' :: name.toList ++ ['"'] := by
  have hescape : ∀ c ∈ name.toList, escapeChar c = [c] :=
    fun c hc => escapeChar_of_isAlpha (List.all_eq_true.mp hname c hc)
  rw [toList_string, List.flatMap_congr hescape, List.flatMap_singleton']

theorem member?_propertyText {property : String × String} (hname : property.1.toList.all Char.isAlpha = true) :
    member? (propertyText property).toList = some property := by
  have hcolon : ':' ∉ '"' :: property.1.toList ++ ['"'] := by
    simp only [List.cons_append, List.mem_cons, List.mem_append, List.not_mem_nil, or_false, not_or]
    exact ⟨by decide, fun hmem => absurd (List.all_eq_true.mp hname _ hmem) (by decide), by decide⟩
  have hproperty : (propertyText property).toList =
      ('"' :: property.1.toList ++ ['"']) ++ ':' :: property.2.toList := by
    rw [propertyText, String.toList_append, String.toList_append, toList_string_of_letters hname, List.append_assoc]
    rfl
  rw [hproperty, member?, cutAt_append_cons hcolon]
  simp only [inside_append, String.ofList_toList]

/-- Names that are made of letters and do not repeat. -/
def AreNames (names : List String) : Prop :=
  names.Nodup ∧ ∀ name ∈ names, name.toList.all Char.isAlpha = true

instance : DecidablePred AreNames :=
  fun _ => inferInstanceAs (Decidable (_ ∧ _))

/-- Entries of an object that can be read back: under names there are whole texts. -/
structure Readable (entries : List (String × Option String)) : Prop where
  names : AreNames (entries.map Prod.fst)
  texts : ∀ entry ∈ entries, ∀ text ∈ entry.2, Whole text

namespace Readable

variable {entries : List (String × Option String)}

/-- An object is whole if what stands in it is. -/
theorem whole_object (h : Readable entries) : Whole (object entries) where
  ne_nil := by
    rw [toList_object]
    exact List.cons_ne_nil _ _
  passes depth := by
    have hopen : Passes ⟨depth, .plain⟩ ⟨depth + 1, .plain⟩ ['\x7b'] := .step (by simp)
    have hclose : Passes ⟨depth + 1, .plain⟩ ⟨depth, .plain⟩ ['\x7d'] := .step (by simp)
    rw [toList_object]
    refine (hopen.append (.joinWith fun piece hpiece => ?_)).append hclose
    obtain ⟨_, htext, rfl⟩ := List.mem_map.mp hpiece
    obtain ⟨property, hproperty, rfl⟩ := List.mem_map.mp htext
    exact (whole_propertyText (h.texts _ (mem_properties.mp hproperty) _ rfl)).passes (depth + 1)

/-- The members that are read are the properties that were written. -/
theorem members_object (h : Readable entries) : members (object entries) = properties entries := by
  have hwhole : ∀ text ∈ (properties entries).map propertyText, Whole text := by
    intro text htext
    obtain ⟨property, hproperty, rfl⟩ := List.mem_map.mp htext
    exact whole_propertyText (h.texts _ (mem_properties.mp hproperty) _ rfl)
  have hread : (properties entries).filterMap (member? ∘ String.toList ∘ propertyText) =
      (properties entries).filterMap some := by
    refine List.filterMap_congr fun property hproperty => ?_
    rw [Function.comp_apply, Function.comp_apply]
    exact member?_propertyText (h.names.2 _ (List.mem_map_of_mem (mem_properties.mp hproperty)))
  rw [members, toList_object, inside_append, parts_joinWith hwhole, List.map_map, List.filterMap_map, hread]
  exact List.filterMap_some

/-- Under a name stands what was written for it, if anything was. -/
theorem get?_object (h : Readable entries) {entry : String × Option String} (hentry : entry ∈ entries) :
    Entries.get? (members (object entries)) entry.1 = entry.2 := by
  have hnodup := (keys_properties_sublist entries).nodup h.names.1
  obtain ⟨name, value⟩ := entry
  rw [h.members_object]
  cases value with
  | some text =>
    have hproperty : (name, text) ∈ properties entries := mem_properties.mpr hentry
    exact Entries.get?_of_mem hnodup hproperty
  | none =>
    rw [Entries.get?_eq_none_iff]
    intro hname
    obtain ⟨property, hproperty, hsame⟩ := List.mem_map.mp hname
    have hequal := List.inj_on_of_nodup_map h.names.1 (mem_properties.mp hproperty) hentry hsame
    cases congrArg Prod.snd hequal

theorem listAt?_object (h : Readable entries) {name : String} {value : Option String}
    (hentry : (name, value) ∈ entries) : listAt? name (object entries) = value.map items :=
  congrArg (Option.map items) (h.get?_object hentry)

end Readable

/-! ### Traces -/

@[simp] theorem whole_coordinates (values : List (Option Double)) : Whole (coordinates values) :=
  whole_array_map whole_coordinate values

@[simp] theorem whole_positions (values : List Nat) : Whole (positions values) :=
  whole_array_map whole_nat values

@[simp] theorem whole_strings (values : List String) : Whole (strings values) :=
  whole_array_map whole_string values

theorem items_positions (values : List Nat) : items (positions values) = values.map toString :=
  items_array_map whole_nat values

theorem map_items_selection (rows : List Nat) :
    (selection rows).map items = if rows = [] then none else some (rows.map toString) := by
  cases rows with
  | nil => rfl
  | cons row rest => exact congrArg some (items_positions (row :: rest))

theorem readable_trace (trace : Trace) : Readable (traceEntries trace) := by
  cases trace with
  | bars name lengths rows =>
    have hnames : AreNames ["name", "orientation", "selectedpoints", "type", "x", "y"] := by decide
    exact ⟨hnames, by simp [traceEntries, selection]⟩
  | points name hover x y text rows =>
    have hnames : AreNames ["hovertemplate", "mode", "name", "selectedpoints", "text", "type", "x", "y"] := by decide
    exact ⟨hnames, by simp [traceEntries, selection]⟩

end Figure

namespace Trace

open Json Figure

def selected : Trace → List Nat
  | .bars _ _ selected => selected
  | .points _ _ _ _ _ selected => selected

/-- What is read of a trace in its text: its coordinates in their order, those of bars being lengths at the positions
from zero on, and its texts if it has any. -/
def ReadsAs (text : String) : Trace → Prop
  | .bars _ lengths _ => listAt? "x" text = some (lengths.map coordinate) ∧
    listAt? "y" text = some ((List.range lengths.length).map toString)
  | .points _ _ x y texts _ => listAt? "x" text = some (x.map coordinate) ∧
    listAt? "y" text = some (y.map coordinate) ∧ listAt? "text" text = texts.map (·.map string)

/-- The text of a trace lists just these rows as selected, under a name that is absent if there are none. -/
def SelectsIn (text : String) (rows : List Nat) : Prop :=
  listAt? "selectedpoints" text = if rows = [] then none else some (rows.map toString)

theorem selectsIn_traceText (trace : Trace) : SelectsIn (traceText trace) trace.selected := by
  have hrows : ("selectedpoints", selection trace.selected) ∈ traceEntries trace := by
    cases trace <;> simp [traceEntries, selected]
  rw [SelectsIn, ← map_items_selection]
  exact (readable_trace trace).listAt?_object hrows

end Trace

/-! ### Figures -/

namespace Figure

open Json

@[simp] theorem whole_traceText (trace : Trace) : Whole (traceText trace) :=
  (readable_trace trace).whole_object

@[simp] theorem whole_titleText (title : String) : Whole (titleText title) := by
  have hnames : AreNames ["text"] := by decide
  exact Readable.whole_object ⟨hnames, by simp⟩

@[simp] theorem whole_margins : Whole margins := by
  have hnames : AreNames ["b", "l", "r", "t"] := by decide
  refine Readable.whole_object ⟨hnames, ?_⟩
  simpa using ⟨whole_nat 50, whole_nat 90, whole_nat 30, whole_nat 50⟩

theorem readable_axis (axis : Axis) (categories : Option (List String)) : Readable (axisEntries axis categories) := by
  have hnames : AreNames ["autorange", "rangemode", "tickmode", "ticktext", "tickvals", "title"] := by decide
  exact ⟨hnames, by simp [axisEntries]⟩

theorem whole_axisText {axis : Axis} {categories : Option (List String)} {text : String}
    (htext : axisText axis categories = some text) : Whole text := by
  rw [axisText] at htext
  split at htext
  · cases htext
  · obtain rfl := Option.some.inj htext
    exact (readable_axis axis categories).whole_object

theorem readable_layout (f : Figure) : Readable f.layoutEntries := by
  have hnames : AreNames ["barmode", "clickmode", "height", "margin", "showlegend", "title", "xaxis", "yaxis"] := by
    decide
  refine ⟨hnames, ?_⟩
  have haxis (axis : Axis) (categories : Option (List String)) :
      ∀ text, axisText axis categories = some text → Whole text := fun _ => whole_axisText
  simpa [layoutEntries] using ⟨fun height _ => whole_int height, haxis f.horizontal none, haxis f.vertical f.categories⟩

theorem readable_figure (f : Figure) : Readable f.entries := by
  have hnames : AreNames ["config", "data", "layout"] := by decide
  have hconfig : Readable [("displayModeBar", bool false), ("responsive", bool false)] := by
    have hfixed : AreNames ["displayModeBar", "responsive"] := by decide
    exact ⟨hfixed, by simp⟩
  refine ⟨hnames, ?_⟩
  simpa [entries] using ⟨hconfig.whole_object, whole_array_map whole_traceText f.traces, f.readable_layout.whole_object⟩

/-- The traces of a figure stand in its text as the list of the data. -/
theorem listAt?_data (f : Figure) : listAt? "data" f.text = some (f.traces.map traceText) := by
  have hdata : ("data", some (array (f.traces.map traceText))) ∈ f.entries := by simp [entries]
  rw [text, f.readable_figure.listAt?_object hdata, Option.map_some, items_array_map whole_traceText]

/-- The text of a chart inside of its element. -/
def chartText? (html : String) : Option String :=
  match cutAt '>' html.toList with
  | (_, some rest) => (rest.dropSuffix? "</div>".toList).map String.ofList
  | (_, none) => none

theorem chartText?_html (f : Figure) {container : String} (hplain : '>' ∉ container.toList) :
    chartText? (f.html container) = some f.text := by
  have hhtml : (f.html container).toList =
      ("<div id=\"".toList ++ container.toList ++ "\" class=\"plotly-graph-div\"".toList) ++
        '>' :: (f.text.toList ++ "</div>".toList) := by
    simp [html]
  have hopening : '>' ∉ "<div id=\"".toList ++ container.toList ++ "\" class=\"plotly-graph-div\"".toList := by
    simp only [List.mem_append, not_or]
    exact ⟨⟨by decide, hplain⟩, by decide⟩
  have hinside : (f.text.toList ++ "</div>".toList).dropSuffix? "</div>".toList = some f.text.toList :=
    List.dropSuffix?_eq_some_iff.mpr ⟨_, rfl, beq_self_eq_true _⟩
  rw [chartText?, hhtml, cutAt_append_cons hopening]
  dsimp only
  rw [hinside, Option.map_some, String.ofList_toList]

end Figure

end CodecReport
