import CodecReport.Proofs.Page.Wording
import CodecReport.Proofs.Panel.Marks
import Mathlib.Data.List.Sort

/-!
# Highlighted rows

The configuration lists codecs to be highlighted. When the panel of a dataset is handed over, the rows of the listed
records are selected in all that is on show, and no others; and what the page takes of the panel marks them in the
table and in every chart.
-/

namespace CodecReport.Page

open Board (Sound SameFrame Reached)

/-! ### Which rows are highlighted -/

/-- A record is listed by its codec, or by plugin and codec. Capital letters count as small ones. -/
def Listed (wanted : List Value) (m : Measurement) : Prop :=
  ∃ entry ∈ wanted, ∃ text, entry.told = .ok text ∧
    (Text.lower text = Text.lower (m.plugin ++ ":" ++ m.codec) ∨ Text.lower text = Text.lower m.codec)

/-- The rows of the listed records of a dataset, in increasing order. -/
structure Highlighted (wanted : List Value) (ds : Dataset) (rows : List Nat) : Prop where
  increasing : rows.Pairwise (· < ·)
  mem_iff : ∀ i, i ∈ rows ↔ ∃ m, ds.records[i]? = some m ∧ Listed wanted m

/-- There is one such list. -/
theorem Highlighted.unique {wanted : List Value} {ds : Dataset} {rows others : List Nat}
    (h : Highlighted wanted ds rows) (hothers : Highlighted wanted ds others) : rows = others :=
  h.increasing.eq_of_mem_iff hothers.increasing fun {i} => (h.mem_iff i).trans (hothers.mem_iff i).symm

section Rows

variable {wanted : List Value} {keys : List String}

theorem exists_highlightKeys (htold : ∀ entry ∈ wanted, ∃ text, entry.told = .ok text) :
    ∃ keys, highlightKeys wanted = .ok keys := by
  refine exists_mapM_ok_iff.mpr fun entry hentry => ?_
  obtain ⟨text, htext⟩ := htold entry hentry
  exact ⟨Text.lower text, map_eq_ok_iff.mpr ⟨text, htext, rfl⟩⟩

theorem highlightKeys_eq_error (huntold : ∃ entry ∈ wanted, ∃ fault, entry.told = .error fault) :
    ∃ fault, highlightKeys wanted = .error fault := by
  obtain ⟨entry, hentry, fault, hfault⟩ := huntold
  cases hkeys : highlightKeys wanted with
  | error found => exact ⟨found, rfl⟩
  | ok keys =>
    obtain ⟨key, hkey⟩ := exists_mapM_ok_iff.mp ⟨keys, hkeys⟩ entry hentry
    obtain ⟨text, htext, _⟩ := map_eq_ok_iff.mp hkey
    cases htext.symm.trans hfault

theorem mem_highlightKeys (hkeys : highlightKeys wanted = .ok keys) {key : String} :
    key ∈ keys ↔ ∃ entry ∈ wanted, ∃ text, entry.told = .ok text ∧ Text.lower text = key := by
  rw [highlightKeys, mapM_eq_ok_iff] at hkeys
  induction hkeys with
  | nil => simp
  | cons hfirst _ ih =>
    obtain ⟨text, htext, rfl⟩ := map_eq_ok_iff.mp hfirst
    simp [ih, htext, eq_comm]

theorem isHighlighted_iff (hkeys : highlightKeys wanted = .ok keys) (m : Measurement) :
    isHighlighted keys m = true ↔ Listed wanted m := by
  rw [isHighlighted, Bool.or_eq_true, List.contains_iff_mem, List.contains_iff_mem, mem_highlightKeys hkeys,
    mem_highlightKeys hkeys, Listed]
  simp only [and_or_left, exists_or]

theorem mem_highlightRows {ds : Dataset} {pick : Pick} :
    pick ∈ highlightRows keys ds ↔ ∃ (i : Nat) (m : Measurement),
      ds.records[i]? = some m ∧ isHighlighted keys m = true ∧ pick = ⟨some i, none⟩ := by
  simp only [highlightRows, List.mem_map, List.mem_filter, Prod.exists, List.mem_zipIdx_iff_getElem?]
  constructor
  · rintro ⟨m, i, ⟨hm, hkey⟩, rfl⟩
    exact ⟨i, m, hm, hkey, rfl⟩
  · rintro ⟨i, m, hm, hkey, rfl⟩
    exact ⟨m, i, ⟨hm, hkey⟩, rfl⟩

theorem highlighted_rows (hkeys : highlightKeys wanted = .ok keys) (ds : Dataset) :
    Highlighted wanted ds ((highlightRows keys ds).rows ds.records.length) where
  increasing := List.pairwise_lt_range.filter _
  mem_iff i := by
    simp only [Selection.mem_rows, mem_highlightRows, ← isHighlighted_iff hkeys]
    constructor
    · rintro ⟨_, _, ⟨j, m, hm, hkey, rfl⟩, hrow⟩
      obtain rfl : j = i := by simpa using hrow
      exact ⟨m, hm, hkey⟩
    · rintro ⟨m, hm, hkey⟩
      exact ⟨(List.getElem?_eq_some_iff.mp hm).1, _, ⟨i, m, hm, hkey, rfl⟩, rfl⟩

end Rows

/-! ### What is handed over -/

/-- Hands over panels that are on show already, one after the other, and takes them into the page. -/
def handOver (initial : Option String) (onPanel : String → Board → Act Unit) :
    Entries Board → Act (Entries String)
  | [] => return []
  | (name, shown) :: rest => do
    for notice in (shown.current.map Panel.notices).getD [] do
      Act.log .error boardLogName notice.logLine
    onPanel name shown
    let html ← Act.ofResult (shown.html (initial ≠ some name))
    for notice in (shown.current.map Panel.notices).getD [] do
      Act.print ("[WARN] " ++ name ++ ": " ++ notice.logLine)
    let more ← handOver initial onPanel rest
    return (name, html) :: more

/-- A board that shows what can be drawn of a sheet, with just these rows selected in all of it, and marked in each of
its elements and in the panel that is written. -/
structure Presents (start : Board) (sheet : Sheet) (rows : List Nat) (shown : Board) : Prop where
  visuals : shown.shown.map (shown.visuals[·]?) = (start.drawnOf sheet sheet.table.views).map some
  selected : ∀ m ∈ shown.shown, shown.selectedRows m = rows
  elements : ∀ slot ∈ shown.slots, ∀ m html, slot.content = .drawn m html →
    ∃ visual, shown.visuals[m]? = some visual ∧ visual.MarksJust sheet.dataset.records.length rows html
  marked : ∀ hidden, ∃ pieces, shown.html hidden = .ok (Markup.html pieces) ∧
    Marked sheet.dataset.records.length rows (start.drawnOf sheet sheet.table.views) pieces

section Presenting

variable {start shown : Board} {name : String} {sheet : Sheet} {selection : Selection}

theorem visuals_of_depicts (hframe : SameFrame start shown) (hdepicts : shown.Depicts name sheet selection) :
    shown.shown.map (shown.visuals[·]?) = (start.drawnOf sheet sheet.table.views).map some := by
  obtain ⟨slots, hcurrent, hslots⟩ := hdepicts.current
  rw [Board.shown, hcurrent]
  exact Board.visuals_of_shows hframe hslots

theorem selectedRows_of_holding (htable : sheet.dataset.results = .ok sheet.table)
    (hframe : SameFrame start shown) (hdepicts : shown.Depicts name sheet selection)
    (hholding : shown.Holding selection) {m : MemberId} (hm : m ∈ shown.shown) :
    shown.selectedRows m = selection.rows sheet.dataset.records.length := by
  have hvisual : shown.visuals[m]? ∈ (start.drawnOf sheet sheet.table.views).map some := by
    rw [← visuals_of_depicts hframe hdepicts]
    exact List.mem_map_of_mem hm
  obtain ⟨visual, hdrawn, hfound⟩ := List.mem_map.mp hvisual
  obtain ⟨view, hview, rfl⟩ := List.mem_map.mp hdrawn
  obtain ⟨plan, _, rfl⟩ := List.mem_map.mp (List.mem_filter.mp hview).1
  rw [Board.selectedRows, ← hfound, hholding m hm]
  exact Dataset.selectedRows_of_results htable rfl selection

theorem marksJust_of_depicts (hplain : ∀ c ∈ sheet.id.toList, Text.isIdChar c = true)
    (htable : sheet.dataset.results = .ok sheet.table) (hdepicts : shown.Depicts name sheet selection) :
    ∀ slot ∈ shown.slots, ∀ m html, slot.content = .drawn m html → ∃ visual, shown.visuals[m]? = some visual ∧
      visual.MarksJust sheet.dataset.records.length (selection.rows sheet.dataset.records.length) html := by
  obtain ⟨slots, hcurrent, hslots⟩ := hdepicts.current
  intro slot hslot m html hcontent
  rw [Board.slots, hcurrent] at hslot
  obtain ⟨view, hview, place, hplaced, hvisual⟩ := exists_of_mem_forall₂ hslots hslot
  have hfound : shown.visuals[m]? = some (shown.visualOf sheet view) := hvisual m (by rw [Slot.visual?, hcontent])
  have hdrawn : shown.draw (shown.visualOf sheet view) selection = .ok html := by
    rw [hplaced, Board.slotOf] at hcontent
    cases hdraw : shown.draw (shown.visualOf sheet view) selection with
    | ok found =>
      rw [hdraw] at hcontent
      exact congrArg Except.ok (SlotContent.drawn.inj hcontent).2
    | error fault =>
      rw [hdraw] at hcontent
      cases hcontent
  exact ⟨_, hfound, Board.marks_html hplain htable hview (Board.draw_eq_ok_iff.mp hdrawn).2⟩

theorem presents_of_depicts (hplain : ∀ c ∈ sheet.id.toList, Text.isIdChar c = true)
    (htable : sheet.dataset.results = .ok sheet.table) (hframe : SameFrame start shown)
    (hdepicts : shown.Depicts name sheet selection) (hholding : shown.Holding selection) :
    Presents start sheet (selection.rows sheet.dataset.records.length) shown where
  visuals := visuals_of_depicts hframe hdepicts
  selected _ hm := selectedRows_of_holding htable hframe hdepicts hholding hm
  elements := marksJust_of_depicts hplain htable hdepicts
  marked hidden := by
    refine ⟨_, ?_, Board.marked_panelPieces hplain htable name selection hidden⟩
    rw [hdepicts.html_eq, hframe.panelOf, Board.html_panelPieces hplain]

/-- Which views fail, and why, does not depend on what is selected. -/
theorem notices_panelOf (board : Board) (name : String) (sheet : Sheet) (selection : Selection) :
    (board.panelOf name sheet selection).notices = (board.panelOf name sheet []).notices := by
  rw [Panel.notices, Panel.notices, Board.panelOf, Board.panelOf, List.filterMap_map, List.filterMap_map]
  refine List.filterMap_congr fun view _ => ?_
  have halike := board.failAlike_draw (board.visualOf sheet view) selection []
  rw [Function.comp_apply, Function.comp_apply, Board.slotOf, Board.slotOf]
  cases hdraw : board.draw (board.visualOf sheet view) selection with
  | ok html =>
    obtain ⟨other, hother⟩ := halike.isOk hdraw
    rw [hother]
    rfl
  | error fault => rw [halike.error hdraw]

end Presenting

section Running

variable {board : Board} {wanted : List Value} {keys : List String}

/-- Making the panels of sheets is handing over boards, each of which shows one of them with the highlighted rows
selected. -/
theorem exists_handOver (h : Sound board) (hkeys : highlightKeys wanted = .ok keys) (initial : Option String)
    {rest : Workbook} (hfind : ∀ entry ∈ rest, board.book.find entry.1 = .ok entry.2) :
    ∃ handed, List.Forall₂ (fun entry given => given.1 = entry.1 ∧ SameFrame board given.2 ∧
        given.2.Depicts entry.1 entry.2 (highlightRows keys entry.2.dataset) ∧
        given.2.Holding (highlightRows keys entry.2.dataset)) rest handed ∧
      ∀ onPanel session, Act.runOn session (Prod.fst <$> panels initial wanted onPanel rest board) =
        Act.runOn session (handOver initial onPanel handed) := by
  induction rest generalizing board with
  | nil => exact ⟨[], .nil, fun _ _ => rfl⟩
  | cons entry rest ih =>
    obtain ⟨name, sheet⟩ := entry
    obtain ⟨hfirst, hrest⟩ := List.forall_mem_cons.mp hfind
    obtain ⟨outcome, hpresent, houtcome⟩ := exists_present h hfirst wanted sheet
    simp only [hkeys] at houtcome
    obtain ⟨shown, rfl, hsound, hframe, hdepicts, hholding⟩ := houtcome
    obtain ⟨handed, hhanded, hrun⟩ := ih hsound fun other hother => by
      rw [hframe.book]
      exact hrest other hother
    refine ⟨(name, shown) :: handed, .cons ⟨rfl, hframe, hdepicts, hholding⟩ ?_, fun onPanel session => ?_⟩
    · exact hhanded.imp fun _ _ hother => ⟨hother.1, hframe.trans hother.2.1, hother.2.2⟩
    · have hnotices : (shown.current.map Panel.notices).getD [] = (board.panelOf name sheet []).notices := by
        rw [hdepicts.notices_eq, hframe.panelOf, notices_panelOf]
      rw [panels, handOver, map_bind, Steps.runOn_bind_ok (hpresent session), hnotices,
        Steps.runOn_bind_ok (runOn_logged _ session)]
      simp only [map_bind]
      refine Steps.runOn_bind_congr (fun _ t => ?_) _ _
      refine Steps.runOn_bind_congr (fun html t => ?_) _ _
      refine Steps.runOn_bind_congr (fun _ t => ?_) _ _
      have hmore : Steps.runOn t (handOver initial onPanel handed) =
          Steps.runOn t (Prod.fst <$> panels initial wanted onPanel rest shown) := (hrun onPanel t).symm
      rw [Steps.runOn_bind, Steps.runOn_bind, hmore, Steps.runOn_map]
      rcases Steps.runOn t (panels initial wanted onPanel rest shown) with ⟨fault | ⟨more, last⟩, later⟩ <;> rfl

/-- The board that a page draws its panels on: a given one that shows the workbook, whatever was done with it before,
or one that the page makes. -/
inductive DrawsOn (book : Workbook) (page : Value) : Option Board → Board → Prop
  | given {width aspect : Double} {start : Board} (hreached : Reached book width aspect start)
    (hbook : start.book = book) : DrawsOn book page (some start) start
  | own {start : Board} (hown : Page.board book page = .ok start) : DrawsOn book page none start

variable {book : Workbook} {page : Value} {given : Option Board} {start : Board}

theorem DrawsOn.sound (h : DrawsOn book page given start) : Sound start ∧ start.book = book := by
  cases h with
  | given hreached hbook => exact ⟨hreached.sound, hbook⟩
  | own hown => exact sound_of_board hown

theorem runOn_renderPanels (h : DrawsOn book page given start) {config : Value} (hpage : settings config = .ok page)
    (hwanted : highlights page = .ok wanted) (onPanel : String → Board → Act Unit) (session : Session) :
    Act.runOn session (Prod.fst <$> renderPanels book config given onPanel) =
      Act.runOn session (Prod.fst <$> panels book.initial? wanted onPanel book start) := by
  have hpanels (next : Entries String × Board → Act (Entries String × Board))
      (hnext : ∀ result, next result = pure (result.1, result.2.clear)) :
      Steps.runOn session (Prod.fst <$> (panels book.initial? wanted onPanel book start >>= next)) =
        Steps.runOn session (Prod.fst <$> panels book.initial? wanted onPanel book start) := by
    obtain rfl : next = fun result => pure (result.1, result.2.clear) := funext hnext
    rw [Steps.runOn_map, Steps.runOn_map, Steps.runOn_bind]
    rcases Steps.runOn session (panels book.initial? wanted onPanel book start) with ⟨_ | _, _⟩ <;> rfl
  rw [renderPanels, hpage, map_bind, Steps.runOn_bind_ok (Steps.runOn_ofResult session _), hwanted]
  cases h with
  | given =>
    dsimp only
    rw [pure_bind, map_bind, Steps.runOn_bind_ok (Steps.runOn_ofResult session _)]
    exact hpanels _ fun _ => rfl
  | own hown =>
    dsimp only
    rw [hown, map_bind, Steps.runOn_bind_ok (Steps.runOn_ofResult session _), map_bind,
      Steps.runOn_bind_ok (Steps.runOn_ofResult session _)]
    exact hpanels _ fun _ => rfl

/-- Where an entry of the list cannot be told, the first panel is not handed over. -/
theorem runOn_renderPanels_error (h : DrawsOn book page given start) {config : Value}
    (hpage : settings config = .ok page) (hwanted : highlights page = .ok wanted) {fault : Fault}
    (hkeys : highlightKeys wanted = .error fault) {first : String × Sheet} {rest : Workbook}
    (hbook : book = first :: rest) {found : Sheet} (hfind : start.book.find first.1 = .ok found)
    (onPanel : String → Board → Act Unit) (session : Session) :
    Act.runOn session (Prod.fst <$> renderPanels book config given onPanel) =
      (.error fault, logged (start.panelOf first.1 found []).notices session) := by
  have hpanels : Steps.runOn session (panels book.initial? wanted onPanel book start) =
      (.error fault, logged (start.panelOf first.1 found []).notices session) := by
    rw [hbook]
    exact runOn_panels_error h.sound.1 hkeys _ hfind rest onPanel session
  refine (runOn_renderPanels h hpage hwanted onPanel session).trans ?_
  rw [Steps.runOn_map, hpanels]
  rfl

end Running

/-- Whatever the configuration lists, and whatever board the panels are drawn on: all that is on show when a panel is
handed over has just the rows of the listed records selected, and these are the rows marked in what is taken of the
panel. Where an entry of the list cannot be told, nothing is handed over. -/
theorem renderPanels_highlights {document : Document} {book : Workbook} (hnames : (Entries.keys document).Nodup)
    (hbook : Workbook.ofDocument document = .ok book) {config page : Value} (hpage : settings config = .ok page)
    {wanted : List Value} (hwanted : highlights page = .ok wanted) {given : Option Board} {start : Board}
    (hstart : DrawsOn book page given start) :
    let run (onPanel : String → Board → Act Unit) (session : Session) :=
      Act.runOn session (Prod.fst <$> renderPanels book config given onPanel)
    (book.map fun (name, sheet) => (name, sheet.dataset)) = document ∧
    ((∀ entry ∈ wanted, ∃ text, entry.told = .ok text) →
      ∃ handed, List.Forall₂ (fun entry shown => shown.1 = entry.1 ∧
          ∃ rows, Highlighted wanted entry.2.dataset rows ∧ Presents start entry.2 rows shown.2) book handed ∧
        ∀ onPanel session, run onPanel session = Act.runOn session (handOver book.initial? onPanel handed)) ∧
    ((∃ entry ∈ wanted, ∃ fault, entry.told = .error fault) → book ≠ [] →
      ∃ fault, ∃ last : Session → Session, ∀ onPanel session, run onPanel session = (.error fault, last session)) := by
  intro run
  obtain ⟨hdatasets, hresults⟩ := Workbook.results_of_isSheetOf (Workbook.forall₂_isSheetOf hbook)
  have hnumbered : book.Numbered := .of_document hnames hbook
  obtain ⟨hsound, hsame⟩ := hstart.sound
  have hfind : ∀ entry ∈ book, start.book.find entry.1 = .ok entry.2 := by
    rw [hsame]
    exact fun entry hentry => hnumbered.find_eq hentry
  refine ⟨hdatasets, fun htold => ?_, fun huntold hne => ?_⟩
  · obtain ⟨keys, hkeys⟩ := exists_highlightKeys htold
    obtain ⟨handed, hhanded, hrun⟩ := exists_handOver hsound hkeys book.initial? hfind
    refine ⟨handed, ?_, fun onPanel session => ?_⟩
    · have hentries : ∀ entry ∈ book, (∀ c ∈ entry.2.id.toList, Text.isIdChar c = true) ∧
          entry.2.dataset.results = .ok entry.2.table :=
        fun entry hentry => ⟨hnumbered.isIdChar_of_mem hentry, hresults entry hentry⟩
      refine ((List.forall₂_and_left _ _).mpr ⟨hentries, hhanded⟩).imp fun entry shown hshown => ?_
      obtain ⟨⟨hplain, htable⟩, hname, hframe, hdepicts, hholding⟩ := hshown
      exact ⟨hname, _, highlighted_rows hkeys entry.2.dataset,
        presents_of_depicts hplain htable hframe hdepicts hholding⟩
    · exact (runOn_renderPanels hstart hpage hwanted onPanel session).trans (hrun onPanel session)
  · obtain ⟨fault, hkeys⟩ := highlightKeys_eq_error huntold
    obtain ⟨first, rest, hcases⟩ := List.exists_cons_of_ne_nil hne
    have hfirst : first ∈ book := hcases ▸ List.mem_cons_self
    exact ⟨fault, _, runOn_renderPanels_error hstart hpage hwanted hkeys hcases (hfind first hfirst)⟩

/-- A document with two codecs. -/
def twoCodecs : Document :=
  let record (plugin codec : String) : Measurement :=
    ⟨plugin, codec, Double.ofInt 100, Double.ofInt 1, Double.ofInt 1, none, none⟩
  [("d", ⟨"d", Double.ofInt 1024, [record "lz4" "lz4", record "zlib" "gzip"]⟩)]

/-- A codec is listed with its plugin, in capital letters. -/
theorem renderPanels_highlights_twoCodecs :
    let config : Value := .map [("page", .map [("highlight", .list [.text "ZLIB:gzip"])])]
    ∃ book handed, Workbook.ofDocument twoCodecs = .ok book ∧ handed.map Prod.fst = ["d"] ∧
      (∀ entry ∈ handed, entry.2.shown.length = 6 ∧ (∀ m ∈ entry.2.shown, entry.2.selectedRows m = [1]) ∧
        ∀ slot ∈ entry.2.slots, ∀ m html, slot.content = .drawn m html →
          ∃ visual, entry.2.visuals[m]? = some visual ∧ visual.MarksJust 2 [1] html) ∧
      ∀ onPanel session, Act.runOn session (Prod.fst <$> renderPanels book config none onPanel) =
        Act.runOn session (handOver book.initial? onPanel handed) := by
  intro config
  let book := (Workbook.ofDocument twoCodecs).toOption.getD []
  let start : Board := { book, width := Board.defaultWidth, aspect := Board.defaultAspect }
  have hbook : Workbook.ofDocument twoCodecs = .ok book := eq_ok_getD_of_isOk (by decide +kernel) []
  have hdrawn : ∀ entry ∈ book, (start.drawnOf entry.2 entry.2.table.views).length = 6 := by decide +kernel
  clear_value book
  have hpage : settings config = .ok (.map [("highlight", .list [.text "ZLIB:gzip"])]) := rfl
  have hstart : DrawsOn book (.map [("highlight", .list [.text "ZLIB:gzip"])]) none start := .own rfl
  obtain ⟨hdatasets, hpanels, _⟩ := renderPanels_highlights (by decide) hbook hpage rfl hstart
  have hkeys : highlightKeys [.text "ZLIB:gzip"] = .ok [Text.lower "ZLIB:gzip"] := rfl
  obtain ⟨handed, hhanded, hrun⟩ := hpanels fun entry hentry => by
    rw [List.mem_singleton.mp hentry]
    exact ⟨_, rfl⟩
  obtain ⟨⟨name, sheet⟩, rfl, hentry⟩ := List.map_eq_singleton_iff.mp hdatasets
  obtain ⟨rfl, hdataset⟩ := Prod.mk.inj hentry
  cases hhanded with
  | @cons _ shown _ _ hfirst hnone =>
    cases hnone
    obtain ⟨hname, rows, hhighlighted, hpresents⟩ := hfirst
    have hrows : rows = [1] := by
      rw [hhighlighted.unique (highlighted_rows hkeys sheet.dataset), hdataset]
      decide +kernel
    have hlength : shown.2.shown.length = 6 := by
      have hvisuals := congrArg List.length hpresents.visuals
      rw [List.length_map, List.length_map] at hvisuals
      exact hvisuals.trans (hdrawn _ List.mem_cons_self)
    refine ⟨_, [shown], hbook, congrArg (fun n => [n]) hname, ?_, hrun⟩
    intro entry hentry
    obtain rfl := List.mem_singleton.mp hentry
    have hcount : sheet.dataset.records.length = 2 := by
      rw [hdataset]
      rfl
    have helements := hpresents.elements
    rw [hcount, hrows] at helements
    exact ⟨hlength, fun m hm => hrows ▸ hpresents.selected m hm, helements⟩

end CodecReport.Page
