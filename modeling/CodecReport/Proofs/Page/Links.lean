import CodecReport.Output
import CodecReport.Proofs.Document.Names
import CodecReport.Proofs.Page.Anchors

/-!
# Ids and links

The ids of a page are those of its frame and, for every dataset, the id of its sheet with the ids of the views
that could be drawn behind it. The position in the id of a sheet keeps apart what belongs to different
datasets, whatever their names are, and the id of a view what belongs to one. With several datasets a list
links to the panels, which are hidden; a single one is shown without a list.
-/

namespace CodecReport

namespace Workbook

/-- The ids of a sheet and of all its views. -/
def idsOf (sheet : Sheet) : List String :=
  sheet.id :: sheet.table.views.map fun view => sheet.id ++ "-" ++ view.id

theorem exists_append_of_mem_idsOf {sheet : Sheet} {id : String} (hid : id ∈ idsOf sheet) :
    ∃ rest, id = sheet.id ++ rest := by
  rcases List.mem_cons.mp hid with rfl | hview
  · exact ⟨"", String.append_empty.symm⟩
  · obtain ⟨view, _, rfl⟩ := List.mem_map.mp hview
    exact ⟨"-" ++ view.id, String.append_assoc⟩

/-- No two views of a sheet have one id, and none has the id of the sheet. -/
theorem nodup_idsOf (sheet : Sheet) : (idsOf sheet).Nodup := by
  have hviews : (sheet.table.views.map View.id).Nodup := by
    have hids : sheet.table.views.map View.id = ViewPlan.standard.map ViewPlan.id := by
      rw [Table.views, List.map_map]
      rfl
    rw [hids]
    decide
  have hcontainers : sheet.table.views.map (fun view => sheet.id ++ "-" ++ view.id) =
      (sheet.table.views.map View.id).map (sheet.id ++ "-" ++ ·) := by
    rw [List.map_map]
    rfl
  rw [idsOf, List.nodup_cons]
  constructor
  · intro hmem
    obtain ⟨view, _, hsame⟩ := List.mem_map.mp hmem
    have hlength := congrArg (fun s => s.toList.length) hsame
    simp at hlength
  · rw [hcontainers]
    apply hviews.map
    intro id other hsame
    exact (String.append_right_inj _).mp hsame

variable {book : Workbook}

theorem Numbered.position_eq (h : book.Numbered) {entry : String × Sheet} (hentry : entry ∈ book) (rest : String) :
    positionOf (entry.2.id ++ rest) = positionOf entry.2.id := by
  obtain ⟨index, name, hid⟩ := h.exists_sheetId hentry
  have hempty := positionOf_sheetId index name ""
  rw [String.append_empty] at hempty
  rw [hid, positionOf_sheetId, hempty]

/-- The ids of different sheets and of their views are different, since their positions are. -/
theorem Numbered.nodup_flatMap_idsOf (h : book.Numbered) :
    (book.flatMap fun (_, sheet) => idsOf sheet).Nodup := by
  rw [List.nodup_flatMap]
  refine ⟨fun entry _ => nodup_idsOf entry.2, ?_⟩
  have hpairs := h.pairwise_position
  rw [List.pairwise_iff_forall_sublist] at hpairs ⊢
  intro a b hsub
  obtain ⟨ha, hb⟩ : a ∈ book ∧ b ∈ book :=
    ⟨hsub.subset List.mem_cons_self, hsub.subset (List.mem_cons_of_mem _ List.mem_cons_self)⟩
  rw [Function.onFun, List.disjoint_left]
  intro id hida hidb
  obtain ⟨resta, hresta⟩ := exists_append_of_mem_idsOf hida
  obtain ⟨restb, hrestb⟩ := exists_append_of_mem_idsOf hidb
  apply hpairs hsub
  rw [← h.position_eq ha resta, ← h.position_eq hb restb, ← hresta, hrestb]

end Workbook

namespace Page

open Workbook

variable {book : Workbook}

theorem frameIds_sublist (book : Workbook) :
    (frameIds book).Sublist ["announce", "announce-email", "datasets-list", "results"] := by
  rw [frameIds]
  by_cases hseveral : 1 < book.length
  · rw [if_pos hseveral]
    exact .refl _
  · rw [if_neg hseveral]
    exact .cons_cons _ (.cons_cons _ (.cons _ (.refl _)))

/-- No id of the frame begins like the id of a sheet. -/
theorem not_sheetId_of_mem_frameIds {id : String} (hid : id ∈ frameIds book) (index : Nat) (name rest : String) :
    id ≠ sheetId index name ++ rest := by
  have hfront : (sheetId index name ++ rest).toList.take 2 = ['d', 's'] := by
    rw [String.toList_append, toList_sheetId]
    rfl
  have hothers : ∀ id ∈ ["announce", "announce-email", "datasets-list", "results"],
      id.toList.take 2 ≠ ['d', 's'] := by
    decide +kernel
  rintro rfl
  exact hothers _ ((frameIds_sublist book).subset hid) hfront

/-- All ids that a page can have are different. -/
theorem nodup_ids (h : book.Numbered) :
    (frameIds book ++ book.flatMap fun (_, sheet) => idsOf sheet).Nodup := by
  rw [List.nodup_append]
  have hframe : (frameIds book).Nodup := by
    apply List.Nodup.sublist (frameIds_sublist book)
    decide
  refine ⟨hframe, h.nodup_flatMap_idsOf, ?_⟩
  intro id hid other hother hsame
  obtain ⟨entry, hentry, hmem⟩ := List.mem_flatMap.mp hother
  obtain ⟨rest, hrest⟩ := exists_append_of_mem_idsOf hmem
  obtain ⟨index, name, hsheet⟩ := h.exists_sheetId hentry
  apply not_sheetId_of_mem_frameIds hid index name rest
  rw [hsame, hrest, hsheet]

/-- The ids of a page are among those, in their order. -/
theorem sheetIds_sublist (setup : Setup) (book : Workbook) :
    (book.flatMap setup.sheetIds).Sublist (book.flatMap fun (_, sheet) => idsOf sheet) := by
  apply List.Sublist.flatMap_right
  intro entry _
  exact (List.filter_sublist.map _).cons_cons _

/-- The files of a dataset go into the folder that is named by the id of its sheet. -/
theorem writeSheet_eq (h : book.Numbered) {entry : String × Sheet} (hentry : entry ∈ book) {board : Board}
    (hboard : board.book = book) (plan : OutputPlan) (root : Path) :
    writeSheet plan root entry.1 board =
      writeFiles plan { root with parts := root.parts ++ [entry.2.id] } entry.1 entry.2 board := by
  obtain ⟨index, name, hid⟩ := h.exists_sheetId hentry
  have hfolder : root.child entry.2.id = { root with parts := root.parts ++ [entry.2.id] } := by
    rw [hid, child_sheetId]
  rw [writeSheet, hboard, h.find_eq hentry, ← hfolder]
  rfl

/-- Whatever the names of the datasets are: the ids that a page gives to its elements are different, and so are
the ids of the sheets, which name the folders and are one part of a path each. Where there are several datasets,
there are links to their panels, and all panels are hidden; else there are none, and a panel is shown. -/
theorem ofWorkbook_links {document : Document} {book : Workbook} (hnames : (Entries.keys document).Nodup)
    (hbook : Workbook.ofDocument document = .ok book) :
    let ids := (Entries.keys document).zipIdx.map fun (name, index) => sheetId index name
    (book.names = Entries.keys document ∧ book.map (fun (_, sheet) => sheet.id) = ids ∧ ids.Nodup ∧
      ∀ id ∈ ids, (∀ c ∈ id.toList, Text.isIdChar c = true) ∧
        ∀ root : Path, root.child id = { root with parts := root.parts ++ [id] }) ∧
    (∀ plan root board, board.book = book → ∀ entry ∈ book, writeSheet plan root entry.1 board =
      writeFiles plan { root with parts := root.parts ++ [entry.2.id] } entry.1 entry.2 board) ∧
    (frameIds book ++ book.flatMap fun (_, sheet) => idsOf sheet).Nodup ∧
    (∀ config setup session, SetBy book config setup →
      ∃ html, (Act.runOn session (ofWorkbook book config fun _ _ => pure ())).1 = .ok html) ∧
    ∀ config onPanel session html, (Act.runOn session (ofWorkbook book config onPanel)).1 = .ok html →
      ∃ setup, SetBy book config setup ∧ html = Markup.html (setup.pieces book) ∧
        let found := Anchors.ofPage (Markup.html (Markup.besideFigures (setup.pieces book)))
        found.ids = frameIds book ++ book.flatMap setup.sheetIds ∧ found.ids.Nodup ∧
        found.links = (if 1 < document.length then ids.map ("#" ++ ·) else []) ∧
        found.panels = ids.map fun id =>
          (some id, if 1 < document.length then some "display:none" else none) := by
  intro ids
  obtain ⟨hsame, hids⟩ := names_and_ids_of_document hbook
  have hnumbered : book.Numbered := .of_document hnames hbook
  have hlength : book.length = document.length := by
    have hlengths := congrArg List.length hsame
    rwa [Workbook.names, Entries.keys, Entries.keys, List.length_map, List.length_map] at hlengths
  have hall := nodup_ids hnumbered
  have hunique : ids.Nodup := by
    rw [show ids = book.map fun (_, sheet) => sheet.id from hids.symm]
    exact hnumbered.nodup_ids
  refine ⟨⟨hsame, hids, hunique, ?_⟩,
    fun plan root board hboard entry hentry => writeSheet_eq hnumbered hentry hboard plan root, hall,
    fun config setup session hset => exists_ofWorkbook hset session, ?_⟩
  · intro id hid
    obtain ⟨numbered, _, rfl⟩ := List.mem_map.mp hid
    exact ⟨fun c => isIdChar_of_mem_sheetId, fun root => child_sheetId root numbered.2 numbered.1⟩
  · intro config onPanel session html hok
    obtain ⟨setup, hset, hhtml⟩ := pieces_of_ofWorkbook hnumbered hok
    refine ⟨setup, hset, hhtml, ?_⟩
    have hanchors := ofPieces_pieces hnumbered setup
    rw [← Anchors.ofPage_besideFigures] at hanchors
    have hlinks : (book.map fun (_, sheet) => "#" ++ sheet.id) = ids.map ("#" ++ ·) := by
      rw [show ids = book.map fun (_, sheet) => sheet.id from hids.symm, List.map_map]
      rfl
    have hpanels : (book.map fun (_, sheet) =>
        (some sheet.id, if 1 < book.length then some "display:none" else none)) =
        ids.map fun id => (some id, if 1 < document.length then some "display:none" else none) := by
      rw [show ids = book.map fun (_, sheet) => sheet.id from hids.symm, List.map_map, hlength]
      rfl
    intro found
    rw [show found = _ from hanchors]
    refine ⟨rfl, ?_, ?_, hpanels⟩
    · exact hall.sublist ((List.Sublist.refl _).append (sheetIds_sublist setup book))
    · dsimp only
      rw [hlength, hlinks]

/-- Two datasets whose names give the same label. -/
def similarNames : Document.Raw :=
  .text <| "\x7b\"a.txt\":\x7b\"uncompressed-size\":1.5,\"data\":[]\x7d,"
    ++ "\"a txt\":\x7b\"uncompressed-size\":2.5,\"data\":[]\x7d\x7d"

set_option maxRecDepth 4000 in
theorem ofWorkbook_links_similarNames :
    ∃ document book html, ∃ setup : Setup, Document.read similarNames = .ok document ∧
      Workbook.ofDocument document = .ok book ∧
      (Act.runOn { disk := { home := [] } } (ofWorkbook book (.map []) fun _ _ => pure ())).1 = .ok html ∧
      html = Markup.html (setup.pieces book) ∧
      let found := Anchors.ofPage (Markup.html (Markup.besideFigures (setup.pieces book)))
      found.ids.Nodup ∧ found.links = ["#ds0-a-txt", "#ds1-a-txt"] := by
  have hread : Document.read similarNames = .ok [
      ("a.txt", ⟨"a.txt", Decimal.toDouble ⟨false, 15, -1⟩, []⟩),
      ("a txt", ⟨"a txt", Decimal.toDouble ⟨false, 25, -1⟩, []⟩)] := by
    rfl
  obtain ⟨book, hbook⟩ : ∃ book, Workbook.ofDocument [
      ("a.txt", ⟨"a.txt", Decimal.toDouble ⟨false, 15, -1⟩, []⟩),
      ("a txt", ⟨"a txt", Decimal.toDouble ⟨false, 25, -1⟩, []⟩)] = .ok book := ⟨_, rfl⟩
  obtain ⟨_, _, _, hexists, hpages⟩ := ofWorkbook_links (Document.nodup_names_of_read hread) hbook
  have hset : SetBy book (.map []) ⟨defaultTitle, none, "cdn",
      { book, width := Board.defaultWidth, aspect := Board.defaultAspect }, []⟩ :=
    ⟨.map [], [], rfl, rfl, rfl, rfl, rfl, rfl, fun _ => rfl⟩
  obtain ⟨html, hok⟩ := hexists (.map []) _ { disk := { home := [] } } hset
  obtain ⟨setup, _, hhtml, _, hunique, hlinks, _⟩ := hpages _ _ _ _ hok
  refine ⟨_, book, html, setup, hread, hbook, hok, hhtml, hunique, ?_⟩
  rw [hlinks]
  decide +kernel

end Page

end CodecReport
