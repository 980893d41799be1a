import CodecReport.Proofs.Page.Panels
import CodecReport.Proofs.Page.Pieces

/-!
# What a page is made from

The configuration gives a page its title, the address in its form, the way it finds its library, the size of
its charts and what is highlighted. The page is written as the pieces that these and the workbook fix, whatever
is done while the panels are on show.
-/

namespace CodecReport.Page

open Board (Sound SameFrame)
open Markup (Piece)

/-- What the configuration fixes about a page. -/
structure Setup where
  title : String
  address : Option String
  mode : String
  board : Board
  keys : List String

/-- The configuration fixes this much. What is highlighted is looked at for a dataset only. -/
def SetBy (book : Workbook) (config : Value) (setup : Setup) : Prop :=
  ∃ page wanted, settings config = .ok page ∧ title page = .ok setup.title ∧
    prefill page = .ok setup.address ∧ libraryMode page = .ok setup.mode ∧
    board book page = .ok setup.board ∧ highlights page = .ok wanted ∧
    (book ≠ [] → highlightKeys wanted = .ok setup.keys)

namespace Setup

variable (setup : Setup) (book : Workbook)

def entryPieces (entry : String × Sheet) : List Piece :=
  setup.board.panelPieces entry.1 entry.2 (highlightRows setup.keys entry.2.dataset)
    (book.initial? ≠ some entry.1)

def resultPieces : List Piece :=
  if book.isEmpty then failurePieces emptyText else book.flatMap (setup.entryPieces book)

def pieces : List Piece :=
  documentPieces setup.title
    ([headingPieces setup.title, formPieces setup.address]
      ++ (if 1 < book.length then [navigationPieces book] else []) ++ [resultsPieces (setup.resultPieces book)])
    setup.mode

end Setup

/-! ### Panels, whatever is done while they are on show -/

variable {board : Board} {wanted : List Value} {initial : Option String} {onPanel : String → Board → Act Unit}

/-- What is highlighted can be told when there is a panel. -/
theorem highlightKeys_of_panels (h : Sound board) {entry : String × Sheet} {rest : Workbook}
    (hfind : ∃ found, board.book.find entry.1 = .ok found) {session : Session}
    {result : Entries String × Board}
    (hok : (Act.runOn session (panels initial wanted onPanel (entry :: rest) board)).1 = .ok result) :
    ∃ keys, highlightKeys wanted = .ok keys := by
  obtain ⟨found, hfind⟩ := hfind
  rw [panels] at hok
  obtain ⟨shown, later, hrun, _⟩ := Steps.ok_of_bind hok
  obtain ⟨outcome, hpresent, houtcome⟩ := runOn_present h hfind wanted entry.2 session
  cases hkeys : highlightKeys wanted with
  | ok keys => exact ⟨keys, rfl⟩
  | error fault =>
    rw [hkeys] at houtcome
    rw [hpresent, houtcome] at hrun
    cases hrun

/-- The panels are those of the frame of a board, whatever is done while each of them is on show. -/
theorem mapM_entryHtml_of_panels (h : Sound board) {keys : List String}
    (hkeys : highlightKeys wanted = .ok keys) {rest : Workbook}
    (hrest : ∀ entry ∈ rest, ∃ found, board.book.find entry.1 = .ok found) {session : Session}
    {entries : Entries String} {last : Board}
    (hok : (Act.runOn session (panels initial wanted onPanel rest board)).1 = .ok (entries, last)) :
    rest.mapM (entryHtml board keys initial) = .ok entries := by
  induction rest generalizing board session entries with
  | nil =>
    cases hok
    rfl
  | cons entry rest ih =>
    obtain ⟨found, hfind⟩ := hrest entry List.mem_cons_self
    obtain ⟨outcome, hpresent, houtcome⟩ := runOn_present h hfind wanted entry.2 session
    simp only [hkeys] at houtcome
    obtain ⟨shown, rfl, hsound, hframe, hdepicts⟩ := houtcome
    rw [panels] at hok
    obtain ⟨_, _, hrun, hok⟩ := Steps.ok_of_bind hok
    rw [hpresent] at hrun
    cases hrun
    obtain ⟨_, _, _, hok⟩ := Steps.ok_of_bind hok
    obtain ⟨html, hhtml, hok⟩ := Steps.ok_of_ofResult_bind hok
    obtain ⟨_, _, _, hok⟩ := Steps.ok_of_bind hok
    obtain ⟨⟨more, final⟩, _, hrun, hok⟩ := Steps.ok_of_bind hok
    cases hok
    have hmore := ih hsound (fun other hother => by
      rw [hframe.book]
      exact hrest other (List.mem_cons_of_mem _ hother)) (congrArg Prod.fst hrun)
    rw [entryHtml_frame hframe] at hmore
    have hfirst := hdepicts.html_eq (initial ≠ some entry.1)
    rw [hframe.panelOf, hhtml] at hfirst
    cases hfirst
    rw [List.mapM_cons, hmore, entryHtml, hfind]
    rfl

/-! ### The whole page -/

section Whole

variable {book : Workbook} {config : Value} {setup : Setup}

theorem sound_of_board {page : Value} {own : Board} (hown : Page.board book page = .ok own) :
    Sound own ∧ own.book = book := by
  rw [Page.board] at hown
  obtain ⟨width, _, hresult⟩ := bind_eq_ok_iff.mp hown
  split at hresult
  next d _ =>
    cases hresult
    exact ⟨Sound.blank book d Board.defaultAspect, rfl⟩
  next => cases hresult

theorem entryHtml_eq (hnumbered : book.Numbered) (hbook : setup.board.book = book) {entry : String × Sheet}
    (hentry : entry ∈ book) : entryHtml setup.board setup.keys book.initial? entry =
      .ok (entry.1, Markup.html (setup.entryPieces book entry)) := by
  rw [entryHtml, hbook, hnumbered.find_eq hentry, Setup.entryPieces,
    Board.html_panelPieces (hnumbered.isIdChar_of_mem hentry)]
  rfl

variable (setup) in
theorem mapM_entryHtml_eq (hnumbered : book.Numbered) (hbook : setup.board.book = book) :
    book.mapM (entryHtml setup.board setup.keys book.initial?) =
      .ok (book.map fun entry => (entry.1, Markup.html (setup.entryPieces book entry))) :=
  mapM_of_ok fun _ hentry => entryHtml_eq hnumbered hbook hentry

/-- The panels of a page on a board of its own. -/
theorem entries_of_panels (hnumbered : book.Numbered) {page : Value} {own : Board}
    (hown : Page.board book page = .ok own) {session : Session} {entries : Entries String} {last : Board}
    (hok : (Act.runOn session (panels book.initial? wanted onPanel book own)).1 = .ok (entries, last)) :
    ∃ keys, (book ≠ [] → highlightKeys wanted = .ok keys) ∧ ∀ title address mode,
      entries = book.map fun entry =>
        (entry.1, Markup.html (Setup.entryPieces ⟨title, address, mode, own, keys⟩ book entry)) := by
  obtain ⟨hsound, hbook⟩ := sound_of_board hown
  have hfound : ∀ entry ∈ book, ∃ found, own.book.find entry.1 = .ok found := by
    rw [hbook]
    exact fun entry hentry => exists_find hentry
  rcases hcases : book with _ | ⟨first, rest⟩
  · rw [hcases] at hok
    cases hok
    exact ⟨[], fun hne => absurd rfl hne, fun _ _ _ => rfl⟩
  · have hfirst : first ∈ book := hcases ▸ List.mem_cons_self
    have hpanels := hok
    rw [hcases] at hpanels
    obtain ⟨keys, hkeys⟩ := highlightKeys_of_panels hsound (hfound first hfirst) hpanels
    refine ⟨keys, fun _ => hkeys, fun title address mode => ?_⟩
    have hentries := mapM_entryHtml_of_panels hsound hkeys hfound hok
    have hpieces := mapM_entryHtml_eq ⟨title, address, mode, own, keys⟩ hnumbered hbook
    rw [hpieces] at hentries
    rw [← hcases]
    exact (Except.ok.inj hentries).symm

theorem html_resultPieces (setup : Setup) (book : Workbook) :
    Markup.html (setup.resultPieces book) =
      if book.isEmpty then failureHtml emptyText
      else String.join ((book.map fun entry => (entry.1, Markup.html (setup.entryPieces book entry))).map (·.2)) := by
  rw [Setup.resultPieces]
  split
  next =>
    have htext : Text.escape emptyText = emptyText := Text.escape_ofList (by decide +kernel)
    rw [html_failurePieces, htext]
  next =>
    rw [Markup.html_flatMap, List.map_map]
    rfl

theorem html_pieces (hnumbered : book.Numbered) (setup : Setup) :
    Markup.html (setup.pieces book) = document setup.title
      ([headingHtml setup.title, formHtml setup.address]
        ++ (if 1 < book.length then [navigationHtml book] else [])
        ++ [resultsHtml (Markup.html (setup.resultPieces book))]) setup.mode := by
  have hnavigation : (if 1 < book.length then [navigationPieces book] else []).map Markup.html =
      if 1 < book.length then [navigationHtml book] else [] := by
    split
    next =>
      have hplain := html_navigationPieces fun entry hentry => hnumbered.isIdChar_of_mem hentry
      rw [List.map_singleton, hplain]
    next => rfl
  rw [Setup.pieces, html_documentPieces, List.map_append, List.map_append, hnavigation, List.map_cons,
    List.map_singleton, List.map_singleton, html_headingPieces, html_formPieces, html_resultsPieces]

/-- A page is written as the pieces that the configuration and the workbook fix, whatever is done while its
panels are on show. -/
theorem pieces_of_ofWorkbook (hnumbered : book.Numbered) {onPanel : String → Board → Act Unit}
    {session : Session} {html : String}
    (hok : (Act.runOn session (ofWorkbook book config onPanel)).1 = .ok html) :
    ∃ setup, SetBy book config setup ∧ html = Markup.html (setup.pieces book) := by
  rw [ofWorkbook] at hok
  obtain ⟨page, hpage, hok⟩ := Steps.ok_of_ofResult_bind hok
  obtain ⟨title, htitle, hok⟩ := Steps.ok_of_ofResult_bind hok
  obtain ⟨address, haddress, hok⟩ := Steps.ok_of_ofResult_bind hok
  obtain ⟨⟨entries, last⟩, later, hpanels, hok⟩ := Steps.ok_of_bind hok
  obtain ⟨mode, hmode, hdocument⟩ := Steps.ok_of_ofResult_bind hok
  rw [renderPanels] at hpanels
  obtain ⟨page', hpage', hpanels⟩ := Steps.ok_of_ofResult_bind (congrArg Prod.fst hpanels)
  cases hpage.symm.trans hpage'
  obtain ⟨own, hown, hpanels⟩ := Steps.ok_of_ofResult_bind hpanels
  obtain ⟨wanted, hwanted, hpanels⟩ := Steps.ok_of_ofResult_bind hpanels
  obtain ⟨⟨entries', last'⟩, _, hrun, hpanels⟩ := Steps.ok_of_bind hpanels
  cases hpanels
  cases hdocument
  obtain ⟨keys, hkeys, hentries⟩ := entries_of_panels hnumbered hown (congrArg Prod.fst hrun)
  refine ⟨⟨title, address, mode, own, keys⟩, ?_, ?_⟩
  · exact ⟨page, wanted, hpage, htitle, haddress, hmode, hown, hwanted, hkeys⟩
  · rw [html_pieces hnumbered, html_resultPieces, hentries]

theorem exists_panels (h : SetBy book config setup) {wanted : List Value}
    (hkeys : book ≠ [] → highlightKeys wanted = .ok setup.keys) (session : Session) :
    ∃ entries last later, Act.runOn session
      (panels book.initial? wanted (fun _ _ => pure ()) book setup.board) = (.ok (entries, last), later) := by
  obtain ⟨_, _, _, _, _, _, hown, _⟩ := h
  obtain ⟨hsound, hbook⟩ := sound_of_board hown
  rcases hcases : book with _ | ⟨first, rest⟩
  · exact ⟨[], setup.board, session, rfl⟩
  · rw [← hcases]
    have hready := hkeys (by rw [hcases]; exact List.cons_ne_nil _ _)
    have hfound : ∀ entry ∈ book, ∃ found, setup.board.book.find entry.1 = .ok found := by
      rw [hbook]
      exact fun entry hentry => exists_find hentry
    obtain ⟨entries, last, _, hrun, _⟩ := runOn_panels hsound hready book.initial? hfound session
    exact ⟨entries, last, _, hrun⟩

/-- A configuration that can be read gives a page. -/
theorem exists_ofWorkbook (h : SetBy book config setup) (session : Session) :
    ∃ html, (Act.runOn session (ofWorkbook book config fun _ _ => pure ())).1 = .ok html := by
  obtain ⟨page, wanted, hpage, htitle, haddress, hmode, hown, hwanted, hkeys⟩ := id h
  obtain ⟨entries, last, later, hrun⟩ := exists_panels h hkeys session
  have hpanels : Steps.runOn session (renderPanels book config none fun _ _ => pure ()) =
      (.ok (entries, last.clear), later) := by
    rw [renderPanels, hpage, Steps.runOn_bind_ok (Steps.runOn_ofResult session _)]
    dsimp only
    rw [hown, Steps.runOn_bind_ok (Steps.runOn_ofResult session _), hwanted,
      Steps.runOn_bind_ok (Steps.runOn_ofResult session _)]
    rw [Steps.runOn_bind_ok hrun]
    rfl
  rw [ofWorkbook, hpage, Steps.runOn_bind_ok (Steps.runOn_ofResult session _), htitle,
    Steps.runOn_bind_ok (Steps.runOn_ofResult session _), haddress,
    Steps.runOn_bind_ok (Steps.runOn_ofResult session _), Steps.runOn_bind_ok hpanels]
  dsimp only
  rw [hmode, Steps.runOn_bind_ok (Steps.runOn_ofResult later _)]
  exact ⟨_, rfl⟩

end Whole

end CodecReport.Page
