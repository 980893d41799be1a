import CodecReport.Page.Results
import CodecReport.Proofs.Panel.Frame
import CodecReport.Proofs.Panel.Holding

/-!
# The panels of a page

All panels of a page are drawn on one board, one after the other. What the page gets of each depends on the
frame of the board alone, the workbook, the size of charts and the forms that fail, and on what is
highlighted: nothing that was shown, selected or listened to before leaves a trace in it, be it of another
dataset or of the time before the page. In the end the board is cleared.
-/

namespace CodecReport.Page

open Board (Sound SameFrame Depicts)

def logged (notices : List Notice) (session : Session) : Session :=
  notices.foldl (fun s notice =>
    { s with logged := s.logged ++ [⟨.error, boardLogName, notice.logLine⟩] }) session

def warned (name : String) (notices : List Notice) (session : Session) : Session :=
  notices.foldl (fun s notice =>
    { s with printed := s.printed ++ ["[WARN] " ++ name ++ ": " ++ notice.logLine] }) session

theorem runOn_logged (notices : List Notice) (session : Session) :
    Steps.runOn session (forIn notices PUnit.unit fun notice _ => do
      Act.log .error boardLogName notice.logLine
      pure (ForInStep.yield PUnit.unit) : Act PUnit) = (.ok ⟨⟩, logged notices session) :=
  Steps.runOn_forIn _ _ session

theorem runOn_warned (name : String) (notices : List Notice) (session : Session) :
    Steps.runOn session (forIn notices PUnit.unit fun notice _ => do
      Act.print ("[WARN] " ++ name ++ ": " ++ notice.logLine)
      pure (ForInStep.yield PUnit.unit) : Act PUnit) = (.ok ⟨⟩, warned name notices session) :=
  Steps.runOn_forIn _ _ session

variable {board : Board} {wanted : List Value} {name : String} {found : Sheet}

/-- What highlighting leaves on a board that shows a dataset with nothing selected, unless what is highlighted
cannot be told: the highlighted rows are selected in all that is on show, and drawn. -/
theorem exists_highlight {rendered : Board} (h : Sound rendered) (hframe : SameFrame board rendered)
    (hdepicts : rendered.Depicts name found []) (hholding : rendered.Holding [])
    (hlisteners : ∀ m ∈ rendered.shown, rendered.network.listenersOf m selectEvent = [.relay 0])
    (wanted : List Value) (ds : Dataset) :
    ∃ outcome, (∀ session, Act.runOn session (highlight rendered wanted ds) = (outcome, session)) ∧
      match highlightKeys wanted with
      | .error fault => outcome = .error fault
      | .ok keys => ∃ shown, outcome = .ok shown ∧ Sound shown ∧ SameFrame board shown ∧
          shown.Depicts name found (highlightRows keys ds) ∧ shown.Holding (highlightRows keys ds) := by
  simp only [highlight]
  cases highlightKeys wanted with
  | error fault => exact ⟨_, fun session => Steps.runOn_bind_error (Steps.runOn_ofResult session _) _, rfl⟩
  | ok keys =>
    simp only [Steps.runOn_bind_ok (Steps.runOn_ofResult _ _)]
    generalize highlightRows keys ds = chosen
    cases chosen with
    | nil => exact ⟨_, fun session => rfl, rendered, rfl, h, hframe, hdepicts, hholding⟩
    | cons row rows =>
      cases hshown : rendered.shown with
      | nil =>
        have hnone : rendered.Holding (row :: rows) := fun m hm => absurd (hshown ▸ hm) List.not_mem_nil
        exact ⟨_, fun session => rfl, rendered, rfl, h, hframe, hdepicts.of_none_shown hshown _, hnone⟩
      | cons first others =>
        have hfirst : first ∈ rendered.shown := hshown ▸ List.mem_cons_self
        obtain ⟨drawn, hredraw, hdrawn, hkept, hselected⟩ :=
          h.select_depicts hdepicts hfirst (hlisteners first hfirst) (row :: rows)
        have hheld := h.select_holding hfirst (hlisteners first hfirst) (row :: rows)
        rw [hredraw] at hheld
        refine ⟨.ok drawn, fun session => ?_, drawn, rfl, hdrawn, hframe.trans hkept, hselected, hheld⟩
        simp only [hredraw]
        rfl

/-- A board presents a dataset with the highlighted rows selected in every view, unless what is highlighted
cannot be told. What is presented does not depend on the session. -/
theorem exists_present (h : Sound board) (hfind : board.book.find name = .ok found) (wanted : List Value)
    (sheet : Sheet) :
    ∃ outcome, (∀ session, Act.runOn session (present board wanted name sheet) =
        (outcome, logged (board.panelOf name found []).notices session)) ∧
      match highlightKeys wanted with
      | .error fault => outcome = .error fault
      | .ok keys => ∃ shown, outcome = .ok shown ∧ Sound shown ∧ SameFrame board shown ∧
          shown.Depicts name found (highlightRows keys sheet.dataset) ∧
          shown.Holding (highlightRows keys sheet.dataset) := by
  obtain ⟨rendered, hrender, hsound, hframe, hdepicts⟩ := h.render_depicts hfind
  have hnotices : (rendered.current.map Panel.notices).getD [] = (board.panelOf name found []).notices := by
    rw [hdepicts.notices_eq, hframe.panelOf]
  obtain ⟨outcome, hrun, houtcome⟩ := exists_highlight hsound hframe hdepicts (h.render_holding hrender)
    (fun m hm => (h.render_shown hrender hm).2) wanted sheet.dataset
  refine ⟨outcome, fun session => ?_, houtcome⟩
  rw [present, hrender, Steps.runOn_bind_ok (Steps.runOn_ofResult session _),
    Steps.runOn_bind_ok (runOn_logged _ session), hnotices]
  exact hrun _

theorem runOn_present (h : Sound board) (hfind : board.book.find name = .ok found) (wanted : List Value)
    (sheet : Sheet) (session : Session) :
    ∃ outcome, Act.runOn session (present board wanted name sheet) =
        (outcome, logged (board.panelOf name found []).notices session) ∧
      match highlightKeys wanted with
      | .error fault => outcome = .error fault
      | .ok keys => ∃ shown, outcome = .ok shown ∧ Sound shown ∧ SameFrame board shown ∧
          shown.Depicts name found (highlightRows keys sheet.dataset) := by
  obtain ⟨outcome, hrun, houtcome⟩ := exists_present h hfind wanted sheet
  refine ⟨outcome, hrun session, ?_⟩
  cases hkeys : highlightKeys wanted with
  | error fault => simpa only [hkeys] using houtcome
  | ok keys =>
    simp only [hkeys] at houtcome
    obtain ⟨shown, rfl, hsound, hframe, hdepicts, _⟩ := houtcome
    exact ⟨shown, rfl, hsound, hframe, hdepicts⟩

/-- The panel of an entry of the workbook, from the frame of a board and what is highlighted alone. -/
def entryHtml (board : Board) (keys : List String) (initial : Option String) (entry : String × Sheet) :
    Except Fault (String × String) := do
  let found ← board.book.find entry.1
  let panel := board.panelOf entry.1 found (highlightRows keys entry.2.dataset)
  return (entry.1, panel.html found (initial ≠ some entry.1))

/-- The session behind the panel of an entry. -/
def entrySession (board : Board) (keys : List String) (session : Session) (entry : String × Sheet) :
    Session :=
  match board.book.find entry.1 with
  | .ok found =>
    warned entry.1 (board.panelOf entry.1 found (highlightRows keys entry.2.dataset)).notices
      (logged (board.panelOf entry.1 found []).notices session)
  | .error _ => session

theorem entryHtml_frame {a b : Board} (h : SameFrame a b) (keys : List String) (initial : Option String) :
    entryHtml b keys initial = entryHtml a keys initial := by
  funext entry
  simp only [entryHtml, h.book, h.panelOf]

theorem entrySession_frame {a b : Board} (h : SameFrame a b) (keys : List String) :
    entrySession b keys = entrySession a keys := by
  funext session entry
  simp only [entrySession, h.book, h.panelOf]

theorem runOn_panels (h : Sound board) {keys : List String} (hkeys : highlightKeys wanted = .ok keys)
    (initial : Option String) {rest : Workbook}
    (hrest : ∀ entry ∈ rest, ∃ found, board.book.find entry.1 = .ok found) (session : Session) :
    ∃ entries last, rest.mapM (entryHtml board keys initial) = .ok entries ∧
      Act.runOn session (panels initial wanted (fun _ _ => pure ()) rest board) =
        (.ok (entries, last), rest.foldl (entrySession board keys) session) ∧
      Sound last ∧ SameFrame board last := by
  induction rest generalizing board session with
  | nil => exact ⟨[], board, rfl, rfl, h, .refl board⟩
  | cons entry rest ih =>
    obtain ⟨name, sheet⟩ := entry
    obtain ⟨found, hfind⟩ := hrest (name, sheet) List.mem_cons_self
    obtain ⟨outcome, hpresent, houtcome⟩ := runOn_present h hfind wanted sheet session
    simp only [hkeys] at houtcome
    obtain ⟨shown, rfl, hsound, hframe, hdepicts⟩ := houtcome
    have hfirst : entryHtml board keys initial (name, sheet) =
        .ok (name, (board.panelOf name found (highlightRows keys sheet.dataset)).html found
          (initial ≠ some name)) := by
      rw [entryHtml, hfind]
      rfl
    have hsession : entrySession board keys session (name, sheet) =
        warned name (board.panelOf name found (highlightRows keys sheet.dataset)).notices
          (logged (board.panelOf name found []).notices session) := by
      rw [entrySession, hfind]
    have hhtml := hdepicts.html_eq (initial ≠ some name)
    have hnotices := hdepicts.notices_eq
    rw [hframe.panelOf] at hhtml hnotices
    obtain ⟨entries, last, hmap, hrun, hlast, hkept⟩ :=
      ih hsound (fun other hother => by
        rw [hframe.book]
        exact hrest other (List.mem_cons_of_mem _ hother))
        (entrySession board keys session (name, sheet))
    rw [entryHtml_frame hframe] at hmap
    rw [entrySession_frame hframe] at hrun
    refine ⟨(name, (board.panelOf name found (highlightRows keys sheet.dataset)).html found
      (initial ≠ some name)) :: entries, last, ?_, ?_, hlast, hframe.trans hkept⟩
    · rw [List.mapM_cons, hfirst, hmap]
      rfl
    · rw [panels, Steps.runOn_bind_ok hpresent, pure_bind, hhtml,
        Steps.runOn_bind_ok (Steps.runOn_ofResult _ _), Steps.runOn_bind_ok (runOn_warned _ _ _), hnotices,
        ← hsession, Steps.runOn_bind_ok hrun]
      rfl

/-- A board that presents one dataset and nothing else. -/
def lonePanel (board : Board) (wanted : List Value) (initial : Option String) (entry : String × Sheet) :
    Act String := do
  let shown ← present board wanted entry.1 entry.2
  Act.ofResult (shown.html (initial ≠ some entry.1))

theorem runOn_lonePanel (h : Sound board) {keys : List String} (hkeys : highlightKeys wanted = .ok keys)
    (initial : Option String) {entry : String × Sheet} {html : String × String}
    (hhtml : entryHtml board keys initial entry = .ok html) (session : Session) :
    html.1 = entry.1 ∧ (Act.runOn session (lonePanel board wanted initial entry)).1 = .ok html.2 := by
  rw [entryHtml] at hhtml
  obtain ⟨found, hfind, hresult⟩ := bind_eq_ok_iff.mp hhtml
  obtain ⟨outcome, hpresent, houtcome⟩ := runOn_present h hfind wanted entry.2 session
  simp only [hkeys] at houtcome
  obtain ⟨shown, rfl, _, hframe, hdepicts⟩ := houtcome
  have hshown := hdepicts.html_eq (initial ≠ some entry.1)
  rw [hframe.panelOf] at hshown
  cases hresult
  refine ⟨rfl, ?_⟩
  rw [lonePanel, Steps.runOn_bind_ok hpresent, Steps.runOn_ofResult, hshown]

/-- Where it cannot be told what is highlighted, no panel is handed over. -/
theorem runOn_panels_error (h : Sound board) {fault : Fault} (hkeys : highlightKeys wanted = .error fault)
    (initial : Option String) {entry : String × Sheet} (hfind : board.book.find entry.1 = .ok found)
    (rest : Workbook) (onPanel : String → Board → Act Unit) (session : Session) :
    Act.runOn session (panels initial wanted onPanel (entry :: rest) board) =
      (.error fault, logged (board.panelOf entry.1 found []).notices session) := by
  obtain ⟨outcome, hpresent, houtcome⟩ := runOn_present h hfind wanted entry.2 session
  simp only [hkeys] at houtcome
  subst houtcome
  change Steps.runOn session (panels initial wanted _ ((entry.1, entry.2) :: rest) board) = _
  rw [panels, Steps.runOn_bind_error hpresent]

theorem exists_find {book : Workbook} {entry : String × Sheet} (hentry : entry ∈ book) :
    ∃ found, book.find entry.1 = .ok found := by
  cases hfind : book.find entry.1 with
  | ok found => exact ⟨found, rfl⟩
  | error fault =>
    have hunknown := (Board.find_eq_error_iff.mp hfind).1
    exact absurd (List.mem_map_of_mem hentry) hunknown

/-- Rendering all panels on a given board. -/
def rendering (book : Workbook) (config : Value) (session : Session) (start : Board) :
    Except Fault (Entries String × Board) × Session :=
  Act.runOn session (renderPanels book config (some start) fun _ _ => pure ())

section Rendering

variable {book : Workbook} {config page : Value} {fault : Fault} {session : Session}

theorem rendering_of_settings_error (hpage : settings config = .error fault) (start : Board) :
    rendering book config session start = (.error fault, session) := by
  rw [rendering, renderPanels, hpage]
  exact Steps.runOn_bind_error (Steps.runOn_ofResult session _) _

theorem rendering_of_highlights_error (hpage : settings config = .ok page)
    (hwanted : highlights page = .error fault) (start : Board) :
    rendering book config session start = (.error fault, session) := by
  rw [rendering, renderPanels, hpage, Steps.runOn_bind_ok (Steps.runOn_ofResult session _)]
  dsimp only
  rw [pure_bind, hwanted]
  exact Steps.runOn_bind_error (Steps.runOn_ofResult session _) _

theorem rendering_of_ok (hpage : settings config = .ok page) (hwanted : highlights page = .ok wanted)
    (start : Board) :
    rendering book config session start =
      let run := Act.runOn session (panels book.initial? wanted (fun _ _ => pure ()) book start)
      (run.1.map fun result => (result.1, result.2.clear), run.2) := by
  rw [rendering, renderPanels, hpage, Steps.runOn_bind_ok (Steps.runOn_ofResult session _)]
  dsimp only
  rw [pure_bind, hwanted, Steps.runOn_bind_ok (Steps.runOn_ofResult session _), Steps.runOn_bind]
  rcases Steps.runOn session (panels book.initial? wanted (fun _ _ => pure ()) book start) with
    ⟨fault | result, last⟩ <;> rfl

/-- A page that is given no board makes one. -/
theorem rendering_of_none (hpage : settings config = .ok page) {own : Board}
    (hown : Page.board book page = .ok own) :
    Act.runOn session (renderPanels book config none fun _ _ => pure ()) =
      rendering book config session own := by
  rw [rendering, renderPanels, renderPanels, hpage, Steps.runOn_bind_ok (Steps.runOn_ofResult session _),
    Steps.runOn_bind_ok (Steps.runOn_ofResult session _)]
  dsimp only
  rw [hown, Steps.runOn_bind_ok (Steps.runOn_ofResult session _), pure_bind]

/-- Boards with the same frame give the same panels, and leave the same session behind. -/
theorem rendering_sameFrame {a b : Board} (ha : Sound a) (hb : Sound b) (hframe : SameFrame a b)
    (config : Value) (session : Session) :
    (rendering a.book config session a).1.map Prod.fst = (rendering a.book config session b).1.map Prod.fst ∧
      (rendering a.book config session a).2 = (rendering a.book config session b).2 := by
  cases hpage : settings config with
  | error fault =>
    simp only [rendering_of_settings_error hpage, and_self]
  | ok page =>
    cases hwanted : highlights page with
    | error fault =>
      simp only [rendering_of_highlights_error hpage hwanted, and_self]
    | ok wanted =>
      rw [rendering_of_ok hpage hwanted, rendering_of_ok hpage hwanted]
      have hfound : ∀ entry ∈ a.book, ∃ found, b.book.find entry.1 = .ok found := by
        rw [hframe.book]
        exact fun entry hentry => exists_find hentry
      cases hkeys : highlightKeys wanted with
      | ok keys =>
        obtain ⟨entries, last, hmap, hrun, _⟩ :=
          runOn_panels ha hkeys a.book.initial? (fun entry hentry => exists_find hentry) session
        obtain ⟨entries', last', hmap', hrun', _⟩ :=
          runOn_panels hb hkeys a.book.initial? hfound session
        rw [entryHtml_frame hframe] at hmap'
        rw [entrySession_frame hframe] at hrun'
        cases hmap.symm.trans hmap'
        simp only [hrun, hrun', Except.map, and_self]
      | error fault =>
        rcases hbook : a.book with _ | ⟨entry, rest⟩
        · exact ⟨rfl, rfl⟩
        · obtain ⟨found, hfind⟩ := exists_find (hbook ▸ List.mem_cons_self : entry ∈ a.book)
          have hfind' : b.book.find entry.1 = .ok found := by
            rw [hframe.book]
            exact hfind
          have hrun := runOn_panels_error ha hkeys (Workbook.initial? (entry :: rest)) hfind rest
            (fun _ _ => pure ()) session
          have hrun' := runOn_panels_error hb hkeys (Workbook.initial? (entry :: rest)) hfind' rest
            (fun _ _ => pure ()) session
          rw [hframe.panelOf] at hrun'
          simp only [hrun, hrun', Except.map, and_self]

/-- A board on which all panels were rendered is cleared, and each panel is that of a board of the same
frame which presents this dataset alone. -/
theorem rendering_eq_ok {a fresh : Board} (ha : Sound a) (hfresh : Sound fresh) (hframe : SameFrame fresh a)
    {entries : Entries String} {last : Board}
    (hok : (rendering a.book config session a).1 = .ok (entries, last)) :
    last.current = none ∧ last.members = [] ∧
      ∃ page wanted, settings config = .ok page ∧ highlights page = .ok wanted ∧
        List.Forall₂ (fun dataset entry => entry.1 = dataset.1 ∧ ∀ other,
          (Act.runOn other (lonePanel fresh wanted a.book.initial? dataset)).1 = .ok entry.2)
          a.book entries := by
  have hcleared {board : Board} (h : Sound board) : board.clear.current = none ∧ board.clear.members = [] :=
    ⟨rfl, h.clear.gathered.membersOf⟩
  cases hpage : settings config with
  | error fault =>
    rw [rendering_of_settings_error hpage] at hok
    cases hok
  | ok page =>
    cases hwanted : highlights page with
    | error fault =>
      rw [rendering_of_highlights_error hpage hwanted] at hok
      cases hok
    | ok wanted =>
      rw [rendering_of_ok hpage hwanted] at hok
      cases hkeys : highlightKeys wanted with
      | ok keys =>
        obtain ⟨_, _, hmap, hrun, hlast, _⟩ :=
          runOn_panels ha hkeys a.book.initial? (fun entry hentry => exists_find hentry) session
        simp only [hrun] at hok
        cases hok
        obtain ⟨hcurrent, hmembers⟩ := hcleared hlast
        refine ⟨hcurrent, hmembers, page, wanted, rfl, hwanted, ?_⟩
        refine (mapM_eq_ok_iff.mp hmap).imp fun dataset entry hentry => ?_
        rw [entryHtml_frame hframe] at hentry
        have hlone := runOn_lonePanel hfresh hkeys a.book.initial? hentry
        exact ⟨(hlone session).1, fun other => (hlone other).2⟩
      | error fault =>
        rcases hbook : a.book with _ | ⟨dataset, rest⟩
        · rw [hbook] at hok
          cases hok
          obtain ⟨hcurrent, hmembers⟩ := hcleared ha
          exact ⟨hcurrent, hmembers, page, wanted, rfl, hwanted, .nil⟩
        · obtain ⟨found, hfind⟩ := exists_find (hbook ▸ List.mem_cons_self : dataset ∈ a.book)
          rw [hbook] at hok
          simp only [runOn_panels_error ha hkeys _ hfind rest _ session] at hok
          cases hok

end Rendering

/-- Whatever was done with a board before: the panels of all datasets, drawn on it, are those that a board
without a past gives, with the same faults and the same session behind them; a page that makes a board of
its own makes such a one. They are drawn whenever the configuration can be read. Each is the panel of a
board without a past that presents this dataset alone, and in the end nothing is on show and nobody belongs
to the group. -/
theorem renderPanels_history (book : Workbook) (width aspect : Double) (moves : List Move) (config : Value)
    (session : Session) :
    let board := (Board.blank book width aspect).play moves
    let fresh : Board := { Board.blank board.book width aspect with broken := board.broken }
    let run (start : Board) :=
      Act.runOn session (renderPanels board.book config (some start) fun _ _ => pure ())
    ((∀ move ∈ moves, ¬ move.Reframes) → fresh = Board.blank book width aspect) ∧
    ((run board).1.map Prod.fst = (run fresh).1.map Prod.fst ∧ (run board).2 = (run fresh).2) ∧
    (∀ page, settings config = .ok page → Page.board board.book page = .ok fresh →
      Act.runOn session (renderPanels board.book config none fun _ _ => pure ()) = run fresh) ∧
    (∀ page wanted keys, settings config = .ok page → highlights page = .ok wanted →
      highlightKeys wanted = .ok keys → ∃ result, (run board).1 = .ok result) ∧
    ∀ entries last, (run board).1 = .ok (entries, last) →
      last.current = none ∧ last.members = [] ∧
      ∃ page wanted, settings config = .ok page ∧ highlights page = .ok wanted ∧
        List.Forall₂ (fun dataset entry => entry.1 = dataset.1 ∧ ∀ other,
          (Act.runOn other (lonePanel fresh wanted board.book.initial? dataset)).1 = .ok entry.2)
          board.book entries := by
  intro board fresh run
  have hblank : Sound (Board.blank book width aspect) := Sound.blank book width aspect
  have hsound : Sound board := hblank.play moves
  have hfresh : Sound fresh :=
    let hnew := Sound.blank board.book width aspect
    ⟨hnew.gathered, hnew.recorded, hnew.declared⟩
  have hframe : SameFrame fresh board :=
    ⟨rfl, (hblank.play_scale moves).1, (hblank.play_scale moves).2, rfl⟩
  refine ⟨fun hkept => ?_, rendering_sameFrame hsound hfresh hframe.symm config session,
    fun page hpage hown => rendering_of_none hpage hown, ?_, ?_⟩
  · have hsame : SameFrame (Board.blank book width aspect) board := hblank.play_sameFrame hkept
    simp only [fresh, hsame.book, hsame.broken, Board.blank]
  · intro page wanted keys hpage hwanted hkeys
    obtain ⟨entries, last, _, hrun, _⟩ :=
      runOn_panels hsound hkeys board.book.initial? (fun entry hentry => exists_find hentry) session
    have hrendering : run board = _ := rendering_of_ok hpage hwanted board
    rw [hrendering, hrun]
    exact ⟨_, rfl⟩
  · intro entries last hok
    exact rendering_eq_ok hsound hfresh hframe hok

/-- A document with two datasets that share a codec. -/
def sharedCodec : Document :=
  let record (codec : String) : Measurement :=
    ⟨"p", codec, Double.ofInt 512, Double.ofInt 1, Double.ofInt 1, none, none⟩
  [("d", ⟨"d", Double.ofInt 1024, [record "a", record "b"]⟩), ("e", ⟨"e", Double.ofInt 4096, [record "b"]⟩)]

/-- A board on which both datasets were shown, rows were selected and a listener was added, and a configuration that
lists a codec. -/
theorem renderPanels_history_selected :
    let config : Value := .map [("page", .map [("highlight", .list [.text "B"])])]
    let moves : List Move := [.render "d", .listen 1 selectEvent, .select 0 [⟨some 0, none⟩], .render "e",
      .select 7 [⟨some 0, none⟩]]
    ∃ book, Workbook.ofDocument sharedCodec = .ok book ∧
      let board := (Board.blank book Board.defaultWidth Board.defaultAspect).play moves
      ∃ entries last, (Act.runOn { disk := { home := [] } }
          (renderPanels book config (some board) fun _ _ => pure ())).1 = .ok (entries, last) ∧
        entries.map Prod.fst = ["d", "e"] ∧ last.members = [] ∧
        (Act.runOn { disk := { home := [] } }
          (renderPanels book config none fun _ _ => pure ())).1.map Prod.fst = .ok entries := by
  intro config moves
  obtain ⟨book, hbook, hnames⟩ : ∃ book, Workbook.ofDocument sharedCodec = .ok book ∧ book.map Prod.fst = ["d", "e"] :=
    ⟨_, eq_ok_getD_of_isOk (by decide +kernel) [], by decide +kernel⟩
  refine ⟨book, hbook, ?_⟩
  intro board
  have hkept : ∀ move ∈ moves, ¬ move.Reframes := by simp [moves, Move.Reframes]
  have hframe : SameFrame _ board := (Sound.blank book Board.defaultWidth Board.defaultAspect).play_sameFrame hkept
  have hsame : board.book = book := hframe.book
  obtain ⟨hfresh, halike, hown, hreturns, hresult⟩ := renderPanels_history book Board.defaultWidth
    Board.defaultAspect moves config { disk := { home := [] } }
  rw [hfresh hkept, hsame] at halike hown hresult
  rw [hsame] at hreturns
  obtain ⟨⟨entries, last⟩, hrun⟩ := hreturns _ [.text "B"] [Text.lower "B"] rfl rfl rfl
  obtain ⟨_, hmembers, _, _, _, _, hentries⟩ := hresult entries last hrun
  refine ⟨entries, last, hrun, ?_, hmembers, ?_⟩
  · rw [← hnames, ← List.forall₂_eq_eq_eq, List.forall₂_map_left_iff, List.forall₂_map_right_iff]
    exact hentries.flip.imp fun entry dataset hentry => hentry.1
  · rw [hown _ rfl rfl, ← halike.1, hrun]
    rfl

end CodecReport.Page
