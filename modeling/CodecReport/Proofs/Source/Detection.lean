import CodecReport.Proofs.Disk.Resolving
import CodecReport.Proofs.Source.Loading

/-!
# What kind of source a text is

A text is judged twice: as it was given, and as the location that it leads to. The scheme of a text lies before its
first slash, so that the two can differ only where reading a path drops what stands there, a single point. Such a
text is fetched although it has no scheme of its own, as long as nothing on the disk stands where it leads.
-/

namespace CodecReport

open Text

namespace Address

/-! ### Schemes -/

def cleanedChars (cs : List Char) : List Char :=
  (cs.dropWhile fun c => c.toNat ≤ 32).filter fun c => c != '\t' && c != '\r' && c != '\n'

/-- Whether a text has one of the schemes that are fetched. -/
def startsRemote (cs : List Char) : Bool :=
  let found := (splitScheme (cleanedChars cs)).1
  found == "http" || found == "https"

/-- What is judged of a text: the authority first, then the scheme. -/
theorem isRemote_eq_ok_iff {s : String} {remote : Bool} :
    isRemote s = .ok remote ↔
      checkAuthority (authority (splitScheme (cleaned s)).2) = .ok () ∧ startsRemote s.toList = remote := by
  have hcleaned : cleaned s = cleanedChars s.toList := rfl
  rw [isRemote, scheme, hcleaned, startsRemote]
  cases hcheck : checkAuthority (authority (splitScheme (cleanedChars s.toList)).2) with
  | error fault => simp [hcheck, bind, Except.bind]
  | ok _ => simp [hcheck, bind, Except.bind, pure, Except.pure]

theorem cleanedChars_append_slash (before after : List Char) :
    ∃ more, cleanedChars (before ++ '/' :: after) = cleanedChars before ++ '/' :: more := by
  have hslash : ('/' :: after).dropWhile (fun c => decide (c.toNat ≤ 32)) = '/' :: after :=
    List.dropWhile_cons_of_neg (by decide)
  rw [cleanedChars, cleanedChars, List.dropWhile_append]
  split
  next hempty =>
    rw [hslash, List.isEmpty_iff.mp hempty, List.filter_cons_of_pos (by decide)]
    exact ⟨_, rfl⟩
  next =>
    rw [List.filter_append, List.filter_cons_of_pos (by decide)]
    exact ⟨_, rfl⟩

theorem splitScheme_of_not_mem {cs : List Char} (hcolon : ':' ∉ cs) : (splitScheme cs).1 = "" := by
  rw [splitScheme, cutAt_of_not_mem hcolon]

/-- A scheme ends before the first slash. -/
theorem splitScheme_append_slash (before after : List Char) :
    (splitScheme (before ++ '/' :: after)).1 = (splitScheme before).1 := by
  have hscheme {name : List Char} (hname : ':' ∉ name) (rest : List Char) :
      (splitScheme (name ++ ':' :: rest)).1 =
        if (name.head?.any Char.isAlpha) && name.all isSchemeChar then String.ofList (name.map Char.toLower)
        else "" := by
    simp only [splitScheme, cutAt_append_cons hname]
    split <;> rfl
  by_cases hcolon : ':' ∈ before
  · obtain ⟨name, rest, rfl, hname⟩ := List.eq_append_cons_of_mem hcolon
    rw [List.append_assoc, List.cons_append, hscheme hname, hscheme hname]
  · rw [splitScheme_of_not_mem hcolon]
    by_cases hlater : ':' ∈ after
    · obtain ⟨name, rest, rfl, hname⟩ := List.eq_append_cons_of_mem hlater
      have hnone : ':' ∉ before ++ '/' :: name := by simp [hcolon, hname]
      have hslash : (before ++ '/' :: name).all isSchemeChar = false := by
        rw [List.all_eq_false]
        exact ⟨'/', by simp, by decide⟩
      have htext : before ++ '/' :: (name ++ ':' :: rest) = (before ++ '/' :: name) ++ ':' :: rest := by simp
      rw [htext, hscheme hnone, hslash, Bool.and_false]
      rfl
    · exact splitScheme_of_not_mem (by simp [hcolon, hlater])

theorem startsRemote_append_slash (before after : List Char) :
    startsRemote (before ++ '/' :: after) = startsRemote before := by
  obtain ⟨more, hcleaned⟩ := cleanedChars_append_slash before after
  rw [startsRemote, startsRemote, hcleaned, splitScheme_append_slash]

theorem startsRemote_slash (after : List Char) : startsRemote ('/' :: after) = false :=
  startsRemote_append_slash [] after

end Address

namespace Path

/-! ### What stands before the first slash -/

theorem leadOf_slash_ne (cs : List Char) : leadOf ('/' :: cs) ≠ "" := by
  rw [leadOf, List.takeWhile_cons_of_pos rfl, List.length_cons]
  split
  next hzero => exact absurd hzero (Nat.succ_ne_zero _)
  all_goals decide

/-- Before the first slash of a text and of the path it writes stands the same, unless reading drops a point. -/
theorem startsRemote_part {s part : String} {more : List String} (hlead : (ofText s).lead = "")
    (hparts : (ofText s).parts = part :: more) :
    Address.startsRemote s.toList = Address.startsRemote part.toList ∨ ∃ rest, s.toList = '.' :: '/' :: rest := by
  have hpieces : ((splitAt '/' s.toList).map String.ofList).filter (fun part => part != "" && part != ".") =
      part :: more := hparts
  have hstart : leadOf s.toList = "" := hlead
  by_cases hslash : '/' ∈ s.toList
  · obtain ⟨first, rest, hchars, hfirst⟩ := List.eq_append_cons_of_mem hslash
    rw [hchars] at hpieces hstart ⊢
    rw [splitAt_append_cons hfirst, List.map_cons] at hpieces
    rw [Address.startsRemote_append_slash]
    by_cases hkept : (String.ofList first != "" && String.ofList first != ".") = true
    · rw [List.filter_cons, if_pos hkept] at hpieces
      rw [← (List.cons.inj hpieces).1, String.toList_ofList]
      exact .inl rfl
    · have hdropped : first = "".toList ∨ first = ".".toList := by
        rw [Bool.and_eq_true, bne_iff_ne, bne_iff_ne, Classical.not_and_iff_not_or_not, not_not, not_not] at hkept
        exact hkept.imp (fun h => by rw [← h, String.toList_ofList]) fun h => by rw [← h, String.toList_ofList]
      rcases hdropped with rfl | rfl
      · exact absurd hstart (leadOf_slash_ne rest)
      · exact .inr ⟨rest, rfl⟩
  · rw [splitAt_of_not_mem hslash, List.map_singleton, String.ofList_toList] at hpieces
    have hmem : part ∈ [s] := List.mem_of_mem_filter (hpieces ▸ List.mem_cons_self)
    rw [List.mem_singleton.mp hmem]
    exact .inl rfl

theorem startsRemote_text {p : Path} {part : String} {more : List String} (hlead : p.lead = "")
    (hparts : p.parts = part :: more) : Address.startsRemote p.text.toList = Address.startsRemote part.toList := by
  rw [toList_text p (by simp [hparts]), hlead, hparts]
  cases more with
  | nil => rfl
  | cons next later => exact Address.startsRemote_append_slash part.toList _

theorem startsRemote_of_lead {p : Path} (hp : p.Written) (hlead : p.lead ≠ "") :
    Address.startsRemote p.text.toList = false := by
  rw [toList_text p (by simp [hlead])]
  rcases hp.lead with hnone | hone | htwo
  · exact absurd hnone hlead
  · rw [hone]
    exact Address.startsRemote_slash _
  · rw [htwo]
    exact Address.startsRemote_slash _

end Path

namespace Source

/-! ### Where a source on disk leads -/

/-- The path that a source on disk stands for: its own, or that of the document inside a folder. -/
def sought (disk : Disk) (text : String) : Except DiskFault Path := do
  match ← disk.probe (Path.ofText text) with
  | some .folder => return (Path.ofText text).child documentName
  | _ => return Path.ofText text

/-- A source on disk leads to a path and to what stands there, if anything does. -/
def Leads (disk : Disk) (text : String) (p : Path) (found : Option Node) : Prop :=
  sought disk text = .ok p ∧ disk.probe p = .ok found

theorem Leads.unique {disk : Disk} {text : String} {p q : Path} {found other : Option Node}
    (h : Leads disk text p found) (hother : Leads disk text q other) : p = q ∧ found = other := by
  obtain rfl := Except.ok.inj (h.1.symm.trans hother.1)
  exact ⟨rfl, Except.ok.inj (h.2.symm.trans hother.2)⟩

/-- The path is that of the text, with the document as a further part or without. -/
theorem path_of_sought {disk : Disk} {text : String} {p : Path} (hp : sought disk text = .ok p) :
    ∃ behind, (behind = [] ∨ behind = [documentName]) ∧
      p = { Path.ofText text with parts := (Path.ofText text).parts ++ behind } := by
  have hchild : (Path.ofText text).child documentName =
      { Path.ofText text with parts := (Path.ofText text).parts ++ [documentName] } := by
    have hname : Path.ofText documentName = ⟨"", [documentName]⟩ := by decide +kernel
    rw [Path.child, hname]
    rfl
  obtain ⟨node, _, hp⟩ := bind_eq_ok_iff.mp hp
  split at hp
  · exact ⟨[documentName], .inr rfl, (Except.ok.inj hp).symm.trans hchild⟩
  · exact ⟨[], .inl rfl, by rw [List.append_nil]; exact (Except.ok.inj hp).symm⟩

theorem written_of_sought {disk : Disk} {text : String} {p : Path} (hp : sought disk text = .ok p) :
    p.Written := by
  have htext := Path.written_ofText text
  obtain ⟨behind, hbehind, rfl⟩ := path_of_sought hp
  refine ⟨htext.lead, fun part hpart => (List.mem_append.mp hpart).elim (htext.parts part) fun hname => ?_⟩
  rcases hbehind with rfl | rfl
  · cases hname
  · rw [List.mem_singleton.mp hname]
    exact ⟨by decide, by decide, by decide⟩

/-- A text whose path starts as an address starts as one itself, or with a point that reading drops. -/
theorem startsRemote_of_sought {disk : Disk} {text : String} {p : Path} (hp : sought disk text = .ok p)
    (hremote : Address.startsRemote p.text.toList = true) :
    Address.startsRemote text.toList = true ∨ ∃ rest, text.toList = '.' :: '/' :: rest := by
  have hlead : p.lead = "" := by
    by_contra hne
    rw [Path.startsRemote_of_lead (written_of_sought hp) hne] at hremote
    cases hremote
  obtain ⟨behind, hbehind, rfl⟩ := path_of_sought hp
  cases hparts : (Path.ofText text).parts with
  | nil =>
    -- a path without parts of its own is a point, or the document alone
    have hnames : ∀ parts, parts = [] ∨ parts = [documentName] →
        Address.startsRemote (⟨"", parts⟩ : Path).text.toList = false := by
      rintro _ (rfl | rfl) <;> decide +kernel
    have hnone := hnames behind hbehind
    simp only [hparts, List.nil_append] at hremote hlead
    rw [hlead, hnone] at hremote
    cases hremote
  | cons part more =>
    have hfirst : (Path.ofText text).parts ++ behind = part :: (more ++ behind) := by rw [hparts, List.cons_append]
    rw [Path.startsRemote_text hlead hfirst] at hremote
    exact (Path.startsRemote_part hlead hparts).imp_left fun heq => heq.trans hremote

/-! ### Detecting -/

theorem pathText_eq (disk : Disk) (text : String) : pathText disk text = do
    let p ← sought disk text
    if (← disk.probe p).isSome then return (disk.resolve p).text else return p.text := by
  rw [pathText, sought, bind_assoc]
  refine bind_congr fun node => ?_
  rcases node with _ | _ | content <;> simp only [pure_bind]

def SourceKind.ofNode : Node → SourceKind
  | .file _ => .file
  | .folder => .unknown

/-- A location that reads as this path is an address or what stands there. -/
theorem kindOf_eq_ok_iff {disk : Disk} {p : Path} (hp : p.Written) {kind : SourceKind} :
    kindOf disk p.text = .ok kind ↔ ∃ remote, Address.isRemote p.text = .ok remote ∧
      if remote then kind = .remote
      else ∃ found, disk.probe p = .ok found ∧ kind = (found.elim .unknown SourceKind.ofNode) := by
  rw [kindOf, Path.ofText_text hp]
  cases Address.isRemote p.text with
  | error fault => simp [Except.mapError, bind, Except.bind]
  | ok remote =>
    cases remote with
    | true => simp [Except.mapError, bind, Except.bind, pure, Except.pure, eq_comm]
    | false =>
      cases disk.probe p with
      | error fault => simp [Except.mapError, bind, Except.bind]
      | ok found =>
        match found with
        | none | some .folder | some (.file _) =>
          simp [Except.mapError, bind, Except.bind, pure, Except.pure, SourceKind.ofNode, eq_comm]

/-- What is told of where a source on disk leads: the path as it is written, or resolved when something stands
there. -/
def located (disk : Disk) (p : Path) (found : Option Node) : Path :=
  if found.isSome then disk.resolve p else p

theorem detect_eq {disk : Disk} {text : String} (hown : Address.isRemote text = .ok false) :
    detect disk text = (pathText disk text).mapError .disk >>= fun location =>
      kindOf disk location >>= fun kind => pure ⟨location, kind⟩ := by
  have hlocal : (Except.ok false).mapError Fault.address = pure false := rfl
  rw [detect, hown, hlocal, pure_bind]
  exact if_neg Bool.false_ne_true

/-- A text without a scheme of its own is judged by the text of where it leads. -/
theorem detect_of_leads {disk : Disk} {text : String} (hown : Address.isRemote text = .ok false) {p : Path}
    {found : Option Node} (hleads : Leads disk text p found) {source : Source} :
    detect disk text = .ok source ↔
      source.location = (located disk p found).text ∧ kindOf disk source.location = .ok source.kind := by
  have hpath : pathText disk text = .ok (located disk p found).text := by
    rw [pathText_eq, hleads.1]
    show (disk.probe p >>= _) = _
    rw [hleads.2, located]
    cases found <;> rfl
  have hlocation : (Except.ok (located disk p found).text).mapError Fault.disk = pure (located disk p found).text :=
    rfl
  rw [detect_eq hown, hpath, hlocation, pure_bind, bind_eq_ok_iff]
  constructor
  · rintro ⟨kind, hkind, hsource⟩
    cases hsource
    exact ⟨rfl, hkind⟩
  · rintro ⟨hlocation, hkind⟩
    obtain ⟨location, kind⟩ := source
    obtain rfl : location = _ := hlocation
    exact ⟨kind, hkind, rfl⟩

section Leads

variable {disk : Disk} {text : String} {p : Path} {source : Source}

theorem detect_of_nothing (hown : Address.isRemote text = .ok false) (hleads : Leads disk text p none) :
    detect disk text = .ok source ↔ source.location = p.text ∧
      ∃ remote, Address.isRemote p.text = .ok remote ∧ source.kind = if remote then .remote else .unknown := by
  rw [detect_of_leads hown hleads]
  refine and_congr_right fun hlocation => ?_
  rw [hlocation]
  show kindOf disk p.text = _ ↔ _
  rw [kindOf_eq_ok_iff (written_of_sought hleads.1), hleads.2]
  refine exists_congr fun remote => and_congr_right fun _ => ?_
  cases remote <;> simp

/-- Where something stands, the text of its location is no address. -/
theorem isRemote_resolve (hhome : ∀ name ∈ disk.home, Disk.IsName name) {node : Node}
    (hleads : Leads disk text p (some node)) {remote : Bool}
    (hremote : Address.isRemote (disk.resolve p).text = .ok remote) : remote = false := by
  obtain ⟨hwritten, hlead, _⟩ := Disk.probe_resolve hhome (written_of_sought hleads.1) hleads.2
  rw [← (Address.isRemote_eq_ok_iff.mp hremote).2, Path.startsRemote_of_lead hwritten (by rw [hlead]; decide)]

theorem detect_of_node (hhome : ∀ name ∈ disk.home, Disk.IsName name) (hown : Address.isRemote text = .ok false)
    {node : Node} (hleads : Leads disk text p (some node)) :
    detect disk text = .ok source ↔ source.location = (disk.resolve p).text ∧
      Address.isRemote (disk.resolve p).text = .ok false ∧
      (disk.resolve p).text.utf8ByteSize < Disk.pathLimit ∧ source.kind = SourceKind.ofNode node := by
  obtain ⟨hwritten, _, hprobe⟩ := Disk.probe_resolve hhome (written_of_sought hleads.1) hleads.2
  rw [detect_of_leads hown hleads]
  refine and_congr_right fun hlocation => ?_
  rw [hlocation]
  show kindOf disk (disk.resolve p).text = _ ↔ _
  rw [kindOf_eq_ok_iff hwritten, hprobe]
  constructor
  · rintro ⟨remote, hremote, hkind⟩
    obtain rfl := isRemote_resolve hhome hleads hremote
    obtain ⟨found, hfound, hkind⟩ := hkind
    split at hfound
    next => cases hfound
    next hshort =>
      cases hfound
      exact ⟨hremote, Nat.not_le.mp hshort, hkind⟩
  · rintro ⟨hremote, hshort, hkind⟩
    exact ⟨false, hremote, some node, if_neg (Nat.not_le.mpr hshort), hkind⟩

theorem leads_of_detect (hown : Address.isRemote text = .ok false) (hsource : detect disk text = .ok source) :
    ∃ p found, Leads disk text p found := by
  rw [detect_eq hown] at hsource
  obtain ⟨location, hlocation, _⟩ := bind_eq_ok_iff.mp hsource
  have hpath := mapError_eq_ok_iff.mp hlocation
  rw [pathText_eq] at hpath
  obtain ⟨p, hp, hpath⟩ := bind_eq_ok_iff.mp hpath
  obtain ⟨found, hfound, _⟩ := bind_eq_ok_iff.mp hpath
  exact ⟨p, found, hp, hfound⟩

end Leads

/-- Nothing stands where the source leads, and the text of the path it leads to is an address. -/
def Disguised (disk : Disk) (text : String) : Prop :=
  ∃ p, Leads disk text p none ∧ Address.isRemote p.text = .ok true

def HoldsFile (disk : Disk) (text : String) : Prop :=
  ∃ p content, Leads disk text p (some (.file content))

/-- The source leads somewhere, and what is told of that place can be judged: no authority in it is malformed, and
it is no longer than a path may be. -/
def Detectable (disk : Disk) (text : String) : Prop :=
  ∃ p found, Leads disk text p found ∧ (∃ remote, Address.isRemote (located disk p found).text = .ok remote) ∧
    (found.isSome → (located disk p found).text.utf8ByteSize < Disk.pathLimit)

theorem detect_own {disk : Disk} {text : String} (hown : Address.isRemote text = .ok true) :
    detect disk text = .ok ⟨text, .remote⟩ := by
  rw [detect, hown]
  show kindOf disk text >>= _ = _
  rw [kindOf, hown]
  rfl

/-- The kind of a text without a scheme of its own. -/
theorem kind_of_detect {disk : Disk} (hhome : ∀ name ∈ disk.home, Disk.IsName name) {text : String}
    (hown : Address.isRemote text = .ok false) {source : Source} (hsource : detect disk text = .ok source) :
    (source.kind = .remote ↔ Disguised disk text) ∧ (source.kind = .file ↔ HoldsFile disk text) := by
  obtain ⟨p, found, hleads⟩ := leads_of_detect hown hsource
  cases found with
  | none =>
    obtain ⟨_, remote, hremote, hkind⟩ := (detect_of_nothing hown hleads).mp hsource
    have hdisguised : Disguised disk text ↔ remote = true := by
      constructor
      · rintro ⟨q, hq, hremote'⟩
        obtain ⟨rfl, _⟩ := hleads.unique hq
        exact Except.ok.inj (hremote.symm.trans hremote')
      · rintro rfl
        exact ⟨p, hleads, hremote⟩
    have hfile : ¬HoldsFile disk text := by
      rintro ⟨q, content, hq⟩
      exact absurd (hleads.unique hq).2 nofun
    rw [hkind, hdisguised]
    cases remote <;> simp [hfile]
  | some node =>
    obtain ⟨_, _, _, hkind⟩ := (detect_of_node hhome hown hleads).mp hsource
    have hdisguised : ¬Disguised disk text := by
      rintro ⟨q, hq, _⟩
      exact absurd (hleads.unique hq).2 nofun
    have hfile : HoldsFile disk text ↔ ∃ content, node = .file content := by
      constructor
      · rintro ⟨q, content, hq⟩
        exact ⟨content, Option.some.inj (hleads.unique hq).2⟩
      · rintro ⟨content, rfl⟩
        exact ⟨p, content, hleads⟩
    rw [hkind, hfile]
    cases node <;> simp [SourceKind.ofNode, hdisguised]

theorem exists_detect_iff {disk : Disk} (hhome : ∀ name ∈ disk.home, Disk.IsName name) {text : String}
    (hown : Address.isRemote text = .ok false) :
    (∃ source, detect disk text = .ok source) ↔ Detectable disk text := by
  constructor
  · rintro ⟨source, hsource⟩
    obtain ⟨p, found, hleads⟩ := leads_of_detect hown hsource
    cases found with
    | none =>
      obtain ⟨_, remote, hremote, _⟩ := (detect_of_nothing hown hleads).mp hsource
      exact ⟨p, none, hleads, ⟨remote, hremote⟩, nofun⟩
    | some node =>
      obtain ⟨_, hremote, hshort, _⟩ := (detect_of_node hhome hown hleads).mp hsource
      exact ⟨p, some node, hleads, ⟨false, hremote⟩, fun _ => hshort⟩
  · rintro ⟨p, found, hleads, ⟨remote, hremote⟩, hshort⟩
    cases found with
    | none => exact ⟨⟨p.text, _⟩, (detect_of_nothing hown hleads).mpr ⟨rfl, remote, hremote, rfl⟩⟩
    | some node =>
      obtain rfl := isRemote_resolve hhome hleads hremote
      exact ⟨⟨_, _⟩, (detect_of_node hhome hown hleads).mpr ⟨rfl, hremote, hshort rfl, rfl⟩⟩

/-! ### Requests -/

theorem requests_of_fetch (exchange : Exchange) (config : Value) (text : String) (session : Session) :
    (Steps.runOn session (fetch exchange config text)).2.requests = session.requests ∨
      ∃ source seconds, detect session.disk text = .ok source ∧ source.kind = .remote ∧
        (Steps.runOn session (fetch exchange config text)).2.requests =
          session.requests ++ [(source.location, seconds)] := by
  rw [fetch, Steps.runOn_bind_ok (Steps.runOn_get session)]
  cases hsource : detect session.disk text with
  | error fault => exact .inl rfl
  | ok source =>
    rw [Steps.runOn_bind_ok (Steps.runOn_ofResult session _)]
    obtain ⟨location, kind⟩ := source
    cases kind with
    | remote =>
      cases timeout config with
      | error fault => exact .inl rfl
      | ok seconds => exact .inr ⟨⟨location, .remote⟩, seconds, rfl, rfl, rfl⟩
    | file | unknown => exact .inl rfl

/-- Loading sends no request, or one to the location that the source was detected as. -/
theorem requests_of_load (exchange : Exchange) (config : Value) (text : String) (session : Session) :
    (Act.runOn session (load exchange config text)).2.requests = session.requests ∨
      ∃ source seconds, detect session.disk text = .ok source ∧ source.kind = .remote ∧
        (Act.runOn session (load exchange config text)).2.requests =
          session.requests ++ [(source.location, seconds)] := by
  have hload : (Act.runOn session (load exchange config text)).2.requests =
      (Steps.runOn session (fetch exchange config text)).2.requests := by
    rw [load, Steps.runOn_bind]
    rcases Steps.runOn session (fetch exchange config text) with ⟨fault | bytes, later⟩
    · rfl
    · show (Steps.runOn later (Act.ofResult (Document.read (.bytes bytes)) >>= _)).2.requests = later.requests
      cases Document.read (.bytes bytes) <;> rfl
  rw [hload]
  exact requests_of_fetch exchange config text session

/-- A text is detected as an address when it has the scheme of one, or when nothing on the disk stands where it
leads and the text of that path has such a scheme. The latter happens only to texts that start with a point and a
slash. Every other text that is detected is a file when one stands where it leads, and unknown when none does; and a
request is sent only for addresses. -/
theorem detect_classifies {disk : Disk} (hhome : ∀ name ∈ disk.home, Disk.IsName name) {text : String} {own : Bool}
    (hown : Address.isRemote text = .ok own) :
    (own = true → detect disk text = .ok ⟨text, .remote⟩) ∧
    (∀ source, detect disk text = .ok source →
      (source.kind = .remote ↔ own = true ∨ Disguised disk text) ∧
        (source.kind = .file ↔ own = false ∧ HoldsFile disk text)) ∧
    ((∃ source, detect disk text = .ok source) ↔ own = true ∨ Detectable disk text) ∧
    (own = false → Disguised disk text → ∃ rest, text.toList = '.' :: '/' :: rest) ∧
    ∀ exchange config session, session.disk = disk →
      (Act.runOn session (load exchange config text)).2.requests ≠ session.requests →
        own = true ∨ Disguised disk text := by
  have hkind : ∀ source, detect disk text = .ok source →
      (source.kind = .remote ↔ own = true ∨ Disguised disk text) ∧
        (source.kind = .file ↔ own = false ∧ HoldsFile disk text) := by
    intro source hsource
    cases own with
    | true =>
      obtain rfl := Except.ok.inj ((detect_own hown).symm.trans hsource)
      simp
    | false => simpa using kind_of_detect hhome hown hsource
  refine ⟨fun h => ?_, hkind, ?_, fun hfalse hdisguised => ?_, ?_⟩
  · subst h
    exact detect_own hown
  · cases own with
    | true => exact ⟨fun _ => .inl rfl, fun _ => ⟨_, detect_own hown⟩⟩
    | false => simpa using exists_detect_iff hhome hown
  · subst hfalse
    obtain ⟨p, hleads, hremote⟩ := hdisguised
    rcases startsRemote_of_sought hleads.1 (Address.isRemote_eq_ok_iff.mp hremote).2 with htext | hrest
    · rw [(Address.isRemote_eq_ok_iff.mp hown).2] at htext
      cases htext
    · exact hrest
  · rintro exchange config session rfl hsent
    rcases requests_of_load exchange config text session with hnone | ⟨source, _, hsource, hremote, _⟩
    · exact absurd hnone hsent
    · exact (hkind source hsource).1.mp hremote

/-! ### A path that is taken for an address -/

/-- A path inside a folder `http:` of the current one, as it is written. -/
def pointedPath : String := "./http://example.org/data.json"

/-- A disk without that folder. -/
def bareDisk : Disk := { home := ["r"] }

theorem isName_of_mem_bareDisk : ∀ name ∈ bareDisk.home, Disk.IsName name := by
  intro name hname
  rw [List.mem_singleton.mp hname]
  exact ⟨⟨by decide, by decide, by decide⟩, by decide, by decide, by decide⟩

theorem isRemote_pointedPath : Address.isRemote pointedPath = .ok false := by
  decide +kernel

theorem detect_pointedPath : detect bareDisk pointedPath = .ok ⟨"http:/example.org/data.json", .remote⟩ := by
  have hsome : (detect bareDisk pointedPath).toOption = some ⟨"http:/example.org/data.json", .remote⟩ := by
    decide +kernel
  cases hcase : detect bareDisk pointedPath with
  | error fault => rw [hcase] at hsome; cases hsome
  | ok source => rw [hcase] at hsome; rw [Option.some.inj hsome]

theorem detect_classifies_pointed :
    (∀ name ∈ bareDisk.home, Disk.IsName name) ∧ Address.isRemote pointedPath = .ok false ∧
      Disguised bareDisk pointedPath ∧ ∃ rest, pointedPath.toList = '.' :: '/' :: rest := by
  obtain ⟨_, hkind, _, hpoint, _⟩ := detect_classifies isName_of_mem_bareDisk isRemote_pointedPath
  have hdisguised : Disguised bareDisk pointedPath := by
    simpa using (hkind _ detect_pointedPath).1.mp rfl
  exact ⟨isName_of_mem_bareDisk, isRemote_pointedPath, hdisguised, hpoint rfl hdisguised⟩

theorem detect_not_by_scheme :
    ¬ ∀ (disk : Disk) (text : String) (own : Bool), Address.isRemote text = .ok own →
      ∀ source, detect disk text = .ok source → (source.kind = .remote ↔ own = true) := by
  intro hscheme
  have hfalse := (hscheme bareDisk pointedPath false isRemote_pointedPath _ detect_pointedPath).mp rfl
  cases hfalse

end Source

end CodecReport
