import CodecReport.Proofs.Document.Names
import CodecReport.Proofs.Output.Sparing
import CodecReport.Source.Load
import CodecReport.Steps

/-!
# Loading a source

What loading a source ends with depends on the disk alone. It may be stopped while the source is fetched, and
then the notice of the fault names the location of the source. It may also be stopped by what was fetched: then
the notice does not tell where that came from, but the dataset at most.
-/

namespace CodecReport

/-- What stops a step on the way to some bytes: nothing that is told of a document, or a fault that names the
location of the bytes. -/
def Fault.NamesSource (location : String) : Fault → Prop
  | .load fault => fault.notice.context = [("source", .text location)]
  | _ => True

/-- A fault that is told of a document tells no more of where it is than the dataset. -/
def Fault.NamesDatasetAtMost : Fault → Prop
  | .load fault => fault.notice.context = [] ∨ ∃ name, fault.notice.context = [("dataset", .text name)]
  | _ => True

def Fault.OutsideLoading (fault : Fault) : Prop :=
  ∀ f, fault ≠ .load f

theorem Fault.OutsideLoading.namesSource {fault : Fault} (h : fault.OutsideLoading) (location : String) :
    fault.NamesSource location := by
  cases fault with
  | load f => exact absurd rfl (h f)
  | _ => exact trivial

theorem FailsWithin.imp {α : Type} {faults more : Fault → Prop} {result : Except Fault α}
    (h : FailsWithin faults result) (hmore : ∀ fault, faults fault → more fault) : FailsWithin more result :=
  fun fault hfault => hmore fault (h fault hfault)

/-! ### Reading a document -/

theorem LayoutFault.context_notice (f : LayoutFault) :
    f.notice.context = [] ∨ ∃ name, f.notice.context = [("dataset", .text name)] := by
  cases f with
  | missingSize name | dataNotList name => exact .inr ⟨name, rfl⟩
  | _ => exact .inl rfl

namespace Document

theorem failsWithin_valueOf (raw : Raw) : FailsWithin Fault.NamesDatasetAtMost (valueOf raw) := by
  have hjson (f : JsonFault) : Fault.NamesDatasetAtMost (ofJsonFault f) := by
    cases f with
    | malformed cause place => exact .inl rfl
    | integerDigits | tooDeep => exact trivial
  cases raw with
  | text s => exact .mapError hjson _
  | bytes bs => exact (FailsWithin.mapError (fun _ => .inl rfl) _).bind fun _ => .mapError hjson _

theorem failsWithin_read (raw : Raw) : FailsWithin Fault.NamesDatasetAtMost (read raw) :=
  (failsWithin_valueOf raw).bind fun _ => .mapError (fun f => f.context_notice) _

end Document

namespace Source

/-! ### Fetching -/

/-- What a source on a disk holds, if a request ends like this. -/
def bytesOn (exchange : Exchange) (disk : Disk) (config : Value) (text : String) : Except Fault (List Nat) := do
  let source ← detect disk text
  match source.kind with
  | .remote =>
    let _ ← timeout config
    received source.location exchange
  | .file => readFile disk source.location
  | .unknown => throw (.load (.notFound source.location))

def documentOn (exchange : Exchange) (disk : Disk) (config : Value) (text : String) : Except Fault Document := do
  Document.read (.bytes (← bytesOn exchange disk config text))

theorem runOn_fetch (exchange : Exchange) (config : Value) (text : String) (session : Session) :
    (Steps.runOn session (fetch exchange config text)).1 = bytesOn exchange session.disk config text := by
  rw [fetch, bytesOn, Steps.runOn_bind_ok (Steps.runOn_get session)]
  cases hsource : detect session.disk text with
  | error fault => rfl
  | ok source =>
    rw [Steps.runOn_bind_ok (Steps.runOn_ofResult session _)]
    show _ = match source.kind with | .remote => _ | .file => _ | .unknown => _
    cases source.kind with
    | remote => cases timeout config <;> rfl
    | file | unknown => rfl

/-- What loading ends with depends on the disk alone. -/
theorem runOn_load (exchange : Exchange) (config : Value) (text : String) (session : Session) :
    (Act.runOn session (load exchange config text)).1 = documentOn exchange session.disk config text := by
  have hfetch := runOn_fetch exchange config text session
  rw [load, documentOn, Steps.runOn_bind, ← hfetch]
  rcases Steps.runOn session (fetch exchange config text) with ⟨fault | bytes, later⟩
  · rfl
  · show (Steps.runOn later (Act.ofResult (Document.read (.bytes bytes)) >>= _)).1 = Document.read (.bytes bytes)
    cases Document.read (.bytes bytes) <;> rfl

theorem nodup_names_of_documentOn {exchange : Exchange} {disk : Disk} {config : Value} {text : String}
    {document : Document} (hdocument : documentOn exchange disk config text = .ok document) :
    (Entries.keys document).Nodup := by
  obtain ⟨bytes, _, hread⟩ := bind_eq_ok_iff.mp hdocument
  exact Document.nodup_names_of_read hread

/-! ### Faults of loading -/

theorem failsWithin_kindOf (disk : Disk) (text : String) : FailsWithin Fault.OutsideLoading (kindOf disk text) := by
  refine (FailsWithin.mapError (fun _ => nofun) _).bind fun remote => ?_
  cases remote with
  | true => exact .ok _
  | false =>
    refine (FailsWithin.mapError (fun _ => nofun) _).bind fun node => ?_
    split <;> exact .ok _

theorem failsWithin_detect (disk : Disk) (text : String) : FailsWithin Fault.OutsideLoading (detect disk text) := by
  refine (FailsWithin.mapError (fun _ => nofun) _).bind fun remote => ?_
  have hkind (location : String) : FailsWithin Fault.OutsideLoading
      (kindOf disk location >>= fun kind => pure (⟨location, kind⟩ : Source)) :=
    (failsWithin_kindOf disk location).bind fun _ => .ok _
  cases remote with
  | true => exact (FailsWithin.ok text).bind hkind
  | false => exact (FailsWithin.mapError (fun _ => nofun) (pathText disk text)).bind hkind

theorem failsWithin_timeout (config : Value) : FailsWithin Fault.OutsideLoading (timeout config) := by
  have hentry (v : Value) (key : String) : FailsWithin Fault.OutsideLoading (v.entry? key) := by
    cases v <;> first | exact .ok _ | exact .error nofun
  have hinput : FailsWithin Fault.OutsideLoading (config.orEmpty.configSection "input") :=
    ((hentry _ _).bind fun _ => .ok _).bind fun _ => .ok _
  exact hinput.bind fun input => ((hentry _ _).bind fun _ => .ok _).bind fun _ => .mapError (fun _ => nofun) _

theorem failsWithin_received (location : String) (exchange : Exchange) :
    FailsWithin (Fault.NamesSource location) (received location exchange) := by
  cases exchange with
  | answered status reason body =>
    rw [received]
    split
    · exact .error rfl
    · exact .ok _
  | timedOut | failed => exact .error rfl
  | interrupted kind message => exact .error trivial

theorem failsWithin_readFile (disk : Disk) (location : String) :
    FailsWithin (Fault.NamesSource location) (readFile disk location) := by
  unfold readFile
  split
  · exact .ok _
  · exact .error trivial
  · exact .error rfl

/-- A fault that stops fetching names the location of the source, if it is told of a document at all. -/
theorem namesSource_of_bytesOn {exchange : Exchange} {disk : Disk} {config : Value} {text : String}
    {fault : LoadFault} (hfault : bytesOn exchange disk config text = .error (.load fault)) :
    ∃ source, detect disk text = .ok source ∧ fault.notice.context = [("source", .text source.location)] := by
  rw [bytesOn] at hfault
  cases hdetect : detect disk text with
  | error found =>
    rw [hdetect] at hfault
    obtain rfl := Except.error.inj hfault
    exact absurd rfl (failsWithin_detect disk text _ hdetect fault)
  | ok source =>
    rw [hdetect] at hfault
    have hrest : FailsWithin (Fault.NamesSource source.location) (match source.kind with
        | .remote => do
          let _ ← timeout config
          received source.location exchange
        | .file => readFile disk source.location
        | .unknown => throw (.load (.notFound source.location))) := by
      cases source.kind with
      | remote =>
        have htimeout := (failsWithin_timeout config).imp fun _ h => h.namesSource source.location
        exact htimeout.bind fun _ => failsWithin_received source.location exchange
      | file => exact failsWithin_readFile disk source.location
      | unknown => exact .error rfl
    exact ⟨source, rfl, hrest _ hfault⟩

theorem namesDatasetAtMost_of_read {bytes : List Nat} {fault : LoadFault}
    (hfault : Document.read (.bytes bytes) = .error (.load fault)) :
    fault.notice.context = [] ∨ ∃ name, fault.notice.context = [("dataset", .text name)] :=
  Document.failsWithin_read _ _ hfault

/-- A fault of loading stops a source either while it is fetched, and then its notice names the location of the
source and nothing else; or when the bytes that were fetched are read, and then its notice names no location. -/
theorem load_eq_error_iff (exchange : Exchange) (config : Value) (text : String) (session : Session)
    (fault : LoadFault) :
    (Act.runOn session (load exchange config text)).1 = .error (.load fault) ↔
      ((Act.runOn session (fetch exchange config text)).1 = .error (.load fault) ∧
        ∃ source, detect session.disk text = .ok source ∧
          fault.notice.context = [("source", .text source.location)]) ∨
      ∃ bytes, (Act.runOn session (fetch exchange config text)).1 = .ok bytes ∧
        Document.read (.bytes bytes) = .error (.load fault) ∧
        (fault.notice.context = [] ∨ ∃ name, fault.notice.context = [("dataset", .text name)]) := by
  rw [runOn_load, documentOn,
    show (Act.runOn session (fetch exchange config text)).1 = _ from runOn_fetch exchange config text session]
  cases hbytes : bytesOn exchange session.disk config text with
  | error found =>
    have hnames : found = .load fault → ∃ source, detect session.disk text = .ok source ∧
        fault.notice.context = [("source", .text source.location)] := by
      rintro rfl
      exact namesSource_of_bytesOn hbytes
    simpa [bind, Except.bind] using hnames
  | ok bytes =>
    have hnames (hread : Document.read (.bytes bytes) = .error (.load fault)) :=
      namesDatasetAtMost_of_read hread
    simpa [bind, Except.bind] using hnames

/-- A file that holds no object of datasets stops loading, and the notice names nothing. -/
theorem load_not_always_names_source :
    ¬ ∀ exchange config text session fault,
      (Act.runOn session (load exchange config text)).1 = .error (.load fault) →
        ∃ source, detect session.disk text = .ok source ∧
          Entries.get? fault.notice.context "source" = some (.text source.location) := by
  intro hnames
  let disk : Disk := { home := ["r"], nodes := [(["r", "d.json"], .file "[]".toUTF8)] }
  have hunnamed : (match documentOn .timedOut disk (.map []) "d.json" with
    | .error (.load fault) => (Entries.get? fault.notice.context "source").isNone
    | _ => false) = true := by decide +kernel
  split at hunnamed
  next fault hload =>
    obtain ⟨source, _, hsource⟩ := hnames .timedOut (.map []) "d.json" { disk := _ } fault
      ((runOn_load ..).trans hload)
    rw [hsource] at hunnamed
    cases hunnamed
  next => cases hunnamed

end Source

end CodecReport
