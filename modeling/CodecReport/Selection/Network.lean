import CodecReport.Steps

/-!
# Relaying selections

A selection lists positions in a view, each a row, a column or both; only its rows count where rows are marked.
Members of a group share a selection: what one of them announces is delivered to all others of its group.
A group is busy while it delivers, and what its members announce to it meanwhile is dropped, so that a
member that announces every delivery again cannot start an endless exchange. A member may belong to
several groups, and what a delivery makes it do may reach them all.

Delivery goes through a group's members by position, each time in the membership of that moment: a group
that is dissolved meanwhile ends the delivery, and a member that joins meanwhile is reached.

`announce` is recursive in the number of groups that may still become busy. It ends with `tooDeep` only if
more broadcasts were open at once than there are groups.
-/

namespace CodecReport

structure Pick where
  row : Option Int
  column : Option Int := none
  deriving DecidableEq, Repr

abbrev Selection := List Pick

/-- The rows that a selection marks in a table of `n` rows, in increasing order. -/
def Selection.rows (s : Selection) (n : Nat) : List Nat :=
  (List.range n).filter fun i => s.any fun pick => pick.row == some (i : Int)

theorem Selection.mem_rows {s : Selection} {n i : Nat} :
    i ∈ s.rows n ↔ i < n ∧ ∃ pick ∈ s, pick.row = some (i : Int) := by
  simp [Selection.rows]

/-- The place of a member in the network. -/
abbrev MemberId := Nat

abbrev GroupId := Nat

/-- What a member does when a selection is delivered to it. -/
inductive Reaction
  /-- It takes the selection. -/
  | accept
  /-- It takes the selection and announces it. -/
  | echo
  /-- It fails. -/
  | refuse
  | dissolve
  /-- It adds a new member, which only accepts, to the first group. -/
  | spawn
  deriving DecidableEq, Repr

/-- What is called when a member announces something. -/
inductive Listener
  /-- The member's selection is passed on to a group. -/
  | relay (group : GroupId)
  | record
  deriving DecidableEq, Repr

/-- The announcement that groups listen to. -/
def selectEvent : String := "select"

/-- A member: its name, how it reacts, its selection and who listens to which of its announcements. -/
structure Member where
  name : String
  reaction : Reaction := .accept
  selection : Selection := []
  listeners : List (String × Listener) := []
  deriving DecidableEq, Repr

/-- A group: its members in the order of joining, and whether it is delivering. -/
structure Group where
  members : List MemberId := []
  busy : Bool := false
  deriving DecidableEq, Repr

inductive Incident
  | delivered (member : MemberId) (selection : Selection)
  | heard (member : MemberId) (event : String) (selection : Selection)
  | opened (group : GroupId)
  | closed (group : GroupId)
  deriving DecidableEq, Repr

/-- Groups, members and what happened so far. -/
structure Network where
  groups : List Group
  members : List Member := []
  history : List Incident := []
  deriving DecidableEq, Repr

inductive RelayFault
  | refused (name : String)
  | tooDeep
  deriving DecidableEq, Repr

namespace Network

/-- Steps on a network. What was done before a fault stays done. -/
abbrev Step := Steps RelayFault Network

/-- The members of a group; none if there is no such group. -/
def membersOf (net : Network) (g : GroupId) : List MemberId :=
  (net.groups[g]?.map Group.members).getD []

def isBusy (net : Network) (g : GroupId) : Bool :=
  (net.groups[g]?.map Group.busy).getD false

/-- The selection that a member holds. -/
def selectionAt (net : Network) (m : MemberId) : Selection :=
  (net.members[m]?.map Member.selection).getD []

def listenersOf (net : Network) (m : MemberId) (event : String) : List Listener :=
  match net.members[m]? with
  | some member => (member.listeners.filter (·.1 == event)).map (·.2)
  | none => []

def updateMember (m : MemberId) (f : Member → Member) (net : Network) : Network :=
  { net with members := net.members.modify m f }

def updateGroup (g : GroupId) (f : Group → Group) (net : Network) : Network :=
  { net with groups := net.groups.modify g f }

def note (incident : Incident) (net : Network) : Network :=
  { net with history := net.history ++ [incident] }

def addMember (member : Member) (net : Network) : Network :=
  { net with members := net.members ++ [member] }

def listen (m : MemberId) (event : String) (listener : Listener) : Network → Network :=
  updateMember m fun member => { member with listeners := member.listeners ++ [(event, listener)] }

def unlisten (m : MemberId) (event : String) : Network → Network :=
  updateMember m fun member =>
    { member with listeners := member.listeners.filter (·.1 != event) }

def unlistenAll (m : MemberId) : Network → Network :=
  updateMember m fun member => { member with listeners := [] }

/-- Gives a member a selection. Nobody hears of it. -/
def setSelection (m : MemberId) (selection : Selection) : Network → Network :=
  updateMember m fun member => { member with selection }

/-- Lets a member join a group, which from then on hears its selections; a member joins once. -/
def join (g : GroupId) (m : MemberId) (net : Network) : Network :=
  if (net.membersOf g).contains m then net
  else listen m selectEvent (.relay g)
    (updateGroup g (fun group => { group with members := group.members ++ [m] }) net)

/-- Dissolves a group: its members lose all listeners to their selections and leave. -/
def dissolve (g : GroupId) (net : Network) : Network :=
  updateGroup g (fun group => { group with members := [] })
    ((net.membersOf g).foldl (fun net m => unlisten m selectEvent net) net)

def dissolveAll (net : Network) : Network :=
  (List.range net.groups.length).foldl (fun net g => dissolve g net) net

def spawnSuffix : String := "+"

/-- Adds a new member named after one, and lets it join the first group. -/
def spawnFrom (m : MemberId) (net : Network) : Network :=
  match net.members[m]? with
  | some member =>
    join 0 net.members.length (addMember { name := member.name ++ spawnSuffix } net)
  | none => net

/-- A member takes a selection that is delivered to it. -/
def take (m : MemberId) (selection : Selection) (net : Network) : Network :=
  note (.delivered m selection) (setSelection m selection net)

/-- Delivers a selection to a member, `fire` being how a member announces one. -/
def deliver (fire : MemberId → Selection → Step Unit) (m : MemberId) (selection : Selection) :
    Step Unit := do
  modify (take m selection)
  match (← get).members[m]? with
  | none => pure ()
  | some member =>
    match member.reaction with
    | .accept => pure ()
    | .echo => fire m selection
    | .refuse => throw (.refused member.name)
    | .dissolve => modify dissolveAll
    | .spawn => modify (spawnFrom m)

/-- Delivers a selection to the members of a group at `count` positions from `index` on, except to the
source. Gives the number of members reached. -/
def deliverFrom (fire : MemberId → Selection → Step Unit) (g : GroupId) (source : Option MemberId)
    (selection : Selection) : (count index : Nat) → Step Nat
  | 0, _ => pure 0
  | count + 1, index => do
    match ((← get).membersOf g)[index]? with
    | none => pure 0
    | some m =>
      if source = some m then deliverFrom fire g source selection count (index + 1)
      else do
        deliver fire m selection
        let more ← deliverFrom fire g source selection count (index + 1)
        return more + 1

/-- Delivers a selection to all members of a group but the source, and last to those that joined
meanwhile, which are new and only accept. -/
def deliverAll (fire : MemberId → Selection → Step Unit) (g : GroupId) (source : Option MemberId)
    (selection : Selection) : Step Nat := do
  let before := ((← get).membersOf g).length
  let reached ← deliverFrom fire g source selection before 0
  let joined := ((← get).membersOf g).drop before
  modify fun net => joined.foldl (fun net m => take m selection net) net
  return reached + joined.length

def setBusy (g : GroupId) (busy : Bool) : Network → Network :=
  updateGroup g fun group => { group with busy }

/-- Runs steps and then, whether or not they failed, changes the network. -/
def andThen {α : Type} (steps : Step α) (change : Network → Network) : Step α :=
  ExceptT.mk do
    let outcome ← steps.run
    modify change
    return outcome

/-- Delivers a selection within a group. A busy group drops it. -/
def broadcastBy (fire : MemberId → Selection → Step Unit) (g : GroupId) (source : Option MemberId)
    (selection : Selection) : Step Nat := do
  if (← get).isBusy g then return 0
  else
    modify fun net => note (.opened g) (setBusy g true net)
    andThen (deliverAll fire g source selection) fun net => note (.closed g) (setBusy g false net)

/-- A listener's part in an announcement, `pass` being how a group is told. -/
def hear (pass : GroupId → Step Unit) (m : MemberId) (event : String) (selection : Selection) :
    Listener → Step Unit
  | .record => modify (note (.heard m event selection))
  | .relay g => pass g

/-- A member announces a selection to those who listen at this moment, in order. At most `depth` groups
become busy on the way. -/
def announce (event : String) : (depth : Nat) → MemberId → Selection → Step Unit
  | 0, m, selection => do
    let pass (g : GroupId) : Step Unit := do
      unless (← get).isBusy g do throw .tooDeep
    ((← get).listenersOf m event).forM (hear pass m event selection)
  | depth + 1, m, selection => do
    let pass (g : GroupId) : Step Unit :=
      discard (broadcastBy (announce selectEvent depth) g (some m) selection)
    ((← get).listenersOf m event).forM (hear pass m event selection)

def fire (m : MemberId) (selection : Selection) : Step Unit := do
  announce selectEvent (← get).groups.length m selection

/-- Delivers a selection within a group, on behalf of a source that need not belong to it. -/
def broadcast (g : GroupId) (source : Option MemberId) (selection : Selection) : Step Nat := do
  broadcastBy (announce selectEvent (← get).groups.length) g source selection

/-- A user selects in a member: it takes the selection and announces it. -/
def select (m : MemberId) (selection : Selection) : Step Unit := do
  modify (setSelection m selection)
  fire m selection

end Network

end CodecReport
