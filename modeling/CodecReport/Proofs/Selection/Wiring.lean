import CodecReport.Selection.Network

/-!
# The wiring of a network

Apart from the selections that its members hold and from the record of what happened, a network consists of
its groups and of who listens to whom. Handing selections about changes none of this: whatever is relayed,
the network stays wired as it was, and so every fact about groups and listeners survives a relay.
-/

namespace CodecReport

/-- A member apart from its selection. -/
def Member.wiring (member : Member) : Member := { member with selection := [] }

theorem Member.listeners_of_wiring {a b : Member} (h : a.wiring = b.wiring) : a.listeners = b.listeners := by
  have hlisteners := congrArg Member.listeners h
  exact hlisteners

theorem Member.reaction_of_wiring {a b : Member} (h : a.wiring = b.wiring) : a.reaction = b.reaction := by
  have hreaction := congrArg Member.reaction h
  exact hreaction

theorem Member.name_of_wiring {a b : Member} (h : a.wiring = b.wiring) : a.name = b.name := by
  have hname := congrArg Member.name h
  exact hname

namespace Network

/-- Two networks with the same groups, whose members differ in their selections only. -/
structure SameWiring (net net' : Network) : Prop where
  groups : net'.groups = net.groups
  members : net'.members.map Member.wiring = net.members.map Member.wiring

namespace SameWiring

variable {net net' net'' : Network}

theorem refl (net : Network) : SameWiring net net := ⟨rfl, rfl⟩

theorem trans (hfirst : SameWiring net net') (hsecond : SameWiring net' net'') : SameWiring net net'' :=
  ⟨hsecond.groups.trans hfirst.groups, hsecond.members.trans hfirst.members⟩

theorem length (h : SameWiring net net') : net'.members.length = net.members.length := by
  have hmap := congrArg List.length h.members
  rwa [List.length_map, List.length_map] at hmap

theorem membersOf (h : SameWiring net net') (g : GroupId) : net'.membersOf g = net.membersOf g := by
  rw [Network.membersOf, Network.membersOf, h.groups]

theorem isBusy (h : SameWiring net net') (g : GroupId) : net'.isBusy g = net.isBusy g := by
  rw [Network.isBusy, Network.isBusy, h.groups]

/-- A member stands in the place where one of the same wiring stood. -/
theorem exists_member (h : SameWiring net net') {m : MemberId} {member' : Member}
    (hmember : net'.members[m]? = some member') :
    ∃ member, net.members[m]? = some member ∧ member'.wiring = member.wiring := by
  have hwired : (net.members.map Member.wiring)[m]? = some member'.wiring := by
    rw [← h.members, List.getElem?_map, hmember, Option.map_some]
  rw [List.getElem?_map, Option.map_eq_some_iff] at hwired
  obtain ⟨member, hold, heq⟩ := hwired
  exact ⟨member, hold, heq.symm⟩

theorem symm (h : SameWiring net net') : SameWiring net' net := ⟨h.groups.symm, h.members.symm⟩

theorem listenersOf (h : SameWiring net net') (m : MemberId) (event : String) :
    net'.listenersOf m event = net.listenersOf m event := by
  rw [Network.listenersOf, Network.listenersOf]
  rcases hold : net.members[m]? with _ | member
  · rcases hnew : net'.members[m]? with _ | member'
    · rfl
    · obtain ⟨member, hmember, _⟩ := h.exists_member hnew
      rw [hold] at hmember
      cases hmember
  · obtain ⟨member', hnew, hwiring⟩ := h.symm.exists_member hold
    rw [hnew]
    simp only [Member.listeners_of_wiring hwiring]

end SameWiring

section Steps

variable (net : Network) (m : MemberId) (selection : Selection) (incident : Incident)

theorem sameWiring_note : SameWiring net (note incident net) := ⟨rfl, rfl⟩

theorem sameWiring_setSelection : SameWiring net (setSelection m selection net) := by
  refine ⟨rfl, List.ext_getElem? fun i => ?_⟩
  simp only [setSelection, updateMember, List.getElem?_map, List.getElem?_modify]
  cases net.members[i]? with
  | none => rfl
  | some member => by_cases hi : m = i <;> simp [hi, Member.wiring]

theorem sameWiring_take : SameWiring net (take m selection net) :=
  (sameWiring_setSelection net m selection).trans (sameWiring_note _ _)

end Steps

/-- Members take a selection one after the other. -/
def receive (targets : List MemberId) (selection : Selection) (net : Network) : Network :=
  targets.foldl (fun net m => take m selection net) net

theorem sameWiring_receive (targets : List MemberId) (selection : Selection) (net : Network) :
    SameWiring net (receive targets selection net) := by
  induction targets generalizing net with
  | nil => exact .refl net
  | cons m rest ih => exact (sameWiring_take net m selection).trans (ih _)

theorem selectionAt_setSelection_of_ne {m other : MemberId} (hne : other ≠ m) (selection : Selection)
    (net : Network) : (setSelection m selection net).selectionAt other = net.selectionAt other := by
  simp only [selectionAt, setSelection, updateMember]
  rw [List.getElem?_modify_ne _ _ (Ne.symm hne)]

theorem selectionAt_setSelection_self {m : MemberId} {net : Network} (hm : m < net.members.length)
    (selection : Selection) : (setSelection m selection net).selectionAt m = selection := by
  simp only [selectionAt, setSelection, updateMember, List.getElem?_modify_eq]
  rw [List.getElem?_eq_getElem hm]
  rfl

end Network

end CodecReport
