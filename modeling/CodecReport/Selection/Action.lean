import CodecReport.Selection.Network

/-!
# Actions on a network

What is done to groups and members from outside: a member joins a group, a group is dissolved, a selection
is broadcast within a group, or a member announces one. An action is about groups and members that there
are. Actions are followed one after the other, whether or not they were stopped, and what an action that
was stopped did before stays done.
-/

namespace CodecReport.Network

inductive Action
  | join (group : GroupId) (member : MemberId)
  | dissolve (group : GroupId)
  /-- A selection is broadcast within a group. The source need not belong to the group. -/
  | broadcast (group : GroupId) (source : Option MemberId) (selection : Selection)
  /-- A member announces a selection. -/
  | fire (member : MemberId) (selection : Selection)
  deriving DecidableEq, Repr

/-- Groups that nobody has joined, and members to whom nobody listens. -/
def fresh (groups : Nat) (crew : List (String × Reaction)) : Network where
  groups := List.replicate groups {}
  members := crew.map fun (name, reaction) => { name, reaction }

namespace Action

/-- There are the groups and members that an action is about. -/
def Known (net : Network) : Action → Prop
  | .join g m => g < net.groups.length ∧ m < net.members.length
  | .dissolve g => g < net.groups.length
  | .broadcast g source _ =>
    g < net.groups.length ∧ source.all fun m => decide (m < net.members.length)
  | .fire m _ => m < net.members.length

instance (net : Network) : DecidablePred (Known net)
  | .join .. => instDecidableAnd
  | .dissolve _ => Nat.decLt ..
  | .broadcast .. => instDecidableAnd
  | .fire .. => Nat.decLt ..

/-- What an action does. It gives the number of members that a broadcast reached, and zero otherwise. -/
def perform : Action → Step Nat
  | .join g m => do
    modify (Network.join g m)
    return 0
  | .dissolve g => do
    modify (Network.dissolve g)
    return 0
  | .broadcast g source selection => Network.broadcast g source selection
  | .fire m selection => do
    Network.fire m selection
    return 0

end Action

def reply (net : Network) (action : Action) : Except RelayFault Nat :=
  (Steps.runOn net action.perform).1

def after (net : Network) (action : Action) : Network :=
  (Steps.runOn net action.perform).2

/-- The network behind actions. One that is about groups or members that there are not is passed over. -/
def follow (net : Network) (actions : List Action) : Network :=
  actions.foldl (fun net action => if action.Known net then net.after action else net) net

end CodecReport.Network
