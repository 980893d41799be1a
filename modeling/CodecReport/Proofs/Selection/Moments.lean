import CodecReport.Proofs.Selection.Enrollment

/-!
# Moments within an exchange

While a selection is handed about, one thing is begun within another one, each in the network of its moment.
Whatever calls a group from within an exchange finds such a network, not one between two actions. All networks
that come about, at rest or in the midst of an exchange, are orderly.
-/

namespace CodecReport.Network

/-- Something that is to be done, in the network of that moment. -/
structure Moment where
  net : Network
  task : Task

/-- What is begun within a task, one step further into it. -/
inductive Begins : Moment → Moment → Prop
  | fire {net : Network} {m : MemberId} {selection : Selection} :
    Begins ⟨net, .fire m selection⟩ ⟨net, .tell m selection (net.listenersOf m selectEvent)⟩
  | record {net : Network} {m : MemberId} {selection : Selection} {listeners : List Listener} :
    Begins ⟨net, .tell m selection (.record :: listeners)⟩
      ⟨note (.heard m selectEvent selection) net, .tell m selection listeners⟩
  | relay {net : Network} {m : MemberId} {selection : Selection} {g : GroupId} {listeners : List Listener} :
    Begins ⟨net, .tell m selection (.relay g :: listeners)⟩ ⟨net, .broadcast g (some m) selection⟩
  | relayed {net mid : Network} {m : MemberId} {selection : Selection} {g : GroupId}
      {listeners : List Listener} {reached : Nat}
      (first : Unfolds net (.broadcast g (some m) selection) (.ok reached) mid) :
    Begins ⟨net, .tell m selection (.relay g :: listeners)⟩ ⟨mid, .tell m selection listeners⟩
  | broadcast {net : Network} {g : GroupId} {source : Option MemberId} {selection : Selection}
      (hidle : net.isBusy g = false) :
    Begins ⟨net, .broadcast g source selection⟩ ⟨opened g net, .walk g source selection 0⟩
  | own {net : Network} {g : GroupId} {source : Option MemberId} {selection : Selection} {index : Nat}
      {m : MemberId} (hnext : (net.membersOf g)[index]? = some m) (hsource : source = some m) :
    Begins ⟨net, .walk g source selection index⟩ ⟨net, .walk g source selection (index + 1)⟩
  | reach {net : Network} {g : GroupId} {source : Option MemberId} {selection : Selection} {index : Nat}
      {m : MemberId} (hnext : (net.membersOf g)[index]? = some m) (hother : source ≠ some m) :
    Begins ⟨net, .walk g source selection index⟩ ⟨net, .deliver m selection⟩
  | reached {net mid : Network} {g : GroupId} {source : Option MemberId} {selection : Selection}
      {index : Nat} {m : MemberId} {done : Nat} (hnext : (net.membersOf g)[index]? = some m)
      (hother : source ≠ some m) (first : Unfolds net (.deliver m selection) (.ok done) mid) :
    Begins ⟨net, .walk g source selection index⟩ ⟨mid, .walk g source selection (index + 1)⟩
  | echo {net : Network} {m : MemberId} {selection : Selection} {member : Member}
      (htaken : (take m selection net).members[m]? = some member) (hreacts : member.reaction = .echo) :
    Begins ⟨net, .deliver m selection⟩ ⟨take m selection net, .fire m selection⟩

/-- What is begun somewhere within a task, however deep. -/
abbrev Within : Moment → Moment → Prop := Relation.TransGen Begins

/-- The exchange that an action sets off. -/
def Action.task? : Action → Option Task
  | .join .. | .dissolve _ => none
  | .broadcast g source selection => some (.broadcast g source selection)
  | .fire m selection => some (.fire m selection)

/-- The networks that come about: a fresh one, one behind an action, one in the midst of an exchange, and one
that others listen to or that loses listeners. -/
inductive Arises : Network → Prop
  | fresh (groups : Nat) (crew : List (String × Reaction)) : Arises (fresh groups crew)
  | after {net : Network} {action : Action} (h : Arises net) (hknown : action.Known net) :
    Arises (net.after action)
  | amid {net : Network} {action : Action} {task : Task} {moment : Moment} (h : Arises net)
    (hknown : action.Known net) (htask : action.task? = some task) (hwithin : Within ⟨net, task⟩ moment) :
    Arises moment.net
  | listen {net : Network} (h : Arises net) (m : MemberId) (event : String) :
    Arises (listen m event .record net)
  | unlisten {net : Network} (h : Arises net) (m : MemberId) (event : String) : Arises (unlisten m event net)
  | unlistenAll {net : Network} (h : Arises net) (m : MemberId) : Arises (unlistenAll m net)

variable {net : Network} {moment next : Moment}

theorem Begins.wired (h : Begins moment next) (hnet : Wired moment.net) : Wired next.net := by
  cases h with
  | fire | relay | own | reach => exact hnet
  | record => exact hnet.note _
  | relayed first | reached _ _ first => exact first.wired hnet
  | broadcast => exact (hnet.setBusy _ true).note _
  | echo => exact hnet.take _ _

theorem Begins.orderly (h : Begins moment next) (hnet : Orderly moment.net) : Orderly next.net := by
  cases h with
  | fire | relay | own | reach => exact hnet
  | record => exact hnet.note _
  | relayed first | reached _ _ first => exact first.orderly hnet
  | broadcast => exact (hnet.setBusy _ true).note _
  | echo => exact hnet.take _ _

/-- What every single step into a task keeps, every moment within the task has. -/
theorem Within.invariant {P : Moment → Prop} (hstep : ∀ {moment next}, Begins moment next → P moment → P next)
    (h : Within moment next) (hstart : P moment) : P next := by
  induction h with
  | single hfirst => exact hstep hfirst hstart
  | tail _ hlast ih => exact hstep hlast ih

theorem Wired.after (h : Wired net) {action : Action} (hknown : action.Known net) :
    Wired (net.after action) := by
  have hcomes := Action.comes_perform h hknown
  cases action with
  | join g m => exact h.join hknown.1 hknown.2
  | dissolve g => exact h.dissolve g
  | broadcast g source selection => exact Unfolds.wired hcomes h
  | fire m selection => exact Unfolds.wired hcomes h

theorem Arises.wired (h : Arises net) : Wired net := by
  induction h with
  | fresh groups crew => exact (Settled.fresh groups crew).wired
  | after _ hknown ih => exact ih.after hknown
  | amid _ _ _ hwithin ih => exact Within.invariant (P := fun moment => Wired moment.net) Begins.wired hwithin ih
  | listen _ m event ih =>
    refine ih.updateMember m fun member heard g hrelay => .inl ?_
    rcases List.mem_append.mp hrelay with hold | hnew
    · exact hold
    · simp at hnew
  | unlisten _ m event ih => exact ih.updateMember m fun _ _ _ hin => .inl (List.mem_filter.mp hin).1
  | unlistenAll _ m ih => exact ih.updateMember m fun _ _ _ hin => nomatch hin

theorem Arises.follow (h : Arises net) (actions : List Action) : Arises (follow net actions) :=
  follow_invariant Arises.after h actions

theorem Arises.orderly (h : Arises net) : Orderly net := by
  induction h with
  | fresh groups crew => exact .fresh groups crew
  | after h hknown ih => exact ih.after h.wired hknown
  | amid _ _ _ hwithin ih => exact Within.invariant (P := fun moment => Orderly moment.net) Begins.orderly hwithin ih
  | listen _ m event ih => exact ih.listen_record m event
  | unlisten _ m event ih => exact ih.unlisten m event
  | unlistenAll _ m ih => exact ih.unlistenAll m

end CodecReport.Network
