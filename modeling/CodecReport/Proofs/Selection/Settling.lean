import CodecReport.Proofs.Selection.Ending
import CodecReport.Selection.Action

/-!
# Groups are idle between actions

Actions on groups and members of any number and kind: whatever the members do to each other on the way, each
action ends, and behind it every group is ready for the next broadcast.
-/

namespace CodecReport.Network

namespace Action

/-- An action comes to an outcome and leaves a network behind, by the rules of exchanges. -/
def Comes (net : Network) : Action → Except RelayFault Nat → Network → Prop
  | .join g m, outcome, behind => outcome = .ok 0 ∧ behind = Network.join g m net
  | .dissolve g, outcome, behind => outcome = .ok 0 ∧ behind = Network.dissolve g net
  | .broadcast g source selection, outcome, behind =>
    Unfolds net (.broadcast g source selection) outcome behind
  | .fire m selection, outcome, behind => Unfolds net (.fire m selection) outcome behind

theorem Known.of_all {source : Option MemberId} {n : Nat} (h : source.all fun m => decide (m < n)) :
    ∀ m, source = some m → m < n := by
  rintro m rfl
  exact of_decide_eq_true h

variable {net : Network} {action : Action}

theorem comes_perform (hwired : Wired net) (hknown : action.Known net) :
    action.Comes net (net.reply action) (net.after action) := by
  cases action with
  | join g m => exact ⟨rfl, rfl⟩
  | dissolve g => exact ⟨rfl, rfl⟩
  | broadcast g source selection =>
    obtain ⟨hg, hsource⟩ := hknown
    exact unfolds_broadcast hwired hg (Known.of_all hsource) rfl
  | fire m selection =>
    rcases hrun : Steps.runOn net (Network.fire m selection) with ⟨outcome, behind⟩
    have hfire := unfolds_fire hwired hknown hrun
    have hperform : Steps.runOn net (Action.perform (.fire m selection)) = (silent outcome, behind) := by
      rw [perform, Steps.runOn_bind, hrun]
      cases outcome <;> rfl
    rw [reply, after, hperform]
    exact hfire

theorem comes_iff (hwired : Wired net) (hknown : action.Known net) (outcome : Except RelayFault Nat)
    (last : Network) :
    action.Comes net outcome last ↔ outcome = net.reply action ∧ last = net.after action := by
  have hcomes := comes_perform hwired hknown
  constructor
  · intro h
    cases action with
    | join g m => exact h
    | dissolve g => exact h
    | broadcast g source selection => exact Unfolds.unique hcomes h
    | fire m selection => exact Unfolds.unique hcomes h
  · rintro ⟨rfl, rfl⟩
    exact hcomes

end Action

/-- Between actions: no group is delivering, and the record says so. -/
structure Settled (net : Network) : Prop where
  wired : Wired net
  idle : Idle net
  balanced : ∀ g < net.groups.length, Balanced g net

/-- What every known action keeps, any row of actions keeps. -/
theorem follow_invariant {P : Network → Prop} {net : Network}
    (hafter : ∀ {net : Network} {action : Action}, P net → action.Known net → P (net.after action)) (h : P net)
    (actions : List Action) : P (follow net actions) := by
  induction actions generalizing net with
  | nil => exact h
  | cons action rest ih =>
    rw [follow, List.foldl_cons, ← follow]
    split
    next hknown => exact ih (hafter h hknown)
    next => exact ih h

namespace Settled

variable {net : Network}

theorem fresh (groups : Nat) (crew : List (String × Reaction)) : Settled (fresh groups crew) := by
  have hgroup {g : GroupId} {group : Group} (hfound : (List.replicate groups ({} : Group))[g]? = some group) :
      group = {} := List.eq_of_mem_replicate (List.mem_of_getElem? hfound)
  have hidle : Idle (Network.fresh groups crew) := by
    intro g
    rw [isBusy]
    rcases hfound : (Network.fresh groups crew).groups[g]? with _ | group
    · rfl
    · rw [hgroup hfound]
      rfl
  refine ⟨⟨fun {g m} hin => ?_, fun {member event g} hmember hrelay => ?_⟩, hidle, fun g hg => ⟨hg, ?_, ?_⟩⟩
  · rw [membersOf] at hin
    rcases hfound : (Network.fresh groups crew).groups[g]? with _ | group
    · rw [hfound] at hin
      cases hin
    · rw [hfound, hgroup hfound] at hin
      cases hin
  · obtain ⟨_, _, rfl⟩ := List.mem_map.mp hmember
    cases hrelay
  · rw [hidle g]
    rfl
  · intro moment hmoment
    rw [List.prefix_nil.mp hmoment]
    exact ⟨Nat.le_refl _, Nat.zero_le _⟩

/-- Behind an exchange the groups are idle again. -/
theorem of_unfolds (h : Settled net) {task : Task} {outcome : Except RelayFault Nat} {behind : Network}
    (hunfolds : Unfolds net task outcome behind) : Settled behind := by
  refine ⟨hunfolds.wired h.wired, fun g => ?_, fun g hg => ?_⟩
  · rw [hunfolds.evolves.isBusy]
    exact h.idle g
  · rw [hunfolds.evolves.length_groups] at hg
    exact hunfolds.balanced (h.balanced g hg)

theorem of_busy (h : Settled net) {behind : Network} (hwired : Wired behind)
    (hbusy : behind.groups.map Group.busy = net.groups.map Group.busy)
    (hhistory : behind.history = net.history) : Settled behind := by
  refine ⟨hwired, fun g => ?_, fun g hg => ?_⟩
  · rw [isBusy_eq, hbusy, ← isBusy_eq]
    exact h.idle g
  · have hlength := congrArg List.length hbusy
    rw [List.length_map, List.length_map] at hlength
    exact (h.balanced g (hlength ▸ hg)).of_history hbusy hhistory

theorem after (h : Settled net) {action : Action} (hknown : action.Known net) :
    Settled (net.after action) ∧ (net.after action).groups.length = net.groups.length := by
  have hcomes := Action.comes_perform h.wired hknown
  cases action with
  | join g m =>
    obtain ⟨hg, hm⟩ := hknown
    have hbusy : (join g m net).groups.map Group.busy = net.groups.map Group.busy := by
      rw [join]
      split
      · rfl
      · refine busy_updateGroup ?_ net
        intro _
        rfl
    have hlength := congrArg List.length hbusy
    rw [List.length_map, List.length_map] at hlength
    exact ⟨h.of_busy (h.wired.join hg hm) hbusy (history_join g m net), hlength⟩
  | dissolve g =>
    have hevolves := (Evolves.refl net).dissolve g
    exact ⟨h.of_busy (h.wired.dissolve g) hevolves.busy (history_dissolve g net), hevolves.length_groups⟩
  | broadcast g source selection => exact ⟨h.of_unfolds hcomes, hcomes.evolves.length_groups⟩
  | fire m selection => exact ⟨h.of_unfolds hcomes, hcomes.evolves.length_groups⟩

theorem follow (h : Settled net) (actions : List Action) :
    Settled (follow net actions) ∧ (follow net actions).groups.length = net.groups.length := by
  refine follow_invariant (P := fun last => Settled last ∧ last.groups.length = net.groups.length) ?_ ⟨h, rfl⟩ actions
  intro last action hlast hknown
  obtain ⟨hafter, hlength⟩ := hlast.1.after hknown
  exact ⟨hafter, hlength.trans hlast.2⟩

end Settled

/-- An idle group does not drop a broadcast. -/
theorem Unfolds.opens {net behind : Network} {g : GroupId} {source : Option MemberId} {selection : Selection}
    {outcome : Except RelayFault Nat} (h : Unfolds net (.broadcast g source selection) outcome behind)
    (hidle : net.isBusy g = false) : ∃ rest, behind.history = net.history ++ .opened g :: rest := by
  cases h with
  | dropped hbusy =>
    rw [hidle] at hbusy
    cases hbusy
  | @broadcast _ mid _ _ _ _ _ hwalk =>
    obtain ⟨rest, hrest⟩ := hwalk.evolves.history
    refine ⟨rest ++ [.closed g], ?_⟩
    change mid.history ++ [.closed g] = _
    rw [← hrest]
    change net.history ++ [.opened g] ++ rest ++ [.closed g] = _
    simp only [List.append_assoc, List.cons_append, List.nil_append]

/-- Actions, one after the other, on groups and members of any number and kind. Each action ends, and in
one way only: by the rules of exchanges, which bound nothing, it comes to the reply and the network that are
computed for it. It is stopped by a member that refuses or not at all. At every moment on record no group
has been opened twice without being closed. Behind it no group is delivering, stopped or not, so that the
next broadcast within any group opens it. -/
theorem follow_settles (groups : Nat) (crew : List (String × Reaction)) (past : List Action) :
    let net := follow (fresh groups crew) past
    ∀ action : Action, action.Known net →
      let behind := net.after action
      (∀ outcome last, action.Comes net outcome last ↔ outcome = net.reply action ∧ last = behind) ∧
      (∀ fault, net.reply action = .error fault →
        ∃ member ∈ behind.members, member.reaction = .refuse ∧ fault = .refused member.name) ∧
      (∀ g < groups, ∀ moment, moment <+: behind.history →
        moment.count (.closed g) ≤ moment.count (.opened g) ∧
        moment.count (.opened g) ≤ moment.count (.closed g) + 1) ∧
      (∀ g, behind.isBusy g = false) ∧
      ∀ g < groups, ∀ source selection, (Action.broadcast g source selection).Known behind →
        ∃ rest, (behind.after (.broadcast g source selection)).history =
          behind.history ++ .opened g :: rest := by
  intro net action hknown behind
  obtain ⟨hnet, hlength⟩ := (Settled.fresh groups crew).follow past
  obtain ⟨hbehind, hgroups⟩ := hnet.after hknown
  have hcount : behind.groups.length = groups :=
    (hgroups.trans hlength).trans List.length_replicate
  have hcomes := Action.comes_perform hnet.wired hknown
  refine ⟨Action.comes_iff hnet.wired hknown, fun fault hfault => ?_, fun g hg => ?_, hbehind.idle,
    fun g hg source selection hnext => ?_⟩
  · rw [hfault] at hcomes
    cases action with
    | join g m => cases hcomes.1
    | dissolve g => cases hcomes.1
    | broadcast g source selection => exact Unfolds.exists_refusing hcomes
    | fire m selection => exact Unfolds.exists_refusing hcomes
  · exact (hbehind.balanced g (Nat.lt_of_lt_of_eq hg hcount.symm)).always
  · exact Unfolds.opens (Action.comes_perform hbehind.wired hnext) (hbehind.idle g)

/-- A member of two groups announces again what it is told; in the other group a member brings a new one
into the first group, and the next member refuses. -/
theorem follow_settles_refused :
    let net := follow (fresh 2 [("a", .accept), ("b", .echo), ("c", .spawn), ("d", .refuse)])
      [.join 0 0, .join 0 1, .join 1 1, .join 1 2, .join 1 3]
    (Action.fire 0 []).Known net ∧ net.reply (.fire 0 []) = .error (.refused "d") ∧
      ∀ g, (net.after (.fire 0 [])).isBusy g = false :=
  ⟨by decide, rfl, (follow_settles 2 _ _ (.fire 0 []) (by decide)).2.2.2.1⟩

end CodecReport.Network
