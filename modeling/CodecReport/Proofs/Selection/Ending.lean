import CodecReport.Proofs.Selection.Balance
import CodecReport.Proofs.Selection.Delivery

/-!
# Every exchange ends

What is computed for a broadcast or an announcement is how it unfolds. Two quantities carry this. A group
that is opened is idle no more, so the number of idle groups bounds how deep exchanges nest, and no more
than that is what `announce` allows for: its bound is never hit. And whoever joins a group while it is gone
through is new and only accepts, so that from the first newcomer on nobody joins.
-/

namespace CodecReport.Network

/-- The number of groups that are not delivering. -/
def idleGroups (net : Network) : Nat := (net.groups.map Group.busy).count false

theorem idleGroups_le (net : Network) : net.idleGroups ≤ net.groups.length :=
  Nat.le_trans List.count_le_length (Nat.le_of_eq (List.length_map ..))

theorem Evolves.idleGroups {net behind : Network} (h : Evolves net behind) :
    behind.idleGroups = net.idleGroups := by
  rw [Network.idleGroups, h.busy]
  rfl

theorem idleGroups_opened {g : GroupId} {net : Network} (hg : g < net.groups.length)
    (hidle : net.isBusy g = false) : (opened g net).idleGroups + 1 = net.idleGroups := by
  have hlength : g < (net.groups.map Group.busy).length := by rwa [List.length_map]
  have hget : (net.groups.map Group.busy)[g] = false := by
    rw [isBusy_eq, List.getElem?_eq_getElem hlength] at hidle
    exact hidle
  have hpos : 0 < (net.groups.map Group.busy).count false :=
    List.count_pos_iff.mpr (hget ▸ List.getElem_mem hlength)
  change ((setBusy g true net).groups.map Group.busy).count false + 1 = _
  rw [busy_setBusy, List.count_set hlength, hget]
  exact Nat.sub_add_cancel hpos

theorem isBusy_of_idleGroups_eq_zero {g : GroupId} {net : Network} (hnone : net.idleGroups = 0)
    (hg : g < net.groups.length) : net.isBusy g = true := by
  cases hidle : net.isBusy g with
  | true => rfl
  | false =>
    have hone := idleGroups_opened hg hidle
    rw [hnone] at hone
    cases hone

def silent (outcome : Except RelayFault Unit) : Except RelayFault Nat := outcome.map fun _ => 0

/-- Steps by which members announce, where no more than `depth` groups are idle. -/
def Fires (fire : MemberId → Selection → Step Unit) (depth : Nat) : Prop :=
  ∀ {net behind : Network} {m : MemberId} {selection : Selection} {outcome : Except RelayFault Unit},
    Wired net → net.idleGroups ≤ depth → m < net.members.length →
    Steps.runOn net (fire m selection) = (outcome, behind) →
    Unfolds net (.fire m selection) (silent outcome) behind

/-- Steps by which groups are told of what a member announces, where no more than `depth` are idle. -/
def Passes (pass : GroupId → Step Unit) (m : MemberId) (selection : Selection) (depth : Nat) : Prop :=
  ∀ {net behind : Network} {g : GroupId} {outcome : Except RelayFault Unit},
    Wired net → net.idleGroups ≤ depth → g < net.groups.length → m < net.members.length →
    Steps.runOn net (pass g) = (outcome, behind) →
    ∃ reached, outcome = reached.map (fun _ => ()) ∧
      Unfolds net (.broadcast g (some m) selection) reached behind

section Delivering

variable {fire : MemberId → Selection → Step Unit} {depth : Nat} {net mid behind : Network}

theorem unfolds_deliver (hfire : Fires fire depth) (hwired : Wired net) (hidle : net.idleGroups ≤ depth)
    (hgroup : 0 < net.groups.length) {m : MemberId} (hm : m < net.members.length) {selection : Selection}
    {outcome : Except RelayFault Unit}
    (hrun : Steps.runOn net (deliver fire m selection) = (outcome, behind)) :
    Unfolds net (.deliver m selection) (silent outcome) behind := by
  have htake : Evolves net (take m selection net) := (Evolves.refl net).take m selection
  have hstill : m < (take m selection net).members.length := Nat.lt_of_lt_of_le hm htake.grows
  obtain ⟨member, htaken⟩ : ∃ member, (take m selection net).members[m]? = some member :=
    ⟨_, List.getElem?_eq_getElem hstill⟩
  rw [deliver, Steps.runOn_bind_ok (Steps.runOn_modify net _), Steps.runOn_bind_ok (Steps.runOn_get _)]
    at hrun
  cases hreaction : member.reaction with
  | accept =>
    simp only [htaken, hreaction] at hrun
    cases hrun
    exact .accept htaken hreaction
  | echo =>
    simp only [htaken, hreaction] at hrun
    refine .echo htaken hreaction (hfire (hwired.take m selection) ?_ hstill hrun)
    rwa [htake.idleGroups]
  | refuse =>
    simp only [htaken, hreaction] at hrun
    cases hrun
    exact .refuse htaken hreaction
  | dissolve =>
    simp only [htaken, hreaction] at hrun
    cases hrun
    exact .dissolve htaken hreaction
  | spawn =>
    simp only [htaken, hreaction] at hrun
    cases hrun
    exact .spawn hgroup htaken hreaction

/-- Behind delivery at `count` positions: unless it was stopped, the walk goes on from there. -/
def Passed (net : Network) (g : GroupId) (source : Option MemberId) (selection : Selection)
    (index count : Nat) (mid : Network) : Except RelayFault Nat → Prop
  | .ok reached => Evolves net mid ∧ Wired mid ∧ ∀ outcome behind,
    Unfolds mid (.walk g source selection (index + count)) outcome behind →
      Unfolds net (.walk g source selection index) (outcome.map (reached + ·)) behind
  | .error fault => Unfolds net (.walk g source selection index) (.error fault) mid

namespace Passed

variable {g : GroupId} {source : Option MemberId} {selection : Selection} {index count : Nat} {m : MemberId}
  {outcome : Except RelayFault Nat}

theorem start (hwired : Wired net) : Passed net g source selection index 0 net (.ok 0) := by
  refine ⟨.refl _, hwired, fun outcome behind h => ?_⟩
  have hsame : outcome.map (0 + ·) = outcome := by cases outcome <;> simp [Except.map]
  rw [hsame]
  exact h

/-- Where the group ends, it ends for every position behind. -/
theorem past (hwired : Wired net) (hend : (net.membersOf g)[index]? = none) :
    Passed net g source selection index count net (.ok 0) := by
  refine ⟨.refl _, hwired, fun outcome behind h => ?_⟩
  have hbeyond : (net.membersOf g)[index + count]? = none := by
    rw [List.getElem?_eq_none_iff] at hend ⊢
    omega
  have hwalk := h.walk_inv
  rw [hbeyond] at hwalk
  obtain ⟨rfl, rfl⟩ := hwalk
  exact .past hend

/-- The source is passed over. -/
theorem own (hnext : (net.membersOf g)[index]? = some m) (hsource : source = some m)
    (h : Passed net g source selection (index + 1) count mid outcome) :
    Passed net g source selection index (count + 1) mid outcome := by
  cases outcome with
  | error fault => exact .own hnext hsource h
  | ok reached =>
    obtain ⟨hevolves, hmid, hgo⟩ := h
    refine ⟨hevolves, hmid, fun outcome behind hwalk => ?_⟩
    rw [← Nat.add_assoc, Nat.add_right_comm] at hwalk
    exact .own hnext hsource (hgo outcome behind hwalk)

/-- A member that takes its delivery counts as reached. -/
theorem reach {after : Network} {done : Nat} (hnext : (net.membersOf g)[index]? = some m)
    (hother : source ≠ some m) (first : Unfolds net (.deliver m selection) (.ok done) after)
    (h : Passed after g source selection (index + 1) count mid outcome) :
    Passed net g source selection index (count + 1) mid (outcome.map (· + 1)) := by
  cases outcome with
  | error fault => exact .reach hnext hother first h
  | ok reached =>
    obtain ⟨hevolves, hmid, hgo⟩ := h
    refine ⟨first.evolves.trans hevolves, hmid, fun outcome behind hwalk => ?_⟩
    rw [← Nat.add_assoc, Nat.add_right_comm] at hwalk
    have hreach := Unfolds.reach hnext hother first (hgo outcome behind hwalk)
    have hcount : (outcome.map (reached + ·)).map (· + 1) = outcome.map (reached + 1 + ·) := by
      cases outcome with
      | error fault => rfl
      | ok more => exact congrArg Except.ok (Nat.add_right_comm ..)
    rw [← hcount]
    exact hreach

end Passed

theorem lt_of_mem_membersOf {g : GroupId} {m : MemberId} (hm : m ∈ net.membersOf g) : g < net.groups.length := by
  rcases Nat.lt_or_ge g net.groups.length with hlt | hge
  · exact hlt
  · rw [membersOf, List.getElem?_eq_none hge] at hm
    cases hm

theorem passed_deliverFrom (hfire : Fires fire depth) {g : GroupId} {source : Option MemberId}
    {selection : Selection} {count index : Nat} {outcome : Except RelayFault Nat} (hwired : Wired net)
    (hidle : net.idleGroups ≤ depth)
    (hrun : Steps.runOn net (deliverFrom fire g source selection count index) = (outcome, mid)) :
    Passed net g source selection index count mid outcome := by
  induction count generalizing net index outcome with
  | zero =>
    obtain ⟨rfl, rfl⟩ := Prod.mk.inj hrun
    exact .start hwired
  | succ count ih =>
    rw [deliverFrom, Steps.runOn_bind_ok (Steps.runOn_get net)] at hrun
    rcases hnext : (net.membersOf g)[index]? with _ | m
    · simp only [hnext] at hrun
      obtain ⟨rfl, rfl⟩ := Prod.mk.inj hrun
      exact .past hwired hnext
    · by_cases hsource : source = some m
      · simp only [hnext, if_pos hsource] at hrun
        exact .own hnext hsource (ih hwired hidle hrun)
      · have hmember : m ∈ net.membersOf g := List.mem_of_getElem? hnext
        have hdeliver {outcome : Except RelayFault Unit} {after : Network}
            (hfirst : Steps.runOn net (deliver fire m selection) = (outcome, after)) :
            Unfolds net (.deliver m selection) (silent outcome) after :=
          unfolds_deliver hfire hwired hidle (Nat.zero_lt_of_lt (lt_of_mem_membersOf hmember)) (hwired.known hmember)
            hfirst
        simp only [hnext, if_neg hsource] at hrun
        rcases Steps.runOn_bind_cases hrun with ⟨_, after, hfirst, hrun⟩ | ⟨fault, after, hfirst, heq⟩
        · have hunfolds := hdeliver hfirst
          have hstill : after.idleGroups ≤ depth := by rwa [hunfolds.evolves.idleGroups]
          rcases Steps.runOn_bind_cases hrun with ⟨reached, last, hsecond, hrun⟩ | ⟨fault, last, hsecond, heq⟩
          · cases hrun
            exact .reach hnext hsource hunfolds (ih (hunfolds.wired hwired) hstill hsecond)
          · cases heq
            exact .reach hnext hsource hunfolds (ih (hunfolds.wired hwired) hstill hsecond)
        · cases heq
          exact .reachFault hnext hsource (hdeliver hfirst)

/-- Delivery to members that only accept goes through to the end of the group. -/
theorem unfolds_walk_of_accept {g : GroupId} {source : Option MemberId} {selection : Selection} {index : Nat}
    (hwired : Wired net) (haccept : ∀ m ∈ (net.membersOf g).drop index, source ≠ some m ∧
      ∀ member, net.members[m]? = some member → member.reaction = .accept) :
    Unfolds net (.walk g source selection index) (.ok ((net.membersOf g).drop index).length)
      (receive ((net.membersOf g).drop index) selection net) := by
  generalize hleft : (net.membersOf g).drop index = left at haccept ⊢
  induction left generalizing net index with
  | nil => exact .past (List.getElem?_eq_none_iff.mpr (List.drop_eq_nil_iff.mp hleft))
  | cons m rest ih =>
    have hnext : (net.membersOf g)[index]? = some m := by
      rw [← List.head?_drop, hleft, List.head?_cons]
    have hrest : (net.membersOf g).drop (index + 1) = rest := by
      rw [← List.tail_drop, hleft, List.tail_cons]
    obtain ⟨hsource, hreaction⟩ := haccept m List.mem_cons_self
    have hwiring := sameWiring_take net m selection
    have hm : m < (take m selection net).members.length := by
      rw [hwiring.length]
      exact hwired.known (List.mem_of_getElem? hnext)
    have hplain {other : MemberId} {member : Member}
        (hmember : (take m selection net).members[other]? = some member)
        (hold : ∀ member, net.members[other]? = some member → member.reaction = .accept) :
        member.reaction = .accept := by
      obtain ⟨old, hfound, heq⟩ := hwiring.exists_member hmember
      rw [Member.reaction_of_wiring heq]
      exact hold old hfound
    have htaken : (take m selection net).members[m]? = some (take m selection net).members[m] :=
      List.getElem?_eq_getElem hm
    have hwalk : Unfolds (take m selection net) (.walk g source selection (index + 1)) (.ok rest.length)
        (receive rest selection (take m selection net)) := by
      refine ih (hwired.take m selection) ?_ fun other hother => ?_
      · rw [hwiring.membersOf, hrest]
      · obtain ⟨hne, hold⟩ := haccept other (List.mem_cons_of_mem _ hother)
        exact ⟨hne, fun member hmember => hplain hmember hold⟩
    exact .reach hnext hsource (.accept htaken (hplain htaken hreaction)) hwalk

theorem unfolds_deliverAll (hfire : Fires fire depth) {g : GroupId} {source : Option MemberId}
    {selection : Selection} {outcome : Except RelayFault Nat} (hwired : Wired net)
    (hidle : net.idleGroups ≤ depth) (hsource : ∀ m, source = some m → m < net.members.length)
    (hrun : Steps.runOn net (deliverAll fire g source selection) = (outcome, behind)) :
    Unfolds net (.walk g source selection 0) outcome behind := by
  rw [deliverAll, Steps.runOn_bind_ok (Steps.runOn_get net)] at hrun
  rcases Steps.runOn_bind_cases hrun with ⟨reached, mid, hfrom, hrun⟩ | ⟨fault, mid, hfrom, heq⟩
  · obtain ⟨hevolves, hmid, hgo⟩ := passed_deliverFrom hfire hwired hidle hfrom
    rw [Steps.runOn_bind_ok (Steps.runOn_get mid), Steps.runOn_bind_ok (Steps.runOn_modify mid _)] at hrun
    cases hrun
    refine hgo (.ok _) _ ?_
    rw [Nat.zero_add]
    refine unfolds_walk_of_accept hmid fun m hm => ?_
    -- Whoever stands behind the positions that the group had is new.
    obtain ⟨i, hi⟩ := List.mem_iff_getElem?.mp hm
    rw [List.getElem?_drop] at hi
    have hnew : net.members.length ≤ m := by
      rcases hevolves.places hi with hold | hnew
      · rw [List.getElem?_eq_none (Nat.le_add_right ..)] at hold
        cases hold
      · exact hnew
    exact ⟨fun heq => Nat.not_lt.mpr hnew (hsource m heq), fun _ => hevolves.newcomers hnew⟩
  · cases heq
    exact passed_deliverFrom hfire hwired hidle hfrom

theorem unfolds_broadcastBy (hfire : Fires fire depth) {g : GroupId} {source : Option MemberId}
    {selection : Selection} {outcome : Except RelayFault Nat} (hwired : Wired net)
    (hidle : net.idleGroups ≤ depth + 1) (hg : g < net.groups.length)
    (hsource : ∀ m, source = some m → m < net.members.length)
    (hrun : Steps.runOn net (broadcastBy fire g source selection) = (outcome, behind)) :
    Unfolds net (.broadcast g source selection) outcome behind := by
  rw [broadcastBy, Steps.runOn_bind_ok (Steps.runOn_get net)] at hrun
  cases hbusy : net.isBusy g with
  | true =>
    simp only [hbusy, if_true] at hrun
    cases hrun
    exact .dropped hbusy
  | false =>
    have hone := idleGroups_opened hg hbusy
    have hopened : (opened g net).idleGroups ≤ depth := by omega
    have hwiredOpened : Wired (opened g net) := (hwired.setBusy g true).note (.opened g)
    rw [if_neg (by simp [hbusy]), Steps.runOn_bind_ok (Steps.runOn_modify net _)] at hrun
    rcases hall : Steps.runOn (opened g net) (deliverAll fire g source selection) with ⟨result, mid⟩
    have hend := hrun.symm.trans (runOn_andThen hall _)
    cases hend
    exact .broadcast hbusy (unfolds_deliverAll hfire hwiredOpened hopened hsource hall)

end Delivering

theorem unfolds_tell {pass : GroupId → Step Unit} {m : MemberId} {selection : Selection} {depth : Nat}
    (hpass : Passes pass m selection depth) {listeners : List Listener} {net behind : Network}
    {outcome : Except RelayFault Unit} (hwired : Wired net) (hidle : net.idleGroups ≤ depth)
    (hm : m < net.members.length) (hrelays : ∀ g, .relay g ∈ listeners → g < net.groups.length)
    (hrun : Steps.runOn net (listeners.forM (hear pass m selectEvent selection)) = (outcome, behind)) :
    Unfolds net (.tell m selection listeners) (silent outcome) behind := by
  induction listeners generalizing net with
  | nil =>
    cases hrun
    exact .told
  | cons listener rest ih =>
    have hrest : ∀ g, .relay g ∈ rest → g < net.groups.length :=
      fun g hg => hrelays g (List.mem_cons_of_mem _ hg)
    rw [List.forM] at hrun
    cases listener with
    | record =>
      have hnoted : Steps.runOn net (hear pass m selectEvent selection .record) =
          (.ok (), note (.heard m selectEvent selection) net) := rfl
      rw [Steps.runOn_bind_ok hnoted] at hrun
      exact .record (ih (hwired.note _) hidle hm hrest hrun)
    | relay g =>
      have hg := hrelays g List.mem_cons_self
      rcases Steps.runOn_bind_cases hrun with ⟨_, mid, hfirst, hrun⟩ | ⟨fault, mid, hfirst, heq⟩
      · obtain ⟨reached, houtcome, hunfolds⟩ := hpass hwired hidle hg hm hfirst
        cases reached with
        | error fault => cases houtcome
        | ok count =>
          have hevolves := hunfolds.evolves
          refine .relay hunfolds (ih (hunfolds.wired hwired) ?_ ?_ ?_ hrun)
          · rwa [hevolves.idleGroups]
          · exact Nat.lt_of_lt_of_le hm hevolves.grows
          · intro g hg
            rw [hevolves.length_groups]
            exact hrest g hg
      · cases heq
        obtain ⟨reached, houtcome, hunfolds⟩ := hpass hwired hidle hg hm hfirst
        cases reached with
        | error found =>
          cases houtcome
          exact .relayFault hunfolds
        | ok count => cases houtcome

theorem unfolds_fire_of_tell {net behind : Network} {m : MemberId} {selection : Selection} {depth : Nat}
    {pass : GroupId → Step Unit} {outcome : Except RelayFault Unit} (hpass : Passes pass m selection depth)
    (hwired : Wired net) (hidle : net.idleGroups ≤ depth) (hm : m < net.members.length)
    (hrun : Steps.runOn net ((net.listenersOf m selectEvent).forM (hear pass m selectEvent selection)) =
      (outcome, behind)) : Unfolds net (.fire m selection) (silent outcome) behind :=
  .fire (unfolds_tell hpass hwired hidle hm (fun _ => hwired.of_mem_listenersOf) hrun)

/-- Members announce without being stopped by the bound on open groups. -/
theorem fires_announce (depth : Nat) : Fires (announce selectEvent depth) depth := by
  induction depth with
  | zero =>
    intro net behind m selection outcome hwired hidle hm hrun
    rw [announce, Steps.runOn_bind_ok (Steps.runOn_get net)] at hrun
    refine unfolds_fire_of_tell ?_ hwired hidle hm hrun
    -- Every group is delivering, and drops what it is told.
    intro net behind g outcome hwired hidle hg hm hrun
    have hbusy := isBusy_of_idleGroups_eq_zero (Nat.le_zero.mp hidle) hg
    rw [Steps.runOn_bind_ok (Steps.runOn_get net)] at hrun
    simp only [hbusy, if_true] at hrun
    cases hrun
    exact ⟨.ok 0, rfl, .dropped hbusy⟩
  | succ depth ih =>
    intro net behind m selection outcome hwired hidle hm hrun
    rw [announce, Steps.runOn_bind_ok (Steps.runOn_get net)] at hrun
    refine unfolds_fire_of_tell ?_ hwired hidle hm hrun
    intro net behind g outcome hwired hidle hg hm hrun
    rcases hbroadcast : Steps.runOn net (broadcastBy (announce selectEvent depth) g (some m) selection)
      with ⟨reached, after⟩
    have hdiscard : Steps.runOn net
        (discard (broadcastBy (announce selectEvent depth) g (some m) selection)) =
        (reached.map fun _ => (), after) := by
      change Steps.runOn net (Functor.mapConst () _) = _
      rw [LawfulFunctor.map_const, Function.comp_apply, Steps.runOn_map, hbroadcast]
    cases hrun.symm.trans hdiscard
    refine ⟨reached, rfl, unfolds_broadcastBy ih hwired hidle hg (fun other heq => ?_) hbroadcast⟩
    exact Option.some.inj heq ▸ hm

theorem unfolds_fire {net behind : Network} {m : MemberId} {selection : Selection}
    {outcome : Except RelayFault Unit} (hwired : Wired net) (hm : m < net.members.length)
    (hrun : Steps.runOn net (fire m selection) = (outcome, behind)) :
    Unfolds net (.fire m selection) (silent outcome) behind := by
  rw [fire, Steps.runOn_bind_ok (Steps.runOn_get net)] at hrun
  exact fires_announce _ hwired net.idleGroups_le hm hrun

theorem unfolds_broadcast {net behind : Network} {g : GroupId} {source : Option MemberId}
    {selection : Selection} {outcome : Except RelayFault Nat} (hwired : Wired net)
    (hg : g < net.groups.length) (hsource : ∀ m, source = some m → m < net.members.length)
    (hrun : Steps.runOn net (broadcast g source selection) = (outcome, behind)) :
    Unfolds net (.broadcast g source selection) outcome behind := by
  rw [broadcast, Steps.runOn_bind_ok (Steps.runOn_get net)] at hrun
  exact unfolds_broadcastBy (fires_announce _) hwired
    (Nat.le_succ_of_le net.idleGroups_le) hg hsource hrun

end CodecReport.Network
