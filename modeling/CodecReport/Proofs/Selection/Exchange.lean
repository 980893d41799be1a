import CodecReport.Selection.Network

/-!
# Exchanges of selections

An announcement may set off broadcasts, these deliveries, and these announcements again. `Unfolds` says how
such an exchange goes, one rule for each thing that can happen: listeners are told one after the other, a
busy group drops what it is told, an idle one goes through its members by position until it comes to its
end, whatever happens to its membership meanwhile, and it is idle again whether or not a member failed. The
rules bound nothing, so that an exchange that does not end unfolds in no way at all; one that ends does so
in one way only.
-/

namespace CodecReport.Network

/-- What is to be done within an exchange of selections. -/
inductive Task
  | fire (member : MemberId) (selection : Selection)
  /-- The listeners that are left of those who listened when the member announced. -/
  | tell (member : MemberId) (selection : Selection) (listeners : List Listener)
  | broadcast (group : GroupId) (source : Option MemberId) (selection : Selection)
  /-- Delivery within a group from a position on, up to where the group ends when it comes to it. -/
  | walk (group : GroupId) (source : Option MemberId) (selection : Selection) (index : Nat)
  | deliver (member : MemberId) (selection : Selection)

/-- A group starts delivering. -/
def opened (g : GroupId) (net : Network) : Network := note (.opened g) (setBusy g true net)

def closed (g : GroupId) (net : Network) : Network := note (.closed g) (setBusy g false net)

/-- How a task unfolds, up to its end. The outcome counts the members that a broadcast or a walk reached. -/
inductive Unfolds : Network → Task → Except RelayFault Nat → Network → Prop
  | fire {net behind : Network} {m : MemberId} {selection : Selection} {outcome : Except RelayFault Nat}
      (told : Unfolds net (.tell m selection (net.listenersOf m selectEvent)) outcome behind) :
      Unfolds net (.fire m selection) outcome behind
  | told {net : Network} {m : MemberId} {selection : Selection} :
      Unfolds net (.tell m selection []) (.ok 0) net
  | record {net behind : Network} {m : MemberId} {selection : Selection} {listeners : List Listener}
      {outcome : Except RelayFault Nat}
      (rest : Unfolds (note (.heard m selectEvent selection) net) (.tell m selection listeners) outcome
        behind) :
      Unfolds net (.tell m selection (.record :: listeners)) outcome behind
  | relay {net mid behind : Network} {m : MemberId} {selection : Selection} {g : GroupId}
      {listeners : List Listener} {reached : Nat} {outcome : Except RelayFault Nat}
      (first : Unfolds net (.broadcast g (some m) selection) (.ok reached) mid)
      (rest : Unfolds mid (.tell m selection listeners) outcome behind) :
      Unfolds net (.tell m selection (.relay g :: listeners)) outcome behind
  | relayFault {net behind : Network} {m : MemberId} {selection : Selection} {g : GroupId}
      {listeners : List Listener} {fault : RelayFault}
      (first : Unfolds net (.broadcast g (some m) selection) (.error fault) behind) :
      Unfolds net (.tell m selection (.relay g :: listeners)) (.error fault) behind
  | dropped {net : Network} {g : GroupId} {source : Option MemberId} {selection : Selection}
      (hbusy : net.isBusy g = true) : Unfolds net (.broadcast g source selection) (.ok 0) net
  | broadcast {net mid : Network} {g : GroupId} {source : Option MemberId} {selection : Selection}
      {outcome : Except RelayFault Nat} (hidle : net.isBusy g = false)
      (walk : Unfolds (opened g net) (.walk g source selection 0) outcome mid) :
      Unfolds net (.broadcast g source selection) outcome (closed g mid)
  | past {net : Network} {g : GroupId} {source : Option MemberId} {selection : Selection} {index : Nat}
      (hend : (net.membersOf g)[index]? = none) :
      Unfolds net (.walk g source selection index) (.ok 0) net
  | own {net behind : Network} {g : GroupId} {source : Option MemberId} {selection : Selection}
      {index : Nat} {m : MemberId} {outcome : Except RelayFault Nat}
      (hnext : (net.membersOf g)[index]? = some m) (hsource : source = some m)
      (rest : Unfolds net (.walk g source selection (index + 1)) outcome behind) :
      Unfolds net (.walk g source selection index) outcome behind
  | reach {net mid behind : Network} {g : GroupId} {source : Option MemberId} {selection : Selection}
      {index : Nat} {m : MemberId} {done : Nat} {outcome : Except RelayFault Nat}
      (hnext : (net.membersOf g)[index]? = some m) (hother : source ≠ some m)
      (first : Unfolds net (.deliver m selection) (.ok done) mid)
      (rest : Unfolds mid (.walk g source selection (index + 1)) outcome behind) :
      Unfolds net (.walk g source selection index) (outcome.map (· + 1)) behind
  | reachFault {net behind : Network} {g : GroupId} {source : Option MemberId} {selection : Selection}
      {index : Nat} {m : MemberId} {fault : RelayFault}
      (hnext : (net.membersOf g)[index]? = some m) (hother : source ≠ some m)
      (first : Unfolds net (.deliver m selection) (.error fault) behind) :
      Unfolds net (.walk g source selection index) (.error fault) behind
  | accept {net : Network} {m : MemberId} {selection : Selection} {member : Member}
      (htaken : (take m selection net).members[m]? = some member) (hreacts : member.reaction = .accept) :
      Unfolds net (.deliver m selection) (.ok 0) (take m selection net)
  | echo {net behind : Network} {m : MemberId} {selection : Selection} {member : Member}
      {outcome : Except RelayFault Nat}
      (htaken : (take m selection net).members[m]? = some member) (hreacts : member.reaction = .echo)
      (fired : Unfolds (take m selection net) (.fire m selection) outcome behind) :
      Unfolds net (.deliver m selection) outcome behind
  | refuse {net : Network} {m : MemberId} {selection : Selection} {member : Member}
      (htaken : (take m selection net).members[m]? = some member) (hreacts : member.reaction = .refuse) :
      Unfolds net (.deliver m selection) (.error (.refused member.name)) (take m selection net)
  | dissolve {net : Network} {m : MemberId} {selection : Selection} {member : Member}
      (htaken : (take m selection net).members[m]? = some member) (hreacts : member.reaction = .dissolve) :
      Unfolds net (.deliver m selection) (.ok 0) (dissolveAll (take m selection net))
  /-- The new member joins the first group. -/
  | spawn {net : Network} {m : MemberId} {selection : Selection} {member : Member}
      (hgroup : 0 < net.groups.length)
      (htaken : (take m selection net).members[m]? = some member) (hreacts : member.reaction = .spawn) :
      Unfolds net (.deliver m selection) (.ok 0) (spawnFrom m (take m selection net))

namespace Unfolds

variable {net behind : Network} {outcome : Except RelayFault Nat}

/-- What delivery to a member comes to depends on how the member reacts. -/
theorem deliver_inv {m : MemberId} {selection : Selection}
    (h : Unfolds net (.deliver m selection) outcome behind) :
    ∃ member, (take m selection net).members[m]? = some member ∧ match member.reaction with
      | .accept => outcome = .ok 0 ∧ behind = take m selection net
      | .echo => Unfolds (take m selection net) (.fire m selection) outcome behind
      | .refuse => outcome = .error (.refused member.name) ∧ behind = take m selection net
      | .dissolve => outcome = .ok 0 ∧ behind = dissolveAll (take m selection net)
      | .spawn => outcome = .ok 0 ∧ behind = spawnFrom m (take m selection net) := by
  cases h with
  | accept htaken hreacts | refuse htaken hreacts | dissolve htaken hreacts | spawn _ htaken hreacts =>
    refine ⟨_, htaken, ?_⟩
    rw [hreacts]
    exact ⟨rfl, rfl⟩
  | echo htaken hreacts fired =>
    refine ⟨_, htaken, ?_⟩
    rw [hreacts]
    exact fired

/-- What a walk comes to depends on who stands at its position. -/
theorem walk_inv {g : GroupId} {source : Option MemberId} {selection : Selection} {index : Nat}
    (h : Unfolds net (.walk g source selection index) outcome behind) :
    match (net.membersOf g)[index]? with
    | none => outcome = .ok 0 ∧ behind = net
    | some m =>
      if source = some m then Unfolds net (.walk g source selection (index + 1)) outcome behind
      else
        (∃ fault, outcome = .error fault ∧ Unfolds net (.deliver m selection) (.error fault) behind) ∨
        ∃ done mid rest, outcome = rest.map (· + 1) ∧ Unfolds net (.deliver m selection) (.ok done) mid ∧
          Unfolds mid (.walk g source selection (index + 1)) rest behind := by
  cases h with
  | past hend =>
    rw [hend]
    exact ⟨rfl, rfl⟩
  | own hnext hsource rest =>
    simp only [hnext, if_pos hsource]
    exact rest
  | reach hnext hother first rest =>
    simp only [hnext, if_neg hother]
    exact .inr ⟨_, _, _, rfl, first, rest⟩
  | reachFault hnext hother first =>
    simp only [hnext, if_neg hother]
    exact .inl ⟨_, rfl, first⟩

/-- A task unfolds in one way only. -/
theorem unique {task : Task} {outcome' : Except RelayFault Nat} {behind' : Network}
    (h : Unfolds net task outcome behind) (h' : Unfolds net task outcome' behind') :
    outcome' = outcome ∧ behind' = behind := by
  induction h generalizing outcome' behind' with
  | fire _ ih =>
    cases h' with
    | fire told => exact ih told
  | told =>
    cases h' with
    | told => exact ⟨rfl, rfl⟩
  | record _ ih =>
    cases h' with
    | record rest => exact ih rest
  | relay _ _ ihfirst ihrest =>
    cases h' with
    | relay first rest =>
      obtain ⟨_, rfl⟩ := ihfirst first
      exact ihrest rest
    | relayFault first => cases (ihfirst first).1
  | relayFault _ ih =>
    cases h' with
    | relay first _ => cases (ih first).1
    | relayFault first => exact ih first
  | dropped hbusy =>
    cases h' with
    | dropped => exact ⟨rfl, rfl⟩
    | broadcast hidle _ => simp [hbusy] at hidle
  | broadcast hidle _ ih =>
    cases h' with
    | dropped hbusy => simp [hbusy] at hidle
    | broadcast _ walk =>
      obtain ⟨rfl, rfl⟩ := ih walk
      exact ⟨rfl, rfl⟩
  | past hend =>
    have hwalk := h'.walk_inv
    rw [hend] at hwalk
    exact hwalk
  | own hnext hsource _ ih =>
    have hwalk := h'.walk_inv
    simp only [hnext, if_pos hsource] at hwalk
    exact ih hwalk
  | reach hnext hother _ _ ihfirst ihrest =>
    have hwalk := h'.walk_inv
    simp only [hnext, if_neg hother] at hwalk
    obtain ⟨fault, _, first⟩ | ⟨done, mid, rest, rfl, first, hrest⟩ := hwalk
    · cases (ihfirst first).1
    · obtain ⟨_, rfl⟩ := ihfirst first
      obtain ⟨rfl, rfl⟩ := ihrest hrest
      exact ⟨rfl, rfl⟩
  | reachFault hnext hother _ ih =>
    have hwalk := h'.walk_inv
    simp only [hnext, if_neg hother] at hwalk
    obtain ⟨fault, rfl, first⟩ | ⟨done, mid, rest, _, first, _⟩ := hwalk
    · exact ih first
    · cases (ih first).1
  | accept htaken hreacts | refuse htaken hreacts | dissolve htaken hreacts | spawn _ htaken hreacts =>
    obtain ⟨member, htaken', hreact⟩ := h'.deliver_inv
    obtain rfl := Option.some.inj (htaken.symm.trans htaken')
    rw [hreacts] at hreact
    exact hreact
  | echo htaken hreacts _ ih =>
    obtain ⟨member, htaken', hreact⟩ := h'.deliver_inv
    obtain rfl := Option.some.inj (htaken.symm.trans htaken')
    rw [hreacts] at hreact
    exact ih hreact

end Unfolds

end CodecReport.Network
