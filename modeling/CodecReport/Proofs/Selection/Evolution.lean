import CodecReport.Proofs.Selection.Exchange
import CodecReport.Proofs.Selection.Gathered

/-!
# What an exchange changes

However an exchange unfolds, groups end up with members that they had in the same places before, and with
new members, which only accept. Groups that were delivering before still are, and no other ones. Members
relay to groups that there are, before and after. An exchange is stopped by a member that refuses, and by
nothing else.
-/

namespace CodecReport.Network

theorem isBusy_eq (net : Network) (g : GroupId) :
    net.isBusy g = ((net.groups.map Group.busy)[g]?).getD false := by
  rw [isBusy, List.getElem?_map]

theorem busy_updateGroup {g : GroupId} {f : Group → Group} (hf : ∀ group, (f group).busy = group.busy)
    (net : Network) : (updateGroup g f net).groups.map Group.busy = net.groups.map Group.busy := by
  refine List.ext_getElem? fun i => ?_
  simp only [updateGroup, List.getElem?_map, List.getElem?_modify]
  cases net.groups[i]? with
  | none => rfl
  | some group => by_cases hi : g = i <;> simp [hi, hf]

theorem busy_setBusy (g : GroupId) (busy : Bool) (net : Network) :
    (setBusy g busy net).groups.map Group.busy = (net.groups.map Group.busy).set g busy := by
  refine List.ext_getElem? fun i => ?_
  simp only [setBusy, updateGroup, List.getElem?_map, List.getElem?_modify, List.getElem?_set]
  by_cases hi : g = i
  · subst hi
    by_cases hg : g < net.groups.length
    · simp [hg]
    · simp [hg]
  · cases net.groups[i]? <;> simp [hi]

theorem membersOf_updateGroup_of_ne {g other : GroupId} (hne : g ≠ other) (f : Group → Group)
    (net : Network) : (updateGroup g f net).membersOf other = net.membersOf other := by
  simp only [membersOf, updateGroup]
  rw [List.getElem?_modify_ne _ _ hne]

theorem membersOf_updateGroup_self (g : GroupId) (f : Group → Group) (net : Network) :
    (updateGroup g f net).membersOf g = (net.groups[g]?.map fun group => (f group).members).getD [] := by
  simp only [membersOf, updateGroup, List.getElem?_modify_eq]
  cases net.groups[g]? <;> rfl

@[simp] theorem membersOf_setBusy (g other : GroupId) (busy : Bool) (net : Network) :
    (setBusy g busy net).membersOf other = net.membersOf other := by
  by_cases hg : g = other
  · subst hg
    exact membersOf_updateGroup_self g _ net
  · exact membersOf_updateGroup_of_ne hg _ net

/-- How a network differs behind an exchange from what it was before. -/
structure Evolves (net behind : Network) : Prop where
  busy : behind.groups.map Group.busy = net.groups.map Group.busy
  grows : net.members.length ≤ behind.members.length
  keeps : ∀ {m : MemberId} {member : Member}, net.members[m]? = some member →
    ∃ member', behind.members[m]? = some member' ∧ member'.reaction = member.reaction
  newcomers : ∀ {m : MemberId} {member : Member}, net.members.length ≤ m →
    behind.members[m]? = some member → member.reaction = .accept
  places : ∀ {g : GroupId} {i : Nat} {m : MemberId}, (behind.membersOf g)[i]? = some m →
    (net.membersOf g)[i]? = some m ∨ net.members.length ≤ m
  history : net.history <+: behind.history

namespace Evolves

variable {net mid behind : Network}

theorem refl (net : Network) : Evolves net net where
  busy := rfl
  grows := Nat.le_refl _
  keeps hmember := ⟨_, hmember, rfl⟩
  newcomers hm hmember := by
    rw [List.getElem?_eq_none hm] at hmember
    cases hmember
  places := .inl
  history := List.prefix_rfl

theorem trans (hfirst : Evolves net mid) (hsecond : Evolves mid behind) : Evolves net behind where
  busy := hsecond.busy.trans hfirst.busy
  grows := Nat.le_trans hfirst.grows hsecond.grows
  keeps hmember := by
    obtain ⟨_, hmid, hreaction⟩ := hfirst.keeps hmember
    obtain ⟨member', hbehind, hreaction'⟩ := hsecond.keeps hmid
    exact ⟨member', hbehind, hreaction'.trans hreaction⟩
  newcomers {m member} hm hmember := by
    rcases hmid : mid.members[m]? with _ | member'
    · exact hsecond.newcomers (List.getElem?_eq_none_iff.mp hmid) hmember
    · obtain ⟨_, hbehind, hreaction⟩ := hsecond.keeps hmid
      obtain rfl := Option.some.inj (hmember.symm.trans hbehind)
      exact hreaction.trans (hfirst.newcomers hm hmid)
  places hplace := by
    rcases hsecond.places hplace with hmid | hnew
    · exact hfirst.places hmid
    · exact .inr (Nat.le_trans hfirst.grows hnew)
  history := hfirst.history.trans hsecond.history

theorem length_groups (h : Evolves net behind) : behind.groups.length = net.groups.length := by
  have hlength := congrArg List.length h.busy
  rwa [List.length_map, List.length_map] at hlength

theorem isBusy (h : Evolves net behind) (g : GroupId) : behind.isBusy g = net.isBusy g := by
  rw [isBusy_eq, isBusy_eq, h.busy]

theorem note (h : Evolves net behind) (incident : Incident) : Evolves net (note incident behind) :=
  ⟨h.busy, h.grows, h.keeps, h.newcomers, h.places, h.history.trans (List.prefix_append ..)⟩

theorem updateMember (h : Evolves net behind) (m : MemberId) {f : Member → Member}
    (hf : ∀ member, (f member).reaction = member.reaction) : Evolves net (updateMember m f behind) := by
  refine h.trans ⟨rfl, Nat.le_of_eq (length_updateMember ..).symm, fun {i member} hmember => ?_,
    fun hm hmember => ?_, .inl, List.prefix_rfl⟩
  · simp only [Network.updateMember, List.getElem?_modify, hmember]
    refine ⟨_, rfl, ?_⟩
    split
    · exact hf member
    · rfl
  · rw [List.getElem?_eq_none (by rwa [length_updateMember])] at hmember
    cases hmember

theorem take (h : Evolves net behind) (m : MemberId) (selection : Selection) :
    Evolves net (take m selection behind) := by
  have hset : Evolves net (setSelection m selection behind) := h.updateMember m fun _ => rfl
  exact hset.note _

theorem addMember (h : Evolves net behind) {member : Member} (haccept : member.reaction = .accept) :
    Evolves net (addMember member behind) := by
  refine h.trans ⟨rfl, ?_, fun {m old} hold => ⟨old, ?_, rfl⟩, fun {m found} hm hfound => ?_, .inl,
    List.prefix_rfl⟩
  · simp only [Network.addMember, List.length_append]
    exact Nat.le_add_right ..
  · obtain ⟨hlt, _⟩ := List.getElem?_eq_some_iff.mp hold
    simpa only [Network.addMember, List.getElem?_append_left hlt] using hold
  · simp only [Network.addMember, List.getElem?_append_right hm] at hfound
    have hin := List.mem_of_getElem? hfound
    rw [List.mem_singleton.mp hin]
    exact haccept

/-- A change of a group's members that leaves them in their places or brings new ones. -/
theorem updateGroup (h : Evolves net behind) (g : GroupId) {f : Group → Group}
    (hbusy : ∀ group, (f group).busy = group.busy)
    (hplaces : ∀ (group : Group) (i : Nat) (m : MemberId), (f group).members[i]? = some m →
      group.members[i]? = some m ∨ net.members.length ≤ m) : Evolves net (updateGroup g f behind) where
  busy := (busy_updateGroup hbusy behind).trans h.busy
  grows := h.grows
  keeps := h.keeps
  newcomers := h.newcomers
  places {other i m} hplace := by
    by_cases hg : g = other
    · subst hg
      rw [membersOf_updateGroup_self] at hplace
      rcases hgroup : behind.groups[g]? with _ | group
      · rw [hgroup] at hplace
        cases hplace
      · rw [hgroup] at hplace
        rcases hplaces group i m hplace with hold | hnew
        · refine h.places ?_
          rw [membersOf, hgroup]
          exact hold
        · exact .inr hnew
    · rw [membersOf_updateGroup_of_ne hg] at hplace
      exact h.places hplace
  history := h.history

theorem dissolve (h : Evolves net behind) (g : GroupId) : Evolves net (dissolve g behind) := by
  have hunlisten (gone : List MemberId) :
      Evolves net (gone.foldl (fun net m => unlisten m selectEvent net) behind) := by
    induction gone generalizing behind with
    | nil => exact h
    | cons m rest ih => exact ih (h.updateMember m fun _ => rfl)
  refine (hunlisten _).updateGroup g (fun _ => rfl) fun group i m hplace => ?_
  cases hplace

theorem dissolveAll (h : Evolves net behind) : Evolves net (dissolveAll behind) := by
  rw [Network.dissolveAll]
  generalize List.range behind.groups.length = groups
  induction groups generalizing behind with
  | nil => exact h
  | cons g rest ih => exact ih (h.dissolve g)

theorem spawnFrom (m : MemberId) (net : Network) : Evolves net (spawnFrom m net) := by
  rw [Network.spawnFrom]
  cases net.members[m]? with
  | none => exact refl net
  | some member =>
    have hadded : Evolves net (Network.addMember { name := member.name ++ spawnSuffix } net) :=
      (refl net).addMember rfl
    change Evolves net (join 0 net.members.length (Network.addMember _ net))
    rw [join]
    split
    · exact hadded
    · refine (hadded.updateGroup 0 ?_ ?_).updateMember _ fun _ => rfl
      · intro _
        rfl
      · intro group i new hplace
        simp only [List.getElem?_append] at hplace
        split at hplace
        · exact .inl hplace
        · have hin := List.mem_of_getElem? hplace
          exact .inr (Nat.le_of_eq (List.mem_singleton.mp hin).symm)

/-- What happens while an idle group delivers: behind it the group is idle as before. -/
theorem enclose {g : GroupId} (hidle : net.isBusy g = false) (h : Evolves (opened g net) mid) :
    Evolves net (closed g mid) where
  busy := by
    have hset : (net.groups.map Group.busy).set g false = net.groups.map Group.busy := by
      rw [isBusy_eq] at hidle
      by_cases hg : g < (net.groups.map Group.busy).length
      · rw [List.getElem?_eq_getElem hg, Option.getD_some] at hidle
        rw [← hidle]
        exact List.set_getElem_self hg
      · exact List.set_eq_of_length_le (Nat.le_of_not_lt hg)
    have hbusy : mid.groups.map Group.busy = (net.groups.map Group.busy).set g true :=
      h.busy.trans (busy_setBusy g true net)
    exact (busy_setBusy g false mid).trans (by rw [hbusy, List.set_set, hset])
  grows := h.grows
  keeps := h.keeps
  newcomers := h.newcomers
  places hplace := by
    have hmid := h.places ((membersOf_setBusy g _ false mid) ▸ hplace)
    rwa [show (opened g net).membersOf _ = net.membersOf _ from membersOf_setBusy g _ true net] at hmid
  history := (List.prefix_append ..).trans (h.history.trans (List.prefix_append ..))

end Evolves

namespace Unfolds

variable {net behind : Network} {task : Task} {outcome : Except RelayFault Nat}

theorem evolves (h : Unfolds net task outcome behind) : Evolves net behind := by
  induction h with
  | fire _ ih => exact ih
  | told => exact .refl _
  | record _ ih => exact ((Evolves.refl _).note _).trans ih
  | relay _ _ ihfirst ihrest => exact ihfirst.trans ihrest
  | relayFault _ ih => exact ih
  | dropped => exact .refl _
  | broadcast hidle _ ih => exact .enclose hidle ih
  | past => exact .refl _
  | own _ _ _ ih => exact ih
  | reach _ _ _ _ ihfirst ihrest => exact ihfirst.trans ihrest
  | reachFault _ _ _ ih => exact ih
  | accept => exact (Evolves.refl _).take _ _
  | echo _ _ _ ih => exact ((Evolves.refl _).take _ _).trans ih
  | refuse => exact (Evolves.refl _).take _ _
  | dissolve => exact ((Evolves.refl _).take _ _).dissolveAll
  | spawn => exact ((Evolves.refl _).take _ _).trans (.spawnFrom _ _)

/-- An exchange is stopped only by a member that refuses. -/
theorem exists_refusing {fault : RelayFault} (h : Unfolds net task (.error fault) behind) :
    ∃ member ∈ behind.members, member.reaction = .refuse ∧ fault = .refused member.name := by
  generalize hstopped : Except.error fault = outcome at h
  induction h with
  | fire _ ih | record _ ih | relay _ _ _ ih | relayFault _ ih | own _ _ _ ih | reachFault _ _ _ ih
  | echo _ _ _ ih | broadcast _ _ ih => exact ih hstopped
  | @reach _ _ _ _ _ _ _ _ _ outcome _ _ _ _ _ ih =>
    cases outcome with
    | error found => exact ih hstopped
    | ok count => cases hstopped
  | refuse htaken hreacts =>
    cases hstopped
    exact ⟨_, List.mem_of_getElem? htaken, hreacts, rfl⟩
  | told | dropped | past | accept | dissolve | spawn => cases hstopped

end Unfolds

/-! ### Wired networks -/

/-- Groups consist of members that there are, and members relay to groups that there are. -/
structure Wired (net : Network) : Prop where
  known : ∀ {g : GroupId} {m : MemberId}, m ∈ net.membersOf g → m < net.members.length
  relays : ∀ {member : Member} {event : String} {g : GroupId}, member ∈ net.members →
    (event, .relay g) ∈ member.listeners → g < net.groups.length

namespace Wired

variable {net : Network}

theorem note (h : Wired net) (incident : Incident) : Wired (note incident net) := ⟨h.known, h.relays⟩

theorem updateMember (h : Wired net) (m : MemberId) {f : Member → Member}
    (hf : ∀ member event g, (event, .relay g) ∈ (f member).listeners →
      (event, .relay g) ∈ member.listeners ∨ g < net.groups.length) : Wired (updateMember m f net) where
  known hin := by
    rw [length_updateMember]
    exact h.known hin
  relays hmember hrelay := by
    obtain ⟨i, hget⟩ := List.mem_iff_getElem?.mp hmember
    obtain ⟨member, hold, rfl⟩ := exists_of_updateMember hget
    split at hrelay
    · rcases hf _ _ _ hrelay with hin | hg
      · exact h.relays (List.mem_of_getElem? hold) hin
      · exact hg
    · exact h.relays (List.mem_of_getElem? hold) hrelay

theorem updateGroup (h : Wired net) (g : GroupId) {f : Group → Group}
    (hf : ∀ (group : Group) (m : MemberId), m ∈ (f group).members →
      m ∈ group.members ∨ m < net.members.length) : Wired (updateGroup g f net) where
  known {other m} hin := by
    by_cases hg : g = other
    · subst hg
      rw [membersOf_updateGroup_self] at hin
      rcases hgroup : net.groups[g]? with _ | group
      · rw [hgroup] at hin
        cases hin
      · rw [hgroup] at hin
        rcases hf group m hin with hold | hm
        · refine h.known (g := g) ?_
          rw [membersOf, hgroup]
          exact hold
        · exact hm
    · rw [membersOf_updateGroup_of_ne hg] at hin
      exact h.known hin
  relays hmember hrelay := by
    rw [Network.updateGroup, List.length_modify]
    exact h.relays hmember hrelay

theorem setBusy (h : Wired net) (g : GroupId) (busy : Bool) : Wired (setBusy g busy net) :=
  h.updateGroup g fun _ _ hin => .inl hin

theorem take (h : Wired net) (m : MemberId) (selection : Selection) : Wired (take m selection net) := by
  have hset : Wired (setSelection m selection net) := h.updateMember m fun _ _ _ hin => .inl hin
  exact hset.note _

theorem dissolve (h : Wired net) (g : GroupId) : Wired (dissolve g net) := by
  have hunlisten (gone : List MemberId) :
      Wired (gone.foldl (fun net m => unlisten m selectEvent net) net) := by
    induction gone generalizing net with
    | nil => exact h
    | cons m rest ih => exact ih (h.updateMember m fun _ _ _ hin => .inl (List.mem_filter.mp hin).1)
  refine (hunlisten _).updateGroup g fun group m hin => ?_
  cases hin

theorem dissolveAll (h : Wired net) : Wired (dissolveAll net) := by
  rw [Network.dissolveAll]
  generalize List.range net.groups.length = groups
  induction groups generalizing net with
  | nil => exact h
  | cons g rest ih => exact ih (h.dissolve g)

theorem join (h : Wired net) {g : GroupId} {m : MemberId} (hg : g < net.groups.length)
    (hm : m < net.members.length) : Wired (join g m net) := by
  rw [Network.join]
  split
  · exact h
  · refine (h.updateGroup g ?_).updateMember m ?_
    · intro group other hin
      rcases List.mem_append.mp hin with hold | hnew
      · exact .inl hold
      · rw [List.mem_singleton.mp hnew]
        exact .inr hm
    · intro member event other hin
      rcases List.mem_append.mp hin with hold | hnew
      · exact .inl hold
      · simp only [List.mem_singleton, Prod.mk.injEq, Listener.relay.injEq] at hnew
        rw [hnew.2, Network.updateGroup, List.length_modify]
        exact .inr hg

theorem spawnFrom (h : Wired net) (m : MemberId) (hgroup : 0 < net.groups.length) :
    Wired (spawnFrom m net) := by
  rw [Network.spawnFrom]
  cases net.members[m]? with
  | none => exact h
  | some member =>
    have hadded : Wired (addMember { name := member.name ++ spawnSuffix } net) := by
      refine ⟨fun hin => ?_, fun hmember hrelay => ?_⟩
      · simp only [addMember, List.length_append]
        exact Nat.lt_add_right _ (h.known hin)
      · rcases List.mem_append.mp hmember with hold | hnew
        · exact h.relays hold hrelay
        · rw [List.mem_singleton.mp hnew] at hrelay
          cases hrelay
    refine hadded.join hgroup ?_
    simp only [addMember, List.length_append, List.length_singleton]
    exact Nat.lt_succ_self _

theorem of_mem_listenersOf (h : Wired net) {m : MemberId} {event : String} {g : GroupId}
    (hrelay : .relay g ∈ net.listenersOf m event) : g < net.groups.length := by
  rw [listenersOf] at hrelay
  cases hmember : net.members[m]? with
  | none =>
    rw [hmember] at hrelay
    cases hrelay
  | some member =>
    simp only [hmember] at hrelay
    obtain ⟨⟨heard, listener⟩, hfound, rfl⟩ := List.mem_map.mp hrelay
    exact h.relays (List.mem_of_getElem? hmember) (List.mem_filter.mp hfound).1

end Wired

theorem Unfolds.wired {net behind : Network} {task : Task} {outcome : Except RelayFault Nat}
    (h : Unfolds net task outcome behind) (hnet : Wired net) : Wired behind := by
  induction h with
  | fire _ ih => exact ih hnet
  | told => exact hnet
  | record _ ih => exact ih (hnet.note _)
  | relay _ _ ihfirst ihrest => exact ihrest (ihfirst hnet)
  | relayFault _ ih => exact ih hnet
  | dropped => exact hnet
  | broadcast _ _ ih => exact ((ih ((hnet.setBusy _ true).note _)).setBusy _ false).note _
  | past => exact hnet
  | own _ _ _ ih => exact ih hnet
  | reach _ _ _ _ ihfirst ihrest => exact ihrest (ihfirst hnet)
  | reachFault _ _ _ ih => exact ih hnet
  | accept => exact hnet.take _ _
  | echo _ _ _ ih => exact ih (hnet.take _ _)
  | refuse => exact hnet.take _ _
  | dissolve => exact (hnet.take _ _).dissolveAll
  | spawn hgroup => exact (hnet.take _ _).spawnFrom _ hgroup

end CodecReport.Network
