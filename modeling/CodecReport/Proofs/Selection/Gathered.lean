import CodecReport.Proofs.Selection.Delivery

/-!
# One group

A network with a single group, in which a member passes its selections on only while it belongs to that
group. This is how the visualizations on a board are wired. The property survives everything that happens
to the network: relays keep the wiring, listeners that only record do not relay, dissolving the group takes
the relays with it, and a member that joins brings its own.
-/

namespace CodecReport.Network

/-- The one group of the network is idle and consists of the given members, and only they relay. -/
structure Gathered (net : Network) (members : List MemberId) : Prop where
  groups : net.groups = [{ members }]
  nodup : members.Nodup
  known : ∀ m ∈ members, m < net.members.length
  accepting : Accepting net
  relays : ∀ {m : MemberId} {member : Member} {event : String} {g : GroupId},
    net.members[m]? = some member → (event, .relay g) ∈ member.listeners →
      event = selectEvent ∧ g = 0 ∧ m ∈ members

/-- A member behind an update is the one that was there, updated if the update is about it. -/
theorem exists_of_updateMember {net : Network} {m i : MemberId} {f : Member → Member} {member' : Member}
    (hmember : (updateMember m f net).members[i]? = some member') :
    ∃ member, net.members[i]? = some member ∧ member' = if m = i then f member else member := by
  simp only [updateMember, List.getElem?_modify] at hmember
  obtain ⟨member, hold, heq⟩ := Option.map_eq_some_iff.mp hmember
  exact ⟨member, hold, heq.symm⟩

@[simp] theorem length_updateMember (m : MemberId) (f : Member → Member) (net : Network) :
    (updateMember m f net).members.length = net.members.length := List.length_modify _ _ _

theorem length_foldl_unlisten (gone : List MemberId) (event : String) (net : Network) :
    (gone.foldl (fun net m => unlisten m event net) net).members.length = net.members.length := by
  induction gone generalizing net with
  | nil => rfl
  | cons m rest ih => exact (ih _).trans (length_updateMember m _ net)

@[simp] theorem length_dissolve (g : GroupId) (net : Network) :
    (dissolve g net).members.length = net.members.length :=
  length_foldl_unlisten (net.membersOf g) selectEvent net

@[simp] theorem length_join (g : GroupId) (m : MemberId) (net : Network) :
    (join g m net).members.length = net.members.length := by
  rw [join]
  split
  · rfl
  · exact length_updateMember m _ _

theorem listenersOf_eq_of_getElem? {net : Network} {m : MemberId} {member : Member}
    (hmember : net.members[m]? = some member) (event : String) :
    net.listenersOf m event = (member.listeners.filter (·.1 == event)).map (·.2) := by
  rw [listenersOf, hmember]

/-- Members that lost their listeners to selections have none, and no member has a new listener. -/
theorem ne_selectEvent_of_foldl_unlisten {net : Network} {gone : List MemberId} {m : MemberId}
    {member' : Member} {event : String} {listener : Listener}
    (hmember : (gone.foldl (fun net m => unlisten m selectEvent net) net).members[m]? = some member')
    (hlistener : (event, listener) ∈ member'.listeners) (hm : m ∈ gone) : event ≠ selectEvent := by
  -- The listeners that are left stood there at the start: this carries the induction over the removals.
  suffices hleft : ∃ member, net.members[m]? = some member ∧ (event, listener) ∈ member.listeners ∧
      (m ∈ gone → event ≠ selectEvent) by
    obtain ⟨_, _, _, hne⟩ := hleft
    exact hne hm
  clear hm
  induction gone generalizing net with
  | nil => exact ⟨member', hmember, hlistener, fun hm => absurd hm List.not_mem_nil⟩
  | cons first rest ih =>
    obtain ⟨mid, hmid, hin, hrest⟩ := ih hmember
    obtain ⟨member, hold, rfl⟩ := exists_of_updateMember hmid
    by_cases hfirst : first = m
    · rw [if_pos hfirst] at hin
      obtain ⟨hin, hne⟩ := List.mem_filter.mp hin
      exact ⟨member, hold, hin, fun _ => by simpa using hne⟩
    · rw [if_neg hfirst] at hin
      refine ⟨member, hold, hin, fun hm => hrest ?_⟩
      rcases List.mem_cons.mp hm with heq | hm
      · exact absurd heq.symm hfirst
      · exact hm

namespace Gathered

variable {net net' : Network} {members : List MemberId}

theorem membersOf (h : Gathered net members) : net.membersOf 0 = members := by
  rw [Network.membersOf, h.groups]
  rfl

theorem idle (h : Gathered net members) : Idle net := by
  intro g
  rw [isBusy, h.groups]
  cases g <;> rfl

theorem of_sameWiring (hwiring : SameWiring net net') (h : Gathered net members) :
    Gathered net' members where
  groups := hwiring.groups.trans h.groups
  nodup := h.nodup
  known m hm := by
    rw [hwiring.length]
    exact h.known m hm
  accepting := h.accepting.of_sameWiring hwiring
  relays hmember hrelay := by
    obtain ⟨member, hold, heq⟩ := hwiring.exists_member hmember
    rw [Member.listeners_of_wiring heq] at hrelay
    exact h.relays hold hrelay

/-- Changes that add no relay to a member keep the network gathered. -/
theorem updateMember (h : Gathered net members) (m : MemberId) {f : Member → Member}
    (hreaction : ∀ member, (f member).reaction = member.reaction)
    (hrelays : ∀ member event g, (event, .relay g) ∈ (f member).listeners →
      (event, .relay g) ∈ member.listeners) :
    Gathered (Network.updateMember m f net) members where
  groups := h.groups
  nodup := h.nodup
  known i hi := by
    simp only [Network.updateMember, List.length_modify]
    exact h.known i hi
  accepting member' hmember' := by
    obtain ⟨i, hget⟩ := List.mem_iff_getElem?.mp hmember'
    obtain ⟨member, hold, rfl⟩ := exists_of_updateMember hget
    have haccept := h.accepting member (List.mem_of_getElem? hold)
    split
    · rw [hreaction, haccept]
    · exact haccept
  relays hmember' hrelay := by
    obtain ⟨member, hold, rfl⟩ := exists_of_updateMember hmember'
    split at hrelay
    · exact h.relays hold (hrelays _ _ _ hrelay)
    · exact h.relays hold hrelay

theorem listen (h : Gathered net members) (m : MemberId) (event : String) :
    Gathered (Network.listen m event .record net) members := by
  refine h.updateMember m (fun _ => rfl) fun member e g hrelay => ?_
  rcases List.mem_append.mp hrelay with hold | hnew
  · exact hold
  · simp at hnew

theorem unlisten (h : Gathered net members) (m : MemberId) (event : String) :
    Gathered (Network.unlisten m event net) members :=
  h.updateMember m (fun _ => rfl) fun _ _ _ hrelay => (List.mem_filter.mp hrelay).1

theorem unlistenAll (h : Gathered net members) (m : MemberId) :
    Gathered (Network.unlistenAll m net) members :=
  h.updateMember m (fun _ => rfl) fun _ _ _ hrelay => absurd hrelay (List.not_mem_nil)

theorem foldl_unlisten (h : Gathered net members) (gone : List MemberId) :
    Gathered (gone.foldl (fun net m => Network.unlisten m selectEvent net) net) members := by
  induction gone generalizing net with
  | nil => exact h
  | cons m rest ih => exact ih (h.unlisten m selectEvent)

/-- The members of a dissolved group relay no more. -/
theorem dissolve (h : Gathered net members) : Gathered (Network.dissolve 0 net) [] := by
  have hleft := h.foldl_unlisten members
  rw [Network.dissolve, h.membersOf]
  refine ⟨?_, List.nodup_nil, fun m hm => absurd hm List.not_mem_nil, hleft.accepting, ?_⟩
  · rw [updateGroup, hleft.groups]
    rfl
  · intro m member event g hmember hrelay
    obtain ⟨hevent, _, hm⟩ := hleft.relays hmember hrelay
    exact absurd hevent (ne_selectEvent_of_foldl_unlisten hmember hrelay hm)

/-- A new member that joins the group relays to it. -/
theorem enroll (h : Gathered net members) (name : String) :
    Gathered ((addMember { name } net).join 0 net.members.length) (members ++ [net.members.length]) := by
  have hnew : net.members.length ∉ members := fun hm => Nat.lt_irrefl _ (h.known _ hm)
  have hjoin : (addMember { name } net).join 0 net.members.length =
      Network.listen net.members.length selectEvent (.relay 0)
        (updateGroup 0 (fun group => { group with members := group.members ++ [net.members.length] })
          (addMember { name } net)) := by
    have hmembers : (addMember { name } net).membersOf 0 = members := h.membersOf
    rw [join, hmembers, if_neg (by simpa using hnew)]
  rw [hjoin]
  refine ⟨?_, ?_, ?_, ?_, ?_⟩
  · simp only [Network.listen, Network.updateMember, updateGroup, addMember, h.groups]
    rfl
  · exact List.nodup_append.mpr ⟨h.nodup, by simp, by
      intro a ha b hb hab
      rw [List.mem_singleton] at hb
      exact hnew (hb ▸ hab ▸ ha)⟩
  · intro m hm
    simp only [Network.listen, Network.updateMember, updateGroup, addMember, List.length_modify,
      List.length_append, List.length_singleton]
    rcases List.mem_append.mp hm with hm | hm
    · exact Nat.lt_succ_of_lt (h.known m hm)
    · rw [List.mem_singleton.mp hm]
      exact Nat.lt_succ_self _
  · intro member' hmember'
    obtain ⟨i, hget⟩ := List.mem_iff_getElem?.mp hmember'
    obtain ⟨member, hold, rfl⟩ := exists_of_updateMember hget
    have haccept : member.reaction = .accept := by
      rcases List.mem_append.mp (List.mem_of_getElem? hold) with hmem | hmem
      · exact h.accepting member hmem
      · rw [List.mem_singleton.mp hmem]
    split <;> exact haccept
  · intro m member' event g hmember' hrelay
    obtain ⟨member, hold, rfl⟩ := exists_of_updateMember hmember'
    change (net.members ++ [({ name } : Member)])[m]? = some member at hold
    by_cases hm : net.members.length = m
    · subst hm
      rw [List.getElem?_concat_length] at hold
      cases hold
      simp only [if_true, List.nil_append, List.mem_singleton, Prod.mk.injEq,
        Listener.relay.injEq] at hrelay
      exact ⟨hrelay.1, hrelay.2, by simp⟩
    · rw [if_neg hm] at hrelay
      have hlt : m < net.members.length := by
        obtain ⟨hlength, _⟩ := List.getElem?_eq_some_iff.mp hold
        rw [List.length_append, List.length_singleton] at hlength
        exact Nat.lt_of_le_of_ne (Nat.le_of_lt_succ hlength) (Ne.symm hm)
      rw [List.getElem?_append_left hlt] at hold
      obtain ⟨hevent, hg, hmem⟩ := h.relays hold hrelay
      exact ⟨hevent, hg, List.mem_append_left _ hmem⟩

/-- Whoever does not belong to the group relays no selection. -/
theorem listener_eq_record (h : Gathered net members) {m : MemberId} (hm : m ∉ members) (event : String)
    {listener : Listener} (hlistener : listener ∈ net.listenersOf m event) : listener = .record := by
  rcases hmember : net.members[m]? with _ | member
  · rw [listenersOf, hmember] at hlistener
    exact absurd hlistener List.not_mem_nil
  · rw [listenersOf_eq_of_getElem? hmember] at hlistener
    obtain ⟨⟨e, found⟩, hfound, rfl⟩ := List.mem_map.mp hlistener
    cases found with
    | record => rfl
    | relay g => exact absurd (h.relays hmember (List.mem_filter.mp hfound).1).2.2 hm

/-- A selection outside the group is taken where it is made and nowhere else. -/
theorem selectionAt_afterSelect (h : Gathered net members) {m : MemberId} (hm : m ∉ members)
    (selection : Selection) (other : MemberId) :
    (afterSelect m selection net).selectionAt other = (setSelection m selection net).selectionAt other := by
  rw [afterSelect, selectionAt_afterAnnounce_of_record _ _ _ fun _ => h.listener_eq_record hm selectEvent]

end Gathered

end CodecReport.Network
