import CodecReport.Proofs.Selection.Hearing
import CodecReport.Proofs.Selection.Settling

/-!
# Members and their relays

A member joins a group by being listed there and by being listened to; dissolving the group undoes both for
all of its members. Two lists have to agree for that: nobody is listed twice, and a group is told at most once
of a selection, and only by a member that is listed there. Whatever an exchange does, this stays so. The
converse does not hold: a member may lose its listeners through one group and still be listed in another.
-/

namespace CodecReport.Network

variable {net behind : Network} {g other : GroupId} {m v : MemberId} {event : String}

/-! ### Behind joining and dissolving -/

theorem membersOf_join_of_ne (hne : g ≠ other) (m : MemberId) (net : Network) :
    (join g m net).membersOf other = net.membersOf other := by
  rw [join]
  split
  · rfl
  · exact membersOf_updateGroup_of_ne hne _ net

theorem membersOf_join_self (hg : g < net.groups.length) (m : MemberId) :
    (join g m net).membersOf g = if m ∈ net.membersOf g then net.membersOf g else net.membersOf g ++ [m] := by
  by_cases hm : m ∈ net.membersOf g
  · rw [join, if_pos (List.contains_iff_mem.mpr hm), if_pos hm]
  · rw [join, if_neg (by simpa using hm), if_neg hm]
    change (updateGroup g _ net).membersOf g = _
    rw [membersOf_updateGroup_self, membersOf, List.getElem?_eq_getElem hg]
    rfl

theorem mem_membersOf_join (hg : g < net.groups.length) :
    v ∈ (join g m net).membersOf other ↔ v ∈ net.membersOf other ∨ g = other ∧ v = m := by
  by_cases hother : g = other
  · subst hother
    rw [membersOf_join_self hg]
    split
    next hm =>
      constructor
      · exact .inl
      · rintro (hv | ⟨_, rfl⟩)
        · exact hv
        · exact hm
    next => simp
  · rw [membersOf_join_of_ne hother]
    simp [hother]

theorem listenersOf_join (hm : m < net.members.length) (g : GroupId) (v : MemberId) (event : String) :
    (join g m net).listenersOf v event = net.listenersOf v event ++
      if (m = v ∧ selectEvent = event) ∧ m ∉ net.membersOf g then [.relay g] else [] := by
  by_cases hin : m ∈ net.membersOf g
  · rw [join, if_pos (List.contains_iff_mem.mpr hin), if_neg fun h => h.2 hin, List.append_nil]
  · rw [join, if_neg (by simpa using hin)]
    by_cases hv : m = v
    · subst hv
      rw [listenersOf_listen (by exact hm), listenersOf_updateGroup]
      simp [hin]
    · rw [listen, listenersOf_updateMember_of_ne hv, listenersOf_updateGroup, if_neg fun h => hv h.1.1,
        List.append_nil]

theorem listenersOf_unlisten_self (m : MemberId) (event : String) (net : Network) :
    (unlisten m event net).listenersOf m event = [] := by
  cases hmember : net.members[m]? with
  | none =>
    rw [listenersOf, unlisten, updateMember]
    simp [hmember]
  | some member =>
    rw [unlisten, listenersOf_updateMember_self hmember, List.filter_filter]
    simp

/-- Members that are gone are listened to no more; to all others everybody listens as before. -/
theorem listenersOf_foldl_unlisten (gone : List MemberId) (v : MemberId) (event heard : String) (net : Network) :
    (gone.foldl (fun net m => unlisten m event net) net).listenersOf v heard =
      if event = heard ∧ v ∈ gone then [] else net.listenersOf v heard := by
  induction gone generalizing net with
  | nil => simp
  | cons m rest ih =>
    rw [List.foldl_cons, ih]
    by_cases hevent : event = heard
    · subst hevent
      by_cases hm : m = v
      · subst hm
        rw [listenersOf_unlisten_self]
        simp
      · rw [unlisten, listenersOf_updateMember_of_ne hm]
        simp [Ne.symm hm]
    · rw [listenersOf_unlisten_of_ne hevent, if_neg fun h => hevent h.1, if_neg fun h => hevent h.1]

theorem membersOf_foldl_unlisten (gone : List MemberId) (event : String) (other : GroupId) (net : Network) :
    (gone.foldl (fun net m => unlisten m event net) net).membersOf other = net.membersOf other := by
  induction gone generalizing net with
  | nil => rfl
  | cons m rest ih => exact ih (unlisten m event net)

theorem membersOf_dissolve (g other : GroupId) (net : Network) :
    (dissolve g net).membersOf other = if g = other then [] else net.membersOf other := by
  rw [dissolve]
  by_cases hg : g = other
  · subst hg
    rw [membersOf_updateGroup_self, if_pos rfl]
    cases ((net.membersOf g).foldl (fun net m => unlisten m selectEvent net) net).groups[g]? <;> rfl
  · rw [membersOf_updateGroup_of_ne hg, membersOf_foldl_unlisten, if_neg hg]

theorem listenersOf_dissolve (g : GroupId) (v : MemberId) (event : String) (net : Network) :
    (dissolve g net).listenersOf v event =
      if selectEvent = event ∧ v ∈ net.membersOf g then [] else net.listenersOf v event :=
  listenersOf_foldl_unlisten (net.membersOf g) v selectEvent event net

theorem membersOf_fresh (groups : Nat) (crew : List (String × Reaction)) (g : GroupId) :
    (fresh groups crew).membersOf g = [] := by
  rw [membersOf]
  rcases hfound : (fresh groups crew).groups[g]? with _ | group
  · rfl
  · rw [List.eq_of_mem_replicate (List.mem_of_getElem? hfound)]
    rfl

/-! ### Orderly networks -/

/-- Nobody is listed twice in a group, and of a selection a group is told at most once, by a member that is
listed there. -/
structure Orderly (net : Network) : Prop where
  nodup : ∀ g, (net.membersOf g).Nodup
  relays : ∀ {m : MemberId} {event : String} {g : GroupId}, .relay g ∈ net.listenersOf m event →
    event = selectEvent ∧ m ∈ net.membersOf g
  once : ∀ m g, (net.listenersOf m selectEvent).count (.relay g) ≤ 1

namespace Orderly

/-- The lists of members are as they were, and nobody listens who did not before. -/
theorem of_sublist (h : Orderly net) (hmembers : ∀ g, behind.membersOf g = net.membersOf g)
    (hlisteners : ∀ m event, (behind.listenersOf m event).Sublist (net.listenersOf m event)) : Orderly behind where
  nodup g := by
    rw [hmembers]
    exact h.nodup g
  relays hrelay := by
    rw [hmembers]
    exact h.relays ((hlisteners _ _).subset hrelay)
  once m g := Nat.le_trans ((hlisteners m selectEvent).count_le _) (h.once m g)

theorem of_sameWiring (h : Orderly net) (hwiring : SameWiring net behind) : Orderly behind :=
  h.of_sublist hwiring.membersOf fun m event => hwiring.listenersOf m event ▸ List.Sublist.refl _

theorem note (h : Orderly net) (incident : Incident) : Orderly (note incident net) :=
  h.of_sameWiring (sameWiring_note net incident)

theorem take (h : Orderly net) (m : MemberId) (selection : Selection) : Orderly (take m selection net) :=
  h.of_sameWiring (sameWiring_take net m selection)

theorem setBusy (h : Orderly net) (g : GroupId) (busy : Bool) : Orderly (setBusy g busy net) :=
  h.of_sublist (fun other => membersOf_setBusy g other busy net) fun _ _ => List.Sublist.refl _

/-- Losing listeners is in order at any time. -/
theorem updateMember (h : Orderly net) (m : MemberId) {f : Member → Member}
    (hf : ∀ member, (f member).listeners.Sublist member.listeners) : Orderly (updateMember m f net) := by
  refine h.of_sublist (fun _ => rfl) fun v event => ?_
  by_cases hm : m = v
  · subst hm
    cases hmember : net.members[m]? with
    | none =>
      rw [listenersOf, Network.updateMember]
      simp [hmember]
    | some member =>
      rw [listenersOf_updateMember_self hmember, listenersOf_eq_of_getElem? hmember]
      exact ((hf member).filter _).map _
  · exact listenersOf_updateMember_of_ne hm f event net ▸ List.Sublist.refl _

theorem unlisten (h : Orderly net) (m : MemberId) (event : String) : Orderly (unlisten m event net) :=
  h.updateMember m fun _ => List.filter_sublist

theorem unlistenAll (h : Orderly net) (m : MemberId) : Orderly (unlistenAll m net) :=
  h.updateMember m fun _ => List.nil_sublist _

/-- A listener that records relays nothing. -/
theorem listen_record (h : Orderly net) (m : MemberId) (event : String) :
    Orderly (listen m event .record net) := by
  have hrecord (v : MemberId) (heard : String) : ∃ news : List Listener, (∀ l ∈ news, l = .record) ∧
      (listen m event .record net).listenersOf v heard = net.listenersOf v heard ++ news := by
    rcases Nat.lt_or_ge v net.members.length with hv | hv
    · rw [listenersOf_listen hv]
      refine ⟨_, fun l hl => ?_, rfl⟩
      split at hl
      · exact List.mem_singleton.mp hl
      · cases hl
    · refine ⟨[], fun l hl => absurd hl List.not_mem_nil, ?_⟩
      rw [listenersOf, listenersOf, List.getElem?_eq_none hv, List.getElem?_eq_none]
      · rfl
      · rwa [listen, length_updateMember]
  refine ⟨h.nodup, fun {v heard g} hrelay => ?_, fun v g => ?_⟩
  · obtain ⟨news, hnews, heq⟩ := hrecord v heard
    rw [heq] at hrelay
    rcases List.mem_append.mp hrelay with hold | hnew
    · exact h.relays hold
    · cases hnews _ hnew
  · obtain ⟨news, hnews, heq⟩ := hrecord v selectEvent
    have hnone : news.count (.relay g) = 0 := by
      refine List.count_eq_zero.mpr fun hnew => ?_
      cases hnews _ hnew
    rw [heq, List.count_append, hnone]
    exact h.once v g

theorem dissolve (h : Orderly net) (g : GroupId) : Orderly (dissolve g net) where
  nodup other := by
    rw [membersOf_dissolve]
    split
    · exact List.nodup_nil
    · exact h.nodup other
  relays {m event other} hrelay := by
    rw [listenersOf_dissolve] at hrelay
    split at hrelay
    next => cases hrelay
    next hkept =>
      obtain ⟨hevent, hin⟩ := h.relays hrelay
      refine ⟨hevent, ?_⟩
      -- a member of the dissolved group would have been left without listeners
      rw [membersOf_dissolve, if_neg]
      · exact hin
      · rintro rfl
        exact hkept ⟨hevent.symm, hin⟩
  once m other := by
    rw [listenersOf_dissolve]
    split
    · exact Nat.zero_le _
    · exact h.once m other

theorem dissolveAll (h : Orderly net) : Orderly (dissolveAll net) := by
  rw [Network.dissolveAll]
  generalize List.range net.groups.length = groups
  induction groups generalizing net with
  | nil => exact h
  | cons g rest ih => exact ih (h.dissolve g)

theorem join (h : Orderly net) (hg : g < net.groups.length) (hm : m < net.members.length) :
    Orderly (join g m net) where
  nodup other := by
    by_cases hother : g = other
    · subst hother
      rw [membersOf_join_self hg]
      split
      next => exact h.nodup g
      next hnew => exact List.nodup_append.mpr ⟨h.nodup g, by simp, fun a ha b hb hab =>
          hnew (List.mem_singleton.mp hb ▸ hab ▸ ha)⟩
    · rw [membersOf_join_of_ne hother]
      exact h.nodup other
  relays {v event other} hrelay := by
    rw [listenersOf_join hm] at hrelay
    rw [mem_membersOf_join hg]
    rcases List.mem_append.mp hrelay with hold | hnew
    · obtain ⟨hevent, hin⟩ := h.relays hold
      exact ⟨hevent, .inl hin⟩
    · split at hnew
      next hjoins =>
        obtain rfl := Listener.relay.inj (List.mem_singleton.mp hnew)
        exact ⟨hjoins.1.2.symm, .inr ⟨rfl, hjoins.1.1.symm⟩⟩
      next => cases hnew
  once v other := by
    rw [listenersOf_join hm, List.count_append]
    split
    next hjoins =>
      obtain ⟨⟨rfl, _⟩, hnew⟩ := hjoins
      by_cases hother : g = other
      · subst hother
        have hnone : (net.listenersOf m selectEvent).count (.relay g) = 0 :=
          List.count_eq_zero.mpr fun hrelay => hnew (h.relays hrelay).2
        rw [hnone, Nat.zero_add]
        exact List.count_le_length
      · rw [List.count_singleton, if_neg (by simpa using hother)]
        exact h.once m other
    next => exact h.once v other

theorem addMember (h : Orderly net) (name : String) : Orderly (addMember { name } net) := by
  refine h.of_sublist (fun _ => rfl) fun v event => ?_
  rcases Nat.lt_or_ge v net.members.length with hv | hv
  · exact listenersOf_addMember hv { name } event ▸ List.Sublist.refl _
  · have hnone : (Network.addMember { name } net).listenersOf v event = [] := by
      rw [listenersOf, Network.addMember]
      rcases hfound : (net.members ++ [({ name } : Member)])[v]? with _ | member
      · rfl
      · rw [List.getElem?_append_right hv] at hfound
        rw [List.mem_singleton.mp (List.mem_of_getElem? hfound)]
        rfl
    rw [hnone]
    exact List.nil_sublist _

theorem spawnFrom (h : Orderly net) (m : MemberId) (hgroup : 0 < net.groups.length) :
    Orderly (spawnFrom m net) := by
  rw [Network.spawnFrom]
  cases net.members[m]? with
  | none => exact h
  | some member =>
    refine (h.addMember _).join hgroup ?_
    simp only [Network.addMember, List.length_append, List.length_singleton]
    exact Nat.lt_succ_self _

theorem fresh (groups : Nat) (crew : List (String × Reaction)) : Orderly (fresh groups crew) := by
  have hlisteners (m : MemberId) (event : String) : (Network.fresh groups crew).listenersOf m event = [] := by
    rcases hfound : (Network.fresh groups crew).members[m]? with _ | member
    · rw [listenersOf, hfound]
    · obtain ⟨_, _, rfl⟩ := List.mem_map.mp (List.mem_of_getElem? hfound)
      rw [listenersOf_eq_of_getElem? hfound]
      rfl
  refine ⟨fun g => ?_, fun hrelay => ?_, fun m g => ?_⟩
  · rw [membersOf_fresh]
    exact List.nodup_nil
  · rw [hlisteners] at hrelay
    cases hrelay
  · rw [hlisteners]
    exact Nat.zero_le _

end Orderly

theorem Unfolds.orderly {task : Task} {outcome : Except RelayFault Nat} (h : Unfolds net task outcome behind)
    (hnet : Orderly net) : Orderly behind := by
  induction h with
  | fire _ ih => exact ih hnet
  | told => exact hnet
  | record _ ih => exact ih (hnet.note _)
  | relay _ _ ihfirst ihrest => exact ihrest (ihfirst hnet)
  | relayFault _ ih => exact ih hnet
  | dropped => exact hnet
  | broadcast _ _ ih => exact ((ih ((hnet.setBusy _ true).note _)).setBusy _ false).note _
  | past => exact hnet
  | own _ _ _ ih => exact ih hnet
  | reach _ _ _ _ ihfirst ihrest => exact ihrest (ihfirst hnet)
  | reachFault _ _ _ ih => exact ih hnet
  | accept => exact hnet.take _ _
  | echo _ _ _ ih => exact ih (hnet.take _ _)
  | refuse => exact hnet.take _ _
  | dissolve => exact (hnet.take _ _).dissolveAll
  | spawn hgroup => exact (hnet.take _ _).spawnFrom _ hgroup

theorem Orderly.after (h : Orderly net) (hwired : Wired net) {action : Action} (hknown : action.Known net) :
    Orderly (net.after action) := by
  have hcomes := Action.comes_perform hwired hknown
  cases action with
  | join g m => exact h.join hknown.1 hknown.2
  | dissolve g => exact h.dissolve g
  | broadcast g source selection => exact Unfolds.orderly hcomes h
  | fire m selection => exact Unfolds.orderly hcomes h

end CodecReport.Network
