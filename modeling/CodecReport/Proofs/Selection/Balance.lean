import CodecReport.Proofs.Selection.Evolution

/-!
# What the record of a network shows

A network notes when a group is opened and when it is closed. However an exchange unfolds, the record shows
at every moment of it that a group was opened as often as it was closed, or once more: a group that is
delivering is not opened again before it is closed.
-/

namespace CodecReport.Network

theorem isBusy_setBusy_self {g : GroupId} {net : Network} (hg : g < net.groups.length) (busy : Bool) :
    (setBusy g busy net).isBusy g = busy := by
  rw [isBusy_eq, busy_setBusy, List.getElem?_set_self (by rwa [List.length_map])]
  rfl

theorem isBusy_setBusy_of_ne {g other : GroupId} (hne : g ≠ other) (busy : Bool) (net : Network) :
    (setBusy g busy net).isBusy other = net.isBusy other := by
  rw [isBusy_eq, isBusy_eq, busy_setBusy, List.getElem?_set_ne hne]

/-- By the record, a group was never opened while it was open, and it is open while it delivers. -/
structure Balanced (g : GroupId) (net : Network) : Prop where
  known : g < net.groups.length
  now : net.history.count (.opened g) = net.history.count (.closed g) + (net.isBusy g).toNat
  always : ∀ moment, moment <+: net.history → moment.count (.closed g) ≤ moment.count (.opened g) ∧
    moment.count (.opened g) ≤ moment.count (.closed g) + 1

namespace Balanced

variable {g : GroupId} {net behind : Network}

theorem of_history (h : Balanced g net) (hgroups : behind.groups.map Group.busy = net.groups.map Group.busy)
    (hhistory : behind.history = net.history) : Balanced g behind where
  known := by
    have hlength := congrArg List.length hgroups
    rw [List.length_map, List.length_map] at hlength
    exact hlength ▸ h.known
  now := by rw [hhistory, isBusy_eq, hgroups, ← isBusy_eq, h.now]
  always := hhistory ▸ h.always

/-- One more incident is on the record. -/
theorem append (h : Balanced g net) {incident : Incident} (hknown : behind.groups.length = net.groups.length)
    (hhistory : behind.history = net.history ++ [incident])
    (hnow : behind.history.count (.opened g) =
      behind.history.count (.closed g) + (behind.isBusy g).toNat) :
    Balanced g behind where
  known := hknown ▸ h.known
  now := hnow
  always moment hmoment := by
    rw [hhistory, List.prefix_concat_iff, ← hhistory] at hmoment
    rcases hmoment with rfl | hbefore
    · rw [hnow]
      exact ⟨Nat.le_add_right .., Nat.add_le_add_left (Bool.toNat_le _) _⟩
    · exact h.always moment hbefore

theorem note (h : Balanced g net) {incident : Incident} (hopened : incident ≠ .opened g)
    (hclosed : incident ≠ .closed g) : Balanced g (note incident net) := by
  refine h.append rfl rfl ?_
  simp only [Network.note, List.count_append, List.count_singleton]
  simp [hopened, hclosed, h.now, Network.isBusy]

theorem opened (h : Balanced g net) {other : GroupId} (hidle : net.isBusy other = false) :
    Balanced g (opened other net) := by
  refine h.append (List.length_modify ..) rfl ?_
  change (net.history ++ [Incident.opened other]).count _ =
    (net.history ++ [Incident.opened other]).count _ + ((setBusy other true net).isBusy g).toNat
  by_cases hg : other = g
  · subst hg
    rw [isBusy_setBusy_self h.known]
    simp [List.count_append, h.now, hidle]
  · rw [isBusy_setBusy_of_ne hg]
    simp [List.count_append, h.now, hg]

theorem closed (h : Balanced g net) {other : GroupId}
    (hbusy : other < net.groups.length → net.isBusy other = true) :
    Balanced g (closed other net) := by
  refine h.append (List.length_modify ..) rfl ?_
  change (net.history ++ [Incident.closed other]).count _ =
    (net.history ++ [Incident.closed other]).count _ + ((setBusy other false net).isBusy g).toNat
  by_cases hg : other = g
  · subst hg
    rw [isBusy_setBusy_self h.known]
    simp [List.count_append, h.now, hbusy h.known]
  · rw [isBusy_setBusy_of_ne hg]
    simp [List.count_append, h.now, hg]

theorem take (h : Balanced g net) (m : MemberId) (selection : Selection) :
    Balanced g (take m selection net) := by
  have hset : Balanced g (setSelection m selection net) := h.of_history rfl rfl
  exact hset.note nofun nofun

end Balanced

theorem history_dissolve (g : GroupId) (net : Network) : (dissolve g net).history = net.history := by
  rw [dissolve]
  generalize net.membersOf g = gone
  change (gone.foldl (fun net m => unlisten m selectEvent net) net).history = net.history
  induction gone generalizing net with
  | nil => rfl
  | cons m rest ih => exact ih (unlisten m selectEvent net)

theorem history_dissolveAll (net : Network) : (dissolveAll net).history = net.history := by
  rw [dissolveAll]
  generalize List.range net.groups.length = groups
  induction groups generalizing net with
  | nil => rfl
  | cons g rest ih => exact (ih (dissolve g net)).trans (history_dissolve g net)

theorem history_join (g : GroupId) (m : MemberId) (net : Network) : (join g m net).history = net.history := by
  rw [join]
  split <;> rfl

theorem history_spawnFrom (m : MemberId) (net : Network) : (spawnFrom m net).history = net.history := by
  rw [spawnFrom]
  cases net.members[m]? with
  | none => rfl
  | some member => exact history_join ..

theorem Unfolds.balanced {net behind : Network} {task : Task} {outcome : Except RelayFault Nat} {g : GroupId}
    (h : Unfolds net task outcome behind) (hnet : Balanced g net) : Balanced g behind := by
  induction h with
  | fire _ ih => exact ih hnet
  | told => exact hnet
  | record _ ih => exact ih (hnet.note nofun nofun)
  | relay _ _ ihfirst ihrest => exact ihrest (ihfirst hnet)
  | relayFault _ ih => exact ih hnet
  | dropped => exact hnet
  | broadcast hidle walk ih =>
    refine (ih (hnet.opened hidle)).closed fun hg => ?_
    rw [walk.evolves.length_groups] at hg
    rw [walk.evolves.isBusy]
    exact isBusy_setBusy_self (by rwa [opened, note, setBusy, updateGroup, List.length_modify] at hg) true
  | past => exact hnet
  | own _ _ _ ih => exact ih hnet
  | reach _ _ _ _ ihfirst ihrest => exact ihrest (ihfirst hnet)
  | reachFault _ _ _ ih => exact ih hnet
  | accept => exact hnet.take _ _
  | echo _ _ _ ih => exact ih (hnet.take _ _)
  | refuse => exact hnet.take _ _
  | dissolve => exact (hnet.take _ _).of_history (Evolves.refl _).dissolveAll.busy (history_dissolveAll _)
  | spawn => exact (hnet.take _ _).of_history (Evolves.spawnFrom _ _).busy (history_spawnFrom _ _)

end CodecReport.Network
