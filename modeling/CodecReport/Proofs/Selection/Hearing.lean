import CodecReport.Proofs.Selection.Gathered

/-!
# Who is called and who takes a selection

Among members that only accept, an announcement calls the listeners that record, each once and in order,
while a relay calls nobody: it changes the selections of the group and notes what it delivered. In a
gathered network a member that relays once therefore brings its selection to the whole group, and exactly
its own listeners hear of it. Who listens to a member depends on nothing but what was done to that member.
-/

namespace CodecReport

/-- Whether a listener was called. -/
def Incident.isCall : Incident → Bool
  | .heard .. => true
  | _ => false

namespace Network

/-- The calls of listeners so far, in order. -/
def calls (net : Network) : List Incident := net.history.filter Incident.isCall

variable {net : Network}

@[simp] theorem calls_updateMember (m : MemberId) (f : Member → Member) (net : Network) :
    (updateMember m f net).calls = net.calls := rfl

@[simp] theorem calls_updateGroup (g : GroupId) (f : Group → Group) (net : Network) :
    (updateGroup g f net).calls = net.calls := rfl

theorem calls_note (incident : Incident) (net : Network) :
    (note incident net).calls = net.calls ++ [incident].filter Incident.isCall :=
  List.filter_append ..

theorem calls_receive (targets : List MemberId) (selection : Selection) (net : Network) :
    (receive targets selection net).calls = net.calls := by
  induction targets generalizing net with
  | nil => rfl
  | cons m rest ih =>
    have htake : (take m selection net).calls = net.calls := by
      rw [take, calls_note]
      exact List.append_nil _
    exact (ih _).trans htake

theorem calls_afterBroadcast (g : GroupId) (source : Option MemberId) (selection : Selection)
    (net : Network) : (afterBroadcast g source selection net).calls = net.calls := by
  rw [afterBroadcast, calls_note, setBusy, calls_updateGroup, calls_receive, calls_note, setBusy,
    calls_updateGroup]
  simp [Incident.isCall]

/-- Of the listeners to an announcement those that record are called, each once. -/
theorem calls_afterAnnounce (m : MemberId) (event : String) (selection : Selection)
    (listeners : List Listener) (net : Network) :
    (afterAnnounce m event selection listeners net).calls =
      net.calls ++ List.replicate (listeners.count .record) (.heard m event selection) := by
  induction listeners generalizing net with
  | nil => simp [afterAnnounce]
  | cons listener rest ih =>
    have hrest := ih (afterHear m event selection net listener)
    rw [afterAnnounce, List.foldl_cons, ← afterAnnounce, hrest]
    cases listener with
    | record =>
      rw [afterHear, calls_note, List.count_cons_self, List.replicate_succ, List.append_assoc]
      rfl
    | relay g =>
      have hrelay : Listener.relay g ≠ .record := by simp
      rw [afterHear, calls_afterBroadcast, List.count_cons_of_ne hrelay]

/-! ### Selections behind a relay -/

theorem selectionAt_take (m other : MemberId) (selection : Selection) (net : Network)
    (hknown : other < net.members.length) :
    (take m selection net).selectionAt other = if other = m then selection else net.selectionAt other := by
  by_cases hother : other = m
  · subst hother
    rw [if_pos rfl]
    exact selectionAt_setSelection_self hknown selection
  · rw [if_neg hother]
    exact selectionAt_setSelection_of_ne hother selection net

theorem selectionAt_receive (targets : List MemberId) (selection : Selection) (net : Network)
    {m : MemberId} (hknown : m < net.members.length) :
    (receive targets selection net).selectionAt m =
      if m ∈ targets then selection else net.selectionAt m := by
  induction targets generalizing net with
  | nil =>
    rw [if_neg List.not_mem_nil]
    rfl
  | cons first rest ih =>
    have hlength := (sameWiring_take net first selection).length
    rw [receive, List.foldl_cons, ← receive, ih _ (by rwa [hlength]), selectionAt_take _ _ _ _ hknown]
    by_cases hrest : m ∈ rest <;> by_cases hfirst : m = first <;> simp [hrest, hfirst]

theorem selectionAt_afterBroadcast (g : GroupId) (source : Option MemberId) (selection : Selection)
    (net : Network) {m : MemberId} (hknown : m < net.members.length) :
    (afterBroadcast g source selection net).selectionAt m =
      if m ∈ net.targetsOf g source then selection else net.selectionAt m :=
  selectionAt_receive (net.targetsOf g source) selection (note (.opened g) (setBusy g true net)) hknown

theorem mem_targetsOf {g : GroupId} {source m : MemberId} :
    m ∈ net.targetsOf g (some source) ↔ m ∈ net.membersOf g ∧ m ≠ source := by
  rw [targetsOf, List.mem_filter, decide_eq_true_iff, ne_eq, Option.some.injEq]
  exact and_congr_right fun _ => ne_comm

namespace Gathered

variable {members : List MemberId}

/-- A member that relays its selections once: all others hold what it selects, and who listens to it is
called. -/
theorem afterSelect_of_relay (h : Gathered net members) {v : MemberId} (hv : v ∈ members) {count : Nat}
    (hlisteners : net.listenersOf v selectEvent = .relay 0 :: List.replicate count .record)
    (selection : Selection) :
    (∀ m ∈ members, (afterSelect v selection net).selectionAt m = selection) ∧
    (∀ m < net.members.length, m ∉ members →
      (afterSelect v selection net).selectionAt m = net.selectionAt m) ∧
    (afterSelect v selection net).calls =
      net.calls ++ List.replicate count (.heard v selectEvent selection) := by
  have hset := sameWiring_setSelection net v selection
  have hselection (m : MemberId) (hm : m < net.members.length) :
      (afterSelect v selection net).selectionAt m =
        if m ∈ members then selection else net.selectionAt m := by
    have htargets : m ∈ (setSelection v selection net).targetsOf 0 (some v) ↔ m ∈ members ∧ m ≠ v := by
      rw [mem_targetsOf, hset.membersOf, h.membersOf]
    rw [afterSelect, hlisteners, afterAnnounce, List.foldl_cons, ← afterAnnounce,
      selectionAt_afterAnnounce_of_record _ _ _ fun _ hl => List.eq_of_mem_replicate hl, afterHear,
      selectionAt_afterBroadcast _ _ _ _ (by rwa [hset.length])]
    simp only [htargets]
    by_cases hvm : m = v
    · subst hvm
      rw [if_neg fun hne => hne.2 rfl, if_pos hv]
      exact selectionAt_setSelection_self hm selection
    · rw [selectionAt_setSelection_of_ne hvm]
      simp [hvm]
  refine ⟨fun m hm => ?_, fun m hknown hm => ?_, ?_⟩
  · rw [hselection m (h.known m hm), if_pos hm]
  · rw [hselection m hknown, if_neg hm]
  · rw [afterSelect, calls_afterAnnounce, hlisteners, setSelection, calls_updateMember,
      List.count_cons_of_ne (by decide), List.count_replicate_self]

end Gathered

/-! ### Who listens -/

theorem listenersOf_updateMember_of_ne {m v : MemberId} (hne : m ≠ v) (f : Member → Member) (event : String)
    (net : Network) : (updateMember m f net).listenersOf v event = net.listenersOf v event := by
  rw [listenersOf, listenersOf, updateMember]
  simp only
  rw [List.getElem?_modify_ne _ _ hne]

theorem listenersOf_updateMember_self {v : MemberId} {net : Network} {member : Member}
    (hmember : net.members[v]? = some member) (f : Member → Member) (event : String) :
    (updateMember v f net).listenersOf v event =
      ((f member).listeners.filter (·.1 == event)).map (·.2) := by
  refine listenersOf_eq_of_getElem? ?_ event
  rw [updateMember]
  simp only [List.getElem?_modify_eq, hmember]
  rfl

theorem listenersOf_listen {m v : MemberId} {net : Network} (hv : v < net.members.length)
    (event heard : String) (listener : Listener) :
    (listen m event listener net).listenersOf v heard =
      net.listenersOf v heard ++ if m = v ∧ event = heard then [listener] else [] := by
  by_cases hm : m = v
  · subst hm
    have hmember := List.getElem?_eq_getElem hv
    rw [listen, listenersOf_updateMember_self hmember, listenersOf_eq_of_getElem? hmember,
      List.filter_append, List.map_append]
    by_cases hevent : event = heard <;> simp [hevent]
  · rw [listen, listenersOf_updateMember_of_ne hm, if_neg fun h => hm h.1, List.append_nil]

theorem listenersOf_unlisten_of_ne {event heard : String} (hne : event ≠ heard) (m v : MemberId)
    (net : Network) :
    (unlisten m event net).listenersOf v heard = net.listenersOf v heard := by
  by_cases hm : m = v
  · subst hm
    cases hmember : net.members[m]? with
    | none =>
      rw [listenersOf, listenersOf, unlisten, updateMember]
      simp [hmember]
    | some member =>
      rw [unlisten, listenersOf_updateMember_self hmember, listenersOf_eq_of_getElem? hmember,
        List.filter_filter]
      congr 1
      refine List.filter_congr fun entry _ => ?_
      by_cases hentry : entry.1 = heard
      · simp [hentry, Ne.symm hne]
      · simp [hentry]
  · exact listenersOf_updateMember_of_ne hm _ heard net

theorem listenersOf_updateGroup (g : GroupId) (f : Group → Group) (v : MemberId) (event : String)
    (net : Network) : (updateGroup g f net).listenersOf v event = net.listenersOf v event := rfl

theorem listenersOf_addMember {v : MemberId} {net : Network} (hv : v < net.members.length) (member : Member)
    (event : String) : (addMember member net).listenersOf v event = net.listenersOf v event := by
  rw [listenersOf, listenersOf, addMember]
  simp only
  rw [List.getElem?_append_left hv]

theorem listenersOf_join_of_ne {g : GroupId} {m v : MemberId} (hne : m ≠ v) (event : String)
    (net : Network) :
    (join g m net).listenersOf v event = net.listenersOf v event := by
  rw [join]
  split
  · rfl
  · rw [listen, listenersOf_updateMember_of_ne hne, listenersOf_updateGroup]

/-- A new member that joins is listened to by its group alone. -/
theorem Gathered.listenersOf_enroll {net : Network} {members : List MemberId} (h : Gathered net members)
    (name : String) :
    ((addMember { name } net).join 0 net.members.length).listenersOf net.members.length selectEvent =
      [.relay 0] := by
  have hmembers : (addMember { name } net).membersOf 0 = members := h.membersOf
  have hnew : net.members.length ∉ members := fun hm => Nat.lt_irrefl _ (h.known _ hm)
  have hmember : (updateGroup 0 (fun group => { group with members := group.members ++ [net.members.length] })
      (addMember { name } net)).members[net.members.length]? = some { name } := List.getElem?_concat_length
  rw [join, hmembers, if_neg (by simpa using hnew), Network.listen, listenersOf_updateMember_self hmember]
  rfl

end Network

end CodecReport
