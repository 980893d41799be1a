import CodecReport.Proofs.Selection.Wiring

/-!
# Delivery among members that only accept

Where no member does more than take what is delivered to it, a broadcast comes down to one equation: every
member of the group but the source takes the selection, in the order of joining, and nothing else changes.
An announcement then passes through the listeners of its moment one after the other. Both leave the network
wired as it was, which is what lets a whole sequence of them be followed.
-/

namespace CodecReport.Network

/-- Every member only takes what is delivered to it. -/
def Accepting (net : Network) : Prop := ∀ member ∈ net.members, member.reaction = .accept

/-- No group is delivering. -/
def Idle (net : Network) : Prop := ∀ g, net.isBusy g = false

variable {net net' : Network}

theorem Accepting.of_sameWiring (hwiring : SameWiring net net') (h : Accepting net) : Accepting net' := by
  intro member hmember
  obtain ⟨m, hget⟩ := List.mem_iff_getElem?.mp hmember
  obtain ⟨old, hold, heq⟩ := hwiring.exists_member hget
  rw [Member.reaction_of_wiring heq]
  exact h old (List.mem_of_getElem? hold)

theorem Idle.of_sameWiring (hwiring : SameWiring net net') (h : Idle net) : Idle net' :=
  fun g => (hwiring.isBusy g).trans (h g)

/-- The members that a broadcast reaches: those of the group but the source. -/
def targetsOf (net : Network) (g : GroupId) (source : Option MemberId) : List MemberId :=
  (net.membersOf g).filter fun m => decide (source ≠ some m)

theorem runOn_deliver (fire : MemberId → Selection → Step Unit) (h : Accepting net) (m : MemberId)
    (selection : Selection) :
    Steps.runOn net (deliver fire m selection) = (.ok (), take m selection net) := by
  rw [deliver, Steps.runOn_bind_ok (Steps.runOn_modify net _), Steps.runOn_bind_ok (Steps.runOn_get _)]
  rcases hmember : (take m selection net).members[m]? with _ | member
  · rfl
  · have hreaction : member.reaction = .accept :=
      h.of_sameWiring (sameWiring_take net m selection) member (List.mem_of_getElem? hmember)
    simp only [hreaction]
    rfl

theorem runOn_deliverFrom (fire : MemberId → Selection → Step Unit) (g : GroupId)
    (source : Option MemberId) (selection : Selection) (count index : Nat) (h : Accepting net) :
    Steps.runOn net (deliverFrom fire g source selection count index) =
      let targets := (((net.membersOf g).drop index).take count).filter fun m => decide (source ≠ some m)
      (.ok targets.length, receive targets selection net) := by
  induction count generalizing index net with
  | zero => simp only [List.take_zero, List.filter_nil]; rfl
  | succ count ih =>
    rw [deliverFrom, Steps.runOn_bind_ok (Steps.runOn_get net)]
    rcases hmember : (net.membersOf g)[index]? with _ | m
    · have hdrop : (net.membersOf g).drop index = [] :=
        List.drop_eq_nil_of_le (List.getElem?_eq_none_iff.mp hmember)
      simp only [hdrop, List.take_nil, List.filter_nil]
      rfl
    · obtain ⟨hindex, hget⟩ := List.getElem?_eq_some_iff.mp hmember
      rw [List.drop_eq_getElem_cons hindex, hget, List.take_succ_cons]
      by_cases hsource : source = some m
      · have hskip : decide (source ≠ some m) = false := by simp [hsource]
        simp only [if_pos hsource, ih (index + 1) h, List.filter_cons, hskip, Bool.false_eq_true, if_false]
      · have hkeep : decide (source ≠ some m) = true := by simp [hsource]
        have hwiring := sameWiring_take net m selection
        simp only [if_neg hsource, List.filter_cons, hkeep, if_true]
        rw [Steps.runOn_bind_ok (runOn_deliver fire h m selection), Steps.runOn_bind,
          ih (index + 1) (h.of_sameWiring hwiring), hwiring.membersOf]
        rfl

theorem runOn_deliverAll (fire : MemberId → Selection → Step Unit) (g : GroupId)
    (source : Option MemberId) (selection : Selection) (h : Accepting net) :
    Steps.runOn net (deliverAll fire g source selection) =
      (.ok (net.targetsOf g source).length, receive (net.targetsOf g source) selection net) := by
  have hfrom : Steps.runOn net (deliverFrom fire g source selection (net.membersOf g).length 0) =
      (.ok (net.targetsOf g source).length, receive (net.targetsOf g source) selection net) := by
    rw [runOn_deliverFrom fire g source selection _ 0 h, List.drop_zero, List.take_length]
    rfl
  have hjoined : ((receive (net.targetsOf g source) selection net).membersOf g).drop
      (net.membersOf g).length = [] := by
    rw [(sameWiring_receive _ selection net).membersOf, List.drop_length]
  rw [deliverAll, Steps.runOn_bind_ok (Steps.runOn_get net), Steps.runOn_bind_ok hfrom,
    Steps.runOn_bind_ok (Steps.runOn_get _)]
  simp only [hjoined]
  rfl

/-- The network behind a broadcast within an idle group of members that accept. -/
def afterBroadcast (g : GroupId) (source : Option MemberId) (selection : Selection) (net : Network) :
    Network :=
  note (.closed g) (setBusy g false
    (receive (net.targetsOf g source) selection (note (.opened g) (setBusy g true net))))

theorem runOn_andThen {α : Type} {steps : Step α} {outcome : Except RelayFault α}
    (hrun : Steps.runOn net steps = (outcome, net')) (change : Network → Network) :
    Steps.runOn net (andThen steps change) = (outcome, change net') := by
  have hstate : StateT.run (ExceptT.run steps) net = (outcome, net') := hrun
  simp only [Steps.runOn, andThen, ExceptT.run_mk, StateT.run_bind, hstate]
  rfl

theorem runOn_broadcastBy (fire : MemberId → Selection → Step Unit) (g : GroupId)
    (source : Option MemberId) (selection : Selection) (h : Accepting net) (hidle : net.isBusy g = false) :
    Steps.runOn net (broadcastBy fire g source selection) =
      (.ok (net.targetsOf g source).length, afterBroadcast g source selection net) := by
  have hopened : Accepting (note (.opened g) (setBusy g true net)) := h
  have htargets : (note (.opened g) (setBusy g true net)).targetsOf g source = net.targetsOf g source := by
    have hmembers : (setBusy g true net).membersOf g = net.membersOf g := by
      simp only [membersOf, setBusy, updateGroup, List.getElem?_modify_eq]
      cases net.groups[g]? <;> rfl
    exact congrArg (List.filter _) hmembers
  rw [broadcastBy, Steps.runOn_bind_ok (Steps.runOn_get net), if_neg (by simp [hidle]),
    Steps.runOn_bind_ok (Steps.runOn_modify net _),
    runOn_andThen (runOn_deliverAll fire g source selection hopened), htargets]
  rfl

/-- A group that was idle is idle again behind its delivery: nothing is left of its having been busy. -/
theorem sameWiring_enclose {g : GroupId} (hidle : net.isBusy g = false)
    (hwiring : SameWiring (note (.opened g) (setBusy g true net)) net') :
    SameWiring net (note (.closed g) (setBusy g false net')) := by
  refine ⟨?_, hwiring.members⟩
  have hgroups : (setBusy g false net').groups =
      (net.groups.modify g fun group => { group with busy := true }).modify g
        fun group => { group with busy := false } := by
    rw [setBusy, updateGroup, hwiring.groups]
    rfl
  change (setBusy g false net').groups = net.groups
  rw [hgroups]
  refine List.ext_getElem? fun i => ?_
  simp only [List.getElem?_modify]
  by_cases hi : g = i
  · subst hi
    rw [isBusy] at hidle
    rcases hgroup : net.groups[g]? with _ | group
    · rfl
    · rw [hgroup] at hidle
      have hbusy : group.busy = false := hidle
      simp [← hbusy]
  · simp [hi]

theorem sameWiring_afterBroadcast (g : GroupId) (source : Option MemberId) (selection : Selection)
    (hidle : net.isBusy g = false) : SameWiring net (afterBroadcast g source selection net) :=
  sameWiring_enclose hidle (sameWiring_receive (net.targetsOf g source) selection _)

/-! ### Announcements -/

def afterHear (m : MemberId) (event : String) (selection : Selection) (net : Network) :
    Listener → Network
  | .record => note (.heard m event selection) net
  | .relay g => afterBroadcast g (some m) selection net

def afterAnnounce (m : MemberId) (event : String) (selection : Selection) (listeners : List Listener)
    (net : Network) : Network :=
  listeners.foldl (afterHear m event selection) net

theorem sameWiring_afterHear (m : MemberId) (event : String) (selection : Selection) (hidle : Idle net)
    (listener : Listener) : SameWiring net (afterHear m event selection net listener) := by
  cases listener with
  | record => exact sameWiring_note net _
  | relay g => exact sameWiring_afterBroadcast g (some m) selection (hidle g)

theorem sameWiring_afterAnnounce (m : MemberId) (event : String) (selection : Selection)
    (listeners : List Listener) (hidle : Idle net) :
    SameWiring net (afterAnnounce m event selection listeners net) := by
  induction listeners generalizing net with
  | nil => exact .refl net
  | cons listener rest ih =>
    have hwiring := sameWiring_afterHear m event selection hidle listener
    exact hwiring.trans (ih (hidle.of_sameWiring hwiring))

/-- Among idle groups whose members accept, every listener of an announcement gets its part. -/
theorem runOn_forM_hear (fire : MemberId → Selection → Step Unit) (m : MemberId) (event : String)
    (selection : Selection) (listeners : List Listener) (h : Accepting net) (hidle : Idle net) :
    Steps.runOn net (listeners.forM (hear (fun g => discard (broadcastBy fire g (some m) selection))
      m event selection)) = (.ok (), afterAnnounce m event selection listeners net) := by
  induction listeners generalizing net with
  | nil => rfl
  | cons listener rest ih =>
    have hfirst : Steps.runOn net (hear (fun g => discard (broadcastBy fire g (some m) selection))
        m event selection listener) = (.ok (), afterHear m event selection net listener) := by
      cases listener with
      | record => rfl
      | relay g =>
        change Steps.runOn net (Functor.mapConst () (broadcastBy fire g (some m) selection)) = _
        rw [LawfulFunctor.map_const, Function.comp_apply, Steps.runOn_map,
          runOn_broadcastBy fire g (some m) selection h (hidle g)]
        rfl
    have hwiring := sameWiring_afterHear m event selection hidle listener
    rw [List.forM, Steps.runOn_bind_ok hfirst]
    exact ih (h.of_sameWiring hwiring) (hidle.of_sameWiring hwiring)

theorem runOn_announce (event : String) (depth : Nat) (m : MemberId) (selection : Selection)
    (h : Accepting net) (hidle : Idle net) :
    Steps.runOn net (announce event (depth + 1) m selection) =
      (.ok (), afterAnnounce m event selection (net.listenersOf m event) net) := by
  rw [announce, Steps.runOn_bind_ok (Steps.runOn_get net)]
  exact runOn_forM_hear _ m event selection _ h hidle

def afterSelect (m : MemberId) (selection : Selection) (net : Network) : Network :=
  afterAnnounce m selectEvent selection (net.listenersOf m selectEvent) (setSelection m selection net)

theorem runOn_select (m : MemberId) (selection : Selection) (h : Accepting net) (hidle : Idle net)
    (hgroups : 0 < net.groups.length) :
    Steps.runOn net (select m selection) = (.ok (), afterSelect m selection net) := by
  have hwiring := sameWiring_setSelection net m selection
  obtain ⟨depth, hdepth⟩ := Nat.exists_eq_succ_of_ne_zero (Nat.ne_of_gt hgroups)
  have hlength : (setSelection m selection net).groups.length = depth + 1 := hdepth
  rw [select, Steps.runOn_bind_ok (Steps.runOn_modify net _), fire,
    Steps.runOn_bind_ok (Steps.runOn_get _), hlength,
    runOn_announce _ _ _ _ (h.of_sameWiring hwiring) (hidle.of_sameWiring hwiring), hwiring.listenersOf]
  rfl

theorem sameWiring_afterSelect (m : MemberId) (selection : Selection) (hidle : Idle net) :
    SameWiring net (afterSelect m selection net) :=
  (sameWiring_setSelection net m selection).trans
    (sameWiring_afterAnnounce m selectEvent selection _ (hidle.of_sameWiring (sameWiring_setSelection ..)))

/-- Listeners that only record leave every selection as it is. -/
theorem selectionAt_afterAnnounce_of_record (m : MemberId) (event : String) (selection : Selection)
    {listeners : List Listener} (hrecord : ∀ listener ∈ listeners, listener = .record) (net : Network)
    (other : MemberId) :
    (afterAnnounce m event selection listeners net).selectionAt other = net.selectionAt other := by
  induction listeners generalizing net with
  | nil => rfl
  | cons listener rest ih =>
    have hfirst : listener = .record := hrecord listener List.mem_cons_self
    subst hfirst
    exact ih (fun l hl => hrecord l (List.mem_cons_of_mem _ hl)) (note (.heard m event selection) net)

end CodecReport.Network
