import CodecReport.Proofs.Selection.Moments

/-!
# Relaying once

Members of a group that announce again what they are told, and members that refuse it, as long as they belong
to no other group: a broadcast hands the selection to each of them once, in the order of joining, up to the
first one that refuses. What they announce meanwhile comes back to the group that is delivering, and is dropped
there. `handOver` says what a broadcast then comes to, without any of the exchange that leads there.
-/

namespace CodecReport

/-- Who was handed which selection, if anyone was. -/
def Incident.delivery? : Incident → Option (MemberId × Selection)
  | .delivered m selection => some (m, selection)
  | _ => none

namespace Network

variable {net mid behind : Network} {g : GroupId} {m : MemberId} {selection : Selection}
  {source : Option MemberId} {targets more : List MemberId}

/-- The name with which a member refuses what it is handed. -/
def refusal? (net : Network) (m : MemberId) : Option String :=
  match net.members[m]? with
  | some member => if member.reaction = .refuse then some member.name else none
  | none => none

theorem refusal?_eq {member : Member} (hmember : net.members[m]? = some member) :
    net.refusal? m = if member.reaction = .refuse then some member.name else none := by
  rw [refusal?, hmember]

theorem SameWiring.refusal? (h : SameWiring net behind) : behind.refusal? = net.refusal? := by
  funext m
  rcases hmember : behind.members[m]? with _ | member
  · have hgone : net.members[m]? = none := by
      rw [List.getElem?_eq_none_iff] at hmember ⊢
      rwa [h.length] at hmember
    rw [Network.refusal?, Network.refusal?, hmember, hgone]
  · obtain ⟨old, hold, hwiring⟩ := h.exists_member hmember
    rw [refusal?_eq hmember, refusal?_eq hold, Member.reaction_of_wiring hwiring, Member.name_of_wiring hwiring]

/-! ### What a broadcast comes to -/

/-- Members that are handed a selection in order, up to one that refuses: who is handed it, and how many took it
or who refused. -/
def handOver (refusal? : MemberId → Option String) : List MemberId → List MemberId × Except RelayFault Nat
  | [] => ([], .ok 0)
  | m :: rest =>
    match refusal? m with
    | some name => ([m], .error (.refused name))
    | none => (m :: (handOver refusal? rest).1, (handOver refusal? rest).2.map (· + 1))

theorem handOver_cons_refusing {refusal? : MemberId → Option String} {name : String}
    (hm : refusal? m = some name) (rest : List MemberId) :
    handOver refusal? (m :: rest) = ([m], .error (.refused name)) := by
  simp only [handOver, hm]

theorem handOver_cons_taking {refusal? : MemberId → Option String} (hm : refusal? m = none)
    (rest : List MemberId) :
    handOver refusal? (m :: rest) = (m :: (handOver refusal? rest).1, (handOver refusal? rest).2.map (· + 1)) := by
  simp only [handOver, hm]

theorem handOver_of_taking {refusal? : MemberId → Option String} (h : ∀ m ∈ targets, refusal? m = none) :
    handOver refusal? targets = (targets, .ok targets.length) := by
  induction targets with
  | nil => rfl
  | cons m rest ih =>
    rw [handOver_cons_taking (h m List.mem_cons_self), ih fun m hm => h m (List.mem_cons_of_mem _ hm)]
    rfl

theorem handOver_of_refusing {refusal? : MemberId → Option String} {name : String} (after : List MemberId)
    (h : ∀ m ∈ targets, refusal? m = none) (hm : refusal? m = some name) :
    handOver refusal? (targets ++ m :: after) = (targets ++ [m], .error (.refused name)) := by
  induction targets with
  | nil => exact handOver_cons_refusing hm after
  | cons first rest ih =>
    rw [List.cons_append, handOver_cons_taking (h first List.mem_cons_self),
      ih fun m hm => h m (List.mem_cons_of_mem _ hm)]
    rfl

/-- Between two moments the given members were handed the selection, in order, and no group was opened. -/
structure Hands (selection : Selection) (targets : List MemberId) (net behind : Network) : Prop where
  wiring : SameWiring net behind
  history : ∃ incidents, behind.history = net.history ++ incidents ∧
    incidents.filterMap Incident.delivery? = targets.map (·, selection) ∧ ∀ g, .opened g ∉ incidents

namespace Hands

theorem nobody (net : Network) : Hands selection [] net net :=
  ⟨.refl net, [], (List.append_nil _).symm, rfl, fun _ => List.not_mem_nil⟩

theorem trans (hfirst : Hands selection targets net mid) (hsecond : Hands selection more mid behind) :
    Hands selection (targets ++ more) net behind := by
  refine ⟨hfirst.wiring.trans hsecond.wiring, ?_⟩
  obtain ⟨before, hbefore, htaken, hnone⟩ := hfirst.history
  obtain ⟨after, hafter, htaken', hnone'⟩ := hsecond.history
  refine ⟨before ++ after, ?_, ?_, fun g hopened => ?_⟩
  · rw [hafter, hbefore, List.append_assoc]
  · rw [List.filterMap_append, htaken, htaken', List.map_append]
  · rcases List.mem_append.mp hopened with h | h
    · exact hnone g h
    · exact hnone' g h

theorem heard (net : Network) (m : MemberId) (event : String) (heard : Selection) :
    Hands selection [] net (note (.heard m event heard) net) :=
  ⟨sameWiring_note net _, [.heard m event heard], rfl, rfl, fun _ hopened => nomatch List.mem_singleton.mp hopened⟩

theorem taken (net : Network) (m : MemberId) (selection : Selection) :
    Hands selection [m] net (take m selection net) :=
  ⟨sameWiring_take net m selection, [.delivered m selection], rfl, rfl,
    fun _ hopened => nomatch List.mem_singleton.mp hopened⟩

end Hands

/-! ### Within a group that is delivering -/

/-- A member takes what it is handed, announces it again, or refuses it. -/
def Tame (net : Network) (m : MemberId) : Prop :=
  ∀ member, net.members[m]? = some member →
    member.reaction = .accept ∨ member.reaction = .echo ∨ member.reaction = .refuse

/-- A group is delivering to members that relay to it alone. -/
structure Confined (g : GroupId) (net : Network) : Prop where
  busy : net.isBusy g = true
  tame : ∀ m ∈ net.membersOf g, Tame net m
  relays : ∀ m ∈ net.membersOf g, ∀ h, .relay h ∈ net.listenersOf m selectEvent → h = g

/-- A task is about members of a group, or about the group itself. -/
def Concerns (g : GroupId) (net : Network) : Task → Prop
  | .fire m _ | .deliver m _ => m ∈ net.membersOf g
  | .tell _ _ listeners => ∀ h, .relay h ∈ listeners → h = g
  | .broadcast h _ _ | .walk h _ _ _ => h = g

theorem Confined.of_sameWiring (h : Confined g net) (hwiring : SameWiring net behind) : Confined g behind where
  busy := (hwiring.isBusy g).trans h.busy
  tame m hm member hmember := by
    rw [hwiring.membersOf] at hm
    obtain ⟨old, hold, heq⟩ := hwiring.exists_member hmember
    rw [Member.reaction_of_wiring heq]
    exact h.tame m hm old hold
  relays m hm other hrelay := by
    rw [hwiring.membersOf] at hm
    rw [hwiring.listenersOf] at hrelay
    exact h.relays m hm other hrelay

/-- The members that are left to be reached from a position on. -/
def targetsFrom (net : Network) (g : GroupId) (source : Option MemberId) (index : Nat) : List MemberId :=
  ((net.membersOf g).drop index).filter fun m => decide (source ≠ some m)

theorem SameWiring.targetsFrom (h : SameWiring net behind) (g : GroupId) (source : Option MemberId) (index : Nat) :
    behind.targetsFrom g source index = net.targetsFrom g source index := by
  rw [Network.targetsFrom, Network.targetsFrom, h.membersOf]

theorem targetsFrom_past {index : Nat} (hend : (net.membersOf g)[index]? = none) :
    net.targetsFrom g source index = [] := by
  rw [targetsFrom, List.drop_eq_nil_iff.mpr (List.getElem?_eq_none_iff.mp hend), List.filter_nil]

theorem targetsFrom_next {index : Nat} (hnext : (net.membersOf g)[index]? = some m) :
    net.targetsFrom g source index =
      if source = some m then net.targetsFrom g source (index + 1)
      else m :: net.targetsFrom g source (index + 1) := by
  obtain ⟨hindex, hget⟩ := List.getElem?_eq_some_iff.mp hnext
  rw [targetsFrom, List.drop_eq_getElem_cons hindex, hget, List.filter_cons]
  by_cases hsource : source = some m
  · rw [if_neg (by simp [hsource]), if_pos hsource, targetsFrom]
  · rw [if_pos (by simp [hsource]), if_neg hsource, targetsFrom]

/-- What a task comes to while the group is delivering: announcements and broadcasts to nothing, delivery to its
member being handed the selection. -/
def ComesTo (net : Network) (outcome : Except RelayFault Nat) (behind : Network) : Task → Prop
  | .fire _ selection | .tell _ selection _ | .broadcast _ _ selection =>
    outcome = .ok 0 ∧ Hands selection [] net behind
  | .deliver m selection =>
    outcome = (net.refusal? m).elim (.ok 0) (fun name => .error (.refused name)) ∧
      Hands selection [m] net behind
  | .walk g source selection index =>
    outcome = (handOver net.refusal? (net.targetsFrom g source index)).2 ∧
      Hands selection (handOver net.refusal? (net.targetsFrom g source index)).1 net behind

theorem refusal?_of_taken {member : Member} (htaken : (take m selection net).members[m]? = some member) :
    net.refusal? m = if member.reaction = .refuse then some member.name else none := by
  rw [← (sameWiring_take net m selection).refusal?, refusal?_eq htaken]

theorem Confined.take (h : Confined g net) (hm : m ∈ net.membersOf g) (selection : Selection) :
    Confined g (take m selection net) ∧ m ∈ (Network.take m selection net).membersOf g := by
  have hwiring := sameWiring_take net m selection
  refine ⟨h.of_sameWiring hwiring, ?_⟩
  rwa [hwiring.membersOf]

theorem Confined.tame_of_taken (h : Confined g net) (hm : m ∈ net.membersOf g) {member : Member}
    (htaken : (Network.take m selection net).members[m]? = some member) :
    member.reaction = .accept ∨ member.reaction = .echo ∨ member.reaction = .refuse := by
  obtain ⟨htakenNet, hstill⟩ := h.take hm selection
  exact htakenNet.tame m hstill member htaken

theorem taking_of_ok {done : Nat} {refusal? : Option String}
    (h : .ok done = refusal?.elim (.ok 0 : Except RelayFault Nat) (fun name => .error (.refused name))) :
    refusal? = none := by
  cases refusal? with
  | none => rfl
  | some name => cases h

theorem refusing_of_error {fault : RelayFault} {refusal? : Option String}
    (h : .error fault = refusal?.elim (.ok 0 : Except RelayFault Nat) (fun name => .error (.refused name))) :
    ∃ name, refusal? = some name ∧ fault = .refused name := by
  cases refusal? with
  | none => cases h
  | some name => exact ⟨name, rfl, Except.error.inj h⟩

/-- By induction on how the task unfolds; the group stays busy and wired as it was, which every later part of the
exchange relies on. -/
theorem Unfolds.comesTo {task : Task} {outcome : Except RelayFault Nat} (h : Unfolds net task outcome behind)
    (hnet : Confined g net) (htask : Concerns g net task) : ComesTo net outcome behind task := by
  induction h with
  | fire _ ih => exact ih hnet (hnet.relays _ htask)
  | told => exact ⟨rfl, .nobody _⟩
  | record _ ih =>
    obtain ⟨hok, hands⟩ := ih (hnet.of_sameWiring (sameWiring_note _ _)) fun h hrelay =>
      htask h (List.mem_cons_of_mem _ hrelay)
    exact ⟨hok, (Hands.heard _ _ _ _).trans hands⟩
  | relay _ _ ihfirst ihrest =>
    obtain ⟨_, hfirst⟩ := ihfirst hnet (htask _ List.mem_cons_self)
    obtain ⟨hok, hrest⟩ := ihrest (hnet.of_sameWiring hfirst.wiring) fun h hrelay =>
      htask h (List.mem_cons_of_mem _ hrelay)
    exact ⟨hok, hfirst.trans hrest⟩
  | relayFault _ ih =>
    obtain ⟨hok, _⟩ := ih hnet (htask _ List.mem_cons_self)
    cases hok
  | dropped => exact ⟨rfl, .nobody _⟩
  | broadcast hidle =>
    obtain rfl := htask
    rw [hnet.busy] at hidle
    cases hidle
  | past hend =>
    rw [ComesTo, targetsFrom_past hend]
    exact ⟨rfl, .nobody _⟩
  | own hnext hsource _ ih =>
    rw [ComesTo, targetsFrom_next hnext, if_pos hsource]
    exact ih hnet htask
  | reach hnext hother _ _ ihfirst ihrest =>
    obtain rfl := htask
    obtain ⟨houtcome, hfirst⟩ := ihfirst hnet (List.mem_of_getElem? hnext)
    obtain ⟨rfl, hrest⟩ := ihrest (hnet.of_sameWiring hfirst.wiring) rfl
    have htakes := taking_of_ok houtcome
    rw [hfirst.wiring.refusal?, hfirst.wiring.targetsFrom] at hrest ⊢
    rw [ComesTo, targetsFrom_next hnext, if_neg hother, handOver_cons_taking htakes]
    exact ⟨rfl, hfirst.trans hrest⟩
  | reachFault hnext hother _ ih =>
    obtain rfl := htask
    obtain ⟨houtcome, hands⟩ := ih hnet (List.mem_of_getElem? hnext)
    obtain ⟨name, hrefuses, rfl⟩ := refusing_of_error houtcome
    rw [ComesTo, targetsFrom_next hnext, if_neg hother, handOver_cons_refusing hrefuses]
    exact ⟨rfl, hands⟩
  | accept htaken hreacts | refuse htaken hreacts =>
    rw [ComesTo, refusal?_of_taken htaken, hreacts]
    exact ⟨rfl, .taken _ _ _⟩
  | echo htaken hreacts _ ih =>
    obtain ⟨htakenNet, hstill⟩ := hnet.take htask _
    obtain ⟨rfl, hands⟩ := ih htakenNet hstill
    rw [ComesTo, refusal?_of_taken htaken, hreacts]
    exact ⟨rfl, (Hands.taken _ _ _).trans hands⟩
  | dissolve htaken hreacts | spawn _ htaken hreacts =>
    have htame := hnet.tame_of_taken htask htaken
    simp [hreacts] at htame

/-- What is begun within the group's exchange is about the group again, and finds it delivering. -/
theorem Begins.confined {moment next : Moment} (h : Begins moment next)
    (hnow : Confined g moment.net ∧ Concerns g moment.net moment.task) :
    Confined g next.net ∧ Concerns g next.net next.task := by
  obtain ⟨hnet, htask⟩ := hnow
  cases h with
  | fire => exact ⟨hnet, hnet.relays _ htask⟩
  | record =>
    exact ⟨hnet.of_sameWiring (sameWiring_note _ _), fun h hrelay => htask h (List.mem_cons_of_mem _ hrelay)⟩
  | relay => exact ⟨hnet, htask _ List.mem_cons_self⟩
  | relayed first =>
    obtain ⟨_, hands⟩ := first.comesTo hnet (htask _ List.mem_cons_self)
    exact ⟨hnet.of_sameWiring hands.wiring, fun h hrelay => htask h (List.mem_cons_of_mem _ hrelay)⟩
  | broadcast hidle =>
    obtain rfl := htask
    rw [hnet.busy] at hidle
    cases hidle
  | own => exact ⟨hnet, htask⟩
  | reach hnext =>
    obtain rfl := htask
    exact ⟨hnet, List.mem_of_getElem? hnext⟩
  | reached hnext _ first =>
    obtain rfl := htask
    obtain ⟨_, hands⟩ := first.comesTo hnet (List.mem_of_getElem? hnext)
    exact ⟨hnet.of_sameWiring hands.wiring, rfl⟩
  | echo => exact hnet.take htask _

/-! ### A broadcast -/

theorem confined_opened (horderly : Orderly net) (hg : g < net.groups.length)
    (htame : ∀ m ∈ net.membersOf g, Tame net m)
    (hsole : ∀ m ∈ net.membersOf g, ∀ h, m ∈ net.membersOf h → h = g) : Confined g (opened g net) := by
  have hmembers : (opened g net).membersOf g = net.membersOf g := membersOf_setBusy g g true net
  refine ⟨isBusy_setBusy_self hg true, fun m hm => ?_, fun m hm h hrelay => ?_⟩
  · rw [hmembers] at hm
    exact htame m hm
  · rw [hmembers] at hm
    exact hsole m hm h (horderly.relays hrelay).2

/-- A broadcast within an idle group opens it, hands the selection over, and closes it. -/
theorem Unfolds.handsOver {outcome : Except RelayFault Nat}
    (h : Unfolds net (.broadcast g source selection) outcome behind) (hidle : net.isBusy g = false)
    (hconfined : Confined g (opened g net)) :
    outcome = (handOver net.refusal? (net.targetsOf g source)).2 ∧ SameWiring net behind ∧
      ∃ incidents, behind.history = net.history ++ .opened g :: incidents ++ [.closed g] ∧
        incidents.filterMap Incident.delivery? =
          (handOver net.refusal? (net.targetsOf g source)).1.map (·, selection) ∧
        ∀ h, .opened h ∉ incidents := by
  cases h with
  | dropped hbusy =>
    rw [hidle] at hbusy
    cases hbusy
  | @broadcast _ mid _ _ _ _ _ walk =>
    have htargets : (opened g net).targetsFrom g source 0 = net.targetsOf g source := by
      rw [targetsFrom, List.drop_zero]
      exact congrArg (List.filter _) (membersOf_setBusy g g true net)
    have hrefusal : (opened g net).refusal? = net.refusal? := rfl
    obtain ⟨houtcome, hands⟩ := walk.comesTo hconfined rfl
    rw [htargets, hrefusal] at houtcome hands
    obtain ⟨incidents, hhistory, htaken, hnone⟩ := hands.history
    refine ⟨houtcome, sameWiring_enclose hidle hands.wiring, incidents, ?_, htaken, hnone⟩
    change mid.history ++ [.closed g] = _
    rw [hhistory]
    change net.history ++ [.opened g] ++ incidents ++ [.closed g] = _
    rw [List.append_assoc net.history, List.singleton_append]

/-- Whatever is broadcast within the exchange is dropped. -/
theorem Within.dropped (hconfined : Confined g (opened g net)) {moment : Moment}
    (h : Within ⟨net, .broadcast g source selection⟩ moment) {asked : GroupId} {asking : Option MemberId}
    {news : Selection} (htask : moment.task = .broadcast asked asking news) :
    Unfolds moment.net moment.task (.ok 0) moment.net := by
  have hinside : Confined g moment.net ∧ Concerns g moment.net moment.task := by
    clear htask
    induction h with
    | single hfirst =>
      cases hfirst with
      | broadcast => exact ⟨hconfined, rfl⟩
    | tail _ hlast ih => exact hlast.confined ih
  obtain ⟨hnet, hconcerns⟩ := hinside
  rw [htask] at hconcerns ⊢
  obtain rfl := hconcerns
  exact .dropped hnet.busy

/-- A broadcast within an idle group, whatever else goes on in the network: the members react by taking the
selection, by announcing it again or by refusing it, and belong to no other group. Every member but the source is
handed the selection once, in the order of joining. Everything that is broadcast meanwhile comes to nothing. The
reply counts the members; where one refuses, nobody behind it is handed anything, and the broadcast fails with its
refusal. -/
theorem broadcast_once (harises : Arises net) (hknown : (Action.broadcast g source selection).Known net)
    (hidle : net.isBusy g = false) (htame : ∀ m ∈ net.membersOf g, Tame net m)
    (hsole : ∀ m ∈ net.membersOf g, ∀ h, m ∈ net.membersOf h → h = g) :
    let others := net.targetsOf g source
    let reply := net.reply (.broadcast g source selection)
    let behind := net.after (.broadcast g source selection)
    others.Nodup ∧ others.Sublist (net.membersOf g) ∧
    (∀ m, m ∈ others ↔ m ∈ net.membersOf g ∧ source ≠ some m) ∧
    SameWiring net behind ∧
    (∀ moment, Within ⟨net, .broadcast g source selection⟩ moment → ∀ h asking news,
      moment.task = .broadcast h asking news → Unfolds moment.net moment.task (.ok 0) moment.net) ∧
    ∃ incidents, behind.history = net.history ++ .opened g :: incidents ++ [.closed g] ∧
      (∀ h, .opened h ∉ incidents) ∧
      ((∀ m ∈ others, net.refusal? m = none) →
        reply = .ok others.length ∧ incidents.filterMap Incident.delivery? = others.map (·, selection)) ∧
      ∀ before m after name, others = before ++ m :: after → (∀ m ∈ before, net.refusal? m = none) →
        net.refusal? m = some name → reply = .error (.refused name) ∧
          incidents.filterMap Incident.delivery? = (before ++ [m]).map (·, selection) := by
  intro others reply behind
  have horderly := harises.orderly
  have hconfined := confined_opened horderly hknown.1 htame hsole
  refine ⟨(horderly.nodup g).filter _, List.filter_sublist, fun m => ?_, ?_⟩
  · simp only [others, targetsOf, List.mem_filter, decide_eq_true_eq]
  · have hcomes : Unfolds net (.broadcast g source selection) reply behind :=
      Action.comes_perform harises.wired hknown
    obtain ⟨hreply, hwiring, incidents, hhistory, htaken, hnone⟩ := hcomes.handsOver hidle hconfined
    refine ⟨hwiring, fun moment hwithin asked asking news => hwithin.dropped hconfined, incidents, hhistory, hnone,
      fun htakes => ?_, fun before m after name hothers htakes hrefuses => ?_⟩
    · rw [handOver_of_taking htakes] at hreply htaken
      exact ⟨hreply, htaken⟩
    · change net.targetsOf g source = _ at hothers
      rw [hothers, handOver_of_refusing after htakes hrefuses] at hreply htaken
      exact ⟨hreply, htaken⟩

/-- The member behind the one that refuses is handed nothing, and neither is the source. -/
theorem broadcast_once_refused :
    let net := follow (fresh 1 [("a", .accept), ("b", .echo), ("c", .refuse), ("d", .echo)])
      [.join 0 0, .join 0 1, .join 0 2, .join 0 3]
    (Action.broadcast 0 (some 0) [⟨some 5, none⟩]).Known net ∧ net.isBusy 0 = false ∧
      net.reply (.broadcast 0 (some 0) [⟨some 5, none⟩]) = .error (.refused "c") ∧
      ∃ incidents, (net.after (.broadcast 0 (some 0) [⟨some 5, none⟩])).history =
          net.history ++ .opened 0 :: incidents ++ [.closed 0] ∧
        incidents.filterMap Incident.delivery? = [(1, [⟨some 5, none⟩]), (2, [⟨some 5, none⟩])] := by
  intro net
  have harises : Arises net := (Arises.fresh _ _).follow _
  have hknown : (Action.broadcast 0 (some 0) [⟨some 5, none⟩]).Known net := by decide
  have hreacts : ∀ member ∈ net.members,
      member.reaction = .accept ∨ member.reaction = .echo ∨ member.reaction = .refuse := by
    decide
  have htame : ∀ m ∈ net.membersOf 0, Tame net m :=
    fun _ _ member hmember => hreacts member (List.mem_of_getElem? hmember)
  have hsole : ∀ m ∈ net.membersOf 0, ∀ h, m ∈ net.membersOf h → h = 0 := by
    intro m _ h hm
    cases h with
    | zero => rfl
    | succ h => cases hm
  obtain ⟨_, _, _, _, _, incidents, hhistory, _, _, hrefused⟩ :=
    broadcast_once harises hknown rfl htame hsole
  obtain ⟨hreply, htaken⟩ := hrefused [1] 2 [3] "c" rfl (by decide) rfl
  exact ⟨hknown, rfl, hreply, incidents, hhistory, htaken⟩

end Network

end CodecReport
