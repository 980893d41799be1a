import CodecReport.Proofs.Selection.Moments
import Mathlib.Data.List.Induction

/-!
# Relaying in several groups

Plain members that belong to several groups: a member relays to each of its groups once, until a group that it
belongs to is dissolved. Dissolving takes all its listeners to selections away, those of its other groups too, and
there it is still listed: it is handed what others announce, but what it announces itself reaches nobody. Joining
again does not mend this while it is listed.
-/

namespace CodecReport.Network

variable {net behind : Network} {g h : GroupId} {m : MemberId} {selection : Selection}

/-! ### Networks of plain members -/

/-- Handing selections about leaves a network of members that only accept wired as it is. -/
theorem Unfolds.sameWiring {task : Task} {outcome : Except RelayFault Nat} (h : Unfolds net task outcome behind)
    (hnet : Accepting net) : SameWiring net behind := by
  induction h with
  | fire _ ih => exact ih hnet
  | told => exact .refl _
  | record _ ih => exact (sameWiring_note _ _).trans (ih (hnet.of_sameWiring (sameWiring_note _ _)))
  | relay _ _ ihfirst ihrest =>
    have hfirst := ihfirst hnet
    exact hfirst.trans (ihrest (hnet.of_sameWiring hfirst))
  | relayFault _ ih => exact ih hnet
  | dropped => exact .refl _
  | broadcast hidle _ ih => exact sameWiring_enclose hidle (ih hnet)
  | past => exact .refl _
  | own _ _ _ ih => exact ih hnet
  | reach _ _ _ _ ihfirst ihrest =>
    have hfirst := ihfirst hnet
    exact hfirst.trans (ihrest (hnet.of_sameWiring hfirst))
  | reachFault _ _ _ ih => exact ih hnet
  | accept => exact sameWiring_take _ _ _
  | echo htaken hreacts | refuse htaken hreacts | dissolve htaken hreacts | spawn _ htaken hreacts =>
    have hreaction := hnet.of_sameWiring (sameWiring_take _ _ _) _ (List.mem_of_getElem? htaken)
    rw [hreacts] at hreaction
    cases hreaction

namespace Accepting

theorem updateMember (hnet : Accepting net) (m : MemberId) {f : Member → Member}
    (hf : ∀ member, (f member).reaction = member.reaction) : Accepting (updateMember m f net) := by
  intro member hmember
  obtain ⟨i, hget⟩ := List.mem_iff_getElem?.mp hmember
  obtain ⟨old, hold, rfl⟩ := exists_of_updateMember hget
  have haccept := hnet old (List.mem_of_getElem? hold)
  split
  · exact (hf old).trans haccept
  · exact haccept

theorem join (hnet : Accepting net) (g : GroupId) (m : MemberId) : Accepting (join g m net) := by
  rw [Network.join]
  split
  · exact hnet
  · exact updateMember (by exact hnet) m fun _ => rfl

theorem dissolve (hnet : Accepting net) (g : GroupId) : Accepting (dissolve g net) := by
  rw [Network.dissolve]
  generalize net.membersOf g = gone
  change Accepting (gone.foldl (fun net m => unlisten m selectEvent net) net)
  induction gone generalizing net with
  | nil => exact hnet
  | cons m rest ih => exact ih (hnet.updateMember m fun _ => rfl)

end Accepting

theorem follow_singleton (net : Network) (action : Action) :
    follow net [action] = if action.Known net then net.after action else net := rfl

/-- Between actions on members that only accept. -/
structure Plain (net : Network) : Prop where
  settled : Settled net
  orderly : Orderly net
  accepting : Accepting net

namespace Plain

theorem fresh (groups : Nat) {crew : List (String × Reaction)} (hcrew : ∀ entry ∈ crew, entry.2 = .accept) :
    Plain (fresh groups crew) where
  settled := .fresh groups crew
  orderly := .fresh groups crew
  accepting member hmember := by
    obtain ⟨entry, hentry, rfl⟩ := List.mem_map.mp hmember
    exact hcrew entry hentry

theorem after (hnet : Plain net) {action : Action} (hknown : action.Known net) : Plain (net.after action) where
  settled := (hnet.settled.after hknown).1
  orderly := hnet.orderly.after hnet.settled.wired hknown
  accepting := by
    have hcomes := Action.comes_perform hnet.settled.wired hknown
    cases action with
    | join g m => exact hnet.accepting.join g m
    | dissolve g => exact hnet.accepting.dissolve g
    | broadcast g source selection =>
      exact hnet.accepting.of_sameWiring (Unfolds.sameWiring hcomes hnet.accepting)
    | fire m selection => exact hnet.accepting.of_sameWiring (Unfolds.sameWiring hcomes hnet.accepting)

theorem follow (hnet : Plain net) (actions : List Action) : Plain (follow net actions) :=
  follow_invariant (fun hplain hknown => hplain.after hknown) hnet actions

/-- Broadcasts and announcements change neither who belongs to a group nor who relays to it. -/
theorem sameWiring_after (hnet : Plain net) {action : Action} {task : Task} (hknown : action.Known net)
    (htask : action.task? = some task) : SameWiring net (net.after action) := by
  have hcomes := Action.comes_perform hnet.settled.wired hknown
  cases action with
  | join | dissolve => cases htask
  | broadcast | fire => exact Unfolds.sameWiring hcomes hnet.accepting

/-- Who is listed behind an action and was not before has joined, and relays to the group. -/
theorem joined (hnet : Plain net) {action : Action} (hbefore : m ∉ net.membersOf h)
    (hin : m ∈ (Network.follow net [action]).membersOf h) :
    action = .join h m ∧ .relay h ∈ (Network.follow net [action]).listenersOf m selectEvent := by
  rw [follow_singleton] at hin ⊢
  split at hin
  next hknown =>
    rw [if_pos hknown]
    cases action with
    | join g v =>
      change m ∈ (Network.join g v net).membersOf h at hin
      rw [mem_membersOf_join hknown.1] at hin
      rcases hin with hold | ⟨rfl, rfl⟩
      · exact absurd hold hbefore
      · refine ⟨rfl, ?_⟩
        change _ ∈ (Network.join g m net).listenersOf m selectEvent
        rw [listenersOf_join hknown.2, if_pos ⟨⟨rfl, rfl⟩, hbefore⟩]
        exact List.mem_append_right _ (List.mem_singleton_self _)
    | dissolve g =>
      change m ∈ (Network.dissolve g net).membersOf h at hin
      rw [membersOf_dissolve] at hin
      split at hin
      · cases hin
      · exact absurd hin hbefore
    | broadcast | fire =>
      rw [(hnet.sameWiring_after hknown rfl).membersOf] at hin
      exact absurd hin hbefore
  next => exact absurd hin hbefore

/-- Who is listed goes on relaying unless a group that it belongs to is dissolved. -/
theorem stays (hnet : Plain net) {action : Action} (hbefore : m ∈ net.membersOf h) :
    .relay h ∈ (Network.follow net [action]).listenersOf m selectEvent ↔
      .relay h ∈ net.listenersOf m selectEvent ∧ ∀ g, action = .dissolve g → m ∉ net.membersOf g := by
  rw [follow_singleton]
  split
  next hknown =>
    cases action with
    | join g v =>
      change _ ∈ (Network.join g v net).listenersOf m selectEvent ↔ _
      have hnone : .relay h ∉
          if (v = m ∧ selectEvent = selectEvent) ∧ v ∉ net.membersOf g then [Listener.relay g] else [] := by
        split
        next hjoins =>
          obtain ⟨⟨rfl, _⟩, hnew⟩ := hjoins
          intro hrelay
          obtain rfl := Listener.relay.inj (List.mem_singleton.mp hrelay)
          exact hnew hbefore
        next => exact List.not_mem_nil
      rw [listenersOf_join hknown.2, List.mem_append, or_iff_left hnone]
      simp
    | dissolve g =>
      change _ ∈ (Network.dissolve g net).listenersOf m selectEvent ↔ _
      rw [listenersOf_dissolve]
      by_cases hin : m ∈ net.membersOf g <;> simp [hin]
    | broadcast | fire =>
      rw [(hnet.sameWiring_after hknown rfl).listenersOf]
      simp
  next hunknown =>
    refine (and_iff_left ?_).symm
    rintro g rfl hin
    exact hunknown (lt_of_mem_membersOf hin)

end Plain

/-! ### Since a member joined -/

theorem follow_append (net : Network) (first second : List Action) :
    follow net (first ++ second) = follow (follow net first) second :=
  List.foldl_append

/-- No group that the member belongs to is dissolved on the way. -/
def Undisturbed (net : Network) (m : MemberId) (actions : List Action) : Prop :=
  ∀ before g after, actions = before ++ .dissolve g :: after → m ∉ (follow net before).membersOf g

theorem undisturbed_concat {actions : List Action} {action : Action} :
    Undisturbed net m (actions ++ [action]) ↔
      Undisturbed net m actions ∧ ∀ g, action = .dissolve g → m ∉ (follow net actions).membersOf g := by
  constructor
  · refine fun hall => ⟨fun before g after hsplit => hall before g (after ++ [action]) ?_, fun g heq => ?_⟩
    · rw [hsplit, List.append_assoc, List.cons_append]
    · exact hall actions g [] (by rw [heq])
  · rintro ⟨hall, hlast⟩ before g after hsplit
    rcases List.eq_nil_or_concat after with rfl | ⟨rest, last, rfl⟩
    · obtain ⟨rfl, heq⟩ := List.append_inj' hsplit rfl
      exact hlast g (List.head_eq_of_cons_eq heq)
    · refine hall before g rest ?_
      rw [List.concat_eq_append, ← List.cons_append, ← List.append_assoc] at hsplit
      exact (List.append_inj' hsplit rfl).1

/-- A past in which a member joined a group where it was not listed, and has been listed ever since. -/
structure Since (start : Network) (past : List Action) (h : GroupId) (m : MemberId) (before after : List Action) :
    Prop where
  split : past = before ++ .join h m :: after
  absent : m ∉ (follow start before).membersOf h
  listed : ∀ mid, mid <+: after → m ∈ (follow start (before ++ .join h m :: mid)).membersOf h

/-- By induction on the past from its end: the last action either is the joining, or one that keeps the member
listed. -/
theorem exists_since {start : Network} (hstart : Plain start) (hempty : m ∉ start.membersOf h)
    {past : List Action} (hin : m ∈ (follow start past).membersOf h) :
    ∃ before after, Since start past h m before after := by
  induction past using List.reverseRecOn with
  | nil => exact absurd hin hempty
  | append_singleton past action ih =>
    by_cases hbefore : m ∈ (follow start past).membersOf h
    · obtain ⟨before, after, hsince⟩ := ih hbefore
      refine ⟨before, after ++ [action], ?_, hsince.absent, fun mid hmid => ?_⟩
      · rw [hsince.split, List.append_assoc, List.cons_append]
      · rcases List.prefix_concat_iff.mp hmid with rfl | hearlier
        · rwa [← List.cons_append, ← List.append_assoc, ← hsince.split]
        · exact hsince.listed mid hearlier
    · have hjoins := hin
      rw [follow_append] at hjoins
      obtain ⟨rfl, _⟩ := (hstart.follow past).joined hbefore hjoins
      refine ⟨past, [], rfl, hbefore, fun mid hmid => ?_⟩
      rwa [List.prefix_nil.mp hmid]

/-- By induction on what was done since: joining sets up the relay, and every later action keeps it or takes it away
for good. -/
theorem Since.relays_iff {start : Network} (hstart : Plain start) {past before after : List Action}
    (h : Since start past g m before after) :
    .relay g ∈ (follow start past).listenersOf m selectEvent ↔
      Undisturbed (follow start (before ++ [.join g m])) m after := by
  induction after using List.reverseRecOn generalizing past with
  | nil =>
    obtain rfl := h.split
    refine iff_of_true ?_ fun early g late hsplit => ?_
    · have hin := h.listed [] (List.prefix_refl _)
      rw [follow_append] at hin ⊢
      exact ((hstart.follow before).joined h.absent hin).2
    · cases early <;> cases hsplit
  | append_singleton after action ih =>
    have hearlier : Since start (before ++ .join g m :: after) g m before after :=
      ⟨rfl, h.absent, fun mid hmid => h.listed mid (hmid.trans (List.prefix_append ..))⟩
    have hpast : past = before ++ .join g m :: after ++ [action] := by
      rw [h.split, List.append_assoc, List.cons_append]
    have hjoin : follow (follow start (before ++ [.join g m])) after =
        follow start (before ++ .join g m :: after) := by
      rw [← follow_append, List.append_assoc, List.singleton_append]
    rw [undisturbed_concat, hjoin, ← ih hearlier, hpast, follow_append]
    exact (hstart.follow _).stays (hearlier.listed after (List.prefix_refl _))

/-! ### What an announcement adds to the record -/

theorem history_receive (targets : List MemberId) (selection : Selection) (net : Network) :
    (receive targets selection net).history = net.history ++ targets.map (.delivered · selection) := by
  induction targets generalizing net with
  | nil => exact (List.append_nil _).symm
  | cons m rest ih =>
    have htake : (take m selection net).history = net.history ++ [.delivered m selection] := rfl
    rw [receive, List.foldl_cons, ← receive, ih, htake, List.append_assoc]
    rfl

/-- A listener's part in an announcement. -/
def partOf (net : Network) (m : MemberId) (event : String) (selection : Selection) : Listener → List Incident
  | .record => [.heard m event selection]
  | .relay g => .opened g :: (net.targetsOf g (some m)).map (.delivered · selection) ++ [.closed g]

theorem history_afterHear (net : Network) (m : MemberId) (event : String) (selection : Selection)
    (listener : Listener) : (afterHear m event selection net listener).history =
      net.history ++ partOf net m event selection listener := by
  cases listener with
  | record => rfl
  | relay g =>
    change (receive _ _ _).history ++ [.closed g] = _
    rw [history_receive]
    change net.history ++ [.opened g] ++ _ ++ [.closed g] = _
    simp only [partOf, List.append_assoc, List.cons_append, List.nil_append]

theorem history_afterAnnounce (hidle : Idle net) (m : MemberId) (event : String) (selection : Selection)
    (listeners : List Listener) : (afterAnnounce m event selection listeners net).history =
      net.history ++ listeners.flatMap (partOf net m event selection) := by
  induction listeners generalizing net with
  | nil => exact (List.append_nil _).symm
  | cons listener rest ih =>
    have hwiring := sameWiring_afterHear m event selection hidle listener
    have hparts : partOf (afterHear m event selection net listener) m event selection =
        partOf net m event selection := by
      funext other
      cases other with
      | record => rfl
      | relay g => rw [partOf, partOf, targetsOf, hwiring.membersOf, targetsOf]
    rw [afterAnnounce, List.foldl_cons, ← afterAnnounce, ih (hidle.of_sameWiring hwiring), hparts,
      history_afterHear, List.append_assoc, List.flatMap_cons]

theorem opened_mem_partOf {event : String} {listener : Listener} :
    .opened h ∈ partOf net m event selection listener ↔ listener = .relay h := by
  cases listener with
  | record => simp [partOf]
  | relay g => simp [partOf, eq_comm]

theorem opened_mem_parts {event : String} {listeners : List Listener} :
    .opened h ∈ listeners.flatMap (partOf net m event selection) ↔ .relay h ∈ listeners := by
  simp only [List.mem_flatMap, opened_mem_partOf, exists_eq_right]

theorem Plain.fire (hnet : Plain net) (hgroups : 0 < net.groups.length) (m : MemberId) (selection : Selection) :
    net.reply (.fire m selection) = .ok 0 ∧ (net.after (.fire m selection)).history =
      net.history ++ (net.listenersOf m selectEvent).flatMap (partOf net m selectEvent selection) := by
  obtain ⟨depth, hdepth⟩ := Nat.exists_eq_succ_of_ne_zero (Nat.ne_of_gt hgroups)
  have hrun : Steps.runOn net (Network.fire m selection) =
      (.ok (), afterAnnounce m selectEvent selection (net.listenersOf m selectEvent) net) := by
    rw [Network.fire, Steps.runOn_bind_ok (Steps.runOn_get net), hdepth]
    exact runOn_announce _ _ _ _ hnet.accepting hnet.settled.idle
  have hperform : Steps.runOn net (Action.perform (.fire m selection)) =
      (.ok 0, afterAnnounce m selectEvent selection (net.listenersOf m selectEvent) net) := by
    rw [Action.perform, Steps.runOn_bind_ok hrun]
    rfl
  rw [reply, Network.after, hperform]
  exact ⟨rfl, history_afterAnnounce hnet.settled.idle ..⟩

/-- A selection is passed on to a group: the group is opened once, and the others in it are handed the selection
in the order of joining. -/
def PassesOn (net : Network) (m : MemberId) (h : GroupId) (selection : Selection) (news : List Incident) : Prop :=
  ∃ earlier later, news = earlier ++ .opened h :: (net.targetsOf h (some m)).map (.delivered · selection) ++
    .closed h :: later ∧ .opened h ∉ earlier ∧ .opened h ∉ later

theorem Plain.fire_passesOn (hnet : Plain net) (hin : m ∈ net.membersOf h) (selection : Selection) :
    net.reply (.fire m selection) = .ok 0 ∧ ∃ news,
      (net.after (.fire m selection)).history = net.history ++ news ∧
        (.relay h ∈ net.listenersOf m selectEvent → PassesOn net m h selection news) ∧
        (.relay h ∉ net.listenersOf m selectEvent → .opened h ∉ news) := by
  have hg := lt_of_mem_membersOf hin
  obtain ⟨hreply, hhistory⟩ := hnet.fire (Nat.zero_lt_of_lt hg) m selection
  refine ⟨hreply, _, hhistory, fun hrelay => ?_, mt opened_mem_parts.mp⟩
  obtain ⟨before, after, hsplit⟩ := List.append_of_mem hrelay
  have honce := hnet.orderly.once m h
  rw [hsplit, List.count_append, List.count_cons_self] at honce
  have hother (listeners : List Listener) (hcount : listeners.count (.relay h) = 0) :
      .opened h ∉ listeners.flatMap (partOf net m selectEvent selection) :=
    mt opened_mem_parts.mp (List.count_eq_zero.mp hcount)
  refine ⟨_, _, ?_, hother before (by omega), hother after (by omega)⟩
  rw [hsplit, List.flatMap_append, List.flatMap_cons]
  simp only [partOf, List.append_assoc, List.cons_append, List.nil_append]

/-- Members that only accept join groups, and groups are dissolved and broadcast in, in any order. Whoever is
listed in a group joined it at some point and has been listed since. If no group that the member belongs to was
dissolved since then, what it announces opens the group once and is handed to each of the others there once.
Otherwise nothing that it announces is passed on to the group. -/
theorem follow_relays (groups : Nat) {crew : List (String × Reaction)}
    (hcrew : ∀ entry ∈ crew, entry.2 = .accept) (past : List Action) :
    let start := fresh groups crew
    let net := follow start past
    ∀ (h : GroupId) (m : MemberId), m ∈ net.membersOf h → ∀ selection,
      (net.membersOf h).Nodup ∧ net.reply (.fire m selection) = .ok 0 ∧
      ∃ news, (net.after (.fire m selection)).history = net.history ++ news ∧
        (∃ before after, Since start past h m before after) ∧
        ∀ before after, Since start past h m before after →
          (Undisturbed (follow start (before ++ [.join h m])) m after → PassesOn net m h selection news) ∧
          (¬ Undisturbed (follow start (before ++ [.join h m])) m after → .opened h ∉ news) := by
  intro start net h m hin selection
  have hstart : Plain start := .fresh groups hcrew
  have hempty : m ∉ start.membersOf h := by
    rw [membersOf_fresh]
    exact List.not_mem_nil
  have hnet : Plain net := hstart.follow past
  obtain ⟨hreply, news, hhistory, hpasses, hdrops⟩ := hnet.fire_passesOn hin selection
  refine ⟨hnet.orderly.nodup h, hreply, news, hhistory, exists_since hstart hempty hin,
    fun before after hsince => ⟨fun hundisturbed => hpasses ?_, fun hdisturbed => hdrops fun hrelay => ?_⟩⟩
  · exact (hsince.relays_iff hstart).mpr hundisturbed
  · exact hdisturbed ((hsince.relays_iff hstart).mp hrelay)

/-- A member whose first group was dissolved before it joined the other one relays there. -/
theorem follow_relays_rejoined :
    let net := follow (fresh 2 [("a", .accept), ("b", .accept)])
      [.join 0 0, .join 1 1, .dissolve 0, .join 1 0, .broadcast 1 none []]
    net.membersOf 1 = [1, 0] ∧ ∃ news, (net.after (.fire 0 [⟨some 5, none⟩])).history = net.history ++ news ∧
      PassesOn net 0 1 [⟨some 5, none⟩] news := by
  intro net
  have hcrew : ∀ entry ∈ [("a", Reaction.accept), ("b", .accept)], entry.2 = .accept := by decide
  obtain ⟨_, _, news, hhistory, _, hrelays⟩ :=
    follow_relays 2 hcrew
      [.join 0 0, .join 1 1, .dissolve 0, .join 1 0, .broadcast 1 none []] 1 0 (by decide) [⟨some 5, none⟩]
  refine ⟨rfl, news, hhistory, (hrelays [.join 0 0, .join 1 1, .dissolve 0] [.broadcast 1 none []] ?_).1 ?_⟩
  · refine ⟨rfl, by decide, fun mid hmid => ?_⟩
    have hmid : mid <+: [] ++ [.broadcast 1 none []] := hmid
    rcases List.prefix_concat_iff.mp hmid with rfl | hnone
    · decide
    · rw [List.prefix_nil.mp hnone]
      decide
  · intro before g after hsplit
    cases before with
    | nil => cases hsplit
    | cons first rest => cases rest <;> cases hsplit

/-- A member of two groups, one of which is dissolved: in the other one it is still listed, and what it announces
reaches nobody. -/
theorem follow_relays_not_always :
    let net := follow (fresh 2 [("a", .accept), ("b", .accept)])
      [.join 0 0, .join 1 0, .join 1 1, .dissolve 0]
    net.membersOf 1 = [0, 1] ∧ net.reply (.fire 0 [⟨some 5, none⟩]) = .ok 0 ∧
      (net.after (.fire 0 [⟨some 5, none⟩])).history = net.history :=
  ⟨rfl, rfl, rfl⟩

end CodecReport.Network
