import RoboGuide.Proofs.RuntimeRestart

/-!
# `RoboGuide.Proofs.PeerChannels`: what becomes of a peer channel

A closed channel is meant to stay closed, and a ready one to rest on current acknowledgements.
`ChannelChange` lists what a call does to one channel; both questions are decided from it.
Closing one channel keeps its acknowledgements, and the fence of a Node does not look whether
a channel is closed. An acknowledgement is compared with the one it replaces only, and only
when both are of one session: within a session the retained one is the last by that check, and
`Orderly` asks for order where there is none to compare with.
-/

namespace RoboGuide.Runtime

open Domain Lib Fallible RuntimePeerChannel List Option OrdSet
open RuntimeExecutionManager

/-! ### What a call does to one channel -/

/-- What a call does to a channel. -/
inductive ChannelChange (key : CoordinationKey) (c : RuntimePeerChannel) :
    RuntimeCall → RuntimePeerChannel → Prop where
  | kept {call : RuntimeCall} (hobserve : ∀ e, call ≠ .observePeerChannelReadiness e)
      (hfence : ∀ node, call ≠ .fencePeerChannelsForNode node) : ChannelChange key c call c
  | expired {now} : ChannelChange key c (.refreshPeerChannelDeadlines now) (c.expire now)
  /-- Evidence for another channel, or refused. -/
  | refused {e} (h : key = toLex (e.groupId, e.contextId) → e.receivedAt < e.expiresAt →
        (c.expire e.receivedAt).lifecycle ≠ .closed → e.contextRoleId ∈ c.peers →
        ∃ err, (c.expire e.receivedAt).observe e = .error err) :
      ChannelChange key c (.observePeerChannelReadiness e) (c.expire e.receivedAt)
  | observed {e c'} (hkey : key = toLex (e.groupId, e.contextId))
      (hopen : (c.expire e.receivedAt).lifecycle ≠ .closed) (hpeer : e.contextRoleId ∈ c.peers)
      (hobserve : (c.expire e.receivedAt).observe e = .ok c') :
      ChannelChange key c (.observePeerChannelReadiness e) c'
  | nodeFenced {node} : ChannelChange key c (.fencePeerChannelsForNode node) (c.fenceNode node)
  | fenced {group context} (hopen : c.lifecycle ≠ .closed) :
      ChannelChange key c (.fencePeerChannel group context) { c with lifecycle := .fenced }
  | closed {group context} :
      ChannelChange key c (.closePeerChannel group context) { c with lifecycle := .closed }
  | cleared {group} : ChannelChange key c (.closePeerChannelsForGroup group)
      { c with lifecycle := .closed, readiness := [] }
  | restarted : ChannelChange key c .restart c.restored

/-- A channel is declared once and then changes. -/
inductive ChannelStep (key : CoordinationKey) (call : RuntimeCall) :
    Option RuntimePeerChannel → Option RuntimePeerChannel → Prop where
  | absent : ChannelStep key call none none
  | declared {group d c} (hkey : key = toLex (group, d.context.contextId))
      (hdeclared : declaredChannel group d = some c) : ChannelStep key call none (some c)
  | changed {c c'} (h : ChannelChange key c call c') : ChannelStep key call (some c) (some c')

/-- A channel is stored under its Group and Context. -/
def ChannelsKeyed (m : RuntimeExecutionManager) : Prop :=
  ∀ key c, m.peerChannels.get? key = some c → toLex (c.groupId, c.contextId) = key

section

variable {m m' : RuntimeExecutionManager} {key : CoordinationKey} {call : RuntimeCall}
  {c c' : RuntimePeerChannel}

lemma ChannelStep.map {o : Option RuntimePeerChannel}
    {f : RuntimePeerChannel → RuntimePeerChannel}
    (h : ∀ c, ChannelChange key c call (f c)) : ChannelStep key call o (o.map f) := by
  cases o with
  | none => exact .absent
  | some c => exact .changed (h c)

lemma restore_channels (hkeyed : ChannelsKeyed m) (h : restore m.checkpoint = .ok m') :
    m'.peerChannels = m.peerChannels.mapValues fun _ c => c.restored := by
  obtain ⟨_, hassembled, rfl, -⟩ := restore_ok h
  obtain ⟨-, -, _, _, _, _, _, _, -, hmaps, -, -, -, rfl⟩ := rebuild_ok hassembled
  rw [restoreCoordinationMaps] at hmaps
  simp only [bind_eq_ok, pure_eq_ok, Prod.mk.injEq] at hmaps
  obtain ⟨_, -, read, hread, -, rfl⟩ := hmaps
  obtain rfl : read = m.peerChannels := eq_of_collect_entries (OrdMap.values_map_key hkeyed) hread
  exact congrArg (·.peerChannels) (refreshed_refreshKeys _ _).coordination

lemma channelStep_addContext {group : ExecutionGroupId} {d : CoordinationDeclaration}
    (hkept : ∀ o, ChannelStep key call o o) (h : validateContextRegistration m group d = .ok true) :
    ChannelStep key call (m.peerChannels.get? key)
      ((m.addContext group d).peerChannels.get? key) := by
  have hnew : m.peerChannels.get? (toLex (group, d.context.contextId)) = none := by
    simp only [validateContextRegistration] at h
    split at h
    · simp [bind_eq_ok] at h
    · simpa [bind_eq_ok, OrdMap.contains] using h
  rw [RuntimeExecutionManager.addContext]
  cases hd : declaredChannel group d with
  | none => exact hkept _
  | some =>
    dsimp only
    by_cases hkey : key = toLex (group, d.context.contextId)
    · subst hkey
      rw [hnew, get?_insert_self]
      exact .declared rfl hd
    · rw [get?_insert_of_ne hkey]
      exact hkept _

@[simp] lemma RuntimePeerChannel.expire_peers (c : RuntimePeerChannel) (now : TimestampMs) :
    (c.expire now).peers = c.peers := by
  rw [expire]
  split <;> rfl

lemma get?_refreshPeerChannelDeadlines (m : RuntimeExecutionManager) (now : TimestampMs) :
    (m.refreshPeerChannelDeadlines now).peerChannels.get? key =
      (m.peerChannels.get? key).map (·.expire now) :=
  get?_mapValues ..

lemma channelStep_observe (m : RuntimeExecutionManager) (e : PeerChannelReadinessEvidence) :
    ChannelStep key (.observePeerChannelReadiness e) (m.peerChannels.get? key)
      ((state (observePeerChannelReadiness e m)).peerChannels.get? key) := by
  have hrefused : (∀ c, key = toLex (e.groupId, e.contextId) → m.peerChannels.get? key = some c →
      e.receivedAt < e.expiresAt → (c.expire e.receivedAt).lifecycle ≠ .closed →
      e.contextRoleId ∈ c.peers → ∃ err, (c.expire e.receivedAt).observe e = .error err) →
      ChannelStep key (.observePeerChannelReadiness e) (m.peerChannels.get? key)
        ((m.refreshPeerChannelDeadlines e.receivedAt).peerChannels.get? key) := by
    intro h
    rw [get?_refreshPeerChannelDeadlines]
    cases hc : m.peerChannels.get? key with
    | none => exact .absent
    | some c => exact .changed (.refused fun hkey => h c hkey hc)
  rw [observePeerChannelReadiness, run_modify_bind, run_check_bind]
  split
  · rw [run_get_bind, run_check_bind]
    split
    · next channel hchannel =>
      replace hchannel := okOr_eq_ok.mp hchannel
      rw [get?_refreshPeerChannelDeadlines, map_eq_some_iff] at hchannel
      obtain ⟨c, hc, rfl⟩ := hchannel
      have hsame : ∀ c', key = toLex (e.groupId, e.contextId) → m.peerChannels.get? key = some c' →
          c = c' := fun c' hkey hc' => some.inj (hc.symm.trans (hkey ▸ hc'))
      rw [run_check_bind]
      split
      · next hopen =>
        rw [run_check_bind]
        split
        · next hpeer =>
          rw [run_check_bind]
          split
          · next updated hupdated =>
            show ChannelStep key _ _
              (((m.refreshPeerChannelDeadlines e.receivedAt).peerChannels.insert _
                updated).get? key)
            rw [get?_insert]
            split
            · next hkey =>
              subst hkey
              rw [hc]
              exact .changed (.observed rfl (by simpa using hopen) (by simpa using hpeer) hupdated)
            · next hkey => exact hrefused fun _ h => absurd h hkey
          · next err herr =>
            refine hrefused fun c' hkey hc' _ _ _ => ⟨err, ?_⟩
            obtain rfl := hsame c' hkey hc'
            exact herr
        · next hpeer =>
          refine hrefused fun c' hkey hc' _ _ hmem => ?_
          obtain rfl := hsame c' hkey hc'
          simp [refuse, hmem] at hpeer
      · next hclosed =>
        refine hrefused fun c' hkey hc' _ hopen => ?_
        obtain rfl := hsame c' hkey hc'
        simp [refuse, hopen] at hclosed
    · next hunknown =>
      refine hrefused fun c hkey hc => ?_
      rw [get?_refreshPeerChannelDeadlines, ← hkey, hc] at hunknown
      cases hunknown
  · next hstale =>
    refine hrefused fun c _ _ hfresh => ?_
    simp [refuse, hfresh.not_ge] at hstale

lemma channelStep (hkeyed : ChannelsKeyed m) (call : RuntimeCall) (key : CoordinationKey) :
    ChannelStep key call (m.peerChannels.get? key) ((m.step call).peerChannels.get? key) := by
  by_cases hobserve : ∃ e, call = .observePeerChannelReadiness e
  · obtain ⟨e, rfl⟩ := hobserve
    exact channelStep_observe m e
  by_cases hfence : ∃ node, call = .fencePeerChannelsForNode node
  · obtain ⟨node, rfl⟩ := hfence
    show ChannelStep key _ _ ((m.peerChannels.mapValues _).get? key)
    rw [get?_mapValues]
    exact .map fun c => .nodeFenced
  have hkept : ∀ o, ChannelStep key call o o := by
    intro o
    cases o with
    | none => exact .absent
    | some => exact .changed (.kept (fun e h => hobserve ⟨e, h⟩) fun node h => hfence ⟨node, h⟩)
  have he := effect_step m call
  generalize m.step call = m' at he
  by_cases hother : call.coordinates = false
  · rw [congrArg (·.peerChannels) (he.coordination_kept hother)]
    exact hkept _
  cases he with
  | contextAdded h => exact channelStep_addContext hkept h
  | readinessRefused | readiness => exact absurd ⟨_, rfl⟩ hobserve
  | nodeFenced => exact absurd ⟨_, rfl⟩ hfence
  | deadlines =>
    rw [get?_refreshPeerChannelDeadlines]
    exact .map fun c => .expired
  | channelFenced channel hchannel hopen =>
    rw [setChannel, get?_insert]
    split
    · next hkey =>
      rw [hkey, hchannel]
      exact .changed (.fenced hopen)
    · exact hkept _
  | channelClosed channel hchannel =>
    rw [setChannel, get?_insert]
    split
    · next hkey =>
      rw [hkey, hchannel]
      exact .changed .closed
    · exact hkept _
  | groupClosed =>
    rw [closePeerChannelsForGroup, mapChannels, get?_mapValues]
    refine .map fun c => ?_
    split
    · exact .cleared
    · exact .kept (by simp) (by simp)
  | progressed =>
    rw [observeProgress]
    repeat' split
    all_goals exact hkept _
  | restarted _ hrestore =>
    rw [restore_channels hkeyed hrestore, get?_mapValues]
    exact .map fun c => .restarted
  | unchanged | progressFenced => exact hkept _
  | _ => exact absurd rfl hother

lemma ChannelChange.same (h : ChannelChange key c call c') :
    c'.groupId = c.groupId ∧ c'.contextId = c.contextId := by
  have hexpire : ∀ now, (c.expire now).groupId = c.groupId ∧
      (c.expire now).contextId = c.contextId := by
    intro now
    rw [expire]
    split <;> exact ⟨rfl, rfl⟩
  cases h with
  | expired | refused => exact hexpire _
  | @observed e _ _ _ _ hobserve =>
    obtain ⟨hgroup, hcontext⟩ := observe_same hobserve
    exact ⟨hgroup.trans (hexpire _).1, hcontext.trans (hexpire _).2⟩
  | nodeFenced =>
    rw [fenceNode]
    split <;> exact ⟨rfl, rfl⟩
  | _ => exact ⟨rfl, rfl⟩

lemma channels_keep {P : CoordinationKey → RuntimePeerChannel → Prop} (hkeyed : ChannelsKeyed m)
    (hdeclared : ∀ group d c, declaredChannel group d = some c →
      P (toLex (group, d.context.contextId)) c)
    (hchange : ∀ key c c', ChannelChange key c call c' → P key c → P key c')
    (h : ∀ key c, m.peerChannels.get? key = some c → P key c) :
    ∀ key c, (m.step call).peerChannels.get? key = some c → P key c := by
  intro key c' hc'
  have hstep := channelStep hkeyed call key
  rw [hc'] at hstep
  generalize ho : m.peerChannels.get? key = o at hstep
  cases hstep with
  | declared hkey hd => exact hkey ▸ hdeclared _ _ _ hd
  | changed hc => exact hchange _ _ _ hc (h _ _ ho)

lemma channelsKeyed_step (hkeyed : ChannelsKeyed m) : ChannelsKeyed (m.step call) := by
  refine channels_keep (P := fun key c => toLex (c.groupId, c.contextId) = key) hkeyed ?_ ?_ hkeyed
  · intro group d c hd
    obtain ⟨_, -, rfl⟩ := map_eq_some_iff.mp hd
    rfl
  · intro key c c' hc hkey
    rw [hc.same.1, hc.same.2, hkey]

lemma channelsKeyed_stateAt (calls : Nat → RuntimeCall) (n : Nat) :
    ChannelsKeyed (stateAt calls n) := by
  induction n with
  | zero =>
    intro key c hc
    cases hc
  | succ n ih => exact channelsKeyed_step ih

/-! ### A closed channel -/

/-- No Closed channel has an acknowledgement of a Node that is fenced. -/
def RuntimeCall.SparesClosed (m : RuntimeExecutionManager) : RuntimeCall → Prop
  | .fencePeerChannelsForNode node => ∀ key c, m.peerChannels.get? key = some c →
      c.lifecycle = .closed → ∀ ack ∈ c.readiness, ack.nodeId ≠ node
  | _ => True

/-- The channels closed in the first state are closed in the second. -/
def StayClosed (m m' : RuntimeExecutionManager) : Prop :=
  ∀ key c, m.peerChannels.get? key = some c → c.lifecycle = .closed →
    ∃ c', m'.peerChannels.get? key = some c' ∧ c'.lifecycle = .closed

lemma ChannelChange.stays_closed (h : ChannelChange key c call c')
    (hclosed : c.lifecycle = .closed)
    (hspared : ∀ node, call = .fencePeerChannelsForNode node →
      ∀ ack ∈ c.readiness, ack.nodeId ≠ node) :
    c'.lifecycle = .closed := by
  have hexpire : ∀ now, (c.expire now).lifecycle = .closed := by
    intro now
    rwa [expire, if_neg fun hopen => hopen.1 hclosed]
  cases h with
  | kept => exact hclosed
  | expired | refused => exact hexpire _
  | observed _ hopen => exact absurd (hexpire _) hopen
  | @nodeFenced node =>
    rw [fenceNode, if_neg]
    · exact hclosed
    · simpa using hspared node rfl
  | fenced hopen => exact absurd hclosed hopen
  | restarted => simp [RuntimePeerChannel.restored, hclosed]
  | _ => rfl

lemma stayClosed_step_iff (hkeyed : ChannelsKeyed m) :
    StayClosed m (m.step call) ↔ call.SparesClosed m := by
  constructor
  · intro hstay
    unfold RuntimeCall.SparesClosed
    split
    · next node =>
      intro key c hc hclosed ack hack hnode
      obtain ⟨c', hc', hclosed'⟩ := hstay key c hc hclosed
      have hfenced : (m.step (.fencePeerChannelsForNode node)).peerChannels.get? key =
          some (c.fenceNode node) := by
        show (m.peerChannels.mapValues _).get? key = _
        rw [get?_mapValues, hc, map_some]
      rw [hfenced] at hc'
      cases hc'
      rw [fenceNode, if_pos] at hclosed'
      · cases hclosed'
      · exact any_eq_true.mpr ⟨ack, hack, beq_iff_eq.mpr hnode⟩
    · trivial
  · intro hspares key c hc hclosed
    have hstep := channelStep hkeyed call key
    rw [hc] at hstep
    generalize (m.step call).peerChannels.get? key = o at hstep
    cases hstep with
    | changed hchange =>
      refine ⟨_, rfl, hchange.stays_closed hclosed ?_⟩
      rintro _ rfl
      exact hspares key c hc hclosed

end

/-- Closed channels stay closed in exactly the runs in which no Node is fenced while a closed
channel still holds an acknowledgement of it. -/
theorem closed_for_good_iff (calls : Nat → RuntimeCall) :
    (∀ i j, i ≤ j → StayClosed (stateAt calls i) (stateAt calls j)) ↔
      ∀ i, (calls i).SparesClosed (stateAt calls i) := by
  constructor
  · intro hstay i
    exact (stayClosed_step_iff (channelsKeyed_stateAt calls i)).mp (hstay i (i + 1) (by omega))
  · intro hspares i j hij
    induction hij with
    | refl => exact fun key c hc hclosed => ⟨c, hc, hclosed⟩
    | @step j _ ih =>
      intro key c hc hclosed
      obtain ⟨c', hc', hclosed'⟩ := ih key c hc hclosed
      exact (stayClosed_step_iff (channelsKeyed_stateAt calls j)).mpr
          (hspares j) key c' hc' hclosed'

/-! ### A ready channel -/

/-- The acknowledgements of a channel: one for each endpoint at most, of declared endpoints and
as the channel describes them. A ready channel has a positive one of every endpoint, and these
name one instance. -/
structure Evidenced (c : RuntimePeerChannel) : Prop where
  distinct : (c.readiness.map (·.contextRoleId)).Nodup
  peer : ∀ ack ∈ c.readiness, ack.contextRoleId ∈ c.peers
  described : ∀ ack ∈ c.readiness,
    ack.profileId = c.descriptor.profileId ∧ ack.messageSchema = c.descriptor.messageSchema
  complete : c.lifecycle = .ready → ∀ peer ∈ c.peers,
    ∃ ack ∈ c.readiness, ack.contextRoleId = peer ∧ ack.ready = true
  agreed : c.lifecycle = .ready → ∀ a ∈ c.readiness, ∀ b ∈ c.readiness,
    a.ready = true → b.ready = true → a.channelInstanceId = b.channelInstanceId

namespace Evidenced

variable {c c' : RuntimePeerChannel} {e : PeerChannelReadinessEvidence}
  {a : PeerChannelReadinessEvidence}

section

variable (h : Evidenced c)
include h

lemma eq_of_role {b : PeerChannelReadinessEvidence} (ha : a ∈ c.readiness)
    (hb : b ∈ c.readiness) (hrole : a.contextRoleId = b.contextRoleId) : a = b :=
  inj_on_of_nodup_map h.distinct ha hb hrole

lemma positive (hready : c.lifecycle = .ready) (ha : a ∈ c.readiness) : a.ready = true := by
  obtain ⟨_, hack, hrole, _⟩ := h.complete hready _ (h.peer a ha)
  rwa [h.eq_of_role ha hack hrole.symm]

lemma drop {lifecycle : PeerChannelLifecycle}
    {readiness : List PeerChannelReadinessEvidence} (hsub : readiness.Sublist c.readiness)
    (hlifecycle : lifecycle ≠ .ready) :
    Evidenced { c with lifecycle := lifecycle, readiness := readiness } :=
  ⟨(hsub.map _).nodup h.distinct, fun ack hack => h.peer ack (hsub.subset hack),
    fun ack hack => h.described ack (hsub.subset hack), fun hready => absurd hready hlifecycle,
    fun hready => absurd hready hlifecycle⟩

lemma expire (now : TimestampMs) : Evidenced (c.expire now) := by
  rw [RuntimePeerChannel.expire]
  split
  · exact h.drop (.refl _) (by decide)
  · exact h

lemma accept (hpeer : e.contextRoleId ∈ c.peers) (hprofile : e.profileId = c.descriptor.profileId)
    (hschema : e.messageSchema = c.descriptor.messageSchema) : Evidenced (c.accept e) := by
  -- the lifecycle is ready only if the aggregation over all endpoints said so
  have hready : (c.accept e).lifecycle = .ready →
      (∀ peer ∈ c.peers, ∃ ack ∈ c.acknowledged e, ack.contextRoleId = peer ∧ ack.ready = true) ∧
      (ofList (((c.acknowledged e).filter (·.ready)).map
        (·.channelInstanceId))).entries.length = 1 := by
    intro hready
    simp only [RuntimePeerChannel.accept, RuntimePeerChannel.readinessLifecycle] at hready
    split at hready
    · split at hready
      · next hall =>
        simp only [Bool.and_eq_true, List.all_eq_true, List.any_eq_true, beq_iff_eq] at hall
        refine ⟨fun peer hp => ?_, hall.2⟩
        obtain ⟨ack, hack, ⟨hrole, hpositive⟩, -⟩ := hall.1 peer hp
        exact ⟨ack, hack, hrole, hpositive⟩
      · split at hready <;> cases hready
    · cases hready
  refine ⟨?_, fun ack hack => ?_, fun ack hack => ?_, fun h' => (hready h').1,
      fun h' a ha b hb => ?_⟩
  · exact c.acknowledged_nodup e h.distinct
  · rcases mem_acknowledged.mp hack with ⟨hack, -⟩ | rfl
    · exact h.peer ack hack
    · exact hpeer
  · rcases mem_acknowledged.mp hack with ⟨hack, -⟩ | rfl
    · exact h.described ack hack
    · exact ⟨hprofile, hschema⟩
  · intro hpa hpb
    obtain ⟨one, hone⟩ := length_eq_one_iff.mp (hready h').2
    have hmem : ∀ x ∈ c.acknowledged e, x.ready = true → x.channelInstanceId = one.1 := by
      intro x hx hpx
      have hcontains : (ofList (((c.acknowledged e).filter (·.ready)).map
          (·.channelInstanceId))).contains x.channelInstanceId = true := by
        rw [contains_ofList]
        exact mem_map_of_mem (mem_filter.mpr ⟨hx, hpx⟩)
      obtain ⟨u, hu⟩ := contains_eq_true_iff.mp hcontains
      rw [← mem_entries_iff, hone, mem_singleton] at hu
      rw [← hu]
    rw [hmem a ha hpa, hmem b hb hpb]

end

lemma change {key : CoordinationKey} {call : RuntimeCall} (hchange : ChannelChange key c call c')
    (h : Evidenced c) : Evidenced c' := by
  cases hchange with
  | kept => exact h
  | expired | refused => exact h.expire _
  | @observed e _ _ _ hpeer hobserve =>
    have h := h.expire e.receivedAt
    rcases (c.expire e.receivedAt).observe_cases e with
      ho | ⟨hp, hs, ⟨ho, -⟩ | ⟨ho, -⟩⟩ | ⟨_, ho, -⟩
    all_goals
      rw [ho] at hobserve
      cases hobserve
    · exact h.drop filter_sublist (by decide)
    · exact h
    · exact h.accept (by simpa using hpeer) hp hs
  | nodeFenced =>
    rw [fenceNode]
    split
    · exact h.drop filter_sublist (by decide)
    · exact h
  | fenced | closed => exact h.drop (.refl _) (by decide)
  | cleared => exact h.drop (nil_sublist _) (by decide)
  | restarted =>
    refine h.drop (nil_sublist _) ?_
    split
    · decide
    · assumption

end Evidenced

/-- Two acknowledgements of one endpoint, sent in one session. -/
structure SameSource (e ack : PeerChannelReadinessEvidence) : Prop where
  group : e.groupId = ack.groupId
  context : e.contextId = ack.contextId
  role : e.contextRoleId = ack.contextRoleId
  session : e.sessionId = ack.sessionId

section

variable (calls : Nat → RuntimeCall) (n : Nat)

/-- The call at `n` brings evidence to an open channel that retains no acknowledgement of its
session: the channel has nothing to compare it with. -/
structure Uncompared (e : PeerChannelReadinessEvidence) (c : RuntimePeerChannel) : Prop where
  arrives : calls n = .observePeerChannelReadiness e
  channel : (stateAt calls n).peerChannels.get? (toLex (e.groupId, e.contextId)) = some c
  accepting : c.lifecycle ≠ .closed
  alone : ∀ ack ∈ c.readiness, ack.contextRoleId = e.contextRoleId → e.sessionId ≠ ack.sessionId

/-- What the channels do not check of the call at `n`. Evidence that finds no acknowledgement of
its session is not behind what the session sent before and is not repeated after its Node was
fenced, evidence that had expired on receipt is not ahead of the retained one, and no closed
channel is opened. -/
structure Orderly : Prop where
  ordered : ∀ e c, Uncompared calls n e c → ∀ i < n, ∀ e',
    calls i = .observePeerChannelReadiness e' → SameSource e' e → e'.sequence ≤ e.sequence
  once : ∀ e c, Uncompared calls n e c → ∀ i j, i < j → j < n →
    calls i = .observePeerChannelReadiness e → calls j ≠ .fencePeerChannelsForNode e.nodeId
  expired : ∀ e, calls n = .observePeerChannelReadiness e → e.expiresAt ≤ e.receivedAt →
    ∀ key c, (stateAt calls n).peerChannels.get? key = some c → c.lifecycle ≠ .closed →
      ∀ ack ∈ c.readiness, SameSource e ack → e.sequence ≤ ack.sequence
  spares : (calls n).SparesClosed (stateAt calls n)

/-- The acknowledgements of a channel are the last ones among the first `n` calls. -/
structure UpToDate (c : RuntimePeerChannel) : Prop where
  received : ∀ ack ∈ c.readiness, ∃ i < n, calls i = .observePeerChannelReadiness ack
  highest : ∀ ack ∈ c.readiness, ∀ i < n, ∀ e, calls i = .observePeerChannelReadiness e →
    SameSource e ack → e.sequence ≤ ack.sequence
  unfenced : ∀ ack ∈ c.readiness, ∀ i j, i < j → j < n →
    calls i = .observePeerChannelReadiness ack → calls j ≠ .fencePeerChannelsForNode ack.nodeId

/-- The acknowledgements of a channel against the calls so far. Evidence for a closed channel is
refused, so what it holds may be behind. -/
structure Recorded (key : CoordinationKey) (c : RuntimePeerChannel) : Prop where
  source : ∀ ack ∈ c.readiness, key = toLex (ack.groupId, ack.contextId)
  upToDate : c.lifecycle ≠ .closed → UpToDate calls n c

end

namespace Recorded

variable {calls : Nat → RuntimeCall} {n : Nat} {key : CoordinationKey} {c c' : RuntimePeerChannel}

/-- A call that brings no new acknowledgement to an open channel. -/
lemma keep (h : Recorded calls n key c) (hsub : ∀ ack ∈ c'.readiness, ack ∈ c.readiness)
    (hopen : c'.lifecycle ≠ .closed → c.lifecycle ≠ .closed)
    (hnode : ∀ ack ∈ c'.readiness, calls n ≠ .fencePeerChannelsForNode ack.nodeId)
    (hlast : c'.lifecycle ≠ .closed → ∀ ack ∈ c'.readiness, ∀ e,
      calls n = .observePeerChannelReadiness e → SameSource e ack → e.sequence ≤ ack.sequence) :
    Recorded calls (n + 1) key c' := by
  refine ⟨fun ack hack => h.source ack (hsub ack hack), fun hopen' => ?_⟩
  have hup := h.upToDate (hopen hopen')
  refine ⟨fun ack hack => ?_, fun ack hack i hi e he hsame => ?_,
    fun ack hack i j hij hj hi => ?_⟩
  · obtain ⟨i, hi, hcall⟩ := hup.received ack (hsub ack hack)
    exact ⟨i, by omega, hcall⟩
  · rcases Nat.lt_succ_iff_lt_or_eq.mp hi with hi | rfl
    · exact hup.highest ack (hsub ack hack) i hi e he hsame
    · exact hlast hopen' ack hack e he hsame
  · rcases Nat.lt_succ_iff_lt_or_eq.mp hj with hj | rfl
    · exact hup.unfenced ack (hsub ack hack) i j hij hj hi
    · exact hnode ack hack

lemma expire_readiness (c : RuntimePeerChannel) (now : TimestampMs) :
    (c.expire now).readiness = c.readiness ∧
      ((c.expire now).lifecycle ≠ .closed → c.lifecycle ≠ .closed) := by
  rw [expire]
  split
  · next h => exact ⟨rfl, fun _ => h.1⟩
  · exact ⟨rfl, id⟩

variable (h : Recorded calls n key c)
include h

/-- An acknowledgement later than the retained one of its session is later than all of them. -/
lemma outruns {e ack : PeerChannelReadinessEvidence} (hkey : key = toLex (e.groupId, e.contextId))
    (hopen : c.lifecycle ≠ .closed) (hack : ack ∈ c.readiness)
    (hrole : ack.contextRoleId = e.contextRoleId) (hsession : e.sessionId = ack.sessionId)
    (hlater : ack.sequence < e.sequence) {i : Nat} (hi : i < n) {e' : PeerChannelReadinessEvidence}
    (he' : calls i = .observePeerChannelReadiness e') (hsame : SameSource e' e) :
    e'.sequence < e.sequence := by
  obtain ⟨hgroup, hcontext⟩ := Prod.mk.inj (toLex_inj.mp (hkey.symm.trans (h.source ack hack)))
  refine lt_of_le_of_lt ((h.upToDate hopen).highest ack hack i hi e' he' ?_) hlater
  exact ⟨hsame.group.trans hgroup, hsame.context.trans hcontext, hsame.role.trans hrole.symm,
    hsame.session.trans hsession⟩

lemma observe (horder : Orderly calls n) {e : PeerChannelReadinessEvidence}
    (hcall : calls n = .observePeerChannelReadiness e)
    (hkey : key = toLex (e.groupId, e.contextId))
    (huncompared : (∀ ack ∈ c.readiness, ack.contextRoleId = e.contextRoleId →
      e.sessionId ≠ ack.sessionId) → ∃ c₀, Uncompared calls n e c₀)
    (hevidenced : Evidenced c) (hopen : c.lifecycle ≠ .closed) (hobserve : c.observe e = .ok c') :
    Recorded calls (n + 1) key c' := by
  have hnode : ∀ node, calls n ≠ .fencePeerChannelsForNode node := by simp [hcall]
  rcases c.observe_cases e with ho | ⟨-, -, ⟨ho, hmem⟩ | ⟨ho, hlater⟩⟩ | ⟨_, ho, -⟩
  all_goals
    rw [ho] at hobserve
    cases hobserve
  · refine h.keep (fun ack => mem_of_mem_filter) (fun _ => hopen)
      (fun _ _ => hnode _) fun _ ack hack e' he' hsame => ?_
    cases hcall.symm.trans he'
    exact absurd hsame.role.symm (by simpa using (mem_filter.mp hack).2)
  · refine h.keep (fun _ => id) id (fun _ _ => hnode _) fun _ ack hack e' he' hsame => ?_
    cases hcall.symm.trans he'
    rw [hevidenced.eq_of_role hmem hack hsame.role]
  -- the channel compared it with the retained one of its session, or it is `Uncompared`
  have hnew : (∀ i < n, ∀ e', calls i = .observePeerChannelReadiness e' → SameSource e' e →
        e'.sequence ≤ e.sequence) ∧ ∀ i j, i < j → j < n →
      calls i = .observePeerChannelReadiness e → calls j ≠ .fencePeerChannelsForNode e.nodeId := by
    by_cases hfound : ∃ ack ∈ c.readiness, ack.contextRoleId = e.contextRoleId ∧
        e.sessionId = ack.sessionId
    · obtain ⟨ack, hack, hrole, hsession⟩ := hfound
      have hlt : ack.sequence < e.sequence := by
        have hsome : (c.readiness.find? fun a => a.contextRoleId == e.contextRoleId).isSome :=
          find?_isSome.mpr ⟨ack, hack, by simp [hrole]⟩
        obtain ⟨found, hfind⟩ := isSome_iff_exists.mp hsome
        have hfound : found.contextRoleId = e.contextRoleId := by simpa using find?_some hfind
        rw [hevidenced.eq_of_role (mem_of_find?_eq_some hfind) hack (hfound.trans hrole.symm)]
          at hfind
        exact hlater ack hfind hsession
      have hall : ∀ i < n, ∀ e', calls i = .observePeerChannelReadiness e' → SameSource e' e →
          e'.sequence < e.sequence := fun i hi e' he' hsame =>
        h.outruns hkey hopen hack hrole hsession hlt hi he' hsame
      refine ⟨fun i hi e' he' hsame => (hall i hi e' he' hsame).le, fun i j hij hj he => ?_⟩
      exact absurd (hall i (by omega) e he ⟨rfl, rfl, rfl, rfl⟩) (lt_irrefl _)
    · push Not at hfound
      obtain ⟨c₀, hc₀⟩ := huncompared hfound
      exact ⟨horder.ordered e c₀ hc₀, horder.once e c₀ hc₀⟩
  have hup := h.upToDate hopen
  refine ⟨fun ack hack => ?_, fun _ => ⟨fun ack hack => ?_, fun ack hack i hi e' he' hsame => ?_,
    fun ack hack i j hij hj hi => ?_⟩⟩
  all_goals rcases mem_acknowledged.mp hack with ⟨hold, hother⟩ | rfl
  · exact h.source ack hold
  · exact hkey
  · obtain ⟨i, hi, hcall'⟩ := hup.received ack hold
    exact ⟨i, by omega, hcall'⟩
  · exact ⟨n, by omega, hcall⟩
  · rcases Nat.lt_succ_iff_lt_or_eq.mp hi with hi | rfl
    · exact hup.highest ack hold i hi e' he' hsame
    · cases hcall.symm.trans he'
      exact absurd hsame.role.symm hother
  · rcases Nat.lt_succ_iff_lt_or_eq.mp hi with hi | rfl
    · exact hnew.1 i hi e' he' hsame
    · cases hcall.symm.trans he'
      exact le_rfl
  · rcases Nat.lt_succ_iff_lt_or_eq.mp hj with hj | rfl
    · exact hup.unfenced ack hold i j hij hj hi
    · exact hnode _
  · rcases Nat.lt_succ_iff_lt_or_eq.mp hj with hj | rfl
    · exact hnew.2 i j hij hj hi
    · exact hnode _

/-- Time passes on the channel. -/
lemma expire (now : TimestampMs) : Recorded calls n key (c.expire now) := by
  obtain ⟨hsame, hopen⟩ := expire_readiness c now
  refine ⟨by rw [hsame]; exact h.source, fun hopen' => ?_⟩
  obtain ⟨hreceived, hhighest, hunfenced⟩ := h.upToDate (hopen hopen')
  constructor
  all_goals
    rw [hsame]
    assumption

lemma step (hevidenced : Evidenced c) (horder : Orderly calls n)
    (hc : (stateAt calls n).peerChannels.get? key = some c)
    (hchange : ChannelChange key c (calls n) c') : Recorded calls (n + 1) key c' := by
  generalize hcall : calls n = call at hchange
  cases hchange with
  | kept hobserve hfence =>
    exact h.keep (fun _ => id) id (fun _ _ => hcall ▸ hfence _)
      fun _ _ _ e he => absurd (hcall.symm.trans he) (hobserve e)
  | expired => exact (h.expire _).keep (fun _ => id) id (by simp [hcall]) (by simp [hcall])
  | @refused e hrefused =>
    refine (h.expire e.receivedAt).keep (fun _ => id) id (by simp [hcall])
      fun hopen ack hack e' he' hsame => ?_
    cases hcall.symm.trans he'
    rw [(expire_readiness c _).1] at hack
    -- the endpoint is declared and the channel open: only a newer acknowledgement refuses it
    have hpeer : e.contextRoleId ∈ c.peers := hsame.role ▸ hevidenced.peer ack hack
    have hkey : key = toLex (e.groupId, e.contextId) := by
      rw [h.source ack hack, hsame.group, hsame.context]
    rcases Nat.lt_or_ge e.receivedAt e.expiresAt with hfresh | hexpired
    swap
    · exact horder.expired e hcall hexpired key c hc ((expire_readiness c _).2 hopen) ack hack hsame
    obtain ⟨_, herr⟩ := hrefused hkey hfresh hopen hpeer
    rcases (c.expire e.receivedAt).observe_cases e with
      ho | ⟨-, -, ⟨ho, -⟩ | ⟨ho, -⟩⟩ | ⟨_, ho, _, hnewer, hrole, _⟩
    all_goals rw [ho] at herr
    · cases herr
    · cases herr
    · cases herr
    · rw [(expire_readiness c _).1] at hnewer
      rw [hevidenced.eq_of_role hack hnewer (hsame.role.symm.trans hrole.symm)]
      omega
  | observed hkey hopen _ hobserve =>
    refine (h.expire _).observe horder hcall hkey (fun halone => ?_) (hevidenced.expire _) hopen
      hobserve
    rw [(expire_readiness c _).1] at halone
    exact ⟨c, hcall, hkey ▸ hc, (expire_readiness c _).2 hopen, halone⟩
  | @nodeFenced node =>
    have hspares := horder.spares
    rw [hcall] at hspares
    rw [fenceNode]
    split
    · next hany =>
      refine h.keep (fun _ => mem_of_mem_filter) (fun _ hclosed => ?_)
        (fun ack hack => ?_) (by simp [hcall])
      · obtain ⟨ack, hack, hnode⟩ := any_eq_true.mp hany
        exact hspares key c hc hclosed ack hack (beq_iff_eq.mp hnode)
      · have hother : ack.nodeId ≠ node := by simpa using (mem_filter.mp hack).2
        simpa [hcall] using hother.symm
    · next hany =>
      refine h.keep (fun _ => id) id (fun ack hack => ?_) (by simp [hcall])
      rw [List.any_eq_true] at hany
      simpa [hcall] using fun hnode => hany ⟨ack, hack, beq_iff_eq.mpr hnode.symm⟩
  | fenced hopen => exact h.keep (fun _ => id) (fun _ => hopen) (by simp [hcall]) (by simp [hcall])
  | closed => exact h.keep (fun _ => id) (fun h => absurd rfl h) (by simp [hcall]) (by simp [hcall])
  | cleared | restarted =>
    refine ⟨?_, fun _ => ⟨?_, ?_, ?_⟩⟩
    all_goals exact fun _ h => absurd h not_mem_nil

end Recorded

namespace Connected

open Sample Restarted

def left : ContextRoleId := ⟨"left", .refl false⟩

def right : ContextRoleId := ⟨"right", .refl false⟩

/-- A Context of two ContextRoles that declares a channel. -/
def pair : CoordinationDeclaration :=
  { alone with
    context := ⟨⟨"context", .refl false⟩,
        [⟨left, ⟨"actor", .refl false⟩, [], ContextRole.no_envelope⟩,
      ⟨right, ⟨"other", .refl false⟩, [], ContextRole.no_envelope⟩], [], .independent⟩ }

lemma pair_accepted : pair.newWithCoordination = .ok () := by decide +kernel

def register : RuntimeCall := .registerCoordinationContext group pair pair_accepted

/-- A positive acknowledgement that expires in a second. -/
def acknowledge (peer : ContextRoleId) (session : String) (sequence : Nat) : RuntimeCall :=
  .observePeerChannelReadiness
    { groupId := group, contextId := pair.context.contextId, contextRoleId := peer, nodeId := node
      localSystemId := ⟨"system", .refl false⟩, sessionId := session, sequence
      channelInstanceId := "instance", profileId := "profile", messageSchema := "schema"
      receivedAt := 0, expiresAt := 1000, ready := true }

def lifecycles (calls : List RuntimeCall) : List PeerChannelLifecycle :=
  (after calls).peerChannels.values.map (·.lifecycle)

def run (calls : List RuntimeCall) (n : Nat) : RuntimeCall := calls.getD n .restart

/-- Both endpoints acknowledge; an acknowledgement of the first one arrives late and is refused. -/
def settled : List RuntimeCall :=
  [register, acknowledge left "session" 2, acknowledge left "session" 1,
    acknowledge right "other" 1]

/-- The channel is closed before its Node disconnects. -/
def disconnected : List RuntimeCall :=
  [register, acknowledge left "session" 1, .closePeerChannel group pair.context.contextId,
    .fencePeerChannelsForNode node]

end Connected

open Sample Connected Restarted in
/-- The closed channel becomes fenced, and two acknowledgements make it ready again. -/
theorem closed_channel_reopened :
    ¬ StayClosed (stateAt (run disconnected) 3) (stateAt (run disconnected) 4) ∧
      lifecycles disconnected = [.fenced] ∧
      lifecycles (disconnected ++ [acknowledge left "session" 2, acknowledge right "session" 3]) =
        [.ready] := by
  refine ⟨fun hstay => ?_, by decide +kernel, by decide +kernel⟩
  have hspares : (RuntimeCall.fencePeerChannelsForNode node).SparesClosed
      (stateAt (run disconnected) 3) :=
    (stayClosed_step_iff (channelsKeyed_stateAt _ 3)).mp hstay
  have hheld : ((stateAt (run disconnected) 3).peerChannels.get?
      (toLex (group, pair.context.contextId))).any (fun c =>
        c.lifecycle == .closed && c.readiness.any (·.nodeId == node)) = true := by decide +kernel
  simp only [Option.any_eq_true, Bool.and_eq_true, beq_iff_eq, List.any_eq_true] at hheld
  obtain ⟨c, hc, hclosed, ack, hack, hnode⟩ := hheld
  exact hspares _ c hc hclosed ack hack hnode

end RoboGuide.Runtime
