import RoboGuide.Runtime.Effect

/-!
# `RoboGuide.Runtime.Channels`: Contexts and peer channels stay well formed

A channel is declared once with its Context. Everything that happens to it later changes its
lifecycle and its acknowledgements only, and an acknowledgement is kept under the endpoint,
profile and schema the channel declares. The checks `restore` repeats for a channel are
therefore true of every channel, except for the number of its peers, which registration does
not look at.
-/

namespace RoboGuide.Runtime

open Domain Lib Fallible RuntimePeerChannel
open List hiding contains_insert

variable {e : PeerChannelReadinessEvidence} {c : RuntimePeerChannel} {c' : RuntimePeerChannel}

/-- Evidence from a session that names itself: nonblank identities and a positive sequence. -/
structure PeerChannelReadinessEvidence.Identified (e : PeerChannelReadinessEvidence) : Prop where
  session : isBlank e.sessionId = false
  instanceId : isBlank e.channelInstanceId = false
  sequence : 0 < e.sequence

/-- What an acknowledgement does: it drops the one of its endpoint, repeats it or replaces it,
within one session only by a later one. It is refused when the one of its endpoint is newer. -/
lemma RuntimePeerChannel.observe_cases (c : RuntimePeerChannel)
    (e : PeerChannelReadinessEvidence) :
    c.observe e = .ok (c.fenceWithout e.contextRoleId) ∨
      (e.profileId = c.descriptor.profileId ∧ e.messageSchema = c.descriptor.messageSchema ∧
        (c.observe e = .ok c ∧ e ∈ c.readiness ∨ c.observe e = .ok (c.accept e) ∧
          ∀ ack ∈ c.readiness.find? (fun ack => ack.contextRoleId == e.contextRoleId),
            e.sessionId = ack.sessionId → ack.sequence < e.sequence)) ∨
      ∃ err, c.observe e = .error err ∧
        ∃ ack ∈ c.readiness, ack.contextRoleId = e.contextRoleId ∧ e.sequence < ack.sequence := by
  rw [observe]
  split
  · exact .inl rfl
  next hdescriptor =>
  rw [not_or, not_not, not_not] at hdescriptor
  have hdescribed := And.intro hdescriptor.1.symm hdescriptor.2.symm
  split
  · next ack hack =>
    have hmem := mem_of_find?_eq_some hack
    have hrole : ack.contextRoleId = e.contextRoleId := by simpa using find?_some hack
    split
    · split
      · next hlt => exact .inr (.inr ⟨_, rfl, ack, hmem, hrole, hlt⟩)
      next hle =>
      split
      · split
        · next he => exact .inr (.inl ⟨hdescribed.1, hdescribed.2, .inl ⟨rfl, he ▸ hmem⟩⟩)
        · exact .inl rfl
      · next hne =>
        refine .inr (.inl ⟨hdescribed.1, hdescribed.2, .inr ⟨rfl, fun _ h _ => ?_⟩⟩)
        cases hack.symm.trans h
        omega
    · next hsession =>
      refine .inr (.inl ⟨hdescribed.1, hdescribed.2, .inr ⟨rfl, fun _ h hsame => ?_⟩⟩)
      cases hack.symm.trans h
      exact absurd hsame hsession
  · next hnone =>
    refine .inr (.inl ⟨hdescribed.1, hdescribed.2, .inr ⟨rfl, fun _ h => ?_⟩⟩)
    cases hnone.symm.trans h

lemma RuntimePeerChannel.mem_acknowledged {a : PeerChannelReadinessEvidence} :
    a ∈ c.acknowledged e ↔ a ∈ c.readiness ∧ a.contextRoleId ≠ e.contextRoleId ∨ a = e := by
  rw [acknowledged, mem_insertionSort]
  simp [withoutPeer]

lemma RuntimePeerChannel.acknowledged_nodup (c : RuntimePeerChannel)
    (e : PeerChannelReadinessEvidence) (h : (c.readiness.map (·.contextRoleId)).Nodup) :
    ((c.acknowledged e).map (·.contextRoleId)).Nodup := by
  have hperm : (c.acknowledged e).Perm (c.withoutPeer e.contextRoleId ++ [e]) :=
    perm_insertionSort _ _
  rw [(hperm.map _).nodup_iff, map_append, map_singleton]
  refine List.nodup_append.mpr ⟨(List.filter_sublist.map _).nodup h,
    nodup_singleton _, fun role hrole role' hrole' => ?_⟩
  rw [List.mem_singleton.mp hrole']
  obtain ⟨_, hack, rfl⟩ := List.mem_map.mp hrole
  simpa using (List.mem_filter.mp hack).2

structure SoundChannel (c : RuntimePeerChannel) : Prop where
  peers : c.peers.Nodup
  profile : isBlank c.descriptor.profileId = false
  schema : isBlank c.descriptor.messageSchema = false
  distinct : (c.readiness.map (·.contextRoleId)).Nodup
  acknowledged : ∀ ack ∈ c.readiness, validReadiness c ack = true

namespace SoundChannel

variable (h : SoundChannel c)
include h

section

variable (lifecycle : PeerChannelLifecycle)

lemma restrict (keep : PeerChannelReadinessEvidence → Bool) :
    SoundChannel { c with lifecycle := lifecycle, readiness := c.readiness.filter keep } := by
  refine ⟨h.peers, h.profile, h.schema, ?_, fun ack hack => ?_⟩
  · exact (List.filter_sublist.map _).nodup h.distinct
  · exact h.acknowledged ack (mem_of_mem_filter hack)

lemma relifecycle : SoundChannel { c with lifecycle := lifecycle } :=
  ⟨h.peers, h.profile, h.schema, h.distinct, h.acknowledged⟩

lemma clear : SoundChannel { c with lifecycle := lifecycle, readiness := [] } :=
  ⟨h.peers, h.profile, h.schema, nodup_nil, by simp⟩

end

lemma expire (now : TimestampMs) : SoundChannel (c.expire now) := by
  rw [RuntimePeerChannel.expire]
  split
  · exact h.relifecycle .fenced
  · exact h

lemma fenceNode (node : NodeId) : SoundChannel (c.fenceNode node) := by
  rw [RuntimePeerChannel.fenceNode]
  split
  · exact h.restrict .fenced _
  · exact h

lemma accept (hvalid : validReadiness c e = true) : SoundChannel (c.accept e) := by
  refine ⟨h.peers, h.profile, h.schema, c.acknowledged_nodup e h.distinct, fun ack hack => ?_⟩
  rcases mem_acknowledged.mp hack with ⟨hack, -⟩ | rfl
  · exact h.acknowledged ack hack
  · exact hvalid

lemma observe (hgroup : e.groupId = c.groupId) (hcontext : e.contextId = c.contextId)
    (hpeer : e.contextRoleId ∈ c.peers) (hfresh : e.receivedAt < e.expiresAt)
    (hidentified : e.Identified) (hobserve : c.observe e = .ok c') : SoundChannel c' := by
  rcases c.observe_cases e with ho | ⟨hprofile, hschema, ⟨ho, -⟩ | ⟨ho, -⟩⟩ | ⟨_, ho, -⟩
  all_goals
    rw [ho] at hobserve
    cases hobserve
  · exact h.restrict .fenced _
  · exact h
  · have hnode := e.nodeId.nonblank
    have hlocal := e.localSystemId.nonblank
    refine h.accept ?_
    simp [validReadiness, hgroup, hcontext, hpeer, hprofile, hschema, hnode, hlocal,
      hidentified.session, hidentified.instanceId, hidentified.sequence, hfresh]

end SoundChannel

lemma RuntimePeerChannel.observe_same (h : c.observe e = .ok c') :
    c'.groupId = c.groupId ∧ c'.contextId = c.contextId := by
  rcases c.observe_cases e with ho | ⟨-, -, ⟨ho, -⟩ | ⟨ho, -⟩⟩ | ⟨_, ho, -⟩
  all_goals
    rw [ho] at h
    cases h
  all_goals exact ⟨rfl, rfl⟩

/-! ### The ledger -/

structure SoundCoordination (l : CoordinationLedger) : Prop where
  contextKey : ∀ key context, l.coordinationContexts.get? key = some context →
    toLex (context.groupId, context.contextId) = key
  view : ∀ key context, l.coordinationContexts.get? key = some context →
    validateContextView context = .ok ()
  channelKey : ∀ key channel, l.peerChannels.get? key = some channel →
    toLex (channel.groupId, channel.contextId) = key
  declared : ∀ key channel, l.peerChannels.get? key = some channel →
    l.coordinationContexts.contains key = true
  sound : ∀ key channel, l.peerChannels.get? key = some channel → SoundChannel channel

namespace SoundCoordination

variable {l : CoordinationLedger}

lemma setChannel (h : SoundCoordination l) {key : CoordinationKey}
    {channel updated : RuntimePeerChannel} (hget : l.peerChannels.get? key = some channel)
    (hgroup : updated.groupId = channel.groupId) (hcontext : updated.contextId = channel.contextId)
    (hsound : SoundChannel updated) :
    SoundCoordination { l with peerChannels := l.peerChannels.insert key updated } := by
  have hcases : ∀ {key' c}, (l.peerChannels.insert key updated).get? key' = some c →
      (key' = key ∧ c = updated) ∨ l.peerChannels.get? key' = some c := by
    intro key' c hc
    exact (insert_cases hc).imp (fun hnew => ⟨hnew.1, hnew.2.symm⟩) And.right
  refine { h with channelKey := ?_, declared := ?_, sound := ?_ }
  · intro key' c hc
    rcases hcases hc with ⟨rfl, rfl⟩ | hc
    · rw [hgroup, hcontext]
      exact h.channelKey key' channel hget
    · exact h.channelKey key' c hc
  · intro key' c hc
    rcases hcases hc with ⟨rfl, rfl⟩ | hc
    · exact h.declared key' channel hget
    · exact h.declared key' c hc
  · intro key' c hc
    rcases hcases hc with ⟨rfl, rfl⟩ | hc
    · exact hsound
    · exact h.sound key' c hc

lemma mapChannels (h : SoundCoordination l)
    {f : CoordinationKey → RuntimePeerChannel → RuntimePeerChannel}
    (hkey : ∀ key c, (f key c).groupId = c.groupId ∧ (f key c).contextId = c.contextId)
    (hsound : ∀ key c, SoundChannel c → SoundChannel (f key c)) :
    SoundCoordination { l with peerChannels := l.peerChannels.mapValues f } := by
  have hcases : ∀ {key c}, (l.peerChannels.mapValues f).get? key = some c →
      ∃ old, l.peerChannels.get? key = some old ∧ c = f key old := by
    intro key c hc
    rw [get?_mapValues, Option.map_eq_some_iff] at hc
    obtain ⟨old, hold, rfl⟩ := hc
    exact ⟨old, hold, rfl⟩
  refine { h with channelKey := ?_, declared := ?_, sound := ?_ }
  · intro key c hc
    obtain ⟨old, hold, rfl⟩ := hcases hc
    rw [(hkey key old).1, (hkey key old).2]
    exact h.channelKey key old hold
  · intro key c hc
    obtain ⟨old, hold, rfl⟩ := hcases hc
    exact h.declared key old hold
  · intro key c hc
    obtain ⟨old, hold, rfl⟩ := hcases hc
    exact hsound key old (h.sound key old hold)

lemma addContext {m : RuntimeExecutionManager} (h : SoundCoordination m.toCoordinationLedger)
    {group : ExecutionGroupId} {d : CoordinationDeclaration}
    (haccepted : d.newWithCoordination = .ok ()) :
    SoundCoordination (m.addContext group d).toCoordinationLedger := by
  obtain ⟨hroles, hview, hchannel⟩ := CoordinationDeclaration.newWithCoordination_ok haccepted
  have hcontexts : ∀ {key context}, (m.coordinationContexts.insert
      (toLex (group, d.context.contextId)) (contextDeclaration group d)).get? key = some context →
      (key = toLex (group, d.context.contextId) ∧ context = contextDeclaration group d) ∨
        m.coordinationContexts.get? key = some context := by
    intro key context hc
    exact (insert_cases hc).imp (fun hnew => ⟨hnew.1, hnew.2.symm⟩) And.right
  -- a channel is the declared one or was there before
  have hchannels : ∀ {key channel}, (m.addContext group d).peerChannels.get? key = some channel →
      (key = toLex (group, d.context.contextId) ∧ declaredChannel group d = some channel) ∨
        m.peerChannels.get? key = some channel := by
    intro key channel hc
    rw [RuntimeExecutionManager.addContext] at hc
    cases hd : declaredChannel group d with
    | none =>
      rw [hd] at hc
      exact .inr hc
    | some =>
      rw [hd] at hc
      exact (insert_cases hc).imp (fun hnew => ⟨hnew.1, congrArg some hnew.2⟩) And.right
  refine ⟨fun key context hc => ?_, fun key context hc => ?_, fun key channel hc => ?_,
    fun key channel hc => ?_, fun key channel hc => ?_⟩
  · rcases hcontexts hc with ⟨rfl, rfl⟩ | hc
    · rfl
    · exact h.contextKey key context hc
  · rcases hcontexts hc with ⟨rfl, rfl⟩ | hc
    · rw [validateContextView]
      cases hv : (contextDeclaration group d).sharedView with
      | none => rfl
      | some view => simp [hview view hv]
    · exact h.view key context hc
  · rcases hchannels hc with ⟨rfl, hd⟩ | hc
    · obtain ⟨descriptor, -, rfl⟩ := Option.map_eq_some_iff.mp hd
      rfl
    · exact h.channelKey key channel hc
  · show (m.coordinationContexts.insert _ _).contains key = true
    rw [contains_insert]
    rcases hchannels hc with ⟨rfl, -⟩ | hc
    · simp
    · have := h.declared key channel hc
      rw [this, Bool.or_true]
  · rcases hchannels hc with ⟨rfl, hd⟩ | hc
    · obtain ⟨descriptor, hdescriptor, rfl⟩ := Option.map_eq_some_iff.mp hd
      obtain ⟨hprofile, hschema⟩ := hchannel descriptor hdescriptor
      refine ⟨?_, hprofile, hschema, nodup_nil, by simp⟩
      exact (perm_insertionSort _ _).nodup_iff.mpr hroles
    · exact h.sound key channel hc

end SoundCoordination

end RoboGuide.Runtime
