import RoboGuide.Federation.Startup
import RoboGuide.Federation.Changes

/-!
# `RoboGuide.Proofs.RootHistory`: the history of profiles installs again

Each revision is checked against its predecessor only, so the history that was installed one
turn at a time is installed again by a fold over it (`HistorySound.install`). What an
installation depends on is the history and whether there is an admission table, which says
whether the history is modern (`Tabled`).
-/

namespace RoboGuide.Federation

open Domain Lib Fallible List OrdMap Bool

inductive Installed (s : State) (profile : Profile) : State → Prop where
  | same (last : lastProfile s.profiles = some profile) : Installed s profile s
  | next {origins : Option (OrdMap String (Option Nat))}
      (other : lastProfile s.profiles ≠ some profile)
      (successor : validateSuccessor s.profiles profile = .ok ())
      (room : s.profiles.keys.length < 1024)
        (origins_ok : installedOrigins s profile = .ok origins) :
      Installed s profile
        { s with profiles := s.profiles.insert profile.revision profile, origins }

/-- There is an admission table exactly when the history has a v0.3 profile. -/
def Tabled (s : State) : Prop := s.origins.isSome = modern s.profiles

section

variable {s s' u : State} {profile : Profile} {profiles : OrdMap Nat Profile}

lemma installProfile_ok (h : installProfile s profile = .ok s') :
    profile.validateShape = .ok () ∧ Installed s profile s' := by
  simp only [installProfile, bind_eq_ok] at h
  obtain ⟨_, hshape, h⟩ := h
  refine ⟨hshape, ?_⟩
  split at h
  · next hlast =>
    obtain rfl := pure_eq_ok.mp h
    exact .same hlast
  · next hother =>
    simp only [bind_eq_ok, refuse_eq_ok, decide_eq_false_iff_not, Nat.not_le, pure_eq_ok] at h
    obtain ⟨_, hsuccessor, _, hroom, _, horigins, rfl⟩ := h
    exact .next hother hsuccessor hroom horigins

lemma validateShape_stop (h : profile.validateShape = .ok ()) :
    (profile.schemaVersion = .v03 → ∃ durationMs,
      profile.stopObservationBudgetMs = some durationMs ∧
      0 < durationMs ∧ durationMs ≤ 3600000) ∧
      (profile.schemaVersion ≠ .v03 → profile.stopObservationBudgetMs = none) := by
  simp only [Profile.validateShape, bind_eq_ok, refuse_eq_ok, or_eq_false_iff] at h
  obtain ⟨_, -, -, hstop⟩ := h
  constructor
  · intro hv03
    rw [if_pos hv03, not_eq_false', Option.any_eq_true] at hstop
    obtain ⟨durationMs, hsome, hbounds⟩ := hstop
    simp only [and_eq_true, decide_eq_true_eq] at hbounds
    exact ⟨durationMs, hsome, by omega, by omega⟩
  · intro hold
    rw [if_neg hold] at hstop
    simpa using hstop

lemma validateSuccessor_ok (h : validateSuccessor profiles profile = .ok ()) :
    (∀ e ∈ profiles.entries, e.1 < profile.revision) ∧
      ∀ last, lastProfile profiles = some last →
        last.schemaVersion.rank ≤ profile.schemaVersion.rank := by
  unfold validateSuccessor at h
  unfold lastProfile values
  rw [getLast?_map]
  split at h
  · next revision previous hlast =>
    simp only [bind_eq_ok, refuse_eq_ok, or_eq_false_iff, decide_eq_false_iff_not, Nat.not_lt,
      bne_eq_false_iff_eq] at h
    obtain ⟨_, ⟨⟨⟨⟨hrank, hnext⟩, -⟩, -⟩, -⟩, -⟩ := h
    have hrevision : profile.revision = revision + 1 := by
      unfold checkedAdd at hnext
      split at hnext
      · exact (Option.some.inj hnext).symm
      · cases hnext
    rw [hlast]
    refine ⟨fun e he => ?_, fun last hsome => ?_⟩
    · -- the keys are sorted, so the last one is the largest
      obtain ⟨_, hinit⟩ := getLast?_eq_some_iff.mp hlast
      have hsorted := profiles.sorted
      rw [hinit] at he hsorted
      rcases mem_append.mp he with hbefore | hend
      · have := (pairwise_append.mp hsorted).2.2 e hbefore _ mem_cons_self
        dsimp only at this
        omega
      · rw [mem_singleton.mp hend]
        dsimp only
        omega
    · cases hsome
      exact hrank
  · next hnone =>
    rw [hnone, getLast?_eq_none_iff.mp hnone]
    exact ⟨fun e he => absurd he not_mem_nil, fun last hsome => by cases hsome⟩

lemma values_insert_next (h : ∀ e ∈ profiles.entries, e.1 < profile.revision) :
    (profiles.insert profile.revision profile).values = profiles.values ++ [profile] := by
  unfold values
  rw [entries_insert_of_lt profile h, map_append]
  rfl

lemma modern_insert_next (h : ∀ e ∈ profiles.entries, e.1 < profile.revision) :
    modern (profiles.insert profile.revision profile) =
      (modern profiles || profile.schemaVersion == .v03) := by
  unfold modern
  rw [values_insert_next h, any_append]
  simp

lemma installedOrigins_ok (profile : Profile) (htabled : Tabled s) :
    ∃ origins, installedOrigins s profile = .ok origins ∧
      origins.isSome = (modern s.profiles || profile.schemaVersion == .v03) := by
  unfold installedOrigins
  unfold Tabled at htabled
  split
  · next hfirst =>
    simp only [and_eq_true, not_eq_true'] at hfirst
    rw [htabled, hfirst.2, hfirst.1]
    exact ⟨_, rfl, rfl⟩
  · next hlater =>
    refine ⟨s.origins, rfl, ?_⟩
    rw [htabled]
    cases hmodern : modern s.profiles with
    | true => rfl
    | false => simpa [hmodern] using hlater

lemma Installed.tabled (h : Installed s profile s') (htabled : Tabled s) : Tabled s' := by
  cases h with
  | same => exact htabled
  | next other successor room origins_ok =>
    obtain ⟨_, horigins', hsome⟩ := installedOrigins_ok profile htabled
    obtain rfl := Except.ok.inj (origins_ok.symm.trans horigins')
    unfold Tabled
    rw [modern_insert_next (validateSuccessor_ok successor).1]
    exact hsome

lemma installProfile_congr (hprofiles : u.profiles = s.profiles) (htabled : Tabled u)
    (h : installProfile s profile = .ok s') :
    ∃ u', installProfile u profile = .ok u' ∧ u'.profiles = s'.profiles := by
  obtain ⟨hshape, hinstalled⟩ := installProfile_ok h
  unfold installProfile
  rw [hshape, hprofiles]
  cases hinstalled with
  | same last =>
    refine ⟨u, ?_, hprofiles⟩
    rw [if_pos last]
    rfl
  | next other successor =>
    obtain ⟨origins', horigins', -⟩ := installedOrigins_ok profile htabled
    refine ⟨{ u with
      profiles := s.profiles.insert profile.revision profile, origins := origins' }, ?_, rfl⟩
    have hroom : decide (1024 ≤ s.profiles.keys.length) = false := by
      rw [decide_eq_false_iff_not]
      omega
    rw [if_neg other, successor, horigins', hroom]
    rfl

/-! ### Histories -/

/-- The later history holds the earlier one. -/
def Grows (profiles profiles' : OrdMap Nat Profile) : Prop :=
  ∀ revision p, profiles.get? revision = some p → profiles'.get? revision = some p

/-- What `validate` asks of a history, and what the admission of transactions needs of it. -/
structure HistorySound (profiles : OrdMap Nat Profile) : Prop where
  replays : ∃ revisions, replayProfiles profiles = .ok revisions ∧ revisions.profiles = profiles ∧
    Tabled revisions
  keyed : ∀ revision p, profiles.get? revision = some p → p.revision = revision
  room : profiles.keys.length ≤ 1024
  /-- No schema is older than one before it. -/
  ranked : ∀ last, lastProfile profiles = some last → ∀ p ∈ profiles.values,
    p.schemaVersion.rank ≤ last.schemaVersion.rank

lemma HistorySound.empty : HistorySound ∅ where
  replays := ⟨.empty, rfl, rfl, rfl⟩
  keyed := fun _ _ h => by cases h
  room := Nat.zero_le _
  ranked := fun _ h => by cases h

lemma Installed.last (h : Installed s profile s') : lastProfile s'.profiles = some profile := by
  cases h with
  | same last => exact last
  | next other successor =>
    unfold lastProfile
    rw [values_insert_next (validateSuccessor_ok successor).1, getLast?_concat]

lemma Installed.grows (h : Installed s profile s') : Grows s.profiles s'.profiles := by
  intro revision p hp
  cases h with
  | same => exact hp
  | next other successor =>
    have hlt := (validateSuccessor_ok successor).1 _ (mem_entries_iff.mpr hp)
    exact (get?_insert_of_ne (Nat.ne_of_lt hlt)).trans hp

lemma HistorySound.install (h : HistorySound s.profiles)
    (hok : installProfile s profile = .ok s') :
    HistorySound s'.profiles := by
  obtain ⟨-, hinstalled⟩ := installProfile_ok hok
  have hgrows := hinstalled.grows
  cases hinstalled with
  | same => exact h
  | next other successor =>
    obtain ⟨hafter, hrank⟩ := validateSuccessor_ok successor
    obtain ⟨_, hreplay, hsame, htabled⟩ := h.replays
    refine ⟨?_, fun revision p hp => ?_, ?_, fun last hlast p hp => ?_⟩
    · obtain ⟨revisions', hnext, hprofiles⟩ := installProfile_congr hsame htabled hok
      refine ⟨revisions', ?_, hprofiles, (installProfile_ok hnext).2.tabled htabled⟩
      unfold replayProfiles at hreplay ⊢
      rw [values_insert_next hafter, foldlM_append, hreplay]
      exact (bind_pure _).trans hnext
    · rcases insert_cases hp with ⟨rfl, rfl⟩ | ⟨-, hp⟩
      exacts [rfl, h.keyed revision p hp]
    · have hlength : (s.profiles.insert profile.revision profile).keys.length =
          s.profiles.keys.length + 1 := by
        unfold OrdMap.keys
        rw [entries_insert_of_lt profile hafter]
        simp
      rw [hlength]
      omega
    · dsimp only at hlast hp
      unfold lastProfile at hlast
      rw [values_insert_next hafter] at hlast hp
      rw [getLast?_concat] at hlast
      cases hlast
      rcases mem_append.mp hp with hold | hnew
      · cases hprevious : lastProfile s.profiles with
        | none =>
          rw [getLast?_eq_none_iff.mp hprevious] at hold
          cases hold
        | some previous =>
          exact (h.ranked previous hprevious p hold).trans (hrank previous hprevious)
      · rw [mem_singleton.mp hnew]

lemma HistorySound.get?_last (h : HistorySound profiles)
    (hlast : lastProfile profiles = some profile) :
    profiles.get? profile.revision = some profile := by
  have hmem : profile ∈ profiles.values := mem_of_getLast? hlast
  obtain ⟨revision, hget⟩ := mem_values_iff.mp hmem
  rw [h.keyed revision profile hget]
  exact hget

lemma HistorySound.not_modern (h : HistorySound profiles)
    (hlast : lastProfile profiles = some profile) (hold : profile.schemaVersion ≠ .v03) :
    modern profiles = false := by
  unfold modern
  rw [any_eq_false]
  intro p hp hv03
  have hrank := h.ranked profile hlast p hp
  rw [beq_iff_eq.mp hv03] at hrank
  cases hversion : profile.schemaVersion with
  | v03 => exact hold hversion
  | v01 | v02 =>
    rw [hversion] at hrank
    simp [PeerSchema.rank] at hrank

end

end RoboGuide.Federation
