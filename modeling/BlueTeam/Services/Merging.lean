/- GID: BlueTeam/Services/Merging
   generality: I
   source: services/api/app/services/incidents.py, packages/correlation/blueteam_correlation/rules.py
   digest: Which storylines share an incident. -/

import BlueTeam.Correlation.Fingerprint
import BlueTeam.Services.Grouping

set_option autoImplicit false
set_option relaxedAutoImplicit false

namespace BlueTeam.Services

open BlueTeam.Python BlueTeam.Schema BlueTeam.Lib BlueTeam.Lib.Exec
open BlueTeam.Correlation (incidentFingerprint partsOf OneEach SameContent Plain
  incidentFingerprint_eq_iff)

/-- One incident of the tenant stands for both storylines. -/
def Merged (tenantId : String) (w : World) (story story' : Storyline) : Prop :=
  ∃ r ∈ w.rowsOf .incidents tenantId, IncidentRecord.fingerprint r = incidentFingerprint story ∧
    IncidentRecord.fingerprint r = incidentFingerprint story'

section

variable {rt : Runtime} {tenantId : String} {w w' : World} {stories : List Storyline}
  {story story' : Storyline}

/-- After the loop every storyline has an incident, so those of one fingerprint are merged. -/
theorem persistAll_merged_iff (hgrouped : Grouped tenantId w.session)
    (hrun : persistAll rt tenantId stories w = (.ok (), w')) (hstory : story ∈ stories) :
    Merged tenantId w' story story' ↔ incidentFingerprint story = incidentFingerprint story' := by
  have hgrouping := (persistAll_grouping rt tenantId hgrouped stories).ok rfl hrun
  constructor
  · rintro ⟨r, -, hfp, hfp'⟩
    exact hfp.symm.trans hfp'
  · intro hsame
    have hseen := (hgrouping.mem_fingerprints (incidentFingerprint story)).mpr
      (List.mem_append_right _ (List.mem_map_of_mem hstory))
    unfold incidentGroups at hseen
    rw [List.map_map] at hseen
    obtain ⟨r, hr, hfp⟩ := List.mem_map.mp hseen
    exact ⟨r, hr, hfp, Eq.trans hfp hsame⟩

end

/-- The fingerprints are the same for the same content, and persisting merges nothing else. -/
structure KeptApart (rt : Runtime) (story story' : Storyline) : Prop where
  fingerprints : incidentFingerprint story = incidentFingerprint story' ↔ SameContent story story'
  incidents : ∀ tenantId stories w w', story ∈ stories → story' ∈ stories →
    Grouped tenantId w.session → persistAll rt tenantId stories w = (.ok (), w') →
      Merged tenantId w' story story' → SameContent story story'

/-- Two storylines are kept apart exactly if their texts are not confused. -/
theorem storylines_kept_apart_iff (rt : Runtime) {story story' : Storyline} (hone : OneEach story)
    (hone' : OneEach story') : KeptApart rt story story' ↔
      ¬ Confused story.title.toList (partsOf story) story'.title.toList (partsOf story') := by
  have hfingerprints := incidentFingerprint_eq_iff hone hone'
  constructor
  · intro h hconfused
    have hcontent := h.fingerprints.mp (hfingerprints.mpr (.inr hconfused))
    exact hcontent.not_confused hone hone' hconfused
  · intro h
    have hiff : incidentFingerprint story = incidentFingerprint story' ↔ SameContent story story' :=
      hfingerprints.trans (or_iff_left h)
    refine ⟨hiff, fun tenantId stories w w' hstory _ hgrouped hrun hmerged => ?_⟩
    exact hiff.mp ((persistAll_merged_iff hgrouped hrun hstory).mp hmerged)

/-- A storyline of an office program, as `_office_c2` makes it. -/
def officeStoryline (id host ip process : String) : Storyline where
  storylineId := id
  tenantId := "ten_a"
  title := "Office to PowerShell to beacon"
  entities := [("host", [host]), ("ip", [ip]), ("process", [process])]
  confidence := 85
  start := ⟨63839761325000000, some 0⟩
  finish := ⟨63839761325000000, some 0⟩

theorem storylines_kept_apart_plain :
    KeptApart sampleRuntime (officeStoryline "stl_1" "ws-1" "203.0.113.9" "winword.exe")
      (officeStoryline "stl_2" "ws-2" "203.0.113.9" "winword.exe") := by
  have hplain : Plain (officeStoryline "stl_1" "ws-1" "203.0.113.9" "winword.exe") :=
    ⟨by decide, by decide, by decide⟩
  have hplain' : Plain (officeStoryline "stl_2" "ws-2" "203.0.113.9" "winword.exe") :=
    ⟨by decide, by decide, by decide⟩
  exact (storylines_kept_apart_iff sampleRuntime (by decide) (by decide)).mpr
    (hplain.not_confused hplain')

/-- Names with separators in them: the end of the one's host is the beginning of the other's process. -/
theorem storylines_merged :
    ¬ SameContent (officeStoryline "stl_1" "ws-1|ip=203.0.113.9|process=a" "198.51.100.7" "b")
        (officeStoryline "stl_2" "ws-1" "203.0.113.9" "a|ip=198.51.100.7|process=b") ∧
      ¬ KeptApart sampleRuntime
        (officeStoryline "stl_1" "ws-1|ip=203.0.113.9|process=a" "198.51.100.7" "b")
        (officeStoryline "stl_2" "ws-1" "203.0.113.9" "a|ip=198.51.100.7|process=b") := by
  have hdiffer : ¬ SameContent
      (officeStoryline "stl_1" "ws-1|ip=203.0.113.9|process=a" "198.51.100.7" "b")
      (officeStoryline "stl_2" "ws-1" "203.0.113.9" "a|ip=198.51.100.7|process=b") := by
    intro h
    have hips : (["198.51.100.7"].filter (· ≠ "")).Perm (["203.0.113.9"].filter (· ≠ "")) :=
      h.values "ip" _ _ (by simp [officeStoryline]) (by simp [officeStoryline])
    revert hips
    decide
  exact ⟨hdiffer, fun h => hdiffer (h.fingerprints.mp (by decide))⟩

end BlueTeam.Services
