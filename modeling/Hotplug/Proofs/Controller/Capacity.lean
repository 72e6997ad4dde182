import Hotplug.Proofs.Controller.Acceptance

/-!
# How large a volume is made

A request for a volume gives a range of sizes: at least the required one, and at most the limit. The
volume has the required size, and the limit counts only where none is required. So a limit below the
required size is not noticed, and the volume is larger than it.

## Main results

* `requestedSize_range` — where the size that is asked for lies in the range.
* `capacity_of_served` — **the size of a volume that is served**, and where it lies.
* `limit_below_required_served` — a request that is served beyond its limit.
-/

namespace Hotplug.Controller

variable {s : Settings} {r : CreateVolume} {σ : Cluster.State}

/-- A positive size that is asked for is never below the required one, and it is within the limit
exactly if the required one is. -/
theorem requestedSize_range {range : CapacityRange} (hrange : r.capacity = some range)
    (h : 0 < requestedSize r) :
    requestedSize r = (if 0 < range.required then range.required else range.limit) ∧
      range.required ≤ requestedSize r ∧
      (0 < range.limit → (requestedSize r ≤ range.limit ↔ range.required ≤ range.limit)) := by
  have hsize : requestedSize r =
      if 0 < range.required then range.required else range.limit := by
    unfold requestedSize
    rw [hrange]
  rw [hsize] at h ⊢
  refine ⟨rfl, ?_⟩
  by_cases hrequired : 0 < range.required
  · rw [if_pos hrequired]
    exact ⟨Int.le_refl _, fun _ => Iff.rfl⟩
  · rw [if_neg hrequired] at h ⊢
    exact ⟨by omega, fun _ => iff_of_true (Int.le_refl _) (by omega)⟩

/-- **The size of a volume that is served.** A request that is served is answered with the size of
the volume of its name, which is there afterwards. It is the required size, where that is positive,
and the limit otherwise. So it is at least the required size, and it is at most the limit, where
there is one, exactly if the required size is. -/
theorem capacity_of_served {range : CapacityRange} {now : Instant} {out : Outcome Response}
    (hrange : r.capacity = some range)
    (hserved : (serve s ⟨now, .createVolume r⟩ σ).1 = .ok out) :
    ∃ answer v, out.response = .volume answer ∧
      (serve s ⟨now, .createVolume r⟩ σ).2.volume? s.ns r.name = some v ∧
      answer.id = v.name ∧ answer.capacity = v.size ∧
      answer.capacity = (if 0 < range.required then range.required else range.limit) ∧
      range.required ≤ answer.capacity ∧
      (0 < range.limit → (answer.capacity ≤ range.limit ↔ range.required ≤ range.limit)) := by
  obtain ⟨p, source, v, hsettled, -, rfl⟩ := settled_of_serve hserved
  obtain ⟨hchecked, hsize, -, -⟩ := plan_eq_ok_iff.1 hsettled.admitted.planned
  have hstored : v.size = p.size := (Cluster.reuse_eq_ok_iff.1 hsettled.reused).2.1
  have hwhere := requestedSize_range hrange hchecked.size
  rw [← hsize] at hwhere
  exact ⟨volumeReply r p v, v, rfl, hsettled.found, rfl, hstored.symm, hwhere⟩

/-- Where no size is required the volume has that of the limit. -/
theorem capacity_of_served_limited :
    (sizedFor (-1) 4096).capacity = some { required := -1, limit := 4096 } ∧
      (serve infra ⟨⟨0, 0⟩, .createVolume (sizedFor (-1) 4096)⟩ {}).1 = .ok (madeWith 4096) ∧
      ∃ v, (serve infra ⟨⟨0, 0⟩, .createVolume (sizedFor (-1) 4096)⟩ {}).2.volume? "infra" "a" =
        some v ∧ v.size = 4096 ∧ v.size ≤ 4096 := by
  have hserved : (serve infra ⟨⟨0, 0⟩, .createVolume (sizedFor (-1) 4096)⟩ {}).1 =
      .ok (madeWith 4096) := rfl
  obtain ⟨answer, v, hanswer, hstored, -, hsize, -, -, hlimit⟩ := capacity_of_served rfl hserved
  cases hanswer
  have hle := (hlimit (by decide)).2 (by decide)
  exact ⟨rfl, hserved, v, hstored, hsize.symm, Int.le_trans (Int.le_of_eq hsize.symm) hle⟩

/-- **A request can be served beyond its limit.** A limit of 1024 does not keep a volume from being
made with the 2048 that are required. -/
theorem limit_below_required_served :
    (sizedFor 2048 1024).capacity = some { required := 2048, limit := 1024 } ∧
      (serve infra ⟨⟨0, 0⟩, .createVolume (sizedFor 2048 1024)⟩ {}).1 = .ok (madeWith 2048) ∧
      ¬ (0 < (1024 : Int) → (2048 : Int) ≤ 1024) := by
  refine ⟨rfl, ?_, ?_⟩
  · rfl
  · decide

end Hotplug.Controller
