import Mathlib.Data.List.TFAE
import Mathlib.Tactic.TFAE
import SiteAccess.Proofs.AccessList.Reader

namespace SiteAccess.AccessList

open Json

variable {a b : AccessList} {flag : Bool} {sites xs ys : List SiteId}

theorem ofSites_eq_iff : ofSites flag xs = ofSites flag ys ↔ ∀ s, s ∈ xs ↔ s ∈ ys := by
  constructor
  · intro h s
    rw [← @mem_ofSites flag xs s, h, mem_ofSites]
  · intro h
    refine eq_of_mem_iff rfl fun s => ?_
    rw [mem_ofSites, mem_ofSites, h]

theorem mem_iff_of_admits_eq (h : ∀ s, (ofSites flag xs).admits s = (ofSites flag ys).admits s)
    (s : SiteId) : s ∈ xs ↔ s ∈ ys := by
  have hs := h s
  rw [admits_ofSites, admits_ofSites] at hs
  cases flag <;> simpa using hs

theorem render_eq_iff : a.toJson.render = b.toJson.render ↔ a = b :=
  written_eq_iff (readText? ofDoc?) readText?_written fun _ _ => Option.some.inj

theorem sites_ofSites_eq_iff {sorted : List SiteId} : (ofSites flag sites).sites = sorted ↔
    sorted.Pairwise (· < ·) ∧ ∀ s, s ∈ sorted ↔ s ∈ sites := by
  constructor
  · rintro rfl
    exact ⟨(ofSites flag sites).ascending, fun s => mem_ofSites⟩
  · rintro ⟨ho, hm⟩
    have he : ofSites flag sites = ⟨flag, sorted, ho⟩ := by
      refine eq_of_mem_iff rfl fun s => ?_
      rw [mem_ofSites, hm]
    rw [he]

theorem admits_allow_eq_not_block (sites : List SiteId) (s : SiteId) :
    (allow sites).admits s = !(block sites).admits s := by
  rw [allow, block, admits_ofSites, admits_ofSites]
  cases decide (s ∈ sites) <;> rfl

theorem allow_ne_block (sites : List SiteId) : allow sites ≠ block sites := by
  intro h
  have hs := admits_allow_eq_not_block sites 0
  rw [h] at hs
  simp at hs

/-- Lists of one kind are the same list just when they answer alike about every site, and just when
they were built from the same sites, in whatever order and however often; they then hold these in
the only ascending order and are written alike. A list that allows and one that blocks the same
sites differ and answer every question the other way. -/
theorem same_list_tfae (flag : Bool) (xs ys : List SiteId) :
    [ofSites flag xs = ofSites flag ys,
      ∀ s, (ofSites flag xs).admits s = (ofSites flag ys).admits s,
      ∀ s, s ∈ xs ↔ s ∈ ys,
      (ofSites flag xs).sites = (ofSites flag ys).sites,
      (ofSites flag xs).toJson.render = (ofSites flag ys).toJson.render].TFAE ∧
    (∀ sorted : List SiteId, (ofSites flag xs).sites = sorted ↔
      sorted.Pairwise (· < ·) ∧ ∀ s, s ∈ sorted ↔ s ∈ xs) ∧
    allow xs ≠ block xs ∧ ∀ s, (allow xs).admits s = !(block xs).admits s := by
  refine ⟨?_, fun sorted => sites_ofSites_eq_iff, allow_ne_block xs, admits_allow_eq_not_block xs⟩
  tfae_have 1 → 2 := by
    intro h s
    rw [h]
  tfae_have 2 → 3 := mem_iff_of_admits_eq
  tfae_have 3 → 1 := ofSites_eq_iff.mpr
  tfae_have 1 ↔ 4 := ⟨fun h => by rw [h], eq_of_fields rfl⟩
  tfae_have 5 ↔ 1 := render_eq_iff
  tfae_finish

-- Sites are ordered as signed numbers.
example : (ofSites true [7, -1, 7, -2147483648]).sites = [-2147483648, -1, 7] := by decide

end SiteAccess.AccessList
