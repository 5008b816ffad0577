import Mathlib.Data.List.Find
import Mathlib.Data.List.Nodup
import SiteAccess.Snapshot

namespace SiteAccess

namespace Ascending

theorem find?_id {κ : Type} [DecidableEq κ] (k : κ) (xs : List κ) :
    find? id k xs = if k ∈ xs then some k else none := by
  induction xs with
  | nil => rfl
  | cons x xs ih =>
      simp only [find?, id_eq] at ih
      by_cases hx : x = k
      · simp [find?, hx]
      · simp [find?, hx, Ne.symm hx, ih]

variable {α κ : Type} [LT κ] [LE κ] [Std.LawfulOrderLT κ] {key : α → κ} {x y : α} {xs ys : List α}

theorem Strict.nodup (h : Strict key xs) : (xs.map key).Nodup := by
  refine List.pairwise_map.mpr (h.imp fun hlt he => ?_)
  exact Std.lt_irrefl (he ▸ hlt)

theorem Strict.eq_of_mem (h : Strict key xs) (hx : x ∈ xs) (hy : y ∈ xs) (he : key x = key y) :
    x = y :=
  List.inj_on_of_nodup_map h.nodup hx hy he

theorem Strict.find?_eq_some_iff [DecidableEq κ] (h : Strict key xs) {k : κ} :
    find? key k xs = some x ↔ x ∈ xs ∧ key x = k := by
  constructor
  · intro hf
    have hk := List.find?_some hf
    exact ⟨List.mem_of_find?_eq_some hf, of_decide_eq_true hk⟩
  · rintro ⟨hx, rfl⟩
    have hs : (find? key (key x) xs).isSome := List.find?_isSome.mpr ⟨x, hx, decide_eq_true rfl⟩
    obtain ⟨y, hy⟩ := Option.isSome_iff_exists.mp hs
    have hk := List.find?_some hy
    rw [hy, h.eq_of_mem (List.mem_of_find?_eq_some hy) hx (of_decide_eq_true hk)]

theorem find?_of_perm [DecidableEq κ] (h : Strict key xs) (hp : xs.Perm ys) (k : κ) :
    (ys.find? fun x => key x = k) = find? key k xs := by
  refine (List.find?_eq_find?_of_perm hp ?_).symm
  rintro x ⟨hx, hkx⟩ y ⟨hy, hky⟩
  exact h.eq_of_mem hx hy ((of_decide_eq_true hkx).trans (of_decide_eq_true hky).symm)

end Ascending

namespace AccessList

theorem eq_of_mem_iff {a b : AccessList} (hf : a.isAllowList = b.isAllowList)
    (hs : ∀ s, s ∈ a.sites ↔ s ∈ b.sites) : a = b := by
  refine eq_of_fields hf (Ascending.eq_of_find?_eq a.ascending b.ascending fun k => ?_)
  simp only [Ascending.find?_id, hs]

theorem ofSites_sites (a : AccessList) : ofSites a.isAllowList a.sites = a :=
  eq_of_mem_iff rfl fun _ => mem_ofSites

end AccessList

end SiteAccess
