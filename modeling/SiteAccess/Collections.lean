namespace SiteAccess

section LastPair

variable {κ α : Type} [DecidableEq κ] {pairs : List (κ × α)} {key : κ}

theorem find?_reverse_eq_some_iff {a : α} :
    (pairs.reverse.find? fun p => p.1 = key).map Prod.snd = some a ↔
      ∃ before after, pairs = before ++ (key, a) :: after ∧ ∀ p ∈ after, p.1 ≠ key := by
  rw [Option.map_eq_some_iff]
  constructor
  · rintro ⟨⟨k, b⟩, hf, rfl⟩
    obtain ⟨hk, before, after, hs, hn⟩ := List.find?_eq_some_iff_append.mp hf
    obtain rfl : k = key := by simpa using hk
    refine ⟨after.reverse, before.reverse, ?_, fun p hp => ?_⟩
    · simpa using congrArg List.reverse hs
    · simpa using hn p (List.mem_reverse.mp hp)
  · rintro ⟨before, after, rfl, hn⟩
    refine ⟨(key, a), List.find?_eq_some_iff_append.mpr ⟨by simp, ?_⟩, rfl⟩
    exact ⟨after.reverse, before.reverse, by simp, fun p hp => by
      simpa using hn p (List.mem_reverse.mp hp)⟩

end LastPair

/-- Values that are kept under keys. A value put under a key that is taken gets the place of the one
there. -/
abbrev Shelf (κ α : Type) := List (κ × α)

namespace Shelf

variable {κ α : Type} [DecidableEq κ]

def put (k : κ) (a : α) : Shelf κ α → Shelf κ α
  | [] => [(k, a)]
  | p :: ps => if p.1 = k then (k, a) :: ps else p :: put k a ps

def ofList (pairs : List (κ × α)) : Shelf κ α :=
  pairs.foldl (fun shelf p => put p.1 p.2 shelf) []

def get? (shelf : Shelf κ α) (k : κ) : Option α := (shelf.find? fun p => p.1 = k).map Prod.snd

def size (shelf : Shelf κ α) : Nat := shelf.length

variable {k l : κ} {a : α} {shelf : Shelf κ α}

theorem get?_put (k l : κ) (a : α) (shelf : Shelf κ α) :
    (put k a shelf).get? l = if k = l then some a else shelf.get? l := by
  induction shelf with
  | nil => by_cases h : k = l <;> simp [put, get?, h]
  | cons p ps ih =>
      simp only [get?] at ih
      rw [put]
      split
      case isTrue hp => by_cases h : k = l <;> simp [get?, h, hp]
      case isFalse hp =>
        by_cases h : p.1 = l
        · have hne : k ≠ l := fun he => hp (h.trans he.symm)
          simp [get?, h, hne]
        · simp [get?, h, ih]

theorem mem_keys_put : l ∈ (put k a shelf).map Prod.fst ↔ l = k ∨ l ∈ shelf.map Prod.fst := by
  induction shelf with
  | nil => simp [put]
  | cons p ps ih =>
      rw [put]
      split
      case isTrue hp => simp [hp]
      case isFalse hp =>
        rw [List.map_cons, List.mem_cons, ih, List.map_cons, List.mem_cons]
        exact or_left_comm

theorem nodup_put (h : (shelf.map Prod.fst).Nodup) : ((put k a shelf).map Prod.fst).Nodup := by
  induction shelf with
  | nil => simp [put]
  | cons p ps ih =>
      obtain ⟨hp, hps⟩ := List.nodup_cons.mp h
      rw [put]
      split
      case isTrue he => exact List.nodup_cons.mpr ⟨he ▸ hp, hps⟩
      case isFalse he =>
        refine List.nodup_cons.mpr ⟨fun hm => ?_, ih hps⟩
        exact (mem_keys_put.mp hm).elim he hp

theorem nodup_ofList (pairs : List (κ × α)) : ((ofList pairs).map Prod.fst).Nodup := by
  suffices h : ∀ shelf : Shelf κ α, (shelf.map Prod.fst).Nodup →
      ((pairs.foldl (fun shelf p => put p.1 p.2 shelf) shelf).map Prod.fst).Nodup from
    h [] List.nodup_nil
  induction pairs with
  | nil => exact fun _ h => h
  | cons p ps ih => exact fun _ h => ih _ (nodup_put h)

theorem get?_ofList (pairs : List (κ × α)) (k : κ) :
    (ofList pairs).get? k = (pairs.reverse.find? fun p => p.1 = k).map Prod.snd := by
  suffices h : ∀ shelf : Shelf κ α,
      get? (pairs.foldl (fun shelf p => put p.1 p.2 shelf) shelf) k =
        ((pairs.reverse.find? fun p => p.1 = k).map Prod.snd).or (shelf.get? k) by
    simpa [ofList, get?] using h []
  induction pairs with
  | nil => simp
  | cons p ps ih =>
      intro shelf
      rw [List.foldl_cons, ih, get?_put]
      by_cases hp : p.1 = k <;> simp [hp, List.find?_append]

theorem get?_eq_some_iff (h : (shelf.map Prod.fst).Nodup) :
    shelf.get? k = some a ↔ (k, a) ∈ shelf := by
  induction shelf with
  | nil => simp [get?]
  | cons p ps ih =>
      obtain ⟨hp, hps⟩ := List.nodup_cons.mp h
      have hi := ih hps
      simp only [get?] at hi
      rcases p with ⟨l, b⟩
      by_cases hk : l = k
      · subst hk
        have hn : (l, a) ∉ ps := fun hm => hp (List.mem_map.mpr ⟨(l, a), hm, rfl⟩)
        simp [get?, hn, eq_comm]
      · simp [get?, hk, hi, Ne.symm hk]

theorem mem_ofList_iff {pairs : List (κ × α)} : (k, a) ∈ ofList pairs ↔
    ∃ before after, pairs = before ++ (k, a) :: after ∧ ∀ p ∈ after, p.1 ≠ k := by
  rw [← get?_eq_some_iff (nodup_ofList pairs), get?_ofList]
  exact find?_reverse_eq_some_iff

theorem exists_mem_ofList {pairs : List (κ × α)} {p : κ × α} (h : p ∈ pairs) :
    ∃ a, (p.1, a) ∈ ofList pairs := by
  have hs : ((ofList pairs).get? p.1).isSome := by
    rw [get?_ofList, Option.isSome_map, List.find?_isSome]
    exact ⟨p, List.mem_reverse.mpr h, by simp⟩
  obtain ⟨a, ha⟩ := Option.isSome_iff_exists.mp hs
  exact ⟨a, (get?_eq_some_iff (nodup_ofList pairs)).mp ha⟩

end Shelf

namespace Ascending

variable {α κ : Type} [LT κ] [DecidableLT κ]

def Strict (key : α → κ) (xs : List α) : Prop := xs.Pairwise fun x y => key x < key y

/-- Puts an element in its place; one with the same key is replaced. -/
def insert (key : α → κ) (x : α) : List α → List α
  | [] => [x]
  | y :: ys =>
      if key x < key y then x :: y :: ys
      else if key y < key x then y :: insert key x ys
      else x :: ys

def ofList (key : α → κ) (xs : List α) : List α :=
  xs.foldl (fun sorted x => insert key x sorted) []

def find? [DecidableEq κ] (key : α → κ) (k : κ) (xs : List α) : Option α :=
  xs.find? fun x => key x = k

variable [LE κ] [Std.IsLinearOrder κ] [Std.LawfulOrderLT κ] {key : α → κ} {x y : α} {xs ys : List α}

omit [LE κ] [Std.IsLinearOrder κ] [Std.LawfulOrderLT κ] in
theorem mem_of_mem_insert (h : y ∈ insert key x xs) : y = x ∨ y ∈ xs := by
  induction xs with
  | nil => simpa [insert] using h
  | cons z zs ih =>
      rw [insert] at h
      split at h
      · simpa using h
      · split at h
        · rcases List.mem_cons.mp h with h | h
          · exact .inr (by simp [h])
          · exact (ih h).imp_right (List.mem_cons_of_mem z)
        · rcases List.mem_cons.mp h with h | h
          · exact .inl h
          · exact .inr (List.mem_cons_of_mem z h)

theorem strict_insert (h : Strict key xs) : Strict key (insert key x xs) := by
  induction xs with
  | nil => simp [insert, Strict]
  | cons z zs ih =>
      have hz := List.pairwise_cons.mp h
      rw [insert]
      split
      case isTrue hx =>
        refine List.pairwise_cons.mpr ⟨fun w hw => ?_, h⟩
        rcases List.mem_cons.mp hw with rfl | hw
        · exact hx
        · exact Std.lt_trans hx (hz.1 w hw)
      case isFalse hx =>
        split
        case isTrue hy =>
          refine List.pairwise_cons.mpr ⟨fun w hw => ?_, ih hz.2⟩
          rcases mem_of_mem_insert hw with rfl | hw
          · exact hy
          · exact hz.1 w hw
        case isFalse hy =>
          have he : key x = key z := Std.le_antisymm (Std.not_lt.mp hy) (Std.not_lt.mp hx)
          exact List.pairwise_cons.mpr ⟨fun w hw => he ▸ hz.1 w hw, hz.2⟩

theorem strict_ofList (key : α → κ) (xs : List α) : Strict key (ofList key xs) := by
  suffices h : ∀ acc, Strict key acc → Strict key (xs.foldl (fun s x => insert key x s) acc) from
    h [] List.Pairwise.nil
  induction xs with
  | nil => exact fun acc h => h
  | cons x xs ih => exact fun acc h => ih _ (strict_insert h)

theorem find?_insert [DecidableEq κ] (k : κ) :
    find? key k (insert key x xs) = if key x = k then some x else find? key k xs := by
  induction xs with
  | nil => simp [insert, find?, List.find?_cons]; split <;> simp_all
  | cons z zs ih =>
      simp only [find?] at ih
      rw [insert]
      split
      case isTrue hx => by_cases hk : key x = k <;> simp [find?, List.find?_cons, hk]
      case isFalse hx =>
        split
        case isTrue hy =>
          by_cases hz : key z = k
          · have hne : key x ≠ k := fun he => Std.lt_irrefl (hz.trans he.symm ▸ hy)
            simp [find?, hz, hne]
          · simp [find?, hz, ih]
        case isFalse hy =>
          have he : key x = key z := Std.le_antisymm (Std.not_lt.mp hy) (Std.not_lt.mp hx)
          by_cases hk : key x = k
          · simp [find?, hk]
          · simp [find?, hk, he ▸ hk]

theorem find?_ofList [DecidableEq κ] (k : κ) (xs : List α) :
    find? key k (ofList key xs) = xs.reverse.find? fun x => key x = k := by
  suffices h : ∀ acc, find? key k (xs.foldl (fun s x => insert key x s) acc) =
      (xs.reverse.find? fun x => key x = k).or (find? key k acc) by
    simpa [ofList, find?] using h []
  induction xs with
  | nil => simp
  | cons x xs ih =>
      intro acc
      rw [List.foldl_cons, ih, find?_insert]
      by_cases hx : key x = k <;> simp [hx, List.find?_append]

omit [DecidableLT κ] [Std.IsLinearOrder κ] in
theorem find?_eq_none_of_lt [DecidableEq κ] {k : κ} (h : ∀ x ∈ xs, k < key x) :
    find? key k xs = none := by
  refine List.find?_eq_none.mpr fun x hx he => ?_
  exact Std.lt_irrefl (of_decide_eq_true he ▸ h x hx)

omit [DecidableLT κ] in
theorem not_lt_of_find?_eq [DecidableEq κ] (hy : Strict key (y :: ys))
    (h : ∀ k, find? key k (x :: xs) = find? key k (y :: ys)) : ¬ key x < key y := by
  intro hlt
  have hn : find? key (key x) (y :: ys) = none := by
    refine find?_eq_none_of_lt fun z hz => ?_
    rcases List.mem_cons.mp hz with rfl | hz
    · exact hlt
    · exact Std.lt_trans hlt ((List.pairwise_cons.mp hy).1 z hz)
  have hx := (h (key x)).trans hn
  simp [find?] at hx

omit [DecidableLT κ] in
theorem eq_of_find?_eq [DecidableEq κ] (hx : Strict key xs) (hy : Strict key ys)
    (h : ∀ k, find? key k xs = find? key k ys) : xs = ys := by
  induction xs generalizing ys with
  | nil =>
      cases ys with
      | nil => rfl
      | cons y ys => simpa [find?] using h (key y)
  | cons x xs ih =>
      cases ys with
      | nil => simpa [find?] using h (key x)
      | cons y ys =>
          have hle : ¬ key x < key y := not_lt_of_find?_eq hy h
          have hge : ¬ key y < key x := not_lt_of_find?_eq hx fun k => (h k).symm
          have hk : key x = key y := Std.le_antisymm (Std.not_lt.mp hge) (Std.not_lt.mp hle)
          obtain rfl : x = y := by simpa [find?, hk] using h (key x)
          obtain ⟨hxs, hx⟩ := List.pairwise_cons.mp hx
          obtain ⟨hys, hy⟩ := List.pairwise_cons.mp hy
          congr 1
          refine ih hx hy fun k => ?_
          by_cases hxk : key x = k
          · subst hxk
            rw [find?_eq_none_of_lt hxs, find?_eq_none_of_lt hys]
          · simpa [find?, hxk] using h k

end Ascending

end SiteAccess
