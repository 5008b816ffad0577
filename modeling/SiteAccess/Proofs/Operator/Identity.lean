import SiteAccess.Proofs.AccessList
import SiteAccess.Proofs.Record.Content

namespace SiteAccess

open Json Record

namespace Piece

theorem site_append_inj {s t : Option SiteId} {ps qs : List Piece}
    (h : site s ++ ps = site t ++ qs) : s = t ∧ ps = qs := by
  cases s <;> cases t <;> simp_all [site, Int32.toInt_inj]

theorem roles_inj {s t : RoleSet} (h : roles s = roles t) : s = t := by
  have hr : s.roles.map (fun r => Piece.number r.rank) = t.roles.map fun r => .number r.rank :=
    (List.cons.inj h).2
  have hinj : ∀ a b : Role, Piece.number a.rank = .number b.rank → a = b := fun a b he =>
    Role.rank_injective (Int.ofNat.inj (Piece.number.inj he))
  have he : s.roles = t.roles := (List.map_inj_right hinj).mp hr
  exact RoleSet.ext fun r => by rw [he]

end Piece

namespace Operator

theorem pieces_injective {op other : Operator} (h : op.pieces = other.pieces) : op = other := by
  simp only [pieces, List.append_assoc, List.cons_append, List.nil_append, List.cons.injEq,
    Piece.text.injEq, Piece.number.injEq, Int64.toInt_inj, Piece.flag] at h
  obtain ⟨hkey, hname, hcontact, hprotocol, hcreated, hdisabled, hrest⟩ := h
  obtain ⟨hsite, hrest⟩ := Piece.site_append_inj hrest
  obtain ⟨hroles, htype⟩ := List.append_inj' hrest rfl
  have hd : op.disabled = other.disabled := by
    revert hdisabled
    cases op.disabled <;> cases other.disabled <;> simp [Bool.toInt]
  have ht : op.operatorType = other.operatorType := by
    revert htype
    cases op.operatorType <;> cases other.operatorType <;> simp [OperatorType.ctorIdx]
  cases op
  cases other
  simp only [Operator.mk.injEq]
  exact ⟨hkey, hname, hcontact, hprotocol, hcreated, hd, hsite, Piece.roles_inj hroles, ht⟩

def HashedAlike (op other : Operator) : Prop :=
  ∀ (σ : Type) (take : σ → Piece → σ) (start : σ), op.digest take start = other.digest take start

/-- Fields are told apart by some hash, since all of them go into it. -/
theorem hashedAlike_iff {op other : Operator} : HashedAlike op other ↔ op = other := by
  constructor
  · intro h
    have hp := h (List Piece) (fun taken p => p :: taken) []
    simp only [digest, List.foldl_flip_cons_eq_append, List.map_id_fun', id_eq, List.append_nil,
      List.reverse_inj] at hp
    exact pieces_injective hp
  · rintro rfl σ take start
    rfl

theorem render_inj {op other : Operator} : op.render = other.render ↔ op = other := by
  refine written_eq_iff (fun text => (ofText text).value) (fun op => ?_) fun _ _ => Except.ok.inj
  rw [ofText_written]
  rfl

end Operator

structure Loaded where
  record : Json
  operator : Operator
  accepted : (Operator.ofRecord .standard record).value = .ok operator

/-- Records that say the same share an entry, which holds what the last of them came with. -/
structure KeepsLast {α : Type} (entries : List (Loaded × α)) (roster : Roster α) : Prop where
  nodup : (roster.map Prod.fst).Nodup
  mem_iff : ∀ op a, (op, a) ∈ roster ↔ ∃ before x after, entries = before ++ (x, a) :: after ∧
    x.operator = op ∧ ∀ y ∈ after, ¬ SameContent x.record y.1.record
  one : ∀ x ∈ entries, ∃ a, (x.1.operator, a) ∈ roster ∧ ∀ b, (x.1.operator, b) ∈ roster → b = a

namespace Loaded

variable {α : Type}

theorem load_eq (x : Loaded) : load Settings.standard.operatorType x.record = .ok x.operator :=
  value_ofRecord_eq_ok_iff.mp x.accepted

theorem operator_eq_iff (x y : Loaded) :
    x.operator = y.operator ↔ SameContent x.record y.record :=
  eq_iff_sameContent x.load_eq y.load_eq

theorem keepsLast_ofList (entries : List (Loaded × α)) :
    KeepsLast entries (Shelf.ofList (entries.map fun e => (e.1.operator, e.2))) := by
  refine ⟨Shelf.nodup_ofList _, fun op a => ?_, fun x hx => ?_⟩
  · rw [Shelf.mem_ofList_iff]
    constructor
    · rintro ⟨before, after, hs, hn⟩
      obtain ⟨earlier, rest, rfl, rfl, hr⟩ := List.map_eq_append_iff.mp hs
      obtain ⟨⟨x, b⟩, later, rfl, hx, rfl⟩ := List.map_eq_cons_iff.mp hr
      obtain ⟨rfl, rfl⟩ := Prod.mk.inj hx
      refine ⟨earlier, x, later, rfl, rfl, fun y hy hc => ?_⟩
      exact hn _ (List.mem_map.mpr ⟨y, hy, rfl⟩) ((operator_eq_iff _ _).mpr hc.symm)
    · rintro ⟨before, x, after, rfl, rfl, hn⟩
      refine ⟨_, _, List.map_append, fun p hp he => ?_⟩
      obtain ⟨y, hy, rfl⟩ := List.mem_map.mp hp
      exact hn y hy ((operator_eq_iff _ _).mp he.symm)
  · have hm : (x.1.operator, x.2) ∈ entries.map fun e => (e.1.operator, e.2) :=
      List.mem_map_of_mem hx
    obtain ⟨a, ha⟩ := Shelf.exists_mem_ofList hm
    refine ⟨a, ha, fun b hb => ?_⟩
    rw [← Shelf.get?_eq_some_iff (Shelf.nodup_ofList _)] at ha hb
    exact Option.some.inj (hb.symm.trans ha)

end Loaded

/-- Operators are told apart by what their records say, by what is written of them and by some hash;
a roster that is filled from records has one entry for all records that say the same. -/
theorem loaded_equal_iff_same_content {α : Type} :
    (∀ x y : Loaded, x.operator = y.operator ↔ SameContent x.record y.record) ∧
    (∀ ms : Members,
      SameContent (.obj (ms.filter fun m => Field.order.any (·.label = m.1))) (.obj ms)) ∧
    (∀ op other : Operator,
      (op.HashedAlike other ↔ op = other) ∧ (op.render = other.render ↔ op = other)) ∧
    ∀ entries : List (Loaded × α),
      KeepsLast entries (Shelf.ofList (entries.map fun e => (e.1.operator, e.2))) :=
  ⟨Loaded.operator_eq_iff, sameContent_filter,
    fun _ _ => ⟨Operator.hashedAlike_iff, Operator.render_inj⟩, Loaded.keepsLast_ofList⟩

def Loaded.plain : Loaded where
  record := .obj [("key", .str "a"), ("name", .str "Clerk"), ("contact", .str ""),
    ("protocol", .str "trusted"), ("created", .int 1), ("roles", .arr [.str "OPTOUT"])]
  operator :=
    { key := "a", name := "Clerk", contact := "", protocol := "trusted", created := 1,
      disabled := false, site := none, roles := .normalize [.optout],
      operatorType := .privateOperator }
  accepted := rfl

def Loaded.spelled : Loaded where
  record := .obj [("roles", .arr [.str " optout", .null, .str "Operator", .str "OptOut"]),
    ("team", .int 7), ("site_id", .null), ("created", .int 1), ("protocol", .str "trusted"),
    ("contact", .str ""), ("name", .str "Clerk"), ("key", .str "a"), ("disabled", .bool false),
    ("operator_type", .str "PRIVATE")]
  operator := Loaded.plain.operator
  accepted := rfl

theorem spelled_shares_entry :
    SameContent Loaded.plain.record Loaded.spelled.record ∧
      KeepsLast [(Loaded.plain, 1), (Loaded.spelled, 2)] [(Loaded.plain.operator, 2)] := by
  have h := @loaded_equal_iff_same_content Nat
  exact ⟨(h.1 .plain .spelled).mp rfl, h.2.2.2 [(.plain, 1), (.spelled, 2)]⟩

end SiteAccess
