import SiteAccess.EncryptionKey
import SiteAccess.Proofs.Json.Fields
import SiteAccess.Proofs.Time.Instant

namespace SiteAccess.EncryptionKey

open Decimal Json Time Timestamp

def members (id : Int32) (site : SiteId) (created activates expires : List Char) :
    List (String × Json) :=
  [("id", .int id.toInt), ("site_id", .int site.toInt),
    ("created", .str (String.ofList created)), ("activates", .str (String.ofList activates)),
    ("expires", .str (String.ofList expires))]

def stored (id : Int32) (site : SiteId) (created activates expires : List Char) : Json :=
  .obj (members id site created activates expires)

variable {id : Int32} {site : SiteId} {created activates expires : List Char} {c a e : Instant}

theorem nodup_members : ((members id site created activates expires).map Prod.fst).Nodup := by
  simp [members]

theorem regular_stored (depth : Nat) :
    Regular (depth + 1) (stored id site created activates expires) := by
  apply Regular.obj nodup_members
  simp only [members, List.mem_cons, List.not_mem_nil, or_false, forall_eq_or_imp, forall_eq]
  exact ⟨.int _ (fits_int32 id), .int _ (fits_int32 site), .str _ _, .str _ _, .str _ _⟩

theorem instant?_str {cs : List Char} {t : Instant} (h : read? (String.ofList cs) = some t) :
    instant? (.ofJson (.str (String.ofList cs))) = some t := h

theorem int32?_ofJson (n : Int32) : (Doc.ofJson (.int n.toInt)).int32? = some n :=
  Number.int32?_toInt n

theorem ofDoc?_stored (hc : read? (String.ofList created) = some c)
    (ha : read? (String.ofList activates) = some a)
    (he : read? (String.ofList expires) = some e) :
    ofDoc? (.ofJson (stored id site created activates expires)) =
      some ⟨id, site, c, a, e⟩ := by
  have hf : (Doc.ofJson (stored id site created activates expires)).fields? names 5 =
      some [some (.ofJson (.int id.toInt)), some (.ofJson (.int site.toInt)),
        some (.ofJson (.str (String.ofList created))),
        some (.ofJson (.str (String.ofList activates))),
        some (.ofJson (.str (String.ofList expires)))] :=
    Doc.fields?_ofJson 5 nodup_members
  simp only [ofDoc?, hf, int32?_ofJson, instant?_str hc, instant?_str ha, instant?_str he]
  rfl

theorem readText?_stored (hc : read? (String.ofList created) = some c)
    (ha : read? (String.ofList activates) = some a)
    (he : read? (String.ofList expires) = some e) :
    readText? ofDoc? (stored id site created activates expires).render =
      some ⟨id, site, c, a, e⟩ := by
  rw [readText?_render ofDoc? (regular_stored 0), ofDoc?_stored hc ha he]

theorem toJson_eq_stored (k : EncryptionKey) :
    k.toJson = stored k.id k.site k.created.text k.activates.text k.expires.text := rfl

theorem readText?_written (k : EncryptionKey) : readText? ofDoc? k.toJson.render = some k := by
  rw [toJson_eq_stored]
  exact readText?_stored k.created.read?_text k.activates.read?_text k.expires.read?_text

/-- A key is read back from what was written of it, and so is what was read from any text.
Timestamps of any zone, with any number of digits after the point, are read as the instants that
they denote; and the text of an instant is that of its timestamp, which has a second 60 for a leap
second. -/
theorem written_key_returns :
    (∀ k : EncryptionKey, readText? ofDoc? k.toJson.render = some k ∧
      (readText? ofDoc? k.toJson.render).map SiteOwned.site = some k.site) ∧
    (∀ (text : String) (k : EncryptionKey), readText? ofDoc? text = some k →
      readText? ofDoc? k.toJson.render = some k ∧
      (readText? ofDoc? k.toJson.render).map (·.toJson.render) = some k.toJson.render) ∧
    (∀ (k : EncryptionKey) (c a e : Stamp), c.WellFormed → a.WellFormed → e.WellFormed →
      c.Denotes k.created → a.Denotes k.activates → e.Denotes k.expires →
      readText? ofDoc? (stored k.id k.site c.text a.text e.text).render = some k) ∧
    ∀ t : Instant, t.text = t.stamp.text ∧ t.stamp.WellFormed ∧ t.stamp.Denotes t ∧
      (t.stamp.second = 60 ↔ 1000000000 ≤ t.nanos) := by
  refine ⟨?_, ?_, ?_, ?_⟩
  · intro k
    rw [k.readText?_written]
    exact ⟨rfl, rfl⟩
  · intro _ k _
    rw [k.readText?_written]
    exact ⟨rfl, rfl⟩
  · intro k c a e hc ha he hck hak hek
    exact readText?_stored (read?_of_denotes hc hck) (read?_of_denotes ha hak)
      (read?_of_denotes he hek)
  · intro t
    exact ⟨t.text_stamp.symm, t.wellFormed_stamp, t.denotes_stamp, t.second_stamp_eq_sixty_iff⟩

/-- The last second of 2016, which is a leap second, as it was said five hours behind. -/
def leapStamp : Stamp := ⟨⟨2016, 12, 31⟩, 18, 59, 60, "1234567899".toList, .behind 5 0⟩

def leapSecond : Instant := ⟨1483228799, 1123456789, by decide, by decide, by decide, by decide⟩

def leapKey : EncryptionKey := ⟨1, -5, leapSecond, leapSecond, leapSecond⟩

def leapText : String :=
  "\x7b\"site_id\": -5, \"id\": 1, \"created\": \"2016-12-31T18:59:60.1234567899-05:00\"," ++
    "\"activates\": \"2016-12-31 23:59:60.123456789z\"," ++
    "\"expires\": \"2017-01-01T00:59:60.123456789+01:00\"\x7d"

theorem leapKey_returns :
    readText? ofDoc? leapText = some leapKey ∧
      readText? ofDoc? leapKey.toJson.render = some leapKey ∧
      leapStamp.WellFormed ∧ leapStamp.Denotes leapSecond ∧
      readText? ofDoc? (stored 1 (-5) leapStamp.text leapStamp.text leapStamp.text).render =
        some leapKey := by
  have ht : readText? ofDoc? leapText = some leapKey := by decide +kernel
  have hw : leapStamp.WellFormed :=
    ⟨by decide, by decide, by decide, by decide, by decide, by decide,
      List.all_eq_true.mp (by decide), (by decide : 5 < 24 ∧ 0 < 60)⟩
  have hd : leapStamp.Denotes leapSecond := ⟨by decide, by decide⟩
  exact ⟨ht, (written_key_returns.2.1 leapText leapKey ht).1, hw, hd,
    written_key_returns.2.2.1 leapKey _ _ _ hw hw hw hd hd hd⟩

end SiteAccess.EncryptionKey
