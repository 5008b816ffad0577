import SiteAccess.Json.Reader
import SiteAccess.Proofs.Decimal
import SiteAccess.Proofs.Json.Quoted

namespace SiteAccess.Json

open Decimal Doc

/-- Numbers are integers of 64 bits, no member is repeated, and at most `depth` arrays and objects
stand inside one another. -/
inductive Regular : Nat → Json → Prop
  | null (depth : Nat) : Regular depth .null
  | bool (depth : Nat) (b : Bool) : Regular depth (.bool b)
  | int (depth : Nat) {n : Int} (h : Fits n) : Regular depth (.int n)
  | str (depth : Nat) (s : String) : Regular depth (.str s)
  | arr {depth : Nat} {items : List Json} (h : ∀ v ∈ items, Regular depth v) :
      Regular (depth + 1) (.arr items)
  | obj {depth : Nat} {ms : List (String × Json)} (hn : (ms.map Prod.fst).Nodup)
      (h : ∀ m ∈ ms, Regular depth m.2) : Regular (depth + 1) (.obj ms)

theorem dropReplaced_of_nodup {κ α : Type} [DecidableEq κ] {ps : List (κ × α)}
    (h : (ps.map Prod.fst).Nodup) : dropReplaced ps = ps := by
  induction ps with
  | nil => rfl
  | cons p ps ih =>
      obtain ⟨hp, hps⟩ := List.nodup_cons.mp h
      have ha : ps.any (·.1 = p.1) = false := by
        simp only [List.any_eq_false, decide_eq_true_eq]
        exact fun q hq he => hp (he ▸ List.mem_map_of_mem hq)
      rw [dropReplaced, ha, ih hps]
      rfl

theorem ofJson_obj {ms : List (String × Json)} (h : (ms.map Prod.fst).Nodup) :
    ofJson (.obj ms) = .obj (ofMembers ms) := by
  have hn : ((ofMembers ms).map Prod.fst).Nodup := by
    have he : (ofMembers ms).map Prod.fst = (ms.map Prod.fst).map some := by
      simp [ofMembers_eq_map]
    rw [he]
    exact List.Pairwise.map some (fun _ _ hne he => hne (Option.some.inj he)) h
  rw [ofJson, dropReplaced_of_nodup hn]

theorem items?_ofItems {depth : Nat} {vs : List Json}
    (h : ∀ v ∈ vs, (ofJson v).value? depth = some v) : items? depth (ofItems vs) = some vs := by
  induction vs with
  | nil => rfl
  | cons v vs ih =>
      have hv := h v (by simp)
      have hvs := ih fun w hw => h w (by simp [hw])
      simp [ofItems, items?, hv, hvs]

theorem members?_ofMembers {depth : Nat} {ms : List (String × Json)}
    (h : ∀ m ∈ ms, (ofJson m.2).value? depth = some m.2) :
    members? depth (ofMembers ms) = some ms := by
  induction ms with
  | nil => rfl
  | cons m ms ih =>
      rcases m with ⟨name, v⟩
      have hv := h (name, v) (by simp)
      have hms := ih fun w hw => h w (by simp [hw])
      simp [ofMembers, ofMember, members?, member?, hv, hms]

theorem value?_ofJson {depth : Nat} {v : Json} (h : Regular depth v) :
    (ofJson v).value? depth = some v := by
  induction h with
  | null | bool | int | str => simp [ofJson, value?, Json.int]
  | arr h ih => simp [ofJson, value?, items?_ofItems ih]
  | obj hn h ih =>
      simp [ofJson_obj hn, value?, members?_ofMembers ih, dropReplaced_of_nodup hn]

namespace Doc

def Opens (c : Char) : Prop := c.isDigit = true ∨ c ∈ ['-', 'n', 't', 'f', '"', '[', '\x7b']

theorem Opens.isSpace_eq_false {c : Char} (h : Opens c) : isSpace c = false := by
  rcases h with h | h
  · simp only [isSpace, Bool.or_eq_false_iff, beq_eq_false_iff_ne, ne_eq]
    refine ⟨⟨⟨?_, ?_⟩, ?_⟩, ?_⟩ <;> rintro rfl <;> simp at h
  · simp only [List.mem_cons, List.not_mem_nil, or_false] at h
    rcases h with rfl | rfl | rfl | rfl | rfl | rfl | rfl <;> rfl

theorem Opens.ne_closing {c : Char} (h : Opens c) : c ≠ ']' := by
  rintro rfl
  revert h
  simp [Opens]

theorem skipSpaces_cons {c : Char} {cs : List Char} (h : isSpace c = false) :
    skipSpaces (c :: cs) = c :: cs := by
  simp [skipSpaces, h]

theorem intText_opens (n : Int) :
    ∃ c cs, intText n = c :: cs ∧ (c.isDigit = true ∨ c = '-') := by
  cases n with
  | ofNat n =>
      obtain ⟨d, ds, hd⟩ := List.exists_cons_of_ne_nil (natText_ne_nil n)
      exact ⟨d, ds, hd, .inl (isDigit_of_mem_natText (n := n) (by simp [hd]))⟩
  | negSucc n => exact ⟨'-', _, rfl, .inr rfl⟩

theorem write_opens {depth : Nat} {v : Json} (h : Regular depth v) :
    ∃ c cs, v.write = c :: cs ∧ Opens c := by
  cases h with
  | null => exact ⟨'n', _, rfl, by simp [Opens]⟩
  | bool _ b =>
      cases b with
      | false => exact ⟨'f', _, rfl, by simp [Opens]⟩
      | true => exact ⟨'t', _, rfl, by simp [Opens]⟩
  | @int _ n _ =>
      obtain ⟨c, cs, ht, hc⟩ := intText_opens n
      exact ⟨c, cs, by simpa [Json.int, write, Number.text] using ht,
        hc.imp_right fun he => by simp [he]⟩
  | str _ s => exact ⟨'"', _, rfl, by simp [Opens]⟩
  | @arr _ items _ => exact ⟨'[', writeItems items, by simp [write], by simp [Opens]⟩
  | @obj _ ms _ _ => exact ⟨'\x7b', writeMembers ms, by simp [write], by simp [Opens]⟩

/-- The text of a value is read as that value, and what follows is left over. Every step of reading
uses up a character, so that the length of the text is fuel enough. -/
def ReadsBack (v : Json) : Prop :=
  ∀ fuel rest, v.write.length ≤ fuel → EndsNumber rest →
    read fuel (v.write ++ rest) = (ofJson v, rest)

theorem read_number {fuel : Nat} {c : Char} {cs : List Char} (h : c.isDigit = true ∨ c = '-') :
    read (fuel + 1) (c :: cs) = readNumber (c :: cs) := by
  have ho : Opens c := h.imp_right fun he => by simp [he]
  have hne : c ∉ ['n', 't', 'f', '"', '[', '\x7b'] := by
    rcases h with h | rfl
    · intro hm
      simp only [List.mem_cons, List.not_mem_nil, or_false] at hm
      rcases hm with rfl | rfl | rfl | rfl | rfl | rfl <;> simp at h
    · decide
  simp only [List.mem_cons, List.not_mem_nil, or_false, not_or] at hne
  rw [read, skipSpaces_cons ho.isSpace_eq_false]
  split <;> simp_all

theorem readsBack_null : ReadsBack .null := by
  intro fuel rest hf hr
  cases fuel with
  | zero => simp [write, literal] at hf
  | succ fuel => simp [read, write, literal, ofJson, skipSpaces_cons, isSpace]

theorem readsBack_bool (b : Bool) : ReadsBack (.bool b) := by
  intro fuel rest hf hr
  cases fuel with
  | zero => cases b <;> simp [write, literal] at hf
  | succ fuel => cases b <;> simp [read, write, literal, ofJson, skipSpaces_cons, isSpace]

theorem readsBack_int {n : Int} (h : Fits n) : ReadsBack (.int n) := by
  intro fuel rest hf hr
  obtain ⟨c, cs, ht, hc⟩ := intText_opens n
  have hw : (Json.int n).write = intText n := by simp [Json.int, write, Number.text]
  rw [hw] at hf ⊢
  cases fuel with
  | zero => simp [ht] at hf
  | succ fuel =>
      rw [ht, List.cons_append, read_number hc, ← List.cons_append, ← ht, readNumber,
        Literal.read?_intText n hr]
      simp [Literal.number?_ofInt h, ofJson, Json.int]

theorem readsBack_str (s : String) : ReadsBack (.str s) := by
  intro fuel rest hf hr
  have hw : (Json.str s).write = Quoted.encode s := by simp [write]
  rw [hw, Quoted.encode_append]
  cases fuel with
  | zero => simp [hw, Quoted.encode] at hf
  | succ fuel =>
      simp [read, skipSpaces_cons, isSpace, readString, Quoted.read?_written, ofJson]

theorem endsNumber_cons {c : Char} {cs : List Char} (h : c ∈ [',', ']', '\x7d']) :
    EndsNumber (c :: cs) := by
  intro d hd
  obtain rfl : c = d := by simpa using hd
  simp only [List.mem_cons, List.not_mem_nil, or_false] at h
  rcases h with rfl | rfl | rfl <;> decide

theorem readItems_writeItems {vs : List Json} (hne : vs ≠ []) (h : ∀ v ∈ vs, ReadsBack v)
    (fuel : Nat) (rest : List Char) (hf : (writeItems vs).length ≤ fuel) :
    readItems fuel (writeItems vs ++ rest) = (ofItems vs, rest) := by
  induction vs generalizing fuel with
  | nil => exact absurd rfl hne
  | cons v vs ih =>
      have hv := h v (by simp)
      cases fuel with
      | zero => cases vs <;> simp [writeItems] at hf
      | succ fuel =>
          cases vs with
          | nil =>
              have hl : v.write.length ≤ fuel := by simpa [writeItems] using hf
              have hr := hv fuel (']' :: rest) hl (endsNumber_cons (by simp))
              simp [writeItems, readItems, hr, skipSpaces_cons, isSpace, ofItems]
          | cons w ws =>
              simp only [writeItems, List.length_append, List.length_cons] at hf
              have hr := hv fuel (',' :: (writeItems (w :: ws) ++ rest)) (by omega)
                (endsNumber_cons (by simp))
              have ht := ih (by simp) (fun u hu => h u (by simp [hu])) fuel (by omega)
              simp [writeItems, readItems, hr, ht, skipSpaces_cons, isSpace, ofItems]

theorem writeItems_opens {depth : Nat} {v : Json} (h : Regular depth v) (vs : List Json) :
    ∃ c cs, writeItems (v :: vs) = c :: cs ∧ Opens c := by
  obtain ⟨c, cs, hw, hc⟩ := write_opens h
  cases vs with
  | nil => exact ⟨c, cs ++ [']'], by simp [writeItems, hw], hc⟩
  | cons w ws => exact ⟨c, cs ++ ',' :: writeItems (w :: ws), by simp [writeItems, hw], hc⟩

theorem writeMembers_opens (m : String × Json) (ms : List (String × Json)) :
    ∃ cs, writeMembers (m :: ms) = '"' :: cs := by
  rcases m with ⟨name, v⟩
  cases ms <;> simp [writeMembers, writeMember, Quoted.encode]

theorem readName?_encode (name : String) (rest : List Char) :
    readName? (Quoted.encode name ++ ':' :: rest) = some (some name, rest) := by
  simp [Quoted.encode_append, readName?, skipSpaces_cons, isSpace, Quoted.read?_written]

theorem readMembers_writeMembers {ms : List (String × Json)} (hne : ms ≠ [])
    (h : ∀ m ∈ ms, ReadsBack m.2) (fuel : Nat) (rest : List Char)
    (hf : (writeMembers ms).length ≤ fuel) :
    readMembers fuel (writeMembers ms ++ rest) = (ofMembers ms, rest) := by
  induction ms generalizing fuel with
  | nil => exact absurd rfl hne
  | cons m ms ih =>
      rcases m with ⟨name, v⟩
      have hv : ReadsBack v := h (name, v) (by simp)
      cases fuel with
      | zero => cases ms <;> simp [writeMembers] at hf
      | succ fuel =>
          cases ms with
          | nil =>
              simp only [writeMembers, writeMember, List.length_append, List.length_cons] at hf
              have hr := hv fuel ('\x7d' :: rest) (by omega) (endsNumber_cons (by simp))
              simp [writeMembers, writeMember, readMembers, readName?_encode, hr, skipSpaces_cons,
                isSpace, ofMembers, ofMember]
          | cons n ns =>
              simp only [writeMembers, writeMember, List.length_append, List.length_cons] at hf
              have hr := hv fuel (',' :: (writeMembers (n :: ns) ++ rest)) (by omega)
                (endsNumber_cons (by simp))
              have ht := ih (by simp) (fun u hu => h u (by simp [hu])) fuel (by omega)
              simp [writeMembers, writeMember, readMembers, readName?_encode, hr, ht,
                skipSpaces_cons, isSpace, ofMembers, ofMember]

theorem read_bracket {fuel : Nat} {c : Char} {cs : List Char} (h : Opens c) :
    read (fuel + 1) ('[' :: c :: cs) =
      (.arr (readItems fuel (c :: cs)).1, (readItems fuel (c :: cs)).2) := by
  have hb : skipSpaces ('[' :: c :: cs) = '[' :: c :: cs := skipSpaces_cons rfl
  have hn := h.ne_closing
  simp only [read, hb, skipSpaces_cons h.isSpace_eq_false]
  split
  · next he => exact absurd (List.cons.inj he).1 hn
  · rfl

theorem read_brace {fuel : Nat} (cs : List Char) :
    read (fuel + 1) ('\x7b' :: '"' :: cs) =
      (.obj (readMembers fuel ('"' :: cs)).1, (readMembers fuel ('"' :: cs)).2) := by
  simp [read, skipSpaces_cons, isSpace]

theorem readsBack_of_regular {depth : Nat} {v : Json} (h : Regular depth v) : ReadsBack v := by
  induction h with
  | null => exact readsBack_null
  | bool _ b => exact readsBack_bool b
  | int _ hn => exact readsBack_int hn
  | str _ s => exact readsBack_str s
  | @arr _ items h ih =>
      intro fuel rest hf hr
      cases fuel with
      | zero => simp [write] at hf
      | succ fuel =>
          cases items with
          | nil => simp [write, writeItems, read, skipSpaces_cons, isSpace, ofJson, ofItems]
          | cons v vs =>
              simp only [write, List.length_cons] at hf
              have hi := readItems_writeItems (by simp) ih fuel rest (by omega)
              obtain ⟨c, cs, hw, hc⟩ := writeItems_opens (h v (by simp)) vs
              rw [hw, List.cons_append] at hi
              rw [write, hw, List.cons_append, List.cons_append, read_bracket hc, hi, ofJson]
  | @obj _ ms hn h ih =>
      intro fuel rest hf hr
      cases fuel with
      | zero => simp [write] at hf
      | succ fuel =>
          cases ms with
          | nil =>
              simp [write, writeMembers, read, skipSpaces_cons, isSpace, ofJson, ofMembers,
                dropReplaced]
          | cons m ms =>
              simp only [write, List.length_cons] at hf
              have hi := readMembers_writeMembers (by simp) ih fuel rest (by omega)
              obtain ⟨cs, hw⟩ := writeMembers_opens m ms
              rw [hw, List.cons_append] at hi
              rw [write, hw, List.cons_append, List.cons_append, read_brace, hi, ofJson_obj hn]

theorem ofText_render {depth : Nat} {v : Json} (h : Regular depth v) :
    ofText v.render = (ofJson v, []) := by
  have hr := readsBack_of_regular h (2 * v.write.length + 1) [] (by omega) (by simp [EndsNumber])
  simpa [ofText, render] using hr

end Doc

/-- Reading a text that was written gives the value, and any reading of documents takes the text as
it takes the value. -/
theorem readText?_render {α : Type} (read? : Doc → Option α) {depth : Nat} {v : Json}
    (h : Regular depth v) : readText? read? v.render = read? (ofJson v) := by
  simp [readText?, ofText_render h, skipSpaces]

theorem writeItems_eq (vs : List Json) :
    writeItems vs = [','].intercalate (vs.map write) ++ [']'] := by
  induction vs with
  | nil => simp [writeItems]
  | cons v vs ih =>
      cases vs with
      | nil => simp [writeItems]
      | cons w ws => simp [writeItems, ih]

theorem ofText?_render {v : Json} (h : Regular greatestDepth v) : ofText? v.render = some v := by
  rw [ofText?, readText?_render toJson? h]
  exact value?_ofJson h

theorem written_eq_iff {α β : Type} {write : α → String} (read : String → β) {found : α → β}
    (h : ∀ a, read (write a) = found a) (hf : Function.Injective found) {a b : α} :
    write a = write b ↔ a = b := by
  constructor
  · intro he
    apply hf
    rw [← h a, ← h b, he]
  · rintro rfl
    rfl

end SiteAccess.Json
