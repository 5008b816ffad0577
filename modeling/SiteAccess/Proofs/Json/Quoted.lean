import SiteAccess.Json.Value

namespace SiteAccess.Json.Quoted

open Text

def pieceOf (c : Char) : Piece :=
  match shortEscapes.lookup c with
  | some _ => .plain c
  | none => if c.toNat < 0x20 then .unit c.toNat else .plain c

theorem encode_append (s : String) (rest : List Char) :
    encode s ++ rest = '"' :: (s.toList.flatMap encodeChar ++ '"' :: rest) := by
  simp [encode]

theorem hexNumber?_controlDigits {n : Nat} (h : n < 0x20) :
    hexNumber? ['0', '0', hexDigit (n / 16), hexDigit (n % 16)] = some n := by
  revert n
  decide

theorem shortEscapes_letters :
    ∀ p ∈ shortEscapes, p.2 ≠ 'u' ∧ escaped? p.2 = some p.1 := by decide

theorem escaped?_of_lookup {c letter : Char} (h : shortEscapes.lookup c = some letter) :
    letter ≠ 'u' ∧ escaped? letter = some c := by
  obtain ⟨before, after, hs, -⟩ := List.lookup_eq_some_iff.mp h
  exact shortEscapes_letters (c, letter) (by simp [hs])

theorem ne_of_lookup_eq_none {c : Char} (h : shortEscapes.lookup c = none) :
    c ≠ '"' ∧ c ≠ '\\' := by
  have hn := List.lookup_eq_none_iff.mp h
  constructor
  · simpa using hn ('"', '"') (by decide)
  · simpa using hn ('\\', '\\') (by decide)

theorem scan?_encodeChar (c : Char) (cs : List Char) :
    scan? (encodeChar c ++ cs) = (scan? cs).map fun p => (pieceOf c :: p.1, p.2) := by
  cases hl : shortEscapes.lookup c with
  | some letter =>
      obtain ⟨hu, he⟩ := escaped?_of_lookup hl
      have hs : scan? ('\\' :: letter :: cs) = (scan? cs).map fun p => (.plain c :: p.1, p.2) := by
        rw [scan?, he]
        · cases scan? cs <;> rfl
        · exact fun _ _ _ _ _ h _ => hu h
      simpa [encodeChar, pieceOf, hl] using hs
  | none =>
      obtain ⟨hq, hb⟩ := ne_of_lookup_eq_none hl
      by_cases hc : c.toNat < 0x20
      · have hs : scan? ('\\' :: 'u' :: '0' :: '0' :: hexDigit (c.toNat / 16) ::
            hexDigit (c.toNat % 16) :: cs) =
            (scan? cs).map fun p => (.unit c.toNat :: p.1, p.2) := by
          rw [scan?, hexNumber?_controlDigits hc]
          cases scan? cs <;> rfl
        simpa [encodeChar, pieceOf, hl, hc] using hs
      · have hs : scan? (c :: cs) = (scan? cs).map fun p => (.plain c :: p.1, p.2) := by
          rw [scan?, if_neg hc]
          · cases scan? cs <;> rfl
          · exact hq
          · exact fun _ _ _ _ _ h _ => hb h
          · exact fun _ _ h _ => hb h
        simpa [encodeChar, pieceOf, hl, hc] using hs

theorem scan?_flatMap_encodeChar (cs rest : List Char) :
    scan? (cs.flatMap encodeChar ++ '"' :: rest) = some (cs.map pieceOf, rest) := by
  induction cs with
  | nil => rfl
  | cons c cs ih => rw [List.flatMap_cons, List.append_assoc, scan?_encodeChar, ih]; rfl

theorem join?_pieceOf_cons (c : Char) (ps : List Piece) :
    join? (pieceOf c :: ps) = (join? ps).map (c :: ·) := by
  cases hl : shortEscapes.lookup c with
  | some letter => simp [pieceOf, hl, join?]
  | none =>
      by_cases hc : c.toNat < 0x20
      · have hh : isHighSurrogate c.toNat = false := by simp [isHighSurrogate]; omega
        have hw : isLowSurrogate c.toNat = false := by simp [isLowSurrogate]; omega
        rcases ps with _ | ⟨p | m, ps⟩ <;> simp [pieceOf, hl, hc, join?, hh, hw]
      · simp [pieceOf, hl, hc, join?]

theorem join?_map_pieceOf (cs : List Char) : join? (cs.map pieceOf) = some cs := by
  induction cs with
  | nil => rfl
  | cons c cs ih => rw [List.map_cons, join?_pieceOf_cons, ih]; rfl

/-- Reading undoes writing, from after the opening quote on. -/
theorem read?_written (s : String) (rest : List Char) :
    read? (s.toList.flatMap encodeChar ++ '"' :: rest) = some (some s, rest) := by
  rw [read?, scan?_flatMap_encodeChar]
  simp [join?_map_pieceOf]

end SiteAccess.Json.Quoted
