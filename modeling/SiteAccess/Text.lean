namespace SiteAccess.Text

abbrev Ranges := List (Nat × Nat)

def Ranges.holds (rs : Ranges) (c : Char) : Bool :=
  rs.any fun r => r.1 ≤ c.toNat && c.toNat ≤ r.2

def blankRanges : Ranges :=
  [(0x9, 0xD), (0x20, 0x20), (0x85, 0x85), (0xA0, 0xA0), (0x1680, 0x1680), (0x2000, 0x200A),
    (0x2028, 0x2029), (0x202F, 0x202F), (0x205F, 0x205F), (0x3000, 0x3000)]

def isBlank (c : Char) : Bool := blankRanges.holds c

def trimStart (cs : List Char) : List Char := cs.dropWhile isBlank

def trimEnd (cs : List Char) : List Char := (cs.reverse.dropWhile isBlank).reverse

def trim (s : String) : String := String.ofList (trimEnd (trimStart s.toList))

theorem trimStart_of_head {c : Char} {cs : List Char} (h : isBlank c = false) :
    trimStart (c :: cs) = c :: cs := by
  simp [trimStart, h]

theorem trimEnd_append_singleton {c : Char} {cs : List Char} (h : isBlank c = false) :
    trimEnd (cs ++ [c]) = cs ++ [c] := by
  simp [trimEnd, h]

theorem trimStart_append_blanks {bs cs : List Char} (h : ∀ b ∈ bs, isBlank b = true) :
    trimStart (bs ++ cs) = trimStart cs := by
  induction bs with
  | nil => rfl
  | cons b bs ih =>
      have hb := h b (by simp)
      have ht := ih fun d hd => h d (by simp [hd])
      simpa [trimStart, hb] using ht

theorem trimEnd_append_blanks {bs cs : List Char} (h : ∀ b ∈ bs, isBlank b = true) :
    trimEnd (cs ++ bs) = trimEnd cs := by
  have hr := @trimStart_append_blanks bs.reverse cs.reverse (by simpa using h)
  simpa [trimEnd, trimStart] using hr

def lower (s : String) : String := String.ofList (s.toList.map Char.toLower)

def upper (s : String) : String := String.ofList (s.toList.map Char.toUpper)

def sameWord (s t : String) : Bool := lower s == lower t

theorem sameWord_iff {s t : String} : sameWord s t = true ↔ lower s = lower t := by
  simp [sameWord]

def hexDigit (n : Nat) : Char := Nat.digitChar n

def hexValue? (c : Char) : Option Nat :=
  if c.isDigit then some (c.toNat - '0'.toNat)
  else if 'a' ≤ c ∧ c ≤ 'f' then some (c.toNat - 'a'.toNat + 10)
  else if 'A' ≤ c ∧ c ≤ 'F' then some (c.toNat - 'A'.toNat + 10)
  else none

def hexNumber? (cs : List Char) : Option Nat :=
  cs.foldlM (fun n c => (hexValue? c).map (16 * n + ·)) 0

def byteSize : List Char → Nat
  | [] => 0
  | c :: cs => c.utf8Size + byteSize cs

def dropBytes? (n : Nat) (cs : List Char) : Option (List Char) :=
  if n = 0 then some cs
  else match cs with
    | [] => none
    | c :: cs => if c.utf8Size ≤ n then dropBytes? (n - c.utf8Size) cs else none

def takeBytes? (n : Nat) (cs : List Char) : Option (List Char) :=
  if n = 0 then some []
  else match cs with
    | [] => none
    | c :: cs =>
        if c.utf8Size ≤ n then (takeBytes? (n - c.utf8Size) cs).map (c :: ·) else none

end SiteAccess.Text
