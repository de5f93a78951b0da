/-! Texts as bytes. A character of ASCII is one byte, and every byte of any other character lies
beyond ASCII, so a byte of ASCII tells its character wherever it stands. Bytes may be cut into
texts only where a character begins or where they end. -/

namespace PortableSql.Text

/-- The bytes of characters. -/
def utf8 (s : List Char) : List UInt8 := s.flatMap String.utf8EncodeChar

theorem data_toUTF8 (s : String) : s.toUTF8.data.toList = utf8 s.toList := by
  have hbytes : s.toByteArray = s.toList.utf8Encode := by
    rw [← String.toByteArray_ofList, String.ofList_toList]
  rw [String.toUTF8_eq_toByteArray, hbytes, List.utf8Encode, List.data_toByteArray, utf8]

/-- Is there no rest of a character here? -/
def atCharacter : List UInt8 → Bool
  | [] => true
  | b :: _ => b < 0x80 || 0xC0 ≤ b

variable {c : Char}

/-- A character of ASCII is the byte of its code. -/
theorem utf8_cons_of_lt (h : c.toNat < 0x80) (s : List Char) :
    utf8 (c :: s) = UInt8.ofNat c.toNat :: utf8 s := by
  have hle : c.val.toNat ≤ 0x7f := Nat.le_of_lt_succ h
  rw [utf8, List.flatMap_cons, String.utf8EncodeChar, if_pos hle]
  rfl

theorem toNat_ofNat_toNat (h : c.toNat < 0x80) : (UInt8.ofNat c.toNat).toNat = c.toNat := by
  rw [UInt8.toNat_ofNat', Nat.mod_eq_of_lt (Nat.lt_trans h (by decide))]

/-- The codes of characters of ASCII are those of their bytes. -/
theorem map_ofNat_utf8 {s : List Char} (h : ∀ c ∈ s, c.toNat < 0x80) :
    (utf8 s).map (fun b => Char.ofNat b.toNat) = s := by
  induction s with
  | nil => rfl
  | cons c s ih =>
    obtain ⟨hc, hs⟩ := List.forall_mem_cons.1 h
    rw [utf8_cons_of_lt hc, List.map_cons, ih hs, toNat_ofNat_toNat hc, Char.ofNat_toNat]

theorem le_ofNat {k n : Nat} (h : k ≤ n) (hn : n < 256) : UInt8.ofNat k ≤ UInt8.ofNat n := by
  rw [UInt8.le_iff_toNat_le, UInt8.toNat_ofNat', UInt8.toNat_ofNat', Nat.mod_eq_of_lt hn,
    Nat.mod_eq_of_lt (Nat.lt_of_le_of_lt h hn)]
  exact h

/-- Beyond ASCII all bytes are, and the first one tells that a character begins. -/
theorem exists_utf8_cons_of_le (h : 0x80 ≤ c.toNat) (s : List Char) :
    ∃ first others, utf8 (c :: s) = first :: others ++ utf8 s ∧ 0xC0 ≤ first ∧
      ∀ b ∈ first :: others, 0x80 ≤ b := by
  have hlt : ¬ c.val.toNat ≤ 0x7f := Nat.not_le_of_lt h
  have hmore (n : Nat) : (0x80 : UInt8) ≤ UInt8.ofNat (n % 0x40 + 0x80) :=
    le_ofNat (k := 0x80) (by omega) (by omega)
  rw [utf8, List.flatMap_cons, String.utf8EncodeChar, if_neg hlt]
  split
  · refine ⟨_, _, rfl, le_ofNat (k := 0xC0) (by omega) (by omega), ?_⟩
    exact List.forall_mem_cons.2 ⟨le_ofNat (k := 0x80) (by omega) (by omega),
      List.forall_mem_singleton.2 (hmore _)⟩
  · split
    · refine ⟨_, _, rfl, le_ofNat (k := 0xC0) (by omega) (by omega), ?_⟩
      exact List.forall_mem_cons.2 ⟨le_ofNat (k := 0x80) (by omega) (by omega),
        List.forall_mem_cons.2 ⟨hmore _, List.forall_mem_singleton.2 (hmore _)⟩⟩
    · refine ⟨_, _, rfl, le_ofNat (k := 0xC0) (by omega) (by omega), ?_⟩
      exact List.forall_mem_cons.2 ⟨le_ofNat (k := 0x80) (by omega) (by omega),
        List.forall_mem_cons.2
          ⟨hmore _, List.forall_mem_cons.2 ⟨hmore _, List.forall_mem_singleton.2 (hmore _)⟩⟩⟩

/-- Characters begin where a character begins or the text ends. -/
theorem atCharacter_utf8 (s : List Char) : atCharacter (utf8 s) = true := by
  cases s with
  | nil => rfl
  | cons c s =>
    by_cases h : c.toNat < 0x80
    · have hlt : UInt8.ofNat c.toNat < 0x80 := by
        rw [UInt8.lt_iff_toNat_lt, toNat_ofNat_toNat h]
        exact h
      rw [utf8_cons_of_lt h]
      simp [atCharacter, hlt]
    · obtain ⟨first, others, heq, hfirst, -⟩ := exists_utf8_cons_of_le (Nat.le_of_not_lt h) s
      rw [heq]
      simp [atCharacter, hfirst]

end PortableSql.Text
