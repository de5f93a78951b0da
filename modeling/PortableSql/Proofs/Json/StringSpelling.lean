import Mathlib.Tactic.SplitIfs
import PortableSql.Json.Token

/-! Strings of a document read back. A character is written as itself, as a letter behind a
backslash or as the four digits of its code, and in each way it is read as that character. A
written character shows no quote but behind a backslash, so a string ends at the quote that closes
it and not before. -/

namespace PortableSql.Json

variable {c : Char} {tokens : List Token} {acc : List Char}

section Passes

variable {σ α : Type} {step : σ → α → Option σ} {s next : σ}

theorem foldlM_cons_of_eq_some {a : α} (h : step s a = some next) (rest : List α) :
    (a :: rest).foldlM step s = rest.foldlM step next := by
  rw [List.foldlM_cons, h, Option.bind_eq_bind, Option.bind_some]

/-- A pass goes on behind the first part from the state that this has led to. -/
theorem foldlM_append_of_eq_some {first : List α} (h : first.foldlM step s = some next)
    (rest : List α) : (first ++ rest).foldlM step s = rest.foldlM step next := by
  rw [List.foldlM_append, h, Option.bind_eq_bind, Option.bind_some]

end Passes

/-- The ways to write a character of a string. -/
inductive Escapes (c : Char) : List Char → Prop
  | plain : c ≠ '\x22' → c ≠ '\\' → 32 ≤ c.toNat → Escapes c [c]
  | short {letter : Char} : shortEscape? letter = some c → Escapes c ['\\', letter]
  | unit {w x y z : Char} : hexUnit? w x y z = some c.toNat → Escapes c ['\\', 'u', w, x, y, z]

theorem hexUnit?_digitChar :
    ∀ n < 32, hexUnit? '0' '0' (Nat.digitChar (n / 16)) (Nat.digitChar (n % 16)) = some n := by
  decide

theorem escapes_escapeJsonChar (c : Char) : Escapes c (escapeJsonChar c) := by
  -- the letters that stand for control characters are told from the codes
  have hletter {n : Nat} {letter : Char} (h : c.toNat = n)
      (hshort : shortEscape? letter = some (Char.ofNat n)) : Escapes c ['\\', letter] :=
    .short (by rw [hshort, ← h, Char.ofNat_toNat])
  unfold escapeJsonChar
  split_ifs with hquote hbackslash h8 h9 h10 h12 h13 hcontrol
  · exact .short (by rw [hquote]; rfl)
  · exact .short (by rw [hbackslash]; rfl)
  · exact hletter h8 rfl
  · exact hletter h9 rfl
  · exact hletter h10 rfl
  · exact hletter h12 rfl
  · exact hletter h13 rfl
  · exact .unit (hexUnit?_digitChar _ hcontrol)
  · exact .plain hquote hbackslash (by omega)

/-- A character has no code among those of the halves of pairs. -/
theorem unitPiece_toNat (c : Char) : unitPiece c.toNat = .char c := by
  have hvalid : c.toNat < 0xD800 ∨ 0xDFFF < c.toNat ∧ c.toNat < 0x110000 := c.valid
  have hhigh : isHighSurrogate c.toNat = false := by
    simp only [isHighSurrogate, Bool.and_eq_false_iff, decide_eq_false_iff_not]
    omega
  have hlow : isLowSurrogate c.toNat = false := by
    simp only [isLowSurrogate, Bool.and_eq_false_iff, decide_eq_false_iff_not]
    omega
  simp [unitPiece, hhigh, hlow]

theorem Escapes.stringPieces?_append {w : List Char} (h : Escapes c w) (rest : List Char) :
    stringPieces? (w ++ rest) = (stringPieces? rest).map (.char c :: ·) := by
  cases h with
  | plain hquote hbackslash hcode =>
    have hread : ¬ (c = '\\' ∨ c.toNat < 32) := not_or.2 ⟨hbackslash, by omega⟩
    rw [List.singleton_append, stringPieces?, if_neg hread]
    · exact fun _ _ _ _ _ h _ => hbackslash h
    · exact fun _ _ h _ => hbackslash h
  | @short letter hletter =>
    have hu : letter ≠ 'u' := by
      rintro rfl
      cases hletter
    rw [List.cons_append, List.singleton_append, stringPieces?, hletter]
    · cases stringPieces? rest <;> rfl
    · exact fun _ _ _ _ _ h _ => hu h
  | unit hcode =>
    rw [List.cons_append, List.cons_append, List.cons_append, List.cons_append, List.cons_append,
      List.singleton_append, stringPieces?, hcode, ← unitPiece_toNat c]
    cases stringPieces? rest <;> rfl

theorem stringPieces?_spelling (s : List Char) :
    stringPieces? (s.flatMap escapeJsonChar) = some (s.map .char) := by
  induction s with
  | nil => rfl
  | cons c s ih =>
    rw [List.flatMap_cons, (escapes_escapeJsonChar c).stringPieces?_append, ih]
    rfl

theorem joinPieces?_map_char (s : List Char) : joinPieces? (s.map .char) = some s := by
  induction s with
  | nil => rfl
  | cons c s ih =>
    rw [List.map_cons, joinPieces?, ih]
    rfl

theorem stringOfSpelling?_spelling (s : String) :
    stringOfSpelling? (JsonString.text s).spelling = some (.text s) := by
  rw [stringOfSpelling?, JsonString.spelling, stringPieces?_spelling, Option.map_some,
    joinPieces?_map_char]
  simp

/-- Neither a quote nor a backslash is a digit. -/
theorem ne_of_hexValue? {digit : Char} {n : Nat} (h : hexValue? digit = some n) :
    digit ≠ '\x22' ∧ digit ≠ '\\' := by
  constructor
  · rintro rfl
    cases h
  · rintro rfl
    cases h

/-- A written character goes into the string that is being read and does not end it. -/
theorem Escapes.foldlM_step {w : List Char} (h : Escapes c w) :
    w.foldlM Lexing.step ⟨tokens, .string acc⟩ = some ⟨tokens, .string (w.reverse ++ acc)⟩ := by
  cases h with
  | plain hquote hbackslash hcode => simp [Lexing.step, hquote, hbackslash]
  | short hletter => simp [Lexing.step]
  | unit hcode =>
    simp only [hexUnit?, Option.bind_eq_bind, Option.bind_eq_some_iff] at hcode
    obtain ⟨_, hw, _, hx, _, hy, _, hz, -⟩ := hcode
    simp [Lexing.step, ne_of_hexValue? hw, ne_of_hexValue? hx, ne_of_hexValue? hy,
      ne_of_hexValue? hz]

theorem foldlM_step_spelling (s : List Char) :
    (s.flatMap escapeJsonChar).foldlM Lexing.step ⟨tokens, .string acc⟩ =
      some ⟨tokens, .string ((s.flatMap escapeJsonChar).reverse ++ acc)⟩ := by
  induction s generalizing acc with
  | nil => rfl
  | cons c s ih =>
    rw [List.flatMap_cons, foldlM_append_of_eq_some (escapes_escapeJsonChar c).foldlM_step, ih,
      List.reverse_append, List.append_assoc]

theorem step_quote :
    Lexing.step ⟨tokens, .string acc⟩ '\x22' =
      (stringOfSpelling? acc.reverse).map fun s => ⟨.string s :: tokens, .nothing⟩ := by
  simp [Lexing.step]

/-- A string between its quotes is one token, whatever stands before and behind it. -/
theorem foldlM_step_render (s : String) :
    (JsonString.text s).render.toList.foldlM Lexing.step ⟨tokens, .nothing⟩ =
      some ⟨.string (.text s) :: tokens, .nothing⟩ := by
  have hopened : Lexing.step ⟨tokens, .nothing⟩ '\x22' = some ⟨tokens, .string []⟩ := rfl
  have hbody : (JsonString.text s).spelling.foldlM Lexing.step ⟨tokens, .string []⟩ =
      some ⟨tokens, .string ((JsonString.text s).spelling.reverse ++ [])⟩ := foldlM_step_spelling _
  have hclosed : Lexing.step ⟨tokens, .string ((JsonString.text s).spelling.reverse ++ [])⟩ '\x22' =
      some ⟨.string (.text s) :: tokens, .nothing⟩ := by
    rw [step_quote, List.append_nil, List.reverse_reverse, stringOfSpelling?_spelling]
    rfl
  rw [JsonString.render, String.toList_ofList, List.cons_append, foldlM_cons_of_eq_some hopened,
    foldlM_append_of_eq_some hbody, foldlM_cons_of_eq_some hclosed]
  rfl

end PortableSql.Json
