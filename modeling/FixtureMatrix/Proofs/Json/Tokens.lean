import FixtureMatrix.Json.Print
import FixtureMatrix.Json.Token
import FixtureMatrix.Proofs.Text.Digits
import FixtureMatrix.Proofs.Text.Runs

/-!
# Tokens of printed text

Every printed part of a JSON text is cut off as the token it was printed for.
`Lexes` says which tokens a text is cut into, without their offsets; there is
one lemma for each kind of part that can stand in front of a text.

* `scanString_stringText`: a printed string is read back, whatever it holds.
* `scanNumber_ofNat`: so is a number that fits a word of 64 bits.
* `Lexes.string`, `Lexes.nat`, `Lexes.word`, `Lexes.punctuation`: one token more.
-/

namespace FixtureMatrix.Json

/-! ## Strings -/

/-- A character is printed in one of three ways: by a short escape, by its
number, or as it is. -/
theorem escape_cases (c : Char) :
    (∃ e, shortEscape? e = some c ∧ escape c = ['\\', e]) ∨
    (c.toNat < 0x20 ∧
      escape c = ['\\', 'u', '0', '0', hexDigit (c.toNat / 16), hexDigit c.toNat]) ∨
    (c ≠ '"' ∧ c ≠ '\\' ∧ ¬ c.toNat < 0x20 ∧ escape c = [c]) := by
  unfold escape
  split_ifs with hquote hslash hline hreturn htab hback hfeed hcontrol
  · exact Or.inl ⟨'"', by rw [hquote]; rfl, rfl⟩
  · exact Or.inl ⟨'\\', by rw [hslash]; rfl, rfl⟩
  · exact Or.inl ⟨'n', hline ▸ rfl, rfl⟩
  · exact Or.inl ⟨'r', hreturn ▸ rfl, rfl⟩
  · exact Or.inl ⟨'t', htab ▸ rfl, rfl⟩
  · exact Or.inl ⟨'b', hback ▸ rfl, rfl⟩
  · exact Or.inl ⟨'f', hfeed ▸ rfl, rfl⟩
  · exact Or.inr (Or.inl ⟨hcontrol, rfl⟩)
  · exact Or.inr (Or.inr ⟨hquote, hslash, hcontrol, rfl⟩)

theorem hexValue?_digitChar : ∀ d < 16, hexValue? (Nat.digitChar d) = some d := by
  decide

theorem hexFour?_control {c : Char} (hc : c.toNat < 0x20) :
    hexFour? '0' '0' (hexDigit (c.toNat / 16)) (hexDigit c.toNat) = some c.toNat := by
  have hzero : hexValue? '0' = some 0 := by decide
  have hhigh : hexValue? (hexDigit (c.toNat / 16)) = some (c.toNat / 16 % 16) :=
    hexValue?_digitChar _ (Nat.mod_lt _ (by decide))
  have hlow : hexValue? (hexDigit c.toNat) = some (c.toNat % 16) :=
    hexValue?_digitChar _ (Nat.mod_lt _ (by decide))
  have hvalue : c.toNat / 16 % 16 * 16 + c.toNat % 16 = c.toNat := by omega
  simp [hexFour?, hzero, hhigh, hlow, hvalue]

section ScanString

variable (cs read : List Char) (offset : Nat)

theorem scanString_short {e c : Char} (he : shortEscape? e = some c) :
    scanString ('\\' :: e :: cs) offset read =
      scanString cs (offset + 1 + e.utf8Size) (c :: read) := by
  have hu : e ≠ 'u' := by
    rintro rfl
    cases he
  rw [scanString, he]
  · intro _ _ _ _ _ heq
    exact absurd heq hu
  · exact fun heq => hu heq

theorem scanString_control {c : Char} (hc : c.toNat < 0x20) :
    scanString ('\\' :: 'u' :: '0' :: '0' :: hexDigit (c.toNat / 16) :: hexDigit c.toNat :: cs)
      offset read = scanString cs (offset + 6) (c :: read) := by
  have hlow : isLowSurrogate c.toNat = false := by
    simp only [isLowSurrogate, Bool.and_eq_false_iff, decide_eq_false_iff_not]
    omega
  have hhigh : isHighSurrogate c.toNat = false := by
    simp only [isHighSurrogate, Bool.and_eq_false_iff, decide_eq_false_iff_not]
    omega
  rw [scanString, hexFour?_control hc]
  simp [hlow, hhigh]

theorem scanString_plain {c : Char} (hquote : c ≠ '"') (hslash : c ≠ '\\')
    (hc : ¬ c.toNat < 0x20) :
    scanString (c :: cs) offset read = scanString cs (offset + c.utf8Size) (c :: read) := by
  rw [scanString, if_neg hc]
  · exact fun heq => hquote heq
  · intro _ _ _ _ _ heq
    exact absurd heq hslash
  · intro _ heq
    exact absurd heq hslash
  · intro _ _ heq
    exact absurd heq hslash
  · intro heq
    exact absurd heq hslash

/-- One printed character is read as itself. -/
theorem scanString_escape (c : Char) :
    ∃ offset', scanString (escape c ++ cs) offset read = scanString cs offset' (c :: read) := by
  rcases escape_cases c with ⟨e, he, hc⟩ | ⟨hcontrol, hc⟩ | ⟨hquote, hslash, hcontrol, hc⟩
  · rw [hc]
    exact ⟨_, scanString_short cs read offset he⟩
  · rw [hc]
    exact ⟨_, scanString_control cs read offset hcontrol⟩
  · rw [hc]
    exact ⟨_, scanString_plain cs read offset hquote hslash hcontrol⟩

end ScanString

theorem scanString_flatMap_escape (s cs read : List Char) (offset : Nat) :
    ∃ stop, scanString (s.flatMap escape ++ '"' :: cs) offset read =
      .ok (String.ofList (read.reverse ++ s), ⟨cs, stop⟩) := by
  induction s generalizing read offset with
  | nil => exact ⟨offset + 1, by rw [List.flatMap_nil, List.nil_append, scanString,
      List.append_nil]⟩
  | cons c s ih =>
    rw [List.flatMap_cons, List.append_assoc]
    obtain ⟨offset', hc⟩ := scanString_escape (s.flatMap escape ++ '"' :: cs) read offset c
    obtain ⟨stop, hrest⟩ := ih (c :: read) offset'
    refine ⟨stop, ?_⟩
    rw [hc, hrest, List.reverse_cons, List.append_assoc]
    rfl

/-- A printed string is read back up to its closing quote. -/
theorem scanString_stringText (s : String) (cs : List Char) (offset : Nat) :
    ∃ stop, scanString (s.toList.flatMap escape ++ '"' :: cs) offset [] = .ok (s, ⟨cs, stop⟩) := by
  obtain ⟨stop, h⟩ := scanString_flatMap_escape s.toList cs [] offset
  refine ⟨stop, ?_⟩
  rw [h, List.reverse_nil, List.nil_append, String.ofList_toList]

/-! ## Numbers -/

/-- A text that does not go on with the number in front of it. -/
def EndsNumber (cs : List Char) : Prop :=
  ∀ c ∈ cs.head?, c.isDigit = false ∧ c ≠ '.' ∧ c ≠ 'e' ∧ c ≠ 'E'

theorem EndsNumber.takeWhile_append {cs ds : List Char} (h : EndsNumber cs)
    (hds : ∀ d ∈ ds, d.isDigit = true) : (ds ++ cs).takeWhile Char.isDigit = ds :=
  takeWhile_append_of_stop hds fun c hc => (h c hc).1

theorem EndsNumber.dropWhile_append {cs ds : List Char} (h : EndsNumber cs)
    (hds : ∀ d ∈ ds, d.isDigit = true) : (ds ++ cs).dropWhile Char.isDigit = cs :=
  dropWhile_append_of_stop hds fun c hc => (h c hc).1

theorem le_ofDigitChars (cs : List Char) (m : Nat) : m ≤ Nat.ofDigitChars 10 cs m := by
  induction cs generalizing m with
  | nil => exact Nat.le_refl m
  | cons c cs ih =>
    rw [Nat.ofDigitChars_cons]
    have hstep := ih (10 * m + (c.toNat - '0'.toNat))
    omega

/-- Digits of a number below the limit are all read. -/
theorem digits64_eq {cs : List Char} {m : Nat} (h : Nat.ofDigitChars 10 cs m < Nat.pow 2 64) :
    digits64 m cs = (Nat.ofDigitChars 10 cs m, 0) := by
  induction cs generalizing m with
  | nil => rfl
  | cons c cs ih =>
    rw [Nat.ofDigitChars_cons] at h ⊢
    have hnext : m * 10 + (c.toNat - '0'.toNat) = 10 * m + (c.toNat - '0'.toNat) := by omega
    have hfits := Nat.lt_of_le_of_lt (le_ofDigitChars cs _) h
    rw [digits64, hnext]
    simp only [hfits, if_true]
    exact ih h

/-- What stands behind the whole part of a number ends it. -/
theorem scanFraction_ends {cs : List Char} (h : EndsNumber cs) (n offset : Nat) :
    scanFraction false n 0 ⟨cs, offset⟩ = .ok (.int (Int.ofNat n), ⟨cs, offset⟩) := by
  rw [scanFraction]
  cases cs with
  | nil => rfl
  | cons c cs =>
    obtain ⟨-, hpoint, hsmall, hlarge⟩ := h c rfl
    split <;> simp_all

/-- A lone zero is read as such. -/
theorem scanNumber_zero {cs : List Char} (h : EndsNumber cs) (offset : Nat) :
    scanNumber false ⟨'0' :: cs, offset⟩ = .ok (.int 0, ⟨cs, offset + 1⟩) := by
  have hnext : Cursor.next ⟨'0' :: cs, offset⟩ = ⟨cs, offset + 1⟩ := rfl
  rw [scanNumber]
  cases cs with
  | nil => exact scanFraction_ends h 0 _
  | cons c cs =>
    simp only [(h c rfl).1, Bool.false_eq_true, if_false, hnext]
    exact scanFraction_ends h 0 _

/-- Any other number is read from its run of digits on. -/
theorem scanNumber_digit {d : Char} (hd : d.isDigit = true) (hzero : d ≠ '0') (cs : List Char)
    (offset : Nat) :
    scanNumber false ⟨d :: cs, offset⟩ =
      scanFraction false (digits64 0 (spanDigits ⟨d :: cs, offset⟩).1).1
        (digits64 0 (spanDigits ⟨d :: cs, offset⟩).1).2 (spanDigits ⟨d :: cs, offset⟩).2 := by
  rw [scanNumber]
  split
  · next heq => cases heq
  · next heq => exact absurd (List.cons.inj heq).1 hzero
  · next heq =>
    obtain ⟨rfl, -⟩ := List.cons.inj heq
    rw [if_pos hd]

/-- A printed number is read back. -/
theorem scanNumber_ofNat {n : Nat} (hn : n < Nat.pow 2 64) {cs : List Char} (h : EndsNumber cs)
    (offset : Nat) :
    ∃ stop, scanNumber false ⟨Digits.ofNat n ++ cs, offset⟩ =
      .ok (.int (Int.ofNat n), ⟨cs, stop⟩) := by
  rcases Nat.eq_zero_or_pos n with rfl | hpos
  · exact ⟨offset + 1, scanNumber_zero h offset⟩
  have hdigits : ∀ c ∈ Digits.ofNat n, c.isDigit = true := fun c => Digits.isDigit_of_mem_ofNat
  have hvalue : digits64 0 (Digits.ofNat n) = (n, 0) := by
    have hread : Nat.ofDigitChars 10 (Digits.ofNat n) 0 = n := Digits.value_ofNat n
    rw [digits64_eq (by rwa [hread]), hread]
  have hfirst : (Digits.ofNat n).head? ≠ some '0' := fun hhead =>
    hpos.ne' (Digits.eq_zero_of_head?_ofNat hhead)
  have htake := h.takeWhile_append hdigits
  have hdrop := h.dropWhile_append hdigits
  obtain ⟨d, ds, hds⟩ := List.exists_cons_of_ne_nil (Digits.ofNat_ne_nil n)
  have hd : d.isDigit = true := hdigits d (hds ▸ List.mem_cons_self)
  have hzero : d ≠ '0' := by
    rintro rfl
    exact hfirst (by rw [hds]; rfl)
  rw [hds] at hvalue htake hdrop ⊢
  rw [List.cons_append] at htake hdrop ⊢
  rw [scanNumber_digit hd hzero]
  simp only [spanDigits, htake, hdrop, hvalue]
  exact ⟨_, scanFraction_ends h n _⟩

/-! ## Tokens -/

/-- What the next character starts. -/
theorem tokensFrom_cons (fuel : Nat) (x : Char) (cs : List Char) (offset : Nat) :
    tokensFrom (fuel + 1) ⟨x :: cs, offset⟩ =
      if isSpace x then tokensFrom fuel (Cursor.next ⟨x :: cs, offset⟩)
      else
        match punctuation? x with
        | some kind => ⟨offset, offset + 1, kind⟩ :: tokensFrom fuel (Cursor.next ⟨x :: cs, offset⟩)
        | none =>
          if x = '"' then
            match scanString cs (offset + x.utf8Size) [] with
            | .ok (value, after) =>
              ⟨offset, after.offset, .string (.ok value)⟩ :: tokensFrom fuel after
            | .error e => [⟨offset, offset, .string (.error e)⟩]
          else
            match scanAtom? x ⟨x :: cs, offset⟩ with
            | some (.ok (value, after)) =>
              ⟨offset, after.offset, .atom (.ok value)⟩ :: tokensFrom fuel after
            | some (.error e) => [⟨offset, offset, .atom (.error e)⟩]
            | none => [⟨offset, offset, .stray⟩] :=
  rfl

/-- The kinds of the tokens that a text is cut into, wherever it starts. -/
def Lexes (cs : List Char) (kinds : List TokenKind) : Prop :=
  ∀ fuel offset, cs.length ≤ fuel → (tokensFrom fuel ⟨cs, offset⟩).map Token.kind = kinds

namespace Lexes

variable {cs : List Char} {kinds : List TokenKind}

theorem nil : Lexes [] [] := by
  intro fuel offset _
  cases fuel with
  | zero => rfl
  | succ fuel => rfl

/-- White space is passed over. -/
theorem space {c : Char} (hc : isSpace c = true) (h : Lexes cs kinds) :
    Lexes (c :: cs) kinds := by
  intro fuel offset hfuel
  cases fuel with
  | zero => cases hfuel
  | succ fuel =>
    rw [tokensFrom_cons]
    simp only [hc, if_true]
    exact h fuel _ (Nat.le_of_succ_le_succ hfuel)

theorem spaces {ws : List Char} (hws : ∀ c ∈ ws, isSpace c = true) (h : Lexes cs kinds) :
    Lexes (ws ++ cs) kinds := by
  induction ws with
  | nil => exact h
  | cons c ws ih =>
    obtain ⟨hc, hrest⟩ := List.forall_mem_cons.1 hws
    exact (ih hrest).space hc

theorem punctuation {c : Char} {kind : TokenKind} (hspace : isSpace c = false)
    (hc : punctuation? c = some kind) (h : Lexes cs kinds) : Lexes (c :: cs) (kind :: kinds) := by
  intro fuel offset hfuel
  cases fuel with
  | zero => cases hfuel
  | succ fuel =>
    rw [tokensFrom_cons]
    simp only [hspace, Bool.false_eq_true, if_false, hc, List.map_cons]
    exact congrArg _ (h fuel _ (Nat.le_of_succ_le_succ hfuel))

theorem string (s : String) (h : Lexes cs kinds) :
    Lexes (stringText s ++ cs) (.string (.ok s) :: kinds) := by
  intro fuel offset hfuel
  have htext : stringText s ++ cs = '"' :: (s.toList.flatMap escape ++ '"' :: cs) := by
    simp [stringText]
  rw [htext] at hfuel ⊢
  cases fuel with
  | zero => cases hfuel
  | succ fuel =>
    obtain ⟨stop, hscan⟩ := scanString_stringText s cs (offset + '"'.utf8Size)
    have hnext : Cursor.next ⟨'"' :: (s.toList.flatMap escape ++ '"' :: cs), offset⟩ =
        ⟨s.toList.flatMap escape ++ '"' :: cs, offset + '"'.utf8Size⟩ := rfl
    have hspace : isSpace '"' = false := by decide
    have hpunctuation : punctuation? '"' = none := rfl
    rw [tokensFrom_cons]
    simp only [hspace, Bool.false_eq_true, if_false, hpunctuation, if_true, hnext, hscan,
      List.map_cons]
    refine congrArg _ (h fuel _ ?_)
    simp only [List.length_cons, List.length_append] at hfuel
    omega

/-- An atom is read up to where its scanner stops. -/
theorem atom (c : Char) (text : List Char) {value : Atom} (hspace : isSpace c = false)
    (hpunctuation : punctuation? c = none) (hquote : c ≠ '"')
    (hscan : ∀ offset, ∃ stop,
      scanAtom? c ⟨c :: (text ++ cs), offset⟩ = some (.ok (value, ⟨cs, stop⟩)))
    (h : Lexes cs kinds) : Lexes (c :: (text ++ cs)) (.atom (.ok value) :: kinds) := by
  intro fuel offset hfuel
  cases fuel with
  | zero => cases hfuel
  | succ fuel =>
    obtain ⟨stop, hscan⟩ := hscan offset
    rw [tokensFrom_cons]
    simp only [hspace, Bool.false_eq_true, if_false, hpunctuation, hquote, hscan, List.map_cons]
    refine congrArg _ (h fuel _ ?_)
    simp only [List.length_cons, List.length_append] at hfuel
    omega

theorem nat {n : Nat} (hn : n < Nat.pow 2 64) (hends : EndsNumber cs) (h : Lexes cs kinds) :
    Lexes (Digits.ofNat n ++ cs) (.atom (.ok (.int (Int.ofNat n))) :: kinds) := by
  obtain ⟨d, ds, hds⟩ := List.exists_cons_of_ne_nil (Digits.ofNat_ne_nil n)
  have hd : d.isDigit = true := Digits.isDigit_of_mem_ofNat (hds ▸ List.mem_cons_self)
  have hne : ∀ c : Char, c.isDigit = false → d ≠ c := by
    rintro c hc rfl
    rw [hc] at hd
    cases hd
  have hscan := scanNumber_ofNat hn hends
  rw [hds] at hscan ⊢
  refine atom d ds ?_ ?_ (hne _ rfl) ?_ h
  · simp [isSpace, hne ' ' rfl, hne '\n' rfl, hne '\t' rfl, hne '\r' rfl]
  · rw [punctuation?]
    all_goals exact hne _ rfl
  · intro offset
    obtain ⟨stop, hstop⟩ := hscan offset
    refine ⟨stop, ?_⟩
    rw [scanAtom?]
    · rw [if_pos hd]
      exact congrArg some hstop
    all_goals exact hne _ rfl

theorem null (h : Lexes cs kinds) : Lexes ("null".toList ++ cs) (.atom (.ok .null) :: kinds) :=
  atom 'n' "ull".toList rfl rfl (by decide) (fun _ => ⟨_, rfl⟩) h

theorem bool (b : Bool) (h : Lexes cs kinds) :
    Lexes ((if b then "true" else "false").toList ++ cs) (.atom (.ok (.bool b)) :: kinds) := by
  cases b with
  | true => exact atom 't' "rue".toList rfl rfl (by decide) (fun _ => ⟨_, rfl⟩) h
  | false =>
    exact atom 'f' "alse".toList rfl rfl (by decide) (fun _ => ⟨_, rfl⟩) h

end Lexes

end FixtureMatrix.Json
