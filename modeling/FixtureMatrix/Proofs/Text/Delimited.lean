import FixtureMatrix.Proofs.Text.Runs
import FixtureMatrix.Text.Digits
import FixtureMatrix.Text.Quoted
import Mathlib.Tactic.SplitIfs

/-!
# Texts that tell where they end

A printed number or text is followed by others, without its length.  The lemmas named
`append_inj` say that it can still be read off the front: when two printed texts with
something behind them are equal, the same was printed and the same is behind it.

* `Digits.Numeral.append_inj`: an integer ends where its digits do.
* `Digits.zeroPad_append_inj`: a number of fixed width ends by itself.
* `Text.quote_append_inj`: so does a quoted text, whatever it holds.
-/

namespace FixtureMatrix

namespace Digits

/-! ## Numbers -/

variable {m n : Int} {a b r s : List Char}

/-- A text that does not go on with a run of digits. -/
def Ends (r : List Char) : Prop :=
  ∀ c ∈ r.head?, c.isDigit = false

theorem ends_cons {c : Char} : Ends (c :: r) ↔ c.isDigit = false := by
  simp [Ends]

theorem value_zeroPad (width : Nat) (cs : List Char) : value (zeroPad width cs) = value cs := by
  rw [value, zeroPad, Nat.ofDigitChars_append, Nat.ofDigitChars_replicate_zero]
  simp [value]

theorem isDigit_of_mem_zeroPad {width k : Nat} {c : Char} (h : c ∈ zeroPad width (ofNat k)) :
    c.isDigit = true := by
  rcases List.mem_append.1 h with h | h
  · rw [List.eq_of_mem_replicate h]
    rfl
  · exact isDigit_of_mem_ofNat h

theorem zeroPad_ne_nil {width k : Nat} : zeroPad width (ofNat k) ≠ [] :=
  List.append_ne_nil_of_right_ne_nil _ (ofNat_ne_nil k)

theorem length_zeroPad_of_lt {width k : Nat} (hwidth : 0 < width) (hk : k < Nat.pow 10 width) :
    (zeroPad width (ofNat k)).length = width := by
  have hlen : (ofNat k).length ≤ width := (Nat.length_toDigits_le_iff (by decide) hwidth).2 hk
  rw [length_zeroPad, Nat.max_eq_left hlen]

theorem zeroPad_append_inj {width j k : Nat} (hwidth : 0 < width) (hj : j < Nat.pow 10 width)
    (hk : k < Nat.pow 10 width) (h : zeroPad width (ofNat j) ++ r = zeroPad width (ofNat k) ++ s) :
    j = k ∧ r = s := by
  have hlen : (zeroPad width (ofNat j)).length = (zeroPad width (ofNat k)).length := by
    rw [length_zeroPad_of_lt hwidth hj, length_zeroPad_of_lt hwidth hk]
  obtain ⟨hdigits, hrest⟩ := List.append_inj h hlen
  have hvalue := congrArg value hdigits
  rw [value_zeroPad, value_zeroPad, value_ofNat, value_ofNat] at hvalue
  exact ⟨hvalue, hrest⟩

/-- `a` is the integer `n` in digits, leading zeros allowed, with its sign in front. -/
inductive Numeral : Int → List Char → Prop
  | mk (sign ds : List Char) : sign ⊆ ['+', '-'] → ds ≠ [] → (∀ d ∈ ds, d.isDigit = true) →
      Numeral (if '-' ∈ sign then -(value ds : Int) else value ds) (sign ++ ds)

theorem head?_append_of_digits (hne : a ≠ []) (ha : ∀ c ∈ a, c.isDigit = true) :
    ∀ c ∈ (a ++ r).head?, (!c.isDigit) = false := by
  intro c hc
  rw [List.head?_append_of_ne_nil _ hne] at hc
  simp [ha c (List.mem_of_mem_head? hc)]

theorem sign_append_inj {sign sign' : List Char} (hsign : sign ⊆ ['+', '-'])
    (hsign' : sign' ⊆ ['+', '-']) (hnea : a ≠ []) (hneb : b ≠ [])
    (ha : ∀ c ∈ a, c.isDigit = true) (hb : ∀ c ∈ b, c.isDigit = true) (hr : Ends r)
    (hs : Ends s) (h : sign ++ (a ++ r) = sign' ++ (b ++ s)) : sign = sign' ∧ a = b ∧ r = s := by
  have hnodigit : ∀ c ∈ ['+', '-'], (!c.isDigit) = true := by simp
  -- First the sign, which is no digit, and then the digits.
  obtain ⟨hsame, hdigits⟩ := append_inj_of_takeWhile (fun c hc => hnodigit c (hsign hc))
    (fun c hc => hnodigit c (hsign' hc)) (head?_append_of_digits hnea ha)
    (head?_append_of_digits hneb hb) h
  exact ⟨hsame, append_inj_of_takeWhile ha hb hr hs hdigits⟩

theorem Numeral.append_inj (ha : Numeral m a) (hb : Numeral n b) (hr : Ends r) (hs : Ends s)
    (h : a ++ r = b ++ s) : m = n ∧ r = s := by
  obtain ⟨sign, ds, hsign, hne, hds⟩ := ha
  obtain ⟨sign', ds', hsign', hne', hds'⟩ := hb
  rw [List.append_assoc, List.append_assoc] at h
  obtain ⟨rfl, rfl, hrest⟩ := sign_append_inj hsign hsign' hne hne' hds hds' hr hs h
  exact ⟨rfl, hrest⟩

theorem Numeral.starts (ha : Numeral m a) :
    ∃ c cs, a = c :: cs ∧ (c ∈ ['+', '-'] ∨ c.isDigit = true) := by
  obtain ⟨sign, ds, hsign, hne, hds⟩ := ha
  cases sign with
  | nil =>
    obtain ⟨d, ds, rfl⟩ := List.exists_cons_of_ne_nil hne
    exact ⟨d, ds, rfl, Or.inr (hds d List.mem_cons_self)⟩
  | cons c sign => exact ⟨c, sign ++ ds, rfl, Or.inl (hsign List.mem_cons_self)⟩

theorem numeral_ofIntPadded (width : Nat) (n : Int) : Numeral n (ofIntPadded width n) := by
  have hnumeral := fun sign hsign => Numeral.mk sign (zeroPad width (ofNat n.natAbs)) hsign
    zeroPad_ne_nil (fun d hd => isDigit_of_mem_zeroPad hd)
  rw [ofIntPadded]
  split_ifs with hneg
  · have h := hnumeral ['-'] (by simp)
    rwa [if_pos (by decide), value_zeroPad, value_ofNat,
      show -(n.natAbs : Int) = n by omega] at h
  · have h := hnumeral [] (List.nil_subset _)
    rwa [if_neg (by decide), value_zeroPad, value_ofNat,
      show (n.natAbs : Int) = n by omega] at h

theorem ofInt_eq_ofIntPadded (n : Int) : ofInt n = ofIntPadded 0 n := by
  simp [ofInt, ofIntPadded, zeroPad]

theorem numeral_ofInt (n : Int) : Numeral n (ofInt n) :=
  ofInt_eq_ofIntPadded n ▸ numeral_ofIntPadded 0 n

end Digits

namespace Text

/-! ## Quoted texts -/

variable {c d : Char} {r s : List Char}

theorem digitChar_injective_of_lt :
    ∀ i < 16, ∀ j < 16, Nat.digitChar i = Nat.digitChar j → i = j := by
  decide

theorem hexDigits_eq (n : Nat) :
    hexDigits n = if n < 16 then [Nat.digitChar n]
      else hexDigits (n / 16) ++ [Nat.digitChar (n % 16)] := by
  rw [hexDigits, Nat.toDigits_eq_if (by decide)]
  rfl

theorem singleton_ne_hexDigits_append {n : Nat} : [c] ≠ hexDigits n ++ [d] := by
  intro h
  have hpos := List.length_pos_of_ne_nil (Nat.toDigits_ne_nil (b := 16) (n := n))
  have hlen := congrArg List.length h
  rw [List.length_append, List.length_singleton, List.length_singleton, hexDigits] at hlen
  omega

theorem hexDigits_injective {m n : Nat} (h : hexDigits m = hexDigits n) : m = n := by
  induction m using Nat.strongRecOn generalizing n with
  | ind m ih =>
    rw [hexDigits_eq m, hexDigits_eq n] at h
    split_ifs at h with hm hn hn
    · exact digitChar_injective_of_lt m hm n hn (List.cons.inj h).1
    · exact absurd h singleton_ne_hexDigits_append
    · exact absurd h.symm singleton_ne_hexDigits_append
    · obtain ⟨hhigh, hlow⟩ := List.append_inj' h rfl
      have hdiv := ih (m / 16) (by omega) hhigh
      have hmod := digitChar_injective_of_lt _ (Nat.mod_lt m (by decide)) _
        (Nat.mod_lt n (by decide)) (List.cons.inj hlow).1
      omega

theorem ne_brace_of_mem_hexDigits (n : Nat) : ∀ x ∈ hexDigits n, (x != '\x7d') = true := by
  have hdigit : ∀ i < 16, (Nat.digitChar i != '\x7d') = true := by decide
  induction n using Nat.strongRecOn with
  | ind n ih =>
    intro x hx
    rw [hexDigits_eq] at hx
    split_ifs at hx with hn
    · rw [List.mem_singleton.1 hx]
      exact hdigit n hn
    · rcases List.mem_append.1 hx with hx | hx
      · exact ih (n / 16) (by omega) x hx
      · rw [List.mem_singleton.1 hx]
        exact hdigit _ (Nat.mod_lt n (by decide))

/-- What stands behind a backslash for a character, apart from its number. -/
def shortMeaning? : Char → Option Char
  | '"' => some '"'
  | '\\' => some '\\'
  | 't' => some '\t'
  | 'r' => some '\r'
  | 'n' => some '\n'
  | '0' => some '\x00'
  | _ => none

/-- A character is written in one of three ways: by a letter behind a backslash, by
its number, or as it is. -/
theorem escape_forms (c : Char) :
    (∃ e, shortMeaning? e = some c ∧ escape c = ['\\', e]) ∨
      escape c = ['\\', 'u', '\x7b'] ++ hexDigits c.toNat ++ ['\x7d'] ∨
      (c ≠ '"' ∧ c ≠ '\\' ∧ escape c = [c]) := by
  unfold escape
  split_ifs with hquote hslash htab hreturn hline hnull hhidden
  · exact Or.inl ⟨'"', by rw [hquote]; rfl, rfl⟩
  · exact Or.inl ⟨'\\', by rw [hslash]; rfl, rfl⟩
  · exact Or.inl ⟨'t', htab ▸ rfl, rfl⟩
  · exact Or.inl ⟨'r', hreturn ▸ rfl, rfl⟩
  · exact Or.inl ⟨'n', hline ▸ rfl, rfl⟩
  · exact Or.inl ⟨'0', hnull ▸ rfl, rfl⟩
  · exact Or.inr (Or.inl rfl)
  · exact Or.inr (Or.inr ⟨hquote, hslash, rfl⟩)

theorem head?_escape (c : Char) : ∀ x ∈ (escape c).head?, x ≠ '"' := by
  rcases escape_forms c with ⟨e, -, hc⟩ | hc | ⟨hquote, -, hc⟩ <;> rw [hc]
  · simp
  · simp
  · simpa using hquote

theorem escape_ne_nil (c : Char) : escape c ≠ [] := by
  rcases escape_forms c with ⟨e, -, hc⟩ | hc | ⟨-, -, hc⟩ <;> simp [hc]

theorem escape_append_inj (h : escape c ++ r = escape d ++ s) : c = d ∧ r = s := by
  have hu : ∀ x, shortMeaning? 'u' ≠ some x := by simp [shortMeaning?]
  rcases escape_forms c with ⟨e, he, hc⟩ | hc | ⟨-, hslash, hc⟩ <;>
    rcases escape_forms d with ⟨e', he', hd⟩ | hd | ⟨-, hslash', hd⟩ <;>
    rw [hc, hd] at h
  · simp only [List.cons_append, List.cons.injEq, List.nil_append, true_and] at h
    obtain ⟨rfl, hrest⟩ := h
    exact ⟨Option.some.inj (he.symm.trans he'), hrest⟩
  · simp only [List.cons_append, List.cons.injEq, List.nil_append, true_and] at h
    exact absurd (h.1 ▸ he) (hu c)
  · exact absurd (List.cons.inj h).1.symm hslash'
  · simp only [List.cons_append, List.cons.injEq, List.nil_append, true_and] at h
    exact absurd (h.1 ▸ he') (hu d)
  · simp only [List.cons_append, List.append_assoc, List.nil_append, List.cons.injEq,
      true_and] at h
    obtain ⟨hnumber, hrest⟩ := append_inj_of_takeWhile (ne_brace_of_mem_hexDigits c.toNat)
      (ne_brace_of_mem_hexDigits d.toNat) (by simp) (by simp) h
    exact ⟨Char.toNat_inj.1 (hexDigits_injective hnumber), (List.cons.inj hrest).2⟩
  · exact absurd (List.cons.inj h).1.symm hslash'
  · exact absurd (List.cons.inj h).1 hslash
  · exact absurd (List.cons.inj h).1 hslash
  · exact List.cons.inj h

theorem quote_append_inj {cs ds : List Char} (h : quote cs ++ r = quote ds ++ s) :
    cs = ds ∧ r = s := by
  -- No character starts like the closing quote.
  have hclose : ∀ {c : Char} {a b : List Char}, '"' :: a ≠ escape c ++ b := by
    intro c a b heq
    have hhead := congrArg List.head? heq
    rw [List.head?_cons, List.head?_append_of_ne_nil _ (escape_ne_nil c)] at hhead
    exact head?_escape c '"' hhead.symm rfl
  simp only [quote, List.cons_append, List.append_assoc, List.nil_append, List.cons.injEq,
    true_and] at h
  induction cs generalizing ds with
  | nil =>
    cases ds with
    | nil => exact ⟨rfl, (List.cons.inj h).2⟩
    | cons d ds =>
      rw [List.flatMap_nil, List.nil_append, List.flatMap_cons, List.append_assoc] at h
      exact absurd h hclose
  | cons c cs ih =>
    cases ds with
    | nil =>
      rw [List.flatMap_nil, List.nil_append, List.flatMap_cons, List.append_assoc] at h
      exact absurd h.symm hclose
    | cons d ds =>
      rw [List.flatMap_cons, List.flatMap_cons, List.append_assoc, List.append_assoc] at h
      obtain ⟨rfl, hrest⟩ := escape_append_inj h
      obtain ⟨rfl, hend⟩ := ih hrest
      exact ⟨rfl, hend⟩

end Text

end FixtureMatrix
