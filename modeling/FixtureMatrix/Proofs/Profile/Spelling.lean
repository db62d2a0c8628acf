import FixtureMatrix.Profile
import FixtureMatrix.Proofs.Text.Digits
import FixtureMatrix.Proofs.Text.Runs

/-!
# Spellings of page versions

A page version is spelled by its digit, with zeros, a plus sign and `v`s in front of it if
there are any; a point ends it, with anything behind.

* `numberPart_iff`: where the number stands in a text, if it has one.
* `spelling_iff`: the spellings of a version are the texts whose number is the version's.
* `ofText_by_spelling`: these are read and no others, and the message about any other text
  shows its number, or the text where no number fits.
-/

namespace FixtureMatrix.PageVersion

open Digits

variable {v : PageVersion} {body part ds : List Char} {n : Nat}

/-! ## The place of the number -/

/-- Nothing, or a point with anything behind it. -/
def Ended (tail : List Char) : Prop :=
  tail = [] ∨ ∃ more, tail = '.' :: more

def IsLetter (c : Char) : Prop :=
  c = 'v' ∨ c = 'V'

/-- What stands in a text between all the `v`s at its start and the first point. -/
inductive NumberPart : List Char → List Char → Prop
  | mk (vs part tail : List Char) : (∀ c ∈ vs, IsLetter c) →
      (∀ c ∈ (part ++ tail).head?, ¬ IsLetter c) → '.' ∉ part → Ended tail →
      NumberPart (vs ++ (part ++ tail)) part

def isLetter (c : Char) : Bool :=
  c == 'v' || c == 'V'

/-- The part that is read as a number. -/
def numberPart (body : List Char) : List Char :=
  (body.dropWhile isLetter).takeWhile (· != '.')

theorem isLetter_eq_true_iff {c : Char} : isLetter c = true ↔ IsLetter c := by
  simp [isLetter, IsLetter]

theorem isLetter_eq_false_iff {c : Char} : isLetter c = false ↔ ¬ IsLetter c := by
  rw [← isLetter_eq_true_iff, Bool.not_eq_true]

theorem ended_iff {tail : List Char} : Ended tail ↔ ∀ c ∈ tail.head?, (c != '.') = false := by
  cases tail with
  | nil => simp [Ended]
  | cons c more => simp [Ended]

theorem NumberPart.eq_numberPart (h : NumberPart body part) : part = numberPart body := by
  obtain ⟨vs, part, tail, hvs, hstart, hpoint, htail⟩ := h
  have hletters : ∀ c ∈ vs, isLetter c = true := fun c hc => isLetter_eq_true_iff.2 (hvs c hc)
  have hstop : ∀ c ∈ (part ++ tail).head?, isLetter c = false := fun c hc =>
    isLetter_eq_false_iff.2 (hstart c hc)
  have hpart : ∀ c ∈ part, (c != '.') = true := fun c hc =>
    bne_iff_ne.2 fun heq => hpoint (heq ▸ hc)
  rw [numberPart, dropWhile_append_of_stop hletters hstop,
    takeWhile_append_of_stop hpart (ended_iff.1 htail)]

theorem numberPart_numberPart (body : List Char) : NumberPart body (numberPart body) := by
  let rest := body.dropWhile isLetter
  have hrest : numberPart body ++ rest.dropWhile (· != '.') = rest :=
    List.takeWhile_append_dropWhile
  have hplace := NumberPart.mk (body.takeWhile isLetter) (numberPart body)
    (rest.dropWhile (· != '.'))
  rw [hrest, List.takeWhile_append_dropWhile] at hplace
  refine hplace (fun c hc => isLetter_eq_true_iff.1 (List.mem_takeWhile_imp hc)) ?_ ?_
    (ended_iff.2 (head?_dropWhile rest))
  · exact fun c hc => isLetter_eq_false_iff.1 (head?_dropWhile body c hc)
  · exact fun hpoint => absurd (List.mem_takeWhile_imp hpoint) (by decide)

theorem numberPart_iff : NumberPart body part ↔ part = numberPart body := by
  constructor
  · exact NumberPart.eq_numberPart
  · rintro rfl
    exact numberPart_numberPart body

/-! ## Numbers -/

/-- A number in digits, of which there is at least one, behind a plus sign or none. -/
inductive Unsigned : Nat → List Char → Prop
  | mk (sign ds : List Char) : sign = [] ∨ sign = ['+'] → ds ≠ [] → (∀ d ∈ ds, d.isDigit = true) →
      Unsigned (value ds) (sign ++ ds)

/-- The digits of a number, without the plus sign. -/
def unsignedDigits (part : List Char) : List Char :=
  match part with
  | '+' :: ds => ds
  | _ => part

theorem unsignedDigits_of_isDigit (h : ∀ d ∈ ds, d.isDigit = true) : unsignedDigits ds = ds := by
  unfold unsignedDigits
  split
  · exact absurd (h '+' List.mem_cons_self) (by decide)
  · rfl

theorem exists_sign (part : List Char) :
    ∃ sign, (sign = [] ∨ sign = ['+']) ∧ part = sign ++ unsignedDigits part := by
  unfold unsignedDigits
  split
  · exact ⟨['+'], Or.inr rfl, rfl⟩
  · exact ⟨[], Or.inl rfl, rfl⟩

theorem unsigned_iff : Unsigned n part ↔ toNat? (unsignedDigits part) = some n := by
  rw [toNat?_eq_some_iff]
  constructor
  · rintro ⟨sign, ds, rfl | rfl, hne, hds⟩
    · rw [List.nil_append, unsignedDigits_of_isDigit hds]
      exact ⟨hne, hds, rfl⟩
    · exact ⟨hne, hds, rfl⟩
  · rintro ⟨hne, hds, rfl⟩
    obtain ⟨sign, hsign, hpart⟩ := exists_sign part
    have hnumber := Unsigned.mk sign (unsignedDigits part) hsign hne hds
    rwa [← hpart] at hnumber

theorem numberOfText?_eq_some_iff {cs : List Char} :
    numberOfText? cs = some n ↔ Unsigned n (numberPart (Text.trim cs)) ∧ n ≤ 255 := by
  have hread : numberOfText? cs =
      (toNat? (unsignedDigits (numberPart (Text.trim cs)))).filter (· ≤ 255) := rfl
  rw [hread, unsigned_iff, Option.filter_eq_some_iff, decide_eq_true_iff]

/-! ## Spellings -/

/-- The digit of a version. -/
def digit : PageVersion → Char
  | v1 => '1'
  | v2 => '2'

/-- How a version is spelled: `v`s, a plus sign or none, zeros and the digit, up to the end or
a point. -/
inductive Spelling (v : PageVersion) : List Char → Prop
  | mk (vs sign zeros tail : List Char) : (∀ c ∈ vs, IsLetter c) →
      sign = [] ∨ sign = ['+'] → (∀ c ∈ zeros, c = '0') → Ended tail →
      Spelling v (vs ++ (sign ++ (zeros ++ v.digit :: tail)))

theorem ofNat_number (v : PageVersion) : Digits.ofNat v.number = [v.digit] := by
  cases v <;> rfl

theorem isDigit_digit (v : PageVersion) : v.digit.isDigit = true := by
  cases v <;> rfl

/-- A digit neither belongs to the letters in front of a number nor ends it. -/
theorem ne_of_isDigit {c : Char} (h : c.isDigit = true) : c ≠ '.' ∧ ¬ IsLetter c := by
  refine ⟨?_, ?_⟩
  · rintro rfl
    exact absurd h (by decide)
  · rintro (rfl | rfl) <;> exact absurd h (by decide)

theorem Unsigned.ne_of_mem (h : Unsigned n part) : ∀ c ∈ part, c ≠ '.' ∧ ¬ IsLetter c := by
  obtain ⟨sign, ds, hsign, -, hds⟩ := h
  intro c hc
  rcases List.mem_append.1 hc with hc | hc
  · obtain rfl | rfl := hsign
    · cases hc
    · rw [List.mem_singleton.1 hc]
      exact ⟨by decide, by unfold IsLetter; decide⟩
  · exact ne_of_isDigit (hds c hc)

theorem Unsigned.ne_nil (h : Unsigned n part) : part ≠ [] := by
  obtain ⟨sign, ds, -, hne, -⟩ := h
  exact List.append_ne_nil_of_right_ne_nil sign hne

/-- Behind zeros the digit of a version denotes its number. -/
theorem unsigned_digit {sign zeros : List Char} (hsign : sign = [] ∨ sign = ['+'])
    (hzeros : ∀ c ∈ zeros, c = '0') : Unsigned v.number (sign ++ (zeros ++ [v.digit])) := by
  have hvalue : value (zeros ++ [v.digit]) = v.number := by
    rw [List.eq_replicate_of_mem hzeros, ← ofNat_number, value, Nat.ofDigitChars_append,
      Nat.ofDigitChars_replicate_zero, Nat.mul_zero]
    exact value_ofNat v.number
  rw [← hvalue]
  refine .mk sign (zeros ++ [v.digit]) hsign (by simp) fun d hd => ?_
  rcases List.mem_append.1 hd with hd | hd
  · rw [hzeros d hd]
    rfl
  · rw [List.mem_singleton.1 hd]
    exact isDigit_digit v

/-- The spellings of a version are the texts whose number is the version's. -/
theorem spelling_iff : Spelling v body ↔ Unsigned v.number (numberPart body) := by
  constructor
  · rintro ⟨vs, sign, zeros, tail, hvs, hsign, hzeros, htail⟩
    have hnumber : Unsigned v.number (sign ++ (zeros ++ [v.digit])) := unsigned_digit hsign hzeros
    have hpart := NumberPart.mk vs (sign ++ (zeros ++ [v.digit])) tail hvs ?_ ?_ htail
    · simp only [List.append_assoc, List.singleton_append] at hpart hnumber
      rwa [← hpart.eq_numberPart]
    · rw [List.head?_append_of_ne_nil _ hnumber.ne_nil]
      exact fun c hc => (hnumber.ne_of_mem c (List.mem_of_mem_head? hc)).2
    · exact fun hpoint => (hnumber.ne_of_mem _ hpoint).1 rfl
  · intro hnumber
    have hplace := numberPart_numberPart body
    generalize numberPart body = part at hnumber hplace
    generalize hn : v.number = n at hnumber
    obtain ⟨vs, part, tail, hvs, -, -, htail⟩ := hplace
    obtain ⟨sign, ds, hsign, hne, hds⟩ := hnumber
    -- digits that denote the number of a version are its one digit behind zeros
    obtain ⟨k, hzeros⟩ := exists_zeros hne hds
    rw [← hn, ofNat_number] at hzeros
    have hspelling := Spelling.mk (v := v) vs sign (List.replicate k '0') tail hvs hsign
      (fun c hc => List.eq_of_mem_replicate hc) htail
    rw [hzeros]
    simpa only [List.append_assoc, List.singleton_append] using hspelling

/-! ## Reading -/

/-- What the message about a text shows: its number, if that fits a byte, or else the text. -/
inductive Shown (text : String) (part : List Char) : String → Prop
  | number {n : Nat} : Unsigned n part → n ≤ 255 → Shown text part (toString n)
  | text : (∀ n, Unsigned n part → 255 < n) → Shown text part text

variable {s message : String}

theorem ofNumber?_number (v : PageVersion) : ofNumber? v.number = some v := by
  cases v <;> rfl

theorem number_of_ofNumber? (h : ofNumber? n = some v) : v.number = n := by
  unfold ofNumber? at h
  split at h <;> cases h <;> rfl

theorem ofText_of_unsigned (h : Unsigned v.number (numberPart (Text.trim s.toList))) :
    ofText s = .ok v := by
  have hbyte : v.number ≤ 255 := by cases v <;> decide
  rw [ofText, numberOfText?_eq_some_iff.2 ⟨h, hbyte⟩]
  simp only [ofNumber?_number]

/-- A text that is not the spelling of a version is refused, with a message about its
number or all of it. -/
theorem ofText_of_shown {shown : String}
    (h : ∀ v, ¬ Unsigned (number v) (numberPart (Text.trim s.toList)))
    (hshown : Shown s (numberPart (Text.trim s.toList)) shown) :
    ofText s = .error (unknownMessage shown) := by
  cases hshown with
  | @number n hn hbyte =>
    rw [ofText, numberOfText?_eq_some_iff.2 ⟨hn, hbyte⟩]
    cases hv : ofNumber? n with
    | none => simp only [hv, Nat.toString_eq_ofList_toDigits, Digits.ofNat]
    | some v => exact absurd (number_of_ofNumber? hv ▸ hn) (h v)
  | text hlarge =>
    have hnone : numberOfText? s.toList = none := by
      refine Option.eq_none_iff_forall_ne_some.2 fun n hn => ?_
      obtain ⟨hnumber, hbyte⟩ := numberOfText?_eq_some_iff.1 hn
      exact absurd hbyte (Nat.not_le_of_lt (hlarge n hnumber))
    rw [ofText, hnone]

theorem exists_shown (s : String) (part : List Char) : ∃ shown, Shown s part shown := by
  by_cases h : ∃ n, Unsigned n part ∧ n ≤ 255
  · obtain ⟨n, hn, hbyte⟩ := h
    exact ⟨_, .number hn hbyte⟩
  · exact ⟨_, .text fun n hn => Nat.lt_of_not_le fun hbyte => h ⟨n, hn, hbyte⟩⟩

theorem ofText_eq_ok_iff :
    ofText s = .ok v ↔ Unsigned v.number (numberPart (Text.trim s.toList)) := by
  refine ⟨fun hread => ?_, ofText_of_unsigned⟩
  by_contra hnot
  by_cases hspelled : ∃ w : PageVersion, Unsigned w.number (numberPart (Text.trim s.toList))
  · obtain ⟨w, hw⟩ := hspelled
    rw [ofText_of_unsigned hw] at hread
    exact hnot (Except.ok.inj hread ▸ hw)
  · obtain ⟨shown, hshown⟩ := exists_shown s (numberPart (Text.trim s.toList))
    rw [ofText_of_shown (not_exists.1 hspelled) hshown] at hread
    cases hread

theorem ofText_eq_error_iff : ofText s = .error message ↔
    (∀ v : PageVersion, ¬ Unsigned v.number (numberPart (Text.trim s.toList))) ∧
      ∃ shown, Shown s (numberPart (Text.trim s.toList)) shown ∧
        message = unknownMessage shown := by
  constructor
  · intro herror
    have hnone : ∀ v : PageVersion, ¬ Unsigned v.number (numberPart (Text.trim s.toList)) := by
      intro v hv
      rw [ofText_of_unsigned hv] at herror
      cases herror
    obtain ⟨shown, hshown⟩ := exists_shown s (numberPart (Text.trim s.toList))
    rw [ofText_of_shown hnone hshown] at herror
    exact ⟨hnone, shown, hshown, (Except.error.inj herror).symm⟩
  · rintro ⟨hnone, shown, hshown, rfl⟩
    exact ofText_of_shown hnone hshown

/-- The spellings of versions are read, with any white space around them, and every other
text is refused with a message that shows what `Shown` says. -/
theorem ofText_by_spelling (s : String) :
    ∃ body part, (∀ b, Text.Trimmed s.toList b ↔ b = body) ∧
      (∀ p, NumberPart body p ↔ p = part) ∧
      (∀ v, ofText s = .ok v ↔ Spelling v body) ∧
      ∀ message, ofText s = .error message ↔ (∀ v, ¬ Spelling v body) ∧
        ∃ shown, Shown s part shown ∧
          message = "Unknown page version: " ++ shown ++ ". Use 1 or 2" := by
  refine ⟨Text.trim s.toList, numberPart (Text.trim s.toList), fun b => Text.trimmed_iff,
    fun p => numberPart_iff, fun v => ?_, fun message => ?_⟩
  · rw [spelling_iff, ofText_eq_ok_iff]
  · simp only [spelling_iff]
    exact ofText_eq_error_iff

example : ofText " vV+0002.x\t" = .ok .v2 := by decide
example : ofText "v+007" = .error "Unknown page version: 7. Use 1 or 2" := by decide
example : ofText "v256" = .error "Unknown page version: v256. Use 1 or 2" := by decide

end FixtureMatrix.PageVersion
