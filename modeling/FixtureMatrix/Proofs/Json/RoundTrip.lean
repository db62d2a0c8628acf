import FixtureMatrix.Json.Read
import FixtureMatrix.Proofs.Json.Tokens

/-!
# Reading laid-out text

`pretty` lays a value out with line ends and indentation, and reading undoes it.
Between the two stand the kinds of a value's tokens: `lexes_pretty` goes from
the text to the tokens and `readValue_kinds` from the tokens to the value.

* `read_pretty`: the text of a value is read back as the value, with nothing
  behind it.

Values with negative or binary64 numbers are left out: no record that is written
and read back holds one.
-/

namespace FixtureMatrix.Json

/-! ## Tokens of a value -/

mutual

/-- The kinds of the tokens a value is written with. -/
def kinds : Json → List TokenKind
  | .null => [.atom (.ok .null)]
  | .bool b => [.atom (.ok (.bool b))]
  | .int n => [.atom (.ok (.int n))]
  | .float x => [.atom (.ok (.float x))]
  | .str s => [.string (.ok s)]
  | .arr [] => [.openArray, .closeArray]
  | .arr (item :: items) => .openArray :: (item.kinds ++ itemKinds items)
  | .obj [] => [.openObject, .closeObject]
  | .obj ((key, item) :: entries) =>
    .openObject :: .string (.ok key) :: .colon :: (item.kinds ++ entryKinds entries)

/-- Those of the items after the first, with the closing bracket. -/
def itemKinds : List Json → List TokenKind
  | [] => [.closeArray]
  | item :: items => .comma :: (item.kinds ++ itemKinds items)

/-- Those of the entries after the first, with the closing brace. -/
def entryKinds : List (String × Json) → List TokenKind
  | [] => [.closeObject]
  | (key, item) :: entries =>
    .comma :: .string (.ok key) :: .colon :: (item.kinds ++ entryKinds entries)

end

mutual

/-- A value without numbers but whole ones from zero to below 2^64. -/
def Exact : Json → Prop
  | .int n => 0 ≤ n ∧ n < Nat.pow 2 64
  | .float _ => False
  | .arr items => ExactItems items
  | .obj entries => ExactEntries entries
  | .null | .bool _ | .str _ => True

def ExactItems : List Json → Prop
  | [] => True
  | item :: items => item.Exact ∧ ExactItems items

def ExactEntries : List (String × Json) → Prop
  | [] => True
  | (_, item) :: entries => item.Exact ∧ ExactEntries entries

end

theorem exactItems_iff {items : List Json} : ExactItems items ↔ ∀ j ∈ items, j.Exact := by
  induction items with
  | nil => simp [ExactItems]
  | cons item items ih => simp [ExactItems, ih]

theorem exact_nat {n : Nat} (hn : n < Nat.pow 2 64) : (nat n).Exact := by
  rw [nat, Exact]
  exact ⟨Int.natCast_nonneg n, Int.ofNat_lt.2 hn⟩

/-! ## From text to tokens -/

theorem Lexes.newline (level : Nat) {cs : List Char} {ks : List TokenKind} (h : Lexes cs ks) :
    Lexes (newline level ++ cs) ks := by
  refine Lexes.spaces ?_ h
  intro c hc
  rw [Json.newline, List.mem_cons] at hc
  rcases hc with rfl | hc
  · rfl
  · rw [List.eq_of_mem_replicate hc]
    rfl

/-- What follows an item or an entry never goes on with a number. -/
theorem endsNumber_cons {c : Char} {cs : List Char} (hc : c = ',' ∨ c = '\n') :
    EndsNumber (c :: cs) := by
  intro x hx
  obtain rfl : c = x := Option.some.inj hx
  rcases hc with rfl | rfl
  · decide
  · decide

theorem endsNumber_prettyItems (level : Nat) (items : List Json) (cs : List Char) :
    EndsNumber (prettyItems level items ++ cs) := by
  cases items with
  | nil => exact endsNumber_cons (Or.inr rfl)
  | cons item items => exact endsNumber_cons (Or.inl rfl)

theorem endsNumber_prettyEntries (level : Nat) (entries : List (String × Json))
    (cs : List Char) : EndsNumber (prettyEntries level entries ++ cs) := by
  cases entries with
  | nil => exact endsNumber_cons (Or.inr rfl)
  | cons entry entries => exact endsNumber_cons (Or.inl rfl)

mutual

theorem lexes_pretty : ∀ {j : Json} (_ : j.Exact) (level : Nat) {cs : List Char}
    {ks : List TokenKind} (_ : EndsNumber cs) (_ : Lexes cs ks),
    Lexes (pretty level j ++ cs) (j.kinds ++ ks)
  | .null, _, level, cs, ks, _, h => by
    rw [pretty, kinds]
    exact h.null
  | .bool b, _, level, cs, ks, _, h => by
    rw [pretty, kinds]
    exact h.bool b
  | .int n, hj, level, cs, ks, hends, h => by
    rw [Exact] at hj
    obtain ⟨m, rfl⟩ := Int.eq_ofNat_of_zero_le hj.1
    rw [pretty, kinds, Digits.ofInt, if_neg (Int.not_lt.2 hj.1), Int.natAbs_natCast]
    exact h.nat (Int.ofNat_lt.1 hj.2) hends
  | .float x, hj, _, _, _, _, _ => by
    rw [Exact] at hj
    exact hj.elim
  | .str s, _, level, cs, ks, _, h => by
    rw [pretty, kinds]
    exact h.string s
  | .arr [], _, level, cs, ks, _, h => by
    rw [pretty, kinds]
    exact (h.punctuation (c := ']') rfl rfl).punctuation (c := '[') rfl rfl
  | .arr (item :: items), hj, level, cs, ks, _, h => by
    rw [Exact, ExactItems] at hj
    have hrest := lexes_prettyItems hj.2 level h
    have hitem := lexes_pretty hj.1 (level + 1) (endsNumber_prettyItems level items cs) hrest
    rw [pretty, kinds]
    simpa using (hitem.newline (level + 1)).punctuation (c := '[') rfl rfl
  | .obj [], _, level, cs, ks, _, h => by
    rw [pretty, kinds]
    exact (h.punctuation (c := '\x7d') rfl rfl).punctuation (c := '\x7b') rfl rfl
  | .obj ((key, item) :: entries), hj, level, cs, ks, _, h => by
    rw [Exact, ExactEntries] at hj
    have hrest := lexes_prettyEntries hj.2 level h
    have hitem := lexes_pretty hj.1 (level + 1) (endsNumber_prettyEntries level entries cs) hrest
    have hkey := ((hitem.space (c := ' ') rfl).punctuation (c := ':') rfl rfl).string key
    rw [pretty, kinds]
    simpa using (hkey.newline (level + 1)).punctuation (c := '\x7b') rfl rfl

theorem lexes_prettyItems : ∀ {items : List Json} (_ : ExactItems items) (level : Nat)
    {cs : List Char} {ks : List TokenKind} (_ : Lexes cs ks),
    Lexes (prettyItems level items ++ cs) (itemKinds items ++ ks)
  | [], _, level, cs, ks, h => by
    rw [prettyItems, itemKinds]
    simpa using (h.punctuation (c := ']') rfl rfl).newline level
  | item :: items, hj, level, cs, ks, h => by
    rw [ExactItems] at hj
    have hrest := lexes_prettyItems hj.2 level h
    have hitem := lexes_pretty hj.1 (level + 1) (endsNumber_prettyItems level items cs) hrest
    rw [prettyItems, itemKinds]
    simpa using (hitem.newline (level + 1)).punctuation (c := ',') rfl rfl

theorem lexes_prettyEntries : ∀ {entries : List (String × Json)} (_ : ExactEntries entries)
    (level : Nat) {cs : List Char} {ks : List TokenKind} (_ : Lexes cs ks),
    Lexes (prettyEntries level entries ++ cs) (entryKinds entries ++ ks)
  | [], _, level, cs, ks, h => by
    rw [prettyEntries, entryKinds]
    simpa using (h.punctuation (c := '\x7d') rfl rfl).newline level
  | (key, item) :: entries, hj, level, cs, ks, h => by
    rw [ExactEntries] at hj
    have hrest := lexes_prettyEntries hj.2 level h
    have hitem := lexes_pretty hj.1 (level + 1) (endsNumber_prettyEntries level entries cs) hrest
    have hkey := ((hitem.space (c := ' ') rfl).punctuation (c := ':') rfl rfl).string key
    rw [prettyEntries, entryKinds]
    simpa using (hkey.newline (level + 1)).punctuation (c := ',') rfl rfl

end

/-! ## From tokens to the value -/

/-- No value starts with a closing bracket. -/
theorem kinds_eq_cons (j : Json) : ∃ k ks, j.kinds = k :: ks ∧ k ≠ .closeArray := by
  rcases j with _ | _ | _ | _ | _ | (_ | ⟨item, items⟩) | (_ | ⟨⟨key, item⟩, entries⟩)
  all_goals
    rw [kinds]
    exact ⟨_, _, rfl, by simp⟩

theorem length_kinds_pos (j : Json) : 0 < j.kinds.length := by
  obtain ⟨k, ks, hk, -⟩ := kinds_eq_cons j
  rw [hk]
  exact Nat.succ_pos _

theorem length_itemKinds_pos (items : List Json) : 0 < (itemKinds items).length := by
  cases items <;> simp [itemKinds]

namespace Located

variable {size fuel : Nat} {ts rest : List Token} {t : Token} {ks : List TokenKind}

/-- The first of tokens whose kinds are known. -/
theorem cons_of_map_kind {k : TokenKind} (h : ts.map Token.kind = k :: ks) :
    ∃ t rest, ts = t :: rest ∧ t.kind = k ∧ rest.map Token.kind = ks :=
  List.map_eq_cons_iff.1 h

/-- Tokens are read as a value, and those behind it are left. -/
def ReadsValue (size fuel : Nat) (ts : List Token) (j : Json) (ks : List TokenKind) : Prop :=
  ∃ v rest, readValue size fuel ts = (v, rest) ∧ v.toJson? = some j ∧ rest.map Token.kind = ks

/-- Tokens are read as items up to a closing bracket. -/
def ReadsItems (size fuel : Nat) (first : Bool) (ts : List Token) (items : List Json)
    (ks : List TokenKind) : Prop :=
  ∃ vs stop rest, readItems size fuel first ts = (vs, .closed stop, rest) ∧
    itemsToJson? vs = some items ∧ rest.map Token.kind = ks

/-- Tokens are read as entries up to a closing brace. -/
def ReadsEntries (size fuel : Nat) (first : Bool) (ts : List Token)
    (entries : List (String × Json)) (ks : List TokenKind) : Prop :=
  ∃ es stop rest, readEntries size fuel first ts = (es, .closed stop, rest) ∧
    entriesToJson? es = some entries ∧ rest.map Token.kind = ks

theorem readsValue_atom {value : Atom} (hts : ts.map Token.kind = .atom (.ok value) :: ks) :
    ReadsValue size (fuel + 1) ts value.toJson ks := by
  obtain ⟨t, rest, rfl, ht, hrest⟩ := cons_of_map_kind hts
  exact ⟨_, rest, by rw [readValue, ht], rfl, hrest⟩

theorem readsValue_string {s : String} (hts : ts.map Token.kind = .string (.ok s) :: ks) :
    ReadsValue size (fuel + 1) ts (.str s) ks := by
  obtain ⟨t, rest, rfl, ht, hrest⟩ := cons_of_map_kind hts
  exact ⟨_, rest, by rw [readValue, ht], rfl, hrest⟩

theorem readsValue_array {items : List Json} (ht : t.kind = .openArray)
    (h : ReadsItems size fuel true rest items ks) :
    ReadsValue size (fuel + 1) (t :: rest) (.arr items) ks := by
  obtain ⟨vs, stop, rest', hread, hitems, hrest⟩ := h
  refine ⟨.array t.start vs (.closed stop), rest', ?_, ?_, hrest⟩
  · rw [readValue, ht]
    simp only [hread]
  · rw [toJson?, hitems]
    rfl

theorem readsValue_object {entries : List (String × Json)} (ht : t.kind = .openObject)
    (h : ReadsEntries size fuel true rest entries ks) :
    ReadsValue size (fuel + 1) (t :: rest) (.obj entries) ks := by
  obtain ⟨es, stop, rest', hread, hentries, hrest⟩ := h
  refine ⟨.object t.start es (.closed stop), rest', ?_, ?_, hrest⟩
  · rw [readValue, ht]
    simp only [hread]
  · rw [toJson?, hentries]
    rfl

theorem readsItems_close {first : Bool} (hts : ts.map Token.kind = .closeArray :: ks) :
    ReadsItems size (fuel + 1) first ts [] ks := by
  obtain ⟨t, rest, rfl, ht, hrest⟩ := cons_of_map_kind hts
  refine ⟨[], t.stop, rest, ?_, rfl, hrest⟩
  rw [readItems]
  exact ht

/-- An item and those after it are read in turn. -/
theorem readsItems_cons {item : Json} {items : List Json} {ks' : List TokenKind}
    (hitem : ReadsValue size fuel (t :: rest) item ks') (ht : t.kind ≠ .closeArray)
    (hitems : ∀ {ts : List Token}, ts.map Token.kind = ks' → ReadsItems size fuel false ts items ks) :
    ReadsItems size (fuel + 1) true (t :: rest) (item :: items) ks ∧
      ∀ comma : Token, comma.kind = .comma →
        ReadsItems size (fuel + 1) false (comma :: t :: rest) (item :: items) ks := by
  obtain ⟨v, rest', hread, hv, hrest⟩ := hitem
  obtain ⟨vs, stop, after, hreads, hvs, hafter⟩ := hitems hrest
  have hjson : itemsToJson? ((v, afterArray size rest') :: vs) = some (item :: items) := by
    rw [itemsToJson?, hv, hvs]
    rfl
  constructor
  · refine ⟨_, stop, after, ?_, hjson, hafter⟩
    rw [readItems.eq_def]
    simp only [hread, hreads]
  · intro comma hcomma
    refine ⟨_, stop, after, ?_, hjson, hafter⟩
    rw [readItems.eq_def]
    simp only [hcomma, hread, hreads]

theorem readsEntries_close {first : Bool} (hts : ts.map Token.kind = .closeObject :: ks) :
    ReadsEntries size (fuel + 1) first ts [] ks := by
  obtain ⟨t, rest, rfl, ht, hrest⟩ := cons_of_map_kind hts
  refine ⟨[], t.stop, rest, ?_, rfl, hrest⟩
  rw [readEntries]
  exact ht

/-- An entry and those after it are read in turn. -/
theorem readsEntries_cons {name : String} {item : Json} {entries : List (String × Json)}
    {key colon : Token} {ks' : List TokenKind} (hkey : key.kind = .string (.ok name))
    (hcolon : colon.kind = .colon) (hitem : ReadsValue size fuel rest item ks')
    (hentries : ∀ {ts : List Token}, ts.map Token.kind = ks' →
      ReadsEntries size fuel false ts entries ks) :
    ReadsEntries size (fuel + 2) true (key :: colon :: rest) ((name, item) :: entries) ks ∧
      ∀ comma : Token, comma.kind = .comma →
        ReadsEntries size (fuel + 2) false (comma :: key :: colon :: rest)
          ((name, item) :: entries) ks := by
  obtain ⟨v, rest', hread, hv, hrest⟩ := hitem
  obtain ⟨es, stop, after, hreads, hes, hafter⟩ := hentries hrest
  have hentry : readEntry size (fuel + 1) key (colon :: rest) =
      (((name, afterObject size (colon :: rest)), (v, afterObject size rest')) :: es,
        .closed stop, after) := by
    rw [readEntry, hkey]
    simp only [hcolon, hread, hreads]
  have hjson : entriesToJson?
      (((name, afterObject size (colon :: rest)), (v, afterObject size rest')) :: es) =
        some ((name, item) :: entries) := by
    rw [entriesToJson?, hv, hes]
    rfl
  constructor
  · refine ⟨_, stop, after, ?_, hjson, hafter⟩
    rw [readEntries.eq_def]
    simp only [hkey, hentry]
  · intro comma hcomma
    refine ⟨_, stop, after, ?_, hjson, hafter⟩
    rw [readEntries.eq_def]
    simp only [hcomma, hkey, hentry]

/-- Tokens of a value start with one that closes nothing. -/
theorem cons_of_kinds {j : Json} (h : ts.map Token.kind = j.kinds ++ ks) :
    ∃ t rest, ts = t :: rest ∧ t.kind ≠ .closeArray := by
  obtain ⟨k, ks', hk, hne⟩ := kinds_eq_cons j
  rw [hk, List.cons_append] at h
  obtain ⟨t, rest, hts, ht, -⟩ := cons_of_map_kind h
  exact ⟨t, rest, hts, ht ▸ hne⟩

mutual

/-- A value is read from its tokens.  One unit of fuel a token is enough. -/
theorem readValue_kinds : ∀ (j : Json) (fuel : Nat) {ts : List Token} {ks : List TokenKind}
    (_ : j.kinds.length ≤ fuel) (_ : ts.map Token.kind = j.kinds ++ ks),
    ReadsValue size fuel ts j ks
  | j, 0, _, _, hfuel, _ => absurd (length_kinds_pos j) (Nat.not_lt.2 hfuel)
  | .null, fuel + 1, ts, ks, _, hts => by
    rw [kinds] at hts
    exact readsValue_atom hts
  | .bool b, fuel + 1, ts, ks, _, hts => by
    rw [kinds] at hts
    exact readsValue_atom hts
  | .int n, fuel + 1, ts, ks, _, hts => by
    rw [kinds] at hts
    exact readsValue_atom hts
  | .float x, fuel + 1, ts, ks, _, hts => by
    rw [kinds] at hts
    exact readsValue_atom hts
  | .str s, fuel + 1, ts, ks, _, hts => by
    rw [kinds] at hts
    exact readsValue_string hts
  | .arr [], fuel + 1, ts, ks, hfuel, hts => by
    rw [kinds] at hts hfuel
    obtain ⟨t, rest, rfl, ht, hrest⟩ := cons_of_map_kind hts
    obtain ⟨fuel, rfl⟩ := Nat.exists_eq_add_of_le' (Nat.le_of_succ_le_succ hfuel)
    exact readsValue_array ht (readsItems_close hrest)
  | .arr (item :: items), fuel + 1, ts, ks, hfuel, hts => by
    rw [kinds, List.cons_append, List.append_assoc] at hts
    obtain ⟨t, rest, rfl, ht, hrest⟩ := cons_of_map_kind hts
    obtain ⟨u, rest, rfl, hu⟩ := cons_of_kinds hrest
    rw [kinds, List.length_cons, List.length_append] at hfuel
    have hfirst := length_kinds_pos item
    have hothers := length_itemKinds_pos items
    obtain ⟨fuel, rfl⟩ : ∃ n, fuel = n + 1 := Nat.exists_eq_add_of_le' (by omega)
    have hitem := readValue_kinds item fuel (by omega) hrest
    exact readsValue_array ht (readsItems_cons hitem hu fun h =>
      readItems_kinds items fuel (by omega) h).1
  | .obj [], fuel + 1, ts, ks, hfuel, hts => by
    rw [kinds] at hts hfuel
    obtain ⟨t, rest, rfl, ht, hrest⟩ := cons_of_map_kind hts
    obtain ⟨fuel, rfl⟩ := Nat.exists_eq_add_of_le' (Nat.le_of_succ_le_succ hfuel)
    exact readsValue_object ht (readsEntries_close hrest)
  | .obj ((key, item) :: entries), fuel + 1, ts, ks, hfuel, hts => by
    rw [kinds, List.cons_append, List.cons_append, List.cons_append, List.append_assoc] at hts
    obtain ⟨t, rest, rfl, ht, hrest⟩ := cons_of_map_kind hts
    obtain ⟨u, rest, rfl, hu, hrest⟩ := cons_of_map_kind hrest
    obtain ⟨colon, rest, rfl, hcolon, hrest⟩ := cons_of_map_kind hrest
    simp only [kinds, List.length_cons, List.length_append] at hfuel
    obtain ⟨fuel, rfl⟩ : ∃ n, fuel = n + 2 := Nat.exists_eq_add_of_le' (by omega)
    have hitem := readValue_kinds item fuel (by omega) hrest
    exact readsValue_object ht (readsEntries_cons hu hcolon hitem fun h =>
      readEntries_kinds entries fuel (by omega) h).1

theorem readItems_kinds : ∀ (items : List Json) (fuel : Nat) {ts : List Token}
    {ks : List TokenKind} (_ : (itemKinds items).length ≤ fuel)
    (_ : ts.map Token.kind = itemKinds items ++ ks), ReadsItems size fuel false ts items ks
  | [], fuel, ts, ks, hfuel, hts => by
    rw [itemKinds] at hts hfuel
    obtain ⟨fuel, rfl⟩ := Nat.exists_eq_add_of_le' hfuel
    exact readsItems_close hts
  | item :: items, fuel, ts, ks, hfuel, hts => by
    rw [itemKinds, List.cons_append, List.append_assoc] at hts
    obtain ⟨comma, rest, rfl, hcomma, hrest⟩ := cons_of_map_kind hts
    obtain ⟨t, rest, rfl, ht⟩ := cons_of_kinds hrest
    simp only [itemKinds, List.length_cons, List.length_append] at hfuel
    obtain ⟨fuel, rfl⟩ : ∃ n, fuel = n + 1 := Nat.exists_eq_add_of_le' (by omega)
    have hitem := readValue_kinds item fuel (by omega) hrest
    exact (readsItems_cons hitem ht fun h =>
      readItems_kinds items fuel (by omega) h).2 comma hcomma

theorem readEntries_kinds : ∀ (entries : List (String × Json)) (fuel : Nat) {ts : List Token}
    {ks : List TokenKind} (_ : (entryKinds entries).length ≤ fuel)
    (_ : ts.map Token.kind = entryKinds entries ++ ks), ReadsEntries size fuel false ts entries ks
  | [], fuel, ts, ks, hfuel, hts => by
    rw [entryKinds] at hts hfuel
    obtain ⟨fuel, rfl⟩ := Nat.exists_eq_add_of_le' hfuel
    exact readsEntries_close hts
  | (key, item) :: entries, fuel, ts, ks, hfuel, hts => by
    rw [entryKinds, List.cons_append, List.cons_append, List.cons_append, List.append_assoc] at hts
    obtain ⟨comma, rest, rfl, hcomma, hrest⟩ := cons_of_map_kind hts
    obtain ⟨u, rest, rfl, hu, hrest⟩ := cons_of_map_kind hrest
    obtain ⟨colon, rest, rfl, hcolon, hrest⟩ := cons_of_map_kind hrest
    simp only [entryKinds, List.length_cons, List.length_append] at hfuel
    obtain ⟨fuel, rfl⟩ : ∃ n, fuel = n + 2 := Nat.exists_eq_add_of_le' (by omega)
    have hitem := readValue_kinds item fuel (by omega) hrest
    exact (readsEntries_cons hu hcolon hitem fun h =>
      readEntries_kinds entries fuel (by omega) h).2 comma hcomma

end

end Located

/-! ## The whole text -/

theorem endsNumber_spaces {ws : List Char} (h : ∀ c ∈ ws, isSpace c = true) : EndsNumber ws := by
  intro c hc
  have hspace := h c (List.mem_of_mem_head? hc)
  simp only [isSpace, Bool.or_eq_true, beq_iff_eq] at hspace
  obtain ((rfl | rfl) | rfl) | rfl := hspace
  all_goals decide

/-- The laid-out text of a value is read back as the value, and nothing stands
behind it but white space. -/
theorem read_pretty {j : Json} (hj : j.Exact) {ws : List Char} (hws : ∀ c ∈ ws, isSpace c = true) :
    (Located.read (pretty 0 j ++ ws)).root.toJson? = some j ∧
      (Located.read (pretty 0 j ++ ws)).surplus = none := by
  have hnone : Lexes ws [] := by
    have h := Lexes.spaces hws Lexes.nil
    rwa [List.append_nil] at h
  have hkinds : (tokens (pretty 0 j ++ ws)).map Token.kind = j.kinds ++ [] :=
    lexes_pretty hj 0 (endsNumber_spaces hws) hnone _ 0 (Nat.le_refl _)
  have hlength : (tokens (pretty 0 j ++ ws)).length = j.kinds.length := by
    rw [← List.length_map Token.kind, hkinds, List.append_nil]
  obtain ⟨v, rest, hread, hv, hrest⟩ : Located.ReadsValue (byteSize (pretty 0 j ++ ws))
      (2 * (tokens (pretty 0 j ++ ws)).length + 2) (tokens (pretty 0 j ++ ws)) j [] :=
    Located.readValue_kinds j _ (by omega) hkinds
  obtain rfl : rest = [] := List.map_eq_nil_iff.1 hrest
  simp only [Located.read, hread]
  exact ⟨hv, rfl⟩

end FixtureMatrix.Json
