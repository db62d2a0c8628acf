import FixtureMatrix.Proofs.Calendar.Stamps
import FixtureMatrix.Proofs.Case.Admission
import FixtureMatrix.Proofs.Schema.Depth
import FixtureMatrix.Proofs.Value.Decimals

/-!
# Reading shown values back

Values of lists and structs are shown one after the other with commas between them, and
a time zone or a text may hold any character itself.  Still the shown text of a value can
be read off the front, given its type.

* `LogicalType.legible_of_noFloat`: the values of every type without floating-point
  numbers can, at any depth.
* `Value.eq_of_renderText_eq`: two values that one field admits are shown differently.
-/

namespace FixtureMatrix

open Digits

variable {r s : List Char}

/-! ## Shown values by type -/

namespace Value

theorem render_null (t : LogicalType) : null.render t = "null".toList := rfl

theorem render_bool (b : Bool) (t : LogicalType) :
    (bool b).render t = (if b then "true" else "false").toList := rfl

theorem render_integer {t : LogicalType} (ht : t = .int16 ∨ t = .uint32 ∨ t = .int64)
    (n : Int64) : (int n).render t = ofInt n.toInt := by
  rcases ht with rfl | rfl | rfl <;> rfl

theorem render_timestamp (unit : TimeUnit) (n : Int64) :
    (int n).render (.timestamp unit none) = timestampText unit n.toInt := rfl

theorem render_timestamp_zone (unit : TimeUnit) (zone : String) (n : Int64) :
    (int n).render (.timestamp unit (some zone)) =
      timestampText unit n.toInt ++ ' ' :: zone.toList := rfl

theorem render_decimal (precision scale : Nat) (n : Int64) :
    (int n).render (.decimal precision scale) = decimalText n.toInt scale := rfl

theorem render_list (vs : List Value) (item : Field) :
    (list vs).render (.list item) = '[' :: (joined (renderItems vs item.type) ++ [']']) := rfl

theorem render_struct (vs : List Value) (members : List Field) :
    (struct vs).render (.struct members) =
      '\x7b' :: (joined (renderMembers vs members) ++ ['\x7d']) := rfl

theorem renderItems_cons (v : Value) (vs : List Value) (t : LogicalType) :
    renderItems (v :: vs) t = v.render t :: renderItems vs t := rfl

theorem renderMembers_cons (v : Value) (vs : List Value) (f : Field) (fs : List Field) :
    renderMembers (v :: vs) (f :: fs) =
      (f.name.toList ++ ':' :: ' ' :: v.render f.type) :: renderMembers vs fs := rfl

end Value

/-! ## Where a shown value ends -/

/-- A text with nothing more of the value in front of it. -/
def Delimits (r : List Char) : Prop :=
  ∀ c ∈ r.head?, c = ',' ∨ c = ']' ∨ c = '\x7d'

theorem Delimits.ends (hr : Delimits r) : Digits.Ends r := by
  intro c hc
  rcases hr c hc with rfl | rfl | rfl <;> rfl

theorem Delimits.instantEnds (hr : Delimits r) : Instant.Ends r := by
  intro c hc
  rcases hr c hc with rfl | rfl | rfl <;> exact ⟨rfl, by decide⟩

namespace LogicalType

variable {t : LogicalType} {v w : Value}

/-- A value of the type, or null. -/
def Takes (t : LogicalType) (v : Value) : Prop :=
  v = .null ∨ t.Holds v

theorem takes_of_admits {f : Field} (h : f.Admits v) : f.type.Takes v := by
  rcases Field.admits_iff.1 h with ⟨hnull, -⟩ | hv
  · exact Or.inl hnull
  · exact Or.inr hv

/-- The text of a value that the type takes can be read off the front. -/
def Legible (t : LogicalType) : Prop :=
  ∀ ⦃v w : Value⦄ ⦃r s : List Char⦄, t.Takes v → t.Takes w → Delimits r → Delimits s →
    v.render t ++ r = w.render t ++ s → v = w ∧ r = s

/-! ## How a shown value starts -/

/-- A text that starts neither like `null` nor with the end of a list. -/
def Starts (a : List Char) : Prop :=
  ∃ c cs, a = c :: cs ∧ c ≠ 'n' ∧ c ≠ ']'

theorem starts_cons {c : Char} {cs : List Char} (hnull : c ≠ 'n') (hclose : c ≠ ']') :
    Starts (c :: cs) :=
  ⟨c, cs, rfl, hnull, hclose⟩

theorem Starts.append {a : List Char} (ha : Starts a) (r : List Char) : Starts (a ++ r) := by
  obtain ⟨c, cs, rfl, hc⟩ := ha
  exact ⟨c, cs ++ r, rfl, hc⟩

theorem Starts.of_numeral {k : Int} {a : List Char} (ha : Numeral k a) : Starts a := by
  obtain ⟨c, cs, rfl, hc⟩ := ha.starts
  refine starts_cons ?_ ?_ <;> rintro rfl <;> revert hc <;> decide

theorem starts_render (hfloat : t ≠ .float64) (h : t.Holds v) : Starts (v.render t) := by
  cases h with
  | bool b => cases b <;> exact starts_cons (by decide) (by decide)
  | int16 n | uint32 n | int64 n =>
    rw [Value.render_integer (by simp)]
    exact .of_numeral (numeral_ofInt n.toInt)
  | timestamp unit timezone n =>
    obtain ⟨k, a, b, ha, heq⟩ := timestampText_eq_numeral_append unit n.toInt
    cases timezone with
    | none =>
      rw [Value.render_timestamp, heq]
      exact (Starts.of_numeral ha).append b
    | some tz =>
      rw [Value.render_timestamp_zone, heq]
      exact ((Starts.of_numeral ha).append b).append _
  | decimal precision scale n =>
    obtain ⟨k, a, b, ha, heq⟩ := decimalText_eq_numeral_append n.toInt scale
    rw [Value.render_decimal, heq]
    exact (Starts.of_numeral ha).append b
  | float64 => exact absurd rfl hfloat
  | utf8 s => exact starts_cons (by decide) (by decide)
  | largeBinary s => exact starts_cons (by decide) (by decide)
  | list => exact starts_cons (by decide) (by decide)
  | struct => exact starts_cons (by decide) (by decide)

theorem legible_of_holds (hfloat : t ≠ .float64)
    (h : ∀ ⦃v w : Value⦄ ⦃r s : List Char⦄, t.Holds v → t.Holds w → Delimits r → Delimits s →
      v.render t ++ r = w.render t ++ s → v = w ∧ r = s) : t.Legible := by
  have hnull : ∀ {v : Value} {r s : List Char}, t.Holds v →
      Value.null.render t ++ r ≠ v.render t ++ s := by
    intro v r s hv heq
    obtain ⟨c, cs, hc, hn, -⟩ := (starts_render hfloat hv).append s
    rw [Value.render_null, hc] at heq
    exact hn (List.cons.inj heq).1.symm
  intro v w r s hv hw hr hs heq
  -- The first character tells null from the values of the type.
  rcases hv with rfl | hv <;> rcases hw with rfl | hw
  · exact ⟨rfl, List.append_cancel_left heq⟩
  · exact absurd heq (hnull hw)
  · exact absurd heq.symm (hnull hv)
  · exact h hv hw hr hs heq

/-! ## Values without parts -/

theorem legible_bool : LogicalType.bool.Legible := by
  refine legible_of_holds (by simp) ?_
  intro v w r s hv hw _ _ h
  cases hv with | bool a
  cases hw with | bool b
  cases a <;> cases b <;> simp_all [Value.render_bool]

/-- The values of the type are integers, and each is shown as a text that ends by itself
or in front of what is behind a value. -/
theorem legible_of_integers (text : Int → List Char)
    (hint : ∀ {v : Value}, t.Holds v → ∃ n, v = .int n)
    (hrender : ∀ n : Int64, (Value.int n).render t = text n.toInt)
    (htext : ∀ {m n : Int} {r s : List Char}, Delimits r → Delimits s →
      text m ++ r = text n ++ s → m = n ∧ r = s) : t.Legible := by
  have hfloat : t ≠ .float64 := by
    rintro rfl
    obtain ⟨n, hn⟩ := hint (.float64 .nan)
    cases hn
  refine legible_of_holds hfloat ?_
  intro v w r s hv hw hr hs h
  obtain ⟨m, rfl⟩ := hint hv
  obtain ⟨n, rfl⟩ := hint hw
  rw [hrender, hrender] at h
  obtain ⟨hsame, hrest⟩ := htext hr hs h
  exact ⟨congrArg Value.int (Int64.toInt_inj.1 hsame), hrest⟩

theorem legible_integer (ht : t = .int16 ∨ t = .uint32 ∨ t = .int64) : t.Legible := by
  refine legible_of_integers ofInt ?_ ?_ ?_
  · rcases ht with rfl | rfl | rfl <;> rintro v (_ | _) <;> exact ⟨_, rfl⟩
  · exact fun n => Value.render_integer ht n
  · intro m n r s hr hs h
    exact (numeral_ofInt m).append_inj (numeral_ofInt n) hr.ends hs.ends h

theorem legible_decimal (precision scale : Nat) :
    (LogicalType.decimal precision scale).Legible := by
  refine legible_of_integers (fun n => decimalText n scale) ?_ ?_ ?_
  · rintro v (_ | _)
    exact ⟨_, rfl⟩
  · exact fun n => Value.render_decimal precision scale n
  · intro m n r s hr hs h
    exact decimalText_append_inj hr.ends hs.ends h

theorem legible_timestamp (unit : TimeUnit) (timezone : Option String) :
    (LogicalType.timestamp unit timezone).Legible := by
  have hint : ∀ {v : Value}, (LogicalType.timestamp unit timezone).Holds v → ∃ n, v = .int n := by
    rintro v (_ | _)
    exact ⟨_, rfl⟩
  cases timezone with
  | none =>
    refine legible_of_integers (timestampText unit) hint ?_ ?_
    · exact fun n => Value.render_timestamp unit n
    · intro m n r s hr hs h
      exact timestampText_append_inj hr.instantEnds hs.instantEnds h
  | some tz =>
    -- The time zone may hold anything, but it is the type's and the same in both texts.
    refine legible_of_integers (fun n => timestampText unit n ++ ' ' :: tz.toList) hint ?_ ?_
    · exact fun n => Value.render_timestamp_zone unit tz n
    · intro m n r s hr hs h
      have hspace : ∀ a, Instant.Ends (' ' :: a) := by simp [Instant.Ends]
      rw [List.append_assoc, List.append_assoc] at h
      obtain ⟨hsame, hrest⟩ := timestampText_append_inj (hspace _) (hspace _) h
      exact ⟨hsame, List.append_cancel_left (List.cons.inj hrest).2⟩

theorem legible_of_texts (mark : List Char) (hstr : ∀ {v : Value}, t.Holds v → ∃ a, v = .str a)
    (hrender : ∀ a : String, (Value.str a).render t = mark ++ Text.quote a.toList) :
    t.Legible := by
  have hfloat : t ≠ .float64 := by
    rintro rfl
    obtain ⟨a, ha⟩ := hstr (.float64 .nan)
    cases ha
  refine legible_of_holds hfloat ?_
  intro v w r s hv hw _ _ h
  obtain ⟨a, rfl⟩ := hstr hv
  obtain ⟨b, rfl⟩ := hstr hw
  rw [hrender, hrender, List.append_assoc, List.append_assoc] at h
  obtain ⟨hsame, hrest⟩ := Text.quote_append_inj (List.append_cancel_left h)
  exact ⟨congrArg Value.str (String.toList_inj.1 hsame), hrest⟩

theorem legible_utf8 : LogicalType.utf8.Legible := by
  refine legible_of_texts [] ?_ (fun a => rfl)
  rintro v (_ | _)
  exact ⟨_, rfl⟩

theorem legible_largeBinary : LogicalType.largeBinary.Legible := by
  refine legible_of_texts ['b'] ?_ (fun a => rfl)
  rintro v (_ | _)
  exact ⟨_, rfl⟩

end LogicalType

/-! ## Lists and structs -/

namespace Value

/-- The texts behind the first of several joined ones. -/
def joinedRest (parts : List (List Char)) : List Char :=
  parts.flatMap fun part => [',', ' '] ++ part

theorem joined_cons (part : List Char) (parts : List (List Char)) :
    joined (part :: parts) = part ++ joinedRest parts := by
  induction parts generalizing part with
  | nil => simp [joined, joinedRest]
  | cons next parts ih =>
    have hnext := ih next
    simp only [joined, joinedRest, List.intercalate_cons_cons] at hnext ⊢
    rw [hnext, List.flatMap_cons, List.append_assoc, List.append_assoc]

theorem joinedRest_cons (part : List Char) (parts : List (List Char)) :
    joinedRest (part :: parts) = ',' :: ' ' :: joined (part :: parts) := by
  rw [joined_cons]
  rfl

theorem delimits_joinedRest {close : Char} (hclose : close = ']' ∨ close = '\x7d')
    (parts : List (List Char)) : Delimits (joinedRest parts ++ close :: r) := by
  cases parts with
  | nil => simpa [Delimits, joinedRest] using Or.inr hclose
  | cons part parts => simp [Delimits, joinedRest_cons]

end Value

namespace LogicalType

open Value

variable {t : LogicalType}

theorem Legible.items_append_inj (ht : t.Legible) {vs ws : List Value}
    (hvs : ∀ v ∈ vs, t.Takes v) (hws : ∀ w ∈ ws, t.Takes w)
    (h : joinedRest (renderItems vs t) ++ ']' :: r = joinedRest (renderItems ws t) ++ ']' :: s) :
    vs = ws ∧ r = s := by
  -- A comma starts each item and the bracket ends the list, so the lists are equally long.
  induction vs generalizing ws with
  | nil =>
    cases ws with
    | nil => exact ⟨rfl, (List.cons.inj h).2⟩
    | cons w ws => exact absurd (List.cons.inj h).1 (by decide)
  | cons v vs ih =>
    cases ws with
    | nil => exact absurd (List.cons.inj h).1 (by decide)
    | cons w ws =>
      rw [List.forall_mem_cons] at hvs hws
      simp only [renderItems_cons, joinedRest_cons, joined_cons, List.cons_append,
        List.append_assoc, List.cons.injEq, true_and] at h
      obtain ⟨rfl, hrest⟩ := ht hvs.1 hws.1 (delimits_joinedRest (Or.inl rfl) _)
        (delimits_joinedRest (Or.inl rfl) _) h
      obtain ⟨rfl, hend⟩ := ih hvs.2 hws.2 hrest
      exact ⟨rfl, hend⟩

theorem members_append_inj {fields : List Field} (hfields : ∀ f ∈ fields, f.type.Legible)
    {vs ws : List Value} (hvs : List.Forall₂ Field.Admits fields vs)
    (hws : List.Forall₂ Field.Admits fields ws)
    (h : joinedRest (renderMembers vs fields) ++ '\x7d' :: r =
      joinedRest (renderMembers ws fields) ++ '\x7d' :: s) : vs = ws ∧ r = s := by
  induction hvs generalizing ws with
  | nil =>
    cases hws
    exact ⟨rfl, (List.cons.inj h).2⟩
  | cons hv _ ih =>
    cases hws with | cons hw hws
    rw [List.forall_mem_cons] at hfields
    -- The field's name cancels, whatever it holds.
    simp only [renderMembers_cons, joinedRest_cons, joined_cons, List.cons_append,
      List.append_assoc, List.cons.injEq, true_and, List.append_cancel_left_eq] at h
    obtain ⟨rfl, hrest⟩ := hfields.1 (takes_of_admits hv) (takes_of_admits hw)
      (delimits_joinedRest (Or.inr rfl) _) (delimits_joinedRest (Or.inr rfl) _) h
    obtain ⟨rfl, hend⟩ := ih hfields.2 hws hrest
    exact ⟨rfl, hend⟩

theorem joined_items_ne (hfloat : t ≠ .float64) {v : Value} (hv : t.Takes v) (vs : List Value) :
    joined (renderItems (v :: vs) t) ++ r ≠ ']' :: s := by
  intro h
  rw [renderItems_cons, joined_cons, List.append_assoc] at h
  rcases hv with rfl | hv
  · rw [Value.render_null] at h
    exact absurd (List.cons.inj h).1 (by decide)
  · obtain ⟨c, cs, hc, -, hclose⟩ := (starts_render hfloat hv).append (joinedRest _ ++ r)
    rw [hc] at h
    exact hclose (List.cons.inj h).1

theorem legible_list {item : Field} (hfloat : item.type ≠ .float64) (hitem : item.type.Legible) :
    (LogicalType.list item).Legible := by
  refine legible_of_holds (by simp) ?_
  intro v w r s hv hw _ _ h
  cases hv with | @list _ vs hvs
  cases hw with | @list _ ws hws
  replace hvs := fun v hv => takes_of_admits (hvs v hv)
  replace hws := fun w hw => takes_of_admits (hws w hw)
  simp only [Value.render_list, List.cons_append, List.append_assoc, List.nil_append,
    List.cons.injEq, true_and] at h
  -- With a comma in front the first item is like those behind it.
  have hrest : joinedRest (renderItems vs item.type) ++ ']' :: r =
      joinedRest (renderItems ws item.type) ++ ']' :: s := by
    cases vs with
    | nil =>
      cases ws with
      | nil => exact h
      | cons w ws => exact absurd h.symm (joined_items_ne hfloat (hws w List.mem_cons_self) ws)
    | cons v vs =>
      cases ws with
      | nil => exact absurd h (joined_items_ne hfloat (hvs v List.mem_cons_self) vs)
      | cons w ws =>
        rw [renderItems_cons, renderItems_cons, joinedRest_cons, joinedRest_cons]
        exact congrArg ([',', ' '] ++ ·) h
  obtain ⟨rfl, hend⟩ := hitem.items_append_inj hvs hws hrest
  exact ⟨rfl, hend⟩

theorem legible_struct {members : List Field} (hmembers : ∀ f ∈ members, f.type.Legible) :
    (LogicalType.struct members).Legible := by
  refine legible_of_holds (by simp) ?_
  intro v w r s hv hw _ _ h
  cases hv with | @struct _ vs hvs
  cases hw with | @struct _ ws hws
  simp only [Value.render_struct, List.cons_append, List.append_assoc, List.nil_append,
    List.cons.injEq, true_and] at h
  have hrest : joinedRest (renderMembers vs members) ++ '\x7d' :: r =
      joinedRest (renderMembers ws members) ++ '\x7d' :: s := by
    cases hvs with
    | nil =>
      cases hws
      exact h
    | cons =>
      cases hws
      rw [renderMembers_cons, renderMembers_cons, joinedRest_cons, joinedRest_cons]
      exact congrArg ([',', ' '] ++ ·) h
  obtain ⟨rfl, hend⟩ := members_append_inj hmembers hvs hws hrest
  exact ⟨rfl, hend⟩

end LogicalType

open LogicalType

mutual

theorem LogicalType.legible_of_noFloat : ∀ {t : LogicalType}, t.NoFloat → t.Legible
  | .bool, _ => legible_bool
  | .int16, _ => legible_integer (by simp)
  | .int64, _ => legible_integer (by simp)
  | .uint32, _ => legible_integer (by simp)
  | .float64, h => absurd List.mem_cons_self h
  | .utf8, _ => legible_utf8
  | .largeBinary, _ => legible_largeBinary
  | .decimal precision scale, _ => legible_decimal precision scale
  | .timestamp unit timezone, _ => legible_timestamp unit timezone
  | .list item, h =>
    have hitem := noFloat_list.1 h
    legible_list hitem.ne_float64 (Field.legible_of_noFloat hitem)
  | .struct members, h => legible_struct (Field.forall_legible (noFloat_struct.1 h))

theorem Field.legible_of_noFloat : ∀ {f : Field}, f.type.NoFloat → f.type.Legible
  | .mk _ _ _, h => LogicalType.legible_of_noFloat h

theorem Field.forall_legible : ∀ {fs : List Field}, (∀ f ∈ fs, f.type.NoFloat) →
    ∀ f ∈ fs, f.type.Legible
  | [], _ => by simp
  | f :: fs, h => by
    rw [List.forall_mem_cons] at h ⊢
    exact ⟨Field.legible_of_noFloat h.1, Field.forall_legible h.2⟩

end

namespace Value

/-- Two values that one field admits are shown differently, unless they are the same.
The field may be nullable, but no floating-point number is inside its type. -/
theorem eq_of_renderText_eq {f : Field} (hfloat : f.type.NoFloat) {v w : Value}
    (hv : v.check f = .ok ()) (hw : w.check f = .ok ())
    (h : v.renderText f.type = w.renderText f.type) : v = w := by
  have hdelimits : Delimits [] := by simp [Delimits]
  have htext : v.render f.type ++ [] = w.render f.type ++ [] :=
    congrArg (· ++ []) (String.ofList_injective h)
  have htv := takes_of_admits ((check_eq_ok_iff f v).1 hv)
  have htw := takes_of_admits ((check_eq_ok_iff f w).1 hw)
  exact (legible_of_noFloat hfloat htv htw hdelimits hdelimits htext).1

/-- Names and a time zone hold what stands between values. -/
def separators : Field :=
  .optional "row" (.struct [.listOf "]" .utf8 true,
    .required ", " (.timestamp .millisecond (some ", null]")), .optional "\x7d" (.decimal 3 2)])

theorem eq_of_renderText_eq_separators :
    (Value.struct [.list [.null, .null], .int 0, .int (-5)]).check separators = .ok () ∧
      Value.struct [.list [.null, .null], .int 0, .int (-5)] =
        Value.struct [.list (copies .null 2), .int 0, .int (-5)] := by
  have hfloat : separators.type.NoFloat := by
    simp [separators, Field.optional, Field.listOf, Field.required, NoFloat, inside,
      Field.allInside, Field.inside]
  exact ⟨rfl, eq_of_renderText_eq hfloat rfl rfl rfl⟩

example : (Value.struct [.list [.str "]", .null], .int 0, .int (-5)]).renderText separators.type =
    "\x7b]: [\"]\", null], , : 1970-01-01T00:00:00 , null], \x7d: -0.05\x7d" := by
  decide +kernel

/-- Two NaNs are shown alike. -/
example : (Value.float Binary64.nan).renderText .float64 =
    (Value.float ⟨0x7FF8000000000001⟩).renderText .float64 := by
  decide

end Value

end FixtureMatrix
