import FixtureMatrix.Text.Blank
import Mathlib.Data.List.Basic
import Mathlib.Data.List.DropRight
import Mathlib.Data.List.TakeWhile

/-!
# Runs of characters

* `takeWhile_append_of_stop`, `dropWhile_append_of_stop`: a run ends where its property does.
* `append_inj_of_takeWhile`: so it can be told from what is behind it.
* `Text.trimmed_iff`: what is left of a text without the white space around it neither starts
  nor ends with white space, and only `Text.trim` gives it.
-/

namespace FixtureMatrix

/-! ## Longest starts -/

section Starts

variable {α : Type} {p : α → Bool} {a b r s run rest : List α}

theorem takeWhile_append_of_stop (hrun : ∀ x ∈ run, p x = true)
    (hstop : ∀ x ∈ rest.head?, p x = false) : (run ++ rest).takeWhile p = run := by
  rw [List.takeWhile_append_of_pos hrun]
  cases rest with
  | nil => rw [List.takeWhile_nil, List.append_nil]
  | cons x rest => rw [List.takeWhile_cons_of_neg (by simp [hstop x rfl]), List.append_nil]

theorem dropWhile_append_of_stop (hrun : ∀ x ∈ run, p x = true)
    (hstop : ∀ x ∈ rest.head?, p x = false) : (run ++ rest).dropWhile p = rest := by
  rw [List.dropWhile_append_of_pos hrun]
  cases rest with
  | nil => rfl
  | cons x rest => rw [List.dropWhile_cons_of_neg (by simp [hstop x rfl])]

theorem head?_dropWhile (l : List α) : ∀ x ∈ (l.dropWhile p).head?, p x = false := by
  intro x hx
  have h := List.head?_dropWhile_not p l
  rwa [Option.mem_def.1 hx] at h

/-- The longest start with one property can be told from what is behind it. -/
theorem append_inj_of_takeWhile (ha : ∀ x ∈ a, p x = true) (hb : ∀ x ∈ b, p x = true)
    (hr : ∀ x ∈ r.head?, p x = false) (hs : ∀ x ∈ s.head?, p x = false) (h : a ++ r = b ++ s) :
    a = b ∧ r = s := by
  have hstart : a = b := by
    have htake := congrArg (List.takeWhile p) h
    rwa [takeWhile_append_of_stop ha hr, takeWhile_append_of_stop hb hs] at htake
  subst hstart
  exact ⟨rfl, List.append_cancel_left h⟩

end Starts

/-! ## White space around a text -/

namespace Text

variable {cs body : List Char}

/-- `body` is the text without the white space at both of its ends. -/
structure Trimmed (cs body : List Char) : Prop where
  around : ∃ pre post, cs = pre ++ (body ++ post) ∧ (∀ c ∈ pre, isBlank c = true) ∧
    ∀ c ∈ post, isBlank c = true
  start : ∀ c ∈ body.head?, isBlank c = false
  stop : ∀ c ∈ body.getLast?, isBlank c = false

theorem Trimmed.eq_trim (h : Trimmed cs body) : body = trim cs := by
  obtain ⟨pre, post, rfl, hpre, hpost⟩ := h.around
  have hend : trimEnd (body ++ post) = body := by
    rw [trimEnd, List.reverse_append,
      dropWhile_append_of_stop (by simpa using hpost) (by simpa using h.stop),
      List.reverse_reverse]
  cases body with
  | nil =>
    -- nothing tells the white space in front of an empty body from that behind it
    have hblank : ∀ c ∈ pre ++ ([] ++ post), isBlank c = true :=
      List.forall_mem_append.2 ⟨hpre, hpost⟩
    rw [trim, trimStart, List.dropWhile_eq_nil_iff.2 hblank]
    rfl
  | cons c body =>
    have hstart : ∀ d ∈ (c :: body ++ post).head?, isBlank d = false := h.start
    rw [trim, trimStart, dropWhile_append_of_stop hpre hstart, hend]

theorem trimmed_trim (cs : List Char) : Trimmed cs (trim cs) := by
  have hparts : trim cs ++ (trimStart cs).rtakeWhile isBlank = trimStart cs :=
    List.rdropWhile_append_rtakeWhile
  refine ⟨⟨cs.takeWhile isBlank, (trimStart cs).rtakeWhile isBlank, ?_,
    fun c hc => List.mem_takeWhile_imp hc, fun c hc => List.mem_rtakeWhile_imp hc⟩, ?_, ?_⟩
  · rw [hparts, trimStart, List.takeWhile_append_dropWhile]
  · intro c hc
    have hstart : c ∈ (trimStart cs).head? := by
      rw [← hparts, List.head?_append, Option.mem_def.1 hc]
      rfl
    exact head?_dropWhile cs c hstart
  · intro c hc
    rw [trim, trimEnd, List.getLast?_reverse] at hc
    exact head?_dropWhile _ c hc

theorem trimmed_iff : Trimmed cs body ↔ body = trim cs := by
  constructor
  · exact Trimmed.eq_trim
  · rintro rfl
    exact trimmed_trim cs

end Text

end FixtureMatrix
