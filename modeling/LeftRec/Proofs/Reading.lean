import Mathlib.Logic.Basic
import LeftRec.Input

/-!
# Reading — positions and the tokens between them

A boundary is a position where a token starts or the input ends.  Reading some tokens leads from one
position to another; the tokens, the two positions and what remains at each determine each other.
-/

namespace LeftRec
namespace Input

variable {τ : Type}

/-! ## Cuts -/

@[simp]
theorem span_append (width : τ → Nat) (before after : List τ) :
    span width (before ++ after) = span width before + span width after := by
  induction before with
  | nil => simp [span]
  | cons t rest ih =>
      simp only [List.cons_append, span, ih]
      omega

theorem eq_append_of_cut {width : τ → Nat} {tokens before after : List τ} {n : Nat}
    (h : cut width tokens n = some (before, after)) :
    tokens = before ++ after ∧ n = span width before := by
  induction tokens generalizing n before with
  | nil =>
      cases n with
      | zero =>
          obtain ⟨rfl, rfl⟩ := Prod.mk.inj (Option.some.inj h)
          exact ⟨rfl, rfl⟩
      | succ n => cases h
  | cons t rest ih =>
      cases n with
      | zero =>
          obtain ⟨rfl, rfl⟩ := Prod.mk.inj (Option.some.inj h)
          exact ⟨rfl, rfl⟩
      | succ n =>
          simp only [cut] at h
          split at h
          next hwidth =>
            obtain ⟨⟨inner, outer⟩, hcut, heq⟩ := Option.map_eq_some_iff.1 h
            obtain ⟨rfl, rfl⟩ := Prod.mk.inj heq
            obtain ⟨rfl, hn⟩ := ih hcut
            refine ⟨rfl, ?_⟩
            simp only [span]
            omega
          next => cases h

variable (input : Input τ)

theorem cut_append (before after : List τ) :
    cut input.width (before ++ after) (span input.width before) = some (before, after) := by
  induction before with
  | nil => cases after <;> rfl
  | cons t rest ih =>
      have hpos := input.width_pos t
      obtain ⟨n, hn⟩ : ∃ n, span input.width (t :: rest) = n + 1 :=
        ⟨span input.width (t :: rest) - 1, by simp only [span]; omega⟩
      have hrest : n + 1 - input.width t = span input.width rest := by
        rw [← hn]
        simp [span]
      have hwidth : input.width t ≤ n + 1 := by
        rw [← hn]
        simp [span]
      rw [hn, List.cons_append, cut, if_pos hwidth, hrest, ih]
      rfl

/-! ## Boundaries -/

/-- A token starts at the position, or the input ends there. -/
def Boundary (pos : Nat) : Prop :=
  ∃ before after, input.tokens = before ++ after ∧ pos = span input.width before

variable {input}

theorem rest_of_append {before after : List τ} (h : input.tokens = before ++ after) :
    input.rest (span input.width before) = after := by
  rw [rest, rest?, h, cut_append]
  rfl

/-- Where an input can be cut there is a boundary. -/
theorem boundary_of_cut {pos : Nat} {pair : List τ × List τ}
    (h : cut input.width input.tokens pos = some pair) : input.Boundary pos := by
  obtain ⟨htokens, hpos⟩ := eq_append_of_cut h
  exact ⟨pair.1, pair.2, htokens, hpos⟩

theorem rest_of_not_boundary {pos : Nat} (h : ¬ input.Boundary pos) : input.rest pos = [] := by
  rw [rest, rest?]
  cases hcut : cut input.width input.tokens pos with
  | none => rfl
  | some pair => exact absurd (boundary_of_cut hcut) h

theorem boundary_zero : input.Boundary 0 :=
  ⟨[], input.tokens, rfl, rfl⟩

theorem Boundary.le_extent {pos : Nat} (h : input.Boundary pos) : pos ≤ input.extent := by
  obtain ⟨before, after, htokens, rfl⟩ := h
  rw [extent, htokens, span_append]
  exact Nat.le_add_right _ _

@[simp]
theorem rest_extent : input.rest input.extent = [] :=
  rest_of_append (List.append_nil _).symm

/-- Past the end nothing is left. -/
theorem rest_of_extent_le {pos : Nat} (h : input.extent ≤ pos) : input.rest pos = [] := by
  by_cases hpos : input.Boundary pos
  · rw [Nat.le_antisymm hpos.le_extent h, rest_extent]
  · exact rest_of_not_boundary hpos

theorem remaining_le_length (pos : Nat) : input.remaining pos ≤ input.tokens.length := by
  unfold remaining
  by_cases hpos : input.Boundary pos
  · obtain ⟨before, after, htokens, rfl⟩ := hpos
    rw [rest_of_append htokens, htokens, List.length_append]
    exact Nat.le_add_left _ _
  · rw [rest_of_not_boundary hpos]
    exact Nat.zero_le _

/-! ## Reading tokens -/

/-- The tokens `word` stand between two positions. -/
structure Reads (input : Input τ) (pos : Nat) (word : List τ) (stop : Nat) : Prop where
  rest_eq : input.rest pos = word ++ input.rest stop
  stop_eq : stop = pos + span input.width word

/-- The tokens that come next may be read. -/
theorem reads_of_rest {pos : Nat} {word tail : List τ} (h : input.rest pos = word ++ tail) :
    input.Reads pos word (pos + span input.width word) := by
  refine ⟨?_, rfl⟩
  by_cases hpos : input.Boundary pos
  · obtain ⟨before, after, htokens, rfl⟩ := hpos
    rw [rest_of_append htokens] at h ⊢
    have htokens' : input.tokens = (before ++ word) ++ tail := by
      rw [htokens, h, List.append_assoc]
    rw [← span_append, rest_of_append htokens', h]
  · rw [rest_of_not_boundary hpos] at h
    obtain ⟨rfl, rfl⟩ := List.append_eq_nil_iff.1 h.symm
    simp [span]

namespace Reads

variable {pos middle stop : Nat} {word more : List τ}

theorem nil (pos : Nat) : input.Reads pos [] pos :=
  ⟨rfl, rfl⟩

theorem append (h : input.Reads pos word middle) (h' : input.Reads middle more stop) :
    input.Reads pos (word ++ more) stop := by
  refine ⟨?_, ?_⟩
  · rw [h.rest_eq, h'.rest_eq, List.append_assoc]
  · rw [h'.stop_eq, h.stop_eq, span_append, Nat.add_assoc]

theorem le (h : input.Reads pos word stop) : pos ≤ stop := by
  rw [h.stop_eq]
  exact Nat.le_add_right _ _

/-- Every token has a width, so reading some moves on. -/
theorem lt (h : input.Reads pos word stop) (hword : word ≠ []) : pos < stop := by
  cases word with
  | nil => exact absurd rfl hword
  | cons t rest =>
      have hwidth := input.width_pos t
      have hstop := h.stop_eq
      simp only [span] at hstop
      omega

theorem boundary (h : input.Reads pos word stop) (hpos : input.Boundary pos) :
    input.Boundary stop := by
  obtain ⟨before, after, htokens, rfl⟩ := hpos
  have hrest := h.rest_eq
  rw [rest_of_append htokens] at hrest
  refine ⟨before ++ word, input.rest stop, ?_, ?_⟩
  · rw [htokens, hrest, List.append_assoc]
  · rw [span_append, h.stop_eq]

theorem remaining_eq (h : input.Reads pos word stop) :
    input.remaining pos = word.length + input.remaining stop := by
  simp only [remaining, h.rest_eq, List.length_append]

theorem remaining_le (h : input.Reads pos word stop) :
    input.remaining stop ≤ input.remaining pos := by
  rw [h.remaining_eq]
  exact Nat.le_add_left _ _

/-- Moving on takes a token. -/
theorem remaining_lt (h : input.Reads pos word stop) (hne : stop ≠ pos) :
    input.remaining stop < input.remaining pos := by
  rw [h.remaining_eq]
  cases word with
  | nil => exact absurd h.stop_eq hne
  | cons t rest =>
      rw [List.length_cons]
      omega

theorem slice_eq (h : input.Reads pos word stop) : input.slice pos stop = word := by
  by_cases hpos : input.Boundary pos
  · have hstop := (h.boundary hpos).le_extent
    have hspan : stop - pos = span input.width word := by
      have := h.stop_eq
      omega
    simp only [slice]
    rw [Nat.min_eq_left hstop, Nat.min_eq_left h.le, h.rest_eq, hspan, cut_append]
    rfl
  · have hrest := h.rest_eq
    rw [rest_of_not_boundary hpos] at hrest
    obtain ⟨rfl, -⟩ := List.append_eq_nil_iff.1 hrest.symm
    have hstop : stop = pos := h.stop_eq
    subst hstop
    simp only [slice]
    rw [Nat.min_eq_right (Nat.min_le_left _ _), Nat.sub_self]
    cases input.rest (min stop input.extent) <;> rfl

/-- What reads two words reads the first and then the second. -/
theorem split (h : input.Reads pos (word ++ more) stop) :
    ∃ middle, input.Reads pos word middle ∧ input.Reads middle more stop := by
  have hrest := h.rest_eq
  rw [List.append_assoc] at hrest
  have hword := reads_of_rest hrest
  refine ⟨pos + span input.width word, hword, ?_, ?_⟩
  · exact List.append_cancel_left (hword.rest_eq.symm.trans hrest)
  · rw [h.stop_eq, span_append, Nat.add_assoc]

theorem split_cons {t : τ} (h : input.Reads pos (t :: more) stop) :
    ∃ middle, input.Reads pos [t] middle ∧ input.Reads middle more stop := by
  have hboth : input.Reads pos ([t] ++ more) stop := h
  exact hboth.split

/-- The first token ends before anything else that is read from there does. -/
theorem le_of_reads {t : τ} (h : input.Reads pos [t] middle) (h' : input.Reads pos word stop)
    (hword : word ≠ []) : middle ≤ stop := by
  cases word with
  | nil => exact absurd rfl hword
  | cons t' more =>
      obtain ⟨after, hfirst, hmore⟩ := h'.split_cons
      obtain rfl := (List.cons.inj (h.rest_eq.symm.trans hfirst.rest_eq)).1
      rw [h.stop_eq, ← hfirst.stop_eq]
      exact hmore.le

theorem next? {t : τ} (h : input.Reads pos [t] stop) : input.next? pos = some (t, stop) := by
  rw [Input.next?, h.rest_eq, h.stop_eq]
  rfl

theorem startsWith [BEq τ] [LawfulBEq τ] (h : input.Reads pos word stop) (hword : word ≠ []) :
    input.startsWith pos word = true := by
  have hrest := h.rest_eq
  rw [Input.rest] at hrest
  cases hthere : input.rest? pos with
  | none =>
      rw [hthere] at hrest
      exact absurd (List.append_eq_nil_iff.1 hrest.symm).1 hword
  | some there =>
      rw [hthere, Option.getD_some] at hrest
      rw [Input.startsWith, hthere, hrest]
      exact List.isPrefixOf_iff_prefix.2 ⟨input.rest stop, rfl⟩

end Reads

/-! ## The order of boundaries -/

/-- Of two boundaries one is reached from the other by reading. -/
theorem Boundary.reads_or {i j : Nat} (hi : input.Boundary i) (hj : input.Boundary j) :
    (∃ word, input.Reads i word j) ∨ ∃ word, input.Reads j word i := by
  obtain ⟨before, after, htokens, rfl⟩ := hi
  obtain ⟨before', after', htokens', rfl⟩ := hj
  -- Both are found by cutting the same tokens, so one cut lies within the other.
  rcases List.append_eq_append_iff.1 (htokens.symm.trans htokens') with
    ⟨word, rfl, rfl⟩ | ⟨word, rfl, rfl⟩
  · refine .inl ⟨word, ?_⟩
    rw [span_append]
    exact reads_of_rest (rest_of_append htokens)
  · refine .inr ⟨word, ?_⟩
    rw [span_append]
    exact reads_of_rest (rest_of_append htokens')

/-- A boundary lies before another one if more tokens remain there. -/
theorem Boundary.lt_iff {i j : Nat} (hi : input.Boundary i) (hj : input.Boundary j) :
    i < j ↔ input.remaining j < input.remaining i := by
  rcases hi.reads_or hj with ⟨word, h⟩ | ⟨word, h⟩
  · constructor
    · intro hlt
      exact h.remaining_lt (Nat.ne_of_gt hlt)
    · intro hlt
      refine Nat.lt_of_le_of_ne h.le ?_
      rintro rfl
      exact Nat.lt_irrefl _ hlt
  · constructor
    · intro hlt
      exact absurd hlt (Nat.not_lt.2 h.le)
    · intro hlt
      exact absurd hlt (Nat.not_lt.2 h.remaining_le)

/-- What remains at a boundary determines it. -/
theorem Boundary.eq_iff {i j : Nat} (hi : input.Boundary i) (hj : input.Boundary j) :
    i = j ↔ input.remaining i = input.remaining j := by
  constructor
  · rintro rfl
    rfl
  · intro hsame
    have hij := mt (hi.lt_iff hj).1 (by omega)
    have hji := mt (hj.lt_iff hi).1 (by omega)
    omega

/-! ## What the methods of an input read -/

/-- Another token comes next than the one that some tokens start with. -/
theorem startsWith_of_head [BEq τ] [LawfulBEq τ] {pos : Nat} {t : τ} {rest : List τ}
    (h : (input.rest pos).head? ≠ some t) : input.startsWith pos (t :: rest) = false := by
  refine Bool.eq_false_iff.2 fun hstarts => h ?_
  cases hthere : input.rest? pos with
  | none => simp [startsWith, hthere] at hstarts
  | some there =>
      have hbegin : (t :: rest).isPrefixOf there = true := by
        simpa [startsWith, hthere] using hstarts
      obtain ⟨tail, rfl⟩ := List.isPrefixOf_iff_prefix.1 hbegin
      rw [Input.rest, hthere]
      rfl

theorem reads_of_next? {pos stop : Nat} {t : τ} (h : input.next? pos = some (t, stop)) :
    input.Reads pos [t] stop := by
  obtain ⟨t', hhead, heq⟩ := Option.map_eq_some_iff.1 h
  obtain ⟨rfl, rfl⟩ := Prod.mk.inj heq
  obtain ⟨tail, htail⟩ := List.head?_eq_some_iff.1 hhead
  have hrest : input.rest pos = [t'] ++ tail := htail
  simpa [span] using reads_of_rest hrest

theorem reads_of_startsWith [BEq τ] [LawfulBEq τ] {pos : Nat} {tokens : List τ}
    (h : input.startsWith pos tokens = true) :
    input.Reads pos tokens (pos + span input.width tokens) := by
  cases hrest : input.rest? pos with
  | none => simp [startsWith, hrest] at h
  | some there =>
      have hbegin : tokens.isPrefixOf there = true := by simpa [startsWith, hrest] using h
      obtain ⟨tail, rfl⟩ := List.isPrefixOf_iff_prefix.1 hbegin
      have hthere : input.rest pos = tokens ++ tail := by rw [rest, hrest, Option.getD_some]
      exact reads_of_rest hthere

/-- All that remains may be read. -/
theorem reads_rest {pos : Nat} (hpos : input.Boundary pos) :
    input.Reads pos (input.rest pos) input.extent := by
  refine ⟨by simp, ?_⟩
  obtain ⟨before, after, htokens, rfl⟩ := hpos
  rw [rest_of_append htokens, extent, htokens, span_append]

/-- Some of what remains may be read. -/
theorem reads_take (pos count : Nat) :
    input.Reads pos ((input.rest pos).take count)
      (pos + span input.width ((input.rest pos).take count)) :=
  reads_of_rest (List.take_append_drop count _).symm

end Input
end LeftRec
