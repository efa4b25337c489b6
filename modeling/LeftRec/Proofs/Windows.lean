import LeftRec.Proofs.Reading
import LeftRec.Report

/-!
# Windows — the source around a failure

A report shows the tokens around the place of a failure, so many on each side and fewer where the
input begins or ends.  Stepping back over tokens and on over them leads to the boundaries where
these tokens begin and end, whatever the widths of the tokens are.  At a place inside a token there
is nothing to step over, and nothing is shown.
-/

namespace LeftRec
namespace Input

variable {τ : Type} {input : Input τ} {before after : List τ} {pos : Nat}

/-! ## Stepping back -/

theorem prev?_concat {t : τ} (h : input.tokens = (before ++ [t]) ++ after) :
    input.prev? (span input.width (before ++ [t])) = some (span input.width before) := by
  rw [prev?, h, cut_append]
  simp [span]

theorem prev?_of_not_boundary (h : ¬ input.Boundary pos) : input.prev? pos = none := by
  rw [prev?]
  cases hcut : cut input.width input.tokens pos with
  | none => rfl
  | some pair => exact absurd (boundary_of_cut hcut) h

/-- Each step back takes the last one of the tokens before. -/
theorem back_of_append (h : input.tokens = before ++ after) (count : Nat) :
    input.back count (span input.width before) =
      span input.width (before.take (before.length - count)) := by
  induction count generalizing before after with
  | zero => rw [back, Nat.sub_zero, List.take_length]
  | succ count ih =>
      rw [back]
      rcases List.eq_nil_or_concat before with rfl | ⟨rest, t, hlast⟩
      · have hnone : input.prev? (span input.width []) = none := by
          rw [prev?, h, cut_append]
          rfl
        simp only [hnone, List.take_nil]
      · rw [List.concat_eq_append] at hlast
        subst hlast
        have hrest : input.tokens = rest ++ ([t] ++ after) := by rw [h, List.append_assoc]
        have hcount : (rest ++ [t]).length - (count + 1) = rest.length - count := by
          rw [List.length_append, List.length_singleton]
          omega
        have hwithin : rest.length - count ≤ rest.length := Nat.sub_le _ _
        simp only [prev?_concat h]
        rw [ih hrest, hcount, List.take_append_of_le_length hwithin]

theorem back_of_not_boundary (h : ¬ input.Boundary pos) (count : Nat) :
    input.back count pos = pos := by
  cases count with
  | zero => rfl
  | succ count => rw [back, prev?_of_not_boundary h]

/-! ## Stepping on -/

theorem next?_of_not_boundary (h : ¬ input.Boundary pos) : input.next? pos = none := by
  rw [next?, rest_of_not_boundary h]
  rfl

/-- Each step on takes the first one of the tokens after. -/
theorem forth_of_append (h : input.tokens = before ++ after) (count : Nat) :
    input.forth count (span input.width before) =
      span input.width (before ++ after.take count) := by
  induction count generalizing before after with
  | zero => rw [forth, List.take_zero, List.append_nil]
  | succ count ih =>
      rw [forth, next?, rest_of_append h]
      cases after with
      | nil => rw [List.take_nil, List.append_nil]; rfl
      | cons t rest =>
          have hnext : input.tokens = (before ++ [t]) ++ rest := by rw [h, List.append_assoc]; rfl
          have hspan : span input.width before + input.width t =
              span input.width (before ++ [t]) := by simp [span]
          have hstep := ih hnext
          rw [← hspan, List.append_assoc] at hstep
          exact hstep

theorem forth_of_not_boundary (h : ¬ input.Boundary pos) (count : Nat) :
    input.forth count pos = pos := by
  cases count with
  | zero => rfl
  | succ count => rw [forth, next?_of_not_boundary h]

/-! ## Collecting -/

/-- What is collected where some tokens are read is these tokens. -/
theorem Reads.collect_eq {word : List τ} {stop : Nat} (h : input.Reads pos word stop) :
    input.collect pos stop = word := by
  induction word generalizing pos with
  | nil =>
      have hstop : stop = pos := h.stop_eq
      rw [collect, if_neg (Nat.not_lt.2 (Nat.le_of_eq hstop))]
  | cons t rest ih =>
      obtain ⟨middle, htoken, hrest⟩ := h.split_cons
      have hlt : pos < stop := h.lt (List.cons_ne_nil t rest)
      have hnext := htoken.next?
      rw [collect, if_pos hlt]
      split
      next t' after hfound =>
        obtain ⟨rfl, rfl⟩ := Prod.mk.inj (Option.some.inj (hnext.symm.trans hfound))
        rw [ih hrest]
      next hnone => cases hnext.symm.trans hnone

/-! ## The tokens around a position -/

/-- Stepping back from a place and stepping on from it leads to two places between which some tokens
are read: so many before a boundary and so many after it, as far as there are any. -/
theorem reads_around (h : input.tokens = before ++ after) (count : Nat) :
    input.Reads (input.back count (span input.width before))
      (before.drop (before.length - count) ++ after.take count)
      (input.forth count (span input.width before)) := by
  have htake := List.take_append_drop (before.length - count) before
  have hstart : input.tokens = before.take (before.length - count) ++
      ((before.drop (before.length - count) ++ after.take count) ++ after.drop count) := by
    rw [List.append_assoc, List.take_append_drop, ← List.append_assoc, htake, h]
  have hreads := reads_of_rest (rest_of_append hstart)
  -- Where these tokens end is where stepping on leads.
  rw [← span_append, ← List.append_assoc, htake] at hreads
  rwa [back_of_append h, forth_of_append h]

/-- Collecting the tokens around a place cuts them out of the input. -/
theorem window_eq_slice (pos count : Nat) :
    input.window pos count =
      input.slice (input.back count (min pos input.extent))
        (input.forth count (min pos input.extent)) := by
  suffices hread : ∃ word, input.Reads (input.back count (min pos input.extent)) word
      (input.forth count (min pos input.extent)) by
    obtain ⟨word, hread⟩ := hread
    exact hread.collect_eq.trans hread.slice_eq.symm
  by_cases hplace : input.Boundary (min pos input.extent)
  · obtain ⟨before, after, htokens, hpos⟩ := hplace
    rw [hpos]
    exact ⟨_, reads_around htokens count⟩
  · rw [back_of_not_boundary hplace, forth_of_not_boundary hplace]
    exact ⟨[], .nil _⟩

/-- So many tokens before a boundary and so many after it, as far as there are any. -/
theorem window_of_append (h : input.tokens = before ++ after)
    (hpos : min pos input.extent = span input.width before) (count : Nat) :
    input.window pos count = before.drop (before.length - count) ++ after.take count := by
  rw [window_eq_slice, hpos]
  exact (reads_around h count).slice_eq

theorem window_of_not_boundary (h : ¬ input.Boundary (min pos input.extent)) (count : Nat) :
    input.window pos count = [] := by
  rw [window_eq_slice, back_of_not_boundary h, forth_of_not_boundary h]
  exact (Reads.nil _).slice_eq

/-- By their numbers, the tokens around a boundary are those from so many before it, or the first
one, up to so many after it, or the last one. -/
theorem drop_append_take (before after : List τ) (count : Nat) :
    before.drop (before.length - count) ++ after.take count =
      ((before ++ after).take (min (before ++ after).length (before.length + count))).drop
        (before.length - count) := by
  have hwithin : before.length - count ≤ before.length := Nat.sub_le _ _
  have hbefore : before.take (before.length + count) = before :=
    List.take_of_length_le (Nat.le_add_right _ _)
  rw [Nat.min_comm, ← List.take_eq_take_min, List.take_append, hbefore, Nat.add_sub_cancel_left,
    List.drop_append_of_le_length hwithin]

end Input

/-! ## Reports -/

/-- A report says what failed and at which position, and shows the tokens on both sides of it.  A
position past the end counts as the end, and inside a token nothing is shown. -/
theorem Failure.report_shows_window {τ : Type} (failure : Failure) (input : Input τ)
    (text : τ → String) (width : Nat) :
    ∃ source : String,
      failure.report input text width = "Error: " ++ failure.reason.text ++
        " in below source code (" ++ toString failure.pos ++ "): \n" ++ source ++ "\n\n" ∧
      (∀ before after, input.tokens = before ++ after →
        min failure.pos input.extent = Input.span input.width before →
          source = String.join (((input.tokens.take
            (min input.tokens.length (before.length + width))).drop
              (before.length - width)).map text)) ∧
      (¬ input.Boundary (min failure.pos input.extent) → source = "") := by
  refine ⟨_, rfl, fun before after htokens hpos => ?_, fun hinside => ?_⟩
  · rw [Input.window_of_append htokens hpos, Input.drop_append_take, htokens]
  · rw [Input.window_of_not_boundary hinside]
    rfl

/-- A failure reported at the third of five characters, of which some take several bytes. -/
theorem Failure.report_shows_window_wide :
    let failure : Failure := { reason := .stated "bad", pos := 3, used := ∅ }
    (Input.ofText "aéλ€z").tokens = ['a', 'é'] ++ ['λ', '€', 'z'] ∧
      failure.report (Input.ofText "aéλ€z") Char.toString 1 =
        "Error: bad in below source code (3): \néλ\n\n" := by
  intro failure
  obtain ⟨source, hreport, hshown, -⟩ :=
    failure.report_shows_window (Input.ofText "aéλ€z") Char.toString 1
  have hsource := hshown ['a', 'é'] ['λ', '€', 'z'] (by decide) (by decide)
  refine ⟨by decide, ?_⟩
  rw [hreport, hsource]
  decide

end LeftRec
