import LeftRec.Evaluate
import LeftRec.Memo.Ordered
import LeftRec.Proofs.Finished
import LeftRec.Proofs.Numbering
import LeftRec.Proofs.Reading
import LeftRec.Proofs.Searching
import LeftRec.Samples.Text

/-!
# Anchoring — a pattern matches from where it is tried on

A pattern that is an expression by itself stands whole behind the check that nothing stands before,
so each match begins at the start of the text.  Its groups are numbered from one on, so none of them
changes where the match is said to be, and the text of the match is all that the pattern consumes.
This is what any lawful engine finds, whichever match it prefers.
-/

namespace LeftRec
namespace Regex

variable {text : List Char} {a b : Spot}

/-! ## Matches from the start of a text -/

/-- No group of the expression is the match itself, so the places of that are left alone. -/
theorem Node.Matches.getElem?_slots {r : Node} (hr : r.IsNumbered) (h : r.Matches text a b)
    {slot : Nat} (hslot : slot < 2) : b.slots[slot]? = a.slots[slot]? := by
  induction r generalizing a b with
  | empty => exact h ▸ rfl
  | set s =>
      obtain ⟨-, rfl⟩ := h
      rfl
  | look kind wide =>
      obtain ⟨-, rfl⟩ := h
      rfl
  | group index r ih =>
      obtain ⟨hindex, hr⟩ := hr
      obtain ⟨c, hc, rfl⟩ := h
      have hinside : c.slots[slot]? = (a.save (2 * index)).slots[slot]? := ih hr hc
      rw [Spot.save, List.getElem?_set_ne (by omega), hinside, Spot.save,
        List.getElem?_set_ne (by omega)]
  | seq r s ihr ihs =>
      obtain ⟨c, hfirst, hsecond⟩ := h
      exact (ihs hr.2 hsecond).trans (ihr hr.1 hfirst)
  | alt r s ihr ihs =>
      rcases h with h | h
      · exact ihr hr.1 h
      · exact ihs hr.2 h
  | rep least most greedy r ih =>
      obtain ⟨count, -, hcount⟩ := h
      induction count generalizing a with
      | zero => exact hcount ▸ rfl
      | succ count ihcount =>
          obtain ⟨c, hfirst, hrest⟩ := hcount
          exact (ihcount hrest).trans (ih hr hfirst)

theorem unsaved_eq (groups : Nat) :
    unsaved groups = none :: none :: List.replicate (2 * groups) none := rfl

/-- Nothing stands before the start of a text, and before no other place. -/
theorem holdsAt_textStart_iff (wide : Bool) {n : Nat} (hn : n ≤ text.length) :
    Look.textStart.HoldsAt wide text n ↔ n = 0 := by
  show (text.take n).getLast?.isNone = true ↔ n = 0
  rw [Option.isNone_iff_eq_none, List.getLast?_eq_none_iff, List.take_eq_nil_iff]
  refine ⟨fun h => h.elim id fun hnil => ?_, .inl⟩
  subst hnil
  exact Nat.le_zero.1 hn

/-- Behind the check for the start an expression matches from the start on. -/
theorem finds_anchored_iff (wide : Bool) {r : Node} {captures : List (Option (Nat × Nat))} :
    (Node.seq (.look .textStart wide) r).Finds text captures ↔
      ∃ b, r.Matches text ⟨0, (unsaved r.groups).set 0 (some 0)⟩ b ∧
        captures = pairUp (b.save 1).slots := by
  have hgroups : (Node.seq (.look .textStart wide) r).groups = r.groups := Nat.zero_max _
  constructor
  · rintro ⟨start, _, hstart, ⟨b, ⟨_, ⟨hholds, rfl⟩, hb⟩, rfl⟩, hcaptures⟩
    obtain rfl := (holdsAt_textStart_iff wide hstart).1 hholds
    rw [hgroups] at hb
    exact ⟨b, hb, hcaptures⟩
  · rintro ⟨b, hb, hcaptures⟩
    have hholds := (holdsAt_textStart_iff wide (Nat.zero_le text.length)).2 rfl
    refine ⟨0, b.save 1, Nat.zero_le _, ⟨b, ⟨_, ⟨hholds, rfl⟩, ?_⟩, rfl⟩, hcaptures⟩
    rw [hgroups]
    exact hb

/-- What is found behind the check for the start begins at the start. -/
theorem Node.Finds.fromStart {wide : Bool} {r : Node} (hr : r.IsNumbered)
    {captures : List (Option (Nat × Nat))}
    (h : (Node.seq (.look .textStart wide) r).Finds text captures) :
    ∃ stop rest, captures = some (0, stop) :: rest := by
  obtain ⟨⟨stop, slots⟩, hb, rfl⟩ := (finds_anchored_iff wide).1 h
  rw [unsaved_eq] at hb
  have hfirst : slots[0]? = some (some 0) := hb.getElem?_slots hr Nat.zero_lt_two
  have hsecond : slots[1]? = some none := hb.getElem?_slots hr Nat.one_lt_two
  -- The start was saved before, and the end is saved behind.
  match slots, hfirst, hsecond with
  | _ :: _ :: rest, rfl, rfl => exact ⟨stop, pairUp rest, rfl⟩

end Regex

/-! ## Patterns -/

/-- What a pattern matched stands at the end of what it consumes. -/
theorem Pattern.exists_append_full (text : List Char) (captures : List (Option (Nat × Nat))) :
    ∃ skipped, skipped ++ (PatternMatch.ofCaptures text captures).full.toList =
      text.take (Pattern.result text captures).1 := by
  rcases captures with _ | ⟨_ | ⟨start, stop⟩, rest⟩
  · exact ⟨[], rfl⟩
  · exact ⟨[], rfl⟩
  · refine ⟨(text.take stop).take start, ?_⟩
    show _ ++ (String.ofList ((text.take stop).drop start)).toList = text.take stop
    rw [String.toList_ofList, List.take_append_drop]

variable {S : Signature} {T : Type → Type} [MemoTable T] {α E : Type} [Regex.Engine E]

/-- A pattern compiles the expression that ties it to the start. -/
theorem exists_compile?_of_patternBy {chars : List S.Token → List Char} {source name : String}
    {workshop built : Workshop} {p : Parser S PatternMatch}
    (h : patternBy E chars source name workshop = (.ok p, built)) :
    ∃ e : E, Regex.Engine.compile? (Pattern.anchored source) = some e ∧
      p = .scan (fun rest =>
        (Regex.Engine.captures e (chars rest)).map (Pattern.result (chars rest))) name := by
  unfold patternBy at h
  cases he : (Regex.Engine.compile? (Pattern.anchored source) : Option E) with
  | none =>
      rw [he] at h
      cases (Prod.mk.inj h).1
  | some e =>
      rw [he] at h
      exact ⟨e, rfl, (Except.ok.inj (Prod.mk.inj h).1).symm⟩

theorem Grammar.run_scan_success {G : Grammar S} {input : Input S.Token}
    {f : List S.Token → Option (Nat × α)} {name : String} {fuel pos : Nat} {ctx : Context}
    {state after : State S T} {s : Success α}
    (h : G.run input fuel (.scan f name) pos ctx state = .done (.success s) after) :
    ∃ count, f (input.rest pos) = some (count, s.value) ∧
      s.pos = pos + Input.span input.width ((input.rest pos).take count) := by
  cases fuel with
  | zero => cases h
  | succ fuel =>
      obtain ⟨hfound, -⟩ := Result.done.inj h
      cases hscan : f (input.rest pos) with
      | none =>
          rw [hscan] at hfound
          cases hfound
      | some result =>
          rw [hscan] at hfound
          obtain rfl := Outcome.success.inj hfound
          exact ⟨result.1, rfl, rfl⟩

/-- What a pattern matched ends where the pattern does.  If the pattern is an expression by itself,
it is all that stands between where the pattern is tried and where it ends.

A pattern that closes the group around it is no expression by itself.  Behind it there may be a
branch that is not tied to the start, and then some of the input is skipped. -/
theorem Grammar.pattern_consumes_match [Regex.LawfulEngine E] {chars : List S.Token → List Char}
    (hchars : ∀ tokens count, chars (tokens.take count) = (chars tokens).take count)
    {source name : String} {workshop built : Workshop} {p : Parser S PatternMatch}
    (hpattern : patternBy E chars source name workshop = (.ok p, built)) {G : Grammar S}
    {input : Input S.Token} {fuel pos : Nat} {ctx : Context} {state after : State S T}
    {s : Success PatternMatch}
    (hrun : G.run input fuel p pos ctx state = .done (.success s) after) :
    (∃ skipped, skipped ++ s.value.full.toList = chars (input.slice pos s.pos)) ∧
      ((Regex.parse? source).isSome →
        s.value.group 0 = some (String.ofList (chars (input.slice pos s.pos)))) := by
  obtain ⟨e, he, rfl⟩ := exists_compile?_of_patternBy hpattern
  obtain ⟨count, hcount, hpos⟩ := Grammar.run_scan_success hrun
  obtain ⟨captures, hcaptures, heq⟩ := Option.map_eq_some_iff.1 hcount
  obtain ⟨rfl, hvalue⟩ := Prod.mk.inj heq
  have hslice : chars (input.slice pos s.pos) =
      (chars (input.rest pos)).take (Pattern.result (chars (input.rest pos)) captures).1 := by
    rw [hpos, (Input.reads_take pos _).slice_eq, hchars]
    rfl
  rw [hslice, ← hvalue]
  refine ⟨Pattern.exists_append_full _ captures, fun hsource => ?_⟩
  -- The pattern stands whole behind the check, so no branch of it is outside.
  obtain ⟨inner, hinner⟩ := Option.isSome_iff_exists.1 hsource
  obtain ⟨r, hr⟩ := Option.isSome_iff_exists.1 (Regex.LawfulEngine.isSome_parse? he)
  have hfinds := Regex.LawfulEngine.finds_of_captures hr he hcaptures
  obtain rfl := Regex.parse?_anchored hinner hr
  obtain ⟨stop, rest, rfl⟩ := hfinds.fromStart (Regex.isNumbered_parse? hinner)
  rfl

/-- Whether a pattern is built and comes to a success that passes a test, in a grammar without
rules. -/
def patternFinds (source : String) (input : Input Char) (pos : Nat)
    (check : Success PatternMatch → Bool) : Bool :=
  match pattern (S := TextSignature Unit Unit) id source "p" .new with
  | (.ok p, _) =>
      (Grammar.run { define := fun _ => none } input 1 p pos ∅ .new).finishedWith
        fun o (_ : State (TextSignature Unit Unit) OrderedTable) =>
          match o with
          | .success s => check s
          | .failure _ => false
  | _ => false

theorem exists_of_patternFinds {source : String} {input : Input Char} {pos : Nat}
    {check : Success PatternMatch → Bool} (h : patternFinds source input pos check = true) :
    ∃ p built, pattern (S := TextSignature Unit Unit) id source "p" .new = (.ok p, built) ∧
      ∃ s after, Grammar.run { define := fun _ => none } input 1 p pos ∅
        (.new : State (TextSignature Unit Unit) OrderedTable) = .done (.success s) after ∧
          check s = true := by
  unfold patternFinds at h
  split at h
  next p built hpattern =>
    obtain ⟨o, after, hrun, ho⟩ := Result.exists_of_finishedWith h
    cases o with
    | success s => exact ⟨p, built, hpattern, s, after, hrun, ho⟩
    | failure e => cases ho
  next => cases h

theorem Grammar.pattern_consumes_match_letters :
    ∃ p built, pattern (S := TextSignature Unit Unit) id "b+|a" "p" .new = (.ok p, built) ∧
      ∃ s after, Grammar.run { define := fun _ => none } (Input.ofText "xbba") 1 p 1 ∅
        (.new : State (TextSignature Unit Unit) OrderedTable) = .done (.success s) after ∧
          s.pos = 3 ∧ s.value.group 0 = some "bb" := by
  have hfinds : patternFinds "b+|a" (Input.ofText "xbba") 1 (fun s => s.pos == 3) = true := by
    decide +kernel
  obtain ⟨p, built, hpattern, s, after, hrun, hpos⟩ := exists_of_patternFinds hfinds
  have hpos : s.pos = 3 := by simpa using hpos
  refine ⟨p, built, hpattern, s, after, hrun, hpos, ?_⟩
  rw [(Grammar.pattern_consumes_match (fun _ _ => rfl) hpattern hrun).2 (by decide +kernel), hpos]
  decide +kernel

/-- A pattern that closes the group around it skips a letter. -/
theorem Grammar.pattern_skips_letter :
    ∃ p built, pattern (S := TextSignature Unit Unit) id "a)|(?:b" "p" .new = (.ok p, built) ∧
      ∃ s after, Grammar.run { define := fun _ => none } (Input.ofText "xb") 1 p 0 ∅
        (.new : State (TextSignature Unit Unit) OrderedTable) = .done (.success s) after ∧
          s.value.group 0 ≠ some (String.ofList ((Input.ofText "xb").slice 0 s.pos)) := by
  have hfinds : patternFinds "a)|(?:b" (Input.ofText "xb") 0 (fun s =>
      s.value.group 0 ≠ some (String.ofList ((Input.ofText "xb").slice 0 s.pos))) = true := by
    decide +kernel
  obtain ⟨p, built, hpattern, s, after, hrun, hskips⟩ := exists_of_patternFinds hfinds
  exact ⟨p, built, hpattern, s, after, hrun, of_decide_eq_true hskips⟩

end LeftRec
