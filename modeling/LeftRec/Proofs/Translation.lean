import Mathlib.Data.Option.Basic
import LeftRec.Proofs.Fuel
import LeftRec.Proofs.Reading
import LeftRec.Proofs.Related
import LeftRec.Proofs.Renaming
import LeftRec.Proofs.Usage
import LeftRec.Session

/-!
# Translations — one run told in the terms of another

Two runs of one parser may read different inputs, use different tables and know the memoized rules
by different keys.  A translation says which positions and which states of the two belong together,
and which key of the one is which of the other.  If the inputs read alike from corresponding
positions on, and if what is stored, found and built corresponds, then so do the runs: both use up
their fuel, both are stopped by one fault, or both come to the same outcome, but for the position
and for the keys of its used set.

The passage through the combinators is made once, for all translations.
-/

namespace LeftRec

variable {S : Signature} {T T' : Type → Type} {α β γ δ : Type}

/-! ## Inputs -/

/-- The two inputs read alike from corresponding positions on, and reading the same leads to
corresponding positions. -/
structure Input.Alike {τ : Type} (input other : Input τ) (places : Nat → Nat → Prop) : Prop where
  rest?_eq : ∀ {i j}, places i j → input.rest? i = other.rest? j
  slice_eq : ∀ {i j}, places i j → input.slice i input.extent = other.slice j other.extent
  lt_iff : ∀ {i j i' j'}, places i j → places i' j' → (i < i' ↔ j < j')
  extent_le_iff : ∀ {i j}, places i j → (input.extent ≤ i ↔ other.extent ≤ j)
  ends : ∀ {i j}, places i j → places (max input.extent i) (max other.extent j)
  /-- Some of the tokens that remain lead to corresponding positions. -/
  step : ∀ {i j word tail}, places i j → input.rest i = word ++ tail →
    places (i + span input.width word) (j + span other.width word)

namespace Input.Alike

variable {τ : Type} {input other : Input τ} {places : Nat → Nat → Prop} {i j i' j' : Nat}

theorem rest_eq (h : input.Alike other places) (hplace : places i j) :
    input.rest i = other.rest j := by
  rw [rest, rest, h.rest?_eq hplace]

theorem remaining_eq (h : input.Alike other places) (hplace : places i j) :
    input.remaining i = other.remaining j := by
  rw [remaining, remaining, h.rest_eq hplace]

theorem startsWith_eq [BEq τ] (h : input.Alike other places) (hplace : places i j)
    (tokens : List τ) : input.startsWith i tokens = other.startsWith j tokens := by
  rw [startsWith, startsWith, h.rest?_eq hplace]

theorem eq_iff (h : input.Alike other places) (hplace : places i j) (hplace' : places i' j') :
    i = i' ↔ j = j' := by
  have hlt := h.lt_iff hplace hplace'
  have hgt := h.lt_iff hplace' hplace
  omega

/-- An input reads like itself from the same positions on, if reading on does not leave them. -/
theorem self {places : Nat → Nat → Prop} (heq : ∀ {i j}, places i j → i = j)
    (hup : ∀ {i k}, places i i → i ≤ k → places k k) (input : Input τ) :
    input.Alike input places where
  rest?_eq hplace := by rw [heq hplace]
  slice_eq hplace := by rw [heq hplace]
  lt_iff hplace hplace' := by rw [heq hplace, heq hplace']
  extent_le_iff hplace := by rw [heq hplace]
  ends hplace := by
    obtain rfl := heq hplace
    exact hup hplace (Nat.le_max_right _ _)
  step hplace _ := by
    obtain rfl := heq hplace
    exact hup hplace (Nat.le_add_right _ _)

theorem refl (input : Input S.Token) : input.Alike input Eq :=
  .self id (fun _ _ => rfl) input

end Input.Alike

/-! ## Outcomes and events -/

/-- The same outcome but for the keys of its used set and for its position, where the positions
correspond. -/
inductive Outcome.Renamed (r : Key → Key) (places : Nat → Nat → Prop) :
    Outcome α → Outcome α → Prop
  | success {value : α} {used : Used} {i j : Nat} : places i j →
      Renamed r places (.success { value, pos := i, used })
        (.success { value, pos := j, used := used.rename r })
  | failure {reason : Reason} {used : Used} {i j : Nat} : places i j →
      Renamed r places (.failure { reason, pos := i, used })
        (.failure { reason, pos := j, used := used.rename r })

/-- The same item found, where the positions after it correspond. -/
inductive Found.Rel (places : Nat → Nat → Prop) : Option (α × Nat) → Option (α × Nat) → Prop
  | none : Rel places none none
  | some {value : α} {i j : Nat} : places i j → Rel places (some (value, i)) (some (value, j))

/-- The same stored outcome but for keys and its position, under the same context but for keys. -/
def Stored.Renamed (r : Key → Key) (places : Nat → Nat → Prop) :
    Option (Outcome α × Context) → Option (Outcome α × Context) → Prop :=
  Option.Rel fun stored stored' =>
    stored.1.Renamed r places stored'.1 ∧ stored'.2 = stored.2.rename r

/-- The same thing that a memoized rule notes, but for the key and positions. -/
inductive Event.Renamed (r : Key → Key) (places : Nat → Nat → Prop) : Event → Event → Prop
  | hit {key : Key} {i j : Nat} : places i j → Renamed r places (.hit key i) (.hit (r key) j)
  | curtailed {key : Key} {i j : Nat} (depth : Nat) : places i j →
      Renamed r places (.curtailed key i depth) (.curtailed (r key) j depth)
  | grew {key : Key} {i j fresh fresh' stored stored' : Nat} : places i j →
      places fresh fresh' → places stored stored' →
        Renamed r places (.grew key i fresh stored) (.grew (r key) j fresh' stored')

namespace Outcome.Renamed

variable {r : Key → Key} {places : Nat → Nat → Prop} {o o' : Outcome α}

theorem used_eq (h : o.Renamed r places o') : o'.used = o.used.rename r := by
  cases h with
  | success | failure => rfl

theorem isSuccess_eq (h : o.Renamed r places o') : o.isSuccess = o'.isSuccess := by
  cases h with
  | success | failure => rfl

theorem pos (h : o.Renamed r places o') : places o.pos o'.pos := by
  cases h with
  | success hplace | failure hplace => exact hplace

theorem map (f : α → β) (h : o.Renamed r places o') : (o.map f).Renamed r places (o'.map f) := by
  cases h with
  | success hplace => exact .success hplace
  | failure hplace => exact .failure hplace

theorem withUsed {used used' : Used} (hused : used' = used.rename r)
    (h : o.Renamed r places o') :
    (o.withUsed used).Renamed r places (o'.withUsed used') := by
  subst hused
  cases h with
  | success hplace => exact .success hplace
  | failure hplace => exact .failure hplace

theorem yield (value : α) {i j : Nat} (hplace : places i j) :
    (Outcome.yield value i).Renamed r places (.yield value j) :=
  .success hplace

theorem fail (reason : Reason) {i j : Nat} (hplace : places i j) :
    (Outcome.fail reason i : Outcome α).Renamed r places (.fail reason j) :=
  .failure hplace

/-- Where positions stay, only the used set has other keys. -/
theorem eq_rename (h : o.Renamed r places o') (hplaces : ∀ {i j}, places i j → i = j) :
    o' = o.rename r := by
  cases h with
  | success hplace => rw [hplaces hplace]; rfl
  | failure hplace => rw [hplaces hplace]; rfl

end Outcome.Renamed

/-- Where its position corresponds to itself, only the keys of an outcome are told otherwise. -/
theorem Outcome.renamed_rename (r : Key → Key) {places : Nat → Nat → Prop} (o : Outcome α)
    (h : places o.pos o.pos) : o.Renamed r places (o.rename r) := by
  cases o with
  | success s => exact .success h
  | failure f => exact .failure h

theorem Outcome.renamed_self {places : Nat → Nat → Prop} (o : Outcome α)
    (h : places o.pos o.pos) : o.Renamed id places o := by
  have hrename := o.renamed_rename id h
  rwa [Outcome.rename_id] at hrename

theorem Stored.renamed_self {places : Nat → Nat → Prop} {stored : Option (Outcome α × Context)}
    (h : ∀ o under, stored = some (o, under) → places o.pos o.pos) :
    Stored.Renamed id places stored stored := by
  cases stored with
  | none => exact .none
  | some found => exact .some ⟨found.1.renamed_self (h _ _ rfl), found.2.rename_id.symm⟩

/-- Where positions stay and no key changes, the same is noted. -/
theorem Event.Renamed.eq {places : Nat → Nat → Prop} {event event' : Event}
    (h : Event.Renamed id places event event') (hplaces : ∀ {i j}, places i j → i = j) :
    event' = event := by
  cases h with
  | hit hplace => rw [hplaces hplace, id]
  | curtailed depth hplace => rw [hplaces hplace, id]
  | grew hplace hfresh hstored => rw [hplaces hplace, hplaces hfresh, hplaces hstored, id]

/-! ## Translations -/

/-- How one run is told in the terms of another one: which of their positions and states belong
together, what the memoized rules are called there, and under which keys the first run may store. -/
structure Translation (G G' : Grammar S) (input other : Input S.Token) (T T' : Type → Type)
    [MemoTable T] [MemoTable T'] where
  rename : Key → Key
  injective : Function.Injective rename
  places : Nat → Nat → Prop
  alike : input.Alike other places
  states : State S T → State S T' → Prop
  keys : Key → Prop
  lookup : ∀ {state state' key i j} (kind), states state state' → keys key → places i j →
    Stored.Renamed rename places (state.lookup kind key i) (state'.lookup kind (rename key) j)
  store : ∀ {state state' key i j kind} {o o' : Outcome (S.Value kind)} (context : Context),
    states state state' → keys key → places i j → o.Renamed rename places o' →
      states (state.store key i { kind, outcome := o, context })
        (state'.store (rename key) j { kind, outcome := o', context := context.rename rename })
  note : ∀ {state state' event event'}, states state state' →
    Event.Renamed rename places event event' → states (state.note event) (state'.note event')
  define_eq : ∀ rule, G'.define rule = (G.define rule).map (Parser.rename rename)
  /-- The cells that the first run may ask for, and from which workshops their copies are made. -/
  cells : Nat → Prop
  built : Nat → Workshop → Prop
  copies : ∀ {state state' rule cell body next}, states state state' → cells cell →
    G.fill rule cell state = (.ok body, next) →
      ∃ workshop, built cell workshop ∧ (G.copy rule workshop).1 = .ok body
  /-- Late copies of rules are the same but for keys. -/
  fill : ∀ {state state'} (rule cell), states state state' → cells cell →
    (G'.fill rule cell state').1 = (G.fill rule cell state).1.map (Parser.rename rename) ∧
      states (G.fill rule cell state).2 (G'.fill rule cell state').2

namespace Translation

variable [MemoTable T] [MemoTable T'] {G G' : Grammar S} {input other : Input S.Token}

/-- What a parser asks of a translation at its outermost operation: one that is written by hand does
the same at corresponding positions and states, counting leads to corresponding states, a memoized
rule has one of the keys, and a late copy one of the cells. -/
def Admits (C : Translation G G' input other T T') : {α : Type} → Parser S α → Prop
  | _, .custom f => ∀ {i j} ctx, C.places i j →
      Eval.Rel (Outcome.Renamed C.rename C.places) C.states (Run.custom input f i ctx)
        (Run.custom other f j (ctx.rename C.rename))
  | _, .count what _ => ∀ {state state'}, C.states state state' →
      C.states (state.count what) (state'.count what)
  | _, .memo _ _ key _ => C.keys key
  | _, .delay cell _ => C.cells cell
  | _, _ => True

variable {C : Translation G G' input other T T'} {i j i' j' : Nat}

theorem carried_eq (C : Translation G G' input other T T') (h : C.places i j)
    (h' : C.places i' j') (ctx : Context) :
    (ctx.rename C.rename).carried j j' = (ctx.carried i i').rename C.rename := by
  rw [Context.rename_carried]
  unfold Context.carried
  simp only [C.alike.eq_iff h h']

theorem rel_after (C : Translation G G' input other T T') (h : C.places i j) {o o' : Outcome α}
    (ho : o.Renamed C.rename C.places o') (used : Used) :
    (o.after i used).Renamed C.rename C.places (o'.after j (used.rename C.rename)) := by
  refine ho.withUsed ?_
  rw [Used.rename_sequenced, ho.used_eq]
  unfold Used.sequenced
  simp only [C.alike.eq_iff h ho.pos]

theorem note_elim (C : Translation G G' input other T T') {event event' : Option Event}
    (h : Option.Rel (Event.Renamed C.rename C.places) event event') {state : State S T}
    {state' : State S T'} (hs : C.states state state') :
    C.states (event.elim state state.note) (event'.elim state' state'.note) := by
  cases h with
  | none => exact hs
  | some hevent => exact C.note hs hevent

end Translation

/-! ## Runs -/

namespace Run

variable [MemoTable T] [MemoTable T'] {G G' : Grammar S} {input other : Input S.Token}
variable (C : Translation G G' input other T T')

/-- From corresponding positions and states, and under one context but for its keys, both runs come
to corresponding results. -/
def Translates (p : Run S T α) (q : Run S T' α) : Prop :=
  ∀ ⦃i j⦄ (ctx : Context), C.places i j →
    Eval.Rel (Outcome.Renamed C.rename C.places) C.states (p i ctx) (q j (ctx.rename C.rename))

variable {C}

/-! ### Terminals -/

theorem translates_pure {f g : Nat → Outcome α}
    (h : ∀ {i j}, C.places i j → (f i).Renamed C.rename C.places (g j)) :
    Translates C (fun i _ => pure (f i)) (fun j _ => pure (g j)) :=
  fun _ _ _ hplace => Eval.rel_pure (h hplace)

theorem renamed_found {i j : Nat} (name : String) (hplace : C.places i j)
    {what what' : Option (α × Nat)} (h : Found.Rel C.places what what') :
    (found name i what).Renamed C.rename C.places (found name j what') := by
  cases h with
  | none => exact .fail _ hplace
  | some hafter => exact .yield _ hafter

theorem translates_literal (tokens : List S.Token) (name : String) :
    Translates C (literal input tokens name) (literal other tokens name) := by
  refine translates_pure fun {i j} hplace => renamed_found name hplace ?_
  rw [C.alike.startsWith_eq hplace]
  split
  next hstarts =>
    have hreads := Input.reads_of_startsWith (C.alike.startsWith_eq hplace tokens ▸ hstarts)
    exact .some (C.alike.step hplace hreads.rest_eq)
  next => exact .none

theorem translates_token (test : S.Token → Bool) (name : String) :
    Translates C (token input test name) (token other test name) := by
  refine translates_pure fun {i j} hplace => renamed_found name hplace ?_
  rw [Input.next?, Input.next?, ← C.alike.rest_eq hplace]
  cases hrest : input.rest i with
  | nil => exact .none
  | cons t tail =>
      have hword : input.rest i = [t] ++ tail := hrest
      have hafter := C.alike.step hplace hword
      simp only [Input.span, Nat.add_zero] at hafter
      exact ite_rel (R := Found.Rel C.places) Iff.rfl (fun _ => .some hafter) fun _ => .none

theorem rel_firstToken (test : S.Token → Bool) {tokens : List S.Token} {i j : Nat}
    (hplace : C.places i j) (hrest : input.rest i = tokens) :
    Found.Rel C.places (firstToken input.width test i tokens)
      (firstToken other.width test j tokens) := by
  induction tokens generalizing i j with
  | nil => exact .none
  | cons t tail ih =>
      have hword : input.rest i = [t] ++ tail := hrest
      have hafter := C.alike.step hplace hword
      have hreads := Input.reads_of_rest hword
      simp only [Input.span, Nat.add_zero] at hafter hreads
      simp only [firstToken]
      split
      · exact .some hafter
      · exact ih hafter (List.append_cancel_left (hreads.rest_eq.symm.trans hrest))

theorem translates_find (test : S.Token → Bool) (name : String) :
    Translates C (find input test name) (find other test name) := by
  refine translates_pure fun {i j} hplace => renamed_found name hplace ?_
  rw [← C.alike.rest_eq hplace]
  exact rel_firstToken test hplace rfl

theorem translates_all : Translates C (all input) (all other) := by
  refine translates_pure fun {i j} hplace => ?_
  rw [C.alike.slice_eq hplace]
  exact .yield _ (C.alike.ends hplace)

theorem translates_eof : Translates C (eof input) (eof other) := by
  refine translates_pure fun {i j} hplace => renamed_found _ hplace ?_
  simp only [C.alike.extent_le_iff hplace]
  split
  · exact .some hplace
  · exact .none

theorem translates_scan (f : List S.Token → Option (Nat × α)) (name : String) :
    Translates C (scan input f name) (scan other f name) := by
  refine translates_pure fun {i j} hplace => renamed_found name hplace ?_
  rw [← C.alike.rest_eq hplace]
  cases f (input.rest i) with
  | none => exact .none
  | some found => exact .some (C.alike.step hplace (List.take_append_drop found.1 _).symm)

/-! ### Sequences -/

variable {p : Run S T α} {p' : Run S T' α} {q : Run S T β} {q' : Run S T' β}

theorem Translates.tryMap (f : α → Except Fault β) (hp : Translates C p p') :
    Translates C (Run.tryMap f p) (Run.tryMap f p') := by
  intro i j ctx hplace
  refine (hp ctx hplace).bind fun first first' hfirst => ?_
  cases hfirst with
  | failure hend => exact Eval.rel_pure (.failure hend)
  | success hend =>
      refine (Eval.rel_ofExcept _).map fun value value' hvalue => ?_
      obtain rfl := hvalue
      exact .success hend

theorem Translates.bind {f : α → Run S T β} {f' : α → Run S T' β} (hp : Translates C p p')
    (hf : ∀ a, Translates C (f a) (f' a)) : Translates C (Run.bind p f) (Run.bind p' f') := by
  intro i j ctx hplace
  refine (hp ctx hplace).bind fun first first' hfirst => ?_
  cases hfirst with
  | failure hend => exact Eval.rel_pure (.failure hend)
  | success hend =>
      simp only [C.carried_eq hplace hend]
      refine (hf _ _ hend).bind fun second second' hsecond => ?_
      exact Eval.rel_pure (C.rel_after hplace hsecond _)

theorem Translates.zipWith (f : α → β → γ) (hp : Translates C p p') (hq : Translates C q q') :
    Translates C (Run.zipWith f p q) (Run.zipWith f p' q') := by
  intro i j ctx hplace
  refine (hp ctx hplace).bind fun first first' hfirst => ?_
  cases hfirst with
  | failure hend => exact Eval.rel_pure (.failure hend)
  | success hend =>
      simp only [C.carried_eq hplace hend]
      refine (hq _ hend).bind fun second second' hsecond => ?_
      exact Eval.rel_pure (C.rel_after hplace (hsecond.map _) _)

theorem translates_rowFrom {ι : Type 1} {f : ι → Run S T α} {g : ι → Run S T' α} {parts : List ι}
    (h : ∀ part ∈ parts, Translates C (f part) (g part)) {start start' i j : Nat} (ctx : Context)
    (hstart : C.places start start') (hplace : C.places i j) (used : Used) :
    Eval.Rel (Outcome.Renamed C.rename C.places) C.states
      (rowFrom start ctx (parts.map f) i used)
      (rowFrom start' (ctx.rename C.rename) (parts.map g) j (used.rename C.rename)) := by
  induction parts generalizing i j used with
  | nil => exact Eval.rel_pure (.success hplace)
  | cons part rest ih =>
      simp only [List.map_cons, rowFrom, C.carried_eq hstart hplace]
      refine (h part List.mem_cons_self _ hplace).bind fun first first' hfirst => ?_
      -- Whether the row has consumed anything shows in both runs alike.
      have hafter := C.rel_after hstart hfirst used
      generalize first.after start used = o at hafter
      generalize first'.after start' (used.rename C.rename) = o' at hafter
      cases hafter with
      | failure hend => exact Eval.rel_pure (.failure hend)
      | success hend =>
          refine (ih (fun p hp => h p (List.mem_cons_of_mem _ hp)) hend _).map ?_
          exact fun _ _ ho => ho.map _

theorem translates_row {ι : Type 1} {f : ι → Run S T α} {g : ι → Run S T' α} {parts : List ι}
    (h : ∀ part ∈ parts, Translates C (f part) (g part)) :
    Translates C (row (parts.map f)) (row (parts.map g)) := by
  intro i j ctx hplace
  cases parts with
  | nil => exact Eval.rel_pure (.yield _ hplace)
  | cons part rest =>
      refine (h part List.mem_cons_self ctx hplace).bind fun first first' hfirst => ?_
      cases hfirst with
      | failure hend => exact Eval.rel_pure (.failure hend)
      | success hend =>
          refine (translates_rowFrom (fun p hp => h p (List.mem_cons_of_mem _ hp)) ctx hplace hend
            _).map ?_
          exact fun _ _ ho => ho.map _

/-! ### Choice -/

/-- Merging compares how far the two failures got, and positions compare alike. -/
theorem renamed_merge {reason reason' : Reason} {used used' : Used} {i j i' j' : Nat}
    (h : C.places i j) (h' : C.places i' j') :
    (Outcome.failure (Failure.merge ⟨reason, i, used⟩ ⟨reason', i', used'⟩) : Outcome α).Renamed
      C.rename C.places (.failure (Failure.merge ⟨reason, j, used.rename C.rename⟩
        ⟨reason', j', used'.rename C.rename⟩)) := by
  simp only [Failure.merge, Failure.isFatal, C.alike.lt_iff h h', C.alike.lt_iff h' h,
    ← Used.rename_union]
  split
  · exact .failure h
  · split
    · exact .failure h'
    · split
      · exact .failure h
      · exact .failure h'

theorem Translates.alt {q : Run S T α} {q' : Run S T' α} (hp : Translates C p p')
    (hq : Translates C q q') : Translates C (Run.alt p q) (Run.alt p' q') := by
  intro i j ctx hplace
  refine (hp ctx hplace).bind fun first first' hfirst => ?_
  cases hfirst with
  | success hend => exact Eval.rel_pure (.success hend)
  | failure hend =>
      refine ite_rel Iff.rfl (fun _ => Eval.rel_pure (.failure hend)) fun _ => ?_
      refine (hq ctx hplace).bind fun second second' hsecond => ?_
      cases hsecond with
      | success hend' =>
          simp only [← Used.rename_union]
          exact Eval.rel_pure (.success hend')
      | failure hend' => exact Eval.rel_pure (renamed_merge hend hend')

theorem Translates.label (name : String) (hp : Translates C p p') :
    Translates C (Run.label name p) (Run.label name p') := by
  intro i j ctx hplace
  refine (hp ctx hplace).bind fun first first' hfirst => Eval.rel_pure ?_
  cases hfirst with
  | success hend => exact .success hend
  | failure hend =>
      refine ite_rel (R := fun e e' =>
        (Outcome.failure e : Outcome α).Renamed C.rename C.places (.failure e')) ?_
        (fun _ => .failure hend) fun _ => .failure hend
      simp only [Failure.isFatal, ne_eq, C.alike.eq_iff hend hplace]

theorem Translates.commit (hp : Translates C p p') :
    Translates C (Run.commit p) (Run.commit p') := by
  intro i j ctx hplace
  refine (hp ctx hplace).bind fun first first' hfirst => Eval.rel_pure ?_
  cases hfirst with
  | success hend => exact .success hend
  | failure hend => exact .failure hend

theorem Translates.look (hp : Translates C p p') : Translates C (Run.look p) (Run.look p') := by
  intro i j ctx hplace
  refine (hp ctx hplace).bind fun first first' hfirst => Eval.rel_pure ?_
  rw [hfirst.isSuccess_eq, hfirst.used_eq]
  exact .success hplace

/-! ### Repetition -/

theorem Translates.manyFrom (hp : Translates C p p') {i j : Nat} (rounds : Nat)
    (hplace : C.places i j) :
    Eval.Rel (Outcome.Renamed C.rename C.places) C.states (Run.manyFrom p rounds i)
      (Run.manyFrom p' rounds j) := by
  induction rounds generalizing i j with
  | zero => exact Eval.rel_exhausted
  | succ rounds ih =>
      refine (hp ∅ hplace).bind fun first first' hfirst => ?_
      cases hfirst with
      | failure hend =>
          refine Eval.rel_pure (ite_rel Iff.rfl (fun _ => .failure hend) fun _ => ?_)
          exact .yield _ hplace
      | success hend =>
          refine ite_rel (C.alike.eq_iff hend hplace)
            (fun _ => Eval.rel_pure (.yield _ hplace)) fun _ => ?_
          exact (ih hend).map fun _ _ ho => ho.map _

theorem Translates.many (rounds : Nat) (hp : Translates C p p') :
    Translates C (Run.many rounds p) (Run.many rounds p') := by
  intro i j ctx hplace
  refine (hp ctx hplace).bind fun first first' hfirst => ?_
  cases hfirst with
  | failure hend =>
      refine Eval.rel_pure (ite_rel Iff.rfl (fun _ => .failure hend) fun _ => ?_)
      exact .success hplace
  | success hend =>
      refine ite_rel (C.alike.eq_iff hend hplace) (fun _ => Eval.rel_pure (.success hplace))
        fun _ => ?_
      exact (hp.manyFrom rounds hend).map fun _ _ ho => (ho.map _).withUsed rfl

/-! ### Counting -/

theorem Translates.count (what : String) (hp : Translates C p p')
    (hcount : ∀ {state state'}, C.states state state' →
      C.states (state.count what) (state'.count what)) :
    Translates C (Run.count what p) (Run.count what p') := by
  intro i j ctx hplace
  exact (Eval.rel_change fun _ _ hs => hcount hs).bind fun _ _ _ => hp ctx hplace

/-! ### Memoization -/

omit [MemoTable T] [MemoTable T'] in
theorem rel_deepen {Q : State S T → State S T' → Prop} {r : Key → Key}
    (hr : Function.Injective r) (ctx : Context) (key : Key) :
    Eval.Rel (fun deeper deeper' => deeper' = deeper.rename r) Q
      (Eval.ofExcept (deepen ctx key)) (Eval.ofExcept (deepen (ctx.rename r) (r key))) := by
  simp only [deepen, Context.depth_rename hr, ← Context.rename_withDepth hr]
  split
  · exact Eval.rel_pure rfl
  · exact Eval.rel_fault _

/-- The same success is preferred to corresponding outcomes, but for its position and keys. -/
theorem renamed_preferred (parity : Parity) (remaining : Nat) (ctx : Context)
    {fresh fresh' : Outcome α} {stored stored' : Option (Outcome α × Context)}
    (hfresh : fresh.Renamed C.rename C.places fresh')
    (hstored : Stored.Renamed C.rename C.places stored stored') :
    Option.Rel (fun s s' => (Outcome.success s).Renamed C.rename C.places (.success s'))
      (preferred parity remaining ctx fresh stored)
      (preferred parity remaining (ctx.rename C.rename) fresh' stored') := by
  cases hstored with
  | none => cases hfresh <;> exact .none
  | @some found found' hfound =>
      obtain ⟨o, under⟩ := found
      obtain ⟨o', under'⟩ := found'
      obtain ⟨ho, hunder⟩ := hfound
      simp only at ho hunder
      subst hunder
      cases ho with
      | failure => cases hfresh <;> exact .none
      | success hend =>
          cases hfresh with
          | failure =>
              refine ite_rel (R := Option.Rel _) ?_ (fun _ => .some (.success hend)) fun _ => .none
              rw [Context.canReuse_rename C.injective]
          | success hfresh =>
              exact ite_rel (R := Option.Rel _) (C.alike.lt_iff hfresh hend)
                (fun _ => .some (.success hend)) fun _ => .none

/-- The same is kept and noted, but for positions and keys. -/
theorem renamed_settle (key : Key) {i j : Nat} (hplace : C.places i j) {fresh fresh' : Outcome α}
    {stored stored' : Option (Success α)} (hfresh : fresh.Renamed C.rename C.places fresh')
    (hstored : Option.Rel
      (fun s s' => (Outcome.success s).Renamed C.rename C.places (.success s')) stored stored') :
    (settle key i fresh stored).1.Renamed C.rename C.places
        (settle (C.rename key) j fresh' stored').1 ∧
      Option.Rel (Event.Renamed C.rename C.places) (settle key i fresh stored).2
        (settle (C.rename key) j fresh' stored').2 := by
  cases hstored with
  | none => exact ⟨hfresh, .none⟩
  | some hs =>
      refine ⟨hs, ?_⟩
      cases hfresh with
      | success hfresh => exact .some (.grew hplace hfresh hs.pos)
      | failure => exact .none

theorem Translates.memo (kind : S.Kind) (parity : Parity) {key : Key} (hkey : C.keys key)
    {body : Run S T (S.Value kind)} {body' : Run S T' (S.Value kind)}
    (hbody : Translates C body body') :
    Translates C (Run.memo input kind parity key body)
      (Run.memo other kind parity (C.rename key) body') := by
  intro i j ctx hplace
  have hlookup {state : State S T} {state' : State S T'} (hs : C.states state state') :=
    C.lookup kind hs hkey hplace
  refine (Eval.rel_read (fun _ _ hs => hlookup hs)).bind fun stored stored' hstored => ?_
  -- The contexts are the same but for keys, so the table answers in both runs or in neither.
  have hreuse : Stored.Renamed C.rename C.places
      (stored.filter fun found => ctx.canReuse found.2)
      (stored'.filter fun found => (ctx.rename C.rename).canReuse found.2) := by
    cases hstored with
    | none => exact .none
    | @some found found' hfound =>
        obtain ⟨o, under⟩ := found
        obtain ⟨o', under'⟩ := found'
        obtain rfl : under' = under.rename C.rename := hfound.2
        refine ite_rel (R := Stored.Renamed C.rename C.places) ?_ (fun _ => .some hfound)
          fun _ => .none
        simp only [Context.canReuse_rename C.injective]
  generalize stored.filter _ = reusable at hreuse
  generalize stored'.filter _ = reusable' at hreuse
  cases hreuse with
  | some hfound =>
      refine (Eval.rel_change fun _ _ hs => C.note hs (.hit hplace)).bind fun _ _ _ => ?_
      exact Eval.rel_pure hfound.1
  | none =>
      -- As much remains in both runs, so the bound is met in both or in neither.
      simp only [Context.depth_rename C.injective, C.alike.remaining_eq hplace]
      refine ite_rel Iff.rfl (fun _ => ?_) fun _ => ?_
      · refine (Eval.rel_change fun _ _ hs => C.note hs (.curtailed _ hplace)).bind
          fun _ _ _ => ?_
        rw [← Used.rename_single]
        exact Eval.rel_pure (.failure hplace)
      · unfold refresh
        refine (rel_deepen C.injective ctx key).bind fun deeper deeper' hdeeper => ?_
        obtain rfl := hdeeper
        refine (hbody deeper hplace).bind fun fresh fresh' hfresh => ?_
        refine (Eval.rel_read (fun _ _ hs => hlookup hs)).bind fun stored stored' hstored => ?_
        rw [C.alike.remaining_eq hplace]
        obtain ⟨hkept, hevent⟩ := renamed_settle key hplace hfresh
          (renamed_preferred parity (other.remaining j) ctx hfresh hstored)
        generalize settle key i fresh _ = result at hkept hevent ⊢
        generalize settle (C.rename key) j fresh' _ = result' at hkept hevent ⊢
        refine (Eval.rel_change fun _ _ hs => C.note_elim hevent hs).bind fun _ _ _ => ?_
        rw [hkept.used_eq, ← Context.rename_pruned C.injective]
        refine (Eval.rel_change fun _ _ hs => C.store _ hs hkey hplace hkept).bind fun _ _ _ => ?_
        exact Eval.rel_pure hkept

end Run

/-! ## Parsers and grammars -/

/-- The library offers the parser's outermost operation, and if it is memoized, then under one of
the keys. -/
def Parser.Keyed (keys : Key → Prop) (p : Parser S α) : Prop :=
  p.Offered ∧ ∀ node, p.node? = some node → keys node.key

variable [MemoTable T] [MemoTable T'] {G G' : Grammar S} {input other : Input S.Token}
variable {C : Translation G G' input other T T'}

/-- A translation with all cells admits the library's parsers with keys of its own. -/
theorem Parser.Keyed.admits {p : Parser S α} (h : p.Keyed C.keys) (hcells : ∀ cell, C.cells cell) :
    C.Admits p := by
  cases p with
  | custom | count => exact h.1.elim
  | memo kind parity key p => exact h.2 _ rfl
  | delay cell rule => exact hcells cell
  | unit | fail | literal | token | find | all | eof | scan | tryMap | zipWith | bind | alt
  | label | commit | look | row | many | ref => trivial

section Parsers

variable {ρ : Type} {root : Parser S ρ}

theorem Parser.translates_eval {rounds : Nat} {call : Caller S T} {call' : Caller S T'}
    (hadmits : ∀ ⦃β : Type⦄ (q : Parser S β), G.Uses C.built root q → C.Admits q)
    (hrule : ∀ rule, G.Uses C.built root (.ref rule : Parser S _) →
      Run.Translates C (call rule none) (call' rule none))
    (hcopy : ∀ cell rule, G.Uses C.built root (.delay cell rule : Parser S _) →
      Run.Translates C (call rule (some cell)) (call' rule (some cell)))
    {p : Parser S α} (hp : G.Uses C.built root p) :
    Run.Translates C (p.eval input rounds call) ((p.rename C.rename).eval other rounds call') := by
  induction p with
  | unit value => exact Run.translates_pure fun hplace => .yield value hplace
  | fail reason => exact Run.translates_pure fun hplace => .fail reason hplace
  | literal tokens name => exact Run.translates_literal tokens name
  | token test name => exact Run.translates_token test name
  | find test name => exact Run.translates_find test name
  | all => exact Run.translates_all
  | eof => exact Run.translates_eof
  | scan f name => exact Run.translates_scan f name
  | custom f => exact fun i j ctx hplace => hadmits _ hp ctx hplace
  | count what p ih => exact (ih (hp.part (.count what p))).count what (hadmits _ hp)
  | tryMap f p ih => exact (ih (hp.part (.tryMap f p))).tryMap f
  | zipWith f p q ihp ihq =>
      exact (ihp (hp.part (.zipWithLeft f p q))).zipWith f (ihq (hp.part (.zipWithRight f p q)))
  | bind p f ihp ihf =>
      exact (ihp (hp.part (.bindFirst p f))).bind fun a => ihf a (hp.part (.bindNext p f a))
  | alt p q ihp ihq => exact (ihp (hp.part (.altLeft p q))).alt (ihq (hp.part (.altRight p q)))
  | label name p ih => exact (ih (hp.part (.label name p))).label name
  | commit p ih => exact (ih (hp.part (.commit p))).commit
  | look p ih => exact (ih (hp.part (.look p))).look
  | row count part ih =>
      have hparts : List.ofFn (fun i => (part i).rename C.rename) =
          (List.ofFn part).map (Parser.rename C.rename) := List.map_ofFn.symm
      rw [Parser.rename, Parser.eval_row, Parser.eval_row, hparts, List.map_map]
      exact Run.translates_row
        (List.forall_mem_ofFn_iff.2 fun i => ih i (hp.part (.row count part i)))
  | many p ih => exact (ih (hp.part (.many p))).many rounds
  | memo kind parity key p ih =>
      exact (ih (hp.part (.memo kind parity key p))).memo kind parity (hadmits _ hp)
  | ref rule => exact hrule rule hp
  | delay cell rule => exact hcopy cell rule hp

/-- A run of a parser and a run of the parser with the new keys correspond, wherever they begin
alike, if the translation admits everything that the parser uses. -/
theorem Grammar.run_translates
    (hadmits : ∀ ⦃β : Type⦄ (q : Parser S β), G.Uses C.built root q → C.Admits q)
    {p : Parser S α} (hp : G.Uses C.built root p) (fuel : Nat) :
    Run.Translates C (G.run input fuel p) (G'.run other fuel (p.rename C.rename)) := by
  induction fuel generalizing α with
  | zero => exact fun _ _ _ _ => Eval.rel_exhausted
  | succ fuel ih =>
      rw [Grammar.run_succ, Grammar.run_succ]
      refine Parser.translates_eval hadmits (fun rule hp => ?_) (fun cell rule hp => ?_) hp
      · intro i j ctx hplace
        simp only [Grammar.call, C.define_eq]
        cases hdefine : G.define rule with
        | none => exact Eval.rel_fault _
        | some body => exact ih (hp.rule hdefine) ctx hplace
      · intro i j ctx hplace state state' hs
        have hcell := hadmits _ hp
        obtain ⟨hmade, hnext⟩ := C.fill rule cell hs hcell
        simp only [Grammar.call]
        revert hmade hnext
        rcases hfill : G.fill rule cell state with ⟨_ | body, next⟩ <;>
          rcases hfill' : G'.fill rule cell state' with ⟨_ | body', next'⟩
        · rintro ⟨⟩ hnext
          exact .stopped hnext
        · rintro ⟨⟩
        · rintro ⟨⟩
        · rintro ⟨⟩ hnext
          obtain ⟨workshop, hbuilt, hcopy⟩ := C.copies hs hcell hfill
          exact ih (hp.copy hbuilt hcopy) ctx hplace hnext

end Parsers

/-- Requiring the end of the input keeps two runs corresponding, whatever grammars they are of. -/
theorem Run.Translates.whole {H H' : Grammar S} {fuel fuel' : Nat} {p q : Parser S α}
    (h : Run.Translates C (H.run input (fuel + 1) p) (H'.run other (fuel' + 1) q))
    (consumeAll : Bool) :
    Run.Translates C (H.run input (fuel + 1) (if consumeAll then p.complete else p))
      (H'.run other (fuel' + 1) (if consumeAll then q.complete else q)) := by
  cases consumeAll with
  | false => exact h
  | true => exact h.zipWith (fun a _ => a) Run.translates_eof

/-- Two whole parses come to related results if their runs do, and if noting how they ended keeps
the states related. -/
theorem Grammar.parse_rel {R : Outcome α → Outcome α → Prop} {Q : State S T → State S T' → Prop}
    {fuel fuel' : Nat} {consumeAll : Bool} {p q : Parser S α}
    (hrun : Eval.Rel R Q (G.run input fuel (if consumeAll then p.complete else p) 0 ∅)
      (G'.run other fuel' (if consumeAll then q.complete else q) 0 ∅))
    (hnote : ∀ {o o' state state'}, R o o' → Q state state' →
      Q (state.note (o.event input.extent (MemoTable.size state.memo)))
        (state'.note (o'.event other.extent (MemoTable.size state'.memo))))
    {state : State S T} {state' : State S T'} (hclear : Q state.clear state'.clear) :
    (G.parse fuel input consumeAll p state).Rel R Q
      (G'.parse fuel' other consumeAll q state') := by
  have hparse := hrun.bind fun o o' ho =>
    (Eval.rel_change fun _ _ hs => hnote ho hs).bind fun _ _ _ => Eval.rel_pure ho
  exact hparse hclear

end LeftRec
