import Mathlib.Data.List.Forall2
import LeftRec.Memo.Ordered
import LeftRec.Proofs.Fuel
import LeftRec.Proofs.Reading
import LeftRec.Proofs.Table
import LeftRec.Proofs.Usage
import LeftRec.Samples.Indirect

/-!
# Derivations — every success is one of the grammar's own

Read as a context-free grammar, a parser derives words with values: either branch of a choice, any
number of repetitions, and neither a table nor a context.  Successes of runs, and those that runs
leave in the table, are derivations, however they were handed on from one level of a left recursion
to another.
-/

namespace LeftRec

variable {S : Signature} {T : Type → Type} {α β γ : Type}

/-! ## The grammar read declaratively -/

/-- The parser derives a word with a value, where `rest` is what follows the word. -/
inductive Grammar.Derives (G : Grammar S) :
    {α : Type} → Parser S α → List S.Token → List S.Token → α → Prop
  | unit {α : Type} (value : α) (rest : List S.Token) : Derives G (.unit value) [] rest value
  | literal (tokens : List S.Token) (name : String) (rest : List S.Token) :
      Derives G (.literal tokens name) tokens rest tokens
  | token {test : S.Token → Bool} (name : String) {t : S.Token} (rest : List S.Token) :
      test t = true → Derives G (.token test name) [t] rest t
  | eof : Derives G .eof [] [] ()
  | tryMap {α β : Type} {f : α → Except Fault β} {p : Parser S α} {word rest : List S.Token}
      {a : α} {b : β} :
      Derives G p word rest a → f a = .ok b → Derives G (.tryMap f p) word rest b
  | zipWith {α β γ : Type} (f : α → β → γ) {p : Parser S α} {q : Parser S β}
      {word more rest : List S.Token} {a : α} {b : β} :
      Derives G p word (more ++ rest) a → Derives G q more rest b →
        Derives G (.zipWith f p q) (word ++ more) rest (f a b)
  | altLeft {α : Type} {p : Parser S α} (q : Parser S α) {word rest : List S.Token} {a : α} :
      Derives G p word rest a → Derives G (.alt p q) word rest a
  | altRight {α : Type} (p : Parser S α) {q : Parser S α} {word rest : List S.Token} {a : α} :
      Derives G q word rest a → Derives G (.alt p q) word rest a
  | rowNil {α : Type} (part : Fin 0 → Parser S α) (rest : List S.Token) :
      Derives G (.row 0 part) [] rest []
  | rowCons {α : Type} {count : Nat} {part : Fin (count + 1) → Parser S α}
      {word more rest : List S.Token} {a : α} {as : List α} :
      Derives G (part 0) word (more ++ rest) a →
        Derives G (.row count fun i => part i.succ) more rest as →
          Derives G (.row (count + 1) part) (word ++ more) rest (a :: as)
  | manyNil {α : Type} (p : Parser S α) (rest : List S.Token) : Derives G (.many p) [] rest []
  | manyCons {α : Type} {p : Parser S α} {word more rest : List S.Token} {a : α} {as : List α} :
      Derives G p word (more ++ rest) a → Derives G (.many p) more rest as →
        Derives G (.many p) (word ++ more) rest (a :: as)
  | memo {kind : S.Kind} (parity : Parity) (key : Key) {p : Parser S (S.Value kind)}
      {word rest : List S.Token} {a : S.Value kind} :
      Derives G p word rest a → Derives G (.memo kind parity key p) word rest a
  | ref {rule : S.Rule} {body : Parser S (S.Value (S.kind rule))} {word rest : List S.Token}
      {a : S.Value (S.kind rule)} :
      G.define rule = some body → Derives G body word rest a → Derives G (.ref rule) word rest a

/-- The outermost operation of the parser belongs to context-free grammars. -/
def Parser.ContextFree : Parser S α → Prop
  | .unit _ | .literal .. | .token .. | .eof => True
  | .tryMap .. | .zipWith .. | .alt .. | .row .. | .many _ | .memo .. | .ref _ => True
  | _ => False

/-! ## Justified outcomes -/

/-- What a relation of words, what follows them, and values says of the input. -/
abbrev Meaning (S : Signature) (α : Type) : Type :=
  List S.Token → List S.Token → α → Prop

/-- A success at `pos` has a word and a value that belong together. -/
def Outcome.Justified (input : Input S.Token) (D : Meaning S α) (pos : Nat) (o : Outcome α) :
    Prop :=
  ∀ s, o = .success s → ∃ word, input.Reads pos word s.pos ∧ D word (input.rest s.pos) s.value

namespace Outcome.Justified

variable {input : Input S.Token} {D : Meaning S α} {D' : Meaning S β} {pos : Nat}

theorem failure (e : Failure) : (Outcome.failure e : Outcome α).Justified input D pos :=
  fun _ h => nomatch h

theorem success {s : Success α} {word : List S.Token} (hword : input.Reads pos word s.pos)
    (h : D word (input.rest s.pos) s.value) : (Outcome.success s).Justified input D pos := by
  rintro _ ⟨⟩
  exact ⟨word, hword, h⟩

/-- Nothing was read. -/
theorem here {value : α} {used : Used} (h : ∀ rest, D [] rest value) :
    (Outcome.success { value, pos, used }).Justified input D pos :=
  success (.nil pos) (h _)

theorem mono {E : Meaning S α} {o : Outcome α} (h : o.Justified input D pos)
    (hDE : ∀ word rest a, D word rest a → E word rest a) : o.Justified input E pos := by
  intro s hs
  obtain ⟨word, hword, hD⟩ := h s hs
  exact ⟨word, hword, hDE _ _ _ hD⟩

theorem withUsed {o : Outcome α} (h : o.Justified input D pos) (used : Used) :
    (o.withUsed used).Justified input D pos := by
  cases o with
  | failure e => exact failure _
  | success s =>
      obtain ⟨word, hword, hD⟩ := h s rfl
      exact success hword hD

theorem after {o : Outcome α} (h : o.Justified input D pos) (start : Nat) (used : Used) :
    (o.after start used).Justified input D pos :=
  h.withUsed _

/-- A first part's word and a second part's word make one word. -/
theorem second {E : Meaning S γ} {f : β → γ} {word : List S.Token} {stop : Nat}
    {o : Outcome β} (hword : input.Reads pos word stop) (h : o.Justified input D' stop)
    (hE : ∀ more rest b, input.rest stop = more ++ rest → D' more rest b →
      E (word ++ more) rest (f b)) :
    (o.map f).Justified input E pos := by
  cases o with
  | failure e => exact failure _
  | success s =>
      obtain ⟨more, hmore, hD⟩ := h s rfl
      exact success (hword.append hmore) (hE _ _ _ hmore.rest_eq hD)

end Outcome.Justified

/-! ## Sound runs -/

namespace Run

/-- From states with the invariant, successes have the meaning and the invariant is kept. -/
def Sound (input : Input S.Token) (invariant : State S T → Prop) (D : Meaning S α)
    (p : Run S T α) : Prop :=
  ∀ ⦃pos ctx state o after⦄, invariant state → p pos ctx state = .done o after →
    o.Justified input D pos ∧ invariant after

variable {input : Input S.Token} {invariant : State S T → Prop}
variable {D : Meaning S α} {D' : Meaning S β} {E : Meaning S γ}

theorem sound_pure {f : Nat → Outcome α} (h : ∀ pos, (f pos).Justified input D pos) :
    Sound (T := T) input invariant D fun pos _ => pure (f pos) := by
  intro pos ctx state o after hstate hrun
  obtain ⟨rfl, rfl⟩ := Eval.pure_eq_done.1 hrun
  exact ⟨h pos, hstate⟩

/-! ### Terminals -/

theorem sound_literal {tokens : List S.Token} {name : String} {D : Meaning S (List S.Token)}
    (hD : ∀ rest, D tokens rest tokens) :
    Sound (T := T) input invariant D (literal input tokens name) := by
  refine sound_pure fun pos => ?_
  by_cases hstarts : input.startsWith pos tokens = true
  · rw [hstarts]
    exact .success (Input.reads_of_startsWith hstarts) (hD _)
  · rw [Bool.not_eq_true] at hstarts
    rw [hstarts]
    exact .failure _

theorem sound_token {test : S.Token → Bool} {name : String} {D : Meaning S S.Token}
    (hD : ∀ t rest, test t = true → D [t] rest t) :
    Sound (T := T) input invariant D (token input test name) := by
  refine sound_pure fun pos => ?_
  show (found name pos ((input.next? pos).filter fun pair => test pair.1)).Justified input D pos
  cases hnext : (input.next? pos).filter fun pair => test pair.1 with
  | none => exact .failure _
  | some pair =>
      obtain ⟨t, stop⟩ := pair
      obtain ⟨hnext, htest⟩ := Option.filter_eq_some_iff.1 hnext
      exact .success (Input.reads_of_next? hnext) (hD _ _ htest)

theorem sound_eof {D : Meaning S Unit} (hD : D [] [] ()) :
    Sound (T := T) input invariant D (eof input) := by
  refine sound_pure fun pos => ?_
  by_cases hend : input.extent ≤ pos
  · rw [if_pos hend]
    exact .success (.nil pos) (by rw [Input.rest_of_extent_le hend]; exact hD)
  · rw [if_neg hend]
    exact .failure _

/-! ### Sequences -/

variable {p : Run S T α} {q : Run S T β}

theorem Sound.tryMap {f : α → Except Fault β} (hp : p.Sound input invariant D)
    (hD : ∀ word rest a b, D word rest a → f a = .ok b → D' word rest b) :
    (Run.tryMap f p).Sound input invariant D' := by
  intro pos ctx state o after hstate hrun
  rcases tryMap_eq_done.1 hrun with ⟨e, hfirst, rfl⟩ | ⟨s, value, hfirst, hf, rfl⟩
  · exact ⟨.failure e, (hp hstate hfirst).2⟩
  · obtain ⟨hs, hafter⟩ := hp hstate hfirst
    obtain ⟨word, hword, hmeaning⟩ := hs s rfl
    exact ⟨.success hword (hD _ _ _ _ hmeaning hf), hafter⟩

theorem Sound.zipWith {f : α → β → γ} (hp : p.Sound input invariant D)
    (hq : q.Sound input invariant D')
    (hE : ∀ word more rest a b, D word (more ++ rest) a → D' more rest b →
      E (word ++ more) rest (f a b)) :
    (Run.zipWith f p q).Sound input invariant E := by
  intro pos ctx state o after hstate hrun
  rcases zipWith_eq_done.1 hrun with
    ⟨e, hfirst, rfl⟩ | ⟨s, middle, hfirst, second, hsecond, rfl⟩
  · exact ⟨.failure e, (hp hstate hfirst).2⟩
  · obtain ⟨hs, hmiddle⟩ := hp hstate hfirst
    obtain ⟨word, hword, hmeaning⟩ := hs s rfl
    obtain ⟨hsecond, hafter⟩ := hq hmiddle hsecond
    refine ⟨.after (.second hword hsecond fun more rest b hrest hb => ?_) _ _, hafter⟩
    exact hE _ _ _ _ _ (hrest ▸ hmeaning) hb

/-- The meaning of the parts of a row, one after the other. -/
inductive RowMeaning : List (Meaning S α) → List S.Token → List S.Token → List α → Prop
  | nil (rest : List S.Token) : RowMeaning [] [] rest []
  | cons {D : Meaning S α} {others : List (Meaning S α)} {word more rest : List S.Token} {a : α}
      {as : List α} :
      D word (more ++ rest) a → RowMeaning others more rest as →
        RowMeaning (D :: others) (word ++ more) rest (a :: as)

/-- A first item's word and the words of the others make a row. -/
theorem justified_row {Ds : List (Meaning S α)} {pos : Nat} {s : Success α}
    {o : Outcome (List α)} (hs : (Outcome.success s).Justified input D pos)
    (ho : o.Justified input (RowMeaning Ds) s.pos) :
    (o.map (s.value :: ·)).Justified input (RowMeaning (D :: Ds)) pos := by
  obtain ⟨word, hword, hmeaning⟩ := hs s rfl
  exact .second hword ho fun more rest as hrest has => .cons (hrest ▸ hmeaning) has

theorem sound_rowFrom {parts : List (Run S T α)} {Ds : List (Meaning S α)}
    (h : List.Forall₂ (fun D p => p.Sound input invariant D) Ds parts) {start pos : Nat}
    {ctx : Context} {used : Used} {state after : State S T} {o : Outcome (List α)}
    (hstate : invariant state) (hrun : rowFrom start ctx parts pos used state = .done o after) :
    o.Justified input (RowMeaning Ds) pos ∧ invariant after := by
  induction h generalizing pos used state o with
  | nil =>
      obtain ⟨rfl, rfl⟩ := Eval.pure_eq_done.1 hrun
      exact ⟨.here .nil, hstate⟩
  | cons hp _ ih =>
      rcases rowFrom_cons_eq_done.1 hrun with
        ⟨e, hfirst, rfl⟩ | ⟨s, middle, hfirst, others, hrest, rfl⟩
      · exact ⟨.failure _, (hp hstate hfirst).2⟩
      · obtain ⟨hs, hmiddle⟩ := hp hstate hfirst
        obtain ⟨hothers, hafter⟩ := ih hmiddle hrest
        exact ⟨justified_row hs hothers, hafter⟩

theorem sound_row {parts : List (Run S T α)} {Ds : List (Meaning S α)}
    (h : List.Forall₂ (fun D p => p.Sound input invariant D) Ds parts) :
    (row parts).Sound input invariant (RowMeaning Ds) := by
  cases h with
  | nil => exact sound_pure fun pos => .here .nil
  | cons hp hrest =>
      intro pos ctx state o after hstate hrun
      rcases row_cons_eq_done.1 hrun with
        ⟨e, hfirst, rfl⟩ | ⟨s, middle, hfirst, others, hothers, rfl⟩
      · exact ⟨.failure _, (hp hstate hfirst).2⟩
      · obtain ⟨hs, hmiddle⟩ := hp hstate hfirst
        obtain ⟨hothers, hafter⟩ := sound_rowFrom hrest hmiddle hothers
        exact ⟨justified_row hs hothers, hafter⟩

/-! ### Choice and repetition -/

theorem Sound.alt {q : Run S T α} {D' E : Meaning S α} (hp : p.Sound input invariant D)
    (hq : q.Sound input invariant D') (hleft : ∀ word rest a, D word rest a → E word rest a)
    (hright : ∀ word rest a, D' word rest a → E word rest a) :
    (Run.alt p q).Sound input invariant E := by
  intro pos ctx state o after hstate hrun
  rcases alt_eq_done.1 hrun with
    ⟨s, hfirst, rfl⟩ | ⟨e, hfirst, -, rfl⟩ | ⟨e, middle, hfirst, -, hsecond⟩
  · obtain ⟨hs, hafter⟩ := hp hstate hfirst
    exact ⟨hs.mono hleft, hafter⟩
  · exact ⟨.failure e, (hp hstate hfirst).2⟩
  · obtain ⟨-, hmiddle⟩ := hp hstate hfirst
    -- The second branch reads from the same position, so its word is that of the whole.
    rcases hsecond with ⟨s, hsecond, rfl⟩ | ⟨second, hsecond, rfl⟩
    · obtain ⟨hs, hafter⟩ := hq hmiddle hsecond
      exact ⟨(hs.mono hright).withUsed _, hafter⟩
    · exact ⟨.failure _, (hq hmiddle hsecond).2⟩

section Many

variable {M : Meaning S (List α)} (hp : p.Sound input invariant D) (hnil : ∀ rest, M [] rest [])
variable (hcons : ∀ word more rest a as, D word (more ++ rest) a → M more rest as →
  M (word ++ more) rest (a :: as))

include hcons in
/-- One more item in front of a list. -/
theorem justified_cons {pos : Nat} {s : Success α} {o : Outcome (List α)}
    (hs : (Outcome.success s).Justified input D pos) (ho : o.Justified input M s.pos) :
    (o.map (s.value :: ·)).Justified input M pos := by
  obtain ⟨word, hword, hmeaning⟩ := hs s rfl
  exact .second hword ho fun more rest as hrest has => hcons _ _ _ _ _ (hrest ▸ hmeaning) has

include hnil hcons in
/-- A single item that consumed nothing. -/
theorem justified_single {pos : Nat} {s : Success α} {used : Used}
    (hs : (Outcome.success s).Justified input D pos) (hpos : s.pos = pos) :
    (Outcome.success { value := [s.value], pos, used }).Justified input M pos := by
  -- The repetition ends here, so the rest of the list is the empty derivation from where it ends.
  have hrest : (Outcome.success { value := [], pos := s.pos, used } : Outcome (List α)).Justified
      input M s.pos := .here hnil
  have h := justified_cons hcons hs hrest
  rw [← hpos] at h ⊢
  exact h

include hp hnil hcons

theorem sound_manyFrom {rounds pos : Nat} {state after : State S T} {o : Outcome (List α)}
    (hstate : invariant state) (hrun : manyFrom p rounds pos state = .done o after) :
    o.Justified input M pos ∧ invariant after := by
  induction rounds generalizing pos state o with
  | zero => cases hrun
  | succ rounds ih =>
      rcases manyFrom_succ_eq_done.1 hrun with
        ⟨e, hfirst, rfl⟩ | ⟨s, hfirst, hs, rfl⟩ | ⟨s, middle, hfirst, -, others, hrest, rfl⟩
      · refine ⟨?_, (hp hstate hfirst).2⟩
        split
        · exact .failure e
        · exact .here hnil
      · obtain ⟨hmeaning, hafter⟩ := hp hstate hfirst
        exact ⟨justified_single hnil hcons hmeaning hs, hafter⟩
      · obtain ⟨hmeaning, hmiddle⟩ := hp hstate hfirst
        obtain ⟨hothers, hafter⟩ := ih hmiddle hrest
        exact ⟨justified_cons hcons hmeaning hothers, hafter⟩

theorem sound_many (rounds : Nat) : (many rounds p).Sound input invariant M := by
  intro pos ctx state o after hstate hrun
  rcases many_eq_done.1 hrun with
    ⟨e, hfirst, rfl⟩ | ⟨s, hfirst, hs, rfl⟩ | ⟨s, middle, hfirst, -, others, hrest, rfl⟩
  · refine ⟨?_, (hp hstate hfirst).2⟩
    split
    · exact .failure e
    · exact .here hnil
  · obtain ⟨hmeaning, hafter⟩ := hp hstate hfirst
    exact ⟨justified_single hnil hcons hmeaning hs, hafter⟩
  · obtain ⟨hmeaning, hmiddle⟩ := hp hstate hfirst
    obtain ⟨hothers, hafter⟩ := sound_manyFrom hp hnil hcons hmiddle hrest
    exact ⟨(justified_cons hcons hmeaning hothers).withUsed _, hafter⟩

end Many

end Run

/-! ## Grammars -/

namespace Grammar

variable {G : Grammar S} {input : Input S.Token}

theorem derives_row {count : Nat} {part : Fin count → Parser S α} {word rest : List S.Token}
    {as : List α} (h : Run.RowMeaning (List.ofFn fun i => G.Derives (part i)) word rest as) :
    G.Derives (.row count part) word rest as := by
  induction count generalizing word as with
  | zero =>
      rw [List.ofFn_zero] at h
      cases h with
      | nil => exact .rowNil part rest
  | succ count ih =>
      rw [List.ofFn_succ] at h
      -- The first part has a meaning of its own, and the others are a row that is one shorter.
      cases h with
      | cons hfirst hothers => exact .rowCons hfirst (ih hothers)

variable [MemoTable T]

/-- Every stored outcome is justified for a parser of its kind that is memoized under its key. -/
def Recorded (G : Grammar S) (input : Input S.Token) (root : Parser S α) (state : State S T) :
    Prop :=
  ∀ kind key pos o under, state.lookup kind key pos = some (o, under) →
    ∃ parity body, G.Uses anyCopy root (.memo kind parity key body : Parser S (S.Value kind)) ∧
      o.Justified input (G.Derives (.memo kind parity key body)) pos

theorem recorded_of_noEntries {root : Parser S α} {state : State S T} (h : state.NoEntries) :
    G.Recorded input root state := by
  intro kind key pos o under hlookup
  rw [h kind key pos] at hlookup
  cases hlookup

variable [LawfulMemoTable T] {root : Parser S α}

/-- Whichever level of a recursion a rule's outcome comes from, it is the rule's own. -/
theorem sound_memo (hkeys : G.DistinctKeys anyCopy root) {kind : S.Kind} {parity : Parity}
    {key : Key} {body : Parser S (S.Value kind)} {run : Run S T (S.Value kind)}
    (huses : G.Uses anyCopy root (.memo kind parity key body : Parser S (S.Value kind)))
    (hbody : run.Sound input (G.Recorded input root) (G.Derives body)) :
    (Run.memo input kind parity key run).Sound input (G.Recorded input root)
      (G.Derives (.memo kind parity key body)) := by
  -- The table holds outcomes by key, and the key determines the parser.
  have stored : ∀ {state : State S T} {pos o under}, G.Recorded input root state →
      state.lookup kind key pos = some (o, under) →
      o.Justified input (G.Derives (.memo kind parity key body)) pos := by
    intro state pos o under hstate hlookup
    obtain ⟨parity', body', huses', ho⟩ := hstate kind key pos o under hlookup
    have hnode := hkeys ⟨kind, parity', key, body'⟩ ⟨kind, parity, key, body⟩ huses' huses rfl
    obtain ⟨rfl, rfl⟩ : parity' = parity ∧ body' = body := by
      cases hnode
      exact ⟨rfl, rfl⟩
    exact ho
  intro pos ctx state o after hstate hrun
  rcases Run.memo_eq_done.1 hrun with
    ⟨under, hlookup, -, rfl⟩ | ⟨-, -, rfl, rfl⟩ | ⟨-, -, hrefresh⟩
  · exact ⟨stored hstate hlookup, hstate⟩
  · exact ⟨.failure _, hstate⟩
  · obtain ⟨-, fresh, middle, hfresh, hkeep⟩ := Run.refresh_eq_done.1 hrefresh
    obtain ⟨hfresh, hmiddle⟩ := hbody hstate hfresh
    obtain ⟨rfl, rfl⟩ := Prod.mk.inj hkeep
    -- A success that is preferred to the fresh outcome was recorded for this rule before.
    have hkept : (Run.keep input kind parity key pos ctx fresh middle).1.Justified input
        (G.Derives (.memo kind parity key body)) pos := by
      rcases Run.keep_fst_cases input parity key pos ctx fresh middle with
        hkept | ⟨s, under, hlookup, hkept⟩
      · rw [hkept]
        exact hfresh.mono fun _ _ _ h => .memo parity key h
      · rw [hkept]
        exact stored hmiddle hlookup
    refine ⟨hkept, fun kind' key' pos' o' under' hlookup => ?_⟩
    -- Only the slot of this rule at this position has changed.
    rcases Run.lookup_keep_cases hlookup with ⟨rfl, rfl, rfl, rfl, -⟩ | hlookup
    · exact ⟨parity, body, huses, hkept⟩
    · exact hmiddle kind' key' pos' o' under' hlookup

theorem sound_eval (hfree : G.Built Parser.ContextFree root) (hkeys : G.DistinctKeys anyCopy root)
    {rounds : Nat} {call : Caller S T}
    (hcall : ∀ rule body, G.define rule = some body → G.Uses anyCopy root body →
      (call rule none).Sound input (G.Recorded input root) (G.Derives body))
    (hundefined : ∀ rule pos ctx state o after, G.define rule = none →
      call rule none pos ctx state ≠ .done o after)
    {β : Type} {p : Parser S β} (hp : G.Uses anyCopy root p) :
    (p.eval input rounds call).Sound input (G.Recorded input root) (G.Derives p) := by
  induction p with
  | unit value => exact Run.sound_pure fun _ => .here (.unit value)
  | literal tokens name => exact Run.sound_literal (.literal tokens name)
  | token test name => exact Run.sound_token fun t rest => .token name rest
  | eof => exact Run.sound_eof .eof
  | fail | find | all | scan | custom | count | bind | label | commit | look | delay =>
      exact (hfree _ hp).elim
  | tryMap f p ih => exact (ih (hp.part (.tryMap f p))).tryMap fun _ _ _ _ => .tryMap
  | zipWith f p q ihp ihq =>
      exact (ihp (hp.part (.zipWithLeft f p q))).zipWith (ihq (hp.part (.zipWithRight f p q)))
        fun _ _ _ _ _ => .zipWith f
  | alt p q ihp ihq =>
      exact (ihp (hp.part (.altLeft p q))).alt (ihq (hp.part (.altRight p q)))
        (fun _ _ _ => .altLeft q) fun _ _ _ => .altRight p
  | row count part ih =>
      have hparts : List.Forall₂
          (fun D run => Run.Sound (T := T) input (G.Recorded input root) D run)
          (List.ofFn fun i => G.Derives (part i))
          (List.ofFn fun i => (part i).eval input rounds call) := by
        -- The runs of the parts and their meanings are listed in one order.
        refine List.forall₂_iff_get.2 ⟨by simp, fun i hi hi' => ?_⟩
        simpa using ih _ (hp.part (.row count part ⟨i, by simpa using hi⟩))
      intro pos ctx state o after hstate hrun
      obtain ⟨ho, hafter⟩ := Run.sound_row hparts hstate hrun
      exact ⟨ho.mono fun _ _ _ => derives_row, hafter⟩
  | many p ih =>
      exact Run.sound_many (ih (hp.part (.many p))) (.manyNil p) (fun _ _ _ _ _ => .manyCons) rounds
  | memo kind parity key p ih => exact sound_memo hkeys hp (ih (hp.part (.memo kind parity key p)))
  | ref rule =>
      intro pos ctx state o after hstate hrun
      cases hdefine : G.define rule with
      | none => exact (hundefined rule pos ctx state o after hdefine hrun).elim
      | some body =>
          obtain ⟨ho, hafter⟩ := hcall rule body hdefine (hp.rule hdefine) hstate hrun
          exact ⟨ho.mono fun _ _ _ => .ref hdefine, hafter⟩

theorem sound_run (hfree : G.Built Parser.ContextFree root) (hkeys : G.DistinctKeys anyCopy root)
    {β : Type} {p : Parser S β} (hp : G.Uses anyCopy root p) (fuel : Nat) :
    (G.run input fuel p : Run S T β).Sound input (G.Recorded input root) (G.Derives p) := by
  induction fuel generalizing β with
  | zero =>
      intro pos ctx state o after hstate hrun
      cases hrun
  | succ fuel ih =>
      rw [run_succ]
      refine sound_eval hfree hkeys (fun rule body hdefine hbody => ?_) ?_ hp
      · rw [call_rule hdefine]
        exact ih hbody
      · intro rule pos ctx state o after hdefine hrun
        obtain ⟨body, hbody, -⟩ := call_rule_eq_done.1 hrun
        rw [hdefine] at hbody
        cases hbody

/-- The successes of a run from an empty table are derivations of what they consumed: the one that
the run comes to, and every one that it leaves in the table. -/
theorem run_derives (hfree : G.Built Parser.ContextFree root)
    (hkeys : G.DistinctKeys anyCopy root) {fuel pos : Nat} {ctx : Context}
    {state after : State S T} {o : Outcome α} (hstate : state.NoEntries)
    (hrun : G.run input fuel root pos ctx state = .done o after) :
    (∀ s, o = .success s →
      G.Derives root (input.slice pos s.pos) (input.rest s.pos) s.value) ∧
    (∀ kind key start s under, after.lookup kind key start = some (.success s, under) →
      ∃ parity body, G.Uses anyCopy root (.memo kind parity key body : Parser S (S.Value kind)) ∧
        G.Derives (.memo kind parity key body) (input.slice start s.pos) (input.rest s.pos)
          s.value) := by
  obtain ⟨ho, hafter⟩ := sound_run hfree hkeys .itself fuel (recorded_of_noEntries hstate) hrun
  constructor
  · intro s hs
    obtain ⟨word, hword, hderives⟩ := ho s hs
    rw [hword.slice_eq]
    exact hderives
  · intro kind key start s under hlookup
    obtain ⟨parity, body, huses, hstored⟩ := hafter kind key start _ under hlookup
    obtain ⟨word, hword, hderives⟩ := hstored s rfl
    refine ⟨parity, body, huses, ?_⟩
    rw [hword.slice_eq]
    exact hderives

/-- Two rules that are left-recursive through each other, on a text that both take part in. -/
theorem run_derives_indirect :
    let G := Samples.indirectGrammar .even (.id 0) (.id 1)
    let start : Parser Samples.IndirectSignature String :=
      .ref (S := Samples.IndirectSignature) .s
    G.Derives start ['d', 'c'] [] "[dc]" ∧
      ∃ parity body, G.Uses anyCopy start (.memo (S := Samples.IndirectSignature) () parity
          (.id 0) body) ∧
        G.Derives (.memo (S := Samples.IndirectSignature) () parity (.id 0) body) ['d'] ['c']
          "d" := by
  intro G start
  let nodes := (Samples.sRule .even (.id 1)).node?.toList ++
    (Samples.tRule .even (.id 0)).node?.toList
  have hall : G.Built (fun p => p.ContextFree ∧ p.Listed nodes) start := by
    have ok {α : Type} {p : Parser Samples.IndirectSignature α} (hp : p.node? = none) :
        True ∧ p.Listed nodes := ⟨trivial, fun node h => by rw [hp] at h; cases h⟩
    refine Built.of_all (ok rfl) (fun rule body hdefine => ?_) ?_
    · cases rule with
      | s =>
          obtain rfl := Option.some.inj hdefine
          refine ⟨⟨trivial, ?_⟩, ok rfl, ⟨ok rfl, ok rfl, ok rfl, ok rfl, ok rfl⟩, ok rfl, ok rfl⟩
          rintro _ ⟨⟩
          exact List.mem_cons_self
      | t =>
          obtain rfl := Option.some.inj hdefine
          refine ⟨⟨trivial, ?_⟩, ok rfl, ⟨ok rfl, ok rfl, ok rfl, ok rfl, ok rfl⟩, ok rfl, ok rfl⟩
          rintro _ ⟨⟩
          exact List.mem_cons_of_mem _ List.mem_cons_self
    · intro rule workshop body hcopy
      cases hcopy
  have hkeys : G.DistinctKeys anyCopy start :=
    .of_listed (fun _ q hq => (hall q hq).2) (by decide)
  let found (after : State Samples.IndirectSignature OrderedTable) :
      Option (Outcome String × Context) := after.lookup () (.id 0) 0
  let check (o : Outcome String) (after : State Samples.IndirectSignature OrderedTable) : Bool :=
    decide (o = .success ⟨"[dc]", 2, .single (.id 1)⟩) &&
      decide (found after = some (.success ⟨"d", 1, .single (.id 1)⟩, .ofList [(.id 1, 1)]))
  have hcheck : (G.run (Input.ofText "dc") 20 start 0 ∅ .new).finishedWith check = true := by
    decide +kernel
  obtain ⟨o, after, hrun, ho⟩ := Result.exists_of_finishedWith hcheck
  obtain ⟨hvalue, hfound⟩ := Bool.and_eq_true_iff.1 ho
  have hlookup := of_decide_eq_true (p := found after = some _) hfound
  obtain ⟨hroot, htable⟩ := run_derives (fun _ q hq => (hall q hq).1) hkeys State.noEntries_new hrun
  exact ⟨hroot _ (of_decide_eq_true hvalue), htable () (.id 0) 0 _ _ hlookup⟩

end Grammar

end LeftRec
