import LeftRec.Memo.Hashed
import LeftRec.Memo.Ordered
import LeftRec.Proofs.Naming
import LeftRec.Proofs.Sufficiency

/-!
# Parities — the sample grammars parse alike with either parity

The parity of a rule decides which outcome is kept when the body fails although the table holds a
success that may be reused.  In the grammars of differences, of arithmetic and of two rules that are
left-recursive through each other this never happens, on any input: the rules form rings, in which
each calls another one of the ring before anything else.
-/

namespace LeftRec

variable {S : Signature} {T T' : Type → Type} {α : Type}

namespace Grammar

variable {G : Grammar S} {input : Input S.Token} {keys : List Key} {p : Parser S α}

/-! ## Rings of rules -/

/-- The rules under these keys call one another first, and a rule that is not alone among them calls
only the other one. -/
def Ring (G : Grammar S) (ring : List Key) : Prop :=
  ∀ rule parity key body, G.define rule = some (.memo (S.kind rule) parity key body) → key ∈ ring →
    G.Led ring body ∧ ∀ other ∈ ring, other ≠ key → body.All (G.Toward other)

/-- A rule that calls itself first is a ring of its own. -/
theorem ring_singleton {key : Key}
    (h : ∀ rule parity body, G.define rule = some (.memo (S.kind rule) parity key body) →
      G.Led [key] body) : G.Ring [key] := by
  intro rule parity own body hdefine hown
  obtain rfl := List.mem_singleton.1 hown
  refine ⟨h rule parity body hdefine, fun other hother hne => ?_⟩
  exact (hne (List.mem_singleton.1 hother)).elim

variable [MemoTable T]

theorem Contested.node {v : Visit S T} (h : G.Contested input v) :
    ∃ node, v.parser.node? = some node := by
  cases h with
  | memo => exact ⟨_, rfl⟩

variable [LawfulMemoTable T]

namespace Flat

/-- Where all rules are in rings, no parity counts. -/
theorem not_contested (h : G.Flat keys) (hrings : ∀ key ∈ keys, ∃ ring, key ∈ ring ∧ G.Ring ring)
    {root v : Visit S T} (hroot : root.parser.All Parser.Bare)
    (hbegins : G.Begins input keys root) (hentries : root.state.NoEntries)
    (hvisits : G.Visits input root v) : ¬ G.Contested input v := by
  intro hcontested
  obtain ⟨node, hnode⟩ := hcontested.node
  -- Whatever is memoized is one of the rules.
  have hrule {β : Type} {q : Parser S β} {node : MemoNode S} (hq : G.Uses anyCopy root.parser q)
      (hnode : q.node? = some node) :
      ∃ rule parity key body, G.define rule = some (.memo (S.kind rule) parity key body) ∧
        node = ⟨S.kind rule, parity, key, body⟩ := by
    rcases h.uses hroot hq with hbare | ⟨rule, parity, key, body, hdefine, -, hsome⟩
    · cases hbare.holds.2.symm.trans hnode
    · exact ⟨rule, parity, key, body, hdefine, Option.some.inj (hnode.symm.trans hsome)⟩
  obtain ⟨rule, parity, key, body, hdefine, rfl⟩ := hrule hvisits.uses hnode
  obtain ⟨ring, hmem, hring⟩ : ∃ ring, key ∈ ring ∧ G.Ring ring := by
    obtain ⟨parity', key', hkey', body', hdefine', -⟩ := h rule
    obtain ⟨-, rfl, -⟩ := Parser.memo.inj (Option.some.inj (hdefine.symm.trans hdefine'))
    exact hrings key hkey'
  have hrecurrent : G.Built (G.Recurrent ring) root.parser := by
    intro β q hq node hnode hkey
    obtain ⟨rule, parity, key, body, hdefine, rfl⟩ := hrule hq hnode
    exact (hring rule parity key body hdefine hkey).1
  have hv : G.OnCourse (.ahead input) v := (hbegins.visits hvisits).ahead
  refine G.not_contested hbegins.orderly.offered.composed hrecurrent hentries.named hvisits hnode
    hmem ?_ hcontested
  intro w u own henters hinside hown hsame hpos other hother
  -- Its own key is tracked more deeply at once, the others before the body is entered again.
  by_cases hne : other = key
  · subst hne
    exact depth_lt_of_enters hv hnode henters hinside hpos
  · have htoward := (hring rule parity key body hdefine hmem).2 other hother hne
    exact depth_lt_of_body hv hnode htoward henters hinside hown (fun heq => hne (heq ▸ hsame)) hpos

/-- A parse by rules in rings comes to the same with other parities of the rules. -/
theorem parse_mapParity (h : G.Flat keys)
    (hrings : ∀ key ∈ keys, ∃ ring, key ∈ ring ∧ G.Ring ring) (hp : p.All Parser.Bare)
    (hkeys : keys.length ≤ 2 ^ 32) (hlength : input.tokens.length < 2 ^ 32 - 2)
    (f : Parity → Parity) (consumeAll : Bool) (state : State S T) :
    (G.mapParity f).parse ampleFuel input consumeAll (p.mapParity f) state =
      G.parse ampleFuel input consumeAll p state := by
  let whole : Parser S α := if consumeAll then p.complete else p
  have hwhole : (if consumeAll then (p.mapParity f).complete else p.mapParity f) =
      whole.mapParity f := by
    cases consumeAll with
    | false => rfl
    | true => rfl
  have hbare : whole.All Parser.Bare := Parser.bare_whole hp consumeAll
  have hentries : state.clear.NoEntries := State.noEntries_clear state
  have hbegins : G.Begins input keys ⟨whole, ampleFuel, 0, ∅, state.clear⟩ :=
    .of_start (h.orderly hbare) ampleFuel ∅ hentries
  have hrun : (G.mapParity f).run input ampleFuel (whole.mapParity f) 0 ∅ state.clear =
      G.run input ampleFuel whole 0 ∅ state.clear := by
    have hsame := run_of_supplied (f := f) (.inl (weight_lt_ampleFuel hkeys hlength)) hbegins
      (.inr fun v hvisits => h.not_contested hrings hbare hbegins hentries hvisits) 0
    rwa [Nat.zero_add] at hsame
  refine Eval.bind_congr rfl fun _ start hclear => ?_
  obtain ⟨-, rfl⟩ := Result.done.inj hclear
  rw [hwhole]
  exact Eval.bind_congr hrun fun _ _ _ => rfl

end Flat

end Grammar

/-! ## The sample grammars -/

namespace Samples

/-- What builds the grammar of a sample with recursive rules: its rules are those of a flat grammar,
whatever the parity and the first of their ids, and they are in rings. -/
structure Recursive {ρ α : Type} (make : Parity → Build (Language (TextSignature ρ α) α)) where
  start : ρ
  grammar : Parity → Nat → Grammar (TextSignature ρ α)
  keys : Nat → List Key
  make_eq : ∀ parity w, ∃ w', make parity w = (.ok ⟨grammar parity w.supply.key, .ref start⟩, w')
  few : ∀ base, (keys base).length ≤ 2 ^ 32
  flat : ∀ parity base, (grammar parity base).Flat (keys base)
  rings : ∀ parity base, ∀ key ∈ keys base, ∃ ring, key ∈ ring ∧ (grammar parity base).Ring ring
  mapParity_eq : ∀ parity parity' base,
    (grammar parity base).mapParity (fun _ => parity') = grammar parity' base
  define_eq : ∀ parity base base' (r : Key → Key), (∀ n, r (.id (base + n)) = .id (base' + n)) →
    ∀ rule, (grammar parity base').define rule =
      ((grammar parity base).define rule).map (Parser.rename r)

/-! ### Differences -/

theorem ring_subtraction (parity : Parity) (key : Key) :
    (subtractionGrammar parity key).Ring [key] := by
  refine Grammar.ring_singleton fun rule own body hdefine => ?_
  cases hdefine
  exact ⟨parity, key, List.mem_singleton_self key, _, rfl⟩

def recursiveSubtraction : Recursive subtraction where
  start := ()
  grammar parity base := subtractionGrammar parity (.id base)
  keys base := [.id base]
  make_eq _ _ := ⟨_, rfl⟩
  few _ := show 1 ≤ 2 ^ 32 by decide
  flat parity base := flat_subtraction parity (.id base)
  rings parity base key hkey := by
    obtain rfl := List.mem_singleton.1 hkey
    exact ⟨_, hkey, ring_subtraction parity _⟩
  mapParity_eq _ _ _ := rfl
  define_eq parity base base' r hr rule := by
    have hkey : r (.id base) = .id base' := hr 0
    rw [← hkey]
    rfl

/-! ### Arithmetic -/

/-- Each of the two rules calls itself first. -/
theorem ring_arithmetic (parity : Parity) (termKey exprKey key : Key) :
    (arithmeticGrammar parity termKey exprKey).Ring [key] := by
  refine Grammar.ring_singleton fun rule own body hdefine => ?_
  cases rule with
  | expr =>
      cases hdefine
      exact ⟨parity, exprKey, List.mem_singleton_self _, _, rfl⟩
  | term =>
      cases hdefine
      exact ⟨parity, termKey, List.mem_singleton_self _, _, rfl⟩

def recursiveArithmetic : Recursive arithmetic where
  start := .expr
  grammar parity base := arithmeticGrammar parity (.id base) (.id (base + 1))
  keys base := [.id base, .id (base + 1)]
  make_eq _ _ := ⟨_, rfl⟩
  few _ := show 2 ≤ 2 ^ 32 by decide
  flat parity base := flat_arithmetic parity (.id base) (.id (base + 1))
  rings parity base key _ := ⟨[key], List.mem_singleton_self key, ring_arithmetic parity _ _ key⟩
  mapParity_eq parity parity' base := by
    refine congrArg₂ Grammar.mk (funext fun rule => ?_) rfl
    cases rule with
    | expr => rfl
    | term => rfl
  define_eq parity base base' r hr rule := by
    have hterm : r (.id base) = .id base' := hr 0
    rw [← hterm, ← hr 1]
    cases rule with
    | expr => rfl
    | term => rfl

/-! ### Indirect recursion -/

/-- Each of the two rules calls the other one first, and no rule besides. -/
theorem ring_indirect (parity : Parity) (tKey sKey : Key) :
    (indirectGrammar parity tKey sKey).Ring [tKey, sKey] := by
  intro rule own key body hdefine hkey
  cases rule with
  | s =>
      cases hdefine
      -- Its only call is that of the other rule.
      refine ⟨⟨parity, tKey, List.mem_cons_self, _, rfl⟩, fun other hmem hne => ?_⟩
      obtain rfl : other = tKey := by simpa [hne] using hmem
      have hcall : (indirectGrammar parity other sKey).MemoizedUnder [other] IndirectRule.t :=
        ⟨parity, other, List.mem_singleton_self other, _, rfl⟩
      exact ⟨trivial, ⟨trivial, trivial, hcall, trivial, trivial⟩, trivial, trivial⟩
  | t =>
      cases hdefine
      refine ⟨⟨parity, sKey, List.mem_cons_of_mem _ List.mem_cons_self, _, rfl⟩,
        fun other hmem hne => ?_⟩
      obtain rfl : other = sKey := by simpa [hne] using hmem
      have hcall : (indirectGrammar parity tKey other).MemoizedUnder [other] IndirectRule.s :=
        ⟨parity, other, List.mem_singleton_self other, _, rfl⟩
      exact ⟨trivial, ⟨trivial, trivial, hcall, trivial, trivial⟩, trivial, trivial⟩

def recursiveIndirect : Recursive indirect where
  start := .s
  grammar parity base := indirectGrammar parity (.id base) (.id (base + 1))
  keys base := [.id base, .id (base + 1)]
  make_eq _ _ := ⟨_, rfl⟩
  few _ := show 2 ≤ 2 ^ 32 by decide
  flat parity base := flat_indirect parity (.id base) (.id (base + 1))
  rings parity base key hkey := ⟨_, hkey, ring_indirect parity _ _⟩
  mapParity_eq parity parity' base := by
    refine congrArg₂ Grammar.mk (funext fun rule => ?_) rfl
    cases rule with
    | s => rfl
    | t => rfl
  define_eq parity base base' r hr rule := by
    have ht : r (.id base) = .id base' := hr 0
    rw [← ht, ← hr 1]
    cases rule with
    | s => rfl
    | t => rfl

/-! ## Parses -/

variable [MemoTable T] [LawfulMemoTable T] [MemoTable T'] [LawfulMemoTable T']

variable (T T') in
/-- Two builds with any parities parse the text alike, once the ids that one of them hands out are
read as those that the other one does: to the same value, end and used set, to the same failure with
its position and used set, or to the same fault, and with the same table. -/
def ParityHidden {ρ α : Type} (make : Parity → Build (Language (TextSignature ρ α) α))
    (text : String) : Prop :=
  ∀ (parity parity' : Parity) (consumeAll : Bool) (state : State (TextSignature ρ α) T)
    (state' : State (TextSignature ρ α) T') (read : Key → Key), Function.Injective read →
    (∀ n, read (.id (state.workshop.supply.key + n)) = .id (state'.workshop.supply.key + n)) →
      let first := Eval.building (make parity)
        (fun L => L.parse (Input.ofText text) consumeAll) state
      let second := Eval.building (make parity')
        (fun L => L.parse (Input.ofText text) consumeAll) state'
      first ≠ .exhausted ∧
        first.Rel (fun o o' => o' = o.rename read)
          (fun next next' => MemoTable.Renamed read next.memo next'.memo) second

omit [MemoTable T] [LawfulMemoTable T] in
theorem Recursive.building_eq {ρ α β : Type}
    {make : Parity → Build (Language (TextSignature ρ α) α)} (h : Recursive make)
    (parity : Parity) (next : Language (TextSignature ρ α) α → Eval (State (TextSignature ρ α) T) β)
    (state : State (TextSignature ρ α) T) :
    ∃ workshop, Eval.building (make parity) next state =
      next ⟨h.grammar parity state.workshop.supply.key, .ref h.start⟩ { state with workshop } := by
  obtain ⟨workshop, hmake⟩ := h.make_eq parity state.workshop
  refine ⟨workshop, ?_⟩
  rw [Eval.building, hmake]

theorem Recursive.parityHidden {ρ α : Type}
    {make : Parity → Build (Language (TextSignature ρ α) α)} (h : Recursive make) {text : String}
    (hlength : text.length < 2 ^ 32 - 2) : ParityHidden T T' make text := by
  intro parity parity' consumeAll state state' read hread hids first second
  rw [← Input.length_tokens_ofText] at hlength
  let start : Parser (TextSignature ρ α) α := .ref (S := TextSignature ρ α) h.start
  have hstart : start.All Parser.Bare := Parser.bare_ref (S := TextSignature ρ α) h.start
  obtain ⟨workshop, hfirst⟩ := h.building_eq parity
    (fun L => L.parse (Input.ofText text) consumeAll) state
  obtain ⟨workshop', hsecond⟩ := h.building_eq parity'
    (fun L => L.parse (Input.ofText text) consumeAll) state'
  -- From here on only the first ids of the two builds matter.
  rw [show first = _ from hfirst, show second = _ from hsecond]
  generalize state.workshop.supply.key = base at hids
  generalize state'.workshop.supply.key = base' at hids
  refine ⟨(h.flat parity base).parse_ne_exhausted hstart (h.few base) hlength consumeAll _, ?_⟩
  -- The second grammar has other keys than the first one, and then other parities.
  have hsame := (h.flat parity base').parse_mapParity (h.rings parity base') hstart (h.few base')
    hlength (fun _ => parity') consumeAll { state' with workshop := workshop' }
  rw [h.mapParity_eq] at hsame
  change Result.Rel _ _ _ ((h.grammar parity' base').parse Grammar.ampleFuel (Input.ofText text)
    consumeAll start { state' with workshop := workshop' })
  rw [show start = start.mapParity fun _ => parity' from rfl, hsame]
  have horderly := (h.flat parity base).orderly (Parser.bare_whole hstart consumeAll)
  exact Grammar.parse_redefined hread (h.define_eq parity base base' read hids)
    (fun β q hq => have huses := hq.mono fun _ _ _ => trivial
      ⟨horderly.offered q huses, horderly.early q huses⟩) _ _ _ _

/-- The parity of its rules makes no difference to the grammar of differences, to arithmetic and to
two rules that are left-recursive through each other, on any text and whether all of it must be
consumed or not. -/
theorem parities_unobservable (text : String) (hlength : text.length < 2 ^ 32 - 2) :
    ParityHidden T T' subtraction text ∧ ParityHidden T T' arithmetic text ∧
      ParityHidden T T' indirect text :=
  ⟨recursiveSubtraction.parityHidden hlength, recursiveArithmetic.parityHidden hlength,
    recursiveIndirect.parityHidden hlength⟩

/-- A text that begins with a difference and is none itself, by grammars with the even parity and by
grammars with the odd one that are built when five ids have been handed out.  The difference is
found with either parity, and indirect recursion fails with either parity. -/
theorem parities_unobservable_prefix :
    let read : Key → Key := Key.shift 0 5
    let later : Workshop := ⟨⟨5, 0⟩, []⟩
    "7-2-".length < 2 ^ 32 - 2 ∧ Function.Injective read ∧
      (∃ next next',
        Eval.building (subtraction .even) (fun L => L.parse (Input.ofText "7-2-") false)
            (State.new : State IntRule OrderedTable) =
          .done (.success ⟨5, 3, .single (.id 0)⟩) next ∧
        Eval.building (subtraction .odd) (fun L => L.parse (Input.ofText "7-2-") false)
            ({ State.new with workshop := later } : State IntRule HashedTable) =
          .done (.success ⟨5, 3, .single (.id 5)⟩) next' ∧
        MemoTable.Renamed read next.memo next'.memo) ∧
      ∃ e next next',
        Eval.building (indirect .even) (fun L => L.parse (Input.ofText "7-2-") true)
            (State.new : State IndirectSignature OrderedTable) = .done (.failure e) next ∧
        e.pos = 0 ∧ e.used = .single (.id 1) ∧
        Eval.building (indirect .odd) (fun L => L.parse (Input.ofText "7-2-") true)
            ({ State.new with workshop := later } : State IndirectSignature HashedTable) =
          .done (.failure (e.rename read)) next' ∧
        MemoTable.Renamed read next.memo next'.memo := by
  intro read later
  have hshort : "7-2-".length < 2 ^ 32 - 2 := by decide
  have hread : Function.Injective read := Key.shift_injective 0 5
  have hids (n : Nat) : read (.id (0 + n)) = .id (5 + n) :=
    congrArg Key.id (by rw [if_neg (Nat.not_lt_zero _)]; omega)
  obtain ⟨hsubtraction, -, hindirect⟩ :=
    @parities_unobservable OrderedTable HashedTable _ _ _ _ "7-2-" hshort
  refine ⟨hshort, hread, ?_, ?_⟩
  · have hfirst : ∃ next, Eval.building (subtraction .even)
        (fun L => L.parse (Input.ofText "7-2-") false) (State.new : State IntRule OrderedTable) =
          .done (.success ⟨5, 3, .single (.id 0)⟩) next :=
      Result.exists_of_finished (by decide +kernel)
    obtain ⟨next, hfirst⟩ := hfirst
    obtain ⟨-, hrel⟩ := hsubtraction .even .odd false State.new
      { State.new with workshop := later } read hread hids
    simp only [hfirst] at hrel
    obtain ⟨o', next', hsecond, rfl, hmemo⟩ := hrel.of_done
    exact ⟨next, next', hfirst, hsecond, hmemo⟩
  · have hcheck : (Eval.building (indirect .even) (fun L => L.parse (Input.ofText "7-2-") true)
        (State.new : State IndirectSignature OrderedTable)).finishedWith (fun o _ => match o with
          | .failure e => decide (e.pos = 0 ∧ e.used = .single (.id 1))
          | .success _ => false) = true := by
      decide +kernel
    obtain ⟨o, next, hfirst, ho⟩ := Result.exists_of_finishedWith hcheck
    cases o with
    | success s => cases ho
    | failure e =>
        obtain ⟨hpos, hused⟩ := of_decide_eq_true ho
        obtain ⟨-, hrel⟩ := hindirect .even .odd true State.new
          { State.new with workshop := later } read hread hids
        simp only [hfirst] at hrel
        obtain ⟨o', next', hsecond, rfl, hmemo⟩ := hrel.of_done
        exact ⟨e, next, next', hfirst, hpos, hused, hsecond, hmemo⟩

end Samples

end LeftRec
